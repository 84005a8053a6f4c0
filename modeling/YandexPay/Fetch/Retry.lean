import YandexPay.Library.JsNumber
import YandexPay.Library.Transition
import Mathlib.Algebra.Order.Floor.Semiring
import Mathlib.Tactic.Linarith

/-!
# Retries

The retry decorator of `fetch/src/decorators/retry.ts`. A call makes an attempt, waits after a
failure that it may repeat, and makes the next one, until it settles. An attempt ends with the
answer of `fn`, with the timer of `maxTimeout`, or with the abort of the caller, in any order: the
call is a transition system. An attempt that the timer or the caller has ended leaves its request
open, and the answer to that is ignored.

`methods_respected` and `bound_and_abort` say in which runs a request whose method is not listed is
sent once, and in which no request follows the abort; how many requests a call makes is bounded in
every run.
-/

set_option autoImplicit false
set_option relaxedAutoImplicit false

namespace YandexPay.Fetch

open Transition

/-! ### Errors -/

/-- A response, with its headers by their names in lower case. -/
structure Response where
  status : ℤ
  statusText : String
  headers : List (String × String)
  deriving DecidableEq

inductive FetchError
  | domException (name message : String)
  /-- `FetchHttpError` -/
  | http (response : Response)
  /-- `FetchTimeoutError` -/
  | timeout
  /-- Any other `Error`. -/
  | error (message : String)
  deriving DecidableEq

namespace FetchError

def message : FetchError → String
  | .domException _ message => message
  | .http response =>
    if response.statusText ≠ "" then response.statusText else toString response.status
  | .timeout => "FetchTimeoutError"
  | .error message => message

/-- The rejection of an attempt that the caller aborts. -/
def abort : FetchError := .domException "AbortError" "Abort"

/-- The errors that are thrown on at once. -/
def isAbort (err : FetchError) : Bool :=
  (match err with
    | .domException name _ => name = "AbortError"
    | _ => false) ||
  err.message = "Abort: AbortError"

end FetchError

/-! ### Delays -/

inductive Statuses
  | list (statuses : List ℤ)
  | predicate (accepts : ℤ → Bool)

def Statuses.includes : Statuses → ℤ → Bool
  | .list statuses, status => statuses.contains status
  | .predicate accepts, status => accepts status

structure FetchRetryOptions where
  limit : Option JsNumber
  methods : Option (List String)
  statuses : Option Statuses
  maxTimeout : Option JsNumber
  delay : Option (ℕ → JsNumber)

/-- A call of the decorated function: its retry options, the method of its request, whether the
caller has passed a signal, and `Date.parse`. -/
structure RetryCall where
  retry : FetchRetryOptions
  method : Option String
  hasSignal : Bool
  dateParse : String → JsNumber

def MAX_RETRIES : ℕ := 5

def exponentialDelay (size : ℕ) : JsNumber := .finite (2 ^ (size - 1) * 1000 * (1 / 2))

namespace RetryCall

variable (call : RetryCall)

/-- The delay of a `Retry-After` header at a moment. -/
def getDelayFromHeader (retryAfterHeader : String) (now : ℤ) : JsNumber :=
  let delay := JsNumber.ofText retryAfterHeader
  if delay = .nan then (call.dateParse retryAfterHeader - .finite now).orElse (.finite (-1))
  else delay * .finite 1000

def limit : JsNumber := call.retry.limit.getD (.finite 0)

/-- `retry > limit || retry > MAX_RETRIES` -/
def exhausted (retry : ℕ) : Bool :=
  call.limit.less (.finite retry) || MAX_RETRIES < retry

/-- `methods` is given and does not include the method. -/
def methodExcluded : Bool :=
  match call.retry.methods with
  | some methods => !call.method.any methods.contains
  | none => false

def statusExcluded (status : ℤ) : Bool :=
  match call.retry.statuses with
  | some statuses => !statuses.includes status
  | none => false

/-- The delay of the options, or the exponential one. -/
def optionsDelay (retry : ℕ) : JsNumber :=
  match call.retry.delay with
  | some delayFn => delayFn retry
  | none => exponentialDelay retry

def getDelay (err : FetchError) (retry : ℕ) (now : ℤ) : JsNumber :=
  if call.exhausted retry then .finite (-1)
  else
    match err with
    | .http response =>
      if call.statusExcluded response.status then .finite (-1)
      else if call.methodExcluded then .finite (-1)
      else
        match response.headers.lookup "retry-after" with
        | some retryAfterHeader =>
          if retryAfterHeader ≠ "" then call.getDelayFromHeader retryAfterHeader now
          else call.optionsDelay retry
        | none => call.optionsDelay retry
    | _ => call.optionsDelay retry

/-- `maxTimeout` is given, and no zero. -/
def timesOut : Bool :=
  match call.retry.maxTimeout with
  | some maxTimeout => maxTimeout ≠ .nan ∧ maxTimeout ≠ .finite 0
  | none => false

end RetryCall

/-! ### The system -/

inductive Phase
  /-- The attempt of this number has been made. -/
  | fetching (retry : ℕ)
  /-- The attempt of this number has failed, and the next one waits. -/
  | waiting (retry : ℕ)
  | settled (result : Except FetchError Response)

/-- A call under way: its phase, the count of its calls of `fn`, whether the caller has aborted, and
the count of interrupted requests that are still open. -/
structure Retrying where
  phase : Phase
  requests : ℕ
  aborted : Bool
  interrupted : ℕ

inductive RetryEvent
  | responded (response : Response)
  | failed (err : FetchError) (now : ℤ)
  | timedOut (now : ℤ)
  | waited
  | abort
  /-- An interrupted request is answered. -/
  | ignored

namespace Retrying

/-- The first attempt. -/
def start : Retrying := ⟨.fetching 1, 1, false, 0⟩

variable (call : RetryCall) (p : Retrying)

/-- The `catch` of `retryFn`. -/
def caught (retry : ℕ) (err : FetchError) (now : ℤ) : Retrying :=
  if err.isAbort then { p with phase := .settled (.error err) }
  else if (call.getDelay err retry now).less (.finite 0) then
    { p with phase := .settled (.error err) }
  else { p with phase := .waiting retry }

/-- The request of the attempt is left open. -/
def interrupt : Retrying := { p with interrupted := p.interrupted + 1 }

/-- `abortFetch` of the attempt that is under way; with no `maxTimeout` the signal is passed to
`fn`, which answers as it likes. -/
def abort : Retrying :=
  let aborted := { p with aborted := true }
  match p.phase with
  | .fetching _ =>
    if call.timesOut then
      { aborted.interrupt with phase := .settled (.error FetchError.abort) }
    else aborted
  | _ => aborted

def step (p : Retrying) : RetryEvent → Option Retrying
  | .responded response =>
    match p.phase with
    | .fetching _ => some { p with phase := .settled (.ok response) }
    | _ => none
  | .failed err now =>
    match p.phase with
    | .fetching retry => some (p.caught call retry err now)
    | _ => none
  | .timedOut now =>
    match p.phase with
    | .fetching retry =>
      if call.timesOut then some (p.interrupt.caught call retry .timeout now) else none
    | _ => none
  | .waited =>
    match p.phase with
    | .waiting retry =>
      some { p with phase := .fetching (retry + 1), requests := p.requests + 1 }
    | _ => none
  | .abort => if call.hasSignal ∧ ¬ p.aborted then some (p.abort call) else none
  | .ignored => if 0 < p.interrupted then some { p with interrupted := p.interrupted - 1 } else none

end Retrying

/-- A call under any answers, timers and aborts. -/
def retryDecorator (call : RetryCall) : System Retrying RetryEvent where
  start := fun p ↦ p = .start
  step := Retrying.step call

/-! ### What follows an error -/

/-- The text of a `Retry-After` header. -/
def Response.retryAfter (response : Response) : Option String :=
  (response.headers.lookup "retry-after").filter fun retryAfterHeader ↦ retryAfterHeader ≠ ""

namespace RetryCall

variable {call : RetryCall} {retry : ℕ} {err : FetchError} {now : ℤ}

/-- The delay of the options says that there is no next attempt. -/
def NoDelay (call : RetryCall) (retry : ℕ) : Prop :=
  (call.optionsDelay retry).less (.finite 0) = true

/-- A response that is not asked for again. -/
def Final (call : RetryCall) (retry : ℕ) (now : ℤ) (response : Response) : Prop :=
  call.statusExcluded response.status = true ∨ call.methodExcluded = true ∨
    match response.retryAfter with
    | some retryAfterHeader =>
      (call.getDelayFromHeader retryAfterHeader now).less (.finite 0) = true
    | none => call.NoDelay retry

/-- No attempt follows the error. -/
def GivesUp (call : RetryCall) (retry : ℕ) (now : ℤ) (err : FetchError) : Prop :=
  err.isAbort = true ∨ call.exhausted retry = true ∨
    (∃ response, err = .http response ∧ call.Final retry now response) ∨
    (∀ response, err ≠ .http response) ∧ call.NoDelay retry

theorem less_neg_one : (JsNumber.finite (-1)).less (.finite 0) = true := by decide

theorem getDelay_of_exhausted (h : call.exhausted retry = true) :
    (call.getDelay err retry now).less (.finite 0) = true := by
  unfold getDelay
  rw [if_pos h]
  exact less_neg_one

theorem getDelay_of_not_exhausted (h : call.exhausted retry ≠ true)
    (hhttp : ∀ response, err ≠ .http response) :
    call.getDelay err retry now = call.optionsDelay retry := by
  unfold getDelay
  rw [if_neg h]
  split
  · exact absurd rfl (hhttp _)
  · rfl

theorem getDelay_http (h : call.exhausted retry ≠ true) (response : Response) :
    (call.getDelay (.http response) retry now).less (.finite 0) = true ↔
      call.Final retry now response := by
  unfold getDelay Final Response.retryAfter
  rw [if_neg h]
  dsimp only
  by_cases hstatus : call.statusExcluded response.status = true
  · rw [if_pos hstatus]
    exact iff_of_true less_neg_one (.inl hstatus)
  by_cases hmethod : call.methodExcluded = true
  · rw [if_neg hstatus, if_pos hmethod]
    exact iff_of_true less_neg_one (.inr (.inl hmethod))
  rw [if_neg hstatus, if_neg hmethod, or_iff_right hstatus, or_iff_right hmethod]
  cases response.headers.lookup "retry-after" with
  | none => exact Iff.rfl
  | some retryAfterHeader =>
    rw [Option.filter_some]
    by_cases hempty : retryAfterHeader ≠ ""
    · rw [if_pos (decide_eq_true hempty)]
      dsimp only
      rw [if_pos hempty]
    · rw [if_neg (mt of_decide_eq_true hempty)]
      dsimp only
      rw [if_neg hempty]
      exact Iff.rfl

end RetryCall

namespace Retrying

variable {call : RetryCall} {p q : Retrying} {retry : ℕ} {err : FetchError} {now : ℤ}

theorem caught_of_givesUp (h : call.GivesUp retry now err) :
    p.caught call retry err now = { p with phase := .settled (.error err) } := by
  rw [caught]
  by_cases habort : err.isAbort = true
  · rw [if_pos habort]
  rw [if_neg habort, if_pos]
  by_cases hexhausted : call.exhausted retry = true
  · exact RetryCall.getDelay_of_exhausted hexhausted
  rcases h with h | h | ⟨response, rfl, hfinal⟩ | ⟨hhttp, hdelay⟩
  · exact absurd h habort
  · exact absurd h hexhausted
  · exact (RetryCall.getDelay_http hexhausted response).mpr hfinal
  · rw [RetryCall.getDelay_of_not_exhausted hexhausted hhttp]
    exact hdelay

theorem caught_of_not_givesUp (h : ¬ call.GivesUp retry now err) :
    p.caught call retry err now = { p with phase := .waiting retry } := by
  obtain ⟨habort, hexhausted, hfinal, hdelay⟩ :
      err.isAbort ≠ true ∧ call.exhausted retry ≠ true ∧
        (∀ response, err = .http response → ¬ call.Final retry now response) ∧
        ((∀ response, err ≠ .http response) → ¬ call.NoDelay retry) := by
    simpa only [RetryCall.GivesUp, not_or, not_exists, not_and] using h
  rw [caught, if_neg habort, if_neg]
  by_cases hhttp : ∃ response, err = .http response
  · obtain ⟨response, rfl⟩ := hhttp
    exact mt (RetryCall.getDelay_http hexhausted response).mp (hfinal response rfl)
  · rw [RetryCall.getDelay_of_not_exhausted hexhausted (not_exists.mp hhttp)]
    exact hdelay (not_exists.mp hhttp)

/-- An abort ends an attempt with a timeout, and is only noted else. -/
theorem abort_cases (call : RetryCall) (p : Retrying) :
    (call.timesOut = true ∧ p.abort call =
      { p with
        aborted := true
        interrupted := p.interrupted + 1
        phase := .settled (.error FetchError.abort) }) ∨
    (∀ retry, p.phase = .fetching retry → call.timesOut ≠ true) ∧
      p.abort call = { p with aborted := true } := by
  rw [abort]
  cases hphase : p.phase with
  | fetching retry =>
    by_cases htimesOut : call.timesOut = true
    · exact .inl ⟨htimesOut, if_pos htimesOut⟩
    · refine .inr ⟨fun _ _ ↦ htimesOut, ?_⟩
      exact if_neg htimesOut
  | waiting retry => exact .inr ⟨fun _ h ↦ (by cases h), rfl⟩
  | settled result => exact .inr ⟨fun _ h ↦ (by cases h), rfl⟩

end Retrying

/-! ### What a step does -/

inductive Steps (call : RetryCall) (p : Retrying) : RetryEvent → Retrying → Prop
  | responded {retry : ℕ} (response : Response) (phase : p.phase = .fetching retry) :
    Steps call p (.responded response) { p with phase := .settled (.ok response) }
  | failed {retry : ℕ} (err : FetchError) (now : ℤ) (phase : p.phase = .fetching retry) :
    Steps call p (.failed err now) (p.caught call retry err now)
  | timedOut {retry : ℕ} (now : ℤ) (phase : p.phase = .fetching retry)
    (timesOut : call.timesOut = true) :
    Steps call p (.timedOut now) (p.interrupt.caught call retry .timeout now)
  | waited {retry : ℕ} (phase : p.phase = .waiting retry) :
    Steps call p .waited { p with phase := .fetching (retry + 1), requests := p.requests + 1 }
  | abort (signal : call.hasSignal = true) (first : p.aborted = false) :
    Steps call p .abort (p.abort call)
  | ignored (interrupted : 0 < p.interrupted) :
    Steps call p .ignored { p with interrupted := p.interrupted - 1 }

theorem steps_of_step {call : RetryCall} {p q : Retrying} {e : RetryEvent}
    (h : (retryDecorator call).step p e = some q) : Steps call p e q := by
  change p.step call e = some q at h
  cases e with
  | responded response =>
    simp only [Retrying.step] at h
    split at h
    · obtain rfl := Option.some.inj h
      exact .responded response ‹_›
    · cases h
  | failed err now =>
    simp only [Retrying.step] at h
    split at h
    · obtain rfl := Option.some.inj h
      exact .failed err now ‹_›
    · cases h
  | timedOut now =>
    simp only [Retrying.step] at h
    split at h
    · split_ifs at h with htimesOut
      obtain rfl := Option.some.inj h
      exact .timedOut now ‹_› htimesOut
    · cases h
  | waited =>
    simp only [Retrying.step] at h
    split at h
    · obtain rfl := Option.some.inj h
      exact .waited ‹_›
    · cases h
  | abort =>
    simp only [Retrying.step] at h
    split_ifs at h with hfirst
    obtain rfl := Option.some.inj h
    exact .abort hfirst.1 (Bool.eq_false_of_not_eq_true hfirst.2)
  | ignored =>
    simp only [Retrying.step] at h
    split_ifs at h with hinterrupted
    obtain rfl := Option.some.inj h
    exact .ignored hinterrupted

/-- After the delay of a failed attempt the next one is made. -/
theorem leads_of_waiting (call : RetryCall) {p : Retrying} {retry : ℕ}
    (h : p.phase = .waiting retry) :
    ∃ q, (retryDecorator call).Leads (fun _ _ ↦ True) p q ∧ p.requests < q.requests := by
  refine ⟨{ p with phase := .fetching (retry + 1), requests := p.requests + 1 },
    (System.Leads.refl p).tail (e := .waited) trivial ?_, Nat.lt_succ_self _⟩
  change p.step call .waited = _
  rw [Retrying.step, h]

/-! ### Methods -/

section Methods

variable {call : RetryCall} {p q : Retrying} {e : RetryEvent}

/-- The error of an attempt that ends without a response: of `fn`, or of the timer. -/
def RetryEvent.error : RetryEvent → Option FetchError
  | .failed err _ => some err
  | .timedOut _ => some .timeout
  | _ => none

/-- An attempt fails with a response or an abort, or no attempt is left, or the delay of the options
is negative. -/
def KeepsMethod (call : RetryCall) (p : Retrying) (e : RetryEvent) : Prop :=
  ∀ retry, p.phase = .fetching retry → ∀ err ∈ e.error,
    (∃ response, err = .http response) ∨ err.isAbort = true ∨ call.exhausted retry = true ∨
      call.NoDelay retry

/-- No attempt but the first has been made, and no other waits. -/
structure Once (p : Retrying) : Prop where
  requests : p.requests = 1
  phase : ∀ retry, p.phase ≠ .waiting retry

theorem givesUp_of_methodExcluded (hmethod : call.methodExcluded = true) {retry : ℕ} (now : ℤ)
    {err : FetchError}
    (h : (∃ response, err = .http response) ∨ err.isAbort = true ∨ call.exhausted retry = true ∨
      call.NoDelay retry) : call.GivesUp retry now err := by
  by_cases hhttp : ∃ response, err = .http response
  · obtain ⟨response, rfl⟩ := hhttp
    exact .inr (.inr (.inl ⟨response, rfl, .inr (.inl hmethod)⟩))
  rcases h with h | h | h | h
  · exact absurd h hhttp
  · exact .inl h
  · exact .inr (.inl h)
  · exact .inr (.inr (.inr ⟨not_exists.mp hhttp, h⟩))

theorem not_givesUp {retry : ℕ} {now : ℤ} {err : FetchError}
    (h : ¬ ((∃ response, err = .http response) ∨ err.isAbort = true ∨
      call.exhausted retry = true ∨ call.NoDelay retry)) : ¬ call.GivesUp retry now err := by
  obtain ⟨hhttp, h⟩ := not_or.mp h
  obtain ⟨habort, h⟩ := not_or.mp h
  obtain ⟨hexhausted, hdelay⟩ := not_or.mp h
  rintro (hgives | hgives | ⟨response, rfl, -⟩ | ⟨-, hgives⟩)
  · exact habort hgives
  · exact hexhausted hgives
  · exact hhttp ⟨response, rfl⟩
  · exact hdelay hgives

theorem Once.step (hmethod : call.methodExcluded = true) (h : Once p)
    (hkeeps : KeepsMethod call p e) (hstep : (retryDecorator call).step p e = some q) : Once q := by
  cases steps_of_step hstep with
  | responded response => exact ⟨h.requests, fun retry hphase ↦ by cases hphase⟩
  | failed err now phase =>
    have hgives := givesUp_of_methodExcluded hmethod now (hkeeps _ phase err rfl)
    rw [Retrying.caught_of_givesUp hgives]
    exact ⟨h.requests, fun retry hphase ↦ by cases hphase⟩
  | timedOut now phase =>
    have hgives := givesUp_of_methodExcluded hmethod now (hkeeps _ phase .timeout rfl)
    rw [Retrying.caught_of_givesUp hgives]
    exact ⟨h.requests, fun retry hphase ↦ by cases hphase⟩
  | waited phase => exact absurd phase (h.phase _)
  | abort =>
    rcases p.abort_cases call with ⟨-, habort⟩ | ⟨-, habort⟩
    · rw [habort]
      exact ⟨h.requests, fun retry hphase ↦ by cases hphase⟩
    · rw [habort]
      exact ⟨h.requests, h.phase⟩
  | ignored => exact ⟨h.requests, h.phase⟩

/-- A request whose method is not listed is sent once, as long as the attempt does not fail without
a response. When it does, another attempt follows. -/
theorem methods_respected (call : RetryCall) (methods : List String)
    (hmethods : call.retry.methods = some methods) (hmethod : ∀ m ∈ call.method, m ∉ methods) :
    (∀ p, (retryDecorator call).Reachable (KeepsMethod call) p → p.requests ≤ 1) ∧
      ∀ p e q, (retryDecorator call).Reachable (KeepsMethod call) p →
        (retryDecorator call).step p e = some q → ¬ KeepsMethod call p e →
        ∃ r, (retryDecorator call).Leads (fun _ _ ↦ True) q r ∧ 1 < r.requests := by
  have hexcluded : call.methodExcluded = true := by
    rw [RetryCall.methodExcluded, hmethods]
    cases hcall : call.method with
    | none => rfl
    | some m =>
      simp only [Option.any_some, Bool.not_eq_true', List.contains_eq_mem, decide_eq_false_iff_not]
      exact hmethod m hcall
  have honce : ∀ p, (retryDecorator call).Reachable (KeepsMethod call) p → Once p := by
    intro p hp
    refine hp.invariant ?_ fun s e t h hkeeps hstep ↦ h.step hexcluded hkeeps hstep
    rintro s rfl
    exact ⟨rfl, fun retry hphase ↦ by cases hphase⟩
  refine ⟨fun p hp ↦ (honce p hp).requests.le, fun p e q hp hstep hbreaks ↦ ?_⟩
  have hp := honce p hp
  simp only [KeepsMethod, not_forall] at hbreaks
  obtain ⟨retry, hphase, err, herr, hbreaks⟩ := hbreaks
  have hwaits : ∀ now, ¬ call.GivesUp retry now err := fun now ↦ not_givesUp hbreaks
  have hq : q.phase = .waiting retry ∧ q.requests = p.requests := by
    cases steps_of_step hstep with
    | failed err' now phase =>
      obtain rfl := Option.some.inj herr
      obtain rfl := Phase.fetching.inj (hphase.symm.trans phase)
      rw [Retrying.caught_of_not_givesUp (hwaits now)]
      exact ⟨rfl, rfl⟩
    | timedOut now phase =>
      obtain rfl := Option.some.inj herr
      obtain rfl := Phase.fetching.inj (hphase.symm.trans phase)
      rw [Retrying.caught_of_not_givesUp (hwaits now)]
      exact ⟨rfl, rfl⟩
    | _ => cases herr
  obtain ⟨r, hleads, hlt⟩ := leads_of_waiting call hq.1
  refine ⟨r, hleads, ?_⟩
  rw [hq.2, hp.requests] at hlt
  exact hlt

/-- The options of `pay-api/lib/send.ts`, for a request of some method. -/
def sendCall (method : String) : RetryCall where
  retry :=
    { limit := some (.finite 3)
      methods := some ["GET", "POST"]
      statuses := some (.list [408, 429, 500, 502, 503, 504])
      maxTimeout := some (.finite (30 * 1000))
      delay := none }
  method := some method
  hasSignal := false
  dateParse := fun _ ↦ .nan

theorem methods_respected_witness :
    (sendCall "PUT").methodExcluded = true ∧
      ∀ p, (retryDecorator (sendCall "PUT")).Reachable (KeepsMethod (sendCall "PUT")) p →
        p.requests ≤ 1 :=
  ⟨by decide, (methods_respected (sendCall "PUT") ["GET", "POST"] rfl (by decide)).1⟩

/-- A deletion that is not answered within the timeout is sent again. -/
theorem unlisted_method_repeated :
    ∃ p, (retryDecorator (sendCall "DELETE")).Reachable (fun _ _ ↦ True) p ∧ p.requests = 2 := by
  have hrun : ∃ p ∈ (retryDecorator (sendCall "DELETE")).run (fun _ _ ↦ True) .start
      [.timedOut 0, .waited], p.requests = 2 := by
    decide +kernel
  obtain ⟨p, hp, hrequests⟩ := hrun
  exact ⟨p, ⟨_, rfl, System.leads_of_run hp⟩, hrequests⟩

end Methods

/-! ### The count of attempts -/

/-- `min(limit, MAX_RETRIES)` as a count. -/
def maxRetries : JsNumber → ℕ
  | .finite x => min ⌊x⌋₊ MAX_RETRIES
  | .infinite negative => if negative then 0 else MAX_RETRIES
  | .nan => MAX_RETRIES

theorem maxRetries_natCast (n : ℕ) : maxRetries (.finite n) = min n MAX_RETRIES :=
  congrArg (min · MAX_RETRIES) (Nat.floor_natCast n)

namespace RetryCall

variable {call : RetryCall}

theorem less_eq_false_iff {limit : JsNumber} {retry : ℕ} (hretry : retry ≠ 0) :
    (limit.less (.finite retry) || decide (MAX_RETRIES < retry)) = false ↔
      retry ≤ maxRetries limit := by
  rw [Bool.or_eq_false_iff, decide_eq_false_iff_not, not_lt]
  cases limit with
  | finite x =>
    rw [JsNumber.less, decide_eq_false_iff_not, not_lt, maxRetries, le_min_iff,
      Nat.le_floor_iff' hretry]
  | infinite negative =>
    cases negative with
    | false => exact and_iff_right rfl
    | true =>
      refine iff_of_false (fun h ↦ by cases h.1) ?_
      exact fun h ↦ hretry (Nat.le_zero.mp h)
  | nan => exact and_iff_right rfl

theorem le_maxRetries {retry : ℕ} (hretry : retry ≠ 0) (h : call.exhausted retry ≠ true) :
    retry ≤ maxRetries call.limit :=
  (less_eq_false_iff hretry).mp (Bool.eq_false_of_not_eq_true h)

end RetryCall

section Bound

variable {call : RetryCall} {p q : Retrying} {e : RetryEvent}

namespace Retrying

/-- The attempts are counted, and none goes beyond the limit. -/
def Counted (call : RetryCall) (p : Retrying) : Prop :=
  match p.phase with
  | .fetching retry => retry = p.requests ∧ 0 < retry ∧ retry ≤ 1 + maxRetries call.limit
  | .waiting retry => retry = p.requests ∧ 0 < retry ∧ retry ≤ maxRetries call.limit
  | .settled _ => p.requests ≤ 1 + maxRetries call.limit

/-- The answers and timers that a call may still take. -/
def remaining (call : RetryCall) (p : Retrying) : ℕ :=
  match p.phase with
  | .fetching retry => 2 * (1 + maxRetries call.limit - retry) + 1
  | .waiting retry => 2 * (1 + maxRetries call.limit - retry)
  | .settled _ => 0

def Settled (p : Retrying) : Prop := ∃ result, p.phase = .settled result

theorem Counted.requests_le (h : p.Counted call) : p.requests ≤ 1 + maxRetries call.limit := by
  unfold Counted at h
  split at h
  · exact h.1 ▸ h.2.2
  · exact h.1 ▸ h.2.2.trans (Nat.le_add_left _ 1)
  · exact h

theorem caught_cases (call : RetryCall) (p : Retrying) (retry : ℕ) (err : FetchError) (now : ℤ) :
    p.caught call retry err now = { p with phase := .settled (.error err) } ∨
      call.exhausted retry ≠ true ∧
        p.caught call retry err now = { p with phase := .waiting retry } := by
  by_cases hgives : call.GivesUp retry now err
  · exact .inl (caught_of_givesUp hgives)
  · refine .inr ⟨fun hexhausted ↦ hgives (.inr (.inl hexhausted)), caught_of_not_givesUp hgives⟩

/-- A failed attempt is counted, and takes one of the remaining answers. -/
theorem Counted.caught {retry : ℕ} (h : p.Counted call) (hphase : p.phase = .fetching retry)
    (err : FetchError) (now : ℤ) :
    (p.caught call retry err now).Counted call ∧
      (p.caught call retry err now).remaining call + 1 ≤ p.remaining call := by
  have hle := h.requests_le
  have hremaining : p.remaining call = 2 * (1 + maxRetries call.limit - retry) + 1 := by
    rw [remaining, hphase]
  rw [Counted, hphase] at h
  rcases p.caught_cases call retry err now with hcaught | ⟨hexhausted, hcaught⟩
  · rw [hcaught, hremaining]
    exact ⟨hle, Nat.le_add_left _ _⟩
  · rw [hcaught, hremaining]
    exact ⟨⟨h.1, h.2.1, RetryCall.le_maxRetries h.2.1.ne' hexhausted⟩, le_rfl⟩

end Retrying

/-- The event is an answer or a timer of the call. -/
def RetryEvent.proceeds : RetryEvent → Bool
  | .abort | .ignored => false
  | _ => true

theorem counted_step (h : p.Counted call) (hstep : (retryDecorator call).step p e = some q) :
    q.Counted call ∧ q.remaining call + e.proceeds.toNat ≤ p.remaining call := by
  have hle := h.requests_le
  cases steps_of_step hstep with
  | responded response phase =>
    refine ⟨hle, ?_⟩
    rw [Retrying.remaining, Retrying.remaining, phase]
    exact Nat.le_add_left _ _
  | failed err now phase => exact h.caught phase err now
  | timedOut now phase =>
    have hinterrupted : p.interrupt.Counted call := h
    exact hinterrupted.caught phase .timeout now
  | @waited retry phase =>
    rw [Retrying.Counted, phase] at h
    obtain ⟨hrequests, hpos, hlimit⟩ := h
    refine ⟨⟨congrArg (· + 1) hrequests, Nat.succ_pos _, ?_⟩, ?_⟩
    · omega
    · rw [Retrying.remaining, Retrying.remaining, phase]
      change 2 * (1 + maxRetries call.limit - (retry + 1)) + 1 + 1 ≤
        2 * (1 + maxRetries call.limit - retry)
      omega
  | abort =>
    rcases p.abort_cases call with ⟨-, habort⟩ | ⟨-, habort⟩
    · rw [habort]
      exact ⟨hle, Nat.zero_le _⟩
    · rw [habort]
      exact ⟨h, le_rfl⟩
  | ignored => exact ⟨h, le_rfl⟩

/-- A call takes no more answers and timers than remain. -/
theorem countP_proceeds_le {es : List RetryEvent} (h : p.Counted call)
    (hrun : (retryDecorator call).run (fun _ _ ↦ True) p es = some q) :
    es.countP RetryEvent.proceeds + q.remaining call ≤ p.remaining call := by
  induction es generalizing p with
  | nil =>
    obtain rfl := Option.some.inj hrun
    rw [List.countP_nil, Nat.zero_add]
  | cons e es ih =>
    rw [System.run, if_pos trivial] at hrun
    obtain ⟨r, hstep, hrest⟩ := Option.bind_eq_some_iff.mp hrun
    obtain ⟨hr, hone⟩ := counted_step h hstep
    have htail := ih hr hrest
    rw [List.countP_cons]
    cases he : e.proceeds with
    | true =>
      rw [he] at hone
      rw [if_pos rfl]
      change _ + 1 ≤ _ at hone
      omega
    | false =>
      rw [he] at hone
      rw [if_neg Bool.false_ne_true]
      change _ + 0 ≤ _ at hone
      omega

/-- What has not settled waits for an answer or a timer. -/
theorem settled_or_proceeds (call : RetryCall) (p : Retrying) :
    p.Settled ∨ ∃ e q, e.proceeds = true ∧ (retryDecorator call).step p e = some q := by
  cases hphase : p.phase with
  | fetching retry =>
    refine .inr ⟨.failed .timeout 0, p.caught call retry .timeout 0, rfl, ?_⟩
    change p.step call (.failed .timeout 0) = _
    rw [Retrying.step, hphase]
  | waiting retry =>
    refine .inr ⟨.waited, { p with phase := .fetching (retry + 1), requests := p.requests + 1 },
      rfl, ?_⟩
    change p.step call .waited = _
    rw [Retrying.step, hphase]
  | settled result => exact .inl ⟨result, hphase⟩

/-! ### Aborts -/

/-- The caller does not abort between two attempts, and no attempt follows the request that he has
aborted. -/
structure AbortsInTime (call : RetryCall) (p : Retrying) (e : RetryEvent) : Prop where
  waiting : e = .abort → ∀ retry, p.phase ≠ .waiting retry
  fetching : p.aborted = true → ∀ retry err now, p.phase = .fetching retry →
    e = .failed err now → call.GivesUp retry now err

/-- After an abort no attempt waits; one that is under way has been passed the signal. -/
def Retrying.SeesAbort (call : RetryCall) (p : Retrying) : Prop :=
  p.aborted = true → (∀ retry, p.phase ≠ .waiting retry) ∧
    ∀ retry, p.phase = .fetching retry → call.timesOut ≠ true

theorem seesAbort_of_settled (h : p.Settled) : p.SeesAbort call := by
  obtain ⟨result, hsettled⟩ := h
  refine fun _ ↦ ⟨fun retry hphase ↦ ?_, fun retry hphase ↦ ?_⟩
  · cases hsettled.symm.trans hphase
  · cases hsettled.symm.trans hphase

theorem seesAbort_step (h : p.SeesAbort call) (hin : AbortsInTime call p e)
    (hstep : (retryDecorator call).step p e = some q) : q.SeesAbort call := by
  cases steps_of_step hstep with
  | responded response => exact seesAbort_of_settled ⟨_, rfl⟩
  | @failed retry err now phase =>
    by_cases hgives : call.GivesUp retry now err
    · rw [Retrying.caught_of_givesUp hgives]
      exact seesAbort_of_settled ⟨_, rfl⟩
    · rw [Retrying.caught_of_not_givesUp hgives]
      exact fun haborted ↦ absurd (hin.fetching haborted retry err now phase rfl) hgives
  | @timedOut retry now phase timesOut =>
    rcases p.interrupt.caught_cases call retry .timeout now with
      hcaught | ⟨-, hcaught⟩
    · rw [hcaught]
      exact seesAbort_of_settled ⟨_, rfl⟩
    · rw [hcaught]
      exact fun haborted ↦ absurd timesOut ((h haborted).2 retry phase)
  | waited phase => exact fun haborted ↦ absurd phase ((h haborted).1 _)
  | abort =>
    rcases p.abort_cases call with ⟨-, habort⟩ | ⟨htimesOut, habort⟩
    · rw [habort]
      exact seesAbort_of_settled ⟨_, rfl⟩
    · rw [habort]
      exact fun _ ↦ ⟨hin.waiting rfl, htimesOut⟩
  | ignored => exact h

/-- After an abort that is seen no request is started, and the abort stays. -/
theorem requests_of_seesAbort (h : p.SeesAbort call) (haborted : p.aborted = true)
    (hstep : (retryDecorator call).step p e = some q) :
    q.requests = p.requests ∧ q.aborted = true := by
  cases steps_of_step hstep with
  | responded response => exact ⟨rfl, haborted⟩
  | @failed retry err now phase =>
    rcases p.caught_cases call retry err now with
      hcaught | ⟨-, hcaught⟩ <;> rw [hcaught] <;> exact ⟨rfl, haborted⟩
  | @timedOut retry now phase timesOut => exact absurd timesOut ((h haborted).2 retry phase)
  | waited phase => exact absurd phase ((h haborted).1 _)
  | abort signal first => exact absurd haborted (Bool.eq_false_iff.mp first)
  | ignored => exact ⟨rfl, haborted⟩

/-- An abort that comes between two attempts, or before an attempt that is made all the same, is
followed by a request. -/
theorem request_after_abort (hlate : ¬ AbortsInTime call p e)
    (hstep : (retryDecorator call).step p e = some q) :
    q.aborted = true ∧ ∃ r, (retryDecorator call).Leads (fun _ _ ↦ True) q r ∧
      q.requests < r.requests := by
  have hcases : (e = .abort ∧ ∃ retry, p.phase = .waiting retry) ∨
      p.aborted = true ∧ ∃ retry err now, p.phase = .fetching retry ∧ e = .failed err now ∧
        ¬ call.GivesUp retry now err := by
    by_contra hcases
    obtain ⟨hwaiting, hfetching⟩ := not_or.mp hcases
    refine hlate ⟨fun he retry hphase ↦ hwaiting ⟨he, retry, hphase⟩, ?_⟩
    exact fun haborted retry err now hphase he ↦ by_contra fun hgives ↦
      hfetching ⟨haborted, retry, err, now, hphase, he, hgives⟩
  have hwaits : q.aborted = true ∧ ∃ retry, q.phase = .waiting retry := by
    rcases hcases with ⟨rfl, retry, hphase⟩ | ⟨haborted, retry, err, now, hphase, rfl, hgives⟩
    · cases steps_of_step hstep with
      | abort =>
        have habort : p.abort call = { p with aborted := true } := by
          rw [Retrying.abort, hphase]
        rw [habort]
        exact ⟨rfl, retry, hphase⟩
    · cases steps_of_step hstep with
      | failed err now phase =>
        obtain rfl := Phase.fetching.inj (hphase.symm.trans phase)
        rw [Retrying.caught_of_not_givesUp hgives]
        exact ⟨haborted, retry, rfl⟩
  obtain ⟨haborted, retry, hphase⟩ := hwaits
  exact ⟨haborted, leads_of_waiting call hphase⟩

/-- A call makes at most `1 + min(limit, 5)` requests and takes as many answers and timers as that
allows, after which it has settled. No request follows an abort that comes in time, and one follows
every other abort. -/
theorem bound_and_abort (call : RetryCall) :
    (∀ p, (retryDecorator call).Reachable (fun _ _ ↦ True) p →
      p.requests ≤ 1 + maxRetries call.limit) ∧
    (∀ es p, (retryDecorator call).run (fun _ _ ↦ True) .start es = some p →
      es.countP RetryEvent.proceeds ≤ 2 * maxRetries call.limit + 1 ∧
        (p.Settled ∨ ∃ e q, e.proceeds = true ∧ (retryDecorator call).step p e = some q)) ∧
    (∀ p q, (retryDecorator call).Reachable (AbortsInTime call) p → p.aborted = true →
      (retryDecorator call).Leads (AbortsInTime call) p q → q.requests = p.requests) ∧
    ∀ p e q, (retryDecorator call).step p e = some q → ¬ AbortsInTime call p e →
      q.aborted = true ∧ ∃ r, (retryDecorator call).Leads (fun _ _ ↦ True) q r ∧
        q.requests < r.requests := by
  have hstart : Retrying.start.Counted call := ⟨rfl, Nat.one_pos, Nat.le_add_right _ _⟩
  have hsees : ∀ p, (retryDecorator call).Reachable (AbortsInTime call) p → p.SeesAbort call := by
    intro p hp
    refine hp.invariant ?_ fun s e t h hin hstep ↦ seesAbort_step h hin hstep
    rintro s rfl
    exact fun haborted ↦ absurd haborted Bool.false_ne_true
  refine ⟨fun p hp ↦ ?_, fun es p hrun ↦ ⟨?_, settled_or_proceeds call p⟩,
    fun p q hp haborted hpq ↦ ?_, fun p e q hstep hlate ↦ request_after_abort hlate hstep⟩
  · refine Retrying.Counted.requests_le (hp.invariant ?_ fun s e t h _ hstep ↦
      (counted_step h hstep).1)
    rintro s rfl
    exact hstart
  · have hcount := countP_proceeds_le hstart hrun
    change _ ≤ 2 * (1 + maxRetries call.limit - 1) + 1 at hcount
    omega
  · have hkeeps := hpq.preserves_of (I := fun r ↦ r.requests = p.requests ∧ r.aborted = true)
      hsees (fun s e t hs hI _ hstep ↦ ?_) hp ⟨rfl, haborted⟩
    · exact hkeeps.1
    · obtain ⟨hrequests, haborted⟩ := requests_of_seesAbort hs hI.2 hstep
      exact ⟨hrequests.trans hI.1, haborted⟩

/-- A call with a timeout and a signal. -/
def abortableCall : RetryCall := { sendCall "GET" with hasSignal := true }

/-- The caller aborts while the call waits to repeat a request, and it is repeated. -/
theorem request_after_abort_while_waiting :
    ∃ p q, (retryDecorator abortableCall).Reachable (fun _ _ ↦ True) p ∧ p.aborted = true ∧
      (retryDecorator abortableCall).Leads (fun _ _ ↦ True) p q ∧ p.requests < q.requests := by
  have hrun : ∃ p ∈ (retryDecorator abortableCall).run (fun _ _ ↦ True) .start
      [.timedOut 0, .abort], p.aborted = true ∧
        ∃ q ∈ (retryDecorator abortableCall).run (fun _ _ ↦ True) p [.waited],
          p.requests < q.requests := by
    decide +kernel
  obtain ⟨p, hp, haborted, q, hq, hlt⟩ := hrun
  exact ⟨p, q, ⟨_, rfl, System.leads_of_run hp⟩, haborted, System.leads_of_run hq, hlt⟩

end Bound

end YandexPay.Fetch
