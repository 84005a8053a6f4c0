import YandexPay.Intercom.RpcQueue
import Mathlib.Data.List.Nodup

/-!
# Calls of the form to the merchant's page

The methods of `CheckoutClientApi` that wait for an `Update` message, with `timeRace`. A method puts
on a listener, sends its message and races the promise of the listener against a timeout. Updates
carry no number of a request: what a listener takes is decided by the data of an update alone.

`client` is the system of calls, updates and timeouts; an update names the call that the page means
to answer, which no method can read. `update_settles` says which calls an update settles: all that
are not settled yet and wait for the kind of data it carries.
-/

set_option autoImplicit false
set_option relaxedAutoImplicit false

namespace YandexPay.Intercom

open Transition

/-! ### Messages -/

structure MerchantErrors where
  code : String
  message : String
  deriving DecidableEq

/-- `UpdatePaymentData`, with any type of orders, options and points. -/
structure UpdatePaymentData (α : Type) where
  order : Option α := none
  shippingOptions : Option (List α) := none
  pickupPoints : Option (List α) := none
  pickupPoint : Option α := none
  errors : Option (List MerchantErrors) := none
  metadata : Option String := none
  deriving DecidableEq

/-- `ChangeEventData` and `ResetEventData`, of which a method sets one field. -/
inductive Request (α : Type)
  | changeShippingAddress (shippingAddress : α)
  | changeShippingOption (shippingOption : α)
  | changeCoupon (coupon : String)
  | changePickupInfo (pickupPointId : String)
  | changePickupPoint (pickupPoint : α)
  | resetCoupon
  | resetShippingOption
  deriving DecidableEq

/-- How a promise ends: with the data of an update, a text, an `Error` with a text or nothing. -/
inductive Outcome (α : Type)
  | resolved (updateData : UpdatePaymentData α)
  | rejected (text : String)
  | rejectedError (message : String)
  | rejectedUndefined
  deriving DecidableEq

/-! ### Methods -/

/-- What a method sends, what its listener makes of an update, whether the listener takes itself off
then, and what the timeout of its `timeRace` rejects with. -/
structure Method (α : Type) where
  request : Request α
  onUpdate : UpdatePaymentData α → Option (Outcome α)
  off : Bool := true
  rejectWith : Option (Outcome α)

/-- A listener that resolves with the first update that has a field. -/
def resolveWith {α : Type} (has : UpdatePaymentData α → Bool) (updateData : UpdatePaymentData α) :
    Option (Outcome α) := if has updateData then some (.resolved updateData) else none

namespace CheckoutClientApi

variable {α : Type}

/-- `shippingAddressChange`, of an address that `toShippingAddress` has converted. -/
def shippingAddressChange (shippingAddress : α) : Method α where
  request := .changeShippingAddress shippingAddress
  onUpdate := resolveWith (·.shippingOptions.isSome)
  rejectWith := some (.rejectedError "The shipping options were not provided")

/-- `UpdateErrorCode.Coupon` -/
def couponErrorCode : String := "COUPON"

/-- `data?.updateData?.errors?.find((e) => e.code === UpdateErrorCode.Coupon)` -/
def couponError (updateData : UpdatePaymentData α) : Option MerchantErrors :=
  updateData.errors.bind (·.find? (·.code = couponErrorCode))

/-- `couponChange`, whose listener looks for an error first. -/
def couponChange (coupon : String) : Method α where
  request := .changeCoupon coupon
  onUpdate := fun updateData ↦
    match couponError updateData with
    | some error => some (.rejected error.message)
    | none => resolveWith (·.order.isSome) updateData
  rejectWith := some (.rejectedError "The order was not provided")

def couponReset : Method α where
  request := .resetCoupon
  onUpdate := resolveWith (·.order.isSome)
  rejectWith := some (.rejectedError "The order was not provided")

/-- `pickupInfoRequest`, whose listener is never taken off. -/
def pickupInfoRequest (pickupPointId : String) : Method α where
  request := .changePickupInfo pickupPointId
  onUpdate := resolveWith (·.pickupPoint.isSome)
  off := false
  rejectWith := some .rejectedUndefined

def shippingOptionChange (shippingOption : α) : Method α where
  request := .changeShippingOption shippingOption
  onUpdate := resolveWith (·.order.isSome)
  rejectWith := some (.rejectedError "The order was not provided")

def pickupPointChange (pickupPoint : α) : Method α where
  request := .changePickupPoint pickupPoint
  onUpdate := resolveWith (·.order.isSome)
  rejectWith := some (.rejectedError "The order was not provided")

/-- `shippingOptionReset`, which has no timeout. -/
def shippingOptionReset : Method α where
  request := .resetShippingOption
  onUpdate := resolveWith (·.order.isSome)
  rejectWith := none

end CheckoutClientApi

/-- A call of a method. -/
inductive Rpc (α : Type)
  | shippingAddressChange (shippingAddress : α)
  | couponChange (coupon : String)
  | couponReset
  | pickupInfoRequest (pickupPointId : String)
  | shippingOptionChange (shippingOption : α)
  | pickupPointChange (pickupPoint : α)
  | shippingOptionReset
  deriving DecidableEq

def Rpc.method {α : Type} : Rpc α → Method α
  | .shippingAddressChange shippingAddress =>
    CheckoutClientApi.shippingAddressChange shippingAddress
  | .couponChange coupon => CheckoutClientApi.couponChange coupon
  | .couponReset => CheckoutClientApi.couponReset
  | .pickupInfoRequest pickupPointId => CheckoutClientApi.pickupInfoRequest pickupPointId
  | .shippingOptionChange shippingOption => CheckoutClientApi.shippingOptionChange shippingOption
  | .pickupPointChange pickupPoint => CheckoutClientApi.pickupPointChange pickupPoint
  | .shippingOptionReset => CheckoutClientApi.shippingOptionReset

/-! ### Calls, updates and timeouts -/

/-- A settled call; `cause` is the call that the page meant to answer, if an update settled it. -/
structure Settlement (α : Type) where
  call : ℕ
  outcome : Outcome α
  cause : Option ℕ
  deriving DecidableEq

/-- The calls so far, those that listen for updates, those whose timeout has not come, what was sent
and what was settled. A call is known by its place. -/
structure Client (α : Type) where
  calls : List (Rpc α)
  listeners : List ℕ
  timers : List ℕ
  sent : List (Request α)
  settled : List (Settlement α)
  deriving DecidableEq

inductive ClientEvent (α : Type)
  | call (rpc : Rpc α)
  | update (answers : ℕ) (updateData : Option (UpdatePaymentData α))
  | timeout (call : ℕ)

namespace Client

variable {α : Type}

def IsSettled (s : Client α) (call : ℕ) : Prop := ∃ x ∈ s.settled, x.call = call

instance (s : Client α) (call : ℕ) : Decidable (s.IsSettled call) :=
  inferInstanceAs (Decidable (∃ x ∈ s.settled, x.call = call))

/-- A promise settles once: `Promise.race` takes what comes first. -/
def settle (s : Client α) (x : Settlement α) : Client α :=
  if s.IsSettled x.call then s else { s with settled := s.settled ++ [x] }

/-- A call of a method. -/
def call (s : Client α) (rpc : Rpc α) : Client α :=
  { s with
    calls := s.calls ++ [rpc]
    listeners := s.listeners ++ [s.calls.length]
    timers := if rpc.method.rejectWith.isSome then s.timers ++ [s.calls.length] else s.timers
    sent := s.sent ++ [rpc.method.request] }

/-- What the listener of a call makes of an update. -/
def takes (s : Client α) (call : ℕ) (updateData : Option (UpdatePaymentData α)) :
    Option (Outcome α) := do
  let rpc ← s.calls[call]?
  rpc.method.onUpdate (← updateData)

/-- Whether the listener of a call takes itself off. -/
def takesOff (s : Client α) (call : ℕ) : Bool := s.calls[call]?.elim false (·.method.off)

/-- The listener of a call. -/
def onUpdate (answers : ℕ) (updateData : Option (UpdatePaymentData α)) (call : ℕ) (s : Client α) :
    Client α :=
  match s.takes call updateData with
  | none => s
  | some outcome =>
    { s with
      listeners := if s.takesOff call then off s.listeners call else s.listeners
    }.settle ⟨call, outcome, some answers⟩

/-- The page answers requests that were sent. -/
def step (s : Client α) : ClientEvent α → Option (Client α)
  | .call rpc => some (s.call rpc)
  | .update answers updateData =>
    if answers < s.sent.length then
      some (emit s.listeners (onUpdate answers updateData) s)
    else none
  | .timeout call =>
    if call ∈ s.timers then
      match s.calls[call]?.bind (·.method.rejectWith) with
      | some outcome =>
        some ({ s with timers := s.timers.erase call }.settle ⟨call, outcome, none⟩)
      | none => none
    else none

end Client

/-- The calls of a form that was just opened. -/
def client (α : Type) : System (Client α) (ClientEvent α) where
  start := fun s ↦ s = ⟨[], [], [], [], []⟩
  step := Client.step

variable {α : Type}

/-! ### What a call waits for -/

/-- The kind of data that settles a call. -/
def Rpc.WaitsFor (rpc : Rpc α) (updateData : UpdatePaymentData α) : Prop :=
  match rpc with
  | .shippingAddressChange _ => updateData.shippingOptions.isSome
  | .pickupInfoRequest _ => updateData.pickupPoint.isSome
  | .couponChange _ => updateData.order.isSome ∨
    ∃ errors, updateData.errors = some errors ∧
      ∃ error ∈ errors, error.code = CheckoutClientApi.couponErrorCode
  | .couponReset | .shippingOptionChange _ | .pickupPointChange _ | .shippingOptionReset =>
    updateData.order.isSome

/-- How such data settles it. -/
def Rpc.outcome (rpc : Rpc α) (updateData : UpdatePaymentData α) : Outcome α :=
  match rpc with
  | .couponChange _ =>
    match CheckoutClientApi.couponError updateData with
    | some error => .rejected error.message
    | none => .resolved updateData
  | _ => .resolved updateData

theorem resolveWith_eq_some {has : UpdatePaymentData α → Bool} {updateData : UpdatePaymentData α}
    {outcome : Outcome α} : resolveWith has updateData = some outcome ↔
      has updateData = true ∧ outcome = .resolved updateData := by
  rw [resolveWith]
  split_ifs with h
  · rw [Option.some.injEq, eq_comm]
    exact (and_iff_right h).symm
  · simp [h]

theorem couponError_isSome {updateData : UpdatePaymentData α} :
    (CheckoutClientApi.couponError updateData).isSome ↔
      ∃ errors, updateData.errors = some errors ∧
        ∃ error ∈ errors, error.code = CheckoutClientApi.couponErrorCode := by
  cases herrors : updateData.errors with
  | none => simp [CheckoutClientApi.couponError, herrors]
  | some errors => simp [CheckoutClientApi.couponError, herrors]

theorem onUpdate_eq_some {rpc : Rpc α} {updateData : UpdatePaymentData α} {outcome : Outcome α} :
    rpc.method.onUpdate updateData = some outcome ↔
      rpc.WaitsFor updateData ∧ outcome = rpc.outcome updateData := by
  cases rpc with
  | couponChange coupon =>
    simp only [Rpc.method, CheckoutClientApi.couponChange, Rpc.WaitsFor, Rpc.outcome,
      ← couponError_isSome]
    cases CheckoutClientApi.couponError updateData with
    | none => simp [resolveWith_eq_some]
    | some error =>
      rw [Option.some.injEq, eq_comm]
      exact (and_iff_right (Or.inr rfl)).symm
  | _ =>
    simp only [Rpc.method, CheckoutClientApi.shippingAddressChange, CheckoutClientApi.couponReset,
      CheckoutClientApi.pickupInfoRequest, CheckoutClientApi.shippingOptionChange,
      CheckoutClientApi.pickupPointChange, CheckoutClientApi.shippingOptionReset,
      resolveWith_eq_some, Rpc.WaitsFor, Rpc.outcome]

namespace Client

/-! ### One update -/

theorem takes_eq_some {s : Client α} {call : ℕ} {updateData : Option (UpdatePaymentData α)}
    {outcome : Outcome α} : s.takes call updateData = some outcome ↔
      ∃ rpc data, s.calls[call]? = some rpc ∧ updateData = some data ∧ rpc.WaitsFor data ∧
        outcome = rpc.outcome data := by
  simp only [takes, Option.bind_eq_bind, Option.bind_eq_some_iff, onUpdate_eq_some]
  constructor
  · rintro ⟨rpc, hrpc, data, hdata, hwaits, houtcome⟩
    exact ⟨rpc, data, hrpc, hdata, hwaits, houtcome⟩
  · rintro ⟨rpc, data, hrpc, hdata, hwaits, houtcome⟩
    exact ⟨rpc, hrpc, data, hdata, hwaits, houtcome⟩

/-- What becomes of a client when some of its listeners are called with an update. -/
structure Updated (answers : ℕ) (updateData : Option (UpdatePaymentData α)) (called : List ℕ)
    (s t : Client α) : Prop where
  calls : t.calls = s.calls
  timers : t.timers = s.timers
  sent : t.sent = s.sent
  listeners : ∀ call, call ∈ t.listeners ↔ call ∈ s.listeners ∧
    ¬(call ∈ called ∧ (s.takes call updateData).isSome ∧ s.takesOff call = true)
  settled : ∀ x, x ∈ t.settled ↔ x ∈ s.settled ∨ (x.call ∈ called ∧ ¬s.IsSettled x.call ∧
    s.takes x.call updateData = some x.outcome ∧ x.cause = some answers)
  once : (s.settled.map Settlement.call).Nodup → (t.settled.map Settlement.call).Nodup

theorem mem_settle {s : Client α} {x y : Settlement α} :
    y ∈ (s.settle x).settled ↔ y ∈ s.settled ∨ (¬s.IsSettled x.call ∧ y = x) := by
  unfold settle
  split_ifs with h
  · simp [h]
  · simp [h]

theorem nodup_settle {s : Client α} {x : Settlement α}
    (h : (s.settled.map Settlement.call).Nodup) :
    ((s.settle x).settled.map Settlement.call).Nodup := by
  unfold settle
  split_ifs with hsettled
  · exact h
  · rw [List.map_append, List.map_singleton, List.nodup_append]
    refine ⟨h, List.nodup_singleton _, fun id hid other hother heq ↦ hsettled ?_⟩
    obtain ⟨y, hy, rfl⟩ := List.mem_map.mp hid
    exact ⟨y, hy, heq.trans (List.mem_singleton.mp hother)⟩

theorem settle_listeners (s : Client α) (x : Settlement α) :
    (s.settle x).listeners = s.listeners := by
  unfold settle
  split_ifs <;> rfl

theorem settle_calls (s : Client α) (x : Settlement α) : (s.settle x).calls = s.calls := by
  unfold settle
  split_ifs <;> rfl

theorem settle_timers (s : Client α) (x : Settlement α) : (s.settle x).timers = s.timers := by
  unfold settle
  split_ifs <;> rfl

theorem settle_sent (s : Client α) (x : Settlement α) : (s.settle x).sent = s.sent := by
  unfold settle
  split_ifs <;> rfl

theorem onUpdate_updated (answers : ℕ) (updateData : Option (UpdatePaymentData α)) (call : ℕ)
    (s : Client α) : Updated answers updateData [call] s (onUpdate answers updateData call s) := by
  unfold onUpdate
  cases htakes : s.takes call updateData with
  | none =>
    refine ⟨rfl, rfl, rfl, fun id ↦ ?_, fun x ↦ ?_, fun h ↦ h⟩
    · rw [List.mem_singleton, and_iff_left]
      rintro ⟨rfl, hsome, -⟩
      rw [htakes] at hsome
      cases hsome
    · rw [List.mem_singleton, or_iff_left]
      rintro ⟨rfl, -, hsome, -⟩
      rw [htakes] at hsome
      cases hsome
  | some outcome =>
    refine ⟨settle_calls _ _, settle_timers _ _, settle_sent _ _, fun id ↦ ?_, fun x ↦ ?_,
      fun h ↦ nodup_settle h⟩
    · rw [settle_listeners, List.mem_singleton]
      split_ifs with hoff
      · rw [off, List.mem_filter, decide_eq_true_eq]
        refine and_congr_right fun _ ↦ not_congr ⟨fun h ↦ ⟨h, ?_, ?_⟩, fun h ↦ h.1⟩
        · rw [h, htakes]
          rfl
        · rw [h, hoff]
      · rw [and_iff_left]
        rintro ⟨rfl, -, hoff'⟩
        exact hoff hoff'
    · rw [mem_settle, List.mem_singleton]
      refine or_congr_right ⟨?_, ?_⟩
      · rintro ⟨hunsettled, rfl⟩
        exact ⟨rfl, hunsettled, htakes, rfl⟩
      · obtain ⟨id, out, cause⟩ := x
        rintro ⟨rfl, hunsettled, hout, rfl⟩
        obtain rfl := Option.some.inj (htakes.symm.trans hout)
        exact ⟨hunsettled, rfl⟩

theorem Updated.isSettled {answers : ℕ} {updateData : Option (UpdatePaymentData α)}
    {called : List ℕ} {s t : Client α} (h : Updated answers updateData called s t) (call : ℕ) :
    t.IsSettled call ↔
      s.IsSettled call ∨ (call ∈ called ∧ (s.takes call updateData).isSome) := by
  constructor
  · rintro ⟨x, hx, rfl⟩
    rcases (h.settled x).mp hx with hx | ⟨hcalled, -, htakes, -⟩
    · exact Or.inl ⟨x, hx, rfl⟩
    · exact Or.inr ⟨hcalled, htakes ▸ rfl⟩
  · rintro (⟨x, hx, rfl⟩ | ⟨hcalled, htakes⟩)
    · exact ⟨x, (h.settled x).mpr (Or.inl hx), rfl⟩
    · by_cases hsettled : s.IsSettled call
      · obtain ⟨x, hx, rfl⟩ := hsettled
        exact ⟨x, (h.settled x).mpr (Or.inl hx), rfl⟩
      · obtain ⟨outcome, houtcome⟩ := Option.isSome_iff_exists.mp htakes
        exact ⟨⟨call, outcome, some answers⟩,
          (h.settled _).mpr (Or.inr ⟨hcalled, hsettled, houtcome, rfl⟩), rfl⟩

theorem Updated.cons {answers : ℕ} {updateData : Option (UpdatePaymentData α)} {call : ℕ}
    {called : List ℕ} {s t u : Client α} (h : Updated answers updateData [call] s t)
    (h' : Updated answers updateData called t u) :
    Updated answers updateData (call :: called) s u := by
  have htakes : ∀ id, t.takes id updateData = s.takes id updateData := by
    intro id
    rw [takes, takes, h.calls]
  have hoff : ∀ id, t.takesOff id = s.takesOff id := by
    intro id
    rw [takesOff, takesOff, h.calls]
  refine ⟨h'.calls.trans h.calls, h'.timers.trans h.timers, h'.sent.trans h.sent, fun id ↦ ?_,
    fun x ↦ ?_, fun hs ↦ h'.once (h.once hs)⟩
  · rw [h'.listeners, h.listeners, htakes, hoff, List.mem_singleton, List.mem_cons]
    tauto
  · have hsome : s.takes x.call updateData = some x.outcome →
        (s.takes x.call updateData).isSome := fun h ↦ h ▸ rfl
    rw [h'.settled, h.settled, h.isSettled, htakes, List.mem_singleton, List.mem_cons]
    tauto

theorem emit_updated (answers : ℕ) (updateData : Option (UpdatePaymentData α)) (called : List ℕ)
    (s : Client α) :
    Updated answers updateData called s (emit called (onUpdate answers updateData) s) := by
  induction called generalizing s with
  | nil => exact ⟨rfl, rfl, rfl, by simp [emit], by simp [emit], fun h ↦ h⟩
  | cons call called ih => exact (onUpdate_updated answers updateData call s).cons (ih _)

/-! ### A run -/

/-- Every call that is not settled listens, and one that an update has settled does not listen any
more if its listener takes itself off. -/
structure Holds (s : Client α) : Prop where
  once : (s.settled.map Settlement.call).Nodup
  known : ∀ call, s.IsSettled call ∨ call ∈ s.listeners → call < s.calls.length
  listening : ∀ call < s.calls.length, ¬s.IsSettled call → call ∈ s.listeners
  deaf : ∀ x ∈ s.settled, x.cause.isSome → s.takesOff x.call = true → x.call ∉ s.listeners

theorem Holds.call {s : Client α} (h : Holds s) (rpc : Rpc α) : Holds (s.call rpc) := by
  have hlength : (s.call rpc).calls.length = s.calls.length + 1 := List.length_append
  have hlisteners : ∀ call, call ∈ (s.call rpc).listeners ↔
      call ∈ s.listeners ∨ call = s.calls.length := by
    intro call
    exact List.mem_append.trans (or_congr_right List.mem_singleton)
  refine ⟨h.once, fun call hcall ↦ ?_, fun call hcall hunsettled ↦ ?_,
    fun x hx hcause hoff ↦ ?_⟩
  · rw [hlength]
    rw [hlisteners] at hcall
    rcases hcall with hsettled | hlistening | rfl
    · exact Nat.lt_succ_of_lt (h.known call (Or.inl hsettled))
    · exact Nat.lt_succ_of_lt (h.known call (Or.inr hlistening))
    · exact Nat.lt_succ_self _
  · rw [hlength] at hcall
    rw [hlisteners]
    rcases Nat.lt_succ_iff_lt_or_eq.mp hcall with hold | hnew
    · exact Or.inl (h.listening call hold hunsettled)
    · exact Or.inr hnew
  · have hold : x.call < s.calls.length := h.known x.call (Or.inl ⟨x, hx, rfl⟩)
    have hoff' : s.takesOff x.call = true := by
      have hcalls : (s.call rpc).calls[x.call]? = s.calls[x.call]? :=
        List.getElem?_append_left hold
      rw [takesOff, ← hcalls]
      exact hoff
    rw [hlisteners, not_or]
    exact ⟨h.deaf x hx hcause hoff', Nat.ne_of_lt hold⟩

theorem Holds.update {s t : Client α} {answers : ℕ}
    {updateData : Option (UpdatePaymentData α)} (h : Holds s)
    (hstep : Updated answers updateData s.listeners s t) : Holds t := by
  have hoff : ∀ call, t.takesOff call = s.takesOff call := by
    intro call
    rw [takesOff, takesOff, hstep.calls]
  refine ⟨hstep.once h.once, fun call hcall ↦ ?_, fun call hcall hunsettled ↦ ?_,
    fun x hx hcause htakesOff ↦ ?_⟩
  · rw [hstep.calls]
    rw [hstep.isSettled, hstep.listeners] at hcall
    rcases hcall with (hsettled | ⟨hlistening, -⟩) | ⟨hlistening, -⟩
    · exact h.known call (Or.inl hsettled)
    · exact h.known call (Or.inr hlistening)
    · exact h.known call (Or.inr hlistening)
  · rw [hstep.calls] at hcall
    rw [hstep.isSettled, not_or] at hunsettled
    rw [hstep.listeners]
    refine ⟨h.listening call hcall hunsettled.1, fun htaken ↦ ?_⟩
    exact hunsettled.2 ⟨htaken.1, htaken.2.1⟩
  · rw [hoff] at htakesOff
    rw [hstep.listeners]
    rcases (hstep.settled x).mp hx with hx | ⟨hlistening, -, htakes, -⟩
    · exact fun hlistening ↦ h.deaf x hx hcause htakesOff hlistening.1
    · exact fun hkept ↦ hkept.2 ⟨hlistening, htakes ▸ rfl, htakesOff⟩

theorem Holds.settle {s : Client α} (h : Holds s) {call : ℕ} (hcall : call < s.calls.length)
    (outcome : Outcome α) : Holds (s.settle ⟨call, outcome, none⟩) := by
  refine ⟨nodup_settle h.once, fun id hid ↦ ?_, fun id hid hunsettled ↦ ?_,
    fun x hx hcause hoff ↦ ?_⟩
  · rw [settle_listeners] at hid
    rw [settle_calls]
    rcases hid with ⟨x, hx, rfl⟩ | hlistening
    · rcases mem_settle.mp hx with hx | ⟨-, rfl⟩
      · exact h.known x.call (Or.inl ⟨x, hx, rfl⟩)
      · exact hcall
    · exact h.known id (Or.inr hlistening)
  · rw [settle_calls] at hid
    rw [settle_listeners]
    refine h.listening id hid fun hsettled ↦ hunsettled ?_
    obtain ⟨x, hx, rfl⟩ := hsettled
    exact ⟨x, mem_settle.mpr (Or.inl hx), rfl⟩
  · rw [settle_listeners]
    rw [takesOff, settle_calls] at hoff
    rcases mem_settle.mp hx with hx | ⟨-, rfl⟩
    · exact h.deaf x hx hcause hoff
    · cases hcause

/-- What a step does. -/
inductive Moves (s : Client α) : ClientEvent α → Client α → Prop
  | called (rpc : Rpc α) : Moves s (.call rpc) (s.call rpc)
  | updated {answers : ℕ} {updateData : Option (UpdatePaymentData α)} {t : Client α}
    (sent : answers < s.sent.length) (updated : Updated answers updateData s.listeners s t) :
    Moves s (.update answers updateData) t
  | timedOut {call : ℕ} {outcome : Outcome α} (started : call < s.calls.length) :
    Moves s (.timeout call)
      ({ s with timers := s.timers.erase call }.settle ⟨call, outcome, none⟩)

theorem moves_of_step {s t : Client α} {e : ClientEvent α} (h : (client α).step s e = some t) :
    Moves s e t := by
  change s.step e = some t at h
  cases e with
  | call rpc =>
    obtain rfl := Option.some.inj h
    exact .called rpc
  | update answers updateData =>
    simp only [step] at h
    split_ifs at h with hsent
    obtain rfl := Option.some.inj h
    exact .updated hsent (emit_updated answers updateData s.listeners s)
  | timeout call =>
    simp only [step] at h
    split_ifs at h with htimer
    split at h
    · rename_i outcome hreject
      obtain rfl := Option.some.inj h
      obtain ⟨rpc, hrpc, -⟩ := Option.bind_eq_some_iff.mp hreject
      exact .timedOut (List.getElem?_eq_some_iff.mp hrpc).1
    · cases h

theorem holds_of_reachable {policy : Policy (Client α) (ClientEvent α)} {s : Client α}
    (hs : (client α).Reachable policy s) : Holds s := by
  refine hs.invariant ?_ fun s e t h _ hstep ↦ ?_
  · rintro s rfl
    exact ⟨List.nodup_nil, by simp [IsSettled], by simp, by simp⟩
  · cases moves_of_step hstep with
    | called rpc => exact h.call rpc
    | updated _ hupdated => exact h.update hupdated
    | timedOut hstarted =>
      refine Holds.settle ?_ ?_ _
      · exact ⟨h.once, h.known, h.listening, h.deaf⟩
      · exact hstarted

end Client

open Client

/-! ### Which calls an update settles -/

/-- What the callers of concurrent methods get: no call is settled twice, an update settles the
calls that are not settled yet and wait for the kind of data it carries, and a call that an update
has settled does not listen any more unless it is a request for the info of a pickup point. -/
structure SettledByKind (s : Client α) : Prop where
  once : (s.settled.map Settlement.call).Nodup
  update : ∀ answers updateData t, s.step (.update answers updateData) = some t →
    ∀ x, x ∈ t.settled ↔ x ∈ s.settled ∨ (¬s.IsSettled x.call ∧ x.cause = some answers ∧
      ∃ rpc data, s.calls[x.call]? = some rpc ∧ updateData = some data ∧ rpc.WaitsFor data ∧
        x.outcome = rpc.outcome data)
  deaf : ∀ x ∈ s.settled, x.cause.isSome → ∀ rpc, s.calls[x.call]? = some rpc →
    (∀ pickupPointId, rpc ≠ .pickupInfoRequest pickupPointId) → x.call ∉ s.listeners

theorem method_off {rpc : Rpc α}
    (h : ∀ pickupPointId, rpc ≠ .pickupInfoRequest pickupPointId) : rpc.method.off = true := by
  cases rpc with
  | pickupInfoRequest pickupPointId => exact absurd rfl (h pickupPointId)
  | _ => rfl

/-- In every run of concurrent calls, updates and timeouts the calls are settled by the kind of the
updates. -/
theorem update_settles {s : Client α} (hs : (client α).Reachable (fun _ _ ↦ True) s) :
    SettledByKind s := by
  have hholds := holds_of_reachable hs
  refine ⟨hholds.once, fun answers updateData t hstep x ↦ ?_, fun x hx hcause rpc hrpc hkind ↦ ?_⟩
  · have hmove : (client α).step s (.update answers updateData) = some t := hstep
    cases Client.moves_of_step hmove with
    | updated _ hupdated =>
      rw [hupdated.settled, takes_eq_some]
      refine or_congr_right ⟨?_, ?_⟩
      · rintro ⟨-, hunsettled, htakes, hcause⟩
        exact ⟨hunsettled, hcause, htakes⟩
      · rintro ⟨hunsettled, hcause, rpc, data, hrpc, htakes⟩
        have hlt : x.call < s.calls.length := (List.getElem?_eq_some_iff.mp hrpc).1
        exact ⟨hholds.listening x.call hlt hunsettled, hunsettled, ⟨rpc, data, hrpc, htakes⟩,
          hcause⟩
  · refine hholds.deaf x hx hcause ?_
    rw [takesOff, hrpc]
    exact method_off hkind

/-! ### One answer for two calls -/

/-- What callers would get if updates said which call they answer: a call is settled by its own
answer, and a settled call does not listen. -/
structure SettledByOwn (s : Client α) : Prop where
  own : ∀ x ∈ s.settled, ∀ answered, x.cause = some answered → answered = x.call
  quiet : ∀ call, s.IsSettled call → call ∉ s.listeners

/-- A coupon and a shipping option are changed at once, and the page answers the change of the
coupon. -/
def overlappingChanges : List (ClientEvent String) :=
  [.call (.couponChange "SALE"), .call (.shippingOptionChange "courier"),
    .update 0 (some { order := some "with the coupon" })]

theorem not_settledByOwn : ¬∀ s, (client String).Reachable (fun _ _ ↦ True) s → SettledByOwn s := by
  intro hown
  obtain ⟨s, hrun, hsettled⟩ : ∃ s,
      (client String).run (fun _ _ ↦ True) ⟨[], [], [], [], []⟩ overlappingChanges = some s ∧
        (⟨1, .resolved { order := some "with the coupon" }, some 0⟩ : Settlement String) ∈
          s.settled := ⟨_, rfl, by decide⟩
  have hzero := (hown s ⟨_, rfl, System.leads_of_run hrun⟩).own _ hsettled 0 rfl
  exact absurd hzero (by decide)

/-- Both changes are settled by the one answer, and neither listens any more. -/
theorem update_settles_witness : ∃ s : Client String,
    s.settled.map Settlement.call = [0, 1] ∧ SettledByKind s := by
  obtain ⟨s, hrun, hsettled⟩ : ∃ s,
      (client String).run (fun _ _ ↦ True) ⟨[], [], [], [], []⟩ overlappingChanges = some s ∧
        s.settled.map Settlement.call = [0, 1] := ⟨_, rfl, by decide⟩
  exact ⟨s, hsettled, update_settles ⟨_, rfl, System.leads_of_run hrun⟩⟩

end YandexPay.Intercom
