import YandexPay.Checkout.Process

/-!
# The payment object of the merchant's page

`BasePayment` of `sdk/payment/_base.ts` with `pageFocusWatcher`. A checkout opens the form; the form
sends messages, and its outcome is emitted to the merchant: `Process`, `Success`, `Abort` or
`Error`. `Process` and `Success` wait for the callback of a counter and then for the focus of the
page, while an interval checks whether the window of the form is still open. Messages, checks and
callbacks come in any order, so that the object is a transition system with these as its events.

A checkout is numbered by `checkoutCounter`, which is kept with each emitted event.
`outcome_at_most_once` says in which runs no checkout has two outcomes.
-/

set_option autoImplicit false
set_option relaxedAutoImplicit false

namespace YandexPay.Sdk

open Transition Checkout

/-! ### Events -/

inductive AbortEventReason
  | close
  | timeout
  deriving DecidableEq

inductive PaymentEvent
  | ready
  | abort (reason : Option AbortEventReason)
  | error (reason : Option String)
  | process (token : String) (paymentMethodInfo : PaymentMethodInfo)
  | ping
  | change
  | reset
  | setup
  | success (orderId : String) (metadata : Option String)
  deriving DecidableEq

namespace PaymentEvent

/-- The events that end a checkout for the merchant. -/
def Outcome : PaymentEvent → Prop
  | .process _ _ | .success _ _ | .abort _ | .error _ => True
  | _ => False

/-- The messages by which the form ends a checkout. An abort message only has the window checked. -/
def Final : PaymentEvent → Prop
  | .process _ _ | .success _ _ | .error _ => True
  | _ => False

instance (event : PaymentEvent) : Decidable event.Outcome := by
  induction event using PaymentEvent.casesOn <;> unfold Outcome <;> infer_instance

instance (event : PaymentEvent) : Decidable event.Final := by
  induction event using PaymentEvent.casesOn <;> unfold Final <;> infer_instance

/-- `keepWindowOpen` -/
def keepWindowOpen : PaymentEvent → Bool
  | .success _ _ => true
  | .process _ (.split _ _ _ _) => true
  | _ => false

end PaymentEvent

/-- An event with the number of the checkout in which it was emitted. -/
structure Emission where
  checkout : ℕ
  event : PaymentEvent
  deriving DecidableEq

/-! ### State -/

/-- A connection to a window of its own, or one that takes the page itself to the form. -/
inductive ConnectionAgent
  | message (closed : Bool)
  | query
  deriving DecidableEq

def ConnectionAgent.isConnected : ConnectionAgent → Bool
  | .message closed => !closed
  | .query => false

/-- `document.visibilityState` -/
inductive VisibilityState
  | visible
  | hidden
  deriving DecidableEq

/-- The fields of the object, the events whose counter has not called back, the events that wait for
the focus of the page, and a record of what has been emitted, the latest first. -/
structure BasePayment where
  checkoutCounter : ℕ
  /-- The connection manager listens until the object is destroyed. -/
  listening : Bool
  connectionAgent : Option ConnectionAgent
  paymentCompleted : Bool
  /-- The event of `checkTargetOpeningTimer`. -/
  checking : Option PaymentEvent
  counting : List PaymentEvent
  focusing : List PaymentEvent
  emitted : List Emission
  deriving DecidableEq

def MAX_DELAY_BEFORE_SEND_TOKEN : ℕ := 5000

/-! ### Methods -/

namespace BasePayment

variable (p : BasePayment)

def emit (event : PaymentEvent) : BasePayment :=
  { p with emitted := ⟨p.checkoutCounter, event⟩ :: p.emitted }

def isConnected : Bool := p.connectionAgent.elim false ConnectionAgent.isConnected

def startCheckingTargetOpening (event : PaymentEvent) : BasePayment :=
  { p with checking := some event }

def stopCheckingTargetOpening : BasePayment := { p with checking := none }

def completeCheckout : BasePayment := { p with paymentCompleted := true }

/-- `closeCheckoutWindow`; the window that is asked to close does so by an event of its own. -/
def closeCheckoutWindow : BasePayment := if p.isConnected then p.stopCheckingTargetOpening else p

def destroyChannel : BasePayment :=
  { p.stopCheckingTargetOpening with connectionAgent := none }

/-- `checkout`; `opened` says whether the browser opens a window. A destroyed object has no manager
to open the form with. -/
def checkout (opened : Bool) : BasePayment :=
  if p.connectionAgent.isSome then p
  else
    let started := { p with
      checkoutCounter := p.checkoutCounter + 1
      paymentCompleted := false }
    if p.listening then
      { started with
        connectionAgent := some (if opened then .message false else .query)
      }.startCheckingTargetOpening (.abort (some .close))
    else started

def complete : BasePayment :=
  if p.connectionAgent.isSome ∧ ¬ p.isConnected then p.destroyChannel else p

def destroy : BasePayment := { p.complete.destroyChannel with listening := false }

/-- `onMessage`; an event with a counter waits for its callback. -/
def onMessage (event : PaymentEvent) : BasePayment :=
  match event with
  | .ready | .change | .reset | .setup => p.emit event
  | .success _ _ | .process _ _ => { p with counting := p.counting ++ [event] }
  | .abort _ => p.startCheckingTargetOpening event
  | .error _ => p.completeCheckout.closeCheckoutWindow.emit event
  | .ping => p

/-- `pageFocusWatcher` up to its first check; without a visibility state it calls back at once. -/
def pageFocusWatcher (event : PaymentEvent) (visibilityState : Bool) : BasePayment :=
  if visibilityState then { p with focusing := p.focusing ++ [event] } else p.emit event

/-- `eventProcessCb`; the counter or its timeout calls it, and only the first of them. -/
def eventProcessCb (event : PaymentEvent) (visibilityState : Bool) : BasePayment :=
  let completed := p.completeCheckout
  let closed := if event.keepWindowOpen then completed else completed.closeCheckoutWindow
  closed.pageFocusWatcher event visibilityState

/-- The check of `pageFocusWatcher` at the milliseconds that have elapsed. -/
def focusChecked (index : ℕ) (event : PaymentEvent) (state : VisibilityState) (elapsed : ℕ) :
    BasePayment :=
  if state = .visible ∨ MAX_DELAY_BEFORE_SEND_TOKEN < elapsed then
    { p with focusing := p.focusing.eraseIdx index }.emit event
  else p

def onTargetOpeningCheck (event : PaymentEvent) : BasePayment :=
  if ¬ p.paymentCompleted ∧ ¬ p.isConnected then
    p.completeCheckout.destroyChannel.emit event
  else p

/-- The window of the form is closed, by the buyer or because the page asked for it. -/
def windowClosed : BasePayment :=
  match p.connectionAgent with
  | some (.message _) => { p with connectionAgent := some (.message true) }
  | _ => p

end BasePayment

/-! ### The system -/

inductive SdkEvent
  | checkout (opened : Bool)
  | message (event : PaymentEvent)
  | windowClosed
  | check
  | counterCalled (index : ℕ) (visibilityState : Bool)
  | focusChecked (index : ℕ) (state : VisibilityState) (elapsed : ℕ)
  | complete
  | beforeUnload
  | destroy
  deriving DecidableEq

namespace BasePayment

def step (p : BasePayment) : SdkEvent → Option BasePayment
  | .checkout opened => some (p.checkout opened)
  | .message event => if p.listening then some (p.onMessage event) else none
  | .windowClosed => some p.windowClosed
  | .check => p.checking.map p.onTargetOpeningCheck
  | .counterCalled index visibilityState =>
    p.counting[index]?.map fun event ↦
      { p with counting := p.counting.eraseIdx index }.eventProcessCb event visibilityState
  | .focusChecked index state elapsed =>
    p.focusing[index]?.map fun event ↦ p.focusChecked index event state elapsed
  | .complete => some p.complete
  | .beforeUnload => some p.destroyChannel
  | .destroy => some p.destroy

def initial : BasePayment := ⟨0, true, none, false, none, [], [], []⟩

/-- The outcomes that were emitted in a checkout. -/
def outcomes (p : BasePayment) (checkout : ℕ) : List Emission :=
  p.emitted.filter fun emission ↦ emission.checkout = checkout ∧ emission.event.Outcome

end BasePayment

/-- The object under any calls, messages, checks and callbacks. -/
def basePayment : System BasePayment SdkEvent where
  start := fun p ↦ p = .initial
  step := BasePayment.step

/-- The form ends a checkout that is not completed, while no counter is waited for; no check finds
the window closed while a counter is waited for; and the next checkout opens when nothing is waited
for. -/
def Orderly (p : BasePayment) : SdkEvent → Prop
  | .message event => event.Final → p.paymentCompleted = false ∧ p.counting = []
  | .check => p.paymentCompleted = false → p.isConnected = false → p.counting = []
  | .checkout _ => p.connectionAgent = none → p.counting = [] ∧ p.focusing = []
  | _ => True

instance (p : BasePayment) (e : SdkEvent) : Decidable (Orderly p e) := by
  induction e using SdkEvent.casesOn <;> unfold Orderly <;> infer_instance

/-! ### What a step changes -/

namespace BasePayment

variable {p q : BasePayment}

theorem outcomes_emit (p : BasePayment) (event : PaymentEvent) (n : ℕ) :
    (p.emit event).outcomes n =
      if p.checkoutCounter = n ∧ event.Outcome then ⟨p.checkoutCounter, event⟩ :: p.outcomes n
      else p.outcomes n := by
  rw [outcomes, emit, List.filter_cons]
  simp only [decide_eq_true_eq]
  rfl

theorem outcomes_emit_of_ne {event : PaymentEvent} {n : ℕ} (h : n ≠ p.checkoutCounter) :
    (p.emit event).outcomes n = p.outcomes n := by
  rw [outcomes_emit, if_neg fun hboth ↦ h hboth.1.symm]

theorem outcomes_emit_of_not_outcome {event : PaymentEvent} (h : ¬ event.Outcome) (n : ℕ) :
    (p.emit event).outcomes n = p.outcomes n := by
  rw [outcomes_emit, if_neg fun hboth ↦ h hboth.2]

theorem length_outcomes_emit_le (p : BasePayment) (event : PaymentEvent) (n : ℕ) :
    ((p.emit event).outcomes n).length ≤ (p.outcomes n).length + 1 := by
  rw [outcomes_emit]
  split_ifs
  · exact le_rfl
  · exact Nat.le_succ _

end BasePayment

/-- The fields that a statement on outcomes reads, over one step. -/
inductive Effect (p : BasePayment) : SdkEvent → BasePayment → Prop
  | kept {e : SdkEvent} {q : BasePayment} (counter : q.checkoutCounter = p.checkoutCounter)
    (completed : q.paymentCompleted = p.paymentCompleted) (counting : q.counting = p.counting)
    (focusing : q.focusing = p.focusing) (outcomes : ∀ n, q.outcomes n = p.outcomes n) :
    Effect p e q
  | opened {opened : Bool} {q : BasePayment} (agent : p.connectionAgent = none)
    (counter : q.checkoutCounter = p.checkoutCounter + 1) (counting : q.counting = p.counting)
    (focusing : q.focusing = p.focusing) (outcomes : ∀ n, q.outcomes n = p.outcomes n) :
    Effect p (.checkout opened) q
  | counted {event : PaymentEvent} (final : event.Final) :
    Effect p (.message event) { p with counting := p.counting ++ [event] }
  | ended {e : SdkEvent} {q : BasePayment} (event : PaymentEvent)
    (cause : (∃ reason, e = .message (.error reason)) ∨
      e = .check ∧ p.paymentCompleted = false ∧ p.isConnected = false)
    (counter : q.checkoutCounter = p.checkoutCounter) (completed : q.paymentCompleted = true)
    (counting : q.counting = p.counting) (focusing : q.focusing = p.focusing)
    (outcomes : ∀ n, q.outcomes n = (p.emit event).outcomes n) : Effect p e q
  | called {index : ℕ} {visibilityState : Bool} {q : BasePayment} (event : PaymentEvent)
    (waiting : p.counting[index]? = some event) (counter : q.checkoutCounter = p.checkoutCounter)
    (completed : q.paymentCompleted = true) (counting : q.counting = p.counting.eraseIdx index)
    (sent : q.focusing = p.focusing ++ [event] ∧ (∀ n, q.outcomes n = p.outcomes n) ∨
      q.focusing = p.focusing ∧ ∀ n, q.outcomes n = (p.emit event).outcomes n) :
    Effect p (.counterCalled index visibilityState) q
  | focused {index : ℕ} {state : VisibilityState} {elapsed : ℕ} {q : BasePayment}
    (event : PaymentEvent) (waiting : p.focusing[index]? = some event)
    (counter : q.checkoutCounter = p.checkoutCounter)
    (completed : q.paymentCompleted = p.paymentCompleted) (counting : q.counting = p.counting)
    (focusing : q.focusing = p.focusing.eraseIdx index)
    (outcomes : ∀ n, q.outcomes n = (p.emit event).outcomes n) :
    Effect p (.focusChecked index state elapsed) q

section Effects

variable {p q : BasePayment} {e : SdkEvent}

theorem effect_refl (e : SdkEvent) : Effect p e p := .kept rfl rfl rfl rfl fun _ ↦ rfl

theorem effect_checkout (opened : Bool) : Effect p (.checkout opened) (p.checkout opened) := by
  rw [BasePayment.checkout]
  split_ifs with hagent hlistening
  · exact effect_refl _
  all_goals
    refine .opened (Option.not_isSome_iff_eq_none.mp hagent) rfl rfl rfl fun n ↦ rfl

theorem effect_complete (e : SdkEvent) : Effect p e p.complete := by
  rw [BasePayment.complete]
  split_ifs
  · exact .kept rfl rfl rfl rfl fun _ ↦ rfl
  · exact effect_refl e

theorem effect_onMessage (event : PaymentEvent) :
    Effect p (.message event) (p.onMessage event) := by
  have hkept : ¬ event.Outcome → Effect p (.message event) (p.emit event) :=
    fun h ↦ .kept rfl rfl rfl rfl (BasePayment.outcomes_emit_of_not_outcome h)
  cases event with
  | ready => exact hkept id
  | change => exact hkept id
  | reset => exact hkept id
  | setup => exact hkept id
  | ping => exact effect_refl _
  | abort reason => exact .kept rfl rfl rfl rfl fun _ ↦ rfl
  | process token paymentMethodInfo => exact .counted trivial
  | success orderId metadata => exact .counted trivial
  | error reason =>
    rw [BasePayment.onMessage, BasePayment.closeCheckoutWindow]
    split_ifs <;>
      exact .ended (.error reason) (Or.inl ⟨reason, rfl⟩) rfl rfl rfl rfl fun _ ↦ rfl

theorem effect_eventProcessCb {index : ℕ} {event : PaymentEvent}
    (h : p.counting[index]? = some event) (visibilityState : Bool) :
    Effect p (.counterCalled index visibilityState)
      ({ p with counting := p.counting.eraseIdx index }.eventProcessCb event visibilityState) := by
  rw [BasePayment.eventProcessCb, BasePayment.pageFocusWatcher, BasePayment.closeCheckoutWindow]
  split_ifs <;>
    first
    | exact .called event h rfl rfl rfl (Or.inl ⟨rfl, fun _ ↦ rfl⟩)
    | exact .called event h rfl rfl rfl (Or.inr ⟨rfl, fun _ ↦ rfl⟩)

theorem effect_of_step (h : basePayment.step p e = some q) : Effect p e q := by
  change p.step e = some q at h
  cases e with
  | checkout opened =>
    obtain rfl := Option.some.inj h
    exact effect_checkout opened
  | message event =>
    rw [BasePayment.step] at h
    split_ifs at h
    obtain rfl := Option.some.inj h
    exact effect_onMessage event
  | windowClosed =>
    obtain rfl := Option.some.inj h
    rw [BasePayment.windowClosed]
    split
    · exact .kept rfl rfl rfl rfl fun _ ↦ rfl
    · exact effect_refl _
  | check =>
    obtain ⟨event, -, rfl⟩ := Option.map_eq_some_iff.mp h
    rw [BasePayment.onTargetOpeningCheck]
    split_ifs with hclosed
    · refine .ended event (Or.inr ⟨rfl, ?_, ?_⟩) rfl rfl rfl rfl fun _ ↦ rfl
      · exact Bool.eq_false_of_not_eq_true hclosed.1
      · exact Bool.eq_false_of_not_eq_true hclosed.2
    · exact effect_refl _
  | counterCalled index visibilityState =>
    obtain ⟨event, hevent, rfl⟩ := Option.map_eq_some_iff.mp h
    exact effect_eventProcessCb hevent visibilityState
  | focusChecked index state elapsed =>
    obtain ⟨event, hevent, rfl⟩ := Option.map_eq_some_iff.mp h
    rw [BasePayment.focusChecked]
    split_ifs
    · exact .focused event hevent rfl rfl rfl rfl fun _ ↦ rfl
    · exact effect_refl _
  | complete =>
    obtain rfl := Option.some.inj h
    exact effect_complete _
  | beforeUnload =>
    obtain rfl := Option.some.inj h
    exact .kept rfl rfl rfl rfl fun _ ↦ rfl
  | destroy =>
    obtain rfl := Option.some.inj h
    rw [BasePayment.destroy, BasePayment.complete]
    split_ifs <;> exact .kept rfl rfl rfl rfl fun _ ↦ rfl

end Effects

/-! ### One outcome -/

/-- The outcomes of the present checkout, emitted or waited for, are at most one, and there is none
before the payment is completed but one that waits for its counter. -/
structure Single (p : BasePayment) : Prop where
  once : ∀ n, (p.outcomes n).length ≤ 1
  future : ∀ n, p.checkoutCounter < n → p.outcomes n = []
  waiting : (p.outcomes p.checkoutCounter).length + p.counting.length + p.focusing.length ≤ 1
  uncompleted : p.paymentCompleted = false → p.outcomes p.checkoutCounter = [] ∧ p.focusing = []

theorem Single.of_same {p q : BasePayment} (h : Single p)
    (counter : q.checkoutCounter = p.checkoutCounter) (outcomes : ∀ n, q.outcomes n = p.outcomes n)
    (waiting : q.counting.length + q.focusing.length = p.counting.length + p.focusing.length)
    (uncompleted : q.paymentCompleted = false →
      p.paymentCompleted = false ∧ q.focusing = p.focusing) : Single q where
  once := fun n ↦ by
    rw [outcomes]
    exact h.once n
  future := fun n hn ↦ by
    rw [outcomes]
    exact h.future n (counter ▸ hn)
  waiting := by
    rw [outcomes, counter, Nat.add_assoc, waiting, ← Nat.add_assoc]
    exact h.waiting
  uncompleted := fun hq ↦ by
    obtain ⟨hp, hfocusing⟩ := uncompleted hq
    rw [outcomes, counter, hfocusing]
    exact h.uncompleted hp

/-- An outcome may be emitted when the checkout has none and none is waited for any more. -/
theorem Single.of_emit {p q : BasePayment} (h : Single p) (event : PaymentEvent)
    (counter : q.checkoutCounter = p.checkoutCounter) (completed : q.paymentCompleted = true)
    (outcomes : ∀ n, q.outcomes n = (p.emit event).outcomes n)
    (room : (p.outcomes p.checkoutCounter).length + q.counting.length + q.focusing.length = 0) :
    Single q where
  once := fun n ↦ by
    rw [outcomes]
    by_cases hn : n = p.checkoutCounter
    · have hle := BasePayment.length_outcomes_emit_le p event n
      rw [hn] at hle ⊢
      omega
    · rw [BasePayment.outcomes_emit_of_ne hn]
      exact h.once n
  future := fun n hn ↦ by
    rw [counter] at hn
    rw [outcomes, BasePayment.outcomes_emit_of_ne hn.ne']
    exact h.future n hn
  waiting := by
    have hle := BasePayment.length_outcomes_emit_le p event p.checkoutCounter
    rw [outcomes, counter]
    omega
  uncompleted := fun hq ↦ absurd (completed.symm.trans hq) Bool.noConfusion

theorem Single.none_of_uncompleted {p : BasePayment} (h : Single p)
    (hcompleted : p.paymentCompleted = false) (hcounting : p.counting = []) :
    (p.outcomes p.checkoutCounter).length + p.counting.length + p.focusing.length = 0 := by
  obtain ⟨houtcomes, hfocusing⟩ := h.uncompleted hcompleted
  rw [houtcomes, hcounting, hfocusing]
  rfl

theorem length_eraseIdx_succ {l : List PaymentEvent} {index : ℕ} {event : PaymentEvent}
    (h : l[index]? = some event) : (l.eraseIdx index).length + 1 = l.length := by
  obtain ⟨hlt, -⟩ := List.getElem?_eq_some_iff.mp h
  rw [List.length_eraseIdx_of_lt hlt]
  omega

theorem single_step {p q : BasePayment} {e : SdkEvent} (h : Single p) (horderly : Orderly p e)
    (hstep : Effect p e q) : Single q := by
  cases hstep with
  | kept counter completed counting focusing outcomes =>
    refine h.of_same counter outcomes (by rw [counting, focusing]) fun hq ↦ ⟨?_, focusing⟩
    rwa [completed] at hq
  | opened agent counter counting focusing outcomes =>
    obtain ⟨hcounting, hfocusing⟩ := horderly agent
    -- The checkout that opens has no outcome, and nothing is waited for.
    have hnone : q.outcomes q.checkoutCounter = [] := by
      rw [outcomes, counter]
      exact h.future _ (Nat.lt_succ_self _)
    refine ⟨fun n ↦ ?_, fun n hn ↦ ?_, ?_, fun _ ↦ ⟨hnone, focusing.trans hfocusing⟩⟩
    · rw [outcomes]
      exact h.once n
    · rw [outcomes]
      exact h.future n ((Nat.lt_succ_self _).trans (counter.symm.trans_lt hn))
    · rw [hnone, counting, focusing, hcounting, hfocusing]
      exact Nat.zero_le 1
  | counted final =>
    obtain ⟨hcompleted, hcounting⟩ := horderly final
    obtain ⟨houtcomes, hfocusing⟩ := h.uncompleted hcompleted
    refine ⟨h.once, h.future, ?_, h.uncompleted⟩
    change (p.outcomes p.checkoutCounter).length + _ + p.focusing.length ≤ 1
    rw [houtcomes, hcounting, hfocusing]
    exact le_rfl
  | ended event cause counter completed counting focusing outcomes =>
    have hquiet : p.paymentCompleted = false ∧ p.counting = [] := by
      rcases cause with ⟨reason, rfl⟩ | ⟨rfl, hcompleted, hconnected⟩
      · exact horderly trivial
      · exact ⟨hcompleted, horderly hcompleted hconnected⟩
    refine h.of_emit event counter completed outcomes ?_
    rw [counting, focusing]
    exact h.none_of_uncompleted hquiet.1 hquiet.2
  | called event waiting counter completed counting sent =>
    have hlength := length_eraseIdx_succ waiting
    rw [← counting] at hlength
    have hwaiting := h.waiting
    rcases sent with ⟨focusing, outcomes⟩ | ⟨focusing, outcomes⟩
    · refine h.of_same counter outcomes ?_ fun hq ↦
        absurd (completed.symm.trans hq) Bool.noConfusion
      rw [focusing, List.length_append, List.length_singleton]
      omega
    · refine h.of_emit event counter completed outcomes ?_
      rw [focusing]
      omega
  | focused event waiting counter completed counting focusing outcomes =>
    have hlength := length_eraseIdx_succ waiting
    rw [← focusing] at hlength
    have hwaiting := h.waiting
    have hcompleted : q.paymentCompleted = true := by
      by_contra hfalse
      rw [Bool.not_eq_true, completed] at hfalse
      rw [(h.uncompleted hfalse).2] at waiting
      cases waiting
    refine h.of_emit event counter hcompleted outcomes ?_
    rw [counting]
    omega

/-- In a run whose form, checks and callbacks are orderly, no checkout has two outcomes. -/
theorem outcome_at_most_once {p : BasePayment} (hp : basePayment.Reachable Orderly p)
    (checkout : ℕ) : (p.outcomes checkout).length ≤ 1 := by
  have hsingle : Single p := by
    refine hp.invariant ?_ fun s e t h horderly hstep ↦
      single_step h horderly (effect_of_step hstep)
    rintro s rfl
    exact ⟨fun _ ↦ Nat.zero_le 1, fun _ _ ↦ rfl, Nat.zero_le 1, fun _ ↦ ⟨rfl, rfl⟩⟩
  exact hsingle.once checkout

/-! ### Two outcomes -/

def payWithCard : PaymentEvent := .process "token" (.card "1234" "VISA")

/-- The form is paid, its window is closed by the page, and the page is focused. -/
def paidCheckout : List SdkEvent :=
  [.checkout true, .message .ready, .message payWithCard, .counterCalled 0 true, .windowClosed,
    .focusChecked 0 .hidden 500, .focusChecked 0 .visible 900, .complete, .checkout true,
    .windowClosed, .check]

theorem paidCheckout_isSome : (basePayment.run Orderly .initial paidCheckout).isSome := by
  decide

theorem outcome_at_most_once_witness :
    let p := (basePayment.run Orderly .initial paidCheckout).get paidCheckout_isSome
    p.emitted = [⟨2, .abort (some .close)⟩, ⟨1, payWithCard⟩, ⟨1, .ready⟩] ∧
      (p.outcomes 1).length ≤ 1 :=
  ⟨rfl, outcome_at_most_once (System.reachable_get rfl paidCheckout_isSome) 1⟩

/-- The message is sent twice; the window is found closed before the counter calls back; the message
comes after the abort; and the focus of one checkout is waited for in the next. -/
def disorderlyCheckouts : List (List SdkEvent) :=
  [[.checkout true, .message payWithCard, .message payWithCard, .counterCalled 0 true,
      .counterCalled 0 true, .focusChecked 0 .visible 0, .focusChecked 0 .visible 0],
    [.checkout true, .message payWithCard, .windowClosed, .check, .counterCalled 0 true,
      .focusChecked 0 .visible 0],
    [.checkout true, .windowClosed, .check, .message payWithCard, .counterCalled 0 true,
      .focusChecked 0 .visible 0],
    [.checkout true, .message payWithCard, .counterCalled 0 true, .windowClosed, .complete,
      .checkout true, .windowClosed, .check, .focusChecked 0 .visible 900]]

theorem two_outcomes :
    disorderlyCheckouts.Forall fun events ↦
      ∃ p ∈ basePayment.run (fun _ _ ↦ True) .initial events,
        basePayment.Reachable (fun _ _ ↦ True) p ∧
          ¬ (p.outcomes p.checkoutCounter).length ≤ 1 := by
  refine List.forall_iff_forall_mem.mpr fun events hevents ↦ ?_
  have hrun : ∃ p ∈ basePayment.run (fun _ _ ↦ True) .initial events,
      ¬ (p.outcomes p.checkoutCounter).length ≤ 1 := by
    revert events
    decide
  obtain ⟨p, hp, houtcomes⟩ := hrun
  exact ⟨p, hp, ⟨_, rfl, System.leads_of_run hp⟩, houtcomes⟩

end YandexPay.Sdk
