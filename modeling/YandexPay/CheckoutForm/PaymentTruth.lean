import YandexPay.CheckoutForm.Payment

/-!
# What the merchant is told of a payment

`Justified` says what a message of the form claims: that the order was announced and is paid (or is
to be paid in cash), that the data were returned for it, that the error occurred, all of one
payment. `Truthful` says that what was sent is justified and that the store and the stage say
nothing that is not. The lemmas of `Following` are what the listeners make of each event of the
process.
-/

set_option autoImplicit false
set_option relaxedAutoImplicit false

namespace YandexPay.CheckoutForm

open Checkout

variable {CheckoutData : Type}

/-! ### What is claimed -/

/-- The process has done this for a payment. -/
def Recorded (p : CheckoutProcess) (payment : ℕ) (action : Action) : Prop :=
  ∃ record ∈ p.records, record.payment = payment ∧ record.action = action

/-- The server has said of the transaction that it is paid. -/
def PaidFor (p : CheckoutProcess) (payment : ℕ) (transactionId : Option String) : Prop :=
  transactionId.isSome ∧ ∃ status, (status = .authorized ∨ status = .charged) ∧
    Recorded p payment (.reported transactionId (.transactionStatusChanged status))

/-- What a message that is sent during a payment claims of it. Payments are numbered from 1. -/
def Justified (p : CheckoutProcess) (inputs : List (PaymentInput CheckoutData)) (payment : ℕ) :
    PaymentMessage CheckoutData → Prop
  | .successCheckout orderId metadata => ∃ order : Order,
      order.payment = payment ∧ order.orderId = orderId ∧ order.metadata = metadata ∧
        Recorded p payment (.emitted (.paymentOrder order)) ∧
        ((∃ input ∈ inputs[payment - 1]?, input.paymentMethodType = .cash) ∨
          PaidFor p payment order.transactionId)
  | .processPayment processData =>
    Recorded p payment (.emitted (.paymentData processData.paymentData)) ∧
      ∃ input ∈ inputs[payment - 1]?, processData.checkoutData = input.checkoutData
  | .formError error => Recorded p payment (.emitted (.error .createPayment error))

/-! ### The stage and the store -/

/-- The screens that only show that the form is busy or that a bank asks for something. -/
def PaymentStage.Waits : PaymentStage → Prop
  | .payment | .auth3ds _ _ => True
  | _ => False

namespace PaymentStage

variable {stage : PaymentStage}

/-- No payment has been started that the form shows. -/
def Idle (stage : PaymentStage) : Prop := stage = .initial ∨ stage = .newCard

theorem eq_initial (h : stage.type = .initial) : stage = .initial := by
  cases stage with
  | initial => rfl
  | _ => cases h

theorem eq_newCard (h : stage.type = .newCard) : stage = .newCard := by
  cases stage with
  | newCard => rfl
  | _ => cases h

theorem waits_of_auth3ds (h : stage.type = .auth3ds) : stage.Waits := by
  cases stage with
  | auth3ds method url => trivial
  | _ => cases h

theorem eq_splitPayment (h : stage.type = .splitPayment) : ∃ url, stage = .splitPayment url := by
  cases stage with
  | splitPayment url => exact ⟨url, rfl⟩
  | _ => cases h

theorem eq_successRedirect (h : stage.type = .successRedirect) : stage = .successRedirect := by
  cases stage with
  | successRedirect => rfl
  | _ => cases h

end PaymentStage

/-- What the stage says of the payment started last. -/
def PaymentForm.StageTrue (IS_CHECKOUT_SERVER : Bool) (f : PaymentForm CheckoutData) : Prop :=
  match f.stage with
  | .splitPayment _ | .successRedirect => IS_CHECKOUT_SERVER = false ∧
      ∃ processData, f.processData = some processData ∧
        Justified f.process f.inputs f.process.started (.processPayment processData)
  | .failed _ (some error) =>
    Justified f.process f.inputs f.process.started (.formError error)
  | _ => True

/-- What holds between two events of one step, too. -/
structure Truthful (IS_CHECKOUT_SERVER : Bool) (f : PaymentForm CheckoutData) : Prop where
  inputs : f.inputs.length = f.process.started
  listeners : ∀ input ∈ f.listeners, f.inputs[f.process.started - 1]? = some input
  announced : ∀ order, f.order = some order →
    Recorded f.process order.payment (.emitted (.paymentOrder order))
  stage : f.StageTrue IS_CHECKOUT_SERVER
  sent : ∀ m ∈ f.sent, Justified f.process f.inputs m.1 m.2

/-! ### Records grow -/

section

variable {p q : CheckoutProcess} {recs : List Record}

theorem Recorded.mono {payment : ℕ} {action : Action} (h : Recorded p payment action)
    (hrecords : q.records = recs ++ p.records) : Recorded q payment action := by
  obtain ⟨record, hmem, hrecord⟩ := h
  exact ⟨record, hrecords ▸ List.mem_append_right _ hmem, hrecord⟩

theorem PaidFor.mono {payment : ℕ} {transactionId : Option String}
    (h : PaidFor p payment transactionId) (hrecords : q.records = recs ++ p.records) :
    PaidFor q payment transactionId := by
  obtain ⟨hid, status, hstatus, hrecorded⟩ := h
  exact ⟨hid, status, hstatus, hrecorded.mono hrecords⟩

/-- A message stays justified, also when more payments are started. -/
theorem Justified.mono {inputs inputs' more : List (PaymentInput CheckoutData)} {payment : ℕ}
    {message : PaymentMessage CheckoutData} (h : Justified p inputs payment message)
    (hrecords : q.records = recs ++ p.records) (hinputs : inputs' = inputs ++ more) :
    Justified q inputs' payment message := by
  have hinput : ∀ input ∈ inputs[payment - 1]?, input ∈ inputs'[payment - 1]? := by
    intro input hinput
    rw [hinputs, List.getElem?_append_left (List.getElem?_eq_some_iff.mp hinput).1]
    exact hinput
  cases message with
  | successCheckout orderId metadata =>
    obtain ⟨order, hpayment, hid, hmetadata, hannounced, hpaid⟩ := h
    refine ⟨order, hpayment, hid, hmetadata, hannounced.mono hrecords, ?_⟩
    rcases hpaid with ⟨input, hmem, hcash⟩ | hpaid
    · exact Or.inl ⟨input, hinput input hmem, hcash⟩
    · exact Or.inr (hpaid.mono hrecords)
  | processPayment processData =>
    obtain ⟨hrecorded, input, hmem, hdata⟩ := h
    exact ⟨hrecorded.mono hrecords, input, hinput input hmem, hdata⟩
  | formError error => exact Recorded.mono h hrecords

theorem emittedEvents_eq (recs : List Record) (hrecords : q.records = recs ++ p.records) :
    emittedEvents p q = recs.reverse.filterMap fun record ↦ eventOf record.action := by
  rw [emittedEvents, hrecords, List.length_append, Nat.add_sub_cancel, List.take_left']
  rfl

end

/-! ### What services leave as it is -/

namespace PaymentForm

variable (server : Bool) (f : PaymentForm CheckoutData)

theorem sendPaymentDataService_frame :
    (f.sendPaymentDataService server).process = f.process ∧
      (f.sendPaymentDataService server).listeners = f.listeners ∧
      (f.sendPaymentDataService server).order = f.order := by
  unfold sendPaymentDataService
  split_ifs
  · split <;> exact ⟨rfl, rfl, rfl⟩
  · split <;> exact ⟨rfl, rfl, rfl⟩

/-- A success is shown, or that it cannot be sent. -/
theorem stage_showPaymentInfoService :
    (f.showPaymentInfoService server).stage = .successInfo ∨
      (f.showPaymentInfoService server).stage = .failed none none := by
  unfold showPaymentInfoService sendPaymentDataService
  split_ifs
  · split
    · exact Or.inr rfl
    · exact Or.inl rfl
  · split
    · exact Or.inr rfl
    · exact Or.inl rfl

theorem follow_of_nil {f : PaymentForm CheckoutData} (h : f.listeners = []) (q : CheckoutProcess) :
    f.follow server q = { f with process := q } := by
  unfold follow
  generalize emittedEvents f.process q = events
  induction events with
  | nil => rfl
  | cons event events ih =>
    rw [List.foldl_cons, emit]
    simp only [h, List.foldl_nil]
    simpa only [h] using ih

theorem listeners_listen (input : PaymentInput CheckoutData) (event : CheckoutProcessEvent) :
    (f.listen server input event).listeners = f.listeners := by
  have hshow : ∀ f : PaymentForm CheckoutData,
      (f.showPaymentInfoService server).listeners = f.listeners :=
    fun f ↦ (sendPaymentDataService_frame server (f.setPaymentStage .successInfo)).2.1
  cases event with
  | startServerPayment | startClientPayment | startWatchServerPayment | transaction3ds
  | challengeRedirect | paymentData => rfl
  | error state error =>
    unfold listen
    dsimp only
    split_ifs <;> rfl
  | paymentOrder order =>
    unfold listen
    dsimp only
    split_ifs
    · exact hshow _
    · rfl
  | transactionStatusChanged status =>
    cases status with
    | authorized | charged => exact hshow f
    | new | failed | threedsChallenge => rfl

theorem follow_of_singleton {f : PaymentForm CheckoutData} {input : PaymentInput CheckoutData}
    (h : f.listeners = [input]) (q : CheckoutProcess) :
    f.follow server q = (emittedEvents f.process q).foldl
      (fun f event ↦ f.listen server input event) { f with process := q } := by
  have hfold : ∀ (events : List CheckoutProcessEvent) (g : PaymentForm CheckoutData),
      g.listeners = [input] → events.foldl (fun f event ↦ f.emit server event) g =
        events.foldl (fun f event ↦ f.listen server input event) g := by
    intro events
    induction events with
    | nil => exact fun _ _ ↦ rfl
    | cons event events ih =>
      intro g hg
      have hemit : g.emit server event = g.listen server input event := by
        rw [emit, hg, List.foldl_cons, List.foldl_nil]
      rw [List.foldl_cons, List.foldl_cons, hemit]
      exact ih _ ((listeners_listen server g input event).trans hg)
  exact hfold _ _ h

end PaymentForm

/-! ### Truthful steps -/

namespace Truthful

variable {server : Bool} {f : PaymentForm CheckoutData}

theorem process (h : Truthful server f) {q : CheckoutProcess} {recs : List Record}
    (hrecords : q.records = recs ++ f.process.records) (hstarted : q.started = f.process.started) :
    Truthful server { f with process := q } where
  inputs := h.inputs.trans hstarted.symm
  listeners := by
    intro input hinput
    rw [hstarted]
    exact h.listeners input hinput
  announced := fun order horder ↦ (h.announced order horder).mono hrecords
  stage := by
    have hstage := h.stage
    unfold PaymentForm.StageTrue at hstage ⊢
    dsimp only
    rw [hstarted]
    split at hstage
    · obtain ⟨hserver, processData, hdata, hjustified⟩ := hstage
      exact ⟨hserver, processData, hdata, hjustified.mono hrecords (List.append_nil _).symm⟩
    · obtain ⟨hserver, processData, hdata, hjustified⟩ := hstage
      exact ⟨hserver, processData, hdata, hjustified.mono hrecords (List.append_nil _).symm⟩
    · exact Recorded.mono hstage hrecords
    · trivial
  sent := fun m hm ↦ (h.sent m hm).mono hrecords (List.append_nil _).symm

theorem setPaymentStage (h : Truthful server f) (stage : PaymentStage)
    (hstage : (f.setPaymentStage stage).StageTrue server) :
    Truthful server (f.setPaymentStage stage) :=
  ⟨h.inputs, h.listeners, h.announced, hstage, h.sent⟩

theorem send (h : Truthful server f) {message : PaymentMessage CheckoutData}
    (hmessage : Justified f.process f.inputs f.process.started message) :
    Truthful server (f.send message) :=
  ⟨h.inputs, h.listeners, h.announced, h.stage, List.forall_mem_cons.mpr ⟨hmessage, h.sent⟩⟩

/-- The payment data may be sent if the order is that of the payment and paid, and if the data are
those that came for it. -/
theorem sendPaymentDataService (h : Truthful server f)
    (horder : server = true → ∀ order, f.order = some order →
      order.payment = f.process.started ∧
        ((∃ input ∈ f.inputs[f.process.started - 1]?, input.paymentMethodType = .cash) ∨
          PaidFor f.process f.process.started order.transactionId))
    (hdata : server = false → ∀ processData, f.processData = some processData →
      Justified f.process f.inputs f.process.started (.processPayment processData)) :
    Truthful server (f.sendPaymentDataService server) := by
  unfold PaymentForm.sendPaymentDataService
  split_ifs with hserver
  · split
    · exact h.setPaymentStage _ trivial
    · rename_i order hsome
      obtain ⟨hpayment, hpaid⟩ := horder hserver order hsome
      exact h.send ⟨order, hpayment, rfl, rfl, hpayment ▸ h.announced order hsome, hpaid⟩
  · split
    · exact h.setPaymentStage _ trivial
    · rename_i processData hsome
      exact h.send (hdata (Bool.not_eq_true _ ▸ hserver) processData hsome)

theorem showPaymentInfoService (h : Truthful server f)
    (horder : server = true → ∀ order, f.order = some order →
      order.payment = f.process.started ∧
        ((∃ input ∈ f.inputs[f.process.started - 1]?, input.paymentMethodType = .cash) ∨
          PaidFor f.process f.process.started order.transactionId))
    (hdata : server = false → ∀ processData, f.processData = some processData →
      Justified f.process f.inputs f.process.started (.processPayment processData)) :
    Truthful server (f.showPaymentInfoService server) :=
  (h.setPaymentStage .successInfo trivial).sendPaymentDataService horder hdata

end Truthful

/-! ### The listeners of one payment -/

/-- The form after a step of the process and some of the events of that step. -/
structure Following (server : Bool) (q : CheckoutProcess) (input : PaymentInput CheckoutData)
    (g : PaymentForm CheckoutData) : Prop where
  truthful : Truthful server g
  process : g.process = q
  listeners : g.listeners = [input]
  busy : ¬ g.stage.Idle

namespace Following

variable {server : Bool} {q : CheckoutProcess} {input : PaymentInput CheckoutData}
  {g : PaymentForm CheckoutData}

theorem setPaymentStage (h : Following server q input g) {stage : PaymentStage}
    (hidle : ¬ stage.Idle) (htrue : (g.setPaymentStage stage).StageTrue server) :
    Following server q input (g.setPaymentStage stage) :=
  ⟨h.truthful.setPaymentStage stage htrue, h.process, h.listeners, hidle⟩

theorem showPaymentInfoService (h : Following server q input g)
    (hserver : server = true) (hpaid : ∀ order, g.order = some order →
      order.payment = q.started ∧
        ((∃ input ∈ g.inputs[q.started - 1]?, input.paymentMethodType = .cash) ∨
          PaidFor q q.started order.transactionId)) :
    Following server q input (g.showPaymentInfoService server) ∧
      (g.showPaymentInfoService server).order = g.order ∧
      ¬ (g.showPaymentInfoService server).stage.Waits := by
  obtain ⟨hprocess, hlisteners, horder⟩ :=
    PaymentForm.sendPaymentDataService_frame server (g.setPaymentStage .successInfo)
  have hstage := PaymentForm.stage_showPaymentInfoService server g
  refine ⟨⟨h.truthful.showPaymentInfoService (fun _ ↦ ?_) ?_, hprocess.trans h.process,
    hlisteners.trans h.listeners, ?_⟩, horder, ?_⟩
  · rw [h.process]
    exact hpaid
  · exact fun hclient ↦ absurd (hserver.symm.trans hclient) Bool.noConfusion
  · rintro (hidle | hidle) <;> rcases hstage with hstage | hstage <;>
      exact PaymentStage.noConfusion (hidle.symm.trans hstage)
  · rcases hstage with hstage | hstage <;> rw [hstage] <;> exact id

theorem error (h : Following server q input g) {state : ErrorState} {error : JsError}
    (hrecorded : Recorded q q.started (.emitted (.error state error))) :
    Following server q input (g.listen server input (.error state error)) ∧
      (g.listen server input (.error state error)).order = g.order ∧
      ¬ (g.listen server input (.error state error)).stage.Waits := by
  have hidle : ∀ reason action, ¬ (PaymentStage.failed reason action).Idle := by
    rintro reason action (h | h) <;> cases h
  unfold PaymentForm.listen
  dsimp only
  split_ifs with hstate
  · refine ⟨h.setPaymentStage (hidle _ _) ?_, rfl, id⟩
    change Recorded g.process g.process.started (.emitted (.error .createPayment error))
    rw [h.process]
    exact hstate ▸ hrecorded
  · exact ⟨h.setPaymentStage (hidle _ _) trivial, rfl, id⟩

theorem paymentOrder (h : Following server q input g) (hserver : server = true) {order : Order}
    (hpayment : order.payment = q.started)
    (hrecorded : Recorded q q.started (.emitted (.paymentOrder order))) :
    Following server q input (g.listen server input (.paymentOrder order)) ∧
      (g.listen server input (.paymentOrder order)).order = some order ∧
      (input.paymentMethodType = .cash →
        ¬ (g.listen server input (.paymentOrder order)).stage.Waits) := by
  have hset : Following server q input { g with order := some order } := by
    refine ⟨⟨h.truthful.inputs, h.truthful.listeners, ?_, h.truthful.stage, h.truthful.sent⟩,
      h.process, h.listeners, h.busy⟩
    rintro announced hannounced
    obtain rfl := Option.some.inj hannounced
    change Recorded g.process order.payment _
    rw [h.process, hpayment]
    exact hrecorded
  unfold PaymentForm.listen
  dsimp only
  split_ifs with hcash
  · have hinput := h.truthful.listeners input (h.listeners ▸ List.mem_singleton_self input)
    obtain ⟨hshown, horder, hwaits⟩ := hset.showPaymentInfoService hserver fun current hcurrent ↦ by
      obtain rfl := Option.some.inj hcurrent
      exact ⟨hpayment, Or.inl ⟨input, h.process ▸ hinput, hcash⟩⟩
    exact ⟨hshown, horder, fun _ ↦ hwaits⟩
  · exact ⟨hset, rfl, fun h ↦ absurd h hcash⟩

theorem paymentData (h : Following server q input g) (hclient : server = false)
    {data : PaymentData} (hrecorded : Recorded q q.started (.emitted (.paymentData data))) :
    Following server q input (g.listen server input (.paymentData data)) ∧
      (g.listen server input (.paymentData data)).order = g.order ∧
      ¬ (g.listen server input (.paymentData data)).stage.Waits := by
  have hinput := h.truthful.listeners input (h.listeners ▸ List.mem_singleton_self input)
  have hjustified : Justified g.process g.inputs g.process.started
      (.processPayment ⟨data, input.checkoutData⟩) := by
    refine ⟨?_, input, hinput, rfl⟩
    rw [h.process]
    exact hrecorded
  have hset : Truthful server { g with processData := some ⟨data, input.checkoutData⟩ } := by
    refine ⟨h.truthful.inputs, h.truthful.listeners, h.truthful.announced, ?_, h.truthful.sent⟩
    have hstage := h.truthful.stage
    unfold PaymentForm.StageTrue at hstage ⊢
    dsimp only
    split at hstage
    · exact ⟨hclient, _, rfl, hjustified⟩
    · exact ⟨hclient, _, rfl, hjustified⟩
    · exact hstage
    · trivial
  have hstage : (∃ url, PaymentForm.paymentDataStage data = .splitPayment url) ∨
      PaymentForm.paymentDataStage data = .successRedirect := by
    unfold PaymentForm.paymentDataStage
    split
    · split_ifs
      · exact Or.inl ⟨_, rfl⟩
      · exact Or.inr rfl
    · exact Or.inr rfl
    · exact Or.inr rfl
  unfold PaymentForm.listen
  dsimp only
  rcases hstage with ⟨url, hstage⟩ | hstage
  · rw [hstage]
    refine ⟨⟨hset.setPaymentStage _ ⟨hclient, _, rfl, hjustified⟩, h.process, h.listeners, ?_⟩,
      rfl, id⟩
    rintro (hidle | hidle) <;> cases hidle
  · rw [hstage]
    refine ⟨⟨hset.setPaymentStage _ ⟨hclient, _, rfl, hjustified⟩, h.process, h.listeners, ?_⟩,
      rfl, id⟩
    rintro (hidle | hidle) <;> cases hidle

/-- A status that ends the payment, reported of the transaction of its order. -/
theorem status (h : Following server q input g) (hserver : server = true)
    {status : TransactionStatus} (hstatus : status ∈ [.failed, .authorized, .charged])
    {transactionId : Option String} (hid : transactionId.isSome)
    (hrecorded : Recorded q q.started
      (.reported transactionId (.transactionStatusChanged status)))
    (horder : ∀ order, g.order = some order →
      order.payment = q.started ∧ order.transactionId = transactionId) :
    Following server q input (g.listen server input (.transactionStatusChanged status)) ∧
      (g.listen server input (.transactionStatusChanged status)).order = g.order ∧
      ¬ (g.listen server input (.transactionStatusChanged status)).stage.Waits := by
  have hpaid : status = .authorized ∨ status = .charged → ∀ order, g.order = some order →
      order.payment = q.started ∧
        ((∃ input ∈ g.inputs[q.started - 1]?, input.paymentMethodType = .cash) ∨
          PaidFor q q.started order.transactionId) := by
    intro hpaid order hsome
    obtain ⟨hpayment, rfl⟩ := horder order hsome
    exact ⟨hpayment, Or.inr ⟨hid, status, hpaid, hrecorded⟩⟩
  cases status with
  | failed =>
    refine ⟨h.setPaymentStage ?_ trivial, rfl, id⟩
    rintro (hidle | hidle) <;> cases hidle
  | authorized => exact h.showPaymentInfoService hserver (hpaid (Or.inl rfl))
  | charged => exact h.showPaymentInfoService hserver (hpaid (Or.inr rfl))
  | new => exact absurd hstatus (by decide)
  | threedsChallenge => exact absurd hstatus (by decide)

end Following

end YandexPay.CheckoutForm
