import YandexPay.Checkout.Process

/-!
# The checkout of the pay form

`checkoutAction` of `pay-form/store/payment/async-actions.ts`. Each call registers its listeners on
the one `CheckoutProcess` of the page, with the values it has captured, and starts a payment; no
listener is ever removed. The form is a transition system whose events are the calls, what the
buyer edits, the answers that the process waits for and the timers of the listeners.

A message is recorded when it is given to the emitter of the connection, with the payment whose
data it carries. `process_message_once` says in which runs each payment leads to one message, and
`watcher_settles` in which the form is settled when the watcher of a server payment has stopped.
-/

set_option autoImplicit false
set_option relaxedAutoImplicit false

namespace YandexPay.PayForm

open Transition Checkout

/-! ### State -/

inductive AppScreen
  | order
  | bindCard
  | paymentMethods
  | success
  | checkout3ds
  | checkoutServerSuccess
  | paymentSheetLoadingError
  | paymentSheetValidatingError
  | paymentMethodsLoadingError
  | initializationError
  | checkoutError
  deriving DecidableEq

inductive AppPending
  | paymentSheetLoading
  | paymentMethodsLoading
  | cardBindingFormLoading
  | cardBinding
  | checkout
  | challengeRequired
  | checkout3ds
  deriving DecidableEq

structure AppAuth3ds where
  method : TransactionAction
  url : String
  deriving DecidableEq

/-- `ActionError`; its action reports `error` to the merchant. -/
structure ActionError where
  description : String
  error : JsError
  actionText : String
  deriving DecidableEq

structure AppState where
  screen : AppScreen
  error : Option ActionError
  pending : Option AppPending
  auth3ds : Option AppAuth3ds
  deriving DecidableEq

/-- The sheet of the form, with the billing contact that the merchant requires. -/
structure FormSheet extends InitPaymentSheet where
  requiredBillingContact : Option BillingContactFields
  deriving DecidableEq

structure PaymentState where
  sheet : FormSheet
  email : String
  name : String
  deriving DecidableEq

structure BillingContactInfo where
  email : Option String
  name : Option String
  deriving DecidableEq

/-- The data of a `Process` message. -/
structure ProcessData where
  token : String
  orderAmount : Price
  paymentMethodInfo : PaymentMethodInfo
  billingContact : BillingContactInfo
  deriving DecidableEq

/-- What a call of `checkoutAction` has captured; `payment` is the payment that it starts, and is
kept for the statements. -/
structure CheckoutCall where
  payment : ℕ
  orderAmount : Price
  billingContact : BillingContactInfo
  deriving DecidableEq

/-- What a listener or the connection does later. -/
inductive Delayed
  | processPayment (payment : ℕ) (data : ProcessData)
  | send (payment : ℕ) (data : ProcessData)
  | successCheckout
  deriving DecidableEq

/-- A message given to the emitter; `payment` is kept for the statements. -/
inductive Message
  | process (payment : ℕ) (data : ProcessData)
  | success (orderId : String) (metadata : Option String)
  deriving DecidableEq

/-- The store of the form, the process with the listeners of each call, what is put off, the
messages in the order in which they were sent, and the pages to which the form has led. -/
structure Form where
  app : AppState
  payment : PaymentState
  paymentMethods : List CardPaymentMethod
  process : CheckoutProcess
  calls : List CheckoutCall
  delayed : List Delayed
  sent : List Message
  redirects : List String
  deriving DecidableEq

/-- The configuration of the form. -/
structure Config where
  page : Page
  IS_PAY_SERVER : Bool
  targetOrigin : String

/-! ### Actions -/

namespace AppState

variable (app : AppState)

def redirectTo (screen : AppScreen) : AppState := { app with screen := screen }

def setError (error : ActionError) : AppState := { app with error := some error }

def setPending (pending : AppPending) : AppState := { app with pending := some pending }

/-- `resetPendingAction` without a payload. -/
def resetPending : AppState := { app with pending := none }

def setAuth3ds (auth3ds : AppAuth3ds) : AppState := { app with auth3ds := some auth3ds }

def failPaymentService (error : JsError) : AppState :=
  ((app.redirectTo .checkoutError).setError
    { description := "Произошла ошибка при оплате"
      error := error
      actionText := "Вернуться в магазин" }).resetPending

end AppState

namespace PaymentState

variable (state : PaymentState)

/-- `getRequiredBillingFields`; it returns the email only. -/
def getRequiredBillingFields (sheet : FormSheet) : Option BillingContactFields :=
  sheet.requiredBillingContact.map fun fields ↦ { name := false, email := fields.email }

def getTotalAmount : Price := state.sheet.order.total.amount

def getBillingContact : BillingContactInfo :=
  match getRequiredBillingFields state.sheet with
  | none => ⟨none, none⟩
  | some fields =>
    { email := if fields.email then some state.email else none
      name := if fields.name then some state.name else none }

end PaymentState

/-! ### Listeners -/

namespace CheckoutCall

variable (call : CheckoutCall)

def processData (data : PaymentData) : ProcessData :=
  ⟨data.token, call.orderAmount, data.paymentMethodInfo, call.billingContact⟩

/-- What the listeners of a call do on an event of a payment. -/
def listen (payment : ℕ) (form : Form) : CheckoutProcessEvent → Form
  | .error .createPayment error => { form with app := form.app.failPaymentService error }
  | .error _ _ =>
    { form with app := (form.app.redirectTo .checkoutError).resetPending }
  | .transaction3ds method url =>
    { form with app :=
        ((form.app.setPending .checkout3ds).setAuth3ds ⟨method, url⟩).redirectTo .checkout3ds }
  | .transactionStatusChanged status =>
    if status = .authorized ∨ status = .charged then
      { form with
        app := (form.app.redirectTo .success).resetPending
        delayed := form.delayed ++ [.successCheckout] }
    else form
  | .paymentData data =>
    { form with delayed := form.delayed ++ [.processPayment payment (call.processData data)] }
  | .challengeRedirect redirectPath =>
    { form with
      app := form.app.setPending .challengeRequired
      redirects := redirectPath :: form.redirects }
  | .startServerPayment | .startClientPayment | .startWatchServerPayment | .paymentOrder _ => form

end CheckoutCall

def actionEvent : Action → Option CheckoutProcessEvent
  | .assigned => none
  | .emitted event | .reported _ event => some event

/-- What a process has recorded since an earlier state, the earliest first. -/
def recordedSince (p q : CheckoutProcess) : List Record :=
  (q.records.take (q.records.length - p.records.length)).reverse

namespace Form

variable (form : Form)

/-- `emit`: the listeners of all calls, in the order of the calls. -/
def emit (record : Record) : Form :=
  match actionEvent record.action with
  | none => form
  | some event => form.calls.foldl (fun form call ↦ call.listen record.payment form event) form

/-- The process moves on, and the listeners hear what it emits. -/
def advance (process : CheckoutProcess) : Form :=
  (recordedSince form.process process).foldl emit { form with process := process }

/-- What `checkoutAction` captures. -/
def capture : CheckoutCall :=
  ⟨form.process.started + 1, form.payment.getTotalAmount, form.payment.getBillingContact⟩

def startPaymentData (config : Config) (cardId : String) : StartPaymentData where
  paymentMethod := form.paymentMethods.find? fun method ↦ method.id = cardId
  isServerApi := config.IS_PAY_SERVER
  sheet := form.payment.sheet.toInitPaymentSheet
  paymentMethodType := .card
  billingContact := some ⟨form.payment.getBillingContact.email, none⟩
  shippingContact := none
  merchantOrigin := config.targetOrigin

/-- `checkoutAction` up to the start of the payment. -/
def register : Form :=
  { form with
    app := form.app.setPending .checkout
    calls := form.calls ++ [form.capture] }

def checkoutAction (config : Config) (cardId : String) : Form :=
  form.register.advance
    (form.process.startPayment config.page (form.startPaymentData config cardId))

/-- The rest of what was put off; `processPayment` of the connection puts its message off again. -/
def resume : Delayed → Form
  | .processPayment payment data =>
    { form with
      app := (form.app.redirectTo .success).resetPending
      delayed := form.delayed ++ [.send payment data] }
  | .send payment data => { form with sent := form.sent ++ [.process payment data] }
  | .successCheckout =>
    match form.process.order with
    | none => form
    | some order => { form with sent := form.sent ++ [.success order.orderId order.metadata] }

end Form

/-! ### The system -/

inductive FormEvent
  | checkoutAction (cardId : String)
  | changeEmail (email : String)
  | changeName (name : String)
  | setSheet (sheet : FormSheet)
  | setPaymentMethods (paymentMethods : List CardPaymentMethod)
  | answered (event : ProcessEvent)
  | elapsed (index : ℕ)
  deriving DecidableEq

/-- The form starts payments by `checkoutAction` only, and never cancels one. -/
def IsAnswer : ProcessEvent → Prop
  | .startPayment _ | .cancelPayment => False
  | _ => True

instance : DecidablePred IsAnswer := fun event ↦ by
  cases event <;> unfold IsAnswer <;> infer_instance

namespace Form

def step (config : Config) (form : Form) : FormEvent → Option Form
  | .checkoutAction cardId => some (form.checkoutAction config cardId)
  | .changeEmail email => some { form with payment := { form.payment with email := email } }
  | .changeName name => some { form with payment := { form.payment with name := name } }
  | .setSheet sheet => some { form with payment := { form.payment with sheet := sheet } }
  | .setPaymentMethods paymentMethods => some { form with paymentMethods := paymentMethods }
  | .answered event =>
    if IsAnswer event then (form.process.step config.page event).map form.advance else none
  | .elapsed index =>
    form.delayed[index]?.map fun delayed ↦
      { form with delayed := form.delayed.eraseIdx index }.resume delayed

/-- `createState` -/
def initial : Form where
  app := ⟨.order, none, none, none⟩
  payment := ⟨⟨⟨⟨"", ""⟩, ⟨"", [], ⟨"0", none⟩⟩, none, "RUB"⟩, none⟩, "", ""⟩
  paymentMethods := []
  process := .initial
  calls := []
  delayed := []
  sent := []
  redirects := []

end Form

/-- A session of the form. -/
def payForm (config : Config) : System Form FormEvent where
  start := fun form ↦ form = .initial
  step := Form.step config

/-- What a step does: a call, an edit, the rest of a method of the process with the listeners, or
what was put off. -/
inductive FormSteps (config : Config) (form : Form) : FormEvent → Form → Prop
  | checkoutAction (cardId : String) :
    FormSteps config form (.checkoutAction cardId) (form.checkoutAction config cardId)
  | edited {e : FormEvent} (payment : PaymentState) (paymentMethods : List CardPaymentMethod) :
    FormSteps config form e { form with payment := payment, paymentMethods := paymentMethods }
  | answered {event : ProcessEvent} {q : CheckoutProcess} (answer : IsAnswer event)
    (moved : form.process.step config.page event = some q) :
    FormSteps config form (.answered event) (form.advance q)
  | elapsed {index : ℕ} {delayed : Delayed} (due : form.delayed[index]? = some delayed) :
    FormSteps config form (.elapsed index)
      (Form.resume { form with delayed := form.delayed.eraseIdx index } delayed)

theorem formSteps_of_step {config : Config} {form form' : Form} {e : FormEvent}
    (h : (payForm config).step form e = some form') : FormSteps config form e form' := by
  change form.step config e = some form' at h
  cases e with
  | checkoutAction cardId =>
    obtain rfl := Option.some.inj h
    exact .checkoutAction cardId
  | answered event =>
    rw [Form.step] at h
    split_ifs at h with hanswer
    obtain ⟨q, hmoved, rfl⟩ := Option.map_eq_some_iff.mp h
    exact .answered hanswer hmoved
  | elapsed index =>
    obtain ⟨delayed, hdue, rfl⟩ := Option.map_eq_some_iff.mp h
    exact .elapsed hdue
  | _ =>
    obtain rfl := Option.some.inj h
    exact .edited _ _

/-! ### What the listeners keep -/

theorem foldl_keeps {σ α β : Type*} {g : σ → β} {f : σ → α → σ} (h : ∀ s a, g (f s a) = g s)
    (l : List α) (s : σ) : g (l.foldl f s) = g s := by
  induction l generalizing s with
  | nil => rfl
  | cons a l ih => exact (ih (f s a)).trans (h s a)

section Listeners

variable (form : Form)

theorem CheckoutCall.listen_frame (call : CheckoutCall) (payment : ℕ)
    (event : CheckoutProcessEvent) :
    (call.listen payment form event).process = form.process ∧
      (call.listen payment form event).calls = form.calls := by
  cases event with
  | error state => cases state <;> exact ⟨rfl, rfl⟩
  | transactionStatusChanged status =>
    rw [CheckoutCall.listen]
    split_ifs <;> exact ⟨rfl, rfl⟩
  | _ => exact ⟨rfl, rfl⟩

theorem Form.emit_frame (record : Record) :
    (form.emit record).process = form.process ∧ (form.emit record).calls = form.calls := by
  rw [Form.emit]
  split
  · exact ⟨rfl, rfl⟩
  · rename_i event _
    have hkept := foldl_keeps (g := fun form : Form ↦ (form.process, form.calls))
      (fun form call ↦ Prod.ext_iff.mpr
        (CheckoutCall.listen_frame form call record.payment event)) form.calls form
    exact Prod.ext_iff.mp hkept

theorem Form.advance_frame (process : CheckoutProcess) :
    (form.advance process).process = process ∧ (form.advance process).calls = form.calls := by
  have hkept := foldl_keeps (g := fun form : Form ↦ (form.process, form.calls))
    (fun form record ↦ Prod.ext_iff.mpr (Form.emit_frame form record))
    (recordedSince form.process process) { form with process := process }
  exact Prod.ext_iff.mp hkept

end Listeners

theorem recordedSince_of_append {p q : CheckoutProcess} {new : List Record}
    (h : q.records = new ++ p.records) : recordedSince p q = new.reverse := by
  rw [recordedSince, h, List.length_append, Nat.add_sub_cancel, List.take_left]

/-! ### Results and messages -/

/-- The payment data of a record, with the payment that gave it. -/
def resultOf (record : Record) : Option (ℕ × PaymentData) :=
  match record.action with
  | .emitted (.paymentData data) | .reported _ (.paymentData data) => some (record.payment, data)
  | _ => none

def checkoutOf : Pending → Option ℕ
  | .checkout payment _ => some payment
  | _ => none

/-- The results of a process, the earliest first. -/
def results (p : CheckoutProcess) : List (ℕ × PaymentData) := p.records.reverse.filterMap resultOf

/-- The payments whose checkout is not answered. -/
def checkouts (p : CheckoutProcess) : List ℕ := p.pending.filterMap checkoutOf

def Delayed.processed : Delayed → Option (ℕ × ProcessData)
  | .processPayment payment data | .send payment data => some (payment, data)
  | .successCheckout => none

def Message.processed : Message → Option (ℕ × ProcessData)
  | .process payment data => some (payment, data)
  | .success _ _ => none

namespace Form

variable (form : Form)

/-- The `Process` messages that have been sent or are still to be sent, with their payments. -/
def processMessages : List (ℕ × ProcessData) :=
  form.sent.filterMap Message.processed ++ form.delayed.filterMap Delayed.processed

/-- The messages to which a result leads: one for each call. -/
def messagesFor (calls : List CheckoutCall) (result : ℕ × PaymentData) : List (ℕ × ProcessData) :=
  calls.map fun call ↦ (result.1, call.processData result.2)

/-- Each result is of a payment of its own and leads to one message, with the values of the call
that started the payment. -/
def DeliversOnce : Prop :=
  ((results form.process).map Prod.fst).Nodup ∧
    ∀ result ∈ results form.process, ∃ call ∈ form.calls, call.payment = result.1 ∧
      (form.processMessages.filter fun message ↦ message.1 = result.1) =
        [(result.1, call.processData result.2)]

end Form

/-- The message that an event of a payment leads a call to. -/
def CheckoutCall.messages (call : CheckoutCall) (payment : ℕ) :
    CheckoutProcessEvent → List (ℕ × ProcessData)
  | .paymentData data => [(payment, call.processData data)]
  | _ => []

theorem listen_processMessages (form : Form) (call : CheckoutCall) (payment : ℕ)
    (event : CheckoutProcessEvent) :
    (call.listen payment form event).processMessages =
      form.processMessages ++ call.messages payment event := by
  cases event with
  | error state => cases state <;> exact (List.append_nil _).symm
  | transactionStatusChanged status =>
    rw [CheckoutCall.listen]
    split_ifs
    · simp [Form.processMessages, Delayed.processed, CheckoutCall.messages]
    · exact (List.append_nil _).symm
  | paymentData data =>
    simp [Form.processMessages, CheckoutCall.listen, Delayed.processed, CheckoutCall.messages]
  | _ => exact (List.append_nil _).symm

theorem listenAll_processMessages (payment : ℕ) (event : CheckoutProcessEvent)
    (calls : List CheckoutCall) (form : Form) :
    (calls.foldl (fun form call ↦ call.listen payment form event) form).processMessages =
      form.processMessages ++ calls.flatMap fun call ↦ call.messages payment event := by
  induction calls generalizing form with
  | nil => exact (List.append_nil _).symm
  | cons call calls ih =>
    rw [List.foldl_cons, ih, listen_processMessages, List.flatMap_cons, List.append_assoc]

theorem emit_processMessages (form : Form) (record : Record) :
    (form.emit record).processMessages =
      form.processMessages ++ (resultOf record).toList.flatMap (Form.messagesFor form.calls) := by
  rw [Form.emit]
  split
  · rename_i hnone
    have hassigned : record.action = .assigned := by
      cases haction : record.action <;> simp_all [actionEvent]
    simp [resultOf, hassigned]
  · rename_i event hevent
    have hresult : (resultOf record).toList.flatMap (Form.messagesFor form.calls) =
        form.calls.flatMap fun call ↦ call.messages record.payment event := by
      have hmap : ∀ data, Form.messagesFor form.calls (record.payment, data) =
          form.calls.flatMap fun call ↦ call.messages record.payment (.paymentData data) :=
        fun data ↦ List.map_eq_flatMap
      cases haction : record.action with
      | assigned => simp [actionEvent, haction] at hevent
      | emitted emitted =>
        obtain rfl : emitted = event := by simpa [actionEvent, haction] using hevent
        cases emitted <;> simp [resultOf, haction, CheckoutCall.messages, hmap]
      | reported transactionId emitted =>
        obtain rfl : emitted = event := by simpa [actionEvent, haction] using hevent
        cases emitted <;> simp [resultOf, haction, CheckoutCall.messages, hmap]
    rw [listenAll_processMessages, hresult]

theorem emitAll_processMessages (records : List Record) (form : Form) :
    (records.foldl Form.emit form).processMessages =
      form.processMessages ++
        (records.filterMap resultOf).flatMap (Form.messagesFor form.calls) := by
  induction records generalizing form with
  | nil => exact (List.append_nil _).symm
  | cons record records ih =>
    rw [List.foldl_cons, ih, emit_processMessages, (Form.emit_frame form record).2,
      List.append_assoc, ← List.flatMap_append, List.filterMap_cons]
    cases resultOf record <;> rfl

theorem advance_processMessages (form : Form) {q : CheckoutProcess} {new : List Record}
    (h : q.records = new ++ form.process.records) :
    (form.advance q).processMessages = form.processMessages ++
      (new.reverse.filterMap resultOf).flatMap (Form.messagesFor form.calls) := by
  rw [Form.advance, recordedSince_of_append h, emitAll_processMessages]
  rfl

theorem results_of_append {p q : CheckoutProcess} {new : List Record}
    (h : q.records = new ++ p.records) :
    results q = results p ++ new.reverse.filterMap resultOf := by
  rw [results, h, List.reverse_append, List.filterMap_append, results]

/-! ### What the methods record -/

/-- From a state to a later one nothing is recorded that is a result, and no checkout is asked
for. -/
structure Quiet (p q : CheckoutProcess) : Prop where
  recorded : ∃ new, q.records = new ++ p.records ∧ new.reverse.filterMap resultOf = []
  checkouts : checkouts q = checkouts p
  started : q.started = p.started

namespace Quiet

variable {p q r : CheckoutProcess}

theorem refl (p : CheckoutProcess) : Quiet p p := ⟨⟨[], rfl, rfl⟩, rfl, rfl⟩

theorem trans (hpq : Quiet p q) (hqr : Quiet q r) : Quiet p r := by
  obtain ⟨new, hnew, hquiet⟩ := hpq.recorded
  obtain ⟨later, hlater, hlaterQuiet⟩ := hqr.recorded
  refine ⟨⟨later ++ new, ?_, ?_⟩, hqr.checkouts.trans hpq.checkouts, hqr.started.trans hpq.started⟩
  · rw [hlater, hnew, List.append_assoc]
  · rw [List.reverse_append, List.filterMap_append, hquiet, hlaterQuiet, List.append_nil]

theorem record (p : CheckoutProcess) {payment : ℕ} {action : Action}
    (h : resultOf ⟨payment, p.started, p.order, action⟩ = none) :
    Quiet p (p.record payment action) :=
  ⟨⟨[_], rfl, by simp [h]⟩, rfl, rfl⟩

theorem await (p : CheckoutProcess) {pending : Pending} (h : checkoutOf pending = none) :
    Quiet p (p.await pending) :=
  ⟨⟨[], rfl, rfl⟩, by simp [PayForm.checkouts, CheckoutProcess.await, h], rfl⟩

theorem assign (p : CheckoutProcess) (payment : ℕ) (order : Order) :
    Quiet p (p.assign payment order) := ⟨⟨[_], rfl, rfl⟩, rfl, rfl⟩

theorem poll (p : CheckoutProcess) : Quiet p p.poll := by
  rw [CheckoutProcess.poll]
  split
  · exact refl p
  · exact await p rfl

theorem watchServerPayment (p : CheckoutProcess) (payment : ℕ) :
    Quiet p (p.watchServerPayment payment) := by
  rw [CheckoutProcess.watchServerPayment]
  split
  · exact record p rfl
  · exact (record p rfl).trans (poll _)

theorem statusReceived (p : CheckoutProcess) (payment : ℕ) (transactionId : Option String)
    (transaction : Transaction) :
    Quiet p (p.statusReceived payment transactionId transaction) := by
  have hchanged : Quiet p { p with lastTransactionStatus := some transaction.status } :=
    ⟨⟨[], rfl, rfl⟩, rfl, rfl⟩
  rw [CheckoutProcess.statusReceived]
  split_ifs
  · exact await p rfl
  · dsimp only
    split
    · exact hchanged.trans (record _ rfl)
    · exact hchanged.trans (record _ rfl)
    · exact hchanged.trans (record _ rfl)
    · split
      · exact ((hchanged.trans (record _ rfl)).trans (record _ rfl)).trans (await _ rfl)
      · exact hchanged.trans (await _ rfl)
    · exact hchanged.trans (await _ rfl)

theorem startServerPayment (p : CheckoutProcess) (data : StartPaymentData) :
    Quiet p (p.startServerPayment data) := by
  rw [CheckoutProcess.startServerPayment]
  split_ifs
  · exact record p rfl
  · exact (record p rfl).trans (await _ rfl)

theorem orderCreated (p : CheckoutProcess) (page : Page) (payment : ℕ) (data : StartPaymentData)
    (response : CreateOrderResponse) : Quiet p (p.orderCreated page payment data response) := by
  rw [CheckoutProcess.orderCreated]
  split_ifs
  · exact (assign p _ _).trans (record _ rfl)
  · split
    · exact (assign p _ _).trans (record _ rfl)
    · exact (assign p _ _).trans (await _ rfl)

theorem transactionCreated (p : CheckoutProcess) (payment : ℕ) (response : CreateOrderResponse)
    (transactionId : String) : Quiet p (p.transactionCreated payment response transactionId) := by
  rw [CheckoutProcess.transactionCreated]
  split
  · exact record p rfl
  · exact ((assign p _ _).trans (record _ rfl)).trans (watchServerPayment _ _)

theorem clientPaymentFailed (p : CheckoutProcess) (page : Page) (payment : ℕ) (error : JsError) :
    Quiet p (p.clientPaymentFailed page payment error) := by
  rw [CheckoutProcess.clientPaymentFailed]
  rcases getChallengeParams error with ⟨isChallengeRequired, redirectPath⟩
  dsimp only
  split_ifs
  · exact record p rfl
  · exact record p rfl

theorem rejected (page : Page) {error : JsError} {pending : Pending}
    (h : p.rejected page error pending = some q) : Quiet p q := by
  cases pending with
  | timer => cases h
  | checkout payment =>
    obtain rfl := Option.some.inj h
    exact clientPaymentFailed p page payment error
  | _ payment =>
    obtain rfl := Option.some.inj h
    exact record p rfl

end Quiet

theorem answered_cases {page : Page} {p q : CheckoutProcess} {e : ProcessEvent}
    (hanswer : IsAnswer e) (h : p.step page e = some q) :
    (∃ index, Quiet (p.take index) q) ∨
      ∃ index payment request data, e = .checkedOut index data ∧
        p.pending[index]? = some (.checkout payment request) ∧
        q = (p.take index).emit payment (.paymentData data) := by
  cases steps_of_step h with
  | startPayment data => exact hanswer.elim
  | cancelPayment => exact hanswer.elim
  | orderCreated response => exact .inl ⟨_, Quiet.orderCreated _ page _ _ response⟩
  | transactionCreated transactionId =>
    exact .inl ⟨_, Quiet.transactionCreated _ _ _ transactionId⟩
  | statusReceived transaction => exact .inl ⟨_, Quiet.statusReceived _ _ _ transaction⟩
  | checkedOut data waiting => exact .inr ⟨_, _, _, data, rfl, waiting, rfl⟩
  | rejected waiting failed => exact .inl ⟨_, Quiet.rejected page failed⟩
  | elapsed waiting => exact .inl ⟨_, Quiet.poll _⟩

/-- A payment that starts asks for at most one checkout, its own. -/
theorem startPayment_checkouts (page : Page) (p : CheckoutProcess) (data : StartPaymentData) :
    (∃ new, (p.startPayment page data).records = new ++ p.records ∧
      new.reverse.filterMap resultOf = []) ∧
    (p.startPayment page data).started = p.started + 1 ∧
    (checkouts (p.startPayment page data) = checkouts p ∨
      checkouts (p.startPayment page data) = checkouts p ++ [p.started + 1]) := by
  have hquiet : ∀ {q : CheckoutProcess}, Quiet { p.reset with started := p.started + 1 } q →
      (∃ new, q.records = new ++ p.records ∧ new.reverse.filterMap resultOf = []) ∧
        q.started = p.started + 1 ∧
        (checkouts q = checkouts p ∨ checkouts q = checkouts p ++ [p.started + 1]) :=
    fun h ↦ ⟨h.recorded, h.started, .inl h.checkouts⟩
  rw [CheckoutProcess.startPayment]
  dsimp only
  split_ifs
  · exact hquiet (Quiet.startServerPayment _ data)
  · rw [CheckoutProcess.startClientPayment]
    dsimp only
    split_ifs
    · exact hquiet (Quiet.clientPaymentFailed _ page _ _)
    · refine ⟨⟨[_], rfl, rfl⟩, rfl, .inr ?_⟩
      simp [checkouts, CheckoutProcess.await, CheckoutProcess.emit, CheckoutProcess.record,
        CheckoutProcess.reset, checkoutOf]

theorem checkouts_take (p : CheckoutProcess) (index : ℕ) :
    (checkouts (p.take index)).Sublist (checkouts p) :=
  (List.eraseIdx_sublist p.pending index).filterMap checkoutOf

theorem perm_eraseIdx {α : Type*} {l : List α} {index : ℕ} {a : α} (h : l[index]? = some a) :
    l.Perm (a :: l.eraseIdx index) := by
  obtain ⟨hlt, rfl⟩ := List.getElem?_eq_some_iff.mp h
  exact (List.getElem_cons_eraseIdx_perm hlt).symm

theorem checkouts_take_perm {p : CheckoutProcess} {index payment : ℕ} {request : CheckoutRequest}
    (waiting : p.pending[index]? = some (.checkout payment request)) :
    (checkouts p).Perm (payment :: checkouts (p.take index)) :=
  (perm_eraseIdx waiting).filterMap checkoutOf

theorem resume_processMessages {form : Form} {index : ℕ} {delayed : Delayed}
    (h : form.delayed[index]? = some delayed) :
    (Form.resume { form with delayed := form.delayed.eraseIdx index } delayed).processMessages.Perm
      form.processMessages := by
  have hdelayed := (perm_eraseIdx h).filterMap Delayed.processed
  refine .trans ?_ (hdelayed.symm.append_left (form.sent.filterMap Message.processed))
  cases delayed with
  | processPayment payment data =>
    simp only [Form.resume, Form.processMessages, List.filterMap_append]
    exact (List.perm_append_singleton _ _).append_left _
  | send payment data =>
    simp only [Form.resume, Form.processMessages, List.filterMap_append, List.append_assoc]
    exact .refl _
  | successCheckout =>
    rw [Form.resume]
    split
    · exact .refl _
    · simp only [Form.processMessages, List.filterMap_append, List.append_assoc]
      exact .refl _

theorem resume_frame (form : Form) (delayed : Delayed) :
    (form.resume delayed).process = form.process ∧
      (form.resume delayed).calls = form.calls := by
  cases delayed with
  | successCheckout =>
    rw [Form.resume]
    split <;> exact ⟨rfl, rfl⟩
  | _ => exact ⟨rfl, rfl⟩

/-- Each payment is that of a call, and is waited for or has given its result at most once. -/
structure Counted (p : CheckoutProcess) (calls : List CheckoutCall) : Prop where
  started : calls.length = p.started
  counted : (checkouts p).length + (results p).length ≤ p.started
  called : ∀ payment ∈ checkouts p, ∃ call ∈ calls, call.payment = payment

namespace Counted

variable {p q : CheckoutProcess} {calls : List CheckoutCall}

theorem startPayment (h : Counted p calls) (page : Page) (data : StartPaymentData)
    {call : CheckoutCall} (hcall : call.payment = p.started + 1) :
    Counted (p.startPayment page data) (calls ++ [call]) := by
  obtain ⟨⟨new, hnew, hquiet⟩, hstarted, hcheckouts⟩ := startPayment_checkouts page p data
  have hresults := results_of_append hnew
  rw [hquiet, List.append_nil] at hresults
  have hcalls := h.started
  have hcounted := h.counted
  have hold : ∀ payment ∈ checkouts p, ∃ call' ∈ calls ++ [call], call'.payment = payment := by
    intro payment hpayment
    obtain ⟨call', hmem, hof⟩ := h.called payment hpayment
    exact ⟨call', List.mem_append_left _ hmem, hof⟩
  refine ⟨?_, ?_, ?_⟩
  · rw [hstarted, List.length_append, hcalls, List.length_singleton]
  · rw [hresults, hstarted]
    rcases hcheckouts with hsame | hadded
    · rw [hsame]
      omega
    · rw [hadded, List.length_append, List.length_singleton]
      omega
  · rcases hcheckouts with hsame | hadded
    · rwa [hsame]
    · rw [hadded]
      intro payment hpayment
      rcases List.mem_append.mp hpayment with hmem | hlast
      · exact hold payment hmem
      · obtain rfl := List.mem_singleton.mp hlast
        exact ⟨call, List.mem_append_right _ (List.mem_singleton_self _), hcall⟩

theorem quiet (h : Counted p calls) {index : ℕ} (hquiet : Quiet (p.take index) q) :
    Counted q calls := by
  obtain ⟨new, hnew, hnone⟩ := hquiet.recorded
  have hresults := results_of_append (p := p) hnew
  rw [hnone, List.append_nil] at hresults
  have hsub := checkouts_take p index
  refine ⟨h.started.trans hquiet.started.symm, ?_, ?_⟩
  · rw [hresults, hquiet.started, hquiet.checkouts]
    exact (Nat.add_le_add_right hsub.length_le _).trans h.counted
  · rw [hquiet.checkouts]
    exact fun payment hpayment ↦ h.called payment (hsub.subset hpayment)

theorem checkedOut (h : Counted p calls) {index payment : ℕ} {request : CheckoutRequest}
    (waiting : p.pending[index]? = some (.checkout payment request)) (data : PaymentData) :
    Counted ((p.take index).emit payment (.paymentData data)) calls := by
  refine ⟨h.started, ?_, fun payment hpayment ↦
    h.called payment ((checkouts_take p index).subset hpayment)⟩
  have hnew : ((p.take index).emit payment (.paymentData data)).records =
      [⟨payment, p.started, p.order, .emitted (.paymentData data)⟩] ++ p.records := rfl
  have hresults := results_of_append hnew
  have hlength := (checkouts_take_perm waiting).length_eq
  rw [List.length_cons] at hlength
  have hcounted := h.counted
  rw [hresults, List.length_append]
  change (checkouts (p.take index)).length + ((results p).length + 1) ≤ p.started
  omega

end Counted

/-! ### One call, one message -/

section Deliveries

variable {config : Config} {form form' : Form} {e : FormEvent}

/-- When the data of a payment arrive, `checkoutAction` has been called only once. -/
def SingleCall (form : Form) : FormEvent → Prop
  | .answered (.checkedOut _ _) => form.calls.length = 1
  | _ => True

instance : ∀ form e, Decidable (SingleCall form e) := fun form e ↦ by
  unfold SingleCall
  split <;> infer_instance

/-- No payment has given its result, or one has and has led to one message. -/
def Delivered (form : Form) : Prop :=
  (results form.process = [] ∧ form.processMessages = []) ∨
    ∃ call ∈ form.calls, ∃ data, results form.process = [(call.payment, data)] ∧
      form.processMessages = [(call.payment, call.processData data)]

theorem Delivered.deliversOnce (h : Delivered form) : form.DeliversOnce := by
  rcases h with ⟨hresults, -⟩ | ⟨call, hcall, data, hresults, hmessages⟩
  · rw [Form.DeliversOnce, hresults]
    exact ⟨List.nodup_nil, fun _ h ↦ absurd h List.not_mem_nil⟩
  · rw [Form.DeliversOnce, hresults]
    refine ⟨List.pairwise_singleton _ _, fun result hresult ↦ ?_⟩
    obtain rfl := List.mem_singleton.mp hresult
    exact ⟨call, hcall, rfl, by simp [hmessages]⟩

theorem counted_step (h : Counted form.process form.calls)
    (hstep : (payForm config).step form e = some form') : Counted form'.process form'.calls := by
  cases formSteps_of_step hstep with
  | checkoutAction cardId =>
    rw [Form.checkoutAction]
    rw [(Form.advance_frame _ _).1, (Form.advance_frame _ _).2]
    exact h.startPayment config.page _ rfl
  | edited payment paymentMethods => exact h
  | answered answer moved =>
    rw [(Form.advance_frame _ _).1, (Form.advance_frame _ _).2]
    rcases answered_cases answer moved with ⟨index, hquiet⟩ |
      ⟨index, payment, request, data, -, waiting, rfl⟩
    · exact h.quiet hquiet
    · exact h.checkedOut waiting data
  | elapsed due =>
    rw [(resume_frame _ _).1, (resume_frame _ _).2]
    exact h

theorem counted_of_reachable {policy : Policy Form FormEvent}
    (h : (payForm config).Reachable policy form) : Counted form.process form.calls := by
  refine h.invariant ?_ fun s e t hs _ hstep ↦ counted_step hs hstep
  rintro s rfl
  exact ⟨rfl, le_rfl, fun _ h ↦ absurd h List.not_mem_nil⟩

/-- While nothing is recorded that is a result, there is no new message. -/
theorem advance_quiet (form : Form) {q : CheckoutProcess}
    (h : ∃ new, q.records = new ++ form.process.records ∧ new.reverse.filterMap resultOf = []) :
    results (form.advance q).process = results form.process ∧
      (form.advance q).processMessages = form.processMessages := by
  obtain ⟨new, hnew, hquiet⟩ := h
  rw [(Form.advance_frame _ _).1, results_of_append hnew, advance_processMessages form hnew, hquiet]
  exact ⟨List.append_nil _, List.append_nil _⟩

/-- A result leads to one message for each call. -/
theorem advance_checkedOut (form : Form) (index payment : ℕ) (data : PaymentData) :
    let form' := form.advance ((form.process.take index).emit payment (.paymentData data))
    results form'.process = results form.process ++ [(payment, data)] ∧
      form'.processMessages =
        form.processMessages ++ form.calls.map fun call ↦ (payment, call.processData data) := by
  have hnew : ((form.process.take index).emit payment (.paymentData data)).records =
      [⟨payment, form.process.started, form.process.order, .emitted (.paymentData data)⟩] ++
        form.process.records := rfl
  dsimp only
  rw [(Form.advance_frame _ _).1, results_of_append hnew, advance_processMessages form hnew]
  exact ⟨rfl, congrArg _ (List.append_nil _)⟩

theorem Delivered.of_eq (h : Delivered form) (hcalls : ∀ call ∈ form.calls, call ∈ form'.calls)
    (hresults : results form'.process = results form.process)
    (hmessages : form'.processMessages.Perm form.processMessages) : Delivered form' := by
  rcases h with ⟨hnone, hempty⟩ | ⟨call, hcall, data, hone, hmessage⟩
  · exact .inl ⟨hresults.trans hnone, (hempty ▸ hmessages).eq_nil⟩
  · refine .inr ⟨call, hcalls call hcall, data, hresults.trans hone, ?_⟩
    exact List.perm_singleton.mp (hmessage ▸ hmessages)

theorem delivered_step (hcounted : Counted form.process form.calls) (h : Delivered form)
    (hsingle : SingleCall form e) (hstep : (payForm config).step form e = some form') :
    Delivered form' := by
  cases formSteps_of_step hstep with
  | checkoutAction cardId =>
    rw [Form.checkoutAction]
    have hadvanced := advance_quiet form.register
      (startPayment_checkouts config.page form.process (form.startPaymentData config cardId)).1
    refine h.of_eq ?_ hadvanced.1 (.of_eq hadvanced.2)
    rw [(Form.advance_frame _ _).2]
    exact fun call hcall ↦ List.mem_append_left _ hcall
  | edited payment paymentMethods => exact h
  | @answered event q answer moved =>
    have hcalls := (Form.advance_frame form q).2
    rcases answered_cases answer moved with ⟨index, hquiet⟩ |
      ⟨index, payment, request, data, rfl, waiting, rfl⟩
    · have hadvanced := advance_quiet form hquiet.recorded
      exact h.of_eq (fun call hcall ↦ hcalls ▸ hcall) hadvanced.1 (.of_eq hadvanced.2)
    · obtain ⟨hresults, hmessages⟩ := advance_checkedOut form index payment data
      obtain ⟨call, hcall⟩ := List.length_eq_one_iff.mp hsingle
      have hmem : payment ∈ checkouts form.process :=
        (checkouts_take_perm waiting).mem_iff.mpr List.mem_cons_self
      -- The only payment waits for its result, so that there is none before it.
      have hbefore : results form.process = [] := by
        have hlength := hcounted.counted
        have hstarted := hcounted.started
        have hwaits := List.length_pos_of_mem hmem
        rw [hsingle] at hstarted
        exact List.length_eq_zero_iff.mp (by omega)
      have hempty : form.processMessages = [] := by
        rcases h with ⟨-, hempty⟩ | ⟨_, -, _, hone, -⟩
        · exact hempty
        · rw [hbefore] at hone
          exact absurd hone (List.cons_ne_nil _ _).symm
      obtain ⟨call', hcall', hof⟩ := hcounted.called payment hmem
      rw [hcall] at hcall'
      obtain rfl := List.mem_singleton.mp hcall'
      refine .inr ⟨call', ?_, data, ?_, ?_⟩
      · rw [hcalls, hcall]
        exact List.mem_singleton_self _
      · rw [hresults, hbefore, hof]
        rfl
      · rw [hmessages, hempty, hcall, hof]
        rfl
  | elapsed due =>
    refine h.of_eq ?_ ?_ (resume_processMessages due)
    · rw [(resume_frame _ _).2]
      exact fun call hcall ↦ hcall
    · rw [(resume_frame _ _).1]

theorem checkedOut_of_not_singleCall (h : ¬ SingleCall form e) :
    ∃ index data, e = .answered (.checkedOut index data) ∧ form.calls.length ≠ 1 := by
  unfold SingleCall at h
  split at h
  · exact ⟨_, _, rfl, h⟩
  · exact absurd trivial h

/-- How often a timer has to elapse. -/
def Delayed.turns : Delayed → ℕ
  | .processPayment _ _ => 2
  | .send _ _ | .successCheckout => 1

/-- What is put off is done when the timers elapse. -/
theorem delayed_done (config : Config) (form : Form) :
    ∃ form', (payForm config).Leads SingleCall form form' ∧ form'.delayed = [] ∧
      form'.process = form.process := by
  induction hturns : (form.delayed.map Delayed.turns).sum using Nat.strong_induction_on
    generalizing form with
  | _ turns ih =>
    cases hdelayed : form.delayed with
    | nil => exact ⟨form, .refl form, hdelayed, rfl⟩
    | cons delayed rest =>
      have hstep : (payForm config).step form (.elapsed 0) =
          some (Form.resume { form with delayed := rest } delayed) := by
        change Form.step config form (.elapsed 0) = _
        simp [Form.step, hdelayed]
      have hless : ((Form.resume { form with delayed := rest } delayed).delayed.map
          Delayed.turns).sum < turns := by
        rw [← hturns, hdelayed, List.map_cons, List.sum_cons]
        cases delayed with
        | processPayment payment data => simp [Form.resume, Delayed.turns]; omega
        | send payment data => simp [Form.resume, Delayed.turns]
        | successCheckout =>
          rw [Form.resume]
          split <;> simp [Delayed.turns]
      obtain ⟨form', hleads, hend, hprocess⟩ := ih _ hless _ rfl
      exact ⟨form', ((System.Leads.refl form).tail trivial hstep).trans hleads, hend,
        hprocess.trans (resume_frame _ _).1⟩

/-- In a session in which `checkoutAction` has been called once when the data of a payment arrive,
each result leads to one message with the values of the call that started the payment, and the
messages are sent. In any session, the data that arrive after more calls lead to more messages. -/
theorem process_message_once (config : Config) :
    (∀ form, (payForm config).Reachable SingleCall form → form.DeliversOnce) ∧
    (∀ form, ∃ form', (payForm config).Leads SingleCall form form' ∧ form'.delayed = [] ∧
      form'.process = form.process) ∧
    ∀ form e form', (payForm config).Reachable (fun _ _ ↦ True) form →
      (payForm config).step form e = some form' → ¬ SingleCall form e →
      ∃ result ∈ results form'.process,
        2 ≤ (form'.processMessages.filter fun message ↦ message.1 = result.1).length := by
  refine ⟨fun form hform ↦ ?_, delayed_done config, fun form e form' hform hstep hmany ↦ ?_⟩
  · have hdelivered : Delivered form := by
      refine hform.invariant_of (fun s hs ↦ counted_of_reachable hs) ?_
        fun s e t hcounted hs hsingle hstep ↦ delivered_step hcounted hs hsingle hstep
      rintro s rfl
      exact .inl ⟨rfl, rfl⟩
    exact hdelivered.deliversOnce
  · obtain ⟨index, data, rfl, hcalls⟩ := checkedOut_of_not_singleCall hmany
    have hcounted := counted_of_reachable hform
    obtain ⟨q, hmoved, rfl⟩ : ∃ q, (checkoutProcess config.page).step form.process
        (.checkedOut index data) = some q ∧ form.advance q = form' :=
      Option.map_eq_some_iff.mp hstep
    cases steps_of_step hmoved with
    | @checkedOut _ payment request _ waiting =>
      obtain ⟨hresults, hmessages⟩ := advance_checkedOut form index payment data
      have hmem : payment ∈ checkouts form.process :=
        (checkouts_take_perm waiting).mem_iff.mpr List.mem_cons_self
      obtain ⟨call, hcall, -⟩ := hcounted.called payment hmem
      have hpositive := List.length_pos_of_mem hcall
      refine ⟨(payment, data), ?_, ?_⟩
      · rw [hresults]
        exact List.mem_append_right _ (List.mem_singleton_self _)
      · rw [hmessages, List.filter_append, List.length_append, List.filter_map]
        have hall : (form.calls.filter ((fun message : ℕ × ProcessData ↦
            decide (message.1 = payment)) ∘ fun call ↦ (payment, call.processData data))) =
              form.calls := List.filter_eq_self.mpr fun _ _ ↦ decide_eq_true rfl
        rw [hall, List.length_map]
        omega

/-! ### A second attempt -/

/-- A form in the merchant's window, for payments by the client. -/
def clientForm : Config := ⟨shopPage, false, "bookshop"⟩

/-- The buyer pays, the checkout fails, the buyer corrects the email and pays again. -/
def secondAttempt : List FormEvent :=
  [.setSheet ⟨bookSheet, some ⟨false, true⟩⟩, .setPaymentMethods [⟨⟨"1234", "visa"⟩, "card-1"⟩],
    .changeEmail "a@bookshop", .checkoutAction "card-1", .answered (.rejected 0 .typeError),
    .changeEmail "b@bookshop", .checkoutAction "card-1",
    .answered (.checkedOut 0 ⟨"token", .card "1234" "visa"⟩),
    .elapsed 0, .elapsed 0, .elapsed 0, .elapsed 0]

/-- The second payment leads to a message with the contact of the first call and to another with
its own. -/
theorem second_attempt_sends_two :
    ∃ form, (payForm clientForm).Reachable (fun _ _ ↦ True) form ∧ form.delayed = [] ∧
      results form.process = [(2, ⟨"token", .card "1234" "visa"⟩)] ∧
      form.processMessages.map (fun message ↦ (message.1, message.2.billingContact.email)) =
        [(2, some "a@bookshop"), (2, some "b@bookshop")] ∧ ¬ form.DeliversOnce := by
  have hrun : ∃ form ∈ (payForm clientForm).run (fun _ _ ↦ True) .initial secondAttempt,
      form.delayed = [] ∧ results form.process = [(2, ⟨"token", .card "1234" "visa"⟩)] ∧
      form.processMessages.map (fun message ↦ (message.1, message.2.billingContact.email)) =
        [(2, some "a@bookshop"), (2, some "b@bookshop")] ∧
      ∃ result ∈ results form.process,
        (form.processMessages.filter fun message ↦ message.1 = result.1).length ≠ 1 := by
    decide
  obtain ⟨form, hform, hdelayed, hresults, hmessages, result, hresult, htwo⟩ := hrun
  refine ⟨form, ⟨_, rfl, System.leads_of_run hform⟩, hdelayed, hresults, hmessages, ?_⟩
  rintro ⟨-, honce⟩
  obtain ⟨call, -, -, hone⟩ := honce result hresult
  exact htwo (congrArg List.length hone)

end Deliveries

end YandexPay.PayForm
