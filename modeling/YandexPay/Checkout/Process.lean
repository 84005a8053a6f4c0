import YandexPay.Checkout.ServerApi

/-!
# The payment process

`CheckoutProcess` of `checkout-process/index.ts`. A payment is a chain of requests to the server
with a polling loop at its end. The chains of successive payments share the fields of the process:
`startPayment` and `cancelPayment` reset the fields, and the requests and timers that are open stay
open. The answers arrive in any order, so that the process is a transition system whose events are
the calls, the answers, the failures and the timers.

Payments are numbered by their `startPayment`. Each event that is emitted and each assignment of the
order is recorded with the payment it comes from; `records_concern_current` says in which runs that
is always the payment started last.
-/

set_option autoImplicit false
set_option relaxedAutoImplicit false

namespace YandexPay.Checkout

open Transition

/-! ### Payments and events -/

structure CardPaymentMethod extends PaymentMethod where
  id : String
  deriving DecidableEq

structure StartPaymentData where
  paymentMethod : Option CardPaymentMethod
  isServerApi : Bool
  sheet : InitPaymentSheet
  paymentMethodType : PaymentMethodType
  billingContact : Option BillingContact
  shippingContact : Option ShippingContact
  merchantOrigin : String
  deriving DecidableEq

/-- `Order`; `payment` is the number of the payment that created it, and is kept for the
statements. -/
structure Order where
  orderId : String
  checkoutOrderId : String
  transactionId : Option String
  metadata : Option String
  payment : ℕ
  deriving DecidableEq

inductive TransactionStatus
  | new
  | authorized
  | charged
  | threedsChallenge
  | failed
  deriving DecidableEq

inductive TransactionAction
  | iframe
  deriving DecidableEq

structure Transaction where
  status : TransactionStatus
  action : Option TransactionAction
  actionUrl : Option String
  deriving DecidableEq

inductive PaymentMethodInfo
  | card (cardLast4 cardNetwork : String)
  | split (orderId checkoutUrl cardLast4 cardNetwork : String)
  | cash
  deriving DecidableEq

structure PaymentData where
  token : String
  paymentMethodInfo : PaymentMethodInfo
  deriving DecidableEq

/-- A rejected request, with the two places of its response that are read. -/
structure ServerError where
  message : Option String
  challengeUrl : Option String
  deriving DecidableEq

inductive JsError
  | error (message : String)
  | typeError
  | rejected (error : ServerError)
  deriving DecidableEq

inductive ErrorState
  | waitTransaction
  | startCheckout
  | createPayment
  deriving DecidableEq

/-- The events of `EventsMap`. -/
inductive CheckoutProcessEvent
  | startServerPayment
  | startClientPayment
  | startWatchServerPayment
  | paymentOrder (order : Order)
  | error (state : ErrorState) (error : JsError)
  | transactionStatusChanged (status : TransactionStatus)
  | transaction3ds (method : TransactionAction) (url : String)
  | paymentData (data : PaymentData)
  | challengeRedirect (redirectPath : String)
  deriving DecidableEq

/-! ### Requests -/

structure CreateOrderResponse where
  checkoutOrderId : String
  orderId : String
  metadata : Option String
  deriving DecidableEq

structure CreateTransactionRequest where
  cardId : String
  challengeReturnPath : String
  deriving DecidableEq

structure CheckoutRequest where
  merchantOrigin : String
  cardId : String
  sheet : InitPaymentSheet
  paymentMethodType : PaymentMethodType
  challengeReturnPath : String
  billingContact : Option BillingContact
  shippingContact : Option ShippingContact
  deriving DecidableEq

/-- What the process waits for: an answer of the server or a timer of the polling loop. A status is
asked for the transaction of the order that the process has when it asks, and so belongs to the
payment of that order. -/
inductive Pending
  | createOrder (payment : ℕ) (data : StartPaymentData) (args : CreateOrderArgs)
  | createTransaction (payment : ℕ) (order : CreateOrderResponse)
    (request : CreateTransactionRequest)
  | getTransactionStatus (payment : ℕ) (transactionId : Option String) (requested : String)
  | checkout (payment : ℕ) (request : CheckoutRequest)
  | timer
  deriving DecidableEq

/-- What is recorded: an assignment of the order, an event, or an event that reports the status of a
transaction. -/
inductive Action
  | assigned
  | emitted (event : CheckoutProcessEvent)
  | reported (transactionId : Option String) (event : CheckoutProcessEvent)
  deriving DecidableEq

/-- An action with the payment it comes from, the number of payments started by then and the order
of the process by then. -/
structure Record where
  payment : ℕ
  started : ℕ
  order : Option Order
  action : Action
  deriving DecidableEq

/-- The configuration of the page. -/
structure Page where
  getChallengeReturnPath : String → String
  CHALLENGE_LIMIT_EXCEEDED : Bool

/-- The fields of the process, what it waits for, the number of payments started and the record of
its actions, the latest first. -/
structure CheckoutProcess where
  order : Option Order
  lastTransactionStatus : Option TransactionStatus
  pending : List Pending
  started : ℕ
  records : List Record
  deriving DecidableEq

/-! ### Methods -/

def CASH_KEY : String := "__CASH__"

/-- `getChallengeParams`; an error that is no rejected request has no response. -/
def getChallengeParams : JsError → Bool × String
  | .rejected error =>
    (error.message.getD "" = "CHALLENGE_REQUIRED", error.challengeUrl.getD "")
  | _ => ("" = "CHALLENGE_REQUIRED", "")

namespace CheckoutProcess

variable (p : CheckoutProcess)

def record (payment : ℕ) (action : Action) : CheckoutProcess :=
  { p with records := ⟨payment, p.started, p.order, action⟩ :: p.records }

def emit (payment : ℕ) (event : CheckoutProcessEvent) : CheckoutProcess :=
  p.record payment (.emitted event)

/-- An assignment of the order or of its fields. -/
def assign (payment : ℕ) (order : Order) : CheckoutProcess :=
  { p with order := some order }.record payment .assigned

def await (pending : Pending) : CheckoutProcess := { p with pending := p.pending ++ [pending] }

def reset : CheckoutProcess := { p with order := none, lastTransactionStatus := none }

/-- One turn of `doUntil`, up to its request. -/
def poll : CheckoutProcess :=
  match p.order with
  | none => p
  | some order =>
    p.await (.getTransactionStatus order.payment order.transactionId
      (order.transactionId.getD ""))

def watchServerPayment (payment : ℕ) : CheckoutProcess :=
  match p.order.bind fun order ↦ truthyText order.transactionId with
  | none =>
    p.emit payment (.error .waitTransaction
      (.error "Unable to watch transaction status: order not set"))
  | some _ => (p.emit payment .startWatchServerPayment).poll

/-- The status is one that the process reports. -/
def Reports (transaction : Transaction) : Prop :=
  p.lastTransactionStatus ≠ some transaction.status ∧
    (transaction.status ∈ [.failed, .authorized, .charged] ∨
      transaction.status = .threedsChallenge ∧ transaction.action.isSome ∧
        (truthyText transaction.actionUrl).isSome)

instance (transaction : Transaction) : Decidable (p.Reports transaction) :=
  inferInstanceAs (Decidable (_ ∧ _))

/-- The rest of a turn of `doUntil`. -/
def statusReceived (payment : ℕ) (transactionId : Option String) (transaction : Transaction) :
    CheckoutProcess :=
  if p.lastTransactionStatus = some transaction.status then p.await .timer
  else
    let changed := { p with lastTransactionStatus := some transaction.status }
    let reported := changed.record payment
      (.reported transactionId (.transactionStatusChanged transaction.status))
    match transaction.status with
    | .failed | .authorized | .charged => reported
    | .threedsChallenge =>
      match transaction.action, truthyText transaction.actionUrl with
      | some action, some actionUrl =>
        (reported.record payment
          (.reported transactionId (.transaction3ds action actionUrl))).await .timer
      | _, _ => changed.await .timer
    | .new => changed.await .timer

/-- `startServerPayment` up to the creation of the order. -/
def startServerPayment (data : StartPaymentData) : CheckoutProcess :=
  if data.paymentMethod = none ∧ data.paymentMethodType ≠ .cash then
    p.emit p.started (.error .startCheckout
      (.error "Unable to create order: payment-method not set"))
  else
    (p.emit p.started .startServerPayment).await (.createOrder p.started data
      { paymentMethodType := data.paymentMethodType
        paymentMethod := data.paymentMethod.map CardPaymentMethod.toPaymentMethod
        billingContact := data.billingContact
        shippingContact := data.shippingContact })

/-- `startServerPayment` from the created order to the creation of the transaction; a payment in
cash ends here. -/
def orderCreated (page : Page) (payment : ℕ) (data : StartPaymentData)
    (response : CreateOrderResponse) : CheckoutProcess :=
  let order : Order := ⟨response.orderId, response.checkoutOrderId, none, none, payment⟩
  let assigned := p.assign payment order
  if data.paymentMethodType = .cash then assigned.emit payment (.paymentOrder order)
  else
    match data.paymentMethod with
    | none => assigned.emit payment (.error .startCheckout .typeError)
    | some paymentMethod =>
      assigned.await (.createTransaction payment response
        { cardId := paymentMethod.id
          challengeReturnPath := page.getChallengeReturnPath paymentMethod.id })

/-- The rest of `startServerPayment`. -/
def transactionCreated (payment : ℕ) (response : CreateOrderResponse) (transactionId : String) :
    CheckoutProcess :=
  match p.order with
  | none => p.emit payment (.error .startCheckout .typeError)
  | some current =>
    let order := { current with
      transactionId := some transactionId
      metadata := response.metadata }
    ((p.assign payment order).emit payment (.paymentOrder order)).watchServerPayment payment

/-- The `catch` of `startClientPayment`. -/
def clientPaymentFailed (page : Page) (payment : ℕ) (error : JsError) : CheckoutProcess :=
  let (isChallengeRequired, redirectPath) := getChallengeParams error
  if isChallengeRequired ∧ ¬ page.CHALLENGE_LIMIT_EXCEEDED ∧ redirectPath ≠ "" then
    p.emit payment (.challengeRedirect redirectPath)
  else p.emit payment (.error .createPayment error)

/-- `startClientPayment` up to its request. -/
def startClientPayment (page : Page) (data : StartPaymentData) : CheckoutProcess :=
  let id := truthyText (data.paymentMethod.map CardPaymentMethod.id)
  if id = none ∧ data.paymentMethodType ≠ .cash then
    p.clientPaymentFailed page p.started
      (.error "Unable to create order: payment-method-id not set")
  else
    let paymentMethodId := id.getD CASH_KEY
    (p.emit p.started .startClientPayment).await (.checkout p.started
      { merchantOrigin := data.merchantOrigin
        cardId := paymentMethodId
        sheet := data.sheet
        paymentMethodType := data.paymentMethodType
        challengeReturnPath := page.getChallengeReturnPath paymentMethodId
        billingContact := data.billingContact
        shippingContact := data.shippingContact })

def startPayment (page : Page) (data : StartPaymentData) : CheckoutProcess :=
  let started := { p.reset with started := p.started + 1 }
  if data.isServerApi then started.startServerPayment data
  else started.startClientPayment page data

/-- `cancelPayment`; what is emitted afterwards is recorded whether or not anybody listens. -/
def cancelPayment : CheckoutProcess := p.reset

/-- The rejection of a request ends the chain that waits for it; a timer is never rejected. -/
def rejected (page : Page) (error : JsError) : Pending → Option CheckoutProcess
  | .createOrder payment _ _ | .createTransaction payment _ _ =>
    some (p.emit payment (.error .startCheckout error))
  | .getTransactionStatus payment _ _ => some (p.emit payment (.error .waitTransaction error))
  | .checkout payment _ => some (p.clientPaymentFailed page payment error)
  | .timer => none

/-! ### The system -/

/-- Takes what the process waits for at an index. -/
def take (index : ℕ) : CheckoutProcess := { p with pending := p.pending.eraseIdx index }

end CheckoutProcess

inductive ProcessEvent
  | startPayment (data : StartPaymentData)
  | cancelPayment
  | orderCreated (index : ℕ) (response : CreateOrderResponse)
  | transactionCreated (index : ℕ) (transactionId : String)
  | statusReceived (index : ℕ) (transaction : Transaction)
  | checkedOut (index : ℕ) (data : PaymentData)
  | rejected (index : ℕ) (error : JsError)
  | elapsed (index : ℕ)
  deriving DecidableEq

namespace CheckoutProcess

def step (page : Page) (p : CheckoutProcess) : ProcessEvent → Option CheckoutProcess
  | .startPayment data => some (p.startPayment page data)
  | .cancelPayment => some p.cancelPayment
  | .orderCreated index response =>
    match p.pending[index]? with
    | some (.createOrder payment data _) =>
      some ((p.take index).orderCreated page payment data response)
    | _ => none
  | .transactionCreated index transactionId =>
    match p.pending[index]? with
    | some (.createTransaction payment order _) =>
      some ((p.take index).transactionCreated payment order transactionId)
    | _ => none
  | .statusReceived index transaction =>
    match p.pending[index]? with
    | some (.getTransactionStatus payment transactionId _) =>
      some ((p.take index).statusReceived payment transactionId transaction)
    | _ => none
  | .checkedOut index data =>
    match p.pending[index]? with
    | some (.checkout payment _) => some ((p.take index).emit payment (.paymentData data))
    | _ => none
  | .rejected index error => p.pending[index]?.bind ((p.take index).rejected page error)
  | .elapsed index =>
    match p.pending[index]? with
    | some .timer => some (p.take index).poll
    | _ => none

def initial : CheckoutProcess := ⟨none, none, [], 0, []⟩

end CheckoutProcess

/-- The process under any calls, any answers and any order of them. -/
def checkoutProcess (page : Page) : System CheckoutProcess ProcessEvent where
  start := fun p ↦ p = .initial
  step := CheckoutProcess.step page

/-- What a step does: a call, or the rest of the method that waited for the answer. -/
inductive Steps (page : Page) (p : CheckoutProcess) : ProcessEvent → CheckoutProcess → Prop
  | startPayment (data : StartPaymentData) :
    Steps page p (.startPayment data) (p.startPayment page data)
  | cancelPayment : Steps page p .cancelPayment p.cancelPayment
  | orderCreated {index payment : ℕ} {data : StartPaymentData} {args : CreateOrderArgs}
    (response : CreateOrderResponse)
    (waiting : p.pending[index]? = some (.createOrder payment data args)) :
    Steps page p (.orderCreated index response)
      ((p.take index).orderCreated page payment data response)
  | transactionCreated {index payment : ℕ} {order : CreateOrderResponse}
    {request : CreateTransactionRequest} (transactionId : String)
    (waiting : p.pending[index]? = some (.createTransaction payment order request)) :
    Steps page p (.transactionCreated index transactionId)
      ((p.take index).transactionCreated payment order transactionId)
  | statusReceived {index payment : ℕ} {transactionId : Option String} {requested : String}
    (transaction : Transaction)
    (waiting : p.pending[index]? = some (.getTransactionStatus payment transactionId requested)) :
    Steps page p (.statusReceived index transaction)
      ((p.take index).statusReceived payment transactionId transaction)
  | checkedOut {index payment : ℕ} {request : CheckoutRequest} (data : PaymentData)
    (waiting : p.pending[index]? = some (.checkout payment request)) :
    Steps page p (.checkedOut index data) ((p.take index).emit payment (.paymentData data))
  | rejected {index : ℕ} {error : JsError} {r : Pending} {q : CheckoutProcess}
    (waiting : p.pending[index]? = some r)
    (failed : (p.take index).rejected page error r = some q) :
    Steps page p (.rejected index error) q
  | elapsed {index : ℕ} (waiting : p.pending[index]? = some .timer) :
    Steps page p (.elapsed index) (p.take index).poll

theorem steps_of_step {page : Page} {p q : CheckoutProcess} {e : ProcessEvent}
    (h : (checkoutProcess page).step p e = some q) : Steps page p e q := by
  change p.step page e = some q at h
  cases e with
  | startPayment data =>
    obtain rfl := Option.some.inj h
    exact .startPayment data
  | cancelPayment =>
    obtain rfl := Option.some.inj h
    exact .cancelPayment
  | rejected index error =>
    obtain ⟨r, waiting, failed⟩ := Option.bind_eq_some_iff.mp h
    exact .rejected waiting failed
  | orderCreated index response =>
    simp only [CheckoutProcess.step] at h
    split at h
    · obtain rfl := Option.some.inj h
      exact .orderCreated response ‹_›
    · cases h
  | transactionCreated index transactionId =>
    simp only [CheckoutProcess.step] at h
    split at h
    · obtain rfl := Option.some.inj h
      exact .transactionCreated transactionId ‹_›
    · cases h
  | statusReceived index transaction =>
    simp only [CheckoutProcess.step] at h
    split at h
    · obtain rfl := Option.some.inj h
      exact .statusReceived transaction ‹_›
    · cases h
  | checkedOut index data =>
    simp only [CheckoutProcess.step] at h
    split at h
    · obtain rfl := Option.some.inj h
      exact .checkedOut data ‹_›
    · cases h
  | elapsed index =>
    simp only [CheckoutProcess.step] at h
    split at h
    · obtain rfl := Option.some.inj h
      exact .elapsed ‹_›
    · cases h

/-! ### What an action concerns -/

/-- A reported status is that of the order's transaction. -/
def Action.ReportsOf (order : Option Order) : Action → Prop
  | .reported transactionId _ =>
    transactionId.isSome ∧ ∃ o ∈ order, o.transactionId = transactionId
  | _ => True

/-- The action comes from the payment started last, and reports on its order. -/
def Record.Current (record : Record) : Prop :=
  record.payment = record.started ∧ record.action.ReportsOf record.order

instance (order : Option Order) (action : Action) : Decidable (action.ReportsOf order) := by
  induction action using Action.casesOn <;> unfold Action.ReportsOf <;> infer_instance

instance (record : Record) : Decidable record.Current := inferInstanceAs (Decidable (_ ∧ _))

namespace Pending

/-- The payment that waits; the timer of a polling loop belongs to none. -/
def payment : Pending → Option ℕ
  | .createOrder payment _ _ | .createTransaction payment _ _
  | .getTransactionStatus payment _ _ | .checkout payment _ => some payment
  | .timer => none

/-- The transaction that is asked for. -/
def transactionId : Pending → Option String
  | .getTransactionStatus _ transactionId _ => transactionId
  | _ => none

/-- The payment that waits, if any, is the one started last. -/
def OfLast (p : CheckoutProcess) (pending : Pending) : Prop :=
  ∀ payment ∈ pending.payment, payment = p.started

end Pending

/-- An answer arrives while the payment that waits for it is the one started last. A status that is
not reported may arrive at any time; one that is reported answers a request with a transaction, and
the payment has not been cancelled. -/
def InTime (p : CheckoutProcess) : ProcessEvent → Prop
  | .startPayment _ | .cancelPayment | .elapsed _ => True
  | .orderCreated index _ | .transactionCreated index _ | .checkedOut index _
  | .rejected index _ => ∀ pending ∈ p.pending[index]?, pending.OfLast p
  | .statusReceived index transaction => p.Reports transaction →
    ∀ pending ∈ p.pending[index]?,
      pending.OfLast p ∧ pending.transactionId.isSome ∧ p.order.isSome

instance (p : CheckoutProcess) (pending : Pending) : Decidable (pending.OfLast p) :=
  inferInstanceAs (Decidable (∀ payment ∈ pending.payment, _))

instance (p : CheckoutProcess) (e : ProcessEvent) : Decidable (InTime p e) := by
  induction e using ProcessEvent.casesOn <;> unfold InTime <;> infer_instance

/-! ### One creation at a time -/

namespace Pending

/-- The payment `n` waits for its order or for its transaction. -/
def Creates (n : ℕ) : Pending → Prop
  | .createOrder payment _ _ | .createTransaction payment _ _ => payment = n
  | _ => False

/-- The answer depends on what the order of payment `n` is. -/
def Occupies (n : ℕ) : Pending → Prop
  | .getTransactionStatus payment transactionId _ => payment = n ∧ transactionId.isSome
  | pending => pending.Creates n

/-- What the process waits for agrees with the order of the payment started last: the order is not
there before it is created, it has no transaction before that is created, and the status is asked
for the transaction that it has. -/
def Agrees (n : ℕ) (order : Option Order) : Pending → Prop
  | .createOrder payment _ _ => payment = n → order = none
  | .createTransaction payment _ _ => payment = n → ∀ o ∈ order, o.transactionId = none
  | .getTransactionStatus payment transactionId _ =>
    payment = n → transactionId.isSome → ∀ o ∈ order, o.transactionId = transactionId
  | _ => True

/-- While a payment creates, nothing else waits on its order. -/
def Apart (n : ℕ) (r s : Pending) : Prop :=
  (r.Creates n → ¬ s.Occupies n) ∧ (s.Creates n → ¬ r.Occupies n)

variable {n : ℕ} {r s : Pending}

theorem Creates.occupies (h : r.Creates n) : r.Occupies n := by
  cases r with
  | getTransactionStatus => exact absurd h id
  | _ => exact h

theorem Apart.symm (h : Apart n r s) : Apart n s r := ⟨h.2, h.1⟩

theorem apart_of_not_occupies (h : ¬ s.Occupies n) (r : Pending) : Apart n r s :=
  ⟨fun _ ↦ h, fun hs _ ↦ h hs.occupies⟩

theorem agrees_of_not_occupies (h : ¬ s.Occupies n) (order : Option Order) :
    s.Agrees n order := by
  cases s with
  | createOrder => exact fun hn ↦ absurd hn h
  | createTransaction => exact fun hn ↦ absurd hn h
  | getTransactionStatus => exact fun hn hid ↦ absurd ⟨hn, hid⟩ h
  | checkout => trivial
  | timer => trivial

/-- A payment that has not been started waits for nothing. -/
theorem not_occupies_of_lt (h : ∀ payment ∈ s.payment, payment ≤ n) : ¬ s.Occupies (n + 1) := by
  cases s with
  | createOrder payment =>
    rintro rfl
    exact Nat.not_succ_le_self n (h _ rfl)
  | createTransaction payment =>
    rintro rfl
    exact Nat.not_succ_le_self n (h _ rfl)
  | getTransactionStatus payment =>
    rintro ⟨rfl, -⟩
    exact Nat.not_succ_le_self n (h _ rfl)
  | checkout => exact id
  | timer => exact id

end Pending

structure Coherent (p : CheckoutProcess) : Prop where
  own : ∀ order ∈ p.order, order.payment = p.started
  past : ∀ r ∈ p.pending, ∀ payment ∈ r.payment, payment ≤ p.started
  agrees : ∀ r ∈ p.pending, r.Agrees p.started p.order
  apart : p.pending.Pairwise (Pending.Apart p.started)
  current : ∀ record ∈ p.records, record.Current

namespace Coherent

variable {p : CheckoutProcess}

/-- With nothing waiting on the order, any order of the payment started last will do. -/
theorem of_free (own : ∀ order ∈ p.order, order.payment = p.started)
    (past : ∀ r ∈ p.pending, ∀ payment ∈ r.payment, payment ≤ p.started)
    (free : ∀ r ∈ p.pending, ¬ r.Occupies p.started)
    (current : ∀ record ∈ p.records, record.Current) : Coherent p where
  own := own
  past := past
  agrees := fun r hr ↦ Pending.agrees_of_not_occupies (free r hr) p.order
  apart := List.pairwise_of_forall_mem_list fun r _ s hs ↦
    Pending.apart_of_not_occupies (free s hs) r
  current := current

theorem record (h : Coherent p) {payment : ℕ} {action : Action}
    (hcurrent : Record.Current ⟨payment, p.started, p.order, action⟩) :
    Coherent (p.record payment action) :=
  ⟨h.own, h.past, h.agrees, h.apart, List.forall_mem_cons.mpr ⟨hcurrent, h.current⟩⟩

theorem emit (h : Coherent p) {payment : ℕ} (hlast : payment = p.started)
    (event : CheckoutProcessEvent) : Coherent (p.emit payment event) :=
  h.record ⟨hlast, trivial⟩

theorem assign (h : Coherent p) (free : ∀ r ∈ p.pending, ¬ r.Occupies p.started)
    {payment : ℕ} (hlast : payment = p.started) {order : Order}
    (hown : order.payment = p.started) : Coherent (p.assign payment order) := by
  refine of_free ?_ h.past free (List.forall_mem_cons.mpr ⟨⟨hlast, trivial⟩, h.current⟩)
  rintro assigned hassigned
  obtain rfl := Option.some.inj hassigned
  exact hown

theorem await (h : Coherent p) {r : Pending} (past : ∀ payment ∈ r.payment, payment ≤ p.started)
    (agrees : r.Agrees p.started p.order)
    (apart : ∀ s ∈ p.pending, Pending.Apart p.started s r) : Coherent (p.await r) where
  own := h.own
  past := List.forall_mem_append.mpr ⟨h.past, List.forall_mem_singleton.mpr past⟩
  agrees := List.forall_mem_append.mpr ⟨h.agrees, List.forall_mem_singleton.mpr agrees⟩
  apart := List.pairwise_append.mpr ⟨h.apart, List.pairwise_singleton _ r,
    fun s hs _ hr ↦ List.mem_singleton.mp hr ▸ apart s hs⟩
  current := h.current

theorem await_of_not_occupies (h : Coherent p) {r : Pending}
    (past : ∀ payment ∈ r.payment, payment ≤ p.started) (hr : ¬ r.Occupies p.started) :
    Coherent (p.await r) :=
  h.await past (Pending.agrees_of_not_occupies hr p.order)
    fun s _ ↦ Pending.apart_of_not_occupies hr s

theorem await_timer (h : Coherent p) : Coherent (p.await .timer) :=
  h.await_of_not_occupies (fun _ hmem ↦ absurd hmem (Option.not_mem_none _)) id

/-- What is taken leaves a coherent process, and what it occupies nothing else waits on. -/
theorem take (h : Coherent p) {index : ℕ} {r : Pending} (hr : p.pending[index]? = some r) :
    Coherent (p.take index) ∧ r.Agrees p.started p.order ∧
      ∀ s ∈ (p.take index).pending, Pending.Apart p.started r s := by
  have hsub : (p.take index).pending.Sublist p.pending := List.eraseIdx_sublist p.pending index
  obtain ⟨hlt, hget⟩ := List.getElem?_eq_some_iff.mp hr
  have hperm : (r :: p.pending.eraseIdx index).Perm p.pending :=
    hget ▸ List.getElem_cons_eraseIdx_perm hlt
  refine ⟨⟨h.own, fun s hs ↦ h.past s (hsub.subset hs), fun s hs ↦ h.agrees s (hsub.subset hs),
    h.apart.sublist hsub, h.current⟩, h.agrees r (List.mem_of_getElem? hr), ?_⟩
  have hpairs := (hperm.pairwise_iff fun {_ _} hapart ↦ hapart.symm).mpr h.apart
  exact (List.pairwise_cons.mp hpairs).1

theorem poll (h : Coherent p) : Coherent p.poll := by
  rw [CheckoutProcess.poll]
  cases horder : p.order with
  | none => exact h
  | some order =>
    have hown := h.own order horder
    refine h.await ?_ ?_ ?_
    · rintro payment hpayment
      obtain rfl := Option.some.inj hpayment
      exact hown.le
    · rintro - - current hcurrent
      obtain rfl := Option.some.inj (horder.symm.trans hcurrent)
      rfl
    · -- What still creates would contradict the order or its transaction.
      refine fun s hs ↦ ⟨fun hcreates hoccupies ↦ ?_, fun hcreates ↦ absurd hcreates id⟩
      have hagrees := h.agrees s hs
      cases s with
      | createOrder =>
        exact absurd ((hagrees hcreates).symm.trans horder) (Option.some_ne_none order).symm
      | createTransaction =>
        have hnone := hagrees hcreates order horder
        exact absurd hoccupies.2 (Option.not_isSome_iff_eq_none.mpr hnone)
      | _ => exact hcreates

theorem watchServerPayment (h : Coherent p) {payment : ℕ} (hlast : payment = p.started) :
    Coherent (p.watchServerPayment payment) := by
  rw [CheckoutProcess.watchServerPayment]
  split
  · exact h.emit hlast _
  · exact (h.emit hlast _).poll

theorem startServerPayment (h : Coherent p) (horder : p.order = none)
    (free : ∀ r ∈ p.pending, ¬ r.Occupies p.started) (data : StartPaymentData) :
    Coherent (p.startServerPayment data) := by
  rw [CheckoutProcess.startServerPayment]
  split_ifs
  · exact h.emit rfl _
  · refine (h.emit rfl _).await ?_ (fun _ ↦ horder) fun s hs ↦
      (Pending.apart_of_not_occupies (free s hs) _).symm
    rintro payment hpayment
    obtain rfl := Option.some.inj hpayment
    exact le_rfl

theorem clientPaymentFailed (h : Coherent p) (page : Page) {payment : ℕ}
    (hlast : payment = p.started) (error : JsError) :
    Coherent (p.clientPaymentFailed page payment error) := by
  rw [CheckoutProcess.clientPaymentFailed]
  rcases getChallengeParams error with ⟨isChallengeRequired, redirectPath⟩
  dsimp only
  split_ifs <;> exact h.emit hlast _

theorem startClientPayment (h : Coherent p) (page : Page) (data : StartPaymentData) :
    Coherent (p.startClientPayment page data) := by
  rw [CheckoutProcess.startClientPayment]
  dsimp only
  split_ifs
  · exact h.clientPaymentFailed page rfl _
  · refine (h.emit rfl _).await_of_not_occupies ?_ id
    rintro payment hpayment
    obtain rfl := Option.some.inj hpayment
    exact le_rfl

theorem startPayment (h : Coherent p) (page : Page) (data : StartPaymentData) :
    Coherent (p.startPayment page data) := by
  have hfree : ∀ r ∈ p.pending, ¬ r.Occupies (p.started + 1) :=
    fun r hr ↦ Pending.not_occupies_of_lt (h.past r hr)
  have hstarted : Coherent { p.reset with started := p.started + 1 } :=
    of_free (fun _ hmem ↦ absurd hmem (Option.not_mem_none _))
      (fun r hr payment hpayment ↦ (h.past r hr payment hpayment).trans (Nat.le_succ _))
      hfree h.current
  rw [CheckoutProcess.startPayment]
  split_ifs
  · exact hstarted.startServerPayment rfl hfree data
  · exact hstarted.startClientPayment page data

theorem cancelPayment (h : Coherent p) : Coherent p.cancelPayment where
  own := fun _ hmem ↦ absurd hmem (Option.not_mem_none _)
  past := h.past
  agrees := by
    intro r hr
    cases r with
    | createOrder => exact fun _ ↦ rfl
    | createTransaction => exact fun _ _ hmem ↦ absurd hmem (Option.not_mem_none _)
    | getTransactionStatus => exact fun _ _ _ hmem ↦ absurd hmem (Option.not_mem_none _)
    | checkout => trivial
    | timer => trivial
  apart := h.apart
  current := h.current

theorem orderCreated (h : Coherent p) (free : ∀ r ∈ p.pending, ¬ r.Occupies p.started)
    (page : Page) {payment : ℕ} (hlast : payment = p.started) (data : StartPaymentData)
    (response : CreateOrderResponse) :
    Coherent (p.orderCreated page payment data response) := by
  have hassigned : Coherent (p.assign payment
      ⟨response.orderId, response.checkoutOrderId, none, none, payment⟩) :=
    h.assign free hlast hlast
  rw [CheckoutProcess.orderCreated]
  split_ifs
  · exact hassigned.emit hlast _
  · split
    · exact hassigned.emit hlast _
    · refine hassigned.await ?_ ?_ fun s hs ↦
        (Pending.apart_of_not_occupies (free s hs) _).symm
      · rintro waiting hwaiting
        obtain rfl := Option.some.inj hwaiting
        exact hlast.le
      · rintro - order horder
        obtain rfl := Option.some.inj horder
        rfl

theorem transactionCreated (h : Coherent p) (free : ∀ r ∈ p.pending, ¬ r.Occupies p.started)
    {payment : ℕ} (hlast : payment = p.started) (response : CreateOrderResponse)
    (transactionId : String) :
    Coherent (p.transactionCreated payment response transactionId) := by
  rw [CheckoutProcess.transactionCreated]
  split
  · exact h.emit hlast _
  · rename_i current horder
    refine ((h.assign free hlast ?_).emit hlast _).watchServerPayment hlast
    exact h.own current horder

theorem statusReceived (h : Coherent p) {payment : ℕ} {transactionId : Option String}
    {transaction : Transaction}
    (hcurrent : p.Reports transaction → payment = p.started ∧ transactionId.isSome ∧
      ∃ order ∈ p.order, order.transactionId = transactionId) :
    Coherent (p.statusReceived payment transactionId transaction) := by
  have hchanged : Coherent { p with lastTransactionStatus := some transaction.status } :=
    ⟨h.own, h.past, h.agrees, h.apart, h.current⟩
  rw [CheckoutProcess.statusReceived]
  split_ifs with hsame
  · exact h.await_timer
  · have hreported : ∀ event, p.Reports transaction → Coherent
        (({ p with lastTransactionStatus := some transaction.status } : CheckoutProcess).record
          payment (.reported transactionId event)) :=
      fun event hreports ↦ hchanged.record (hcurrent hreports)
    dsimp only
    split
    · exact hreported _ ⟨hsame, by simp [*]⟩
    · exact hreported _ ⟨hsame, by simp [*]⟩
    · exact hreported _ ⟨hsame, by simp [*]⟩
    · split
      · have hreports : p.Reports transaction := ⟨hsame, by simp [*]⟩
        refine Coherent.await_timer ((hreported _ hreports).record ?_)
        exact hcurrent hreports
      · exact hchanged.await_timer
    · exact hchanged.await_timer

theorem rejected (h : Coherent p) (page : Page) {r : Pending} (hlast : r.OfLast p)
    {error : JsError} {q : CheckoutProcess} (hrejected : p.rejected page error r = some q) :
    Coherent q := by
  cases r with
  | timer => cases hrejected
  | checkout payment =>
    obtain rfl := Option.some.inj hrejected
    exact h.clientPaymentFailed page (hlast payment rfl) error
  | _ payment =>
    obtain rfl := Option.some.inj hrejected
    exact h.emit (hlast payment rfl) _

end Coherent

/-! ### Answers in time -/

variable {page : Page} {p q : CheckoutProcess} {e : ProcessEvent}

theorem coherent_step (h : Coherent p) (hin : InTime p e)
    (hstep : (checkoutProcess page).step p e = some q) : Coherent q := by
  cases steps_of_step hstep with
  | startPayment data => exact h.startPayment page data
  | cancelPayment => exact h.cancelPayment
  | orderCreated response waiting =>
    have hlast := hin _ waiting _ rfl
    obtain ⟨htaken, -, hapart⟩ := h.take waiting
    exact htaken.orderCreated (fun s hs ↦ (hapart s hs).1 hlast) page hlast _ response
  | transactionCreated transactionId waiting =>
    have hlast := hin _ waiting _ rfl
    obtain ⟨htaken, -, hapart⟩ := h.take waiting
    exact htaken.transactionCreated (fun s hs ↦ (hapart s hs).1 hlast) hlast _ transactionId
  | statusReceived transaction waiting =>
    obtain ⟨htaken, hagrees, -⟩ := h.take waiting
    refine htaken.statusReceived fun hreports ↦ ?_
    obtain ⟨hlast, hid, horder⟩ := hin hreports _ waiting
    obtain ⟨order, horder⟩ := Option.isSome_iff_exists.mp horder
    exact ⟨hlast _ rfl, hid, order, horder, hagrees (hlast _ rfl) hid order horder⟩
  | checkedOut data waiting => exact (h.take waiting).1.emit (hin _ waiting _ rfl) _
  | rejected waiting failed =>
    exact (h.take waiting).1.rejected page (hin _ waiting) failed
  | elapsed waiting => exact (h.take waiting).1.poll

/-! ### Late answers -/

/-- What has been recorded stays recorded by the rest of a method. -/
theorem mem_records_watchServerPayment {record : Record} (h : record ∈ p.records)
    (payment : ℕ) : record ∈ (p.watchServerPayment payment).records := by
  rw [CheckoutProcess.watchServerPayment]
  split
  · exact List.mem_cons_of_mem _ h
  · rw [CheckoutProcess.poll]
    split <;> exact List.mem_cons_of_mem _ h

theorem orderCreated_records (payment : ℕ) (data : StartPaymentData)
    (response : CreateOrderResponse) :
    ∃ record ∈ (p.orderCreated page payment data response).records,
      record.payment = payment ∧ record.started = p.started := by
  rw [CheckoutProcess.orderCreated]
  split_ifs
  · exact ⟨_, List.mem_cons_self, rfl, rfl⟩
  · split <;> exact ⟨_, List.mem_cons_self, rfl, rfl⟩

theorem transactionCreated_records (payment : ℕ) (response : CreateOrderResponse)
    (transactionId : String) :
    ∃ record ∈ (p.transactionCreated payment response transactionId).records,
      record.payment = payment ∧ record.started = p.started := by
  rw [CheckoutProcess.transactionCreated]
  split
  · exact ⟨_, List.mem_cons_self, rfl, rfl⟩
  · exact ⟨_, mem_records_watchServerPayment List.mem_cons_self payment, rfl, rfl⟩

theorem clientPaymentFailed_records (payment : ℕ) (error : JsError) :
    ∃ record ∈ (p.clientPaymentFailed page payment error).records,
      record.payment = payment ∧ record.started = p.started := by
  rw [CheckoutProcess.clientPaymentFailed]
  rcases getChallengeParams error with ⟨isChallengeRequired, redirectPath⟩
  dsimp only
  split_ifs <;> exact ⟨_, List.mem_cons_self, rfl, rfl⟩

theorem rejected_records {r : Pending} {error : JsError} (h : p.rejected page error r = some q)
    {payment : ℕ} (hpayment : payment ∈ r.payment) :
    ∃ record ∈ q.records, record.payment = payment ∧ record.started = p.started := by
  cases r with
  | timer => cases h
  | checkout =>
    obtain rfl := Option.some.inj h
    obtain rfl := Option.some.inj hpayment
    exact clientPaymentFailed_records _ error
  | _ =>
    obtain rfl := Option.some.inj h
    obtain rfl := Option.some.inj hpayment
    exact ⟨_, List.mem_cons_self, rfl, rfl⟩

theorem statusReceived_records {transaction : Transaction} (h : p.Reports transaction)
    (payment : ℕ) (transactionId : Option String) :
    ⟨payment, p.started, p.order,
        .reported transactionId (.transactionStatusChanged transaction.status)⟩ ∈
      (p.statusReceived payment transactionId transaction).records := by
  obtain ⟨hchanged, hstatus⟩ := h
  rw [CheckoutProcess.statusReceived, if_neg hchanged]
  rcases hstatus with hstatus | ⟨hstatus, haction, hurl⟩
  · simp only [List.mem_cons, List.not_mem_nil, or_false] at hstatus
    rcases hstatus with hstatus | hstatus | hstatus <;> simp only [hstatus] <;>
      exact List.mem_cons_self
  · obtain ⟨action, haction⟩ := Option.isSome_iff_exists.mp haction
    obtain ⟨url, hurl⟩ := Option.isSome_iff_exists.mp hurl
    simp only [hstatus, haction, hurl]
    exact List.mem_cons_of_mem _ List.mem_cons_self

/-- An answer that is late leaves a record of another payment or of another transaction. -/
theorem late_recorded (hlate : ¬ InTime p e) (hstep : (checkoutProcess page).step p e = some q) :
    ∃ record ∈ q.records, ¬ record.Current := by
  -- A record of a payment that is not the last one is not current.
  have hother : ∀ {index : ℕ} {r : Pending}, p.pending[index]? = some r →
      (¬ ∀ pending ∈ p.pending[index]?, pending.OfLast p) →
      (∀ payment ∈ r.payment, ∃ record ∈ q.records,
        record.payment = payment ∧ record.started = p.started) →
      ∃ record ∈ q.records, ¬ record.Current := by
    intro index r waiting hr hrecords
    simp only [waiting, Option.mem_some_iff, forall_eq', Pending.OfLast, not_forall] at hr
    obtain ⟨payment, hpayment, hne⟩ := hr
    obtain ⟨record, hmem, hof, hstarted⟩ := hrecords payment hpayment
    exact ⟨record, hmem, fun hcurrent ↦ hne (hof.symm.trans (hcurrent.1.trans hstarted))⟩
  cases steps_of_step hstep with
  | startPayment => exact absurd trivial hlate
  | cancelPayment => exact absurd trivial hlate
  | elapsed => exact absurd trivial hlate
  | orderCreated response waiting =>
    refine hother waiting hlate fun _ hpayment ↦ ?_
    obtain rfl := Option.some.inj hpayment
    exact orderCreated_records _ _ response
  | transactionCreated transactionId waiting =>
    refine hother waiting hlate fun _ hpayment ↦ ?_
    obtain rfl := Option.some.inj hpayment
    exact transactionCreated_records _ _ transactionId
  | checkedOut data waiting =>
    refine hother waiting hlate fun _ hpayment ↦ ?_
    obtain rfl := Option.some.inj hpayment
    exact ⟨_, List.mem_cons_self, rfl, rfl⟩
  | rejected waiting failed =>
    exact hother waiting hlate fun _ hpayment ↦ rejected_records failed hpayment
  | @statusReceived index payment transactionId requested transaction waiting =>
    simp only [InTime, waiting, Option.mem_some_iff, forall_eq', not_forall] at hlate
    obtain ⟨hreports, hr⟩ := hlate
    have hmem := statusReceived_records (p := p.take index) hreports payment transactionId
    refine ⟨_, hmem, fun hcurrent ↦ hr ?_⟩
    obtain ⟨hlast, hid, order, horder, -⟩ := hcurrent
    refine ⟨fun _ hpayment ↦ ?_, hid, Option.isSome_of_mem horder⟩
    obtain rfl := Option.some.inj hpayment
    exact hlast

/-- In a run whose answers are all in time, every event and every assignment of the order concerns
the payment started last. In any run, the first answer that is not in time breaks this. -/
theorem records_concern_current (page : Page) :
    (∀ p, (checkoutProcess page).Reachable InTime p → ∀ record ∈ p.records, record.Current) ∧
    ∀ p e q, (checkoutProcess page).step p e = some q → ¬ InTime p e →
      ∃ record ∈ q.records, ¬ record.Current := by
  refine ⟨fun p hp ↦ ?_, fun p e q hstep hlate ↦ late_recorded hlate hstep⟩
  have hcoherent : Coherent p := by
    refine hp.invariant ?_ fun s e t h hin hstep ↦ coherent_step h hin hstep
    rintro s rfl
    exact ⟨fun _ h ↦ absurd h (Option.not_mem_none _), fun _ h ↦ absurd h List.not_mem_nil,
      fun _ h ↦ absurd h List.not_mem_nil, List.Pairwise.nil,
      fun _ h ↦ absurd h List.not_mem_nil⟩
  exact hcoherent.current

/-! ### A payment after a cancelled one -/

def shopPage : Page where
  getChallengeReturnPath := fun cardId ↦ "/web/checkout?chn=1&chnCardId=" ++ cardId
  CHALLENGE_LIMIT_EXCEEDED := false

def payByCard : StartPaymentData where
  paymentMethod := some ⟨⟨"1234", "visa"⟩, "card-1"⟩
  isServerApi := true
  sheet := bookSheet
  paymentMethodType := .card
  billingContact := none
  shippingContact := none
  merchantOrigin := "bookshop"

def created (orderId : String) : CreateOrderResponse := ⟨"checkout-" ++ orderId, orderId, none⟩

/-- A payment that is charged after one that was cancelled. -/
def chargedPayment : List ProcessEvent :=
  [.startPayment payByCard, .rejected 0 .typeError, .cancelPayment, .startPayment payByCard,
    .orderCreated 0 (created "second"), .transactionCreated 0 "transaction-2",
    .statusReceived 0 ⟨.new, none, none⟩, .elapsed 0, .statusReceived 0 ⟨.charged, none, none⟩]

theorem chargedPayment_isSome :
    ((checkoutProcess shopPage).run InTime .initial chargedPayment).isSome := by
  decide

theorem records_concern_current_witness :
    let p := ((checkoutProcess shopPage).run InTime .initial chargedPayment).get
      chargedPayment_isSome
    p.records.length = 8 ∧ ∀ record ∈ p.records, record.Current :=
  ⟨by decide, (records_concern_current shopPage).1 _
    (System.reachable_get rfl chargedPayment_isSome)⟩

/-- The order of a cancelled payment is created after that of the next payment; the status of its
transaction arrives during the next payment; and the status arrives after the cancellation. -/
def latePayments : List (List ProcessEvent) :=
  [[.startPayment payByCard, .cancelPayment, .startPayment payByCard,
      .orderCreated 1 (created "second"), .orderCreated 0 (created "first")],
    [.startPayment payByCard, .orderCreated 0 (created "first"),
      .transactionCreated 0 "transaction-1", .cancelPayment, .startPayment payByCard,
      .orderCreated 1 (created "second"), .statusReceived 0 ⟨.charged, none, none⟩],
    [.startPayment payByCard, .orderCreated 0 (created "first"),
      .transactionCreated 0 "transaction-1", .cancelPayment,
      .statusReceived 0 ⟨.charged, none, none⟩]]

theorem cancelled_payment_acts :
    (∀ events ∈ latePayments, ∃ p, (checkoutProcess shopPage).Reachable (fun _ _ ↦ True) p ∧
      ∃ record ∈ p.records, ¬ record.Current) ∧
    ∃ p, (checkoutProcess shopPage).Reachable (fun _ _ ↦ True) p ∧ p.started = 2 ∧
      ∃ order ∈ p.order, order.payment = 1 := by
  constructor
  · intro events hevents
    have hrun : ∃ p ∈ (checkoutProcess shopPage).run (fun _ _ ↦ True) .initial events,
        ∃ record ∈ p.records, ¬ record.Current := by
      revert events
      decide
    obtain ⟨p, hp, hrecord⟩ := hrun
    exact ⟨p, ⟨_, rfl, System.leads_of_run hp⟩, hrecord⟩
  · have hrun : ∃ p ∈ (checkoutProcess shopPage).run (fun _ _ ↦ True) .initial
        [.startPayment payByCard, .cancelPayment, .startPayment payByCard,
          .orderCreated 1 (created "second"), .orderCreated 0 (created "first")],
        p.started = 2 ∧ ∃ order ∈ p.order, order.payment = 1 := by
      decide
    obtain ⟨p, hp, hreplaced⟩ := hrun
    exact ⟨p, ⟨_, rfl, System.leads_of_run hp⟩, hreplaced⟩

end YandexPay.Checkout
