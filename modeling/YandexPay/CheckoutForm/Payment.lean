import YandexPay.Checkout.Process

/-!
# The payment of the checkout form

`store/checkout/services.ts` over `CheckoutProcess`. `startPaymentService` puts listeners on the
process and starts it; the listeners set the stage of the form, which is the screen that is shown,
and send the outcome to the merchant's page. `resetPaymentService` takes all listeners off.

The listeners never call the process, so that a step of the process is followed by what they do with
its events, in their order. The form is a transition system whose events are the actions of its
screens and the answers that the process gets. The messages that were sent are kept with the number
of payments started by then.
-/

set_option autoImplicit false
set_option relaxedAutoImplicit false

namespace YandexPay.CheckoutForm

open Transition Checkout

/-! ### Stages and messages -/

inductive PaymentStageType
  | initial
  | newCard
  | payment
  | authYa
  | auth3ds
  | splitPayment
  | failed
  | successInfo
  | successRedirect
  deriving DecidableEq

/-- `PaymentState['stage']`; the action of a failure is to report the error to the merchant. -/
inductive PaymentStage
  | initial
  | newCard
  | payment
  | authYa (challengePath : String)
  | auth3ds (method : TransactionAction) (url : String)
  | splitPayment (splitFrameUrl : String)
  | failed (reason : Option String) (action : Option JsError)
  | successInfo
  | successRedirect
  deriving DecidableEq

def PaymentStage.type : PaymentStage → PaymentStageType
  | .initial => .initial
  | .newCard => .newCard
  | .payment => .payment
  | .authYa _ => .authYa
  | .auth3ds _ _ => .auth3ds
  | .splitPayment _ => .splitPayment
  | .failed _ _ => .failed
  | .successInfo => .successInfo
  | .successRedirect => .successRedirect

variable {CheckoutData : Type}

/-- What the process returns, with the data of the sheet. -/
structure ProcessData (CheckoutData : Type) where
  paymentData : PaymentData
  checkoutData : CheckoutData
  deriving DecidableEq

/-- What `FormConnection` sends of a payment. -/
inductive PaymentMessage (CheckoutData : Type)
  | successCheckout (orderId : String) (metadata : Option String)
  | processPayment (processData : ProcessData CheckoutData)
  | formError (error : JsError)
  deriving DecidableEq

/-- What `startPaymentService` reads of the store, for the process and for its listeners. -/
structure PaymentInput (CheckoutData : Type) where
  paymentMethod : Option CardPaymentMethod
  paymentMethodType : PaymentMethodType
  sheet : InitPaymentSheet
  billingContact : Option BillingContact
  shippingContact : Option ShippingContact
  merchantOrigin : String
  checkoutData : CheckoutData
  deriving DecidableEq

def PaymentInput.toStartPaymentData (input : PaymentInput CheckoutData) (isServerApi : Bool) :
    StartPaymentData where
  paymentMethod := input.paymentMethod
  isServerApi := isServerApi
  sheet := input.sheet
  paymentMethodType := input.paymentMethodType
  billingContact := input.billingContact
  shippingContact := input.shippingContact
  merchantOrigin := input.merchantOrigin

/-- The process with its listeners, the state of the store, and a record of the payments that were
started and of the messages that were sent, the latest first. -/
structure PaymentForm (CheckoutData : Type) where
  process : CheckoutProcess := .initial
  listeners : List (PaymentInput CheckoutData) := []
  stage : PaymentStage := .initial
  order : Option Order := none
  processData : Option (ProcessData CheckoutData) := none
  inputs : List (PaymentInput CheckoutData) := []
  sent : List (ℕ × PaymentMessage CheckoutData) := []
  deriving DecidableEq

/-- The event that an action of the process emits. -/
def eventOf : Action → Option CheckoutProcessEvent
  | .assigned => none
  | .emitted event | .reported _ event => some event

/-- What a process emitted on its way to another state of it. -/
def emittedEvents (p q : CheckoutProcess) : List CheckoutProcessEvent :=
  (q.records.take (q.records.length - p.records.length)).reverse.filterMap
    fun record ↦ eventOf record.action

namespace PaymentForm

variable (IS_CHECKOUT_SERVER : Bool) (page : Page) (f : PaymentForm CheckoutData)

/-! ### Services -/

def send (message : PaymentMessage CheckoutData) : PaymentForm CheckoutData :=
  { f with sent := (f.process.started, message) :: f.sent }

def setPaymentStage (stage : PaymentStage) : PaymentForm CheckoutData := { f with stage := stage }

def failPaymentService (reason : Option String) (action : Option JsError) :
    PaymentForm CheckoutData :=
  f.setPaymentStage (.failed reason action)

/-- An order or data that are not set are an error, which the service catches. -/
def sendPaymentDataService : PaymentForm CheckoutData :=
  if IS_CHECKOUT_SERVER then
    match f.order with
    | none => f.failPaymentService none none
    | some order => f.send (.successCheckout order.orderId order.metadata)
  else
    match f.processData with
    | none => f.failPaymentService none none
    | some processData => f.send (.processPayment processData)

def showPaymentInfoService : PaymentForm CheckoutData :=
  (f.setPaymentStage .successInfo).sendPaymentDataService IS_CHECKOUT_SERVER

def setPaymentScreenService : PaymentForm CheckoutData := f.setPaymentStage .payment

/-- The screen of a payment whose data have come. -/
def paymentDataStage (data : PaymentData) : PaymentStage :=
  match data.paymentMethodInfo with
  | .split _ checkoutUrl _ _ =>
    if checkoutUrl ≠ "" then .splitPayment checkoutUrl else .successRedirect
  | .card _ _ | .cash => .successRedirect

/-- The listeners of one call of `startPaymentService`. -/
def listen (input : PaymentInput CheckoutData) : CheckoutProcessEvent → PaymentForm CheckoutData
  | .startServerPayment | .startClientPayment => f.setPaymentScreenService
  | .startWatchServerPayment => f
  | .error state error =>
    if state = .createPayment then f.failPaymentService (some "") (some error)
    else f.failPaymentService none none
  | .paymentOrder order =>
    let f := { f with order := some order }
    if input.paymentMethodType = .cash then f.showPaymentInfoService IS_CHECKOUT_SERVER else f
  | .transaction3ds method url => f.setPaymentStage (.auth3ds method url)
  | .transactionStatusChanged status =>
    match status with
    | .failed => f.failPaymentService none none
    | .authorized | .charged => f.showPaymentInfoService IS_CHECKOUT_SERVER
    | .new | .threedsChallenge => f
  | .paymentData data =>
    { f with processData := some ⟨data, input.checkoutData⟩ }.setPaymentStage
      (paymentDataStage data)
  | .challengeRedirect redirectPath => f.setPaymentStage (.authYa redirectPath)

/-- `emit`: the listeners of all calls, in the order in which they were put on. -/
def emit (event : CheckoutProcessEvent) : PaymentForm CheckoutData :=
  f.listeners.foldl (fun f input ↦ f.listen IS_CHECKOUT_SERVER input event) f

/-- A step of the process, with what the listeners do with its events. -/
def follow (process : CheckoutProcess) : PaymentForm CheckoutData :=
  (emittedEvents f.process process).foldl (fun f event ↦ f.emit IS_CHECKOUT_SERVER event)
    { f with process := process }

def startPaymentService (input : PaymentInput CheckoutData) : PaymentForm CheckoutData :=
  { f with listeners := f.listeners ++ [input], inputs := f.inputs ++ [input] }.follow
    IS_CHECKOUT_SERVER
    (f.process.startPayment page (input.toStartPaymentData IS_CHECKOUT_SERVER))

def resetPaymentService : PaymentForm CheckoutData :=
  { f.setPaymentStage .initial with process := f.process.cancelPayment, listeners := [] }

end PaymentForm

/-! ### The system -/

inductive FormEvent (CheckoutData : Type)
  | startPayment (input : PaymentInput CheckoutData)
  | newCard
  | setPaymentScreen
  | showPaymentInfo
  | sendPaymentData
  | failPayment (reason : Option String)
  | resetPayment
  /-- The button of a failure. -/
  | failedAction
  /-- What the process waited for. -/
  | answer (event : ProcessEvent)

/-- The events that the form does not cause itself. -/
def IsAnswer : ProcessEvent → Prop
  | .startPayment _ | .cancelPayment => False
  | _ => True

instance (e : ProcessEvent) : Decidable (IsAnswer e) := by
  induction e using ProcessEvent.casesOn <;> unfold IsAnswer <;> infer_instance

namespace PaymentForm

def step (IS_CHECKOUT_SERVER : Bool) (page : Page) (f : PaymentForm CheckoutData) :
    FormEvent CheckoutData → Option (PaymentForm CheckoutData)
  | .startPayment input => some (f.startPaymentService IS_CHECKOUT_SERVER page input)
  | .newCard => some (f.setPaymentStage .newCard)
  | .setPaymentScreen => some f.setPaymentScreenService
  | .showPaymentInfo => some (f.showPaymentInfoService IS_CHECKOUT_SERVER)
  | .sendPaymentData => some (f.sendPaymentDataService IS_CHECKOUT_SERVER)
  | .failPayment reason => some (f.failPaymentService reason none)
  | .resetPayment => some f.resetPaymentService
  | .failedAction =>
    match f.stage with
    | .failed _ (some error) => some (f.send (.formError error))
    | _ => none
  | .answer event =>
    if IsAnswer event then (f.process.step page event).map (f.follow IS_CHECKOUT_SERVER) else none

end PaymentForm

def paymentForm (CheckoutData : Type) (IS_CHECKOUT_SERVER : Bool) (page : Page) :
    System (PaymentForm CheckoutData) (FormEvent CheckoutData) where
  start := fun f ↦ f = {}
  step := PaymentForm.step IS_CHECKOUT_SERVER page

/-- A screen acts only while it is shown, the main screen starts a payment only while no other is
shown, and the answers are in time. The code does not see to it: a card may be bound and a timer of
the last screen may end after the screen was closed. -/
def Regular (f : PaymentForm CheckoutData) : FormEvent CheckoutData → Prop
  | .startPayment _ => f.stage.type = .initial ∨ f.stage.type = .newCard
  | .newCard => f.stage.type = .initial
  | .setPaymentScreen => f.stage.type = .auth3ds
  | .showPaymentInfo => f.stage.type = .splitPayment
  | .sendPaymentData => f.stage.type = .successRedirect
  | .failPayment _ => f.stage.type = .newCard ∨ f.stage.type = .splitPayment
  | .resetPayment | .failedAction => True
  | .answer event => InTime f.process event

instance (f : PaymentForm CheckoutData) (e : FormEvent CheckoutData) : Decidable (Regular f e) := by
  induction e using FormEvent.casesOn <;> unfold Regular <;> infer_instance

end YandexPay.CheckoutForm
