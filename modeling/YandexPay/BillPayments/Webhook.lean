import YandexPay.BillPayments.Transactions
import YandexPay.Library.Decimal

/-!
# The status webhook of Kazna

`api/handlers/webhooks/kazna_payment_status.py` and its schema. A notification is signed with the
digest of the token, the payment id and the name of the status; the handler acts on the order id
and on the code of the status, which the digest does not cover.
-/

set_option autoImplicit false
set_option relaxedAutoImplicit false

namespace YandexPay.BillPayments

structure WebhookPaymentInfoRequest extends PaymentInfoResponse where
  sign : Option String
  deriving DecidableEq, Repr

namespace WebhookPaymentInfoRequest

variable (env : Environment) (request : WebhookPaymentInfoRequest)

/-- The text whose digest is the signature: the parts that are not empty, joined. -/
def digest : String :=
  String.join ([env.kaznaToken, toString request.paymentId, request.status.name].filter
    fun x ↦ x ≠ "")

/-- `check_signature`; a missing or empty signature fails an assertion. -/
def checkSignature : Except ActionError Bool :=
  let sign := env.md5Hex (request.digest env)
  match request.sign with
  | none => .error .assertionFailed
  | some given =>
    if given = "" then .error .assertionFailed
    else .ok (sign = given)

/-- The action that `KaznaPaymentStatusHandler.post` runs. -/
def updateAction : UpdateTransactionStatusAction := ⟨request.orderId, request.status.code⟩

end WebhookPaymentInfoRequest

/-- `KaznaPaymentStatusHandler.post`; the transaction that the action returns. -/
def kaznaPaymentStatusPost (env : Environment) (request : WebhookPaymentInfoRequest) :
    Action (Option Transaction) :=
  match request.checkSignature env with
  | .error e => throw e
  | .ok accepted =>
    if accepted then request.updateAction.handle env
    else throw .wrongRequestSignature

theorem kaznaPaymentStatusPost_ok {env : Environment} {request : WebhookPaymentInfoRequest}
    {result : Option Transaction × Database} {db : Database} :
    kaznaPaymentStatusPost env request db = .ok result ↔
      request.checkSignature env = .ok true ∧
        request.updateAction.handle env db = .ok result := by
  unfold kaznaPaymentStatusPost
  rcases request.checkSignature env with e | accepted
  · simp
  · cases accepted <;> simp

/-! ### What the signature covers -/

namespace WebhookPaymentInfoRequest

variable {env : Environment} {request : WebhookPaymentInfoRequest}

theorem checkSignature_eq_true : request.checkSignature env = .ok true ↔
    request.sign = some (env.md5Hex (request.digest env)) ∧ request.sign ≠ some "" := by
  unfold checkSignature
  rcases request.sign with _ | given
  · simp
  · by_cases hempty : given = ""
    · simp [hempty]
    · simp [hempty, eq_comm]

theorem digest_eq : request.digest env =
    env.kaznaToken ++ toString request.paymentId ++ request.status.name := by
  have hfilter : ∀ l : List String, String.join (l.filter fun x ↦ x ≠ "") = String.join l := by
    intro l
    induction l with
    | nil => rfl
    | cons x l ih =>
      by_cases hx : x = ""
      · simpa [hx] using ih
      · simpa [hx] using ih
  rw [digest, hfilter]
  simp [String.join_cons, String.append_assoc]

end WebhookPaymentInfoRequest

/-! ### The binding of the signature -/

/-- The digest of the notification below, exchanged with its preimage, so that the function is
injective. -/
def notificationMd5 (text : String) : String :=
  if text = "Yandex101AUTH" then "8320153d0de50d7121d71084503a9cac"
  else if text = "8320153d0de50d7121d71084503a9cac" then "Yandex101AUTH"
  else text

theorem notificationMd5_involutive : Function.Involutive notificationMd5 := by
  intro text
  unfold notificationMd5
  split_ifs <;> simp_all

/-- A notification for the payment 101 of the transaction 1. -/
def genuineNotification : WebhookPaymentInfoRequest where
  paymentId := 101
  orderId := "00000000-0000-0000-0000-000000000001"
  status := ⟨.auth, "AUTH"⟩
  sign := some "8320153d0de50d7121d71084503a9cac"

/-- The same notification with another order id and another status code. -/
def alteredNotification : WebhookPaymentInfoRequest :=
  { genuineNotification with
    orderId := "00000000-0000-0000-0000-000000000002"
    status := ⟨.cancel, "AUTH"⟩ }

/-- One user with two orders of one bill each, and a new transaction for either order. -/
def notificationDatabase : Database where
  users := ⟨[{ uid := 1 }], by decide⟩
  documents := ⟨[⟨⟨1⟩, 1, .driverLicense, "7700", none⟩], by decide⟩
  bills := ⟨[
    { billId := ⟨1⟩, uid := 1, supplierBillId := "a", documentId := ⟨1⟩, status := .new,
      amount := 100, amountToPay := 100, billDate := 0 },
    { billId := ⟨2⟩, uid := 1, supplierBillId := "b", documentId := ⟨1⟩, status := .new,
      amount := 100, amountToPay := 100, billDate := 0 }], by decide⟩
  orders := ⟨[⟨1, .new, ⟨1⟩⟩, ⟨1, .new, ⟨2⟩⟩], by decide⟩
  billOrders := ⟨[⟨⟨1⟩, ⟨1⟩⟩, ⟨⟨2⟩, ⟨2⟩⟩], by decide⟩
  transactions := ⟨[
    { orderId := ⟨1⟩, status := .new, amount := 2600, externalPaymentId := "101",
      payerData := ⟨"payer"⟩, transactionId := ⟨1⟩ },
    { orderId := ⟨2⟩, status := .new, amount := 2600, externalPaymentId := "102",
      payerData := ⟨"payer"⟩, transactionId := ⟨2⟩ }], by decide⟩
  tasks := .empty
  unique := by decide
  references := by decide

end YandexPay.BillPayments
