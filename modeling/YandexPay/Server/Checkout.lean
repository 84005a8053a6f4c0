import YandexPay.Library.Traverse
import YandexPay.PaymentToken.Message
import YandexPay.PaymentToken.RecipientKeyVerifier

/-!
# The checkout handlers

`PANCheckout` of `internal_handlers.go`, `MastercardCheckout` and `VisaCheckout` of
`external_handlers.go` in `duckgo/server`. A handler checks the fields of a request, verifies the
recipient key, gets the card (from the request, or from a card network) and seals a message for the
recipient. It answers with the token, or with the first error.

The clients of the card networks, `encoding/json` and the sender of tokens are fields of `Handler`.
-/

set_option autoImplicit false
set_option relaxedAutoImplicit false

namespace YandexPay.Server

open Outcome PaymentToken

/-! ### Answers -/

/-- `api.Code` -/
inductive Code
  | CodeInternal
  | CodeInvalidRequest
  | CodeInvalidCard
  | CodeInvalidBody
  | CodeInvalidURL
  | CodeInvalidSignature
  | CodeInvalidPublicKey
  | CodeInvalidRecipientID
  | CodeInvalidMessageExpiration
  | CodeInvalidMessageID
  | CodeInvalidGatewayMerchantID
deriving DecidableEq

/-- How a handler ends without a token. -/
inductive Failure
  | sendError (statusCode : ℕ) (messageCode : Code) (description : GoError)
  | handleJSONError (logMsg : String) (error : GoError)
  | panic

def StatusBadRequest : ℕ := 400
def StatusInternalServerError : ℕ := 500
def StatusOK : ℕ := 200

/-- The answer of `sendResponse`, with the headers that were set before. -/
structure Response (ρ : Type) where
  header : List (String × String)
  statusCode : ℕ
  data : ρ

/-- Ends the handler on the error of a call. -/
def orFail {α : Type} (answer : GoError → Failure) : Outcome α → Except Failure α
  | .ok value => .ok value
  | .err error => .error (answer error)
  | .panic => .error .panic

@[simp] theorem orFail_eq_ok {α : Type} {answer : GoError → Failure} {x : Outcome α} {value : α} :
    orFail answer x = .ok value ↔ x = .ok value := by
  cases x <;> simp [orFail]

/-- Ends the handler unless the condition holds. -/
def check {ε : Type} (condition : Bool) (failure : ε) : Except ε Unit :=
  if condition then .ok () else .error failure

@[simp] theorem check_eq_ok {ε : Type} {condition : Bool} {failure : ε} {u : Unit} :
    check condition failure = .ok u ↔ condition = true := by
  cases condition <;> simp [check]

theorem except_pure_eq_ok {ε α : Type} {a b : α} : (pure a : Except ε α) = .ok b ↔ a = b :=
  ⟨fun h ↦ Except.ok.inj h, fun h ↦ congrArg Except.ok h⟩

/-! ### Requests -/

structure MITInfo where
  Recurring : Bool
  Deferred : Bool

/-- `MITInfo.IsEmpty`, also of a nil pointer. -/
def MITInfo.IsEmpty : Option MITInfo → Bool
  | none => true
  | some mi => !mi.Recurring && !mi.Deferred

structure TransactionInfo where
  Currency : String
  Amount : Int64

/-- `TransactionInfo.Validate` -/
def TransactionInfo.Validate (ti : TransactionInfo) : Except GoError Unit := do
  check (ti.Currency ≠ "") (.errorf "server: transaction_info: currency is required" [])
  check (0 ≤ ti.Amount) (.errorf "server: transaction_info: amount should not be negative" [])

structure CheckoutRequestBase where
  RecipientID : String
  GatewayMerchantID : String
  RecipientPublicKey : String
  RecipientPublicKeySignature : String
  TransactionInfo : TransactionInfo
  MITInfo : Option MITInfo
  MessageExpiration : Int64
  MessageID : String

/-- `checkoutRequestValidationError` -/
structure CheckoutRequestValidationError where
  code : Code
  description : GoError

/-- `CheckoutRequestBase.validate` -/
def CheckoutRequestBase.validate (checkoutReq : CheckoutRequestBase) :
    Except CheckoutRequestValidationError Unit := do
  checkoutReq.TransactionInfo.Validate.mapError fun err ↦ ⟨.CodeInvalidRequest, err⟩
  check (checkoutReq.RecipientID ≠ "")
    ⟨.CodeInvalidRecipientID, .errorf "recipient_id is required" []⟩
  check (0 < checkoutReq.MessageExpiration)
    ⟨.CodeInvalidMessageExpiration, .errorf "message_expiration is invalid" []⟩
  check (checkoutReq.MessageID ≠ "")
    ⟨.CodeInvalidMessageID, .errorf "message_id is invalid" []⟩
  check (checkoutReq.GatewayMerchantID ≠ "")
    ⟨.CodeInvalidGatewayMerchantID, .errorf "gateway_merchant_id is invalid" []⟩
  check (¬(MITInfo.IsEmpty checkoutReq.MITInfo ∧ checkoutReq.TransactionInfo.Amount = 0))
    ⟨.CodeInvalidGatewayMerchantID,
      .errorf "MIT is not allowed but transaction_details.amount is \"0\"" []⟩

/-- `PANCheckoutCard`, less its CVV, which is not read. -/
structure PANCheckoutCard where
  PrimaryAccountNumber : String
  PanExpirationMonth : Int64
  PanExpirationYear : Int64

/-- `PANCheckoutCard.Validate`; the length of the number is in bytes. -/
def PANCheckoutCard.Validate (c : PANCheckoutCard) : Except GoError Unit := do
  check (10 ≤ (utf8 c.PrimaryAccountNumber).length)
    (.errorf "card.primary_account_number is required" [])
  check (¬(c.PanExpirationMonth ≤ 0 ∨ 12 < c.PanExpirationMonth))
    (.errorf "card.pan_expiration_month is invalid" [])
  check (0 < c.PanExpirationYear) (.errorf "card.pan_expiration_year is invalid" [])

structure PANCheckoutRequest where
  RecipientID : String
  GatewayMerchantID : String
  RecipientPublicKey : String
  RecipientPublicKeySignature : String
  TransactionInfo : TransactionInfo
  MITInfo : Option MITInfo
  MessageExpiration : Int64
  MessageID : String
  Card : PANCheckoutCard

structure MastercardCheckoutRequest extends CheckoutRequestBase where
  CardID : String

structure VisaCheckoutRequest extends CheckoutRequestBase where
  ProvisionedTokenID : String
  ClientPaymentDataID : String
  RelationshipID : String

structure PANCheckoutResponse where
  PaymentToken : Bytes

structure MastercardCheckoutResponse (MaskedCard : Type) where
  PaymentToken : Bytes
  MaskedConsumer : Bytes
  MaskedCard : MaskedCard

structure VisaCheckoutResponse where
  PaymentToken : Bytes

/-! ### Card networks -/

/-- `mastercard.CheckoutRequest`, less what the client fills in. -/
structure MastercardRequest where
  SRCDigitalCardID : String
  ThreeDSPreference : String

/-- `mastercard.CheckoutResponse` -/
structure MastercardResponse (MaskedCard : Type) where
  SRCCorrelationID : String
  MaskedCard : MaskedCard
  MaskedConsumer : Bytes
  PaymentToken : String
  TokenExpirationMonth : String
  TokenExpirationYear : String
  PaymentAccountReference : String
  DynamicDataValue : String

/-- `visa.PaymentDataRequest` -/
structure VisaRequest where
  ClientPaymentDataID : String
  TransactionType : String

/-- The fields of `visa.PaymentDataResponse` that a checkout reads. -/
structure VisaResponse where
  VTSRequestID : String
  VTSCorrelationID : String
  VTSResponseID : String
  PaymentAccountReference : String
  ExpirationMonth : String
  ExpirationYear : String
  EncTokenInfo : String
  Cryptogram : String
  ECI : String

/-- `convertDates` -/
def convertDates (expMonthStr expYearStr : String) : Outcome (Int64 × Int64) := do
  let expMonth ← ofOption (.numError (utf8 expMonthStr)) (parseInt64 (utf8 expMonthStr))
  let expYear ← ofOption (.numError (utf8 expYearStr)) (parseInt64 (utf8 expYearStr))
  -- A year of two digits is one of this century.
  return (expMonth, if 0 ≤ expYear ∧ expYear < 100 then 2000 + expYear else expYear)

/-! ### Messages -/

/-- `msg.MITDetails` of all three messages. -/
def mitDetails (info : Option MITInfo) : Option MITDetails :=
  if MITInfo.IsEmpty info then none else info.map fun mi ↦ ⟨mi.Recurring, mi.Deferred⟩

/-- `msg` of `PANCheckout` -/
def PANCheckoutRequest.message (checkoutReq : PANCheckoutRequest) : EncryptedMessage where
  PaymentMethod := PaymentMethodCard
  PaymentMethodDetails :=
    { AuthMethod := .AuthMethodPANOnly
      PAN := checkoutReq.Card.PrimaryAccountNumber
      ExpirationMonth := checkoutReq.Card.PanExpirationMonth
      ExpirationYear := checkoutReq.Card.PanExpirationYear
      Cryptogram := ""
      ECI := "" }
  PaymentAccountReference := ""
  MessageID := checkoutReq.MessageID
  MessageExpiration := toString checkoutReq.MessageExpiration.toInt
  GatewayMerchantID := checkoutReq.GatewayMerchantID
  TransactionDetails :=
    { Amount := checkoutReq.TransactionInfo.Amount
      Currency := checkoutReq.TransactionInfo.Currency }
  MITDetails := mitDetails checkoutReq.MITInfo

/-- `msg` of `MastercardCheckout` -/
def MastercardCheckoutRequest.message {μ : Type} (checkoutReq : MastercardCheckoutRequest)
    (mcResp : MastercardResponse μ) (expMonth expYear : Int64) : EncryptedMessage where
  PaymentMethod := PaymentMethodCard
  PaymentMethodDetails :=
    { AuthMethod := .AuthMethodCloudToken
      PAN := mcResp.PaymentToken
      ExpirationMonth := expMonth
      ExpirationYear := expYear
      Cryptogram := mcResp.DynamicDataValue
      ECI := "" }
  PaymentAccountReference := mcResp.PaymentAccountReference
  MessageID := checkoutReq.MessageID
  MessageExpiration := toString checkoutReq.MessageExpiration.toInt
  GatewayMerchantID := checkoutReq.GatewayMerchantID
  TransactionDetails :=
    { Amount := checkoutReq.TransactionInfo.Amount
      Currency := checkoutReq.TransactionInfo.Currency }
  MITDetails := mitDetails checkoutReq.MITInfo

/-- `msg` of `VisaCheckout` -/
def VisaCheckoutRequest.message (checkoutReq : VisaCheckoutRequest) (viResp : VisaResponse)
    (visaToken : String) (expMonth expYear : Int64) : EncryptedMessage where
  PaymentMethod := PaymentMethodCard
  PaymentMethodDetails :=
    { AuthMethod := .AuthMethodCloudToken
      PAN := visaToken
      ExpirationMonth := expMonth
      ExpirationYear := expYear
      Cryptogram := viResp.Cryptogram
      ECI := viResp.ECI }
  PaymentAccountReference := viResp.PaymentAccountReference
  MessageID := checkoutReq.MessageID
  MessageExpiration := toString checkoutReq.MessageExpiration.toInt
  GatewayMerchantID := checkoutReq.GatewayMerchantID
  TransactionDetails :=
    { Amount := checkoutReq.TransactionInfo.Amount
      Currency := checkoutReq.TransactionInfo.Currency }
  MITDetails := mitDetails checkoutReq.MITInfo

/-! ### The handlers -/

/-- What the handlers call; `MaskedCard` is `mastercard.MaskedCard`, which is passed on. -/
structure Handler (s : SenderPrimitives) (MaskedCard : Type) where
  decodePANCheckoutRequest : Bytes → Outcome PANCheckoutRequest
  decodeMastercardCheckoutRequest : Bytes → Outcome MastercardCheckoutRequest
  decodeVisaCheckoutRequest : Bytes → Outcome VisaCheckoutRequest
  jose : Jose s.PublicKey
  keyVerifier : RecipientKeyVerifier s.toPrimitives
  /-- `newRecipientKeyVerifier` refuses an empty list of keys. -/
  verificationKeys_ne : keyVerifier.verificationKeys ≠ []
  /-- `tokenSender.SealJSONMessage` of a recipient, a message and a public key. -/
  SealJSONMessage : Bytes → EncryptedMessage → s.PublicKey → Outcome Bytes
  /-- `mastercardClient.Checkout` -/
  mastercardCheckout : MastercardRequest → Outcome (MastercardResponse MaskedCard)
  /-- `visaClient.GetPaymentData` -/
  GetPaymentData : String → String → VisaRequest → Outcome VisaResponse
  /-- The value of the token of `visaClient.DecryptToken`. -/
  DecryptToken : String → Outcome String

/-- The description of an error with a text before it. -/
def describe (text : String) (err : GoError) : GoError := .errorsf (text ++ "%s") [err]

section Handlers

variable {s : SenderPrimitives} {MaskedCard : Type} (h : Handler s MaskedCard) (body : Bytes)

def Handler.PANCheckout : Except Failure (Response PANCheckoutResponse) := do
  let checkoutReq ← orFail
    (fun err ↦ .sendError StatusBadRequest .CodeInvalidRequest
      (describe "can't parse payload: " err))
    (h.decodePANCheckoutRequest body)
  checkoutReq.TransactionInfo.Validate.mapError
    fun err ↦ .sendError StatusBadRequest .CodeInvalidRequest err
  let pubKey ← orFail (.sendError StatusBadRequest .CodeInvalidPublicKey)
    (h.keyVerifier.Verify h.jose (utf8 checkoutReq.RecipientPublicKey)
      (utf8 checkoutReq.RecipientPublicKeySignature))
  check (checkoutReq.RecipientID ≠ "")
    (.sendError StatusBadRequest .CodeInvalidRecipientID
      (.errorf "recipient_id is required" []))
  checkoutReq.Card.Validate.mapError
    fun err ↦ .sendError StatusBadRequest .CodeInvalidCard err
  check (0 < checkoutReq.MessageExpiration)
    (.sendError StatusBadRequest .CodeInvalidMessageExpiration
      (.errorf "message_expiration is invalid" []))
  check (checkoutReq.MessageID ≠ "")
    (.sendError StatusBadRequest .CodeInvalidMessageID (.errorf "message_id is invalid" []))
  check (checkoutReq.GatewayMerchantID ≠ "")
    (.sendError StatusBadRequest .CodeInvalidGatewayMerchantID
      (.errorf "gateway_merchant_id is invalid" []))
  check (¬(MITInfo.IsEmpty checkoutReq.MITInfo ∧ checkoutReq.TransactionInfo.Amount = 0))
    (.sendError StatusBadRequest .CodeInvalidGatewayMerchantID
      (.errorf "MIT is not allowed but transaction_details.amount is \"0\"" []))
  let token ← orFail (.sendError StatusInternalServerError .CodeInternal)
    (h.SealJSONMessage (utf8 checkoutReq.RecipientID) checkoutReq.message pubKey)
  return ⟨[], StatusOK, ⟨token⟩⟩

def Handler.MastercardCheckout :
    Except Failure (Response (MastercardCheckoutResponse MaskedCard)) := do
  let checkoutReq ← orFail
    (fun err ↦ .sendError StatusBadRequest .CodeInvalidRequest
      (describe "can't parse payload: " err))
    (h.decodeMastercardCheckoutRequest body)
  checkoutReq.validate.mapError fun err ↦ .sendError StatusBadRequest err.code err.description
  let pubKey ← orFail (.sendError StatusBadRequest .CodeInvalidPublicKey)
    (h.keyVerifier.Verify h.jose (utf8 checkoutReq.RecipientPublicKey)
      (utf8 checkoutReq.RecipientPublicKeySignature))
  let mcResp ← orFail (.handleJSONError "Mastercard checkout card error")
    (h.mastercardCheckout
      { SRCDigitalCardID := checkoutReq.CardID
        ThreeDSPreference := "NONE" })
  let dates ← orFail
    (fun err ↦ .sendError StatusInternalServerError .CodeInternal
      (describe "mastercard: can't parse TokenExpirationDate: " err))
    (convertDates mcResp.TokenExpirationMonth mcResp.TokenExpirationYear)
  let token ← orFail (.sendError StatusInternalServerError .CodeInternal)
    (h.SealJSONMessage (utf8 checkoutReq.RecipientID)
      (checkoutReq.message mcResp dates.1 dates.2) pubKey)
  return {
    header := [("X-SRC-Correlation-ID", mcResp.SRCCorrelationID)]
    statusCode := StatusOK
    data :=
      { PaymentToken := token
        MaskedConsumer := mcResp.MaskedConsumer
        MaskedCard := mcResp.MaskedCard } }

def Handler.VisaCheckout : Except Failure (Response VisaCheckoutResponse) := do
  let checkoutReq ← orFail
    (fun err ↦ .sendError StatusBadRequest .CodeInvalidRequest
      (describe "can't parse payload: " err))
    (h.decodeVisaCheckoutRequest body)
  checkoutReq.validate.mapError fun err ↦ .sendError StatusBadRequest err.code err.description
  check (checkoutReq.ClientPaymentDataID ≠ "")
    (.sendError StatusBadRequest .CodeInvalidRequest
      (.errorf "missing required field client_payment_data_id" []))
  let pubKey ← orFail (.sendError StatusBadRequest .CodeInvalidPublicKey)
    (h.keyVerifier.Verify h.jose (utf8 checkoutReq.RecipientPublicKey)
      (utf8 checkoutReq.RecipientPublicKeySignature))
  let viResp ← orFail (.handleJSONError "Visa checkout card error")
    (h.GetPaymentData checkoutReq.RelationshipID checkoutReq.ProvisionedTokenID
      { ClientPaymentDataID := checkoutReq.ClientPaymentDataID
        TransactionType := "ECOM" })
  let dates ← orFail
    (fun err ↦ .sendError StatusInternalServerError .CodeInternal
      (describe "visa: can't parse TokenExpirationDate: " err))
    (convertDates viResp.ExpirationMonth viResp.ExpirationYear)
  let visaToken ← orFail
    (fun err ↦ .sendError StatusInternalServerError .CodeInternal
      (describe "visa: can't decrypt token: " err))
    (h.DecryptToken viResp.EncTokenInfo)
  let token ← orFail (.sendError StatusInternalServerError .CodeInternal)
    (h.SealJSONMessage (utf8 checkoutReq.RecipientID)
      (checkoutReq.message viResp visaToken dates.1 dates.2) pubKey)
  return {
    header :=
      [("X-VTS-Request-ID", viResp.VTSRequestID), ("X-VTS-Correlation-ID", viResp.VTSCorrelationID),
        ("X-VTS-Response-ID", viResp.VTSResponseID)]
    statusCode := StatusOK
    data := ⟨token⟩ }

end Handlers

end YandexPay.Server
