import YandexPay.Mastercard.EncryptCard
import YandexPay.Server.Responses
import YandexPay.Visa.Verifier

/-!
# The handlers

The handlers of `external_handlers.go` and `internal_handlers.go` in `duckgo/server`, as what they
write. A handler checks its request, calls helpers and clients, answers their errors and returns;
`VisaSignRequest` goes on after two of them. The checkout handlers end as in
`YandexPay.Server.Checkout`, whose outcome is written here.
-/

set_option autoImplicit false
set_option relaxedAutoImplicit false

namespace YandexPay

open Outcome HttpHandler PaymentToken

/-! ### Card networks -/

/-- `mastercard.EnrollCardRequest`, less what the client fills in. -/
structure Mastercard.EnrollCardRequest where
  IdentityType : String
  IdentityValue : String
  EncryptedCard : Bytes
  CardSource : String

structure Mastercard.EnrollCardResponse (MaskedCard : Type) where
  SRCCorrelationID : String
  MaskedCard : MaskedCard
  MaskedConsumer : Bytes

structure Visa.Card where
  PrimaryAccountNumber : String
  PanExpirationMonth : String
  PanExpirationYear : String
  CVV2 : String

def Visa.Card.Validate (c : Visa.Card) : Outcome Unit := do
  require (c.PrimaryAccountNumber ≠ "") (.errorf "visa: primaryAccountNumber is required" [])
  require (c.PanExpirationMonth ≠ "") (.errorf "visa: PanExpirationMonth is required" [])
  require (c.PanExpirationYear ≠ "") (.errorf "visa: PanExpirationYear is required" [])

theorem Visa.Card.validate_ne_panic (c : Visa.Card) : c.Validate ≠ .panic :=
  bind_ne_panic (require_ne_panic _ _) fun _ _ ↦
    bind_ne_panic (require_ne_panic _ _) fun _ _ ↦ require_ne_panic _ _

def Visa.PANSourceOnfile : String := "ONFILE"

def Visa.PANSourceManuallyEntered : String := "MANUALLYENTERED"

/-- `PANSource.IsValid` -/
def Visa.panSourceIsValid (p : String) : Bool :=
  p = PANSourceOnfile ∨ p = PANSourceManuallyEntered

/-- `visa.EnrollCardResponse`; the types of its parts are parameters. -/
structure Visa.EnrollCardResponse (PaymentInstrument TokenInfo : Type) where
  ProvisionedTokenID : String
  PanEnrollmentID : String
  PaymentInstrument : PaymentInstrument
  TokenInfo : TokenInfo
  VTSRequestID : String
  VTSCorrelationID : String
  VTSResponseID : String

/-- What `Sign` leaves of a request whose body cannot be read. -/
def Visa.Signer.withKey (signer : Signer) (req : Request) : Request :=
  { req with
    URL :=
      { req.URL with
        RawQuery := (req.URL.Query.set AuthorizationQueryParamName signer.key).encode } }

theorem Visa.Verifier.verifyRequest_ne_panic (hmac : Hmac) (now : Int64) (verifier : Verifier)
    (u : NetUrl.URL) (body signature : Bytes) :
    verifier.VerifyRequest hmac now u body signature ≠ .panic :=
  bind_ne_panic (require_ne_panic _ _) fun _ _ ↦ bind_ne_panic (require_ne_panic _ _) fun _ _ ↦
    bind_ne_panic (ofOption_ne_panic _ _) fun _ _ ↦
      bind_ne_panic (ofOption_ne_panic _ _) fun _ _ ↦
        bind_ne_panic (ofOption_ne_panic _ _) fun _ _ ↦
          bind_ne_panic (require_ne_panic _ _) fun _ _ ↦ require_ne_panic _ _

namespace Server

/-! ### Requests and responses -/

structure SignRequest where
  URL : Bytes
  Method : Bytes
  /-- in base64 -/
  Body : Bytes

structure VisaSignResponse where
  Headers : List (String × List Bytes)
  URL : Bytes

structure VisaVerifyRequest where
  Signature : Bytes
  URL : Bytes
  /-- in base64 -/
  Body : Bytes

structure VisaVerifyResponse where

structure MastercardSignResponse where
  Headers : List (String × List Bytes)

structure PaymentTokenVerifyRecipientKeyRequest where
  RecipientPublicKey : String
  RecipientPublicKeySignature : String

structure PaymentTokenVerifyRecipientKeyResponse where

structure MastercardEnrollRequest where
  Card : Mastercard.Card
  CardSource : String
  AccountID : String

/-- `enrollReq` of `MastercardEnrollCard` -/
def MastercardEnrollRequest.enrollReq (reqData : MastercardEnrollRequest)
    (encryptedCard : Bytes) : Mastercard.EnrollCardRequest where
  IdentityType := "EXTERNAL_ACCOUNT_ID"
  IdentityValue := reqData.AccountID
  EncryptedCard := encryptedCard
  CardSource := reqData.CardSource

structure VisaEnrollRequest where
  Card : Visa.Card
  EmailHash : String
  Locale : String
  PANSource : String
  AccountID : String
  RelationshipID : String

/-- `ThalesEncryptedCardRequest`, with the CVV of its card. -/
structure ThalesEncryptedCardRequest where
  Card : PANCheckoutCard
  CVV : String

structure ThalesEncryptedCardResponse where
  EncryptedCard : Bytes

structure ThalesEncryptedMessage where
  PAN : String
  Expiration : String
  CVV : String

/-- `%02d` of a number that is not negative. -/
def twoDigits (n : Int64) : String :=
  if n < 10 then "0" ++ toString n.toInt else toString n.toInt

/-! ### What is called -/

/-- What all handlers call, beyond the checkout handlers. -/
structure Handlers (s : SenderPrimitives) (MaskedCard : Type) extends Handler s MaskedCard where
  encoding : Encoding
  /-- The raw messages in `mastercard.MaskedCard`. -/
  maskedCardRaw : MaskedCard → List Bytes
  decodeSignRequest : Bytes → Outcome SignRequest
  decodeVisaVerifyRequest : Bytes → Outcome VisaVerifyRequest
  decodeVerifyRecipientKeyRequest : Bytes → Outcome PaymentTokenVerifyRecipientKeyRequest
  decodeMastercardEnrollRequest : Bytes → Outcome MastercardEnrollRequest
  decodeVisaEnrollRequest : Bytes → Outcome VisaEnrollRequest
  decodeThalesEncryptedCardRequest : Bytes → Outcome ThalesEncryptedCardRequest
  /-- The parts of a URL that `NetUrl.URL` leaves out. -/
  URLRest : Type
  parseURL : Bytes → Outcome (NetUrl.URL × URLRest)
  urlString : NetUrl.URL × URLRest → Bytes
  /-- `http.NewRequest` of a method, a URL and a body. -/
  newRequest : Bytes → Bytes → Bytes → Outcome (Visa.Request × URLRest)
  /-- `visaClient.Sign` and `visaClient.VerifyRequest` at the time of the request. -/
  hmac : Visa.Hmac
  now : Int64
  signer : Visa.Signer
  verifier : Visa.Verifier
  VisaEnrollCardRequest : Type
  PaymentInstrument : Type
  TokenInfo : Type
  /-- `visaClient.CreateEnrollRequest` of an account, an email hash, a locale, a PAN source and a
  card. -/
  CreateEnrollRequest : String → String → String → String → Visa.Card →
    Outcome VisaEnrollCardRequest
  /-- `visaClient.EnrollCard` -/
  visaEnrollCard : String → VisaEnrollCardRequest →
    Outcome (Visa.EnrollCardResponse PaymentInstrument TokenInfo)
  Key : Type
  /-- What `mastercardClient.EncryptCard` encrypts with. -/
  mastercardClient : Mastercard.Client Key
  /-- `mastercardClient.EnrollCard` -/
  mastercardEnrollCard : Mastercard.EnrollCardRequest →
    Outcome (Mastercard.EnrollCardResponse MaskedCard)
  /-- `mastercardClient.MakeAuthorizationHeader` of a URL, a method and a payload. -/
  MakeAuthorizationHeader : NetUrl.URL × URLRest → Bytes → Bytes → Outcome Bytes
  /-- `json.Marshal` of a message -/
  marshalThales : ThalesEncryptedMessage → Outcome Bytes
  Certificate : Type
  thalesCert : Certificate
  pkcs7Encrypt : Bytes → List Certificate → Outcome Bytes

def StatusUnauthorized : ℕ := 401

variable {s : SenderPrimitives} {MaskedCard : Type} (h : Handlers s MaskedCard) (body : Bytes)

namespace Handlers

/-- `sendError` of a handler -/
def sendError {ρ : Type} (statusCode : ℕ) (messageCode : Code) (description : GoError) :
    Handling (Document ρ) Unit :=
  sendAPIError h.encoding statusCode messageCode description

/-- `EncryptCMS` -/
def EncryptCMS (data : Bytes) (cert : h.Certificate) : Outcome Bytes := do
  let encrypted ← mapErr (fun e ↦ .errorsf "failed to encrypt message: %s" [e])
    (h.pkcs7Encrypt data [cert])
  return Base64.encodeToString encrypted

/-! ### Signing and verifying -/

/-- The errors of `NewRequest` and `Sign` are answered without `return`. -/
def VisaSignRequest : Handling (Document VisaSignResponse) Unit := do
  let signReq ← Handling.orReturn
    (fun err ↦ h.sendError StatusBadRequest .CodeInvalidRequest
      (describe "can't parse payload: " err))
    (h.decodeSignRequest body)
  let body ← Handling.orReturn
    (fun err ↦ h.sendError StatusBadRequest .CodeInvalidBody
      (describe "can't base64-decode: " err))
    (Base64.decodeString signReq.Body)
  let u ← Handling.orReturn
    (fun err ↦ h.sendError StatusBadRequest .CodeInvalidURL (describe "can't parse: " err))
    (h.parseURL signReq.URL)
  let actualReq ← Handling.orContinue
    (fun err ↦ h.sendError StatusInternalServerError .CodeInternal
      (describe "can't create request " err))
    (h.newRequest signReq.Method (h.urlString u) body)
  -- `Sign` reads the URL of the request, which is nil after an error.
  let actualReq ← Handling.derefPointer actualReq
  let signed ← Handling.orContinue
    (fun err ↦ h.sendError StatusInternalServerError .CodeInternal
      (describe "can't sign request " err))
    (h.signer.Sign h.hmac h.now actualReq.1)
  let req := signed.getD (h.signer.withKey actualReq.1)
  sendAPIResponse h.encoding StatusOK []
    { Headers :=
        [(Visa.AuthorizationHeaderName, (req.Header Visa.AuthorizationHeaderName).toList)]
      URL := h.urlString (req.URL, actualReq.2) }

def VisaVerifyRequest : Handling (Document VisaVerifyResponse) Unit := do
  let verifyRequest ← Handling.orReturn
    (fun err ↦ h.sendError StatusBadRequest .CodeInvalidRequest
      (describe "can't parse payload: " err))
    (h.decodeVisaVerifyRequest body)
  let body ← Handling.orReturn
    (fun err ↦ h.sendError StatusBadRequest .CodeInvalidBody
      (describe "can't base64-decode body: " err))
    (Base64.decodeString verifyRequest.Body)
  let u ← Handling.orReturn
    (fun err ↦ h.sendError StatusBadRequest .CodeInvalidURL (describe "can't parse url: " err))
    (h.parseURL verifyRequest.URL)
  Handling.orReturn (h.sendError StatusUnauthorized .CodeInvalidSignature)
    (h.verifier.VerifyRequest h.hmac h.now u.1 body verifyRequest.Signature)
  sendAPIResponse h.encoding StatusOK [] ⟨⟩

def MastercardSignRequest : Handling (Document MastercardSignResponse) Unit := do
  let signReq ← Handling.orReturn
    (fun err ↦ h.sendError StatusBadRequest .CodeInvalidRequest
      (describe "can't parse payload: " err))
    (h.decodeSignRequest body)
  let body ← Handling.orReturn
    (fun err ↦ h.sendError StatusBadRequest .CodeInvalidBody
      (describe "can't base64-decode: " err))
    (Base64.decodeString signReq.Body)
  let u ← Handling.orReturn
    (fun err ↦ h.sendError StatusBadRequest .CodeInvalidURL (describe "can't parse: " err))
    (h.parseURL signReq.URL)
  let authHeader ← Handling.orReturn
    (fun err ↦ h.sendError StatusInternalServerError .CodeInternal
      (describe "can't build auth header: " err))
    (h.MakeAuthorizationHeader u signReq.Method body)
  sendAPIResponse h.encoding StatusOK [] ⟨[("Authorization", [authHeader])]⟩

def PaymentTokenVerifyRecipientKey :
    Handling (Document PaymentTokenVerifyRecipientKeyResponse) Unit := do
  let verifyReq ← Handling.orReturn
    (fun err ↦ h.sendError StatusBadRequest .CodeInvalidRequest
      (describe "can't parse payload: " err))
    (h.decodeVerifyRecipientKeyRequest body)
  let _ ← Handling.orReturn (h.sendError StatusBadRequest .CodeInvalidPublicKey)
    (h.keyVerifier.Verify h.jose (utf8 verifyReq.RecipientPublicKey)
      (utf8 verifyReq.RecipientPublicKeySignature))
  sendAPIResponse h.encoding StatusOK [] ⟨⟩

/-! ### Enrolment -/

/-- `MastercardEnrollCard` up to `enrollReq`. -/
def mastercardEnrollRequest {ρ : Type} :
    Handling (Document ρ) Mastercard.EnrollCardRequest := do
  let reqData ← Handling.orReturn (h.sendError StatusBadRequest .CodeInvalidRequest)
    (h.decodeMastercardEnrollRequest body)
  Handling.checkOrReturn (reqData.CardSource ≠ "")
    (h.sendError StatusBadRequest .CodeInvalidRequest (.errorf "card_source is required" []))
  Handling.checkOrReturn (reqData.AccountID ≠ "")
    (h.sendError StatusBadRequest .CodeInvalidRequest (.errorf "account_id is required" []))
  Handling.orReturn
    (fun err ↦ h.sendError StatusBadRequest .CodeInvalidCard (describe "card validate: " err))
    reqData.Card.Validate
  let encryptedCard ← Handling.orReturn (h.sendError StatusInternalServerError .CodeInternal)
    (h.mastercardClient.EncryptCard reqData.Card)
  return reqData.enrollReq encryptedCard

/-- The status of the response is that of its first byte. -/
def MastercardEnrollCard :
    Handling (Document (Mastercard.EnrollCardResponse MaskedCard)) Unit := do
  let enrollReq ← h.mastercardEnrollRequest body
  let enrollResp ← Handling.orReturn (handleJSONError h.encoding)
    (h.mastercardEnrollCard enrollReq)
  Handling.setHeaders [contentType, ("X-SRC-Correlation-ID", enrollResp.SRCCorrelationID)]
  h.encoding.encode (enrollResp.MaskedConsumer :: h.maskedCardRaw enrollResp.MaskedCard)
    (.bare enrollResp)

def VisaEnrollCard :
    Handling (Document (Visa.EnrollCardResponse h.PaymentInstrument h.TokenInfo)) Unit := do
  let reqData ← Handling.orReturn (h.sendError StatusBadRequest .CodeInvalidRequest)
    (h.decodeVisaEnrollRequest body)
  Handling.checkOrReturn (reqData.AccountID ≠ "")
    (h.sendError StatusBadRequest .CodeInvalidRequest (.errorf "account_id is required" []))
  Handling.checkOrReturn (reqData.EmailHash ≠ "")
    (h.sendError StatusBadRequest .CodeInvalidRequest (.errorf "email_hash is required" []))
  Handling.checkOrReturn (reqData.Locale ≠ "")
    (h.sendError StatusBadRequest .CodeInvalidRequest (.errorf "locale is required" []))
  Handling.orReturn
    (fun err ↦ h.sendError StatusBadRequest .CodeInvalidCard (describe "card validate: " err))
    reqData.Card.Validate
  Handling.checkOrReturn (Visa.panSourceIsValid reqData.PANSource)
    (h.sendError StatusBadRequest .CodeInvalidRequest
      (.errorf "unexpected pan_source value" []))
  Handling.checkOrReturn
    (¬(reqData.PANSource = Visa.PANSourceManuallyEntered ∧ reqData.Card.CVV2 = ""))
    (h.sendError StatusBadRequest .CodeInvalidRequest
      (.errorf "cvv2 is required for MANUALLY_ENTERED cards" []))
  let enrollReq ← Handling.orReturn
    (fun err ↦ h.sendError StatusInternalServerError .CodeInternal
      (describe "can't create visa tokenization request: " err))
    (h.CreateEnrollRequest reqData.AccountID reqData.EmailHash reqData.Locale reqData.PANSource
      reqData.Card)
  let enrollResp ← Handling.orReturn (handleJSONError h.encoding)
    (h.visaEnrollCard reqData.RelationshipID enrollReq)
  Handling.setHeaders [contentType, ("X-VTS-Request-ID", enrollResp.VTSRequestID),
    ("X-VTS-Correlation-ID", enrollResp.VTSCorrelationID),
    ("X-VTS-Response-ID", enrollResp.VTSResponseID)]
  h.encoding.encode [] (.bare enrollResp)

def ThalesEncryptedCard : Handling (Document ThalesEncryptedCardResponse) Unit := do
  let reqData ← Handling.orReturn
    (fun err ↦ h.sendError StatusBadRequest .CodeInvalidBody
      (describe "can't parse payload: " err))
    (h.decodeThalesEncryptedCardRequest body)
  let card := reqData.Card
  Handling.orReturn (h.sendError StatusBadRequest .CodeInvalidCard) (ofExcept card.Validate)
  let obj ← Handling.orReturn (h.sendError StatusBadRequest .CodeInternal)
    (h.marshalThales
      { PAN := card.PrimaryAccountNumber
        Expiration := twoDigits (card.PanExpirationMonth % 100) ++
          twoDigits (card.PanExpirationYear % 100)
        CVV := reqData.CVV })
  let encrypted ← Handling.orReturn (h.sendError StatusInternalServerError .CodeInternal)
    (h.EncryptCMS obj h.thalesCert)
  sendAPIResponse h.encoding StatusOK [] ⟨encrypted⟩

/-! ### Checkout -/

/-- Writes the end of a checkout handler. -/
def writeCheckout {ρ : Type} (rawMessages : ρ → List Bytes) :
    Except Failure (Response ρ) → Handling (Document ρ) Unit
  | .error failure => Handling.fail (failure.answer h.encoding)
  | .ok response => do
    Handling.setHeaders response.header
    sendAPIResponse h.encoding response.statusCode (rawMessages response.data) response.data

def PANCheckout : Handling (Document PANCheckoutResponse) Unit :=
  h.writeCheckout (fun _ ↦ []) (h.toHandler.PANCheckout body)

def MastercardCheckout : Handling (Document (MastercardCheckoutResponse MaskedCard)) Unit :=
  h.writeCheckout (fun data ↦ data.MaskedConsumer :: h.maskedCardRaw data.MaskedCard)
    (h.toHandler.MastercardCheckout body)

def VisaCheckout : Handling (Document VisaCheckoutResponse) Unit :=
  h.writeCheckout (fun _ ↦ []) (h.toHandler.VisaCheckout body)

end Handlers

end Server

end YandexPay
