import YandexPay.PaymentToken.RoundTrip
import YandexPay.Server.Agreement
import YandexPay.Server.Handlers

/-!
# One response per request

A handler writes one status and one document, nothing behind an error, and no success after a
failure of a check or of a call, `AnswersOnce`. `answersOnce_iff` says for every request and all
results of the calls when this is so: `VisaSignRequest` needs a request that can be made and signed,
and the handlers that call a card network need the raw message of its error to be JSON.
-/

set_option autoImplicit false
set_option relaxedAutoImplicit false

namespace YandexPay.Server

open Outcome HttpHandler PaymentToken

/-! ### What the calls return -/

variable {s : SenderPrimitives} {MaskedCard : Type}

/-- No call panics: each returns a value or an error. -/
structure Handlers.Returns (h : Handlers s MaskedCard) : Prop where
  decodeSignRequest : ∀ body, h.decodeSignRequest body ≠ .panic
  decodeVisaVerifyRequest : ∀ body, h.decodeVisaVerifyRequest body ≠ .panic
  decodeVerifyRecipientKeyRequest : ∀ body, h.decodeVerifyRecipientKeyRequest body ≠ .panic
  decodeMastercardEnrollRequest : ∀ body, h.decodeMastercardEnrollRequest body ≠ .panic
  decodeVisaEnrollRequest : ∀ body, h.decodeVisaEnrollRequest body ≠ .panic
  decodeThalesEncryptedCardRequest : ∀ body, h.decodeThalesEncryptedCardRequest body ≠ .panic
  decodePANCheckoutRequest : ∀ body, h.decodePANCheckoutRequest body ≠ .panic
  decodeMastercardCheckoutRequest : ∀ body, h.decodeMastercardCheckoutRequest body ≠ .panic
  decodeVisaCheckoutRequest : ∀ body, h.decodeVisaCheckoutRequest body ≠ .panic
  parseURL : ∀ url, h.parseURL url ≠ .panic
  newRequest : ∀ method url body, h.newRequest method url body ≠ .panic
  getBody : ∀ method url body req, h.newRequest method url body = .ok req →
    Visa.getRequestBody req.1 ≠ .panic
  verify : ∀ pubKey signature, h.keyVerifier.Verify h.jose pubKey signature ≠ .panic
  SealJSONMessage : ∀ recipientID message key,
    h.SealJSONMessage recipientID message key ≠ .panic
  mastercardCheckout : ∀ req, h.mastercardCheckout req ≠ .panic
  GetPaymentData : ∀ relationshipID tokenID req,
    h.GetPaymentData relationshipID tokenID req ≠ .panic
  DecryptToken : ∀ token, h.DecryptToken token ≠ .panic
  CreateEnrollRequest : ∀ account emailHash locale source card,
    h.CreateEnrollRequest account emailHash locale source card ≠ .panic
  visaEnrollCard : ∀ relationshipID req, h.visaEnrollCard relationshipID req ≠ .panic
  EncryptCard : ∀ card, h.mastercardClient.EncryptCard card ≠ .panic
  mastercardEnrollCard : ∀ req, h.mastercardEnrollCard req ≠ .panic
  MakeAuthorizationHeader : ∀ url method payload,
    h.MakeAuthorizationHeader url method payload ≠ .panic
  marshalThales : ∀ message, h.marshalThales message ≠ .panic
  pkcs7Encrypt : ∀ data certs, h.pkcs7Encrypt data certs ≠ .panic

/-- The raw messages of a response that a client has decoded are JSON values. -/
structure Handlers.DecodesJSON (h : Handlers s MaskedCard) : Prop where
  mastercardCheckout : ∀ req resp, h.mastercardCheckout req = .ok resp →
    ∀ raw ∈ resp.MaskedConsumer :: h.maskedCardRaw resp.MaskedCard, h.encoding.Writable raw
  mastercardEnrollCard : ∀ req resp, h.mastercardEnrollCard req = .ok resp →
    ∀ raw ∈ resp.MaskedConsumer :: h.maskedCardRaw resp.MaskedCard, h.encoding.Writable raw

/-! ### Rules -/

theorem isStatus_ok : 100 ≤ StatusOK ∧ StatusOK ≤ 999 := by decide

section Rules

variable {h : Handlers s MaskedCard} {ρ α β : Type}

theorem refuses_sendError {statusCode : ℕ} {messageCode : Code} {description : GoError}
    (hcode : 399 < statusCode ∧ statusCode ≤ 999) :
    Refuses (h.sendError statusCode messageCode description : Handling (Document ρ) Unit) :=
  refuses_sendAPIError hcode

variable {rawMessages : ρ → List Bytes}

/-- The rest of a checkout handler is written as one response. -/
abbrev WritesOnce (h : Handlers s MaskedCard) (rawMessages : ρ → List Bytes)
    (checkout : Except Failure (Response ρ)) : Prop :=
  AnswersOnce (h.writeCheckout rawMessages checkout)

theorem writesOnce_orFail {answer : GoError → Failure} {x : Outcome α}
    {f : α → Except Failure (Response ρ)} :
    WritesOnce h rawMessages (orFail answer x >>= f) ↔
      x ≠ .panic ∧
      (∀ err, x = .err err →
        Refuses ((answer err).answer h.encoding : Handling (Document ρ) Unit)) ∧
      ∀ a, x = .ok a → WritesOnce h rawMessages (f a) := by
  cases x with
  | ok value =>
    constructor
    · intro hone
      refine ⟨fun h ↦ (nomatch h), fun _ h ↦ (nomatch h), fun a ha ↦ ?_⟩
      exact Outcome.ok.inj ha ▸ hone
    · exact fun hone ↦ hone.2.2 value rfl
  | err error =>
    constructor
    · intro hone
      refine ⟨fun h ↦ (nomatch h), fun err herr ↦ ?_, fun _ h ↦ (nomatch h)⟩
      exact Outcome.err.inj herr ▸ hone
    · exact fun hone ↦ hone.2.1 error rfl
  | panic => exact iff_of_false (fun hone ↦ hone.returns rfl) (fun hone ↦ hone.1 rfl)

theorem writesOnce_mapError {ε : Type} {x : Except ε α} {failure : ε → Failure}
    {f : α → Except Failure (Response ρ)} :
    WritesOnce h rawMessages (x.mapError failure >>= f) ↔
      (∀ err, x = .error err →
        Refuses ((failure err).answer h.encoding : Handling (Document ρ) Unit)) ∧
      ∀ a, x = .ok a → WritesOnce h rawMessages (f a) := by
  cases x with
  | ok value =>
    constructor
    · intro hone
      exact ⟨fun _ h ↦ (nomatch h), fun a ha ↦ Except.ok.inj ha ▸ hone⟩
    · exact fun hone ↦ hone.2 value rfl
  | error error =>
    constructor
    · intro hone
      exact ⟨fun err herr ↦ Except.error.inj herr ▸ hone, fun _ h ↦ (nomatch h)⟩
    · exact fun hone ↦ hone.1 error rfl

theorem writesOnce_check {condition : Bool} {failure : Failure}
    {f : Unit → Except Failure (Response ρ)} :
    WritesOnce h rawMessages (check condition failure >>= f) ↔
      (condition = false →
        Refuses (failure.answer h.encoding : Handling (Document ρ) Unit)) ∧
      (condition = true → WritesOnce h rawMessages (f ())) := by
  cases condition with
  | true =>
    exact ⟨fun hone ↦ ⟨fun h ↦ absurd h.symm Bool.false_ne_true, fun _ ↦ hone⟩,
      fun hone ↦ hone.2 rfl⟩
  | false =>
    exact ⟨fun hone ↦ ⟨fun _ ↦ hone, fun h ↦ absurd h Bool.false_ne_true⟩, fun hone ↦ hone.1 rfl⟩

theorem writesOnce_response {header : List (String × String)} {data : ρ}
    (hraw : ∀ raw ∈ rawMessages data, h.encoding.Writable raw) :
    WritesOnce h rawMessages (.ok ⟨header, StatusOK, data⟩) := by
  rw [WritesOnce, Handlers.writeCheckout]
  dsimp only
  rw [sendAPIResponse_eq isStatus_ok hraw]
  refine oneResponse_setHeaders.mpr (oneResponse_setHeader.mpr (oneResponse_writeHeader ?_))
  exact Exit.next_ne_panicked ()

end Rules

theorem convertDates_ne_panic (expMonthStr expYearStr : String) :
    convertDates expMonthStr expYearStr ≠ .panic :=
  bind_ne_panic (ofOption_ne_panic _ _) fun _ _ ↦
    bind_ne_panic (ofOption_ne_panic _ _) fun _ _ ↦ pure_ne_panic _

/-! ### Handlers that call no card network -/

section Handlers

variable {h : Handlers s MaskedCard}

theorem isError_badRequest : 399 < StatusBadRequest ∧ StatusBadRequest ≤ 999 := by decide

theorem isError_internalServerError :
    399 < StatusInternalServerError ∧ StatusInternalServerError ≤ 999 := by decide

theorem isError_unauthorized : 399 < StatusUnauthorized ∧ StatusUnauthorized ≤ 999 := by decide

theorem answersOnce_ok {ρ : Type} (data : ρ) :
    AnswersOnce (sendAPIResponse h.encoding StatusOK [] data) :=
  answersOnce_sendAPIResponse isStatus_ok h.encoding.writable_of_mem_nil

theorem visaVerifyRequest_answersOnce (hreturns : h.Returns) (body : Bytes) :
    AnswersOnce (h.VisaVerifyRequest body) := by
  refine Handling.oneResponse_orReturn.mpr ⟨hreturns.decodeVisaVerifyRequest body,
    fun _ _ ↦ refuses_sendError isError_badRequest, fun verifyRequest _ ↦ ?_⟩
  refine Handling.oneResponse_orReturn.mpr ⟨Base64.decodeString_ne_panic _,
    fun _ _ ↦ refuses_sendError isError_badRequest, fun data _ ↦ ?_⟩
  refine Handling.oneResponse_orReturn.mpr ⟨hreturns.parseURL _,
    fun _ _ ↦ refuses_sendError isError_badRequest, fun u _ ↦ ?_⟩
  refine Handling.oneResponse_orReturn.mpr ⟨Visa.Verifier.verifyRequest_ne_panic _ _ _ _ _ _,
    fun _ _ ↦ refuses_sendError isError_unauthorized, fun _ _ ↦ ?_⟩
  exact answersOnce_ok _

theorem mastercardSignRequest_answersOnce (hreturns : h.Returns) (body : Bytes) :
    AnswersOnce (h.MastercardSignRequest body) := by
  refine Handling.oneResponse_orReturn.mpr ⟨hreturns.decodeSignRequest body,
    fun _ _ ↦ refuses_sendError isError_badRequest, fun signReq _ ↦ ?_⟩
  refine Handling.oneResponse_orReturn.mpr ⟨Base64.decodeString_ne_panic _,
    fun _ _ ↦ refuses_sendError isError_badRequest, fun data _ ↦ ?_⟩
  refine Handling.oneResponse_orReturn.mpr ⟨hreturns.parseURL _,
    fun _ _ ↦ refuses_sendError isError_badRequest, fun u _ ↦ ?_⟩
  refine Handling.oneResponse_orReturn.mpr ⟨hreturns.MakeAuthorizationHeader _ _ _,
    fun _ _ ↦ refuses_sendError isError_internalServerError, fun authHeader _ ↦ ?_⟩
  exact answersOnce_ok _

theorem paymentTokenVerifyRecipientKey_answersOnce (hreturns : h.Returns) (body : Bytes) :
    AnswersOnce (h.PaymentTokenVerifyRecipientKey body) := by
  refine Handling.oneResponse_orReturn.mpr ⟨hreturns.decodeVerifyRecipientKeyRequest body,
    fun _ _ ↦ refuses_sendError isError_badRequest, fun verifyReq _ ↦ ?_⟩
  refine Handling.oneResponse_orReturn.mpr ⟨hreturns.verify _ _,
    fun _ _ ↦ refuses_sendError isError_badRequest, fun key _ ↦ ?_⟩
  exact answersOnce_ok _

theorem thalesEncryptedCard_answersOnce (hreturns : h.Returns) (body : Bytes) :
    AnswersOnce (h.ThalesEncryptedCard body) := by
  refine Handling.oneResponse_orReturn.mpr ⟨hreturns.decodeThalesEncryptedCardRequest body,
    fun _ _ ↦ refuses_sendError isError_badRequest, fun reqData _ ↦ ?_⟩
  refine Handling.oneResponse_orReturn.mpr ⟨ofExcept_ne_panic _,
    fun _ _ ↦ refuses_sendError isError_badRequest, fun _ _ ↦ ?_⟩
  refine Handling.oneResponse_orReturn.mpr ⟨hreturns.marshalThales _,
    fun _ _ ↦ refuses_sendError isError_badRequest, fun obj _ ↦ ?_⟩
  refine Handling.oneResponse_orReturn.mpr ⟨?_,
    fun _ _ ↦ refuses_sendError isError_internalServerError, fun encrypted _ ↦ answersOnce_ok _⟩
  refine bind_ne_panic ?_ fun _ _ ↦ pure_ne_panic _
  rw [mapErr_ne_panic]
  exact hreturns.pkcs7Encrypt _ _

theorem panCheckout_answersOnce (hreturns : h.Returns) (body : Bytes) :
    AnswersOnce (h.PANCheckout body) := by
  refine writesOnce_orFail.mpr ⟨hreturns.decodePANCheckoutRequest body,
    fun _ _ ↦ refuses_sendAPIError isError_badRequest, fun checkoutReq _ ↦ ?_⟩
  refine writesOnce_mapError.mpr
    ⟨fun _ _ ↦ refuses_sendAPIError isError_badRequest, fun _ _ ↦ ?_⟩
  refine writesOnce_orFail.mpr ⟨hreturns.verify _ _,
    fun _ _ ↦ refuses_sendAPIError isError_badRequest, fun pubKey _ ↦ ?_⟩
  refine writesOnce_check.mpr ⟨fun _ ↦ refuses_sendAPIError isError_badRequest, fun _ ↦ ?_⟩
  refine writesOnce_mapError.mpr
    ⟨fun _ _ ↦ refuses_sendAPIError isError_badRequest, fun _ _ ↦ ?_⟩
  refine writesOnce_check.mpr ⟨fun _ ↦ refuses_sendAPIError isError_badRequest, fun _ ↦ ?_⟩
  refine writesOnce_check.mpr ⟨fun _ ↦ refuses_sendAPIError isError_badRequest, fun _ ↦ ?_⟩
  refine writesOnce_check.mpr ⟨fun _ ↦ refuses_sendAPIError isError_badRequest, fun _ ↦ ?_⟩
  refine writesOnce_check.mpr ⟨fun _ ↦ refuses_sendAPIError isError_badRequest, fun _ ↦ ?_⟩
  refine writesOnce_orFail.mpr ⟨hreturns.SealJSONMessage _ _ _,
    fun _ _ ↦ refuses_sendAPIError isError_internalServerError, fun token _ ↦ ?_⟩
  exact writesOnce_response h.encoding.writable_of_mem_nil

/-! ### Signing for Visa -/

/-- A request that comes to be made can be made and signed. -/
def Handlers.Signs (h : Handlers s MaskedCard) (body : Bytes) : Prop :=
  ∀ signReq data u, h.decodeSignRequest body = .ok signReq →
    Base64.decodeString signReq.Body = .ok data → h.parseURL signReq.URL = .ok u →
    ∃ actualReq signed, h.newRequest signReq.Method (h.urlString u) data = .ok actualReq ∧
      h.signer.Sign h.hmac h.now actualReq.1 = .ok signed

/-- `VisaSignRequest` from `NewRequest` on. -/
def Handlers.signAndSend (h : Handlers s MaskedCard)
    (actualReq : Outcome (Visa.Request × h.URLRest)) :
    Handling (Document VisaSignResponse) Unit := do
  let actualReq ← Handling.orContinue
    (fun err ↦ h.sendError StatusInternalServerError .CodeInternal
      (describe "can't create request " err))
    actualReq
  let actualReq ← Handling.derefPointer actualReq
  let signed ← Handling.orContinue
    (fun err ↦ h.sendError StatusInternalServerError .CodeInternal
      (describe "can't sign request " err))
    (h.signer.Sign h.hmac h.now actualReq.1)
  let req := signed.getD (h.signer.withKey actualReq.1)
  sendAPIResponse h.encoding StatusOK []
    { Headers :=
        [(Visa.AuthorizationHeaderName, (req.Header Visa.AuthorizationHeaderName).toList)]
      URL := h.urlString (req.URL, actualReq.2) }

theorem isStatus_internalServerError :
    100 ≤ StatusInternalServerError ∧ StatusInternalServerError ≤ 999 := by decide

/-- The nil request is dereferenced after the error. -/
theorem not_answersOnce_of_newRequest {error : GoError} :
    ¬ AnswersOnce (h.signAndSend (.err error)) := by
  intro hone
  apply hone.returns
  rw [Handlers.signAndSend, Handling.orContinue, Handlers.sendError,
    sendAPIError_eq isStatus_internalServerError]
  rfl

/-- The success is written behind the error. -/
theorem not_answersOnce_of_sign {actualReq : Visa.Request × h.URLRest} {error : GoError}
    (hsign : h.signer.Sign h.hmac h.now actualReq.1 = .err error) :
    ¬ AnswersOnce (h.signAndSend (.ok actualReq)) := by
  intro hone
  obtain ⟨statusCode, hstatus⟩ := hone.status
  rw [Handlers.signAndSend, Handling.orContinue, Handling.pure_bind, Handling.derefPointer,
    Handling.pure_bind, hsign, Handling.orContinue, Handlers.sendError,
    sendAPIError_eq isStatus_internalServerError] at hstatus
  change statuses (_ ++ (sendAPIResponse h.encoding StatusOK [] _).trace) = _ at hstatus
  rw [sendAPIResponse_eq isStatus_ok h.encoding.writable_of_mem_nil] at hstatus
  exact nomatch hstatus

theorem answersOnce_signAndSend {actualReq : Visa.Request × h.URLRest} {signed : Visa.Request}
    (hsign : h.signer.Sign h.hmac h.now actualReq.1 = .ok signed) :
    AnswersOnce (h.signAndSend (.ok actualReq)) := by
  rw [Handlers.signAndSend, Handling.orContinue, Handling.pure_bind, Handling.derefPointer,
    Handling.pure_bind, hsign, Handling.orContinue, Handling.pure_bind]
  exact answersOnce_ok _

theorem visaSignRequest_answersOnce_iff (hreturns : h.Returns) (body : Bytes) :
    AnswersOnce (h.VisaSignRequest body) ↔ h.Signs body := by
  constructor
  · intro hone signReq data u hsignReq hdata hu
    have hdecoded := (Handling.oneResponse_orReturn.mp hone).2.2 signReq hsignReq
    have hbody := (Handling.oneResponse_orReturn.mp hdecoded).2.2 data hdata
    have hsend : AnswersOnce (h.signAndSend (h.newRequest signReq.Method (h.urlString u) data)) :=
      (Handling.oneResponse_orReturn.mp hbody).2.2 u hu
    cases hreq : h.newRequest signReq.Method (h.urlString u) data with
    | ok actualReq =>
      refine ⟨actualReq, ?_⟩
      rw [hreq] at hsend
      cases hsign : h.signer.Sign h.hmac h.now actualReq.1 with
      | ok signed => exact ⟨signed, rfl, rfl⟩
      | err error => exact absurd hsend (not_answersOnce_of_sign hsign)
      | panic =>
        refine absurd hsign (bind_ne_panic ?_ fun _ _ ↦ pure_ne_panic _)
        exact hreturns.getBody _ _ _ _ hreq
    | err error =>
      rw [hreq] at hsend
      exact absurd hsend not_answersOnce_of_newRequest
    | panic => exact absurd hreq (hreturns.newRequest _ _ _)
  · intro hsigns
    refine Handling.oneResponse_orReturn.mpr ⟨hreturns.decodeSignRequest body,
      fun _ _ ↦ refuses_sendError isError_badRequest, fun signReq hsignReq ↦ ?_⟩
    refine Handling.oneResponse_orReturn.mpr ⟨Base64.decodeString_ne_panic _,
      fun _ _ ↦ refuses_sendError isError_badRequest, fun data hdata ↦ ?_⟩
    refine Handling.oneResponse_orReturn.mpr ⟨hreturns.parseURL _,
      fun _ _ ↦ refuses_sendError isError_badRequest, fun u hu ↦ ?_⟩
    obtain ⟨actualReq, signed, hreq, hsign⟩ := hsigns signReq data u hsignReq hdata hu
    rw [hreq]
    exact answersOnce_signAndSend hsign

/-! ### Handlers that call a card network -/

/-- The error of the card network to a checkout is written, when the handler comes to it. -/
def Handlers.WritesMastercardErrors (h : Handlers s MaskedCard) (body : Bytes) : Prop :=
  ∀ req key error, h.decodeMastercardCheckoutRequest body = .ok req →
    Accepts h.toHandler req.toCheckoutRequestBase key →
    h.mastercardCheckout ⟨req.CardID, "NONE"⟩ = .err error → h.encoding.WritableError error

theorem mastercardCheckout_answersOnce_iff (hreturns : h.Returns) (hjson : h.DecodesJSON)
    (body : Bytes) :
    AnswersOnce (h.MastercardCheckout body) ↔ h.WritesMastercardErrors body := by
  constructor
  · intro hone req key error hreq haccepts herror
    have hdecoded := (writesOnce_orFail.mp hone).2.2 req hreq
    have hvalid := (writesOnce_mapError.mp hdecoded).2 () (validate_eq_ok.mpr haccepts.valid)
    have hkey := (writesOnce_orFail.mp hvalid).2.2 key haccepts.verified
    exact refuses_handleJSONError.mp ((writesOnce_orFail.mp hkey).2.1 error herror)
  · intro hwrites
    refine writesOnce_orFail.mpr ⟨hreturns.decodeMastercardCheckoutRequest body,
      fun _ _ ↦ refuses_sendAPIError isError_badRequest, fun req hreq ↦ ?_⟩
    refine writesOnce_mapError.mpr
      ⟨fun _ _ ↦ refuses_sendAPIError isError_badRequest, fun _ hvalid ↦ ?_⟩
    refine writesOnce_orFail.mpr ⟨hreturns.verify _ _,
      fun _ _ ↦ refuses_sendAPIError isError_badRequest, fun key hkey ↦ ?_⟩
    refine writesOnce_orFail.mpr ⟨hreturns.mastercardCheckout _,
      fun error herror ↦ refuses_handleJSONError.mpr
        (hwrites req key error hreq ⟨validate_eq_ok.mp hvalid, hkey⟩ herror),
      fun mcResp hmcResp ↦ ?_⟩
    refine writesOnce_orFail.mpr ⟨convertDates_ne_panic _ _,
      fun _ _ ↦ refuses_sendAPIError isError_internalServerError, fun dates _ ↦ ?_⟩
    refine writesOnce_orFail.mpr ⟨hreturns.SealJSONMessage _ _ _,
      fun _ _ ↦ refuses_sendAPIError isError_internalServerError, fun token _ ↦ ?_⟩
    exact writesOnce_response (hjson.mastercardCheckout _ mcResp hmcResp)

def Handlers.WritesVisaErrors (h : Handlers s MaskedCard) (body : Bytes) : Prop :=
  ∀ req key error, h.decodeVisaCheckoutRequest body = .ok req →
    Accepts h.toHandler req.toCheckoutRequestBase key → req.ClientPaymentDataID ≠ "" →
    h.GetPaymentData req.RelationshipID req.ProvisionedTokenID
      ⟨req.ClientPaymentDataID, "ECOM"⟩ = .err error → h.encoding.WritableError error

theorem visaCheckout_answersOnce_iff (hreturns : h.Returns) (body : Bytes) :
    AnswersOnce (h.VisaCheckout body) ↔ h.WritesVisaErrors body := by
  constructor
  · intro hone req key error hreq haccepts hclient herror
    have hdecoded := (writesOnce_orFail.mp hone).2.2 req hreq
    have hvalid := (writesOnce_mapError.mp hdecoded).2 () (validate_eq_ok.mpr haccepts.valid)
    have hid := (writesOnce_check.mp hvalid).2 (decide_eq_true hclient)
    have hkey := (writesOnce_orFail.mp hid).2.2 key haccepts.verified
    exact refuses_handleJSONError.mp ((writesOnce_orFail.mp hkey).2.1 error herror)
  · intro hwrites
    refine writesOnce_orFail.mpr ⟨hreturns.decodeVisaCheckoutRequest body,
      fun _ _ ↦ refuses_sendAPIError isError_badRequest, fun req hreq ↦ ?_⟩
    refine writesOnce_mapError.mpr
      ⟨fun _ _ ↦ refuses_sendAPIError isError_badRequest, fun _ hvalid ↦ ?_⟩
    refine writesOnce_check.mpr
      ⟨fun _ ↦ refuses_sendAPIError isError_badRequest, fun hclient ↦ ?_⟩
    refine writesOnce_orFail.mpr ⟨hreturns.verify _ _,
      fun _ _ ↦ refuses_sendAPIError isError_badRequest, fun key hkey ↦ ?_⟩
    refine writesOnce_orFail.mpr ⟨hreturns.GetPaymentData _ _ _,
      fun error herror ↦ refuses_handleJSONError.mpr
        (hwrites req key error hreq ⟨validate_eq_ok.mp hvalid, hkey⟩
          (of_decide_eq_true hclient) herror),
      fun viResp _ ↦ ?_⟩
    refine writesOnce_orFail.mpr ⟨convertDates_ne_panic _ _,
      fun _ _ ↦ refuses_sendAPIError isError_internalServerError, fun dates _ ↦ ?_⟩
    refine writesOnce_orFail.mpr ⟨hreturns.DecryptToken _,
      fun _ _ ↦ refuses_sendAPIError isError_internalServerError, fun visaToken _ ↦ ?_⟩
    refine writesOnce_orFail.mpr ⟨hreturns.SealJSONMessage _ _ _,
      fun _ _ ↦ refuses_sendAPIError isError_internalServerError, fun token _ ↦ ?_⟩
    exact writesOnce_response h.encoding.writable_of_mem_nil

/-- The checks of `MastercardEnrollCard` pass. -/
structure MastercardEnrollRequest.Valid (reqData : MastercardEnrollRequest) : Prop where
  cardSource : reqData.CardSource ≠ ""
  accountID : reqData.AccountID ≠ ""
  card : reqData.Card.Validate = .ok ()

def Handlers.WritesMastercardEnrollErrors (h : Handlers s MaskedCard) (body : Bytes) : Prop :=
  ∀ reqData encryptedCard error, h.decodeMastercardEnrollRequest body = .ok reqData →
    reqData.Valid → h.mastercardClient.EncryptCard reqData.Card = .ok encryptedCard →
    h.mastercardEnrollCard (reqData.enrollReq encryptedCard) = .err error →
    h.encoding.WritableError error

/-- Data that is written without a status. -/
theorem answersOnce_bare {ρ : Type} {headers : List (String × String)} {rawMessages : List Bytes}
    {data : ρ} (hraw : ∀ raw ∈ rawMessages, h.encoding.Writable raw) :
    AnswersOnce (Handling.setHeaders headers >>= fun _ ↦
      h.encoding.encode rawMessages (.bare data)) := by
  rw [Encoding.encode, if_pos hraw]
  exact oneResponse_setHeaders.mpr (oneResponse_write (Exit.next_ne_panicked _))

theorem mastercardEnrollCard_answersOnce_iff (hreturns : h.Returns) (hjson : h.DecodesJSON)
    (body : Bytes) :
    AnswersOnce (h.MastercardEnrollCard body) ↔ h.WritesMastercardEnrollErrors body := by
  rw [Handlers.MastercardEnrollCard, Handlers.mastercardEnrollRequest]
  simp only [Handling.bind_assoc, Handling.pure_bind]
  constructor
  · intro hone reqData encryptedCard error hreqData hvalid hencrypted herror
    have hdecoded := (Handling.oneResponse_orReturn.mp hone).2.2 reqData hreqData
    have hsource := (Handling.oneResponse_checkOrReturn.mp hdecoded).2
      (decide_eq_true hvalid.cardSource)
    have haccount := (Handling.oneResponse_checkOrReturn.mp hsource).2
      (decide_eq_true hvalid.accountID)
    have hcard := (Handling.oneResponse_orReturn.mp haccount).2.2 () hvalid.card
    have henroll := (Handling.oneResponse_orReturn.mp hcard).2.2 encryptedCard hencrypted
    exact refuses_handleJSONError.mp ((Handling.oneResponse_orReturn.mp henroll).2.1 error herror)
  · intro hwrites
    refine Handling.oneResponse_orReturn.mpr ⟨hreturns.decodeMastercardEnrollRequest body,
      fun _ _ ↦ refuses_sendError isError_badRequest, fun reqData hreqData ↦ ?_⟩
    refine Handling.oneResponse_checkOrReturn.mpr
      ⟨fun _ ↦ refuses_sendError isError_badRequest, fun hsource ↦ ?_⟩
    refine Handling.oneResponse_checkOrReturn.mpr
      ⟨fun _ ↦ refuses_sendError isError_badRequest, fun haccount ↦ ?_⟩
    refine Handling.oneResponse_orReturn.mpr ⟨Mastercard.Card.validate_ne_panic _,
      fun _ _ ↦ refuses_sendError isError_badRequest, fun _ hcard ↦ ?_⟩
    refine Handling.oneResponse_orReturn.mpr ⟨hreturns.EncryptCard _,
      fun _ _ ↦ refuses_sendError isError_internalServerError, fun encryptedCard hencrypted ↦ ?_⟩
    have hvalid : reqData.Valid := ⟨of_decide_eq_true hsource, of_decide_eq_true haccount, hcard⟩
    refine Handling.oneResponse_orReturn.mpr ⟨hreturns.mastercardEnrollCard _,
      fun error herror ↦ refuses_handleJSONError.mpr
        (hwrites reqData encryptedCard error hreqData hvalid hencrypted herror),
      fun enrollResp hresp ↦ ?_⟩
    exact answersOnce_bare (hjson.mastercardEnrollCard _ enrollResp hresp)

/-- The checks of `VisaEnrollCard` pass. -/
structure VisaEnrollRequest.Valid (reqData : VisaEnrollRequest) : Prop where
  accountID : reqData.AccountID ≠ ""
  emailHash : reqData.EmailHash ≠ ""
  locale : reqData.Locale ≠ ""
  card : reqData.Card.Validate = .ok ()
  panSource : Visa.panSourceIsValid reqData.PANSource = true
  cvv2 : ¬(reqData.PANSource = Visa.PANSourceManuallyEntered ∧ reqData.Card.CVV2 = "")

def Handlers.WritesVisaEnrollErrors (h : Handlers s MaskedCard) (body : Bytes) : Prop :=
  ∀ reqData enrollReq error, h.decodeVisaEnrollRequest body = .ok reqData → reqData.Valid →
    h.CreateEnrollRequest reqData.AccountID reqData.EmailHash reqData.Locale reqData.PANSource
      reqData.Card = .ok enrollReq →
    h.visaEnrollCard reqData.RelationshipID enrollReq = .err error →
    h.encoding.WritableError error

theorem visaEnrollCard_answersOnce_iff (hreturns : h.Returns) (body : Bytes) :
    AnswersOnce (h.VisaEnrollCard body) ↔ h.WritesVisaEnrollErrors body := by
  constructor
  · intro hone reqData enrollReq error hreqData hvalid hcreate herror
    have hdecoded := (Handling.oneResponse_orReturn.mp hone).2.2 reqData hreqData
    have haccount := (Handling.oneResponse_checkOrReturn.mp hdecoded).2
      (decide_eq_true hvalid.accountID)
    have hemail := (Handling.oneResponse_checkOrReturn.mp haccount).2
      (decide_eq_true hvalid.emailHash)
    have hlocale := (Handling.oneResponse_checkOrReturn.mp hemail).2
      (decide_eq_true hvalid.locale)
    have hcard := (Handling.oneResponse_orReturn.mp hlocale).2.2 () hvalid.card
    have hsource := (Handling.oneResponse_checkOrReturn.mp hcard).2 hvalid.panSource
    have hcvv2 := (Handling.oneResponse_checkOrReturn.mp hsource).2 (decide_eq_true hvalid.cvv2)
    have henroll := (Handling.oneResponse_orReturn.mp hcvv2).2.2 enrollReq hcreate
    exact refuses_handleJSONError.mp ((Handling.oneResponse_orReturn.mp henroll).2.1 error herror)
  · intro hwrites
    refine Handling.oneResponse_orReturn.mpr ⟨hreturns.decodeVisaEnrollRequest body,
      fun _ _ ↦ refuses_sendError isError_badRequest, fun reqData hreqData ↦ ?_⟩
    refine Handling.oneResponse_checkOrReturn.mpr
      ⟨fun _ ↦ refuses_sendError isError_badRequest, fun haccount ↦ ?_⟩
    refine Handling.oneResponse_checkOrReturn.mpr
      ⟨fun _ ↦ refuses_sendError isError_badRequest, fun hemail ↦ ?_⟩
    refine Handling.oneResponse_checkOrReturn.mpr
      ⟨fun _ ↦ refuses_sendError isError_badRequest, fun hlocale ↦ ?_⟩
    refine Handling.oneResponse_orReturn.mpr ⟨Visa.Card.validate_ne_panic _,
      fun _ _ ↦ refuses_sendError isError_badRequest, fun _ hcard ↦ ?_⟩
    refine Handling.oneResponse_checkOrReturn.mpr
      ⟨fun _ ↦ refuses_sendError isError_badRequest, fun hsource ↦ ?_⟩
    refine Handling.oneResponse_checkOrReturn.mpr
      ⟨fun _ ↦ refuses_sendError isError_badRequest, fun hcvv2 ↦ ?_⟩
    refine Handling.oneResponse_orReturn.mpr ⟨hreturns.CreateEnrollRequest _ _ _ _ _,
      fun _ _ ↦ refuses_sendError isError_internalServerError, fun enrollReq hcreate ↦ ?_⟩
    have hvalid : reqData.Valid :=
      ⟨of_decide_eq_true haccount, of_decide_eq_true hemail, of_decide_eq_true hlocale, hcard,
        hsource, of_decide_eq_true hcvv2⟩
    refine Handling.oneResponse_orReturn.mpr ⟨hreturns.visaEnrollCard _ _,
      fun error herror ↦ refuses_handleJSONError.mpr
        (hwrites reqData enrollReq error hreqData hvalid hcreate herror),
      fun enrollResp _ ↦ ?_⟩
    exact answersOnce_bare h.encoding.writable_of_mem_nil

/-! ### All handlers -/

/-- The handlers of the two routers, but for `Ping`. -/
inductive Endpoint
  | mastercardSignRequest
  | mastercardCheckout
  | verifyRecipientKey
  | visaSignRequest
  | visaVerifyRequest
  | visaCheckout
  | mastercardEnrollCard
  | visaEnrollCard
  | panCheckout
  | thalesEncryptedCard

/-- The endpoint answers a request with one response. -/
def Handlers.AnswersOnceAt (h : Handlers s MaskedCard) (body : Bytes) : Endpoint → Prop
  | .mastercardSignRequest => AnswersOnce (h.MastercardSignRequest body)
  | .mastercardCheckout => AnswersOnce (h.MastercardCheckout body)
  | .verifyRecipientKey => AnswersOnce (h.PaymentTokenVerifyRecipientKey body)
  | .visaSignRequest => AnswersOnce (h.VisaSignRequest body)
  | .visaVerifyRequest => AnswersOnce (h.VisaVerifyRequest body)
  | .visaCheckout => AnswersOnce (h.VisaCheckout body)
  | .mastercardEnrollCard => AnswersOnce (h.MastercardEnrollCard body)
  | .visaEnrollCard => AnswersOnce (h.VisaEnrollCard body)
  | .panCheckout => AnswersOnce (h.PANCheckout body)
  | .thalesEncryptedCard => AnswersOnce (h.ThalesEncryptedCard body)

/-- No call of the endpoint fails where its handler does not answer the failure with one document.
-/
def Handlers.AnswersFailures (h : Handlers s MaskedCard) (body : Bytes) : Endpoint → Prop
  | .visaSignRequest => h.Signs body
  | .mastercardCheckout => h.WritesMastercardErrors body
  | .visaCheckout => h.WritesVisaErrors body
  | .mastercardEnrollCard => h.WritesMastercardEnrollErrors body
  | .visaEnrollCard => h.WritesVisaEnrollErrors body
  | .mastercardSignRequest => True
  | .verifyRecipientKey => True
  | .visaVerifyRequest => True
  | .panCheckout => True
  | .thalesEncryptedCard => True

/-- Assumes that the calls return a value or an error, and that raw messages that were decoded are
JSON. Every request to every endpoint is answered once, unless `VisaSignRequest` cannot make or sign
its request or the error of a card network has a message that is not JSON. -/
theorem answersOnce_iff (h : Handlers s MaskedCard) (hreturns : h.Returns) (hjson : h.DecodesJSON)
    (body : Bytes) (endpoint : Endpoint) :
    h.AnswersOnceAt body endpoint ↔ h.AnswersFailures body endpoint := by
  cases endpoint with
  | mastercardSignRequest =>
    exact iff_true_intro (mastercardSignRequest_answersOnce hreturns body)
  | mastercardCheckout => exact mastercardCheckout_answersOnce_iff hreturns hjson body
  | verifyRecipientKey =>
    exact iff_true_intro (paymentTokenVerifyRecipientKey_answersOnce hreturns body)
  | visaSignRequest => exact visaSignRequest_answersOnce_iff hreturns body
  | visaVerifyRequest => exact iff_true_intro (visaVerifyRequest_answersOnce hreturns body)
  | visaCheckout => exact visaCheckout_answersOnce_iff hreturns body
  | mastercardEnrollCard => exact mastercardEnrollCard_answersOnce_iff hreturns hjson body
  | visaEnrollCard => exact visaEnrollCard_answersOnce_iff hreturns body
  | panCheckout => exact iff_true_intro (panCheckout_answersOnce hreturns body)
  | thalesEncryptedCard => exact iff_true_intro (thalesEncryptedCard_answersOnce hreturns body)

end Handlers

/-! ### A request that cannot be made, and a gateway error -/

def signBody : Bytes := utf8
  "\x7b\"url\":\"https://api.test/p?apiKey=a\",\"method\":\"POST\",\"body\":\"\"\x7d"

/-- The method has a blank. -/
def badSignBody : Bytes := utf8
  "\x7b\"url\":\"https://api.test/p?apiKey=a\",\"method\":\"PO ST\",\"body\":\"\"\x7d"

def sampleDecodeSignRequest (body : Bytes) : Outcome SignRequest :=
  if body = signBody then .ok ⟨utf8 "https://api.test/p?apiKey=a", utf8 "POST", []⟩
  else if body = badSignBody then .ok ⟨utf8 "https://api.test/p?apiKey=a", utf8 "PO ST", []⟩
  else .err (.library "another input")

def signURL : NetUrl.URL where
  Path := utf8 "/p"
  RawPath := []
  RawQuery := utf8 "apiKey=a"

/-- `http.NewRequest` of a method that is a word, or of one with a blank. -/
def sampleNewRequest (method body : Bytes) : Outcome (Visa.Request × Bytes) :=
  if 32 ∈ method then .err (.library "net/http: invalid method")
  else .ok (⟨signURL, true, .ok body, fun _ ↦ none⟩, utf8 "https://api.test")

def visaEnrollBody : Bytes := utf8 "\x7b\"card\": \"...\"\x7d"

def visaEnrollData : VisaEnrollRequest where
  Card := ⟨"4111111111111111", "12", "2030", ""⟩
  EmailHash := "hash"
  Locale := "ru"
  PANSource := "ONFILE"
  AccountID := "account"
  RelationshipID := "relationship"

/-- The page of a gateway whose backend is down. -/
def badGateway : RestyResponse where
  statusCode := 502
  statusCode_le := by decide
  header := fun _ ↦ ""
  body := utf8 "<html>502 Bad Gateway</html>"

theorem badGateway_isError : badGateway.IsError := by
  show 399 < 502
  decide

/-- The errors that are interaction errors, and JSON values, among what occurs below. -/
def sampleEncoding : Encoding where
  valid := fun raw ↦ raw.head? ≠ some 60
  asInteractionError
    | .library text =>
      if text = "visa api: [502] Bad Gateway" then
        some (Visa.newError "request" badGateway badGateway_isError)
      else none
    | .errorf _ _ => none
    | .errorsf _ _ => none
    | .corruptInput => none
    | .numError _ => none

def enrollBody : Bytes := utf8 "\x7b\"card\": \"...\",\"account_id\":\"account\"\x7d"

def sampleCard : Mastercard.Card := ⟨"5204731600014784", "12", "2030", "", ""⟩

def cardText : Bytes := utf8 <|
  "\x7b\"primaryAccountNumber\":\"5204731600014784\",\"panExpirationMonth\":\"12\"," ++
    "\"panExpirationYear\":\"2030\"\x7d"

def enrollData : MastercardEnrollRequest := ⟨sampleCard, "CARDHOLDER", "account"⟩

/-- The compact form of the card under a key. -/
def cardJwe : Bytes := utf8 "eyJhbGciOiJSU0EtT0FFUC0yNTYifQ.a2V5.aXY.Y2FyZA.dGFn"

/-- Encryption under a key of some bits, of which OAEP with SHA-256 needs 656 for a content key of
16 bytes. -/
def sampleEncrypt (bits : ℕ) (plaintext : Bytes) : Outcome Bytes :=
  if bits < 656 then .err (.library "crypto/rsa: message too long for RSA public key size")
  else onInput cardText cardJwe plaintext

theorem sampleEncrypt_ne_panic (bits : ℕ) (plaintext : Bytes) :
    sampleEncrypt bits plaintext ≠ .panic := by
  rw [sampleEncrypt]
  split_ifs
  · exact err_ne_panic _
  · exact onInput_ne_panic _ _ _

/-- Encryption of one card; a key is the number of its bits. -/
def sampleJose : Mastercard.JoseEncryption ℕ where
  Encrypter := ℕ
  JSONWebEncryption := Bytes
  newEncrypter := fun _ _ key ↦ .ok key.key
  encrypt := sampleEncrypt
  compactSerialize := .ok
  decrypt := fun _ ↦ onInput cardJwe cardText

/-- A client whose key set has one key for cards. -/
def sampleClient (bits : ℕ) : Mastercard.Client ℕ where
  publicKeys := some ⟨[⟨utf8 "149123-src-fpan-encryption", bits⟩]⟩
  jose := sampleJose
  marshal := onInput sampleCard cardText

def sampleHandlers (bits : ℕ) : Handlers sealPrimitives Unit where
  decodePANCheckoutRequest := fun _ ↦ .err (.library "another input")
  decodeMastercardCheckoutRequest := fun _ ↦ .err (.library "another input")
  decodeVisaCheckoutRequest := fun _ ↦ .err (.library "another input")
  jose :=
    { JSONWebSignature := Unit
      parseDetached := fun _ _ ↦ .err (.library "another input")
      verify := fun _ _ ↦ .err (.library "another input") }
  keyVerifier := ⟨[some (fromBase64 rootKey)]⟩
  verificationKeys_ne := List.cons_ne_nil _ _
  SealJSONMessage := fun _ _ _ ↦ .err (.library "another input")
  mastercardCheckout := fun _ ↦ .err (.library "another input")
  GetPaymentData := fun _ _ _ ↦ .err (.library "another input")
  DecryptToken := fun _ ↦ .err (.library "another input")
  encoding := sampleEncoding
  maskedCardRaw := fun _ ↦ []
  decodeSignRequest := sampleDecodeSignRequest
  decodeVisaVerifyRequest := fun _ ↦ .err (.library "another input")
  decodeVerifyRecipientKeyRequest := fun _ ↦ .err (.library "another input")
  decodeMastercardEnrollRequest := onInput enrollBody enrollData
  decodeVisaEnrollRequest := onInput visaEnrollBody visaEnrollData
  decodeThalesEncryptedCardRequest := fun _ ↦ .err (.library "another input")
  URLRest := Bytes
  parseURL := onInput (utf8 "https://api.test/p?apiKey=a") (signURL, utf8 "https://api.test")
  urlString := fun u ↦ u.2 ++ u.1.Path ++ utf8 "?" ++ u.1.RawQuery
  newRequest := fun method _ body ↦ sampleNewRequest method body
  hmac := Visa.sampleHmac
  now := 1337228322
  signer := Visa.sampleSigner
  verifier := Visa.sampleVerifier
  VisaEnrollCardRequest := Unit
  PaymentInstrument := Unit
  TokenInfo := Unit
  CreateEnrollRequest := fun _ _ _ _ _ ↦ .ok ()
  visaEnrollCard := fun _ _ ↦ .err (.library "visa api: [502] Bad Gateway")
  Key := ℕ
  mastercardClient := sampleClient bits
  mastercardEnrollCard := fun _ ↦ .err (.library "another input")
  MakeAuthorizationHeader := fun _ _ _ ↦ .err (.library "another input")
  marshalThales := fun _ ↦ .err (.library "another input")
  Certificate := Unit
  thalesCert := ()
  pkcs7Encrypt := fun _ _ ↦ .err (.library "another input")

theorem sampleClient_encryptCard_ne_panic (bits : ℕ) (card : Mastercard.Card) :
    (sampleClient bits).EncryptCard card ≠ .panic := by
  refine bind_ne_panic ?_ fun key _ ↦ bind_ne_panic (pure_ne_panic _) fun enc _ ↦ ?_
  · exact fun h ↦ nomatch Mastercard.getFPANEncryptionKey_eq_panic.mp h
  · exact Mastercard.orEmpty_ne_panic (onInput_ne_panic _ _ _) fun plaintext ↦
      Mastercard.orEmpty_ne_panic (sampleEncrypt_ne_panic _ _) fun obj ↦ pure_ne_panic obj

theorem sampleHandlers_returns (bits : ℕ) : (sampleHandlers bits).Returns where
  decodeSignRequest := fun body ↦ by
    show sampleDecodeSignRequest body ≠ _
    rw [sampleDecodeSignRequest]
    split_ifs
    · exact pure_ne_panic _
    · exact pure_ne_panic _
    · exact err_ne_panic _
  decodeVisaVerifyRequest := fun _ ↦ err_ne_panic _
  decodeVerifyRecipientKeyRequest := fun _ ↦ err_ne_panic _
  decodeMastercardEnrollRequest := onInput_ne_panic _ _
  decodeVisaEnrollRequest := onInput_ne_panic _ _
  decodeThalesEncryptedCardRequest := fun _ ↦ err_ne_panic _
  decodePANCheckoutRequest := fun _ ↦ err_ne_panic _
  decodeMastercardCheckoutRequest := fun _ ↦ err_ne_panic _
  decodeVisaCheckoutRequest := fun _ ↦ err_ne_panic _
  parseURL := onInput_ne_panic _ _
  newRequest := fun method _ body ↦ by
    show sampleNewRequest method body ≠ _
    rw [sampleNewRequest]
    split_ifs
    · exact err_ne_panic _
    · exact pure_ne_panic _
  getBody := fun method _ body req hreq ↦ by
    change sampleNewRequest method body = _ at hreq
    rw [sampleNewRequest] at hreq
    split_ifs at hreq
    rw [← Outcome.ok.inj hreq]
    exact pure_ne_panic _
  verify := fun pubKey signature ↦ by
    refine bind_ne_panic (Base64.decodeString_ne_panic _) fun der _ ↦ bind_ne_panic ?_ fun _ _ ↦ ?_
    · refine bind_ne_panic (require_ne_panic _ _) fun _ _ ↦ err_ne_panic _
    · refine bind_ne_panic (onInput_ne_panic _ _ _) fun key _ ↦ ?_
      cases key with
      | ecdsa key => exact pure_ne_panic _
      | other => exact err_ne_panic _
  SealJSONMessage := fun _ _ _ ↦ err_ne_panic _
  mastercardCheckout := fun _ ↦ err_ne_panic _
  GetPaymentData := fun _ _ _ ↦ err_ne_panic _
  DecryptToken := fun _ ↦ err_ne_panic _
  CreateEnrollRequest := fun _ _ _ _ _ ↦ pure_ne_panic _
  visaEnrollCard := fun _ _ ↦ err_ne_panic _
  EncryptCard := sampleClient_encryptCard_ne_panic bits
  mastercardEnrollCard := fun _ ↦ err_ne_panic _
  MakeAuthorizationHeader := fun _ _ _ ↦ err_ne_panic _
  marshalThales := fun _ ↦ err_ne_panic _
  pkcs7Encrypt := fun _ _ ↦ err_ne_panic _

theorem sampleHandlers_decodesJSON (bits : ℕ) : (sampleHandlers bits).DecodesJSON where
  mastercardCheckout := fun _ _ h ↦ nomatch h
  mastercardEnrollCard := fun _ _ h ↦ nomatch h

/-- The handler comes to make a request whose body is decoded. -/
theorem signs_iff_of_decode {bits : ℕ} {body method : Bytes}
    (hdecode : (sampleHandlers bits).decodeSignRequest body =
      .ok ⟨utf8 "https://api.test/p?apiKey=a", method, []⟩) :
    (sampleHandlers bits).Signs body ↔ ∃ actualReq signed,
      sampleNewRequest method [] = .ok actualReq ∧
      Visa.sampleSigner.Sign Visa.sampleHmac 1337228322 actualReq.1 = .ok signed := by
  have hu : (sampleHandlers bits).parseURL (utf8 "https://api.test/p?apiKey=a") =
      .ok (signURL, utf8 "https://api.test") :=
    onInput_self (utf8 "https://api.test/p?apiKey=a") (signURL, utf8 "https://api.test")
  constructor
  · exact fun h ↦ h _ [] _ hdecode rfl hu
  · intro h signReq data u hsignReq hdata _
    obtain rfl := Outcome.ok.inj (hdecode.symm.trans hsignReq)
    obtain rfl : [] = data := Outcome.ok.inj hdata
    exact h

/-- A request that is made and signed. -/
theorem answersOnce_iff_witness :
    (sampleHandlers 2048).AnswersOnceAt signBody .visaSignRequest := by
  refine (answersOnce_iff (sampleHandlers 2048) (sampleHandlers_returns 2048)
    (sampleHandlers_decodesJSON 2048) signBody .visaSignRequest).mpr ?_
  exact (signs_iff_of_decode (if_pos rfl)).mpr ⟨_, _, rfl, rfl⟩

/-- A method that is no word makes the handler panic behind its error, and the page of a gateway is
answered with a status alone. -/
theorem not_answersOnce :
    ¬ (sampleHandlers 2048).AnswersOnceAt badSignBody .visaSignRequest ∧
      ¬ (sampleHandlers 2048).AnswersOnceAt visaEnrollBody .visaEnrollCard := by
  constructor
  · show ¬ AnswersOnce ((sampleHandlers 2048).VisaSignRequest badSignBody)
    rw [visaSignRequest_answersOnce_iff (sampleHandlers_returns 2048)]
    have hdecode : (sampleHandlers 2048).decodeSignRequest badSignBody =
        .ok ⟨utf8 "https://api.test/p?apiKey=a", utf8 "PO ST", []⟩ := by
      have hne : badSignBody ≠ signBody := by decide +kernel
      show sampleDecodeSignRequest badSignBody = _
      rw [sampleDecodeSignRequest, if_neg hne, if_pos rfl]
    rw [signs_iff_of_decode hdecode]
    rintro ⟨actualReq, signed, hreq, -⟩
    exact nomatch hreq
  · show ¬ AnswersOnce ((sampleHandlers 2048).VisaEnrollCard visaEnrollBody)
    rw [visaEnrollCard_answersOnce_iff (sampleHandlers_returns 2048)]
    intro hwrites
    have hvalid : visaEnrollData.Valid := by
      refine ⟨?_, ?_, ?_, rfl, ?_, ?_⟩ <;> decide
    have hwritable := hwrites visaEnrollData () _ (onInput_self visaEnrollBody visaEnrollData)
      hvalid rfl rfl _ rfl
    rcases hwritable with hempty | hjson
    · exact nomatch hempty
    · exact nomatch hjson

end YandexPay.Server
