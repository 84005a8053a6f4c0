import YandexPay.Server.Checkout

/-!
# The checkout handlers agree

The three handlers check the fields that their requests share in different orders and in code of
their own. `panCheckout_eq_ok`, `mastercardCheckout_eq_ok` and `visaCheckout_eq_ok` say when each of
them answers with a token: all three with the same condition on the shared fields, `Accepts`, and
with a message that carries them, `Carries`.
-/

set_option autoImplicit false
set_option relaxedAutoImplicit false

namespace YandexPay.Server

open Outcome PaymentToken

/-! ### Shared fields -/

/-- A merchant-initiated flag is set. -/
def Flagged (info : Option MITInfo) : Prop :=
  ∃ mi, info = some mi ∧ (mi.Recurring = true ∨ mi.Deferred = true)

/-- The fields that the requests share are valid. -/
structure CheckoutRequestBase.Valid (base : CheckoutRequestBase) : Prop where
  currency : base.TransactionInfo.Currency ≠ ""
  amount : 0 ≤ base.TransactionInfo.Amount
  flagged : base.TransactionInfo.Amount = 0 → Flagged base.MITInfo
  recipientID : base.RecipientID ≠ ""
  messageID : base.MessageID ≠ ""
  gatewayMerchantID : base.GatewayMerchantID ≠ ""
  expiration : 0 < base.MessageExpiration

/-- The message carries the shared fields of a request. -/
structure Carries (base : CheckoutRequestBase) (message : EncryptedMessage) : Prop where
  amount : message.TransactionDetails.Amount = base.TransactionInfo.Amount
  currency : message.TransactionDetails.Currency = base.TransactionInfo.Currency
  messageID : message.MessageID = base.MessageID
  expiration : message.MessageExpiration = toString base.MessageExpiration.toInt
  gatewayMerchantID : message.GatewayMerchantID = base.GatewayMerchantID
  mitDetails : (∃ details, message.MITDetails = some details) ↔ Flagged base.MITInfo
  flags : ∀ details, message.MITDetails = some details →
    base.MITInfo = some ⟨details.Recurring, details.Deferred⟩

def PANCheckoutRequest.toBase (req : PANCheckoutRequest) : CheckoutRequestBase where
  RecipientID := req.RecipientID
  GatewayMerchantID := req.GatewayMerchantID
  RecipientPublicKey := req.RecipientPublicKey
  RecipientPublicKeySignature := req.RecipientPublicKeySignature
  TransactionInfo := req.TransactionInfo
  MITInfo := req.MITInfo
  MessageExpiration := req.MessageExpiration
  MessageID := req.MessageID

theorem isEmpty_eq_false_iff {info : Option MITInfo} :
    MITInfo.IsEmpty info = false ↔ Flagged info := by
  cases info with
  | none => simp [MITInfo.IsEmpty, Flagged]
  | some mi =>
    cases hrecurring : mi.Recurring <;> cases hdeferred : mi.Deferred <;>
      simp [MITInfo.IsEmpty, Flagged, hrecurring, hdeferred]

theorem flagged_of_zero_iff {info : Option MITInfo} {amount : Int64} :
    ¬(MITInfo.IsEmpty info = true ∧ amount = 0) ↔ (amount = 0 → Flagged info) := by
  rw [← isEmpty_eq_false_iff, Bool.eq_false_iff]
  tauto

theorem mapError_eq_ok {ε φ α : Type} {f : ε → φ} {x : Except ε α} {a : α} :
    x.mapError f = .ok a ↔ x = .ok a := by
  cases x <;> simp [Except.mapError]

theorem transactionInfo_validate_eq_ok {ti : TransactionInfo} {u : Unit} :
    ti.Validate = .ok u ↔ ti.Currency ≠ "" ∧ 0 ≤ ti.Amount := by
  simp only [TransactionInfo.Validate, bind_eq_ok_iff, check_eq_ok, decide_eq_true_eq]
  constructor
  · rintro ⟨-, hcurrency, hamount⟩
    exact ⟨hcurrency, hamount⟩
  · rintro ⟨hcurrency, hamount⟩
    exact ⟨(), hcurrency, hamount⟩

theorem validate_eq_ok {base : CheckoutRequestBase} {u : Unit} :
    base.validate = .ok u ↔ base.Valid := by
  simp only [CheckoutRequestBase.validate, bind_eq_ok_iff, check_eq_ok, mapError_eq_ok,
    transactionInfo_validate_eq_ok, decide_eq_true_eq, flagged_of_zero_iff]
  constructor
  · rintro ⟨-, ⟨hcurrency, hamount⟩, -, hrecipient, -, hexpiration, -, hmessage, -, hgateway,
      hflagged⟩
    exact ⟨hcurrency, hamount, hflagged, hrecipient, hmessage, hgateway, hexpiration⟩
  · rintro ⟨hcurrency, hamount, hflagged, hrecipient, hmessage, hgateway, hexpiration⟩
    exact ⟨(), ⟨hcurrency, hamount⟩, (), hrecipient, (), hexpiration, (), hmessage, (), hgateway,
      hflagged⟩

theorem mitDetails_isSome_iff {info : Option MITInfo} :
    (∃ details, mitDetails info = some details) ↔ Flagged info := by
  rw [← isEmpty_eq_false_iff, mitDetails]
  cases info with
  | none => simp [MITInfo.IsEmpty]
  | some mi => cases hempty : MITInfo.IsEmpty (some mi) <;> simp

theorem eq_some_of_mitDetails {info : Option MITInfo} {details : MITDetails}
    (h : mitDetails info = some details) : info = some ⟨details.Recurring, details.Deferred⟩ := by
  rw [mitDetails] at h
  split_ifs at h
  obtain ⟨mi, rfl, rfl⟩ := Option.map_eq_some_iff.mp h
  rfl

theorem PANCheckoutRequest.carries (req : PANCheckoutRequest) : Carries req.toBase req.message :=
  ⟨rfl, rfl, rfl, rfl, rfl, mitDetails_isSome_iff, fun _ ↦ eq_some_of_mitDetails⟩

section Messages

variable {MaskedCard : Type}

theorem MastercardCheckoutRequest.carries (req : MastercardCheckoutRequest)
    (mcResp : MastercardResponse MaskedCard) (expMonth expYear : Int64) :
    Carries req.toCheckoutRequestBase (req.message mcResp expMonth expYear) :=
  ⟨rfl, rfl, rfl, rfl, rfl, mitDetails_isSome_iff, fun _ ↦ eq_some_of_mitDetails⟩

theorem VisaCheckoutRequest.carries (req : VisaCheckoutRequest) (viResp : VisaResponse)
    (visaToken : String) (expMonth expYear : Int64) :
    Carries req.toCheckoutRequestBase (req.message viResp visaToken expMonth expYear) :=
  ⟨rfl, rfl, rfl, rfl, rfl, mitDetails_isSome_iff, fun _ ↦ eq_some_of_mitDetails⟩

end Messages

/-! ### When a handler seals -/

section Handlers

variable {s : SenderPrimitives} {MaskedCard : Type} {h : Handler s MaskedCard}

/-- The shared fields are valid, and the signature of the recipient key verifies. -/
structure Accepts (h : Handler s MaskedCard) (base : CheckoutRequestBase) (key : s.PublicKey) :
    Prop where
  valid : base.Valid
  verified : h.keyVerifier.Verify h.jose (utf8 base.RecipientPublicKey)
    (utf8 base.RecipientPublicKeySignature) = .ok key

/-- One of the configured keys verifies the signature of an accepted recipient key. -/
theorem Accepts.signature_verified {base : CheckoutRequestBase} {key : s.PublicKey}
    (haccepts : Accepts h base key) :
    RecipientKeyVerifier.Verified h.jose h.keyVerifier (utf8 base.RecipientPublicKey)
      (utf8 base.RecipientPublicKeySignature) := by
  rcases RecipientKeyVerifier.Verify_ok haccepts.verified with hverified | ⟨hempty, -⟩
  · exact hverified
  · exact absurd hempty h.verificationKeys_ne

theorem panCheckout_eq_ok {body : Bytes} {response : Response PANCheckoutResponse} :
    h.PANCheckout body = .ok response ↔ ∃ req key token,
      h.decodePANCheckoutRequest body = .ok req ∧ Accepts h req.toBase key ∧
      req.Card.Validate = .ok () ∧
      h.SealJSONMessage (utf8 req.RecipientID) req.message key = .ok token ∧
      response = ⟨[], StatusOK, ⟨token⟩⟩ := by
  simp only [Handler.PANCheckout, bind_eq_ok_iff, except_pure_eq_ok, orFail_eq_ok, check_eq_ok,
    mapError_eq_ok, transactionInfo_validate_eq_ok, decide_eq_true_eq, flagged_of_zero_iff]
  constructor
  · rintro ⟨req, hreq, -, ⟨hcurrency, hamount⟩, key, hkey, -, hrecipient, u, hcard, -,
      hexpiration, -, hmessage, -, hgateway, -, hflagged, token, htoken, rfl⟩
    exact ⟨req, key, token, hreq,
      ⟨⟨hcurrency, hamount, hflagged, hrecipient, hmessage, hgateway, hexpiration⟩, hkey⟩, hcard,
      htoken, rfl⟩
  · rintro ⟨req, key, token, hreq, ⟨⟨hcurrency, hamount, hflagged, hrecipient, hmessage, hgateway,
      hexpiration⟩, hkey⟩, hcard, htoken, rfl⟩
    exact ⟨req, hreq, (), ⟨hcurrency, hamount⟩, key, hkey, (), hrecipient, (), hcard, (),
      hexpiration, (), hmessage, (), hgateway, (), hflagged, token, htoken, rfl⟩

/-- The card network gives a card for a request. -/
structure MastercardGives (h : Handler s MaskedCard) (req : MastercardCheckoutRequest)
    (mcResp : MastercardResponse MaskedCard) (dates : Int64 × Int64) : Prop where
  response : h.mastercardCheckout ⟨req.CardID, "NONE"⟩ = .ok mcResp
  dates : convertDates mcResp.TokenExpirationMonth mcResp.TokenExpirationYear = .ok dates

theorem mastercardCheckout_eq_ok {body : Bytes}
    {response : Response (MastercardCheckoutResponse MaskedCard)} :
    h.MastercardCheckout body = .ok response ↔ ∃ req key mcResp dates token,
      h.decodeMastercardCheckoutRequest body = .ok req ∧
      Accepts h req.toCheckoutRequestBase key ∧ MastercardGives h req mcResp dates ∧
      h.SealJSONMessage (utf8 req.RecipientID) (req.message mcResp dates.1 dates.2) key =
        .ok token ∧
      response = ⟨[("X-SRC-Correlation-ID", mcResp.SRCCorrelationID)], StatusOK,
        ⟨token, mcResp.MaskedConsumer, mcResp.MaskedCard⟩⟩ := by
  simp only [Handler.MastercardCheckout, bind_eq_ok_iff, except_pure_eq_ok, orFail_eq_ok,
    mapError_eq_ok, validate_eq_ok]
  constructor
  · rintro ⟨req, hreq, -, hvalid, key, hkey, mcResp, hmcResp, dates, hdates, token, htoken, rfl⟩
    exact ⟨req, key, mcResp, dates, token, hreq, ⟨hvalid, hkey⟩, ⟨hmcResp, hdates⟩, htoken, rfl⟩
  · rintro ⟨req, key, mcResp, dates, token, hreq, ⟨hvalid, hkey⟩, ⟨hmcResp, hdates⟩, htoken, rfl⟩
    exact ⟨req, hreq, (), hvalid, key, hkey, mcResp, hmcResp, dates, hdates, token, htoken, rfl⟩

/-- The card network gives a card for a request, whose own field is there. -/
structure VisaGives (h : Handler s MaskedCard) (req : VisaCheckoutRequest) (viResp : VisaResponse)
    (dates : Int64 × Int64) (visaToken : String) : Prop where
  clientPaymentDataID : req.ClientPaymentDataID ≠ ""
  response : h.GetPaymentData req.RelationshipID req.ProvisionedTokenID
    ⟨req.ClientPaymentDataID, "ECOM"⟩ = .ok viResp
  dates : convertDates viResp.ExpirationMonth viResp.ExpirationYear = .ok dates
  token : h.DecryptToken viResp.EncTokenInfo = .ok visaToken

theorem visaCheckout_eq_ok {body : Bytes} {response : Response VisaCheckoutResponse} :
    h.VisaCheckout body = .ok response ↔ ∃ req key viResp dates visaToken token,
      h.decodeVisaCheckoutRequest body = .ok req ∧ Accepts h req.toCheckoutRequestBase key ∧
      VisaGives h req viResp dates visaToken ∧
      h.SealJSONMessage (utf8 req.RecipientID) (req.message viResp visaToken dates.1 dates.2) key =
        .ok token ∧
      response = ⟨[("X-VTS-Request-ID", viResp.VTSRequestID),
        ("X-VTS-Correlation-ID", viResp.VTSCorrelationID),
        ("X-VTS-Response-ID", viResp.VTSResponseID)], StatusOK, ⟨token⟩⟩ := by
  simp only [Handler.VisaCheckout, bind_eq_ok_iff, except_pure_eq_ok, orFail_eq_ok, check_eq_ok,
    mapError_eq_ok, validate_eq_ok, decide_eq_true_eq]
  constructor
  · rintro ⟨req, hreq, -, hvalid, -, hclient, key, hkey, viResp, hviResp, dates, hdates, visaToken,
      hvisaToken, token, htoken, rfl⟩
    exact ⟨req, key, viResp, dates, visaToken, token, hreq, ⟨hvalid, hkey⟩,
      ⟨hclient, hviResp, hdates, hvisaToken⟩, htoken, rfl⟩
  · rintro ⟨req, key, viResp, dates, visaToken, token, hreq, ⟨hvalid, hkey⟩,
      ⟨hclient, hviResp, hdates, hvisaToken⟩, htoken, rfl⟩
    exact ⟨req, hreq, (), hvalid, (), hclient, key, hkey, viResp, hviResp, dates, hdates,
      visaToken, hvisaToken, token, htoken, rfl⟩

/-! ### Agreement -/

/-- The checks of a handler pass: it answers with a token for some result of the sealing. -/
def Passes {ρ : Type} (checkout : Handler s MaskedCard → Bytes → Except Failure (Response ρ))
    (h : Handler s MaskedCard) (body : Bytes) : Prop :=
  ∃ SealJSONMessage response,
    checkout { h with SealJSONMessage := SealJSONMessage } body = .ok response

theorem panCheckout_passes_iff {body : Bytes} {req : PANCheckoutRequest}
    (hreq : h.decodePANCheckoutRequest body = .ok req) (hcard : req.Card.Validate = .ok ()) :
    Passes Handler.PANCheckout h body ↔ ∃ key, Accepts h req.toBase key := by
  constructor
  · rintro ⟨SealJSONMessage, response, hresponse⟩
    obtain ⟨other, key, token, hother, haccepts, -⟩ := panCheckout_eq_ok.mp hresponse
    obtain rfl := Outcome.ok.inj (hreq.symm.trans hother)
    exact ⟨key, haccepts.valid, haccepts.verified⟩
  · rintro ⟨key, haccepts⟩
    exact ⟨fun _ _ _ ↦ .ok [], _, panCheckout_eq_ok.mpr
      ⟨req, key, [], hreq, ⟨haccepts.valid, haccepts.verified⟩, hcard, rfl, rfl⟩⟩

theorem mastercardCheckout_passes_iff {body : Bytes} {req : MastercardCheckoutRequest}
    {mcResp : MastercardResponse MaskedCard} {dates : Int64 × Int64}
    (hreq : h.decodeMastercardCheckoutRequest body = .ok req)
    (hgives : MastercardGives h req mcResp dates) :
    Passes Handler.MastercardCheckout h body ↔ ∃ key, Accepts h req.toCheckoutRequestBase key := by
  constructor
  · rintro ⟨SealJSONMessage, response, hresponse⟩
    obtain ⟨other, key, _, _, _, hother, haccepts, -⟩ := mastercardCheckout_eq_ok.mp hresponse
    obtain rfl := Outcome.ok.inj (hreq.symm.trans hother)
    exact ⟨key, haccepts.valid, haccepts.verified⟩
  · rintro ⟨key, haccepts⟩
    exact ⟨fun _ _ _ ↦ .ok [], _, mastercardCheckout_eq_ok.mpr
      ⟨req, key, mcResp, dates, [], hreq, ⟨haccepts.valid, haccepts.verified⟩,
        ⟨hgives.response, hgives.dates⟩, rfl, rfl⟩⟩

theorem visaCheckout_passes_iff {body : Bytes} {req : VisaCheckoutRequest} {viResp : VisaResponse}
    {dates : Int64 × Int64} {visaToken : String}
    (hreq : h.decodeVisaCheckoutRequest body = .ok req)
    (hgives : VisaGives h req viResp dates visaToken) :
    Passes Handler.VisaCheckout h body ↔ ∃ key, Accepts h req.toCheckoutRequestBase key := by
  constructor
  · rintro ⟨SealJSONMessage, response, hresponse⟩
    obtain ⟨other, key, _, _, _, _, hother, haccepts, -⟩ := visaCheckout_eq_ok.mp hresponse
    obtain rfl := Outcome.ok.inj (hreq.symm.trans hother)
    exact ⟨key, haccepts.valid, haccepts.verified⟩
  · rintro ⟨key, haccepts⟩
    exact ⟨fun _ _ _ ↦ .ok [], _, visaCheckout_eq_ok.mpr
      ⟨req, key, viResp, dates, visaToken, [], hreq, ⟨haccepts.valid, haccepts.verified⟩,
        ⟨hgives.clientPaymentDataID, hgives.response, hgives.dates, hgives.token⟩, rfl, rfl⟩⟩

/-- A handler has sealed a message for a request with these shared fields. -/
structure Seals (h : Handler s MaskedCard) (base : CheckoutRequestBase)
    (message : EncryptedMessage) (token : Bytes) : Prop where
  accepts : ∃ key, Accepts h base key ∧
    h.SealJSONMessage (utf8 base.RecipientID) message key = .ok token
  carries : Carries base message
  signature : RecipientKeyVerifier.Verified h.jose h.keyVerifier (utf8 base.RecipientPublicKey)
    (utf8 base.RecipientPublicKeySignature)

theorem seals_of_accepts {base : CheckoutRequestBase} {message : EncryptedMessage} {token : Bytes}
    {key : s.PublicKey} (haccepts : Accepts h base key)
    (hseal : h.SealJSONMessage (utf8 base.RecipientID) message key = .ok token)
    (hcarries : Carries base message) : Seals h base message token :=
  ⟨⟨key, haccepts, hseal⟩, hcarries, haccepts.signature_verified⟩

/-- The handler seals with a sender, and the recipient has the private key of the request and trusts
the root keys of the sender's certificate. The packages outside the repository are assumed to be
correct for what is sealed. -/
structure Deployed (h : Handler s MaskedCard) (base : CheckoutRequestBase)
    (message : EncryptedMessage) (json : MessageJson) (tokenJson : TokenJson) (now : ℤ)
    (r : Recipient s.toPrimitives) : Prop where
  correct : s.Correct
  returns : s.toPrimitives.Returns
  roundTrips : json.RoundTrips message
  sender : ∃ senderID rootKeys signingKey privateKey cert sender random,
    IssuedFor rootKeys senderID now signingKey cert ∧
    NewSender s (some signingKey) (some cert) [WithSenderID senderID] = .ok sender ∧
    (∀ recipientID m key, h.SealJSONMessage recipientID m key =
      sender.SealJSONMessage json tokenJson random recipientID m key) ∧
    h.keyVerifier.Verify h.jose (utf8 base.RecipientPublicKey)
      (utf8 base.RecipientPublicKeySignature) = .ok (s.publicKey privateKey) ∧
    ConfiguredFor senderID (utf8 base.RecipientID) rootKeys privateKey r ∧
    (∀ obj token, json.marshal message = .ok obj →
      sender.Seal random (utf8 base.RecipientID) obj (s.publicKey privateKey) = .ok token →
      tokenJson.RoundTrips token) ∧
    ∀ obj, json.marshal message = .ok obj → ∀ other ∈ r.recipientPrivateKeys,
      other ≠ s.hybridPrivateKey privateKey →
      s.FailsMac (s.publicKey privateKey) random.1 senderID obj other

/-- The recipient reads the message that was sealed. -/
theorem unseal_of_seals {base : CheckoutRequestBase} {message : EncryptedMessage} {text : Bytes}
    (hseals : Seals h base message text) {json : MessageJson} {tokenJson : TokenJson} {now : ℤ}
    {r : Recipient s.toPrimitives} (hd : Deployed h base message json tokenJson now r) :
    r.UnsealJSONMessage tokenJson json.unmarshal now text = .ok message := by
  obtain ⟨key, haccepts, hseal⟩ := hseals.accepts
  obtain ⟨senderID, rootKeys, signingKey, privateKey, cert, sender, random, hcert, hsender, hsends,
    hkey, hr, htokenJson, hothers⟩ := hd.sender
  obtain rfl := Outcome.ok.inj (haccepts.verified.symm.trans hkey)
  rw [hsends] at hseal
  exact unsealJSONMessage_sealJSONMessage hd.correct hd.returns hcert hsender hseal
    hd.roundTrips htokenJson hr hothers

/-- The three handlers seal under one condition on the fields that their requests share, and what
they seal is what the recipient reads. -/
theorem checkout_handlers_agree (h : Handler s MaskedCard) :
    (∀ body response, h.PANCheckout body = .ok response →
      ∃ req, h.decodePANCheckoutRequest body = .ok req ∧
        Seals h req.toBase req.message response.data.PaymentToken) ∧
    (∀ body response, h.MastercardCheckout body = .ok response →
      ∃ req message, h.decodeMastercardCheckoutRequest body = .ok req ∧
        Seals h req.toCheckoutRequestBase message response.data.PaymentToken) ∧
    (∀ body response, h.VisaCheckout body = .ok response →
      ∃ req message, h.decodeVisaCheckoutRequest body = .ok req ∧
        Seals h req.toCheckoutRequestBase message response.data.PaymentToken) ∧
    (∀ panBody pan mastercardBody mastercard mcResp mcDates visaBody visa viResp viDates visaToken,
      h.decodePANCheckoutRequest panBody = .ok pan →
      h.decodeMastercardCheckoutRequest mastercardBody = .ok mastercard →
      h.decodeVisaCheckoutRequest visaBody = .ok visa →
      pan.toBase = mastercard.toCheckoutRequestBase → pan.toBase = visa.toCheckoutRequestBase →
      pan.Card.Validate = .ok () → MastercardGives h mastercard mcResp mcDates →
      VisaGives h visa viResp viDates visaToken →
      (Passes Handler.PANCheckout h panBody ↔
        Passes Handler.MastercardCheckout h mastercardBody) ∧
      (Passes Handler.PANCheckout h panBody ↔ Passes Handler.VisaCheckout h visaBody)) ∧
    ∀ base message token, Seals h base message token →
      ∀ json tokenJson now r, Deployed h base message json tokenJson now r →
        r.UnsealJSONMessage tokenJson json.unmarshal now token = .ok message := by
  refine ⟨?_, ?_, ?_, ?_, fun base message token hseals json tokenJson now r ↦
    unseal_of_seals hseals⟩
  · intro body response hresponse
    obtain ⟨req, key, token, hreq, haccepts, -, htoken, rfl⟩ := panCheckout_eq_ok.mp hresponse
    exact ⟨req, hreq, seals_of_accepts haccepts htoken req.carries⟩
  · intro body response hresponse
    obtain ⟨req, key, mcResp, dates, token, hreq, haccepts, -, htoken, rfl⟩ :=
      mastercardCheckout_eq_ok.mp hresponse
    exact ⟨req, _, hreq, seals_of_accepts haccepts htoken (req.carries mcResp dates.1 dates.2)⟩
  · intro body response hresponse
    obtain ⟨req, key, viResp, dates, visaToken, token, hreq, haccepts, -, htoken, rfl⟩ :=
      visaCheckout_eq_ok.mp hresponse
    exact ⟨req, _, hreq,
      seals_of_accepts haccepts htoken (req.carries viResp visaToken dates.1 dates.2)⟩
  · intro panBody pan mastercardBody mastercard mcResp mcDates visaBody visa viResp viDates
      visaToken hpan hmastercard hvisa hsame hsame' hcard hmcGives hviGives
    rw [panCheckout_passes_iff hpan hcard, mastercardCheckout_passes_iff hmastercard hmcGives,
      visaCheckout_passes_iff hvisa hviGives, ← hsame, ← hsame']
    exact ⟨Iff.rfl, Iff.rfl⟩

end Handlers

end YandexPay.Server
