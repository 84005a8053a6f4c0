import YandexPay.Pkcs7.Envelope
import YandexPay.Server.OneResponse

/-!
# The encrypted card

What `ThalesEncryptedCard` answers when it encrypts with `pkcs7` for the certificate that the server
has loaded. The text in a successful answer is an envelope that the owner of the certificate opens
to the message of the requested card. `loadCertificate` takes a certificate with any key, and with
one that is not of RSA every card that could be encrypted makes the handler panic.
-/

set_option autoImplicit false
set_option relaxedAutoImplicit false

namespace YandexPay.Server

open Outcome HttpHandler PaymentToken

variable {s : SenderPrimitives} {MaskedCard : Type} {p : Pkcs7.Primitives}

/-- The handlers with the certificate of the server; the reader is that of a request. -/
def Handlers.withCertificate (h : Handlers s MaskedCard) (reader : p.Reader)
    (cert : Option (Pkcs7.Certificate p)) : Handlers s MaskedCard :=
  { h with
    Certificate := Option (Pkcs7.Certificate p)
    thalesCert := cert
    pkcs7Encrypt := Pkcs7.Encrypt reader }

/-- `encryptedMessage` of `ThalesEncryptedCard` -/
def ThalesEncryptedCardRequest.encryptedMessage (reqData : ThalesEncryptedCardRequest) :
    ThalesEncryptedMessage where
  PAN := reqData.Card.PrimaryAccountNumber
  Expiration := twoDigits (reqData.Card.PanExpirationMonth % 100) ++
    twoDigits (reqData.Card.PanExpirationYear % 100)
  CVV := reqData.CVV

/-- The message of a request that is decoded, valid and can be written. -/
def Handlers.Requests (h : Handlers s MaskedCard) (body obj : Bytes) : Prop :=
  ∃ reqData, h.decodeThalesEncryptedCardRequest body = .ok reqData ∧
    reqData.Card.Validate = .ok () ∧ h.marshalThales reqData.encryptedMessage = .ok obj

variable {h : Handlers s MaskedCard}

theorem success_not_mem_sendError {ρ : Type} {statusCode code : ℕ} {messageCode : Code}
    {data : ρ} (hcode : 100 ≤ statusCode ∧ statusCode ≤ 999) (description : GoError) :
    .write (.success code data) ∉ (h.sendError statusCode messageCode description :
      Handling (Document ρ) Unit).trace := by
  rw [Handlers.sendError, sendAPIError_eq hcode]
  simp

theorem exit_sendError {ρ : Type} {statusCode : ℕ} {messageCode : Code}
    (hcode : 100 ≤ statusCode ∧ statusCode ≤ 999) (description : GoError) :
    (h.sendError statusCode messageCode description : Handling (Document ρ) Unit).exit =
      .next () := by
  rw [Handlers.sendError, sendAPIError_eq hcode]

theorem status_badRequest : 100 ≤ StatusBadRequest ∧ StatusBadRequest ≤ 999 := by decide

theorem status_internalServerError :
    100 ≤ StatusInternalServerError ∧ StatusInternalServerError ≤ 999 := by decide

/-- A successful answer has the encryption of the message of the request. -/
theorem success_mem_thalesEncryptedCard {body : Bytes} {code : ℕ}
    {data : ThalesEncryptedCardResponse}
    (hwritten : .write (.success code data) ∈ (h.ThalesEncryptedCard body).trace) :
    ∃ obj, h.Requests body obj ∧ h.EncryptCMS obj h.thalesCert = .ok data.EncryptedCard := by
  obtain ⟨reqData, hdecode, hwritten⟩ := (Handling.write_mem_orReturn
    fun _ ↦ success_not_mem_sendError status_badRequest _).1 hwritten
  obtain ⟨⟨⟩, hvalid, hwritten⟩ := (Handling.write_mem_orReturn
    fun _ ↦ success_not_mem_sendError status_badRequest _).1 hwritten
  obtain ⟨obj, hobj, hwritten⟩ := (Handling.write_mem_orReturn
    fun _ ↦ success_not_mem_sendError status_badRequest _).1 hwritten
  obtain ⟨encrypted, hencrypted, hwritten⟩ := (Handling.write_mem_orReturn
    fun _ ↦ success_not_mem_sendError status_internalServerError _).1 hwritten
  rw [sendAPIResponse_eq (by decide) (Encoding.writable_of_mem_nil _)] at hwritten
  have hdata : code = StatusOK ∧ data = ⟨encrypted⟩ := by simpa using hwritten
  exact ⟨obj, ⟨reqData, hdecode, ofExcept_eq_ok.1 hvalid, hobj⟩, hdata.2 ▸ hencrypted⟩

/-- A message that is encrypted is answered. -/
theorem success_of_requests {reader : p.Reader} {cert : Option (Pkcs7.Certificate p)}
    {body obj message : Bytes} (hrequests : h.Requests body obj)
    (hencrypt : Pkcs7.Encrypt reader obj [cert] = .ok message) :
    .write (.success StatusOK ⟨Base64.encodeToString message⟩) ∈
      ((h.withCertificate reader cert).ThalesEncryptedCard body).trace := by
  obtain ⟨reqData, hreqData, hvalid, hobj⟩ := hrequests
  refine (Handling.write_mem_orReturn fun _ ↦ success_not_mem_sendError status_badRequest _).2
    ⟨reqData, hreqData, ?_⟩
  refine (Handling.write_mem_orReturn fun _ ↦ success_not_mem_sendError status_badRequest _).2
    ⟨(), ofExcept_eq_ok.2 hvalid, ?_⟩
  refine (Handling.write_mem_orReturn fun _ ↦ success_not_mem_sendError status_badRequest _).2
    ⟨obj, hobj, ?_⟩
  refine (Handling.write_mem_orReturn
    fun _ ↦ success_not_mem_sendError status_internalServerError _).2
    ⟨Base64.encodeToString message,
      bind_eq_ok.2 ⟨message, mapErr_eq_ok.2 hencrypt, rfl⟩, ?_⟩
  rw [sendAPIResponse_eq (by decide) (Encoding.writable_of_mem_nil _)]
  exact List.mem_cons_of_mem _ (List.mem_cons_of_mem _ List.mem_cons_self)

/-- The handler panics where the encryption of the message of the request does. -/
theorem panicked_thalesEncryptedCard
    (hdecode : ∀ body, h.decodeThalesEncryptedCardRequest body ≠ .panic)
    (hmarshal : ∀ message, h.marshalThales message ≠ .panic) {body : Bytes} :
    (h.ThalesEncryptedCard body).exit = .panicked ↔
      ∃ obj, h.Requests body obj ∧ h.EncryptCMS obj h.thalesCert = .panic := by
  rw [Handlers.ThalesEncryptedCard,
    Handling.panicked_orReturn fun _ ↦ exit_sendError status_badRequest _,
    or_iff_right (hdecode body)]
  constructor
  · rintro ⟨reqData, hreqData, hexit⟩
    rw [Handling.panicked_orReturn fun _ ↦ exit_sendError status_badRequest _,
      or_iff_right (ofExcept_ne_panic _)] at hexit
    obtain ⟨⟨⟩, hvalid, hexit⟩ := hexit
    rw [Handling.panicked_orReturn fun _ ↦ exit_sendError status_badRequest _,
      or_iff_right (hmarshal _)] at hexit
    obtain ⟨obj, hobj, hexit⟩ := hexit
    rw [Handling.panicked_orReturn fun _ ↦ exit_sendError status_internalServerError _] at hexit
    rcases hexit with hexit | ⟨encrypted, -, hexit⟩
    · exact ⟨obj, ⟨reqData, hreqData, ofExcept_eq_ok.1 hvalid, hobj⟩, hexit⟩
    · rw [sendAPIResponse_eq (by decide) (Encoding.writable_of_mem_nil _)] at hexit
      exact absurd hexit (Exit.next_ne_panicked _)
  · rintro ⟨obj, ⟨reqData, hreqData, hvalid, hobj⟩, hexit⟩
    refine ⟨reqData, hreqData, ?_⟩
    rw [Handling.panicked_orReturn fun _ ↦ exit_sendError status_badRequest _]
    refine Or.inr ⟨(), ofExcept_eq_ok.2 hvalid, ?_⟩
    rw [Handling.panicked_orReturn fun _ ↦ exit_sendError status_badRequest _]
    refine Or.inr ⟨obj, hobj, ?_⟩
    rw [Handling.panicked_orReturn fun _ ↦ exit_sendError status_internalServerError _]
    exact Or.inl hexit

/-- The text of a successful answer is an envelope with the message of the request. -/
theorem encryptedCard_opens {issuer : Der.Element} {cert : Pkcs7.Certificate p}
    {pub : p.RSAPublicKey} {aesDecrypt : Bytes → Bytes → Bytes}
    {decryptKey : Bytes → Option Bytes}
    (haes : ∀ key, key.length = 32 →
      BlockMode.Inverts Pkcs7.aesBlockSize (p.aesEncrypt key) (aesDecrypt key))
    (hissuer : cert.RawIssuer = issuer.encode) (hpub : cert.PublicKey = .rsa (some pub))
    (hdecrypts : Pkcs7.Decrypts decryptKey pub) {reader : p.Reader} {body : Bytes} {code : ℕ}
    {data : ThalesEncryptedCardResponse} (hlength : data.EncryptedCard.length < 2 ^ 63)
    (hwritten : .write (.success code data) ∈
      ((h.withCertificate reader (some cert)).ThalesEncryptedCard body).trace) :
    ∃ obj message envelope serialNumber, h.Requests body obj ∧
      Base64.decodeString data.EncryptedCard = .ok message ∧
        Pkcs7.readEnvelope message = some envelope ∧ cert.SerialNumber = some serialNumber ∧
          envelope.openWith aesDecrypt decryptKey cert.RawIssuer serialNumber = some obj := by
  obtain ⟨obj, hrequests, hencrypted⟩ := success_mem_thalesEncryptedCard hwritten
  obtain ⟨message, hmessage, hencrypted⟩ := bind_eq_ok.1 hencrypted
  have htext : Base64.encodeToString message = data.EncryptedCard := pure_eq_ok.1 hencrypted
  have hparsed : Pkcs7.Parsed [some cert] := by
    intro other hother
    cases List.mem_singleton.1 hother
    exact ⟨issuer, hissuer⟩
  have hidentified : Pkcs7.Identified [some cert] cert := by
    intro other hother _ _
    cases List.mem_singleton.1 hother
    rfl
  obtain ⟨envelope, key, hseals, rfl⟩ :=
    Pkcs7.encrypt_eq_ok hparsed (mapErr_eq_ok.1 hmessage)
  obtain ⟨serialNumber, hserial, hopen⟩ := hseals.openWith haes List.mem_cons_self hidentified
    hpub hdecrypts
  have hle := Base64.length_le_length_encodeToString envelope.element.encode
  rw [htext] at hle
  refine ⟨obj, envelope.element.encode, envelope, serialNumber, hrequests, ?_,
    Pkcs7.readEnvelope_encode (hle.trans_lt hlength), hserial, hopen⟩
  rw [← htext, Base64.decodeString_encodeToString]

theorem encrypt_one_eq_panic (hp : p.Returns) {reader : p.Reader} {content : Bytes}
    {cert : Option (Pkcs7.Certificate p)} :
    Pkcs7.Encrypt reader content [cert] = .panic ↔
      Pkcs7.Keyless cert ∧
        ∃ key iv, p.read 32 reader = .ok key ∧ p.read Pkcs7.aesBlockSize key.2 = .ok iv := by
  rw [Pkcs7.encrypt_eq_panic hp]
  constructor
  · rintro ⟨sealing, reader', hsealing, before, recipient, after, hsplit, hkeyless, -⟩
    have hcert : cert = recipient := by
      cases before with
      | nil => exact (List.cons.inj hsplit).1
      | cons first before =>
        exact absurd (List.cons.inj hsplit).2
          (List.append_ne_nil_of_right_ne_nil before (List.cons_ne_nil _ _)).symm
    exact ⟨hcert ▸ hkeyless, Pkcs7.encryptAESCBC_isOk.1 ⟨_, hsealing⟩⟩
  · rintro ⟨hkeyless, hread⟩
    obtain ⟨⟨sealing, reader'⟩, hsealing⟩ := Pkcs7.encryptAESCBC_isOk.2 hread
    exact ⟨sealing, reader', hsealing, [], cert, [], rfl, hkeyless, _, rfl⟩

/-- The handler panics for exactly the cards that could be encrypted, when the certificate has no
RSA key. -/
theorem encryptedCard_panics_iff
    (hdecode : ∀ body, h.decodeThalesEncryptedCardRequest body ≠ .panic)
    (hmarshal : ∀ message, h.marshalThales message ≠ .panic) (hp : p.Returns) {reader : p.Reader}
    {cert : Option (Pkcs7.Certificate p)} {body : Bytes} :
    ((h.withCertificate reader cert).ThalesEncryptedCard body).exit = .panicked ↔
      Pkcs7.Keyless cert ∧ (∃ obj, h.Requests body obj) ∧
        ∃ key iv, p.read 32 reader = .ok key ∧ p.read Pkcs7.aesBlockSize key.2 = .ok iv := by
  have hcms : ∀ obj, (h.withCertificate reader cert).EncryptCMS obj cert = .panic ↔
      Pkcs7.Encrypt reader obj [cert] = .panic := fun obj ↦
    (bind_eq_panic_iff_left fun _ _ ↦ pure_ne_panic _).trans (not_iff_not.1 mapErr_ne_panic)
  have hpanics := @panicked_thalesEncryptedCard _ _ (h.withCertificate reader cert) hdecode
    hmarshal body
  refine hpanics.trans ⟨?_, ?_⟩
  · rintro ⟨obj, hrequests, hpanic⟩
    obtain ⟨hkeyless, hread⟩ := (encrypt_one_eq_panic hp).1 ((hcms obj).1 hpanic)
    exact ⟨hkeyless, ⟨obj, hrequests⟩, hread⟩
  · rintro ⟨hkeyless, ⟨obj, hrequests⟩, hread⟩
    exact ⟨obj, hrequests, (hcms obj).2 ((encrypt_one_eq_panic hp).2 ⟨hkeyless, hread⟩)⟩

/-! ### A card -/

def thalesBody : Bytes := utf8 "\x7b\"card\": \"...\"\x7d"

def thalesRequest : ThalesEncryptedCardRequest where
  Card :=
    { PrimaryAccountNumber := "4111111111111111"
      PanExpirationMonth := 12
      PanExpirationYear := 2030 }
  CVV := ""

def thalesText : Bytes := utf8 "\x7b\"fpan\":\"4111111111111111\",\"exp\":\"1230\"\x7d"

/-- The handlers, with a decoder of one request and the text of its message. -/
def thalesHandlers : Handlers sealPrimitives Unit :=
  { sampleHandlers 2048 with
    decodeThalesEncryptedCardRequest := onInput thalesBody thalesRequest
    marshalThales := fun _ ↦ .ok thalesText }

theorem requests_thalesHandlers : thalesHandlers.Requests thalesBody thalesText :=
  ⟨thalesRequest, onInput_self thalesBody thalesRequest, rfl, rfl⟩

theorem encryptedCard_opens_witness : ∃ data message envelope,
    .write (.success StatusOK data) ∈
      ((thalesHandlers.withCertificate (p := Pkcs7.shiftPrimitives) (0 : ℕ)
        (some (Pkcs7.concreteCertificate 7 3))).ThalesEncryptedCard thalesBody).trace ∧
      Base64.decodeString data.EncryptedCard = .ok message ∧
        Pkcs7.readEnvelope message = some envelope ∧
          envelope.openWith
            (fun key block ↦ BlockMode.xorBytes block (key.take Pkcs7.aesBlockSize))
            (fun encrypted ↦ some (encrypted.map (· - 3)))
            (Pkcs7.concreteCertificate 7 3).RawIssuer 7 = some thalesText := by
  have hok : (match Pkcs7.Encrypt (p := Pkcs7.shiftPrimitives) (0 : ℕ) thalesText
        [some (Pkcs7.concreteCertificate 7 3)] with
      | .ok message => decide ((Base64.encodeToString message).length < 2 ^ 63)
      | _ => false) = true := by decide +kernel
  cases hencrypt : Pkcs7.Encrypt (p := Pkcs7.shiftPrimitives) (0 : ℕ) thalesText
      [some (Pkcs7.concreteCertificate 7 3)] with
  | ok message =>
    rw [hencrypt] at hok
    have hwritten : .write (.success StatusOK ⟨Base64.encodeToString message⟩) ∈
        ((thalesHandlers.withCertificate (p := Pkcs7.shiftPrimitives) (0 : ℕ)
          (some (Pkcs7.concreteCertificate 7 3))).ThalesEncryptedCard thalesBody).trace :=
      success_of_requests requests_thalesHandlers hencrypt
    obtain ⟨obj, message', envelope, serialNumber, hrequests, hdecode, hread, hserial, hopen⟩ :=
      encryptedCard_opens (fun _ hkey ↦ Pkcs7.inverts_shiftPrimitives hkey) rfl rfl
        (Pkcs7.decrypts_shiftPrimitives 3) (of_decide_eq_true hok) hwritten
    obtain ⟨_, _, _, hobj⟩ := hrequests
    cases hserial
    cases hobj
    exact ⟨_, message', envelope, hwritten, hdecode, hread, hopen⟩
  | err error =>
    rw [hencrypt] at hok
    exact absurd hok Bool.false_ne_true
  | panic =>
    rw [hencrypt] at hok
    exact absurd hok Bool.false_ne_true

theorem encryptedCard_panics_iff_witness :
    ((thalesHandlers.withCertificate (p := Pkcs7.shiftPrimitives) (0 : ℕ)
      (some ⟨[], some 1, .other⟩)).ThalesEncryptedCard thalesBody).exit = .panicked := by
  refine (encryptedCard_panics_iff (h := thalesHandlers) (p := Pkcs7.shiftPrimitives)
    (onInput_ne_panic _ _) (fun _ ↦ pure_ne_panic _)
    ⟨fun _ _ ↦ pure_ne_panic _, fun _ _ _ ↦ pure_ne_panic _⟩).2
      ⟨fun cert hcert ↦ ?_, ⟨_, requests_thalesHandlers⟩, _, _, rfl, rfl⟩
  cases hcert
  rfl

end YandexPay.Server
