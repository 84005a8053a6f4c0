import YandexPay.Server.OneResponse

/-!
# Enrolment of encrypted cards

`MastercardEnrollCard` enrols what `EncryptCard` returns without an error. `encryptCard_loud_iff`
says for which cards and keys that is the encrypted card: for those on which none of the two steps
fails whose error is dropped.
-/

set_option autoImplicit false
set_option relaxedAutoImplicit false

namespace YandexPay.Server

open Outcome HttpHandler PaymentToken

variable {s : SenderPrimitives} {MaskedCard ρ : Type} {h : Handlers s MaskedCard} {body : Bytes}

/-- The handler comes to enrol a card when its checks pass and `EncryptCard` gives no error. -/
theorem exit_mastercardEnrollRequest {enrollReq : Mastercard.EnrollCardRequest} :
    (h.mastercardEnrollRequest body : Handling (Document ρ) _).exit = .next enrollReq ↔
      ∃ reqData encryptedCard, h.decodeMastercardEnrollRequest body = .ok reqData ∧
        reqData.Valid ∧ h.mastercardClient.EncryptCard reqData.Card = .ok encryptedCard ∧
        enrollReq = reqData.enrollReq encryptedCard := by
  rw [Handlers.mastercardEnrollRequest]
  simp only [Handling.exit_orReturn, Handling.exit_checkOrReturn, decide_eq_true_eq]
  constructor
  · rintro ⟨reqData, hreqData, hsource, haccount, u, hcard, encryptedCard, hencrypted, hnext⟩
    refine ⟨reqData, encryptedCard, hreqData, ⟨hsource, haccount, hcard⟩, hencrypted, ?_⟩
    exact (Exit.next.inj hnext).symm
  · rintro ⟨reqData, encryptedCard, hreqData, hvalid, hencrypted, rfl⟩
    exact ⟨reqData, hreqData, hvalid.cardSource, hvalid.accountID, (), hvalid.card, encryptedCard,
      hencrypted, rfl⟩

/-- What `MastercardEnrollCard` enrols for a request is its card, encrypted. -/
def Handlers.EnrolsEncrypted (h : Handlers s MaskedCard) (body : Bytes) : Prop :=
  ∀ enrollReq,
    (h.mastercardEnrollRequest body :
      Handling (Document (Mastercard.EnrollCardResponse MaskedCard)) _).exit = .next enrollReq →
    enrollReq.EncryptedCard ≠ [] ∧ ∃ reqData, h.decodeMastercardEnrollRequest body = .ok reqData ∧
      h.mastercardClient.Encrypts reqData.Card enrollReq.EncryptedCard

/-- Assumes that `go-jose` decrypts what it has encrypted. For every card and key set failures are
told from encrypted cards exactly when none is swallowed, and for every request the handler enrols
an encrypted card exactly when none is swallowed for the card of the request. -/
theorem encryptCard_loud_iff (h : Handlers s MaskedCard)
    (hjose : h.mastercardClient.jose.Correct) :
    (∀ card, h.mastercardClient.FailsLoudly card ↔ ¬ h.mastercardClient.Swallows card) ∧
    ∀ body, h.EnrolsEncrypted body ↔
      ∀ reqData, h.decodeMastercardEnrollRequest body = .ok reqData → reqData.Valid →
        ¬ h.mastercardClient.Swallows reqData.Card := by
  refine ⟨fun card ↦ Mastercard.Client.failsLoudly_iff hjose, fun body ↦ ⟨?_, ?_⟩⟩
  · intro henrols reqData hreqData hvalid hswallows
    have hempty : h.mastercardClient.EncryptCard reqData.Card = .ok [] :=
      Mastercard.Client.encryptCard_eq_ok.mpr (.inl ⟨hswallows, rfl⟩)
    have henrolled := henrols (reqData.enrollReq []) (exit_mastercardEnrollRequest.mpr
      ⟨reqData, [], hreqData, hvalid, hempty, rfl⟩)
    exact henrolled.1 rfl
  · intro hloud enrollReq hexit
    obtain ⟨reqData, encryptedCard, hreqData, hvalid, hencrypted, rfl⟩ :=
      exit_mastercardEnrollRequest.mp hexit
    have hfails := (Mastercard.Client.failsLoudly_iff hjose).mpr (hloud reqData hreqData hvalid)
    have hencrypts := hfails.encrypts encryptedCard hencrypted
    exact ⟨hencrypts.ne_nil hjose, reqData, hreqData, hencrypts⟩

/-! ### A key that is too small -/

theorem sampleEncrypt_eq_ok {bits : ℕ} {plaintext obj : Bytes}
    (h : sampleEncrypt bits plaintext = .ok obj) : plaintext = cardText ∧ cardJwe = obj := by
  rw [sampleEncrypt] at h
  split_ifs at h
  exact onInput_eq_ok h

theorem sampleJose_correct : sampleJose.Correct where
  decrypt_encrypt := fun key enc plaintext obj jwe _ hencrypt hserialize ↦ by
    obtain ⟨rfl, rfl⟩ := sampleEncrypt_eq_ok hencrypt
    rw [← Outcome.ok.inj hserialize]
    exact onInput_self cardJwe cardText
  decrypt_nil := fun key plaintext hdecrypt ↦ by
    have hne : ([] : Bytes) ≠ cardJwe := by decide +kernel
    have hinput : onInput cardJwe cardText [] = .ok plaintext := hdecrypt
    exact hne (onInput_eq_ok hinput).1

theorem getFPANEncryptionKey_sampleClient (bits : ℕ) :
    Mastercard.getFPANEncryptionKey (sampleClient bits).publicKeys =
      .ok ⟨utf8 "149123-src-fpan-encryption", bits⟩ := by
  have hsplit : Mastercard.splitN2 45 (utf8 "149123-src-fpan-encryption") =
      some (utf8 "149123", utf8 "src-fpan-encryption") := by decide +kernel
  rw [Mastercard.getFPANEncryptionKey, bind_eq_ok]
  refine ⟨_, rfl, ofOption_eq_ok.mpr (List.find?_cons_of_pos ?_)⟩
  rw [hsplit]
  exact decide_eq_true rfl

/-- A card is swallowed when the key is too small for its content key. -/
theorem swallows_sampleClient {bits : ℕ} (hbits : bits < 656) :
    (sampleClient bits).Swallows sampleCard := by
  refine ⟨_, bits, getFPANEncryptionKey_sampleClient bits, rfl, .inr ⟨cardText,
    .library "crypto/rsa: message too long for RSA public key size", ?_, if_pos hbits⟩⟩
  exact onInput_self sampleCard cardText

theorem not_swallows_sampleClient {bits : ℕ} (hbits : 656 ≤ bits) :
    ¬ (sampleClient bits).Swallows sampleCard := by
  rintro ⟨key, enc, hkey, henc, ⟨error, hmarshal⟩ | ⟨plaintext, error, hmarshal, hencrypt⟩⟩
  · exact nomatch hmarshal.symm.trans (onInput_self sampleCard cardText)
  · obtain rfl := Outcome.ok.inj ((getFPANEncryptionKey_sampleClient bits).symm.trans hkey)
    obtain rfl := Outcome.ok.inj henc
    obtain rfl := Outcome.ok.inj ((onInput_self sampleCard cardText).symm.trans hmarshal)
    have hfits : sampleEncrypt bits cardText = .ok cardJwe :=
      (if_neg (not_lt.mpr hbits)).trans (onInput_self cardText cardJwe)
    exact nomatch hfits.symm.trans hencrypt

theorem enrollData_valid : enrollData.Valid := by
  refine ⟨?_, ?_, rfl⟩ <;> decide

/-- A key of 2048 bits. -/
theorem encryptCard_loud_iff_witness :
    (sampleHandlers 2048).mastercardClient.FailsLoudly sampleCard ∧
      (sampleHandlers 2048).EnrolsEncrypted enrollBody := by
  obtain ⟨hloud, henrols⟩ := encryptCard_loud_iff (sampleHandlers 2048) sampleJose_correct
  refine ⟨(hloud sampleCard).mpr (not_swallows_sampleClient (by decide)), ?_⟩
  refine (henrols enrollBody).mpr fun reqData hreqData _ ↦ ?_
  obtain rfl := Outcome.ok.inj ((onInput_self enrollBody enrollData).symm.trans hreqData)
  exact not_swallows_sampleClient (by decide)

/-- A key of 512 bits: the text is empty, the error is nil, and the handler enrols it. -/
theorem smallKey_enrolled :
    (sampleHandlers 512).mastercardClient.EncryptCard sampleCard = .ok [] ∧
      ¬ (sampleHandlers 512).mastercardClient.FailsLoudly sampleCard ∧
      (∃ enrollReq, ((sampleHandlers 512).mastercardEnrollRequest enrollBody :
        Handling (Document (Mastercard.EnrollCardResponse Unit)) _).exit = .next enrollReq ∧
        enrollReq.EncryptedCard = []) := by
  have hswallows : (sampleClient 512).Swallows sampleCard := swallows_sampleClient (by decide)
  have hempty : (sampleClient 512).EncryptCard sampleCard = .ok [] :=
    Mastercard.Client.encryptCard_eq_ok.mpr (.inl ⟨hswallows, rfl⟩)
  refine ⟨hempty, fun hloud ↦ ?_, enrollData.enrollReq [], ?_, rfl⟩
  · exact (Mastercard.Client.failsLoudly_iff sampleJose_correct).mp hloud hswallows
  · exact exit_mastercardEnrollRequest.mpr ⟨enrollData, [], onInput_self enrollBody enrollData,
      enrollData_valid, hempty, rfl⟩

end YandexPay.Server
