import YandexPay.Library.PrefixCode
import YandexPay.PaymentToken.Recipient
import YandexPay.PaymentToken.Sender

/-!
# What is signed

Certificates and tokens are signed over their parts, each after its length. The lengths make the
parts unambiguous (`toLengthValue_injOn`), so the three parts of a certificate are never the bytes
of the four parts of a token, and a signature of one is not a signature over the bytes of the other.
-/

set_option autoImplicit false
set_option relaxedAutoImplicit false

namespace YandexPay.PaymentToken

open Outcome

/-- Parts whose lengths fit 32 bits. -/
def Short (args : List Bytes) : Prop := ∀ arg ∈ args, arg.length < 2 ^ 32

/-- The bytes that the signatures of a certificate are computed over. -/
def SignedAsCertificate (data : Bytes) : Prop :=
  ∃ senderID protocolVersion signedKey, Short [senderID, protocolVersion, signedKey] ∧
    data = toLengthValue [senderID, protocolVersion, signedKey]

/-- The bytes that the signature of a token is computed over. -/
def SignedAsToken (data : Bytes) : Prop :=
  ∃ senderID recipientID protocolVersion message,
    Short [senderID, recipientID, protocolVersion, message] ∧
      data = toLengthValue [senderID, recipientID, protocolVersion, message]

theorem lengthBytes_injOn : Set.InjOn lengthBytes {n | n < 2 ^ 32} := by
  intro m hm n hn heq
  rw [Set.mem_ofPred_eq] at hm hn
  simp only [lengthBytes, List.cons.injEq, ← UInt8.toNat_inj, UInt8.toNat_ofNat', and_true] at heq
  omega

theorem selfDelimiting_lengthValue :
    SelfDelimiting (fun arg : Bytes ↦ lengthBytes arg.length ++ arg)
      {arg | arg.length ∈ {n | n < 2 ^ 32}} :=
  SelfDelimiting.ofLength (by decide : 0 < 4) (fun _ ↦ rfl) lengthBytes_injOn

/-- Parts are determined by their bytes, and so is their number. -/
theorem toLengthValue_inj {args args' : List Bytes} (hargs : Short args) (hargs' : Short args')
    (heq : toLengthValue args = toLengthValue args') : args = args' :=
  selfDelimiting_lengthValue.flatMap_injOn hargs hargs' heq

/-! ### What the code signs and verifies -/

section Signing

variable {s : SenderPrimitives}

theorem createIntermediateSigningCert_signs {f : IntermediateSigningCertFactory s}
    {random : ℕ → s.Random} {cert : IntermediateSigningCert}
    (h : f.CreateIntermediateSigningCert random = .ok cert)
    (hshort : Short [f.senderID, f.protocolVersion, cert.signedKey]) :
    ∃ data, SignedAsCertificate data ∧ signAll data f.signers random = .ok cert.signatures := by
  simp only [IntermediateSigningCertFactory.CreateIntermediateSigningCert, bind_eq_ok,
    pure_eq_ok] at h
  obtain ⟨signedKey, -, signatures, hsigned, rfl⟩ := h
  exact ⟨_, ⟨_, _, _, hshort, rfl⟩, hsigned⟩

theorem signV1OrV2_signs {ts : Sender s} {random : s.Random} {recipientID message : Bytes}
    {token : Token} (h : ts.signV1OrV2 random recipientID message = .ok token)
    (hshort : Short [ts.senderID, recipientID, ts.pvc.protocolVersion, message]) :
    ∃ data signature, SignedAsToken data ∧ ts.signer random data = .ok signature ∧
      token.signature = Base64.encodeToString signature := by
  simp only [Sender.signV1OrV2, bind_eq_ok, pure_eq_ok] at h
  obtain ⟨signature, hsigned, rfl⟩ := h
  exact ⟨_, signature, ⟨_, _, _, _, hshort, rfl⟩, hsigned, rfl⟩

end Signing

/-- The signature of an authentic token verifies over the bytes of a token, and a signature of its
certificate over those of a certificate. -/
theorem Authentic.verifies {p : Primitives} {r : Recipient p} {now : ℤ} {token : Token}
    {message : Bytes} (h : Authentic r now token message)
    (hids : Short [r.senderID, r.recipientID, ProtocolVersionECv2, token.signedMessage])
    (hcert : ∀ cert, token.intermediateSigningCert = some cert → Short [cert.signedKey]) :
    ∃ signingKey rootKey cert signature, token.intermediateSigningCert = some cert ∧
      signature ∈ cert.signatures ∧
      (∃ data, SignedAsToken data ∧ Verifies p (some signingKey) token.signature data) ∧
      ∃ data, SignedAsCertificate data ∧ Verifies p rootKey signature data := by
  obtain ⟨cert, keyset, signingKey, htoken, -, hcertifies, hverifies⟩ := h.sender
  obtain ⟨key, -, -, signature, hmem, hroot⟩ := hcertifies.root
  refine ⟨signingKey, key.publicKey, cert, signature, htoken, hmem,
    ⟨_, ⟨_, _, _, _, hids, rfl⟩, hverifies⟩, _, ⟨_, _, _, ?_, rfl⟩, hroot⟩
  have hsignedKey := hcert cert htoken
  simp only [Short, List.forall_mem_cons] at hids hsignedKey ⊢
  exact ⟨hids.1, hids.2.2.1, hsignedKey⟩

/-- Length-value encoding is unambiguous, so certificates and tokens have different signed bytes. -/
theorem toLengthValue_unambiguous :
    (∀ args args', Short args → Short args' → toLengthValue args = toLengthValue args' →
      args = args') ∧
    ∀ data, SignedAsCertificate data → ¬SignedAsToken data := by
  refine ⟨fun args args' ↦ toLengthValue_inj, ?_⟩
  rintro data ⟨senderID, protocolVersion, signedKey, hshort, rfl⟩
    ⟨senderID', recipientID, protocolVersion', message, hshort', heq⟩
  have hlength := congrArg List.length (toLengthValue_inj hshort hshort' heq)
  cases hlength

end YandexPay.PaymentToken
