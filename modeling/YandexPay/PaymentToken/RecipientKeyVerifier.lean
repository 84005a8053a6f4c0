import YandexPay.PaymentToken.Recipient

/-!
# Verification of recipient keys

`recipient_key_verifier.go` of `duckgo/paymenttoken`. A recipient key comes with a detached
signature, which one of the configured verification keys has to verify. `Verify` decides by the
error that its loop over the keys leaves behind; without keys that is the error of the step before
the loop, so every signature that parses is accepted.
-/

set_option autoImplicit false
set_option relaxedAutoImplicit false

namespace YandexPay.PaymentToken

open Outcome

/-- The functions of `go-jose` on signatures. -/
structure Jose (κ : Type) where
  JSONWebSignature : Type
  /-- `jose.ParseDetached`, of a signature and the payload it stands for. -/
  parseDetached : Bytes → Bytes → Outcome JSONWebSignature
  /-- `JSONWebSignature.Verify`; the payload that it returns is not used. -/
  verify : JSONWebSignature → Option κ → Outcome Unit

/-- `RecipientKeyVerifier`, as `NewRecipientKeyVerifier` makes it of a list of keys. -/
structure RecipientKeyVerifier (p : Primitives) where
  verificationKeys : List (Option p.PublicKey)

/-- The loop over the keys, from the value of the variable `err` before it to the value after it. -/
def verifyKeys {κ : Type} (verify : Option κ → Outcome Unit) (err : Option GoError) :
    List (Option κ) → Outcome (Option GoError)
  | [] => return err
  | key :: keys =>
    match verify key with
    | .ok _ => return none
    | .err e => verifyKeys verify (some e) keys
    | .panic => .panic

namespace RecipientKeyVerifier

variable {p : Primitives} (jose : Jose p.PublicKey) (r : RecipientKeyVerifier p)

/-- `RecipientKeyVerifier.verify` -/
def verify (payload signature : Bytes) : Outcome Unit := do
  require (signature ≠ []) (.errorf "paymenttoken: recipient key verifier: empty signature" [])
  let jws ← mapErr
    (fun e ↦ .errorsf "paymenttoken: recipient key verifier: can't parse signature: %w" [e])
    (jose.parseDetached signature payload)
  match ← verifyKeys (jose.verify jws) none r.verificationKeys with
  | none => return ()
  | some e =>
    .err (.errorsf "paymenttoken: recipient key verifier: can't verify signature: %w" [e])

/-- `RecipientKeyVerifier.Verify` -/
def Verify (pubKey signature : Bytes) : Outcome p.PublicKey := do
  let derBytes ← Base64.decodeString pubKey
  r.verify jose derBytes signature
  parseECPublicKey p derBytes

end RecipientKeyVerifier

/-! ### The loop -/

/-- No error is left when a key verifies, or when there was none and there is no key. -/
theorem verifyKeys_eq_none {κ : Type} {verify : Option κ → Outcome Unit} {err : Option GoError}
    {keys : List (Option κ)} (h : verifyKeys verify err keys = .ok none) :
    (∃ key ∈ keys, verify key = .ok ()) ∨ (keys = [] ∧ err = none) := by
  induction keys generalizing err with
  | nil => exact Or.inr ⟨rfl, pure_eq_ok.mp h⟩
  | cons key keys ih =>
    rw [verifyKeys] at h
    cases hverify : verify key with
    | ok u => exact Or.inl ⟨key, List.mem_cons_self, hverify⟩
    | err e =>
      rw [hverify] at h
      rcases ih h with ⟨other, hmem, hother⟩ | ⟨-, herr⟩
      · exact Or.inl ⟨other, List.mem_cons_of_mem _ hmem, hother⟩
      · cases herr
    | panic =>
      rw [hverify] at h
      cases h

namespace RecipientKeyVerifier

variable {p : Primitives}

/-- A configured key verifies the signature over the decoded bytes. -/
structure Verified (jose : Jose p.PublicKey) (r : RecipientKeyVerifier p)
    (pubKey signature : Bytes) : Prop where
  accepted : ∃ derBytes jws key, Base64.decodeString pubKey = .ok derBytes ∧
    jose.parseDetached signature derBytes = .ok jws ∧ key ∈ r.verificationKeys ∧
    jose.verify jws key = .ok ()

/-- The public key and the signature are well formed, whoever made the signature. -/
structure WellFormed (jose : Jose p.PublicKey) (pubKey signature : Bytes) : Prop where
  signature_ne : signature ≠ []
  parses : ∃ derBytes jws key, Base64.decodeString pubKey = .ok derBytes ∧
    jose.parseDetached signature derBytes = .ok jws ∧ parseECPublicKey p derBytes = .ok key

theorem Verify_ok {jose : Jose p.PublicKey} {r : RecipientKeyVerifier p}
    {pubKey signature : Bytes} {key : p.PublicKey} (h : r.Verify jose pubKey signature = .ok key) :
    Verified jose r pubKey signature ∨
      (r.verificationKeys = [] ∧ WellFormed jose pubKey signature) := by
  simp only [Verify, verify, bind_eq_ok, require_eq_ok, mapErr_eq_ok, decide_eq_true_eq] at h
  obtain ⟨derBytes, hdecode, u, ⟨v, hsignature, jws, hparse, err, hkeys, herr⟩, hkey⟩ := h
  cases err with
  | some e => cases herr
  | none =>
    rcases verifyKeys_eq_none hkeys with ⟨verifier, hmem, hverify⟩ | ⟨hempty, -⟩
    · exact Or.inl ⟨derBytes, jws, verifier, hdecode, hparse, hmem, hverify⟩
    · exact Or.inr ⟨hempty, hsignature, derBytes, jws, key, hdecode, hparse, hkey⟩

/-- Without keys, well-formed input is accepted. -/
theorem Verify_of_no_keys {jose : Jose p.PublicKey} {r : RecipientKeyVerifier p}
    {pubKey signature : Bytes} (hkeys : r.verificationKeys = [])
    (h : WellFormed jose pubKey signature) : ∃ key, r.Verify jose pubKey signature = .ok key := by
  obtain ⟨hsignature, derBytes, jws, key, hdecode, hparse, hkey⟩ := h
  refine ⟨key, ?_⟩
  have hverify : r.verify jose derBytes signature = .ok () := by
    simp only [verify, bind_eq_ok, require_eq_ok, mapErr_eq_ok, decide_eq_true_eq]
    refine ⟨(), hsignature, jws, hparse, none, ?_, rfl⟩
    rw [hkeys]
    rfl
  rw [Verify, bind_eq_ok]
  refine ⟨derBytes, hdecode, ?_⟩
  rw [bind_eq_ok]
  exact ⟨(), hverify, hkey⟩

/-- A key is accepted without any verification exactly when there is no verification key and the
input is well formed. -/
theorem verify_sound_iff (p : Primitives) (jose : Jose p.PublicKey) (r : RecipientKeyVerifier p)
    (pubKey signature : Bytes) :
    (∀ key, r.Verify jose pubKey signature = .ok key → Verified jose r pubKey signature) ↔
      ¬ (r.verificationKeys = [] ∧ WellFormed jose pubKey signature) := by
  constructor
  · rintro hsound ⟨hkeys, hwell⟩
    obtain ⟨key, hkey⟩ := Verify_of_no_keys hkeys hwell
    obtain ⟨-, -, verifier, -, -, hmem, -⟩ := hsound key hkey
    rw [hkeys] at hmem
    exact List.not_mem_nil hmem
  · intro hcondition key hkey
    rcases Verify_ok hkey with hverified | hunverified
    · exact hverified
    · exact absurd hunverified hcondition

/-! ### A verifier without keys -/

/-- A detached signature with the header of `ES256` that no key has made. -/
def forgedSignature : Bytes := utf8 "eyJhbGciOiJFUzI1NiJ9..c2ln"

/-- Signatures are their text, and no key verifies any. -/
def forgedJose : Jose concretePrimitives.PublicKey where
  JSONWebSignature := Bytes
  parseDetached := fun signature _ ↦ onInput forgedSignature forgedSignature signature
  verify := fun _ _ ↦ .err (.library "square/go-jose: error in cryptographic primitive")

def keylessVerifier : RecipientKeyVerifier concretePrimitives := ⟨[]⟩

/-- The key of an attacker is returned as verified. -/
theorem unverified_key_accepted :
    ∃ key, keylessVerifier.Verify forgedJose signingKey forgedSignature = .ok key ∧
      ¬ Verified forgedJose keylessVerifier signingKey forgedSignature := by
  have hdecode : Base64.decodeString signingKey = .ok (fromBase64 signingKey) := by
    decide +kernel
  have hparse : forgedJose.parseDetached forgedSignature (fromBase64 signingKey) =
      .ok forgedSignature := onInput_self forgedSignature forgedSignature
  have hkey : parseECPublicKey concretePrimitives (fromBase64 signingKey) =
      .ok (fromBase64 signingKey) :=
    bind_eq_ok.mpr
      ⟨.ecdsa (fromBase64 signingKey), onInput_self (fromBase64 signingKey) _, rfl⟩
  have hwell : WellFormed forgedJose signingKey forgedSignature :=
    ⟨by decide, _, _, _, hdecode, hparse, hkey⟩
  obtain ⟨key, hkey⟩ := Verify_of_no_keys (r := keylessVerifier) rfl hwell
  refine ⟨key, hkey, ?_⟩
  rintro ⟨-, -, verifier, -, -, hmem, -⟩
  exact List.not_mem_nil hmem

end RecipientKeyVerifier

end YandexPay.PaymentToken
