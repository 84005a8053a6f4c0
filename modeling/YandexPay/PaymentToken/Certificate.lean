import YandexPay.PaymentToken.Token

/-!
# Root keys and intermediate certificates

`verifying_keys.go` and `intermediate_signing_cert.go`. `Verifies` says that a base64 signature is
one of a key over some bytes, and `Certifies` that a certificate gives a signing key: a root key of
the protocol version has signed it, and the signing key in it has not expired.
`validateAndGetSigningKey_ok` shows that only such certificates are accepted.
-/

set_option autoImplicit false
set_option relaxedAutoImplicit false

namespace YandexPay.PaymentToken

open Outcome

variable (p : Primitives)

/-! ### Root keys -/

/-- A root key; the expiration time is in nanoseconds. -/
structure SenderVerifyingKey where
  protocolVersion : ProtocolVersion
  publicKey : Option p.PublicKey
  expirationTime : ℤ

structure SenderVerifyingKeySet where
  keys : List (Option (SenderVerifyingKey p))

/-- `parseTimestampInMilliseconds`; the product wraps around at 64 bits. -/
def parseTimestampInMilliseconds (s : Bytes) : Outcome ℤ := do
  let ts ← ofOption (.numError s) (parseInt s)
  return (ts * 1000000).bmod (2 ^ 64)

def parseVerifyingKey (key : ParsedVerifyingKey) : Outcome (SenderVerifyingKey p) := do
  let expireTime ← parseTimestampInMilliseconds key.keyExpiration
  let publicKey ← parseB64ECPublicKey p key.keyValue
  return ⟨key.protocolVersion, some publicKey, expireTime⟩

/-- The loop of `ParseSenderVerifyingKeys`, which leaves out expired keys. -/
def parseVerifyingKeys (now : ℤ) :
    List ParsedVerifyingKey → Outcome (List (Option (SenderVerifyingKey p)))
  | [] => return []
  | parsed :: rest => do
    let key ← parseVerifyingKey p parsed
    let keys ← parseVerifyingKeys now rest
    return if key.expirationTime < now then keys else some key :: keys

def ParseSenderVerifyingKeys (now : ℤ) (data : Bytes) : Outcome (SenderVerifyingKeySet p) := do
  let parsed ← deref (← p.unmarshalVerifyingKeySet data)
  return ⟨← parseVerifyingKeys p now parsed⟩

variable {p}

/-- The loop of `SenderVerifyingKeySet.Get`. -/
def getKeys (protocolVersion : ProtocolVersion) :
    List (Option (SenderVerifyingKey p)) → Outcome (List (Option p.PublicKey))
  | [] => return []
  | pointer :: rest => do
    let key ← deref pointer
    let keys ← getKeys protocolVersion rest
    return if key.protocolVersion ≠ protocolVersion then keys else key.publicKey :: keys

/-- `SenderVerifyingKeySet.Get` -/
def SenderVerifyingKeySet.get (h : Option (SenderVerifyingKeySet p))
    (protocolVersion : ProtocolVersion) : Outcome (List (Option p.PublicKey)) := do
  let h ← deref h
  getKeys protocolVersion h.keys

theorem getKeys_ok {version : ProtocolVersion} {pointers : List (Option (SenderVerifyingKey p))}
    {keys : List (Option p.PublicKey)} (h : getKeys version pointers = .ok keys) :
    ∀ publicKey ∈ keys, ∃ key, some key ∈ pointers ∧ key.protocolVersion = version ∧
      key.publicKey = publicKey := by
  induction pointers generalizing keys with
  | nil =>
    obtain rfl := pure_eq_ok.mp h
    exact fun publicKey hmem ↦ absurd hmem List.not_mem_nil
  | cons pointer rest ih =>
    simp only [getKeys, bind_eq_ok, deref_eq_ok, pure_eq_ok] at h
    obtain ⟨key, rfl, others, hrest, rfl⟩ := h
    have hothers : ∀ publicKey ∈ others, ∃ k, some k ∈ some key :: rest ∧
        k.protocolVersion = version ∧ k.publicKey = publicKey := by
      intro publicKey hmem
      obtain ⟨k, hk, hversion, hkey⟩ := ih hrest publicKey hmem
      exact ⟨k, List.mem_cons_of_mem _ hk, hversion, hkey⟩
    intro publicKey hmem
    split_ifs at hmem with hversion
    · exact hothers publicKey hmem
    · rcases List.mem_cons.mp hmem with rfl | hmem
      · exact ⟨key, List.mem_cons_self, not_not.mp hversion, rfl⟩
      · exact hothers publicKey hmem

/-! ### Signatures -/

/-- A base64 signature that a key verifies over the bytes. -/
structure Verifies (p : Primitives) (publicKey : Option p.PublicKey)
    (signature signedBytes : Bytes) : Prop where
  accepted : ∃ decoded verifier, Base64.decodeString signature = .ok decoded ∧
    p.newECDSAVerifier hashAlgoSHA256 encodingDER publicKey = .ok verifier ∧
    verifier decoded signedBytes = .ok ()

theorem verifyAny_ok {verifier : Bytes → Bytes → Outcome Unit} {signedBytes : Bytes}
    {signatures : List Bytes} (h : verifyAny verifier signedBytes signatures = .ok true) :
    ∃ signature ∈ signatures, verifier signature signedBytes = .ok () := by
  induction signatures with
  | nil => cases h
  | cons signature signatures ih =>
    rw [verifyAny] at h
    cases hverify : verifier signature signedBytes with
    | ok u => exact ⟨signature, List.mem_cons_self, hverify⟩
    | err e =>
      rw [hverify] at h
      obtain ⟨other, hmem, hother⟩ := ih h
      exact ⟨other, List.mem_cons_of_mem _ hmem, hother⟩
    | panic =>
      rw [hverify] at h
      cases h

/-- Some key accepts some signature. -/
theorem verifySignatures_ok {pubKeys : List (Option p.PublicKey)} {signatures : List Bytes}
    {signedBytes : Bytes} {u : Unit}
    (h : verifySignatures p pubKeys signatures signedBytes = .ok u) :
    ∃ pubKey ∈ pubKeys, ∃ verifier, p.newECDSAVerifier hashAlgoSHA256 encodingDER pubKey =
        .ok verifier ∧ ∃ signature ∈ signatures, verifier signature signedBytes = .ok () := by
  induction pubKeys with
  | nil => cases h
  | cons pubKey pubKeys ih =>
    simp only [verifySignatures, bind_eq_ok] at h
    obtain ⟨verifier, hverifier, accepted, hany, h⟩ := h
    cases accepted with
    | true =>
      exact ⟨pubKey, List.mem_cons_self, verifier, hverifier, verifyAny_ok hany⟩
    | false =>
      obtain ⟨other, hmem, hother⟩ := ih h
      exact ⟨other, List.mem_cons_of_mem _ hmem, hother⟩

/-! ### Intermediate certificates -/

/-- The decoding loop of `validateAndGetSigningKey`. -/
def decodeSignatures : List Bytes → Outcome (List Bytes)
  | [] => return []
  | signature :: signatures => do
    let decoded ← Base64.decodeString signature
    return decoded :: (← decodeSignatures signatures)

theorem decodeSignatures_ok {signatures decoded : List Bytes}
    (h : decodeSignatures signatures = .ok decoded) :
    ∀ d ∈ decoded, ∃ signature ∈ signatures, Base64.decodeString signature = .ok d := by
  induction signatures generalizing decoded with
  | nil =>
    obtain rfl := pure_eq_ok.mp h
    exact fun d hd ↦ absurd hd List.not_mem_nil
  | cons signature signatures ih =>
    simp only [decodeSignatures, bind_eq_ok, pure_eq_ok] at h
    obtain ⟨first, hfirst, rest, hrest, rfl⟩ := h
    intro d hd
    rcases List.mem_cons.mp hd with rfl | hd
    · exact ⟨signature, List.mem_cons_self, hfirst⟩
    · obtain ⟨other, hmem, hother⟩ := ih hrest d hd
      exact ⟨other, List.mem_cons_of_mem _ hmem, hother⟩

/-- `IntermediateSigningCert.validateAndGetSigningKey` -/
def validateAndGetSigningKey (p : Primitives) (now : ℤ) (cert : Option IntermediateSigningCert)
    (senderID : Bytes) (protocolVersion : ProtocolVersion)
    (verifyingKeys : Option (SenderVerifyingKeySet p)) : Outcome p.PublicKey := do
  let cert ← deref cert
  cert.validate
  let signatures ← decodeSignatures cert.signatures
  let signedBytes := toLengthValue [senderID, protocolVersion, cert.signedKey]
  let pubKeys ← SenderVerifyingKeySet.get verifyingKeys protocolVersion
  verifySignatures p pubKeys signatures signedBytes
  let signedKey ← p.unmarshalSignedKey cert.signedKey
  signedKey.validate now
  parseB64ECPublicKey p signedKey.keyValue

/-- A certificate of a signing key. -/
structure Certifies (p : Primitives) (now : ℤ) (cert : IntermediateSigningCert) (senderID : Bytes)
    (protocolVersion : ProtocolVersion) (keyset : SenderVerifyingKeySet p)
    (signingKey : p.PublicKey) : Prop where
  root : ∃ key, some key ∈ keyset.keys ∧ key.protocolVersion = protocolVersion ∧
    ∃ signature ∈ cert.signatures, Verifies p key.publicKey signature
      (toLengthValue [senderID, protocolVersion, cert.signedKey])
  signedKey : ∃ signedKey expiration, p.unmarshalSignedKey cert.signedKey = .ok signedKey ∧
    parseInt signedKey.keyExpiration = some expiration ∧ now < expiration * 1000000 ∧
    parseB64ECPublicKey p signedKey.keyValue = .ok signingKey

theorem validateAndGetSigningKey_ok {now : ℤ} {cert : Option IntermediateSigningCert}
    {senderID : Bytes} {protocolVersion : ProtocolVersion}
    {verifyingKeys : Option (SenderVerifyingKeySet p)} {signingKey : p.PublicKey}
    (h : validateAndGetSigningKey p now cert senderID protocolVersion verifyingKeys =
      .ok signingKey) :
    ∃ c keyset, cert = some c ∧ verifyingKeys = some keyset ∧
      Certifies p now c senderID protocolVersion keyset signingKey := by
  simp only [validateAndGetSigningKey, SenderVerifyingKeySet.get, bind_eq_ok, deref_eq_ok] at h
  obtain ⟨c, rfl, -, -, signatures, hsignatures, pubKeys, ⟨keyset, rfl, hkeys⟩, u,
    hverify, signedKey, hsignedKey, v, hvalid, hkey⟩ := h
  obtain ⟨pubKey, hpubKey, verifier, hverifier, decoded, hdecoded, haccepted⟩ :=
    verifySignatures_ok hverify
  obtain ⟨key, hmem, hversion, rfl⟩ := getKeys_ok hkeys pubKey hpubKey
  obtain ⟨signature, hsignature, hdecode⟩ := decodeSignatures_ok hsignatures decoded hdecoded
  obtain ⟨expiration, hexpiration, hnow⟩ := SignedKey.validate_ok hvalid
  exact ⟨c, keyset, rfl, rfl,
    ⟨key, hmem, hversion, signature, hsignature,
      ⟨decoded, verifier, hdecode, hverifier, haccepted⟩⟩,
    signedKey, expiration, hsignedKey, hexpiration, hnow, hkey⟩

end YandexPay.PaymentToken
