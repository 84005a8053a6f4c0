import YandexPay.PaymentToken.Serialize

/-!
# Where an unsealing panics

A token is a JSON document, so any of its parts may be missing. `MeetsNil` lists the nil pointers
that an unsealing dereferences: the certificate, when the token has none, a key of the key set,
and the signed message, when its JSON is `null`. `unseal_eq_panic` shows that there is no other
panic, provided that the functions of other packages return (`Primitives.Returns`).
-/

set_option autoImplicit false
set_option relaxedAutoImplicit false

namespace YandexPay.PaymentToken

open Outcome

/-- The functions of other packages return a value or an error. The one exception is a verifier
for a nil key, which reads the curve of the key; other keys have their curve. -/
structure Primitives.Returns (p : Primitives) : Prop where
  unmarshalSignedKey : ∀ data, p.unmarshalSignedKey data ≠ .panic
  unmarshalSignedMessage : ∀ data, p.unmarshalSignedMessage data ≠ .panic
  parsePKIXPublicKey : ∀ der, p.parsePKIXPublicKey der ≠ .panic
  newECDSAVerifier : ∀ key, p.newECDSAVerifier hashAlgoSHA256 encodingDER (some key) ≠ .panic
  newECDSAVerifier_nil : p.newECDSAVerifier hashAlgoSHA256 encodingDER none = .panic
  verifier : ∀ key verifier,
    p.newECDSAVerifier hashAlgoSHA256 encodingDER (some key) = .ok verifier →
      ∀ signature signedBytes, verifier signature signedBytes ≠ .panic
  pointDecode : ∀ key format bytes, p.pointDecode key format bytes ≠ .panic
  computeSharedSecret : ∀ point key, p.computeSharedSecret point key ≠ .panic
  computeHKDF : ∀ hash key salt info size, p.computeHKDF hash key salt info size ≠ .panic
  computeHKDF_length : ∀ hash key salt info size derived,
    p.computeHKDF hash key salt info size = .ok derived → derived.length = size
  newHMAC : ∀ hash key size, p.newHMAC hash key size ≠ .panic
  mac : ∀ hash key size mac, p.newHMAC hash key size = .ok mac → ∀ data, mac data ≠ .panic
  newCipher : ∀ key, p.newCipher key ≠ .panic

variable {p : Primitives}

/-! ### Decryption -/

theorem eciesHKDFRecipientKEM_ne_panic (hp : p.Returns) (kem : Bytes) (hashAlg : String)
    (salt info : Bytes) (keySize : ℕ) (pointFormat : String) (key : p.PrivateKey) :
    eciesHKDFRecipientKEM p kem hashAlg salt info keySize pointFormat key ≠ .panic :=
  bind_ne_panic (hp.pointDecode _ _ _) fun _ _ ↦
    bind_ne_panic (hp.computeSharedSecret _ _) fun _ _ ↦ hp.computeHKDF _ _ _ _ _

theorem hmacSHA256_ne_panic (hp : p.Returns) (key data : Bytes) :
    hmacSHA256 p key data ≠ .panic :=
  bind_ne_panic (hp.newHMAC _ _ _) fun mac hmac ↦ hp.mac _ _ _ mac hmac data

theorem aesCTR_ne_panic (hp : p.Returns) (key data : Bytes) : aesCTR p key data ≠ .panic :=
  bind_ne_panic (hp.newCipher _) fun _ _ ↦ pure_ne_panic _

theorem eciesHKDFRecipientKEM_length (hp : p.Returns) {kem : Bytes} {hashAlg : String}
    {salt info : Bytes} {keySize : ℕ} {pointFormat : String} {key : p.PrivateKey} {derived : Bytes}
    (h : eciesHKDFRecipientKEM p kem hashAlg salt info keySize pointFormat key = .ok derived) :
    derived.length = keySize := by
  simp only [eciesHKDFRecipientKEM, bind_eq_ok] at h
  obtain ⟨point, -, secret, -, hderived⟩ := h
  exact hp.computeHKDF_length _ _ _ _ _ _ hderived

/-- Only a nil message makes the decryption panic: derived keys have the size asked for, so that
the slices are in range. -/
theorem decrypt_eq_panic (hp : p.Returns) {pointer : Option SignedMessage} {contextInfo : Bytes}
    {key : p.PrivateKey} :
    decrypt p pointer contextInfo key ecV2 = .panic ↔ pointer = none := by
  cases pointer with
  | none => exact ⟨fun _ ↦ rfl, fun _ ↦ rfl⟩
  | some signedMessage =>
    refine iff_of_false ?_ (Option.some_ne_none _)
    refine bind_ne_panic (by simp) fun message _ ↦ ?_
    refine bind_ne_panic (Base64.decodeString_ne_panic _) fun kem _ ↦ ?_
    refine bind_ne_panic (eciesHKDFRecipientKEM_ne_panic hp _ _ _ _ _ _ _) fun demKey hdemKey ↦ ?_
    have hlength := eciesHKDFRecipientKEM_length hp hdemKey
    have hslice : sliceFrom demKey ecV2.aesCtrKeySize ≠ .panic := by
      rw [sliceFrom, if_pos (by rw [hlength]; decide)]
      exact fun h ↦ by cases h
    refine bind_ne_panic hslice fun hmacKey _ ↦ ?_
    refine bind_ne_panic (Base64.decodeString_ne_panic _) fun ciphertext _ ↦ ?_
    refine bind_ne_panic (hmacSHA256_ne_panic hp _ _) fun computedTag _ ↦ ?_
    refine bind_ne_panic (Base64.decodeString_ne_panic _) fun expectedTag _ ↦ ?_
    exact bind_ne_panic (require_ne_panic _ _) fun _ _ ↦ aesCTR_ne_panic hp _ _

theorem tryDecrypt_eq_panic (hp : p.Returns) {pointer : Option SignedMessage}
    {contextInfo : Bytes} {errs : List GoError} {keys : List p.PrivateKey} :
    tryDecrypt p pointer contextInfo ecV2 errs keys = .panic ↔ pointer = none ∧ keys ≠ [] := by
  induction keys generalizing errs with
  | nil => exact iff_of_false (fun h ↦ by cases h) fun h ↦ h.2 rfl
  | cons key keys ih =>
    have hpointer : decrypt p pointer contextInfo key ecV2 ≠ .panic → pointer ≠ none :=
      mt (decrypt_eq_panic hp).mpr
    rw [tryDecrypt]
    cases hdecrypt : decrypt p pointer contextInfo key ecV2 with
    | ok data =>
      have hsome := hpointer (by rw [hdecrypt]; exact fun h ↦ by cases h)
      exact iff_of_false (fun h ↦ by cases h) fun h ↦ hsome h.1
    | err e =>
      have hsome := hpointer (by rw [hdecrypt]; exact fun h ↦ by cases h)
      exact iff_of_false (fun h ↦ hsome (ih.mp h).1) fun h ↦ hsome h.1
    | panic =>
      exact iff_of_true rfl ⟨(decrypt_eq_panic hp).mp hdecrypt, List.cons_ne_nil _ _⟩

/-! ### Root keys -/

theorem getKeys_eq_panic {version : ProtocolVersion}
    {pointers : List (Option (SenderVerifyingKey p))} :
    getKeys version pointers = .panic ↔ none ∈ pointers := by
  induction pointers with
  | nil => exact iff_of_false (pure_ne_panic _) List.not_mem_nil
  | cons pointer rest ih =>
    rw [getKeys, List.mem_cons]
    cases pointer with
    | none => exact iff_of_true rfl (Or.inl rfl)
    | some key =>
      rw [bind_eq_panic_of_ne (by simp)]
      simp only [deref_eq_ok, Option.some.injEq, exists_eq_left', reduceCtorEq, false_or]
      rw [bind_eq_panic, ih]
      refine or_iff_left ?_
      rintro ⟨keys, -, h⟩
      exact pure_ne_panic _ h

/-- The loop of `verifySignatures` comes to a nil key: the keys before it are usable and verify
none of the signatures. -/
def ReachesNilKey (p : Primitives) (signatures : List Bytes) (signedBytes : Bytes) :
    List (Option p.PublicKey) → Prop
  | [] => False
  | none :: _ => True
  | some key :: keys =>
    (∃ verifier, p.newECDSAVerifier hashAlgoSHA256 encodingDER (some key) = .ok verifier ∧
      ∀ signature ∈ signatures, verifier signature signedBytes ≠ .ok ()) ∧
    ReachesNilKey p signatures signedBytes keys

theorem verifyAny_ne_panic {verifier : Bytes → Bytes → Outcome Unit} {signedBytes : Bytes}
    (hverifier : ∀ signature, verifier signature signedBytes ≠ .panic) (signatures : List Bytes) :
    verifyAny verifier signedBytes signatures ≠ .panic := by
  induction signatures with
  | nil => exact fun h ↦ by cases h
  | cons signature signatures ih =>
    rw [verifyAny]
    cases hverify : verifier signature signedBytes with
    | ok u => exact fun h ↦ by cases h
    | err e => exact ih
    | panic => exact absurd hverify (hverifier signature)

/-- The inner loop fails when no signature is accepted. -/
theorem verifyAny_eq_false {verifier : Bytes → Bytes → Outcome Unit} {signedBytes : Bytes}
    (hverifier : ∀ signature, verifier signature signedBytes ≠ .panic) {signatures : List Bytes} :
    verifyAny verifier signedBytes signatures = .ok false ↔
      ∀ signature ∈ signatures, verifier signature signedBytes ≠ .ok () := by
  induction signatures with
  | nil => exact iff_of_true rfl fun signature h ↦ absurd h List.not_mem_nil
  | cons signature signatures ih =>
    rw [verifyAny, List.forall_mem_cons, ← ih]
    cases hverify : verifier signature signedBytes with
    | ok u => exact iff_of_false (fun h ↦ by cases h) fun h ↦ h.1 rfl
    | err e => exact (and_iff_right fun h ↦ by cases h).symm
    | panic => exact absurd hverify (hverifier signature)

theorem verifySignatures_eq_panic (hp : p.Returns) {pubKeys : List (Option p.PublicKey)}
    {signatures : List Bytes} {signedBytes : Bytes} :
    verifySignatures p pubKeys signatures signedBytes = .panic ↔
      ReachesNilKey p signatures signedBytes pubKeys := by
  induction pubKeys with
  | nil => exact iff_of_false (fun h ↦ by cases h) id
  | cons pubKey pubKeys ih =>
    rw [verifySignatures]
    cases pubKey with
    | none => exact iff_of_true (bind_eq_panic.mpr (Or.inl hp.newECDSAVerifier_nil)) trivial
    | some key =>
      rw [bind_eq_panic_of_ne (hp.newECDSAVerifier key), ReachesNilKey, ← exists_and_right]
      refine exists_congr fun verifier ↦ ?_
      rw [and_assoc]
      refine and_congr_right fun hnew ↦ ?_
      have hverifier : ∀ signature, verifier signature signedBytes ≠ .panic :=
        fun signature ↦ hp.verifier key verifier hnew signature signedBytes
      rw [bind_eq_panic_of_ne (verifyAny_ne_panic hverifier signatures),
        ← verifyAny_eq_false hverifier, ← ih]
      constructor
      · rintro ⟨accepted, hany, h⟩
        cases accepted with
        | true => cases h
        | false => exact ⟨hany, h⟩
      · exact fun h ↦ ⟨false, h⟩

/-! ### Certificates -/

theorem decodeSignatures_ne_panic (signatures : List Bytes) :
    decodeSignatures signatures ≠ .panic := by
  induction signatures with
  | nil => exact pure_ne_panic _
  | cons signature signatures ih =>
    exact bind_ne_panic (Base64.decodeString_ne_panic _) fun _ _ ↦
      bind_ne_panic ih fun _ _ ↦ pure_ne_panic _

theorem parseB64ECPublicKey_ne_panic (hp : p.Returns) (text : Bytes) :
    parseB64ECPublicKey p text ≠ .panic := by
  refine bind_ne_panic (Base64.decodeString_ne_panic _) fun der _ ↦ ?_
  refine bind_ne_panic (hp.parsePKIXPublicKey der) fun key _ ↦ ?_
  cases key with
  | ecdsa key => exact pure_ne_panic _
  | other typeName => exact fun h ↦ by cases h

theorem SignedKey.validate_ne_panic (now : ℤ) (sk : SignedKey) : sk.validate now ≠ .panic :=
  bind_ne_panic (require_ne_panic _ _) fun _ _ ↦
    bind_ne_panic (require_ne_panic _ _) fun _ _ ↦
      bind_ne_panic (ofOption_ne_panic _ _) fun _ _ ↦ require_ne_panic _ _

/-- A certificate that is complete, with its signatures decoded. -/
structure IntermediateSigningCert.Complete (cert : IntermediateSigningCert)
    (decoded : List Bytes) : Prop where
  signedKey_ne : cert.signedKey ≠ []
  signatures_ne : cert.signatures ≠ []
  decodes : decodeSignatures cert.signatures = .ok decoded

theorem IntermediateSigningCert.validate_eq_ok {cert : IntermediateSigningCert} {u : Unit} :
    cert.validate = .ok u ↔ cert.signedKey ≠ [] ∧ cert.signatures ≠ [] := by
  simp [validate, bind_eq_ok]

theorem IntermediateSigningCert.validate_ne_panic (cert : IntermediateSigningCert) :
    cert.validate ≠ .panic :=
  bind_ne_panic (require_ne_panic _ _) fun _ _ ↦ require_ne_panic _ _

/-- A nil pointer in the key set that the verification of a certificate comes to. -/
inductive MeetsNilKey (senderID : Bytes) (version : ProtocolVersion)
    (cert : IntermediateSigningCert) (signatures : List Bytes) :
    Option (SenderVerifyingKeySet p) → Prop
  | keySet : MeetsNilKey senderID version cert signatures none
  | entry {keyset : SenderVerifyingKeySet p} (nil : none ∈ keyset.keys) :
    MeetsNilKey senderID version cert signatures (some keyset)
  | publicKey {keyset : SenderVerifyingKeySet p} {pubKeys : List (Option p.PublicKey)}
    (keys : getKeys version keyset.keys = .ok pubKeys)
    (nil : ReachesNilKey p signatures (toLengthValue [senderID, version, cert.signedKey])
      pubKeys) :
    MeetsNilKey senderID version cert signatures (some keyset)

theorem meetsNilKey_iff (hp : p.Returns) {senderID : Bytes} {version : ProtocolVersion}
    {cert : IntermediateSigningCert} {signatures : List Bytes}
    {keyset : Option (SenderVerifyingKeySet p)} :
    (do
      let pubKeys ← SenderVerifyingKeySet.get keyset version
      verifySignatures p pubKeys signatures
        (toLengthValue [senderID, version, cert.signedKey])) = .panic ↔
      MeetsNilKey senderID version cert signatures keyset := by
  rw [bind_eq_panic]
  cases keyset with
  | none => exact iff_of_true (Or.inl rfl) .keySet
  | some keyset =>
    have hget : SenderVerifyingKeySet.get (some keyset) version =
        getKeys version keyset.keys := rfl
    rw [hget, getKeys_eq_panic]
    constructor
    · rintro (hnil | ⟨pubKeys, hkeys, hpanic⟩)
      · exact .entry hnil
      · exact .publicKey hkeys ((verifySignatures_eq_panic hp).mp hpanic)
    · intro h
      cases h with
      | entry hnil => exact Or.inl hnil
      | publicKey hkeys hnil =>
        exact Or.inr ⟨_, hkeys, (verifySignatures_eq_panic hp).mpr hnil⟩

/-- The reading of the signed key, the last part of the verification of a certificate. -/
theorem readSignedKey_ne_panic (hp : p.Returns) (now : ℤ) (text : Bytes) :
    (do
      let signedKey ← p.unmarshalSignedKey text
      signedKey.validate now
      parseB64ECPublicKey p signedKey.keyValue) ≠ .panic :=
  bind_ne_panic (hp.unmarshalSignedKey text) fun signedKey _ ↦
    bind_ne_panic (signedKey.validate_ne_panic now) fun _ _ ↦ parseB64ECPublicKey_ne_panic hp _

theorem validateAndGetSigningKey_eq_panic (hp : p.Returns) {now : ℤ}
    {cert : Option IntermediateSigningCert} {senderID : Bytes} {version : ProtocolVersion}
    {keyset : Option (SenderVerifyingKeySet p)} :
    validateAndGetSigningKey p now cert senderID version keyset = .panic ↔
      cert = none ∨ ∃ c signatures, cert = some c ∧ c.Complete signatures ∧
        MeetsNilKey senderID version c signatures keyset := by
  cases cert with
  | none => exact iff_of_true rfl (Or.inl rfl)
  | some c =>
    simp only [reduceCtorEq, Option.some.injEq, false_or, exists_and_left, exists_eq_left']
    rw [validateAndGetSigningKey, bind_eq_panic_of_ne (by simp)]
    simp only [deref_eq_ok, Option.some.injEq, exists_eq_left']
    rw [bind_eq_panic_of_ne c.validate_ne_panic]
    simp only [IntermediateSigningCert.validate_eq_ok]
    have htail : ∀ signatures,
        (do
          let pubKeys ← SenderVerifyingKeySet.get keyset version
          verifySignatures p pubKeys signatures (toLengthValue [senderID, version, c.signedKey])
          let signedKey ← p.unmarshalSignedKey c.signedKey
          signedKey.validate now
          parseB64ECPublicKey p signedKey.keyValue) = .panic ↔
        MeetsNilKey senderID version c signatures keyset := by
      intro signatures
      rw [← meetsNilKey_iff hp, bind_eq_panic, bind_eq_panic]
      simp only [bind_eq_panic_iff_left fun _ _ ↦ readSignedKey_ne_panic hp now c.signedKey]
    constructor
    · rintro ⟨-, ⟨hkey, hsignatures⟩, h⟩
      obtain ⟨signatures, hdecodes, h⟩ :=
        (bind_eq_panic_of_ne (decodeSignatures_ne_panic _)).mp h
      exact ⟨signatures, ⟨hkey, hsignatures, hdecodes⟩, (htail signatures).mp h⟩
    · rintro ⟨signatures, ⟨hkey, hsignatures, hdecodes⟩, h⟩
      exact ⟨(), ⟨hkey, hsignatures⟩, (bind_eq_panic_of_ne (decodeSignatures_ne_panic _)).mpr
        ⟨signatures, hdecodes, (htail signatures).mpr h⟩⟩

/-! ### Tokens -/

theorem Recipient.verify_eq_panic (hp : p.Returns) {r : Recipient p} {now : ℤ} {token : Token} :
    r.verify now token = .panic ↔
      ∃ signature, Base64.decodeString token.signature = .ok signature ∧
        validateAndGetSigningKey p now token.intermediateSigningCert r.senderID
          token.protocolVersion r.senderVerifyingKeySet = .panic := by
  rw [verify, bind_eq_panic_of_ne (Base64.decodeString_ne_panic _)]
  refine exists_congr fun signature ↦ and_congr_right fun _ ↦ bind_eq_panic_iff_left ?_
  intro verifyingKey _
  refine bind_ne_panic ?_ fun _ _ ↦ pure_ne_panic _
  rw [verifySignature]
  refine bind_ne_panic (hp.newECDSAVerifier _) fun verifier hverifier ↦ ?_
  have hreturns := hp.verifier _ _ hverifier signature
    (toLengthValue [r.senderID, r.recipientID, token.protocolVersion, token.signedMessage])
  split
  · exact pure_ne_panic _
  · exact fun h ↦ by cases h
  · exact absurd ‹_› hreturns

theorem Recipient.verify_ok_message {r : Recipient p} {now : ℤ} {token : Token} {message : Bytes}
    (h : r.verify now token = .ok message) :
    message = token.signedMessage ∧
      ∃ signature, Base64.decodeString token.signature = .ok signature := by
  simp only [verify, bind_eq_ok, pure_eq_ok] at h
  obtain ⟨signature, hsignature, -, -, -, -, rfl⟩ := h
  exact ⟨rfl, signature, hsignature⟩

/-- A token that passes the checks before its certificate is read. -/
structure Token.Admissible (token : Token) : Prop where
  signedMessage_ne : token.signedMessage ≠ []
  version : token.protocolVersion = ProtocolVersionECv2
  signature_ne : token.signature ≠ []
  signature_decodes : ∃ signature, Base64.decodeString token.signature = .ok signature

/-- The nil pointers that an unsealing comes to. -/
inductive MeetsNil (r : Recipient p) (now : ℤ) (token : Token) : Prop
  | certificate (missing : token.intermediateSigningCert = none)
  | verifyingKey {cert : IntermediateSigningCert} {signatures : List Bytes}
    (present : token.intermediateSigningCert = some cert) (complete : cert.Complete signatures)
    (meets : MeetsNilKey r.senderID token.protocolVersion cert signatures r.senderVerifyingKeySet)
  | message (verified : r.verify now token = .ok token.signedMessage)
    (null : p.unmarshalSignedMessage token.signedMessage = .ok none)
    (keys : r.recipientPrivateKeys ≠ [])

theorem Token.validate_ne_panic (token : Token) : token.validate ≠ .panic :=
  bind_ne_panic (require_ne_panic _ _) fun _ _ ↦
    bind_ne_panic (require_ne_panic _ _) fun _ _ ↦ require_ne_panic _ _

theorem Token.validate_eq_ok {token : Token} {u : Unit} :
    token.validate = .ok u ↔
      token.signedMessage ≠ [] ∧ token.protocolVersion ≠ [] ∧ token.signature ≠ [] := by
  simp [validate, bind_eq_ok]

theorem protocolConfigs_ecV2 : protocolConfigs ProtocolVersionECv2 = some ecV2 := if_pos rfl

/-- The decryption, the part of an unsealing that follows the verification. -/
theorem decryptVerified_eq_panic (hp : p.Returns) {r : Recipient p} {messageBytes : Bytes} :
    (do
      let protocol ← ofOption
        (.errorf "paymenttoken: possible bug, cant fing protocol %s" ProtocolVersionECv2)
        (protocolConfigs ProtocolVersionECv2)
      if protocol.isEncryptionRequired then
        let signedMessage ← p.unmarshalSignedMessage messageBytes
        tryDecrypt p signedMessage r.senderID protocol [] r.recipientPrivateKeys
      else return messageBytes) = .panic ↔
      p.unmarshalSignedMessage messageBytes = .ok none ∧ r.recipientPrivateKeys ≠ [] := by
  rw [protocolConfigs_ecV2]
  change (p.unmarshalSignedMessage messageBytes >>= fun signedMessage ↦
    tryDecrypt p signedMessage r.senderID ecV2 [] r.recipientPrivateKeys) = .panic ↔ _
  rw [bind_eq_panic_of_ne (hp.unmarshalSignedMessage _)]
  simp only [tryDecrypt_eq_panic hp]
  constructor
  · rintro ⟨pointer, hpointer, rfl, hkeys⟩
    exact ⟨hpointer, hkeys⟩
  · rintro ⟨hpointer, hkeys⟩
    exact ⟨none, hpointer, rfl, hkeys⟩

/-- The verification of a token whose signature decodes. -/
theorem verify_eq_panic_iff (hp : p.Returns) {r : Recipient p} {now : ℤ} {token : Token}
    (hsignature : ∃ signature, Base64.decodeString token.signature = .ok signature) :
    r.verify now token = .panic ↔ token.intermediateSigningCert = none ∨
      ∃ cert signatures, token.intermediateSigningCert = some cert ∧ cert.Complete signatures ∧
        MeetsNilKey r.senderID token.protocolVersion cert signatures
          r.senderVerifyingKeySet := by
  obtain ⟨signature, hdecode⟩ := hsignature
  rw [Recipient.verify_eq_panic hp]
  constructor
  · rintro ⟨-, -, h⟩
    exact (validateAndGetSigningKey_eq_panic hp).mp h
  · exact fun h ↦ ⟨signature, hdecode, (validateAndGetSigningKey_eq_panic hp).mpr h⟩

/-- An unsealing panics exactly when it comes to a nil pointer. -/
theorem unseal_eq_panic (hp : p.Returns) {r : Recipient p} {now : ℤ} {token : Token} :
    r.Unseal now (some token) = .panic ↔ token.Admissible ∧ MeetsNil r now token := by
  rw [Recipient.Unseal, bind_eq_panic_of_ne (by simp)]
  simp only [deref_eq_ok, Option.some.injEq, exists_eq_left']
  rw [bind_eq_panic_of_ne token.validate_ne_panic]
  simp only [Token.validate_eq_ok]
  rw [exists_and_left]
  simp only [bind_eq_panic_of_ne (require_ne_panic _ _), require_eq_ok, decide_eq_true_eq]
  constructor
  · rintro ⟨⟨hmessage, -, hsignature⟩, -, -, hversion, h⟩
    have hversion' : token.protocolVersion = ProtocolVersionECv2 := hversion
    simp only [hversion', bind_eq_panic, decryptVerified_eq_panic hp] at h
    rcases h with hverify | ⟨message, hverify, hnull, hkeys⟩
    · obtain ⟨signature, hdecode, hcert⟩ := (Recipient.verify_eq_panic hp).mp hverify
      refine ⟨⟨hmessage, hversion', hsignature, signature, hdecode⟩, ?_⟩
      rcases (validateAndGetSigningKey_eq_panic hp).mp hcert with
        hmissing | ⟨cert, signatures, hpresent, hcomplete, hmeets⟩
      · exact .certificate hmissing
      · exact .verifyingKey hpresent hcomplete hmeets
    · obtain ⟨rfl, hdecodes⟩ := Recipient.verify_ok_message hverify
      exact ⟨⟨hmessage, hversion', hsignature, hdecodes⟩, .message hverify hnull hkeys⟩
  · rintro ⟨⟨hmessage, hversion, hsignature, hdecodes⟩, hmeets⟩
    refine ⟨⟨hmessage, ?_, hsignature⟩, (), (), hversion, ?_⟩
    · rw [hversion]
      decide
    · simp only [hversion, bind_eq_panic, decryptVerified_eq_panic hp]
      cases hmeets with
      | certificate hmissing =>
        exact Or.inl ((verify_eq_panic_iff hp hdecodes).mpr (Or.inl hmissing))
      | verifyingKey hpresent hcomplete hmeets =>
        exact Or.inl ((verify_eq_panic_iff hp hdecodes).mpr
          (Or.inr ⟨_, _, hpresent, hcomplete, hmeets⟩))
      | message hverify hnull hkeys => exact Or.inr ⟨_, hverify, hnull, hkeys⟩

/-- No panic is reached from a text exactly when the token in it does not lead to a nil pointer. -/
theorem unseal_ne_panic_iff (p : Primitives) (hp : p.Returns) (json : TokenJson)
    (hjson : ∀ data, json.unmarshal data ≠ .panic) {α : Type} (unmarshal : Bytes → Outcome α)
    (hunmarshal : ∀ data, unmarshal data ≠ .panic) (r : Recipient p) (now : ℤ)
    (serializedToken : Bytes) :
    (((do
      let token ← ParseToken json serializedToken
      r.Unseal now (some token)) ≠ .panic) ∧
      r.UnsealJSONMessage json unmarshal now serializedToken ≠ .panic) ↔
      ∀ token, ParseToken json serializedToken = .ok token →
        ¬ (token.Admissible ∧ MeetsNil r now token) := by
  have hparse : ParseToken json serializedToken ≠ .panic :=
    bind_ne_panic (Base64.decodeString_ne_panic _) fun data _ ↦ hjson data
  have hunseal : r.UnsealJSONMessage json unmarshal now serializedToken = .panic ↔
      (do
        let token ← ParseToken json serializedToken
        r.Unseal now (some token)) = .panic := by
    rw [Recipient.UnsealJSONMessage, bind_eq_panic_of_ne hparse, bind_eq_panic_of_ne hparse]
    simp only [bind_eq_panic_iff_left fun objectBytes _ ↦ hunmarshal objectBytes]
  rw [Ne, Ne, hunseal, and_self, bind_eq_panic_of_ne hparse]
  simp only [unseal_eq_panic hp, not_exists, not_and]

/-! ### A token without a certificate -/

theorem onInput_ne_panic {α β : Type} [DecidableEq α] (input : α) (output : β) (x : α) :
    onInput input output x ≠ .panic := by
  rw [onInput]
  split_ifs <;> exact fun h ↦ by cases h

theorem onInput_eq_ok {α β : Type} [DecidableEq α] {input : α} {output value : β} {x : α}
    (h : onInput input output x = .ok value) : x = input ∧ output = value := by
  rw [onInput] at h
  split_ifs at h with hx
  exact ⟨hx, Outcome.ok.inj h⟩

theorem concretePrimitives_returns : concretePrimitives.Returns where
  unmarshalSignedKey := onInput_ne_panic _ _
  unmarshalSignedMessage := onInput_ne_panic _ _
  parsePKIXPublicKey := onInput_ne_panic _ _
  newECDSAVerifier := fun _ h ↦ by cases h
  newECDSAVerifier_nil := rfl
  verifier := fun key verifier h ↦ by
    obtain rfl := Outcome.ok.inj h
    exact fun _ _ ↦ require_ne_panic _ _
  pointDecode := fun _ _ ↦ onInput_ne_panic _ _
  computeSharedSecret := fun _ _ ↦ onInput_ne_panic _ _ _
  computeHKDF := fun _ _ _ _ _ ↦ onInput_ne_panic _ _ _
  computeHKDF_length := fun _ _ _ _ size derived h ↦ by
    obtain ⟨hinput, rfl⟩ := onInput_eq_ok h
    have hsize : size = 64 := congrArg (fun input ↦ input.2.2.2) hinput
    rw [hsize]
    decide +kernel
  newHMAC := fun _ _ _ ↦ onInput_ne_panic _ _ _
  mac := fun _ _ _ _ h ↦ by
    obtain ⟨-, rfl⟩ := onInput_eq_ok h
    exact onInput_ne_panic _ _
  newCipher := onInput_ne_panic _ _

/-- The JSON of a token whose fields are as they should be, but for the certificate. -/
def certificatelessText : Bytes :=
  utf8 "\x7b\"signedMessage\":\"m\",\"protocolVersion\":\"ECv2\",\"signature\":\"c2ln\"\x7d"

def certificatelessToken : Token where
  signedMessage := utf8 "m"
  protocolVersion := ProtocolVersionECv2
  signature := utf8 "c2ln"
  intermediateSigningCert := none

def certificatelessJson : TokenJson where
  marshal := fun _ ↦ .ok certificatelessText
  unmarshal := onInput certificatelessText certificatelessToken

theorem unseal_ne_panic_iff_witness :
    (((do
      let token ← ParseToken certificatelessJson (Base64.encodeToString certificatelessText)
      concreteRecipient.Unseal 1600000000000000000 (some token)) ≠ .panic) ∧
      concreteRecipient.UnsealJSONMessage certificatelessJson Outcome.ok 1600000000000000000
        (Base64.encodeToString certificatelessText) ≠ .panic) ↔
      ∀ token,
        ParseToken certificatelessJson (Base64.encodeToString certificatelessText) = .ok token →
        ¬ (token.Admissible ∧ MeetsNil concreteRecipient 1600000000000000000 token) :=
  unseal_ne_panic_iff concretePrimitives concretePrimitives_returns certificatelessJson
    (onInput_ne_panic _ _) Outcome.ok (fun _ h ↦ by cases h) concreteRecipient
    1600000000000000000 (Base64.encodeToString certificatelessText)

/-- A token without a certificate makes the recipient panic. -/
theorem certificateless_token_panics :
    (do
      let token ← ParseToken certificatelessJson (Base64.encodeToString certificatelessText)
      concreteRecipient.Unseal 1600000000000000000 (some token)) = .panic ∧
    concreteRecipient.UnsealJSONMessage certificatelessJson Outcome.ok 1600000000000000000
      (Base64.encodeToString certificatelessText) = .panic := by
  have hparse : ParseToken certificatelessJson (Base64.encodeToString certificatelessText) =
      .ok certificatelessToken := by
    rw [ParseToken_encodeToString]
    exact onInput_self certificatelessText certificatelessToken
  have hadmissible : certificatelessToken.Admissible :=
    ⟨by decide, rfl, by decide, utf8 "sig", by decide +kernel⟩
  have hunseal : concreteRecipient.Unseal 1600000000000000000 (some certificatelessToken) =
      .panic :=
    (unseal_eq_panic concretePrimitives_returns).mpr ⟨hadmissible, .certificate rfl⟩
  exact ⟨bind_eq_panic.mpr (Or.inr ⟨_, hparse, hunseal⟩),
    bind_eq_panic.mpr (Or.inr ⟨_, hparse, bind_eq_panic.mpr (Or.inl hunseal)⟩)⟩

end YandexPay.PaymentToken
