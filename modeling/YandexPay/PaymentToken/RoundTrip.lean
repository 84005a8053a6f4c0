import YandexPay.PaymentToken.Panics
import YandexPay.PaymentToken.Sender

/-!
# Unsealing undoes sealing

A message that a sender seals is the one that the recipient unseals. The functions of other packages
are assumed to be correct: a signature verifies with the public key of its signer, both sides of a
key agreement compute one secret, JSON of ASCII strings is read back as it was written
(`SenderPrimitives.Correct`), they return (`Primitives.Returns`), and the authentication code of a
message is not the one that a wrong key computes (`SenderPrimitives.FailsMac`).

The two sides are compared part by part: the certificate that the factory makes gives the signing
key, the signature of the token verifies over the same bytes, and the recipient derives the key that
the sender has derived. `unseal_seal` puts the parts together.
-/

set_option autoImplicit false
set_option relaxedAutoImplicit false

namespace YandexPay.PaymentToken

open Outcome

/-! ### Assumptions -/

structure SignedMessage.AllAscii (m : SignedMessage) : Prop where
  encryptedMessage : Ascii m.encryptedMessage
  tag : Ascii m.tag
  ephemeralPublicKey : Ascii m.ephemeralPublicKey

structure SignedKey.AllAscii (sk : SignedKey) : Prop where
  keyValue : Ascii sk.keyValue
  keyExpiration : Ascii sk.keyExpiration

structure IntermediateSigningCert.AllAscii (cert : IntermediateSigningCert) : Prop where
  signedKey : Ascii cert.signedKey
  signatures : ∀ signature ∈ cert.signatures, Ascii signature

structure Token.AllAscii (t : Token) : Prop where
  signedMessage : Ascii t.signedMessage
  protocolVersion : Ascii t.protocolVersion
  signature : Ascii t.signature
  intermediateSigningCert : ∀ cert ∈ t.intermediateSigningCert, cert.AllAscii

/-- ECDSA, the key agreement of `hybrid`, and JSON of ASCII strings are correct. -/
structure SenderPrimitives.Correct (s : SenderPrimitives) : Prop where
  ecdsa : ∀ key signer, s.newECDSASigner hashAlgoSHA256 encodingDER key = .ok signer →
    ∃ verifier,
      s.newECDSAVerifier hashAlgoSHA256 encodingDER (some (s.publicKey key)) = .ok verifier ∧
      ∀ random data signature, signer random data = .ok signature →
        signature ≠ [] ∧ verifier signature data = .ok ()
  ecdh : ∀ key random pair secret kem,
    s.generateECDHKeyPair (s.curve (s.publicKey key)) random = .ok pair →
    s.computeSharedSecret (s.point (s.publicKey key)) pair = .ok secret →
    s.pointEncode (s.pairCurve pair) pointFormatUncompressed (s.pairPoint pair) = .ok kem →
    s.pointDecode (s.hybridPrivateKey key) pointFormatUncompressed kem = .ok (s.pairPoint pair) ∧
      s.computeSharedSecret (s.pairPoint pair) (s.hybridPrivateKey key) = .ok secret
  signedMessage : ∀ message text, message.AllAscii → s.marshalSignedMessage message = .ok text →
    Ascii text ∧ text ≠ [] ∧ s.unmarshalSignedMessage text = .ok (some message)
  signedKey : ∀ key text, key.AllAscii → s.marshalSignedKey key = .ok text →
    Ascii text ∧ text ≠ [] ∧ s.unmarshalSignedKey text = .ok key
  /-- No key is read from no bytes. -/
  parsePKIXPublicKey_nil : ∀ key, s.parsePKIXPublicKey [] ≠ .ok key

/-- When a message is encrypted for a public key, the key that a private key derives does not
compute the authentication code that the sender has computed. -/
def SenderPrimitives.FailsMac (s : SenderPrimitives) (publicKey : s.PublicKey) (random : s.Random)
    (info message : Bytes) (privateKey : s.PrivateKey) : Prop :=
  ∀ kemKey ciphertext tag demKey,
    eciesHKDFSenderKEMKey s hashAlgoSHA256 [] info 64 pointFormatUncompressed
      ⟨s.curve publicKey, s.point publicKey⟩ random = .ok kemKey →
    aesCTR s.toPrimitives (kemKey.SymmetricKey.take 32) message = .ok ciphertext →
    hmacSHA256 s.toPrimitives (kemKey.SymmetricKey.drop 32) ciphertext = .ok tag →
    eciesHKDFRecipientKEM s.toPrimitives kemKey.Kem hashAlgoSHA256 [] info 64
      pointFormatUncompressed privateKey = .ok demKey →
    hmacSHA256 s.toPrimitives (demKey.drop 32) ciphertext ≠ .ok tag

/-- JSON of a token, if its strings are ASCII, is written and read back. -/
def TokenJson.RoundTrips (json : TokenJson) (t : Token) : Prop :=
  t.AllAscii → ∃ text, json.marshal t = .ok text ∧ json.unmarshal text = .ok t

section Setting

variable {s : SenderPrimitives}

/-- A certificate of a signing key that the factory has made for a sender with the given root keys
and that has not expired. -/
structure IssuedFor (rootKeys : List s.ECDSAPrivateKey) (senderID : Bytes) (now : ℤ)
    (signingKey : s.ECDSAPrivateKey) (cert : IntermediateSigningCert) : Prop where
  made : ∃ intermediateSigningKey expirationTime factory random,
    NewIntermediateSigningCertFactory s rootKeys ProtocolVersionECv2 senderID
      intermediateSigningKey expirationTime = .ok factory ∧
    factory.CreateIntermediateSigningCert random = .ok cert ∧
    parseB64ECPublicKey s.toPrimitives intermediateSigningKey =
      .ok (s.publicKey signingKey) ∧
    milliseconds now < milliseconds (unixNano expirationTime)

/-- A key set with the public key of a root key, whose keys of the protocol version are usable. -/
structure Trusts (rootKeys : List s.ECDSAPrivateKey)
    (keyset : SenderVerifyingKeySet s.toPrimitives) : Prop where
  root : ∃ root ∈ rootKeys, ∃ key, some key ∈ keyset.keys ∧
    key.protocolVersion = ProtocolVersionECv2 ∧ key.publicKey = some (s.publicKey root)
  usable : ∀ pointer ∈ keyset.keys, ∃ key, pointer = some key ∧
    (key.protocolVersion = ProtocolVersionECv2 → ∃ publicKey verifier,
      key.publicKey = some publicKey ∧
      s.newECDSAVerifier hashAlgoSHA256 encodingDER (some publicKey) = .ok verifier)

/-- A recipient of this name that expects messages of the sender, trusts one of the root keys and
has the private key, among any others. -/
structure ConfiguredFor (senderID recipientID : Bytes) (rootKeys : List s.ECDSAPrivateKey)
    (privateKey : s.ECDSAPrivateKey) (r : Recipient s.toPrimitives) : Prop where
  senderID_eq : r.senderID = senderID
  recipientID_eq : r.recipientID = recipientID
  trusts : ∃ keyset, r.senderVerifyingKeySet = some keyset ∧ Trusts rootKeys keyset
  key : s.hybridPrivateKey privateKey ∈ r.recipientPrivateKeys

end Setting

/-! ### The cipher -/

/-- The key stream is applied twice. -/
theorem xorKeyStream_xorKeyStream (encrypt : Bytes → Bytes) (data : Bytes) :
    xorKeyStream encrypt (xorKeyStream encrypt data) = data := by
  refine List.ext_getElem (by simp [xorKeyStream]) fun i _ _ ↦ ?_
  simp only [xorKeyStream, List.getElem_map, List.getElem_zipIdx, zero_add]
  rw [UInt8.xor_assoc, UInt8.xor_self, UInt8.xor_zero]

theorem aesCTR_of_aesCTR {p : Primitives} {key plaintext ciphertext : Bytes}
    (h : aesCTR p key plaintext = .ok ciphertext) : aesCTR p key ciphertext = .ok plaintext := by
  simp only [aesCTR, bind_eq_ok, pure_eq_ok] at h ⊢
  obtain ⟨block, hblock, rfl⟩ := h
  exact ⟨block, hblock, xorKeyStream_xorKeyStream block plaintext⟩

/-! ### Signatures -/

section Signatures

variable {p : Primitives}

theorem verifyAny_total {verifier : Bytes → Bytes → Outcome Unit} {signedBytes : Bytes}
    (hreturns : ∀ signature, verifier signature signedBytes ≠ .panic) (signatures : List Bytes) :
    verifyAny verifier signedBytes signatures = .ok true ∨
      verifyAny verifier signedBytes signatures = .ok false := by
  induction signatures with
  | nil => exact Or.inr rfl
  | cons first signatures ih =>
    rw [verifyAny]
    cases hfirst : verifier first signedBytes with
    | ok u => exact Or.inl rfl
    | err e => exact ih
    | panic => exact absurd hfirst (hreturns first)

theorem verifyAny_of_mem {verifier : Bytes → Bytes → Outcome Unit} {signedBytes : Bytes}
    (hreturns : ∀ signature, verifier signature signedBytes ≠ .panic) {signature : Bytes}
    {signatures : List Bytes} (hmem : signature ∈ signatures)
    (hverify : verifier signature signedBytes = .ok ()) :
    verifyAny verifier signedBytes signatures = .ok true :=
  (verifyAny_total hreturns signatures).resolve_right fun hfalse ↦
    (verifyAny_eq_false hreturns).mp hfalse signature hmem hverify

/-- A usable key list verifies what one of its keys verifies. -/
theorem verifySignatures_of_mem {pubKeys : List (Option p.PublicKey)} {signatures : List Bytes}
    {signedBytes : Bytes}
    (husable : ∀ pubKey ∈ pubKeys, ∃ verifier,
      p.newECDSAVerifier hashAlgoSHA256 encodingDER pubKey = .ok verifier ∧
      ∀ signature, verifier signature signedBytes ≠ .panic)
    {pubKey : Option p.PublicKey} (hmem : pubKey ∈ pubKeys)
    {verifier : Bytes → Bytes → Outcome Unit}
    (hverifier : p.newECDSAVerifier hashAlgoSHA256 encodingDER pubKey = .ok verifier)
    {signature : Bytes} (hsignature : signature ∈ signatures)
    (hverify : verifier signature signedBytes = .ok ()) :
    verifySignatures p pubKeys signatures signedBytes = .ok () := by
  induction pubKeys with
  | nil => exact absurd hmem List.not_mem_nil
  | cons first pubKeys ih =>
    obtain ⟨hfirst, hrest⟩ := List.forall_mem_cons.mp husable
    obtain ⟨firstVerifier, hfirstVerifier, hreturns⟩ := hfirst
    rw [verifySignatures, bind_eq_ok]
    refine ⟨firstVerifier, hfirstVerifier, bind_eq_ok.mpr ?_⟩
    rcases List.mem_cons.mp hmem with rfl | hmem
    · obtain rfl : verifier = firstVerifier :=
        Outcome.ok.inj (hverifier.symm.trans hfirstVerifier)
      exact ⟨true, verifyAny_of_mem hreturns hsignature hverify, rfl⟩
    · rcases verifyAny_total hreturns signatures with haccepted | hrejected
      · exact ⟨true, haccepted, rfl⟩
      · exact ⟨false, hrejected, ih hrest hmem⟩

/-- Keys that are there are collected. -/
theorem getKeys_of_some (version : ProtocolVersion)
    {pointers : List (Option (SenderVerifyingKey p))}
    (h : ∀ pointer ∈ pointers, ∃ key, pointer = some key) :
    ∃ keys, getKeys version pointers = .ok keys ∧
      ∀ key, some key ∈ pointers → key.protocolVersion = version → key.publicKey ∈ keys := by
  induction pointers with
  | nil => exact ⟨[], rfl, fun key hmem ↦ absurd hmem List.not_mem_nil⟩
  | cons pointer rest ih =>
    obtain ⟨⟨first, rfl⟩, hrest⟩ := List.forall_mem_cons.mp h
    obtain ⟨keys, hkeys, hmem⟩ := ih hrest
    refine ⟨if first.protocolVersion ≠ version then keys else first.publicKey :: keys, ?_, ?_⟩
    · simp only [getKeys, bind_eq_ok, deref_eq_ok, pure_eq_ok]
      exact ⟨first, rfl, keys, hkeys, rfl⟩
    · intro key hkey hversion
      rcases List.mem_cons.mp hkey with hfirst | hkey
      · obtain rfl := Option.some.inj hfirst
        rw [if_neg (not_not.mpr hversion)]
        exact List.mem_cons_self
      · have hcollected := hmem key hkey hversion
        split_ifs
        · exact hcollected
        · exact List.mem_cons_of_mem _ hcollected

theorem decodeSignatures_encodeToString (signatures : List Bytes) :
    decodeSignatures (signatures.map Base64.encodeToString) = .ok signatures := by
  induction signatures with
  | nil => rfl
  | cons signature signatures ih =>
    rw [List.map_cons, decodeSignatures, Base64.decodeString_encodeToString, ih]
    rfl

end Signatures

/-! ### The certificate -/

section Certificate

variable {s : SenderPrimitives}

theorem newSigners_ok {keys : List s.ECDSAPrivateKey}
    {signers : List (s.Random → Bytes → Outcome Bytes)} (h : newSigners s keys = .ok signers)
    {key : s.ECDSAPrivateKey} (hkey : key ∈ keys) :
    ∃ signer ∈ signers, s.newECDSASigner hashAlgoSHA256 encodingDER key = .ok signer := by
  induction keys generalizing signers with
  | nil => exact absurd hkey List.not_mem_nil
  | cons first keys ih =>
    simp only [newSigners, bind_eq_ok, pure_eq_ok] at h
    obtain ⟨signer, hsigner, rest, hrest, rfl⟩ := h
    rcases List.mem_cons.mp hkey with rfl | hkey
    · exact ⟨signer, List.mem_cons_self, hsigner⟩
    · obtain ⟨other, hmem, hother⟩ := ih hrest hkey
      exact ⟨other, List.mem_cons_of_mem _ hmem, hother⟩

/-- The signatures are encoded, and each signer has made one of them. -/
theorem signAll_ok {ρ : Type} {toSignBytes : Bytes} {signers : List (ρ → Bytes → Outcome Bytes)}
    {random : ℕ → ρ} {encoded : List Bytes} (h : signAll toSignBytes signers random = .ok encoded) :
    ∃ signatures : List Bytes, encoded = signatures.map Base64.encodeToString ∧ ∀ signer ∈ signers,
      ∃ bytes, ∃ signature ∈ signatures, signer bytes toSignBytes = .ok signature := by
  induction signers generalizing random encoded with
  | nil =>
    rw [signAll, pure_eq_ok] at h
    exact ⟨[], h.symm, fun signer hmem ↦ absurd hmem List.not_mem_nil⟩
  | cons first signers ih =>
    simp only [signAll, bind_eq_ok, pure_eq_ok] at h
    obtain ⟨signature, hsignature, rest, hrest, rfl⟩ := h
    obtain ⟨signatures, rfl, hsigned⟩ := ih hrest
    refine ⟨signature :: signatures, rfl, List.forall_mem_cons.mpr ⟨?_, ?_⟩⟩
    · exact ⟨random 0, signature, List.mem_cons_self, hsignature⟩
    · intro signer hmem
      obtain ⟨bytes, other, hother, hsigner⟩ := hsigned signer hmem
      exact ⟨bytes, other, List.mem_cons_of_mem _ hother, hsigner⟩

theorem parseInt_milliseconds (time : ℤ) :
    parseInt (formatInt (milliseconds (unixNano time))) = some (milliseconds (unixNano time)) := by
  have hlow : -(2 ^ 64 / 2) ≤ unixNano time := Int.le_bmod (by decide)
  have hhigh : unixNano time < (2 ^ 64 + 1) / 2 := Int.bmod_lt (by decide)
  have hdivision := Int.mul_tdiv_add_tmod (unixNano time) 1000000
  have hlower := Int.lt_tmod_of_pos (unixNano time) (b := 1000000) (by decide)
  have hupper := Int.tmod_lt_of_pos (unixNano time) (b := 1000000) (by decide)
  rw [milliseconds]
  exact parseInt_formatInt (by omega) (by omega)

/-- A signed key that has not expired is valid. -/
theorem SignedKey.validate_of_lt {now expiration : ℤ} {sk : SignedKey} (hvalue : sk.keyValue ≠ [])
    (hexpiration : sk.keyExpiration = formatInt (milliseconds (unixNano expiration)))
    (hnow : milliseconds now < milliseconds (unixNano expiration)) : sk.validate now = .ok () := by
  simp only [validate, bind_eq_ok, require_eq_ok, ofOption_eq_ok]
  refine ⟨(), decide_eq_true hvalue, (), decide_eq_true ?_, milliseconds (unixNano expiration), ?_,
    decide_eq_true ?_⟩
  · rw [hexpiration]
    exact formatInt_ne_nil _
  · rw [hexpiration]
    exact parseInt_milliseconds expiration
  · exact Int.not_le.mpr hnow

/-- The text of a key that is parsed. -/
theorem parseB64ECPublicKey_text {p : Primitives} (hnil : ∀ key, p.parsePKIXPublicKey [] ≠ .ok key)
    {text : Bytes} {key : p.PublicKey} (h : parseB64ECPublicKey p text = .ok key) :
    text ≠ [] ∧ Ascii text := by
  simp only [parseB64ECPublicKey, parseECPublicKey, bind_eq_ok] at h
  obtain ⟨der, hder, parsed, hparsed, -⟩ := h
  refine ⟨?_, Base64.ascii_of_decodeString hder⟩
  rintro rfl
  obtain rfl := Outcome.ok.inj hder
  exact hnil parsed hparsed

/-- The signatures of the factory verify with a key set that trusts one of its keys. -/
theorem verifySignatures_of_trusted (hs : s.Correct) (hp : s.toPrimitives.Returns)
    {rootKeys : List s.ECDSAPrivateKey} {signers : List (s.Random → Bytes → Outcome Bytes)}
    (hsigners : newSigners s rootKeys = .ok signers) {signatures : List Bytes} {signedBytes : Bytes}
    (hsigned : ∀ signer ∈ signers, ∃ bytes, ∃ signature ∈ signatures,
      signer bytes signedBytes = .ok signature)
    {keyset : SenderVerifyingKeySet s.toPrimitives} (htrusts : Trusts rootKeys keyset) :
    signatures ≠ [] ∧ ∃ pubKeys,
      SenderVerifyingKeySet.get (some keyset) ProtocolVersionECv2 = .ok pubKeys ∧
      verifySignatures s.toPrimitives pubKeys signatures signedBytes = .ok () := by
  obtain ⟨root, hroot, key, hkey, hversion, hpublicKey⟩ := htrusts.root
  obtain ⟨signer, hsigner, hnew⟩ := newSigners_ok hsigners hroot
  obtain ⟨bytes, signature, hsignature, hsign⟩ := hsigned signer hsigner
  obtain ⟨verifier, hverifier, hcorrect⟩ := hs.ecdsa root signer hnew
  have hverify := (hcorrect bytes signedBytes signature hsign).2
  obtain ⟨pubKeys, hpubKeys, hcollected⟩ := getKeys_of_some ProtocolVersionECv2
    fun pointer hpointer ↦ (htrusts.usable pointer hpointer).imp fun _ ↦ And.left
  refine ⟨List.ne_nil_of_mem hsignature, pubKeys, hpubKeys, ?_⟩
  refine verifySignatures_of_mem ?_ (hcollected key hkey hversion)
    (by rw [hpublicKey]; exact hverifier) hsignature hverify
  intro pubKey hpubKey
  obtain ⟨other, hother, hotherVersion, rfl⟩ := getKeys_ok hpubKeys pubKey hpubKey
  obtain ⟨same, hsame, husable⟩ := htrusts.usable _ hother
  obtain rfl := Option.some.inj hsame
  obtain ⟨publicKey, otherVerifier, hpublicKey, hother⟩ := husable hotherVersion
  refine ⟨otherVerifier, by rw [hpublicKey]; exact hother, fun signature ↦ ?_⟩
  exact hp.verifier publicKey otherVerifier hother signature signedBytes

/-- The certificate of the factory gives the signing key to whoever trusts a root key. -/
theorem validateAndGetSigningKey_of_issued (hs : s.Correct) (hp : s.toPrimitives.Returns)
    {rootKeys : List s.ECDSAPrivateKey} {senderID : Bytes} {now : ℤ}
    {signingKey : s.ECDSAPrivateKey} {cert : IntermediateSigningCert}
    {keyset : SenderVerifyingKeySet s.toPrimitives}
    (hissued : IssuedFor rootKeys senderID now signingKey cert) (htrusts : Trusts rootKeys keyset) :
    validateAndGetSigningKey s.toPrimitives now (some cert) senderID ProtocolVersionECv2
      (some keyset) = .ok (s.publicKey signingKey) ∧ cert.AllAscii := by
  obtain ⟨keyValue, expirationTime, factory, random, hfactory, hcreate, hparse, hnow⟩ :=
    hissued.made
  simp only [NewIntermediateSigningCertFactory, bind_eq_ok, pure_eq_ok] at hfactory
  obtain ⟨signers, hsigners, rfl⟩ := hfactory
  simp only [IntermediateSigningCertFactory.CreateIntermediateSigningCert, bind_eq_ok,
    pure_eq_ok] at hcreate
  obtain ⟨text, htext, encoded, hencoded, rfl⟩ := hcreate
  obtain ⟨signatures, rfl, hsigned⟩ := signAll_ok hencoded
  -- The signed key is read back as the factory has written it.
  obtain ⟨hvalue, hvalueAscii⟩ := parseB64ECPublicKey_text hs.parsePKIXPublicKey_nil hparse
  obtain ⟨htextAscii, htextNe, hread⟩ :=
    hs.signedKey _ text ⟨hvalueAscii, formatInt_ascii _⟩ htext
  obtain ⟨hsignaturesNe, pubKeys, hpubKeys, hverify⟩ :=
    verifySignatures_of_trusted hs hp hsigners hsigned htrusts
  refine ⟨?_, htextAscii, ?_⟩
  · simp only [validateAndGetSigningKey, bind_eq_ok, deref_eq_ok]
    refine ⟨_, rfl, (), IntermediateSigningCert.validate_eq_ok.mpr ⟨htextNe, ?_⟩, signatures,
      decodeSignatures_encodeToString signatures, pubKeys, hpubKeys, (), hverify, _, hread, (),
      SignedKey.validate_of_lt hvalue rfl hnow, hparse⟩
    exact mt List.map_eq_nil_iff.mp hsignaturesNe
  · intro signature hmem
    obtain ⟨raw, -, rfl⟩ := List.mem_map.mp hmem
    exact Base64.encodeToString_ascii raw

end Certificate

/-! ### The key -/

section Encryption

variable {s : SenderPrimitives}

/-- The recipient derives the key of the sender. -/
theorem eciesHKDFRecipientKEM_of_sender (hs : s.Correct) {privateKey : s.ECDSAPrivateKey}
    {salt info : Bytes} {keySize : ℕ} {random : s.Random} {kemKey : KemKey}
    (h : eciesHKDFSenderKEMKey s hashAlgoSHA256 salt info keySize pointFormatUncompressed
      ⟨s.curve (s.publicKey privateKey), s.point (s.publicKey privateKey)⟩ random = .ok kemKey) :
    eciesHKDFRecipientKEM s.toPrimitives kemKey.Kem hashAlgoSHA256 salt info keySize
      pointFormatUncompressed (s.hybridPrivateKey privateKey) = .ok kemKey.SymmetricKey := by
  simp only [eciesHKDFSenderKEMKey, bind_eq_ok, pure_eq_ok] at h
  obtain ⟨pair, hpair, secret, hsecret, kem, hkem, key, hkey, rfl⟩ := h
  obtain ⟨hpoint, hshared⟩ := hs.ecdh privateKey random pair secret kem hpair hsecret hkem
  simp only [eciesHKDFRecipientKEM, bind_eq_ok]
  exact ⟨_, hpoint, secret, hshared, hkey⟩

/-- What the sender encrypts, part by part. -/
theorem encrypt_ok {ts : Sender s} (hpvc : ts.pvc = ecV2) {random : s.Random}
    {plaintext contextInfo : Bytes} {publicKey : ECPublicKey s} {m : SignedMessage}
    (h : ts.encrypt random plaintext contextInfo publicKey = .ok m) :
    ∃ kemKey ciphertext tag,
      eciesHKDFSenderKEMKey s hashAlgoSHA256 [] contextInfo 64 pointFormatUncompressed publicKey
        random = .ok kemKey ∧
      32 ≤ kemKey.SymmetricKey.length ∧
      aesCTR s.toPrimitives (kemKey.SymmetricKey.take 32) plaintext = .ok ciphertext ∧
      hmacSHA256 s.toPrimitives (kemKey.SymmetricKey.drop 32) ciphertext = .ok tag ∧
      m = ⟨Base64.encodeToString ciphertext, Base64.encodeToString tag,
        Base64.encodeToString kemKey.Kem⟩ := by
  simp only [Sender.encrypt, hpvc, bind_eq_ok, pure_eq_ok] at h
  obtain ⟨kemKey, hkemKey, aesKey, haesKey, hmacKey, hhmacKey, ciphertext, hciphertext, tag, htag,
    rfl⟩ := h
  rw [sliceTo] at haesKey
  rw [sliceFrom] at hhmacKey
  split_ifs at haesKey hhmacKey with hlength
  obtain rfl := Outcome.ok.inj haesKey
  obtain rfl := Outcome.ok.inj hhmacKey
  exact ⟨kemKey, ciphertext, tag, hkemKey, hlength, hciphertext, htag, rfl⟩

theorem encrypt_allAscii {ts : Sender s} (hpvc : ts.pvc = ecV2) {random : s.Random}
    {plaintext contextInfo : Bytes} {publicKey : ECPublicKey s} {m : SignedMessage}
    (h : ts.encrypt random plaintext contextInfo publicKey = .ok m) : m.AllAscii := by
  obtain ⟨kemKey, ciphertext, tag, -, -, -, -, rfl⟩ := encrypt_ok hpvc h
  exact ⟨Base64.encodeToString_ascii _, Base64.encodeToString_ascii _,
    Base64.encodeToString_ascii _⟩

variable {ts : Sender s} {random : s.Random} {message contextInfo : Bytes}
  {privateKey : s.ECDSAPrivateKey} {m : SignedMessage}

/-- The private key decrypts what was encrypted for its public key. -/
theorem decrypt_of_encrypt (hs : s.Correct) (hpvc : ts.pvc = ecV2)
    (h : ts.encrypt random message contextInfo ⟨s.curve (s.publicKey privateKey),
      s.point (s.publicKey privateKey)⟩ = .ok m) :
    decrypt s.toPrimitives (some m) contextInfo (s.hybridPrivateKey privateKey) ecV2 =
      .ok message := by
  obtain ⟨kemKey, ciphertext, tag, hkemKey, hlength, hciphertext, htag, rfl⟩ := encrypt_ok hpvc h
  simp only [decrypt, bind_eq_ok, deref_eq_ok, require_eq_ok]
  refine ⟨_, rfl, kemKey.Kem, Base64.decodeString_encodeToString _, kemKey.SymmetricKey,
    eciesHKDFRecipientKEM_of_sender hs hkemKey, kemKey.SymmetricKey.drop 32, if_pos hlength,
    ciphertext, Base64.decodeString_encodeToString _, tag, htag, tag,
    Base64.decodeString_encodeToString _, (), decide_eq_true rfl, aesCTR_of_aesCTR hciphertext⟩

/-- Another key fails, without a panic, and is passed over. -/
theorem decrypt_of_failsMac (hp : s.toPrimitives.Returns) (hpvc : ts.pvc = ecV2)
    (h : ts.encrypt random message contextInfo ⟨s.curve (s.publicKey privateKey),
      s.point (s.publicKey privateKey)⟩ = .ok m)
    {other : s.PrivateKey}
    (hother : s.FailsMac (s.publicKey privateKey) random contextInfo message other) :
    ∃ error, decrypt s.toPrimitives (some m) contextInfo other ecV2 = .err error := by
  obtain ⟨kemKey, ciphertext, tag, hkemKey, -, hciphertext, htag, rfl⟩ := encrypt_ok hpvc h
  cases hdecrypt : decrypt s.toPrimitives (some ⟨Base64.encodeToString ciphertext,
      Base64.encodeToString tag, Base64.encodeToString kemKey.Kem⟩) contextInfo other ecV2 with
  | err error => exact ⟨error, rfl⟩
  | panic => exact absurd ((decrypt_eq_panic hp).mp hdecrypt) (Option.some_ne_none _)
  | ok data =>
    obtain ⟨m, hm, hdecrypts⟩ := decrypt_ok hdecrypt
    obtain rfl := Option.some.inj hm
    obtain ⟨kem, demKey, cipher, code, hkem, hdemKey, hcipher, hcode, hmac, -⟩ := hdecrypts.keys
    -- The message has the encodings of the sender's bytes.
    obtain rfl := Outcome.ok.inj ((Base64.decodeString_encodeToString _).symm.trans hkem)
    obtain rfl := Outcome.ok.inj ((Base64.decodeString_encodeToString _).symm.trans hcipher)
    obtain rfl := Outcome.ok.inj ((Base64.decodeString_encodeToString _).symm.trans hcode)
    exact absurd hmac (hother kemKey ciphertext tag demKey hkemKey hciphertext htag hdemKey)

/-- The trial decryption comes to the key that fits, whatever keys precede it. -/
theorem tryDecrypt_of_mem {p : Primitives} {pointer : Option SignedMessage} {key : p.PrivateKey}
    (hfits : decrypt p pointer contextInfo key ecV2 = .ok message) {keys : List p.PrivateKey}
    (hmem : key ∈ keys) (hothers : ∀ other ∈ keys, other ≠ key →
      ∃ error, decrypt p pointer contextInfo other ecV2 = .err error) (errs : List GoError) :
    tryDecrypt p pointer contextInfo ecV2 errs keys = .ok message := by
  induction keys generalizing errs with
  | nil => exact absurd hmem List.not_mem_nil
  | cons first keys ih =>
    obtain ⟨hfirst, hrest⟩ := List.forall_mem_cons.mp hothers
    rw [tryDecrypt]
    by_cases hkey : first = key
    · rw [hkey, hfits]
    · obtain ⟨error, herror⟩ := hfirst hkey
      rw [herror]
      exact ih ((List.mem_cons.mp hmem).resolve_left (Ne.symm hkey)) hrest (errs ++ [error])

end Encryption

/-! ### Sealing and unsealing -/

section Sealing

variable {s : SenderPrimitives}

theorem newSender_ok {signingKey : s.ECDSAPrivateKey} {cert : IntermediateSigningCert}
    {senderID : Bytes} {sender : Sender s}
    (h : NewSender s (some signingKey) (some cert) [WithSenderID senderID] = .ok sender) :
    ∃ signer, s.newECDSASigner hashAlgoSHA256 encodingDER signingKey = .ok signer ∧
      sender = ⟨ecV2, signer, senderID, some cert⟩ := by
  simp only [NewSender, bind_eq_ok, ofOption_eq_ok, pure_eq_ok] at h
  obtain ⟨key, hkey, signer, hsigner, rfl⟩ := h
  obtain rfl := Option.some.inj hkey
  exact ⟨signer, hsigner, rfl⟩

/-- A message is sealed exactly when it can be encrypted, written as JSON and signed. -/
theorem seal_eq_ok {ts : Sender s} (hpvc : ts.pvc = ecV2) {random : s.Random × s.Random}
    {recipientID message : Bytes} {publicKey : s.PublicKey} {token : Token} :
    ts.Seal random recipientID message publicKey = .ok token ↔ ∃ m text signature,
      ts.encrypt random.1 message ts.senderID ⟨s.curve publicKey, s.point publicKey⟩ = .ok m ∧
      s.marshalSignedMessage m = .ok text ∧
      ts.signer random.2 (toLengthValue [ts.senderID, recipientID, ProtocolVersionECv2, text]) =
        .ok signature ∧
      token = ⟨text, ProtocolVersionECv2, Base64.encodeToString signature,
        ts.intermediateSigningCert⟩ := by
  have hencrypts : ts.pvc.isEncryptionRequired = true := by rw [hpvc]; rfl
  have hversion : ts.pvc.protocolVersion = ProtocolVersionECv2 := by rw [hpvc]; rfl
  simp only [Sender.Seal, Sender.sealV1OrV2, Sender.signV1OrV2, hencrypts, if_true, hversion,
    bind_eq_ok, pure_eq_ok]
  constructor
  · rintro ⟨m, hm, text, htext, signature, hsignature, rfl⟩
    exact ⟨m, text, signature, hm, htext, hsignature, rfl⟩
  · rintro ⟨m, text, signature, hm, htext, hsignature, rfl⟩
    exact ⟨m, hm, text, htext, signature, hsignature, rfl⟩

/-- The signature of a sealed token verifies over the bytes that the recipient puts together. -/
theorem verify_of_signed (hs : s.Correct) {signingKey : s.ECDSAPrivateKey}
    {signer : s.Random → Bytes → Outcome Bytes}
    (hsigner : s.newECDSASigner hashAlgoSHA256 encodingDER signingKey = .ok signer)
    {r : Recipient s.toPrimitives} {now : ℤ} {token : Token} {random : s.Random} {signature : Bytes}
    (hsign : signer random (toLengthValue [r.senderID, r.recipientID, token.protocolVersion,
      token.signedMessage]) = .ok signature)
    (hsignature : token.signature = Base64.encodeToString signature)
    (hkey : validateAndGetSigningKey s.toPrimitives now token.intermediateSigningCert r.senderID
      token.protocolVersion r.senderVerifyingKeySet = .ok (s.publicKey signingKey)) :
    r.verify now token = .ok token.signedMessage := by
  obtain ⟨verifier, hverifier, hcorrect⟩ := hs.ecdsa signingKey signer hsigner
  have hverify : verifySignature s.toPrimitives (s.publicKey signingKey) signature
      (toLengthValue [r.senderID, r.recipientID, token.protocolVersion,
        token.signedMessage]) = .ok () := by
    refine bind_eq_ok.mpr ⟨verifier, hverifier, ?_⟩
    rw [(hcorrect random _ signature hsign).2]
    rfl
  simp only [Recipient.verify, bind_eq_ok, pure_eq_ok, hsignature]
  exact ⟨signature, Base64.decodeString_encodeToString signature, _, hkey, (), hverify, trivial⟩

/-- A recipient that a token is sealed for unseals it; all strings of the token are ASCII. -/
theorem unseal_of_seal (hs : s.Correct) (hp : s.toPrimitives.Returns) {now : ℤ}
    {senderID recipientID message : Bytes} {rootKeys : List s.ECDSAPrivateKey}
    {signingKey privateKey : s.ECDSAPrivateKey} {cert : IntermediateSigningCert}
    (hcert : IssuedFor rootKeys senderID now signingKey cert) {sender : Sender s}
    (hsender : NewSender s (some signingKey) (some cert) [WithSenderID senderID] = .ok sender)
    {random : s.Random × s.Random} {token : Token}
    (hseal : sender.Seal random recipientID message (s.publicKey privateKey) = .ok token)
    {r : Recipient s.toPrimitives}
    (hr : ConfiguredFor senderID recipientID rootKeys privateKey r)
    (hothers : ∀ other ∈ r.recipientPrivateKeys, other ≠ s.hybridPrivateKey privateKey →
      s.FailsMac (s.publicKey privateKey) random.1 senderID message other) :
    token.AllAscii ∧ r.Unseal now (some token) = .ok message := by
  obtain ⟨rfl, rfl, ⟨keyset, hkeyset, htrusts⟩, hmem⟩ := hr
  obtain ⟨signer, hsigner, rfl⟩ := newSender_ok hsender
  obtain ⟨m, text, signature, hencrypt, htext, hsign, rfl⟩ := (seal_eq_ok rfl).mp hseal
  obtain ⟨hvalid, hcertAscii⟩ := validateAndGetSigningKey_of_issued hs hp hcert htrusts
  obtain ⟨htextAscii, htextNe, hread⟩ :=
    hs.signedMessage m text (encrypt_allAscii rfl hencrypt) htext
  have hsignatureNe : signature ≠ [] := by
    obtain ⟨verifier, -, hcorrect⟩ := hs.ecdsa signingKey signer hsigner
    exact (hcorrect random.2 _ signature hsign).1
  have hversionAscii : Ascii ProtocolVersionECv2 := by
    unfold Ascii
    decide +kernel
  have hversionNe : ProtocolVersionECv2 ≠ [] := by decide
  have hverify : r.verify now ⟨text, ProtocolVersionECv2, Base64.encodeToString signature,
      some cert⟩ = .ok text := by
    refine verify_of_signed hs hsigner hsign rfl ?_
    rw [hkeyset]
    exact hvalid
  have hdecrypt := tryDecrypt_of_mem (decrypt_of_encrypt hs rfl hencrypt) hmem
    (fun other hother hne ↦ decrypt_of_failsMac hp rfl hencrypt (hothers other hother hne)) []
  refine ⟨⟨htextAscii, hversionAscii, Base64.encodeToString_ascii signature,
    fun c hc ↦ Option.some.inj hc ▸ hcertAscii⟩, ?_⟩
  simp only [Recipient.Unseal, bind_eq_ok, deref_eq_ok, require_eq_ok, ofOption_eq_ok]
  refine ⟨_, rfl, (), Token.validate_eq_ok.mpr ⟨htextNe, hversionNe,
    Base64.encodeToString_ne_nil hsignatureNe⟩, (), decide_eq_true rfl, text, hverify, ecV2,
    protocolConfigs_ecV2, bind_eq_ok.mpr ⟨some m, hread, hdecrypt⟩⟩

/-- Whatever a sender seals, a recipient that is configured for it unseals from the text of the
token. -/
theorem unseal_seal (s : SenderPrimitives) (hs : s.Correct) (hp : s.toPrimitives.Returns)
    (json : TokenJson) (now : ℤ) (senderID recipientID message : Bytes)
    (rootKeys : List s.ECDSAPrivateKey) (signingKey privateKey : s.ECDSAPrivateKey)
    (cert : IntermediateSigningCert) (hcert : IssuedFor rootKeys senderID now signingKey cert)
    (sender : Sender s)
    (hsender : NewSender s (some signingKey) (some cert) [WithSenderID senderID] = .ok sender)
    (random : s.Random × s.Random) (token : Token)
    (hseal : sender.Seal random recipientID message (s.publicKey privateKey) = .ok token)
    (hjson : json.RoundTrips token) (r : Recipient s.toPrimitives)
    (hr : ConfiguredFor senderID recipientID rootKeys privateKey r)
    (hothers : ∀ other ∈ r.recipientPrivateKeys, other ≠ s.hybridPrivateKey privateKey →
      s.FailsMac (s.publicKey privateKey) random.1 senderID message other) :
    ∃ text, token.Serialize json = .ok text ∧ ∃ parsed, ParseToken json text = .ok parsed ∧
      r.Unseal now (some parsed) = .ok message := by
  obtain ⟨hascii, hunseal⟩ := unseal_of_seal hs hp hcert hsender hseal hr hothers
  -- The token travels as JSON of ASCII strings.
  obtain ⟨data, hmarshal, hunmarshal⟩ := hjson hascii
  refine ⟨Base64.encodeToString data, bind_eq_ok.mpr ⟨data, hmarshal, rfl⟩, token, ?_, hunseal⟩
  exact (ParseToken_encodeToString json data).trans hunmarshal

end Sealing

/-! ### A token that is sealed -/

deriving instance DecidableEq for SignedMessage, SignedKey, IntermediateSigningCert, Token, KemKey

/-- The bytes of a number. -/
def bigEndian (length n : ℕ) : Bytes :=
  (List.range length).map fun i ↦ UInt8.ofNat (n / 256 ^ (length - 1 - i))

def rootPrivateKey : Bytes :=
  bigEndian 32 0x2af11d492f1fd268d308d29ebda2972337cd0b96f8035d38809588f53b0b20ca

def intermediatePrivateKey : Bytes :=
  bigEndian 32 0x6d21aa76e1070889051c0ff38c840747a96c23119d61538fe760560c07cdd01c

/-- The base64 of the public key. -/
def intermediateKey : Bytes := utf8 <|
  "MFkwEwYHKoZIzj0CAQYIKoZIzj0DAQcDQgAExpJPyMz7z07rmxvYI0QnrJ7CSscxhXJzA2X9TEmSfANR/fpvWQew" ++
  "sY0wWvHSCpqE5mN99/wXYCAJvJnJtL0OPQ=="

/-- The base64 of the public key of `recipientKey`. -/
def merchantKey : Bytes := utf8 <|
  "MFkwEwYHKoZIzj0CAQYIKoZIzj0DAQcDQgAE52hc/70CrjvdKcbCDclTVqI2mx328faiCerg+0O2UsZrcqPxM9/6" ++
  "NpA0/INKSHclSGJLQrKuuVaECA1kodgXZg=="

def otherRootKey : Bytes := utf8 <|
  "MFkwEwYHKoZIzj0CAQYIKoZIzj0DAQcDQgAEeGGJG5B8TZe8UwELnB5ZGlwt0lPPIO7Ugapb5aNxMxHV4KBv1LmA" ++
  "XOHaDRPmhaZD8uoXFEN/mRsROzjOjt0mtw=="

def ephemeralKey : Bytes :=
  bigEndian 32 0x5c1475e07d37b45cc9458730f4d7569cf95323c9a27e7d44475d8433b6868481

def ephemeralPoint : Bytes :=
  4 ::
    bigEndian 32 0x24a81e7388dc964d6c7b425e53f22ae7d439b0c3d4b887fe46e2361b1e9467d4 ++
    bigEndian 32 0x3a3ae92900c976fd888de10c561d2e129fe88383e64bad251ce06c2f59cfd740

/-- A private key of the merchant that does not fit. -/
def wrongKey : Bytes :=
  bigEndian 32 0x442628e00f930b137934f6aa498bc60a9362e8f978539ee3794b1815a2029982

def agreedSecret : Bytes :=
  bigEndian 32 0x347db9db805a891bc6656cbcd05a6354e6523d8d8e64350bb4b87f590934a5ef

def wrongSecret : Bytes :=
  bigEndian 32 0x20f4edd180b1188025e823ec887d3ce4077bd020a58c348f1b547e7a1b1b43d3

def agreedKey : Bytes :=
  bigEndian 32 0xf47bf117ef264a57c1952695957231084c0db4941fc660b06d0c0c7e113941ea ++
    bigEndian 32 0x559a3db1f74c35fb24b9d2437e450d296e8cd79903c44f8cc892eae441f09d41

def wrongDerivedKey : Bytes :=
  bigEndian 32 0x25ca19b21d2d9b83abf18db0b1ee9416f72085b4a7a3908870fd6b71ab03ae01 ++
    bigEndian 32 0x535ac1eb2bef44a6b7af017f3cb19e3423874429c714c69cdd6d6081de848186

def sealedCiphertext : Bytes := bigEndian 19 0x91c88f77c03e0d90636983ffeb42bfdf5bd426

def sealedTag : Bytes :=
  bigEndian 32 0x6a123e13c3635620107f8f52fae976bd06d01c7a65564609f3ef116f8c4f4527

def wrongTag : Bytes :=
  bigEndian 32 0x93640758e0ae4be6ff55239225e71be1d5c8e060ae2640ee06dcf117ebb3f9d1

def certSignature : Bytes :=
  bigEndian 4 0x30450221 ++
    bigEndian 33 0x00f377970526e8aec3ed0f6a036f4d932ac9ea135a2ff055663c3768048baef735 ++
    bigEndian 2 0x0220 ++
    bigEndian 32 0x78d24e0236176e276525c84af17810f03c685e6e656d4ca6ac1977ad94984372

def sealedSignature : Bytes :=
  bigEndian 4 0x30450220 ++
    bigEndian 32 0x5a56db3c21e42cfb48f23ebda74a43de6b853bc2f2d1e4a393b9abc98ce8f6af ++
    bigEndian 2 0x0221 ++
    bigEndian 33 0x00832fc28992f1b0e084b701b40319897dc615d0f1c96470a75a5ba72a53e604af

def issuedKey : SignedKey := ⟨intermediateKey, utf8 "1893456000000"⟩

def issuedKeyText : Bytes :=
  utf8 "\x7b\"keyValue\":\"" ++ issuedKey.keyValue ++ utf8 "\",\"keyExpiration\":\"" ++
    issuedKey.keyExpiration ++ utf8 "\"\x7d"

def issuedCert : IntermediateSigningCert :=
  ⟨issuedKeyText, [Base64.encodeToString certSignature]⟩

def sealedMessage : SignedMessage where
  encryptedMessage := Base64.encodeToString sealedCiphertext
  tag := Base64.encodeToString sealedTag
  ephemeralPublicKey := Base64.encodeToString ephemeralPoint

def sealedMessageText : Bytes :=
  utf8 "\x7b\"encryptedMessage\":\"" ++ sealedMessage.encryptedMessage ++
    utf8 "\",\"tag\":\"" ++ sealedMessage.tag ++
    utf8 "\",\"ephemeralPublicKey\":\"" ++ sealedMessage.ephemeralPublicKey ++ utf8 "\"\x7d"

def sealedToken : Token :=
  ⟨sealedMessageText, ProtocolVersionECv2, Base64.encodeToString sealedSignature, some issuedCert⟩

/-- The inside of a string of JSON, for text whose only special characters are quotes. -/
def escapeQuotes (text : Bytes) : Bytes := text.flatMap fun c ↦ if c = 34 then [92, 34] else [c]

def sealedTokenText : Bytes :=
  utf8 "\x7b\"type\":\"Yandex\",\"signedMessage\":\"" ++ escapeQuotes sealedMessageText ++
    utf8 "\",\"protocolVersion\":\"ECv2\",\"signature\":\"" ++ sealedToken.signature ++
    utf8 "\",\"intermediateSigningKey\":\x7b\"signedKey\":\"" ++ escapeQuotes issuedKeyText ++
    utf8 "\",\"signatures\":[\"" ++ Base64.encodeToString certSignature ++ utf8 "\"]\x7d\x7d"

def sealedJson : TokenJson where
  marshal := fun _ ↦ .ok sealedTokenText
  unmarshal := onInput sealedTokenText sealedToken

/-- A function that is known on some inputs. -/
def onInputs {α β : Type} [BEq α] (table : List (α × β)) (x : α) : Outcome β :=
  ofOption (.library "another input") (table.lookup x)

theorem onInputs_ne_panic {α β : Type} [BEq α] (table : List (α × β)) (x : α) :
    onInputs table x ≠ .panic := ofOption_ne_panic _ _

theorem mem_of_lookup {α β : Type} [BEq α] [LawfulBEq α] {table : List (α × β)} {x : α} {y : β}
    (h : table.lookup x = some y) : (x, y) ∈ table := by
  obtain ⟨before, after, rfl, -⟩ := List.lookup_eq_some_iff.mp h
  exact List.mem_append_right before List.mem_cons_self

theorem onInputs_eq_ok {α β : Type} [BEq α] [LawfulBEq α] {table : List (α × β)} {x : α} {y : β}
    (h : onInputs table x = .ok y) : (x, y) ∈ table :=
  mem_of_lookup (ofOption_eq_ok.mp h)

theorem onInputs_cons_self {α β : Type} [BEq α] [LawfulBEq α] (x : α) (y : β)
    (rest : List (α × β)) : onInputs ((x, y) :: rest) x = .ok y :=
  ofOption_eq_ok.mpr List.lookup_cons_self

theorem onInputs_cons_of_ne {α β : Type} [BEq α] [LawfulBEq α] {x other : α} (h : x ≠ other)
    (y : β) (rest : List (α × β)) : onInputs ((other, y) :: rest) x = onInputs rest x := by
  rw [onInputs, onInputs, List.lookup_cons, beq_eq_false_iff_ne.mpr h]

/-- Private keys with the PKIX form of their public keys. -/
def keyPairs : List (Bytes × Bytes) :=
  [(rootPrivateKey, fromBase64 rootKey), (intermediatePrivateKey, fromBase64 intermediateKey),
    (recipientKey, fromBase64 merchantKey)]

/-- What each private key signs: the certificate, and the token. -/
def madeSignatures : List ((Bytes × Bytes) × Bytes) :=
  [((rootPrivateKey, toLengthValue [Yandex, ProtocolVersionECv2, issuedKeyText]), certSignature),
    ((intermediatePrivateKey, toLengthValue [Yandex, utf8 "someRecipient", ProtocolVersionECv2,
      sealedMessageText]), sealedSignature)]

def verifiedSignatures : List (Bytes × Bytes × Bytes) :=
  [(fromBase64 rootKey, certSignature,
      toLengthValue [Yandex, ProtocolVersionECv2, issuedKeyText]),
    (fromBase64 intermediateKey, sealedSignature,
      toLengthValue [Yandex, utf8 "someRecipient", ProtocolVersionECv2, sealedMessageText])]

/-- What a point and a private key agree on. -/
def sharedSecrets : List ((Bytes × Bytes) × Bytes) :=
  [(((fromBase64 merchantKey).drop 26, ephemeralKey), agreedSecret),
    ((ephemeralPoint, recipientKey), agreedSecret), ((ephemeralPoint, wrongKey), wrongSecret)]

def derivedKeys : List ((Bytes × Bytes × Bytes × ℕ) × Bytes) :=
  [((ephemeralPoint ++ agreedSecret, [], Yandex, 64), agreedKey),
    ((ephemeralPoint ++ wrongSecret, [], Yandex, 64), wrongDerivedKey)]

def authenticationCodes : List ((Bytes × ℕ × Bytes) × Bytes) :=
  [((agreedKey.drop 32, 32, sealedCiphertext), sealedTag),
    ((wrongDerivedKey.drop 32, 32, sealedCiphertext), wrongTag)]

def sealedKeyStream : List (Bytes × Bytes) :=
  [(counterBlock 0, fromBase64 (utf8 "5aDmBJ9Xfs8XAeaghifMrA==")),
    (counterBlock 1, fromBase64 (utf8 "OrNDIRIdkJ/w6SZEgKV7Og=="))]

/-- The primitives on the inputs of one token; private keys are their numbers, points their bytes,
public keys their PKIX form, which ends in the point. -/
def sealPrimitives : SenderPrimitives where
  PublicKey := Bytes
  PrivateKey := Bytes
  Point := Bytes
  unmarshalSignedKey := onInput issuedKeyText issuedKey
  unmarshalSignedMessage := onInput sealedMessageText (some sealedMessage)
  unmarshalVerifyingKeySet := fun _ ↦ .err (.library "another input")
  parsePKIXPublicKey :=
    onInput (fromBase64 intermediateKey) (.ecdsa (fromBase64 intermediateKey))
  newECDSAVerifier := fun _ _ publicKey ↦ do
    let publicKey ← deref publicKey
    return fun signature signedBytes ↦
      require (verifiedSignatures.contains (publicKey, signature, signedBytes))
        (.library "ecdsa: invalid signature")
  pointDecode := fun _ _ ↦ onInput ephemeralPoint ephemeralPoint
  computeSharedSecret := fun point privateKey ↦ onInputs sharedSecrets (point, privateKey)
  computeHKDF := fun _ key salt info size ↦ onInputs derivedKeys (key, salt, info, size)
  newHMAC := fun _ key size ↦ .ok fun data ↦ onInputs authenticationCodes (key, size, data)
  newCipher := onInput (agreedKey.take 32) fun block ↦ (sealedKeyStream.lookup block).getD []
  Curve := Unit
  Random := Bytes
  ECDSAPrivateKey := Bytes
  publicKey := fun key ↦ (keyPairs.lookup key).getD []
  curve := fun _ ↦ ()
  point := fun publicKey ↦ publicKey.drop 26
  hybridPrivateKey := id
  pairCurve := fun _ ↦ ()
  pairPoint := fun pair ↦ if pair = ephemeralKey then ephemeralPoint else []
  generateECDHKeyPair := fun _ ↦ onInput ephemeralKey ephemeralKey
  pointEncode := fun _ _ point ↦ .ok point
  newECDSASigner := fun _ _ key ↦ .ok fun _ data ↦ onInputs madeSignatures (key, data)
  marshalSignedMessage := onInput sealedMessage sealedMessageText
  marshalSignedKey := onInput issuedKey issuedKeyText

theorem sealPrimitives_returns : sealPrimitives.Returns where
  unmarshalSignedKey := onInput_ne_panic _ _
  unmarshalSignedMessage := onInput_ne_panic _ _
  parsePKIXPublicKey := onInput_ne_panic _ _
  newECDSAVerifier := fun _ h ↦ by cases h
  newECDSAVerifier_nil := rfl
  verifier := fun key verifier h ↦ by
    obtain rfl := Outcome.ok.inj h
    exact fun _ _ ↦ require_ne_panic _ _
  pointDecode := fun _ _ ↦ onInput_ne_panic _ _
  computeSharedSecret := fun _ _ ↦ onInputs_ne_panic _ _
  computeHKDF := fun _ _ _ _ _ ↦ onInputs_ne_panic _ _
  computeHKDF_length := fun _ key salt info size derived h ↦ by
    have hsizes : ∀ entry ∈ derivedKeys, entry.2.length = entry.1.2.2.2 := by decide +kernel
    exact hsizes ((key, salt, info, size), derived) (onInputs_eq_ok h)
  newHMAC := fun _ _ _ h ↦ by cases h
  mac := fun _ _ _ mac h ↦ by
    obtain rfl := Outcome.ok.inj h
    exact fun _ ↦ onInputs_ne_panic _ _
  newCipher := onInput_ne_panic _ _

theorem privateKeys_ne : intermediatePrivateKey ≠ rootPrivateKey := by decide +kernel

theorem publicKey_eq (key : Bytes) :
    sealPrimitives.publicKey key = (keyPairs.lookup key).getD [] := rfl

theorem publicKey_rootPrivateKey :
    sealPrimitives.publicKey rootPrivateKey = fromBase64 rootKey := by
  rw [publicKey_eq, keyPairs, List.lookup_cons_self, Option.getD_some]

theorem publicKey_intermediatePrivateKey :
    sealPrimitives.publicKey intermediatePrivateKey = fromBase64 intermediateKey := by
  rw [publicKey_eq, keyPairs, List.lookup_cons, beq_eq_false_iff_ne.mpr privateKeys_ne,
    List.lookup_cons_self, Option.getD_some]

/-- The point of the merchant is that of no other key. -/
theorem eq_recipientKey_of_point {key : Bytes}
    (h : ((keyPairs.lookup key).getD []).drop 26 = (fromBase64 merchantKey).drop 26) :
    key = recipientKey := by
  have hpoints : ∀ entry ∈ keyPairs, entry.2.drop 26 = (fromBase64 merchantKey).drop 26 →
      entry.1 = recipientKey := by decide +kernel
  have hne : (fromBase64 merchantKey).drop 26 ≠ [] := by decide +kernel
  cases hkey : keyPairs.lookup key with
  | none =>
    rw [hkey] at h
    exact absurd h.symm hne
  | some publicKey =>
    rw [hkey] at h
    exact hpoints (key, publicKey) (mem_of_lookup hkey) h

theorem sealPrimitives_correct : sealPrimitives.Correct where
  ecdsa := fun key signer h ↦ by
    obtain rfl := Outcome.ok.inj h
    refine ⟨_, rfl, fun _ data signature hsign ↦ ?_⟩
    have hverified : signature ≠ [] ∧
        (sealPrimitives.publicKey key, signature, data) ∈ verifiedSignatures := by
      rcases List.mem_pair.mp (onInputs_eq_ok hsign) with h | h
      · cases h
        rw [publicKey_rootPrivateKey]
        exact ⟨by decide +kernel, List.mem_cons_self⟩
      · cases h
        rw [publicKey_intermediatePrivateKey]
        exact ⟨by decide +kernel, List.mem_cons_of_mem _ List.mem_cons_self⟩
    exact ⟨hverified.1, require_eq_ok.mpr (List.contains_iff_mem.mpr hverified.2)⟩
  ecdh := fun key random pair secret kem hpair hsecret hkem ↦ by
    obtain ⟨-, rfl⟩ := onInput_eq_ok hpair
    obtain rfl := Outcome.ok.inj hkem
    have hagree : ∀ entry ∈ sharedSecrets, entry.1.2 = ephemeralKey →
        entry.1.1 = (fromBase64 merchantKey).drop 26 ∧ entry.2 = agreedSecret := by
      decide +kernel
    obtain ⟨hpoint, rfl⟩ := hagree _ (onInputs_eq_ok hsecret) rfl
    obtain rfl := eq_recipientKey_of_point hpoint
    have hshared : onInputs sharedSecrets (ephemeralPoint, recipientKey) = .ok agreedSecret := by
      decide +kernel
    exact ⟨onInput_self ephemeralPoint ephemeralPoint, hshared⟩
  signedMessage := fun message text _ h ↦ by
    obtain ⟨rfl, rfl⟩ := onInput_eq_ok h
    have hread : sealPrimitives.unmarshalSignedMessage =
        onInput sealedMessageText (some sealedMessage) := rfl
    have hascii : ∀ c ∈ sealedMessageText, c < 128 := by decide +kernel
    refine ⟨hascii, by decide +kernel, ?_⟩
    rw [hread]
    exact onInput_self sealedMessageText (some sealedMessage)
  signedKey := fun key text _ h ↦ by
    obtain ⟨rfl, rfl⟩ := onInput_eq_ok h
    have hread : sealPrimitives.unmarshalSignedKey = onInput issuedKeyText issuedKey := rfl
    have hascii : ∀ c ∈ issuedKeyText, c < 128 := by decide +kernel
    refine ⟨hascii, by decide +kernel, ?_⟩
    rw [hread]
    exact onInput_self issuedKeyText issuedKey
  parsePKIXPublicKey_nil := fun key h ↦ by
    have hne : [] ≠ fromBase64 intermediateKey := by decide +kernel
    have hparse : onInput (fromBase64 intermediateKey)
        (ParsedPublicKey.ecdsa (fromBase64 intermediateKey)) [] = .ok key := h
    exact hne (onInput_eq_ok hparse).1

theorem sealedJson_roundTrips : sealedJson.RoundTrips sealedToken := by
  have hread : sealedJson.unmarshal = onInput sealedTokenText sealedToken := rfl
  intro _
  refine ⟨sealedTokenText, rfl, ?_⟩
  rw [hread]
  exact onInput_self sealedTokenText sealedToken

instance : DecidableEq sealPrimitives.PublicKey := inferInstanceAs (DecidableEq Bytes)

theorem issuedCert_issued :
    IssuedFor (s := sealPrimitives) [rootPrivateKey] Yandex 1600000000000000000
      intermediatePrivateKey issuedCert where
  made := by
    refine ⟨intermediateKey, 1893456000000000000, _, fun _ ↦ [], rfl, ?_, ?_, by decide⟩
    · decide +kernel
    · decide +kernel

def sealRecipient : Recipient sealPrimitives.toPrimitives where
  recipientID := utf8 "someRecipient"
  senderID := Yandex
  senderVerifyingKeySet := some ⟨[
    some ⟨ProtocolVersionECv2, some (fromBase64 otherRootKey), 1893456000000000000⟩,
    some ⟨ProtocolVersionECv2, some (fromBase64 rootKey), 1893456000000000000⟩,
    some ⟨utf8 "ECv1", none, 1893456000000000000⟩]⟩
  recipientPrivateKeys := [wrongKey, recipientKey]

theorem sealRecipient_trusts (keyset : SenderVerifyingKeySet sealPrimitives.toPrimitives)
    (h : sealRecipient.senderVerifyingKeySet = some keyset) :
    Trusts (s := sealPrimitives) [rootPrivateKey] keyset := by
  obtain rfl := Option.some.inj h
  refine ⟨⟨rootPrivateKey, List.mem_singleton_self _, ⟨ProtocolVersionECv2,
    some (fromBase64 rootKey), 1893456000000000000⟩, by simp, rfl,
    congrArg some publicKey_rootPrivateKey.symm⟩, ?_⟩
  intro pointer hpointer
  simp only [List.mem_cons, List.not_mem_nil, or_false] at hpointer
  rcases hpointer with rfl | rfl | rfl
  · exact ⟨_, rfl, fun _ ↦ ⟨_, _, rfl, rfl⟩⟩
  · exact ⟨_, rfl, fun _ ↦ ⟨_, _, rfl, rfl⟩⟩
  · exact ⟨_, rfl, fun hversion ↦ absurd hversion (by decide)⟩

theorem sealRecipient_configured :
    ConfiguredFor (s := sealPrimitives) Yandex (utf8 "someRecipient") [rootPrivateKey]
      recipientKey sealRecipient where
  senderID_eq := rfl
  recipientID_eq := rfl
  trusts := ⟨_, rfl, sealRecipient_trusts _ rfl⟩
  key := List.mem_cons_of_mem _ List.mem_cons_self

theorem sealedKey_eq :
    eciesHKDFSenderKEMKey sealPrimitives hashAlgoSHA256 [] Yandex 64 pointFormatUncompressed
      ⟨(), (sealPrimitives.publicKey recipientKey).drop 26⟩ ephemeralKey =
      .ok ⟨ephemeralPoint, agreedKey⟩ := by
  decide +kernel

theorem sealedCiphertext_eq :
    aesCTR sealPrimitives.toPrimitives (agreedKey.take 32) (utf8 "this_is_the_message") =
      .ok sealedCiphertext := by
  decide +kernel

theorem sealedTag_eq :
    hmacSHA256 sealPrimitives.toPrimitives (agreedKey.drop 32) sealedCiphertext =
      .ok sealedTag := by
  have h : onInputs authenticationCodes (agreedKey.drop 32, 32, sealedCiphertext) =
      .ok sealedTag := onInputs_cons_self _ _ _
  exact h

/-- The other key of the recipient computes another code. -/
theorem wrongKey_failsMac :
    sealPrimitives.FailsMac (sealPrimitives.publicKey recipientKey) ephemeralKey Yandex
      (utf8 "this_is_the_message") wrongKey := by
  intro kemKey ciphertext tag demKey hkemKey hciphertext htag hdemKey
  obtain rfl := Outcome.ok.inj (sealedKey_eq.symm.trans hkemKey)
  obtain rfl := Outcome.ok.inj (sealedCiphertext_eq.symm.trans hciphertext)
  obtain rfl := Outcome.ok.inj (sealedTag_eq.symm.trans htag)
  have hderived : eciesHKDFRecipientKEM sealPrimitives.toPrimitives ephemeralPoint hashAlgoSHA256
      [] Yandex 64 pointFormatUncompressed wrongKey = .ok wrongDerivedKey := by decide +kernel
  obtain rfl := Outcome.ok.inj (hderived.symm.trans hdemKey)
  have hwrong : ¬ hmacSHA256 sealPrimitives.toPrimitives (wrongDerivedKey.drop 32)
      sealedCiphertext = .ok sealedTag := by decide +kernel
  exact hwrong

/-- The sender of the certificate. -/
def sealSender : Sender sealPrimitives where
  pvc := ecV2
  signer := fun _ data ↦ onInputs madeSignatures (intermediatePrivateKey, data)
  senderID := Yandex
  intermediateSigningCert := some issuedCert

theorem sealSender_seals :
    sealSender.Seal (ephemeralKey, []) (utf8 "someRecipient") (utf8 "this_is_the_message")
      (sealPrimitives.publicKey recipientKey) = .ok sealedToken := by
  have hsize : 32 ≤ agreedKey.length := by decide +kernel
  have hencrypt : sealSender.encrypt ephemeralKey (utf8 "this_is_the_message") Yandex
      ⟨(), (sealPrimitives.publicKey recipientKey).drop 26⟩ = .ok sealedMessage :=
    bind_eq_ok.mpr ⟨_, sealedKey_eq, bind_eq_ok.mpr ⟨_, if_pos hsize,
      bind_eq_ok.mpr ⟨_, if_pos hsize, bind_eq_ok.mpr ⟨_, sealedCiphertext_eq,
        bind_eq_ok.mpr ⟨_, sealedTag_eq, rfl⟩⟩⟩⟩⟩
  have hmarshal : sealPrimitives.marshalSignedMessage sealedMessage = .ok sealedMessageText := by
    have hwrite : sealPrimitives.marshalSignedMessage =
        onInput sealedMessage sealedMessageText := rfl
    rw [hwrite]
    exact onInput_self sealedMessage sealedMessageText
  have hsign : sealSender.signer [] (toLengthValue [sealSender.senderID, utf8 "someRecipient",
      ProtocolVersionECv2, sealedMessageText]) = .ok sealedSignature := by
    have hsigner : ∀ data, sealSender.signer [] data =
        onInputs madeSignatures (intermediatePrivateKey, data) := fun _ ↦ rfl
    have hsenderID : sealSender.senderID = Yandex := rfl
    rw [hsigner, hsenderID, madeSignatures,
      onInputs_cons_of_ne fun h ↦ privateKeys_ne (congrArg Prod.fst h), onInputs_cons_self]
  exact (seal_eq_ok rfl).mpr ⟨sealedMessage, sealedMessageText, sealedSignature, hencrypt,
    hmarshal, hsign, rfl⟩

theorem unseal_seal_witness :
    ∃ text, sealedToken.Serialize sealedJson = .ok text ∧
      ∃ parsed, ParseToken sealedJson text = .ok parsed ∧
        sealRecipient.Unseal 1600000000000000000 (some parsed) =
          .ok (utf8 "this_is_the_message") := by
  refine unseal_seal sealPrimitives sealPrimitives_correct sealPrimitives_returns sealedJson
    1600000000000000000 Yandex (utf8 "someRecipient") (utf8 "this_is_the_message")
    [rootPrivateKey] intermediatePrivateKey recipientKey issuedCert issuedCert_issued sealSender
    rfl (ephemeralKey, []) sealedToken sealSender_seals sealedJson_roundTrips sealRecipient
    sealRecipient_configured ?_
  intro other hother hne
  rcases List.mem_pair.mp hother with rfl | rfl
  · exact wrongKey_failsMac
  · exact absurd rfl hne

end YandexPay.PaymentToken
