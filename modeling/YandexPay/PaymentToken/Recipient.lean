import YandexPay.PaymentToken.Certificate

/-!
# Unsealing a token

`recipient.go` of `duckgo/paymenttoken`. `Recipient.Unseal` verifies the signature of a token with
the key that its certificate certifies, and decrypts the signed message with the first private key
that fits. `Authentic` is what a message stands for, layer by layer, and `unseal_authentic` shows
it of every message that is returned.
-/

set_option autoImplicit false
set_option relaxedAutoImplicit false

namespace YandexPay.PaymentToken

open Outcome

structure Recipient (p : Primitives) where
  recipientID : Bytes
  senderID : Bytes
  senderVerifyingKeySet : Option (SenderVerifyingKeySet p)
  recipientPrivateKeys : List p.PrivateKey

variable {p : Primitives}

/-! ### Verification -/

/-- `Recipient.verifySignature` -/
def verifySignature (p : Primitives) (verifyingKey : p.PublicKey) (signature signedBytes : Bytes) :
    Outcome Unit := do
  let verifier ← p.newECDSAVerifier hashAlgoSHA256 encodingDER (some verifyingKey)
  match verifier signature signedBytes with
  | .ok _ => return ()
  | .err _ => .err (.errorf "paymenttoken: cannot verify signature" [])
  | .panic => .panic

/-- `Recipient.verify` -/
def Recipient.verify (r : Recipient p) (now : ℤ) (token : Token) : Outcome Bytes := do
  let signature ← Base64.decodeString token.signature
  let signedBytes := toLengthValue [r.senderID, r.recipientID, token.protocolVersion,
    token.signedMessage]
  let verifyingKey ← validateAndGetSigningKey p now token.intermediateSigningCert r.senderID
    token.protocolVersion r.senderVerifyingKeySet
  verifySignature p verifyingKey signature signedBytes
  return token.signedMessage

/-! ### Decryption -/

/-- `b[n:]` -/
def sliceFrom (b : Bytes) (n : ℕ) : Outcome Bytes :=
  if n ≤ b.length then .ok (b.drop n) else .panic

/-- `Recipient.decrypt` -/
def decrypt (p : Primitives) (signedMessage : Option SignedMessage) (contextInfo : Bytes)
    (privateKey : p.PrivateKey) (pvc : ProtocolVersionConfig) : Outcome Bytes := do
  let demKemSize := pvc.aesCtrKeySize + pvc.hmacSha256KeySize
  let signedMessage ← deref signedMessage
  let ephemeralPublicKey ← Base64.decodeString signedMessage.ephemeralPublicKey
  let demKey ← eciesHKDFRecipientKEM p ephemeralPublicKey hashAlgoSHA256 [] contextInfo demKemSize
    pointFormatUncompressed privateKey
  let hmacSha256Key ← sliceFrom demKey pvc.aesCtrKeySize
  let ciphertext ← Base64.decodeString signedMessage.encryptedMessage
  let computedTag ← hmacSHA256 p hmacSha256Key ciphertext
  let expectedTag ← Base64.decodeString signedMessage.tag
  require (expectedTag = computedTag) (.errorf "paymenttoken: cannot decrypt; invalid MAC" [])
  aesCTR p (demKey.take pvc.aesCtrKeySize) ciphertext

/-- `Recipient.tryDecrypt`; `errs` are the errors of the keys already tried. -/
def tryDecrypt (p : Primitives) (signedMessage : Option SignedMessage) (contextInfo : Bytes)
    (pvc : ProtocolVersionConfig) (errs : List GoError) : List p.PrivateKey → Outcome Bytes
  | [] => .err (.errorsf "paymenttoken: can't decrypt: %v" errs)
  | privateKey :: privateKeys =>
    match decrypt p signedMessage contextInfo privateKey pvc with
    | .ok data => .ok data
    | .err e => tryDecrypt p signedMessage contextInfo pvc (errs ++ [e]) privateKeys
    | .panic => .panic

/-- `Recipient.Unseal`; `now` is the time, in nanoseconds, at which the certificate is checked. -/
def Recipient.Unseal (r : Recipient p) (now : ℤ) (token : Option Token) : Outcome Bytes := do
  let token ← deref token
  token.validate
  require (token.protocolVersion = ecV2.protocolVersion)
    (.errorf "paymenttoken: unsupported protocol version %s" token.protocolVersion)
  let messageBytes ← r.verify now token
  let protocol ← ofOption
    (.errorf "paymenttoken: possible bug, cant fing protocol %s" token.protocolVersion)
    (protocolConfigs token.protocolVersion)
  if protocol.isEncryptionRequired then
    let signedMessage ← p.unmarshalSignedMessage messageBytes
    tryDecrypt p signedMessage r.senderID protocol [] r.recipientPrivateKeys
  else return messageBytes

/-! ### Authenticity -/

/-- The message is what the encrypted message decrypts to, with keys that are derived by the
private key and whose message authentication code is right. -/
structure Decrypts (p : Primitives) (signedMessage : SignedMessage) (contextInfo : Bytes)
    (privateKey : p.PrivateKey) (message : Bytes) : Prop where
  keys : ∃ kem demKey ciphertext tag,
    Base64.decodeString signedMessage.ephemeralPublicKey = .ok kem ∧
    eciesHKDFRecipientKEM p kem hashAlgoSHA256 [] contextInfo 64 pointFormatUncompressed
      privateKey = .ok demKey ∧
    Base64.decodeString signedMessage.encryptedMessage = .ok ciphertext ∧
    Base64.decodeString signedMessage.tag = .ok tag ∧
    hmacSHA256 p (demKey.drop 32) ciphertext = .ok tag ∧
    aesCTR p (demKey.take 32) ciphertext = .ok message

/-- What a message of a token stands for. -/
structure Authentic (r : Recipient p) (now : ℤ) (token : Token) (message : Bytes) : Prop where
  version : token.protocolVersion = ProtocolVersionECv2
  sender : ∃ cert keyset signingKey, token.intermediateSigningCert = some cert ∧
    r.senderVerifyingKeySet = some keyset ∧
    Certifies p now cert r.senderID ProtocolVersionECv2 keyset signingKey ∧
    Verifies p (some signingKey) token.signature
      (toLengthValue [r.senderID, r.recipientID, ProtocolVersionECv2, token.signedMessage])
  message : ∃ signedMessage,
    p.unmarshalSignedMessage token.signedMessage = .ok (some signedMessage) ∧
    ∃ privateKey ∈ r.recipientPrivateKeys, Decrypts p signedMessage r.senderID privateKey message

theorem verifySignature_ok {verifyingKey : p.PublicKey} {signature decoded signedBytes : Bytes}
    {u : Unit} (hdecode : Base64.decodeString signature = .ok decoded)
    (h : verifySignature p verifyingKey decoded signedBytes = .ok u) :
    Verifies p (some verifyingKey) signature signedBytes := by
  obtain ⟨verifier, hverifier, hverify⟩ := bind_eq_ok.mp h
  refine ⟨decoded, verifier, hdecode, hverifier, ?_⟩
  cases haccepted : verifier decoded signedBytes with
  | ok v => rfl
  | err e =>
    rw [haccepted] at hverify
    cases hverify
  | panic =>
    rw [haccepted] at hverify
    cases hverify

theorem verify_ok {r : Recipient p} {now : ℤ} {token : Token} {message : Bytes}
    (h : r.verify now token = .ok message) :
    message = token.signedMessage ∧ ∃ cert keyset signingKey,
      token.intermediateSigningCert = some cert ∧ r.senderVerifyingKeySet = some keyset ∧
      Certifies p now cert r.senderID token.protocolVersion keyset signingKey ∧
      Verifies p (some signingKey) token.signature
        (toLengthValue [r.senderID, r.recipientID, token.protocolVersion,
          token.signedMessage]) := by
  simp only [Recipient.verify, bind_eq_ok, pure_eq_ok] at h
  obtain ⟨signature, hsignature, signingKey, hkey, u, hverify, rfl⟩ := h
  obtain ⟨cert, keyset, hcert, hkeyset, hcertifies⟩ := validateAndGetSigningKey_ok hkey
  exact ⟨rfl, cert, keyset, signingKey, hcert, hkeyset, hcertifies,
    verifySignature_ok hsignature hverify⟩

theorem decrypt_ok {pointer : Option SignedMessage} {contextInfo : Bytes}
    {privateKey : p.PrivateKey} {message : Bytes}
    (h : decrypt p pointer contextInfo privateKey ecV2 = .ok message) :
    ∃ signedMessage, pointer = some signedMessage ∧
      Decrypts p signedMessage contextInfo privateKey message := by
  simp only [decrypt, bind_eq_ok, deref_eq_ok, require_eq_ok, decide_eq_true_eq] at h
  obtain ⟨signedMessage, rfl, kem, hkem, demKey, hdemKey, hmacKey, hslice, ciphertext, hciphertext,
    computedTag, hmac, expectedTag, htag, u, rfl, hmessage⟩ := h
  refine ⟨signedMessage, rfl, kem, demKey, ciphertext, expectedTag, hkem, hdemKey, hciphertext,
    htag, ?_, hmessage⟩
  unfold sliceFrom at hslice
  split_ifs at hslice
  obtain rfl := Outcome.ok.inj hslice
  exact hmac

/-- The loop stops at the first private key that decrypts. -/
theorem tryDecrypt_ok {pointer : Option SignedMessage} {contextInfo : Bytes}
    {privateKeys : List p.PrivateKey} {errs : List GoError} {message : Bytes}
    (h : tryDecrypt p pointer contextInfo ecV2 errs privateKeys = .ok message) :
    ∃ signedMessage, pointer = some signedMessage ∧ ∃ privateKey ∈ privateKeys,
      Decrypts p signedMessage contextInfo privateKey message := by
  induction privateKeys generalizing errs with
  | nil => cases h
  | cons privateKey privateKeys ih =>
    rw [tryDecrypt] at h
    cases hdecrypt : decrypt p pointer contextInfo privateKey ecV2 with
    | ok data =>
      rw [hdecrypt] at h
      obtain rfl := Outcome.ok.inj h
      obtain ⟨signedMessage, hpointer, hdecrypts⟩ := decrypt_ok hdecrypt
      exact ⟨signedMessage, hpointer, privateKey, List.mem_cons_self, hdecrypts⟩
    | err e =>
      rw [hdecrypt] at h
      obtain ⟨signedMessage, hpointer, other, hmem, hdecrypts⟩ := ih h
      exact ⟨signedMessage, hpointer, other, List.mem_cons_of_mem _ hmem, hdecrypts⟩
    | panic =>
      rw [hdecrypt] at h
      cases h

/-- Every message that is unsealed is authentic. -/
theorem unseal_authentic (p : Primitives) (r : Recipient p) (now : ℤ) (token : Token)
    (message : Bytes) (h : r.Unseal now (some token) = .ok message) :
    Authentic r now token message := by
  simp only [Recipient.Unseal, bind_eq_ok, deref_eq_ok, Option.some.injEq, require_eq_ok,
    decide_eq_true_eq, ofOption_eq_ok] at h
  obtain ⟨t, rfl, u, -, v, hversion, signed, hverify, protocol, hprotocol, h⟩ := h
  obtain ⟨rfl, hsender⟩ := verify_ok hverify
  have hecV2 : protocol = ecV2 := by
    rw [protocolConfigs, if_pos hversion] at hprotocol
    exact (Option.some.inj hprotocol).symm
  subst hecV2
  rw [if_pos (show ecV2.isEncryptionRequired = true from rfl), bind_eq_ok] at h
  obtain ⟨pointer, hpointer, hdecrypt⟩ := h
  obtain ⟨signedMessage, rfl, hprivateKey⟩ := tryDecrypt_ok hdecrypt
  have hversion' : token.protocolVersion = ProtocolVersionECv2 := hversion
  rw [hversion'] at hsender
  exact ⟨hversion', hsender, signedMessage, hpointer, hprivateKey⟩

/-! ### A sealed token -/

def fromBase64 (text : Bytes) : Bytes := (Base64.decodeGroups text).getD []

def rootKey : Bytes := utf8 <|
  "MFkwEwYHKoZIzj0CAQYIKoZIzj0DAQcDQgAE/1+3HBVSbdv+j7NaArdgMyoSAM43yRydzqdg1TxodSzA96Dj4Mc1" ++
  "EiKroxxunavVIvdxGnJeFViTzFvzFRxyCw=="

def signingKey : Bytes := utf8 <|
  "MFkwEwYHKoZIzj0CAQYIKoZIzj0DAQcDQgAEKpknQXx62/6E39I8//jPkdAABWLytmK6vSAy5I+qEzynnPPzJE3X" ++
  "Wrq6LHCGYZ/YY1bJQpAs4ZlVXxGqogtrPw=="

def keyExpiration : Bytes := utf8 "1608921887227"

/-- The JSON of the signed key. -/
def signedKeyText : Bytes :=
  utf8 "\x7b\"keyValue\":\"" ++ signingKey ++ utf8 "\",\"keyExpiration\":\"" ++ keyExpiration ++
    utf8 "\"\x7d"

def concreteMessage : SignedMessage where
  encryptedMessage := utf8 "HikXf+fAoCEJQzTrlNecLYc47w=="
  tag := utf8 "LL6u1sLL/88kaybyMdMW4zkwfcHca9mfa+qNOIj4BF0="
  ephemeralPublicKey := utf8 <|
    "BJp4HKbQVafzDQyf+Hk2xzn2gW719ecrS5RkBLChqDsqwZ+EKUXqK/ZaoWSbKwL/eYVMjV7PzUA4YuipfqZsccE="

/-- The JSON of the signed message. -/
def signedMessageText : Bytes :=
  utf8 "\x7b\"encryptedMessage\":\"" ++ concreteMessage.encryptedMessage ++
    utf8 "\",\"tag\":\"" ++ concreteMessage.tag ++
    utf8 "\",\"ephemeralPublicKey\":\"" ++ concreteMessage.ephemeralPublicKey ++ utf8 "\"\x7d"

def concreteCert : IntermediateSigningCert where
  signedKey := signedKeyText
  signatures := [utf8 <|
    "MEUCIQCOGr55ko4cvrYIvScsyLbSNOj5wa4lE0xGE5ywB4wUMgIgZ2lTjgPQSCcYKp2CYQUC1YZWDMu/OTXzGiXI" ++
    "rNoCHqM="]

def concreteToken : Token where
  signedMessage := signedMessageText
  protocolVersion := ProtocolVersionECv2
  signature := utf8 <|
    "MEUCIF/1guZatR5gIcqDuaPNKr5i7d7LrEVh/adSJJe/xeWaAiEAofCUjQDW5q9iQG7uK3GPY7BlzyuuQFnHr89H" ++
    "lQ/7jLE="
  intermediateSigningCert := some concreteCert

/-- What ECDSA accepts of the key of the certificate and of the token. -/
def acceptedSignatures : List (Bytes × Bytes × Bytes) :=
  [(fromBase64 rootKey, concreteCert.signatures.flatMap fromBase64,
      toLengthValue [utf8 "Yandex", ProtocolVersionECv2, signedKeyText]),
    (fromBase64 signingKey, fromBase64 concreteToken.signature,
      toLengthValue [utf8 "Yandex", utf8 "someRecipient", ProtocolVersionECv2,
        signedMessageText])]

def recipientKey : Bytes := fromBase64 (utf8 "CPSuFr4iSIaQprjjchHPyDu2NXFe0vDBoTpPkYaK9dc=")

def sharedSecret : Bytes := fromBase64 (utf8 "FMmrOGEfht/Bo+7B7aIr22l4RrEchLFNyfEOaDx738M=")

def derivedKey : Bytes := fromBase64 <| utf8 <|
  "6AD90Ms/QMD8cCVFDS7WNSl7aCwbuAo34BdajFJlIYFFXY5ogEKuTfsR6drIBj3X1ioiG15jGTThKXX4t4LpAw=="

def keyStream : List (Bytes × Bytes) :=
  [(counterBlock 0, fromBase64 (utf8 "akF+DLip0359K1G0+bLvXg==")),
    (counterBlock 1, fromBase64 (utf8 "5l+KXJcMSL7ag1kudIkCAA=="))]

/-- A function that is known on one input. -/
def onInput {α β : Type} [DecidableEq α] (input : α) (output : β) (x : α) : Outcome β :=
  if x = input then .ok output else .err (.library "another input")

theorem onInput_self {α β : Type} [DecidableEq α] (input : α) (output : β) :
    onInput input output input = .ok output := if_pos rfl

/-- The primitives on the inputs of one token; keys are their PKIX form, points and numbers their
bytes. -/
def concretePrimitives : Primitives where
  PublicKey := Bytes
  PrivateKey := Bytes
  Point := Bytes
  unmarshalSignedKey := onInput signedKeyText ⟨signingKey, keyExpiration⟩
  unmarshalSignedMessage := onInput signedMessageText (some concreteMessage)
  unmarshalVerifyingKeySet := fun _ ↦ .err (.library "another input")
  parsePKIXPublicKey := onInput (fromBase64 signingKey) (.ecdsa (fromBase64 signingKey))
  newECDSAVerifier := fun _ _ publicKey ↦ do
    let publicKey ← deref publicKey
    return fun signature signedBytes ↦ require ((publicKey, signature, signedBytes) ∈
      acceptedSignatures) (.library "ecdsa: invalid signature")
  pointDecode := fun _ _ ↦
    onInput (fromBase64 concreteMessage.ephemeralPublicKey)
      (fromBase64 concreteMessage.ephemeralPublicKey)
  computeSharedSecret := fun point privateKey ↦
    onInput (fromBase64 concreteMessage.ephemeralPublicKey, recipientKey) sharedSecret
      (point, privateKey)
  computeHKDF := fun _ key salt info size ↦
    onInput (fromBase64 concreteMessage.ephemeralPublicKey ++ sharedSecret, ([] : Bytes),
      utf8 "Yandex", 64) derivedKey (key, salt, info, size)
  newHMAC := fun _ key size ↦
    onInput (derivedKey.drop 32, 32)
      (onInput (fromBase64 concreteMessage.encryptedMessage) (fromBase64 concreteMessage.tag))
      (key, size)
  newCipher := onInput (derivedKey.take 32) fun block ↦ (keyStream.lookup block).getD []

def concreteRecipient : Recipient concretePrimitives where
  recipientID := utf8 "someRecipient"
  senderID := utf8 "Yandex"
  senderVerifyingKeySet :=
    some ⟨[some ⟨ProtocolVersionECv2, some (fromBase64 rootKey), 1608921887227000000⟩]⟩
  recipientPrivateKeys := [recipientKey]

/-- The token unseals before its certificate expires. -/
theorem unseal_authentic_witness :
    Authentic concreteRecipient 1600000000000000000 concreteToken (utf8 "this_is_the_message") :=
  unseal_authentic concretePrimitives concreteRecipient 1600000000000000000 concreteToken
    (utf8 "this_is_the_message") (by decide +kernel)

end YandexPay.PaymentToken
