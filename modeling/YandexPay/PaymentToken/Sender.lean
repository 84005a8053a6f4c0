import YandexPay.PaymentToken.Serialize

/-!
# Sealing a token

`sender.go`, the factory of `intermediate_signing_cert.go` and the sender's half of
`crypto_utils.go`. `Sender.Seal` encrypts a message for the public key of a recipient and signs it.
The bytes that a random source yields are an argument of each function that reads it.

`SenderPrimitives` adds to `Primitives` the functions of other packages that the sender calls.
-/

set_option autoImplicit false
set_option relaxedAutoImplicit false

namespace YandexPay.PaymentToken

open Outcome

/-- `Yandex`, the default sender. -/
def Yandex : Bytes := utf8 "Yandex"

/-- The functions of other packages on the side of the sender. A private key of ECDSA has its public
key. -/
structure SenderPrimitives extends Primitives where
  Curve : Type
  Random : Type
  ECDSAPrivateKey : Type
  publicKey : ECDSAPrivateKey → PublicKey
  /-- The curve of a public key. -/
  curve : PublicKey → Curve
  /-- The coordinates of a public key. -/
  point : PublicKey → Point
  /-- The key of `hybrid` that `WithPrivateKey` makes. -/
  hybridPrivateKey : ECDSAPrivateKey → PrivateKey
  /-- The curve of the public key of a key pair. -/
  pairCurve : PrivateKey → Curve
  /-- The point of the public key of a key pair. -/
  pairPoint : PrivateKey → Point
  generateECDHKeyPair : Curve → Random → Outcome PrivateKey
  pointEncode : Curve → String → Point → Outcome Bytes
  /-- `NewECDSASignerFromPrivateKey`; a signer takes the bytes to sign. -/
  newECDSASigner : String → String → ECDSAPrivateKey → Outcome (Random → Bytes → Outcome Bytes)
  /-- `json.Marshal` of a `SignedMessage`. -/
  marshalSignedMessage : SignedMessage → Outcome Bytes
  /-- `json.Marshal` of a `SignedKey`. -/
  marshalSignedKey : SignedKey → Outcome Bytes

variable (s : SenderPrimitives)

/-! ### Encryption -/

/-- `hybrid.ECPublicKey` -/
structure ECPublicKey where
  Curve : s.Curve
  Point : s.Point

structure KemKey where
  Kem : Bytes
  SymmetricKey : Bytes

def eciesHKDFSenderKEMKey (hashAlg : String) (salt info : Bytes) (keySize : ℕ)
    (pointFormat : String) (recipientPublicKey : ECPublicKey s) (random : s.Random) :
    Outcome KemKey := do
  let pvt ← s.generateECDHKeyPair recipientPublicKey.Curve random
  let secret ← s.computeSharedSecret recipientPublicKey.Point pvt
  let sdata ← s.pointEncode (s.pairCurve pvt) pointFormat (s.pairPoint pvt)
  let sKey ← s.computeHKDF hashAlg (sdata ++ secret) salt info keySize
  return ⟨sdata, sKey⟩

/-- `b[:n]` -/
def sliceTo (b : Bytes) (n : ℕ) : Outcome Bytes :=
  if n ≤ b.length then .ok (b.take n) else .panic

structure Sender where
  pvc : ProtocolVersionConfig
  signer : s.Random → Bytes → Outcome Bytes
  senderID : Bytes
  intermediateSigningCert : Option IntermediateSigningCert

variable {s}

/-- `Sender.encrypt` -/
def Sender.encrypt (ts : Sender s) (random : s.Random) (plaintext contextInfo : Bytes)
    (recipientPublicKey : ECPublicKey s) : Outcome SignedMessage := do
  let symmetricKeySize := ts.pvc.aesCtrKeySize + ts.pvc.hmacSha256KeySize
  let kemKey ← eciesHKDFSenderKEMKey s hashAlgoSHA256 [] contextInfo symmetricKeySize
    pointFormatUncompressed recipientPublicKey random
  let aesCtrKey ← sliceTo kemKey.SymmetricKey ts.pvc.aesCtrKeySize
  let hmacKey ← sliceFrom kemKey.SymmetricKey ts.pvc.aesCtrKeySize
  let ciphertext ← aesCTR s.toPrimitives aesCtrKey plaintext
  let tag ← hmacSHA256 s.toPrimitives hmacKey ciphertext
  return {
    encryptedMessage := Base64.encodeToString ciphertext
    tag := Base64.encodeToString tag
    ephemeralPublicKey := Base64.encodeToString kemKey.Kem }

/-! ### Signing -/

/-- `Sender.signV1OrV2` -/
def Sender.signV1OrV2 (ts : Sender s) (random : s.Random) (recipientID message : Bytes) :
    Outcome Token := do
  let toSignBytes := toLengthValue [ts.senderID, recipientID, ts.pvc.protocolVersion, message]
  let signature ← ts.signer random toSignBytes
  return {
    signedMessage := message
    protocolVersion := ts.pvc.protocolVersion
    signature := Base64.encodeToString signature
    intermediateSigningCert := ts.intermediateSigningCert }

/-- `Sender.sealV1OrV2`; the random bytes are those of the key pair and of the signature. -/
def Sender.sealV1OrV2 (ts : Sender s) (random : s.Random × s.Random) (recipientID message : Bytes)
    (recipientPublicKey : s.PublicKey) : Outcome Token := do
  if ts.pvc.isEncryptionRequired then
    let rpk : ECPublicKey s := ⟨s.curve recipientPublicKey, s.point recipientPublicKey⟩
    let tokenEncryptResult ← ts.encrypt random.1 message ts.senderID rpk
    let encryptedBytes ← s.marshalSignedMessage tokenEncryptResult
    ts.signV1OrV2 random.2 recipientID encryptedBytes
  else ts.signV1OrV2 random.2 recipientID message

def Sender.Seal (ts : Sender s) (random : s.Random × s.Random) (recipientID message : Bytes)
    (recipientPublicKey : s.PublicKey) : Outcome Token :=
  ts.sealV1OrV2 random recipientID message recipientPublicKey

def WithSenderID (senderID : Bytes) (sender : Sender s) : Sender s :=
  { sender with senderID := senderID }

variable (s)

def NewSender (senderIntermediateSigningKey : Option s.ECDSAPrivateKey)
    (intermediateSigningCert : Option IntermediateSigningCert) (opts : List (Sender s → Sender s)) :
    Outcome (Sender s) := do
  let key ← ofOption (.errorf "paymenttoken: must set sender's intermediate signing key" [])
    senderIntermediateSigningKey
  let signer ← s.newECDSASigner hashAlgoSHA256 encodingDER key
  let sender : Sender s :=
    { pvc := ecV2
      signer := signer
      intermediateSigningCert := intermediateSigningCert
      senderID := Yandex }
  return opts.foldl (fun sender opt ↦ opt sender) sender

/-! ### The factory of certificates -/

structure IntermediateSigningCertFactory where
  signers : List (s.Random → Bytes → Outcome Bytes)
  protocolVersion : ProtocolVersion
  senderID : Bytes
  intermediateSigningKey : Bytes
  /-- The time in nanoseconds. -/
  expirationTime : ℤ

/-- The loop of `NewIntermediateSigningCertFactory`. -/
def newSigners : List s.ECDSAPrivateKey → Outcome (List (s.Random → Bytes → Outcome Bytes))
  | [] => return []
  | key :: keys => do
    let signer ← s.newECDSASigner hashAlgoSHA256 encodingDER key
    return signer :: (← newSigners keys)

def NewIntermediateSigningCertFactory (senderSigningKeys : List s.ECDSAPrivateKey)
    (protocolVersion : ProtocolVersion) (senderID intermediateSigningKey : Bytes)
    (expirationTime : ℤ) : Outcome (IntermediateSigningCertFactory s) := do
  return ⟨← newSigners s senderSigningKeys, protocolVersion, senderID, intermediateSigningKey,
    expirationTime⟩

/-- `Time.UnixNano`, which is a number of 64 bits. -/
def unixNano (time : ℤ) : ℤ := time.bmod (2 ^ 64)

variable {s}

/-- The loop of `CreateIntermediateSigningCert`, with the random bytes of each signature. -/
def signAll {ρ : Type} (toSignBytes : Bytes) :
    List (ρ → Bytes → Outcome Bytes) → (ℕ → ρ) → Outcome (List Bytes)
  | [], _ => return []
  | signer :: signers, random => do
    let signature ← signer (random 0) toSignBytes
    return Base64.encodeToString signature ::
      (← signAll toSignBytes signers fun i ↦ random (i + 1))

/-- `CreateIntermediateSigningCert` -/
def IntermediateSigningCertFactory.CreateIntermediateSigningCert
    (f : IntermediateSigningCertFactory s) (random : ℕ → s.Random) :
    Outcome IntermediateSigningCert := do
  let signedKey ← s.marshalSignedKey
    { keyValue := f.intermediateSigningKey
      keyExpiration := formatInt ((unixNano f.expirationTime).tdiv 1000000) }
  let toSignBytes := toLengthValue [f.senderID, f.protocolVersion, signedKey]
  return ⟨signedKey, ← signAll toSignBytes f.signers random⟩

end YandexPay.PaymentToken
