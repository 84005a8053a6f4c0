import YandexPay.Library.Base64

/-!
# Payment tokens and their primitives

`token.go`, `verifying_keys.go`, `util.go`, `protocol_version_config.go` and `crypto_utils.go` of
`duckgo/paymenttoken`. A `Token` carries a signed message and an intermediate certificate, which
certifies the key that signed the message by signatures of root keys.

`Primitives` are the functions of other packages: elliptic curves, key derivation, message
authentication, the block cipher and the reading of JSON and of public keys. Everything that the
repository itself does with their results is defined here over them.
-/

set_option autoImplicit false
set_option relaxedAutoImplicit false

namespace YandexPay.PaymentToken

open Outcome

/-! ### Data -/

abbrev ProtocolVersion := Bytes

def ProtocolVersionECv2 : ProtocolVersion := utf8 "ECv2"

def pointFormatUncompressed : String := "UNCOMPRESSED"

def hashAlgoSHA256 : String := "SHA256"

def encodingDER : String := "DER"

structure IntermediateSigningCert where
  signedKey : Bytes
  signatures : List Bytes

structure Token where
  signedMessage : Bytes
  protocolVersion : ProtocolVersion
  signature : Bytes
  intermediateSigningCert : Option IntermediateSigningCert

structure SignedMessage where
  encryptedMessage : Bytes
  tag : Bytes
  ephemeralPublicKey : Bytes

/-- A key with its expiration time in milliseconds. -/
structure SignedKey where
  keyValue : Bytes
  keyExpiration : Bytes

/-- `parsedVerifyingKey`: a root key as its JSON has it. -/
structure ParsedVerifyingKey where
  keyValue : Bytes
  keyExpiration : Bytes
  protocolVersion : ProtocolVersion

/-- `protocolVersionConfig` -/
structure ProtocolVersionConfig where
  protocolVersion : ProtocolVersion
  aesCtrKeySize : ℕ
  hmacSha256KeySize : ℕ
  isEncryptionRequired : Bool

def ecV2 : ProtocolVersionConfig where
  protocolVersion := ProtocolVersionECv2
  aesCtrKeySize := 256 / 8
  hmacSha256KeySize := 256 / 8
  isEncryptionRequired := true

def protocolConfigs (version : ProtocolVersion) : Option ProtocolVersionConfig :=
  if version = ecV2.protocolVersion then some ecV2 else none

/-! ### Validation -/

/-- `Token.validate` -/
def Token.validate (t : Token) : Outcome Unit := do
  require (t.signedMessage ≠ []) (.errorf "paymenttoken: signed message is required" [])
  require (t.protocolVersion ≠ []) (.errorf "paymenttoken: protocol version is required" [])
  require (t.signature ≠ []) (.errorf "paymenttoken: signature is required" [])

/-- `IntermediateSigningCert.validate` -/
def IntermediateSigningCert.validate (cert : IntermediateSigningCert) : Outcome Unit := do
  require (cert.signedKey ≠ []) (.errorf "paymenttoken: signed keys are required" [])
  require (cert.signatures ≠ []) (.errorf "paymenttoken: signatures are required" [])

/-- `time.Now().UnixNano() / int64(time.Millisecond)`; the division truncates. -/
def milliseconds (now : ℤ) : ℤ := now.tdiv 1000000

/-- `SignedKey.validate`; `now` is the time in nanoseconds. -/
def SignedKey.validate (now : ℤ) (sk : SignedKey) : Outcome Unit := do
  require (sk.keyValue ≠ []) (.errorf "paymenttoken: key value is required" [])
  require (sk.keyExpiration ≠ []) (.errorf "paymenttoken: key expiration is required" [])
  let expiration ← ofOption (.numError sk.keyExpiration) (parseInt sk.keyExpiration)
  require (¬ milliseconds now ≥ expiration)
    (.errorf "paymenttoken: expired intermediateSigningCert" [])

/-- A key that is valid has not expired, to the nanosecond. -/
theorem SignedKey.validate_ok {now : ℤ} {sk : SignedKey} {u : Unit}
    (h : sk.validate now = .ok u) :
    ∃ expiration, parseInt sk.keyExpiration = some expiration ∧ now < expiration * 1000000 := by
  simp only [validate, bind_eq_ok, require_eq_ok, ofOption_eq_ok] at h
  obtain ⟨-, -, -, -, expiration, hexpiration, hnow⟩ := h
  refine ⟨expiration, hexpiration, ?_⟩
  have hlt : milliseconds now < expiration := by simpa using hnow
  have hround : now < (milliseconds now + 1) * 1000000 :=
    Int.lt_tdiv_add_one_mul_self now (by decide)
  omega

/-! ### Primitives -/

/-- What `x509.ParsePKIXPublicKey` returns: a key of ECDSA, or of another type. -/
inductive ParsedPublicKey (κ : Type)
  | ecdsa (key : κ)
  | other (typeName : Bytes)

/-- The functions of other packages. -/
structure Primitives where
  PublicKey : Type
  PrivateKey : Type
  Point : Type
  /-- `json.Unmarshal` into a new `SignedKey`. -/
  unmarshalSignedKey : Bytes → Outcome SignedKey
  /-- `json.Unmarshal` into a pointer to a new `SignedMessage`; `null` makes the pointer nil. -/
  unmarshalSignedMessage : Bytes → Outcome (Option SignedMessage)
  /-- `json.Unmarshal` into a pointer to a new `parsedVerifyingKeySet`. -/
  unmarshalVerifyingKeySet : Bytes → Outcome (Option (List ParsedVerifyingKey))
  parsePKIXPublicKey : Bytes → Outcome (ParsedPublicKey PublicKey)
  /-- `NewECDSAVerifierFromPublicKey`; a verifier takes a signature and the signed bytes. -/
  newECDSAVerifier : String → String → Option PublicKey → Outcome (Bytes → Bytes → Outcome Unit)
  /-- `PointDecode` on the curve of the private key. -/
  pointDecode : PrivateKey → String → Bytes → Outcome Point
  computeSharedSecret : Point → PrivateKey → Outcome Bytes
  computeHKDF : String → Bytes → Bytes → Bytes → ℕ → Outcome Bytes
  newHMAC : String → Bytes → ℕ → Outcome (Bytes → Outcome Bytes)
  /-- `aes.NewCipher`; a cipher encrypts one block. -/
  newCipher : Bytes → Outcome (Bytes → Bytes)

/-! ### `crypto_utils.go` -/

/-- The big-endian bytes of a counter of 16 bytes. -/
def counterBlock (counter : ℕ) : Bytes :=
  (List.range 16).map fun i ↦ UInt8.ofNat (counter / 256 ^ (15 - i))

/-- `cipher.NewCTR(block, iv).XORKeyStream` with the counter starting at zero. -/
def xorKeyStream (encrypt : Bytes → Bytes) (data : Bytes) : Bytes :=
  data.zipIdx.map fun p ↦ p.1 ^^^ (encrypt (counterBlock (p.2 / 16))).getD (p.2 % 16) 0

/-- The little-endian bytes of `uint32(length)`. -/
def lengthBytes (length : ℕ) : Bytes :=
  [UInt8.ofNat length, UInt8.ofNat (length / 256), UInt8.ofNat (length / 65536),
    UInt8.ofNat (length / 16777216)]

def toLengthValue (args : List Bytes) : Bytes :=
  args.flatMap fun arg ↦ lengthBytes arg.length ++ arg

section Primitives

variable (p : Primitives)

def aesCTR (key plaintext : Bytes) : Outcome Bytes := do
  let block ← p.newCipher key
  return xorKeyStream block plaintext

def hmacSHA256 (hmacKey ciphertext : Bytes) : Outcome Bytes := do
  let hmac ← p.newHMAC hashAlgoSHA256 hmacKey 32
  hmac ciphertext

def eciesHKDFRecipientKEM (kem : Bytes) (hashAlg : String) (salt info : Bytes) (keySize : ℕ)
    (pointFormat : String) (recipientPrivateKey : p.PrivateKey) : Outcome Bytes := do
  let pubPoint ← p.pointDecode recipientPrivateKey pointFormat kem
  let secret ← p.computeSharedSecret pubPoint recipientPrivateKey
  p.computeHKDF hashAlg (kem ++ secret) salt info keySize

/-- The inner loop of `verifySignatures`. -/
def verifyAny (verifier : Bytes → Bytes → Outcome Unit) (signedBytes : Bytes) :
    List Bytes → Outcome Bool
  | [] => .ok false
  | signature :: signatures =>
    match verifier signature signedBytes with
    | .ok _ => .ok true
    | .err _ => verifyAny verifier signedBytes signatures
    | .panic => .panic

def verifySignatures (pubKeys : List (Option p.PublicKey)) (signatures : List Bytes)
    (signedBytes : Bytes) : Outcome Unit :=
  match pubKeys with
  | [] => .err (.errorf "paymenttoken: cannot verify signature" [])
  | pubKey :: pubKeys => do
    let verifier ← p.newECDSAVerifier hashAlgoSHA256 encodingDER pubKey
    if ← verifyAny verifier signedBytes signatures then return ()
    verifySignatures pubKeys signatures signedBytes

/-- `ParseECPublicKey` -/
def parseECPublicKey (der : Bytes) : Outcome p.PublicKey := do
  match ← p.parsePKIXPublicKey der with
  | .ecdsa key => return key
  | .other typeName => .err (.errorf "paymenttoken: unexpected publickey type: %s" typeName)

/-- `ParseB64ECPublicKey` -/
def parseB64ECPublicKey (base64EncodedKey : Bytes) : Outcome p.PublicKey := do
  parseECPublicKey p (← Base64.decodeString base64EncodedKey)

end Primitives

end YandexPay.PaymentToken
