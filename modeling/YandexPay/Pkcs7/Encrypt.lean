import YandexPay.Library.BlockMode
import YandexPay.Library.Der

/-!
# Enveloping a message

`pkcs7/encrypt.go` and what it uses of `pkcs7/pkcs7.go`. `Encrypt` makes a key and a vector,
encrypts the padded content with AES in CBC mode, encrypts the key for every recipient and writes
the envelope. The `marshal` functions are `asn1.Marshal` at the types of the package; a `RawValue`
is written as it is, whatever the parameters of its field, and an optional one not at all when it is
zero. `encrypt_eq_panic` says for which recipients the type assertion to an RSA key panics.
-/

set_option autoImplicit false
set_option relaxedAutoImplicit false

namespace YandexPay.Pkcs7

open Outcome

/-! ### Other packages -/

/-- `aes.BlockSize` -/
def aesBlockSize : ℕ := 16

/-- The functions of other packages. A reader of random bytes is a state. -/
structure Primitives where
  Reader : Type
  RSAPublicKey : Type
  /-- `rand.Read` into `n` bytes -/
  read : ℕ → Reader → Outcome (Bytes × Reader)
  length_read : ∀ n reader bytes reader', read n reader = .ok (bytes, reader') → bytes.length = n
  /-- `Encrypt` of the cipher that `aes.NewCipher` makes of a key. -/
  aesEncrypt : Bytes → Bytes → Bytes
  encryptPKCS1v15 : Reader → RSAPublicKey → Bytes → Outcome (Bytes × Reader)

/-- `asn1.RawValue`; a tag has its class. -/
structure RawValue where
  Tag : Der.Tag := .zero
  IsCompound : Bool := false
  Bytes : YandexPay.Bytes := []
  FullBytes : YandexPay.Bytes := []
  deriving DecidableEq

/-- `pkix.AlgorithmIdentifier` -/
structure AlgorithmIdentifier where
  Algorithm : List ℕ
  /-- optional -/
  Parameters : RawValue := {}

variable (p : Primitives)

/-- `Certificate.PublicKey` -/
inductive PublicKey
  | rsa (pub : Option p.RSAPublicKey)
  /-- A key of another type, or none. -/
  | other

/-- `x509.Certificate` -/
structure Certificate where
  RawIssuer : Bytes
  SerialNumber : Option ℤ
  PublicKey : PublicKey p

variable {p}

/-! ### Types -/

structure IssuerAndSerial where
  IssuerName : RawValue
  SerialNumber : Option ℤ

structure RecipientInfo where
  Version : ℤ
  IssuerAndSerialNumber : IssuerAndSerial
  KeyEncryptionAlgorithm : AlgorithmIdentifier
  EncryptedKey : Bytes

structure EncryptedContentInfo where
  ContentType : List ℕ
  ContentEncryptionAlgorithm : AlgorithmIdentifier
  /-- optional -/
  EncryptedContent : RawValue

structure EnvelopedData where
  Version : ℤ
  /-- a set -/
  RecipientInfos : List RecipientInfo
  EncryptedContentInfo : EncryptedContentInfo

structure ContentInfo where
  ContentType : List ℕ
  /-- optional -/
  Content : RawValue

def ErrUnsupportedAlgorithm : GoError :=
  .errorf ("pkcs7: cannot decrypt data: only RSA, DES, DES-EDE3, AES-256-CBC and AES-128-GCM " ++
    "supported") []

def OIDData : List ℕ := [1, 2, 840, 113549, 1, 7, 1]

def OIDEnvelopedData : List ℕ := [1, 2, 840, 113549, 1, 7, 3]

def OIDEncryptionAlgorithmRSA : List ℕ := [1, 2, 840, 113549, 1, 1, 1]

def OIDEncryptionAlgorithmAES256CBC : List ℕ := [2, 16, 840, 1, 101, 3, 4, 1, 42]

/-! ### `asn1.Marshal` -/

def marshalInt (n : ℤ) : Bytes := Der.tlv 2 (Der.encodeInteger n)

/-- A `*big.Int` -/
def marshalBigInt : Option ℤ → Outcome Bytes
  | some n => .ok (marshalInt n)
  | none => .err (.library "asn1: structure error: empty integer")

def marshalBytes (bytes : Bytes) : Bytes := Der.tlv 4 bytes

def marshalObjectIdentifier (oid : List ℕ) : Outcome Bytes := do
  let contents ← ofOption (.library "asn1: structure error: invalid object identifier")
    (Der.encodeObjectIdentifier oid)
  return Der.tlv 6 contents

def marshalSequence (fields : List Bytes) : Bytes := Der.tlv 48 fields.flatten

def marshalSet (elements : List Bytes) : Bytes := Der.tlv 49 (Der.sortSet elements).flatten

def RawValue.marshal (rv : RawValue) : YandexPay.Bytes :=
  if rv.FullBytes.length ≠ 0 then rv.FullBytes
  else Der.tlv (rv.Tag.identifier rv.IsCompound) rv.Bytes

def RawValue.marshalOptional (rv : RawValue) : YandexPay.Bytes := if rv = {} then [] else rv.marshal

def AlgorithmIdentifier.marshal (ai : AlgorithmIdentifier) : Outcome Bytes := do
  let algorithm ← marshalObjectIdentifier ai.Algorithm
  return marshalSequence [algorithm, ai.Parameters.marshalOptional]

def IssuerAndSerial.marshal (ias : IssuerAndSerial) : Outcome Bytes := do
  let serialNumber ← marshalBigInt ias.SerialNumber
  return marshalSequence [ias.IssuerName.marshal, serialNumber]

def RecipientInfo.marshal (info : RecipientInfo) : Outcome Bytes := do
  let ias ← info.IssuerAndSerialNumber.marshal
  let algorithm ← info.KeyEncryptionAlgorithm.marshal
  return marshalSequence [marshalInt info.Version, ias, algorithm, marshalBytes info.EncryptedKey]

def marshalRecipientInfos : List RecipientInfo → Outcome (List Bytes)
  | [] => .ok []
  | info :: infos => do
    let encoding ← info.marshal
    let encodings ← marshalRecipientInfos infos
    return encoding :: encodings

def EncryptedContentInfo.marshal (eci : EncryptedContentInfo) : Outcome Bytes := do
  let contentType ← marshalObjectIdentifier eci.ContentType
  let algorithm ← eci.ContentEncryptionAlgorithm.marshal
  return marshalSequence [contentType, algorithm, eci.EncryptedContent.marshalOptional]

def EnvelopedData.marshal (envelope : EnvelopedData) : Outcome Bytes := do
  let infos ← marshalRecipientInfos envelope.RecipientInfos
  let eci ← envelope.EncryptedContentInfo.marshal
  return marshalSequence [marshalInt envelope.Version, marshalSet infos, eci]

def ContentInfo.marshal (wrapper : ContentInfo) : Outcome Bytes := do
  let contentType ← marshalObjectIdentifier wrapper.ContentType
  return marshalSequence [contentType, wrapper.Content.marshalOptional]

/-! ### The content -/

def pad (data : Bytes) (blocklen : ℤ) : Outcome Bytes :=
  if blocklen < 1 then .err (.errorf "invalid blocklen %d" (formatInt blocklen))
  else
    let padlen := blocklen - (data.length : ℤ).tmod blocklen
    let padlen := if padlen = 0 then blocklen else padlen
    .ok (data ++ List.replicate padlen.toNat (UInt8.ofNat padlen.toNat))

/-- `aes.NewCipher`, as the encryption of a block. -/
def newCipher (key : Bytes) : Outcome (Bytes → Bytes) := do
  require (key.length = 16 ∨ key.length = 24 ∨ key.length = 32)
    (.errorf "crypto/aes: invalid key size %d" (formatInt key.length))
  return p.aesEncrypt key

/-- `CryptBlocks` of the mode that `cipher.NewCBCEncrypter` makes of a cipher and a vector. -/
def cryptBlocks (block : Bytes → Bytes) (iv src : Bytes) : Outcome Bytes :=
  if iv.length ≠ aesBlockSize ∨ src.length % aesBlockSize ≠ 0 then .panic
  else .ok (BlockMode.cbcEncryptBytes aesBlockSize block iv src)

def marshalEncryptedContent (content : Bytes) : RawValue where
  Tag := .context
  IsCompound := true
  Bytes := marshalBytes content

def encryptAESCBC (reader : p.Reader) (content : Bytes) (key : Option Bytes) :
    Outcome ((Bytes × EncryptedContentInfo) × p.Reader) := do
  let (key, reader) ← match key with
    | none => p.read 32 reader
    | some key => .ok (key, reader)
  let (iv, reader) ← p.read aesBlockSize reader
  let block ← newCipher (p := p) key
  let plaintext ← pad content aesBlockSize
  let cyphertext ← cryptBlocks block iv plaintext
  let eci : EncryptedContentInfo :=
    { ContentType := OIDData
      ContentEncryptionAlgorithm :=
        { Algorithm := OIDEncryptionAlgorithmAES256CBC
          Parameters := { Tag := .octetString, Bytes := iv } }
      EncryptedContent := marshalEncryptedContent cyphertext }
  return ((key, eci), reader)

/-! ### The recipients -/

def cert2issuerAndSerial (cert : Certificate p) : IssuerAndSerial where
  IssuerName := { FullBytes := cert.RawIssuer }
  SerialNumber := cert.SerialNumber

/-- The type assertion panics. -/
def encryptKey (reader : p.Reader) (key : Bytes) (recipient : Certificate p) :
    Outcome (Bytes × p.Reader) :=
  match recipient.PublicKey with
  | .rsa (some pub) => p.encryptPKCS1v15 reader pub key
  | .rsa none => .err ErrUnsupportedAlgorithm
  | .other => .panic

/-- The loop of `Encrypt` over its recipients. -/
def recipientInfos (key : Bytes) :
    p.Reader → List (Option (Certificate p)) → Outcome (List RecipientInfo × p.Reader)
  | reader, [] => .ok ([], reader)
  | reader, recipient :: recipients => do
    let recipient ← deref recipient
    let (encrypted, reader) ← encryptKey reader key recipient
    let info : RecipientInfo :=
      { Version := 0
        IssuerAndSerialNumber := cert2issuerAndSerial recipient
        KeyEncryptionAlgorithm := { Algorithm := OIDEncryptionAlgorithmRSA }
        EncryptedKey := encrypted }
    let (infos, reader) ← recipientInfos key reader recipients
    return (info :: infos, reader)

/-- What the reader is after it is left out. -/
def Encrypt (reader : p.Reader) (content : Bytes) (recipients : List (Option (Certificate p))) :
    Outcome Bytes := do
  let ((key, eci), reader) ← encryptAESCBC reader content none
  let (infos, _) ← recipientInfos key reader recipients
  let envelope : EnvelopedData :=
    { Version := 0
      RecipientInfos := infos
      EncryptedContentInfo := eci }
  let innerContent ← envelope.marshal
  let wrapper : ContentInfo :=
    { ContentType := OIDEnvelopedData
      Content := { Tag := .context, IsCompound := true, Bytes := innerContent } }
  wrapper.marshal

/-! ### Panics -/

/-- The padding is at least one byte. -/
theorem pad_eq_ok {content padded : Bytes} (h : pad content aesBlockSize = .ok padded) :
    ∃ count, 1 ≤ count ∧ count ≤ aesBlockSize ∧
      padded = content ++ List.replicate count (UInt8.ofNat count) ∧
        padded.length % aesBlockSize = 0 := by
  have hmod : ((content.length : ℤ).tmod aesBlockSize) = (content.length % aesBlockSize : ℕ) := rfl
  have hlt : content.length % aesBlockSize < aesBlockSize := Nat.mod_lt _ (by decide)
  rw [pad, if_neg (by decide)] at h
  dsimp only at h
  rw [hmod, if_neg (by omega)] at h
  refine ⟨aesBlockSize - content.length % aesBlockSize, by omega, by omega, ?_⟩
  have hcount : ((aesBlockSize : ℤ) - (content.length % aesBlockSize : ℕ)).toNat =
      aesBlockSize - content.length % aesBlockSize := by omega
  rw [hcount] at h
  refine ⟨(Outcome.ok.inj h).symm, ?_⟩
  rw [← Outcome.ok.inj h, List.length_append, List.length_replicate, aesBlockSize]
  omega

/-- The functions of other packages return. -/
structure Primitives.Returns (p : Primitives) : Prop where
  read : ∀ n reader, p.read n reader ≠ .panic
  encryptPKCS1v15 : ∀ reader pub key, p.encryptPKCS1v15 reader pub key ≠ .panic

/-- There is no certificate, or no RSA key in it. -/
def Keyless (recipient : Option (Certificate p)) : Prop :=
  ∀ cert, recipient = some cert → cert.PublicKey = .other

theorem keyless_none : Keyless (none : Option (Certificate p)) := fun _ h ↦ by cases h

theorem marshalObjectIdentifier_ne_panic (oid : List ℕ) : marshalObjectIdentifier oid ≠ .panic :=
  bind_ne_panic (ofOption_ne_panic _ _) fun _ _ ↦ pure_ne_panic _

theorem AlgorithmIdentifier.marshal_ne_panic (ai : AlgorithmIdentifier) : ai.marshal ≠ .panic :=
  bind_ne_panic (marshalObjectIdentifier_ne_panic _) fun _ _ ↦ pure_ne_panic _

theorem RecipientInfo.marshal_ne_panic (info : RecipientInfo) : info.marshal ≠ .panic := by
  refine bind_ne_panic (bind_ne_panic ?_ fun _ _ ↦ pure_ne_panic _) fun _ _ ↦
    bind_ne_panic (AlgorithmIdentifier.marshal_ne_panic _) fun _ _ ↦ pure_ne_panic _
  cases info.IssuerAndSerialNumber.SerialNumber with
  | none => exact err_ne_panic _
  | some n => exact fun h ↦ by cases h

theorem marshalRecipientInfos_ne_panic (infos : List RecipientInfo) :
    marshalRecipientInfos infos ≠ .panic := by
  induction infos with
  | nil => exact fun h ↦ by cases h
  | cons info infos ih =>
    exact bind_ne_panic info.marshal_ne_panic fun _ _ ↦ bind_ne_panic ih fun _ _ ↦ pure_ne_panic _

theorem EnvelopedData.marshal_ne_panic (envelope : EnvelopedData) : envelope.marshal ≠ .panic :=
  bind_ne_panic (marshalRecipientInfos_ne_panic _) fun _ _ ↦
    bind_ne_panic
      (bind_ne_panic (marshalObjectIdentifier_ne_panic _) fun _ _ ↦
        bind_ne_panic (AlgorithmIdentifier.marshal_ne_panic _) fun _ _ ↦ pure_ne_panic _)
      fun _ _ ↦ pure_ne_panic _

theorem pad_isOk (content : Bytes) : ∃ padded, pad content aesBlockSize = .ok padded := by
  rw [pad, if_neg (by decide)]
  exact ⟨_, rfl⟩

theorem cryptBlocks_of_lengths {block : Bytes → Bytes} {iv src : Bytes}
    (hiv : iv.length = aesBlockSize) (hsrc : src.length % aesBlockSize = 0) :
    cryptBlocks block iv src = .ok (BlockMode.cbcEncryptBytes aesBlockSize block iv src) :=
  if_neg (not_or.2 ⟨not_not.2 hiv, not_not.2 hsrc⟩)

/-- The vector has the size of a block, and the padded content is whole blocks. -/
theorem encryptAESCBC_ne_panic (hp : p.Returns) (reader : p.Reader) (content : Bytes) :
    encryptAESCBC reader content none ≠ .panic := by
  refine bind_ne_panic (hp.read _ _) fun ⟨key, reader₁⟩ _ ↦
    bind_ne_panic (hp.read _ _) fun ⟨iv, reader₂⟩ hiv ↦
      bind_ne_panic (bind_ne_panic (require_ne_panic _ _) fun _ _ ↦ pure_ne_panic _) fun block _ ↦
        bind_ne_panic ?_ fun padded hpadded ↦ bind_ne_panic ?_ fun _ _ ↦ pure_ne_panic _
  · obtain ⟨padded, hpadded⟩ := pad_isOk content
    exact fun h ↦ by cases hpadded.symm.trans h
  · obtain ⟨-, -, -, -, hmod⟩ := pad_eq_ok hpadded
    exact fun h ↦ by cases (cryptBlocks_of_lengths (p.length_read _ _ _ _ hiv) hmod).symm.trans h

/-- The content is encrypted when the key and the vector can be read. -/
theorem encryptAESCBC_isOk {reader : p.Reader} {content : Bytes} :
    (∃ sealing, encryptAESCBC reader content none = .ok sealing) ↔
      ∃ key iv, p.read 32 reader = .ok key ∧ p.read aesBlockSize key.2 = .ok iv := by
  constructor
  · rintro ⟨sealing, h⟩
    obtain ⟨key, hkey, h⟩ := bind_eq_ok.1 h
    obtain ⟨iv, hiv, -⟩ := bind_eq_ok.1 h
    exact ⟨key, iv, hkey, hiv⟩
  · rintro ⟨⟨key, reader₁⟩, ⟨iv, reader₂⟩, hkey, hiv⟩
    have hcipher : newCipher (p := p) key = .ok (p.aesEncrypt key) := by
      have hlength := p.length_read _ _ _ _ hkey
      rw [newCipher, hlength]
      rfl
    obtain ⟨padded, hpadded⟩ := pad_isOk content
    obtain ⟨-, -, -, -, hmod⟩ := pad_eq_ok hpadded
    have hblocks : cryptBlocks (p.aesEncrypt key) iv padded = .ok _ :=
      cryptBlocks_of_lengths (p.length_read _ _ _ _ hiv) hmod
    exact ⟨_, bind_eq_ok.2 ⟨_, hkey, bind_eq_ok.2 ⟨_, hiv, bind_eq_ok.2 ⟨_, hcipher,
      bind_eq_ok.2 ⟨_, hpadded, bind_eq_ok.2 ⟨_, hblocks, rfl⟩⟩⟩⟩⟩⟩

theorem encryptKey_eq_panic (hp : p.Returns) {reader : p.Reader} {key : Bytes}
    {cert : Certificate p} : encryptKey reader key cert = .panic ↔ cert.PublicKey = .other := by
  rw [encryptKey]
  cases cert.PublicKey with
  | rsa pub =>
    cases pub with
    | none => exact iff_of_false (err_ne_panic _) fun h ↦ by cases h
    | some pub => exact iff_of_false (hp.encryptPKCS1v15 _ _ _) fun h ↦ by cases h
  | other => exact ⟨fun _ ↦ rfl, fun _ ↦ rfl⟩

theorem recipientInfos_cons_eq_panic (hp : p.Returns) {key : Bytes} {cert : Certificate p}
    {recipients : List (Option (Certificate p))} {reader : p.Reader} :
    recipientInfos key reader (some cert :: recipients) = .panic ↔
      cert.PublicKey = .other ∨ ∃ encrypted, encryptKey reader key cert = .ok encrypted ∧
        recipientInfos key encrypted.2 recipients = .panic := by
  rw [recipientInfos, bind_eq_panic_of_ne fun h ↦ by cases h]
  constructor
  · rintro ⟨cert', hcert, h⟩
    cases hcert
    rcases bind_eq_panic.1 h with h | ⟨encrypted, hencrypted, h⟩
    · exact Or.inl ((encryptKey_eq_panic hp).1 h)
    · exact Or.inr ⟨encrypted, hencrypted,
        (bind_eq_panic_iff_left fun _ _ ↦ pure_ne_panic _).1 h⟩
  · rintro (h | ⟨encrypted, hencrypted, h⟩)
    · exact ⟨cert, rfl, bind_eq_panic.2 (Or.inl ((encryptKey_eq_panic hp).2 h))⟩
    · exact ⟨cert, rfl, bind_eq_panic.2 (Or.inr ⟨encrypted, hencrypted,
        (bind_eq_panic_iff_left fun _ _ ↦ pure_ne_panic _).2 h⟩)⟩

theorem recipientInfos_cons_isOk {key : Bytes} {cert : Certificate p}
    {recipients : List (Option (Certificate p))} {reader : p.Reader} :
    (∃ infos, recipientInfos key reader (some cert :: recipients) = .ok infos) ↔
      ∃ encrypted, encryptKey reader key cert = .ok encrypted ∧
        ∃ infos, recipientInfos key encrypted.2 recipients = .ok infos := by
  constructor
  · rintro ⟨infos, h⟩
    obtain ⟨cert', hcert, h⟩ := bind_eq_ok.1 h
    cases hcert
    obtain ⟨encrypted, hencrypted, h⟩ := bind_eq_ok.1 h
    obtain ⟨rest, hrest, -⟩ := bind_eq_ok.1 h
    exact ⟨encrypted, hencrypted, rest, hrest⟩
  · rintro ⟨encrypted, hencrypted, rest, hrest⟩
    exact ⟨_, bind_eq_ok.2 ⟨cert, rfl, bind_eq_ok.2 ⟨encrypted, hencrypted,
      bind_eq_ok.2 ⟨rest, hrest, rfl⟩⟩⟩⟩

/-- The loop panics at the first recipient without an RSA key, unless it fails before. -/
theorem recipientInfos_eq_panic (hp : p.Returns) {key : Bytes}
    {recipients : List (Option (Certificate p))} {reader : p.Reader} :
    recipientInfos key reader recipients = .panic ↔
      ∃ before recipient after, recipients = before ++ recipient :: after ∧ Keyless recipient ∧
        ∃ infos, recipientInfos key reader before = .ok infos := by
  induction recipients generalizing reader with
  | nil =>
    refine iff_of_false (fun h ↦ by cases h) ?_
    rintro ⟨before, recipient, after, h, -⟩
    exact List.append_ne_nil_of_right_ne_nil before (List.cons_ne_nil _ _) h.symm
  | cons recipient recipients ih =>
    cases recipient with
    | none =>
      exact iff_of_true rfl
        ⟨[], none, recipients, rfl, keyless_none, ([], reader), rfl⟩
    | some cert =>
      rw [recipientInfos_cons_eq_panic hp]
      constructor
      · rintro (hother | ⟨encrypted, hencrypted, h⟩)
        · refine ⟨[], some cert, recipients, rfl, fun cert' h ↦ ?_, ([], reader), rfl⟩
          cases h
          exact hother
        · obtain ⟨before, recipient, after, rfl, hkeyless, hinfos⟩ := ih.1 h
          exact ⟨some cert :: before, recipient, after, rfl, hkeyless,
            recipientInfos_cons_isOk.2 ⟨encrypted, hencrypted, hinfos⟩⟩
      · rintro ⟨before, recipient, after, hsplit, hkeyless, hinfos⟩
        cases before with
        | nil =>
          cases hsplit
          exact Or.inl (hkeyless cert rfl)
        | cons first before =>
          cases hsplit
          obtain ⟨encrypted, hencrypted, hinfos⟩ := recipientInfos_cons_isOk.1 hinfos
          exact Or.inr ⟨encrypted, hencrypted,
            ih.2 ⟨before, recipient, after, rfl, hkeyless, hinfos⟩⟩

/-- `Encrypt` panics at the first recipient without an RSA key, after all before it succeeded. -/
theorem encrypt_eq_panic (hp : p.Returns) {reader : p.Reader} {content : Bytes}
    {recipients : List (Option (Certificate p))} :
    Encrypt reader content recipients = .panic ↔
      ∃ sealing reader', encryptAESCBC reader content none = .ok (sealing, reader') ∧
        ∃ before recipient after, recipients = before ++ recipient :: after ∧
          Keyless recipient ∧ ∃ infos, recipientInfos sealing.1 reader' before = .ok infos := by
  rw [Encrypt, bind_eq_panic_of_ne (encryptAESCBC_ne_panic hp _ _)]
  constructor
  · rintro ⟨⟨sealing, reader'⟩, hsealing, h⟩
    rw [bind_eq_panic_iff_left] at h
    · exact ⟨sealing, reader', hsealing, (recipientInfos_eq_panic hp).1 h⟩
    · exact fun _ _ ↦ bind_ne_panic (EnvelopedData.marshal_ne_panic _) fun _ _ ↦
        bind_ne_panic (marshalObjectIdentifier_ne_panic _) fun _ _ ↦ pure_ne_panic _
  · rintro ⟨sealing, reader', hsealing, h⟩
    exact ⟨(sealing, reader'), hsealing,
      bind_eq_panic.2 (Or.inl ((recipientInfos_eq_panic hp).2 h))⟩

end YandexPay.Pkcs7
