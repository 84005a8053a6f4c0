import YandexPay.Pkcs7.Encrypt

/-!
# What a recipient reads

An `Envelope` is what a message means: to whom it is addressed, with the key that each of them
recovers, and the encrypted content. `readEnvelope` reads the bytes of an envelope and accepts no
other encoding of its parts, and `Envelope.openWith` is what the owner of a certificate makes of it.

The bytes that `Encrypt` writes are those of an envelope (`encrypt_eq_ok`), in which the set of
recipients stands in the order of its encodings, and every recipient opens it to the content.
-/

set_option autoImplicit false
set_option relaxedAutoImplicit false

namespace YandexPay.Pkcs7

open Outcome Der BlockMode

/-! ### Envelopes -/

structure Addressee where
  issuer : Element
  serialNumber : ℤ
  encryptedKey : Bytes

structure Envelope where
  addressees : List Addressee
  iv : Bytes
  cyphertext : Bytes

def Addressee.element (addressee : Addressee) : Element :=
  .sequence [.integer 0, .sequence [addressee.issuer, .integer addressee.serialNumber],
    .sequence [.objectIdentifier OIDEncryptionAlgorithmRSA], .octetString addressee.encryptedKey]

def Envelope.encryptedContentInfo (envelope : Envelope) : Element :=
  .sequence [.objectIdentifier OIDData,
    .sequence [.objectIdentifier OIDEncryptionAlgorithmAES256CBC, .octetString envelope.iv],
    .context [.octetString envelope.cyphertext]]

def Envelope.element (envelope : Envelope) : Element :=
  .sequence [.objectIdentifier OIDEnvelopedData,
    .context [.sequence [.integer 0, .set (envelope.addressees.map Addressee.element),
      envelope.encryptedContentInfo]]]

/-! ### Reading -/

def readAddressee (element : Element) : Option Addressee := do
  let [version, issuerAndSerial, algorithm, encryptedKey] ← element.parts? .sequence | none
  guard (version.integer? = some 0)
  let [issuer, serialNumber] ← issuerAndSerial.parts? .sequence | none
  let serialNumber ← serialNumber.integer?
  let oid :: _ ← algorithm.parts? .sequence | none
  guard (oid.isObjectIdentifier OIDEncryptionAlgorithmRSA)
  let encryptedKey ← encryptedKey.octetString?
  return ⟨issuer, serialNumber, encryptedKey⟩

/-- The vector and the encrypted content. -/
def readEncryptedContentInfo (element : Element) : Option (Bytes × Bytes) := do
  let [contentType, algorithm, content] ← element.parts? .sequence | none
  guard (contentType.isObjectIdentifier OIDData)
  let [oid, iv] ← algorithm.parts? .sequence | none
  guard (oid.isObjectIdentifier OIDEncryptionAlgorithmAES256CBC)
  let iv ← iv.octetString?
  let [content] ← content.parts? .context | none
  let cyphertext ← content.octetString?
  return (iv, cyphertext)

def readEnvelope (message : Bytes) : Option Envelope := do
  let wrapper ← parseElement message
  let [contentType, content] ← wrapper.parts? .sequence | none
  guard (contentType.isObjectIdentifier OIDEnvelopedData)
  let [envelopedData] ← content.parts? .context | none
  let [version, recipientInfos, encryptedContentInfo] ← envelopedData.parts? .sequence | none
  guard (version.integer? = some 0)
  let recipientInfos ← recipientInfos.parts? .set
  let addressees ← recipientInfos.mapM readAddressee
  let (iv, cyphertext) ← readEncryptedContentInfo encryptedContentInfo
  return ⟨addressees, iv, cyphertext⟩

theorem isObjectIdentifier_of_isSome {numbers : List ℕ}
    (h : (encodeObjectIdentifier numbers).isSome) :
    (Element.objectIdentifier numbers).isObjectIdentifier numbers = true :=
  Element.isObjectIdentifier_objectIdentifier (Option.eq_some_of_isSome h)

theorem readAddressee_element (addressee : Addressee) :
    readAddressee addressee.element = some addressee := by
  have hoid : (Element.objectIdentifier OIDEncryptionAlgorithmRSA).isObjectIdentifier
      OIDEncryptionAlgorithmRSA = true := isObjectIdentifier_of_isSome (by decide)
  simp [readAddressee, Addressee.element, hoid]

theorem readEncryptedContentInfo_element (envelope : Envelope) :
    readEncryptedContentInfo envelope.encryptedContentInfo =
      some (envelope.iv, envelope.cyphertext) := by
  have hdata : (Element.objectIdentifier OIDData).isObjectIdentifier OIDData = true :=
    isObjectIdentifier_of_isSome (by decide)
  have haes : (Element.objectIdentifier OIDEncryptionAlgorithmAES256CBC).isObjectIdentifier
      OIDEncryptionAlgorithmAES256CBC = true := isObjectIdentifier_of_isSome (by decide)
  simp [readEncryptedContentInfo, Envelope.encryptedContentInfo, hdata, haes]

theorem mapM_readAddressee (addressees : List Addressee) :
    (addressees.map Addressee.element).mapM readAddressee = some addressees := by
  induction addressees with
  | nil => rfl
  | cons addressee addressees ih =>
    rw [List.map_cons, List.mapM_cons, readAddressee_element, ih]
    rfl

/-- The length of a slice of bytes fits 63 bits. -/
theorem readEnvelope_encode {envelope : Envelope}
    (h : envelope.element.encode.length < 2 ^ 63) :
    readEnvelope envelope.element.encode = some envelope := by
  have hparse : parseElement envelope.element.encode = some envelope.element :=
    parseElement_encode (h.trans (by decide))
  have hoid : (Element.objectIdentifier OIDEnvelopedData).isObjectIdentifier
      OIDEnvelopedData = true := isObjectIdentifier_of_isSome (by decide)
  rw [readEnvelope, hparse]
  simp [-List.mapM_map, Envelope.element, hoid, mapM_readAddressee,
    readEncryptedContentInfo_element]

/-- What the owner of a certificate makes of an envelope, with a private key. -/
def Envelope.openWith (aesDecrypt : Bytes → Bytes → Bytes) (decryptKey : Bytes → Option Bytes)
    (rawIssuer : Bytes) (serialNumber : ℤ) (envelope : Envelope) : Option Bytes := do
  let addressee ← envelope.addressees.find? fun addressee ↦
    addressee.issuer.encode = rawIssuer ∧ addressee.serialNumber = serialNumber
  let key ← decryptKey addressee.encryptedKey
  unpad aesBlockSize
    (cbcDecryptBytes aesBlockSize (aesDecrypt key) envelope.iv envelope.cyphertext)

/-! ### Writing -/

theorem marshalSequence_encode (elements : List Element) :
    marshalSequence (elements.map Element.encode) = (Element.sequence elements).encode := by
  rw [Element.sequence, Element.encode, encodeAll_eq_flatten]
  rfl

theorem marshalObjectIdentifier_eq {oid : List ℕ} (h : (encodeObjectIdentifier oid).isSome) :
    marshalObjectIdentifier oid = .ok (Element.objectIdentifier oid).encode := by
  obtain ⟨contents, hcontents⟩ := Option.isSome_iff_exists.1 h
  rw [marshalObjectIdentifier, Element.objectIdentifier, hcontents]
  rfl

/-- The certificates of a recipient list, with issuers as they are parsed. -/
def Parsed {p : Primitives} (recipients : List (Option (Certificate p))) : Prop :=
  ∀ cert, some cert ∈ recipients → ∃ issuer : Element, cert.RawIssuer = issuer.encode

/-- The key is encrypted for a recipient. -/
def Addressed {p : Primitives} (key : Bytes) (recipient : Option (Certificate p))
    (addressee : Addressee) : Prop :=
  ∃ cert pub reader reader', recipient = some cert ∧ cert.PublicKey = .rsa (some pub) ∧
    cert.RawIssuer = addressee.issuer.encode ∧ cert.SerialNumber = some addressee.serialNumber ∧
      p.encryptPKCS1v15 reader pub key = .ok (addressee.encryptedKey, reader')

section Writing

variable {p : Primitives}

theorem marshal_fullBytes (issuer : Element) :
    RawValue.marshal { FullBytes := issuer.encode } = issuer.encode := by
  rw [RawValue.marshal, if_pos fun h ↦ issuer.encode_ne_nil (List.eq_nil_of_length_eq_zero h)]

theorem marshal_algorithm {oid : List ℕ} (h : (encodeObjectIdentifier oid).isSome) :
    AlgorithmIdentifier.marshal { Algorithm := oid } =
      .ok (Element.sequence [.objectIdentifier oid]).encode := by
  rw [AlgorithmIdentifier.marshal, marshalObjectIdentifier_eq h, ← marshalSequence_encode]
  rfl

theorem issuerAndSerial_eq_ok {cert : Certificate p} {issuer : Element}
    (hissuer : cert.RawIssuer = issuer.encode) {encoding : Bytes}
    (h : (cert2issuerAndSerial cert).marshal = .ok encoding) :
    ∃ serialNumber, cert.SerialNumber = some serialNumber ∧
      encoding = (Element.sequence [issuer, .integer serialNumber]).encode := by
  obtain ⟨serial, hserial, h⟩ := bind_eq_ok.1 h
  rw [cert2issuerAndSerial, hissuer, marshal_fullBytes] at h
  cases hn : cert.SerialNumber with
  | none =>
    rw [cert2issuerAndSerial, hn] at hserial
    cases hserial
  | some serialNumber =>
    rw [cert2issuerAndSerial, hn] at hserial
    refine ⟨serialNumber, rfl, ?_⟩
    rw [← pure_eq_ok.1 h, ← Outcome.ok.inj hserial, ← marshalSequence_encode]
    rfl

theorem recipientInfo_eq_ok {cert : Certificate p} {issuer : Element}
    (hissuer : cert.RawIssuer = issuer.encode) {encrypted encoding : Bytes}
    (h : RecipientInfo.marshal
      { Version := 0
        IssuerAndSerialNumber := cert2issuerAndSerial cert
        KeyEncryptionAlgorithm := { Algorithm := OIDEncryptionAlgorithmRSA }
        EncryptedKey := encrypted } = .ok encoding) :
    ∃ serialNumber, cert.SerialNumber = some serialNumber ∧
      encoding = (Addressee.element ⟨issuer, serialNumber, encrypted⟩).encode := by
  obtain ⟨ias, hias, h⟩ := bind_eq_ok.1 h
  obtain ⟨serialNumber, hserial, rfl⟩ := issuerAndSerial_eq_ok hissuer hias
  obtain ⟨algorithm, halgorithm, h⟩ := bind_eq_ok.1 h
  rw [marshal_algorithm (by decide)] at halgorithm
  refine ⟨serialNumber, hserial, ?_⟩
  rw [← pure_eq_ok.1 h, ← Outcome.ok.inj halgorithm, Addressee.element, ← marshalSequence_encode]
  rfl

theorem encryptKey_eq_ok {reader reader' : p.Reader} {key encrypted : Bytes}
    {recipient : Certificate p} (h : encryptKey reader key recipient = .ok (encrypted, reader')) :
    ∃ pub, recipient.PublicKey = .rsa (some pub) ∧
      p.encryptPKCS1v15 reader pub key = .ok (encrypted, reader') := by
  rw [encryptKey] at h
  cases hpub : recipient.PublicKey with
  | rsa pub =>
    rw [hpub] at h
    cases pub with
    | none => cases h
    | some pub => exact ⟨pub, rfl, h⟩
  | other =>
    rw [hpub] at h
    cases h

/-- Every recipient is addressed once, in the order of the certificates. -/
theorem recipientInfos_eq_ok {key : Bytes} {recipients : List (Option (Certificate p))}
    (hparsed : Parsed recipients) {reader reader' : p.Reader} {infos : List RecipientInfo}
    {encodings : List Bytes} (h : recipientInfos key reader recipients = .ok (infos, reader'))
    (hencodings : marshalRecipientInfos infos = .ok encodings) :
    ∃ addressees, List.Forall₂ (Addressed key) recipients addressees ∧
      encodings = addressees.map fun addressee ↦ addressee.element.encode := by
  induction recipients generalizing reader infos encodings with
  | nil =>
    cases h
    cases hencodings
    exact ⟨[], List.Forall₂.nil, rfl⟩
  | cons recipient recipients ih =>
    obtain ⟨cert, hcert, h⟩ := bind_eq_ok.1 h
    obtain ⟨⟨encrypted, reader₁⟩, hencrypted, h⟩ := bind_eq_ok.1 h
    obtain ⟨⟨infos', reader₂⟩, hinfos, h⟩ := bind_eq_ok.1 h
    cases pure_eq_ok.1 h
    obtain ⟨encoding, hencoding, hencodings⟩ := bind_eq_ok.1 hencodings
    obtain ⟨encodings', hencodings', hencodings⟩ := bind_eq_ok.1 hencodings
    rw [deref_eq_ok] at hcert
    subst hcert
    obtain ⟨issuer, hissuer⟩ := hparsed cert List.mem_cons_self
    obtain ⟨pub, hpub, hencrypted⟩ := encryptKey_eq_ok hencrypted
    obtain ⟨serialNumber, hserial, rfl⟩ := recipientInfo_eq_ok hissuer hencoding
    obtain ⟨addressees, haddressed, rfl⟩ :=
      ih (fun cert hmem ↦ hparsed cert (List.mem_cons_of_mem _ hmem)) hinfos hencodings'
    refine ⟨⟨issuer, serialNumber, encrypted⟩ :: addressees, ?_, ?_⟩
    · exact List.Forall₂.cons ⟨cert, pub, reader, reader₁, rfl, hpub, hissuer, hserial, hencrypted⟩
        haddressed
    · exact (pure_eq_ok.1 hencodings).symm

theorem map_sortSet (addressees : List Addressee) :
    ∃ sorted : List Addressee, sorted.Perm addressees ∧
      marshalSet (addressees.map fun addressee ↦ addressee.element.encode) =
        (Element.set (sorted.map Addressee.element)).encode := by
  refine ⟨addressees.insertionSort fun a b ↦ ¬b.element.encode < a.element.encode,
    List.perm_insertionSort _ _, ?_⟩
  have hsort : sortSet (addressees.map fun addressee ↦ addressee.element.encode) =
      (addressees.insertionSort fun a b ↦ ¬b.element.encode < a.element.encode).map
        fun addressee ↦ addressee.element.encode := by
    rw [sortSet]
    exact (List.map_insertionSort (fun a b : Addressee ↦ ¬b.element.encode < a.element.encode)
      (fun a b : Bytes ↦ ¬b < a) _ _ fun _ _ _ _ ↦ Iff.rfl).symm
  rw [marshalSet, hsort, Element.set, Element.encode, encodeAll_eq_flatten, List.map_map]
  rfl

/-- Decryption with the inverse cipher undoes the encryption of whole blocks. -/
theorem decrypt_cryptBlocks {encrypt decrypt : Bytes → Bytes} {iv src cyphertext : Bytes}
    (haes : Inverts aesBlockSize encrypt decrypt)
    (h : cryptBlocks encrypt iv src = .ok cyphertext) :
    cbcDecryptBytes aesBlockSize decrypt iv cyphertext = src := by
  rw [cryptBlocks] at h
  split_ifs at h with hsizes
  obtain ⟨hiv, hsrc⟩ := not_or.1 hsizes
  rw [← Outcome.ok.inj h]
  exact cbcDecryptBytes_cbcEncryptBytes haes (by decide) (not_not.1 hiv) (not_not.1 hsrc)

/-- What `Encrypt` puts in an envelope. -/
structure Seals (content : Bytes) (recipients : List (Option (Certificate p)))
    (envelope : Envelope) (key : Bytes) : Prop where
  length_key : key.length = 32
  content : ∃ padded, pad content aesBlockSize = .ok padded ∧
    cryptBlocks (p.aesEncrypt key) envelope.iv padded = .ok envelope.cyphertext
  addressees : ∃ addressees, envelope.addressees.Perm addressees ∧
    List.Forall₂ (Addressed key) recipients addressees

theorem marshal_parameters (iv : Bytes) :
    AlgorithmIdentifier.marshal
      { Algorithm := OIDEncryptionAlgorithmAES256CBC
        Parameters := { Tag := .octetString, Bytes := iv } } =
      .ok (Element.sequence [.objectIdentifier OIDEncryptionAlgorithmAES256CBC,
        .octetString iv]).encode := by
  have hoid := marshalObjectIdentifier_eq
    (show (encodeObjectIdentifier OIDEncryptionAlgorithmAES256CBC).isSome by decide)
  have hparameters : RawValue.marshalOptional { Tag := .octetString, Bytes := iv } =
      (Element.octetString iv).encode := if_neg fun h ↦ by cases h
  rw [AlgorithmIdentifier.marshal, hoid, hparameters, ← marshalSequence_encode]
  rfl

theorem marshal_context (element : Element) :
    RawValue.marshalOptional { Tag := .context, IsCompound := true, Bytes := element.encode } =
      (Element.context [element]).encode := by
  have hne : ({ Tag := .context, IsCompound := true, Bytes := element.encode } : RawValue) ≠ {} :=
    fun h ↦ Bool.false_ne_true (congrArg RawValue.IsCompound h).symm
  rw [RawValue.marshalOptional, if_neg hne, Element.context, Element.encode,
    encodeAll_eq_flatten, List.map_singleton, List.flatten_singleton]
  rfl

theorem encryptedContentInfo_marshal (iv cyphertext : Bytes) (addressees : List Addressee) :
    EncryptedContentInfo.marshal
      { ContentType := OIDData
        ContentEncryptionAlgorithm :=
          { Algorithm := OIDEncryptionAlgorithmAES256CBC
            Parameters := { Tag := .octetString, Bytes := iv } }
        EncryptedContent := marshalEncryptedContent cyphertext } =
      .ok (Envelope.encryptedContentInfo ⟨addressees, iv, cyphertext⟩).encode := by
  have hoid := marshalObjectIdentifier_eq
    (show (encodeObjectIdentifier OIDData).isSome by decide)
  have hcontent : (marshalEncryptedContent cyphertext).marshalOptional =
      (Element.context [.octetString cyphertext]).encode :=
    marshal_context (.octetString cyphertext)
  rw [EncryptedContentInfo.marshal, hoid, marshal_parameters, hcontent,
    Envelope.encryptedContentInfo, ← marshalSequence_encode]
  rfl

theorem encryptAESCBC_eq_ok {reader reader' : p.Reader} {content key : Bytes}
    {eci : EncryptedContentInfo}
    (h : encryptAESCBC reader content none = .ok ((key, eci), reader')) :
    key.length = 32 ∧ ∃ iv cyphertext padded, pad content aesBlockSize = .ok padded ∧
      cryptBlocks (p.aesEncrypt key) iv padded = .ok cyphertext ∧
        ∀ addressees, eci.marshal =
          .ok (Envelope.encryptedContentInfo ⟨addressees, iv, cyphertext⟩).encode := by
  obtain ⟨⟨key', reader₁⟩, hkey, h⟩ := bind_eq_ok.1 h
  obtain ⟨⟨iv, reader₂⟩, hiv, h⟩ := bind_eq_ok.1 h
  obtain ⟨block, hblock, h⟩ := bind_eq_ok.1 h
  obtain ⟨padded, hpadded, h⟩ := bind_eq_ok.1 h
  obtain ⟨cyphertext, hcyphertext, h⟩ := bind_eq_ok.1 h
  cases pure_eq_ok.1 h
  obtain ⟨-, -, hblock⟩ := bind_eq_ok.1 hblock
  refine ⟨p.length_read _ _ _ _ hkey, iv, cyphertext, padded, hpadded, ?_, fun addressees ↦ ?_⟩
  · rw [pure_eq_ok.1 hblock]
    exact hcyphertext
  · exact encryptedContentInfo_marshal iv cyphertext addressees

/-- `Encrypt` writes the bytes of an envelope. -/
theorem encrypt_eq_ok {reader : p.Reader} {content message : Bytes}
    {recipients : List (Option (Certificate p))} (hparsed : Parsed recipients)
    (h : Encrypt reader content recipients = .ok message) :
    ∃ envelope key, Seals content recipients envelope key ∧ message = envelope.element.encode := by
  obtain ⟨⟨⟨key, eci⟩, reader₁⟩, heci, h⟩ := bind_eq_ok.1 h
  obtain ⟨⟨infos, reader₂⟩, hinfos, h⟩ := bind_eq_ok.1 h
  obtain ⟨innerContent, hinner, h⟩ := bind_eq_ok.1 h
  obtain ⟨encodings, hencodings, hinner⟩ := bind_eq_ok.1 hinner
  obtain ⟨eciEncoding, heciEncoding, hinner⟩ := bind_eq_ok.1 hinner
  obtain ⟨hkey, iv, cyphertext, padded, hpadded, hcyphertext, hmarshal⟩ := encryptAESCBC_eq_ok heci
  obtain ⟨addressees, haddressed, rfl⟩ := recipientInfos_eq_ok hparsed hinfos hencodings
  obtain ⟨sorted, hperm, hset⟩ := map_sortSet addressees
  refine ⟨⟨sorted, iv, cyphertext⟩, key, ⟨hkey, ⟨padded, hpadded, hcyphertext⟩,
    addressees, hperm, haddressed⟩, ?_⟩
  have hoid := marshalObjectIdentifier_eq
    (show (encodeObjectIdentifier OIDEnvelopedData).isSome by decide)
  rw [hmarshal sorted] at heciEncoding
  have hcontent : innerContent = (Element.sequence [.integer 0,
      .set (sorted.map Addressee.element),
      Envelope.encryptedContentInfo ⟨sorted, iv, cyphertext⟩]).encode := by
    rw [← pure_eq_ok.1 hinner, hset, ← Outcome.ok.inj heciEncoding, ← marshalSequence_encode]
    rfl
  rw [hcontent, ContentInfo.marshal, hoid, marshal_context] at h
  rw [← Outcome.ok.inj h, Envelope.element, ← marshalSequence_encode]
  rfl

/-! ### Opening -/

/-- A private key that decrypts what is encrypted for a public key. -/
def Decrypts (decryptKey : Bytes → Option Bytes) (pub : p.RSAPublicKey) : Prop :=
  ∀ reader key encrypted reader',
    p.encryptPKCS1v15 reader pub key = .ok (encrypted, reader') → decryptKey encrypted = some key

/-- The certificates with one issuer and serial number have one key. -/
def Identified (recipients : List (Option (Certificate p))) (cert : Certificate p) : Prop :=
  ∀ other, some other ∈ recipients → other.RawIssuer = cert.RawIssuer →
    other.SerialNumber = cert.SerialNumber → other.PublicKey = cert.PublicKey

theorem exists_addressee {key : Bytes} {recipients : List (Option (Certificate p))}
    {addressees : List Addressee} (h : List.Forall₂ (Addressed key) recipients addressees)
    {recipient : Option (Certificate p)} (hmem : recipient ∈ recipients) :
    ∃ addressee ∈ addressees, Addressed key recipient addressee := by
  induction h with
  | nil => exact absurd hmem List.not_mem_nil
  | cons hhead _ ih =>
    rcases List.mem_cons.1 hmem with rfl | hmem
    · exact ⟨_, List.mem_cons_self, hhead⟩
    · obtain ⟨addressee, haddressee, haddressed⟩ := ih hmem
      exact ⟨addressee, List.mem_cons_of_mem _ haddressee, haddressed⟩

theorem exists_recipient {key : Bytes} {recipients : List (Option (Certificate p))}
    {addressees : List Addressee} (h : List.Forall₂ (Addressed key) recipients addressees)
    {addressee : Addressee} (hmem : addressee ∈ addressees) :
    ∃ recipient ∈ recipients, Addressed key recipient addressee := by
  induction h with
  | nil => exact absurd hmem List.not_mem_nil
  | cons hhead _ ih =>
    rcases List.mem_cons.1 hmem with rfl | hmem
    · exact ⟨_, List.mem_cons_self, hhead⟩
    · obtain ⟨recipient, hrecipient, haddressed⟩ := ih hmem
      exact ⟨recipient, List.mem_cons_of_mem _ hrecipient, haddressed⟩

/-- The addresses are those of the certificates. -/
theorem map_addressees {key : Bytes} {recipients : List (Option (Certificate p))}
    {addressees : List Addressee} (h : List.Forall₂ (Addressed key) recipients addressees) :
    (addressees.map fun addressee ↦ (addressee.issuer.encode, some addressee.serialNumber)) =
      (recipients.filterMap id).map fun cert ↦ (cert.RawIssuer, cert.SerialNumber) := by
  induction h with
  | nil => rfl
  | cons hhead _ ih =>
    obtain ⟨cert, -, -, -, rfl, -, hissuer, hserial, -⟩ := hhead
    rw [List.map_cons, ih, List.filterMap_cons_some (f := id) rfl, List.map_cons, hissuer, hserial]

theorem Seals.find {content : Bytes} {recipients : List (Option (Certificate p))}
    {envelope : Envelope} {key : Bytes} (h : Seals content recipients envelope key)
    {cert : Certificate p} {pub : p.RSAPublicKey} {serialNumber : ℤ}
    {decryptKey : Bytes → Option Bytes} (hcert : some cert ∈ recipients)
    (hpub : cert.PublicKey = .rsa (some pub)) (hserial : cert.SerialNumber = some serialNumber)
    (hidentified : Identified recipients cert) (hdecrypts : Decrypts decryptKey pub) :
    ∃ addressee, envelope.addressees.find? (fun addressee ↦
        addressee.issuer.encode = cert.RawIssuer ∧ addressee.serialNumber = serialNumber) =
      some addressee ∧ decryptKey addressee.encryptedKey = some key := by
  obtain ⟨addressees, hperm, haddressed⟩ := h.addressees
  obtain ⟨own, hown, cert', -, -, -, heq, -, hissuer, hserial', -⟩ :=
    exists_addressee haddressed hcert
  cases heq
  have hsome : (envelope.addressees.find? fun addressee ↦
      addressee.issuer.encode = cert.RawIssuer ∧ addressee.serialNumber = serialNumber).isSome := by
    rw [List.find?_isSome]
    refine ⟨own, hperm.mem_iff.2 hown, decide_eq_true ⟨hissuer.symm, ?_⟩⟩
    exact Option.some.inj (hserial'.symm.trans hserial)
  obtain ⟨addressee, hfind⟩ := Option.isSome_iff_exists.1 hsome
  have hfound := List.find?_some hfind
  obtain ⟨hissuer', hserialNumber⟩ := of_decide_eq_true hfound
  have hmem := hperm.mem_iff.1 (List.mem_of_find?_eq_some hfind)
  -- The addressee that is found may belong to another certificate with the same key.
  obtain ⟨-, hother, other, pub', _, _, rfl, hpub', hissuerOther, hserialOther, hencrypted⟩ :=
    exists_recipient haddressed hmem
  have hkey := hidentified other hother (hissuerOther.trans hissuer')
    (by rw [hserialOther, hserial, hserialNumber])
  rw [hpub', hpub] at hkey
  cases hkey
  exact ⟨addressee, hfind, hdecrypts _ _ _ _ hencrypted⟩

/-- What the owner of a certificate makes of an envelope is its content. -/
theorem Seals.openWith {content : Bytes} {recipients : List (Option (Certificate p))}
    {envelope : Envelope} {key : Bytes} (h : Seals content recipients envelope key)
    {aesDecrypt : Bytes → Bytes → Bytes}
    (haes : ∀ key, key.length = 32 → Inverts aesBlockSize (p.aesEncrypt key) (aesDecrypt key))
    {cert : Certificate p} {pub : p.RSAPublicKey} {decryptKey : Bytes → Option Bytes}
    (hcert : some cert ∈ recipients) (hidentified : Identified recipients cert)
    (hpub : cert.PublicKey = .rsa (some pub)) (hdecrypts : Decrypts decryptKey pub) :
    ∃ serialNumber, cert.SerialNumber = some serialNumber ∧
      envelope.openWith aesDecrypt decryptKey cert.RawIssuer serialNumber = some content := by
  obtain ⟨addressees, -, haddressed⟩ := h.addressees
  obtain ⟨own, -, cert', -, -, -, heq, -, -, hserial, -⟩ := exists_addressee haddressed hcert
  cases heq
  obtain ⟨addressee, hfind, hkey⟩ := h.find hcert hpub hserial hidentified hdecrypts
  obtain ⟨padded, hpadded, hcyphertext⟩ := h.content
  obtain ⟨count, hpos, hle, rfl, -⟩ := pad_eq_ok hpadded
  refine ⟨own.serialNumber, hserial, ?_⟩
  rw [Envelope.openWith, hfind, Option.bind_eq_bind, Option.bind_some, hkey,
    Option.bind_eq_bind, Option.bind_some, decrypt_cryptBlocks (haes key h.length_key) hcyphertext]
  exact unpad_append hpos hle (hle.trans_lt (by decide)) content

end Writing

/-! ### An example -/

theorem length_replicate_read (n reader : ℕ) (bytes : Bytes) (reader' : ℕ)
    (h : (.ok (List.replicate n (UInt8.ofNat reader), reader + 1) : Outcome (Bytes × ℕ)) =
      .ok (bytes, reader')) : bytes.length = n := by
  cases h
  exact List.length_replicate

/-- A block is added to the key, and a key is shifted by the public key. -/
def shiftPrimitives : Primitives where
  Reader := ℕ
  RSAPublicKey := UInt8
  read n reader := .ok (List.replicate n (UInt8.ofNat reader), reader + 1)
  length_read := length_replicate_read
  aesEncrypt key block := xorBytes block (key.take aesBlockSize)
  encryptPKCS1v15 reader pub key := .ok (key.map (· + pub), reader + 1)

theorem inverts_shiftPrimitives {key : Bytes} (hkey : key.length = 32) :
    Inverts aesBlockSize (shiftPrimitives.aesEncrypt key)
      fun block ↦ xorBytes block (key.take aesBlockSize) := by
  have hlength : (key.take aesBlockSize).length = aesBlockSize := by
    rw [List.length_take, hkey, aesBlockSize]
    decide
  exact ⟨fun block hblock ↦ (length_xorBytes (hblock.trans hlength.symm)).trans hlength,
    fun block hblock ↦ xorBytes_xorBytes (hblock.trans hlength.symm)⟩

theorem decrypts_shiftPrimitives (pub : UInt8) :
    Decrypts (p := shiftPrimitives) (fun encrypted ↦ some (encrypted.map (· - pub))) pub := by
  intro reader key encrypted reader' h
  cases h
  refine congrArg some ((List.map_map.trans (List.map_congr_left fun b _ ↦ ?_)).trans
    (List.map_id key))
  exact UInt8.add_sub_cancel b pub

def concreteCertificate (serialNumber : ℤ) (pub : UInt8) : Certificate shiftPrimitives where
  RawIssuer := (Element.sequence [.octetString [65]]).encode
  SerialNumber := some serialNumber
  PublicKey := .rsa (some pub)

def concreteCertificates : List (Option (Certificate shiftPrimitives)) :=
  [some (concreteCertificate 7 3), some (concreteCertificate (-1) 4)]

theorem parsed_concreteCertificates : Parsed concreteCertificates := by
  intro cert hcert
  refine ⟨.sequence [.octetString [65]], ?_⟩
  rcases List.mem_pair.1 hcert with h | h
  · cases h
    rfl
  · cases h
    rfl

theorem identified_concreteCertificates :
    Identified concreteCertificates (concreteCertificate (-1) 4) := by
  intro other hother _ hserial
  rcases List.mem_pair.1 hother with h | h
  · cases h
    exact absurd (Option.some.inj hserial) (by decide)
  · cases h
    rfl

end YandexPay.Pkcs7
