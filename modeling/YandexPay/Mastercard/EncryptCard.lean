import YandexPay.Mastercard.KeysManager

/-!
# Encryption of cards

`EncryptCard` of `client.go` in `duckgo/mastercard`. A card is encrypted under the key of the key
set that is meant for it. The functions of `go-jose` and `encoding/json` are fields of `Client`.

Two of the five steps return an empty text without an error when their library fails.
`failsLoudly_iff` says that these are the only cases in which a caller cannot tell a failure from a
card that was encrypted.
-/

set_option autoImplicit false
set_option relaxedAutoImplicit false

namespace YandexPay.Mastercard

open Outcome

/-! ### Cards -/

structure Card where
  PrimaryAccountNumber : String
  PanExpirationMonth : String
  PanExpirationYear : String
  CardholderFullName : String
  CardSecurityCode : String
deriving DecidableEq

def Card.Validate (c : Card) : Outcome Unit := do
  require (c.PrimaryAccountNumber ≠ "")
    (.errorf "mastercard: primaryAccountNumber is required" [])
  require (c.PanExpirationMonth ≠ "") (.errorf "mastercard: PanExpirationMonth is required" [])
  require (c.PanExpirationYear ≠ "") (.errorf "mastercard: PanExpirationYear is required" [])

theorem Card.validate_ne_panic (c : Card) : c.Validate ≠ .panic :=
  bind_ne_panic (require_ne_panic _ _) fun _ _ ↦
    bind_ne_panic (require_ne_panic _ _) fun _ _ ↦ require_ne_panic _ _

/-! ### Encryption -/

/-- `jose.A128GCM` -/
def A128GCM : String := "A128GCM"

/-- `jose.RSA_OAEP_256` -/
def RSA_OAEP_256 : String := "RSA-OAEP-256"

/-- The functions of `go-jose` on encrypted messages. -/
structure JoseEncryption (κ : Type) where
  Encrypter : Type
  JSONWebEncryption : Type
  /-- `jose.NewEncrypter`, of a content encryption and a recipient. -/
  newEncrypter : String → String → JSONWebKey κ → Outcome Encrypter
  encrypt : Encrypter → Bytes → Outcome JSONWebEncryption
  compactSerialize : JSONWebEncryption → Outcome Bytes
  /-- `jose.ParseEncrypted` and `Decrypt` with the private key that belongs to a key. -/
  decrypt : JSONWebKey κ → Bytes → Outcome Bytes

/-- What was encrypted for a key is decrypted, and an empty text is no message. -/
structure JoseEncryption.Correct {κ : Type} (jose : JoseEncryption κ) : Prop where
  decrypt_encrypt : ∀ key enc plaintext obj jwe,
    jose.newEncrypter A128GCM RSA_OAEP_256 key = .ok enc →
    jose.encrypt enc plaintext = .ok obj → jose.compactSerialize obj = .ok jwe →
    jose.decrypt key jwe = .ok plaintext
  decrypt_nil : ∀ key plaintext, jose.decrypt key [] ≠ .ok plaintext

/-- What `Client` encrypts with: the answer of `publicKeys.Get`, and the libraries. -/
structure Client (κ : Type) where
  publicKeys : Option (JSONWebKeySet κ)
  jose : JoseEncryption κ
  /-- `json.Marshal` of a card -/
  marshal : Card → Outcome Bytes

/-- The rest of a function with the value of a call, or `return "", nil` on its error. -/
def orEmpty {α : Type} (x : Outcome α) (f : α → Outcome Bytes) : Outcome Bytes :=
  match x with
  | .ok value => f value
  | .err _ => .ok []
  | .panic => .panic

theorem orEmpty_ne_panic {α : Type} {x : Outcome α} {f : α → Outcome Bytes} (hx : x ≠ .panic)
    (hf : ∀ a, f a ≠ .panic) : orEmpty x f ≠ .panic := by
  cases x with
  | ok value => exact hf value
  | err error => exact fun h ↦ nomatch h
  | panic => exact absurd rfl hx

namespace Client

variable {κ : Type} (c : Client κ) (card : Card)

def EncryptCard : Outcome Bytes := do
  let fpanKey ← getFPANEncryptionKey c.publicKeys
  let enc ← c.jose.newEncrypter A128GCM RSA_OAEP_256 fpanKey
  orEmpty (c.marshal card) fun plaintext ↦
    orEmpty (c.jose.encrypt enc plaintext) fun obj ↦ c.jose.compactSerialize obj

/-! ### Failures -/

/-- A step fails, after those before it. -/
inductive Fails : Prop
  | key {error : GoError} (hkey : getFPANEncryptionKey c.publicKeys = .err error)
  | encrypter {key : JSONWebKey κ} {error : GoError}
    (hkey : getFPANEncryptionKey c.publicKeys = .ok key)
    (hencrypter : c.jose.newEncrypter A128GCM RSA_OAEP_256 key = .err error)
  | marshal {key : JSONWebKey κ} {enc : c.jose.Encrypter} {error : GoError}
    (hkey : getFPANEncryptionKey c.publicKeys = .ok key)
    (hencrypter : c.jose.newEncrypter A128GCM RSA_OAEP_256 key = .ok enc)
    (hmarshal : c.marshal card = .err error)
  | encrypt {key : JSONWebKey κ} {enc : c.jose.Encrypter} {plaintext : Bytes} {error : GoError}
    (hkey : getFPANEncryptionKey c.publicKeys = .ok key)
    (hencrypter : c.jose.newEncrypter A128GCM RSA_OAEP_256 key = .ok enc)
    (hmarshal : c.marshal card = .ok plaintext)
    (hencrypt : c.jose.encrypt enc plaintext = .err error)
  | serialize {key : JSONWebKey κ} {enc : c.jose.Encrypter} {plaintext : Bytes}
    {obj : c.jose.JSONWebEncryption} {error : GoError}
    (hkey : getFPANEncryptionKey c.publicKeys = .ok key)
    (hencrypter : c.jose.newEncrypter A128GCM RSA_OAEP_256 key = .ok enc)
    (hmarshal : c.marshal card = .ok plaintext)
    (hencrypt : c.jose.encrypt enc plaintext = .ok obj)
    (hserialize : c.jose.compactSerialize obj = .err error)

/-- The text decrypts under the chosen key to the JSON of the card. -/
def Encrypts (jwe : Bytes) : Prop :=
  ∃ key plaintext, getFPANEncryptionKey c.publicKeys = .ok key ∧
    c.marshal card = .ok plaintext ∧ c.jose.decrypt key jwe = .ok plaintext

/-- A nil error comes with the encrypted card, and a failure of a step with an error. -/
structure FailsLoudly : Prop where
  encrypts : ∀ jwe, c.EncryptCard card = .ok jwe → c.Encrypts card jwe
  reports : c.Fails card → ∃ error, c.EncryptCard card = .err error

/-- There are a key and an encrypter, and the card cannot be marshalled or its JSON encrypted. -/
def Swallows : Prop :=
  ∃ key enc, getFPANEncryptionKey c.publicKeys = .ok key ∧
    c.jose.newEncrypter A128GCM RSA_OAEP_256 key = .ok enc ∧
    ((∃ error, c.marshal card = .err error) ∨
      ∃ plaintext error, c.marshal card = .ok plaintext ∧
        c.jose.encrypt enc plaintext = .err error)

variable {c card} {jwe : Bytes}

theorem orEmpty_eq_ok {α : Type} {x : Outcome α} {f : α → Outcome Bytes} :
    orEmpty x f = .ok jwe ↔ (∃ a, x = .ok a ∧ f a = .ok jwe) ∨ ((∃ e, x = .err e) ∧ jwe = []) := by
  cases x with
  | ok value => simp [orEmpty]
  | err error => simp [orEmpty, eq_comm]
  | panic => simp [orEmpty]

/-- A text that is returned is the encrypted card, or empty after a failure. -/
theorem encryptCard_eq_ok : c.EncryptCard card = .ok jwe ↔
    (c.Swallows card ∧ jwe = []) ∨
      ∃ key enc plaintext obj, getFPANEncryptionKey c.publicKeys = .ok key ∧
        c.jose.newEncrypter A128GCM RSA_OAEP_256 key = .ok enc ∧
        c.marshal card = .ok plaintext ∧ c.jose.encrypt enc plaintext = .ok obj ∧
        c.jose.compactSerialize obj = .ok jwe := by
  simp only [EncryptCard, bind_eq_ok, orEmpty_eq_ok]
  constructor
  · rintro ⟨key, hkey, enc, henc, ⟨plaintext, hmarshal, ⟨obj, hobj, hjwe⟩ | ⟨⟨e, he⟩, hnil⟩⟩ |
      ⟨hmarshal, hnil⟩⟩
    · exact .inr ⟨key, enc, plaintext, obj, hkey, henc, hmarshal, hobj, hjwe⟩
    · exact .inl ⟨⟨key, enc, hkey, henc, .inr ⟨plaintext, e, hmarshal, he⟩⟩, hnil⟩
    · exact .inl ⟨⟨key, enc, hkey, henc, .inl hmarshal⟩, hnil⟩
  · rintro (⟨⟨key, enc, hkey, henc, hmarshal | ⟨plaintext, e, hmarshal, he⟩⟩, hnil⟩ |
      ⟨key, enc, plaintext, obj, hkey, henc, hmarshal, hobj, hjwe⟩)
    · exact ⟨key, hkey, enc, henc, .inr ⟨hmarshal, hnil⟩⟩
    · exact ⟨key, hkey, enc, henc, .inl ⟨plaintext, hmarshal, .inr ⟨⟨e, he⟩, hnil⟩⟩⟩
    · exact ⟨key, hkey, enc, henc, .inl ⟨plaintext, hmarshal, .inl ⟨obj, hobj, hjwe⟩⟩⟩

theorem Swallows.fails (h : c.Swallows card) : c.Fails card := by
  obtain ⟨key, enc, hkey, henc, ⟨e, hmarshal⟩ | ⟨plaintext, e, hmarshal, hencrypt⟩⟩ := h
  · exact .marshal hkey henc hmarshal
  · exact .encrypt hkey henc hmarshal hencrypt

/-- The other steps return their error. -/
theorem encryptCard_eq_err_of_fails (h : c.Fails card) (hswallows : ¬ c.Swallows card) :
    ∃ error, c.EncryptCard card = .err error := by
  cases h with
  | key hkey => exact ⟨_, by rw [EncryptCard, hkey]; rfl⟩
  | @encrypter key error hkey hencrypter =>
    refine ⟨error, ?_⟩
    rw [EncryptCard, hkey]
    change c.jose.newEncrypter A128GCM RSA_OAEP_256 _ >>= _ = _
    rw [hencrypter]
    rfl
  | marshal hkey hencrypter hmarshal =>
    exact absurd ⟨_, _, hkey, hencrypter, .inl ⟨_, hmarshal⟩⟩ hswallows
  | encrypt hkey hencrypter hmarshal hencrypt =>
    exact absurd ⟨_, _, hkey, hencrypter, .inr ⟨_, _, hmarshal, hencrypt⟩⟩ hswallows
  | @serialize key enc plaintext obj error hkey hencrypter hmarshal hencrypt hserialize =>
    refine ⟨error, ?_⟩
    rw [EncryptCard, hkey]
    change c.jose.newEncrypter A128GCM RSA_OAEP_256 _ >>= _ = _
    rw [hencrypter, hmarshal]
    change orEmpty (c.jose.encrypt _ _) _ = _
    rw [hencrypt]
    exact hserialize

/-- Failures are told from encrypted cards exactly when none of the two steps fails. -/
theorem failsLoudly_iff (hjose : c.jose.Correct) : c.FailsLoudly card ↔ ¬ c.Swallows card := by
  constructor
  · intro h hswallows
    obtain ⟨e, he⟩ := h.reports hswallows.fails
    exact nomatch he.symm.trans (encryptCard_eq_ok.mpr (.inl ⟨hswallows, rfl⟩))
  · intro hswallows
    refine ⟨fun jwe hjwe ↦ ?_, fun hfails ↦ encryptCard_eq_err_of_fails hfails hswallows⟩
    rcases encryptCard_eq_ok.mp hjwe with
      ⟨h, -⟩ | ⟨key, enc, plaintext, obj, hkey, henc, hmarshal, hobj, hserialize⟩
    · exact absurd h hswallows
    · exact ⟨key, plaintext, hkey, hmarshal,
        hjose.decrypt_encrypt key enc plaintext obj jwe henc hobj hserialize⟩

theorem Encrypts.ne_nil (hjose : c.jose.Correct) (h : c.Encrypts card jwe) : jwe ≠ [] := by
  rintro rfl
  obtain ⟨key, plaintext, -, -, hdecrypt⟩ := h
  exact hjose.decrypt_nil key plaintext hdecrypt

end Client

end YandexPay.Mastercard
