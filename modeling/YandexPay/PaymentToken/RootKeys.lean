import YandexPay.PaymentToken.Recipient

/-!
# Expiration of root keys

A set of root keys is read once and used for as long as the process runs.
`ParseSenderVerifyingKeys` leaves out the keys that have expired when it runs, and nothing looks at
an expiration time afterwards. So a token is accepted through a root key that had not expired when
the set was read (`accepted_root_key_unexpired_at_parse`), though it may have expired since.
-/

set_option autoImplicit false
set_option relaxedAutoImplicit false

namespace YandexPay.PaymentToken

open Outcome

variable {p : Primitives}

/-- The loop keeps keys that it has read and that have not expired. -/
theorem parseVerifyingKeys_ok {now : ℤ} {parsed : List ParsedVerifyingKey}
    {keys : List (Option (SenderVerifyingKey p))}
    (h : parseVerifyingKeys p now parsed = .ok keys) :
    ∀ pointer ∈ keys, ∃ key, pointer = some key ∧ now ≤ key.expirationTime ∧
      ∃ entry ∈ parsed, parseVerifyingKey p entry = .ok key := by
  induction parsed generalizing keys with
  | nil =>
    obtain rfl := pure_eq_ok.mp h
    exact fun pointer hmem ↦ absurd hmem List.not_mem_nil
  | cons entry rest ih =>
    simp only [parseVerifyingKeys, bind_eq_ok, pure_eq_ok] at h
    obtain ⟨key, hkey, others, hothers, rfl⟩ := h
    intro pointer hmem
    by_cases hexpired : key.expirationTime < now
    · rw [if_pos hexpired] at hmem
      obtain ⟨k, hk, hnow, e, he, hparse⟩ := ih hothers pointer hmem
      exact ⟨k, hk, hnow, e, List.mem_cons_of_mem _ he, hparse⟩
    · rw [if_neg hexpired] at hmem
      rcases List.mem_cons.mp hmem with rfl | hmem
      · exact ⟨key, rfl, Int.not_lt.mp hexpired, entry, List.mem_cons_self, hkey⟩
      · obtain ⟨k, hk, hnow, e, he, hparse⟩ := ih hothers pointer hmem
        exact ⟨k, hk, hnow, e, List.mem_cons_of_mem _ he, hparse⟩

theorem ParseSenderVerifyingKeys_ok {now : ℤ} {data : Bytes} {keyset : SenderVerifyingKeySet p}
    (h : ParseSenderVerifyingKeys p now data = .ok keyset) {key : SenderVerifyingKey p}
    (hkey : some key ∈ keyset.keys) : now ≤ key.expirationTime := by
  simp only [ParseSenderVerifyingKeys, bind_eq_ok, deref_eq_ok, pure_eq_ok] at h
  obtain ⟨pointer, -, parsed, -, keys, hkeys, rfl⟩ := h
  obtain ⟨k, hk, hnow, -⟩ := parseVerifyingKeys_ok hkeys (some key) hkey
  obtain rfl := Option.some.inj hk
  exact hnow

/-- A root key of the recipient has signed the certificate of the token. -/
structure SignedBy (r : Recipient p) (token : Token) (key : SenderVerifyingKey p) : Prop where
  keySet : ∃ keyset, r.senderVerifyingKeySet = some keyset ∧ some key ∈ keyset.keys
  version : key.protocolVersion = token.protocolVersion
  certificate : ∃ cert, token.intermediateSigningCert = some cert ∧
    ∃ signature ∈ cert.signatures, Verifies p key.publicKey signature
      (toLengthValue [r.senderID, token.protocolVersion, cert.signedKey])

theorem unseal_verified {r : Recipient p} {now : ℤ} {token : Token} {message : Bytes}
    (h : r.Unseal now (some token) = .ok message) :
    ∃ signed, r.verify now token = .ok signed := by
  simp only [Recipient.Unseal, bind_eq_ok, deref_eq_ok, Option.some.injEq] at h
  obtain ⟨t, rfl, -, -, -, -, signed, hverify, -⟩ := h
  exact ⟨signed, hverify⟩

/-- The root key of an accepted token was unexpired when the set was read, and its signing key is
unexpired when the token is unsealed. -/
theorem accepted_root_key_unexpired_at_parse (p : Primitives) (r : Recipient p) (t₀ t : ℤ)
    (data : Bytes) (keyset : SenderVerifyingKeySet p)
    (hparse : ParseSenderVerifyingKeys p t₀ data = .ok keyset)
    (hkeyset : r.senderVerifyingKeySet = some keyset) (token : Token) (message : Bytes)
    (haccepted : r.Unseal t (some token) = .ok message) :
    (∃ key, SignedBy r token key ∧ t₀ ≤ key.expirationTime) ∧
      ∃ cert signedKey expiration, token.intermediateSigningCert = some cert ∧
        p.unmarshalSignedKey cert.signedKey = .ok signedKey ∧
        parseInt signedKey.keyExpiration = some expiration ∧ t < expiration * 1000000 := by
  obtain ⟨signed, hverify⟩ := unseal_verified haccepted
  obtain ⟨-, cert, keys, signingKey, hcert, hkeys, hcertifies, -⟩ := verify_ok hverify
  obtain ⟨key, hmem, hversion, hsignature⟩ := hcertifies.root
  obtain ⟨signedKey, expiration, hsignedKey, hexpiration, hnow, -⟩ := hcertifies.signedKey
  obtain rfl := Option.some.inj (hkeyset.symm.trans hkeys)
  exact ⟨⟨key, ⟨⟨keyset, hkeyset, hmem⟩, hversion, cert, hcert, hsignature⟩,
    ParseSenderVerifyingKeys_ok hparse hmem⟩,
    cert, signedKey, expiration, hcert, hsignedKey, hexpiration, hnow⟩

/-! ### A root key that expires after it was read -/

/-- The JSON of a set of one root key, which expires before the certificate does. -/
def rootKeysText : Bytes :=
  utf8 "\x7b\"keys\":[\x7b\"keyValue\":\"" ++ rootKey ++
    utf8 "\",\"keyExpiration\":\"1604000000000\",\"protocolVersion\":\"ECv2\"\x7d]\x7d"

def rootKeyEntry : ParsedVerifyingKey := ⟨rootKey, utf8 "1604000000000", ProtocolVersionECv2⟩

/-- Reads the set of root keys. -/
def readRootKeys : Bytes → Outcome (Option (List ParsedVerifyingKey)) :=
  onInput rootKeysText (some [rootKeyEntry])

theorem readRootKeys_text : readRootKeys rootKeysText = .ok (some [rootKeyEntry]) :=
  onInput_self rootKeysText (some [rootKeyEntry])

/-- Reads the root key and the signing key, which stand for themselves. -/
def readPublicKey (der : Bytes) : Outcome (ParsedPublicKey Bytes) :=
  if der = fromBase64 rootKey then .ok (.ecdsa der)
  else onInput (fromBase64 signingKey) (.ecdsa (fromBase64 signingKey)) der

/-- The primitives of `concretePrimitives`, with the reading of the root key. -/
def rootKeyPrimitives : Primitives :=
  { concretePrimitives with
    unmarshalVerifyingKeySet := readRootKeys
    parsePKIXPublicKey := readPublicKey }

/-- The set as it is read. -/
def rootKeySet : SenderVerifyingKeySet rootKeyPrimitives :=
  ⟨[some ⟨ProtocolVersionECv2, some (fromBase64 rootKey), 1604000000000000000⟩]⟩

def rootKeyRecipient : Recipient rootKeyPrimitives where
  recipientID := utf8 "someRecipient"
  senderID := utf8 "Yandex"
  senderVerifyingKeySet := some rootKeySet
  recipientPrivateKeys := [recipientKey]

theorem parseVerifyingKey_rootKey :
    parseVerifyingKey rootKeyPrimitives rootKeyEntry =
      .ok ⟨ProtocolVersionECv2, some (fromBase64 rootKey), 1604000000000000000⟩ := by
  have htime : parseTimestampInMilliseconds (utf8 "1604000000000") =
      .ok 1604000000000000000 := by decide +kernel
  have hdecode : Base64.decodeString rootKey = .ok (fromBase64 rootKey) := by decide +kernel
  have hparse : readPublicKey (fromBase64 rootKey) = .ok (.ecdsa (fromBase64 rootKey)) :=
    if_pos rfl
  have hpublic : parseB64ECPublicKey rootKeyPrimitives rootKey = .ok (fromBase64 rootKey) :=
    bind_eq_ok.mpr ⟨_, hdecode, bind_eq_ok.mpr ⟨_, hparse, rfl⟩⟩
  exact bind_eq_ok.mpr ⟨_, htime, bind_eq_ok.mpr ⟨_, hpublic, rfl⟩⟩

theorem parse_rootKeySet {t₀ : ℤ} (h : ¬ 1604000000000000000 < t₀) :
    ParseSenderVerifyingKeys rootKeyPrimitives t₀ rootKeysText = .ok rootKeySet := by
  have hread : rootKeyPrimitives.unmarshalVerifyingKeySet = readRootKeys := rfl
  have hjson : rootKeyPrimitives.unmarshalVerifyingKeySet rootKeysText =
      .ok (some [rootKeyEntry]) := by
    rw [hread]
    exact readRootKeys_text
  have hkeys : parseVerifyingKeys rootKeyPrimitives t₀ [rootKeyEntry] =
      .ok rootKeySet.keys := by
    simp only [parseVerifyingKeys, bind_eq_ok, pure_eq_ok]
    exact ⟨_, parseVerifyingKey_rootKey, [], rfl, if_neg h⟩
  simp only [ParseSenderVerifyingKeys, bind_eq_ok, deref_eq_ok, pure_eq_ok]
  exact ⟨some [rootKeyEntry], hjson, [rootKeyEntry], rfl, rootKeySet.keys, hkeys, rfl⟩

theorem unseal_after_root_key_expiration :
    rootKeyRecipient.Unseal 1606000000000000000 (some concreteToken) =
      .ok (utf8 "this_is_the_message") := by
  decide +kernel

theorem accepted_root_key_unexpired_at_parse_witness :
    (∃ key, SignedBy rootKeyRecipient concreteToken key ∧
      1600000000000000000 ≤ key.expirationTime) ∧
      ∃ cert signedKey expiration, concreteToken.intermediateSigningCert = some cert ∧
        rootKeyPrimitives.unmarshalSignedKey cert.signedKey = .ok signedKey ∧
        parseInt signedKey.keyExpiration = some expiration ∧
        1606000000000000000 < expiration * 1000000 :=
  accepted_root_key_unexpired_at_parse rootKeyPrimitives rootKeyRecipient 1600000000000000000
    1606000000000000000 rootKeysText rootKeySet (parse_rootKeySet (by decide)) rfl concreteToken
    (utf8 "this_is_the_message") unseal_after_root_key_expiration

/-- A token is accepted although the only root key expired before it was unsealed. -/
theorem expired_root_key_accepted :
    ParseSenderVerifyingKeys rootKeyPrimitives 1600000000000000000 rootKeysText =
        .ok rootKeySet ∧
      rootKeyRecipient.senderVerifyingKeySet = some rootKeySet ∧
      rootKeyRecipient.Unseal 1606000000000000000 (some concreteToken) =
        .ok (utf8 "this_is_the_message") ∧
      ¬ ∃ key, SignedBy rootKeyRecipient concreteToken key ∧
        1606000000000000000 ≤ key.expirationTime := by
  refine ⟨parse_rootKeySet (by decide), rfl, unseal_after_root_key_expiration, ?_⟩
  rintro ⟨key, ⟨⟨keyset, hkeyset, hkey⟩, -, -⟩, hexpiration⟩
  obtain rfl := Option.some.inj hkeyset
  obtain rfl := Option.some.inj (List.mem_singleton.mp hkey)
  revert hexpiration
  decide

end YandexPay.PaymentToken
