import YandexPay.PaymentToken.RoundTrip
import Mathlib.Data.List.Perm.Basic

/-!
# The order of root keys

`verifySignatures` tries the keys one after another. A signature that a key rejects leaves the loop
running, but a key for which no verifier can be made ends it with an error, as ECDSA keys on another
curve do. `verifySignatures_iff` says for which lists of keys the result is that of the pairs of a
key and a signature, and for which it is so in every order.
-/

set_option autoImplicit false
set_option relaxedAutoImplicit false

namespace YandexPay.PaymentToken

open Outcome

variable (p : Primitives)

/-- A verifier can be made for the key. -/
def Usable (pubKey : Option p.PublicKey) : Prop :=
  ∃ verifier, p.newECDSAVerifier hashAlgoSHA256 encodingDER pubKey = .ok verifier

/-- The key verifies one of the signatures. -/
def Accepts (signatures : List Bytes) (signedBytes : Bytes) (pubKey : Option p.PublicKey) : Prop :=
  ∃ verifier, p.newECDSAVerifier hashAlgoSHA256 encodingDER pubKey = .ok verifier ∧
    ∃ signature ∈ signatures, verifier signature signedBytes = .ok ()

/-- Verification returns a verdict: a verifier does not panic. -/
def VerifiersReturn : Prop :=
  ∀ pubKey verifier, p.newECDSAVerifier hashAlgoSHA256 encodingDER pubKey = .ok verifier →
    ∀ signature signedBytes, verifier signature signedBytes ≠ .panic

/-- The result is that of the pairs: a success exactly when some key verifies some signature. -/
def ByPairs (pubKeys : List (Option p.PublicKey)) (signatures : List Bytes) (signedBytes : Bytes) :
    Prop :=
  verifySignatures p pubKeys signatures signedBytes = .ok () ↔
    ∃ pubKey ∈ pubKeys, Accepts p signatures signedBytes pubKey

variable {p} {pubKeys : List (Option p.PublicKey)} {signatures signatures' : List Bytes}
  {signedBytes : Bytes}

theorem Accepts.usable {pubKey : Option p.PublicKey} (h : Accepts p signatures signedBytes pubKey) :
    Usable p pubKey := by
  obtain ⟨verifier, hverifier, -⟩ := h
  exact ⟨verifier, hverifier⟩

theorem accepts_perm (h : signatures.Perm signatures') (pubKey : Option p.PublicKey) :
    Accepts p signatures' signedBytes pubKey ↔ Accepts p signatures signedBytes pubKey := by
  rw [Accepts, Accepts]
  refine exists_congr fun verifier ↦ and_congr_right fun _ ↦ exists_congr fun signature ↦ ?_
  rw [h.mem_iff]

/-- The loop succeeds at a key that verifies a signature, when it comes to it. -/
theorem verifySignatures_eq_ok_iff (hp : VerifiersReturn p) :
    verifySignatures p pubKeys signatures signedBytes = .ok () ↔
      ∃ before pubKey after, pubKeys = before ++ pubKey :: after ∧
        Accepts p signatures signedBytes pubKey ∧ ∀ key ∈ before, Usable p key := by
  induction pubKeys with
  | nil =>
    refine iff_of_false (fun h ↦ nomatch h) ?_
    rintro ⟨before, pubKey, after, heq, -⟩
    exact absurd heq.symm (List.append_ne_nil_of_right_ne_nil _ (List.cons_ne_nil _ _))
  | cons first rest ih =>
    rw [verifySignatures, bind_eq_ok]
    constructor
    · rintro ⟨verifier, hverifier, hloop⟩
      obtain ⟨accepted, hany, hrest⟩ := bind_eq_ok.mp hloop
      cases accepted with
      | true => exact ⟨[], first, rest, rfl, ⟨verifier, hverifier, verifyAny_ok hany⟩,
          fun key hkey ↦ absurd hkey List.not_mem_nil⟩
      | false =>
        obtain ⟨before, pubKey, after, rfl, haccepts, husable⟩ := ih.mp hrest
        exact ⟨first :: before, pubKey, after, rfl, haccepts,
          List.forall_mem_cons.mpr ⟨⟨verifier, hverifier⟩, husable⟩⟩
    · rintro ⟨before, pubKey, after, heq, haccepts, husable⟩
      have hfirst : Usable p first := by
        cases before with
        | nil =>
          obtain ⟨rfl, -⟩ := List.cons.inj heq
          exact haccepts.usable
        | cons key before =>
          obtain ⟨rfl, -⟩ := List.cons.inj heq
          exact husable first List.mem_cons_self
      obtain ⟨verifier, hverifier⟩ := hfirst
      have hreturns (signature : Bytes) : verifier signature signedBytes ≠ .panic :=
        hp first verifier hverifier signature signedBytes
      refine ⟨verifier, hverifier, bind_eq_ok.mpr ?_⟩
      rcases verifyAny_total hreturns signatures with haccepted | hrejected
      · exact ⟨true, haccepted, rfl⟩
      · -- The first key rejects all signatures, so the accepting one is behind it.
        refine ⟨false, hrejected, ih.mpr ?_⟩
        cases before with
        | nil =>
          obtain ⟨rfl, -⟩ := List.cons.inj heq
          obtain ⟨verifier', hverifier', signature, hmem, hverify⟩ := haccepts
          obtain rfl := Outcome.ok.inj (hverifier.symm.trans hverifier')
          exact absurd hverify ((verifyAny_eq_false hreturns).mp hrejected signature hmem)
        | cons key before =>
          obtain ⟨-, rfl⟩ := List.cons.inj heq
          exact ⟨before, pubKey, after, rfl, haccepts,
            fun key hkey ↦ husable key (List.mem_cons_of_mem _ hkey)⟩

/-- The result is that of the pairs when no pair verifies, or when the keys before the first key
that verifies a signature are usable. -/
theorem byPairs_iff (hp : VerifiersReturn p) :
    ByPairs p pubKeys signatures signedBytes ↔
      (∀ pubKey ∈ pubKeys, ¬ Accepts p signatures signedBytes pubKey) ∨
        ∃ before pubKey after, pubKeys = before ++ pubKey :: after ∧
          Accepts p signatures signedBytes pubKey ∧ ∀ key ∈ before, Usable p key := by
  rw [ByPairs, verifySignatures_eq_ok_iff hp]
  by_cases hpair : ∃ pubKey ∈ pubKeys, Accepts p signatures signedBytes pubKey
  · have hnot : ¬ ∀ pubKey ∈ pubKeys, ¬ Accepts p signatures signedBytes pubKey := by
      rintro hnone
      obtain ⟨pubKey, hmem, haccepts⟩ := hpair
      exact hnone pubKey hmem haccepts
    rw [iff_true_right hpair, or_iff_right hnot]
  · refine iff_of_true (iff_of_false ?_ hpair) (.inl fun pubKey hmem haccepts ↦
      hpair ⟨pubKey, hmem, haccepts⟩)
    rintro ⟨before, pubKey, after, rfl, haccepts, -⟩
    exact hpair ⟨pubKey, List.mem_append_right _ List.mem_cons_self, haccepts⟩

/-- Usable keys come to every key that verifies. -/
theorem byPairs_of_usable (hp : VerifiersReturn p) (h : ∀ key ∈ pubKeys, Usable p key) :
    ByPairs p pubKeys signatures signedBytes := by
  rw [byPairs_iff hp]
  by_cases hpair : ∃ pubKey ∈ pubKeys, Accepts p signatures signedBytes pubKey
  · obtain ⟨pubKey, hmem, haccepts⟩ := hpair
    obtain ⟨before, after, rfl⟩ := List.append_of_mem hmem
    exact .inr ⟨before, pubKey, after, rfl, haccepts,
      fun key hkey ↦ h key (List.mem_append_left _ hkey)⟩
  · exact .inl fun pubKey hmem haccepts ↦ hpair ⟨pubKey, hmem, haccepts⟩

/-- An unusable key before all others hides them. -/
theorem not_byPairs_of_unusable (hp : VerifiersReturn p) {unusable pubKey : Option p.PublicKey}
    (hunusable : ¬ Usable p unusable) (hmem : pubKey ∈ pubKeys)
    (haccepts : Accepts p signatures signedBytes pubKey) :
    ¬ ByPairs p (unusable :: pubKeys) signatures signedBytes := by
  rw [byPairs_iff hp, not_or]
  refine ⟨fun hnone ↦ hnone pubKey (List.mem_cons_of_mem _ hmem) haccepts, ?_⟩
  rintro ⟨before, key, after, heq, hkey, husable⟩
  cases before with
  | nil =>
    obtain ⟨rfl, -⟩ := List.cons.inj heq
    exact hunusable hkey.usable
  | cons first before =>
    obtain ⟨rfl, -⟩ := List.cons.inj heq
    exact hunusable (husable unusable List.mem_cons_self)

/-- Assumes that verifiers do not panic. The result is that of the pairs exactly when no pair
verifies or the keys before the first one that verifies a signature are usable; and it is so in
every order of the keys and of the signatures exactly when no pair verifies or all keys are
usable. -/
theorem verifySignatures_iff (hp : VerifiersReturn p) (pubKeys : List (Option p.PublicKey))
    (signatures : List Bytes) (signedBytes : Bytes) :
    (ByPairs p pubKeys signatures signedBytes ↔
      (∀ pubKey ∈ pubKeys, ¬ Accepts p signatures signedBytes pubKey) ∨
        ∃ before pubKey after, pubKeys = before ++ pubKey :: after ∧
          Accepts p signatures signedBytes pubKey ∧ ∀ key ∈ before, Usable p key) ∧
    ((∀ pubKeys' signatures', pubKeys.Perm pubKeys' → signatures.Perm signatures' →
        ByPairs p pubKeys' signatures' signedBytes) ↔
      (∀ pubKey ∈ pubKeys, ¬ Accepts p signatures signedBytes pubKey) ∨
        ∀ key ∈ pubKeys, Usable p key) := by
  refine ⟨byPairs_iff hp, ?_, ?_⟩
  · rintro horders
    by_cases hpair : ∃ pubKey ∈ pubKeys, Accepts p signatures signedBytes pubKey
    · obtain ⟨pubKey, hmem, haccepts⟩ := hpair
      refine .inr fun key hkey ↦ by_contra fun hunusable ↦ ?_
      obtain ⟨before, after, rfl⟩ := List.append_of_mem hkey
      have hperm : (before ++ key :: after).Perm (key :: (before ++ after)) := List.perm_middle
      refine not_byPairs_of_unusable hp hunusable ?_ haccepts (horders _ _ hperm (.refl _))
      rcases List.mem_cons.mp (hperm.mem_iff.mp hmem) with rfl | hrest
      · exact absurd haccepts.usable hunusable
      · exact hrest
    · exact .inl fun pubKey hmem haccepts ↦ hpair ⟨pubKey, hmem, haccepts⟩
  · rintro (hnone | husable) pubKeys' signatures' hkeys hsignatures
    · refine (byPairs_iff hp).mpr (.inl fun pubKey hmem haccepts ↦ ?_)
      exact hnone pubKey (hkeys.mem_iff.mpr hmem) ((accepts_perm hsignatures pubKey).mp haccepts)
    · exact byPairs_of_usable hp fun key hkey ↦ husable key (hkeys.mem_iff.mpr hkey)

/-! ### A root key on another curve -/

/-- A key that can be parsed, on a curve that SHA-256 does not go with. -/
def otherCurveKey : Bytes := utf8 "P-384"

def curveVerifier (publicKey : Option Bytes) : Outcome (Bytes → Bytes → Outcome Unit) :=
  if publicKey = some otherCurveKey then
    .err (.library "ecdsa: invalid hash type, expect SHA-384")
  else concretePrimitives.newECDSAVerifier hashAlgoSHA256 encodingDER publicKey

def curvePrimitives : Primitives :=
  { concretePrimitives with newECDSAVerifier := fun _ _ publicKey ↦ curveVerifier publicKey }

theorem curvePrimitives_verifiersReturn : VerifiersReturn curvePrimitives := by
  rintro pubKey verifier hverifier signature signedBytes
  change curveVerifier pubKey = _ at hverifier
  unfold curveVerifier at hverifier
  split_ifs at hverifier with hcurve
  obtain ⟨key, -, hpure⟩ := bind_eq_ok.mp hverifier
  rw [← pure_eq_ok.mp hpure]
  exact require_ne_panic _ _

/-- The signatures of the concrete certificate, and the bytes that they sign. -/
def rootSignatures : List Bytes := [concreteCert.signatures.flatMap fromBase64]

def rootSignedBytes : Bytes := toLengthValue [utf8 "Yandex", ProtocolVersionECv2, signedKeyText]

def rootKeyOf : Option curvePrimitives.PublicKey := some (fromBase64 rootKey)

def otherKeyOf : Option curvePrimitives.PublicKey := some otherCurveKey

theorem newECDSAVerifier_rootKey : curveVerifier (some (fromBase64 rootKey)) =
    .ok fun signature signedBytes ↦
      require ((fromBase64 rootKey, signature, signedBytes) ∈ acceptedSignatures)
        (.library "ecdsa: invalid signature") := by
  apply if_neg
  decide +kernel

theorem newECDSAVerifier_otherCurveKey : curveVerifier (some otherCurveKey) =
    .err (.library "ecdsa: invalid hash type, expect SHA-384") := by
  apply if_pos
  rfl

theorem rootKey_accepts : Accepts curvePrimitives rootSignatures rootSignedBytes rootKeyOf := by
  refine ⟨_, newECDSAVerifier_rootKey, _, List.mem_cons_self, require_eq_ok.mpr ?_⟩
  exact decide_eq_true List.mem_cons_self

theorem otherCurveKey_unusable : ¬ Usable curvePrimitives otherKeyOf := by
  rintro ⟨verifier, hverifier⟩
  exact nomatch newECDSAVerifier_otherCurveKey.symm.trans hverifier

/-- The key on another curve behind the root key. -/
theorem verifySignatures_iff_witness :
    ByPairs curvePrimitives [rootKeyOf, otherKeyOf] rootSignatures rootSignedBytes ∧
      ¬ ∀ pubKeys' signatures', [rootKeyOf, otherKeyOf].Perm pubKeys' →
        rootSignatures.Perm signatures' →
          ByPairs curvePrimitives pubKeys' signatures' rootSignedBytes := by
  obtain ⟨hresult, horders⟩ := verifySignatures_iff curvePrimitives_verifiersReturn
    [rootKeyOf, otherKeyOf] rootSignatures rootSignedBytes
  rw [hresult, horders]
  refine ⟨.inr ⟨[], _, _, rfl, rootKey_accepts, fun key hkey ↦ absurd hkey List.not_mem_nil⟩, ?_⟩
  rintro (hnone | husable)
  · exact hnone _ List.mem_cons_self rootKey_accepts
  · exact otherCurveKey_unusable (husable _ (List.mem_cons_of_mem _ List.mem_cons_self))

/-- The root key verifies the signature, but the key on another curve stands before it. -/
theorem otherCurveKey_hides_rootKey :
    verifySignatures curvePrimitives [otherKeyOf, rootKeyOf] rootSignatures rootSignedBytes =
        .err (.library "ecdsa: invalid hash type, expect SHA-384") ∧
      verifySignatures curvePrimitives [rootKeyOf, otherKeyOf] rootSignatures rootSignedBytes =
        .ok () ∧
      ¬ ByPairs curvePrimitives [otherKeyOf, rootKeyOf] rootSignatures rootSignedBytes := by
  refine ⟨?_, ?_, ?_⟩
  · rfl
  · refine (verifySignatures_eq_ok_iff curvePrimitives_verifiersReturn).mpr ?_
    exact ⟨[], _, _, rfl, rootKey_accepts, fun key hkey ↦ absurd hkey List.not_mem_nil⟩
  · exact not_byPairs_of_unusable curvePrimitives_verifiersReturn otherCurveKey_unusable
      List.mem_cons_self rootKey_accepts

end YandexPay.PaymentToken
