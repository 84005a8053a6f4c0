import Mathlib.Data.List.Nodup
import YandexPay.Library.PrefixCode

/-!
# Signatures from hexadecimal digests

A list of texts is signed by hashing each text, joining the digests and hashing the result. When
the hash has digests of a fixed length and no two of the hashed texts collide, a signature
determines the list (`signTexts_injective`).
-/

set_option autoImplicit false
set_option relaxedAutoImplicit false

namespace YandexPay.HexDigest

/-- `delimiter.join(texts)` -/
def join (delimiter : String) : List String → String
  | [] => ""
  | [text] => text
  | text :: texts => text ++ delimiter ++ join delimiter texts

/-- `text.upper()` for a text of ASCII characters. -/
def upper (text : String) : String := String.ofList (text.toList.map Char.toUpper)

/-- The hash of the joined digests of the texts, in upper case. -/
def signTexts (hash : String → String) (delimiter : String) (texts : List String) : String :=
  upper (hash (join delimiter (texts.map hash)))

/-- What is hashed for a signature. -/
def hashedTexts (hash : String → String) (delimiter : String) (texts : List String) :
    List String := join delimiter (texts.map hash) :: texts

/-- The digests of a hash function are hexadecimal texts of a fixed length, and it does not collide
on the given texts. -/
structure CollisionFree (hash : String → String) (length : ℕ) (texts : Set String) : Prop where
  length_pos : 0 < length
  length_eq : ∀ text, (hash text).toList.length = length
  hex : ∀ text, ∀ c ∈ (hash text).toList, c ∈ "0123456789abcdef".toList
  injOn : Set.InjOn hash texts

theorem toList_join_append (delimiter : String) {texts : List String} (hne : texts ≠ []) :
    (join delimiter texts).toList ++ delimiter.toList =
      texts.flatMap fun text ↦ text.toList ++ delimiter.toList := by
  induction texts with
  | nil => exact absurd rfl hne
  | cons text texts ih =>
    cases texts with
    | nil => rw [join, List.flatMap_cons, List.flatMap_nil, List.append_nil]
    | cons next rest =>
      rw [join, List.flatMap_cons, ← ih (List.cons_ne_nil _ _), String.toList_append,
        String.toList_append]
      · simp only [List.append_assoc]
      · simp

/-- Texts of one length can be told apart in their concatenation. -/
theorem selfDelimiting_of_length (delimiter : String) {length : ℕ} (hpos : 0 < length) :
    SelfDelimiting (fun text : String ↦ text.toList ++ delimiter.toList)
      {text | text.toList.length = length} where
  ne_nil := by
    rintro text rfl hnil
    rw [(List.append_eq_nil_iff.mp hnil).1] at hpos
    exact absurd hpos (lt_irrefl 0)
  cancel := by
    rintro a rfl b hb x y heq
    rw [List.append_assoc, List.append_assoc] at heq
    obtain ⟨htext, hrest⟩ := List.append_inj heq hb.symm
    exact ⟨String.toList_inj.mp htext, List.append_cancel_left hrest⟩

theorem join_injective (delimiter : String) {length : ℕ} (hpos : 0 < length)
    {texts texts' : List String} (hne : texts ≠ []) (hne' : texts' ≠ [])
    (htexts : ∀ text ∈ texts, text.toList.length = length)
    (htexts' : ∀ text ∈ texts', text.toList.length = length)
    (h : join delimiter texts = join delimiter texts') : texts = texts' := by
  refine (selfDelimiting_of_length delimiter hpos).flatMap_injOn htexts htexts' ?_
  change texts.flatMap _ = texts'.flatMap _
  rw [← toList_join_append delimiter hne, ← toList_join_append delimiter hne', h]

/-- Lists of elements that a function tells apart. -/
theorem map_injOn {α β : Type*} {f : α → β} {s : Set α} (h : Set.InjOn f s) :
    Set.InjOn (List.map f) {l | ∀ a ∈ l, a ∈ s} := by
  intro l
  induction l with
  | nil =>
    intro _ l' _ heq
    exact (List.map_eq_nil_iff.mp heq.symm).symm
  | cons a l ih =>
    intro hl l' hl' heq
    cases l' with
    | nil => exact absurd heq (List.cons_ne_nil _ _)
    | cons b l' =>
      obtain ⟨ha, hl⟩ := List.forall_mem_cons.mp hl
      obtain ⟨hb, hl'⟩ := List.forall_mem_cons.mp hl'
      obtain ⟨hhead, htail⟩ := List.cons.inj heq
      rw [h ha hb hhead, ih hl hl' htail]

theorem upper_injOn :
    Set.InjOn upper {text | ∀ c ∈ text.toList, c ∈ "0123456789abcdef".toList} := by
  have hchars : Set.InjOn Char.toUpper {c | c ∈ "0123456789abcdef".toList} := by
    have hnodup : ("0123456789abcdef".toList.map Char.toUpper).Nodup := by
      have hmap : "0123456789abcdef".toList.map Char.toUpper = "0123456789ABCDEF".toList := by rfl
      rw [hmap]
      decide
    exact List.inj_on_of_nodup_map hnodup
  intro a ha b hb heq
  have hlists := congrArg String.toList heq
  rw [upper, upper, String.toList_ofList, String.toList_ofList] at hlists
  exact String.toList_inj.mp (map_injOn hchars ha hb hlists)

namespace CollisionFree

variable {hash : String → String} {length : ℕ} {texts : Set String}

theorem length_signTexts (h : CollisionFree hash length texts) (delimiter : String)
    (l : List String) : (signTexts hash delimiter l).toList.length = length := by
  rw [signTexts, upper, String.toList_ofList, List.length_map, h.length_eq]

/-- A signature determines the texts that it signs. -/
theorem signTexts_injective (h : CollisionFree hash length texts) {delimiter : String}
    {l l' : List String} (hne : l ≠ []) (hne' : l' ≠ [])
    (hl : ∀ text ∈ hashedTexts hash delimiter l, text ∈ texts)
    (hl' : ∀ text ∈ hashedTexts hash delimiter l', text ∈ texts)
    (heq : signTexts hash delimiter l = signTexts hash delimiter l') : l = l' := by
  obtain ⟨hjoin, htexts⟩ := List.forall_mem_cons.mp hl
  obtain ⟨hjoin', htexts'⟩ := List.forall_mem_cons.mp hl'
  have hjoined := h.injOn hjoin hjoin' (upper_injOn (h.hex _) (h.hex _) heq)
  have hlength : ∀ k : List String, ∀ text ∈ k.map hash, text.toList.length = length := by
    intro k text hmem
    obtain ⟨source, -, rfl⟩ := List.mem_map.mp hmem
    exact h.length_eq source
  have hdigests := join_injective delimiter h.length_pos (mt List.map_eq_nil_iff.mp hne)
    (mt List.map_eq_nil_iff.mp hne') (hlength l) (hlength l') hjoined
  exact map_injOn h.injOn htexts htexts' hdigests

/-- A function given by a table, with one digest for all other texts. -/
theorem of_table {table : List (String × String)} {other : String} (hpos : 0 < length)
    (hdigests : (other :: table.map Prod.snd).all (fun digest ↦
      digest.toList.length == length &&
        digest.toList.all fun c ↦ "0123456789abcdef".toList.contains c) = true)
    (hinjective : ∀ text ∈ table.map Prod.fst, ∀ text' ∈ table.map Prod.fst,
      (table.lookup text).getD other = (table.lookup text').getD other → text = text') :
    CollisionFree (fun text ↦ (table.lookup text).getD other) length
      {text | text ∈ table.map Prod.fst} := by
  have hdigest (digest : String) (hmem : digest ∈ other :: table.map Prod.snd) :
      digest.toList.length = length ∧ ∀ c ∈ digest.toList, c ∈ "0123456789abcdef".toList := by
    obtain ⟨hlength, hhex⟩ := Bool.and_eq_true_iff.mp (List.all_eq_true.mp hdigests digest hmem)
    refine ⟨beq_iff_eq.mp hlength, fun c hc ↦ ?_⟩
    exact List.contains_iff_mem.mp (List.all_eq_true.mp hhex c hc)
  have hmem (text : String) : (table.lookup text).getD other ∈ other :: table.map Prod.snd := by
    rcases hlookup : table.lookup text with _ | digest
    · exact List.mem_cons_self
    · obtain ⟨before, after, rfl, -⟩ := List.lookup_eq_some_iff.mp hlookup
      refine List.mem_cons_of_mem _ (List.mem_map.mpr ⟨(text, digest), ?_, rfl⟩)
      exact List.mem_append_right before List.mem_cons_self
  exact ⟨hpos, fun text ↦ (hdigest _ (hmem text)).1, fun text ↦ (hdigest _ (hmem text)).2,
    fun text htext text' htext' heq ↦ hinjective text htext text' htext' heq⟩

end CollisionFree

end YandexPay.HexDigest
