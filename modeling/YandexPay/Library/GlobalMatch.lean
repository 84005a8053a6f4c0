import Mathlib.Data.List.Infix

/-!
# All matches of a pattern in a text

A global search walks over a text: where the pattern matches, the match is taken and the walk goes
on behind it, elsewhere one character is passed. A text is thereby cut into segments. A run none of
whose ends is the beginning of a match is cut by itself, whatever follows it (`segments_append`),
and replacing matches by matches cuts the new text in the same places (`segments_replace`).
-/

set_option autoImplicit false
set_option relaxedAutoImplicit false

namespace YandexPay

/-- A pattern: what it finds at the start of a text, and the text of what it finds. -/
structure Pattern (α μ : Type*) where
  matchAt : List α → Option μ
  text : μ → List α
  text_ne_nil : ∀ {s : List α} {m : μ}, matchAt s = some m → text m ≠ []
  eq_append : ∀ {s : List α} {m : μ}, matchAt s = some m → ∃ rest, s = text m ++ rest

/-- A character that is passed, or a match. -/
inductive Segment (α μ : Type*) where
  | char (c : α)
  | found (m : μ)
  deriving DecidableEq

namespace Segment

variable {α μ : Type*}

def found? : Segment α μ → Option μ
  | char _ => none
  | found m => some m

def map (f : μ → μ) : Segment α μ → Segment α μ
  | char c => char c
  | found m => found (f m)

/-- The text of a segment, a match being written by `f`. -/
def write (f : μ → List α) : Segment α μ → List α
  | char c => [c]
  | found m => f m

end Segment

namespace Pattern

variable {α μ : Type*} (p : Pattern α μ)

/-- The walk, which has `skip` characters of the last match still to pass. -/
def scan : ℕ → List α → List (Segment α μ)
  | _, [] => []
  | skip + 1, _ :: rest => scan skip rest
  | 0, c :: rest =>
    match p.matchAt (c :: rest) with
    | some m => .found m :: scan ((p.text m).length - 1) rest
    | none => .char c :: scan 0 rest

def segments (s : List α) : List (Segment α μ) := p.scan 0 s

/-- Every match is replaced by what `f` writes for it. -/
def replace (f : μ → List α) (s : List α) : List α := (p.segments s).flatMap (Segment.write f)

/-- What the pattern matches at a text does not depend on what follows the match. -/
def IsLocal : Prop :=
  ∀ ⦃s : List α⦄ ⦃m : μ⦄, p.matchAt s = some m → ∀ rest, p.matchAt (p.text m ++ rest) = some m

/-- A beginning of a match that is not the whole match. -/
def Opens (s : List α) : Prop :=
  s ≠ [] ∧ ∃ m rest, p.matchAt (p.text m) = some m ∧ rest ≠ [] ∧ p.text m = s ++ rest

/-! ### The walk -/

variable {p}

@[simp] theorem segments_nil : p.segments [] = [] := rfl

@[simp] theorem replace_nil (f : μ → List α) : p.replace f [] = [] := rfl

theorem scan_length (passed rest : List α) :
    p.scan passed.length (passed ++ rest) = p.scan 0 rest := by
  induction passed with
  | nil => rfl
  | cons c passed ih => exact ih

theorem segments_found {m : μ} {rest : List α} (h : p.matchAt (p.text m ++ rest) = some m) :
    p.segments (p.text m ++ rest) = .found m :: p.segments rest := by
  obtain ⟨c, t, ht⟩ := List.exists_cons_of_ne_nil (p.text_ne_nil h)
  rw [ht, List.cons_append] at h ⊢
  have hlength : (p.text m).length - 1 = t.length := by
    rw [ht, List.length_cons, Nat.add_sub_cancel]
  simp only [segments, scan, h, hlength, scan_length]

theorem segments_char {c : α} {rest : List α} (h : p.matchAt (c :: rest) = none) :
    p.segments (c :: rest) = .char c :: p.segments rest := by
  simp only [segments, scan, h]

theorem replace_found (f : μ → List α) {m : μ} {rest : List α}
    (h : p.matchAt (p.text m ++ rest) = some m) :
    p.replace f (p.text m ++ rest) = f m ++ p.replace f rest := by
  rw [replace, segments_found h]
  rfl

theorem replace_char (f : μ → List α) {c : α} {rest : List α} (h : p.matchAt (c :: rest) = none) :
    p.replace f (c :: rest) = c :: p.replace f rest := by
  rw [replace, segments_char h]
  rfl

/-- Induction along the walk. -/
theorem scan_induction {motive : List α → Prop} (nil : motive [])
    (found : ∀ m rest, p.matchAt (p.text m ++ rest) = some m → motive rest →
      motive (p.text m ++ rest))
    (char : ∀ c rest, p.matchAt (c :: rest) = none → motive rest → motive (c :: rest))
    (s : List α) : motive s := by
  induction hn : s.length using Nat.strong_induction_on generalizing s with
  | _ n ih =>
    subst hn
    cases s with
    | nil => exact nil
    | cons c rest =>
      cases hm : p.matchAt (c :: rest) with
      | none => exact char c rest hm (ih rest.length (by simp) rest rfl)
      | some m =>
        obtain ⟨rest', hrest⟩ := p.eq_append hm
        have hpos := List.length_pos_iff.mpr (p.text_ne_nil hm)
        rw [hrest] at hm ih ⊢
        exact found m rest' hm (ih rest'.length (by rw [List.length_append]; omega) rest' rfl)

/-- Nothing is lost or added by cutting a text. -/
theorem replace_text (s : List α) : p.replace p.text s = s := by
  induction s using scan_induction (p := p) with
  | nil => rfl
  | found m rest h ih => rw [replace_found p.text h, ih]
  | char c rest h ih => rw [replace_char p.text h, ih]

/-! ### Texts one after another -/

/-- Characters at which no match starts are passed one by one. -/
theorem segments_append_of_none {v : List α} (h : ∀ c ∈ v, ∀ rest, p.matchAt (c :: rest) = none)
    (rest : List α) : p.segments (v ++ rest) = v.map .char ++ p.segments rest := by
  induction v with
  | nil => rfl
  | cons c v ih =>
    rw [List.cons_append, segments_char (h c List.mem_cons_self _),
      ih fun d hd ↦ h d (List.mem_cons_of_mem c hd)]
    rfl

theorem segments_append (hlocal : p.IsLocal) {run : List α}
    (hrun : ∀ s, s <:+ run → ¬ p.Opens s) (rest : List α) :
    p.segments (run ++ rest) = p.segments run ++ p.segments rest := by
  induction run using scan_induction (p := p) with
  | nil => rfl
  | found m run h ih =>
    have hmatch : p.matchAt (p.text m ++ (run ++ rest)) = some m := hlocal h _
    rw [List.append_assoc, segments_found h, segments_found hmatch,
      ih fun s hs ↦ hrun s (hs.trans (List.suffix_append _ _))]
    rfl
  | char c run h ih =>
    have hnone : p.matchAt (c :: (run ++ rest)) = none := by
      rw [Option.eq_none_iff_forall_ne_some]
      intro m hm
      obtain ⟨rest', heq⟩ := p.eq_append hm
      have hwhole : p.matchAt (p.text m) = some m := by simpa using hlocal hm []
      rw [← List.cons_append] at heq
      rcases List.append_eq_append_iff.mp heq with ⟨more, htext, -⟩ | ⟨more, hcut, -⟩
      · by_cases hmore : more = []
        · rw [htext, hmore, List.append_nil, h] at hwhole
          cases hwhole
        · exact hrun _ List.suffix_rfl ⟨List.cons_ne_nil c run, m, more, hwhole, hmore, htext⟩
      · rw [hcut, hlocal hm more] at h
        cases h
    rw [List.cons_append, segments_char h, segments_char hnone,
      ih fun s hs ↦ hrun s (hs.trans (List.suffix_cons c run))]
    rfl

/-! ### Replacing matches by matches -/

/-- If every match is replaced by a match, and no match arises where there was none, the new text
is cut as the old one. -/
theorem segments_replace (hlocal : p.IsLocal) {f : μ → μ}
    (hfound : ∀ s m, p.matchAt s = some m → p.matchAt (p.text (f m)) = some (f m))
    (hnone : ∀ c rest, p.matchAt (c :: rest) = none →
      p.matchAt (c :: p.replace (fun m ↦ p.text (f m)) rest) = none)
    (s : List α) :
    p.segments (p.replace (fun m ↦ p.text (f m)) s) = (p.segments s).map (Segment.map f) := by
  induction s using scan_induction (p := p) with
  | nil => rfl
  | found m rest h ih =>
    rw [replace_found _ h, segments_found (hlocal (hfound _ m h) _), segments_found h, ih]
    rfl
  | char c rest h ih =>
    rw [replace_char _ h, segments_char (hnone c rest h), segments_char h, ih]
    rfl

end Pattern

end YandexPay
