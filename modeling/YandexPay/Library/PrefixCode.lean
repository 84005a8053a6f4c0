import Mathlib.Data.List.Basic
import Mathlib.Data.Set.Function

/-!
# Codes that can be concatenated

A code is self-delimiting on a set if an encoded element followed by anything determines the element
and what follows. Encodings of lists by such a code are unambiguous (`flatMap_injOn`). A header of
fixed width with the length of what follows is such a code (`ofLength`).
-/

set_option autoImplicit false
set_option relaxedAutoImplicit false

namespace YandexPay

variable {α β : Type*}

/-- Encoded elements of the set can be told apart from what follows them. -/
structure SelfDelimiting (encode : α → List β) (s : Set α) : Prop where
  ne_nil : ∀ a ∈ s, encode a ≠ []
  cancel : ∀ a ∈ s, ∀ b ∈ s, ∀ x y, encode a ++ x = encode b ++ y → a = b ∧ x = y

namespace SelfDelimiting

/-- Lists of elements are determined by their concatenated codes. -/
theorem flatMap_injOn {encode : α → List β} {s : Set α} (h : SelfDelimiting encode s) :
    Set.InjOn (fun l ↦ List.flatMap encode l) {l | ∀ a ∈ l, a ∈ s} := by
  have hempty : ∀ a l, a ∈ s → encode a ++ List.flatMap encode l ≠ [] := fun a l ha heq ↦
    h.ne_nil a ha (List.append_eq_nil_iff.mp heq).1
  intro l
  induction l with
  | nil =>
    intro _ l' hl' heq
    cases l' with
    | nil => rfl
    | cons b l' => exact absurd heq.symm (hempty b l' (hl' b List.mem_cons_self))
  | cons a l ih =>
    intro hl l' hl' heq
    obtain ⟨ha, hl⟩ := List.forall_mem_cons.mp hl
    cases l' with
    | nil => exact absurd heq (hempty a l ha)
    | cons b l' =>
      obtain ⟨hb, htail⟩ := List.forall_mem_cons.mp hl'
      obtain ⟨rfl, hrest⟩ := h.cancel a ha b hb _ _ heq
      exact congrArg (List.cons a) (ih hl htail hrest)

/-- The length in a header of fixed width, and then the text. -/
theorem ofLength {header : ℕ → List β} {width : ℕ} {bound : Set ℕ} (hwidth : 0 < width)
    (hheader : ∀ n, (header n).length = width) (hinjective : Set.InjOn header bound) :
    SelfDelimiting (fun a : List β ↦ header a.length ++ a) {a | a.length ∈ bound} where
  ne_nil := by
    intro a _ hnil
    have hlength := congrArg List.length hnil
    rw [List.length_append, hheader, List.length_nil] at hlength
    omega
  cancel := by
    intro a ha b hb x y heq
    rw [List.append_assoc, List.append_assoc] at heq
    obtain ⟨hlength, hrest⟩ := List.append_inj heq ((hheader _).trans (hheader _).symm)
    exact List.append_inj hrest (hinjective ha hb hlength)

end SelfDelimiting

end YandexPay
