import Mathlib.Algebra.BigOperators.Group.List.Basic
import Mathlib.Data.List.Range
import Mathlib.Data.List.Lex

/-!
# Numbers in mixed radix

The digits of a number are written with a radix for each place, the most significant one first. The
numbers below the product of the radices run through all choices of one digit for each place, in
lexicographic order (`map_digits_range`).
-/

set_option autoImplicit false
set_option relaxedAutoImplicit false

namespace YandexPay.MixedRadix

/-- The digits of a number; what is beyond the first place is left out. -/
def digits : List ℕ → ℕ → List ℕ
  | [], _ => []
  | radix :: radices, i => i % (radix * radices.prod) / radices.prod :: digits radices i

/-- All choices of a digit for each place, one after the other. -/
def choices : List ℕ → List (List ℕ)
  | [] => [[]]
  | radix :: radices => (List.range radix).flatMap fun d ↦ (choices radices).map (d :: ·)

theorem mem_choices {radices c : List ℕ} :
    c ∈ choices radices ↔ List.Forall₂ (· < ·) c radices := by
  induction radices generalizing c with
  | nil => rw [choices, List.mem_singleton, List.forall₂_nil_right_iff]
  | cons radix radices ih =>
    simp only [choices, List.mem_flatMap, List.mem_range, List.mem_map, ih,
      List.forall₂_cons_right_iff]
    constructor
    · rintro ⟨d, hd, c, hc, rfl⟩
      exact ⟨d, c, hd, hc, rfl⟩
    · rintro ⟨d, c, hd, hc, rfl⟩
      exact ⟨d, hd, c, hc, rfl⟩

theorem pairwise_choices (radices : List ℕ) : (choices radices).Pairwise (· < ·) := by
  induction radices with
  | nil => exact List.pairwise_singleton _ _
  | cons radix radices ih =>
    rw [choices, List.pairwise_flatMap]
    constructor
    · intro d _
      rw [List.pairwise_map]
      exact ih.imp fun h ↦ List.Lex.cons h
    · refine List.pairwise_lt_range.imp fun {d e} hlt ↦ ?_
      intro c hc c' hc'
      obtain ⟨t, -, rfl⟩ := List.mem_map.mp hc
      obtain ⟨t', -, rfl⟩ := List.mem_map.mp hc'
      exact List.Lex.rel hlt

theorem length_choices (radices : List ℕ) : (choices radices).length = radices.prod := by
  induction radices with
  | nil => rfl
  | cons radix radices ih =>
    simp [choices, List.length_flatMap, ih]

/-! ### The digits of the numbers in order -/

/-- Digits repeat with the product of the radices. -/
theorem digits_mul_add (radices : List ℕ) (d i : ℕ) :
    digits radices (d * radices.prod + i) = digits radices i := by
  induction radices generalizing d with
  | nil => rfl
  | cons radix radices ih =>
    have htail : d * (radix * radices.prod) + i = d * radix * radices.prod + i := by
      rw [Nat.mul_assoc]
    rw [digits, digits, List.prod_cons, Nat.mul_add_mod', htail, ih]

theorem digits_cons_mul_add {radix d : ℕ} (hd : d < radix) {radices : List ℕ} {i : ℕ}
    (hi : i < radices.prod) :
    digits (radix :: radices) (d * radices.prod + i) = d :: digits radices i := by
  have hlt : d * radices.prod + i < radix * radices.prod := by
    calc d * radices.prod + i < d * radices.prod + radices.prod := Nat.add_lt_add_left hi _
      _ = (d + 1) * radices.prod := (Nat.succ_mul d _).symm
      _ ≤ radix * radices.prod := Nat.mul_le_mul_right _ hd
  rw [digits, digits_mul_add, Nat.mod_eq_of_lt hlt, Nat.mul_comm d,
    Nat.mul_add_div (Nat.zero_lt_of_lt hi), Nat.div_eq_of_lt hi, Nat.add_zero]

theorem range_mul (n k : ℕ) :
    List.range (n * k) = (List.range n).flatMap fun d ↦ (List.range k).map (d * k + ·) := by
  induction n with
  | zero => rw [Nat.zero_mul]; rfl
  | succ n ih =>
    rw [Nat.succ_mul, List.range_add, ih, List.range_succ, List.flatMap_append,
      List.flatMap_singleton]

/-- The numbers below the product run through all choices in order. -/
theorem map_digits_range (radices : List ℕ) :
    (List.range radices.prod).map (digits radices) = choices radices := by
  induction radices with
  | nil => rfl
  | cons radix radices ih =>
    rw [List.prod_cons, range_mul, List.map_flatMap, choices, ← ih]
    refine List.flatMap_congr fun d hd ↦ ?_
    rw [List.map_map, List.map_map]
    refine List.map_congr_left fun i hi ↦ ?_
    exact digits_cons_mul_add (List.mem_range.mp hd) (List.mem_range.mp hi)

end YandexPay.MixedRadix
