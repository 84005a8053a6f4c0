import Mathlib.Order.Basic

/-!
# Loops with a condition

A loop `while (cond) body` is run for a number of rounds, and has no result if it has not ended by
then. A loop with an invariant, and with a measure that every round lowers, ends in a state in which
the invariant holds and the condition does not (`exists_rounds_of_measure`).
-/

set_option autoImplicit false
set_option relaxedAutoImplicit false

namespace YandexPay

variable {σ : Type*} {cond : σ → Bool} {body : σ → σ}

/-- The state in which the loop ends within a number of rounds. -/
def whileLoop (cond : σ → Bool) (body : σ → σ) : ℕ → σ → Option σ
  | 0, _ => none
  | rounds + 1, s => if cond s then whileLoop cond body rounds (body s) else some s

theorem whileLoop_of_not {s : σ} (h : cond s = false) (rounds : ℕ) :
    whileLoop cond body (rounds + 1) s = some s := by
  rw [whileLoop, h]
  rfl

theorem whileLoop_of_cond {s : σ} (h : cond s = true) (rounds : ℕ) :
    whileLoop cond body (rounds + 1) s = whileLoop cond body rounds (body s) := by
  rw [whileLoop, if_pos h]

/-- The rule of total correctness. -/
theorem exists_rounds_of_measure {I : σ → Prop} (measure : σ → ℕ)
    (hstep : ∀ s, I s → cond s = true → I (body s) ∧ measure (body s) < measure s)
    {s : σ} (hs : I s) :
    ∃ t, I t ∧ cond t = false ∧
      ∀ rounds, measure s < rounds → whileLoop cond body rounds s = some t := by
  induction hm : measure s using Nat.strongRecOn generalizing s with
  | _ m ih =>
    subst hm
    by_cases hcond : cond s = true
    · obtain ⟨hbody, hless⟩ := hstep s hs hcond
      obtain ⟨t, ht, hend, hrounds⟩ := ih _ hless hbody rfl
      refine ⟨t, ht, hend, fun rounds hlt ↦ ?_⟩
      obtain ⟨n, rfl⟩ := Nat.exists_eq_add_one_of_ne_zero (Nat.ne_zero_of_lt hlt)
      rw [whileLoop_of_cond hcond]
      exact hrounds n (by omega)
    · have hend := eq_false_of_ne_true hcond
      refine ⟨s, hs, hend, fun rounds hlt ↦ ?_⟩
      obtain ⟨n, rfl⟩ := Nat.exists_eq_add_one_of_ne_zero (Nat.ne_zero_of_lt hlt)
      exact whileLoop_of_not hend n

end YandexPay
