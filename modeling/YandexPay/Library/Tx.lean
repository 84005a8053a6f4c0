import Mathlib.Order.Defs.Unbundled
import Mathlib.Tactic.Basic

/-!
# Transactions: state with errors that roll back

`Tx σ ε α` is a computation on a state `σ` that returns a value and the state it leaves, or an
error. An error carries no state, so a computation that fails leaves nothing behind: this is a
database transaction, committed with its last state and rolled back by any exception.

The `_eq_ok` lemmas invert a successful run step by step, so that a specification of a
transaction is read off from its statements without unfolding the monad. `Moves r x` says that
every successful run of `x` relates the state before to the state after by `r`; for a preorder
it composes along sequencing and loops.
-/

set_option autoImplicit false
set_option relaxedAutoImplicit false

namespace YandexPay

/-- A transaction on the state `σ` with errors in `ε`. -/
abbrev Tx (σ ε : Type) := StateT σ (Except ε)

namespace Tx

variable {σ ε α β : Type}

/-- Runs the second transaction when the first fails with an error that `handles`. -/
def orElseOn (handles : ε → Bool) (x y : Tx σ ε α) : Tx σ ε α := fun s ↦
  match x s with
  | .error e => if handles e then y s else .error e
  | .ok r => .ok r

/-- Replaces the errors of a transaction. -/
def mapError (f : ε → ε) (x : Tx σ ε α) : Tx σ ε α := fun s ↦
  match x s with
  | .error e => .error (f e)
  | .ok r => .ok r

/-! ### Inversion of successful runs -/

@[simp] theorem pure_eq_ok {a b : α} {s t : σ} :
    (pure a : Tx σ ε α) s = .ok (b, t) ↔ b = a ∧ t = s := by
  change Except.ok (a, s) = Except.ok (b, t) ↔ _
  rw [Except.ok.injEq, Prod.mk.injEq]
  exact ⟨fun h ↦ ⟨h.1.symm, h.2.symm⟩, fun h ↦ ⟨h.1.symm, h.2.symm⟩⟩

theorem bind_eq_ok {x : Tx σ ε α} {f : α → Tx σ ε β} {s u : σ} {b : β} :
    (x >>= f) s = .ok (b, u) ↔ ∃ a t, x s = .ok (a, t) ∧ f a t = .ok (b, u) := by
  simp only [bind, StateT.bind, Except.bind]
  cases hx : x s with
  | error e => simp
  | ok r =>
    obtain ⟨a, t⟩ := r
    constructor
    · exact fun h ↦ ⟨a, t, rfl, h⟩
    · rintro ⟨a', t', hxt, h⟩
      cases hxt
      exact h

/-- A transaction that answers with a value given before. -/
theorem bind_pure_eq_ok {x : Tx σ ε Unit} {a b : α} {s t : σ} :
    (x >>= fun _ ↦ pure a) s = .ok (b, t) ↔ b = a ∧ x s = .ok ((), t) := by
  rw [bind_eq_ok]
  constructor
  · rintro ⟨u, t', hx, hpure⟩
    obtain ⟨rfl, rfl⟩ := pure_eq_ok.mp hpure
    exact ⟨rfl, hx⟩
  · rintro ⟨rfl, hx⟩
    exact ⟨(), t, hx, rfl⟩

theorem map_eq_ok {x : Tx σ ε α} {f : α → β} {s u : σ} {b : β} :
    (f <$> x) s = .ok (b, u) ↔ ∃ a, x s = .ok (a, u) ∧ f a = b := by
  rw [map_eq_pure_bind, bind_eq_ok]
  constructor
  · rintro ⟨a, t, hx, hf⟩
    obtain ⟨rfl, rfl⟩ := pure_eq_ok.mp hf
    exact ⟨a, hx, rfl⟩
  · rintro ⟨a, hx, rfl⟩
    exact ⟨a, u, hx, pure_eq_ok.mpr ⟨rfl, rfl⟩⟩

/-- A sequence goes on from the state that its first part leaves. -/
theorem bind_of_ok {x : Tx σ ε α} {f : α → Tx σ ε β} {s t : σ} {a : α} (h : x s = .ok (a, t)) :
    (x >>= f) s = f a t := by
  simp only [bind, StateT.bind, Except.bind, h]

theorem map_of_error {x : Tx σ ε α} {f : α → β} {s : σ} {e : ε} (h : x s = .error e) :
    (f <$> x) s = .error e := by
  simp only [Functor.map, StateT.map, bind, Except.bind, h]

@[simp] theorem throw_ne_ok {e : ε} {s : σ} {r : α × σ} :
    (throw e : Tx σ ε α) s = .ok r ↔ False := by
  change Except.error e = Except.ok r ↔ False
  simp

@[simp] theorem throw_bind {e : ε} {f : α → Tx σ ε β} :
    ((throw e : Tx σ ε α) >>= f) = throw e := rfl

/-- A guard that throws is passed exactly when its condition fails. -/
theorem guard_eq_ok {p : Prop} [Decidable p] {e : ε} {x : Tx σ ε β} {f : α → Tx σ ε β} {s : σ}
    {r : β × σ} :
    (if p then (throw e : Tx σ ε α) >>= f else x) s = .ok r ↔ ¬ p ∧ x s = .ok r := by
  by_cases hp : p
  · rw [if_pos hp, throw_bind, throw_ne_ok]
    simp [hp]
  · rw [if_neg hp]
    simp [hp]

@[simp] theorem get_bind {f : σ → Tx σ ε α} {s : σ} :
    ((MonadState.get : Tx σ ε σ) >>= f) s = f s s := rfl

theorem mapError_eq_ok {f : ε → ε} {x : Tx σ ε α} {s : σ} {r : α × σ} :
    mapError f x s = .ok r ↔ x s = .ok r := by
  unfold mapError
  cases x s <;> simp

theorem orElseOn_eq_ok {handles : ε → Bool} {x y : Tx σ ε α} {s : σ} {r : α × σ} :
    orElseOn handles x y s = .ok r ↔
      x s = .ok r ∨ ∃ e, x s = .error e ∧ handles e = true ∧ y s = .ok r := by
  unfold orElseOn
  cases x s with
  | ok a => simp
  | error e => by_cases h : handles e = true <;> simp [h]

/-! ### Relations between the state before and after -/

/-- Every successful run relates the state before to the state after. -/
def Moves (r : σ → σ → Prop) (x : Tx σ ε α) : Prop :=
  ∀ s a t, x s = .ok (a, t) → r s t

section Moves

variable {r : σ → σ → Prop}

theorem Moves.pure [Std.Refl r] (a : α) : Moves r (pure a : Tx σ ε α) := by
  intro s b t h
  obtain ⟨-, rfl⟩ := pure_eq_ok.mp h
  exact Std.Refl.refl t

theorem Moves.bind [IsTrans σ r] {x : Tx σ ε α} {f : α → Tx σ ε β} (hx : Moves r x)
    (hf : ∀ a, Moves r (f a)) : Moves r (x >>= f) := by
  intro s b u h
  obtain ⟨a, t, hxt, hft⟩ := bind_eq_ok.mp h
  exact IsTrans.trans _ _ _ (hx s a t hxt) (hf a t b u hft)

theorem Moves.forM [Std.Refl r] [IsTrans σ r] {l : List β} {f : β → Tx σ ε PUnit}
    (hf : ∀ b ∈ l, Moves r (f b)) : Moves r (forM l f) := by
  induction l with
  | nil => exact Moves.pure _
  | cons b l ih =>
    rw [List.forM_cons]
    exact (hf b List.mem_cons_self).bind fun _ ↦ ih fun c hc ↦ hf c (List.mem_cons_of_mem _ hc)

end Moves

end Tx

end YandexPay
