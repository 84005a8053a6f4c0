import Mathlib.Data.List.Forall2

/-!
# Loops that may fail

A function that may fail, run over a list: the results of `mapM` stand pairwise to the elements,
for `Option` and for `Except`, and a loop that adds up what it reads reads everything first
(`foldlM_eq_map_mapM`).
-/

set_option autoImplicit false
set_option relaxedAutoImplicit false

namespace YandexPay

/-! ### `Option` -/

section

variable {α β : Type} {f : α → Option β} {l : List α}

theorem mapM_eq_some_iff {r : List β} :
    l.mapM f = some r ↔ List.Forall₂ (fun a b ↦ f a = some b) l r := by
  induction l generalizing r with
  | nil =>
    rw [List.mapM_nil, List.forall₂_nil_left_iff]
    exact ⟨fun h ↦ (Option.some.inj h).symm, fun h ↦ congrArg some h.symm⟩
  | cons a l ih =>
    rw [List.mapM_cons, List.forall₂_cons_left_iff]
    constructor
    · intro h
      obtain ⟨b, hb, h⟩ := Option.bind_eq_some_iff.mp h
      obtain ⟨r, hr, h⟩ := Option.bind_eq_some_iff.mp h
      exact ⟨b, r, hb, ih.mp hr, (Option.some.inj h).symm⟩
    · rintro ⟨b, r, hb, hr, rfl⟩
      rw [hb, ih.mpr hr]
      rfl

theorem exists_of_mem_mapM {r : List β} (h : l.mapM f = some r) {b : β} (hb : b ∈ r) :
    ∃ a ∈ l, f a = some b := by
  induction mapM_eq_some_iff.mp h with
  | nil => cases hb
  | @cons a first l r hfirst hrest ih =>
    rcases List.mem_cons.mp hb with rfl | hb
    · exact ⟨a, List.mem_cons_self, hfirst⟩
    · obtain ⟨a', ha', hfound⟩ := ih (mapM_eq_some_iff.mpr hrest) hb
      exact ⟨a', List.mem_cons_of_mem _ ha', hfound⟩

theorem of_mapM_eq_some {P : α → Prop} {g : α → β} (hf : ∀ a b, f a = some b → P a ∧ b = g a)
    {r : List β} (h : l.mapM f = some r) : (∀ a ∈ l, P a) ∧ r = l.map g := by
  induction mapM_eq_some_iff.mp h with
  | nil => exact ⟨fun a ha ↦ absurd ha List.not_mem_nil, rfl⟩
  | @cons a b l r hab hrest ih =>
    obtain ⟨ha, rfl⟩ := hf a b hab
    obtain ⟨hl, rfl⟩ := ih (mapM_eq_some_iff.mpr hrest)
    exact ⟨List.forall_mem_cons.mpr ⟨ha, hl⟩, rfl⟩

theorem mapM_isSome : (l.mapM f).isSome = true ↔ ∀ a ∈ l, (f a).isSome = true := by
  induction l with
  | nil => simp
  | cons a l ih =>
    rw [List.mapM_cons, List.forall_mem_cons, ← ih]
    cases f a with
    | none => simp
    | some b => cases l.mapM f <;> simp

end

/-! ### `Except` -/

section

variable {ε α β σ : Type}

@[simp] theorem ok_bind (a : α) (f : α → Except ε β) : Except.ok a >>= f = f a := rfl

@[simp] theorem error_bind (e : ε) (f : α → Except ε β) : Except.error e >>= f = .error e := rfl

theorem bind_eq_ok_iff {x : Except ε α} {f : α → Except ε β} {b : β} :
    x >>= f = .ok b ↔ ∃ a, x = .ok a ∧ f a = .ok b := by
  cases x with
  | error e =>
    constructor
    · intro h
      cases h
    · rintro ⟨a, ha, -⟩
      cases ha
  | ok a =>
    constructor
    · exact fun h ↦ ⟨a, rfl, h⟩
    · rintro ⟨a', ha', h⟩
      obtain rfl := Except.ok.inj ha'
      exact h

theorem map_eq_ok_iff {x : Except ε α} {f : α → β} {b : β} :
    x.map f = .ok b ↔ ∃ a, x = .ok a ∧ b = f a := by
  have hmap : x.map f = x >>= fun a ↦ .ok (f a) := by cases x <;> rfl
  rw [hmap, bind_eq_ok_iff]
  simp only [Except.ok.injEq, eq_comm (a := b)]

theorem mapM_eq_ok_iff {f : α → Except ε β} {l : List α} {r : List β} :
    l.mapM f = .ok r ↔ List.Forall₂ (fun a b ↦ f a = .ok b) l r := by
  induction l generalizing r with
  | nil =>
    rw [List.mapM_nil, List.forall₂_nil_left_iff]
    exact ⟨fun h ↦ (Except.ok.inj h).symm, fun h ↦ congrArg Except.ok h.symm⟩
  | cons a l ih =>
    rw [List.mapM_cons, List.forall₂_cons_left_iff]
    constructor
    · intro h
      obtain ⟨b, hb, h⟩ := bind_eq_ok_iff.mp h
      obtain ⟨r, hr, h⟩ := bind_eq_ok_iff.mp h
      exact ⟨b, r, hb, ih.mp hr, (Except.ok.inj h).symm⟩
    · rintro ⟨b, r, hb, hr, rfl⟩
      rw [hb, ih.mpr hr]
      rfl

theorem mapM_eq_ok {f : α → Except ε β} {g : α → β} {l : List α}
    (h : ∀ a ∈ l, f a = .ok (g a)) : l.mapM f = .ok (l.map g) := by
  rw [mapM_eq_ok_iff, List.forall₂_map_right_iff, List.forall₂_same]
  exact h

/-- A function that returns a value exactly where a condition holds does so on a list. -/
theorem mapM_eq_ok_iff_of {f : α → Except ε β} {P : α → Prop} {g : α → β}
    (hf : ∀ a b, f a = .ok b ↔ P a ∧ b = g a) {l : List α} {r : List β} :
    l.mapM f = .ok r ↔ (∀ a ∈ l, P a) ∧ r = l.map g := by
  simp only [mapM_eq_ok_iff, hf]
  induction l generalizing r with
  | nil => simp
  | cons a l ih =>
    rw [List.forall₂_cons_left_iff, List.forall_mem_cons, List.map_cons]
    constructor
    · rintro ⟨b, r, ⟨ha, rfl⟩, hr, rfl⟩
      obtain ⟨hl, rfl⟩ := ih.mp hr
      exact ⟨⟨ha, hl⟩, rfl⟩
    · rintro ⟨⟨ha, hl⟩, rfl⟩
      exact ⟨g a, l.map g, ⟨ha, rfl⟩, ih.mpr ⟨hl, rfl⟩, rfl⟩

/-- A loop that reads each element and adds what it reads to a state. -/
theorem foldlM_eq_map_mapM {read : α → Except ε β} {add : σ → β → σ}
    {step : σ → α → Except ε σ} (hstep : ∀ s a, step s a = (read a).map (add s)) (l : List α)
    (s : σ) : l.foldlM step s = (l.mapM read).map fun r ↦ r.foldl add s := by
  induction l generalizing s with
  | nil => rfl
  | cons a l ih =>
    rw [List.foldlM_cons, List.mapM_cons, hstep]
    cases read a with
    | error e => rfl
    | ok b =>
      change l.foldlM step (add s b) = _
      rw [ih]
      change (l.mapM read).map _ = ((l.mapM read).bind fun r ↦ .ok (b :: r)).map _
      cases l.mapM read <;> rfl

end

end YandexPay
