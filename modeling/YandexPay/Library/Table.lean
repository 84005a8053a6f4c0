import Mathlib.Data.List.Nodup
import Mathlib.Data.List.Basic

/-!
# Tables with a primary key

A table is a list of rows whose keys are distinct; the primary-key constraint is a field, so a
table with two rows of one key cannot be built. Rows keep their order of insertion, which no
lemma depends on: everything below is stated through membership and through lookup by key.
`insert` keeps the table when the key is taken, `replace` rewrites the row of a key in place and
`keep` deletes rows.
-/

set_option autoImplicit false
set_option relaxedAutoImplicit false

namespace YandexPay

/-- Rows of one type with distinct keys. -/
structure Table {α κ : Type*} (key : α → κ) where
  rows : List α
  nodup : (rows.map key).Nodup

namespace Table

variable {α κ : Type*} {key : α → κ}

instance : Membership α (Table key) := ⟨fun t r ↦ r ∈ t.rows⟩

theorem mem_def {t : Table key} {r : α} : r ∈ t ↔ r ∈ t.rows := Iff.rfl

instance [DecidableEq α] (t : Table key) (r : α) : Decidable (r ∈ t) :=
  inferInstanceAs (Decidable (r ∈ t.rows))

instance (t : Table key) (p : α → Prop) [DecidablePred p] : Decidable (∀ r ∈ t, p r) :=
  inferInstanceAs (Decidable (∀ r ∈ t.rows, p r))

instance (t : Table key) (p : α → Prop) [DecidablePred p] : Decidable (∃ r ∈ t, p r) :=
  inferInstanceAs (Decidable (∃ r ∈ t.rows, p r))

/-- A row is determined by its key. -/
theorem eq_of_key_eq {t : Table key} {r s : α} (hr : r ∈ t) (hs : s ∈ t)
    (hkey : key r = key s) : r = s :=
  List.inj_on_of_nodup_map t.nodup hr hs hkey

def empty : Table key := ⟨[], List.nodup_nil⟩

@[simp] theorem not_mem_empty (r : α) : r ∉ (empty : Table key) := by
  simp [empty, mem_def]

variable [DecidableEq κ]

/-! ### Lookup -/

/-- The row of a key. -/
def get? (t : Table key) (k : κ) : Option α := t.rows.find? fun r ↦ key r = k

theorem get?_eq_some_iff {t : Table key} {k : κ} {r : α} :
    t.get? k = some r ↔ r ∈ t ∧ key r = k := by
  constructor
  · intro h
    exact ⟨List.mem_of_find?_eq_some h, by simpa using List.find?_some h⟩
  · rintro ⟨hr, rfl⟩
    cases hfind : t.get? (key r) with
    | none => exact absurd (List.find?_eq_none.mp hfind r hr) (by simp)
    | some s =>
      have hs : s ∈ t := List.mem_of_find?_eq_some hfind
      have hkey : key s = key r := by simpa using List.find?_some hfind
      rw [eq_of_key_eq hs hr hkey]

theorem get?_key {t : Table key} {r : α} (hr : r ∈ t) : t.get? (key r) = some r :=
  get?_eq_some_iff.mpr ⟨hr, rfl⟩

theorem get?_eq_none_iff {t : Table key} {k : κ} : t.get? k = none ↔ ∀ r ∈ t, key r ≠ k := by
  simp [get?, mem_def]

theorem isSome_get?_iff {t : Table key} {k : κ} :
    (t.get? k).isSome ↔ ∃ r ∈ t, key r = k := by
  simp [Option.isSome_iff_exists, get?_eq_some_iff]

/-! ### Insertion -/

/-- Appends a row; a row whose key is taken is dropped. -/
def insert (t : Table key) (r : α) : Table key :=
  if h : key r ∈ t.rows.map key then t
  else ⟨t.rows ++ [r], by
    rw [List.map_append, List.map_singleton, List.nodup_append]
    refine ⟨t.nodup, List.nodup_singleton _, ?_⟩
    intro k hk l hl
    rw [List.mem_singleton] at hl
    subst hl
    exact fun hkey ↦ h (hkey ▸ hk)⟩

theorem mem_insert {t : Table key} {r s : α} (hfree : t.get? (key r) = none) :
    s ∈ t.insert r ↔ s ∈ t ∨ s = r := by
  have hnew : key r ∉ t.rows.map key := by
    intro h
    obtain ⟨x, hx, hkey⟩ := List.mem_map.mp h
    exact get?_eq_none_iff.mp hfree x hx hkey
  unfold insert
  rw [dif_neg hnew]
  simp [mem_def]

theorem get?_insert {t : Table key} {r : α} (hfree : t.get? (key r) = none) (k : κ) :
    (t.insert r).get? k = if k = key r then some r else t.get? k := by
  split_ifs with hk
  · exact get?_eq_some_iff.mpr ⟨(mem_insert hfree).mpr (Or.inr rfl), hk.symm⟩
  · ext s
    rw [get?_eq_some_iff, get?_eq_some_iff, mem_insert hfree]
    constructor
    · rintro ⟨hs | rfl, hkey⟩
      · exact ⟨hs, hkey⟩
      · exact absurd hkey.symm hk
    · rintro ⟨hs, hkey⟩
      exact ⟨Or.inl hs, hkey⟩

/-! ### Replacement -/

/-- Rewrites the row that has the key of `r`. -/
def replace (t : Table key) (r : α) : Table key where
  rows := t.rows.map fun s ↦ if key s = key r then r else s
  nodup := by
    have hkeys : (t.rows.map fun s ↦ if key s = key r then r else s).map key =
        t.rows.map key := by
      rw [List.map_map]
      refine List.map_congr_left fun s _ ↦ ?_
      by_cases h : key s = key r <;> simp [h]
    rw [hkeys]
    exact t.nodup

theorem mem_replace {t : Table key} {r s : α} :
    s ∈ t.replace r ↔ (s ∈ t ∧ key s ≠ key r) ∨ (s = r ∧ ∃ x ∈ t, key x = key r) := by
  simp only [mem_def, replace, List.mem_map]
  constructor
  · rintro ⟨x, hx, rfl⟩
    by_cases h : key x = key r
    · exact Or.inr ⟨by rw [if_pos h], x, hx, h⟩
    · rw [if_neg h]
      exact Or.inl ⟨hx, h⟩
  · rintro (⟨hs, hkey⟩ | ⟨rfl, x, hx, hkey⟩)
    · exact ⟨s, hs, if_neg hkey⟩
    · exact ⟨x, hx, if_pos hkey⟩

theorem get?_replace {t : Table key} {r : α} (k : κ) :
    (t.replace r).get? k =
      if k = key r then (t.get? k).map fun _ ↦ r else t.get? k := by
  ext s
  rw [get?_eq_some_iff, mem_replace]
  split_ifs with hk
  · subst hk
    rw [Option.map_eq_some_iff]
    constructor
    · rintro ⟨⟨-, hne⟩ | ⟨rfl, x, hx, hkey⟩, hs⟩
      · exact absurd hs hne
      · exact ⟨x, get?_eq_some_iff.mpr ⟨hx, hkey⟩, rfl⟩
    · rintro ⟨x, hx, rfl⟩
      obtain ⟨hmem, hkey⟩ := get?_eq_some_iff.mp hx
      exact ⟨Or.inr ⟨rfl, x, hmem, hkey⟩, rfl⟩
  · rw [get?_eq_some_iff]
    constructor
    · rintro ⟨⟨hs, -⟩ | ⟨rfl, -⟩, hkey⟩
      · exact ⟨hs, hkey⟩
      · exact absurd hkey.symm hk
    · rintro ⟨hs, rfl⟩
      exact ⟨Or.inl ⟨hs, hk⟩, rfl⟩

/-- A row that is stored as it is stays. -/
theorem replace_self {t : Table key} {r : α} (hr : r ∈ t) : t.replace r = t := by
  have hrows : t.rows.map (fun s ↦ if key s = key r then r else s) = t.rows := by
    refine (List.map_congr_left fun s hs ↦ ?_).trans (List.map_id t.rows)
    split_ifs with hkey
    · exact eq_of_key_eq hr hs hkey.symm
    · rfl
  obtain ⟨rows, hnodup⟩ := t
  simp only [replace, mk.injEq]
  exact hrows

theorem isSome_get?_replace {t : Table key} {r : α} (k : κ) :
    ((t.replace r).get? k).isSome = (t.get? k).isSome := by
  rw [get?_replace]
  split_ifs
  · exact Option.isSome_map
  · rfl

/-! ### Update of selected rows -/

/-- Applies a function that keeps keys to the rows that satisfy a predicate. -/
def update (t : Table key) (p : α → Bool) (f : α → α) (hf : ∀ r, key (f r) = key r) :
    Table key where
  rows := t.rows.map fun r ↦ if p r then f r else r
  nodup := by
    have hkeys : (t.rows.map fun r ↦ if p r then f r else r).map key = t.rows.map key := by
      rw [List.map_map]
      refine List.map_congr_left fun r _ ↦ ?_
      by_cases h : p r = true <;> simp [h, hf]
    rw [hkeys]
    exact t.nodup

omit [DecidableEq κ] in
theorem mem_update {t : Table key} {p : α → Bool} {f : α → α} {hf : ∀ r, key (f r) = key r}
    {s : α} : s ∈ t.update p f hf ↔ ∃ r ∈ t, s = if p r then f r else r := by
  simp only [mem_def, update, List.mem_map]
  constructor
  · rintro ⟨r, hr, rfl⟩
    exact ⟨r, hr, rfl⟩
  · rintro ⟨r, hr, rfl⟩
    exact ⟨r, hr, rfl⟩

omit [DecidableEq κ] in
/-- Two selections that differ only in rows that the function keeps give one update. -/
theorem update_congr {t : Table key} {p q : α → Bool} {f : α → α} {hf : ∀ r, key (f r) = key r}
    (h : ∀ r ∈ t, (if p r then f r else r) = if q r then f r else r) :
    t.update p f hf = t.update q f hf := by
  rw [update, update, Table.mk.injEq]
  exact List.map_congr_left h

theorem get?_update {t : Table key} {p : α → Bool} {f : α → α} {hf : ∀ r, key (f r) = key r}
    (k : κ) : (t.update p f hf).get? k = (t.get? k).map fun r ↦ if p r then f r else r := by
  ext s
  rw [get?_eq_some_iff, mem_update, Option.map_eq_some_iff]
  constructor
  · rintro ⟨⟨r, hr, rfl⟩, hkey⟩
    refine ⟨r, get?_eq_some_iff.mpr ⟨hr, ?_⟩, rfl⟩
    by_cases h : p r = true
    · rwa [if_pos h, hf] at hkey
    · rwa [if_neg h] at hkey
  · rintro ⟨r, hr, rfl⟩
    obtain ⟨hmem, hkey⟩ := get?_eq_some_iff.mp hr
    refine ⟨⟨r, hmem, rfl⟩, ?_⟩
    by_cases h : p r = true
    · rw [if_pos h, hf, hkey]
    · rw [if_neg h, hkey]

/-- Writing back one row after a change is the update of that row. -/
theorem replace_eq_update {t : Table key} {f : α → α} {hf : ∀ r, key (f r) = key r} {r : α}
    (hr : r ∈ t) : t.replace (f r) = t.update (fun s ↦ key s = key r) f hf := by
  rw [Table.mk.injEq]
  refine List.map_congr_left fun s hs ↦ ?_
  rw [hf]
  by_cases h : key s = key r
  · rw [if_pos h, if_pos (decide_eq_true h), eq_of_key_eq hs hr h]
  · rw [if_neg h, if_neg (by simp [h])]

omit [DecidableEq κ] in
/-- Two updates by one idempotent function are the update of both selections. -/
theorem update_update {t : Table key} {p q : α → Bool} {f : α → α}
    {hf : ∀ r, key (f r) = key r} (hidem : ∀ r, f (f r) = f r) (hq : ∀ r, q (f r) = q r) :
    (t.update p f hf).update q f hf = t.update (fun r ↦ p r || q r) f hf := by
  simp only [update, Table.mk.injEq, List.map_map]
  refine List.map_congr_left fun r _ ↦ ?_
  by_cases hp : p r = true <;> by_cases h : q r = true <;> simp [hp, h, hq, hidem]

/-! ### Deletion -/

/-- Keeps the rows that satisfy a predicate and deletes the others. -/
def keep (t : Table key) (p : α → Bool) : Table key where
  rows := t.rows.filter p
  nodup := t.nodup.sublist ((List.filter_sublist (p := p) (l := t.rows)).map key)

omit [DecidableEq κ] in
theorem mem_keep {t : Table key} {p : α → Bool} {r : α} : r ∈ t.keep p ↔ r ∈ t ∧ p r = true := by
  simp [mem_def, keep]

theorem get?_keep {t : Table key} {p : α → Bool} {k : κ} {r : α} :
    (t.keep p).get? k = some r ↔ t.get? k = some r ∧ p r = true := by
  rw [get?_eq_some_iff, get?_eq_some_iff, mem_keep]
  tauto

/-! ### Selections that a change does not touch -/

theorem filter_insert {t : Table key} {r : α} {p : α → Bool} (hr : p r = false) :
    (t.insert r).rows.filter p = t.rows.filter p := by
  unfold insert
  split_ifs
  · rfl
  · rw [List.filter_append, List.filter_singleton, hr, Bool.cond_false, List.append_nil]

theorem filter_replace {t : Table key} {r : α} {p : α → Bool} (hr : p r = false)
    (hold : ∀ s ∈ t, key s = key r → p s = false) :
    (t.replace r).rows.filter p = t.rows.filter p := by
  have hselect : ∀ s ∈ t.rows, p (if key s = key r then r else s) = p s := by
    intro s hs
    by_cases hkey : key s = key r
    · rw [if_pos hkey, hr, hold s hs hkey]
    · rw [if_neg hkey]
  have hkept : ∀ s ∈ t.rows.filter p, (if key s = key r then r else s) = s := by
    intro s hs
    obtain ⟨hmem, hp⟩ := List.mem_filter.mp hs
    refine if_neg fun hkey ↦ ?_
    rw [hold s hmem hkey] at hp
    cases hp
  calc (t.replace r).rows.filter p
      = (t.rows.filter fun s ↦ p (if key s = key r then r else s)).map
          fun s ↦ if key s = key r then r else s := List.filter_map
    _ = (t.rows.filter p).map fun s ↦ if key s = key r then r else s := by
        rw [List.filter_congr hselect]
    _ = t.rows.filter p := by rw [List.map_congr_left hkept, List.map_id']

omit [DecidableEq κ] in
theorem filter_keep {t : Table key} {p q : α → Bool} (h : ∀ s ∈ t, p s = true → q s = true) :
    (t.keep q).rows.filter p = t.rows.filter p := by
  unfold keep
  rw [List.filter_filter]
  refine List.filter_congr fun s hs ↦ ?_
  cases hp : p s with
  | false => rfl
  | true => rw [h s hs hp]; rfl

end Table

/-! ### Serial keys -/

/-- A table whose keys come from a sequence: every key in use is at most the last one drawn. -/
structure SerialTable {α : Type*} (key : α → ℕ) extends Table key where
  last : ℕ
  bounded : ∀ r ∈ rows, key r ≤ last

namespace SerialTable

variable {α : Type*} {key : α → ℕ}

def empty : SerialTable key where
  toTable := Table.empty
  last := 0
  bounded := fun _ h ↦ absurd h List.not_mem_nil

/-- Appends the row of the next key. -/
def append (t : SerialTable key) (make : ℕ → α) (hmake : ∀ n, key (make n) = n) :
    SerialTable key where
  rows := t.rows ++ [make (t.last + 1)]
  nodup := by
    rw [List.map_append, List.map_singleton, List.nodup_append]
    refine ⟨t.nodup, List.nodup_singleton _, ?_⟩
    intro k hk l hl
    obtain ⟨r, hr, rfl⟩ := List.mem_map.mp hk
    rw [List.mem_singleton, hmake] at hl
    have hle := t.bounded r hr
    omega
  last := t.last + 1
  bounded := by
    intro r hr
    rcases List.mem_append.mp hr with hr | hr
    · exact Nat.le_succ_of_le (t.bounded r hr)
    · rw [List.mem_singleton] at hr
      simp [hr, hmake]

theorem mem_append {t : SerialTable key} {make : ℕ → α} {hmake : ∀ n, key (make n) = n} {r : α} :
    r ∈ (t.append make hmake).toTable ↔ r ∈ t.toTable ∨ r = make (t.last + 1) := by
  simp [append, Table.mem_def]

theorem key_ne_next {t : SerialTable key} {r : α} (hr : r ∈ t.toTable) : key r ≠ t.last + 1 := by
  have hle := t.bounded r hr
  omega

/-- Rewrites the row that has the key of `r`. -/
def replace (t : SerialTable key) (r : α) : SerialTable key where
  toTable := t.toTable.replace r
  last := t.last
  bounded := by
    intro s hs
    rcases Table.mem_replace.mp hs with ⟨hs, -⟩ | ⟨rfl, x, hx, hkey⟩
    · exact t.bounded s hs
    · exact hkey ▸ t.bounded x hx

/-- Deletes the row of a key. -/
def remove (t : SerialTable key) (k : ℕ) : SerialTable key where
  toTable := t.toTable.keep fun r ↦ key r ≠ k
  last := t.last
  bounded := fun r hr ↦ t.bounded r (Table.mem_keep.mp hr).1

theorem mem_remove {t : SerialTable key} {k : ℕ} {r : α} :
    r ∈ (t.remove k).toTable ↔ r ∈ t.toTable ∧ key r ≠ k := by
  simp [remove, Table.mem_keep]

theorem mem_replace {t : SerialTable key} {r s : α} :
    s ∈ (t.replace r).toTable ↔
      (s ∈ t.toTable ∧ key s ≠ key r) ∨ (s = r ∧ ∃ x ∈ t.toTable, key x = key r) :=
  Table.mem_replace

theorem get?_append {t : SerialTable key} {make : ℕ → α} {hmake : ∀ n, key (make n) = n}
    (k : ℕ) : (t.append make hmake).get? k =
      if k = t.last + 1 then some (make (t.last + 1)) else t.get? k := by
  split_ifs with hk
  · exact Table.get?_eq_some_iff.mpr ⟨mem_append.mpr (Or.inr rfl), by rw [hk, hmake]⟩
  · ext r
    rw [Table.get?_eq_some_iff, Table.get?_eq_some_iff, mem_append]
    constructor
    · rintro ⟨hr | rfl, hkey⟩
      · exact ⟨hr, hkey⟩
      · rw [hmake] at hkey
        exact absurd hkey.symm hk
    · rintro ⟨hr, hkey⟩
      exact ⟨Or.inl hr, hkey⟩

theorem get?_next (t : SerialTable key) : t.get? (t.last + 1) = none :=
  Table.get?_eq_none_iff.mpr fun _ hr ↦ key_ne_next hr

theorem get?_replace {t : SerialTable key} {r : α} (k : ℕ) :
    (t.replace r).get? k = if k = key r then (t.get? k).map fun _ ↦ r else t.get? k :=
  Table.get?_replace k

theorem get?_remove {t : SerialTable key} {k : ℕ} (l : ℕ) :
    (t.remove k).get? l = if l = k then none else t.get? l := by
  ext r
  rw [show (t.remove k).get? l = some r ↔ t.get? l = some r ∧ key r ≠ k from by
    rw [remove]; simp [Table.get?_keep]]
  split_ifs with hl
  · simp only [iff_false, not_and, not_not]
    intro hr
    rw [← hl]
    exact (Table.get?_eq_some_iff.mp hr).2
  · refine ⟨fun h ↦ h.1, fun hr ↦ ⟨hr, ?_⟩⟩
    rw [(Table.get?_eq_some_iff.mp hr).2]
    exact hl

end SerialTable

end YandexPay
