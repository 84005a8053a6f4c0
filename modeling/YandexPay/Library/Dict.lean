import Mathlib.Data.List.Basic
import Mathlib.Data.List.Induction
import Mathlib.Data.List.Nodup
import Mathlib.Tactic.SplitIfs

/-!
# Dictionaries in order of insertion

A dictionary is a list of pairs whose keys are distinct. Writing a key that is present replaces
its value in place, writing a new key appends it, as dictionaries of the modelled languages do.
`ofList` builds a dictionary from pairs, the last pair of a key winning.
-/

set_option autoImplicit false
set_option relaxedAutoImplicit false

namespace YandexPay

/-- Pairs with distinct keys, in order of insertion. -/
structure Dict (κ ν : Type*) where
  items : List (κ × ν)
  nodup : (items.map Prod.fst).Nodup

namespace Dict

variable {κ ν : Type*}

def empty : Dict κ ν := ⟨[], List.nodup_nil⟩

variable [DecidableEq κ]

def get? (d : Dict κ ν) (k : κ) : Option ν := d.items.lookup k

/-- Removes a key; a key that is absent leaves the dictionary unchanged. -/
def pop (d : Dict κ ν) (k : κ) : Dict κ ν where
  items := d.items.filter fun p ↦ p.1 ≠ k
  nodup := d.nodup.sublist (List.filter_sublist.map Prod.fst)

/-- Writes the value of a key. -/
def set (d : Dict κ ν) (k : κ) (v : ν) : Dict κ ν :=
  if h : k ∈ d.items.map Prod.fst then
    { items := d.items.map fun p ↦ if p.1 = k then (k, v) else p
      nodup := by
        have hkeys : (d.items.map fun p ↦ if p.1 = k then (k, v) else p).map Prod.fst =
            d.items.map Prod.fst := by
          rw [List.map_map]
          refine List.map_congr_left fun p _ ↦ ?_
          by_cases hp : p.1 = k <;> simp [hp]
        rw [hkeys]
        exact d.nodup }
  else
    { items := d.items ++ [(k, v)]
      nodup := by
        rw [List.map_append, List.map_singleton, List.nodup_append]
        refine ⟨d.nodup, List.nodup_singleton _, ?_⟩
        intro a ha b hb
        rw [List.mem_singleton] at hb
        subst hb
        exact fun hab ↦ h (hab ▸ ha) }

/-- The dictionary of a list of pairs. -/
def ofList (l : List (κ × ν)) : Dict κ ν := l.foldl (fun d p ↦ d.set p.1 p.2) empty

theorem mem_set {d : Dict κ ν} {k : κ} {v : ν} {p : κ × ν} :
    p ∈ (d.set k v).items ↔ (p ∈ d.items ∧ p.1 ≠ k) ∨ p = (k, v) := by
  unfold set
  split_ifs with h
  · simp only [List.mem_map]
    constructor
    · rintro ⟨q, hq, rfl⟩
      by_cases hk : q.1 = k
      · exact Or.inr (if_pos hk)
      · rw [if_neg hk]
        exact Or.inl ⟨hq, hk⟩
    · rintro (⟨hp, hk⟩ | rfl)
      · exact ⟨p, hp, if_neg hk⟩
      · obtain ⟨q, hq, hk⟩ := List.mem_map.mp h
        exact ⟨q, hq, if_pos hk⟩
  · simp only [List.mem_append, List.mem_singleton]
    constructor
    · rintro (hp | rfl)
      · exact Or.inl ⟨hp, fun hk ↦ h (hk ▸ List.mem_map_of_mem hp)⟩
      · exact Or.inr rfl
    · rintro (⟨hp, -⟩ | rfl)
      · exact Or.inl hp
      · exact Or.inr rfl

/-- Every pair of a dictionary built from a list is a pair of the list. -/
theorem mem_of_mem_ofList {l : List (κ × ν)} {p : κ × ν} (hp : p ∈ (ofList l).items) : p ∈ l := by
  have hfold : ∀ (l : List (κ × ν)) (d : Dict κ ν),
      p ∈ (l.foldl (fun d q ↦ d.set q.1 q.2) d).items → p ∈ d.items ∨ p ∈ l := by
    intro l
    induction l with
    | nil => exact fun d hp ↦ Or.inl hp
    | cons q l ih =>
      intro d hp
      rcases ih _ hp with hd | hl
      · rcases mem_set.mp hd with ⟨hd, -⟩ | rfl
        · exact Or.inl hd
        · exact Or.inr List.mem_cons_self
      · exact Or.inr (List.mem_cons_of_mem _ hl)
  rcases hfold l empty hp with h | h
  · exact absurd h List.not_mem_nil
  · exact h

theorem mem_pop {d : Dict κ ν} {k : κ} {p : κ × ν} :
    p ∈ (d.pop k).items ↔ p ∈ d.items ∧ p.1 ≠ k := by
  simp [pop]

theorem get?_eq_some_iff {d : Dict κ ν} {k : κ} {v : ν} :
    d.get? k = some v ↔ (k, v) ∈ d.items := by
  constructor
  · intro h
    obtain ⟨l₁, l₂, heq, -⟩ := List.lookup_eq_some_iff.mp h
    rw [heq]
    simp
  · intro h
    obtain ⟨l₁, l₂, heq⟩ := List.append_of_mem h
    have hnodup := d.nodup
    rw [heq, List.map_append, List.nodup_append] at hnodup
    refine List.lookup_eq_some_iff.mpr ⟨l₁, l₂, heq, fun p hp ↦ ?_⟩
    have hne := hnodup.2.2 p.1 (List.mem_map_of_mem hp) k (by simp)
    exact bne_iff_ne.mpr (Ne.symm hne)

theorem get?_set {d : Dict κ ν} {k : κ} {v : ν} (l : κ) :
    (d.set k v).get? l = if l = k then some v else d.get? l := by
  ext w
  rw [get?_eq_some_iff, mem_set]
  split_ifs with h
  · subst h
    simp [eq_comm]
  · rw [get?_eq_some_iff]
    simp [h]

theorem get?_pop {d : Dict κ ν} {k : κ} (l : κ) :
    (d.pop k).get? l = if l = k then none else d.get? l := by
  ext v
  rw [get?_eq_some_iff, mem_pop]
  split_ifs with h
  · simp [h]
  · rw [get?_eq_some_iff]
    exact and_iff_left h

theorem ofList_append_singleton (l : List (κ × ν)) (p : κ × ν) :
    ofList (l ++ [p]) = (ofList l).set p.1 p.2 := by
  rw [ofList, List.foldl_append]
  rfl

/-- The last pair of a key wins. -/
theorem get?_ofList (l : List (κ × ν)) (k : κ) : (ofList l).get? k = l.reverse.lookup k := by
  induction l using List.reverseRecOn with
  | nil => rfl
  | append_singleton l p ih =>
    rw [ofList_append_singleton, get?_set, ih, List.reverse_append, List.reverse_singleton,
      List.singleton_append, List.lookup_cons]
    by_cases h : k = p.1
    · rw [if_pos h, beq_iff_eq.mpr h]
    · rw [if_neg h, beq_false_of_ne h]

theorem items_set (d : Dict κ ν) (k : κ) (v : ν) : (d.set k v).items =
    if k ∈ d.items.map Prod.fst then d.items.map fun p ↦ if p.1 = k then (k, v) else p
    else d.items ++ [(k, v)] := by
  unfold set
  split_ifs <;> rfl

theorem filter_items_set_of_not (keep : κ → Bool) (d : Dict κ ν) {k : κ} (hk : keep k = false)
    (v : ν) : (d.set k v).items.filter (fun p ↦ keep p.1) = d.items.filter fun p ↦ keep p.1 := by
  rw [items_set]
  split_ifs with h
  · clear h
    induction d.items with
    | nil => rfl
    | cons p l ih =>
      rw [List.map_cons, List.filter_cons, List.filter_cons, ih]
      by_cases hp : p.1 = k
      · simp [hp, hk]
      · simp [hp]
  · simp [List.filter_append, hk]

theorem filter_items_set (keep : κ → Bool) {d d' : Dict κ ν}
    (h : d.items.filter (fun p ↦ keep p.1) = d'.items) {k : κ} (hk : keep k = true) (v : ν) :
    (d.set k v).items.filter (fun p ↦ keep p.1) = (d'.set k v).items := by
  have hmem : k ∈ d.items.map Prod.fst ↔ k ∈ d'.items.map Prod.fst := by
    rw [← h, List.mem_map, List.mem_map]
    constructor
    · rintro ⟨p, hp, rfl⟩
      exact ⟨p, List.mem_filter.mpr ⟨hp, hk⟩, rfl⟩
    · rintro ⟨p, hp, rfl⟩
      exact ⟨p, (List.mem_filter.mp hp).1, rfl⟩
  have hkeep : (fun p : κ × ν ↦ keep p.1) ∘ (fun p ↦ if p.1 = k then (k, v) else p) =
      fun p ↦ keep p.1 := by
    funext p
    by_cases hp : p.1 = k
    · simp [hp]
    · simp [hp]
  rw [items_set, items_set]
  by_cases hin : k ∈ d.items.map Prod.fst
  · rw [if_pos hin, if_pos (hmem.mp hin), List.filter_map, hkeep, h]
  · rw [if_neg hin, if_neg (mt hmem.mpr hin), List.filter_append, h]
    simp [hk]

/-- The pairs of some keys are built from the pairs of these keys alone. -/
theorem filter_items_ofList (keep : κ → Bool) (l : List (κ × ν)) :
    (ofList l).items.filter (fun p ↦ keep p.1) = (ofList (l.filter fun p ↦ keep p.1)).items := by
  induction l using List.reverseRecOn with
  | nil => rfl
  | append_singleton l p ih =>
    rw [ofList_append_singleton, List.filter_append, List.filter_singleton]
    cases hp : keep p.1 with
    | true =>
      rw [cond_true, ofList_append_singleton]
      exact filter_items_set keep ih hp p.2
    | false =>
      rw [cond_false, List.append_nil, ← ih]
      exact filter_items_set_of_not keep _ hp p.2

theorem items_ofList {l : List (κ × ν)} (h : (l.map Prod.fst).Nodup) : (ofList l).items = l := by
  induction l using List.reverseRecOn with
  | nil => rfl
  | append_singleton l p ih =>
    rw [List.map_append, List.nodup_append] at h
    have hl := ih h.1
    have hnew : p.1 ∉ (ofList l).items.map Prod.fst := by
      rw [hl]
      exact fun hmem ↦ h.2.2 p.1 hmem p.1 (by simp) rfl
    rw [ofList_append_singleton, items_set, if_neg hnew, hl]

/-- The pairs that are written last are there, when their keys are distinct. -/
theorem mem_ofList_append {l l' : List (κ × ν)} (h : (l'.map Prod.fst).Nodup) {p : κ × ν}
    (hp : p ∈ l') : p ∈ (ofList (l ++ l')).items := by
  induction l' using List.reverseRecOn with
  | nil => cases hp
  | append_singleton l' q ih =>
    rw [List.map_append, List.nodup_append] at h
    rw [← List.append_assoc, ofList_append_singleton, mem_set]
    rcases List.mem_append.mp hp with hp | hp
    · exact Or.inl ⟨ih h.1 hp, h.2.2 p.1 (List.mem_map_of_mem hp) q.1 (by simp)⟩
    · exact Or.inr (List.mem_singleton.mp hp)

/-- Among pairs with distinct keys, one pair has the key of a pair. -/
theorem filter_key_eq {l : List (κ × ν)} (h : (l.map Prod.fst).Nodup) {p : κ × ν} (hp : p ∈ l) :
    l.filter (fun q ↦ q.1 = p.1) = [p] := by
  obtain ⟨before, after, rfl⟩ := List.append_of_mem hp
  rw [List.map_append, List.map_cons, List.nodup_append, List.nodup_cons] at h
  have hbefore : before.filter (fun q ↦ q.1 = p.1) = [] := by
    refine List.filter_eq_nil_iff.mpr fun q hq heq ↦ ?_
    exact h.2.2 q.1 (List.mem_map_of_mem hq) p.1 List.mem_cons_self (of_decide_eq_true heq)
  have hafter : after.filter (fun q ↦ q.1 = p.1) = [] := by
    refine List.filter_eq_nil_iff.mpr fun q hq heq ↦ h.2.1.1 ?_
    exact of_decide_eq_true heq ▸ List.mem_map_of_mem hq
  rw [List.filter_append, hbefore, List.filter_cons, hafter]
  simp

/-! ### The first pair of a key -/

/-- Writes the value of a key that is absent. -/
def setDefault (d : Dict κ ν) (k : κ) (v : ν) : Dict κ ν :=
  if k ∈ d.items.map Prod.fst then d else d.set k v

theorem get?_eq_none_iff {d : Dict κ ν} {k : κ} :
    d.get? k = none ↔ k ∉ d.items.map Prod.fst := by
  rw [Option.eq_none_iff_forall_ne_some]
  constructor
  · intro h hmem
    obtain ⟨p, hp, rfl⟩ := List.mem_map.mp hmem
    exact h p.2 (get?_eq_some_iff.mpr hp)
  · intro h v hv
    exact h (List.mem_map_of_mem (f := Prod.fst) (get?_eq_some_iff.mp hv))

theorem get?_setDefault {d : Dict κ ν} {k : κ} {v : ν} (l : κ) :
    (d.setDefault k v).get? l = (d.get? l).or (if l = k then some v else none) := by
  unfold setDefault
  by_cases hk : k ∈ d.items.map Prod.fst
  · rw [if_pos hk]
    by_cases hl : l = k
    · have hsome : d.get? l ≠ none := fun h ↦ get?_eq_none_iff.mp h (hl ▸ hk)
      obtain ⟨w, hw⟩ := Option.ne_none_iff_exists'.mp hsome
      rw [hw, Option.some_or]
    · rw [if_neg hl, Option.or_none]
  · rw [if_neg hk, get?_set]
    by_cases hl : l = k
    · rw [if_pos hl, if_pos hl, hl, get?_eq_none_iff.mpr hk, Option.none_or]
    · rw [if_neg hl, if_neg hl, Option.or_none]

/-- Of pairs that are added one after the other the first of a key wins. -/
theorem get?_foldl_setDefault (l : List (κ × ν)) (d : Dict κ ν) (k : κ) :
    (l.foldl (fun d p ↦ d.setDefault p.1 p.2) d).get? k = (d.get? k).or (l.lookup k) := by
  induction l generalizing d with
  | nil => rw [List.foldl_nil, List.lookup_nil, Option.or_none]
  | cons p l ih =>
    rw [List.foldl_cons, ih, get?_setDefault, Option.or_assoc, List.lookup_cons]
    by_cases h : k = p.1
    · rw [if_pos h, beq_iff_eq.mpr h, Option.some_or]
    · rw [if_neg h, beq_false_of_ne h, Option.none_or]

omit [DecidableEq κ] in
/-- The first pair of a key, among pairs that carry a mark. -/
theorem notMem_keys_iff {μ : Type*} {before : List (μ × κ × ν)} {k : κ} :
    k ∉ before.map (fun p ↦ p.2.1) ↔ ∀ p ∈ before.map Prod.snd, k ≠ p.1 := by
  rw [List.mem_map, not_exists, List.forall_mem_map]
  exact forall_congr' fun p ↦ not_and.trans (imp_congr_right fun _ ↦ ne_comm)

/-- Dropping the pairs without a mark changes no first value exactly when every such pair that is
the first one of its key has the first value among the others. -/
theorem lookup_eq_lookup_filter_iff {pairs : List (Bool × κ × ν)} :
    (∀ k, (pairs.map Prod.snd).lookup k = ((pairs.filter Prod.fst).map Prod.snd).lookup k) ↔
      ∀ before k v after, pairs = before ++ (false, k, v) :: after →
        k ∉ before.map (fun p ↦ p.2.1) →
          ((pairs.filter Prod.fst).map Prod.snd).lookup k = some v := by
  constructor
  · intro h before k v after hpairs hfirst
    rw [← h, List.lookup_eq_some_iff]
    refine ⟨before.map Prod.snd, after.map Prod.snd, ?_, fun p hp ↦ ?_⟩
    · rw [hpairs, List.map_append, List.map_cons]
    · exact bne_iff_ne.mpr (notMem_keys_iff.mp hfirst p hp)
  · intro h k
    cases hfound : (pairs.map Prod.snd).lookup k with
    | none =>
      refine (List.lookup_eq_none_iff.mpr fun p hp ↦ ?_).symm
      obtain ⟨q, hq, rfl⟩ := List.mem_map.mp hp
      have hkept := List.mem_map_of_mem (f := Prod.snd) (List.mem_filter.mp hq).1
      exact List.lookup_eq_none_iff.mp hfound q.2 hkept
    | some v =>
      obtain ⟨front, back, hsplit, hfirst⟩ := List.lookup_eq_some_iff.mp hfound
      obtain ⟨before, rest, rfl, rfl, hrest⟩ := List.map_eq_append_iff.mp hsplit
      obtain ⟨q, after, rfl, hq, rfl⟩ := List.map_eq_cons_iff.mp hrest
      obtain ⟨marked, l, w⟩ := q
      obtain ⟨rfl, rfl⟩ := Prod.mk.inj hq
      cases marked with
      | false =>
        refine (h before l w after rfl (notMem_keys_iff.mpr fun p hp ↦ ?_)).symm
        exact bne_iff_ne.mp (hfirst p hp)
      | true =>
        rw [eq_comm, List.lookup_eq_some_iff]
        refine ⟨(before.filter Prod.fst).map Prod.snd, (after.filter Prod.fst).map Prod.snd, ?_,
          fun p hp ↦ hfirst p ?_⟩
        · rw [List.filter_append, List.filter_cons_of_pos rfl, List.map_append, List.map_cons]
        · exact (List.filter_sublist.map Prod.snd).subset hp

/-! ### The best value of a key -/

section

variable (key : ν → κ) (better : ν → ν → Bool)

/-- Keeps a value under its key, unless the value that is there already is as good. -/
def keepBest (d : Dict κ ν) (v : ν) : Dict κ ν :=
  match d.get? (key v) with
  | none => d.set (key v) v
  | some current => if better v current then d.set (key v) v else d

/-- The dictionary has one of the values for each of their keys, and none is better. -/
structure Best (l : List ν) (d : Dict κ ν) : Prop where
  mem : ∀ p ∈ d.items, p.2 ∈ l ∧ p.1 = key p.2
  best : ∀ p ∈ d.items, ∀ v ∈ l, key v = p.1 → better v p.2 = false
  all : ∀ v ∈ l, key v ∈ d.items.map Prod.fst

variable {key better}

/-- A value that is new or better takes its place. -/
theorem Best.set {l : List ν} {d : Dict κ ν} (h : Best key better l d) {v : ν}
    (hself : better v v = false) (hbest : ∀ w ∈ l, key w = key v → better w v = false) :
    Best key better (l ++ [v]) (d.set (key v) v) where
  mem p hp := by
    rcases mem_set.mp hp with ⟨hold, -⟩ | rfl
    · exact ⟨List.mem_append_left _ (h.mem p hold).1, (h.mem p hold).2⟩
    · exact ⟨List.mem_append_right _ (List.mem_singleton_self v), rfl⟩
  best p hp w hw hkey := by
    rcases mem_set.mp hp with ⟨hold, hne⟩ | rfl
    · rcases List.mem_append.mp hw with hw | hw
      · exact h.best p hold w hw hkey
      · obtain rfl := List.mem_singleton.mp hw
        exact absurd hkey.symm hne
    · rcases List.mem_append.mp hw with hw | hw
      · exact hbest w hw hkey
      · obtain rfl := List.mem_singleton.mp hw
        exact hself
  all w hw := by
    by_cases hkey : key w = key v
    · exact List.mem_map.mpr ⟨(key v, v), mem_set.mpr (Or.inr rfl), hkey.symm⟩
    · have hold : w ∈ l := by
        rcases List.mem_append.mp hw with hw | hw
        · exact hw
        · exact absurd (congrArg key (List.mem_singleton.mp hw)) hkey
      obtain ⟨p, hp, hpkey⟩ := List.mem_map.mp (h.all w hold)
      exact List.mem_map.mpr ⟨p, mem_set.mpr (Or.inl ⟨hp, hpkey.trans_ne hkey⟩), hpkey⟩

/-- A value that is not better than the one of its key changes nothing. -/
theorem Best.keep {l : List ν} {d : Dict κ ν} (h : Best key better l d) {v current : ν}
    (hcurrent : (key v, current) ∈ d.items) (hnot : better v current = false) :
    Best key better (l ++ [v]) d where
  mem p hp := ⟨List.mem_append_left _ (h.mem p hp).1, (h.mem p hp).2⟩
  best p hp w hw hkey := by
    rcases List.mem_append.mp hw with hw | hw
    · exact h.best p hp w hw hkey
    · obtain rfl := List.mem_singleton.mp hw
      have hvalue : p.2 = current := by
        apply Option.some.inj
        rw [← get?_eq_some_iff.mpr hcurrent, hkey, get?_eq_some_iff.mpr hp]
      rw [hvalue]
      exact hnot
  all w hw := by
    rcases List.mem_append.mp hw with hw | hw
    · exact h.all w hw
    · obtain rfl := List.mem_singleton.mp hw
      exact List.mem_map_of_mem (f := Prod.fst) hcurrent

theorem best_foldl_keepBest (hself : ∀ v, better v v = false)
    (htrans : ∀ u v w, better u v = true → better v w = true → better u w = true)
    (l : List ν) : Best key better l (l.foldl (keepBest key better) empty) := by
  induction l using List.reverseRecOn with
  | nil => exact ⟨List.forall_mem_nil _, List.forall_mem_nil _, List.forall_mem_nil _⟩
  | append_singleton l v ih =>
    rw [List.foldl_append, List.foldl_cons, List.foldl_nil]
    rw [keepBest]
    cases hcurrent : (l.foldl (keepBest key better) empty).get? (key v) with
    | none =>
      refine ih.set (hself v) fun w hw hkey ↦ ?_
      exact absurd (hkey ▸ ih.all w hw) (get?_eq_none_iff.mp hcurrent)
    | some current =>
      have hmem := get?_eq_some_iff.mp hcurrent
      change Best key better _ (if better v current then _ else _)
      by_cases hbetter : better v current = true
      · rw [if_pos hbetter]
        refine ih.set (hself v) fun w hw hkey ↦ ?_
        have hnot := ih.best _ hmem w hw hkey
        by_contra hw
        rw [htrans w v current ((Bool.not_eq_false _).mp hw) hbetter] at hnot
        cases hnot
      · rw [if_neg hbetter]
        exact ih.keep hmem ((Bool.not_eq_true _).mp hbetter)

end

end Dict

end YandexPay
