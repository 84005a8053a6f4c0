import Mathlib.Data.List.Count
import Mathlib.Data.List.Flatten
import Mathlib.Data.List.Infix
import Mathlib.Data.List.Nodup

/-!
# Nested traversals

A traversal visits the elements of a list one after the other, and a visit may begin further
traversals, each of which ends before the visit goes on. A traversal ends when nothing is left, or
it is aborted with the visit at hand. Each one visits a prefix of its list, the whole list if it
completes (`Ordered`); and an element is visited at most once by all of them together if it is on
no list while it is left to another one, and on none after a visit (`VisitedOnce`).
-/

set_option autoImplicit false
set_option relaxedAutoImplicit false

namespace YandexPay

/-- Traversals by their numbers: their lists, those that have not ended, the innermost first, with
what is left to them, the visits in their order, and those that completed. -/
structure Traversals (α : Type*) where
  lists : List (List α)
  active : List (ℕ × List α)
  visits : List (ℕ × α)
  completed : List ℕ

namespace Traversals

variable {α : Type*} (t : Traversals α)

def visited (n : ℕ) : List α := (t.visits.filter (·.1 = n)).map Prod.snd

/-- A traversal begins inside of the others. -/
def begin (l : List α) : Traversals α :=
  { t with lists := t.lists ++ [l], active := (t.lists.length, l) :: t.active }

/-- The innermost traversal goes on with its next element, or completes. -/
def next : Traversals α :=
  match t.active with
  | [] => t
  | (n, []) :: outer => { t with active := outer, completed := t.completed ++ [n] }
  | (n, a :: rest) :: outer =>
    { t with active := (n, rest) :: outer, visits := t.visits ++ [(n, a)] }

/-- The innermost traversal is given up. -/
def abort : Traversals α := { t with active := t.active.tail }

variable {t} in
theorem next_nil (h : t.active = []) : t.next = t := by
  rw [next, h]

variable {t} in
theorem next_end {n : ℕ} {outer : List (ℕ × List α)} (h : t.active = (n, []) :: outer) :
    t.next = { t with active := outer, completed := t.completed ++ [n] } := by
  rw [next, h]

variable {t} in
theorem next_cons {n : ℕ} {a : α} {rest : List α} {outer : List (ℕ × List α)}
    (h : t.active = (n, a :: rest) :: outer) :
    t.next = { t with active := (n, rest) :: outer, visits := t.visits ++ [(n, a)] } := by
  rw [next, h]

/-! ### Order -/

/-- What is visited and what is left make up the list. -/
structure Ordered : Prop where
  active : ∀ p ∈ t.active, t.lists[p.1]? = some (t.visited p.1 ++ p.2)
  visited : ∀ n l, t.lists[n]? = some l → t.visited n <+: l
  completed : ∀ n ∈ t.completed, t.lists[n]? = some (t.visited n)
  nodup : (t.active.map Prod.fst).Nodup
  apart : ∀ n ∈ t.completed, n ∉ t.active.map Prod.fst
  known : ∀ visit ∈ t.visits, visit.1 < t.lists.length

variable {t}

theorem Ordered.visited_length (h : t.Ordered) : t.visited t.lists.length = [] := by
  rw [Traversals.visited, List.map_eq_nil_iff, List.filter_eq_nil_iff]
  intro visit hvisit heq
  exact (h.known visit hvisit).ne (of_decide_eq_true heq)

theorem Ordered.lt_of_active (h : t.Ordered) {p : ℕ × List α} (hp : p ∈ t.active) :
    p.1 < t.lists.length :=
  (List.getElem?_eq_some_iff.mp (h.active p hp)).1

theorem Ordered.lt_of_completed (h : t.Ordered) {n : ℕ} (hn : n ∈ t.completed) :
    n < t.lists.length :=
  (List.getElem?_eq_some_iff.mp (h.completed n hn)).1

theorem Ordered.begin (h : t.Ordered) (l : List α) : (t.begin l).Ordered where
  active := by
    rintro p hp
    rcases List.mem_cons.mp hp with rfl | hp
    · change (t.lists ++ [l])[t.lists.length]? = some (t.visited t.lists.length ++ l)
      rw [h.visited_length, List.getElem?_concat_length, List.nil_append]
    · exact (List.getElem?_append_left (h.lt_of_active hp)).trans (h.active p hp)
  visited := by
    intro n list hn
    change (t.lists ++ [l])[n]? = some list at hn
    change t.visited n <+: list
    by_cases hlt : n < t.lists.length
    · rw [List.getElem?_append_left hlt] at hn
      exact h.visited n list hn
    · have hlast : n = t.lists.length := by
        have := (List.getElem?_eq_some_iff.mp hn).1
        rw [List.length_append, List.length_singleton] at this
        omega
      rw [hlast, h.visited_length]
      exact List.nil_prefix
  completed := fun n hn ↦
    (List.getElem?_append_left (h.lt_of_completed hn)).trans (h.completed n hn)
  nodup := by
    refine List.nodup_cons.mpr ⟨fun hmem ↦ ?_, h.nodup⟩
    obtain ⟨p, hp, heq⟩ := List.mem_map.mp hmem
    exact (h.lt_of_active hp).ne heq
  apart := by
    intro n hn hmem
    rcases List.mem_cons.mp hmem with rfl | hmem
    · exact (h.lt_of_completed hn).ne rfl
    · exact h.apart n hn hmem
  known := fun visit hvisit ↦ by
    refine (h.known visit hvisit).trans_le ?_
    change t.lists.length ≤ (t.lists ++ [l]).length
    rw [List.length_append]
    omega

/-- A visit is added to its own traversal alone. -/
theorem visited_append (visits : List (ℕ × α)) (n m : ℕ) (a : α) :
    (((visits ++ [(n, a)]).filter (·.1 = m)).map Prod.snd) =
      ((visits.filter (·.1 = m)).map Prod.snd) ++ (if n = m then [a] else []) := by
  rw [List.filter_append, List.map_append, List.filter_singleton]
  by_cases h : n = m
  · simp [h]
  · simp [h]

/-- The innermost traversal completes. -/
theorem Ordered.next_end (h : t.Ordered) {n : ℕ} {outer : List (ℕ × List α)}
    (hactive : t.active = (n, []) :: outer) : t.next.Ordered := by
  have hn := h.active (n, []) (hactive ▸ List.mem_cons_self)
  have hnodup := h.nodup
  rw [hactive, List.map_cons, List.nodup_cons] at hnodup
  rw [Traversals.next_end hactive]
  refine ⟨fun p hp ↦ h.active p (hactive ▸ List.mem_cons_of_mem _ hp), h.visited, ?_, hnodup.2,
    ?_, h.known⟩
  · intro m hm
    rcases List.mem_append.mp hm with hm | hm
    · exact h.completed m hm
    · obtain rfl := List.mem_singleton.mp hm
      exact hn.trans (congrArg some (List.append_nil _))
  · intro m hm hmem
    rcases List.mem_append.mp hm with hm | hm
    · exact h.apart m hm (by rw [hactive]; exact List.mem_cons_of_mem _ hmem)
    · obtain rfl := List.mem_singleton.mp hm
      exact hnodup.1 hmem

section

variable {n : ℕ} {a : α} {rest : List α} {outer : List (ℕ × List α)}

theorem visited_next_self (hactive : t.active = (n, a :: rest) :: outer) :
    t.next.visited n = t.visited n ++ [a] := by
  rw [Traversals.next_cons hactive, Traversals.visited, visited_append, if_pos rfl]
  rfl

theorem visited_next_of_ne (hactive : t.active = (n, a :: rest) :: outer) {m : ℕ} (hne : n ≠ m) :
    t.next.visited m = t.visited m := by
  rw [Traversals.next_cons hactive, Traversals.visited, visited_append, if_neg hne,
    List.append_nil]
  rfl

/-- The innermost traversal visits an element. -/
theorem Ordered.next_cons (h : t.Ordered) (hactive : t.active = (n, a :: rest) :: outer) :
    t.next.Ordered := by
  have hn := h.active (n, a :: rest) (hactive ▸ List.mem_cons_self)
  have hnodup := h.nodup
  rw [hactive, List.map_cons, List.nodup_cons] at hnodup
  have hlt := h.lt_of_active (p := (n, a :: rest)) (hactive ▸ List.mem_cons_self)
  have hself := visited_next_self hactive
  have hother := fun m ↦ visited_next_of_ne hactive (m := m)
  rw [Traversals.next_cons hactive] at hself hother ⊢
  refine ⟨?_, ?_, ?_, List.nodup_cons.mpr hnodup, ?_, ?_⟩
  · rintro p hp
    rcases List.mem_cons.mp hp with rfl | hp
    · rw [hself, List.append_assoc]
      exact hn
    · have hne : n ≠ p.1 := fun heq ↦ hnodup.1 (List.mem_map.mpr ⟨p, hp, heq.symm⟩)
      rw [hother p.1 hne]
      exact h.active p (hactive ▸ List.mem_cons_of_mem _ hp)
  · intro m l hm
    by_cases heq : n = m
    · subst heq
      obtain rfl := Option.some.inj (hn.symm.trans hm)
      rw [hself]
      exact ⟨rest, List.append_assoc _ _ _⟩
    · rw [hother m heq]
      exact h.visited m l hm
  · intro m hm
    have hne : n ≠ m := by
      rintro rfl
      exact h.apart n hm (by rw [hactive]; exact List.mem_cons_self)
    rw [hother m hne]
    exact h.completed m hm
  · intro m hm
    have hmem := h.apart m hm
    rw [hactive] at hmem
    exact hmem
  · intro visit hvisit
    rcases List.mem_append.mp hvisit with hvisit | hvisit
    · exact h.known visit hvisit
    · obtain rfl := List.mem_singleton.mp hvisit
      exact hlt

end

theorem Ordered.next (h : t.Ordered) : t.next.Ordered := by
  rcases hactive : t.active with _ | ⟨⟨n, _ | ⟨a, rest⟩⟩, outer⟩
  · rwa [Traversals.next_nil hactive]
  · exact h.next_end hactive
  · exact h.next_cons hactive

theorem Ordered.abort (h : t.Ordered) : t.abort.Ordered where
  active := fun p hp ↦ h.active p (List.mem_of_mem_tail hp)
  visited := h.visited
  completed := h.completed
  nodup := (h.nodup.sublist ((List.tail_sublist _).map _))
  apart := fun n hn hmem ↦ h.apart n hn (((List.tail_sublist _).map _).subset hmem)
  known := h.known

/-! ### Elements that are visited once -/

variable (t) [DecidableEq α]

/-- The visits of an element, done and left. -/
def count (a : α) : ℕ := (t.visits.map Prod.snd).count a + (t.active.flatMap Prod.snd).count a

variable {t}

theorem count_begin (l : List α) (a : α) : (t.begin l).count a = l.count a + t.count a := by
  unfold count Traversals.begin
  simp only [List.flatMap_cons, List.count_append]
  omega

theorem count_next (a : α) : t.next.count a = t.count a := by
  unfold Traversals.next
  split
  · rfl
  · rename_i n outer hactive
    unfold count
    rw [hactive, List.flatMap_cons, List.nil_append]
  · rename_i n b rest outer hactive
    unfold count
    simp only [hactive, List.map_append, List.map_singleton, List.count_append, List.flatMap_cons,
      List.count_cons, List.count_nil]
    omega

theorem count_abort_le (a : α) : t.abort.count a ≤ t.count a := by
  unfold count Traversals.abort
  apply Nat.add_le_add_left
  exact (List.Sublist.flatMap (List.tail_sublist _) _).count_le a

/-- Every element of a kind is visited at most once, and is left to no traversal after that. -/
def VisitedOnce (single : α → Prop) (t : Traversals α) : Prop := ∀ a, single a → t.count a ≤ 1

theorem VisitedOnce.begin {single : α → Prop} (h : t.VisitedOnce single) {l : List α}
    (hl : ∀ a ∈ l, single a → l.count a ≤ 1 ∧ t.count a = 0) :
    (t.begin l).VisitedOnce single := by
  intro a ha
  rw [count_begin]
  by_cases hmem : a ∈ l
  · obtain ⟨hone, hzero⟩ := hl a hmem ha
    rw [hzero]
    exact hone
  · rw [List.count_eq_zero_of_not_mem hmem, Nat.zero_add]
    exact h a ha

theorem VisitedOnce.next {single : α → Prop} (h : t.VisitedOnce single) :
    t.next.VisitedOnce single :=
  fun a ha ↦ (count_next a).trans_le (h a ha)

theorem VisitedOnce.abort {single : α → Prop} (h : t.VisitedOnce single) :
    t.abort.VisitedOnce single :=
  fun a ha ↦ (count_abort_le a).trans (h a ha)

theorem VisitedOnce.count_visits_le {single : α → Prop} (h : t.VisitedOnce single) {a : α}
    (ha : single a) : (t.visits.map Prod.snd).count a ≤ 1 :=
  (Nat.le_add_right _ _).trans (h a ha)

theorem count_eq_zero_iff {a : α} : t.count a = 0 ↔
    a ∉ t.visits.map Prod.snd ∧ ∀ p ∈ t.active, a ∉ p.2 := by
  rw [count, Nat.add_eq_zero_iff, List.count_eq_zero, List.count_eq_zero, List.mem_flatMap]
  simp only [not_exists, not_and]

end Traversals

end YandexPay
