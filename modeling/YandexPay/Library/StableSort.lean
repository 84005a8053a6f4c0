import Mathlib.Data.List.Sort
import Mathlib.Order.Defs.LinearOrder

/-!
# Sorting by a key, equal keys in their order

A stable sort keeps the elements of one key in the order in which they were given: it commutes with
every filter (`filter_sortBy`), and two lists are sorted to one if and only if they have, for every
key, the same elements of that key in the same order (`sortBy_eq_sortBy_iff`).
-/

set_option autoImplicit false
set_option relaxedAutoImplicit false

namespace YandexPay

variable {α κ : Type*} [LinearOrder κ] (key : α → κ)

def sortBy (l : List α) : List α := l.insertionSort fun a b ↦ key a ≤ key b

def SortedBy (l : List α) : Prop := l.Pairwise fun a b ↦ key a ≤ key b

instance (l : List α) : Decidable (SortedBy key l) :=
  inferInstanceAs (Decidable (l.Pairwise fun a b ↦ key a ≤ key b))

theorem sortedBy_sortBy (l : List α) : SortedBy key (sortBy key l) := by
  have htotal : Std.Total fun a b : α ↦ key a ≤ key b := ⟨fun a b ↦ le_total (key a) (key b)⟩
  have htrans : IsTrans α fun a b ↦ key a ≤ key b := ⟨fun _ _ _ ↦ le_trans⟩
  exact List.pairwise_insertionSort _ l

theorem sortBy_perm (l : List α) : (sortBy key l).Perm l := List.perm_insertionSort _ l

@[simp] theorem mem_sortBy {l : List α} {a : α} : a ∈ sortBy key l ↔ a ∈ l :=
  (sortBy_perm key l).mem_iff

variable {key}

theorem SortedBy.sortBy_eq {l : List α} (h : SortedBy key l) : sortBy key l = l :=
  List.Pairwise.insertionSort_eq h

theorem SortedBy.filter {l : List α} (h : SortedBy key l) (p : α → Bool) :
    SortedBy key (l.filter p) :=
  List.Pairwise.sublist List.filter_sublist h

theorem sortedBy_map {β : Type*} {f : β → α} {l : List β} :
    SortedBy key (l.map f) ↔ SortedBy (fun b ↦ key (f b)) l :=
  List.pairwise_map

theorem orderedInsert_of_forall {l : List α} {a : α} (h : ∀ b ∈ l, key a ≤ key b) :
    l.orderedInsert (fun a b ↦ key a ≤ key b) a = a :: l := by
  cases l with
  | nil => rfl
  | cons b l => exact List.orderedInsert_cons_of_le _ l (h b List.mem_cons_self)

theorem filter_orderedInsert {l : List α} (h : SortedBy key l) (p : α → Bool) (a : α) :
    (l.orderedInsert (fun a b ↦ key a ≤ key b) a).filter p =
      if p a then (l.filter p).orderedInsert (fun a b ↦ key a ≤ key b) a else l.filter p := by
  induction l with
  | nil => cases hp : p a <;> simp [hp]
  | cons b l ih =>
    obtain ⟨hb, hl⟩ := List.pairwise_cons.mp h
    by_cases hab : key a ≤ key b
    · rw [List.orderedInsert_cons_of_le _ l hab, List.filter_cons]
      refine if_congr Iff.rfl ?_ rfl
      rw [orderedInsert_of_forall]
      intro c hc
      rcases List.mem_cons.mp (List.mem_filter.mp hc).1 with rfl | hc
      · exact hab
      · exact hab.trans (hb c hc)
    · rw [List.orderedInsert_of_not_le _ l hab, List.filter_cons, ih hl, List.filter_cons]
      cases hp : p b with
      | false => rfl
      | true =>
        simp only [if_true]
        split_ifs
        · exact (List.orderedInsert_of_not_le (fun a b ↦ key a ≤ key b) _ hab).symm
        · rfl

variable (key)

theorem filter_sortBy (p : α → Bool) (l : List α) :
    (sortBy key l).filter p = sortBy key (l.filter p) := by
  induction l with
  | nil => rfl
  | cons a l ih =>
    change (List.orderedInsert _ a (sortBy key l)).filter p = _
    rw [filter_orderedInsert (sortedBy_sortBy key l), ih, List.filter_cons]
    split_ifs <;> rfl

theorem map_sortBy {β : Type*} (f : β → α) (l : List β) :
    (sortBy (fun b ↦ key (f b)) l).map f = sortBy key (l.map f) :=
  List.map_insertionSort _ _ f l fun _ _ _ _ ↦ Iff.rfl

/-- The keys of a sorted list depend only on which elements it has. -/
theorem map_key_sortBy_of_perm {l l' : List α} (h : (l.map key).Perm (l'.map key)) :
    (sortBy key l).map key = (sortBy key l').map key := by
  have hsorted : ∀ m : List α, ((sortBy key m).map key).Pairwise (· ≤ ·) :=
    fun m ↦ List.pairwise_map.mpr (sortedBy_sortBy key m)
  refine List.Perm.eq_of_pairwise' (hsorted l) (hsorted l') ?_
  exact (((sortBy_perm key l).map key).trans h).trans ((sortBy_perm key l').map key).symm

variable {key}

/-- A sorted list is determined by its elements of every key. -/
theorem SortedBy.eq_of_filter {l l' : List α} (h : SortedBy key l) (h' : SortedBy key l')
    (hkeys : ∀ k, l.filter (fun a ↦ key a = k) = l'.filter fun a ↦ key a = k) : l = l' := by
  induction l generalizing l' with
  | nil =>
    cases l' with
    | nil => rfl
    | cons b l' => simpa using hkeys (key b)
  | cons a l ih =>
    cases l' with
    | nil => simpa using hkeys (key a)
    | cons b l' =>
      obtain ⟨ha, hl⟩ := List.pairwise_cons.mp h
      obtain ⟨hb, hl'⟩ := List.pairwise_cons.mp h'
      have hhead : a ∈ b :: l' := by
        have hmem : a ∈ (b :: l').filter fun c ↦ key c = key a := by
          rw [← hkeys]
          simp
        exact (List.mem_filter.mp hmem).1
      have hhead' : b ∈ a :: l := by
        have hmem : b ∈ (a :: l).filter fun c ↦ key c = key b := by
          rw [hkeys]
          simp
        exact (List.mem_filter.mp hmem).1
      have hkey : key a = key b := by
        refine le_antisymm ?_ ?_
        · rcases List.mem_cons.mp hhead' with rfl | hmem
          · exact le_rfl
          · exact ha b hmem
        · rcases List.mem_cons.mp hhead with rfl | hmem
          · exact le_rfl
          · exact hb a hmem
      have hfirst := hkeys (key a)
      simp only [List.filter_cons, hkey, decide_true, if_true, List.cons.injEq] at hfirst
      obtain ⟨rfl, -⟩ := hfirst
      refine congrArg _ (ih hl hl' fun k ↦ ?_)
      have hk := hkeys k
      simp only [List.filter_cons] at hk
      split_ifs at hk with hak
      · exact (List.cons.inj hk).2
      · exact hk

theorem sortBy_eq_sortBy_iff {l l' : List α} : sortBy key l = sortBy key l' ↔
    ∀ k, l.filter (fun a ↦ key a = k) = l'.filter fun a ↦ key a = k := by
  have hfiber : ∀ (m : List α) (k : κ),
      (sortBy key m).filter (fun a ↦ key a = k) = m.filter fun a ↦ key a = k := by
    intro m k
    rw [filter_sortBy]
    refine SortedBy.sortBy_eq (List.pairwise_iff_forall_sublist.mpr fun {a b} hab ↦ ?_)
    have ha := (List.mem_filter.mp (hab.subset (by simp : a ∈ [a, b]))).2
    have hb := (List.mem_filter.mp (hab.subset (by simp : b ∈ [a, b]))).2
    rw [of_decide_eq_true ha, of_decide_eq_true hb]
  constructor
  · intro h k
    rw [← hfiber, h, hfiber]
  · intro h
    refine (sortedBy_sortBy key l).eq_of_filter (sortedBy_sortBy key l') fun k ↦ ?_
    rw [hfiber, hfiber, h k]

end YandexPay
