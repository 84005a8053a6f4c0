import YandexPay.Library.WhileLoop
import Mathlib.Data.Int.Notation
import Mathlib.Data.List.InsertIdx

/-!
# Moving an element of a list

`move` takes an element to a new place by swapping it with its neighbours, one after the other. The
list is modified in place, here it is returned. An index is an integer. What is behind the range or
in front of it moves nothing.
-/

set_option autoImplicit false
set_option relaxedAutoImplicit false

namespace YandexPay.Move

variable {α : Type*}

/-! ### The loop -/

def InRange (list : List α) (idx : ℤ) : Prop := 0 ≤ idx ∧ idx < list.length

instance (list : List α) (idx : ℤ) : Decidable (InRange list idx) :=
  inferInstanceAs (Decidable (_ ∧ _))

theorem InRange.toNat_lt {list : List α} {idx : ℤ} (h : InRange list idx) :
    idx.toNat < list.length := by
  have := h.1
  have := h.2
  omega

theorem inRange_natCast {list : List α} {i : ℕ} : InRange list i ↔ i < list.length := by
  unfold InRange
  omega

def swap (list : List α) (idxA idxB : ℤ) : List α :=
  if h : idxA ≠ idxB ∧ InRange list idxA ∧ InRange list idxB then
    let buff := list.get ⟨idxA.toNat, h.2.1.toNat_lt⟩
    (list.set idxA.toNat (list.get ⟨idxB.toNat, h.2.2.toNat_lt⟩)).set idxB.toNat buff
  else list

/-- `none` if the loop has not ended within a number of rounds. -/
def move (rounds : ℕ) (list : List α) (idxFrom idxTo : ℤ) : Option (List α) :=
  if InRange list idxFrom ∧ InRange list idxTo then
    let M : ℤ := if idxFrom < idxTo then 1 else -1
    (whileLoop (fun s : List α × ℤ ↦ s.2 ≠ idxTo) (fun s ↦ (swap s.1 s.2 (s.2 + M), s.2 + M))
      rounds (list, idxFrom)).map Prod.fst
  else some list

example : move 4 ["D", "A", "B", "C"] 0 3 = some ["A", "B", "C", "D"] := by decide

structure UserCard (Info : Type) where
  id : String
  info : Info
  deriving DecidableEq

/-- `cards.findIndex(…)` -/
def findIndex (p : α → Bool) (list : List α) : ℤ :=
  match list.findIdx? p with
  | some i => i
  | none => -1

def sortUserCards {Info : Type} (rounds : ℕ) (cards : List (UserCard Info))
    (cardId : Option String) : Option (List (UserCard Info)) :=
  let savedCardIndex := findIndex (fun card ↦ some card.id = cardId) cards
  if savedCardIndex > 0 then move rounds cards savedCardIndex 0 else some cards

/-! ### What a move is -/

/-- The element at `i` is removed and put in again at `j`. -/
def relocate (list : List α) (i j : ℕ) : List α :=
  match list[i]? with
  | some x => (list.eraseIdx i).insertIdx j x
  | none => list

theorem relocate_of_lt {list : List α} {i : ℕ} (hi : i < list.length) (j : ℕ) :
    relocate list i j = (list.eraseIdx i).insertIdx j list[i] := by
  rw [relocate, List.getElem?_eq_getElem hi]

theorem relocate_self {list : List α} {i : ℕ} (hi : i < list.length) :
    relocate list i i = list := by
  rw [relocate_of_lt hi, List.insertIdx_eraseIdx_getElem hi]

/-- The element is at its new place, and the others are in their old order. -/
theorem getElem?_relocate_self {list : List α} {i j : ℕ} (hi : i < list.length)
    (hj : j < list.length) : (relocate list i j)[j]? = list[i]? := by
  have herase := List.length_eraseIdx_of_lt hi
  rw [relocate_of_lt hi, List.getElem?_insertIdx_self, if_pos (by omega),
    List.getElem?_eq_getElem hi]

theorem eraseIdx_relocate {list : List α} {i j : ℕ} (hi : i < list.length) :
    (relocate list i j).eraseIdx j = list.eraseIdx i := by
  rw [relocate_of_lt hi, List.eraseIdx_insertIdx_self]

/-! ### Swaps of neighbours -/

theorem getElem?_swap {list : List α} {a b : ℕ} (hne : a ≠ b) (ha : a < list.length)
    (hb : b < list.length) (i : ℕ) :
    (swap list a b)[i]? = if i = b then list[a]? else if i = a then list[b]? else list[i]? := by
  have hguard : (a : ℤ) ≠ b ∧ InRange list a ∧ InRange list b :=
    ⟨by omega, inRange_natCast.mpr ha, inRange_natCast.mpr hb⟩
  rw [swap, dif_pos hguard]
  simp only [Int.toNat_natCast, List.get_eq_getElem, List.getElem?_set]
  by_cases hib : i = b
  · simp [hib, hb]
  · by_cases hia : i = a
    · simp [hia, ha, hb, hne, hne.symm]
    · simp [hib, hia, Ne.symm hib, Ne.symm hia]

/-- An element that was put in at one place is at the neighbouring one after the swap. -/
theorem swap_insertIdx {rest : List α} {x : α} {k m : ℕ} (hk : k ≤ rest.length)
    (hm : m ≤ rest.length) (hneighbours : m = k + 1 ∨ k = m + 1) :
    swap (rest.insertIdx k x) k m = rest.insertIdx m x := by
  have hlength := List.length_insertIdx_of_le_length hk x
  refine List.ext_getElem? fun i ↦ ?_
  rw [getElem?_swap (by omega) (by omega) (by omega)]
  simp only [List.getElem?_insertIdx]
  rcases hneighbours with rfl | rfl
  · grind
  · grind

theorem swap_relocate {list : List α} {i k m : ℕ} (hi : i < list.length) (hk : k < list.length)
    (hm : m < list.length) (hneighbours : m = k + 1 ∨ k = m + 1) :
    swap (relocate list i k) k m = relocate list i m := by
  have herase := List.length_eraseIdx_of_lt hi
  rw [relocate_of_lt hi, relocate_of_lt hi]
  exact swap_insertIdx (by omega) (by omega) hneighbours

/-! ### Runs of the loop -/

/-- The invariant: the element has been moved to the index at hand, which is not past the last
one in the direction of the loop. -/
def Moving (list : List α) (i j : ℕ) (s : List α × ℤ) : Prop :=
  ∃ k : ℕ, s = (relocate list i k, (k : ℤ)) ∧ k < list.length ∧ if i < j then k ≤ j else j ≤ k

theorem Moving.step {list : List α} {i j : ℕ} (hi : i < list.length) (hj : j < list.length)
    {s : List α × ℤ} (hs : Moving list i j s) (hne : s.2 ≠ j) {M : ℤ}
    (hM : M = if i < j then 1 else -1) :
    Moving list i j (swap s.1 s.2 (s.2 + M), s.2 + M) ∧
      ((j : ℤ) - (s.2 + M)).natAbs < ((j : ℤ) - s.2).natAbs := by
  obtain ⟨k, rfl, hk, hpast⟩ := hs
  simp only at hne ⊢
  by_cases hij : i < j
  · rw [if_pos hij] at hpast hM
    subst hM
    have hnext : ((k : ℤ) + 1) = ((k + 1 : ℕ) : ℤ) := by omega
    rw [hnext, swap_relocate hi hk (by omega) (Or.inl rfl)]
    refine ⟨⟨k + 1, rfl, by omega, ?_⟩, by omega⟩
    rw [if_pos hij]
    omega
  · rw [if_neg hij] at hpast hM
    subst hM
    obtain ⟨m, rfl⟩ := Nat.exists_eq_add_one_of_ne_zero (by omega : k ≠ 0)
    have hnext : (((m + 1 : ℕ) : ℤ) + -1) = (m : ℤ) := by omega
    rw [hnext, swap_relocate hi hk (by omega) (Or.inr rfl)]
    refine ⟨⟨m, rfl, by omega, ?_⟩, by omega⟩
    rw [if_neg hij]
    omega

theorem move_eq_relocate {list : List α} {i j : ℕ} (hi : i < list.length) (hj : j < list.length)
    {rounds : ℕ} (hrounds : list.length ≤ rounds) :
    move rounds list i j = some (relocate list i j) := by
  have hstart : Moving list i j (list, (i : ℤ)) := by
    refine ⟨i, by rw [relocate_self hi], hi, ?_⟩
    split_ifs <;> omega
  obtain ⟨t, ⟨k, rfl, -, -⟩, hend, hloop⟩ := exists_rounds_of_measure
    (fun s : List α × ℤ ↦ ((j : ℤ) - s.2).natAbs)
    (fun s hs hcond ↦ hs.step hi hj (of_decide_eq_true hcond) rfl) hstart
  have hk : (k : ℤ) = j := by simpa using hend
  obtain rfl : k = j := by omega
  have hguard : InRange list i ∧ InRange list k :=
    ⟨inRange_natCast.mpr hi, inRange_natCast.mpr hj⟩
  rw [move, if_pos hguard]
  simp only [Int.ofNat_lt]
  rw [hloop rounds (by omega)]
  rfl

theorem move_of_not_inRange {list : List α} {idxFrom idxTo : ℤ}
    (h : ¬ (InRange list idxFrom ∧ InRange list idxTo)) (rounds : ℕ) :
    move rounds list idxFrom idxTo = some list := by
  rw [move, if_neg h]

/-! ### The saved card -/

/-- The saved card, if there is one, is first, and the others are in their old order. -/
def SavedFirst {Info : Type} (cards : List (UserCard Info)) (cardId : Option String)
    (result : List (UserCard Info)) : Prop :=
  match cards.findIdx? fun card ↦ some card.id = cardId with
  | some i => result.head? = cards[i]? ∧ result.tail = cards.eraseIdx i
  | none => result = cards

theorem exists_sortUserCards {Info : Type} (cards : List (UserCard Info))
    (cardId : Option String) : ∃ result, SavedFirst cards cardId result ∧
      ∀ rounds, cards.length ≤ rounds → sortUserCards rounds cards cardId = some result := by
  unfold sortUserCards SavedFirst findIndex
  cases hfind : cards.findIdx? fun card ↦ some card.id = cardId with
  | none => exact ⟨cards, rfl, fun _ _ ↦ rfl⟩
  | some i =>
    have hi : i < cards.length := (List.findIdx?_eq_some_iff_getElem.mp hfind).1
    by_cases hpos : (i : ℤ) > 0
    · refine ⟨relocate cards i 0, ⟨?_, ?_⟩, fun rounds hrounds ↦ ?_⟩
      · rw [List.head?_eq_getElem?, getElem?_relocate_self hi (by omega)]
      · rw [← List.eraseIdx_zero, eraseIdx_relocate hi]
      · simp only [if_pos hpos]
        exact move_eq_relocate (j := 0) hi (by omega) hrounds
    · obtain rfl : i = 0 := by omega
      exact ⟨cards, ⟨List.head?_eq_getElem?, List.eraseIdx_zero.symm⟩,
        fun _ _ ↦ by simp only [if_neg hpos]⟩

/-- `move` ends, and takes an element to its new place if both indices are in range; the saved card
comes first. -/
theorem move_relocates {α Info : Type} (list : List α) (idxFrom idxTo : ℤ)
    (cards : List (UserCard Info)) (cardId : Option String) :
    (∃ rounds result, (∀ more, rounds ≤ more → move more list idxFrom idxTo = some result) ∧
      if InRange list idxFrom ∧ InRange list idxTo then
        result = relocate list idxFrom.toNat idxTo.toNat ∧
          result[idxTo.toNat]? = list[idxFrom.toNat]? ∧
          result.eraseIdx idxTo.toNat = list.eraseIdx idxFrom.toNat
      else result = list) ∧
    ∃ rounds result, (∀ more, rounds ≤ more → sortUserCards more cards cardId = some result) ∧
      SavedFirst cards cardId result := by
  constructor
  · by_cases h : InRange list idxFrom ∧ InRange list idxTo
    · have hi := h.1.toNat_lt
      have hj := h.2.toNat_lt
      refine ⟨list.length, relocate list idxFrom.toNat idxTo.toNat, fun more hmore ↦ ?_, ?_⟩
      · have hmove := move_eq_relocate hi hj hmore
        rwa [Int.toNat_of_nonneg h.1.1, Int.toNat_of_nonneg h.2.1] at hmove
      · rw [if_pos h]
        exact ⟨rfl, getElem?_relocate_self hi hj, eraseIdx_relocate hi⟩
    · exact ⟨0, list, fun more _ ↦ move_of_not_inRange h more, by rw [if_neg h]⟩
  · obtain ⟨result, hsaved, hresult⟩ := exists_sortUserCards cards cardId
    exact ⟨cards.length, result, hresult, hsaved⟩

end YandexPay.Move
