import Mathlib.Algebra.BigOperators.Group.List.Basic
import Mathlib.Algebra.GroupWithZero.Nat
import Mathlib.Data.List.Infix
import Mathlib.Data.List.TakeWhile

/-!
# Fields in a delimited text

Fields, pairs of a key and a value, are written as `key=value` and joined by a separator.
Splitting at the separator and each part at its first `=` gives the fields back if and only if no
value contains the separator (`splitFields_joinFields_iff`).
-/

set_option autoImplicit false
set_option relaxedAutoImplicit false

namespace YandexPay.Delimited

variable {α : Type*}

/-! ### One delimiter -/

theorem notMem_intercalate {a separator : α} (ha : a ≠ separator) {pieces : List (List α)}
    (hpieces : ∀ piece ∈ pieces, a ∉ piece) : a ∉ [separator].intercalate pieces := by
  induction pieces with
  | nil => exact List.not_mem_nil
  | cons piece pieces ih =>
    cases pieces with
    | nil => simpa using hpieces piece List.mem_cons_self
    | cons next pieces =>
      rw [List.intercalate_cons_cons]
      simp only [List.mem_append, List.mem_singleton, not_or]
      exact ⟨⟨hpieces piece List.mem_cons_self, ha⟩,
        ih fun other hother ↦ hpieces other (List.mem_cons_of_mem _ hother)⟩

variable [DecidableEq α]

/-- What precedes an element and what follows it. -/
theorem takeWhile_dropWhile_of_notMem {a : α} {before : List α} (h : a ∉ before)
    (after : List α) : (before ++ a :: after).takeWhile (· ≠ a) = before ∧
      (before ++ a :: after).dropWhile (· ≠ a) = a :: after := by
  have hkept : ∀ b ∈ before, decide (b ≠ a) = true :=
    fun b hb ↦ decide_eq_true fun heq ↦ h (heq ▸ hb)
  rw [List.takeWhile_append_of_pos hkept, List.dropWhile_append_of_pos hkept,
    List.takeWhile_cons_of_neg (by simp), List.dropWhile_cons_of_neg (by simp), List.append_nil]
  exact ⟨rfl, rfl⟩

theorem takeWhile_dropWhile_self {a : α} {l : List α} (h : a ∉ l) :
    l.takeWhile (· ≠ a) = l ∧ l.dropWhile (· ≠ a) = [] := by
  have hkept : ∀ b ∈ l, decide (b ≠ a) = true :=
    fun b hb ↦ decide_eq_true fun heq ↦ h (heq ▸ hb)
  exact ⟨List.takeWhile_eq_self_iff.mpr hkept, List.dropWhile_eq_nil_iff.mpr hkept⟩

theorem notMem_takeWhile_ne (a : α) (l : List α) : a ∉ l.takeWhile (· ≠ a) :=
  fun hmem ↦ of_decide_eq_true (List.mem_takeWhile_imp (p := (· ≠ a)) hmem) rfl

theorem length_splitOn (a : α) (l : List α) : (l.splitOn a).length = l.count a + 1 := by
  induction l with
  | nil => rfl
  | cons b l ih =>
    rw [List.splitOn_cons_eq_if_modifyHead, List.count_cons]
    split_ifs with h
    · rw [List.length_cons, ih]
    · rw [List.length_modifyHead, ih]

/-- The separators of a joined text are those between the pieces and those within them. -/
theorem count_intercalate (a : α) {pieces : List (List α)} (h : pieces ≠ []) :
    ([a].intercalate pieces).count a + 1 =
      pieces.length + (pieces.map fun piece ↦ piece.count a).sum := by
  induction pieces with
  | nil => exact absurd rfl h
  | cons piece pieces ih =>
    cases pieces with
    | nil =>
      rw [List.intercalate_singleton, List.map_singleton, List.sum_singleton,
        List.length_singleton, Nat.add_comm]
    | cons next pieces =>
      have hrest := ih (List.cons_ne_nil _ _)
      rw [List.intercalate_cons_cons, List.count_append, List.count_append,
        List.count_singleton_self, List.length_cons, List.map_cons, List.sum_cons]
      omega

/-- Pieces without the separator are determined by the text that joins them. -/
theorem intercalate_injective {separator : α} {pieces pieces' : List (List α)}
    (hne : pieces ≠ []) (hne' : pieces' ≠ []) (h : ∀ piece ∈ pieces, separator ∉ piece)
    (h' : ∀ piece ∈ pieces', separator ∉ piece)
    (heq : [separator].intercalate pieces = [separator].intercalate pieces') :
    pieces = pieces' := by
  rw [← List.splitOn_intercalate separator h hne, heq, List.splitOn_intercalate separator h' hne']

/-! ### Records -/

omit [DecidableEq α] in
/-- Records of one length, written one after the other, need no separator between them. -/
theorem map_eq_of_flatMap_eq {ρ : Type*} {write : ρ → List α} {n : ℕ} (hn : 0 < n)
    (hlength : ∀ record, (write record).length = n) {records records' : List ρ}
    (h : records.flatMap write = records'.flatMap write) :
    records.map write = records'.map write := by
  have hnil : ∀ record rest, write record ++ rest ≠ [] := by
    intro record rest
    exact List.append_ne_nil_of_left_ne_nil (List.ne_nil_of_length_pos (hlength record ▸ hn)) _
  induction records generalizing records' with
  | nil =>
    cases records' with
    | nil => rfl
    | cons record records' => exact absurd h.symm (hnil record _)
  | cons record records ih =>
    cases records' with
    | nil => exact absurd h (hnil record _)
    | cons record' records' =>
      rw [List.flatMap_cons, List.flatMap_cons] at h
      have hsame : (write record).length = (write record').length := by
        rw [hlength, hlength]
      obtain ⟨hhead, htail⟩ := List.append_inj h hsame
      rw [List.map_cons, List.map_cons, hhead, ih htail]

/-! ### Fields -/

/-- The two parts of a list around an element. -/
def cutAt (a : α) (l : List α) : List α × List α :=
  (l.takeWhile (· ≠ a), (l.dropWhile (· ≠ a)).drop 1)

def joinFields (separator equals : α) (fields : List (List α × List α)) : List α :=
  [separator].intercalate (fields.map fun field ↦ field.1 ++ equals :: field.2)

def splitFields (separator equals : α) (text : List α) : List (List α × List α) :=
  (text.splitOn separator).map (cutAt equals)

theorem cutAt_of_notMem {a : α} {before : List α} (h : a ∉ before) (after : List α) :
    cutAt a (before ++ a :: after) = (before, after) := by
  obtain ⟨htake, hdrop⟩ := takeWhile_dropWhile_of_notMem h after
  rw [cutAt, htake, hdrop]
  rfl

theorem cutAt_self {a : α} {l : List α} (h : a ∉ l) : cutAt a l = (l, []) := by
  obtain ⟨htake, hdrop⟩ := takeWhile_dropWhile_self h
  rw [cutAt, htake, hdrop]
  rfl

theorem splitFields_joinFields_iff {separator equals : α} (hne : separator ≠ equals)
    {fields : List (List α × List α)} (hfields : fields ≠ [])
    (hkeys : ∀ field ∈ fields, separator ∉ field.1 ∧ equals ∉ field.1) :
    splitFields separator equals (joinFields separator equals fields) = fields ↔
      ∀ field ∈ fields, separator ∉ field.2 := by
  set pieces := fields.map fun field ↦ field.1 ++ equals :: field.2 with hpieces
  have hnonempty : pieces ≠ [] := mt List.map_eq_nil_iff.mp hfields
  constructor
  · intro h field hfield
    have hlength := congrArg List.length h
    have hcount := count_intercalate separator hnonempty
    rw [splitFields, List.length_map, length_splitOn, joinFields, ← hpieces, hcount, hpieces,
      List.length_map] at hlength
    have hnone : ∀ n ∈ pieces.map fun piece ↦ piece.count separator, n = 0 :=
      List.sum_eq_zero_iff_forall_eq_nat.mp (by rw [hpieces]; omega)
    have hpiece : field.1 ++ equals :: field.2 ∈ pieces :=
      List.mem_map_of_mem (f := fun field ↦ field.1 ++ equals :: field.2) hfield
    have hzero := List.count_eq_zero.mp (hnone _ (List.mem_map_of_mem hpiece))
    exact fun hmem ↦ hzero (List.mem_append_right _ (List.mem_cons_of_mem _ hmem))
  · intro h
    have hsplit : ([separator].intercalate pieces).splitOn separator = pieces := by
      refine List.splitOn_intercalate separator (fun piece hpiece ↦ ?_) hnonempty
      obtain ⟨field, hfield, rfl⟩ := List.mem_map.mp hpiece
      simp only [List.mem_append, List.mem_cons, not_or]
      exact ⟨(hkeys field hfield).1, hne, h field hfield⟩
    rw [splitFields, joinFields, ← hpieces, hsplit, hpieces, List.map_map]
    refine (List.map_congr_left fun field hfield ↦ ?_).trans (List.map_id fields)
    exact cutAt_of_notMem (hkeys field hfield).2 field.2

end YandexPay.Delimited
