import YandexPay.Library.JsObject
import YandexPay.Library.MixedRadix
import YandexPay.Library.Traverse

/-!
# All combinations of the values of an object

`combine` creates as many objects as there are combinations and fills them key by key. The objects
fall into frames in which the values of the keys so far are the same, and each key divides the
frames into shorter ones. The number of combinations is a multiple of each frame, so that the
divisions are exact. An array has at most `2 ^ 32 - 1` elements. An assignment to `__proto__`
creates no property of the object itself, whatever the value.
-/

set_option autoImplicit false
set_option relaxedAutoImplicit false

namespace YandexPay.Combine

open JsUri JsObject MixedRadix

variable {V : Type}

inductive RangeError
  | invalidArrayLength
  deriving DecidableEq

def maxArrayLength : ℕ := 4294967295

/-- `Array.from({length}, make)` -/
def arrayFrom {α : Type} (length : ℕ) (make : Unit → α) : Except RangeError (List α) :=
  if length ≤ maxArrayLength then .ok (List.replicate length (make ()))
  else .error .invalidArrayLength

/-- `list.length || 1` -/
def lengthOr1 (list : List V) : ℕ := if list.length = 0 then 1 else list.length

/-- What the loop over the keys modifies. An absent value is `none`. -/
structure Filling (V : Type) where
  result : List (Dict Text (Option V))
  frame : ℕ

def fillKey (s : Filling V) (entry : Text × List V) : Filling V :=
  let frameItem := s.frame / lengthOr1 entry.2
  { result := s.result.mapIdx fun idx subObj ↦
      assign subObj entry.1 entry.2[idx % s.frame / frameItem]?
    frame := frameItem }

def combine (obj : Dict Text (List V)) : Except RangeError (List (Dict Text (Option V))) := do
  let entries := entries obj
  let combinations := entries.foldl (fun res entry ↦ res * lengthOr1 entry.2) 1
  let result ← arrayFrom combinations fun _ ↦ Dict.empty
  return (entries.foldl fillKey ⟨result, combinations⟩).result

example : (combine (assignAll [(text "keyA", ["A", "a"]), (text "keyB", ["B", "b"])])).map
      (fun result ↦ result.map Dict.items) =
    .ok [[(text "keyA", some "A"), (text "keyB", some "B")],
      [(text "keyA", some "A"), (text "keyB", some "b")],
      [(text "keyA", some "a"), (text "keyB", some "B")],
      [(text "keyA", some "a"), (text "keyB", some "b")]] := by
  decide +kernel

/-! ### The combinations -/

/-- How many positions there are for each key. -/
def lengths (items : List (Text × List V)) : List ℕ := items.map fun entry ↦ lengthOr1 entry.2

/-- The values at one position for each key. -/
def pick (items : List (Text × List V)) (positions : List ℕ) : List (Text × Option V) :=
  List.zipWith (fun entry i ↦ (entry.1, entry.2[i]?)) items positions

/-- The result has as many objects as there are combinations. These are the values at each choice
of one position for each key, once, in lexicographic order. -/
def Enumerates (obj : Dict Text (List V)) (result : List (Dict Text (Option V))) : Prop :=
  result.length = (lengths obj.items).prod ∧
    ∃ choices : List (List ℕ), result.map Dict.items = choices.map (pick obj.items) ∧
      (∀ c, c ∈ choices ↔ List.Forall₂ (· < ·) c (lengths obj.items)) ∧
      choices.Pairwise (· < ·)

theorem lengthOr1_pos (list : List V) : 0 < lengthOr1 list := by
  unfold lengthOr1
  split_ifs with h
  · exact Nat.one_pos
  · exact Nat.pos_of_ne_zero h

theorem lengths_cons (entry : Text × List V) (items : List (Text × List V)) :
    lengths (entry :: items) = lengthOr1 entry.2 :: lengths items := rfl

theorem map_fst_pick {items : List (Text × List V)} {positions : List ℕ}
    (h : items.length = positions.length) :
    (pick items positions).map Prod.fst = items.map Prod.fst := by
  induction items generalizing positions with
  | nil => rfl
  | cons entry items ih =>
    cases positions with
    | nil => exact absurd h (Nat.succ_ne_zero _)
    | cons i positions =>
      rw [pick, List.zipWith_cons_cons, List.map_cons, List.map_cons]
      exact congrArg _ (ih (Nat.succ.inj h))

theorem map_fst_pick_of_forall₂ {items : List (Text × List V)} {c : List ℕ}
    (hc : List.Forall₂ (· < ·) c (lengths items)) :
    (pick items c).map Prod.fst = items.map Prod.fst := by
  refine map_fst_pick ?_
  rw [hc.length_eq, lengths, List.length_map]

/-- Each object has all the keys. -/
theorem Enumerates.map_fst {obj : Dict Text (List V)} {result : List (Dict Text (Option V))}
    (h : Enumerates obj result) {o : Dict Text (Option V)} (ho : o ∈ result) :
    o.items.map Prod.fst = obj.items.map Prod.fst := by
  obtain ⟨-, choices, hitems, hmem, -⟩ := h
  have hpick : o.items ∈ choices.map (pick obj.items) := hitems ▸ List.mem_map_of_mem ho
  obtain ⟨c, hc, heq⟩ := List.mem_map.mp hpick
  rw [← heq, map_fst_pick_of_forall₂ ((hmem c).mp hc)]

/-! ### The loop over the keys -/

theorem combinations_eq (items : List (Text × List V)) :
    items.foldl (fun res entry ↦ res * lengthOr1 entry.2) 1 = (lengths items).prod := by
  rw [List.prod_eq_foldl, lengths, List.foldl_map]

/-- Each object gets the values at the digits of its index. -/
theorem foldl_fillKey (items : List (Text × List V)) (result : List (Dict Text (Option V))) :
    (items.foldl fillKey ⟨result, (lengths items).prod⟩).result =
      result.mapIdx fun idx subObj ↦
        (pick items (digits (lengths items) idx)).foldl (fun o p ↦ assign o p.1 p.2) subObj := by
  induction items generalizing result with
  | nil =>
    refine (List.mapIdx_eq_iff.mpr fun i ↦ ?_).symm
    exact (congrFun Option.map_id result[i]?).symm
  | cons entry items ih =>
    have hframe : (lengths (entry :: items)).prod / lengthOr1 entry.2 = (lengths items).prod := by
      rw [lengths_cons, List.prod_cons, Nat.mul_div_cancel_left _ (lengthOr1_pos _)]
    rw [List.foldl_cons, fillKey]
    simp only [hframe]
    rw [ih, List.mapIdx_mapIdx]
    rfl

theorem combine_of_gt {obj : Dict Text (List V)} (hentries : entries obj = obj.items)
    (h : maxArrayLength < (lengths obj.items).prod) :
    combine obj = .error .invalidArrayLength := by
  rw [combine]
  simp only [hentries, combinations_eq]
  rw [arrayFrom, if_neg (Nat.not_le.mpr h), error_bind]

theorem combine_of_le {obj : Dict Text (List V)} (hentries : entries obj = obj.items)
    (h : (lengths obj.items).prod ≤ maxArrayLength) :
    combine obj = .ok ((choices (lengths obj.items)).map fun c ↦
      assignAll (pick obj.items c)) := by
  rw [combine]
  simp only [hentries, combinations_eq]
  rw [arrayFrom, if_pos h, ok_bind, foldl_fillKey, ← map_digits_range, List.map_map]
  refine congrArg Except.ok (List.ext_getElem? fun i ↦ ?_)
  rw [List.getElem?_mapIdx, List.getElem?_map]
  by_cases hi : i < (lengths obj.items).prod
  · rw [List.getElem?_replicate_of_lt hi, List.getElem?_range hi]
    rfl
  · rw [List.getElem?_eq_none (by rw [List.length_replicate]; omega),
      List.getElem?_eq_none (by rw [List.length_range]; omega)]
    rfl

/-- The combinations are enumerated, unless there are more than an array can hold. -/
theorem combine_enumerates {V : Type} (obj : Dict Text (List V))
    (hkeys : ∀ key ∈ obj.items.map Prod.fst, arrayIndex? key = none)
    (hproto : proto ∉ obj.items.map Prod.fst) :
    if (lengths obj.items).prod ≤ maxArrayLength then
      ∃ result, combine obj = .ok result ∧ Enumerates obj result
    else combine obj = .error .invalidArrayLength := by
  have hentries : entries obj = obj.items :=
    entries_of_arrayIndex?_eq_none fun p hp ↦ hkeys _ (List.mem_map_of_mem hp)
  split_ifs with hle
  · refine ⟨_, combine_of_le hentries hle, ?_, choices (lengths obj.items), ?_,
      fun c ↦ mem_choices, pairwise_choices _⟩
    · rw [List.length_map, length_choices]
    · rw [List.map_map]
      refine List.map_congr_left fun c hc ↦ ?_
      have hfst := map_fst_pick_of_forall₂ (mem_choices.mp hc)
      exact items_assignAll (hfst ▸ obj.nodup) (hfst ▸ hproto)
  · exact combine_of_gt hentries (Nat.lt_of_not_le hle)

theorem combine_enumerates_witness :
    ∃ result, combine (Dict.ofList [(text "keyA", ["A", "a"]), (text "empty", []),
        (text "keyB", ["B", "b", "_"])]) = .ok result ∧
      Enumerates (Dict.ofList [(text "keyA", ["A", "a"]), (text "empty", []),
        (text "keyB", ["B", "b", "_"])]) result := by
  have h := combine_enumerates (Dict.ofList [(text "keyA", ["A", "a"]), (text "empty", []),
    (text "keyB", ["B", "b", "_"])]) (by decide +kernel) (by decide +kernel)
  rwa [if_pos (by decide +kernel)] at h

/-! ### Objects whose combinations are not enumerated -/

/-- As `JSON.parse` creates it. -/
def protoKey : Dict Text (List String) := Dict.ofList [(proto, ["A", "a"])]

/-- `{a: [0, 1], aa: [0, 1], …}` with 32 keys. -/
def manyKeys : Dict Text (List ℕ) :=
  Dict.ofList ((List.range 32).map fun i ↦ (List.replicate (i + 1) 97, [0, 1]))

/-- The values of one key are lost, or there are `2 ^ 32` combinations. -/
theorem combine_not_enumerates :
    ((∀ key ∈ protoKey.items.map Prod.fst, arrayIndex? key = none) ∧
      ¬ ∃ result, combine protoKey = .ok result ∧ Enumerates protoKey result) ∧
    (∀ key ∈ manyKeys.items.map Prod.fst, arrayIndex? key = none) ∧
      ¬ ∃ result, combine manyKeys = .ok result ∧ Enumerates manyKeys result := by
  have hmany : ∀ key ∈ manyKeys.items.map Prod.fst, arrayIndex? key = none := by decide +kernel
  refine ⟨⟨by decide +kernel, ?_⟩, hmany, ?_⟩
  · rintro ⟨result, hresult, h⟩
    have hempty : combine protoKey = .ok [Dict.empty, Dict.empty] := rfl
    obtain rfl := Except.ok.inj (hempty.symm.trans hresult)
    exact absurd (h.map_fst List.mem_cons_self) (by decide +kernel)
  · rintro ⟨result, hresult, -⟩
    have herror := combine_of_gt
      (entries_of_arrayIndex?_eq_none fun p hp ↦ hmany _ (List.mem_map_of_mem hp))
      (by decide +kernel)
    rw [herror] at hresult
    cases hresult

end YandexPay.Combine
