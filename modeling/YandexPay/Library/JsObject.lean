import YandexPay.Library.Dict
import YandexPay.Library.JsUri
import YandexPay.Library.StableSort

/-!
# Plain objects of JavaScript

The own properties of an object are a dictionary in the order of their creation. `entries` lists
those whose key is an array index first, in ascending order. An assignment to `__proto__` of a
value that is no object creates no property. `spread` is `{...o, ...o'}`.
-/

set_option autoImplicit false
set_option relaxedAutoImplicit false

namespace YandexPay.JsObject

open JsUri

variable {ν : Type*}

/-- The number that a key writes as an array index does: in decimal, without leading zeros, up to
`2 ^ 32 - 2`. -/
def arrayIndex? (key : Text) : Option ℕ :=
  let value := key.foldl (fun n u ↦ n * 10 + (u.toNat - 48)) 0
  if key ≠ [] ∧ (key.all fun u ↦ 48 ≤ u ∧ u ≤ 57) ∧ (key = [48] ∨ key.head? ≠ some 48) ∧
      value < 4294967295 then some value
  else none

/-- The place of a key among the own keys; all that are no array index share the last one. -/
def rank (key : Text) : ℕ := (arrayIndex? key).getD 4294967295

/-- `Object.entries(o)` -/
def entries (o : Dict Text ν) : List (Text × ν) := sortBy (fun p ↦ rank p.1) o.items

def proto : Text := text "__proto__"

/-- `o[key] = value` for a value that is no object. -/
def assign (o : Dict Text ν) (key : Text) (value : ν) : Dict Text ν :=
  if key = proto then o else o.set key value

/-- The object that assignments to `{}` build. -/
def assignAll (pairs : List (Text × ν)) : Dict Text ν :=
  pairs.foldl (fun o p ↦ assign o p.1 p.2) Dict.empty

/-- `{...o, ...o'}` -/
def spread (o o' : Dict Text ν) : Dict Text ν := Dict.ofList (entries o ++ entries o')

example : entries (assignAll [(text "b", 1), (text "10", 2), (text "a", 3), (text "9", 4),
    (text "b", 5), (text "__proto__", 6), (text "09", 7)]) =
    [(text "9", 4), (text "10", 2), (text "b", 5), (text "a", 3), (text "09", 7)] := by
  decide +kernel

theorem assignAll_eq (pairs : List (Text × ν)) :
    assignAll pairs = Dict.ofList (pairs.filter fun p ↦ p.1 ≠ proto) := by
  rw [assignAll, Dict.ofList, List.foldl_filter]
  refine congrArg (fun f ↦ pairs.foldl f Dict.empty) (funext fun o ↦ funext fun p ↦ ?_)
  unfold assign
  by_cases hp : p.1 = proto
  · simp [hp]
  · simp [hp]

theorem mem_entries {o : Dict Text ν} {p : Text × ν} : p ∈ entries o ↔ p ∈ o.items := mem_sortBy _

theorem nodup_entries (o : Dict Text ν) : ((entries o).map Prod.fst).Nodup :=
  ((sortBy_perm _ o.items).map Prod.fst).nodup_iff.mpr o.nodup

theorem sortedBy_entries (o : Dict Text ν) : SortedBy (fun p ↦ rank p.1) (entries o) :=
  sortedBy_sortBy _ _

theorem filter_entries_assignAll (keep : Text → Bool) (pairs : List (Text × ν)) :
    (entries (assignAll pairs)).filter (fun p ↦ keep p.1) =
      entries (assignAll (pairs.filter fun p ↦ keep p.1)) := by
  rw [entries, filter_sortBy, assignAll_eq, Dict.filter_items_ofList, entries, assignAll_eq,
    List.filter_comm]

theorem mem_of_mem_entries_assignAll {pairs : List (Text × ν)} {p : Text × ν}
    (hp : p ∈ entries (assignAll pairs)) : p ∈ pairs ∧ p.1 ≠ proto := by
  rw [mem_entries, assignAll_eq] at hp
  have hmem := Dict.mem_of_mem_ofList hp
  exact ⟨List.mem_of_mem_filter hmem, of_decide_eq_true (List.mem_filter.mp hmem).2⟩

/-- Keys that an object lists in the order in which they are assigned, each once. -/
structure InKeyOrder (keys : List Text) : Prop where
  nodup : keys.Nodup
  proto_notMem : proto ∉ keys
  sorted : SortedBy rank keys

theorem items_assignAll {pairs : List (Text × ν)} (hnodup : (pairs.map Prod.fst).Nodup)
    (hproto : proto ∉ pairs.map Prod.fst) : (assignAll pairs).items = pairs := by
  have hfilter : (pairs.filter fun p ↦ p.1 ≠ proto) = pairs := by
    refine List.filter_eq_self.mpr fun p hp ↦ decide_eq_true fun heq ↦ hproto ?_
    exact heq ▸ List.mem_map_of_mem hp
  rw [assignAll_eq, hfilter, Dict.items_ofList hnodup]

theorem entries_assignAll {pairs : List (Text × ν)} (h : InKeyOrder (pairs.map Prod.fst)) :
    entries (assignAll pairs) = pairs := by
  rw [entries, items_assignAll h.nodup h.proto_notMem]
  exact (sortedBy_map.mp h.sorted).sortBy_eq

/-- Keys that are no array indices are listed in the order of their creation. -/
theorem entries_of_arrayIndex?_eq_none {o : Dict Text ν}
    (h : ∀ p ∈ o.items, arrayIndex? p.1 = none) : entries o = o.items := by
  refine SortedBy.sortBy_eq (List.pairwise_of_forall_mem_list fun p hp q hq ↦ ?_)
  have hrank : rank p.1 = rank q.1 := by
    unfold rank
    rw [h p hp, h q hq]
  exact hrank.le

theorem inKeyOrder_of_entries_assignAll {pairs : List (Text × ν)}
    (h : (entries (assignAll pairs)).map Prod.fst = pairs.map Prod.fst) :
    InKeyOrder (pairs.map Prod.fst) := by
  rw [← h]
  refine ⟨nodup_entries _, fun hmem ↦ ?_, sortedBy_map.mpr (sortedBy_entries _)⟩
  obtain ⟨p, hp, hproto⟩ := List.mem_map.mp hmem
  exact (mem_of_mem_entries_assignAll hp).2 hproto

/-- The entries of some keys, when the other object has none of them. -/
theorem filter_entries_spread (keep : Text → Bool) {o o' : Dict Text ν}
    (hkeep : ∀ p ∈ o'.items, keep p.1 = false) :
    (entries (spread o o')).filter (fun p ↦ keep p.1) =
      (entries o).filter fun p ↦ keep p.1 := by
  have hnone : (entries o').filter (fun p ↦ keep p.1) = [] := by
    refine List.filter_eq_nil_iff.mpr fun p hp ↦ ?_
    rw [hkeep p (mem_entries.mp hp)]
    exact Bool.false_ne_true
  have hnodup : (((entries o).filter fun p ↦ keep p.1).map Prod.fst).Nodup :=
    (nodup_entries o).sublist (List.filter_sublist.map Prod.fst)
  have hitems : (spread o o').items.filter (fun p ↦ keep p.1) =
      (entries o).filter fun p ↦ keep p.1 := by
    rw [spread, Dict.filter_items_ofList, List.filter_append, hnone, List.append_nil,
      Dict.items_ofList hnodup]
  rw [entries, filter_sortBy, hitems]
  exact ((sortedBy_entries o).filter _).sortBy_eq

theorem mem_of_mem_entries_spread {o o' : Dict Text ν} {p : Text × ν}
    (hp : p ∈ entries (spread o o')) : p ∈ o.items ∨ p ∈ o'.items := by
  rcases List.mem_append.mp (Dict.mem_of_mem_ofList (mem_entries.mp hp)) with h | h
  · exact Or.inl (mem_entries.mp h)
  · exact Or.inr (mem_entries.mp h)

theorem get?_assignAll {pairs : List (Text × ν)} (h : (pairs.map Prod.fst).Nodup) {key : Text}
    (hkey : key ≠ proto) {value : ν} :
    (assignAll pairs).get? key = some value ↔ (key, value) ∈ pairs := by
  have hnodup : ((pairs.filter fun p ↦ p.1 ≠ proto).map Prod.fst).Nodup :=
    h.sublist (List.filter_sublist.map Prod.fst)
  rw [Dict.get?_eq_some_iff, assignAll_eq, Dict.items_ofList hnodup, List.mem_filter]
  exact and_iff_left (decide_eq_true hkey)

/-- The properties of the later object win. -/
theorem filter_entries_spread_of_mem {o o' : Dict Text ν} {p : Text × ν} (hp : p ∈ o'.items) :
    (entries (spread o o')).filter (fun q ↦ q.1 = p.1) = [p] := by
  refine Dict.filter_key_eq (nodup_entries _) (mem_entries.mpr ?_)
  exact Dict.mem_ofList_append (nodup_entries o') (mem_entries.mpr hp)

end YandexPay.JsObject
