import YandexPay.Library.Dict
import YandexPay.Library.JsValue
import Mathlib.Data.Rat.Defs
import Mathlib.Data.List.TakeDrop

/-!
# The pickup points that were loaded

`parsePickupPoints` merges newly loaded points into those of the store, the old ones in front, and
cuts the front off so that no more than 2000 remain. The cut is `slice` with the count of new points
less the limit: a negative index counts from the end, while from 2000 new points on it counts from
the front and keeps what should go. Which old points are superseded is looked up in an object, which
has more keys than were written to it, and was not given the empty one.

`merged_iff` says for which points the merge is right.
-/

set_option autoImplicit false
set_option relaxedAutoImplicit false

namespace YandexPay.CheckoutForm

structure MapPoint where
  latitude : ℚ
  longitude : ℚ
  deriving DecidableEq

/-- A point, with what else the merchant has sent of it. -/
structure PickupPoint (Info : Type) where
  id : String
  coordinates : Option MapPoint
  info : Info
  deriving DecidableEq

variable {Info : Type}

def maxPointsLength : ℕ := 2000

/-- `arrayToObj(list, 'id', 'id')`: the own properties. No key is written for an empty id, and a
text that is assigned to `__proto__` is lost. -/
def arrayToObj (list : List (PickupPoint Info)) : Dict String String :=
  list.foldl (fun obj point ↦
    if point.id = "" ∨ point.id = "__proto__" then obj else obj.set point.id point.id) Dict.empty

/-- `Boolean(obj[key])`, with the properties that are inherited. -/
def truthyAt (obj : Dict String String) (key : String) : Bool :=
  match obj.get? key with
  | some value => value ≠ ""
  | none => key ∈ objectPrototypeKeys

/-- `list.slice(start)` -/
def slice {α : Type} (list : List α) (start : ℤ) : List α :=
  list.drop (if start < 0 then (list.length + start).toNat else start.toNat)

def parsePickupPoints (allOldPoints allNewPoints : List (PickupPoint Info)) :
    List (PickupPoint Info) :=
  let newPoints := allNewPoints.filter fun point ↦ point.coordinates.isSome
  let newPointsIdsMap := arrayToObj newPoints
  let oldPoints := slice (allOldPoints.filter fun point ↦ !truthyAt newPointsIdsMap point.id)
    (newPoints.length - maxPointsLength)
  oldPoints ++ newPoints

/-! ### What is asked of the merge -/

def ids (points : List (PickupPoint Info)) : List String := points.map PickupPoint.id

/-- The old points that no new point replaces. -/
def candidates (oldPoints newPoints : List (PickupPoint Info)) : List (PickupPoint Info) :=
  oldPoints.filter fun point ↦ point.id ∉ ids newPoints

/-- Every id occurs once, the new points are there, and so are the old ones that are not replaced,
except for the oldest, each of which is one too many. -/
structure Merged (oldPoints newPoints result : List (PickupPoint Info)) : Prop where
  nodup : (ids result).Nodup
  new : newPoints ⊆ result
  old : ∃ dropped,
    (∀ point, point ∈ result ↔
      point ∈ (candidates oldPoints newPoints).drop dropped ∨ point ∈ newPoints) ∧
    (0 < dropped →
      maxPointsLength < (candidates oldPoints newPoints).length - (dropped - 1) + newPoints.length)
  length : result.length ≤ max maxPointsLength newPoints.length

/-- An old point that is taken for replaced, since its id is a key of every object, or that is
not, since its id is empty. -/
def Misread (newPoints : List (PickupPoint Info)) (point : PickupPoint Info) : Prop :=
  (point.id ∉ ids newPoints ∧ point.id ∈ objectPrototypeKeys) ∨
    (point.id = "" ∧ "" ∈ ids newPoints)

/-- The old points that the lookup lets pass. -/
def passing (oldPoints newPoints : List (PickupPoint Info)) : List (PickupPoint Info) :=
  oldPoints.filter fun point ↦
    (point.id ∉ ids newPoints ∨ point.id = "") ∧ point.id ∉ objectPrototypeKeys

/-- Below the limit of new points, every point that is misread is one of those to drop; from there
on, no more old points pass than the index cuts off. -/
def MergesRight (oldPoints newPoints : List (PickupPoint Info)) : Prop :=
  (newPoints.length < maxPointsLength ∧ ∀ before point after,
    oldPoints = before ++ point :: after → Misread newPoints point →
      maxPointsLength ≤ newPoints.length + (candidates after newPoints).length) ∨
  (maxPointsLength ≤ newPoints.length ∧
    (passing oldPoints newPoints).length ≤ newPoints.length - maxPointsLength)

/-! ### The lookup -/

theorem get?_arrayToObj (list : List (PickupPoint Info)) (key : String) :
    (arrayToObj list).get? key =
      if key ∈ ids list ∧ key ≠ "" ∧ key ≠ "__proto__" then some key else none := by
  induction list using List.reverseRecOn with
  | nil => rfl
  | append_singleton list point ih =>
    rw [arrayToObj, List.foldl_append, List.foldl_cons, List.foldl_nil, ← arrayToObj]
    by_cases hskip : point.id = "" ∨ point.id = "__proto__"
    · rw [if_pos hskip, ih]
      congr 1
      rw [ids, ids, List.map_append, List.map_singleton, List.mem_append, List.mem_singleton]
      grind
    · rw [if_neg hskip, Dict.get?_set, ih, ids, ids, List.map_append, List.map_singleton]
      by_cases hkey : key = point.id
      · grind
      · grind

theorem truthyAt_arrayToObj (list : List (PickupPoint Info)) (key : String) :
    truthyAt (arrayToObj list) key = true ↔
      (key ∈ ids list ∧ key ≠ "") ∨ key ∈ objectPrototypeKeys := by
  have hproto : "__proto__" ∈ objectPrototypeKeys := by decide
  rw [truthyAt, get?_arrayToObj]
  by_cases hown : key ∈ ids list ∧ key ≠ "" ∧ key ≠ "__proto__"
  · rw [if_pos hown]
    simp [hown.1, hown.2.1]
  · rw [if_neg hown]
    have hinherited : key ∈ ids list → key ≠ "" → key ∈ objectPrototypeKeys := by
      intro hmem hne
      have heq : key = "__proto__" := by
        by_contra hproto
        exact hown ⟨hmem, hne, hproto⟩
      exact heq ▸ hproto
    simp only [decide_eq_true_eq]
    exact ⟨Or.inr, fun h ↦ h.elim (fun h ↦ hinherited h.1 h.2) id⟩

/-- What the lookup lets pass, cut by the index. -/
theorem parsePickupPoints_eq (oldPoints : List (PickupPoint Info))
    {newPoints : List (PickupPoint Info)}
    (hcoordinates : ∀ point ∈ newPoints, point.coordinates.isSome) :
    parsePickupPoints oldPoints newPoints =
      slice (passing oldPoints newPoints) (newPoints.length - maxPointsLength) ++ newPoints := by
  have hall : (newPoints.filter fun point ↦ point.coordinates.isSome) = newPoints :=
    List.filter_eq_self.mpr hcoordinates
  have hpass : (oldPoints.filter fun point ↦ !truthyAt (arrayToObj newPoints) point.id) =
      passing oldPoints newPoints := by
    refine List.filter_congr fun point _ ↦ ?_
    rw [Bool.eq_iff_iff, Bool.not_eq_true', ← Bool.not_eq_true, truthyAt_arrayToObj,
      decide_eq_true_eq, not_or, not_and_or, not_not]
  rw [parsePickupPoints, hall, hpass]

/-! ### Cutting filtered lists -/

section

variable {α : Type} {p q : α → Bool}

theorem forall_split_cons {a : α} {l : List α} {P : List α → α → Prop} :
    (∀ before x after, a :: l = before ++ x :: after → P before x) ↔
      P [] a ∧ ∀ before x after, l = before ++ x :: after → P (a :: before) x := by
  constructor
  · exact fun h ↦ ⟨h [] a l rfl, fun before x after heq ↦
      h (a :: before) x after (congrArg (List.cons a) heq)⟩
  · rintro ⟨hfirst, hrest⟩ before x after heq
    cases before with
    | nil =>
      obtain ⟨rfl, -⟩ := List.cons.inj heq
      exact hfirst
    | cons b before =>
      obtain ⟨rfl, htail⟩ := List.cons.inj heq
      exact hrest before x after htail

/-- An element that only one filter keeps tells their results apart. -/
theorem take_filter_cons_ne {a : α} {l : List α} (hnew : a ∉ l) (hp : p a = true)
    (hq : q a = false) (m : ℕ) :
    ((a :: l).filter p).take (m + 1) ≠ ((a :: l).filter q).take (m + 1) := by
  rw [List.filter_cons_of_pos hp, List.filter_cons_of_neg (by simp [hq]), List.take_succ_cons]
  intro h
  have hmem : a ∈ (l.filter q).take (m + 1) := h ▸ List.mem_cons_self
  exact hnew (List.mem_filter.mp (List.mem_of_mem_take hmem)).1

/-- Two filters leave the same in front exactly if they differ only on what is behind it. -/
theorem take_filter_eq_iff {l : List α} (hnodup : l.Nodup) (m : ℕ) :
    (l.filter p).take m = (l.filter q).take m ↔
      ∀ before a after, l = before ++ a :: after → p a ≠ q a → m ≤ (before.filter p).length := by
  induction l generalizing m with
  | nil => simp
  | cons a l ih =>
    obtain ⟨hnew, hnodup⟩ := List.nodup_cons.mp hnodup
    rw [forall_split_cons (P := fun before a ↦ p a ≠ q a → m ≤ (before.filter p).length)]
    cases m with
    | zero => simp
    | succ m =>
      cases hp : p a with
      | true =>
        cases hq : q a with
        | true =>
          rw [List.filter_cons_of_pos hp, List.filter_cons_of_pos hq, List.take_succ_cons,
            List.take_succ_cons, List.cons.injEq, ih hnodup m]
          simp [List.filter_cons_of_pos hp]
        | false =>
          refine iff_of_false (take_filter_cons_ne hnew hp hq m) fun h ↦ ?_
          exact absurd (h.1 (by decide)) (Nat.not_succ_le_zero m)
      | false =>
        have hnot : ¬ p a = true := by simp [hp]
        cases hq : q a with
        | true =>
          refine iff_of_false (take_filter_cons_ne hnew hq hp m).symm fun h ↦ ?_
          exact absurd (h.1 (by decide)) (Nat.not_succ_le_zero m)
        | false =>
          rw [List.filter_cons_of_neg hnot, List.filter_cons_of_neg (by simp [hq]), ih hnodup]
          simp [List.filter_cons_of_neg hnot]

/-- The same for what they leave at the end. -/
theorem drop_filter_eq_iff {l : List α} (hnodup : l.Nodup) (m : ℕ) :
    (l.filter p).drop ((l.filter p).length - m) = (l.filter q).drop ((l.filter q).length - m) ↔
      ∀ before a after, l = before ++ a :: after → p a ≠ q a → m ≤ (after.filter p).length := by
  rw [← List.reverse_inj, ← List.take_reverse, ← List.take_reverse, ← List.filter_reverse,
    ← List.filter_reverse, take_filter_eq_iff (List.nodup_reverse.mpr hnodup)]
  constructor
  · intro h before a after heq hne
    have hlength := h after.reverse a before.reverse (by rw [heq]; simp) hne
    rwa [List.filter_reverse, List.length_reverse] at hlength
  · intro h before a after heq hne
    have hlength := h after.reverse a before.reverse
      (by rw [← List.reverse_inj, heq]; simp) hne
    rwa [List.filter_reverse, List.length_reverse] at hlength

/-- A part of a list without duplicates is given by its elements. -/
theorem filter_mem_eq [DecidableEq α] {l l' : List α} (hnodup : l.Nodup) (h : l'.Sublist l) :
    l.filter (· ∈ l') = l' := by
  induction h with
  | slnil => rfl
  | @cons l' l a h ih =>
    obtain ⟨hnew, hnodup⟩ := List.nodup_cons.mp hnodup
    rw [List.filter_cons_of_neg, ih hnodup]
    simpa using fun hmem ↦ hnew (h.subset hmem)
  | @cons_cons l' l a h ih =>
    obtain ⟨hnew, hnodup⟩ := List.nodup_cons.mp hnodup
    rw [List.filter_cons_of_pos (by simp)]
    congr 1
    refine Eq.trans (List.filter_congr fun b hb ↦ ?_) (ih hnodup)
    have hne : b ≠ a := fun heq ↦ hnew (heq ▸ hb)
    simp [hne]

theorem eq_of_sublist_of_mem_iff {l a b : List α} (hnodup : l.Nodup) (ha : a.Sublist l)
    (hb : b.Sublist l) (h : ∀ x, x ∈ a ↔ x ∈ b) : a = b := by
  classical
  rw [← filter_mem_eq hnodup ha, ← filter_mem_eq hnodup hb]
  exact List.filter_congr fun x _ ↦ decide_eq_decide.mpr (h x)

/-- A negative index counts from the end. -/
theorem slice_of_lt (list : List α) {n limit : ℕ} (h : n < limit) :
    slice list (n - limit) = list.drop (list.length - (limit - n)) := by
  unfold slice
  rw [if_pos (by omega)]
  congr 1
  omega

theorem slice_of_le (list : List α) {n limit : ℕ} (h : limit ≤ n) :
    slice list (n - limit) = list.drop (n - limit) := by
  unfold slice
  rw [if_neg (by omega)]
  congr 1
  omega

end

/-! ### When the merge is right -/

section

variable {oldPoints newPoints : List (PickupPoint Info)}

theorem notMem_of_mem_candidates {point : PickupPoint Info}
    (h : point ∈ candidates oldPoints newPoints) : point ∉ newPoints :=
  fun hmem ↦ of_decide_eq_true (List.mem_filter.mp h).2 (List.mem_map_of_mem hmem)

/-- Old points that are not replaced and the new ones have different ids. -/
theorem nodup_ids_append (hold : (ids oldPoints).Nodup) (hnew : (ids newPoints).Nodup)
    {kept : List (PickupPoint Info)} (hkept : kept.Sublist (candidates oldPoints newPoints)) :
    (ids (kept ++ newPoints)).Nodup := by
  rw [ids, List.map_append, List.nodup_append]
  refine ⟨hold.sublist ((hkept.trans List.filter_sublist).map _), hnew, ?_⟩
  intro id hid id' hid' heq
  obtain ⟨point, hpoint, rfl⟩ := List.mem_map.mp hid
  exact of_decide_eq_true (List.mem_filter.mp (hkept.subset hpoint)).2 (heq ▸ hid')

/-- The old points of a right merge are the end of the candidates. -/
theorem Merged.kept_eq (hold : (ids oldPoints).Nodup) {kept : List (PickupPoint Info)}
    (hkept : kept.Sublist oldPoints) (h : Merged oldPoints newPoints (kept ++ newPoints)) :
    ∃ dropped, kept = (candidates oldPoints newPoints).drop dropped ∧
      (0 < dropped → maxPointsLength <
        (candidates oldPoints newPoints).length - (dropped - 1) + newPoints.length) := by
  obtain ⟨dropped, hmem, hneeded⟩ := h.old
  refine ⟨dropped, ?_, hneeded⟩
  refine eq_of_sublist_of_mem_iff (List.Nodup.of_map _ hold) hkept
    ((List.drop_sublist _ _).trans List.filter_sublist)
    fun point ↦ ⟨fun hpoint ↦ ?_, fun hpoint ↦ ?_⟩
  · rcases (hmem point).mp (List.mem_append_left _ hpoint) with hdrop | hnew
    · exact hdrop
    · have hnodup := List.Nodup.of_map _ h.nodup
      exact absurd hnew (List.disjoint_of_nodup_append hnodup hpoint)
  · rcases List.mem_append.mp ((hmem point).mpr (Or.inl hpoint)) with hmem | hmem
    · exact hmem
    · exact absurd hmem (notMem_of_mem_candidates (List.mem_of_mem_drop hpoint))

/-- Below the limit of new points the old ones fill up what is left of it. -/
theorem merged_iff_of_lt (hold : (ids oldPoints).Nodup) (hnew : (ids newPoints).Nodup)
    (hlt : newPoints.length < maxPointsLength) {kept : List (PickupPoint Info)}
    (hkept : kept.Sublist oldPoints) :
    Merged oldPoints newPoints (kept ++ newPoints) ↔
      kept = (candidates oldPoints newPoints).drop
        ((candidates oldPoints newPoints).length - (maxPointsLength - newPoints.length)) := by
  constructor
  · intro h
    obtain ⟨dropped, rfl, hneeded⟩ := h.kept_eq hold hkept
    have hlength := h.length
    rw [List.length_append, List.length_drop, max_eq_left hlt.le] at hlength
    congr 1
    by_cases hzero : dropped = 0
    · omega
    · have := hneeded (Nat.pos_of_ne_zero hzero)
      omega
  · rintro rfl
    refine ⟨nodup_ids_append hold hnew (List.drop_sublist _ _), List.subset_append_right _ _,
      ⟨_, fun point ↦ List.mem_append, fun hpos ↦ ?_⟩, ?_⟩
    · omega
    · rw [List.length_append, List.length_drop, max_eq_left hlt.le]
      omega

/-- From the limit on no old point is kept. -/
theorem merged_iff_of_le (hold : (ids oldPoints).Nodup) (hnew : (ids newPoints).Nodup)
    (hle : maxPointsLength ≤ newPoints.length) {kept : List (PickupPoint Info)} :
    Merged oldPoints newPoints (kept ++ newPoints) ↔ kept = [] := by
  constructor
  · intro h
    have hlength := h.length
    rw [List.length_append, max_eq_right hle] at hlength
    exact List.length_eq_zero_iff.mp (by omega)
  · rintro rfl
    refine ⟨nodup_ids_append hold hnew (List.nil_sublist _), List.subset_append_right _ _,
      ⟨(candidates oldPoints newPoints).length, fun point ↦ ?_, fun hpos ↦ ?_⟩, ?_⟩
    · rw [List.drop_length, List.mem_append]
    · omega
    · rw [List.nil_append, max_eq_right hle]

theorem misread_iff (point : PickupPoint Info) :
    Misread newPoints point ↔ decide (point.id ∉ ids newPoints) ≠
      decide ((point.id ∉ ids newPoints ∨ point.id = "") ∧ point.id ∉ objectPrototypeKeys) := by
  have hempty : "" ∉ objectPrototypeKeys := by decide
  unfold Misread
  by_cases hid : point.id = ""
  · rw [hid]
    simp [hempty]
  · simp [hid]

/-- The merge is right exactly if, below the limit of new points, every point that is misread is
one to drop, and from there on no more old points pass than the index cuts off. -/
theorem merged_iff (oldPoints newPoints : List (PickupPoint Info)) (hold : (ids oldPoints).Nodup)
    (hnew : (ids newPoints).Nodup) (hcoordinates : ∀ point ∈ newPoints, point.coordinates.isSome) :
    Merged oldPoints newPoints (parsePickupPoints oldPoints newPoints) ↔
      MergesRight oldPoints newPoints := by
  have hpassing : (passing oldPoints newPoints).Sublist oldPoints := List.filter_sublist
  rw [parsePickupPoints_eq oldPoints hcoordinates, MergesRight]
  by_cases hlt : newPoints.length < maxPointsLength
  · rw [slice_of_lt _ hlt, merged_iff_of_lt hold hnew hlt ((List.drop_sublist _ _).trans hpassing),
      eq_comm, candidates, passing, drop_filter_eq_iff (List.Nodup.of_map _ hold)]
    simp only [hlt, true_and, not_le.mpr hlt, false_and, or_false, misread_iff, candidates,
      Nat.sub_le_iff_le_add']
  · rw [not_lt] at hlt
    rw [slice_of_le _ hlt, merged_iff_of_le hold hnew hlt, List.drop_eq_nil_iff]
    simp only [hlt, not_lt.mpr hlt, false_and, true_and, false_or]

end

/-! ### Points that are merged, and points that are not -/

def samplePoint (id : String) : PickupPoint Unit := ⟨id, some ⟨55, 37⟩, ()⟩

theorem merged_iff_witness :
    Merged [samplePoint "a", samplePoint "b"] [samplePoint "b", samplePoint "c"]
        (parsePickupPoints [samplePoint "a", samplePoint "b"] [samplePoint "b", samplePoint "c"]) ↔
      MergesRight [samplePoint "a", samplePoint "b"] [samplePoint "b", samplePoint "c"] :=
  merged_iff _ _ (by decide) (by decide) (by decide)

/-- As many new points as the limit allows. -/
def limitPoints : List (PickupPoint Unit) :=
  (List.range maxPointsLength).map fun n ↦
    samplePoint (String.ofList (List.replicate (n + 1) 'n'))

theorem length_limitPoints : limitPoints.length = maxPointsLength := by
  rw [limitPoints, List.length_map, List.length_range]

theorem old_notMem_limitPoints : "old" ∉ ids limitPoints := by
  rw [ids, limitPoints, List.map_map, List.mem_map]
  rintro ⟨n, -, heq⟩
  have hmem : 'o' ∈ (String.ofList (List.replicate (n + 1) 'n')).toList := by
    rw [show String.ofList (List.replicate (n + 1) 'n') = "old" from heq]
    decide
  rw [String.toList_ofList] at hmem
  exact absurd (List.eq_of_mem_replicate hmem) (by decide)

/-- An old point is kept beside 2000 new ones, and a point is lost whose id is a key of every
object. -/
theorem merges_wrong :
    ¬ Merged [samplePoint "old"] limitPoints (parsePickupPoints [samplePoint "old"] limitPoints) ∧
      ¬ Merged [samplePoint "constructor"] [samplePoint "new"]
        (parsePickupPoints [samplePoint "constructor"] [samplePoint "new"]) := by
  constructor
  · have hcoordinates : ∀ point ∈ limitPoints, point.coordinates.isSome := by
      intro point hpoint
      obtain ⟨n, -, rfl⟩ := List.mem_map.mp hpoint
      rfl
    have hpassing : passing [samplePoint "old"] limitPoints = [samplePoint "old"] := by
      refine List.filter_eq_self.mpr (List.forall_mem_singleton.mpr (decide_eq_true ?_))
      exact ⟨Or.inl old_notMem_limitPoints, by decide⟩
    intro h
    have hlength := h.length
    rw [parsePickupPoints_eq _ hcoordinates, hpassing,
      slice_of_le _ length_limitPoints.ge, length_limitPoints, Nat.sub_self, List.drop_zero,
      List.length_append, length_limitPoints, max_self] at hlength
    exact absurd hlength (by simp)
  · intro h
    have hlost : samplePoint "constructor" ∉
        parsePickupPoints [samplePoint "constructor"] [samplePoint "new"] := by decide
    obtain ⟨dropped, hmem, hneeded⟩ := h.old
    by_cases hzero : dropped = 0
    · subst hzero
      exact hlost ((hmem _).mpr (Or.inl (by decide)))
    · have hexceeds := hneeded (Nat.pos_of_ne_zero hzero)
      have hone : (candidates [samplePoint "constructor"] [samplePoint "new"]).length = 1 := by
        decide
      rw [hone, maxPointsLength, List.length_singleton] at hexceeds
      omega

end YandexPay.CheckoutForm
