import YandexPay.CheckoutForm.PickupStore
import YandexPay.Library.Recent

/-!
# The list of the pickup points over a run

`Catalog` says what the store is for: all points that the merchant has sent, in their order, and the
one that the buyer has selected. `Shows` relates the store to it, and `list_eq_recent` has the list
for the 2000 most recent points of the catalog, whatever order the events come in.
-/

set_option autoImplicit false
set_option relaxedAutoImplicit false

namespace YandexPay.CheckoutForm

open Transition

variable {Contact Raw Bounds : Type}

/-! ### What the store is for -/

/-- All points that were sent, the last ones behind, and the point that the buyer has selected. -/
structure Catalog (Contact Raw : Type) where
  delivered : List (Point Contact Raw) := []
  selected : Option (Point Contact Raw) := none
  deriving DecidableEq

namespace Catalog

variable (c : Catalog Contact Raw)

def deliver (rawPoints : List (Point Contact Raw)) : Catalog Contact Raw :=
  { c with delivered := c.delivered ++ (pickupPointsList rawPoints).getD [] }

theorem deliver_nil : c.deliver [] = c := congrArg (Catalog.mk · c.selected) (List.append_nil _)

/-- Initial points are a new beginning. -/
def restart (rawPoints : List (Point Contact Raw)) : Catalog Contact Raw :=
  match pickupPointsList rawPoints with
  | none | some [] => c
  | some points => { c with delivered := points }

def select (point : Point Contact Raw) : Catalog Contact Raw :=
  if c.selected.map PickupPoint.id = some point.id then c else { c with selected := some point }

/-- More data of a point changes it wherever it occurs, but only while it is the one selected. -/
def amend (point : Point Contact Raw) : Catalog Contact Raw :=
  if c.selected.map PickupPoint.id = some point.id then
    { delivered := Recent.revise PickupPoint.id point c.delivered, selected := some point }
  else c

def observe : StoreEvent Contact Raw Bounds → Catalog Contact Raw
  | .answered pickupPoints => c.deliver (pickupPoints.getD [])
  | .update pickupPoints => c.deliver pickupPoints
  | .setInitialPickupPoints rawPickupPoints => c.restart rawPickupPoints
  | .selectPickupPoint pickupPoint => c.select pickupPoint
  | .infoAnswered _ pickupPoint => pickupPoint.elim c c.amend
  | .fetchPickupPoints _ | .counted | .rejected | .taken | .thrown | .requestPickupInfo _
  | .infoRejected _ => c

end Catalog

/-- An id that the lookup of `parsePickupPoints` reads right. -/
def OrdinaryId (id : String) : Prop := id ≠ "" ∧ id ∉ objectPrototypeKeys

instance (id : String) : Decidable (OrdinaryId id) := by unfold OrdinaryId; infer_instance

/-- Points as a merchant should send them at one time. -/
structure Batch (points : List (Point Contact Raw)) : Prop where
  nodup : (ids points).Nodup
  ordinary : ∀ id ∈ ids points, OrdinaryId id
  length : points.length < maxPointsLength

instance (points : List (Point Contact Raw)) : Decidable (Batch points) :=
  decidable_of_iff
    ((ids points).Nodup ∧ (∀ id ∈ ids points, OrdinaryId id) ∧ points.length < maxPointsLength)
    ⟨fun h ↦ ⟨h.1, h.2.1, h.2.2⟩, fun h ↦ ⟨h.1, h.2, h.3⟩⟩

/-- The points that an event brings. -/
def StoreEvent.points : StoreEvent Contact Raw Bounds → List (Point Contact Raw)
  | .answered pickupPoints => pickupPoints.getD []
  | .update pickupPoints => pickupPoints
  | .setInitialPickupPoints rawPickupPoints => rawPickupPoints
  | _ => []

def SendsBatches (_ : PickupPage Contact Raw Bounds) (e : StoreEvent Contact Raw Bounds) : Prop :=
  Batch e.points

instance (s : PickupPage Contact Raw Bounds) (e : StoreEvent Contact Raw Bounds) :
    Decidable (SendsBatches s e) := by
  unfold SendsBatches
  infer_instance

/-! ### Batches -/

theorem batch_nil : Batch ([] : List (Point Contact Raw)) :=
  ⟨List.nodup_nil, fun _ h ↦ absurd h List.not_mem_nil, Nat.zero_lt_succ _⟩

theorem Batch.pickupPointsList {rawPoints points : List (Point Contact Raw)} (h : Batch rawPoints)
    (hlist : pickupPointsList rawPoints = some points) : Batch points := by
  have hids := (ids_pickupPointsList hlist).1
  have hlength : points.length = rawPoints.length := by
    have heq := congrArg List.length hids
    rwa [ids, ids, List.length_map, List.length_map] at heq
  exact ⟨hids ▸ h.nodup, hids ▸ h.ordinary, hlength ▸ h.length⟩

/-- The merge of ordinary points is the step of a cache. -/
theorem parsePickupPoints_eq_rtake {oldPoints newPoints : List (Point Contact Raw)}
    (hold : ∀ id ∈ ids oldPoints, OrdinaryId id) (hlength : newPoints.length < maxPointsLength)
    (hcoordinates : ∀ point ∈ newPoints, point.coordinates.isSome) :
    parsePickupPoints oldPoints newPoints =
      (Recent.remaining PickupPoint.id oldPoints newPoints).rtake
        (maxPointsLength - newPoints.length) ++ newPoints := by
  have hpassing : passing oldPoints newPoints =
      Recent.remaining PickupPoint.id oldPoints newPoints := by
    refine List.filter_congr fun point hpoint ↦ decide_eq_decide.mpr ?_
    obtain ⟨hne, hkey⟩ := hold point.id (List.mem_map_of_mem hpoint)
    exact ⟨fun h ↦ h.1.resolve_right hne, fun h ↦ ⟨Or.inl h, hkey⟩⟩
  rw [parsePickupPoints_eq oldPoints hcoordinates, slice_of_lt _ hlength, hpassing, List.rtake]

/-! ### The list under the mutators -/

namespace PickupState

variable {s : PickupState Contact Raw Bounds}

@[simp] theorem getPickupPointsList_setPickupPointsList (data : List (Point Contact Raw)) :
    (s.setPickupPointsList data).getPickupPointsList = data := rfl

@[simp] theorem selectedId_setPickupPointsList (data : List (Point Contact Raw)) :
    (s.setPickupPointsList data).selectedId = s.selectedId := rfl

@[simp] theorem selectedPoint_setPickupPointsList (data : List (Point Contact Raw)) :
    (s.setPickupPointsList data).selectedPoint = s.selectedPoint := rfl

/-- A patch without a list leaves the list as it is. -/
theorem getPickupPointsList_patchPickupPoints
    {data : AsyncData (PointsResult Contact Raw Bounds)}
    (h : data.result.bind PointsResult.list = none) :
    (s.patchPickupPoints data).getPickupPointsList = s.getPickupPointsList := by
  simp only [patchPickupPoints, getPickupPointsList, h, Option.none_or, Option.bind_some,
    Option.getD_some]

/-- What `updateSelectedPoint` does to the point that is selected. -/
theorem updateSelectedPoint_of_selected {data : Point Contact Raw}
    (h : s.selectedId = some data.id) :
    (s.updateSelectedPoint data).getPickupPointsList =
        s.getPickupPointsList.set (s.getPickupPointsList.findIdx fun p ↦ p.id = data.id) data ∧
      (s.updateSelectedPoint data).selectedId = s.selectedId ∧
      (s.updateSelectedPoint data).selectedPoint = some data := by
  unfold updateSelectedPoint
  rw [if_pos h]
  cases hlist : s.points.result.bind PointsResult.list with
  | none =>
    have hnil : s.getPickupPointsList = [] := by rw [getPickupPointsList, hlist, Option.getD_none]
    simp only [hlist, hnil, List.set_nil]
    exact ⟨hnil, trivial, trivial⟩
  | some list =>
    have heq : s.getPickupPointsList = list := by rw [getPickupPointsList, hlist, Option.getD_some]
    rw [heq]
    simp only [hlist]
    cases hindex : list.findIdx? fun p ↦ p.id = data.id with
    | none =>
      have hlength := List.findIdx_eq_length.mpr (List.findIdx?_eq_none_iff.mp hindex)
      rw [hlength, List.set_eq_of_length_le le_rfl]
      exact ⟨heq, rfl, rfl⟩
    | some index =>
      obtain ⟨-, hfound⟩ := List.findIdx?_eq_some_iff_findIdx_eq.mp hindex
      rw [hfound]
      exact ⟨rfl, rfl, rfl⟩

end PickupState

/-! ### The store and the catalog -/

/-- The list is that of the most recent points, and the selection that of the buyer. -/
structure Shows (s : PickupState Contact Raw Bounds) (c : Catalog Contact Raw) : Prop where
  list : s.getPickupPointsList = Recent.recent PickupPoint.id maxPointsLength c.delivered
  selectedId : s.selectedId = c.selected.map PickupPoint.id
  selectedPoint : s.selectedPoint = c.selected
  ordinary : ∀ id ∈ ids c.delivered, OrdinaryId id

namespace Shows

variable {s : PickupState Contact Raw Bounds} {c : Catalog Contact Raw}

theorem patchPickupPoints (h : Shows s c) {data : AsyncData (PointsResult Contact Raw Bounds)}
    (hdata : data.result.bind PointsResult.list = none) : Shows (s.patchPickupPoints data) c :=
  ⟨(PickupState.getPickupPointsList_patchPickupPoints hdata).trans h.list, h.selectedId,
    h.selectedPoint, h.ordinary⟩

theorem ordinary_list (h : Shows s c) : ∀ id ∈ ids s.getPickupPointsList, OrdinaryId id := by
  intro id hid
  rw [h.list] at hid
  exact h.ordinary id (((Recent.recent_sublist _ _).map _).subset hid)

/-- A batch is taken over, unless one of its points lacks coordinates. -/
theorem setNewPickupPoints (h : Shows s c) {rawPoints : List (Point Contact Raw)}
    (hbatch : Batch rawPoints) :
    Shows ((s.setNewPickupPoints (some rawPoints)).getD s) (c.deliver rawPoints) := by
  cases hlist : pickupPointsList rawPoints with
  | none =>
    simp only [PickupState.setNewPickupPoints, hlist, Option.map_none, Option.getD_none,
      Catalog.deliver, List.append_nil]
    exact h
  | some points =>
    have hpoints := hbatch.pickupPointsList hlist
    simp only [PickupState.setNewPickupPoints, hlist, Option.map_some, Option.getD_some,
      Catalog.deliver]
    refine ⟨?_, h.selectedId, h.selectedPoint, ?_⟩
    · rw [PickupState.getPickupPointsList_setPickupPointsList,
        parsePickupPoints_eq_rtake h.ordinary_list hpoints.length (ids_pickupPointsList hlist).2,
        h.list, Recent.recent_append c.delivered hpoints.nodup hpoints.length.le]
    · intro id hid
      rw [ids, List.map_append, List.mem_append] at hid
      exact hid.elim (h.ordinary id) (hpoints.ordinary id)

theorem setInitialPickupPoints (h : Shows s c)
    (getBoundsByInitialPoints : List (Point Contact Raw) → Bounds)
    {rawPoints : List (Point Contact Raw)} (hbatch : Batch rawPoints) :
    Shows (s.setInitialPickupPoints getBoundsByInitialPoints rawPoints) (c.restart rawPoints) := by
  cases hlist : pickupPointsList rawPoints with
  | none =>
    simp only [PickupState.setInitialPickupPoints, Catalog.restart, hlist]
    exact h
  | some points =>
    have hpoints := hbatch.pickupPointsList hlist
    simp only [PickupState.setInitialPickupPoints, Catalog.restart, hlist,
      parsePickupPoints_nil (ids_pickupPointsList hlist).2]
    cases points with
    | nil => exact h
    | cons point points =>
      rw [if_neg (List.cons_ne_nil _ _)]
      have hrecent := Recent.recent_eq_self hpoints.nodup hpoints.length.le
      exact ⟨hrecent.symm, h.selectedId, h.selectedPoint, hpoints.ordinary⟩

theorem setSelectedPickupPoint (h : Shows s c) (point : Point Contact Raw) :
    Shows (s.setSelectedPickupPoint point) (c.select point) := by
  unfold PickupState.setSelectedPickupPoint Catalog.select
  rw [h.selectedId]
  by_cases hid : c.selected.map PickupPoint.id = some point.id
  · rw [if_neg (not_not.mpr hid), if_pos hid]
    exact h
  · rw [if_pos hid, if_neg hid]
    exact ⟨h.list, rfl, rfl, h.ordinary⟩

/-- Only the point that is selected is changed, in the list as in the selection. -/
theorem updateSelectedPoint (h : Shows s c) (point : Point Contact Raw) :
    Shows (s.updateSelectedPoint point) (c.amend point) := by
  by_cases hid : c.selected.map PickupPoint.id = some point.id
  · have hselected : s.selectedId = some point.id := h.selectedId.trans hid
    obtain ⟨hlist, hid', hpoint⟩ := PickupState.updateSelectedPoint_of_selected hselected
    have hnodup : (Recent.keys PickupPoint.id s.getPickupPointsList).Nodup :=
      h.list ▸ Recent.nodup_keys_recent PickupPoint.id _ _
    rw [Catalog.amend, if_pos hid]
    refine ⟨?_, hid'.trans hselected, hpoint, ?_⟩
    · rw [hlist, Recent.recent_revise, ← h.list]
      exact Recent.set_findIdx_eq_revise hnodup point
    · intro id hmem
      have hkeys : ids (Recent.revise PickupPoint.id point c.delivered) = ids c.delivered :=
        Recent.keys_revise point c.delivered
      exact h.ordinary id (hkeys ▸ hmem)
  · have hselected : s.selectedId ≠ some point.id := fun heq ↦ hid (h.selectedId.symm.trans heq)
    rw [PickupState.updateSelectedPoint, if_neg hselected, Catalog.amend, if_neg hid]
    exact h

end Shows

section

variable {isPickupPointHasInfo : Option (Point Contact Raw) → Bool}
  {getBoundsByInitialPoints : List (Point Contact Raw) → Bounds}
  {s t : PickupPage Contact Raw Bounds} {c : Catalog Contact Raw}

theorem shows_finish {data : AsyncData (PointsResult Contact Raw Bounds)}
    (hdata : data.result.bind PointsResult.list = none) (h : Shows s.pickup c) :
    Shows (s.finish data).pickup c := by
  unfold PickupPage.finish
  dsimp only
  split_ifs
  · exact h.patchPickupPoints hdata
  · exact h

theorem Shows.next (h : Shows s.pickup c) {e : StoreEvent Contact Raw Bounds}
    (hbatch : SendsBatches s e) :
    Shows (s.next isPickupPointHasInfo getBoundsByInitialPoints e).pickup (c.observe e) := by
  cases e with
  | fetchPickupPoints bounds => exact h.patchPickupPoints rfl
  | counted => exact h
  | answered pickupPoints =>
    change Shows (s.answered pickupPoints).pickup (c.deliver (pickupPoints.getD []))
    rw [pickup_answered]
    cases pickupPoints with
    | none => exact (c.deliver_nil).symm ▸ h
    | some points => exact h.setNewPickupPoints hbatch
  | rejected => exact shows_finish rfl h
  | taken => exact shows_finish rfl h
  | thrown => exact shows_finish rfl h
  | update pickupPoints => exact h.setNewPickupPoints hbatch
  | setInitialPickupPoints rawPickupPoints =>
    exact h.setInitialPickupPoints getBoundsByInitialPoints hbatch
  | selectPickupPoint pickupPoint => exact h.setSelectedPickupPoint pickupPoint
  | requestPickupInfo pickupPoint =>
    unfold PickupPage.next
    dsimp only
    split_ifs
    · exact h
    · exact h
  | infoAnswered index pickupPoint =>
    cases pickupPoint with
    | none => exact h
    | some point => exact h.updateSelectedPoint point
  | infoRejected index => exact h

/-- In every run in which the merchant sends batches, the list has the most recent points of those
sent, each in its latest version, and the point selected is the one that the buyer chose. -/
theorem list_eq_recent (isPickupPointHasInfo : Option (Point Contact Raw) → Bool)
    (getBoundsByInitialPoints : List (Point Contact Raw) → Bounds)
    (events : List (StoreEvent Contact Raw Bounds)) (s : PickupPage Contact Raw Bounds)
    (hrun : (pickupStore isPickupPointHasInfo getBoundsByInitialPoints).run SendsBatches {} events =
      some s) :
    s.pickup.getPickupPointsList = Recent.recent PickupPoint.id maxPointsLength
        (events.foldl Catalog.observe {}).delivered ∧
      s.pickup.selectedPoint = (events.foldl Catalog.observe {}).selected ∧
      s.pickup.selectedId = s.pickup.selectedPoint.map PickupPoint.id := by
  have hstart : Shows ({} : PickupPage Contact Raw Bounds).pickup {} :=
    ⟨(Recent.recent_eq_self batch_nil.nodup batch_nil.length.le).symm, rfl, rfl,
      batch_nil.ordinary⟩
  have hshows : Shows s.pickup (events.foldl Catalog.observe {}) := by
    refine System.run_simulates (R := fun s c ↦ Shows s.pickup c) ?_ hstart hrun
    intro s c e t hs hbatch hstep
    obtain ⟨-, rfl⟩ := of_step hstep
    exact hs.next hbatch
  exact ⟨hshows.list, hshows.selectedPoint, hshows.selectedId.trans
    (congrArg _ hshows.selectedPoint.symm)⟩

end
theorem list_eq_recent_witness :
    shopEnd.pickup.getPickupPointsList = Recent.recent PickupPoint.id maxPointsLength
        (shopEvents.foldl Catalog.observe {}).delivered ∧
      shopEnd.pickup.selectedPoint = (shopEvents.foldl Catalog.observe {}).selected ∧
      shopEnd.pickup.selectedId = shopEnd.pickup.selectedPoint.map PickupPoint.id :=
  list_eq_recent shopHasInfo (fun _ ↦ ()) shopEvents shopEnd (by decide +kernel)

example : ids shopEnd.pickup.getPickupPointsList = ["b", "a", "c"] := by decide +kernel

end YandexPay.CheckoutForm
