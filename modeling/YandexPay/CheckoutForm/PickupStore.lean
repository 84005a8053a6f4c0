import YandexPay.CheckoutForm.Pickup
import YandexPay.Library.Transition
import YandexPay.Library.Traverse

/-!
# The store of the pickup points

`store/pickup`: the points that are shown, the one that is selected, and the calls that load them.
Points come with the answers to the calls of `fetchPickupPoints`, with updates that the merchant's
page sends by itself and at the start; any number of calls may be under way. A call counts itself
only after its first `await`, and the call that brings the count back to zero sets the status.

Events are the steps between two `await`s, and a run has them in any order.
-/

set_option autoImplicit false
set_option relaxedAutoImplicit false

namespace YandexPay.CheckoutForm

open Transition

/-! ### Points as the merchant sends them -/

structure PickupPointSchedule where
  label : Option String
  timeFrom : Option String
  timeTo : Option String
  deriving DecidableEq

structure PickupPointInfo (Contact : Type) where
  schedule : Option (List PickupPointSchedule)
  contacts : Option (List Contact)
  description : Option String
  tripDescription : Option String
  deriving DecidableEq

/-- What a point has beside its id and coordinates; `raw` is the merchant's own. -/
structure PickupPointData (Contact Raw : Type) where
  label : Option String
  provider : Option String
  address : Option String
  deliveryDate : Option ℚ
  storagePeriod : Option ℚ
  amount : Option String
  info : Option (PickupPointInfo Contact)
  raw : Option Raw
  deriving DecidableEq

abbrev Point (Contact Raw : Type) := PickupPoint (PickupPointData Contact Raw)

variable {Contact Raw Bounds : Type}

def normalizePointSchedule (schedule : PickupPointSchedule) : PickupPointSchedule where
  label := some (schedule.label.getD "")
  timeFrom := some (schedule.timeFrom.getD "")
  timeTo := some (schedule.timeTo.getD "")

/-- `text ? text : undefined` -/
def nonEmptyText (text : Option String) : Option String := text.filter (· ≠ "")

def normalizePointInfo (info : Option (PickupPointInfo Contact)) :
    Option (PickupPointInfo Contact) :=
  info.map fun info ↦
    { schedule := info.schedule.map (List.map normalizePointSchedule)
      contacts := info.contacts
      description := nonEmptyText info.description
      tripDescription := nonEmptyText info.tripDescription }

/-- One point of `pickupPointsList`, for which `point.coordinates.latitude` throws where there are
no coordinates. A `deliveryDate` of 0 is left out as one that is missing. -/
def pickupPoint (point : Point Contact Raw) : Option (Point Contact Raw) :=
  point.coordinates.map fun coordinates ↦
    { id := point.id
      coordinates := some coordinates
      info :=
        { label := some (point.info.label.getD "")
          provider := point.info.provider
          address := some (point.info.address.getD "")
          deliveryDate := (point.info.deliveryDate.filter (· ≠ 0)).map (· * 1000)
          storagePeriod := point.info.storagePeriod
          amount := point.info.amount
          info := normalizePointInfo point.info.info
          raw := point.info.raw } }

/-- Throws (`none`) if any of the points has no coordinates. -/
def pickupPointsList (rawPoints : List (Point Contact Raw)) : Option (List (Point Contact Raw)) :=
  rawPoints.mapM pickupPoint

/-! ### The state and its mutators -/

inductive AsyncStatus
  | initial
  | pending
  | success
  | error
  | exceeded
  | cancelled
  deriving DecidableEq

/-- `Async.Data`, whose reason of an error no mutator takes over. -/
structure AsyncData (Result : Type) where
  status : AsyncStatus
  result : Option Result := none
  deriving DecidableEq

/-- The result of `points`; a patch may lack either part. -/
structure PointsResult (Contact Raw Bounds : Type) where
  bounds : Option Bounds := none
  list : Option (List (Point Contact Raw)) := none
  deriving DecidableEq

/-- `shipping.pickup`, as far as points are concerned. -/
structure PickupState (Contact Raw Bounds : Type) where
  points : AsyncData (PointsResult Contact Raw Bounds) := ⟨.initial, none⟩
  selectedId : Option String := none
  selectedPoint : Option (Point Contact Raw) := none
  deriving DecidableEq

namespace PickupState

variable (s : PickupState Contact Raw Bounds)

def getPickupPointsList : List (Point Contact Raw) :=
  (s.points.result.bind PointsResult.list).getD []

def setPickupPointsList (data : List (Point Contact Raw)) : PickupState Contact Raw Bounds :=
  { s with points := { s.points with
      result := some { s.points.result.getD {} with list := some data } } }

def patchPickupPoints (data : AsyncData (PointsResult Contact Raw Bounds)) :
    PickupState Contact Raw Bounds :=
  { s with points :=
      { status := data.status
        result := some
          { bounds := (data.result.bind PointsResult.bounds).or
              (s.points.result.bind PointsResult.bounds)
            list := some (((data.result.bind PointsResult.list).or
              (s.points.result.bind PointsResult.list)).getD []) } } }

def setPickupPoints (data : AsyncData (PointsResult Contact Raw Bounds)) :
    PickupState Contact Raw Bounds :=
  { s with points := data }

def updateSelectedPoint (data : Point Contact Raw) : PickupState Contact Raw Bounds :=
  if s.selectedId = some data.id then
    let s := { s with selectedPoint := some data }
    match s.points.result.bind PointsResult.list with
    | none => s
    | some list =>
      match list.findIdx? fun p ↦ p.id = data.id with
      | none => s
      | some index => s.setPickupPointsList (list.set index data)
  else s

def setSelectedPickupPoint (pickupPoint : Point Contact Raw) : PickupState Contact Raw Bounds :=
  if s.selectedId ≠ some pickupPoint.id then
    { s with selectedId := some pickupPoint.id, selectedPoint := some pickupPoint }
  else s

/-- `none` if it throws, which leaves the state as it is. -/
def setNewPickupPoints (newPickupPoints : Option (List (Point Contact Raw))) :
    Option (PickupState Contact Raw Bounds) :=
  match newPickupPoints with
  | none => some s
  | some newPickupPoints =>
    (pickupPointsList newPickupPoints).map fun pickupPoints ↦
      s.setPickupPointsList (parsePickupPoints s.getPickupPointsList pickupPoints)

/-- There are a center and bounds of the initial points exactly if there are points. -/
def setInitialPickupPoints (getBoundsByInitialPoints : List (Point Contact Raw) → Bounds)
    (rawPickupPoints : List (Point Contact Raw)) : PickupState Contact Raw Bounds :=
  match pickupPointsList rawPickupPoints with
  | none => s
  | some pickupPoints =>
    let points := parsePickupPoints [] pickupPoints
    if points = [] then s
    else s.setPickupPoints
      ⟨.success, some { list := some points, bounds := some (getBoundsByInitialPoints points) }⟩

end PickupState

/-! ### Calls and events -/

/-- `fetchPickupPointsCounter` and the calls under way: those of `fetchPickupPoints` that have not
counted themselves yet, that wait for their answer, and that have taken it over or failed to, and
the points for which `requestPickupInfo` waits. -/
structure PickupCalls where
  fetchPickupPointsCounter : ℤ := 0
  starting : ℕ := 0
  waiting : ℕ := 0
  taking : ℕ := 0
  throwing : ℕ := 0
  infoRequests : List String := []
  deriving DecidableEq

structure PickupPage (Contact Raw Bounds : Type) where
  pickup : PickupState Contact Raw Bounds := {}
  calls : PickupCalls := {}
  deriving DecidableEq

inductive StoreEvent (Contact Raw Bounds : Type)
  | fetchPickupPoints (bounds : Bounds)
  /-- A call counts itself and sends its request. -/
  | counted
  | answered (pickupPoints : Option (List (Point Contact Raw)))
  | rejected
  /-- A call goes on behind `await dispatch(setNewPickupPoints(…))`. -/
  | taken
  | thrown
  /-- The watcher of updates. -/
  | update (pickupPoints : List (Point Contact Raw))
  | setInitialPickupPoints (rawPickupPoints : List (Point Contact Raw))
  | selectPickupPoint (pickupPoint : Point Contact Raw)
  | requestPickupInfo (pickupPoint : Point Contact Raw)
  | infoAnswered (index : ℕ) (pickupPoint : Option (Point Contact Raw))
  | infoRejected (index : ℕ)

namespace PickupPage

variable (isPickupPointHasInfo : Option (Point Contact Raw) → Bool)
  (getBoundsByInitialPoints : List (Point Contact Raw) → Bounds)
  (s : PickupPage Contact Raw Bounds)

/-- `fetchPickupPoints` until its first `await`. -/
def fetchPickupPoints (bounds : Bounds) : PickupPage Contact Raw Bounds where
  pickup := s.pickup.patchPickupPoints ⟨.pending, some { bounds := some bounds }⟩
  calls := { s.calls with starting := s.calls.starting + 1 }

/-- The end of `fetchPickupPoints`, of the `try` or of the `catch`. -/
def finish (data : AsyncData (PointsResult Contact Raw Bounds)) : PickupPage Contact Raw Bounds :=
  let calls := { s.calls with
    fetchPickupPointsCounter := s.calls.fetchPickupPointsCounter - 1 }
  if calls.fetchPickupPointsCounter = 0 then ⟨s.pickup.patchPickupPoints data, calls⟩
  else ⟨s.pickup, calls⟩

/-- A call that has its answer. -/
def answered (pickupPoints : Option (List (Point Contact Raw))) : PickupPage Contact Raw Bounds :=
  let calls := { s.calls with waiting := s.calls.waiting - 1 }
  match s.pickup.setNewPickupPoints pickupPoints with
  | some pickup => ⟨pickup, { calls with taking := calls.taking + 1 }⟩
  | none => ⟨s.pickup, { calls with throwing := calls.throwing + 1 }⟩

/-- A call goes on only if there is one at that point. -/
def Enabled : StoreEvent Contact Raw Bounds → Prop
  | .counted => 0 < s.calls.starting
  | .answered _ | .rejected => 0 < s.calls.waiting
  | .taken => 0 < s.calls.taking
  | .thrown => 0 < s.calls.throwing
  | .infoAnswered index _ | .infoRejected index => index < s.calls.infoRequests.length
  | .fetchPickupPoints _ | .update _ | .setInitialPickupPoints _ | .selectPickupPoint _
  | .requestPickupInfo _ => True

instance (e : StoreEvent Contact Raw Bounds) : Decidable (s.Enabled e) := by
  cases e <;> unfold Enabled <;> infer_instance

def next : StoreEvent Contact Raw Bounds → PickupPage Contact Raw Bounds
  | .fetchPickupPoints bounds => s.fetchPickupPoints bounds
  | .counted =>
    { s with calls := { s.calls with
      starting := s.calls.starting - 1
      fetchPickupPointsCounter := s.calls.fetchPickupPointsCounter + 1
      waiting := s.calls.waiting + 1 } }
  | .answered pickupPoints => s.answered pickupPoints
  | .rejected =>
    finish { s with calls := { s.calls with waiting := s.calls.waiting - 1 } } ⟨.error, none⟩
  | .taken =>
    finish { s with calls := { s.calls with taking := s.calls.taking - 1 } } ⟨.success, some {}⟩
  | .thrown =>
    finish { s with calls := { s.calls with throwing := s.calls.throwing - 1 } } ⟨.error, none⟩
  | .update pickupPoints =>
    { s with pickup := (s.pickup.setNewPickupPoints (some pickupPoints)).getD s.pickup }
  | .setInitialPickupPoints rawPickupPoints =>
    { s with pickup := s.pickup.setInitialPickupPoints getBoundsByInitialPoints rawPickupPoints }
  | .selectPickupPoint pickupPoint =>
    { s with pickup := s.pickup.setSelectedPickupPoint pickupPoint }
  | .requestPickupInfo pickupPoint =>
    if isPickupPointHasInfo s.pickup.selectedPoint then s
    else { s with calls := { s.calls with
      infoRequests := s.calls.infoRequests ++ [pickupPoint.id] } }
  | .infoAnswered index pickupPoint =>
    { pickup := pickupPoint.elim s.pickup s.pickup.updateSelectedPoint
      calls := { s.calls with infoRequests := s.calls.infoRequests.eraseIdx index } }
  | .infoRejected index =>
    { s with calls := { s.calls with infoRequests := s.calls.infoRequests.eraseIdx index } }

end PickupPage

/-- The store of a form that was just opened. -/
def pickupStore (isPickupPointHasInfo : Option (Point Contact Raw) → Bool)
    (getBoundsByInitialPoints : List (Point Contact Raw) → Bounds) :
    System (PickupPage Contact Raw Bounds) (StoreEvent Contact Raw Bounds) where
  start := fun s ↦ s = {}
  step := fun s e ↦
    if s.Enabled e then some (s.next isPickupPointHasInfo getBoundsByInitialPoints e) else none

section

variable {isPickupPointHasInfo : Option (Point Contact Raw) → Bool}
  {getBoundsByInitialPoints : List (Point Contact Raw) → Bounds}
  {s t : PickupPage Contact Raw Bounds}

theorem of_step {e : StoreEvent Contact Raw Bounds}
    (h : (pickupStore isPickupPointHasInfo getBoundsByInitialPoints).step s e = some t) :
    s.Enabled e ∧ t = s.next isPickupPointHasInfo getBoundsByInitialPoints e := by
  unfold pickupStore at h
  dsimp only at h
  split_ifs at h with henabled
  exact ⟨henabled, (Option.some.inj h).symm⟩

theorem pickup_answered (pickupPoints : Option (List (Point Contact Raw))) :
    (s.answered pickupPoints).pickup =
      (s.pickup.setNewPickupPoints pickupPoints).getD s.pickup := by
  unfold PickupPage.answered
  cases s.pickup.setNewPickupPoints pickupPoints with
  | none => rfl
  | some pickup => rfl

end

theorem id_of_pickupPoint_eq {point point' : Point Contact Raw}
    (h : pickupPoint point = some point') : point'.id = point.id ∧ point'.coordinates.isSome := by
  obtain ⟨coordinates, -, rfl⟩ := Option.map_eq_some_iff.mp h
  exact ⟨rfl, rfl⟩

theorem ids_pickupPointsList {rawPoints points : List (Point Contact Raw)}
    (h : pickupPointsList rawPoints = some points) :
    ids points = ids rawPoints ∧ ∀ point ∈ points, point.coordinates.isSome := by
  have hall := mapM_eq_some_iff.mp h
  clear h
  induction hall with
  | nil => exact ⟨rfl, fun _ h ↦ absurd h List.not_mem_nil⟩
  | cons hpoint _ ih =>
    obtain ⟨hid, hcoordinates⟩ := id_of_pickupPoint_eq hpoint
    exact ⟨congrArg₂ List.cons hid ih.1, List.forall_mem_cons.mpr ⟨hcoordinates, ih.2⟩⟩

theorem parsePickupPoints_nil {points : List (Point Contact Raw)}
    (hcoordinates : ∀ point ∈ points, point.coordinates.isSome) :
    parsePickupPoints [] points = points := by
  rw [parsePickupPoints_eq [] hcoordinates, passing, List.filter_nil, slice, List.drop_nil,
    List.nil_append]

def shopPoint (id : String) (amount : Option String) : Point Unit Unit where
  id := id
  coordinates := some ⟨55, 37⟩
  info :=
    { label := none, provider := none, address := none, deliveryDate := none, storagePeriod := none,
      amount := amount, info := none, raw := none }

def shopHasInfo (point : Option (Point Unit Unit)) : Bool :=
  (point.bind fun point ↦ point.info.amount).isSome

def shopStore : System (PickupPage Unit Unit Unit) (StoreEvent Unit Unit Unit) :=
  pickupStore shopHasInfo fun _ ↦ ()

/-- Two calls under way, points that come twice, and a price for the point that was selected. -/
def shopEvents : List (StoreEvent Unit Unit Unit) :=
  [.fetchPickupPoints (), .counted, .update [shopPoint "a" none, shopPoint "b" none],
    .fetchPickupPoints (), .selectPickupPoint (shopPoint "b" none),
    .requestPickupInfo (shopPoint "b" none), .counted,
    .answered (some [shopPoint "a" none, shopPoint "c" none]), .rejected,
    .infoAnswered 0 (some (shopPoint "b" (some "150.00"))), .taken]

def shopEnd : PickupPage Unit Unit Unit :=
  (shopStore.run (fun _ _ ↦ True) {} shopEvents).getD {}

end YandexPay.CheckoutForm
