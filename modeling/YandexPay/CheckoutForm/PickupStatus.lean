import YandexPay.CheckoutForm.PickupStore

/-!
# The status of the pickup points over a run

Only the call of `fetchPickupPoints` that brings `fetchPickupPointsCounter` back to zero sets the
status. `status_settles` says what this comes to: no call leaves the status pending for good, and it
is pending all the while if no call ends in the moment before another has counted itself.
-/

set_option autoImplicit false
set_option relaxedAutoImplicit false

namespace YandexPay.CheckoutForm

open Transition

variable {Contact Raw Bounds : Type}

namespace PickupCalls

variable (calls : PickupCalls)

/-- The calls of `fetchPickupPoints` that have counted themselves. -/
def counted : ℕ := calls.waiting + calls.taking + calls.throwing

def running : ℕ := calls.starting + calls.counted

end PickupCalls

/-- The status that an event leaves behind once no call is under way. -/
def StoreEvent.outcome : StoreEvent Contact Raw Bounds → Option AsyncStatus
  | .taken => some .success
  | .rejected | .thrown => some .error
  | .setInitialPickupPoints rawPickupPoints =>
    match pickupPointsList rawPickupPoints with
    | none | some [] => none
    | some _ => some .success
  | _ => none

def settled (status : AsyncStatus) (e : StoreEvent Contact Raw Bounds) : AsyncStatus :=
  e.outcome.getD status

/-- The count is right, and once no call is under way the status is that of the last outcome. -/
structure Settles (s : PickupPage Contact Raw Bounds) (status : AsyncStatus) : Prop where
  counter : s.calls.fetchPickupPointsCounter = s.calls.counted
  status : s.calls.running = 0 → s.pickup.points.status = status

/-- While no call awaits its count none ends, and the initial points come before all calls. -/
def Orderly (s : PickupPage Contact Raw Bounds) : StoreEvent Contact Raw Bounds → Prop
  | .taken | .rejected | .thrown => s.calls.starting = 0
  | .setInitialPickupPoints _ => s.calls.running = 0
  | _ => True

instance (s : PickupPage Contact Raw Bounds) : ∀ e, Decidable (Orderly s e)
  | .taken | .rejected | .thrown => Nat.decEq s.calls.starting 0
  | .setInitialPickupPoints _ => Nat.decEq s.calls.running 0
  | .fetchPickupPoints _ | .counted | .answered _ | .update _ | .selectPickupPoint _
  | .requestPickupInfo _ | .infoAnswered _ _ | .infoRejected _ => instDecidableTrue

namespace PickupState

variable {s : PickupState Contact Raw Bounds}

theorem status_setNewPickupPoints (newPickupPoints : Option (List (Point Contact Raw))) :
    ((s.setNewPickupPoints newPickupPoints).getD s).points.status = s.points.status := by
  cases newPickupPoints with
  | none => rfl
  | some rawPoints =>
    cases hlist : pickupPointsList rawPoints with
    | none => simp only [setNewPickupPoints, hlist, Option.map_none, Option.getD_none]
    | some points =>
      simp only [setNewPickupPoints, hlist, Option.map_some, Option.getD_some,
        setPickupPointsList]

theorem status_updateSelectedPoint (data : Point Contact Raw) :
    (s.updateSelectedPoint data).points.status = s.points.status := by
  unfold updateSelectedPoint
  dsimp only
  split_ifs
  · split
    · rfl
    · split
      · rfl
      · rfl
  · rfl

theorem status_setSelectedPickupPoint (point : Point Contact Raw) :
    (s.setSelectedPickupPoint point).points.status = s.points.status := by
  unfold setSelectedPickupPoint
  split_ifs
  · rfl
  · rfl

theorem status_setInitialPickupPoints
    (getBoundsByInitialPoints : List (Point Contact Raw) → Bounds)
    (rawPoints : List (Point Contact Raw)) :
    (s.setInitialPickupPoints getBoundsByInitialPoints rawPoints).points.status =
      settled s.points.status
        (.setInitialPickupPoints rawPoints : StoreEvent Contact Raw Bounds) := by
  cases hlist : pickupPointsList rawPoints with
  | none => simp only [setInitialPickupPoints, settled, StoreEvent.outcome, hlist, Option.getD_none]
  | some points =>
    simp only [setInitialPickupPoints, settled, StoreEvent.outcome, hlist,
      parsePickupPoints_nil (ids_pickupPointsList hlist).2]
    cases points with
    | nil => rfl
    | cons point points =>
      rw [if_neg (List.cons_ne_nil _ _)]
      rfl

end PickupState

section

variable {isPickupPointHasInfo : Option (Point Contact Raw) → Bool}
  {getBoundsByInitialPoints : List (Point Contact Raw) → Bounds}
  {s : PickupPage Contact Raw Bounds} {status : AsyncStatus}

/-- The call that brings the count to zero sets the status, if no other call is under way. -/
theorem settles_finish (hcounter : s.calls.fetchPickupPointsCounter = s.calls.counted + 1)
    (data : AsyncData (PointsResult Contact Raw Bounds)) : Settles (s.finish data) data.status := by
  unfold PickupPage.finish
  dsimp only
  split_ifs with hzero
  · exact ⟨Int.sub_eq_iff_eq_add.mpr hcounter, fun _ ↦ rfl⟩
  · refine ⟨Int.sub_eq_iff_eq_add.mpr hcounter, fun hrunning ↦ absurd ?_ hzero⟩
    have hcounted : s.calls.counted = 0 := (Nat.add_eq_zero_iff.mp hrunning).2
    rw [hcounter, hcounted]
    rfl

theorem counter_answered (h : Settles s status) (hwaiting : 0 < s.calls.waiting)
    (pickupPoints : Option (List (Point Contact Raw))) :
    (s.answered pickupPoints).calls.fetchPickupPointsCounter =
        (s.answered pickupPoints).calls.counted ∧
      (s.answered pickupPoints).calls.running = s.calls.running := by
  have hcounter := h.counter
  unfold PickupPage.answered PickupCalls.running PickupCalls.counted
  unfold PickupCalls.counted at hcounter
  cases s.pickup.setNewPickupPoints pickupPoints with
  | none => dsimp only; omega
  | some pickup => dsimp only; omega

/-- What leaves the calls and the status as they are. -/
theorem Settles.of_eq (h : Settles s status) {t : PickupPage Contact Raw Bounds}
    (hcounter : t.calls.fetchPickupPointsCounter = t.calls.counted)
    (hrunning : t.calls.running = s.calls.running)
    (hstatus : t.pickup.points.status = s.pickup.points.status) : Settles t status :=
  ⟨hcounter, fun hzero ↦ hstatus.trans (h.status (hrunning ▸ hzero))⟩

theorem Settles.next (h : Settles s status) {e : StoreEvent Contact Raw Bounds}
    (henabled : s.Enabled e) :
    Settles (s.next isPickupPointHasInfo getBoundsByInitialPoints e) (settled status e) := by
  have hcounter := h.counter
  cases e with
  | fetchPickupPoints bounds =>
    refine ⟨hcounter, fun hrunning ↦ ?_⟩
    unfold PickupPage.next PickupPage.fetchPickupPoints PickupCalls.running at hrunning
    dsimp only at hrunning
    omega
  | counted =>
    refine h.of_eq ?_ ?_ rfl
    · unfold PickupPage.next PickupCalls.counted
      unfold PickupCalls.counted at hcounter
      dsimp only
      omega
    · change 0 < s.calls.starting at henabled
      unfold PickupPage.next PickupCalls.running PickupCalls.counted
      dsimp only
      omega
  | answered pickupPoints =>
    obtain ⟨hcounted, hrunning⟩ := counter_answered h henabled pickupPoints
    refine h.of_eq hcounted hrunning ?_
    change (s.answered pickupPoints).pickup.points.status = _
    rw [pickup_answered, PickupState.status_setNewPickupPoints]
  | rejected =>
    refine settles_finish ?_ ⟨.error, none⟩
    change 0 < s.calls.waiting at henabled
    unfold PickupCalls.counted at hcounter ⊢
    dsimp only
    omega
  | taken =>
    refine settles_finish ?_ ⟨.success, some {}⟩
    change 0 < s.calls.taking at henabled
    unfold PickupCalls.counted at hcounter ⊢
    dsimp only
    omega
  | thrown =>
    refine settles_finish ?_ ⟨.error, none⟩
    change 0 < s.calls.throwing at henabled
    unfold PickupCalls.counted at hcounter ⊢
    dsimp only
    omega
  | update pickupPoints =>
    exact h.of_eq hcounter rfl (PickupState.status_setNewPickupPoints _)
  | setInitialPickupPoints rawPickupPoints =>
    refine ⟨hcounter, fun hrunning ↦ ?_⟩
    exact (PickupState.status_setInitialPickupPoints getBoundsByInitialPoints
      rawPickupPoints).trans (congrArg (settled · _) (h.status hrunning))
  | selectPickupPoint pickupPoint =>
    exact h.of_eq hcounter rfl (PickupState.status_setSelectedPickupPoint pickupPoint)
  | requestPickupInfo pickupPoint =>
    unfold PickupPage.next
    dsimp only
    split_ifs
    · exact h
    · exact h.of_eq hcounter rfl rfl
  | infoAnswered index pickupPoint =>
    cases pickupPoint with
    | none => exact h.of_eq hcounter rfl rfl
    | some point =>
      exact h.of_eq hcounter rfl (PickupState.status_updateSelectedPoint point)
  | infoRejected index => exact h.of_eq hcounter rfl rfl

theorem running_finish (data : AsyncData (PointsResult Contact Raw Bounds)) :
    (s.finish data).calls.running = s.calls.running := by
  unfold PickupPage.finish
  dsimp only
  split_ifs
  · rfl
  · rfl

/-- A call that ends before others have ended leaves the status as it is. -/
theorem pending_finish (hpending : s.pickup.points.status = .pending)
    (hcounter : s.calls.fetchPickupPointsCounter = s.calls.counted + 1)
    (hstarting : s.calls.starting = 0) (data : AsyncData (PointsResult Contact Raw Bounds))
    (hrunning : (s.finish data).calls.running ≠ 0) :
    (s.finish data).pickup.points.status = .pending := by
  rw [running_finish, PickupCalls.running, hstarting, Nat.zero_add] at hrunning
  unfold PickupPage.finish
  dsimp only
  rw [if_neg (by omega)]
  exact hpending

theorem pending_next (h : Settles s status)
    (hpending : s.calls.running ≠ 0 → s.pickup.points.status = .pending)
    {e : StoreEvent Contact Raw Bounds} (henabled : s.Enabled e) (horderly : Orderly s e)
    (hrunning : (s.next isPickupPointHasInfo getBoundsByInitialPoints e).calls.running ≠ 0) :
    (s.next isPickupPointHasInfo getBoundsByInitialPoints e).pickup.points.status = .pending := by
  have hcounter := h.counter
  unfold PickupCalls.running at hpending
  unfold PickupCalls.counted at hcounter hpending
  cases e with
  | fetchPickupPoints bounds => rfl
  | counted =>
    change 0 < s.calls.starting at henabled
    exact hpending (by omega)
  | answered pickupPoints =>
    change 0 < s.calls.waiting at henabled
    change (s.answered pickupPoints).pickup.points.status = .pending
    rw [pickup_answered, PickupState.status_setNewPickupPoints]
    exact hpending (by omega)
  | rejected =>
    change 0 < s.calls.waiting at henabled
    refine pending_finish ?_ ?_ ?_ _ hrunning
    · exact hpending (by omega)
    · unfold PickupCalls.counted
      dsimp only
      omega
    · exact horderly
  | taken =>
    change 0 < s.calls.taking at henabled
    refine pending_finish ?_ ?_ ?_ _ hrunning
    · exact hpending (by omega)
    · unfold PickupCalls.counted
      dsimp only
      omega
    · exact horderly
  | thrown =>
    change 0 < s.calls.throwing at henabled
    refine pending_finish ?_ ?_ ?_ _ hrunning
    · exact hpending (by omega)
    · unfold PickupCalls.counted
      dsimp only
      omega
    · exact horderly
  | update pickupPoints =>
    exact (PickupState.status_setNewPickupPoints _).trans (hpending hrunning)
  | setInitialPickupPoints rawPickupPoints => exact absurd horderly hrunning
  | selectPickupPoint pickupPoint =>
    exact (PickupState.status_setSelectedPickupPoint pickupPoint).trans (hpending hrunning)
  | requestPickupInfo pickupPoint =>
    unfold PickupPage.next at hrunning ⊢
    dsimp only at hrunning ⊢
    split_ifs at hrunning ⊢
    · exact hpending hrunning
    · exact hpending hrunning
  | infoAnswered index pickupPoint =>
    cases pickupPoint with
    | none => exact hpending hrunning
    | some point =>
      exact (PickupState.status_updateSelectedPoint point).trans (hpending hrunning)
  | infoRejected index => exact hpending hrunning

end

theorem settled_ne_pending {status : AsyncStatus} (h : status ≠ .pending)
    (e : StoreEvent Contact Raw Bounds) : settled status e ≠ .pending := by
  unfold settled StoreEvent.outcome
  split
  · exact AsyncStatus.noConfusion
  · exact AsyncStatus.noConfusion
  · exact AsyncStatus.noConfusion
  · split
    · exact h
    · exact h
    · exact AsyncStatus.noConfusion
  · exact h

/-- In every run the count is that of the calls that have counted themselves and not ended, and once
no call is under way the status is the outcome of the call that ended last, or of initial points
that came after it. In an orderly run the status is pending exactly as long as a call is under
way. -/
theorem status_settles (isPickupPointHasInfo : Option (Point Contact Raw) → Bool)
    (getBoundsByInitialPoints : List (Point Contact Raw) → Bounds)
    (events : List (StoreEvent Contact Raw Bounds)) (s : PickupPage Contact Raw Bounds)
    (hrun : (pickupStore isPickupPointHasInfo getBoundsByInitialPoints).run (fun _ _ ↦ True) {}
      events = some s) :
    s.calls.fetchPickupPointsCounter = s.calls.counted ∧
      (s.calls.running = 0 → s.pickup.points.status = events.foldl settled .initial) ∧
      (s.pickup.points.status = .pending → s.calls.running ≠ 0) ∧
      ((pickupStore isPickupPointHasInfo getBoundsByInitialPoints).run Orderly {} events = some s →
        (s.pickup.points.status = .pending ↔ s.calls.running ≠ 0)) := by
  have hsettles : Settles s (events.foldl settled .initial) ∧
      events.foldl settled .initial ≠ .pending := by
    refine System.run_simulates
      (R := fun s status ↦ Settles s status ∧ status ≠ .pending) ?_
      ⟨⟨rfl, fun _ ↦ rfl⟩, AsyncStatus.noConfusion⟩ hrun
    rintro s status e t ⟨hs, hstatus⟩ - hstep
    obtain ⟨henabled, rfl⟩ := of_step hstep
    exact ⟨hs.next henabled, settled_ne_pending hstatus e⟩
  have hrunning : s.pickup.points.status = .pending → s.calls.running ≠ 0 :=
    fun hpending hzero ↦ hsettles.2 ((hsettles.1.status hzero).symm.trans hpending)
  refine ⟨hsettles.1.counter, hsettles.1.status, hrunning, fun horderly ↦ ⟨hrunning, ?_⟩⟩
  have hpending : (∃ status, Settles s status) ∧
      (s.calls.running ≠ 0 → s.pickup.points.status = .pending) := by
    refine System.Leads.preserves (I := fun s ↦ (∃ status, Settles s status) ∧
      (s.calls.running ≠ 0 → s.pickup.points.status = .pending)) ?_
      (System.leads_of_run horderly) ⟨⟨.initial, rfl, fun _ ↦ rfl⟩, fun h ↦ absurd rfl h⟩
    rintro s e t ⟨⟨status, hs⟩, hpending⟩ horderly hstep
    obtain ⟨henabled, rfl⟩ := of_step hstep
    exact ⟨⟨_, hs.next henabled⟩, pending_next hs hpending henabled horderly⟩
  exact hpending.2

theorem status_settles_witness :
    shopEnd.calls.fetchPickupPointsCounter = shopEnd.calls.counted ∧
      (shopEnd.calls.running = 0 →
        shopEnd.pickup.points.status = shopEvents.foldl settled .initial) ∧
      (shopEnd.pickup.points.status = .pending → shopEnd.calls.running ≠ 0) ∧
      (shopStore.run Orderly {} shopEvents = some shopEnd →
        (shopEnd.pickup.points.status = .pending ↔ shopEnd.calls.running ≠ 0)) :=
  status_settles shopHasInfo (fun _ ↦ ()) shopEvents shopEnd (by decide +kernel)

end YandexPay.CheckoutForm
