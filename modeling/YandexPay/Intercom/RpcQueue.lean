import YandexPay.Library.Transition
import Mathlib.Data.List.Range
import Mathlib.Data.List.Infix

/-!
# Requests for the pickup points of a region

`helpers/rpc-queue.ts`, `CheckoutClientApi.pickupBoundsChange` and the part of `EventEmitter` that
they use. The messages of the merchant's page carry no number of a request. Every call queues a
task, and the task at the head listens for the next message with pickup points; `setTimeout` has it
begin to listen, while the request itself is sent in the call. Calls, timeouts and messages are the
events of a transition system.

The page answers the requests in their order. `InTime` is the condition on a run under which every
call is settled by its own answer (`pickupBounds_matched`): an answer comes once the task of its
request listens. One that comes earlier is lost, and the calls stay behind the answers for ever.
-/

set_option autoImplicit false
set_option relaxedAutoImplicit false

namespace YandexPay.Intercom

open Transition

/-! ### The event emitter -/

section Emitter

variable {ι σ : Type}

/-- `EventEmitter.off`, which puts a new array in the place of the old one. -/
def off [DecidableEq ι] (listeners : List ι) (listener : ι) : List ι :=
  listeners.filter (· ≠ listener)

theorem off_singleton [DecidableEq ι] (listener : ι) : off [listener] listener = [] := by
  simp [off]

/-- `EventEmitter.emit`: the listeners that are on at its start are called in their order. -/
def emit (listeners : List ι) (call : ι → σ → σ) (s : σ) : σ :=
  listeners.foldl (fun s listener ↦ call listener s) s

end Emitter

/-! ### The queue -/

/-- A `RpcQueue`; the function of a task is known by its id. -/
structure RpcQueue where
  idx : ℕ := 0
  started : Option ℕ := none
  queue : List ℕ := []
  /-- The tasks whose function `setTimeout` has yet to call. -/
  timeouts : List ℕ := []
  deriving DecidableEq

namespace RpcQueue

variable (q : RpcQueue)

/-- `run`; an id is never 0, so that `!this.started` says that nothing is started. -/
def run : RpcQueue :=
  match q.queue with
  | [] => q
  | id :: _ =>
    if q.started = none then { q with started := some id, timeouts := q.timeouts ++ [id] } else q

def done (id : ℕ) : RpcQueue := run { q with queue := q.queue.filter (· ≠ id), started := none }

def register (id : ℕ) : RpcQueue := run { q with queue := q.queue ++ [id] }

end RpcQueue

/-! ### Calls, timeouts and messages -/

/-- `ChangeEventData` of a call. -/
structure PickupArea (Bounds Center : Type) where
  bounds : Bounds
  center : Center
  deriving DecidableEq

structure Change (Bounds Center : Type) where
  pickupBounds : Bounds
  pickupArea : PickupArea Bounds Center
  deriving DecidableEq

/-- The queue, the tasks that listen for an update, and a record of the requests that were sent, of
the answers that came and of the calls that were resolved. A call is known by the id of its task. -/
structure PickupBounds (Bounds Center Points : Type) where
  boundsChangeQ : RpcQueue
  listeners : List ℕ
  sent : List (Change Bounds Center)
  answers : List Points
  resolved : List (ℕ × Points)
  deriving DecidableEq

inductive PickupEvent (Bounds Center Points : Type)
  | pickupBoundsChange (bounds : Bounds) (center : Center)
  | timeout (id : ℕ)
  | answer (pickupPoints : Points)

namespace PickupBounds

variable {Bounds Center Points : Type}

/-- `pickupBoundsChange` -/
def pickupBoundsChange (s : PickupBounds Bounds Center Points) (bounds : Bounds)
    (center : Center) : PickupBounds Bounds Center Points :=
  let id := s.boundsChangeQ.idx + 1
  { s with
    boundsChangeQ := { s.boundsChangeQ with idx := id }.register id
    sent := s.sent ++ [⟨bounds, ⟨bounds, center⟩⟩] }

/-- The listener that a task puts on, called with a message that has pickup points. -/
def onUpdate (pickupPoints : Points) (id : ℕ) (s : PickupBounds Bounds Center Points) :
    PickupBounds Bounds Center Points :=
  { s with
    listeners := off s.listeners id
    boundsChangeQ := s.boundsChangeQ.done id
    resolved := s.resolved ++ [(id, pickupPoints)] }

/-- The page answers only requests that were sent. -/
def step (s : PickupBounds Bounds Center Points) :
    PickupEvent Bounds Center Points → Option (PickupBounds Bounds Center Points)
  | .pickupBoundsChange bounds center => some (s.pickupBoundsChange bounds center)
  | .timeout id =>
    if id ∈ s.boundsChangeQ.timeouts then
      some { s with
        boundsChangeQ :=
          { s.boundsChangeQ with timeouts := s.boundsChangeQ.timeouts.erase id }
        listeners := s.listeners ++ [id] }
    else none
  | .answer pickupPoints =>
    if s.answers.length < s.sent.length then
      some (emit s.listeners (onUpdate pickupPoints)
        { s with answers := s.answers ++ [pickupPoints] })
    else none

end PickupBounds

open PickupBounds

variable {Bounds Center Points : Type}

/-- The calls of a page that was just loaded. -/
def pickupBounds (Bounds Center Points : Type) :
    System (PickupBounds Bounds Center Points) (PickupEvent Bounds Center Points) where
  start := fun s ↦ s = ⟨{}, [], [], [], []⟩
  step := step

/-- What the callers expect: no call is resolved twice, every call is resolved by the answer to its
own request and, once no timeout is due, every answer that came has resolved its call and the queue
waits for none of them. -/
structure Matched (s : PickupBounds Bounds Center Points) : Prop where
  once : (s.resolved.map Prod.fst).Nodup
  own : ∀ p ∈ s.resolved, ∃ i, p.1 = i + 1 ∧ s.answers[i]? = some p.2
  received : s.boundsChangeQ.timeouts = [] → ∀ i pickupPoints,
    s.answers[i]? = some pickupPoints → (i + 1, pickupPoints) ∈ s.resolved
  waiting : s.boundsChangeQ.timeouts = [] → ∀ id ∈ s.boundsChangeQ.queue, s.answers.length < id

/-- An answer comes only when the task of its request listens. -/
def InTime (s : PickupBounds Bounds Center Points) : PickupEvent Bounds Center Points → Prop
  | .answer _ => s.answers.length + 1 ∈ s.listeners
  | _ => True

instance (s : PickupBounds Bounds Center Points) (e : PickupEvent Bounds Center Points) :
    Decidable (InTime s e) := by
  cases e <;> unfold InTime <;> infer_instance

/-! ### The queue and the task at its head -/

namespace RpcQueue

variable {q : RpcQueue}

theorem run_of_nil (h : q.queue = []) : q.run = q := by
  rw [run, h]

theorem run_of_started {id : ℕ} (h : q.started = some id) : q.run = q := by
  unfold run
  split
  · rfl
  · rw [if_neg (by simp [h])]

theorem run_of_cons {id : ℕ} {queue : List ℕ} (hqueue : q.queue = id :: queue)
    (hstarted : q.started = none) :
    q.run = { q with started := some id, timeouts := q.timeouts ++ [id] } := by
  rw [run, hqueue]
  exact if_pos hstarted

/-- Without its head a queue of consecutive ids is the queue of the others. -/
theorem filter_range' (k n : ℕ) :
    (List.range' k (n + 1)).filter (· ≠ k) = List.range' (k + 1) n := by
  rw [List.range'_succ, List.filter_cons_of_neg (by simp)]
  refine List.filter_eq_self.mpr fun id hid ↦ ?_
  rw [List.mem_range'_1] at hid
  exact decide_eq_true (by omega)

/-- The task at the head has been given to `setTimeout` or listens; the first `n` of the `idx` tasks
are done. -/
inductive Current (n idx : ℕ) : (started : Option ℕ) → (timeouts listeners : List ℕ) → Prop
  | idle (done : idx = n) : Current n idx none [] []
  | scheduled (more : n < idx) : Current n idx (some (n + 1)) [n + 1] []
  | listening (more : n < idx) : Current n idx (some (n + 1)) [] [n + 1]

/-- The first `n` tasks are done, and the others are served in their order, one after the other. -/
structure Serves (q : RpcQueue) (n : ℕ) (listeners : List ℕ) : Prop where
  le_idx : n ≤ q.idx
  queue : q.queue = List.range' (n + 1) (q.idx - n)
  current : Current n q.idx q.started q.timeouts listeners

variable {n : ℕ} {listeners : List ℕ}

theorem Serves.register (h : q.Serves n listeners) :
    (({ q with idx := q.idx + 1 } : RpcQueue).register (q.idx + 1)).Serves n listeners ∧
      (({ q with idx := q.idx + 1 } : RpcQueue).register (q.idx + 1)).idx = q.idx + 1 := by
  obtain ⟨idx, started, queue, timeouts⟩ := q
  obtain ⟨hle, hqueue, hcurrent⟩ := h
  simp only at hle hqueue hcurrent ⊢
  have hsnoc : queue ++ [idx + 1] = List.range' (n + 1) (idx + 1 - n) := by
    rw [hqueue, Nat.sub_add_comm hle, List.range'_1_concat]
    congr 2
    omega
  unfold RpcQueue.register
  cases hcurrent with
  | idle hdone =>
    have hcons : queue ++ [idx + 1] = [idx + 1] := by
      rw [hqueue, hdone, Nat.sub_self]
      rfl
    rw [run_of_cons hcons rfl]
    exact ⟨⟨Nat.le_succ_of_le hle, hsnoc, hdone ▸ .scheduled (Nat.lt_succ_self _)⟩, rfl⟩
  | scheduled hmore =>
    rw [@run_of_started _ (n + 1) rfl]
    exact ⟨⟨Nat.le_succ_of_le hle, hsnoc, .scheduled (Nat.lt_succ_of_lt hmore)⟩, rfl⟩
  | listening hmore =>
    rw [@run_of_started _ (n + 1) rfl]
    exact ⟨⟨Nat.le_succ_of_le hle, hsnoc, .listening (Nat.lt_succ_of_lt hmore)⟩, rfl⟩

theorem Serves.timeout {id : ℕ} (h : q.Serves n listeners) (hid : id ∈ q.timeouts) :
    ({ q with timeouts := q.timeouts.erase id } : RpcQueue).Serves n (listeners ++ [id]) := by
  obtain ⟨idx, started, queue, timeouts⟩ := q
  obtain ⟨hle, hqueue, hcurrent⟩ := h
  refine ⟨hle, hqueue, ?_⟩
  simp only at hcurrent hid ⊢
  cases hcurrent with
  | idle | listening => exact absurd hid List.not_mem_nil
  | scheduled hmore =>
    obtain rfl := List.mem_singleton.mp hid
    rw [List.erase_cons_head]
    exact .listening hmore

theorem Serves.done (h : q.Serves n [n + 1]) :
    (q.done (n + 1)).Serves (n + 1) [] ∧ (q.done (n + 1)).idx = q.idx := by
  obtain ⟨idx, started, queue, timeouts⟩ := q
  obtain ⟨hle, hqueue, hcurrent⟩ := h
  simp only at hle hqueue hcurrent ⊢
  cases hcurrent with
  | listening hmore =>
    have hrest : queue.filter (· ≠ n + 1) = List.range' (n + 2) (idx - (n + 1)) := by
      rw [hqueue, ← Nat.succ_pred_eq_of_pos (Nat.sub_pos_of_lt hmore), Nat.succ_eq_add_one,
        filter_range']
      rfl
    unfold RpcQueue.done
    simp only [hrest]
    rcases Nat.eq_or_lt_of_le hmore with hlast | hmore'
    · have hnil : List.range' (n + 2) (idx - (n + 1)) = [] := by
        rw [← hlast, Nat.sub_self]
        rfl
      rw [run_of_nil hnil]
      exact ⟨⟨hmore, rfl, .idle hlast.symm⟩, rfl⟩
    · obtain ⟨m, hm⟩ : ∃ m, idx - (n + 1) = m + 1 :=
        ⟨_, (Nat.sub_add_cancel (Nat.sub_pos_of_lt hmore')).symm⟩
      have hcons : List.range' (n + 2) (idx - (n + 1)) = (n + 2) :: List.range' (n + 3) m := by
        rw [hm, List.range'_succ]
      rw [run_of_cons hcons rfl]
      exact ⟨⟨hmore, rfl, .scheduled hmore'⟩, rfl⟩

theorem Serves.listeners_eq (h : q.Serves n listeners) : listeners = [] ∨ listeners = [n + 1] := by
  obtain ⟨idx, started, queue, timeouts⟩ := q
  obtain ⟨-, -, hcurrent⟩ := h
  simp only at hcurrent
  cases hcurrent with
  | idle | scheduled => exact Or.inl rfl
  | listening => exact Or.inr rfl

end RpcQueue

/-! ### A run -/

/-- The calls are resolved in their order, at most as many as there are answers. -/
structure Serving (s : PickupBounds Bounds Center Points) : Prop where
  idx : s.boundsChangeQ.idx = s.sent.length
  asked : s.answers.length ≤ s.sent.length
  answered : s.resolved.length ≤ s.answers.length
  resolved : s.resolved.map Prod.fst = List.range' 1 s.resolved.length
  serves : s.boundsChangeQ.Serves s.resolved.length s.listeners

/-- What a step does; an answer resolves the call whose task listens, whichever request it
answers. -/
inductive Moves (s : PickupBounds Bounds Center Points) :
    PickupEvent Bounds Center Points → PickupBounds Bounds Center Points → Prop
  | called (bounds : Bounds) (center : Center) :
    Moves s (.pickupBoundsChange bounds center) (s.pickupBoundsChange bounds center)
  | timedOut {id : ℕ} (due : id ∈ s.boundsChangeQ.timeouts) : Moves s (.timeout id) { s with
      boundsChangeQ := { s.boundsChangeQ with timeouts := s.boundsChangeQ.timeouts.erase id }
      listeners := s.listeners ++ [id] }
  | answered (pickupPoints : Points) (asked : s.answers.length < s.sent.length)
    (listening : s.listeners = [s.resolved.length + 1]) : Moves s (.answer pickupPoints) { s with
      boundsChangeQ := s.boundsChangeQ.done (s.resolved.length + 1)
      listeners := []
      answers := s.answers ++ [pickupPoints]
      resolved := s.resolved ++ [(s.resolved.length + 1, pickupPoints)] }
  | lost (pickupPoints : Points) (asked : s.answers.length < s.sent.length)
    (deaf : s.listeners = []) : Moves s (.answer pickupPoints) { s with
      answers := s.answers ++ [pickupPoints] }

theorem moves_of_step {s t : PickupBounds Bounds Center Points}
    {e : PickupEvent Bounds Center Points} (hs : Serving s)
    (h : (pickupBounds Bounds Center Points).step s e = some t) : Moves s e t := by
  change PickupBounds.step s e = some t at h
  cases e with
  | pickupBoundsChange bounds center =>
    obtain rfl := Option.some.inj h
    exact .called bounds center
  | timeout id =>
    simp only [PickupBounds.step] at h
    split_ifs at h with hdue
    obtain rfl := Option.some.inj h
    exact .timedOut hdue
  | answer pickupPoints =>
    simp only [PickupBounds.step] at h
    split_ifs at h with hasked
    obtain rfl := Option.some.inj h
    have hlisteners := hs.serves.listeners_eq
    obtain ⟨q, listeners, sent, answers, resolved⟩ := s
    simp only at hlisteners
    rcases hlisteners with rfl | rfl
    · exact .lost pickupPoints hasked rfl
    · simp only [emit, List.foldl_cons, List.foldl_nil, onUpdate, off_singleton]
      exact .answered pickupPoints hasked rfl

theorem Serving.step {s t : PickupBounds Bounds Center Points}
    {e : PickupEvent Bounds Center Points} (h : Serving s) (hstep : Moves s e t) :
    Serving t := by
  obtain ⟨hidx, hasked, hanswered, hresolved, hserves⟩ := h
  cases hstep with
  | called bounds center =>
    obtain ⟨hserves', hidx'⟩ := hserves.register
    have hsent : (s.pickupBoundsChange bounds center).sent.length = s.sent.length + 1 :=
      List.length_append
    refine ⟨hidx'.trans (by rw [hsent, hidx]), ?_, hanswered, hresolved, hserves'⟩
    rw [hsent]
    exact Nat.le_succ_of_le hasked
  | timedOut hdue => exact ⟨hidx, hasked, hanswered, hresolved, hserves.timeout hdue⟩
  | answered pickupPoints hopen hlistening =>
    rw [hlistening] at hserves
    obtain ⟨hserves', hidx'⟩ := hserves.done
    have hlength : (s.resolved ++ [(s.resolved.length + 1, pickupPoints)]).length =
        s.resolved.length + 1 := List.length_append
    refine ⟨hidx'.trans hidx, ?_, ?_, ?_, ?_⟩
    · rw [List.length_append]
      exact hopen
    · rw [hlength, List.length_append]
      exact Nat.succ_le_succ hanswered
    · rw [hlength, List.map_append, hresolved, List.range'_1_concat, Nat.add_comm 1]
      rfl
    · rw [hlength]
      exact hserves'
  | lost pickupPoints hopen hdeaf =>
    refine ⟨hidx, ?_, ?_, hresolved, hserves⟩
    · rw [List.length_append]
      exact hopen
    · rw [List.length_append]
      exact Nat.le_succ_of_le hanswered

theorem serving_of_reachable {policy : Policy (PickupBounds Bounds Center Points)
      (PickupEvent Bounds Center Points)} {s : PickupBounds Bounds Center Points}
    (hs : (pickupBounds Bounds Center Points).Reachable policy s) : Serving s := by
  refine hs.invariant ?_ fun s e t h _ hstep ↦ h.step (moves_of_step h hstep)
  rintro s rfl
  exact ⟨rfl, le_rfl, le_rfl, rfl, ⟨le_rfl, rfl, .idle rfl⟩⟩

/-- In time, the calls that are resolved are those whose answers came. -/
theorem answers_eq_of_reachable {s : PickupBounds Bounds Center Points}
    (hs : (pickupBounds Bounds Center Points).Reachable InTime s) :
    s.resolved.map Prod.snd = s.answers := by
  refine hs.invariant_of (J := Serving) (I := fun s ↦ s.resolved.map Prod.snd = s.answers)
    (fun s hs ↦ serving_of_reachable hs) ?_ ?_
  · rintro s rfl
    rfl
  · intro s e t hserving hanswers hintime hstep
    cases moves_of_step hserving hstep with
    | called | timedOut => exact hanswers
    | answered pickupPoints _ hlistening => rw [List.map_append, hanswers]; rfl
    | lost pickupPoints _ hdeaf =>
      rw [InTime, hdeaf] at hintime
      exact absurd hintime List.not_mem_nil

theorem Serving.fst_eq {s : PickupBounds Bounds Center Points} (h : Serving s) {i : ℕ}
    {call : ℕ × Points} (hcall : s.resolved[i]? = some call) : call.1 = i + 1 := by
  have hlt : i < s.resolved.length := (List.getElem?_eq_some_iff.mp hcall).1
  have hfst : (s.resolved.map Prod.fst)[i]? = some call.1 := by
    rw [List.getElem?_map, hcall]
    rfl
  rw [h.resolved, List.getElem?_range' hlt, Option.some.injEq] at hfst
  omega

theorem Serving.matched {s : PickupBounds Bounds Center Points} (h : Serving s)
    (hanswers : s.resolved.map Prod.snd = s.answers) : Matched s where
  once := h.resolved ▸ List.nodup_range'
  own := by
    intro call hcall
    obtain ⟨i, hi⟩ := List.mem_iff_getElem?.mp hcall
    refine ⟨i, h.fst_eq hi, ?_⟩
    rw [← hanswers, List.getElem?_map, hi]
    rfl
  received := by
    intro _ i pickupPoints hanswer
    rw [← hanswers, List.getElem?_map, Option.map_eq_some_iff] at hanswer
    obtain ⟨call, hcall, rfl⟩ := hanswer
    rw [← h.fst_eq hcall]
    exact List.mem_of_getElem? hcall
  waiting := by
    intro _ id hid
    rw [h.serves.queue, List.mem_range'_1] at hid
    rw [← hanswers, List.length_map]
    exact hid.1

/-! ### Lost answers -/

/-- An answer was lost. -/
def Behind (s : PickupBounds Bounds Center Points) : Prop := s.resolved.length < s.answers.length

theorem Behind.step {s t : PickupBounds Bounds Center Points}
    {e : PickupEvent Bounds Center Points} (h : Behind s) (hstep : Moves s e t) : Behind t := by
  unfold Behind at h ⊢
  cases hstep with
  | called | timedOut => exact h
  | answered | lost =>
    simp only [List.length_append, List.length_singleton]
    omega

/-- An answer that does not come in time leaves the calls behind. -/
theorem behind_of_not_inTime {s t : PickupBounds Bounds Center Points}
    {e : PickupEvent Bounds Center Points} (h : Serving s) (hlate : ¬InTime s e)
    (hstep : Moves s e t) : Behind t := by
  have hanswered := h.answered
  unfold Behind
  cases hstep with
  | called | timedOut => exact absurd trivial hlate
  | answered pickupPoints _ hlistening =>
    rw [InTime, hlistening, List.mem_singleton] at hlate
    simp only [List.length_append, List.length_singleton]
    omega
  | lost =>
    simp only [List.length_append, List.length_singleton]
    omega

theorem Serving.not_matched {s : PickupBounds Bounds Center Points} (h : Serving s)
    (hbehind : Behind s) (hquiet : s.boundsChangeQ.timeouts = []) : ¬Matched s := by
  intro hmatched
  have hanswer : s.answers[s.resolved.length]? = some s.answers[s.resolved.length] :=
    List.getElem?_eq_getElem hbehind
  have hresolved := hmatched.received hquiet _ _ hanswer
  have hid := List.mem_map_of_mem (f := Prod.fst) hresolved
  rw [h.resolved, List.mem_range'_1] at hid
  omega

/-- If every answer comes in time, every call is settled by its own answer. After one that does not
come in time, some answer has settled no call whenever no timeout is due. -/
theorem pickupBounds_matched (Bounds Center Points : Type) :
    (∀ s, (pickupBounds Bounds Center Points).Reachable InTime s → Matched s) ∧
    ∀ s e t u, (pickupBounds Bounds Center Points).Reachable (fun _ _ ↦ True) s → ¬InTime s e →
      (pickupBounds Bounds Center Points).step s e = some t →
      (pickupBounds Bounds Center Points).Leads (fun _ _ ↦ True) t u →
      u.boundsChangeQ.timeouts = [] → ¬Matched u := by
  constructor
  · intro s hs
    exact (serving_of_reachable hs).matched (answers_eq_of_reachable hs)
  · intro s e t u hs hlate hstep htu hquiet
    have hserving := serving_of_reachable hs
    have ht : (pickupBounds Bounds Center Points).Reachable (fun _ _ ↦ True) t :=
      hs.tail trivial hstep
    have hbehind : Behind u := by
      refine htu.preserves_of (J := Serving) (I := Behind) (fun s hs ↦ serving_of_reachable hs) ?_
        ht (behind_of_not_inTime hserving hlate (moves_of_step hserving hstep))
      intro s e t hserving hbehind _ hstep
      exact hbehind.step (moves_of_step hserving hstep)
    exact (serving_of_reachable (ht.leads htu)).not_matched hbehind hquiet

/-- Two calls; each answer comes after the timeout of its task. -/
def answersInTime : List (PickupEvent Unit Unit ℕ) :=
  [.pickupBoundsChange () (), .pickupBoundsChange () (), .timeout 1, .answer 10, .timeout 2,
    .answer 20]

theorem pickupBounds_matched_witness : ∃ s : PickupBounds Unit Unit ℕ,
    s.resolved = [(1, 10), (2, 20)] ∧ Matched s := by
  obtain ⟨s, hrun, hresolved⟩ : ∃ s, (pickupBounds Unit Unit ℕ).run InTime ⟨{}, [], [], [], []⟩
      answersInTime = some s ∧ s.resolved = [(1, 10), (2, 20)] := ⟨_, rfl, rfl⟩
  exact ⟨s, hresolved,
    (pickupBounds_matched Unit Unit ℕ).1 s ⟨_, rfl, System.leads_of_run hrun⟩⟩

/-- Two calls; the answer to the first comes before its task listens. -/
def earlyAnswer : List (PickupEvent Unit Unit ℕ) :=
  [.pickupBoundsChange () (), .pickupBoundsChange () (), .answer 10, .timeout 1]

theorem not_matched_earlyAnswer : ¬∀ s,
    (pickupBounds Unit Unit ℕ).Reachable (fun _ _ ↦ True) s → Matched s := by
  intro hmatched
  have hrun : ((pickupBounds Unit Unit ℕ).run (fun _ _ ↦ True) ⟨{}, [], [], [], []⟩
      earlyAnswer).isSome := rfl
  have hlost := hmatched _ (System.reachable_get rfl hrun)
  exact absurd (hlost.received rfl 0 10 rfl) List.not_mem_nil

end YandexPay.Intercom
