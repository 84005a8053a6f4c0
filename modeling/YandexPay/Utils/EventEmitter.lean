import YandexPay.Library.JsValue
import YandexPay.Library.Transition
import YandexPay.Library.Traversals
import Mathlib.Logic.Function.Basic

/-!
# The event emitter

`EventEmitter` keeps an array of listeners for every event. `on` and `once` append to the array in
place, `off` puts a filtered copy in its place, and `emit` runs `forEach` over the array that it
finds: the listeners called are those of the start, whatever the handlers do to the emitter. A
listener of `once` takes itself off when it is called, which the copies that other calls of `emit`
still run over do not notice.

Handlers are open: any call of a method may be made from any handler, and a handler returns or
throws. `Run` is the emitter with the calls of `emit` that have not ended, and with the history that
is judged: what was registered when each one started, and which listeners it called.
-/

set_option autoImplicit false
set_option relaxedAutoImplicit false

namespace YandexPay.EventEmitter

open Transition

variable {F : Type}

/-! ### The emitter -/

/-- A function that is registered: one that `on` was given, or the closure `onceFn` that a call of
`once` has made. -/
inductive EventListener (F : Type)
  | fn (fn : F)
  | onceFn (closure : ℕ) (eventName : String) (fn : F)
  deriving DecidableEq

/-- The arrays that were created, and which of them `this.listeners` holds for an event. -/
structure Emitter (F : Type) where
  arrays : List (List (EventListener F)) := []
  listeners : String → Option ℕ := fun _ ↦ none

namespace Emitter

variable (emitter : Emitter F)

/-- An array by its number. -/
def array (a : ℕ) : List (EventListener F) := emitter.arrays.getD a []

/-- `this.listeners[eventName] || []` -/
def current (eventName : String) : List (EventListener F) :=
  (emitter.listeners eventName).elim [] emitter.array

/-- `on`, and `once` with its closure. -/
def push (eventName : String) (listener : EventListener F) : Emitter F :=
  match emitter.listeners eventName with
  | some a => { emitter with arrays := emitter.arrays.modify a (· ++ [listener]) }
  | none =>
    { arrays := emitter.arrays ++ [[listener]]
      listeners := Function.update emitter.listeners eventName (some emitter.arrays.length) }

def off [DecidableEq F] (eventName : String) (fn : Option (EventListener F)) : Emitter F :=
  match fn with
  | some fn =>
    { arrays := emitter.arrays ++ [(emitter.current eventName).filter fun fn' ↦ fn ≠ fn']
      listeners := Function.update emitter.listeners eventName (some emitter.arrays.length) }
  | none =>
    { emitter with listeners := Function.update emitter.listeners eventName none }

def clear : Emitter F := { emitter with listeners := fun _ ↦ none }

end Emitter

/-- A `forEach` that has not ended: its array, the length that it had, and the next index. -/
structure ForEach where
  emission : ℕ
  array : ℕ
  len : ℕ
  next : ℕ

/-- The listeners that are left to it. -/
def ForEach.pending (emitter : Emitter F) (frame : ForEach) : List (EventListener F) :=
  ((emitter.array frame.array).take frame.len).drop frame.next

/-! ### Runs -/

/-- What is registered, by the calls that were made. -/
abbrev Registry (F : Type) := String → List (EventListener F)

structure Run (F : Type) where
  emitter : Emitter F := {}
  /-- The calls of `forEach` that have not ended, the innermost first. -/
  stack : List ForEach := []
  closures : ℕ := 0
  registry : Registry F := fun _ ↦ []
  /-- What was registered for the event when the calls of `emit` started. -/
  emissions : List (List (EventListener F)) := []
  calls : List (ℕ × EventListener F) := []
  /-- The calls of `emit` that returned. -/
  completed : List ℕ := []

namespace Run

variable (s : Run F)

/-- `forEach` begins, on the array of the event or on an empty one. -/
def begin (eventName : String) : Run F :=
  let found := s.emitter.listeners eventName
  { s with
    emitter := { s.emitter with
                 arrays := s.emitter.arrays ++ found.elim [[]] fun _ ↦ [] }
    stack := { emission := s.emissions.length
               array := found.getD s.emitter.arrays.length
               len := (s.emitter.current eventName).length
               next := 0 } :: s.stack
    emissions := s.emissions ++ [s.registry eventName] }

variable [DecidableEq F]

/-- What a listener does before the handler runs. -/
def enter : EventListener F → Run F
  | .fn _ => s
  | .onceFn closure eventName fn =>
    { s with
      emitter := s.emitter.off eventName (some (.onceFn closure eventName fn))
      registry := Function.update s.registry eventName
        ((s.registry eventName).filter fun fn' ↦ .onceFn closure eventName fn ≠ fn') }

/-- `forEach` goes on: it calls the next listener, or it ends and so does its `emit`. -/
def resume : Run F :=
  match s.stack with
  | [] => s
  | frame :: outer =>
    match frame.pending s.emitter with
    | [] => { s with stack := outer, completed := s.completed ++ [frame.emission] }
    | listener :: _ =>
      enter { s with
              stack := { frame with next := frame.next + 1 } :: outer
              calls := s.calls ++ [(frame.emission, listener)] } listener

end Run

/-- The calls that top-level code or a handler makes, and the ends of a handler. -/
inductive Action (F : Type)
  | on (eventName : String) (fn : F)
  | once (eventName : String) (fn : F)
  | off (eventName : String) (fn : Option (EventListener F))
  | clear
  | emit (eventName : String)
  | ret
  | throw
  deriving DecidableEq

section

variable [DecidableEq F]

/-- A step of a run. What `this.listeners` inherits from `Object.prototype` is no array, so that
methods throw on these names before they change anything. -/
def step (s : Run F) : Action F → Option (Run F)
  | .on eventName fn =>
    some (if eventName ∈ objectPrototypeKeys then s
      else { s with
             emitter := s.emitter.push eventName (.fn fn)
             registry := Function.update s.registry eventName
               (s.registry eventName ++ [.fn fn]) })
  | .once eventName fn =>
    let onceFn := .onceFn s.closures eventName fn
    some (if eventName ∈ objectPrototypeKeys then s
      else { s with
             emitter := s.emitter.push eventName onceFn
             closures := s.closures + 1
             registry := Function.update s.registry eventName
               (s.registry eventName ++ [onceFn]) })
  | .off eventName fn =>
    some (if eventName ∈ objectPrototypeKeys then s
      else { s with
             emitter := s.emitter.off eventName fn
             registry := Function.update s.registry eventName
               (fn.elim [] fun fn ↦ (s.registry eventName).filter fun fn' ↦ fn ≠ fn') })
  | .clear => some { s with emitter := s.emitter.clear, registry := fun _ ↦ [] }
  | .emit eventName =>
    some (if eventName ∈ objectPrototypeKeys then s else (s.begin eventName).resume)
  | .ret => if s.stack.isEmpty then none else some s.resume
  | .throw => if s.stack.isEmpty then none else some { s with stack := s.stack.tail }

/-- An emitter from its construction on. -/
def system : System (Run F) (Action F) where
  start s := s = {}
  step := step

end

/-! ### Arrays that grow -/

namespace Emitter

/-- The arrays of an emitter are kept, or appended to. -/
structure Grows (emitter emitter' : Emitter F) : Prop where
  length : emitter.arrays.length ≤ emitter'.arrays.length
  isPrefix : ∀ a < emitter.arrays.length, emitter.array a <+: emitter'.array a

section

variable (emitter : Emitter F)

theorem array_append (arrays : List (List (EventListener F)))
    (listeners : String → Option ℕ) {a : ℕ} (ha : a < emitter.arrays.length) :
    (⟨emitter.arrays ++ arrays, listeners⟩ : Emitter F).array a = emitter.array a := by
  rw [array, array, List.getD_eq_getElem?_getD, List.getD_eq_getElem?_getD,
    List.getElem?_append_left ha]

theorem array_length (array : List (EventListener F)) (listeners : String → Option ℕ) :
    (⟨emitter.arrays ++ [array], listeners⟩ : Emitter F).array emitter.arrays.length = array := by
  rw [Emitter.array, List.getD_eq_getElem?_getD, List.getElem?_concat_length, Option.getD_some]

theorem grows_append (arrays : List (List (EventListener F))) (listeners : String → Option ℕ) :
    emitter.Grows ⟨emitter.arrays ++ arrays, listeners⟩ where
  length := by
    rw [List.length_append]
    exact Nat.le_add_right _ _
  isPrefix a ha := by
    rw [array_append emitter arrays listeners ha]

theorem array_push {eventName : String} {a : ℕ} (h : emitter.listeners eventName = some a)
    (listener : EventListener F) {b : ℕ} (hb : b < emitter.arrays.length) :
    (emitter.push eventName listener).array b =
      emitter.array b ++ if a = b then [listener] else [] := by
  rw [push, h]
  change (emitter.arrays.modify a (· ++ [listener])).getD b [] = emitter.arrays.getD b [] ++ _
  rw [List.getD_eq_getElem?_getD, List.getD_eq_getElem?_getD, List.getElem?_modify,
    List.getElem?_eq_getElem hb]
  by_cases hab : a = b
  · simp [hab]
  · simp [hab]

theorem grows_push (eventName : String) (listener : EventListener F) :
    emitter.Grows (emitter.push eventName listener) := by
  cases h : emitter.listeners eventName with
  | none =>
    rw [push, h]
    exact emitter.grows_append _ _
  | some a =>
    constructor
    · rw [push, h]
      change _ ≤ (emitter.arrays.modify a _).length
      rw [List.length_modify]
    · intro b hb
      rw [emitter.array_push h listener hb]
      exact List.prefix_append _ _

theorem grows_off [DecidableEq F] (eventName : String) (fn : Option (EventListener F)) :
    emitter.Grows (emitter.off eventName fn) := by
  cases fn with
  | none => exact ⟨le_rfl, fun a _ ↦ List.prefix_rfl⟩
  | some fn => exact emitter.grows_append _ _

end

/-! ### The arrays of the events -/

/-- The arrays of the events are there, and apart. -/
structure WellFormed (emitter : Emitter F) : Prop where
  lt : ∀ eventName a, emitter.listeners eventName = some a → a < emitter.arrays.length
  apart : ∀ eventName eventName' a, emitter.listeners eventName = some a →
    emitter.listeners eventName' = some a → eventName = eventName'

variable {emitter : Emitter F}

/-- The array of another event stays as it is. -/
theorem WellFormed.current_append (h : emitter.WellFormed) (eventName : String)
    (array : List (EventListener F)) :
    Emitter.current ⟨emitter.arrays ++ [array],
        Function.update emitter.listeners eventName (some emitter.arrays.length)⟩ =
      Function.update emitter.current eventName array := by
  funext e
  unfold current
  by_cases he : e = eventName
  · subst he
    simp only [Function.update_self, Option.elim_some]
    exact emitter.array_length _ _
  · simp only [Function.update_of_ne he]
    cases ha : emitter.listeners e with
    | none => rfl
    | some a => exact emitter.array_append _ _ (h.lt e a ha)

/-- An event is given an array that is new. -/
theorem WellFormed.append (h : emitter.WellFormed) (eventName : String)
    (array : List (EventListener F)) :
    WellFormed ⟨emitter.arrays ++ [array],
      Function.update emitter.listeners eventName (some emitter.arrays.length)⟩ := by
  have hcases : ∀ e a, Function.update emitter.listeners eventName
      (some emitter.arrays.length) e = some a →
        (e = eventName ∧ a = emitter.arrays.length) ∨
          (e ≠ eventName ∧ emitter.listeners e = some a ∧ a < emitter.arrays.length) := by
    intro e a ha
    by_cases he : e = eventName
    · subst he
      rw [Function.update_self] at ha
      exact Or.inl ⟨rfl, (Option.some.inj ha).symm⟩
    · rw [Function.update_of_ne he] at ha
      exact Or.inr ⟨he, ha, h.lt e a ha⟩
  constructor
  · intro e a ha
    change a < (emitter.arrays ++ [array]).length
    rw [List.length_append, List.length_singleton]
    rcases hcases e a ha with ⟨-, rfl⟩ | ⟨-, -, hlt⟩
    · exact Nat.lt_succ_self _
    · exact hlt.trans (Nat.lt_succ_self _)
  · intro e e' a ha ha'
    rcases hcases e a ha with ⟨rfl, rfl⟩ | ⟨-, ha, hlt⟩
    · rcases hcases e' _ ha' with ⟨rfl, -⟩ | ⟨-, -, hlt⟩
      · rfl
      · exact absurd hlt (lt_irrefl _)
    · rcases hcases e' a ha' with ⟨-, rfl⟩ | ⟨-, ha', -⟩
      · exact absurd hlt (lt_irrefl _)
      · exact h.apart e e' a ha ha'

/-- An array that no event has changes nothing. -/
theorem WellFormed.grow (h : emitter.WellFormed) (arrays : List (List (EventListener F))) :
    WellFormed ⟨emitter.arrays ++ arrays, emitter.listeners⟩ ∧
      Emitter.current ⟨emitter.arrays ++ arrays, emitter.listeners⟩ = emitter.current := by
  refine ⟨⟨fun e a ha ↦ ?_, h.apart⟩, funext fun e ↦ ?_⟩
  · exact (h.lt e a ha).trans_le (emitter.grows_append arrays emitter.listeners).length
  · unfold current
    cases ha : emitter.listeners e with
    | none => rfl
    | some a => exact emitter.array_append _ _ (h.lt e a ha)

theorem WellFormed.push (h : emitter.WellFormed) (eventName : String)
    (listener : EventListener F) :
    (emitter.push eventName listener).WellFormed ∧
      (emitter.push eventName listener).current =
        Function.update emitter.current eventName (emitter.current eventName ++ [listener]) := by
  cases ha : emitter.listeners eventName with
  | none =>
    have hempty : emitter.current eventName = [] := by rw [current, ha, Option.elim_none]
    rw [hempty, List.nil_append, Emitter.push, ha]
    exact ⟨h.append eventName [listener], h.current_append eventName [listener]⟩
  | some a =>
    have hlisteners : (emitter.push eventName listener).listeners = emitter.listeners := by
      rw [Emitter.push, ha]
    have hlength : (emitter.push eventName listener).arrays.length = emitter.arrays.length := by
      rw [Emitter.push, ha]
      exact List.length_modify _ _ _
    refine ⟨⟨?_, ?_⟩, funext fun e ↦ ?_⟩
    · rw [hlisteners, hlength]
      exact h.lt
    · rw [hlisteners]
      exact h.apart
    · rw [current, hlisteners]
      by_cases he : e = eventName
      · subst he
        rw [Function.update_self, ha, Option.elim_some,
          emitter.array_push ha listener (h.lt e a ha), if_pos rfl, current, ha, Option.elim_some]
      · rw [Function.update_of_ne he, current]
        cases hb : emitter.listeners e with
        | none => rfl
        | some b =>
          have hab : a ≠ b := fun heq ↦ he (h.apart e eventName b hb (heq ▸ ha))
          rw [Option.elim_some, Option.elim_some, emitter.array_push ha listener (h.lt e b hb),
            if_neg hab, List.append_nil]

theorem WellFormed.off [DecidableEq F] (h : emitter.WellFormed) (eventName : String)
    (fn : Option (EventListener F)) :
    (emitter.off eventName fn).WellFormed ∧
      (emitter.off eventName fn).current = Function.update emitter.current eventName
        (fn.elim [] fun fn ↦ (emitter.current eventName).filter fun fn' ↦ fn ≠ fn') := by
  cases fn with
  | some fn => exact ⟨h.append eventName _, h.current_append eventName _⟩
  | none =>
    have hold : ∀ e a, Function.update emitter.listeners eventName none e = some a →
        emitter.listeners e = some a := by
      intro e a ha
      by_cases he : e = eventName
      · subst he
        rw [Function.update_self] at ha
        cases ha
      · rwa [Function.update_of_ne he] at ha
    refine ⟨⟨fun e a ha ↦ h.lt e a (hold e a ha), fun e e' a ha ha' ↦
      h.apart e e' a (hold e a ha) (hold e' a ha')⟩, funext fun e ↦ ?_⟩
    change (Function.update emitter.listeners eventName none e).elim [] emitter.array = _
    by_cases he : e = eventName
    · subst he
      rw [Function.update_self, Function.update_self]
      rfl
    · rw [Function.update_of_ne he, Function.update_of_ne he]
      rfl

end Emitter

/-! ### Runs as nested traversals -/

def EventListener.isOnce : EventListener F → Bool
  | .fn _ => false
  | .onceFn .. => true

namespace Run

/-- Each call of `emit` traverses what was registered when it started. -/
def traversals (s : Run F) : Traversals (EventListener F) where
  lists := s.emissions
  active := s.stack.map fun frame ↦ (frame.emission, frame.pending s.emitter)
  visits := s.calls
  completed := s.completed

/-- The arrays that `forEach` runs over are there, and those of the events hold what is
registered. -/
structure Faithful (s : Run F) : Prop where
  wellFormed : s.emitter.WellFormed
  current : s.emitter.current = s.registry
  frames : ∀ frame ∈ s.stack, frame.array < s.emitter.arrays.length ∧
    frame.len ≤ (s.emitter.array frame.array).length

end Run

/-- Growing arrays change nothing of what is left to a `forEach`. -/
theorem pending_of_grows {emitter emitter' : Emitter F} (h : emitter.Grows emitter')
    {frame : ForEach} (harray : frame.array < emitter.arrays.length)
    (hlen : frame.len ≤ (emitter.array frame.array).length) :
    frame.pending emitter' = frame.pending emitter := by
  obtain ⟨added, hadded⟩ := h.isPrefix frame.array harray
  rw [ForEach.pending, ForEach.pending, ← hadded, List.take_append_of_le_length hlen]

theorem frames_of_grows {emitter emitter' : Emitter F} (h : emitter.Grows emitter')
    {frame : ForEach} (hframe : frame.array < emitter.arrays.length ∧
      frame.len ≤ (emitter.array frame.array).length) :
    frame.array < emitter'.arrays.length ∧ frame.len ≤ (emitter'.array frame.array).length :=
  ⟨hframe.1.trans_le h.length, hframe.2.trans (h.isPrefix frame.array hframe.1).length_le⟩

namespace Run

/-- A change of the emitter and of what is registered, with everything else as it is. -/
theorem Faithful.change {s : Run F} (h : s.Faithful) {emitter : Emitter F} {registry : Registry F}
    (closures : ℕ) (hgrows : s.emitter.Grows emitter)
    (hemitter : emitter.WellFormed ∧ emitter.current = registry) :
    Faithful { s with emitter, registry, closures } ∧
      traversals { s with emitter, registry, closures } = s.traversals := by
  refine ⟨⟨hemitter.1, hemitter.2, fun frame hframe ↦
    frames_of_grows hgrows (h.frames frame hframe)⟩, ?_⟩
  unfold traversals
  congr 1
  refine List.map_congr_left fun frame hframe ↦ ?_
  obtain ⟨harray, hlen⟩ := h.frames frame hframe
  rw [pending_of_grows hgrows harray hlen]

theorem Faithful.push {s : Run F} (h : s.Faithful) (eventName : String)
    (listener : EventListener F) (closures : ℕ) :
    Faithful { s with
                emitter := s.emitter.push eventName listener
                closures
                registry := Function.update s.registry eventName
                  (s.registry eventName ++ [listener]) } ∧
      traversals { s with
                    emitter := s.emitter.push eventName listener
                    closures
                    registry := Function.update s.registry eventName
                      (s.registry eventName ++ [listener]) } = s.traversals := by
  refine h.change closures (s.emitter.grows_push eventName listener) ?_
  rw [← h.current]
  exact h.wellFormed.push eventName listener

theorem Faithful.clear {s : Run F} (h : s.Faithful) :
    Faithful { s with emitter := s.emitter.clear, registry := fun _ ↦ [] } ∧
      traversals { s with emitter := s.emitter.clear, registry := fun _ ↦ [] } = s.traversals := by
  refine h.change s.closures ⟨le_rfl, fun a _ ↦ List.prefix_rfl⟩ ⟨⟨?_, ?_⟩, rfl⟩
  · intro eventName a ha
    cases ha
  · intro eventName eventName' a ha
    cases ha

theorem Faithful.begin {s : Run F} (h : s.Faithful) (eventName : String) :
    (s.begin eventName).Faithful ∧
      (s.begin eventName).traversals = s.traversals.begin (s.registry eventName) := by
  have hgrows : s.emitter.Grows (s.begin eventName).emitter := s.emitter.grows_append _ _
  have hframes : ∀ frame ∈ s.stack, frame.pending (s.begin eventName).emitter =
      frame.pending s.emitter := by
    intro frame hframe
    obtain ⟨harray, hlen⟩ := h.frames frame hframe
    exact pending_of_grows hgrows harray hlen
  obtain ⟨hwellFormed, hcurrent⟩ := h.wellFormed.grow ((s.emitter.listeners eventName).elim [[]]
    fun _ ↦ [])
  have hfirst : ((s.emitter.listeners eventName).getD s.emitter.arrays.length) <
      (s.begin eventName).emitter.arrays.length ∧
      (s.begin eventName).emitter.array
        ((s.emitter.listeners eventName).getD s.emitter.arrays.length) =
          s.registry eventName := by
    rw [← h.current]
    unfold Run.begin Emitter.current
    cases ha : s.emitter.listeners eventName with
    | none =>
      simp only [Option.elim_none, Option.getD_none]
      refine ⟨?_, s.emitter.array_length _ _⟩
      rw [List.length_append]
      exact Nat.lt_succ_self _
    | some a =>
      have hlt := h.wellFormed.lt eventName a ha
      simp only [Option.elim_some, Option.getD_some, List.append_nil]
      exact ⟨hlt, trivial⟩
  have hlen : (s.emitter.current eventName).length = (s.registry eventName).length := by
    rw [h.current]
  refine ⟨⟨hwellFormed, hcurrent.trans h.current, ?_⟩, ?_⟩
  · intro frame hframe
    rcases List.mem_cons.mp hframe with rfl | hframe
    · exact ⟨hfirst.1, (hlen.trans (congrArg List.length hfirst.2.symm)).le⟩
    · exact frames_of_grows hgrows (h.frames frame hframe)
  · have hpending : ForEach.pending (s.begin eventName).emitter
        ⟨s.emissions.length, (s.emitter.listeners eventName).getD s.emitter.arrays.length,
          (s.emitter.current eventName).length, 0⟩ = s.registry eventName := by
      rw [ForEach.pending]
      simp only
      rw [hfirst.2, hlen, List.take_length, List.drop_zero]
    change Traversals.mk _ ((_, _) :: s.stack.map _) _ _ = _
    rw [hpending, List.map_congr_left fun frame hframe ↦ congrArg _ (hframes frame hframe)]
    rfl

section

variable [DecidableEq F]

theorem Faithful.off {s : Run F} (h : s.Faithful) (eventName : String)
    (fn : Option (EventListener F)) :
    Faithful { s with
                emitter := s.emitter.off eventName fn
                registry := Function.update s.registry eventName
                  (fn.elim [] fun fn ↦ (s.registry eventName).filter fun fn' ↦ fn ≠ fn') } ∧
      traversals { s with
                    emitter := s.emitter.off eventName fn
                    registry := Function.update s.registry eventName
                      (fn.elim [] fun fn ↦
                        (s.registry eventName).filter fun fn' ↦ fn ≠ fn') } = s.traversals := by
  refine h.change s.closures (s.emitter.grows_off eventName fn) ?_
  rw [← h.current]
  exact h.wellFormed.off eventName fn

theorem Faithful.enter {s : Run F} (h : s.Faithful) (listener : EventListener F) :
    (s.enter listener).Faithful ∧ (s.enter listener).traversals = s.traversals := by
  cases listener with
  | fn fn => exact ⟨h, rfl⟩
  | onceFn closure eventName fn => exact h.off eventName (some (.onceFn closure eventName fn))

theorem Faithful.resume {s : Run F} (h : s.Faithful) :
    s.resume.Faithful ∧ s.resume.traversals = s.traversals.next := by
  unfold Run.resume
  cases hstack : s.stack with
  | nil =>
    refine ⟨h, (Traversals.next_nil ?_).symm⟩
    rw [traversals, hstack, List.map_nil]
  | cons frame outer =>
    have hframe := h.frames frame (hstack ▸ List.mem_cons_self)
    have hframes : ∀ frame' ∈ outer, frame'.array < s.emitter.arrays.length ∧
        frame'.len ≤ (s.emitter.array frame'.array).length := fun frame' hframe' ↦
      h.frames frame' (hstack ▸ List.mem_cons_of_mem _ hframe')
    have hactive : s.traversals.active = (frame.emission, frame.pending s.emitter) ::
        outer.map fun frame ↦ (frame.emission, frame.pending s.emitter) := by
      rw [traversals, hstack, List.map_cons]
    cases hpending : frame.pending s.emitter with
    | nil =>
      rw [hpending] at hactive
      simp only [hpending]
      exact ⟨⟨h.wellFormed, h.current, hframes⟩, (Traversals.next_end hactive).symm⟩
    | cons listener rest =>
      rw [hpending] at hactive
      simp only [hpending]
      have hrest : ForEach.pending s.emitter { frame with next := frame.next + 1 } = rest := by
        rw [ForEach.pending, ← List.tail_drop]
        exact congrArg List.tail hpending
      have hcalled : Faithful { s with
          stack := { frame with next := frame.next + 1 } :: outer
          calls := s.calls ++ [(frame.emission, listener)] } :=
        ⟨h.wellFormed, h.current, List.forall_mem_cons.mpr ⟨hframe, hframes⟩⟩
      refine ⟨(hcalled.enter listener).1, (hcalled.enter listener).2.trans ?_⟩
      rw [Traversals.next_cons hactive, ← hrest]
      rfl

omit [DecidableEq F] in
theorem eq_or_eq_of_ite {c : Prop} [Decidable c] {s s' t : Run F}
    (h : some (if c then s else s') = some t) : t = s ∨ t = s' := by
  obtain rfl := Option.some.inj h
  exact ite_eq_or_eq c s s'

/-- What a step does to the emitter and to the traversals. -/
theorem step_traversals {s t : Run F} {action : Action F} (h : s.Faithful)
    (hstep : step s action = some t) :
    t.Faithful ∧ (t.traversals = s.traversals ∨
      (∃ eventName, action = .emit eventName ∧
        t.traversals = (s.traversals.begin (s.registry eventName)).next) ∨
      t.traversals = s.traversals.next ∨ t.traversals = s.traversals.abort) := by
  cases action with
  | on eventName fn =>
    rcases eq_or_eq_of_ite hstep with rfl | rfl
    · exact ⟨h, Or.inl rfl⟩
    · exact (h.push eventName (.fn fn) s.closures).imp_right Or.inl
  | once eventName fn =>
    rcases eq_or_eq_of_ite hstep with rfl | rfl
    · exact ⟨h, Or.inl rfl⟩
    · exact (h.push eventName (.onceFn s.closures eventName fn) (s.closures + 1)).imp_right Or.inl
  | off eventName fn =>
    rcases eq_or_eq_of_ite hstep with rfl | rfl
    · exact ⟨h, Or.inl rfl⟩
    · exact (h.off eventName fn).imp_right Or.inl
  | clear =>
    obtain rfl := Option.some.inj hstep
    exact h.clear.imp_right Or.inl
  | emit eventName =>
    rcases eq_or_eq_of_ite hstep with rfl | rfl
    · exact ⟨h, Or.inl rfl⟩
    · obtain ⟨hbegun, hbegin⟩ := h.begin eventName
      obtain ⟨hfaithful, hnext⟩ := hbegun.resume
      refine ⟨hfaithful, Or.inr (Or.inl ⟨eventName, rfl, ?_⟩)⟩
      rw [hnext, hbegin]
  | ret =>
    simp only [step] at hstep
    split_ifs at hstep with hempty
    obtain rfl := Option.some.inj hstep
    exact ⟨h.resume.1, Or.inr (Or.inr (Or.inl h.resume.2))⟩
  | throw =>
    simp only [step] at hstep
    split_ifs at hstep with hempty
    obtain rfl := Option.some.inj hstep
    refine ⟨⟨h.wellFormed, h.current, fun frame hframe ↦
      h.frames frame (List.mem_of_mem_tail hframe)⟩, Or.inr (Or.inr (Or.inr ?_))⟩
    rw [traversals, List.map_tail]
    rfl

end

/-! ### Closures of `once` -/

end Run

/-- The closure is one of those made so far. -/
def EventListener.Known (closures : ℕ) : EventListener F → Prop
  | .fn _ => True
  | .onceFn closure _ _ => closure < closures

/-- A closure is registered for the event that `once` was given. -/
def EventListener.OfEvent (eventName : String) : EventListener F → Prop
  | .fn _ => True
  | .onceFn _ eventName' _ => eventName' = eventName

theorem EventListener.Known.mono {closures closures' : ℕ} {listener : EventListener F}
    (h : listener.Known closures) (hle : closures ≤ closures') : listener.Known closures' := by
  cases listener with
  | fn fn => trivial
  | onceFn closure eventName fn => exact lt_of_lt_of_le h hle

namespace Run

variable [DecidableEq F]

/-- A closure is made once, registered once, and not registered any more when it was called. -/
structure Fresh (s : Run F) : Prop where
  ofEvent : ∀ eventName, ∀ listener ∈ s.registry eventName, listener.OfEvent eventName
  registered : ∀ eventName, ∀ listener ∈ s.registry eventName, listener.Known s.closures
  emissions : ∀ list ∈ s.emissions, ∀ listener ∈ list, listener.Known s.closures
  calls : ∀ call ∈ s.calls, call.2.Known s.closures
  once : ∀ eventName listener, listener.isOnce → (s.registry eventName).count listener ≤ 1
  uncalled : ∀ eventName, ∀ listener ∈ s.registry eventName, listener.isOnce →
    ∀ call ∈ s.calls, call.2 ≠ listener

/-- Less is registered, and what is called besides is registered no more. -/
theorem Fresh.shrink {s t : Run F} (h : s.Fresh) (hclosures : t.closures = s.closures)
    (hemissions : t.emissions = s.emissions)
    (hregistry : ∀ eventName, (t.registry eventName).Sublist (s.registry eventName))
    (hcalls : ∀ call ∈ t.calls, call ∈ s.calls ∨ (call.2.Known s.closures ∧
      (call.2.isOnce → ∀ eventName, call.2 ∉ t.registry eventName))) : t.Fresh where
  ofEvent eventName listener hmem :=
    h.ofEvent eventName listener ((hregistry eventName).subset hmem)
  registered eventName listener hmem := by
    rw [hclosures]
    exact h.registered eventName listener ((hregistry eventName).subset hmem)
  emissions := by
    rw [hemissions, hclosures]
    exact h.emissions
  calls call hcall := by
    rw [hclosures]
    rcases hcalls call hcall with hold | ⟨hknown, -⟩
    · exact h.calls call hold
    · exact hknown
  once eventName listener honce :=
    ((hregistry eventName).count_le listener).trans (h.once eventName listener honce)
  uncalled eventName listener hmem honce call hcall heq := by
    rcases hcalls call hcall with hold | ⟨-, hgone⟩
    · exact h.uncalled eventName listener ((hregistry eventName).subset hmem) honce call hold heq
    · exact hgone (heq ▸ honce) eventName (heq ▸ hmem)

/-- A listener is registered that is known now, and no closure made before. -/
theorem Fresh.push {s t : Run F} (h : s.Fresh) {eventName : String} {listener : EventListener F}
    (hclosures : s.closures ≤ t.closures) (hemissions : t.emissions = s.emissions)
    (hcalls : t.calls = s.calls)
    (hregistry : t.registry = Function.update s.registry eventName
      (s.registry eventName ++ [listener]))
    (hevent : listener.OfEvent eventName) (hknown : listener.Known t.closures)
    (hnew : listener.isOnce → ¬ listener.Known s.closures) : t.Fresh := by
  have hcases : ∀ e, ∀ l ∈ t.registry e, l ∈ s.registry e ∨ (e = eventName ∧ l = listener) := by
    intro e l hl
    rw [hregistry] at hl
    by_cases he : e = eventName
    · subst he
      rw [Function.update_self] at hl
      rcases List.mem_append.mp hl with hl | hl
      · exact Or.inl hl
      · exact Or.inr ⟨rfl, List.mem_singleton.mp hl⟩
    · rw [Function.update_of_ne he] at hl
      exact Or.inl hl
  constructor
  · intro e l hl
    rcases hcases e l hl with hl | ⟨rfl, rfl⟩
    · exact h.ofEvent e l hl
    · exact hevent
  · intro e l hl
    rcases hcases e l hl with hl | ⟨rfl, rfl⟩
    · exact (h.registered e l hl).mono hclosures
    · exact hknown
  · rw [hemissions]
    exact fun list hlist l hl ↦ (h.emissions list hlist l hl).mono hclosures
  · rw [hcalls]
    exact fun call hcall ↦ (h.calls call hcall).mono hclosures
  · intro e l honce
    rw [hregistry]
    by_cases he : e = eventName
    · subst he
      rw [Function.update_self, List.count_append, List.count_singleton]
      by_cases heq : listener = l
      · subst heq
        have habsent : listener ∉ s.registry e := fun hmem ↦
          hnew honce (h.registered e listener hmem)
        rw [List.count_eq_zero_of_not_mem habsent, if_pos (beq_self_eq_true listener)]
      · rw [if_neg (by simpa using heq), Nat.add_zero]
        exact h.once e l honce
    · rw [Function.update_of_ne he]
      exact h.once e l honce
  · intro e l hl honce call hcall
    rw [hcalls] at hcall
    rcases hcases e l hl with hl | ⟨rfl, rfl⟩
    · exact h.uncalled e l hl honce call hcall
    · exact fun heq ↦ hnew honce (heq ▸ h.calls call hcall)

omit [DecidableEq F] in
theorem update_sublist {registry : Registry F} {eventName : String}
    {listeners : List (EventListener F)} (h : listeners.Sublist (registry eventName)) (e : String) :
    (Function.update registry eventName listeners e).Sublist (registry e) := by
  by_cases he : e = eventName
  · subst he
    rwa [Function.update_self]
  · rw [Function.update_of_ne he]

theorem Fresh.begin {s : Run F} (h : s.Fresh) (eventName : String) : (s.begin eventName).Fresh where
  ofEvent := h.ofEvent
  registered := h.registered
  emissions list hlist listener hmem := by
    rcases List.mem_append.mp hlist with hlist | hlist
    · exact h.emissions list hlist listener hmem
    · obtain rfl := List.mem_singleton.mp hlist
      exact h.registered eventName listener hmem
  calls := h.calls
  once := h.once
  uncalled := h.uncalled

/-- A listener of `once` is taken off where it is registered. -/
theorem Fresh.resume {s : Run F} (h : s.Fresh) (hordered : s.traversals.Ordered) :
    s.resume.Fresh := by
  unfold Run.resume
  cases hstack : s.stack with
  | nil => exact h
  | cons frame outer =>
    cases hpending : frame.pending s.emitter with
    | nil =>
      simp only [hpending]
      exact h.shrink rfl rfl (fun _ ↦ List.Sublist.refl _) fun call hcall ↦ Or.inl hcall
    | cons listener rest =>
      simp only [hpending]
      have hactive := hordered.active (frame.emission, frame.pending s.emitter)
        (List.mem_map.mpr ⟨frame, hstack ▸ List.mem_cons_self, rfl⟩)
      have hknown : listener.Known s.closures := by
        refine h.emissions _ (List.mem_of_getElem? hactive) listener (List.mem_append_right _ ?_)
        rw [hpending]
        exact List.mem_cons_self
      cases listener with
      | fn fn =>
        refine h.shrink rfl rfl (fun _ ↦ List.Sublist.refl _) fun call hcall ↦ ?_
        rcases List.mem_append.mp hcall with hcall | hcall
        · exact Or.inl hcall
        · obtain rfl := List.mem_singleton.mp hcall
          exact Or.inr ⟨hknown, fun honce ↦ by cases honce⟩
      | onceFn closure eventName fn =>
        refine h.shrink rfl rfl (update_sublist List.filter_sublist) fun call hcall ↦ ?_
        rcases List.mem_append.mp hcall with hcall | hcall
        · exact Or.inl hcall
        · obtain rfl := List.mem_singleton.mp hcall
          refine Or.inr ⟨hknown, fun _ e hmem ↦ ?_⟩
          have hregistered := (update_sublist List.filter_sublist e).subset hmem
          obtain rfl := h.ofEvent e _ hregistered
          simp [enter] at hmem

theorem Fresh.step {s t : Run F} {action : Action F} (h : s.Fresh)
    (hordered : s.traversals.Ordered) (hfaithful : s.Faithful)
    (hstep : EventEmitter.step s action = some t) : t.Fresh := by
  cases action with
  | on eventName fn =>
    rcases eq_or_eq_of_ite hstep with rfl | rfl
    · exact h
    · exact h.push le_rfl rfl rfl rfl trivial trivial fun honce ↦ by cases honce
  | once eventName fn =>
    rcases eq_or_eq_of_ite hstep with rfl | rfl
    · exact h
    · exact h.push (Nat.le_succ _) rfl rfl rfl rfl (Nat.lt_succ_self _) fun _ ↦ lt_irrefl _
  | off eventName fn =>
    rcases eq_or_eq_of_ite hstep with rfl | rfl
    · exact h
    · refine h.shrink rfl rfl (update_sublist ?_) fun call hcall ↦ Or.inl hcall
      cases fn with
      | none => exact List.nil_sublist _
      | some fn => exact List.filter_sublist
  | clear =>
    obtain rfl := Option.some.inj hstep
    exact h.shrink rfl rfl (fun _ ↦ List.nil_sublist _) fun call hcall ↦ Or.inl hcall
  | emit eventName =>
    rcases eq_or_eq_of_ite hstep with rfl | rfl
    · exact h
    · refine (h.begin eventName).resume ?_
      rw [(hfaithful.begin eventName).2]
      exact hordered.begin _
  | ret =>
    simp only [EventEmitter.step] at hstep
    split_ifs at hstep with hempty
    obtain rfl := Option.some.inj hstep
    exact h.resume hordered
  | throw =>
    simp only [EventEmitter.step] at hstep
    split_ifs at hstep with hempty
    obtain rfl := Option.some.inj hstep
    exact h.shrink rfl rfl (fun _ ↦ List.Sublist.refl _) fun call hcall ↦ Or.inl hcall

/-! ### Delivery -/

/-- A listener of `once` is called at most once. -/
def OnceAtMostOnce (s : Run F) : Prop :=
  ∀ listener : EventListener F, listener.isOnce → (s.calls.map Prod.snd).count listener ≤ 1

omit [DecidableEq F] in
/-- The listeners that a call of `emit` has called, in this order. -/
def called (s : Run F) (emission : ℕ) : List (EventListener F) :=
  (s.calls.filter (·.1 = emission)).map Prod.snd

omit [DecidableEq F] in
/-- A call of `emit` calls what was registered when it started, each listener once and in this
order: a part from the front as long as it runs or when a handler has thrown, all if it returned. -/
def EmitsDeliver (s : Run F) : Prop :=
  ∀ emission registered, s.emissions[emission]? = some registered →
    s.called emission <+: registered ∧
      (emission ∈ s.completed → s.called emission = registered)

/-- No listener of `once` is emitted to while it is left to an outer call of `emit`. -/
def NoPendingOnce (s : Run F) : Action F → Prop
  | .emit eventName => ∀ listener ∈ s.emitter.current eventName, listener.isOnce →
      ∀ frame ∈ s.stack, listener ∉ frame.pending s.emitter
  | _ => True

instance (s : Run F) (action : Action F) : Decidable (NoPendingOnce s action) := by
  unfold NoPendingOnce
  split <;> infer_instance

/-- What holds in every run. -/
structure Sound (s : Run F) : Prop where
  faithful : s.Faithful
  ordered : s.traversals.Ordered
  fresh : s.Fresh

theorem sound_initial : Sound ({} : Run F) where
  faithful := ⟨⟨fun _ _ h ↦ (by cases h), fun _ _ _ h ↦ (by cases h)⟩, rfl, List.forall_mem_nil _⟩
  ordered := ⟨List.forall_mem_nil _, fun _ _ h ↦ (by cases h), List.forall_mem_nil _,
    List.nodup_nil, List.forall_mem_nil _, List.forall_mem_nil _⟩
  fresh := ⟨fun _ ↦ List.forall_mem_nil _, fun _ ↦ List.forall_mem_nil _, List.forall_mem_nil _,
    List.forall_mem_nil _, fun _ _ _ ↦ Nat.zero_le _, fun _ ↦ List.forall_mem_nil _⟩

theorem Sound.step {s t : Run F} {action : Action F} (h : s.Sound)
    (hstep : EventEmitter.step s action = some t) : t.Sound := by
  obtain ⟨hfaithful, htraversals⟩ := step_traversals h.faithful hstep
  refine ⟨hfaithful, ?_, h.fresh.step h.ordered h.faithful hstep⟩
  rcases htraversals with heq | ⟨eventName, -, heq⟩ | heq | heq
  · rw [heq]
    exact h.ordered
  · rw [heq]
    exact (h.ordered.begin _).next
  · rw [heq]
    exact h.ordered.next
  · rw [heq]
    exact h.ordered.abort

theorem sound_of_reachable {policy : Policy (Run F) (Action F)} {s : Run F}
    (h : system.Reachable policy s) : s.Sound :=
  h.invariant (fun s hs ↦ by
    obtain rfl : s = {} := hs
    exact sound_initial) fun _ _ _ hsound _ hstep ↦ hsound.step hstep

/-- In every run the calls of `emit` call what was registered when they started. -/
theorem Sound.emitsDeliver {s : Run F} (h : s.Sound) : s.EmitsDeliver := by
  intro emission registered hregistered
  refine ⟨h.ordered.visited emission registered hregistered, fun hcompleted ↦ ?_⟩
  exact Option.some.inj ((h.ordered.completed emission hcompleted).symm.trans hregistered)

/-- What a step does to the visits of a listener of `once`. -/
theorem Sound.visitedOnce_step {s t : Run F} {action : Action F} (h : s.Sound)
    (honce : s.traversals.VisitedOnce fun listener ↦ listener.isOnce)
    (hpolicy : NoPendingOnce s action) (hstep : EventEmitter.step s action = some t) :
    t.traversals.VisitedOnce fun listener ↦ listener.isOnce := by
  rcases (step_traversals h.faithful hstep).2 with heq | ⟨eventName, rfl, heq⟩ | heq | heq
  · rw [heq]
    exact honce
  · rw [heq]
    refine Traversals.VisitedOnce.next (honce.begin fun listener hmem hlistener ↦ ?_)
    refine ⟨h.fresh.once eventName listener hlistener, Traversals.count_eq_zero_iff.mpr ⟨?_, ?_⟩⟩
    · intro hcalled
      obtain ⟨call, hcall, heq⟩ := List.mem_map.mp hcalled
      exact h.fresh.uncalled eventName listener hmem hlistener call hcall heq
    · intro p hp
      obtain ⟨frame, hframe, rfl⟩ := List.mem_map.mp hp
      rw [← h.faithful.current] at hmem
      exact hpolicy listener hmem hlistener frame hframe
  · rw [heq]
    exact honce.next
  · rw [heq]
    exact honce.abort

/-- In a run that emits to no listener of `once` that is left to an outer call of `emit`, whatever
else its handlers do, each such listener is called at most once, and every call of `emit` calls
what was registered when it started. -/
theorem delivery {s : Run F} (h : system.Reachable NoPendingOnce s) :
    s.OnceAtMostOnce ∧ s.EmitsDeliver := by
  have honce : s.traversals.VisitedOnce fun listener ↦ listener.isOnce := by
    refine h.invariant_of (J := Sound)
      (I := fun s ↦ s.traversals.VisitedOnce fun listener ↦ listener.isOnce)
      (fun s ↦ sound_of_reachable) ?_ ?_
    · intro s hs
      obtain rfl : s = {} := hs
      exact fun _ _ ↦ Nat.zero_le _
    · exact fun s action t hsound honce hpolicy hstep ↦
        hsound.visitedOnce_step honce hpolicy hstep
  exact ⟨fun listener hlistener ↦ honce.count_visits_le hlistener,
    (sound_of_reachable h).emitsDeliver⟩

/-- A handler of `on` that emits the event again, before a listener of `once`. -/
def nestedEmit : List (Action Bool) :=
  [.on "event" true, .once "event" false, .emit "event", .emit "event", .ret, .ret, .ret]

theorem run_nestedEmit :
    ((system (F := Bool)).run (fun _ _ ↦ True) {} nestedEmit).isSome := by
  decide +kernel

/-- The inner call of `emit` calls the listener of `once` and takes it off, and the outer one calls
it again. -/
theorem nested_emit_calls_twice :
    ∃ s, (system (F := Bool)).Reachable (fun _ _ ↦ True) s ∧
      s.calls.map Prod.snd = [.fn true, .fn true, .onceFn 0 "event" false,
        .onceFn 0 "event" false] ∧ ¬ s.OnceAtMostOnce := by
  refine ⟨_, System.reachable_get rfl run_nestedEmit, by decide +kernel, fun h ↦ ?_⟩
  have htwice := h (.onceFn 0 "event" false) rfl
  revert htwice
  decide +kernel

/-- A handler that emits another event, and a listener of `once` that takes others off. -/
def nestedOther : List (Action Bool) :=
  [.on "event" true, .once "event" false, .on "event" false, .on "other" true, .emit "event",
    .emit "other", .ret, .ret, .off "event" (some (.fn false)), .ret, .ret, .emit "event", .ret]

theorem run_nestedOther :
    ((system (F := Bool)).run NoPendingOnce {} nestedOther).isSome := by
  decide +kernel

theorem delivery_witness :
    ∃ s : Run Bool, s.emissions.map List.length = [3, 1, 1] ∧ s.completed = [1, 0, 2] ∧
      s.OnceAtMostOnce ∧ s.EmitsDeliver :=
  ⟨_, by decide +kernel, by decide +kernel,
    delivery (System.reachable_get rfl run_nestedOther)⟩

end Run

end YandexPay.EventEmitter
