import Mathlib.Logic.Relation
import Mathlib.Order.Basic
import Mathlib.Tactic.SplitIfs

/-!
# Event-driven systems and their runs

A system moves by events: on a state and an event its step either yields the next state or is
not enabled. A run policy says which events a run may contain in which states; it carries the
assumptions on the environment, so that one system serves many statements. `Leads` is the
reachability of a policy, `Reachable` its restriction to the start states.

`Reachable.invariant` and `Leads.preserves` are the induction over a run, stated once: what one
allowed step keeps, every run keeps. `Leads.le_of_step` is the same for a quantity that no step
decreases. `run` executes a list of events under a decidable policy, and `reachable_get` turns an
execution that nothing stops into reachability, so that a concrete run is evaluated and not
assumed.
-/

set_option autoImplicit false
set_option relaxedAutoImplicit false

namespace YandexPay.Transition

variable {σ ε : Type*}

/-- Start states and a partial step function on events. -/
structure System (σ ε : Type*) where
  start : σ → Prop
  step : σ → ε → Option σ

/-- The events that a run may contain, by the state in which they happen. -/
abbrev Policy (σ ε : Type*) := σ → ε → Prop

namespace System

variable (S : System σ ε) (policy : Policy σ ε)

/-- One step by an event that the policy allows. -/
def Step (s t : σ) : Prop := ∃ e, policy s e ∧ S.step s e = some t

/-- A finite run of allowed steps. -/
def Leads : σ → σ → Prop := Relation.ReflTransGen (S.Step policy)

/-- The states that allowed runs reach from a start state. -/
def Reachable (t : σ) : Prop := ∃ s, S.start s ∧ S.Leads policy s t

variable {S policy}

theorem Leads.refl (s : σ) : S.Leads policy s s := Relation.ReflTransGen.refl

theorem Leads.tail {s t u : σ} {e : ε} (hst : S.Leads policy s t) (he : policy t e)
    (hstep : S.step t e = some u) : S.Leads policy s u :=
  Relation.ReflTransGen.tail hst ⟨e, he, hstep⟩

theorem Leads.trans {s t u : σ} (hst : S.Leads policy s t) (htu : S.Leads policy t u) :
    S.Leads policy s u := Relation.ReflTransGen.trans hst htu

theorem Reachable.of_start {s : σ} (hs : S.start s) : S.Reachable policy s :=
  ⟨s, hs, Leads.refl s⟩

theorem Reachable.leads {s t : σ} (hs : S.Reachable policy s) (hst : S.Leads policy s t) :
    S.Reachable policy t := by
  obtain ⟨s₀, hstart, hs₀⟩ := hs
  exact ⟨s₀, hstart, hs₀.trans hst⟩

theorem Reachable.tail {s t : σ} {e : ε} (hs : S.Reachable policy s) (he : policy s e)
    (hstep : S.step s e = some t) : S.Reachable policy t :=
  hs.leads ((Leads.refl s).tail he hstep)

/-- What every allowed step keeps, a whole run keeps. -/
theorem Leads.preserves {I : σ → Prop}
    (hstep : ∀ s e t, I s → policy s e → S.step s e = some t → I t) {s t : σ}
    (hst : S.Leads policy s t) (hs : I s) : I t := by
  induction hst with
  | refl => exact hs
  | tail _ hlast ih =>
    obtain ⟨e, he, hnext⟩ := hlast
    exact hstep _ e _ ih he hnext

/-- An invariant of a system: it holds at the start and every allowed step keeps it. -/
theorem Reachable.invariant {I : σ → Prop} (hstart : ∀ s, S.start s → I s)
    (hstep : ∀ s e t, I s → policy s e → S.step s e = some t → I t) {t : σ}
    (ht : S.Reachable policy t) : I t := by
  obtain ⟨s, hs, hst⟩ := ht
  exact hst.preserves hstep (hstart s hs)

/-- A property that a reachable state has and that every allowed step keeps, with an
established invariant, holds at the end of every run from that state. -/
theorem Leads.preserves_of {I J : σ → Prop} (hJ : ∀ s, S.Reachable policy s → J s)
    (hstep : ∀ s e t, J s → I s → policy s e → S.step s e = some t → I t) {s t : σ}
    (hs : S.Reachable policy s) (hst : S.Leads policy s t) (hI : I s) : I t := by
  have hboth : S.Reachable policy t ∧ I t := by
    refine hst.preserves (I := fun u ↦ S.Reachable policy u ∧ I u) ?_ ⟨hs, hI⟩
    rintro u e v ⟨hu, hIu⟩ he huv
    exact ⟨hu.leads ((Leads.refl u).tail he huv), hstep u e v (hJ u hu) hIu he huv⟩
  exact hboth.2

/-- An invariant of a system that needs another one, already established. -/
theorem Reachable.invariant_of {I J : σ → Prop} (hJ : ∀ s, S.Reachable policy s → J s)
    (hstart : ∀ s, S.start s → I s)
    (hstep : ∀ s e t, J s → I s → policy s e → S.step s e = some t → I t) {t : σ}
    (ht : S.Reachable policy t) : I t := by
  obtain ⟨s, hs, hst⟩ := ht
  exact hst.preserves_of hJ hstep (Reachable.of_start hs) (hstart s hs)

/-- A quantity that no allowed step decreases is monotone along runs. -/
theorem Leads.le_of_step {ι : Type*} [Preorder ι] {f : σ → ι} {J : σ → Prop}
    (hJ : ∀ s, S.Reachable policy s → J s)
    (hstep : ∀ s e t, J s → policy s e → S.step s e = some t → f s ≤ f t) {s t : σ}
    (hs : S.Reachable policy s) (hst : S.Leads policy s t) : f s ≤ f t :=
  hst.preserves_of (I := fun u ↦ f s ≤ f u) hJ
    (fun u e v hJu hle he huv ↦ hle.trans (hstep u e v hJu he huv)) hs le_rfl

/-- A weaker policy allows more runs. -/
theorem Leads.mono {policy' : Policy σ ε} (hpolicy : ∀ s e, policy s e → policy' s e) {s t : σ}
    (hst : S.Leads policy s t) : S.Leads policy' s t := by
  refine Relation.ReflTransGen.mono ?_ s t hst
  rintro u v ⟨e, he, huv⟩
  exact ⟨e, hpolicy u e he, huv⟩

theorem Reachable.mono {policy' : Policy σ ε} (hpolicy : ∀ s e, policy s e → policy' s e) {t : σ}
    (ht : S.Reachable policy t) : S.Reachable policy' t := by
  obtain ⟨s, hs, hst⟩ := ht
  exact ⟨s, hs, hst.mono hpolicy⟩

/-! ### Executions -/

section Run

variable (S policy)

/-- Executes a list of events as long as the policy allows them. -/
def run [∀ s e, Decidable (policy s e)] : σ → List ε → Option σ
  | s, [] => some s
  | s, e :: es => if policy s e then (S.step s e).bind fun t ↦ run t es else none

variable {S policy} [∀ s e, Decidable (policy s e)]

theorem leads_of_run {s t : σ} {es : List ε} (hrun : S.run policy s es = some t) :
    S.Leads policy s t := by
  induction es generalizing s with
  | nil =>
    rw [run, Option.some.injEq] at hrun
    subst t
    exact Leads.refl s
  | cons e es ih =>
    rw [run] at hrun
    split_ifs at hrun with hpolicy
    obtain ⟨u, hsu, hut⟩ := Option.bind_eq_some_iff.mp hrun
    exact ((Leads.refl s).tail hpolicy hsu).trans (ih hut)

/-- The end of an execution that nothing stops. -/
theorem leads_get {s : σ} {es : List ε} (h : (S.run policy s es).isSome) :
    S.Leads policy s ((S.run policy s es).get h) :=
  leads_of_run (Option.some_get h).symm

theorem reachable_get {s : σ} {es : List ε} (hs : S.start s)
    (h : (S.run policy s es).isSome) : S.Reachable policy ((S.run policy s es).get h) :=
  ⟨s, hs, leads_get h⟩

/-- What a run shows to an observer that takes a step of its own for every event. -/
theorem run_simulates {τ : Type*} {R : σ → τ → Prop} {observe : τ → ε → τ}
    (hstep : ∀ s o e t, R s o → policy s e → S.step s e = some t → R t (observe o e))
    {s t : σ} {o : τ} {es : List ε} (hs : R s o) (hrun : S.run policy s es = some t) :
    R t (es.foldl observe o) := by
  induction es generalizing s o with
  | nil =>
    rw [run, Option.some.injEq] at hrun
    exact hrun ▸ hs
  | cons e es ih =>
    rw [run] at hrun
    split_ifs at hrun with hpolicy
    obtain ⟨u, hsu, hut⟩ := Option.bind_eq_some_iff.mp hrun
    exact ih (hstep s o e u hs hpolicy hsu) hut

end Run

end System

end YandexPay.Transition
