import Mathlib.Logic.Function.Basic
import Mathlib.Order.Nat
import Mathlib.Tactic.SplitIfs

/-!
# A lock made of revision counters

A versioned content is published by jobs. Every change of the content increments its version and
adds a job for the new version; the counter `published` tells which version was published last,
and `holder` which version is being worked on. There is no other lock: a job of an old version
drops out, a job that finds another version held is postponed, and a job that finds no holder or
its own version goes on. Jobs stop at any point, and start again or not.

A job may carry a flag, the duty to reconcile something outside before it publishes; `owed` says
that a flagged change has not been reconciled yet. A postponed job has lost its flag.

`Ordered`, `Fresh`, `Exclusive` and `Reconciled` are four invariants of such a lock. The first two
hold in every run. Mutual exclusion needs that a finished job does not start again
(`Event.stays`), and the reconciliation needs that no job without a flag acquires the content
while a reconciliation is owed.
-/

set_option autoImplicit false
set_option relaxedAutoImplicit false

namespace YandexPay.RevisionLock

variable {κ : Type*}

/-- How far a job has come: it waits, holds the content, has read it, may publish it. -/
inductive Phase (κ : Type*)
  | waiting
  | holding
  | read (content : κ)
  | ready (content : κ)

structure Job (κ : Type*) where
  version : ℕ
  flag : Bool
  phase : Phase κ

@[ext] structure Lock (κ : Type*) where
  version : ℕ
  published : ℕ
  holder : Option ℕ
  content : κ
  /-- The version of the last publication and what it was made of. -/
  evidence : Option (ℕ × κ)
  owed : Bool
  jobs : ℕ → Option (Job κ)

/-- What is left of a job that ends; when it starts again it waits. -/
def Job.rest (j : Job κ) (stays : Bool) : Option (Job κ) :=
  if stays then some { j with phase := .waiting } else none

inductive Event (κ : Type*)
  | schedule (id : ℕ) (flag : Bool) (content : κ)
  | drop (id : ℕ) (stays : Bool)
  | postpone (id new : ℕ) (stays : Bool)
  | acquire (id : ℕ)
  | load (id : ℕ)
  | reconcile (id : ℕ)
  | pass (id : ℕ)
  | publish (id : ℕ) (stays : Bool)
  | stop (id : ℕ) (restarts : Bool)

/-- The job ends by a commit and is started again all the same. -/
def Event.stays : Event κ → Bool
  | .drop _ stays => stays
  | .postpone _ _ stays => stays
  | .publish _ stays => stays
  | _ => false

/-- The steps of the lock. -/
inductive Step (s : Lock κ) : Event κ → Lock κ → Prop
  | schedule (id : ℕ) (flag : Bool) (content : κ) (free : s.jobs id = none) :
    Step s (.schedule id flag content)
      { s with
        version := s.version + 1
        content
        owed := s.owed || flag
        jobs := Function.update s.jobs id (some ⟨s.version + 1, flag, .waiting⟩) }
  | drop (id : ℕ) (stays : Bool) (j : Job κ) (job : s.jobs id = some j)
    (old : j.version ≠ s.version) :
    Step s (.drop id stays)
      { s with
        holder := if s.holder = some j.version then none else s.holder
        jobs := Function.update s.jobs id (j.rest stays) }
  | postpone (id new : ℕ) (stays : Bool) (j : Job κ) (job : s.jobs id = some j)
    (free : s.jobs new = none) :
    Step s (.postpone id new stays)
      { s with
        jobs := Function.update (Function.update s.jobs id (j.rest stays)) new
          (some ⟨j.version, false, .waiting⟩) }
  | acquire (id : ℕ) (j : Job κ) (job : s.jobs id = some j) (current : j.version = s.version)
    (free : s.holder = none ∨ s.holder = some j.version) :
    Step s (.acquire id)
      { s with
        holder := some j.version
        jobs := Function.update s.jobs id (some { j with phase := .holding }) }
  | load (id : ℕ) (j : Job κ) (job : s.jobs id = some j) (phase : j.phase = .holding) :
    Step s (.load id)
      { s with jobs := Function.update s.jobs id (some { j with phase := .read s.content }) }
  | reconcile (id : ℕ) (j : Job κ) (content : κ) (job : s.jobs id = some j)
    (phase : j.phase = .read content) :
    Step s (.reconcile id)
      { s with
        owed := false
        jobs := Function.update s.jobs id (some { j with phase := .ready content }) }
  | pass (id : ℕ) (j : Job κ) (content : κ) (job : s.jobs id = some j)
    (phase : j.phase = .read content) (flag : j.flag = false) :
    Step s (.pass id)
      { s with jobs := Function.update s.jobs id (some { j with phase := .ready content }) }
  | publish (id : ℕ) (stays : Bool) (j : Job κ) (content : κ) (job : s.jobs id = some j)
    (phase : j.phase = .ready content) (holder : s.holder = some j.version) :
    Step s (.publish id stays)
      { s with
        published := j.version
        holder := none
        evidence := some (j.version, content)
        jobs := Function.update s.jobs id (j.rest stays) }
  | stop (id : ℕ) (restarts : Bool) (j : Job κ) (job : s.jobs id = some j) :
    Step s (.stop id restarts)
      { s with jobs := Function.update s.jobs id (j.rest restarts) }

theorem Step.of_eq {s t t' : Lock κ} {e : Event κ} (h : Step s e t) (heq : t' = t) :
    Step s e t' := heq ▸ h

/-! ### The jobs after a step -/

theorem update_eq_some {jobs : ℕ → Option (Job κ)} {id k : ℕ} {x : Option (Job κ)} {j : Job κ}
    (h : Function.update jobs id x k = some j) :
    (k = id ∧ x = some j) ∨ (k ≠ id ∧ jobs k = some j) := by
  by_cases hk : k = id
  · rw [hk, Function.update_self] at h
    exact Or.inl ⟨hk, h⟩
  · rw [Function.update_of_ne hk] at h
    exact Or.inr ⟨hk, h⟩

theorem Job.rest_eq_some {j k : Job κ} {stays : Bool} (h : j.rest stays = some k) :
    stays = true ∧ k.version = j.version ∧ k.flag = j.flag ∧ k.phase = .waiting := by
  unfold Job.rest at h
  split_ifs at h with hstays
  rw [Option.some.injEq] at h
  subst h
  exact ⟨hstays, rfl, rfl, rfl⟩

theorem Job.version_of_rest {j : Job κ} {stays : Bool} (a : Job κ) (h : j.rest stays = some a) :
    a.version = j.version := (Job.rest_eq_some h).2.1

theorem Job.version_of_phase {j : Job κ} {phase : Phase κ} (a : Job κ)
    (h : some { j with phase } = some a) : a.version = j.version := by
  rw [← Option.some.inj h]

/-- What holds of the new job and of every other job holds of all jobs after a change. -/
theorem all_update {P : Job κ → Prop} {jobs : ℕ → Option (Job κ)} {id : ℕ} {x : Option (Job κ)}
    (hx : ∀ a, x = some a → P a) (h : ∀ k a, k ≠ id → jobs k = some a → P a) (k : ℕ) (a : Job κ)
    (ha : Function.update jobs id x k = some a) : P a := by
  rcases update_eq_some ha with ⟨-, ha⟩ | ⟨hk, ha⟩
  · exact hx a ha
  · exact h k a hk ha

/-- The jobs after one of them has been postponed. -/
theorem all_postponed {P : Job κ → Prop} {jobs : ℕ → Option (Job κ)} {id new : ℕ} {j : Job κ}
    {stays : Bool} (hwaiting : ∀ a, a.version = j.version → a.phase = .waiting → P a)
    (h : ∀ k a, jobs k = some a → P a) (k : ℕ) (a : Job κ)
    (ha : Function.update (Function.update jobs id (j.rest stays)) new
      (some ⟨j.version, false, .waiting⟩) k = some a) : P a := by
  refine all_update ?_ (fun k a _ ha ↦ all_update ?_ (fun k a _ ↦ h k a) k a ha) k a ha
  · intro b hb
    rw [← Option.some.inj hb]
    exact hwaiting _ rfl rfl
  · intro b hb
    exact hwaiting b (Job.version_of_rest b hb) (Job.rest_eq_some hb).2.2.2

/-- The jobs after one of them has ended. -/
theorem all_rested {P : Job κ → Prop} {jobs : ℕ → Option (Job κ)} {id : ℕ} {j : Job κ}
    {stays : Bool} (hwaiting : ∀ a : Job κ, a.phase = .waiting → P a)
    (h : ∀ k a, jobs k = some a → P a) :
    ∀ k a, Function.update jobs id (j.rest stays) k = some a → P a :=
  all_update (fun a ha ↦ hwaiting a (Job.rest_eq_some ha).2.2.2) fun k a _ ↦ h k a

/-- The jobs after one of them has come to another phase. -/
theorem all_put {P : Job κ → Prop} {jobs : ℕ → Option (Job κ)} {id : ℕ} {j : Job κ}
    (hj : P j) (h : ∀ k a, jobs k = some a → P a) :
    ∀ k a, Function.update jobs id (some j) k = some a → P a :=
  all_update (fun _ ha ↦ Option.some.inj ha ▸ hj) fun k a _ ↦ h k a

/-! ### The order of the counters -/

/-- Nothing is held or worked on beyond the version, and nothing held is older than what is
published. -/
structure Ordered (s : Lock κ) : Prop where
  published_le : s.published ≤ s.version
  holder_le : ∀ v, s.holder = some v → s.published ≤ v ∧ v ≤ s.version
  jobs_le : ∀ id j, s.jobs id = some j → j.version ≤ s.version

theorem Ordered.step {s t : Lock κ} {e : Event κ} (hstep : Step s e t) (h : Ordered s) :
    Ordered t := by
  have hput : ∀ {id : ℕ} {j : Job κ} {x : Option (Job κ)}, s.jobs id = some j →
      (∀ a, x = some a → a.version = j.version) →
      ∀ k a, Function.update s.jobs id x k = some a → a.version ≤ s.version := by
    intro id j x hj hx
    refine all_update (fun a ha ↦ ?_) fun k a _ ↦ h.jobs_le k a
    rw [hx a ha]
    exact h.jobs_le id j hj
  cases hstep with
  | schedule id flag content free =>
    refine ⟨h.published_le.trans (Nat.le_succ _), fun v hv ↦ ?_, all_update ?_ ?_⟩
    · obtain ⟨hpublished, hversion⟩ := h.holder_le v hv
      exact ⟨hpublished, hversion.trans (Nat.le_succ _)⟩
    · intro a ha
      rw [← Option.some.inj ha]
    · exact fun k a _ ha ↦ (h.jobs_le k a ha).trans (Nat.le_succ _)
  | drop id stays j job old =>
    refine ⟨h.published_le, fun v hv ↦ ?_, hput job Job.version_of_rest⟩
    change (if s.holder = some j.version then none else s.holder) = some v at hv
    split_ifs at hv
    exact h.holder_le v hv
  | postpone id new stays j job free =>
    refine ⟨h.published_le, h.holder_le, all_postponed (fun a hversion _ ↦ ?_) h.jobs_le⟩
    rw [hversion]
    exact h.jobs_le id j job
  | acquire id j job current free =>
    refine ⟨h.published_le, fun v hv ↦ ?_, hput job Job.version_of_phase⟩
    rw [← Option.some.inj hv, current]
    exact ⟨h.published_le, le_rfl⟩
  | load id j job phase =>
    exact ⟨h.published_le, h.holder_le, hput job Job.version_of_phase⟩
  | reconcile id j content job phase =>
    exact ⟨h.published_le, h.holder_le, hput job Job.version_of_phase⟩
  | pass id j content job phase flag =>
    exact ⟨h.published_le, h.holder_le, hput job Job.version_of_phase⟩
  | publish id stays j content job phase holder =>
    refine ⟨h.jobs_le id j job, fun v hv ↦ ?_, hput job Job.version_of_rest⟩
    cases hv
  | stop id restarts j job =>
    exact ⟨h.published_le, h.holder_le, hput job Job.version_of_rest⟩

/-- No step takes the version or the published version back. -/
theorem Ordered.le_of_step {s t : Lock κ} {e : Event κ} (hstep : Step s e t) (h : Ordered s) :
    s.version ≤ t.version ∧ s.published ≤ t.published := by
  cases hstep with
  | schedule => exact ⟨Nat.le_succ _, le_rfl⟩
  | publish id stays j content job phase holder => exact ⟨le_rfl, (h.holder_le _ holder).1⟩
  | _ => exact ⟨le_rfl, le_rfl⟩

/-- After a change of the content its job is the only one of the new version. -/
theorem Ordered.all_scheduled {s : Lock κ} (h : Ordered s) {P : Job κ → Prop} {id : ℕ}
    {j : Job κ} (hj : P j) (k : ℕ) (a : Job κ)
    (ha : Function.update s.jobs id (some j) k = some a) (hversion : a.version = s.version + 1) :
    P a := by
  rcases update_eq_some ha with ⟨-, ha⟩ | ⟨-, ha⟩
  · exact Option.some.inj ha ▸ hj
  · have hle := h.jobs_le k a ha
    omega

theorem Ordered.published_ne {s : Lock κ} (h : Ordered s) : s.published ≠ s.version + 1 :=
  (Nat.lt_succ_of_le h.published_le).ne

/-! ### What is published -/

/-- The content that a job works with. -/
def Phase.content? : Phase κ → Option κ
  | .waiting => none
  | .holding => none
  | .read content => some content
  | .ready content => some content

/-- A job of the current version works with the current content, and if the current version is
published it was published of the current content. -/
structure Fresh (s : Lock κ) : Prop where
  jobs : ∀ id j, s.jobs id = some j → j.version = s.version → ∀ c, j.phase.content? = some c →
    c = s.content
  published : s.published = s.version → s.evidence = some (s.version, s.content)

theorem Fresh.step {s t : Lock κ} {e : Event κ} (hstep : Step s e t) (hordered : Ordered s)
    (h : Fresh s) : Fresh t := by
  have hwaiting : ∀ a : Job κ, a.phase = .waiting → a.version = s.version →
      ∀ c, a.phase.content? = some c → c = s.content := by
    intro a ha _ c hc
    rw [ha] at hc
    cases hc
  cases hstep with
  | schedule id flag content free =>
    refine ⟨hordered.all_scheduled ?_, fun heq ↦ absurd heq hordered.published_ne⟩
    intro c hc
    cases hc
  | drop id stays j job old => exact ⟨all_rested hwaiting h.jobs, h.published⟩
  | postpone id new stays j job free =>
    exact ⟨all_postponed (fun a _ ↦ hwaiting a) h.jobs, h.published⟩
  | acquire id j job current free =>
    refine ⟨all_put ?_ h.jobs, h.published⟩
    intro _ c hc
    cases hc
  | load id j job phase =>
    refine ⟨all_put ?_ h.jobs, h.published⟩
    intro _ c hc
    exact (Option.some.inj hc).symm
  | reconcile id j content job phase =>
    refine ⟨all_put ?_ h.jobs, h.published⟩
    intro hversion c hc
    exact h.jobs id j job hversion c (by rw [phase]; exact hc)
  | pass id j content job phase flag =>
    refine ⟨all_put ?_ h.jobs, h.published⟩
    intro hversion c hc
    exact h.jobs id j job hversion c (by rw [phase]; exact hc)
  | publish id stays j content job phase holder =>
    refine ⟨all_rested hwaiting h.jobs, fun heq ↦ ?_⟩
    have hversion : j.version = s.version := heq
    have hcontent : content = s.content := h.jobs id j job hversion content (by rw [phase]; rfl)
    rw [hversion, hcontent]
  | stop id restarts j job => exact ⟨all_rested hwaiting h.jobs, h.published⟩

/-! ### Mutual exclusion -/

/-- No two jobs have the same version. -/
def Distinct (jobs : ℕ → Option (Job κ)) : Prop :=
  ∀ i k a b, jobs i = some a → jobs k = some b → a.version = b.version → i = k

/-- A job ends or goes on with the same version. -/
theorem Distinct.change {jobs : ℕ → Option (Job κ)} (h : Distinct jobs) {id : ℕ} {j : Job κ}
    {x : Option (Job κ)} (hj : jobs id = some j) (hx : ∀ a, x = some a → a.version = j.version) :
    Distinct (Function.update jobs id x) := by
  intro i k a b ha hb hversion
  rcases update_eq_some ha with ⟨hi, ha⟩ | ⟨hi, ha⟩ <;>
    rcases update_eq_some hb with ⟨hk, hb⟩ | ⟨hk, hb⟩
  · rw [hi, hk]
  · exact absurd (h k id b j hb hj (hversion.symm.trans (hx a ha))) hk
  · exact absurd (h i id a j ha hj (hversion.trans (hx b hb))) hi
  · exact h i k a b ha hb hversion

/-- A job with a version of its own is added. -/
theorem Distinct.add {jobs : ℕ → Option (Job κ)} (h : Distinct jobs) (new : ℕ) {j : Job κ}
    (hfree : ∀ k a, jobs k = some a → a.version ≠ j.version) :
    Distinct (Function.update jobs new (some j)) := by
  intro i k a b ha hb hversion
  rcases update_eq_some ha with ⟨hi, ha⟩ | ⟨hi, ha⟩ <;>
    rcases update_eq_some hb with ⟨hk, hb⟩ | ⟨hk, hb⟩
  · rw [hi, hk]
  · rw [← Option.some.inj ha] at hversion
    exact absurd hversion.symm (hfree k b hb)
  · rw [← Option.some.inj hb] at hversion
    exact absurd hversion (hfree i a ha)
  · exact h i k a b ha hb hversion

/-- Jobs have distinct versions, and a job that does not wait holds the content. -/
structure Exclusive (s : Lock κ) : Prop where
  distinct : Distinct s.jobs
  holder : ∀ i a, s.jobs i = some a → a.phase ≠ .waiting → s.holder = some a.version

/-- The version of a job is that of no other job. -/
theorem Exclusive.version_ne {s : Lock κ} (h : Exclusive s) {i k : ℕ} {a b : Job κ}
    (ha : s.jobs i = some a) (hb : s.jobs k = some b) (hne : i ≠ k) : a.version ≠ b.version :=
  fun hversion ↦ hne (h.distinct i k a b ha hb hversion)

/-- Assumes: a job that has ended does not start again. -/
theorem Exclusive.step {s t : Lock κ} {e : Event κ} (hstep : Step s e t)
    (hends : e.stays = false) (hordered : Ordered s) (h : Exclusive s) : Exclusive t := by
  have hrest : ∀ {j : Job κ} {stays : Bool} {v : Option ℕ} (a : Job κ), j.rest stays = some a →
      a.phase ≠ .waiting → v = some a.version :=
    fun a ha hactive ↦ absurd (Job.rest_eq_some ha).2.2.2 hactive
  have hactive : ∀ {id : ℕ} {j : Job κ} {phase : Phase κ}, s.jobs id = some j →
      j.phase ≠ .waiting → ∀ k a, Function.update s.jobs id (some { j with phase }) k = some a →
        a.phase ≠ .waiting → s.holder = some a.version := by
    intro id j phase hj hjactive
    refine all_update (fun a ha _ ↦ ?_) fun k a _ ↦ h.holder k a
    rw [Job.version_of_phase a ha]
    exact h.holder id j hj hjactive
  cases hstep with
  | schedule id flag content free =>
    refine ⟨h.distinct.add id fun k a ha ↦ ?_, all_update ?_ fun k a _ ↦ h.holder k a⟩
    · have hle := hordered.jobs_le k a ha
      change a.version ≠ s.version + 1
      omega
    · intro a ha haactive
      rw [← Option.some.inj ha] at haactive
      exact absurd rfl haactive
  | drop id stays j job old =>
    refine ⟨h.distinct.change job Job.version_of_rest, all_update hrest fun k a hk ha haactive ↦ ?_⟩
    have hheld := h.holder k a ha haactive
    change (if s.holder = some j.version then none else s.holder) = some a.version
    rw [hheld, if_neg fun hversion ↦ h.version_ne ha job hk (Option.some.inj hversion)]
  | postpone id new stays j job free =>
    have hgone : j.rest stays = none := by
      rw [show stays = false from hends]
      rfl
    refine ⟨Distinct.add ?_ new ?_, all_postponed ?_ h.holder⟩
    · exact h.distinct.change job Job.version_of_rest
    · have hother : ∀ k a, k ≠ id → s.jobs k = some a → a.version ≠ j.version :=
        fun k a hk ha ↦ h.version_ne ha job hk
      rw [hgone]
      exact all_update (fun a ha ↦ by cases ha) hother
    · exact fun a _ hwaiting haactive ↦ absurd hwaiting haactive
  | acquire id j job current free =>
    refine ⟨h.distinct.change job Job.version_of_phase, all_update ?_ fun k a hk ha haactive ↦ ?_⟩
    · intro a ha _
      rw [Job.version_of_phase a ha]
    · have hheld := h.holder k a ha haactive
      rcases free with hnone | hown
      · rw [hnone] at hheld
        cases hheld
      · exact hown.symm.trans hheld
  | load id j job phase =>
    exact ⟨h.distinct.change job Job.version_of_phase,
      hactive job (by rw [phase]; intro hc; cases hc)⟩
  | reconcile id j content job phase =>
    exact ⟨h.distinct.change job Job.version_of_phase,
      hactive job (by rw [phase]; intro hc; cases hc)⟩
  | pass id j content job phase flag =>
    exact ⟨h.distinct.change job Job.version_of_phase,
      hactive job (by rw [phase]; intro hc; cases hc)⟩
  | publish id stays j content job phase holder =>
    refine ⟨h.distinct.change job Job.version_of_rest, all_update hrest fun k a hk ha haactive ↦ ?_⟩
    have hheld := h.holder k a ha haactive
    rw [holder] at hheld
    exact absurd (Option.some.inj hheld).symm (h.version_ne ha job hk)
  | stop id restarts j job =>
    exact ⟨h.distinct.change job Job.version_of_rest, all_update hrest fun k a _ ↦ h.holder k a⟩

/-- A job that holds the content keeps it until it ends, crashes included. -/
theorem Exclusive.held_of_step {s t : Lock κ} {e : Event κ} (hstep : Step s e t)
    (hends : e.stays = false) (h : Exclusive s) {id : ℕ} {a b : Job κ} (ha : s.jobs id = some a)
    (hheld : s.holder = some a.version) (hb : t.jobs id = some b) :
    b.version = a.version ∧ t.holder = some a.version := by
  have hput : ∀ {k : ℕ} {j : Job κ} {x : Option (Job κ)}, s.jobs k = some j →
      (∀ c, x = some c → c.version = j.version) →
      Function.update s.jobs k x id = some b → b.version = a.version := by
    intro k j x hj hx hb
    rcases update_eq_some hb with ⟨hk, hb⟩ | ⟨-, hb⟩
    · rw [hk, hj, Option.some.injEq] at ha
      rw [hx b hb, ha]
    · rw [ha, Option.some.injEq] at hb
      rw [hb]
  have hgone : ∀ {k : ℕ} {j : Job κ} {stays : Bool}, stays = false →
      Function.update s.jobs k (j.rest stays) id = some b → id ≠ k := by
    intro k j stays hstays hb hk
    rw [← hk, Function.update_self] at hb
    rw [(Job.rest_eq_some hb).1] at hstays
    cases hstays
  cases hstep with
  | schedule k flag content free =>
    rcases update_eq_some hb with ⟨hk, -⟩ | ⟨-, hb⟩
    · rw [hk, free] at ha
      cases ha
    · rw [ha, Option.some.injEq] at hb
      exact ⟨by rw [hb], hheld⟩
  | drop k stays j job old =>
    refine ⟨hput job Job.version_of_rest hb, ?_⟩
    have hne : a.version ≠ j.version := h.version_ne ha job (hgone hends hb)
    change (if s.holder = some j.version then none else s.holder) = some a.version
    rw [hheld, if_neg fun hversion ↦ hne (Option.some.inj hversion)]
  | postpone k new stays j job free =>
    refine ⟨?_, hheld⟩
    rcases update_eq_some hb with ⟨hk, -⟩ | ⟨-, hb⟩
    · rw [hk, free] at ha
      cases ha
    · exact hput job Job.version_of_rest hb
  | acquire k j job current free =>
    refine ⟨hput job Job.version_of_phase hb, ?_⟩
    rcases free with hnone | hown
    · rw [hnone] at hheld
      cases hheld
    · exact hown.symm.trans hheld
  | load k j job phase => exact ⟨hput job Job.version_of_phase hb, hheld⟩
  | reconcile k j content job phase => exact ⟨hput job Job.version_of_phase hb, hheld⟩
  | pass k j content job phase flag => exact ⟨hput job Job.version_of_phase hb, hheld⟩
  | publish k stays j content job phase holder =>
    have hne : a.version ≠ j.version := h.version_ne ha job (hgone hends hb)
    exact absurd (Option.some.inj (hheld.symm.trans holder)) hne
  | stop k restarts j job => exact ⟨hput job Job.version_of_rest hb, hheld⟩

/-! ### Reconciliation -/

/-- The job will publish without reconciling any more. -/
def Job.Unflagged (j : Job κ) : Prop :=
  match j.phase with
  | .waiting => False
  | .holding => j.flag = false
  | .read _ => j.flag = false
  | .ready _ => True

/-- No reconciliation is owed once the current version is published, nor while a job of the
current version is past its reconciliation. -/
structure Reconciled (s : Lock κ) : Prop where
  published : s.published = s.version → s.owed = false
  jobs : ∀ id j, s.jobs id = some j → j.version = s.version → j.Unflagged → s.owed = false

/-- Assumes: a job without a flag acquires the content only when no reconciliation is owed. -/
theorem Reconciled.step {s t : Lock κ} {e : Event κ} (hstep : Step s e t)
    (hflag : ∀ id j, e = .acquire id → s.jobs id = some j → j.flag = false →
      j.version = s.version → (s.holder = none ∨ s.holder = some j.version) → s.owed = false)
    (hordered : Ordered s) (h : Reconciled s) : Reconciled t := by
  have hwaiting : ∀ a : Job κ, a.phase = .waiting → a.version = s.version → a.Unflagged →
      s.owed = false := by
    intro a ha _ hunflagged
    rw [Job.Unflagged, ha] at hunflagged
    exact hunflagged.elim
  cases hstep with
  | schedule id flag content free =>
    refine ⟨fun heq ↦ absurd heq hordered.published_ne, hordered.all_scheduled ?_⟩
    intro hunflagged
    exact hunflagged.elim
  | drop id stays j job old => exact ⟨h.published, all_rested hwaiting h.jobs⟩
  | postpone id new stays j job free =>
    exact ⟨h.published, all_postponed (fun a _ ↦ hwaiting a) h.jobs⟩
  | acquire id j job current free =>
    refine ⟨h.published, all_put ?_ h.jobs⟩
    intro _ hunflagged
    exact hflag id j rfl job hunflagged current free
  | load id j job phase =>
    refine ⟨h.published, all_put ?_ h.jobs⟩
    intro hversion hunflagged
    refine h.jobs id j job hversion ?_
    rw [Job.Unflagged, phase]
    exact hunflagged
  | reconcile id j content job phase => exact ⟨fun _ ↦ rfl, fun _ _ _ _ _ ↦ rfl⟩
  | pass id j content job phase flag =>
    refine ⟨h.published, all_put ?_ h.jobs⟩
    intro hversion _
    refine h.jobs id j job hversion ?_
    rw [Job.Unflagged, phase]
    exact flag
  | publish id stays j content job phase holder =>
    refine ⟨fun heq ↦ ?_, all_rested hwaiting h.jobs⟩
    refine h.jobs id j job heq ?_
    rw [Job.Unflagged, phase]
    exact trivial
  | stop id restarts j job => exact ⟨h.published, all_rested hwaiting h.jobs⟩

end YandexPay.RevisionLock
