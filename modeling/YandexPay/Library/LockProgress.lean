import YandexPay.Library.RevisionLock

/-!
# Progress of a revision lock

A lock of revision counters has no timeout: a version that is held stays held until a job of that
version ends, and a version that is not published waits for a job of its own. `Attended` says that
both jobs exist; `Stranded` is its failure while the current version is not published.

`Attended.step` keeps the first as long as no job is given up. `Stranded.step` keeps the second for
as long as nothing is scheduled, and `Lost.step` for ever: a version that is held and has no job
is released by no step at all.
-/

set_option autoImplicit false
set_option relaxedAutoImplicit false

namespace YandexPay.RevisionLock

variable {κ : Type*} {s t : Lock κ} {e : Event κ} {v : ℕ}

/-- Some job is of the version. -/
def Lock.HasJob (s : Lock κ) (v : ℕ) : Prop := ∃ id j, s.jobs id = some j ∧ j.version = v

/-- A version that is to be published has a job, and so has the version that is held. -/
structure Attended (s : Lock κ) : Prop where
  current : s.published ≠ s.version → s.HasJob s.version
  held : ∀ v, s.holder = some v → s.HasJob v

/-- A version is held and no job of it is left. -/
structure Lost (s : Lock κ) (v : ℕ) : Prop where
  holder : s.holder = some v
  gone : ¬ s.HasJob v

/-- The current version is not published, and a job that is needed for it is not there. -/
def Stranded (s : Lock κ) : Prop :=
  s.published ≠ s.version ∧ (¬ s.HasJob s.version ∨ ∃ v, Lost s v)

theorem attended_or_stranded (h : s.published ≠ s.version) : Attended s ∨ Stranded s := by
  by_cases hcurrent : s.HasJob s.version
  · by_cases hheld : ∀ v, s.holder = some v → s.HasJob v
    · exact Or.inl ⟨fun _ ↦ hcurrent, hheld⟩
    · push Not at hheld
      obtain ⟨v, hholder, hgone⟩ := hheld
      exact Or.inr ⟨h, Or.inr ⟨v, hholder, hgone⟩⟩
  · exact Or.inr ⟨h, Or.inl hcurrent⟩

/-! ### What a step does to the jobs of a version -/

theorem hasJob_of_update {jobs : ℕ → Option (Job κ)} {id : ℕ} {x : Option (Job κ)}
    (hx : ∀ a, x = some a → ∃ j, jobs id = some j ∧ a.version = j.version)
    (h : ∃ k a, Function.update jobs id x k = some a ∧ a.version = v) :
    ∃ k a, jobs k = some a ∧ a.version = v := by
  obtain ⟨k, a, ha, hversion⟩ := h
  rcases update_eq_some ha with ⟨-, ha⟩ | ⟨-, ha⟩
  · obtain ⟨j, hj, hsame⟩ := hx a ha
    exact ⟨id, j, hj, hsame.symm.trans hversion⟩
  · exact ⟨k, a, ha, hversion⟩

/-- Only a change of the content adds a job of a version that had none. -/
theorem Step.hasJob (hstep : Step s e t) (h : t.HasJob v) :
    s.HasJob v ∨ (t.version = s.version + 1 ∧ v = t.version) := by
  cases hstep with
  | schedule id flag content free =>
    obtain ⟨k, a, ha, rfl⟩ := h
    rcases update_eq_some ha with ⟨-, ha⟩ | ⟨-, ha⟩
    · exact Or.inr ⟨rfl, by rw [← Option.some.inj ha]⟩
    · exact Or.inl ⟨k, a, ha, rfl⟩
  | drop id stays j job old =>
    exact Or.inl (hasJob_of_update (fun a ha ↦ ⟨j, job, Job.version_of_rest a ha⟩) h)
  | postpone id new stays j job free =>
    obtain ⟨k, a, ha, rfl⟩ := h
    rcases update_eq_some ha with ⟨-, ha⟩ | ⟨-, ha⟩
    · exact Or.inl ⟨id, j, job, by rw [← Option.some.inj ha]⟩
    · exact Or.inl (hasJob_of_update (fun a ha ↦ ⟨j, job, Job.version_of_rest a ha⟩)
        ⟨k, a, ha, rfl⟩)
  | acquire id j job current free =>
    exact Or.inl (hasJob_of_update (fun a ha ↦ ⟨j, job, Job.version_of_phase a ha⟩) h)
  | load id j job phase =>
    exact Or.inl (hasJob_of_update (fun a ha ↦ ⟨j, job, Job.version_of_phase a ha⟩) h)
  | reconcile id j content job phase =>
    exact Or.inl (hasJob_of_update (fun a ha ↦ ⟨j, job, Job.version_of_phase a ha⟩) h)
  | pass id j content job phase flag =>
    exact Or.inl (hasJob_of_update (fun a ha ↦ ⟨j, job, Job.version_of_phase a ha⟩) h)
  | publish id stays j content job phase holder =>
    exact Or.inl (hasJob_of_update (fun a ha ↦ ⟨j, job, Job.version_of_rest a ha⟩) h)
  | stop id restarts j job =>
    exact Or.inl (hasJob_of_update (fun a ha ↦ ⟨j, job, Job.version_of_rest a ha⟩) h)

/-- A version is held that was held before, or a job has acquired it. -/
theorem Step.holder_cases (hstep : Step s e t) (h : t.holder = some v) :
    s.holder = some v ∨ t.HasJob v := by
  cases hstep with
  | drop id stays j job old =>
    change (if s.holder = some j.version then none else s.holder) = some v at h
    split_ifs at h
    exact Or.inl h
  | acquire id j job current free =>
    exact Or.inr ⟨id, { j with phase := .holding }, Function.update_self id _ s.jobs,
      Option.some.inj h⟩
  | publish id stays j content job phase holder => cases h
  | _ => exact Or.inl h

/-- A new version comes with its job. -/
theorem Step.version_cases (hstep : Step s e t) :
    t.version = s.version ∨ (t.version = s.version + 1 ∧ t.HasJob t.version) := by
  cases hstep with
  | schedule id flag content free =>
    exact Or.inr ⟨rfl, id, _, Function.update_self id _ s.jobs, rfl⟩
  | _ => exact Or.inl rfl

/-- Only a job of the version publishes it. -/
theorem Step.published_cases (hstep : Step s e t) :
    (t.published = s.published ∧ t.evidence = s.evidence) ∨
      (s.HasJob t.published ∧ s.holder = some t.published) := by
  cases hstep with
  | publish id stays j content job phase holder => exact Or.inr ⟨⟨id, j, job, rfl⟩, holder⟩
  | _ => exact Or.inl ⟨rfl, rfl⟩

/-! ### Attended locks -/

/-- Assumes: a job that is gone was not needed any more. -/
theorem Attended.step (hstep : Step s e t) (hordered : Ordered s)
    (hkept : ∀ v, s.HasJob v →
      t.HasJob v ∨ (t.holder ≠ some v ∧ (t.version = v → t.published = v)))
    (h : Attended s) : Attended t := by
  constructor
  · intro hunpublished
    rcases hstep.version_cases with hversion | ⟨-, hnew⟩
    · have hbefore : s.published ≠ s.version := by
        intro heq
        have hle := (Ordered.le_of_step hstep hordered).2
        have hle' := (Ordered.step hstep hordered).published_le
        omega
      rcases hkept s.version (h.current hbefore) with hjob | ⟨-, hdone⟩
      · rwa [hversion]
      · exact absurd ((hdone hversion).trans hversion.symm) hunpublished
    · exact hnew
  · intro v hholder
    rcases hstep.holder_cases hholder with hheld | hjob
    · rcases hkept v (h.held v hheld) with hjob | ⟨hreleased, -⟩
      · exact hjob
      · exact absurd hholder hreleased
    · exact hjob

/-! ### Stranded locks -/

/-- No step releases a version without jobs, and nothing is published while it is held. -/
theorem Lost.step (hstep : Step s e t) (hordered : Ordered s) (h : Lost s v) :
    Lost t v ∧ t.published = s.published ∧ t.evidence = s.evidence := by
  have hgone : ¬ t.HasJob v := by
    intro hjob
    rcases hstep.hasJob hjob with hold | ⟨hversion, hnew⟩
    · exact h.gone hold
    · have hle := (hordered.holder_le v h.holder).2
      omega
  refine ⟨⟨?_, hgone⟩, ?_⟩
  · cases hstep with
    | drop id stays j job old =>
      change (if s.holder = some j.version then none else s.holder) = some v
      rw [if_neg, h.holder]
      rw [h.holder]
      exact fun heq ↦ h.gone ⟨id, j, job, (Option.some.inj heq).symm⟩
    | acquire id j job current free =>
      rcases free with hnone | hown
      · rw [h.holder] at hnone
        cases hnone
      · exact hown.symm.trans h.holder
    | publish id stays j content job phase holder =>
      exact absurd ⟨id, j, job, Option.some.inj (holder.symm.trans h.holder)⟩ h.gone
    | _ => exact h.holder
  · rcases hstep.published_cases with hsame | ⟨hjob, hholder⟩
    · exact hsame
    · rw [h.holder, Option.some.injEq] at hholder
      exact absurd (hholder ▸ hjob) h.gone

/-- A stranded lock stays stranded until something is scheduled. -/
theorem Stranded.step (hstep : Step s e t) (hordered : Ordered s) (hsame : t.version = s.version)
    (h : Stranded s) : Stranded t := by
  obtain ⟨hunpublished, hgone | ⟨v, hlost⟩⟩ := h
  · have hstill : ¬ t.HasJob t.version := by
      rw [hsame]
      intro hjob
      rcases hstep.hasJob hjob with hold | ⟨hversion, -⟩
      · exact hgone hold
      · omega
    refine ⟨fun heq ↦ ?_, Or.inl hstill⟩
    rcases hstep.published_cases with ⟨hpublished, -⟩ | ⟨hjob, -⟩
    · exact hunpublished (hpublished.symm.trans (heq.trans hsame))
    · rw [heq, hsame] at hjob
      exact hgone hjob
  · obtain ⟨hlost', hpublished, -⟩ := hlost.step hstep hordered
    rw [Stranded, hpublished, hsame]
    exact ⟨hunpublished, Or.inr ⟨v, hlost'⟩⟩

end YandexPay.RevisionLock
