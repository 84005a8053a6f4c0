import YandexPay.BillPayments.SearchProtocol

/-!
# The laws of the searches

Through the simulation of `SearchProtocol` every reachable state of the service is, for every
user, a state of the revision lock, and the invariants of the lock become laws of the searches.

* Mutual exclusion, when the last commit of a task ends it: a task that has acquired its user
  stays the only one until it ends, exceptions included.
* Freshness, in every run: a user whose synced revision is the current one was synced by a search
  with exactly the stored documents.
* Reconciliation, in runs where no search without the flag acquires a user while a reconciliation
  is owed. `_retry` drops the flag, and so does a newer search, so runs without this condition lose
  a reconciliation (`reconciliation_lost`).
-/

set_option autoImplicit false
set_option relaxedAutoImplicit false

namespace YandexPay.BillPayments

open YandexPay.Transition
open YandexPay.RevisionLock (Lock Ordered Fresh Exclusive Reconciled)

variable {env : Environment} {policy : Policy World Event} {w : World}

/-! ### Invariants of the lock in reachable states -/

theorem subscribed_of_reachable (hw : (service env).Reachable policy w) :
    Subscribed w.searches := by
  refine System.Reachable.invariant (I := fun w ↦ Subscribed w.searches) ?_ ?_ hw
  · intro w hstart
    rw [show w = .initial from hstart]
    exact ⟨fun user h ↦ absurd h (Table.not_mem_empty user),
      fun task h ↦ absurd h (Table.not_mem_empty task)⟩
  · intro w e w' h _ hstep
    obtain ⟨o, hsearch⟩ := searchStep_of_step hstep
    exact h.step hsearch

/-- What every step of the lock keeps holds of the lock of every user in every reachable state. -/
theorem lock_invariant {I : Lock Content → Prop} {uid : ℤ}
    (hstart : I (World.initial.searches.lock uid))
    (hstep : ∀ (w : World) e (w' : World) le, (service env).Reachable policy w → policy w e →
      LockStep e (w.searches.lock uid) (w'.searches.lock uid) le → I (w.searches.lock uid) →
        I (w'.searches.lock uid))
    (hw : (service env).Reachable policy w) : I (w.searches.lock uid) := by
  refine System.Reachable.invariant_of (I := fun w ↦ I (w.searches.lock uid))
    (J := (service env).Reachable policy) (fun _ h ↦ h) ?_ ?_ hw
  · intro w hinitial
    rw [show w = .initial from hinitial]
    exact hstart
  · intro w e w' hreachable hI he hnext
    rcases lock_step hnext (subscribed_of_reachable hreachable) uid with hsame | ⟨le, hlock⟩
    · rw [hsame]
      exact hI
    · exact hstep w e w' le hreachable he hlock hI

theorem ordered_of_reachable (hw : (service env).Reachable policy w) (uid : ℤ) :
    Ordered (w.searches.lock uid) := by
  refine lock_invariant ?_ (fun w e w' le _ _ h ↦ Ordered.step h.step) hw
  refine ⟨Nat.zero_le _, fun v h ↦ ?_, fun id j h ↦ ?_⟩ <;> cases h

theorem fresh_of_reachable (hw : (service env).Reachable policy w) (uid : ℤ) :
    Fresh (w.searches.lock uid) := by
  refine lock_invariant ?_
    (fun w e w' le hw _ h ↦ Fresh.step h.step (ordered_of_reachable hw uid)) hw
  refine ⟨fun id j h ↦ ?_, fun h ↦ ?_⟩ <;> cases h

/-! ### Mutual exclusion -/

/-- The last commit of a task ends it: there is no crash between the two. -/
def CommitsEndTasks (_ : World) (e : Event) : Prop := e.crashed = false

instance (w : World) (e : Event) : Decidable (CommitsEndTasks w e) :=
  inferInstanceAs (Decidable (e.crashed = false))

theorem exclusive_of_reachable (hw : (service env).Reachable CommitsEndTasks w) (uid : ℤ) :
    Exclusive (w.searches.lock uid) := by
  refine lock_invariant ?_ ?_ hw
  · refine ⟨fun i k a b h ↦ ?_, fun i a h ↦ ?_⟩ <;> cases h
  · intro w e w' le hw hends h
    refine Exclusive.step h.step ?_ (ordered_of_reachable hw uid)
    cases hstays : le.stays with
    | false => rfl
    | true => exact absurd (h.stays hstays) (by rw [show e.crashed = false from hends]; simp)

/-- A task that has acquired its user and has not ended since, also when an exception has stopped
it and it has not yet run again. -/
structure Holds (env : Environment) (w : World) (task : Task) : Prop where
  stored : task ∈ w.db.tasks.toTable
  acquired : ∃ v, (service env).Reachable CommitsEndTasks v ∧
    (service env).Leads CommitsEndTasks v w ∧
      ∃ t ∈ v.db.tasks.toTable, t.taskId = task.taskId ∧ t.state ≠ .pending

/-- A step neither reuses a task id nor changes the arguments of a task. -/
theorem SearchStep.kept {e : Event} {o : ℤ} {s t : Searches} (hstep : SearchStep e s o t)
    {taskId : ℕ} (hid : taskId ≤ s.tasks.last) : taskId ≤ t.tasks.last ∧
      ∀ task, t.tasks.get? taskId = some task →
        ∃ old, s.tasks.get? taskId = some old ∧ old.action = task.action := by
  have hreplace : ∀ {tasks : SerialTable Task.taskId} {old : Task} {state : TaskState},
      tasks.get? old.taskId = some old → ∀ task,
        (tasks.replace { old with state }).get? taskId = some task →
          ∃ x, tasks.get? taskId = some x ∧ x.action = task.action := by
    intro tasks old state hold task h
    rw [SerialTable.get?_replace] at h
    split_ifs at h with hkey
    · obtain ⟨x, hx, rfl⟩ := Option.map_eq_some_iff.mp h
      change taskId = old.taskId at hkey
      rw [hkey, hold] at hx
      rw [hkey, hold]
      exact ⟨old, rfl, rfl⟩
    · exact ⟨task, h, rfl⟩
  have hend : ∀ {tasks : SerialTable Task.taskId} {old : Task} {crashed : Bool},
      tasks.get? old.taskId = some old → ∀ task,
        (endTask tasks old crashed).get? taskId = some task →
          ∃ x, tasks.get? taskId = some x ∧ x.action = task.action := by
    intro tasks old crashed hold task h
    unfold endTask at h
    split_ifs at h
    · exact hreplace hold task h
    · rw [SerialTable.get?_remove] at h
      split_ifs at h
      exact ⟨task, h, rfl⟩
  have hlast : ∀ {tasks : SerialTable Task.taskId} {old : Task} {crashed : Bool},
      (endTask tasks old crashed).last = tasks.last := by
    intro tasks old crashed
    unfold endTask
    split_ifs <;> rfl
  have happend : ∀ {make : ℕ → Task} {hmake : ∀ n, (make n).taskId = n} {task : Task},
      (s.tasks.append make hmake).get? taskId = some task → s.tasks.get? taskId = some task := by
    intro make hmake task h
    rw [SerialTable.get?_append, if_neg (by omega)] at h
    exact h
  cases hstep with
  | idle => exact ⟨hid, fun task h ↦ ⟨task, h, rfl⟩⟩
  | schedule user users documents sync journal stored known others record =>
    exact ⟨Nat.le_succ_of_le hid, fun task h ↦ ⟨task, happend h, rfl⟩⟩
  | obsolete task user stored owner old => exact ⟨hid.trans_eq hlast.symm, hend stored⟩
  | postpone task stored =>
    have hle : taskId ≤ s.tasks.last + 1 := Nat.le_succ_of_le hid
    refine ⟨hle.trans_eq (Eq.symm hlast), fun x hx ↦ ?_⟩
    have hstored : (s.tasks.append
        (fun taskId ↦ ⟨taskId, ⟨task.action.uid, task.action.revision, false⟩, .pending⟩)
        fun _ ↦ rfl).get? task.taskId = some task := by
      rw [SerialTable.get?_append, if_neg, stored]
      exact SerialTable.key_ne_next (Table.get?_eq_some_iff.mp stored).1
    obtain ⟨old, hold, haction⟩ := hend hstored x hx
    exact ⟨old, happend hold, haction⟩
  | acquire task user crashed event stored owner current free => exact ⟨hid, hreplace stored⟩
  | load task user stored state => exact ⟨hid, hreplace stored⟩
  | reconcile task user documents unsubscribed stored state => exact ⟨hid, hreplace stored⟩
  | ask task user documents response stored state nonempty => exact ⟨hid, hreplace stored⟩
  | complete task user query stored asked owner holder =>
    exact ⟨hid.trans_eq hlast.symm, hend stored⟩
  | stop task stored restarts => exact ⟨hid.trans_eq hlast.symm, hend stored⟩

/-- A task that holds its user is the one that the user is syncing. -/
theorem Holds.holder {task : Task} (h : Holds env w task) :
    (w.searches.lock task.action.uid).holder = some task.action.revision := by
  obtain ⟨hstored, v, hv, hleads, old, hold, hid, hprocessing⟩ := h
  have hactive : (v.searches.lock old.action.uid).holder = some old.action.revision := by
    refine (exclusive_of_reachable hv old.action.uid).holder old.taskId old.toJob
      ((jobsOf_eq (Table.get?_key hold)).trans (Task.jobOf_self old)) fun hwaiting ↦ ?_
    exact hprocessing (TaskState.phase_eq_waiting hwaiting)
  have hkept : old.taskId ≤ w.db.tasks.last ∧ ∀ t, w.db.tasks.get? old.taskId = some t →
      t.action = old.action ∧
        (w.searches.lock old.action.uid).holder = some old.action.revision := by
    refine hleads.preserves_of (J := (service env).Reachable CommitsEndTasks)
      (I := fun w ↦ old.taskId ≤ w.db.tasks.last ∧ ∀ t, w.db.tasks.get? old.taskId = some t →
        t.action = old.action ∧
          (w.searches.lock old.action.uid).holder = some old.action.revision)
      (fun _ h ↦ h) ?_ hv ⟨v.db.tasks.bounded old hold, ?_⟩
    · rintro u e u' hu ⟨hle, hI⟩ he hnext
      obtain ⟨o, hsearch⟩ := searchStep_of_step hnext
      obtain ⟨hle', hback⟩ := hsearch.kept hle
      refine ⟨hle', fun t' ht' ↦ ?_⟩
      obtain ⟨t, ht, haction⟩ := hback t' ht'
      obtain ⟨hsame, hheld⟩ := hI t ht
      have haction' : t'.action = old.action := haction.symm.trans hsame
      refine ⟨haction', ?_⟩
      rcases lock_step hnext (subscribed_of_reachable hu) old.action.uid with hlock | ⟨le, hlock⟩
      · rw [hlock]
        exact hheld
      · have hends : le.stays = false := by
          cases hstays : le.stays with
          | false => rfl
          | true => exact absurd (hlock.stays hstays) (by rw [show e.crashed = false from he]; simp)
        have hjob : ∀ {x : World} {t : Task}, x.db.tasks.get? old.taskId = some t →
            t.action = old.action →
            (x.searches.lock old.action.uid).jobs old.taskId = some t.toJob := by
          intro x t ht haction
          change (x.db.tasks.get? old.taskId).bind (Task.jobOf old.action.uid) = _
          rw [ht, Option.bind_some, ← haction, Task.jobOf_self]
        have hrevision : t.toJob.version = old.action.revision :=
          congrArg SearchFinesAction.revision hsame
        rw [← hrevision] at hheld ⊢
        exact ((exclusive_of_reachable hu _).held_of_step hlock.step hends (hjob ht hsame) hheld
          (hjob ht' haction')).2
    · intro t ht
      have hsame : t = old :=
        Option.some.inj (ht.symm.trans (Table.get?_key hold))
      subst hsame
      exact ⟨rfl, hactive⟩
  have hget : w.db.tasks.get? old.taskId = some task := by
    rw [hid]
    exact Table.get?_key hstored
  obtain ⟨haction, hholder⟩ := hkept.2 task hget
  rw [haction]
  exact hholder

/-- The revision that is synced belongs to a stored user. -/
theorem user_of_holder {s : Searches} {uid : ℤ} {revision : ℕ}
    (h : (s.lock uid).holder = some revision) :
    ∃ user, s.users.get? uid = some user ∧ user.syncingRevision = some revision := by
  cases hget : s.users.get? uid with
  | none =>
    change (userOf s.users uid).syncingRevision = _ at h
    rw [userOf, hget] at h
    cases h
  | some user => exact ⟨user, rfl, (lock_holder hget).symm.trans h⟩

/-- Assumes: the last commit of a task ends it. Of the tasks of a user at most one is between its
`_acquire_user` and its last commit, and the user is syncing its revision. -/
theorem search_mutual_exclusion (env : Environment) (w : World) (s t : Task)
    (hs : Holds env w s) (ht : Holds env w t) (huid : s.action.uid = t.action.uid) :
    s = t ∧ ∃ user, w.db.users.get? s.action.uid = some user ∧
      user.syncingRevision = some s.action.revision := by
  obtain ⟨v, hv, hleads, -⟩ := hs.acquired
  have hexclusive := exclusive_of_reachable (hv.leads hleads) s.action.uid
  have hsheld := hs.holder
  have htheld := ht.holder
  rw [← huid] at htheld
  have hjob : ∀ {x : Task}, x ∈ w.db.tasks.toTable → x.action.uid = s.action.uid →
      (w.searches.lock s.action.uid).jobs x.taskId = some x.toJob := by
    intro x hx hxuid
    rw [← hxuid]
    exact (jobsOf_eq (Table.get?_key hx)).trans (Task.jobOf_self x)
  have hid : s.taskId = t.taskId :=
    hexclusive.distinct s.taskId t.taskId s.toJob t.toJob (hjob hs.stored rfl)
      (hjob ht.stored huid.symm) (Option.some.inj (hsheld.symm.trans htheld))
  exact ⟨Table.eq_of_key_eq hs.stored ht.stored hid, user_of_holder hsheld⟩

/-- A driver licence whose search is running. -/
def searchingWorld : World :=
  ((service concreteEnv).run CommitsEndTasks .initial
    [.createDocument ⟨1, .driverLicense, "7700", none⟩ ⟨1⟩ ⟨1⟩, .searchStart 1 false]).get
      (by decide +kernel)

/-- The search is stopped by an exception, and a search for a second document has to wait. -/
def interruptedWorld : World :=
  ((service concreteEnv).run CommitsEndTasks searchingWorld
    [.searchCrash 1, .createDocument ⟨1, .driverLicense, "7701", none⟩ ⟨2⟩ ⟨2⟩,
      .searchStart 2 false]).get (by decide +kernel)

/-- The search that was stopped holds its user still. -/
theorem search_mutual_exclusion_witness : ∃ user,
    interruptedWorld.db.users.get? 1 = some user ∧ user.syncingRevision = some 2 := by
  have hholds : Holds concreteEnv interruptedWorld ⟨1, ⟨1, 2, false⟩, .pending⟩ :=
    ⟨by decide +kernel, searchingWorld, System.reachable_get rfl _, System.leads_get _,
      by decide +kernel⟩
  exact (search_mutual_exclusion concreteEnv interruptedWorld _ _ hholds hholds rfl).2

/-! ### Freshness -/

theorem lastCompleted_eq_some {uid : ℤ} {journal : List Occurrence} {revision : ℕ}
    {content : Content} (h : lastCompleted uid journal = some (revision, content)) :
    ∃ query newer older, journal = newer ++ .completed uid revision query :: older ∧
      (∀ r q, .completed uid r q ∉ newer) ∧ content = query.map SearchRequest.documents := by
  induction journal with
  | nil => cases h
  | cons entry journal ih =>
    have hskip : lastCompleted uid journal = some (revision, content) →
        (∀ r q, .completed uid r q ≠ entry) → ∃ query newer older,
          entry :: journal = newer ++ .completed uid revision query :: older ∧
            (∀ r q, .completed uid r q ∉ newer) ∧
              content = query.map SearchRequest.documents := by
      intro hjournal hentry
      obtain ⟨query, newer, older, rfl, hnewer, hcontent⟩ := ih hjournal
      refine ⟨query, entry :: newer, older, rfl, fun r q hmem ↦ ?_, hcontent⟩
      rcases List.mem_cons.mp hmem with heq | hmem
      · exact hentry r q heq
      · exact hnewer r q hmem
    cases entry with
    | documentsChanged u r sync => exact hskip h fun r q heq ↦ by cases heq
    | reconciled u docs => exact hskip h fun r q heq ↦ by cases heq
    | completed u r query =>
      rw [lastCompleted] at h
      split_ifs at h with hu
      · obtain ⟨rfl, rfl⟩ := Prod.mk.inj (Option.some.inj h)
        subst hu
        exact ⟨query, [], journal, rfl, fun r q hmem ↦ absurd hmem List.not_mem_nil, rfl⟩
      · refine hskip h fun r q heq ↦ hu ?_
        cases heq
        rfl

/-- The counters are ordered, the synced revision never decreases, and a user whose state is
completed was synced by a search that asked Kazna about exactly the stored documents, or made no
request when none are stored. -/
theorem completed_search_is_fresh (env : Environment) (w : World)
    (hw : (service env).Reachable (fun _ _ ↦ True) w) (uid : ℤ) (user : User)
    (huser : w.db.users.get? uid = some user) :
    user.syncedRevision ≤ user.revision ∧
      (∀ revision, user.syncingRevision = some revision → revision ≤ user.revision) ∧
      (∀ w' user', (service env).Leads (fun _ _ ↦ True) w w' →
        w'.db.users.get? uid = some user' → user.syncedRevision ≤ user'.syncedRevision) ∧
      (user.syncedRevision = user.revision →
        ∃ query newer older, w.journal = newer ++ .completed uid user.revision query :: older ∧
          (∀ revision q, .completed uid revision q ∉ newer) ∧
          (query = none ↔ w.db.documentsOf uid = []) ∧
          ∀ request, query = some request → ∀ code value,
            PayerDoc.Mentions request.documents code value ↔
              ∃ d ∈ w.db.documentsOf uid, d.code = code ∧ d.value = value) := by
  have hversion : (w.searches.lock uid).version = user.revision := lock_version huser
  have hpublished : (w.searches.lock uid).published = user.syncedRevision := lock_published huser
  have hholder : (w.searches.lock uid).holder = user.syncingRevision := lock_holder huser
  have hordered := ordered_of_reachable hw uid
  refine ⟨?_, ?_, ?_, ?_⟩
  · rw [← hversion, ← hpublished]
    exact hordered.published_le
  · intro revision hsyncing
    rw [← hversion]
    exact (hordered.holder_le revision (hholder.trans hsyncing)).2
  · intro w' user' hleads huser'
    have hpublished' : (w'.searches.lock uid).published = user'.syncedRevision :=
      lock_published huser'
    rw [← hpublished, ← hpublished']
    refine hleads.le_of_step (f := fun x : World ↦ (x.searches.lock uid).published)
      (J := (service env).Reachable fun _ _ ↦ True) (fun _ h ↦ h) ?_ hw
    intro x e x' hx _ hnext
    rcases lock_step hnext (subscribed_of_reachable hx) uid with hsame | ⟨le, hlock⟩
    · rw [hsame]
    · exact (Ordered.le_of_step hlock.step (ordered_of_reachable hx uid)).2
  · intro hsynced
    have hevidence := (fresh_of_reachable hw uid).published
      (hpublished.trans (hsynced.trans hversion.symm))
    rw [hversion] at hevidence
    obtain ⟨query, newer, older, hjournal, hnewer, hcontent⟩ := lastCompleted_eq_some hevidence
    change contentOf (w.db.documentsOf uid) = query.map SearchRequest.documents at hcontent
    refine ⟨query, newer, older, hjournal, hnewer, ?_, ?_⟩
    · constructor
      · rintro rfl
        exact contentOf_eq_none hcontent
      · intro hempty
        rw [contentOf, if_pos hempty] at hcontent
        exact Option.map_eq_none_iff.mp hcontent.symm
    · rintro request rfl
      exact mentions_contentOf hcontent

/-- The state of a user whose only document has been searched. -/
def completedWorld : World :=
  ((service concreteEnv).run (fun _ _ ↦ True) .initial
    (.createDocument ⟨1, .driverLicense, "7700", none⟩ ⟨1⟩ ⟨1⟩ ::
      searchRun 1 ⟨.complete, []⟩ fun _ ↦ ⟨1⟩)).get (by decide +kernel)

theorem completed_search_is_fresh_witness :
    ∃ request newer older,
      completedWorld.journal = newer ++ .completed 1 2 (some request) :: older ∧
      PayerDoc.Mentions request.documents .driverLicense "7700" := by
  obtain ⟨user, huser⟩ : ∃ user, completedWorld.db.users.get? 1 = some user ∧
      user.revision = 2 ∧ user.syncedRevision = 2 := by
    refine ⟨⟨1, 2, 2, none, some (concreteEnv.uuidText ⟨1⟩)⟩, ?_⟩
    decide +kernel
  obtain ⟨hget, hrevision, hsynced⟩ := huser
  obtain ⟨-, -, -, hfresh⟩ := completed_search_is_fresh concreteEnv completedWorld
    (System.reachable_get rfl _) 1 user hget
  obtain ⟨query, newer, older, hjournal, -, hnone, hmentions⟩ :=
    hfresh (hsynced.trans hrevision.symm)
  rw [hrevision] at hjournal
  cases query with
  | none => exact absurd (hnone.mp rfl) (by decide +kernel)
  | some request =>
    exact ⟨request, newer, older, hjournal, (hmentions request rfl _ _).mpr (by decide +kernel)⟩

/-- The state of a user whose only document has been deleted before its first search. -/
def emptiedWorld : World :=
  ((service concreteEnv).run (fun _ _ ↦ True) .initial
    [.createDocument ⟨1, .driverLicense, "7700", none⟩ ⟨1⟩ ⟨1⟩, .deleteDocument ⟨1, ⟨1⟩⟩,
      .searchStart 2 false, .searchLoad 2, .searchReconcile 2 [],
      .searchFinish 2 (fun _ ↦ ⟨1⟩) false]).get (by decide +kernel)

/-- A completed state for which Kazna was never asked. -/
theorem completed_without_query :
    (service concreteEnv).Reachable (fun _ _ ↦ True) emptiedWorld ∧
      (∃ user, emptiedWorld.db.users.get? 1 = some user ∧
        user.syncedRevision = user.revision) ∧
      ∀ revision request, .completed 1 revision (some request) ∉ emptiedWorld.journal := by
  refine ⟨System.reachable_get rfl _, ?_, ?_⟩
  · exact ⟨⟨1, 3, 3, none, some (concreteEnv.uuidText ⟨1⟩)⟩, by decide +kernel⟩
  · have hjournal : emptiedWorld.journal =
        [.completed 1 3 none, .reconciled 1 [], .documentsChanged 1 3 true,
          .documentsChanged 1 2 false] := by decide +kernel
    rw [hjournal]
    simp

/-! ### Reconciliation -/

/-- A search without the flag is about to acquire its user while a reconciliation is owed. -/
def World.skipsReconciliation (w : World) (taskId : ℕ) : Bool :=
  match w.db.tasks.get? taskId with
  | none => false
  | some task =>
    let user := userOf w.db.users task.action.uid
    task.action.syncSubscription = false ∧ task.action.revision = user.revision ∧
      (user.syncingRevision = none ∨ user.syncingRevision = some task.action.revision) ∧
      owed task.action.uid w.journal = true

/-- No search without the flag acquires its user while a reconciliation is owed. -/
def KeepsFlag (w : World) (e : Event) : Prop :=
  match e with
  | .searchStart taskId _ => w.skipsReconciliation taskId = false
  | _ => True

instance (w : World) (e : Event) : Decidable (KeepsFlag w e) := by
  induction e using Event.casesOn <;> unfold KeepsFlag <;> infer_instance

theorem reconciled_of_reachable (hw : (service env).Reachable KeepsFlag w) (uid : ℤ) :
    Reconciled (w.searches.lock uid) := by
  refine lock_invariant ?_ ?_ hw
  · refine ⟨fun h ↦ ?_, fun id j h ↦ ?_⟩ <;> cases h
  · intro w e w' le hw hkeeps hlock hreconciled
    refine Reconciled.step hlock.step ?_ (ordered_of_reachable hw uid) hreconciled
    rintro taskId j rfl hjob hflag hcurrent hfree
    obtain ⟨crashed, rfl⟩ := hlock.acquires taskId rfl
    obtain ⟨task, hget, hjob⟩ := Option.bind_eq_some_iff.mp hjob
    unfold Task.jobOf at hjob
    split_ifs at hjob with huid
    obtain rfl := Option.some.inj hjob
    subst huid
    have hkept : w.skipsReconciliation taskId = false := hkeeps
    change w.db.tasks.get? taskId = some task at hget
    rw [World.skipsReconciliation, hget] at hkept
    by_contra howed
    rw [Bool.not_eq_false] at howed
    exact of_decide_eq_false hkept ⟨hflag, hcurrent, hfree, howed⟩

/-- A change that a step records is the current revision of its user. -/
theorem SearchStep.recorded {e : Event} {o uid : ℤ} {s t : Searches}
    (hstep : SearchStep e s o t) {revision : ℕ} {sync : Bool}
    (h : .documentsChanged uid revision sync ∈ t.journal) :
    .documentsChanged uid revision sync ∈ s.journal ∨ revision = (t.lock uid).version := by
  cases hstep with
  | schedule user users documents flag journal stored known others record =>
    rcases record with rfl | ⟨-, rfl⟩
    · rcases List.mem_cons.mp h with heq | hmem
      · obtain ⟨rfl, rfl, -⟩ := Occurrence.documentsChanged.inj heq
        have hnew : userOf (users.replace { user with revision := user.revision + 1 })
            user.uid = { user with revision := user.revision + 1 } :=
          userOf_saved { user with revision := user.revision + 1 } stored rfl
        exact Or.inr (congrArg User.revision hnew).symm
      · exact Or.inl hmem
    · exact Or.inl h
  | reconcile task user documents unsubscribed stored state =>
    change _ ∈ (if _ then _ else _) at h
    split_ifs at h
    · rcases List.mem_cons.mp h with heq | hmem
      · cases heq
      · exact Or.inl hmem
    · exact Or.inl h
  | complete task user query stored asked owner holder =>
    rcases List.mem_cons.mp h with heq | hmem
    · cases heq
    · exact Or.inl hmem
  | _ => exact Or.inl h

/-- The journal names no revision that the user has not reached. -/
theorem revision_of_journal (hw : (service env).Reachable policy w) {uid : ℤ} {revision : ℕ}
    {sync : Bool} (h : .documentsChanged uid revision sync ∈ w.journal) :
    revision ≤ (w.searches.lock uid).version := by
  refine System.Reachable.invariant_of (J := (service env).Reachable policy)
    (I := fun w ↦ .documentsChanged uid revision sync ∈ w.journal →
      revision ≤ (w.searches.lock uid).version) (fun _ h ↦ h) ?_ ?_ hw h
  · intro w hstart hmem
    rw [show w = .initial from hstart] at hmem
    exact absurd hmem List.not_mem_nil
  · intro w e w' hw hI _ hnext hmem
    obtain ⟨o, hsearch⟩ := searchStep_of_step hnext
    rcases hsearch.recorded hmem with hold | hnew
    · refine (hI hold).trans ?_
      rcases lock_step hnext (subscribed_of_reachable hw) uid with hsame | ⟨le, hlock⟩
      · rw [hsame]
      · exact (Ordered.le_of_step hlock.step (ordered_of_reachable hw uid)).1
    · exact hnew.le

/-- When nothing is owed, a reconciliation has followed every change that asked for one. -/
theorem reconciled_of_owed {uid : ℤ} {revision : ℕ} {newer older : List Occurrence}
    (h : owed uid (newer ++ .documentsChanged uid revision true :: older) = false) :
    ∃ docs, .reconciled uid docs ∈ newer := by
  induction newer with
  | nil => simp [owed] at h
  | cons entry newer ih =>
    have hskip : owed uid (newer ++ .documentsChanged uid revision true :: older) = false →
        ∃ docs, .reconciled uid docs ∈ entry :: newer := by
      intro hnewer
      obtain ⟨docs, hmem⟩ := ih hnewer
      exact ⟨docs, List.mem_cons_of_mem entry hmem⟩
    rw [List.cons_append] at h
    cases entry with
    | documentsChanged u r sync => exact hskip (Bool.or_eq_false_iff.mp h).1
    | reconciled u docs =>
      rw [owed] at h
      split_ifs at h with hu
      · subst hu
        exact ⟨docs, List.mem_cons_self⟩
      · exact hskip h
    | completed u r query => exact hskip h

/-- Assumes: no search without the flag acquires its user while a reconciliation is owed. Once a
user is synced, every change of documents that asked for a reconciliation has been followed by
one. -/
theorem flagged_change_is_reconciled (env : Environment) (w : World)
    (hw : (service env).Reachable KeepsFlag w) (uid : ℤ) (user : User)
    (huser : w.db.users.get? uid = some user) (hsynced : user.syncedRevision = user.revision)
    (newer older : List Occurrence) (revision : ℕ)
    (hjournal : w.journal = newer ++ .documentsChanged uid revision true :: older) :
    revision ≤ user.syncedRevision ∧ ∃ docs, .reconciled uid docs ∈ newer := by
  have hpublished : (w.searches.lock uid).published = user.syncedRevision := lock_published huser
  have hversion : (w.searches.lock uid).version = user.revision := lock_version huser
  constructor
  · have hmem : .documentsChanged uid revision true ∈ w.journal := by
      rw [hjournal]
      exact List.mem_append_right newer List.mem_cons_self
    have hle := revision_of_journal hw hmem
    rw [hversion, ← hsynced] at hle
    exact hle
  · have howed := (reconciled_of_reachable hw uid).published
      (hpublished.trans (hsynced.trans hversion.symm))
    change owed uid w.journal = false at howed
    rw [hjournal] at howed
    exact reconciled_of_owed howed

/-- The only document is deleted and the search with the flag runs. -/
def reconciledWorld : World :=
  ((service concreteEnv).run KeepsFlag .initial
    (.createDocument ⟨1, .driverLicense, "7700", none⟩ ⟨1⟩ ⟨1⟩ ::
      searchRun 1 ⟨.complete, []⟩ (fun _ ↦ ⟨1⟩) ++
        [.deleteDocument ⟨1, ⟨1⟩⟩, .searchStart 2 false, .searchLoad 2,
          .searchReconcile 2 [⟨.driverLicense, ["7700"]⟩],
          .searchFinish 2 (fun _ ↦ ⟨1⟩) false])).get (by decide +kernel)

theorem flagged_change_is_reconciled_witness :
    ∃ docs, .reconciled 1 docs ∈ [Occurrence.completed 1 3 none,
      .reconciled 1 [⟨.driverLicense, ["7700"]⟩]] := by
  obtain ⟨user, huser, hsynced⟩ : ∃ user, reconciledWorld.db.users.get? 1 = some user ∧
      user.syncedRevision = user.revision :=
    ⟨⟨1, 3, 3, none, some (concreteEnv.uuidText ⟨1⟩)⟩, by decide +kernel⟩
  exact (flagged_change_is_reconciled concreteEnv reconciledWorld (System.reachable_get rfl _) 1
    user huser hsynced _ (reconciledWorld.journal.drop 3) 3 (by decide +kernel)).2

/-- A document is deleted while the search of the documents runs. The search with the flag has to
wait and is rescheduled by `_retry` without it; then both searches complete. -/
def lostWorld : World :=
  ((service concreteEnv).run (fun _ _ ↦ True) .initial
    ([.createDocument ⟨1, .driverLicense, "7700", none⟩ ⟨1⟩ ⟨1⟩,
        .createDocument ⟨1, .driverLicense, "7701", none⟩ ⟨2⟩ ⟨2⟩, .searchStart 2 false,
        .deleteDocument ⟨1, ⟨1⟩⟩, .searchStart 3 false, .searchLoad 2, .searchReconcile 2 [],
        .searchAsk 2 ⟨.complete, []⟩, .searchFinish 2 (fun _ ↦ ⟨1⟩) false] ++
      searchRun 4 ⟨.complete, []⟩ fun _ ↦ ⟨1⟩)).get (by decide +kernel)

/-- The user is synced, and no reconciliation has followed the deletion. -/
theorem reconciliation_lost :
    (service concreteEnv).Reachable (fun _ _ ↦ True) lostWorld ∧
      (∃ user, lostWorld.db.users.get? 1 = some user ∧ user.syncedRevision = user.revision ∧
        user.subscriptionId.getD "" ≠ "") ∧
      ∃ newer older, lostWorld.journal = newer ++ .documentsChanged 1 4 true :: older ∧
        ∀ docs, .reconciled 1 docs ∉ newer := by
  refine ⟨System.reachable_get rfl _, ?_, lostWorld.journal.take 2, lostWorld.journal.drop 3, ?_⟩
  · exact ⟨⟨1, 4, 4, none, some (concreteEnv.uuidText ⟨1⟩)⟩, by decide +kernel⟩
  · have hnewer : lostWorld.journal.take 2 =
        [.completed 1 4 (some ⟨[⟨.driverLicense, ["7701"]⟩], .gibdd,
          some (concreteEnv.uuidText ⟨1⟩)⟩), .completed 1 3 (some ⟨[⟨.driverLicense, ["7701"]⟩],
            .gibdd, some (concreteEnv.uuidText ⟨1⟩)⟩)] := by decide +kernel
    rw [hnewer]
    exact ⟨by decide +kernel, by simp⟩

end YandexPay.BillPayments
