import YandexPay.BillPayments.SearchLaws
import YandexPay.BillPayments.Completion
import YandexPay.Library.LockProgress

/-!
# Progress of the searches

Nothing but a search task releases a user, and nothing but a task of the current revision syncs
it. `World.HasSearch` says that a task is left. As long as no task is given up after its last
retry, every user that is not synced has the tasks that it needs, and the workers can bring it up
to date from every state. A task that is given up while its user is acquired leaves a user that no
run of the service ever syncs again.

The runs that bring a user up to date contain no crash: a search in progress is run to its end
(`exists_ended`), an obsolete one releases its user (`exists_released`), and a current one that may
acquire the user completes it (`exists_synced`).
-/

set_option autoImplicit false
set_option relaxedAutoImplicit false

namespace YandexPay.BillPayments

open YandexPay.Transition
open YandexPay.RevisionLock (Lock Attended Stranded Lost)

variable {env : Environment} {w w' : World}

/-! ### Events of the searches -/

/-- The events of the search tasks, crashes and failures included. -/
def Event.isSearch : Event → Bool
  | .searchStart _ _ => true
  | .searchLoad _ => true
  | .searchReconcile _ _ => true
  | .searchAsk _ _ => true
  | .searchFinish _ _ _ => true
  | .searchCrash _ => true
  | .searchFail _ => true
  | _ => false

def SearchesOnly (_ : World) (e : Event) : Prop := e.isSearch = true

/-- The workers work: no statement is interrupted and no task is given up. -/
def SearchWork (_ : World) (e : Event) : Prop :=
  match e with
  | .searchCrash _ => False
  | .searchFail _ => False
  | e => e.isSearch = true ∧ e.crashed = false

def Event.givesUp : Event → Bool
  | .searchFail _ => true
  | _ => false

/-- No task is given up after its last retry. -/
def NoneGivenUp (_ : World) (e : Event) : Prop := e.givesUp = false

instance (w : World) (e : Event) : Decidable (NoneGivenUp w e) :=
  inferInstanceAs (Decidable (e.givesUp = false))

theorem SearchWork.searchesOnly {w : World} {e : Event} (h : SearchWork w e) :
    SearchesOnly w e := by
  cases e <;> first | rfl | exact h.1

/-- A search of the user for the revision has not ended. -/
def World.HasSearch (w : World) (uid : ℤ) (revision : ℕ) : Prop :=
  ∃ task ∈ w.db.tasks.toTable, task.action.uid = uid ∧ task.action.revision = revision

instance (w : World) (uid : ℤ) (revision : ℕ) : Decidable (w.HasSearch uid revision) :=
  inferInstanceAs (Decidable (∃ task ∈ w.db.tasks.toTable, _))

theorem hasJob_iff {uid : ℤ} {revision : ℕ} :
    (w.searches.lock uid).HasJob revision ↔ w.HasSearch uid revision := by
  constructor
  · rintro ⟨taskId, j, hjob, rfl⟩
    obtain ⟨task, hget, hjob⟩ := Option.bind_eq_some_iff.mp hjob
    unfold Task.jobOf at hjob
    split_ifs at hjob with huid
    rw [← Option.some.inj hjob]
    exact ⟨task, (Table.get?_eq_some_iff.mp hget).1, huid, rfl⟩
  · rintro ⟨task, hmem, rfl, rfl⟩
    exact ⟨task.taskId, task.toJob, lock_jobs (s := w.searches) (Table.get?_key hmem), rfl⟩

/-! ### What an event of a task leaves -/

section Tasks

variable {db : Database} {task other : Task}

theorem mem_endTask_of_ne {crashed : Bool} (h : other ∈ db.tasks.toTable)
    (hne : other.taskId ≠ task.taskId) : other ∈ (db.endTask task crashed).tasks.toTable := by
  change other ∈ (if crashed then db.tasks.replace { task with state := .pending }
    else db.tasks.remove task.taskId).toTable
  split_ifs
  · exact SerialTable.mem_replace.mpr (Or.inl ⟨h, hne⟩)
  · exact SerialTable.mem_remove.mpr ⟨h, hne⟩

theorem pending_mem_endTask (h : task ∈ db.tasks.toTable) :
    { task with state := .pending } ∈ (db.endTask task true).tasks.toTable :=
  SerialTable.mem_replace.mpr (Or.inr ⟨rfl, task, h, rfl⟩)

theorem mem_advanceTask_of_ne {progress : SearchProgress} (h : other ∈ db.tasks.toTable)
    (hne : other.taskId ≠ task.taskId) : other ∈ (db.advanceTask task progress).tasks.toTable :=
  SerialTable.mem_replace.mpr (Or.inl ⟨h, hne⟩)

theorem advanced_mem_advanceTask {progress : SearchProgress} (h : task ∈ db.tasks.toTable) :
    { task with state := .processing progress } ∈ (db.advanceTask task progress).tasks.toTable :=
  SerialTable.mem_replace.mpr (Or.inr ⟨rfl, task, h, rfl⟩)

/-- The task that has been added when another one ends. -/
theorem next_mem_endTask {db' : Database} {action : SearchFinesAction} {crashed : Bool}
    (h : task ∈ db.tasks.toTable)
    (hadded : db'.tasks = db.tasks.append (fun taskId ↦ ⟨taskId, action, .pending⟩) fun _ ↦ rfl) :
    ⟨db.tasks.last + 1, action, .pending⟩ ∈ (db'.endTask task crashed).tasks.toTable := by
  refine mem_endTask_of_ne ?_ (SerialTable.key_ne_next h).symm
  rw [hadded]
  exact SerialTable.mem_append.mpr (Or.inr rfl)

/-- A save of a user that keeps its revision keeps the revisions of all users. -/
theorem revision_replace {users : Table User.uid} (new : User) {old : User} (hold : old ∈ users)
    (hid : new.uid = old.uid) (hrevision : new.revision = old.revision) {uid : ℤ} {user : User}
    (h : users.get? uid = some user) :
    ∃ user', (users.replace new).get? uid = some user' ∧ user'.revision = user.revision := by
  rw [Table.get?_replace]
  split_ifs with huid
  · have hsame : user = old := by
      obtain ⟨hmem, hkey⟩ := Table.get?_eq_some_iff.mp h
      exact Table.eq_of_key_eq hmem hold (hkey.trans (huid.trans hid))
    rw [h, hsame]
    exact ⟨new, rfl, hrevision⟩
  · exact ⟨user, h, rfl⟩

end Tasks

/-- The user is released, and the revision is synced. -/
def World.Synced (w : World) (uid : ℤ) (revision : ℕ) : Prop :=
  ∃ user, w.db.users.get? uid = some user ∧ user.syncingRevision = none ∧
    user.syncedRevision = revision

/-- What remains of a task after an event of it: a task of the same search, the synced revision,
or nothing because the search is obsolete. -/
inductive Remains (task : Task) (w : World) : Prop
  | task (search : w.HasSearch task.action.uid task.action.revision)
  | synced (synced : w.Synced task.action.uid task.action.revision)
  | obsolete (user : User) (stored : w.db.users.get? task.action.uid = some user)
    (old : task.action.revision ≠ user.revision)
    (released : user.syncingRevision ≠ some task.action.revision)

/-- What an event of one task leaves of everything else. -/
structure WorkFrame (task : Task) (w w' : World) : Prop where
  users : ∀ {uid : ℤ} {user : User}, w.db.users.get? uid = some user →
    ∃ user', w'.db.users.get? uid = some user' ∧ user'.revision = user.revision
  others : ∀ other ∈ w.db.tasks.toTable, other.taskId ≠ task.taskId →
    other ∈ w'.db.tasks.toTable

section Moves

variable {task : Task}

theorem WorkFrame.of_users {crashed : Bool} {journal : List Occurrence} :
    WorkFrame task w { w with db := w.db.endTask task crashed, journal } :=
  ⟨fun h ↦ ⟨_, h, rfl⟩, fun _ hother hne ↦ mem_endTask_of_ne hother hne⟩

theorem WorkFrame.of_advance {progress : SearchProgress} {journal : List Occurrence} :
    WorkFrame task w { w with db := w.db.advanceTask task progress, journal } :=
  ⟨fun h ↦ ⟨_, h, rfl⟩, fun _ hother hne ↦ mem_advanceTask_of_ne hother hne⟩

theorem remains_pending {journal : List Occurrence} (stored : task ∈ w.db.tasks.toTable) :
    Remains task { w with db := w.db.endTask task true, journal } :=
  .task ⟨_, pending_mem_endTask stored, rfl, rfl⟩

theorem remains_advanced {progress : SearchProgress} {journal : List Occurrence}
    (stored : task ∈ w.db.tasks.toTable) :
    Remains task { w with db := w.db.advanceTask task progress, journal } :=
  .task ⟨_, advanced_mem_advanceTask stored, rfl, rfl⟩

theorem frame_searchStart {crashed : Bool} (stored : task ∈ w.db.tasks.toTable) :
    WorkFrame task w (w.searchStart task crashed) ∧
      Remains task (w.searchStart task crashed) := by
  unfold World.searchStart
  cases hrun : task.action.acquireUser w.db with
  | error _ =>
    exact ⟨⟨fun h ↦ ⟨_, h, rfl⟩, fun _ h _ ↦ h⟩, .task ⟨task, stored, rfl, rfl⟩⟩
  | ok result =>
    obtain ⟨acquired, db⟩ := result
    obtain ⟨user, owner, ⟨rfl, old, hdb⟩ | ⟨rfl, -, -, -, hdb⟩ | ⟨rfl, current, free, hdb⟩⟩ :=
      SearchFinesAction.acquireUser_ok hrun
    · have htasks : db.tasks = w.db.tasks := by rw [hdb]
      have hmem := (Table.get?_eq_some_iff.mp owner).1
      have husers : db.users = if user.syncingRevision = some task.action.revision then
          w.db.users.replace { user with syncingRevision := none } else w.db.users := by rw [hdb]
      refine ⟨⟨fun {uid u} h ↦ ?_, fun other hother hne ↦ ?_⟩, ?_⟩
      · change ∃ user', db.users.get? uid = some user' ∧ _
        rw [husers]
        split_ifs
        · exact revision_replace { user with syncingRevision := none } hmem rfl rfl h
        · exact ⟨u, h, rfl⟩
      · exact mem_endTask_of_ne (htasks ▸ hother) hne
      · by_cases hheld : user.syncingRevision = some task.action.revision
        · refine .obsolete { user with syncingRevision := none } ?_ old (by simp)
          change db.users.get? _ = _
          rw [husers, if_pos hheld, Table.get?_replace,
            if_pos (Table.get?_eq_some_iff.mp owner).2.symm, owner]
          rfl
        · refine .obsolete user ?_ old hheld
          change db.users.get? _ = _
          rw [husers, if_neg hheld, owner]
    · have husers : db.users = w.db.users := by rw [hdb]
      have htasks : db.tasks = w.db.tasks.append
          (fun taskId ↦ ⟨taskId, ⟨task.action.uid, task.action.revision, false⟩, .pending⟩)
          fun _ ↦ rfl := by rw [hdb]
      refine ⟨⟨fun h ↦ ⟨_, husers ▸ h, rfl⟩, fun other hother hne ↦ ?_⟩, .task ?_⟩
      · refine mem_endTask_of_ne ?_ hne
        rw [htasks]
        exact SerialTable.mem_append.mpr (Or.inl hother)
      · exact ⟨_, next_mem_endTask stored htasks, rfl, rfl⟩
    · have husers : db.users = w.db.users.replace
          { user with syncingRevision := some task.action.revision } := by rw [hdb]
      have htasks : db.tasks = w.db.tasks := by rw [hdb]
      refine ⟨⟨fun {uid u} h ↦ ?_, fun other hother hne ↦ ?_⟩, .task ?_⟩
      · change ∃ user', db.users.get? uid = some user' ∧ _
        rw [husers]
        exact revision_replace { user with syncingRevision := some task.action.revision }
          (Table.get?_eq_some_iff.mp owner).1 rfl rfl h
      · exact mem_advanceTask_of_ne (htasks ▸ hother) hne
      · exact ⟨_, advanced_mem_advanceTask (htasks ▸ stored), rfl, rfl⟩

/-- A search completes, or it fails and its task is pending again. -/
theorem searchComplete_cases {documents : List Document} {newId : String → UUID}
    {charges : List Charge} {query : Option SearchRequest} {crashed : Bool} :
    (∃ db user, task.action.complete documents newId charges w.db = .ok ((), db) ∧
      w.db.users.get? task.action.uid = some user ∧
      db.users = w.db.users.replace
        { user with syncingRevision := none, syncedRevision := task.action.revision } ∧
      db.tasks = w.db.tasks ∧
      w.searchComplete task documents newId charges query crashed =
        { w with
          db := db.endTask task crashed
          journal := .completed task.action.uid task.action.revision query :: w.journal }) ∨
    w.searchComplete task documents newId charges query crashed =
      { w with db := w.db.endTask task true } := by
  unfold World.searchComplete
  cases hrun : task.action.complete documents newId charges w.db with
  | error _ => exact Or.inr rfl
  | ok result =>
    obtain ⟨u, db⟩ := result
    obtain ⟨user, owner, -, -, hdb⟩ := SearchFinesAction.complete_ok hrun
    exact Or.inl ⟨db, user, rfl, owner, by rw [hdb], by rw [hdb], rfl⟩

theorem frame_searchComplete {documents : List Document} {newId : String → UUID}
    {charges : List Charge} {query : Option SearchRequest} {crashed : Bool}
    (stored : task ∈ w.db.tasks.toTable) :
    WorkFrame task w (w.searchComplete task documents newId charges query crashed) ∧
      Remains task (w.searchComplete task documents newId charges query crashed) := by
  rcases searchComplete_cases with ⟨db, user, -, owner, husers, htasks, heq⟩ | heq
  · rw [heq]
    obtain ⟨hmem, hkey⟩ := Table.get?_eq_some_iff.mp owner
    refine ⟨⟨fun {uid u} h ↦ ?_, fun other hother hne ↦ ?_⟩, .synced
      ⟨{ user with syncingRevision := none, syncedRevision := task.action.revision }, ?_, rfl,
        rfl⟩⟩
    · change ∃ user', db.users.get? uid = some user' ∧ _
      rw [husers]
      exact revision_replace
        { user with syncingRevision := none, syncedRevision := task.action.revision } hmem rfl
        rfl h
    · exact mem_endTask_of_ne (htasks ▸ hother) hne
    · change db.users.get? _ = _
      rw [husers, Table.get?_replace, if_pos hkey.symm, owner]
      rfl
  · rw [heq]
    exact ⟨.of_users, remains_pending stored⟩

theorem searchRetry_eq (w : World) (task : Task) (crashed : Bool) :
    ∃ db : Database, w.searchRetry task crashed = { w with db := db.endTask task crashed } ∧
      db.users = w.db.users ∧ db.tasks = w.db.tasks.append
        (fun taskId ↦ ⟨taskId, ⟨task.action.uid, task.action.revision, false⟩, .pending⟩)
        fun _ ↦ rfl := by
  let db := w.db.withTasks (w.db.tasks.append
    (fun taskId ↦ ⟨taskId, ⟨task.action.uid, task.action.revision, false⟩, .pending⟩)
    fun _ ↦ rfl)
  have hrun : task.action.retry w.db = .ok ((), db) := runAsync_eq_ok.mpr rfl
  refine ⟨db, ?_, rfl, rfl⟩
  rw [World.searchRetry, hrun]

theorem frame_searchRetry {crashed : Bool} (stored : task ∈ w.db.tasks.toTable) :
    WorkFrame task w (w.searchRetry task crashed) ∧
      ∃ next ∈ (w.searchRetry task crashed).db.tasks.toTable,
        next.action.uid = task.action.uid ∧ next.action.revision = task.action.revision ∧
          next.state = .pending := by
  obtain ⟨db, heq, husers, htasks⟩ := searchRetry_eq w task crashed
  rw [heq]
  refine ⟨⟨fun h ↦ ⟨_, husers ▸ h, rfl⟩, fun other hother hne ↦ ?_⟩, _,
    next_mem_endTask stored htasks, rfl, rfl, rfl⟩
  refine mem_endTask_of_ne ?_ hne
  rw [htasks]
  exact SerialTable.mem_append.mpr (Or.inl hother)

theorem WorkFrame.of_move {e : Event} (stored : task ∈ w.db.tasks.toTable)
    (h : World.SearchMove w task e w') : WorkFrame task w w' := by
  cases h with
  | start id crashed state => exact (frame_searchStart stored).1
  | fail id state => exact .of_users
  | load id user state => exact .of_advance
  | reconcile id subscription user documents state => exact .of_advance
  | ask id response user documents state nonempty => exact .of_advance
  | finishEmpty id newId crashed user state => exact (frame_searchComplete stored).1
  | finishComplete id newId crashed user documents request response state =>
    exact (frame_searchComplete stored).1
  | finishPart id newId crashed user documents request response state =>
    exact (frame_searchRetry stored).1
  | crash id progress state => exact .of_users

/-- A task that is not given up remains, or its search has become obsolete or completed. -/
theorem Remains.of_move {e : Event} (stored : task ∈ w.db.tasks.toTable)
    (hkept : e.givesUp = false) (h : World.SearchMove w task e w') : Remains task w' := by
  cases h with
  | start id crashed state => exact (frame_searchStart stored).2
  | fail id state => cases hkept
  | load id user state => exact remains_advanced stored
  | reconcile id subscription user documents state => exact remains_advanced stored
  | ask id response user documents state nonempty => exact remains_advanced stored
  | finishEmpty id newId crashed user state => exact (frame_searchComplete stored).2
  | finishComplete id newId crashed user documents request response state =>
    exact (frame_searchComplete stored).2
  | finishPart id newId crashed user documents request response state =>
    obtain ⟨next, hmem, huid, hrevision, -⟩ := (frame_searchRetry stored).2
    exact .task ⟨next, hmem, huid, hrevision⟩
  | crash id progress state => exact remains_pending stored

end Moves

/-! ### What the other events leave -/

theorem mem_tasks_of_run {α : Type} {action : Action α} {record : α → Database → List Occurrence}
    {task : Task} (h : task ∈ w.db.tasks.toTable)
    (hok : ∀ a db, action w.db = .ok (a, db) → task ∈ db.tasks.toTable) :
    task ∈ (w.run action record).db.tasks.toTable := by
  rcases w.run_eq action record with ⟨a, db, hrun, heq⟩ | heq
  · rw [heq]
    exact hok a db hrun
  · rwa [heq]

/-- Scheduling a search adds a task. -/
theorem mem_tasks_of_scheduled {t : Tables} {user : User} {sync : Bool} {db : Database}
    {task : Task} (hdb : db.toTables = t.scheduled user sync) (h : task ∈ t.tasks.toTable) :
    task ∈ db.tasks.toTable := by
  rw [hdb]
  exact SerialTable.mem_append.mpr (Or.inl h)

/-- Only the search events end tasks. -/
theorem mem_tasks_of_step {e : Event} {task : Task} (h : World.step env w e = some w')
    (hother : e.isSearch = false) (hmem : task ∈ w.db.tasks.toTable) :
    task ∈ w'.db.tasks.toTable := by
  have hreport : e.isReport = true → task ∈ w'.db.tasks.toTable := by
    intro hreport
    rcases move_of_step hreport h with rfl | ⟨db, rfl, r, r', code, -, -, hmove⟩
    · exact hmem
    · exact hmove.searches.2.2 ▸ hmem
  cases e with
  | createDocument action subscriptionId documentId =>
    obtain rfl := Option.some.inj h
    refine mem_tasks_of_run hmem fun document db hrun ↦ ?_
    obtain ⟨-, -, -, -, -, user, users, -, -, hdb⟩ := createDocument_ok hrun
    exact mem_tasks_of_scheduled hdb hmem
  | updateDocument action =>
    obtain rfl := Option.some.inj h
    refine mem_tasks_of_run hmem fun document db hrun ↦ ?_
    obtain ⟨old, user, -, -, -, -, hdb⟩ := updateDocument_ok hrun
    exact mem_tasks_of_scheduled hdb hmem
  | deleteDocument action =>
    obtain rfl := Option.some.inj h
    refine mem_tasks_of_run hmem fun scheduled db hrun ↦ ?_
    rcases deleteDocument_handle_ok hrun with ⟨-, rfl⟩ | ⟨document, user, -, -, -, -, hdb⟩
    · exact hmem
    · exact mem_tasks_of_scheduled hdb hmem
  | forceSearch action =>
    obtain rfl := Option.some.inj h
    refine mem_tasks_of_run hmem fun scheduled db hrun ↦ ?_
    rcases forceSearch_ok hrun with ⟨-, rfl⟩ | ⟨user, -, -, -, hdb⟩
    · exact hmem
    · exact mem_tasks_of_scheduled hdb hmem
  | searchStart => cases hother
  | searchLoad => cases hother
  | searchReconcile => cases hother
  | searchAsk => cases hother
  | searchFinish => cases hother
  | searchCrash => cases hother
  | searchFail => cases hother
  | notifyBills notifications =>
    obtain rfl := Option.some.inj h
    refine mem_tasks_of_run hmem fun u db hrun ↦ ?_
    rw [(createBillsFromManyNotifications_ok hrun).others]
    exact hmem
  | createOrder action orderId =>
    obtain rfl := Option.some.inj h
    refine mem_tasks_of_run hmem fun order db hrun ↦ ?_
    obtain ⟨-, -, -, -, htasks⟩ := (createOrder_ok hrun).2.others
    exact htasks ▸ hmem
  | pay action transactionId today payment =>
    obtain ⟨-, rfl | ⟨request, db, -, rfl⟩⟩ := World.pay_cases h <;> exact hmem
  | finishCreation transactionId =>
    obtain ⟨c, -, rfl⟩ := Option.map_eq_some_iff.mp h
    refine mem_tasks_of_run (w := w.takeCreation transactionId) hmem fun a db hrun ↦ ?_
    obtain ⟨-, -, -, hdb⟩ := CreateTransactionAction.commit_ok hrun
    rw [hdb]
    exact hmem
  | abandonCreation transactionId =>
    obtain rfl := Option.some.inj h
    exact hmem
  | webhook request => exact hreport rfl
  | getTransaction transactionId info => exact hreport rfl
  | resumeGet transactionId code => exact hreport rfl
  | syncStatus action info => exact hreport rfl
  | kaznaMoves paymentId code =>
    obtain rfl := Option.some.inj h
    exact hmem

/-- A search event is an event of one stored task. -/
theorem searchMove_of_step {e : Event} (h : World.step env w e = some w')
    (hsearch : e.isSearch = true) :
    ∃ task ∈ w.db.tasks.toTable, World.SearchMove w task e w' := by
  have hmove : ∀ {taskId}, w.searchEvent taskId e = some w' →
      ∃ task ∈ w.db.tasks.toTable, World.SearchMove w task e w' := by
    intro taskId h
    obtain ⟨task, hget, hmove⟩ := World.searchEvent_cases h
    exact ⟨task, (Table.get?_eq_some_iff.mp hget).1, hmove⟩
  cases e <;> first | exact hmove h | cases hsearch

/-- No search event touches the revision of a user. -/
theorem version_of_searchEvent {e : Event} (h : World.step env w e = some w')
    (hsearch : e.isSearch = true) {uid : ℤ} {user : User}
    (huser : w.db.users.get? uid = some user) :
    (∃ user', w'.db.users.get? uid = some user' ∧ user'.revision = user.revision) ∧
      (w'.searches.lock uid).version = (w.searches.lock uid).version := by
  obtain ⟨task, hmem, hmove⟩ := searchMove_of_step h hsearch
  obtain ⟨user', huser', hrevision⟩ := (WorkFrame.of_move hmem hmove).users huser
  refine ⟨⟨user', huser', hrevision⟩, ?_⟩
  exact (lock_version (s := w'.searches) huser').trans
    (hrevision.trans (lock_version (s := w.searches) huser).symm)

/-! ### Users that are attended -/

/-- A user is stored together with its first search. -/
theorem SearchStep.one_lt_revision {e : Event} {o : ℤ} {s t : Searches}
    (hstep : SearchStep e s o t) (h : ∀ user ∈ s.users, 1 < user.revision) :
    ∀ user ∈ t.users, 1 < user.revision := by
  have hsave : ∀ (new : User) {user : User} {uid : ℤ}, s.users.get? uid = some user →
      new.revision = user.revision → ∀ v ∈ s.users.replace new, 1 < v.revision := by
    intro new user uid hget hrevision v hv
    rcases Table.mem_replace.mp hv with ⟨hv, -⟩ | ⟨rfl, -⟩
    · exact h v hv
    · rw [hrevision]
      exact h user (Table.get?_eq_some_iff.mp hget).1
  cases hstep with
  | schedule user users documents sync journal stored known others record =>
    have hstored : ∀ u ∈ users, u.uid ≠ user.uid → u ∈ s.users := by
      intro u hu hne
      rcases known with rfl | ⟨hfree, rfl, -⟩
      · exact hu
      · rcases (Table.mem_insert hfree).mp hu with hu | rfl
        · exact hu
        · exact absurd rfl hne
    have huser : 1 ≤ user.revision := by
      rcases known with rfl | ⟨-, -, env, subscriptionId, hnew⟩
      · exact (h user (Table.get?_eq_some_iff.mp stored).1).le
      · rw [hnew]
        exact le_rfl
    intro v hv
    rcases Table.mem_replace.mp hv with ⟨hv, hne⟩ | ⟨rfl, -⟩
    · exact h v (hstored v hv hne)
    · exact Nat.lt_succ_of_le huser
  | obsolete task user stored owner old =>
    intro v hv
    change v ∈ if user.syncingRevision = some task.action.revision then
      s.users.replace { user with syncingRevision := none } else s.users at hv
    split_ifs at hv
    · exact hsave { user with syncingRevision := none } owner rfl v hv
    · exact h v hv
  | acquire task user crashed event stored owner current free =>
    exact hsave { user with syncingRevision := some task.action.revision } owner rfl
  | complete task user query stored asked owner holder =>
    exact hsave
      { user with syncingRevision := none, syncedRevision := task.action.revision } owner rfl
  | _ => exact h

theorem one_lt_revision_of_reachable {policy : Policy World Event}
    (hw : (service env).Reachable policy w) : ∀ user ∈ w.db.users, 1 < user.revision := by
  refine System.Reachable.invariant (I := fun w ↦ ∀ user ∈ w.db.users, 1 < user.revision)
    ?_ ?_ hw
  · intro w hstart user hmem
    rw [show w = .initial from hstart] at hmem
    exact absurd hmem (Table.not_mem_empty user)
  · intro w e w' h _ hnext
    obtain ⟨o, hsearch⟩ := searchStep_of_step hnext
    exact hsearch.one_lt_revision h

/-- An event that gives no task up takes a search of a user only when it is not needed any
more. -/
theorem hasJob_of_step {e : Event} (h : World.step env w e = some w')
    (hkept : e.givesUp = false) (uid : ℤ) (revision : ℕ)
    (hjob : (w.searches.lock uid).HasJob revision) :
    (w'.searches.lock uid).HasJob revision ∨
      ((w'.searches.lock uid).holder ≠ some revision ∧
        ((w'.searches.lock uid).version = revision →
          (w'.searches.lock uid).published = revision)) := by
  rw [hasJob_iff] at hjob ⊢
  obtain ⟨task, hmem, rfl, rfl⟩ := hjob
  cases hsearch : e.isSearch with
  | false => exact Or.inl ⟨task, mem_tasks_of_step h hsearch hmem, rfl, rfl⟩
  | true =>
    obtain ⟨moved, hmoved, hmove⟩ := searchMove_of_step h hsearch
    by_cases hsame : task.taskId = moved.taskId
    · obtain rfl := Table.eq_of_key_eq hmem hmoved hsame
      rcases Remains.of_move hmem hkept hmove with hleft | ⟨user, huser, hnone, hsynced⟩ |
        ⟨user, huser, old, hreleased⟩
      · exact Or.inl hleft
      · rw [lock_holder (s := w'.searches) huser, lock_published (s := w'.searches) huser, hnone]
        exact Or.inr ⟨by simp, fun _ ↦ hsynced⟩
      · rw [lock_holder (s := w'.searches) huser, lock_version (s := w'.searches) huser]
        exact Or.inr ⟨hreleased, fun heq ↦ absurd heq.symm old⟩
    · exact Or.inl ⟨task, (WorkFrame.of_move hmoved hmove).others task hmem hsame, rfl, rfl⟩

theorem attended_of_reachable (hw : (service env).Reachable NoneGivenUp w) {uid : ℤ}
    {user : User} (huser : w.db.users.get? uid = some user) :
    Attended (w.searches.lock uid) := by
  refine System.Reachable.invariant_of (J := (service env).Reachable NoneGivenUp)
    (I := fun w ↦ ∀ user, w.db.users.get? uid = some user → Attended (w.searches.lock uid))
    (fun _ h ↦ h) ?_ ?_ hw user huser
  · intro w hstart user huser
    rw [show w = .initial from hstart] at huser
    cases huser
  · intro w e w' hw hI hkept hnext user' huser'
    rcases lock_step hnext (subscribed_of_reachable hw) uid with hsame | ⟨le, hlock⟩
    · rw [hsame]
      cases huser : w.db.users.get? uid with
      | some user => exact hI user huser
      | none =>
        -- A user that is stored has had a search scheduled.
        have hlt := one_lt_revision_of_reachable (hw.tail hkept hnext) user'
          (Table.get?_eq_some_iff.mp huser').1
        have hversion : (w.searches.lock uid).version = 1 := by
          change (userOf w.db.users uid).revision = 1
          rw [userOf, huser]
          rfl
        rw [← hsame, lock_version (s := w'.searches) huser'] at hversion
        omega
    · cases huser : w.db.users.get? uid with
      | some user =>
        exact (hI user huser).step hlock.step (ordered_of_reachable hw uid)
          (hasJob_of_step hnext hkept uid)
      | none =>
        have hlt := one_lt_revision_of_reachable (hw.tail hkept hnext) user'
          (Table.get?_eq_some_iff.mp huser').1
        have hstart : userOf w.db.users uid = { uid } := by
          rw [userOf, huser]
          rfl
        have hversion : (w.searches.lock uid).version = 1 := congrArg User.revision hstart
        have hholder : (w.searches.lock uid).holder = none :=
          congrArg User.syncingRevision hstart
        constructor
        · intro _
          rcases hlock.step.version_cases with hsame | ⟨-, hjob⟩
          · rw [lock_version (s := w'.searches) huser', hversion] at hsame
            omega
          · exact hjob
        · intro v hheld
          rcases hlock.step.holder_cases hheld with hold | hjob
          · rw [hholder] at hold
            cases hold
          · exact hjob

/-! ### Work on one search -/

/-- Work on the searches of a user for one revision: the user keeps its revision, and the searches
for other revisions stay. -/
structure Drives (env : Environment) (uid : ℤ) (revision : ℕ) (w w' : World) : Prop where
  leads : (service env).Leads SearchWork w w'
  users : ∀ user, w.db.users.get? uid = some user →
    ∃ user', w'.db.users.get? uid = some user' ∧ user'.revision = user.revision
  searches : ∀ v, v ≠ revision → w.HasSearch uid v → w'.HasSearch uid v

theorem Drives.refl {uid : ℤ} {revision : ℕ} (w : World) : Drives env uid revision w w :=
  ⟨.refl w, fun user h ↦ ⟨user, h, rfl⟩, fun _ _ h ↦ h⟩

theorem Drives.trans {uid : ℤ} {revision : ℕ} {w₁ w₂ w₃ : World}
    (h : Drives env uid revision w₁ w₂) (h' : Drives env uid revision w₂ w₃) :
    Drives env uid revision w₁ w₃ := by
  refine ⟨h.leads.trans h'.leads, fun user huser ↦ ?_, fun v hne hsearch ↦
    h'.searches v hne (h.searches v hne hsearch)⟩
  obtain ⟨user₂, huser₂, hrevision₂⟩ := h.users user huser
  obtain ⟨user₃, huser₃, hrevision₃⟩ := h'.users user₂ huser₂
  exact ⟨user₃, huser₃, hrevision₃.trans hrevision₂⟩

/-- A task of the search waits for a worker. -/
def World.Waits (w : World) (uid : ℤ) (revision : ℕ) : Prop :=
  ∃ task ∈ w.db.tasks.toTable, task.action.uid = uid ∧ task.action.revision = revision ∧
    task.state = .pending

section Work

variable {task : Task}

theorem Drives.of_move {e : Event} (stored : task ∈ w.db.tasks.toTable) (hwork : SearchWork w e)
    (hevent : World.step env w e = w.searchEvent task.taskId e)
    (h : w.searchEvent task.taskId e = some w') :
    Drives env task.action.uid task.action.revision w w' := by
  obtain ⟨moved, hget, hmove⟩ := World.searchEvent_cases h
  obtain rfl := Option.some.inj (hget.symm.trans (Table.get?_key stored))
  have hframe := WorkFrame.of_move stored hmove
  refine ⟨(System.Leads.refl w).tail hwork (hevent.trans h), fun _ huser ↦ hframe.users huser,
    fun v hne hsearch ↦ ?_⟩
  obtain ⟨other, hother, huid, rfl⟩ := hsearch
  refine ⟨other, hframe.others other hother fun hid ↦ hne ?_, huid, rfl⟩
  rw [Table.eq_of_key_eq hother stored hid]

theorem searchEvent_eq {e : Event} (stored : task ∈ w.db.tasks.toTable)
    {progress : SearchProgress} (state : task.state = .processing progress) :
    w.searchEvent task.taskId e = w.searchStep task progress e := by
  have hget : w.db.tasks.get? task.taskId = some task := Table.get?_key stored
  rw [World.searchEvent, hget, Option.bind_some, state]

theorem drives_start (stored : task ∈ w.db.tasks.toTable) (state : task.state = .pending) :
    Drives env task.action.uid task.action.revision w (w.searchStart task false) := by
  refine .of_move (e := .searchStart task.taskId false) stored ⟨rfl, rfl⟩ rfl ?_
  have hget : w.db.tasks.get? task.taskId = some task := Table.get?_key stored
  rw [World.searchEvent, hget, Option.bind_some, state]

/-- The last statement before the end, with an answer of Kazna that has nothing to object to. -/
def SearchProgress.Final : SearchProgress → Prop
  | .reconciled _ documents => documents = []
  | .answered _ _ _ response => response = ⟨.complete, []⟩
  | _ => False

/-- The workers bring a search that Kazna has not answered to its last statement. -/
def ReachesFinal (env : Environment) (w : World) (task : Task) : Prop :=
  ∃ w', Drives env task.action.uid task.action.revision w w' ∧ w'.db.users = w.db.users ∧
    ∃ t ∈ w'.db.tasks.toTable, t.action = task.action ∧
      ∃ final, t.state = .processing final ∧ final.Final

/-- One statement that only moves the task on. -/
theorem ReachesFinal.of_advance {e : Event} {progress next : SearchProgress}
    {journal : List Occurrence} (stored : task ∈ w.db.tasks.toTable)
    (state : task.state = .processing progress) (hwork : SearchWork w e)
    (hevent : World.step env w e = w.searchEvent task.taskId e)
    (hnext : w.searchStep task progress e =
      some { w with db := w.db.advanceTask task next, journal })
    (h : ∀ w' : World, { task with state := .processing next } ∈ w'.db.tasks.toTable →
      ReachesFinal env w' { task with state := .processing next }) : ReachesFinal env w task := by
  have hdrives := Drives.of_move stored hwork hevent ((searchEvent_eq stored state).trans hnext)
  obtain ⟨w', hdrives', husers, hfinal⟩ := h { w with db := w.db.advanceTask task next, journal }
    (advanced_mem_advanceTask stored)
  exact ⟨w', hdrives.trans hdrives', husers, hfinal⟩

theorem reaches_of_final {progress : SearchProgress} (stored : task ∈ w.db.tasks.toTable)
    (state : task.state = .processing progress) (hfinal : progress.Final) :
    ReachesFinal env w task :=
  ⟨w, .refl w, rfl, task, stored, rfl, progress, state, hfinal⟩

theorem reaches_of_reconciled {user : User} {documents : List Document}
    (stored : task ∈ w.db.tasks.toTable)
    (state : task.state = .processing (.reconciled user documents)) :
    ReachesFinal env w task := by
  by_cases hempty : documents = []
  · exact reaches_of_final stored state hempty
  · exact .of_advance (e := .searchAsk task.taskId ⟨.complete, []⟩) stored state ⟨rfl, rfl⟩ rfl
      (if_neg hempty) fun w' hmem ↦ reaches_of_final hmem rfl rfl

theorem reaches_of_loaded {user : User} {documents : List Document}
    (stored : task ∈ w.db.tasks.toTable)
    (state : task.state = .processing (.loaded user documents)) : ReachesFinal env w task :=
  .of_advance (e := .searchReconcile task.taskId []) stored state ⟨rfl, rfl⟩ rfl rfl
    fun _ hmem ↦ reaches_of_reconciled hmem rfl

theorem reaches_of_acquired {user : User} (stored : task ∈ w.db.tasks.toTable)
    (state : task.state = .processing (.acquired user)) : ReachesFinal env w task :=
  .of_advance (e := .searchLoad task.taskId) stored state ⟨rfl, rfl⟩ rfl rfl
    fun _ hmem ↦ reaches_of_loaded hmem rfl

/-! ### The end of a search -/

/-- A search has ended: it is synced, or one of its tasks waits and no user has changed. -/
def Ended (w w' : World) (uid : ℤ) (revision : ℕ) : Prop :=
  w'.Synced uid revision ∨ (w'.db.users = w.db.users ∧ w'.Waits uid revision)

theorem synced_of_complete {db : Database} {user : User} {crashed : Bool}
    {journal : List Occurrence} (owner : w.db.users.get? task.action.uid = some user)
    (husers : db.users = w.db.users.replace
      { user with syncingRevision := none, syncedRevision := task.action.revision }) :
    World.Synced { w with db := db.endTask task crashed, journal } task.action.uid
      task.action.revision := by
  refine ⟨{ user with syncingRevision := none, syncedRevision := task.action.revision }, ?_, rfl,
    rfl⟩
  change db.users.get? _ = _
  rw [husers, Table.get?_replace, if_pos (Table.get?_eq_some_iff.mp owner).2.symm, owner]
  rfl

theorem ended_searchComplete {documents : List Document} {newId : String → UUID}
    {charges : List Charge} {query : Option SearchRequest} {crashed : Bool}
    (stored : task ∈ w.db.tasks.toTable) :
    Ended w (w.searchComplete task documents newId charges query crashed) task.action.uid
      task.action.revision := by
  rcases searchComplete_cases with ⟨db, user, -, owner, husers, -, heq⟩ | heq
  · rw [heq]
    exact Or.inl (synced_of_complete owner husers)
  · rw [heq]
    exact Or.inr ⟨rfl, _, pending_mem_endTask stored, rfl, rfl, rfl⟩

/-- A search that holds its user completes without charges. -/
theorem synced_searchComplete {documents : List Document} {newId : String → UUID}
    {query : Option SearchRequest} {crashed : Bool} {user : User}
    (owner : w.db.users.get? task.action.uid = some user)
    (hholder : user.syncingRevision = some task.action.revision) :
    (w.searchComplete task documents newId [] query crashed).Synced task.action.uid
      task.action.revision := by
  have hsave : ∃ db, task.action.saveCharges documents newId [] w.db = .ok ((), db) :=
    SearchFinesAction.saveCharges_total (Option.isSome_of_eq_some owner)
      (fun _ c hc ↦ absurd (SearchFinesAction.mem_of_lastCharge hc) List.not_mem_nil)
      ⟨fun c hc ↦ absurd hc List.not_mem_nil, fun c hc ↦ absurd hc List.not_mem_nil⟩
  obtain ⟨db, hsave⟩ := hsave
  have husers : db.users = w.db.users := by rw [(SearchFinesAction.saveCharges_ok hsave).others]
  obtain ⟨db', hsynced⟩ := updateSyncedRevision_total (husers ▸ owner) hholder
  have hcomplete : task.action.complete documents newId [] w.db = .ok ((), db') := by
    rw [SearchFinesAction.complete, Tx.bind_of_ok hsave]
    exact hsynced
  obtain ⟨user', owner', -, -, hdb'⟩ := SearchFinesAction.complete_ok hcomplete
  rw [World.searchComplete, hcomplete]
  exact synced_of_complete owner' (by rw [hdb'])

theorem drives_finish {progress : SearchProgress} (stored : task ∈ w.db.tasks.toTable)
    (state : task.state = .processing progress)
    (h : w.searchStep task progress (.searchFinish task.taskId (fun _ ↦ ⟨0⟩) false) = some w') :
    Drives env task.action.uid task.action.revision w w' :=
  .of_move (e := .searchFinish task.taskId (fun _ ↦ ⟨0⟩) false) stored ⟨rfl, rfl⟩ rfl
    ((searchEvent_eq stored state).trans h)

/-- A search at its last statement ends; if it holds its user, it is synced. -/
theorem ended_of_final (env : Environment) {final : SearchProgress}
    (stored : task ∈ w.db.tasks.toTable) (state : task.state = .processing final)
    (hfinal : final.Final) :
    ∃ w', Drives env task.action.uid task.action.revision w w' ∧
      Ended w w' task.action.uid task.action.revision ∧
      ∀ user, w.db.users.get? task.action.uid = some user →
        user.syncingRevision = some task.action.revision →
          w'.Synced task.action.uid task.action.revision := by
  cases final with
  | reconciled user documents =>
    obtain rfl : documents = [] := hfinal
    exact ⟨_, drives_finish stored state rfl, ended_searchComplete stored,
      fun _ ↦ synced_searchComplete⟩
  | answered user documents request response =>
    obtain rfl : response = ⟨.complete, []⟩ := hfinal
    exact ⟨_, drives_finish stored state rfl, ended_searchComplete stored,
      fun _ ↦ synced_searchComplete⟩
  | acquired => exact hfinal.elim
  | loaded => exact hfinal.elim

/-- A search in progress is run to its end. -/
theorem exists_ended {progress : SearchProgress} (stored : task ∈ w.db.tasks.toTable)
    (state : task.state = .processing progress) :
    ∃ w', Drives env task.action.uid task.action.revision w w' ∧
      Ended w w' task.action.uid task.action.revision := by
  have hreach : ReachesFinal env w task → ∃ w',
      Drives env task.action.uid task.action.revision w w' ∧
        Ended w w' task.action.uid task.action.revision := by
    rintro ⟨w₁, hdrives, husers, t, ht, haction, final, hstate, hfinal⟩
    obtain ⟨w', hdrives', hended, -⟩ := ended_of_final env ht hstate hfinal
    rw [haction] at hdrives' hended
    refine ⟨w', hdrives.trans hdrives', ?_⟩
    rw [Ended, ← husers]
    exact hended
  cases progress with
  | acquired user => exact hreach (reaches_of_acquired stored state)
  | loaded user documents => exact hreach (reaches_of_loaded stored state)
  | reconciled user documents => exact hreach (reaches_of_reconciled stored state)
  | answered user documents request response =>
    obtain ⟨status, charges⟩ := response
    cases status with
    | complete => exact ⟨_, drives_finish stored state rfl, ended_searchComplete stored⟩
    | part =>
      refine ⟨_, drives_finish stored state rfl, Or.inr ⟨?_, ?_⟩⟩
      · obtain ⟨db, heq, husers, -⟩ := searchRetry_eq w task false
        rw [heq]
        exact husers
      · exact (frame_searchRetry stored).2

end Work

/-! ### Bringing a user up to date -/

section UpToDate

variable {uid : ℤ} {user : User}

/-- A search that has not ended is brought to its end. -/
theorem exists_waiting (env : Environment) {revision : ℕ} (h : w.HasSearch uid revision) :
    ∃ w', Drives env uid revision w w' ∧ Ended w w' uid revision := by
  obtain ⟨task, hmem, rfl, rfl⟩ := h
  cases hstate : task.state with
  | pending => exact ⟨w, .refl w, Or.inr ⟨rfl, task, hmem, rfl, rfl, hstate⟩⟩
  | processing progress => exact exists_ended hmem hstate

/-- A stored user can be acquired, or the search is told to leave it. -/
theorem acquireUser_total {action : SearchFinesAction} {db : Database}
    (huser : db.users.get? action.uid = some user) :
    ∃ acquired db', action.acquireUser db = .ok (acquired, db') := by
  have hmem := (Table.get?_eq_some_iff.mp huser).1
  have hsave : ∀ v : Option ℕ, ∃ db',
      userMapper.save { user with syncingRevision := v } db =
        .ok ({ user with syncingRevision := v }, db') := by
    intro v
    obtain ⟨db', hdb'⟩ := @exists_replaceUser db user { user with syncingRevision := v } hmem rfl
      rfl
    exact ⟨db', Mapper.save_eq_ok.mpr ⟨rfl, Table.isSome_get?_iff.mpr ⟨user, hmem, rfl⟩, hdb'⟩⟩
  have hget := Tx.mapError_eq_ok (f := fun e ↦ if e = .doesNotExist .user then .userNotFound else e)
    |>.mpr (Mapper.get_eq_ok (m := userMapper).mpr ⟨huser, rfl⟩)
  rw [SearchFinesAction.acquireUser, Tx.bind_of_ok hget]
  split_ifs
  · obtain ⟨db', hdb'⟩ := hsave none
    exact ⟨none, db', by rw [Tx.bind_of_ok hdb']; rfl⟩
  · exact ⟨none, db, rfl⟩
  · have hretry : action.retry db = .ok ((), db.withTasks (db.tasks.append
        (fun taskId ↦ ⟨taskId, ⟨action.uid, action.revision, false⟩, .pending⟩)
        fun _ ↦ rfl)) := runAsync_eq_ok.mpr rfl
    exact ⟨none, _, by rw [Tx.bind_of_ok hretry]; rfl⟩
  · obtain ⟨db', hdb'⟩ := hsave (some action.revision)
    exact ⟨_, db', by rw [Tx.bind_of_ok hdb']; rfl⟩

/-- The start of an obsolete search releases a user that it holds. -/
theorem released_searchStart {task : Task} {crashed : Bool}
    (owner : w.db.users.get? task.action.uid = some user)
    (hheld : user.syncingRevision = some task.action.revision)
    (hold : task.action.revision ≠ user.revision) :
    ∃ user', (w.searchStart task crashed).db.users.get? task.action.uid = some user' ∧
      user'.syncingRevision = none := by
  obtain ⟨acquired, db, hrun⟩ := acquireUser_total owner
  obtain ⟨user', owner', ⟨rfl, -, hdb⟩ | ⟨-, hcurrent, -⟩ | ⟨-, hcurrent, -⟩⟩ :=
    SearchFinesAction.acquireUser_ok hrun
  all_goals obtain rfl := Option.some.inj (owner'.symm.trans owner)
  · refine ⟨{ user' with syncingRevision := none }, ?_, rfl⟩
    rw [World.searchStart, hrun]
    change db.users.get? _ = _
    rw [hdb, if_pos hheld, Table.get?_replace,
      if_pos (Table.get?_eq_some_iff.mp owner).2.symm, owner]
    rfl
  · exact absurd hcurrent hold
  · exact absurd hcurrent hold

/-- The start of a current search acquires a user that is free. -/
theorem acquired_searchStart {task : Task} (stored : task ∈ w.db.tasks.toTable)
    (owner : w.db.users.get? task.action.uid = some user)
    (hcurrent : task.action.revision = user.revision)
    (hfree : user.syncingRevision = none ∨ user.syncingRevision = some task.action.revision) :
    ∃ acquired : User, (w.searchStart task false).db.users.get? task.action.uid = some acquired ∧
      acquired.syncingRevision = some task.action.revision ∧
      { task with state := .processing (.acquired acquired) } ∈
        (w.searchStart task false).db.tasks.toTable := by
  obtain ⟨acquired, db, hrun⟩ := acquireUser_total owner
  obtain ⟨user', owner', ⟨-, hold, -⟩ | ⟨-, -, hheld, hother, -⟩ | ⟨rfl, -, -, hdb⟩⟩ :=
    SearchFinesAction.acquireUser_ok hrun
  all_goals obtain rfl := Option.some.inj (owner'.symm.trans owner)
  · exact absurd hcurrent hold
  · rcases hfree with hnone | hown
    · exact absurd hnone hheld
    · exact absurd hown hother
  · refine ⟨{ user' with syncingRevision := some task.action.revision }, ?_, rfl, ?_⟩
    · rw [World.searchStart, hrun]
      change db.users.get? _ = _
      rw [hdb, Table.get?_replace, if_pos (Table.get?_eq_some_iff.mp owner).2.symm, owner]
      rfl
    · rw [World.searchStart, hrun]
      refine advanced_mem_advanceTask ?_
      rw [hdb]
      exact stored

/-- A search for a former revision releases its user. -/
theorem exists_released (env : Environment) {revision : ℕ} (h : w.HasSearch uid revision)
    (huser : w.db.users.get? uid = some user) (hheld : user.syncingRevision = some revision)
    (hold : revision ≠ user.revision) :
    ∃ w', Drives env uid revision w w' ∧
      ∃ user', w'.db.users.get? uid = some user' ∧ user'.syncingRevision = none := by
  obtain ⟨w₁, hdrives, hsynced | ⟨husers, task, hmem, rfl, rfl, hstate⟩⟩ := exists_waiting env h
  · obtain ⟨user', huser', hnone, -⟩ := hsynced
    exact ⟨w₁, hdrives, user', huser', hnone⟩
  · rw [← husers] at huser
    exact ⟨_, hdrives.trans (drives_start hmem hstate), released_searchStart huser hheld hold⟩

/-- A search for the current revision that may acquire its user completes. -/
theorem exists_synced (env : Environment) (h : w.HasSearch uid user.revision)
    (huser : w.db.users.get? uid = some user)
    (hfree : user.syncingRevision = none ∨ user.syncingRevision = some user.revision) :
    ∃ w', Drives env uid user.revision w w' ∧ w'.Synced uid user.revision := by
  obtain ⟨w₁, hdrives, hsynced | ⟨husers, task, hmem, rfl, hcurrent, hstate⟩⟩ :=
    exists_waiting env h
  · exact ⟨w₁, hdrives, hsynced⟩
  · rw [← husers] at huser
    rw [← hcurrent] at hfree hdrives ⊢
    obtain ⟨acquired, hacquired, hheld, hmoved⟩ :=
      acquired_searchStart hmem huser hcurrent hfree
    have hreach : ReachesFinal env _ _ := reaches_of_acquired hmoved rfl
    obtain ⟨w₂, hdrives₂, husers₂, t, ht, haction, final, hfinalState, hfinal⟩ := hreach
    obtain ⟨w₃, hdrives₃, -, hsynced⟩ := ended_of_final env ht hfinalState hfinal
    have haction' : t.action = task.action := haction
    rw [haction'] at hdrives₃ hsynced
    refine ⟨w₃, (hdrives.trans (drives_start hmem hstate)).trans (hdrives₂.trans hdrives₃),
      hsynced acquired ?_ hheld⟩
    rw [husers₂]
    exact hacquired

/-- A user whose searches are all there is brought up to date. -/
theorem exists_upToDate (env : Environment) (huser : w.db.users.get? uid = some user)
    (hcurrent : w.HasSearch uid user.revision)
    (hheld : ∀ v, user.syncingRevision = some v → w.HasSearch uid v) :
    ∃ w', (service env).Leads SearchWork w w' ∧ ∃ user', w'.db.users.get? uid = some user' ∧
      user'.revision = user.revision ∧ user'.syncedRevision = user.revision := by
  have hend : ∀ {v w₁}, Drives env uid v w w₁ → ∀ {user₁},
      w₁.db.users.get? uid = some user₁ → (user₁.syncingRevision = none ∨
        user₁.syncingRevision = some user.revision) → w₁.HasSearch uid user.revision →
      ∃ w', (service env).Leads SearchWork w w' ∧ ∃ user', w'.db.users.get? uid = some user' ∧
        user'.revision = user.revision ∧ user'.syncedRevision = user.revision := by
    intro v w₁ hdrives user₁ huser₁ hfree hsearch
    obtain ⟨user₁', huser₁', hrevision⟩ := hdrives.users user huser
    obtain rfl := Option.some.inj (huser₁'.symm.trans huser₁)
    rw [← hrevision] at hfree hsearch ⊢
    obtain ⟨w', hdrives', user', huser', -, hsynced⟩ := exists_synced env hsearch huser₁ hfree
    obtain ⟨user'', huser'', hrevision'⟩ := hdrives'.users user₁' huser₁
    obtain rfl := Option.some.inj (huser''.symm.trans huser')
    exact ⟨w', hdrives.leads.trans hdrives'.leads, user'', huser', hrevision', hsynced⟩
  cases hholder : user.syncingRevision with
  | none => exact hend (.refl w : Drives env uid 0 w w) huser (Or.inl hholder) hcurrent
  | some v =>
    by_cases hold : v = user.revision
    · exact hend (.refl w : Drives env uid 0 w w) huser (Or.inr (by rw [hholder, hold])) hcurrent
    · obtain ⟨w₁, hdrives, user₁, huser₁, hnone⟩ :=
        exists_released env (hheld v hholder) huser hholder hold
      exact hend hdrives huser₁ (Or.inl hnone)
        (hdrives.searches user.revision (Ne.symm hold) hcurrent)

end UpToDate

/-! ### The laws -/

/-- Assumes: no task is given up. A user that is not synced has a search for its revision, the
revision that it is syncing has a search, and from every state the workers can bring the user up
to date without a crash. -/
theorem no_search_lost (env : Environment) (w : World)
    (hw : (service env).Reachable NoneGivenUp w) (uid : ℤ) (user : User)
    (huser : w.db.users.get? uid = some user) :
    (user.syncedRevision ≠ user.revision → w.HasSearch uid user.revision) ∧
      (∀ v, user.syncingRevision = some v → w.HasSearch uid v) ∧
      ∃ w', (service env).Leads SearchWork w w' ∧ ∃ user', w'.db.users.get? uid = some user' ∧
        user'.revision = user.revision ∧ user'.syncedRevision = user.revision := by
  have hattended := attended_of_reachable hw huser
  have hversion : (w.searches.lock uid).version = user.revision := lock_version huser
  have hcurrent : user.syncedRevision ≠ user.revision → w.HasSearch uid user.revision := by
    intro hne
    rw [← hasJob_iff, ← hversion]
    refine hattended.current ?_
    rwa [hversion, lock_published (s := w.searches) huser]
  have hheld : ∀ v, user.syncingRevision = some v → w.HasSearch uid v := by
    intro v hv
    rw [← hasJob_iff]
    exact hattended.held v ((lock_holder (s := w.searches) huser).trans hv)
  refine ⟨hcurrent, hheld, ?_⟩
  by_cases hsynced : user.syncedRevision = user.revision
  · exact ⟨w, .refl w, user, huser, rfl, hsynced⟩
  · exact exists_upToDate env huser (hcurrent hsynced) hheld

/-- A first search is interrupted while it holds its user, and a second one has to wait. -/
def waitingWorld : World :=
  ((service concreteEnv).run NoneGivenUp .initial
    [.createDocument ⟨1, .driverLicense, "7700", none⟩ ⟨1⟩ ⟨1⟩, .searchStart 1 false,
      .searchCrash 1, .createDocument ⟨1, .driverLicense, "7701", none⟩ ⟨2⟩ ⟨2⟩,
      .searchStart 2 false]).get (by decide +kernel)

theorem no_search_lost_witness :
    waitingWorld.HasSearch 1 2 ∧ waitingWorld.HasSearch 1 3 ∧
      ∃ w', (service concreteEnv).Leads SearchWork waitingWorld w' ∧
        ∃ user', w'.db.users.get? 1 = some user' ∧ user'.revision = 3 ∧
          user'.syncedRevision = 3 := by
  have huser : waitingWorld.db.users.get? 1 =
      some ⟨1, 3, 0, some 2, some (concreteEnv.uuidText ⟨1⟩)⟩ := by decide +kernel
  obtain ⟨hcurrent, hheld, hrecovers⟩ :=
    no_search_lost concreteEnv waitingWorld (System.reachable_get rfl _) 1 _ huser
  exact ⟨hheld 2 rfl, hcurrent (by decide), hrecovers⟩

section Stranded

variable {uid : ℤ} {user : User}

/-- A user of a stranded lock is not synced by any search. -/
theorem stranded_of_leads (hw : (service env).Reachable (fun _ _ ↦ True) w)
    (huser : w.db.users.get? uid = some user) (hstranded : Stranded (w.searches.lock uid))
    (hleads : (service env).Leads SearchesOnly w w') : Stranded (w'.searches.lock uid) := by
  have hall : (service env).Reachable (fun _ _ ↦ True) w' ∧
      (∃ user, w'.db.users.get? uid = some user) ∧ Stranded (w'.searches.lock uid) := by
    refine hleads.preserves (I := fun w ↦ (service env).Reachable (fun _ _ ↦ True) w ∧
      (∃ user, w.db.users.get? uid = some user) ∧ Stranded (w.searches.lock uid)) ?_
      ⟨hw, ⟨user, huser⟩, hstranded⟩
    rintro u e u' ⟨hu, ⟨user, huser⟩, hstranded⟩ hsearch hnext
    obtain ⟨⟨user', huser', -⟩, hversion⟩ := version_of_searchEvent hnext hsearch huser
    refine ⟨hu.tail trivial hnext, ⟨user', huser'⟩, ?_⟩
    rcases lock_step hnext (subscribed_of_reachable hu) uid with hsame | ⟨le, hlock⟩
    · rw [hsame]
      exact hstranded
    · exact hstranded.step hlock.step (ordered_of_reachable hu uid) hversion
  exact hall.2.2

/-- A user that is held for a search which is gone is held for ever. -/
theorem lost_of_leads {v : ℕ} (hw : (service env).Reachable (fun _ _ ↦ True) w)
    (hlost : Lost (w.searches.lock uid) v)
    (hleads : (service env).Leads (fun _ _ ↦ True) w w') :
    Lost (w'.searches.lock uid) v ∧
      (w'.searches.lock uid).published = (w.searches.lock uid).published := by
  refine hleads.preserves_of (J := (service env).Reachable fun _ _ ↦ True)
    (I := fun u ↦ Lost (u.searches.lock uid) v ∧
      (u.searches.lock uid).published = (w.searches.lock uid).published) (fun _ h ↦ h) ?_ hw
    ⟨hlost, rfl⟩
  rintro u e u' hu ⟨hlost, hpublished⟩ - hnext
  rcases lock_step hnext (subscribed_of_reachable hu) uid with hsame | ⟨le, hlock⟩
  · rw [hsame]
    exact ⟨hlost, hpublished⟩
  · obtain ⟨hlost', hsame, -⟩ := hlost.step hlock.step (ordered_of_reachable hu uid)
    exact ⟨hlost', hsame.trans hpublished⟩

end Stranded

/-- The searches can bring a user up to date exactly when it is synced or the searches that it
needs are left. A user that is held for a search which is gone stays held, and whatever happens
its synced revision never changes again. -/
theorem search_recoverable_iff (env : Environment) (w : World)
    (hw : (service env).Reachable (fun _ _ ↦ True) w) (uid : ℤ) (user : User)
    (huser : w.db.users.get? uid = some user) :
    ((∃ w', (service env).Leads SearchesOnly w w' ∧ ∃ user', w'.db.users.get? uid = some user' ∧
        user'.syncedRevision = user'.revision) ↔
      user.syncedRevision = user.revision ∨ (w.HasSearch uid user.revision ∧
        ∀ v, user.syncingRevision = some v → w.HasSearch uid v)) ∧
      ∀ v, user.syncingRevision = some v → ¬ w.HasSearch uid v →
        ∀ w', (service env).Leads (fun _ _ ↦ True) w w' →
          ∃ user', w'.db.users.get? uid = some user' ∧ user'.syncingRevision = some v ∧
            user'.syncedRevision = user.syncedRevision := by
  have hversion : (w.searches.lock uid).version = user.revision := lock_version huser
  have hpublished : (w.searches.lock uid).published = user.syncedRevision := lock_published huser
  have hholder : (w.searches.lock uid).holder = user.syncingRevision := lock_holder huser
  refine ⟨⟨?_, ?_⟩, ?_⟩
  · rintro ⟨w', hleads, user', huser', hsynced⟩
    by_cases hdone : user.syncedRevision = user.revision
    · exact Or.inl hdone
    · have hne : (w.searches.lock uid).published ≠ (w.searches.lock uid).version := by
        rwa [hpublished, hversion]
      rcases RevisionLock.attended_or_stranded hne with hattended | hstranded
      · refine Or.inr ⟨?_, fun v hv ↦ ?_⟩
        · rw [← hasJob_iff, ← hversion]
          exact hattended.current hne
        · rw [← hasJob_iff]
          exact hattended.held v (hholder.trans hv)
      · refine absurd ?_ (stranded_of_leads hw huser hstranded hleads).1
        rw [lock_published (s := w'.searches) huser', lock_version (s := w'.searches) huser',
          hsynced]
  · rintro (hdone | ⟨hcurrent, hheld⟩)
    · exact ⟨w, .refl w, user, huser, hdone⟩
    · obtain ⟨w', hleads, user', huser', hrevision, hsynced⟩ :=
        exists_upToDate env huser hcurrent hheld
      exact ⟨w', hleads.mono fun _ _ ↦ SearchWork.searchesOnly, user', huser',
        hsynced.trans hrevision.symm⟩
  · intro v hv hgone w' hleads
    have hlost : Lost (w.searches.lock uid) v :=
      ⟨hholder.trans hv, fun hjob ↦ hgone (hasJob_iff.mp hjob)⟩
    obtain ⟨hlost', hsame⟩ := lost_of_leads hw hlost hleads
    obtain ⟨user', huser', hsyncing⟩ := user_of_holder hlost'.holder
    refine ⟨user', huser', hsyncing, ?_⟩
    rw [← lock_published (s := w'.searches) huser', hsame, hpublished]

/-- A search is given up while it holds its user. -/
def abandonedWorld : World :=
  ((service concreteEnv).run (fun _ _ ↦ True) .initial
    [.createDocument ⟨1, .driverLicense, "7700", none⟩ ⟨1⟩ ⟨1⟩, .searchStart 1 false,
      .searchCrash 1, .searchFail 1]).get (by decide +kernel)

theorem search_recoverable_iff_witness :
    abandonedWorld.db.users.get? 1 =
        some ⟨1, 2, 0, some 2, some (concreteEnv.uuidText ⟨1⟩)⟩ ∧
      ¬ ∃ w', (service concreteEnv).Leads SearchesOnly abandonedWorld w' ∧
        ∃ user', w'.db.users.get? 1 = some user' ∧ user'.syncedRevision = user'.revision := by
  have huser : abandonedWorld.db.users.get? 1 =
      some ⟨1, 2, 0, some 2, some (concreteEnv.uuidText ⟨1⟩)⟩ := by decide +kernel
  refine ⟨huser, fun hrecovers ↦ ?_⟩
  rcases (search_recoverable_iff concreteEnv abandonedWorld (System.reachable_get rfl _) 1 _
    huser).1.mp hrecovers with hsynced | ⟨hsearch, -⟩
  · exact absurd hsynced (by decide)
  · exact absurd hsearch (by decide +kernel)

end YandexPay.BillPayments
