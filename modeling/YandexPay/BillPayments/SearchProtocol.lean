import YandexPay.BillPayments.Ledger
import YandexPay.Library.RevisionLock

/-!
# Searches are jobs of a revision lock

`Searches` is the part of the world that the searches work on: users, documents, search tasks and
the journal. `SearchStep` lists what one event may do to it, and `searchStep_of_step` derives it
from the step function once.

`Searches.lock` reads these tables, for one user, as the lock of `RevisionLock`: the three revision
counters are its counters, the tasks of the user its jobs, and the documents its content, grouped
as in the request to Kazna. `lock_step` is the simulation: every event is one step of the
lock of every user, or none. Reading documents and reconciling are the steps `load`, `reconcile`
and `pass`; asking Kazna is none. It needs that every user has a subscription
(`Subscribed`), since a search with the flag reconciles only then.
-/

set_option autoImplicit false
set_option relaxedAutoImplicit false

namespace YandexPay.BillPayments

open YandexPay.Transition
open YandexPay.RevisionLock (Lock Job Phase)

/-! ### What searches work on -/

structure Searches where
  users : Table User.uid
  documents : Table Document.documentId
  tasks : SerialTable Task.taskId
  journal : List Occurrence

def World.searches (w : World) : Searches := ⟨w.db.users, w.db.documents, w.db.tasks, w.journal⟩

def Searches.documentsOf (s : Searches) (uid : ℤ) : List Document :=
  s.documents.rows.filter fun d ↦ d.uid = uid

/-- The documents of a search as Kazna receives them; without documents there is no request. -/
abbrev Content := Option (List PayerDoc)

def contentOf (documents : List Document) : Content :=
  if documents = [] then none else some (getPayerDocs documents)

/-- The content determines the documents up to order and repetition. -/
theorem mentions_contentOf {documents : List Document} {docs : List PayerDoc}
    (h : contentOf documents = some docs) (code : DocumentCode) (value : String) :
    PayerDoc.Mentions docs code value ↔ ∃ d ∈ documents, d.code = code ∧ d.value = value := by
  unfold contentOf at h
  split_ifs at h with hempty
  obtain rfl := Option.some.inj h
  exact mentions_getPayerDocs

theorem contentOf_eq_none {documents : List Document} (h : contentOf documents = none) :
    documents = [] := by
  unfold contentOf at h
  split_ifs at h with hempty
  exact hempty

/-! ### Phases of a task -/

/-- The user that the worker has acquired. -/
def SearchProgress.user : SearchProgress → User
  | .acquired user => user
  | .loaded user _ => user
  | .reconciled user _ => user
  | .answered user _ _ _ => user

def SearchProgress.phase : SearchProgress → Phase Content
  | .acquired _ => .holding
  | .loaded _ documents => .read (contentOf documents)
  | .reconciled _ documents => .ready (contentOf documents)
  | .answered _ _ request _ => .ready (some request.documents)

def TaskState.phase : TaskState → Phase Content
  | .pending => .waiting
  | .processing progress => progress.phase

theorem TaskState.phase_eq_waiting {state : TaskState} (h : state.phase = .waiting) :
    state = .pending := by
  cases state with
  | pending => rfl
  | processing progress => cases progress <;> cases h

def Task.toJob (task : Task) : Job Content :=
  ⟨task.action.revision, task.action.syncSubscription, task.state.phase⟩

/-- The task as a job of a user. -/
def Task.jobOf (uid : ℤ) (task : Task) : Option (Job Content) :=
  if task.action.uid = uid then some task.toJob else none

theorem Task.jobOf_self (task : Task) : task.jobOf task.action.uid = some task.toJob := if_pos rfl

theorem Task.jobOf_of_ne {uid : ℤ} {task : Task} (h : task.action.uid ≠ uid) :
    task.jobOf uid = none := if_neg h

/-- The end of a task, which after a crash is pending again. -/
def endTask (tasks : SerialTable Task.taskId) (task : Task) (crashed : Bool) :
    SerialTable Task.taskId :=
  if crashed then tasks.replace { task with state := .pending } else tasks.remove task.taskId

/-! ### The steps -/

/-- A crash between the last commit of a task and its end. -/
def Event.crashed : Event → Bool
  | .searchStart _ crashed => crashed
  | .searchFinish _ _ crashed => crashed
  | _ => false

/-- What one event does to the searches, and the user that it concerns. -/
inductive SearchStep (e : Event) (s : Searches) : ℤ → Searches → Prop
  | idle (uid : ℤ) : SearchStep e s uid s
  | schedule (user : User) (users : Table User.uid) (documents : Table Document.documentId)
    (sync : Bool) (journal : List Occurrence) (stored : users.get? user.uid = some user)
    (known : users = s.users ∨ (s.users.get? user.uid = none ∧ users = s.users.insert user ∧
      ∃ env subscriptionId, user = newUser env user.uid subscriptionId))
    (others : ∀ uid, uid ≠ user.uid →
      (documents.rows.filter fun d ↦ d.uid = uid) = s.documentsOf uid)
    (record : journal = .documentsChanged user.uid (user.revision + 1) sync :: s.journal ∨
      (sync = false ∧ journal = s.journal)) :
    SearchStep e s user.uid
      { users := users.replace { user with revision := user.revision + 1 }
        documents
        tasks := s.tasks.append
          (fun taskId ↦ ⟨taskId, ⟨user.uid, user.revision + 1, sync⟩, .pending⟩) fun _ ↦ rfl
        journal }
  | obsolete (task : Task) (user : User) (stored : s.tasks.get? task.taskId = some task)
    (owner : s.users.get? task.action.uid = some user)
    (old : task.action.revision ≠ user.revision) :
    SearchStep e s task.action.uid
      { s with
        users := if user.syncingRevision = some task.action.revision then
          s.users.replace { user with syncingRevision := none } else s.users
        tasks := endTask s.tasks task e.crashed }
  | postpone (task : Task) (stored : s.tasks.get? task.taskId = some task) :
    SearchStep e s task.action.uid
      { s with
        tasks := endTask
          (s.tasks.append
            (fun taskId ↦ ⟨taskId, ⟨task.action.uid, task.action.revision, false⟩, .pending⟩)
            fun _ ↦ rfl) task e.crashed }
  | acquire (task : Task) (user : User) (crashed : Bool)
    (event : e = .searchStart task.taskId crashed)
    (stored : s.tasks.get? task.taskId = some task)
    (owner : s.users.get? task.action.uid = some user)
    (current : task.action.revision = user.revision)
    (free : user.syncingRevision = none ∨ user.syncingRevision = some task.action.revision) :
    SearchStep e s task.action.uid
      { s with
        users := s.users.replace { user with syncingRevision := some task.action.revision }
        tasks := s.tasks.replace
          { task with
            state := .processing
              (.acquired { user with syncingRevision := some task.action.revision }) } }
  | load (task : Task) (user : User) (stored : s.tasks.get? task.taskId = some task)
    (state : task.state = .processing (.acquired user)) :
    SearchStep e s task.action.uid
      { s with
        tasks := s.tasks.replace
          { task with state := .processing (.loaded user (s.documentsOf task.action.uid)) } }
  | reconcile (task : Task) (user : User) (documents : List Document)
    (unsubscribed : List PayerDoc) (stored : s.tasks.get? task.taskId = some task)
    (state : task.state = .processing (.loaded user documents)) :
    SearchStep e s task.action.uid
      { s with
        tasks := s.tasks.replace { task with state := .processing (.reconciled user documents) }
        journal := if World.reconciles task.action user then
          .reconciled task.action.uid unsubscribed :: s.journal else s.journal }
  | ask (task : Task) (user : User) (documents : List Document) (response : SearchResponse)
    (stored : s.tasks.get? task.taskId = some task)
    (state : task.state = .processing (.reconciled user documents))
    (nonempty : documents ≠ []) :
    SearchStep e s task.action.uid
      { s with
        tasks := s.tasks.replace
          { task with
            state := .processing
              (.answered user documents (searchRequest user documents) response) } }
  | complete (task : Task) (user : User) (query : Option SearchRequest)
    (stored : s.tasks.get? task.taskId = some task)
    (asked : task.state.phase = .ready (query.map SearchRequest.documents))
    (owner : s.users.get? task.action.uid = some user)
    (holder : user.syncingRevision = some task.action.revision) :
    SearchStep e s task.action.uid
      { s with
        users := s.users.replace
          { user with syncingRevision := none, syncedRevision := task.action.revision }
        tasks := endTask s.tasks task e.crashed
        journal := .completed task.action.uid task.action.revision query :: s.journal }
  | stop (task : Task) (stored : s.tasks.get? task.taskId = some task) (restarts : Bool) :
    SearchStep e s task.action.uid { s with tasks := endTask s.tasks task restarts }

theorem SearchStep.of_eq {e : Event} {s t : Searches} (uid : ℤ) (h : t = s) :
    SearchStep e s uid t :=
  h ▸ .idle uid

/-! ### The searches of the service step by them -/

theorem searchStep_of_searchStart {w : World} {task : Task} {e : Event} {crashed : Bool}
    (event : e = .searchStart task.taskId crashed)
    (stored : w.db.tasks.get? task.taskId = some task) :
    SearchStep e w.searches task.action.uid (w.searchStart task crashed).searches := by
  have hcrashed : e.crashed = crashed := by rw [event]; rfl
  unfold World.searchStart
  cases hrun : task.action.acquireUser w.db with
  | error _ => exact .idle _
  | ok result =>
    obtain ⟨acquired, db⟩ := result
    obtain ⟨user, owner, ⟨rfl, old, hdb⟩ | ⟨rfl, -, -, -, hdb⟩ | ⟨rfl, current, free, hdb⟩⟩ :=
      SearchFinesAction.acquireUser_ok hrun
    · have hstep := SearchStep.obsolete (e := e) (s := w.searches) task user stored owner old
      rw [hcrashed] at hstep
      simpa only [World.searches, Database.endTask, Database.withTasks, endTask, hdb] using hstep
    · have hstep := SearchStep.postpone (e := e) (s := w.searches) task stored
      rw [hcrashed] at hstep
      simpa only [World.searches, Database.endTask, Database.withTasks, endTask, hdb] using hstep
    · have hstep := SearchStep.acquire (e := e) (s := w.searches) task user crashed event stored
        owner current free
      simpa only [World.searches, Database.advanceTask, Database.withTasks, hdb] using hstep

theorem searchStep_of_searchComplete {w : World} {task : Task} {e : Event}
    {documents : List Document} {newId : String → UUID} {charges : List Charge}
    {query : Option SearchRequest} (stored : w.db.tasks.get? task.taskId = some task)
    (asked : task.state.phase = .ready (query.map SearchRequest.documents)) :
    SearchStep e w.searches task.action.uid
      (w.searchComplete task documents newId charges query e.crashed).searches := by
  unfold World.searchComplete
  cases hrun : task.action.complete documents newId charges w.db with
  | error _ => exact .stop task stored true
  | ok result =>
    obtain ⟨u, db⟩ := result
    obtain ⟨user, owner, holder, -, hdb⟩ := SearchFinesAction.complete_ok hrun
    have hstep := SearchStep.complete (e := e) (s := w.searches) task user query stored asked
      owner holder
    have husers : db.users = w.db.users.replace
        { user with syncingRevision := none, syncedRevision := task.action.revision } := by
      rw [hdb]
    have hdocuments : db.documents = w.db.documents := by rw [hdb]
    have htasks : db.tasks = w.db.tasks := by rw [hdb]
    simpa only [World.searches, Database.endTask, Database.withTasks, endTask, husers, hdocuments,
      htasks] using hstep

theorem searchStep_of_searchRetry {w : World} {task : Task} {e : Event}
    (stored : w.db.tasks.get? task.taskId = some task) :
    SearchStep e w.searches task.action.uid (w.searchRetry task e.crashed).searches := by
  unfold World.searchRetry
  cases hrun : task.action.retry w.db with
  | error _ => exact .stop task stored true
  | ok result =>
    obtain ⟨u, db⟩ := result
    have hdb := runAsync_eq_ok.mp hrun
    have hstep := SearchStep.postpone (e := e) (s := w.searches) task stored
    simpa only [World.searches, Database.endTask, Database.withTasks, endTask, hdb] using hstep

theorem searchStep_of_searchMove {w w' : World} {taskId : ℕ} {task : Task} {e : Event}
    (stored : w.db.tasks.get? taskId = some task) (h : World.SearchMove w task e w')
    (hid : ∀ id crashed, e = .searchStart id crashed → id = taskId) :
    SearchStep e w.searches task.action.uid w'.searches := by
  have hkey : task.taskId = taskId := (Table.get?_eq_some_iff.mp stored).2
  rw [← hkey] at stored
  cases h with
  | start id crashed state =>
    refine searchStep_of_searchStart ?_ stored
    rw [hkey, hid id crashed rfl]
  | fail id state => exact .stop task stored false
  | load id user state => exact .load task user stored state
  | reconcile id subscription user documents state =>
    exact .reconcile task user documents _ stored state
  | ask id response user documents state nonempty =>
    exact .ask task user documents response stored state nonempty
  | finishEmpty id newId crashed user state =>
    exact searchStep_of_searchComplete (e := .searchFinish id newId crashed) stored
      (by rw [state]; rfl)
  | finishComplete id newId crashed user documents request response state =>
    exact searchStep_of_searchComplete (e := .searchFinish id newId crashed) stored
      (by rw [state]; rfl)
  | finishPart id newId crashed user documents request response state =>
    exact searchStep_of_searchRetry (e := .searchFinish id newId crashed) stored
  | crash id progress state => exact .stop task stored true

/-! ### The other actions -/

/-- A change of documents that schedules a search. -/
theorem searchStep_of_scheduled {w : World} {e : Event} {t : Tables} {user : User} {sync : Bool}
    {db : Database} {journal : List Occurrence} (hdb : db.toTables = t.scheduled user sync)
    (tasks : t.tasks = w.db.tasks) (stored : t.users.get? user.uid = some user)
    (known : t.users = w.db.users ∨ (w.db.users.get? user.uid = none ∧
      t.users = w.db.users.insert user ∧
        ∃ env subscriptionId, user = newUser env user.uid subscriptionId))
    (others : ∀ uid, uid ≠ user.uid → t.documentsOf uid = w.db.documentsOf uid)
    (record : journal = World.documentsChanged user.uid sync db ++ w.journal ∨
      (sync = false ∧ journal = w.journal)) :
    SearchStep e w.searches user.uid (World.searches { w with db, journal }) := by
  have husers : db.users = t.users.replace { user with revision := user.revision + 1 } := by
    rw [hdb]
    rfl
  have hdocuments : db.documents = t.documents := by
    rw [hdb]
    rfl
  have htasks : db.tasks = w.db.tasks.append
      (fun taskId ↦ ⟨taskId, ⟨user.uid, user.revision + 1, sync⟩, .pending⟩) fun _ ↦ rfl := by
    rw [hdb, ← tasks]
    rfl
  have hentry : World.documentsChanged user.uid sync db =
      [.documentsChanged user.uid (user.revision + 1) sync] := by
    rw [World.documentsChanged, husers, Table.get?_replace, if_pos rfl, stored]
    rfl
  have hrecord : journal =
      .documentsChanged user.uid (user.revision + 1) sync :: w.searches.journal ∨
        (sync = false ∧ journal = w.searches.journal) := by
    rw [hentry] at record
    exact record
  have hstep := SearchStep.schedule (e := e) (s := w.searches) user t.users t.documents sync
    journal stored known others hrecord
  rw [← hdocuments] at hstep
  simpa only [World.searches, husers, htasks] using hstep

theorem StatusMove.searches {code : PaymentStatusCode} {r r' : Transaction} {t t' : Tables}
    (h : StatusMove code r r' t t') :
    t'.users = t.users ∧ t'.documents = t.documents ∧ t'.tasks = t.tasks := by
  cases h with
  | kept same tables => rw [tables]; exact ⟨rfl, rfl, rfl⟩
  | closed row tables => rw [tables]; exact ⟨rfl, rfl, rfl⟩
  | paid auth new row order bill tables => rw [tables]; exact ⟨rfl, rfl, rfl⟩

/-- An action that succeeds or changes nothing. -/
theorem searchStep_of_run {e : Event} {w : World} {α : Type} {action : Action α}
    {record : α → Database → List Occurrence}
    (h : ∀ a db, action w.db = .ok (a, db) → ∃ uid, SearchStep e w.searches uid
      (World.searches { w with db, journal := record a db ++ w.journal })) :
    ∃ uid, SearchStep e w.searches uid (w.run action record).searches := by
  rcases w.run_eq action record with ⟨a, db, hrun, heq⟩ | heq
  · rw [heq]
    exact h a db hrun
  · rw [heq]
    exact ⟨0, .idle 0⟩

/-- An action on payments keeps the searches. -/
theorem searchStep_of_payments {e : Event} {w : World} {α : Type} {action : Action α}
    (h : ∀ a db, action w.db = .ok (a, db) →
      db.users = w.db.users ∧ db.documents = w.db.documents ∧ db.tasks = w.db.tasks) :
    ∃ uid, SearchStep e w.searches uid (w.run action).searches := by
  refine searchStep_of_run fun a db hrun ↦ ⟨0, .of_eq 0 ?_⟩
  obtain ⟨husers, hdocuments, htasks⟩ := h a db hrun
  simp only [World.searches, husers, hdocuments, htasks, List.nil_append]

theorem searchStep_of_createDocument {env : Environment} {e : Event} {w : World}
    {action : CreateDocumentAction} {subscriptionId documentId : UUID} :
    ∃ uid, SearchStep e w.searches uid (w.run (action.handle env subscriptionId documentId)
      fun _ db ↦ World.documentsChanged action.uid false db).searches := by
  refine searchStep_of_run fun document db hrun ↦ ?_
  obtain ⟨-, huid, -, -, -, user, users, hknown, hstored, hdb⟩ := createDocument_ok hrun
  have hkey : user.uid = action.uid := (Table.get?_eq_some_iff.mp hstored).2
  rw [← hkey] at hstored hknown
  refine ⟨_, searchStep_of_scheduled hdb rfl hstored ?_ ?_ (Or.inl (by rw [hkey]))⟩
  · rcases hknown with ⟨-, hsame⟩ | ⟨hfree, hnew, hinsert⟩
    · exact Or.inl hsame
    · exact Or.inr ⟨hfree, hinsert, env, subscriptionId, hnew⟩
  · intro uid hne
    refine Table.filter_insert (decide_eq_false fun h ↦ hne ?_)
    rw [hkey, ← huid, h]

theorem searchStep_of_updateDocument {e : Event} {w : World} {action : UpdateDocumentAction} :
    ∃ uid, SearchStep e w.searches uid (w.run action.handle
      fun _ db ↦ World.documentsChanged action.uid true db).searches := by
  refine searchStep_of_run fun document db hrun ↦ ?_
  obtain ⟨old, user, hold, huid, hdocument, hstored, hdb⟩ := updateDocument_ok hrun
  have hkey : user.uid = action.uid := (Table.get?_eq_some_iff.mp hstored).2
  rw [← hkey] at hstored huid
  refine ⟨_, searchStep_of_scheduled hdb rfl hstored (Or.inl rfl) ?_ (Or.inl (by rw [hkey]))⟩
  intro uid hne
  obtain ⟨hmem, -⟩ := Table.get?_eq_some_iff.mp hold
  have huid' : document.uid = user.uid := by rw [hdocument, ← huid]
  have hid : document.documentId = old.documentId := by rw [hdocument]
  refine Table.filter_replace (decide_eq_false fun h ↦ hne ?_) fun d hd hsame ↦
    decide_eq_false fun h ↦ hne ?_
  · rw [← h, huid']
  · rw [← h, Table.eq_of_key_eq hd hmem (hsame.trans hid), huid]

theorem searchStep_of_deleteDocument {e : Event} {w : World} {action : DeleteDocumentAction} :
    ∃ uid, SearchStep e w.searches uid (w.run action.handle fun scheduled db ↦
      if scheduled.isSome then World.documentsChanged action.uid true db else []).searches := by
  refine searchStep_of_run fun scheduled db hrun ↦ ?_
  rcases deleteDocument_handle_ok hrun with
    ⟨rfl, rfl⟩ | ⟨document, user, hdocument, huid, hstored, rfl, hdb⟩
  · exact ⟨0, .idle 0⟩
  · have hkey : user.uid = action.uid := (Table.get?_eq_some_iff.mp hstored).2
    rw [← hkey] at hstored huid
    refine ⟨_, searchStep_of_scheduled hdb rfl hstored (Or.inl rfl) ?_ (Or.inl ?_)⟩
    · intro uid hne
      obtain ⟨hmem, hid⟩ := Table.get?_eq_some_iff.mp hdocument
      refine Table.filter_keep fun d hd hsame ↦ decide_eq_true fun heq ↦ hne ?_
      have hdoc : d = document := Table.eq_of_key_eq hd hmem (heq.trans hid.symm)
      rw [← of_decide_eq_true hsame, hdoc, huid]
    · rw [Option.isSome_some, if_pos rfl, hkey]

/-- Every event of the service is one step of the searches. -/
theorem searchStep_of_step {env : Environment} {e : Event} {w w' : World}
    (h : World.step env w e = some w') : ∃ uid, SearchStep e w.searches uid w'.searches := by
  have hsearch : ∀ {taskId}, w.searchEvent taskId e = some w' →
      (∀ id crashed, e = .searchStart id crashed → id = taskId) →
      ∃ uid, SearchStep e w.searches uid w'.searches := by
    intro taskId h hid
    obtain ⟨task, stored, hmove⟩ := World.searchEvent_cases h
    exact ⟨_, searchStep_of_searchMove stored hmove hid⟩
  have hreport : e.isReport = true → ∃ uid, SearchStep e w.searches uid w'.searches := by
    intro hreport
    rcases move_of_step hreport h with rfl | ⟨db, rfl, r, r', code, -, -, hmove⟩
    · exact ⟨0, .idle 0⟩
    · obtain ⟨husers, hdocuments, htasks⟩ := hmove.searches
      refine ⟨0, .of_eq 0 ?_⟩
      simp only [World.searches, husers, hdocuments, htasks]
  cases e with
  | createDocument action subscriptionId documentId =>
    obtain rfl := Option.some.inj h
    exact searchStep_of_createDocument
  | updateDocument action =>
    obtain rfl := Option.some.inj h
    exact searchStep_of_updateDocument
  | deleteDocument action =>
    obtain rfl := Option.some.inj h
    exact searchStep_of_deleteDocument
  | forceSearch action =>
    obtain rfl := Option.some.inj h
    refine searchStep_of_run fun scheduled db hrun ↦ ?_
    rcases forceSearch_ok hrun with ⟨-, rfl⟩ | ⟨user, hstored, -, -, hdb⟩
    · exact ⟨0, .idle 0⟩
    · have hkey : user.uid = action.uid := (Table.get?_eq_some_iff.mp hstored).2
      rw [← hkey] at hstored
      exact ⟨_, searchStep_of_scheduled hdb rfl hstored (Or.inl rfl) (fun _ _ ↦ rfl)
        (Or.inr ⟨rfl, rfl⟩)⟩
  | searchStart taskId crashed => exact hsearch h fun id c heq ↦ by cases heq; rfl
  | searchLoad taskId => exact hsearch h fun id c heq ↦ by cases heq
  | searchReconcile taskId subscription => exact hsearch h fun id c heq ↦ by cases heq
  | searchAsk taskId response => exact hsearch h fun id c heq ↦ by cases heq
  | searchFinish taskId newId crashed => exact hsearch h fun id c heq ↦ by cases heq
  | searchCrash taskId => exact hsearch h fun id c heq ↦ by cases heq
  | searchFail taskId => exact hsearch h fun id c heq ↦ by cases heq
  | notifyBills notifications =>
    obtain rfl := Option.some.inj h
    refine searchStep_of_payments fun u db hrun ↦ ?_
    have hothers := (createBillsFromManyNotifications_ok hrun).others
    exact ⟨by rw [hothers], by rw [hothers], by rw [hothers]⟩
  | createOrder action orderId =>
    obtain rfl := Option.some.inj h
    refine searchStep_of_payments fun order db hrun ↦ ?_
    obtain ⟨husers, hdocuments, -, -, htasks⟩ := (createOrder_ok hrun).2.others
    exact ⟨husers, hdocuments, htasks⟩
  | pay action transactionId today payment =>
    obtain ⟨-, rfl | ⟨request, db, -, rfl⟩⟩ := World.pay_cases h <;> exact ⟨0, .idle 0⟩
  | finishCreation transactionId =>
    obtain ⟨c, -, rfl⟩ := Option.map_eq_some_iff.mp h
    refine searchStep_of_payments (w := w.takeCreation transactionId) fun a db hrun ↦ ?_
    obtain ⟨-, -, -, hdb⟩ := CreateTransactionAction.commit_ok hrun
    exact ⟨by rw [hdb], by rw [hdb], by rw [hdb]⟩
  | abandonCreation transactionId =>
    obtain rfl := Option.some.inj h
    exact ⟨0, .idle 0⟩
  | webhook request => exact hreport rfl
  | getTransaction transactionId info => exact hreport rfl
  | resumeGet transactionId code => exact hreport rfl
  | syncStatus action info => exact hreport rfl
  | kaznaMoves paymentId code =>
    obtain rfl := Option.some.inj h
    exact ⟨0, .idle 0⟩

/-! ### The lock of a user -/

/-- The stored user, or the counters of a new one. -/
def userOf (users : Table User.uid) (uid : ℤ) : User := (users.get? uid).getD { uid }

theorem userOf_eq {users : Table User.uid} {uid : ℤ} {user : User}
    (h : users.get? uid = some user) : userOf users uid = user := by
  rw [userOf, h, Option.getD_some]

/-- A stored user after a save. -/
theorem userOf_saved {users : Table User.uid} {uid : ℤ} (user : User) {old : User}
    (h : users.get? uid = some old) (hkey : user.uid = old.uid) :
    userOf (users.replace user) uid = user := by
  have huid : uid = user.uid := (Table.get?_eq_some_iff.mp h).2.symm.trans hkey.symm
  refine userOf_eq ?_
  rw [Table.get?_replace, if_pos huid, h, Option.map_some]

theorem userOf_replace_of_ne {users : Table User.uid} {uid : ℤ} {user : User}
    (hne : uid ≠ user.uid) : userOf (users.replace user) uid = userOf users uid := by
  rw [userOf, Table.get?_replace, if_neg hne, userOf]

/-- The jobs of a user. -/
def jobsOf (tasks : SerialTable Task.taskId) (uid : ℤ) (taskId : ℕ) : Option (Job Content) :=
  (tasks.get? taskId).bind (Task.jobOf uid)

section JobsOf

variable {tasks : SerialTable Task.taskId} {task : Task} {uid : ℤ}

theorem jobsOf_eq (h : tasks.get? task.taskId = some task) :
    jobsOf tasks uid task.taskId = task.jobOf uid := by
  rw [jobsOf, h, Option.bind_some]

theorem jobsOf_next : jobsOf tasks uid (tasks.last + 1) = none := by
  rw [jobsOf, tasks.get?_next, Option.bind_none]

theorem jobsOf_replace (task : Task) (h : (tasks.get? task.taskId).isSome) :
    jobsOf (tasks.replace task) uid =
      Function.update (jobsOf tasks uid) task.taskId (task.jobOf uid) := by
  obtain ⟨old, hold⟩ := Option.isSome_iff_exists.mp h
  ext1 k
  rw [jobsOf, SerialTable.get?_replace, Function.update_apply]
  split_ifs with hk
  · rw [hk, hold, Option.map_some, Option.bind_some]
  · rw [jobsOf]

theorem jobsOf_remove {k : ℕ} :
    jobsOf (tasks.remove k) uid = Function.update (jobsOf tasks uid) k none := by
  ext1 l
  rw [jobsOf, SerialTable.get?_remove, Function.update_apply]
  split_ifs with hl
  · rw [Option.bind_none]
  · rw [jobsOf]

theorem jobsOf_append {make : ℕ → Task} {hmake : ∀ n, (make n).taskId = n} :
    jobsOf (tasks.append make hmake) uid =
      Function.update (jobsOf tasks uid) (tasks.last + 1) ((make (tasks.last + 1)).jobOf uid) := by
  ext1 k
  rw [jobsOf, SerialTable.get?_append, Function.update_apply]
  split_ifs with hk
  · rw [Option.bind_some]
  · rw [jobsOf]

theorem jobsOf_endTask {crashed : Bool} (h : (tasks.get? task.taskId).isSome)
    (huid : task.action.uid = uid) : jobsOf (endTask tasks task crashed) uid =
      Function.update (jobsOf tasks uid) task.taskId (task.toJob.rest crashed) := by
  unfold endTask Job.rest
  split_ifs
  · rw [jobsOf_replace { task with state := .pending } h, Task.jobOf, if_pos huid]
    rfl
  · rw [jobsOf_remove]

theorem jobsOf_append_of_ne {make : ℕ → Task} {hmake : ∀ n, (make n).taskId = n}
    (hne : ∀ n, (make n).action.uid ≠ uid) :
    jobsOf (tasks.append make hmake) uid = jobsOf tasks uid := by
  rw [jobsOf_append, Task.jobOf_of_ne (hne _), ← jobsOf_next, Function.update_eq_self]

/-- A change of a task that is no job of the user, neither before nor after. -/
theorem jobsOf_replace_of_ne (task : Task) {old : Task}
    (h : tasks.get? task.taskId = some old) (hne : old.action.uid ≠ uid)
    (haction : task.action = old.action) :
    jobsOf (tasks.replace task) uid = jobsOf tasks uid := by
  have hnone : jobsOf tasks uid task.taskId = none := by
    rw [jobsOf, h, Option.bind_some, Task.jobOf_of_ne hne]
  rw [jobsOf_replace task (Option.isSome_of_eq_some h), Task.jobOf_of_ne (by rwa [haction]),
    ← hnone, Function.update_eq_self]

theorem jobsOf_endTask_of_ne {crashed : Bool} (h : tasks.get? task.taskId = some task)
    (hne : task.action.uid ≠ uid) :
    jobsOf (endTask tasks task crashed) uid = jobsOf tasks uid := by
  unfold endTask
  split_ifs
  · exact jobsOf_replace_of_ne { task with state := .pending } h hne rfl
  · have hnone : jobsOf tasks uid task.taskId = none := by
      rw [jobsOf_eq h, Task.jobOf_of_ne hne]
    rw [jobsOf_remove, ← hnone, Function.update_eq_self]

end JobsOf

/-! ### The journal of a user -/

/-- The revision and the documents of the last completed search. -/
def lastCompleted (uid : ℤ) : List Occurrence → Option (ℕ × Content)
  | [] => none
  | .completed u revision query :: journal =>
    if u = uid then some (revision, query.map SearchRequest.documents)
    else lastCompleted uid journal
  | .documentsChanged .. :: journal => lastCompleted uid journal
  | .reconciled .. :: journal => lastCompleted uid journal

/-- A change that asked for a reconciliation has not been followed by one. -/
def owed (uid : ℤ) : List Occurrence → Bool
  | [] => false
  | .documentsChanged u _ sync :: journal => owed uid journal || (u = uid ∧ sync = true)
  | .reconciled u _ :: journal => if u = uid then false else owed uid journal
  | .completed .. :: journal => owed uid journal

/-- The search tables as the revision lock of a user. -/
def Searches.lock (s : Searches) (uid : ℤ) : Lock Content where
  version := (userOf s.users uid).revision
  published := (userOf s.users uid).syncedRevision
  holder := (userOf s.users uid).syncingRevision
  content := contentOf (s.documentsOf uid)
  evidence := lastCompleted uid s.journal
  owed := owed uid s.journal
  jobs := jobsOf s.tasks uid

section Counters

variable {s : Searches} {uid : ℤ} {user : User}

theorem lock_version (h : s.users.get? uid = some user) : (s.lock uid).version = user.revision :=
  congrArg User.revision (userOf_eq h)

theorem lock_published (h : s.users.get? uid = some user) :
    (s.lock uid).published = user.syncedRevision :=
  congrArg User.syncedRevision (userOf_eq h)

theorem lock_holder (h : s.users.get? uid = some user) :
    (s.lock uid).holder = user.syncingRevision :=
  congrArg User.syncingRevision (userOf_eq h)

end Counters

/-- Every user has a subscription, the users that workers have acquired included. -/
structure Subscribed (s : Searches) : Prop where
  users : ∀ user ∈ s.users, user.subscriptionId.getD "" ≠ ""
  tasks : ∀ task ∈ s.tasks.toTable, ∀ progress, task.state = .processing progress →
    progress.user.subscriptionId.getD "" ≠ ""

theorem Subscribed.step {e : Event} {uid : ℤ} {s t : Searches} (hstep : SearchStep e s uid t)
    (h : Subscribed s) : Subscribed t := by
  have hsave : ∀ (user : User) {u : User}, u ∈ s.users →
      user.subscriptionId = u.subscriptionId →
      ∀ v ∈ s.users.replace user, v.subscriptionId.getD "" ≠ "" := by
    intro user u hu hsame v hv
    rcases Table.mem_replace.mp hv with ⟨hv, -⟩ | ⟨rfl, -⟩
    · exact h.users v hv
    · rw [hsame]
      exact h.users u hu
  have hmem : ∀ {uid : ℤ} {user : User}, s.users.get? uid = some user → user ∈ s.users :=
    fun hget ↦ (Table.get?_eq_some_iff.mp hget).1
  have hput : ∀ {task : Task} {progress : SearchProgress},
      progress.user.subscriptionId.getD "" ≠ "" →
      ∀ x ∈ (s.tasks.replace { task with state := .processing progress }).toTable, ∀ p,
        x.state = .processing p → p.user.subscriptionId.getD "" ≠ "" := by
    intro task progress hprogress x hx p hp
    rcases SerialTable.mem_replace.mp hx with ⟨hx, -⟩ | ⟨rfl, -⟩
    · exact h.tasks x hx p hp
    · rw [← TaskState.processing.inj hp]
      exact hprogress
  have hend : ∀ {tasks : SerialTable Task.taskId} {task : Task} {crashed : Bool},
      (∀ x ∈ tasks.toTable, ∀ p, x.state = .processing p →
        p.user.subscriptionId.getD "" ≠ "") →
      ∀ x ∈ (endTask tasks task crashed).toTable, ∀ p, x.state = .processing p →
        p.user.subscriptionId.getD "" ≠ "" := by
    intro tasks task crashed htasks x hx p hp
    unfold endTask at hx
    split_ifs at hx
    · rcases SerialTable.mem_replace.mp hx with ⟨hx, -⟩ | ⟨rfl, -⟩
      · exact htasks x hx p hp
      · cases hp
    · exact htasks x (SerialTable.mem_remove.mp hx).1 p hp
  have happend : ∀ {action : SearchFinesAction},
      ∀ x ∈ (s.tasks.append (fun n ↦ ⟨n, action, .pending⟩) fun _ ↦ rfl).toTable, ∀ p,
        x.state = .processing p → p.user.subscriptionId.getD "" ≠ "" := by
    intro action x hx p hp
    rcases SerialTable.mem_append.mp hx with hx | rfl
    · exact h.tasks x hx p hp
    · cases hp
  have hstored : ∀ {task : Task} {progress : SearchProgress},
      s.tasks.get? task.taskId = some task → task.state = .processing progress →
      progress.user.subscriptionId.getD "" ≠ "" :=
    fun hget hstate ↦ h.tasks _ (Table.get?_eq_some_iff.mp hget).1 _ hstate
  cases hstep with
  | idle => exact h
  | schedule user users documents sync journal stored known others record =>
    have hall : ∀ u ∈ users, u.subscriptionId.getD "" ≠ "" := by
      intro u hu
      rcases known with rfl | ⟨hfree, rfl, env, subscriptionId, hnew⟩
      · exact h.users u hu
      · rcases (Table.mem_insert hfree).mp hu with hu | rfl
        · exact h.users u hu
        · rw [hnew]
          exact env.uuidText_ne_empty subscriptionId
    refine ⟨fun v hv ↦ ?_, happend⟩
    rcases Table.mem_replace.mp hv with ⟨hv, -⟩ | ⟨rfl, -⟩
    · exact hall v hv
    · exact hall user (Table.get?_eq_some_iff.mp stored).1
  | obsolete task user stored owner old =>
    refine ⟨fun v hv ↦ ?_, hend h.tasks⟩
    change v ∈ if user.syncingRevision = some task.action.revision then
      s.users.replace { user with syncingRevision := none } else s.users at hv
    split_ifs at hv
    · exact hsave { user with syncingRevision := none } (hmem owner) rfl v hv
    · exact h.users v hv
  | postpone task stored => exact ⟨h.users, hend happend⟩
  | acquire task user crashed event stored owner current free =>
    have huser := h.users user (hmem owner)
    exact ⟨hsave _ (hmem owner) rfl, hput huser⟩
  | load task user stored state =>
    have huser := hstored stored state
    exact ⟨h.users, hput huser⟩
  | reconcile task user documents unsubscribed stored state =>
    have huser := hstored stored state
    exact ⟨h.users, hput huser⟩
  | ask task user documents response stored state nonempty =>
    have huser := hstored stored state
    exact ⟨h.users, hput huser⟩
  | complete task user query stored asked owner holder =>
    exact ⟨hsave _ (hmem owner) rfl, hend h.tasks⟩
  | stop task stored restarts => exact ⟨h.users, hend h.tasks⟩

/-! ### The simulation -/

/-- A step concerns no other user. -/
theorem lock_of_ne {e : Event} {o uid : ℤ} {s t : Searches} (hstep : SearchStep e s o t)
    (hne : o ≠ uid) : t.lock uid = s.lock uid := by
  have hsame : ∀ {t : Searches}, userOf t.users uid = userOf s.users uid →
      t.documentsOf uid = s.documentsOf uid → jobsOf t.tasks uid = jobsOf s.tasks uid →
      lastCompleted uid t.journal = lastCompleted uid s.journal →
      owed uid t.journal = owed uid s.journal → t.lock uid = s.lock uid := by
    intro t husers hdocuments htasks hlast howed
    unfold Searches.lock
    rw [husers, hdocuments, htasks, hlast, howed]
  have hreplace : ∀ {user u : User}, s.users.get? o = some u → user.uid = u.uid →
      userOf (s.users.replace user) uid = userOf s.users uid := by
    intro user u hget hkey
    refine userOf_replace_of_ne fun h ↦ hne ?_
    rw [h, hkey, (Table.get?_eq_some_iff.mp hget).2]
  cases hstep with
  | idle => rfl
  | schedule user users documents sync journal stored known others record =>
    have husers : userOf users uid = userOf s.users uid := by
      rcases known with rfl | ⟨hfree, rfl, -⟩
      · rfl
      · rw [userOf, Table.get?_insert hfree, if_neg (Ne.symm hne), userOf]
    refine hsame ?_ (others uid (Ne.symm hne)) (jobsOf_append_of_ne fun _ ↦ hne) ?_ ?_
    · rw [← husers]
      exact userOf_replace_of_ne (Ne.symm hne)
    · rcases record with rfl | ⟨-, rfl⟩ <;> rfl
    · rcases record with rfl | ⟨-, rfl⟩
      · simp [owed, hne]
      · rfl
  | obsolete task user stored owner old =>
    refine hsame ?_ rfl (jobsOf_endTask_of_ne stored hne) rfl rfl
    change userOf (if user.syncingRevision = some task.action.revision then
      s.users.replace { user with syncingRevision := none } else s.users) uid = _
    split_ifs
    · exact hreplace owner rfl
    · rfl
  | postpone task stored =>
    refine hsame rfl rfl ((jobsOf_endTask_of_ne ?_ hne).trans ?_) rfl rfl
    · rw [SerialTable.get?_append, if_neg, stored]
      exact SerialTable.key_ne_next (Table.get?_eq_some_iff.mp stored).1
    · exact jobsOf_append_of_ne fun _ ↦ hne
  | acquire task user crashed event stored owner current free =>
    exact hsame (hreplace owner rfl) rfl (jobsOf_replace_of_ne _ stored hne rfl) rfl rfl
  | load task user stored state =>
    exact hsame rfl rfl (jobsOf_replace_of_ne _ stored hne rfl) rfl rfl
  | reconcile task user documents unsubscribed stored state =>
    refine hsame rfl rfl (jobsOf_replace_of_ne _ stored hne rfl) ?_ ?_
    · change lastCompleted uid (if _ then _ else _) = _
      split_ifs <;> rfl
    · change owed uid (if _ then _ else _) = _
      split_ifs
      · exact if_neg hne
      · rfl
  | ask task user documents response stored state nonempty =>
    exact hsame rfl rfl (jobsOf_replace_of_ne _ stored hne rfl) rfl rfl
  | complete task user query stored asked owner holder =>
    exact hsame (hreplace owner rfl) rfl (jobsOf_endTask_of_ne stored hne) (if_neg hne) rfl
  | stop task stored restarts =>
    exact hsame rfl rfl (jobsOf_endTask_of_ne stored hne) rfl rfl

/-- What one event means for the lock of a user. -/
structure LockStep (e : Event) (s t : Lock Content) (le : RevisionLock.Event Content) : Prop where
  step : RevisionLock.Step s le t
  stays : le.stays = true → e.crashed = true
  acquires : ∀ taskId, le = .acquire taskId → ∃ crashed, e = .searchStart taskId crashed

section LockSteps

variable {e : Event} {s : Searches} {task : Task}

theorem lock_jobs (stored : s.tasks.get? task.taskId = some task) :
    (s.lock task.action.uid).jobs task.taskId = some task.toJob :=
  (jobsOf_eq stored).trans (Task.jobOf_self task)

/-- The jobs after a worker has come further. -/
theorem jobsOf_advanced {state : TaskState} (stored : s.tasks.get? task.taskId = some task) :
    jobsOf (s.tasks.replace { task with state }) task.action.uid =
      Function.update (jobsOf s.tasks task.action.uid) task.taskId
        (some { task.toJob with phase := state.phase }) := by
  rw [jobsOf_replace { task with state } (Option.isSome_of_eq_some stored)]
  exact congrArg _ (Task.jobOf_self { task with state })

/-- The jobs after a task has ended. -/
theorem jobsOf_ended {crashed : Bool} (stored : s.tasks.get? task.taskId = some task) :
    jobsOf (endTask s.tasks task crashed) task.action.uid =
      Function.update (jobsOf s.tasks task.action.uid) task.taskId (task.toJob.rest crashed) :=
  jobsOf_endTask (Option.isSome_of_eq_some stored) rfl

/-- A scheduled search is a new job for the next version. -/
theorem lock_schedule {user : User} {users : Table User.uid}
    {documents : Table Document.documentId} {sync : Bool} {journal : List Occurrence}
    (stored : users.get? user.uid = some user)
    (known : users = s.users ∨ (s.users.get? user.uid = none ∧ users = s.users.insert user ∧
      ∃ env subscriptionId, user = newUser env user.uid subscriptionId))
    (record : journal = .documentsChanged user.uid (user.revision + 1) sync :: s.journal ∨
      (sync = false ∧ journal = s.journal)) :
    RevisionLock.Step (s.lock user.uid)
      (.schedule (s.tasks.last + 1) sync
        (contentOf (documents.rows.filter fun d ↦ d.uid = user.uid)))
      (Searches.lock
        { users := users.replace { user with revision := user.revision + 1 }
          documents
          tasks := s.tasks.append
            (fun taskId ↦ ⟨taskId, ⟨user.uid, user.revision + 1, sync⟩, .pending⟩) fun _ ↦ rfl
          journal } user.uid) := by
  have hcounters : (s.lock user.uid).version = user.revision ∧
      (s.lock user.uid).published = user.syncedRevision ∧
      (s.lock user.uid).holder = user.syncingRevision := by
    rcases known with rfl | ⟨hfree, -, env, subscriptionId, hnew⟩
    · exact ⟨lock_version stored, lock_published stored, lock_holder stored⟩
    · have hstart : userOf s.users user.uid = { uid := user.uid } := by
        rw [userOf, hfree, Option.getD_none]
      have hcounters : user.revision = 1 ∧ user.syncedRevision = 0 ∧
          user.syncingRevision = none := by
        rw [hnew]
        exact ⟨rfl, rfl, rfl⟩
      exact ⟨(congrArg User.revision hstart).trans hcounters.1.symm,
        (congrArg User.syncedRevision hstart).trans hcounters.2.1.symm,
        (congrArg User.syncingRevision hstart).trans hcounters.2.2.symm⟩
  obtain ⟨hversion, hpublished, hholder⟩ := hcounters
  have hsaved := userOf_saved { user with revision := user.revision + 1 } stored rfl
  refine (RevisionLock.Step.schedule _ _ _ jobsOf_next).of_eq
    (Lock.ext ?_ ?_ ?_ rfl ?_ ?_ ?_)
  · exact (congrArg User.revision hsaved).trans (congrArg (· + 1) hversion.symm)
  · exact (congrArg User.syncedRevision hsaved).trans hpublished.symm
  · exact (congrArg User.syncingRevision hsaved).trans hholder.symm
  · rcases record with rfl | ⟨-, rfl⟩ <;> rfl
  · rcases record with rfl | ⟨rfl, rfl⟩
    · simp [Searches.lock, owed]
    · simp [Searches.lock]
  · refine jobsOf_append.trans ?_
    rw [Task.jobOf, if_pos rfl, hversion]
    rfl

/-- An obsolete search is a job that drops out. -/
theorem lock_obsolete {user : User} (stored : s.tasks.get? task.taskId = some task)
    (owner : s.users.get? task.action.uid = some user)
    (old : task.action.revision ≠ user.revision) (crashed : Bool) :
    RevisionLock.Step (s.lock task.action.uid) (.drop task.taskId crashed)
      (Searches.lock
        { s with
          users := if user.syncingRevision = some task.action.revision then
            s.users.replace { user with syncingRevision := none } else s.users
          tasks := endTask s.tasks task crashed } task.action.uid) := by
  have hversion : task.toJob.version ≠ (s.lock task.action.uid).version := by
    rw [lock_version owner]
    exact old
  refine (RevisionLock.Step.drop _ _ _ (lock_jobs stored) hversion).of_eq ?_
  by_cases hheld : user.syncingRevision = some task.action.revision
  · rw [if_pos hheld]
    have hsaved := userOf_saved { user with syncingRevision := none } owner rfl
    refine Lock.ext ?_ ?_ ?_ rfl rfl rfl (jobsOf_ended stored)
    · exact (congrArg User.revision hsaved).trans (lock_version owner).symm
    · exact (congrArg User.syncedRevision hsaved).trans (lock_published owner).symm
    · exact (congrArg User.syncingRevision hsaved).trans
        (if_pos ((lock_holder owner).trans hheld)).symm
  · rw [if_neg hheld]
    refine Lock.ext rfl rfl (if_neg ?_).symm rfl rfl rfl (jobsOf_ended stored)
    exact fun h ↦ hheld ((lock_holder owner).symm.trans h)

/-- A search that is scheduled again is a postponed job. -/
theorem lock_postpone (stored : s.tasks.get? task.taskId = some task) (crashed : Bool) :
    RevisionLock.Step (s.lock task.action.uid)
      (.postpone task.taskId (s.tasks.last + 1) crashed)
      (Searches.lock
        { s with
          tasks := endTask
            (s.tasks.append
              (fun taskId ↦ ⟨taskId, ⟨task.action.uid, task.action.revision, false⟩, .pending⟩)
              fun _ ↦ rfl) task crashed } task.action.uid) := by
  have hne : task.taskId ≠ s.tasks.last + 1 :=
    SerialTable.key_ne_next (Table.get?_eq_some_iff.mp stored).1
  refine (RevisionLock.Step.postpone _ _ _ _ (lock_jobs stored) jobsOf_next).of_eq
    (Lock.ext rfl rfl rfl rfl rfl rfl ?_)
  refine (jobsOf_endTask ?_ rfl).trans ?_
  · rw [SerialTable.get?_append, if_neg hne, stored]
    rfl
  · rw [jobsOf_append, Task.jobOf, if_pos rfl, Function.update_comm hne]
    rfl

theorem lock_acquire {user : User} (stored : s.tasks.get? task.taskId = some task)
    (owner : s.users.get? task.action.uid = some user)
    (current : task.action.revision = user.revision)
    (free : user.syncingRevision = none ∨ user.syncingRevision = some task.action.revision) :
    RevisionLock.Step (s.lock task.action.uid) (.acquire task.taskId)
      (Searches.lock
        { s with
          users := s.users.replace { user with syncingRevision := some task.action.revision }
          tasks := s.tasks.replace
            { task with
              state := .processing
                (.acquired { user with syncingRevision := some task.action.revision }) } }
        task.action.uid) := by
  have hsaved :=
    userOf_saved { user with syncingRevision := some task.action.revision } owner rfl
  have hversion : task.toJob.version = (s.lock task.action.uid).version :=
    current.trans (lock_version owner).symm
  have hfree : (s.lock task.action.uid).holder = none ∨
      (s.lock task.action.uid).holder = some task.toJob.version := by
    rw [lock_holder owner]
    exact free
  refine (RevisionLock.Step.acquire _ _ (lock_jobs stored) hversion hfree).of_eq
    (Lock.ext ?_ ?_ ?_ rfl rfl rfl (jobsOf_advanced stored))
  · exact (congrArg User.revision hsaved).trans (lock_version owner).symm
  · exact (congrArg User.syncedRevision hsaved).trans (lock_published owner).symm
  · exact congrArg User.syncingRevision hsaved

/-- The reconciliation of a search whose user has a subscription clears the duty, or there is
none. -/
theorem lock_reconcile {user : User} {documents : List Document}
    (unsubscribed : List PayerDoc) (stored : s.tasks.get? task.taskId = some task)
    (state : task.state = .processing (.loaded user documents))
    (hsubscription : user.subscriptionId.getD "" ≠ "") :
    ∃ le, (le = .reconcile task.taskId ∨ le = .pass task.taskId) ∧
      RevisionLock.Step (s.lock task.action.uid) le
        (Searches.lock
          { s with
            tasks :=
              s.tasks.replace { task with state := .processing (.reconciled user documents) }
            journal := if World.reconciles task.action user then
              .reconciled task.action.uid unsubscribed :: s.journal else s.journal }
          task.action.uid) := by
  have hphase : task.toJob.phase = .read (contentOf documents) := congrArg TaskState.phase state
  cases hreconciles : World.reconciles task.action user with
  | true =>
    refine ⟨_, Or.inl rfl, (RevisionLock.Step.reconcile _ _ _ (lock_jobs stored) hphase).of_eq
      (Lock.ext rfl rfl rfl rfl rfl ?_ (jobsOf_advanced stored))⟩
    exact if_pos rfl
  | false =>
    have hflag : task.toJob.flag = false := by
      cases hsync : task.action.syncSubscription with
      | false => exact hsync
      | true => simp [World.reconciles, hsync, hsubscription] at hreconciles
    exact ⟨_, Or.inr rfl, (RevisionLock.Step.pass _ _ _ (lock_jobs stored) hphase hflag).of_eq
      (Lock.ext rfl rfl rfl rfl rfl rfl (jobsOf_advanced stored))⟩

/-- An answer of Kazna is to a request for the documents that were read: the job stays as it
is. -/
theorem lock_ask {user : User} {documents : List Document} (response : SearchResponse)
    (stored : s.tasks.get? task.taskId = some task)
    (state : task.state = .processing (.reconciled user documents))
    (nonempty : documents ≠ []) :
    Searches.lock
      { s with
        tasks := s.tasks.replace
          { task with
            state := .processing
              (.answered user documents (searchRequest user documents) response) } }
      task.action.uid = s.lock task.action.uid := by
  have hphase : task.toJob.phase = .ready (some (getPayerDocs documents)) := by
    refine (congrArg TaskState.phase state).trans ?_
    show Phase.ready (contentOf documents) = _
    rw [contentOf, if_neg nonempty]
  have hsame : ({ task.toJob with phase := .ready (some (getPayerDocs documents)) } :
      Job Content) = task.toJob := by rw [← hphase]
  have hjob : jobsOf s.tasks task.action.uid task.taskId = some task.toJob := lock_jobs stored
  refine Lock.ext rfl rfl rfl rfl rfl rfl ((jobsOf_advanced stored).trans ?_)
  show Function.update (jobsOf s.tasks task.action.uid) task.taskId (some { task.toJob with
    phase := .ready (some (getPayerDocs documents)) }) = jobsOf s.tasks task.action.uid
  rw [hsame, ← hjob, Function.update_eq_self]

theorem lock_complete {user : User} {query : Option SearchRequest}
    (stored : s.tasks.get? task.taskId = some task)
    (asked : task.state.phase = .ready (query.map SearchRequest.documents))
    (owner : s.users.get? task.action.uid = some user)
    (holder : user.syncingRevision = some task.action.revision) (crashed : Bool) :
    RevisionLock.Step (s.lock task.action.uid) (.publish task.taskId crashed)
      (Searches.lock
        { s with
          users := s.users.replace
            { user with syncingRevision := none, syncedRevision := task.action.revision }
          tasks := endTask s.tasks task crashed
          journal := .completed task.action.uid task.action.revision query :: s.journal }
        task.action.uid) := by
  have hsaved := userOf_saved
    { user with syncingRevision := none, syncedRevision := task.action.revision } owner rfl
  have hholder : (s.lock task.action.uid).holder = some task.toJob.version :=
    (lock_holder owner).trans holder
  refine (RevisionLock.Step.publish _ _ _ _ (lock_jobs stored) asked hholder).of_eq
    (Lock.ext ?_ ?_ ?_ rfl ?_ rfl (jobsOf_ended stored))
  · exact (congrArg User.revision hsaved).trans (lock_version owner).symm
  · exact congrArg User.syncedRevision hsaved
  · exact congrArg User.syncingRevision hsaved
  · exact if_pos rfl

end LockSteps

/-- A step is a step of the lock of the user that it concerns, or none. -/
theorem lockStep_of_searchStep {e : Event} {o : ℤ} {s t : Searches}
    (hstep : SearchStep e s o t) (hsubscribed : Subscribed s) :
    t.lock o = s.lock o ∨ ∃ le, LockStep e (s.lock o) (t.lock o) le := by
  have hsilent : ∀ {t' : Lock Content} {le : RevisionLock.Event Content},
      RevisionLock.Step (s.lock o) le t' → le.stays = false → (∀ id, le ≠ .acquire id) →
        ∃ le, LockStep e (s.lock o) t' le := by
    intro t' le hstep hends hother
    refine ⟨le, hstep, fun hstays ↦ ?_, fun id h ↦ absurd h (hother id)⟩
    rw [hends] at hstays
    cases hstays
  cases hstep with
  | idle => exact Or.inl rfl
  | schedule user users documents sync journal stored known others record =>
    exact Or.inr (hsilent (lock_schedule stored known record) rfl fun _ h ↦ by cases h)
  | obsolete task user stored owner old =>
    exact Or.inr ⟨_, lock_obsolete stored owner old e.crashed, fun h ↦ h, fun _ h ↦ by cases h⟩
  | postpone task stored =>
    exact Or.inr ⟨_, lock_postpone stored e.crashed, fun h ↦ h, fun _ h ↦ by cases h⟩
  | acquire task user crashed event stored owner current free =>
    refine Or.inr ⟨_, lock_acquire stored owner current free, fun h ↦ Bool.noConfusion h, ?_⟩
    intro taskId h
    cases h
    exact ⟨crashed, event⟩
  | load task user stored state =>
    have hphase : task.toJob.phase = .holding := congrArg TaskState.phase state
    have hload := RevisionLock.Step.load task.taskId _ (lock_jobs stored) hphase
    refine Or.inr (hsilent (hload.of_eq ?_) rfl fun _ h ↦ by cases h)
    exact Lock.ext rfl rfl rfl rfl rfl rfl (jobsOf_advanced stored)
  | reconcile task user documents unsubscribed stored state =>
    have hsubscription : user.subscriptionId.getD "" ≠ "" :=
      hsubscribed.tasks task (Table.get?_eq_some_iff.mp stored).1 _ state
    obtain ⟨le, rfl | rfl, hreconcile⟩ := lock_reconcile unsubscribed stored state hsubscription
    · exact Or.inr (hsilent hreconcile rfl fun _ h ↦ by cases h)
    · exact Or.inr (hsilent hreconcile rfl fun _ h ↦ by cases h)
  | ask task user documents response stored state nonempty =>
    exact Or.inl (lock_ask response stored state nonempty)
  | complete task user query stored asked owner holder =>
    exact Or.inr ⟨_, lock_complete stored asked owner holder e.crashed, fun h ↦ h,
      fun _ h ↦ by cases h⟩
  | stop task stored restarts =>
    have hstop := RevisionLock.Step.stop task.taskId restarts _ (lock_jobs stored)
    refine Or.inr (hsilent (hstop.of_eq ?_) rfl fun _ h ↦ by cases h)
    exact Lock.ext rfl rfl rfl rfl rfl rfl (jobsOf_ended stored)

/-- The simulation: an event is one step of the lock of every user, or none. -/
theorem lock_step {env : Environment} {e : Event} {w w' : World}
    (h : World.step env w e = some w') (hsubscribed : Subscribed w.searches) (uid : ℤ) :
    w'.searches.lock uid = w.searches.lock uid ∨
      ∃ le, LockStep e (w.searches.lock uid) (w'.searches.lock uid) le := by
  obtain ⟨o, hstep⟩ := searchStep_of_step h
  by_cases hne : o = uid
  · subst hne
    exact lockStep_of_searchStep hstep hsubscribed
  · exact Or.inl (lock_of_ne hstep hne)

end YandexPay.BillPayments
