import YandexPay.BillPayments.Storage

/-!
# Users, documents and the scheduling of searches

`core/actions/user`, `core/actions/document`, `storage/mappers/user.py` and
`SearchFinesAction.schedule`. Every action that changes the documents of a user schedules a search
in the same database transaction: it increments the revision of the user and adds one task for
the new revision (`schedule_ok`). The `_ok` theorems state what a successful run of an action
leaves; identifiers drawn by `uuid4` are arguments.
-/

set_option autoImplicit false
set_option relaxedAutoImplicit false

namespace YandexPay.BillPayments

/-! ### The user mapper -/

/-- `UserMapper.increment_revision` -/
def incrementRevision (uid : ℤ) : Action ℕ := do
  let user ← userMapper.get uid
  let user ← userMapper.save { user with revision := user.revision + 1 }
  return user.revision

/-- `UserMapper.update_synced_revision`: no row is updated, and the mapper raises, unless the
user is syncing this revision. -/
def updateSyncedRevision (uid : ℤ) (revision : ℕ) : Action Unit := do
  let user ← userMapper.get uid
  if user.syncingRevision = some revision then
    let _ ← userMapper.save { user with syncingRevision := none, syncedRevision := revision }
  else throw (.doesNotExist .user)

/-- `SearchFinesAction.schedule` -/
def SearchFinesAction.schedule (uid : ℤ) (syncSubscription : Bool := false) : Action ℕ := do
  let revision ← incrementRevision uid
  runAsync ⟨uid, revision, syncSubscription⟩
  return revision

/-- The tables after a search has been scheduled for a user. -/
def Tables.scheduled (t : Tables) (user : User) (syncSubscription : Bool) : Tables :=
  { t with
    users := t.users.replace { user with revision := user.revision + 1 }
    tasks := t.tasks.append
      (fun taskId ↦ ⟨taskId, ⟨user.uid, user.revision + 1, syncSubscription⟩, .pending⟩)
      fun _ ↦ rfl }

theorem incrementRevision_ok {uid : ℤ} {revision : ℕ} {db db' : Database}
    (h : incrementRevision uid db = .ok (revision, db')) :
    ∃ user, db.users.get? uid = some user ∧ revision = user.revision + 1 ∧
      db'.toTables =
        { db.toTables with
          users := db.users.replace { user with revision := user.revision + 1 } } := by
  simp only [incrementRevision, Tx.bind_eq_ok, Mapper.get_eq_ok, Mapper.save_eq_ok,
    Tx.pure_eq_ok] at h
  obtain ⟨user, db₁, ⟨huser, rfl⟩, saved, db₂, ⟨rfl, -, hsave⟩, rfl, rfl⟩ := h
  exact ⟨user, huser, rfl, hsave⟩

theorem updateSyncedRevision_ok {uid : ℤ} {revision : ℕ} {db db' : Database} {u : Unit}
    (h : updateSyncedRevision uid revision db = .ok (u, db')) :
    ∃ user, db.users.get? uid = some user ∧ user.syncingRevision = some revision ∧
      db'.toTables =
        { db.toTables with
          users := db.users.replace
            { user with syncingRevision := none, syncedRevision := revision } } := by
  simp only [updateSyncedRevision, Tx.bind_eq_ok, Mapper.get_eq_ok] at h
  obtain ⟨user, db₁, ⟨huser, rfl⟩, h⟩ := h
  split_ifs at h with hsyncing
  · simp only [Tx.bind_eq_ok, Mapper.save_eq_ok, Tx.pure_eq_ok] at h
    obtain ⟨saved, db₂, ⟨-, -, hsave⟩, -, rfl⟩ := h
    exact ⟨user, huser, hsyncing, hsave⟩
  · exact (Tx.throw_ne_ok.mp h).elim

theorem schedule_ok {uid : ℤ} {sync : Bool} {revision : ℕ} {db db' : Database}
    (h : SearchFinesAction.schedule uid sync db = .ok (revision, db')) :
    ∃ user, db.users.get? uid = some user ∧ revision = user.revision + 1 ∧
      db'.toTables = db.toTables.scheduled user sync := by
  simp only [SearchFinesAction.schedule, Tx.bind_eq_ok, runAsync_eq_ok, Tx.pure_eq_ok] at h
  obtain ⟨n, db₁, hinc, u, db₂, hrun, rfl, rfl⟩ := h
  obtain ⟨user, huser, rfl, hdb₁⟩ := incrementRevision_ok hinc
  have hkey : user.uid = uid := (Table.get?_eq_some_iff.mp huser).2
  refine ⟨user, huser, rfl, ?_⟩
  rw [hrun, hdb₁, ← hkey]
  rfl

/-! ### Users -/

structure CreateUserAction where
  uid : ℤ

/-- `CreateUserAction.handle`; `subscriptionId` is drawn by `uuid4`. -/
def CreateUserAction.handle (env : Environment) (action : CreateUserAction)
    (subscriptionId : UUID) : Action User :=
  Tx.mapError (fun e ↦ if e = .alreadyExists .user then .userAlreadyExists else e)
    (userMapper.create { uid := action.uid, subscriptionId := some (env.uuidText subscriptionId) })

structure EnsureUserAction where
  uid : ℤ

/-- `EnsureUserAction.handle` -/
def EnsureUserAction.handle (env : Environment) (action : EnsureUserAction)
    (subscriptionId : UUID) : Action User :=
  Tx.orElseOn (fun e ↦ e = .userAlreadyExists)
    (CreateUserAction.handle env ⟨action.uid⟩ subscriptionId) (userMapper.get action.uid)

/-- The user that `CreateUserAction` stores. -/
def newUser (env : Environment) (uid : ℤ) (subscriptionId : UUID) : User :=
  { uid, subscriptionId := some (env.uuidText subscriptionId) }

theorem ensureUser_ok {env : Environment} {uid : ℤ} {subscriptionId : UUID} {user : User}
    {db db' : Database}
    (h : EnsureUserAction.handle env ⟨uid⟩ subscriptionId db = .ok (user, db')) :
    (db.users.get? uid = some user ∧ db' = db) ∨
      (db.users.get? uid = none ∧ user = newUser env uid subscriptionId ∧
        db'.toTables = { db.toTables with users := db.users.insert user }) := by
  rcases Tx.orElseOn_eq_ok.mp h with hcreate | ⟨e, -, -, hget⟩
  · obtain ⟨rfl, hfree, hdb'⟩ := Mapper.create_eq_ok.mp (Tx.mapError_eq_ok.mp hcreate)
    exact Or.inr ⟨hfree, rfl, hdb'⟩
  · exact Or.inl (Mapper.get_eq_ok.mp hget)

/-- `UserState`, with the value `UNREGISTERED` for a user that does not exist. -/
inductive UserState
  | unregistered | syncing | completed
  deriving DecidableEq, Repr

/-- `GetUserStateAction.handle` -/
def GetUserStateAction.handle (uid : ℤ) : Action UserState :=
  Tx.orElseOn (fun e ↦ e = .doesNotExist .user)
    (do
      let user ← userMapper.get uid
      return if user.syncedRevision = user.revision then .completed else .syncing)
    (pure .unregistered)

theorem getUserState_completed {uid : ℤ} {db db' : Database} :
    GetUserStateAction.handle uid db = .ok (.completed, db') ↔
      db' = db ∧ ∃ user, db.users.get? uid = some user ∧ user.syncedRevision = user.revision := by
  simp only [GetUserStateAction.handle, Tx.orElseOn_eq_ok, Tx.bind_eq_ok, Mapper.get_eq_ok,
    Tx.pure_eq_ok]
  constructor
  · rintro (⟨user, db₁, ⟨huser, rfl⟩, hstate, rfl⟩ | ⟨e, -, -, hstate, -⟩)
    · refine ⟨rfl, user, huser, ?_⟩
      by_contra hne
      rw [if_neg hne] at hstate
      cases hstate
    · cases hstate
  · rintro ⟨rfl, user, huser, hsynced⟩
    exact Or.inl ⟨user, db', ⟨huser, rfl⟩, (if_pos hsynced).symm, rfl⟩

/-! ### Documents -/

/-- `DocumentMapper.find_by_uid` -/
def findDocumentsByUid (uid : ℤ) : Action (List Document) :=
  documentMapper.find fun d ↦ d.uid = uid

/-- The stored documents of a user. -/
def Tables.documentsOf (t : Tables) (uid : ℤ) : List Document :=
  t.documents.rows.filter fun d ↦ d.uid = uid

/-- `DocumentMapper.get_by_uid_and_document_id` -/
def getDocument (uid : ℤ) (documentId : UUID) : Action Document := do
  let document ← documentMapper.get documentId
  if document.uid = uid then return document
  else throw (.doesNotExist .document)

theorem getDocument_eq_ok {uid : ℤ} {documentId : UUID} {document : Document}
    {db db' : Database} : getDocument uid documentId db = .ok (document, db') ↔
      db.documents.get? documentId = some document ∧ document.uid = uid ∧ db' = db := by
  simp only [getDocument, Tx.bind_eq_ok, Mapper.get_eq_ok]
  constructor
  · rintro ⟨d, db₁, ⟨hget, rfl⟩, h⟩
    split_ifs at h with huid
    · obtain ⟨rfl, rfl⟩ := Tx.pure_eq_ok.mp h
      exact ⟨hget, huid, rfl⟩
    · exact (Tx.throw_ne_ok.mp h).elim
  · rintro ⟨hget, huid, rfl⟩
    exact ⟨document, db', ⟨hget, rfl⟩, by rw [if_pos huid]; exact Tx.pure_eq_ok.mpr ⟨rfl, rfl⟩⟩

structure CreateDocumentAction where
  uid : ℤ
  code : DocumentCode
  value : String
  title : Option String := none
  deriving DecidableEq, Repr

/-- `CreateDocumentAction.handle` -/
def CreateDocumentAction.handle (env : Environment) (action : CreateDocumentAction)
    (subscriptionId documentId : UUID) : Action Document := do
  let _ ← EnsureUserAction.handle env ⟨action.uid⟩ subscriptionId
  let documents ← findDocumentsByUid action.uid
  if env.apiDocumentsLimit ≤ documents.length then
    throw (.tooManyDocuments env.apiDocumentsLimit)
  let document ← documentMapper.create
    { documentId, uid := action.uid, code := action.code, value := action.value,
      title := action.title }
  let _ ← SearchFinesAction.schedule action.uid
  return document

structure UpdateDocumentAction where
  uid : ℤ
  code : DocumentCode
  value : String
  documentId : UUID
  title : Option String := none
  deriving DecidableEq, Repr

/-- `UpdateDocumentAction.handle` -/
def UpdateDocumentAction.handle (action : UpdateDocumentAction) : Action Document := do
  let document ← Tx.mapError
    (fun e ↦ if e = .doesNotExist .document then .documentNotFound else e)
    (getDocument action.uid action.documentId)
  let document ← documentMapper.save
    { document with code := action.code, value := action.value, title := action.title }
  let _ ← SearchFinesAction.schedule action.uid true
  return document

structure DeleteDocumentAction where
  uid : ℤ
  documentId : UUID
  deriving DecidableEq, Repr

/-- `DeleteDocumentAction.handle`; the revision of the scheduled search, or `none` when the
document is already deleted. -/
def DeleteDocumentAction.handle (action : DeleteDocumentAction) : Action (Option ℕ) := do
  let found ← Tx.orElseOn (fun e ↦ e = .doesNotExist .document)
    (some <$> getDocument action.uid action.documentId) (pure none)
  match found with
  | none => return none
  | some document =>
    deleteDocument document.documentId
    let revision ← SearchFinesAction.schedule action.uid true
    return some revision

structure ForceSearchBillsAction where
  uid : ℤ
  deriving DecidableEq, Repr

/-- `ForceSearchBillsAction.handle`; the new revision, or `none` when a search is in progress. -/
def ForceSearchBillsAction.handle (action : ForceSearchBillsAction) : Action (Option ℕ) := do
  let user ← Tx.mapError (fun e ↦ if e = .doesNotExist .user then .userNotFound else e)
    (userMapper.get action.uid)
  if user.syncedRevision ≠ user.revision then return none
  let revision ← SearchFinesAction.schedule user.uid
  return some revision

theorem createDocument_ok {env : Environment} {action : CreateDocumentAction}
    {subscriptionId documentId : UUID} {document : Document} {db db' : Database}
    (h : CreateDocumentAction.handle env action subscriptionId documentId db =
      .ok (document, db')) :
    document.documentId = documentId ∧ document.uid = action.uid ∧
      document.code = action.code ∧ document.value = action.value ∧
      db.documents.get? documentId = none ∧ ∃ user users,
        ((db.users.get? action.uid = some user ∧ users = db.users) ∨
          (db.users.get? action.uid = none ∧ user = newUser env action.uid subscriptionId ∧
            users = db.users.insert user)) ∧
        users.get? action.uid = some user ∧
        db'.toTables =
          ({ db.toTables with
            users
            documents := db.documents.insert document } : Tables).scheduled user false := by
  simp only [CreateDocumentAction.handle, findDocumentsByUid, Tx.bind_eq_ok,
    Mapper.find_eq_ok] at h
  obtain ⟨ensured, db₁, hensure, documents, db₂, ⟨-, rfl⟩, h⟩ := h
  simp only [Tx.guard_eq_ok, Tx.bind_eq_ok, Mapper.create_eq_ok, Tx.pure_eq_ok] at h
  obtain ⟨-, created, db₃, ⟨rfl, hfree, hdb₃⟩, revision, db₄, hschedule, rfl, rfl⟩ := h
  obtain ⟨user, huser, -, hdb'⟩ := schedule_ok hschedule
  have husers₃ : db₃.users = db₂.users := by rw [hdb₃]; rfl
  rw [husers₃] at huser
  refine ⟨rfl, rfl, rfl, rfl, ?_, user, db₂.users, ?_, huser, ?_⟩
  · rcases ensureUser_ok hensure with ⟨-, rfl⟩ | ⟨-, -, hdb₂⟩
    · exact hfree
    · rw [hdb₂] at hfree
      exact hfree
  · rcases ensureUser_ok hensure with ⟨hget, rfl⟩ | ⟨hnone, rfl, hdb₂⟩
    · rw [hget, Option.some.injEq] at huser
      subst huser
      exact Or.inl ⟨hget, rfl⟩
    · have hinsert : db₂.users = db.users.insert (newUser env action.uid subscriptionId) := by
        rw [hdb₂]
      rw [hinsert, Table.get?_insert hnone] at huser
      rw [hinsert]
      have hnew : user = newUser env action.uid subscriptionId := by
        simpa [newUser, eq_comm] using huser
      subst hnew
      exact Or.inr ⟨hnone, rfl, rfl⟩
  · rw [hdb', hdb₃]
    rcases ensureUser_ok hensure with ⟨-, rfl⟩ | ⟨-, -, hdb₂⟩
    · rfl
    · rw [hdb₂]
      rfl

theorem updateDocument_ok {action : UpdateDocumentAction} {document : Document}
    {db db' : Database} (h : action.handle db = .ok (document, db')) :
    ∃ old user, db.documents.get? action.documentId = some old ∧ old.uid = action.uid ∧
      document =
        { old with code := action.code, value := action.value, title := action.title } ∧
      db.users.get? action.uid = some user ∧
      db'.toTables =
        ({ db.toTables with
          documents := db.documents.replace document } : Tables).scheduled user true := by
  simp only [UpdateDocumentAction.handle, Tx.bind_eq_ok, Tx.mapError_eq_ok, getDocument_eq_ok,
    Mapper.save_eq_ok, Tx.pure_eq_ok] at h
  obtain ⟨old, db₁, ⟨hold, huid, rfl⟩, saved, db₂, ⟨rfl, -, hdb₂⟩, revision, db₃, hschedule,
    rfl, rfl⟩ := h
  obtain ⟨user, huser, -, hdb'⟩ := schedule_ok hschedule
  have husers : db₂.users = db₁.users := by rw [hdb₂]; rfl
  rw [husers] at huser
  refine ⟨old, user, hold, huid, rfl, huser, ?_⟩
  rw [hdb', hdb₂]
  rfl

theorem deleteDocument_handle_ok {action : DeleteDocumentAction} {scheduled : Option ℕ}
    {db db' : Database} (h : action.handle db = .ok (scheduled, db')) :
    (scheduled = none ∧ db' = db) ∨
      ∃ document user, db.documents.get? action.documentId = some document ∧
        document.uid = action.uid ∧ db.users.get? action.uid = some user ∧
        scheduled = some (user.revision + 1) ∧
        db'.toTables =
          ({ db.toTables with
            documents := db.documents.keep fun d ↦ d.documentId ≠ action.documentId
            bills := db.bills.keep fun b ↦ b.documentId ≠ action.documentId
            billOrders := db.billOrders.keep fun r ↦
              ((db.bills.keep fun b ↦ b.documentId ≠ action.documentId).get?
                r.billId).isSome } : Tables).scheduled user true := by
  rw [DeleteDocumentAction.handle, Tx.bind_eq_ok] at h
  obtain ⟨found, db₁, hfound, h⟩ := h
  rw [Tx.orElseOn_eq_ok, Tx.map_eq_ok] at hfound
  rcases hfound with ⟨document, hget, rfl⟩ | ⟨e, -, -, hpure⟩
  · obtain ⟨hdocument, huid, rfl⟩ := getDocument_eq_ok.mp hget
    simp only [Tx.bind_eq_ok, deleteDocument_eq_ok, Tx.pure_eq_ok] at h
    obtain ⟨u, db₂, hdb₂, revision, db₃, hschedule, rfl, rfl⟩ := h
    obtain ⟨user, huser, rfl, hdb'⟩ := schedule_ok hschedule
    have husers : db₂.users = db₁.users := by rw [hdb₂]
    rw [husers] at huser
    have hkey : document.documentId = action.documentId :=
      (Table.get?_eq_some_iff.mp hdocument).2
    refine Or.inr ⟨document, user, hdocument, huid, huser, rfl, ?_⟩
    rw [hdb', hdb₂, hkey]
  · obtain ⟨rfl, rfl⟩ := Tx.pure_eq_ok.mp hpure
    obtain ⟨rfl, rfl⟩ := Tx.pure_eq_ok.mp h
    exact Or.inl ⟨rfl, rfl⟩

theorem forceSearch_ok {action : ForceSearchBillsAction} {scheduled : Option ℕ}
    {db db' : Database} (h : action.handle db = .ok (scheduled, db')) :
    (scheduled = none ∧ db' = db) ∨
      ∃ user, db.users.get? action.uid = some user ∧ user.syncedRevision = user.revision ∧
        scheduled = some (user.revision + 1) ∧
        db'.toTables = db.toTables.scheduled user false := by
  simp only [ForceSearchBillsAction.handle, Tx.bind_eq_ok, Tx.mapError_eq_ok,
    Mapper.get_eq_ok] at h
  obtain ⟨user, db₁, ⟨huser, rfl⟩, h⟩ := h
  have hkey : user.uid = action.uid := (Table.get?_eq_some_iff.mp huser).2
  split_ifs at h with hsynced
  · obtain ⟨rfl, rfl⟩ := Tx.pure_eq_ok.mp h
    exact Or.inl ⟨rfl, rfl⟩
  · simp only [Tx.bind_eq_ok, Tx.pure_eq_ok] at h
    obtain ⟨revision, db₂, hschedule, rfl, rfl⟩ := h
    obtain ⟨user', huser', rfl, hdb'⟩ := schedule_ok hschedule
    have hsame : user' = user := by
      rw [hkey] at huser'
      exact Option.some.inj (huser'.symm.trans huser)
    subst hsame
    exact Or.inr ⟨user', huser, not_not.mp hsynced, rfl, hdb'⟩

end YandexPay.BillPayments
