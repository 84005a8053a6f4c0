import YandexPay.BillPayments.Webhook
import YandexPay.Library.Transition

/-!
# The service as an event-driven system

A `World` is the database together with what lies outside it: the payments that Kazna holds, the
runs of `CreateTransactionAction` that wait between the answer of Kazna and their commit, and a
journal of what has happened to the searches, which no action reads. One event is one database
transaction, one answer of Kazna, or one crash; an action that fails leaves the world as it is.

A creation in flight holds the locks of its order and of the transactions of the order, so the
events that need them are not enabled while it lasts. A search task crashes at any of its
statements and then runs again with the same arguments; `crashed` in `searchStart` and
`searchFinish` is a crash after the last commit and before the task is marked as finished.
`getTransaction` is the action in one go; `resumeGet` is its second half, when its read and the
answer of Kazna lie further back.
-/

set_option autoImplicit false
set_option relaxedAutoImplicit false

namespace YandexPay.BillPayments

open YandexPay.Transition

/-! ### Kazna -/

/-- The codes that a payment has had when its code is the given one. -/
def PaymentStatusCode.past : PaymentStatusCode → List PaymentStatusCode
  | .created => [.created]
  | .auth => [.auth, .created]
  | .cancel => [.cancel, .created]
  | .refunded => [.refunded, .auth, .created]

/-- The flow of a payment in Kazna, from the docstring of `UpdateTransactionStatusAction`. -/
def PaymentStatusCode.next : PaymentStatusCode → List PaymentStatusCode
  | .created => [.auth, .cancel]
  | .auth => [.refunded]
  | .cancel => []
  | .refunded => []

/-- A payment as Kazna holds it. -/
structure Payment where
  paymentId : ℤ
  request : PayRequest
  status : PaymentStatusCode
  deriving DecidableEq, Repr

/-! ### The world -/

/-- A run of `CreateTransactionAction` after the answer of Kazna. -/
structure Creation where
  action : CreateTransactionAction
  transactionId : UUID
  amount : ℤ
  payment : PayResponse
  deriving DecidableEq, Repr

/-- What the journal records. -/
inductive Occurrence
  | documentsChanged (uid : ℤ) (revision : ℕ) (syncSubscription : Bool)
  | reconciled (uid : ℤ) (unsubscribed : List PayerDoc)
  | completed (uid : ℤ) (revision : ℕ) (query : Option SearchRequest)
  deriving DecidableEq, Repr

/-- The state of the system; the journal starts with the latest occurrence. -/
structure World where
  db : Database
  payments : List Payment
  creations : List Creation
  journal : List Occurrence

def World.initial : World := ⟨.empty, [], [], []⟩

inductive Event
  | createDocument (action : CreateDocumentAction) (subscriptionId documentId : UUID)
  | updateDocument (action : UpdateDocumentAction)
  | deleteDocument (action : DeleteDocumentAction)
  | forceSearch (action : ForceSearchBillsAction)
  | searchStart (taskId : ℕ) (crashed : Bool)
  | searchLoad (taskId : ℕ)
  | searchReconcile (taskId : ℕ) (subscription : List PayerDoc)
  | searchAsk (taskId : ℕ) (response : SearchResponse)
  | searchFinish (taskId : ℕ) (newId : String → UUID) (crashed : Bool)
  | searchCrash (taskId : ℕ)
  | searchFail (taskId : ℕ)
  | notifyBills (notifications : List (BillNotification × UUID))
  | createOrder (action : CreateOrderAction) (orderId : UUID)
  | pay (action : CreateTransactionAction) (transactionId : UUID) (today : ℤ)
      (payment : PayResponse)
  | finishCreation (transactionId : UUID)
  | abandonCreation (transactionId : UUID)
  | webhook (request : WebhookPaymentInfoRequest)
  | getTransaction (transactionId : String) (info : PaymentInfoResponse)
  | resumeGet (transactionId : String) (code : PaymentStatusCode)
  | syncStatus (action : SyncTransactionStatusAction) (info : PaymentInfoResponse)
  | kaznaMoves (paymentId : ℤ) (code : PaymentStatusCode)

namespace World

/-- Runs an action; `record` is what the journal says of a success. -/
def run {α : Type} (w : World) (action : Action α)
    (record : α → Database → List Occurrence := fun _ _ ↦ []) : World :=
  match action w.db with
  | .ok (a, db) => { w with db, journal := record a db ++ w.journal }
  | .error _ => w

theorem run_eq {α : Type} (w : World) (action : Action α)
    (record : α → Database → List Occurrence) :
    (∃ a db, action w.db = .ok (a, db) ∧
      w.run action record = { w with db, journal := record a db ++ w.journal }) ∨
    w.run action record = w := by
  unfold run
  rcases action w.db with e | ⟨a, db⟩
  · exact Or.inr rfl
  · exact Or.inl ⟨a, db, rfl, rfl⟩

/-- The journal entry for a change of the documents of a user. -/
def documentsChanged (uid : ℤ) (syncSubscription : Bool) (db : Database) : List Occurrence :=
  ((db.users.get? uid).map fun user ↦
    .documentsChanged uid user.revision syncSubscription).toList

/-! ### Locks -/

/-- A creation in flight holds the locks of this order. -/
def locked (w : World) (orderId : UUID) : Bool :=
  w.creations.any fun c ↦ c.action.orderId = orderId

/-- A creation in flight holds the lock of the transaction with this identifier. -/
def lockedTransaction (env : Environment) (w : World) (transactionId : String) : Bool :=
  match (env.uuidInput transactionId).bind w.db.transactions.get? with
  | none => false
  | some transaction => w.locked transaction.orderId

/-! ### Search tasks -/

end World

/-- The database with other tasks; no constraint concerns them. -/
def Database.withTasks (db : Database) (tasks : SerialTable Task.taskId) : Database where
  toTables := { db.toTables with tasks }
  unique := ⟨db.unique.1, db.unique.2, db.unique.3⟩
  references := ⟨db.references.1, db.references.2, db.references.3, db.references.4,
    db.references.5, db.references.6, db.references.7⟩

/-- A task ends; after a crash it is pending again instead. -/
def Database.endTask (db : Database) (task : Task) (crashed : Bool) : Database :=
  db.withTasks <|
    if crashed then db.tasks.replace { task with state := .pending }
    else db.tasks.remove task.taskId

/-- A worker comes further with a task. -/
def Database.advanceTask (db : Database) (task : Task) (progress : SearchProgress) : Database :=
  db.withTasks (db.tasks.replace { task with state := .processing progress })

namespace World

/-- The start of a search: the transaction of `_acquire_user`. -/
def searchStart (w : World) (task : Task) (crashed : Bool) : World :=
  match task.action.acquireUser w.db with
  | .error _ => w
  | .ok (none, db) => { w with db := db.endTask task crashed }
  | .ok (some user, db) => { w with db := db.advanceTask task (.acquired user) }

/-- `if self.sync_subscription and user.subscription_id`; an empty text counts as missing. -/
def reconciles (action : SearchFinesAction) (user : User) : Bool :=
  action.syncSubscription ∧ user.subscriptionId.getD "" ≠ ""

/-- `_complete`, which ends the task. -/
def searchComplete (w : World) (task : Task) (documents : List Document)
    (newId : String → UUID) (charges : List Charge) (query : Option SearchRequest)
    (crashed : Bool) : World :=
  match task.action.complete documents newId charges w.db with
  | .error _ => { w with db := w.db.endTask task true }
  | .ok (_, db) =>
    { w with
      db := db.endTask task crashed
      journal := .completed task.action.uid task.action.revision query :: w.journal }

/-- `_retry` after a partial answer, which ends the task. -/
def searchRetry (w : World) (task : Task) (crashed : Bool) : World :=
  match task.action.retry w.db with
  | .error _ => { w with db := w.db.endTask task true }
  | .ok (_, db) => { w with db := db.endTask task crashed }

/-- One statement of a search after `_acquire_user`. -/
def searchStep (w : World) (task : Task) (progress : SearchProgress) (e : Event) :
    Option World :=
  match e, progress with
  | .searchLoad _, .acquired user =>
    some { w with
      db := w.db.advanceTask task (.loaded user (w.db.documentsOf task.action.uid)) }
  | .searchReconcile _ subscription, .loaded user documents =>
    some { w with
      db := w.db.advanceTask task (.reconciled user documents)
      journal :=
        if reconciles task.action user then
          .reconciled task.action.uid (toUnsubscribe documents subscription) :: w.journal
        else w.journal }
  | .searchAsk _ response, .reconciled user documents =>
    if documents = [] then none
    else some { w with
      db := w.db.advanceTask task
        (.answered user documents (searchRequest user documents) response) }
  | .searchFinish _ newId crashed, .reconciled _ documents =>
    if documents = [] then some (w.searchComplete task documents newId [] none crashed)
    else none
  | .searchFinish _ newId crashed, .answered _ documents request response =>
    match response.status with
    | .complete =>
      some (w.searchComplete task documents newId response.charges (some request) crashed)
    | .part => some (w.searchRetry task crashed)
  | .searchCrash _, _ => some { w with db := w.db.endTask task true }
  | _, _ => none

/-- The events of one search task. -/
def searchEvent (w : World) (taskId : ℕ) (e : Event) : Option World :=
  (w.db.tasks.get? taskId).bind fun task ↦
    match task.state, e with
    | .pending, .searchStart _ crashed => some (w.searchStart task crashed)
    | .pending, .searchFail _ => some { w with db := w.db.endTask task false }
    | .processing progress, e => w.searchStep task progress e
    | _, _ => none

/-- What an event of a search task does, by how far the worker has come. -/
inductive SearchMove (w : World) (task : Task) : Event → World → Prop
  | start (taskId : ℕ) (crashed : Bool) (state : task.state = .pending) :
    SearchMove w task (.searchStart taskId crashed) (w.searchStart task crashed)
  | fail (taskId : ℕ) (state : task.state = .pending) :
    SearchMove w task (.searchFail taskId) { w with db := w.db.endTask task false }
  | load (taskId : ℕ) (user : User) (state : task.state = .processing (.acquired user)) :
    SearchMove w task (.searchLoad taskId) { w with
      db := w.db.advanceTask task (.loaded user (w.db.documentsOf task.action.uid)) }
  | reconcile (taskId : ℕ) (subscription : List PayerDoc) (user : User)
    (documents : List Document) (state : task.state = .processing (.loaded user documents)) :
    SearchMove w task (.searchReconcile taskId subscription) { w with
      db := w.db.advanceTask task (.reconciled user documents)
      journal :=
        if reconciles task.action user then
          .reconciled task.action.uid (toUnsubscribe documents subscription) :: w.journal
        else w.journal }
  | ask (taskId : ℕ) (response : SearchResponse) (user : User) (documents : List Document)
    (state : task.state = .processing (.reconciled user documents))
    (nonempty : documents ≠ []) :
    SearchMove w task (.searchAsk taskId response) { w with
      db := w.db.advanceTask task
        (.answered user documents (searchRequest user documents) response) }
  | finishEmpty (taskId : ℕ) (newId : String → UUID) (crashed : Bool) (user : User)
    (state : task.state = .processing (.reconciled user [])) :
    SearchMove w task (.searchFinish taskId newId crashed)
      (w.searchComplete task [] newId [] none crashed)
  | finishComplete (taskId : ℕ) (newId : String → UUID) (crashed : Bool) (user : User)
    (documents : List Document) (request : SearchRequest) (response : SearchResponse)
    (state : task.state = .processing (.answered user documents request response)) :
    SearchMove w task (.searchFinish taskId newId crashed)
      (w.searchComplete task documents newId response.charges (some request) crashed)
  | finishPart (taskId : ℕ) (newId : String → UUID) (crashed : Bool) (user : User)
    (documents : List Document) (request : SearchRequest) (response : SearchResponse)
    (state : task.state = .processing (.answered user documents request response)) :
    SearchMove w task (.searchFinish taskId newId crashed) (w.searchRetry task crashed)
  | crash (taskId : ℕ) (progress : SearchProgress) (state : task.state = .processing progress) :
    SearchMove w task (.searchCrash taskId) { w with db := w.db.endTask task true }

theorem searchEvent_cases {w w' : World} {taskId : ℕ} {e : Event}
    (h : w.searchEvent taskId e = some w') :
    ∃ task, w.db.tasks.get? taskId = some task ∧ SearchMove w task e w' := by
  obtain ⟨task, htask, h⟩ := Option.bind_eq_some_iff.mp h
  refine ⟨task, htask, ?_⟩
  obtain ⟨id, action, state⟩ := task
  cases state with
  | pending =>
    cases e <;> cases h
    · exact .start _ _ rfl
    · exact .fail _ rfl
  | processing progress =>
    replace h : w.searchStep ⟨id, action, .processing progress⟩ progress e = some w' := by
      cases e <;> exact h
    unfold searchStep at h
    split at h
    · obtain rfl := Option.some.inj h
      exact .load _ _ rfl
    · obtain rfl := Option.some.inj h
      exact .reconcile _ _ _ _ rfl
    · split_ifs at h with hempty
      obtain rfl := Option.some.inj h
      exact .ask _ _ _ _ rfl hempty
    · split_ifs at h with hempty
      obtain rfl := Option.some.inj h
      subst hempty
      exact .finishEmpty _ _ _ _ rfl
    · split at h
      · obtain rfl := Option.some.inj h
        exact .finishComplete _ _ _ _ _ _ _ rfl
      · obtain rfl := Option.some.inj h
        exact .finishPart _ _ _ _ _ _ _ rfl
    · obtain rfl := Option.some.inj h
      exact .crash _ _ rfl
    · cases h

/-! ### Payments -/

/-- The answer of Kazna to `CreateTransactionAction`; `transactionId` is not in use by another
creation. -/
def pay (env : Environment) (w : World) (action : CreateTransactionAction)
    (transactionId : UUID) (today : ℤ) (payment : PayResponse) : Option World :=
  if w.locked action.orderId ∨ w.creations.any (fun c ↦ c.transactionId = transactionId) then none
  else
    match action.prepare env today transactionId w.db with
    | .error _ => some w
    | .ok (request, _) =>
      some { w with
        payments := ⟨payment.paymentId, request, .created⟩ :: w.payments
        creations := ⟨action, transactionId, request.amount, payment⟩ :: w.creations }

/-- A call that is not made to wait brings a payment and a creation, or is refused. -/
theorem pay_cases {env : Environment} {w w' : World} {action : CreateTransactionAction}
    {transactionId : UUID} {today : ℤ} {payment : PayResponse}
    (h : w.pay env action transactionId today payment = some w') :
    (∀ c ∈ w.creations, c.transactionId ≠ transactionId) ∧
      (w' = w ∨ ∃ request db, action.prepare env today transactionId w.db = .ok (request, db) ∧
        w' = { w with
          payments := ⟨payment.paymentId, request, .created⟩ :: w.payments
          creations := ⟨action, transactionId, request.amount, payment⟩ :: w.creations }) := by
  unfold pay at h
  split_ifs at h with hwait
  refine ⟨fun c hc heq ↦ ?_, ?_⟩
  · exact hwait (Or.inr (List.any_eq_true.mpr ⟨c, hc, decide_eq_true heq⟩))
  · cases hprepare : action.prepare env today transactionId w.db with
    | error _ =>
      rw [hprepare] at h
      exact Or.inl (Option.some.inj h).symm
    | ok prepared =>
      rw [hprepare] at h
      exact Or.inr ⟨prepared.1, prepared.2, rfl, (Option.some.inj h).symm⟩

/-- Takes a creation out of flight. -/
def takeCreation (w : World) (transactionId : UUID) : World :=
  { w with creations := w.creations.filter fun c ↦ c.transactionId ≠ transactionId }

/-- The end of `CreateTransactionAction`: its writes, or a rollback when they fail. -/
def finishCreation (w : World) (transactionId : UUID) : Option World :=
  (w.creations.find? fun c ↦ c.transactionId = transactionId).map fun c ↦
    (w.takeCreation transactionId).run (c.action.commit c.transactionId c.amount c.payment)

/-- A report of a status, unless a lock makes it wait. -/
def report {α : Type} (env : Environment) (w : World) (transactionId : String)
    (action : Action α) : Option World :=
  if w.lockedTransaction env transactionId then none else some (w.run action)

/-- A payment moves along the flow of Kazna. -/
def kaznaMoves (w : World) (paymentId : ℤ) (code : PaymentStatusCode) : World :=
  { w with
    payments := w.payments.map fun p ↦
      if p.paymentId = paymentId ∧ code ∈ p.status.next then { p with status := code } else p }

/-- One event. -/
def step (env : Environment) (w : World) (e : Event) : Option World :=
  match e with
  | .createDocument action subscriptionId documentId =>
    some (w.run (action.handle env subscriptionId documentId)
      fun _ db ↦ documentsChanged action.uid false db)
  | .updateDocument action =>
    some (w.run action.handle fun _ db ↦ documentsChanged action.uid true db)
  | .deleteDocument action =>
    some (w.run action.handle fun scheduled db ↦
      if scheduled.isSome then documentsChanged action.uid true db else [])
  | .forceSearch action => some (w.run action.handle)
  | .searchStart taskId _ => w.searchEvent taskId e
  | .searchLoad taskId => w.searchEvent taskId e
  | .searchReconcile taskId _ => w.searchEvent taskId e
  | .searchAsk taskId _ => w.searchEvent taskId e
  | .searchFinish taskId _ _ => w.searchEvent taskId e
  | .searchCrash taskId => w.searchEvent taskId e
  | .searchFail taskId => w.searchEvent taskId e
  | .notifyBills notifications => some (w.run (createBillsFromManyNotifications notifications))
  | .createOrder action orderId => some (w.run (action.handle orderId))
  | .pay action transactionId today payment => w.pay env action transactionId today payment
  | .finishCreation transactionId => w.finishCreation transactionId
  | .abandonCreation transactionId => some (w.takeCreation transactionId)
  | .webhook request =>
    w.report env request.orderId (kaznaPaymentStatusPost env request)
  | .getTransaction transactionId info =>
    w.report env transactionId (BillPayments.getTransaction env (fun _ ↦ .ok info) transactionId)
  | .resumeGet transactionId code =>
    w.report env transactionId (UpdateTransactionStatusAction.handle env ⟨transactionId, code⟩)
  | .syncStatus action info =>
    w.report env info.orderId (action.handle env fun _ ↦ .ok info)
  | .kaznaMoves paymentId code => some (w.kaznaMoves paymentId code)

end World

/-- The service, started on an empty database. -/
def service (env : Environment) : System World Event where
  start := fun w ↦ w = .initial
  step := World.step env

/-! ### Concrete inputs -/

/-- The settings of the repository with the identity as digest. -/
def concreteEnv : Environment := .ofSettings id

/-- All events of one search task, answered with the given status and charges. -/
def searchRun (taskId : ℕ) (response : SearchResponse) (newId : String → UUID) : List Event :=
  [.searchStart taskId false, .searchLoad taskId, .searchReconcile taskId [],
    .searchAsk taskId response, .searchFinish taskId newId false]

end YandexPay.BillPayments
