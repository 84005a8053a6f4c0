import YandexPay.BillPayments.Entities
import YandexPay.Library.Tx

/-!
# The database and its mappers

`postgre/migrations` and `storage/mappers`. `Tables` are the tables of the schema with their
primary keys; `Tables.Unique` and `Tables.References` are its unique indices and foreign keys.
`Database` carries both as fields, as the server does: `write` stores new tables only when they
satisfy the constraints and fails otherwise, so every state of the database is consistent.

`Mapper` is `BaseMapperCRUD`: the operations `get`, `find`, `create` and `save` are defined once
over a table and its primary key, and each mapper of the service is one value of it. The
`_eq_ok` lemmas say exactly when an operation succeeds and what it leaves.

A search task is a row of `tasks` together with the local variables of the worker that processes
it; a finished task leaves the table, since no modelled function reads it.
-/

set_option autoImplicit false
set_option relaxedAutoImplicit false

namespace YandexPay.BillPayments

/-- The stored entities, as errors name them. -/
inductive Entity
  | user | document | bill | order | billOrder | transaction
  deriving DecidableEq, Repr

/-- The exceptions that end an action. -/
inductive ActionError
  | doesNotExist (entity : Entity)
  | alreadyExists (entity : Entity)
  | uniqueViolation
  | foreignKeyViolation
  | invalidUuidText (text : String)
  | userAlreadyExists
  | userNotFound
  | documentNotFound
  | transactionNotFound
  | billOrderNotFound
  | billNotFound (billId : UUID)
  | orderNotFound
  | tooManyDocuments (limit : ℕ)
  | paymentMethodNotSupported
  | mixedDepartments
  | billAlreadyPaid
  | orderAlreadyPaid
  | machineError (trigger : PaymentStatusCode) (state : TransactionStatus)
  | wrongRequestSignature
  | assertionFailed
  | valueError
  | keyError
  | coreFail
  deriving DecidableEq, Repr

/-! ### Search tasks -/

/-- `SearchFinesAction` with its arguments. -/
structure SearchFinesAction where
  uid : ℤ
  revision : ℕ
  syncSubscription : Bool := false
  deriving DecidableEq, Repr

/-- How far the worker has come in `SearchFinesAction.handle`, with its local variables. -/
inductive SearchProgress
  | acquired (user : User)
  | loaded (user : User) (documents : List Document)
  | reconciled (user : User) (documents : List Document)
  | answered (user : User) (documents : List Document) (request : SearchRequest)
      (response : SearchResponse)
  deriving DecidableEq, Repr

inductive TaskState
  | pending
  | processing (progress : SearchProgress)
  deriving DecidableEq, Repr

structure Task where
  taskId : ℕ
  action : SearchFinesAction
  state : TaskState
  deriving DecidableEq, Repr

/-! ### Tables and constraints -/

structure Tables where
  users : Table User.uid
  documents : Table Document.documentId
  bills : Table Bill.billId
  orders : Table Order.orderId
  billOrders : Table fun r : BillOrder ↦ (r.billId, r.orderId)
  transactions : Table Transaction.transactionId
  tasks : SerialTable Task.taskId

def Tables.empty : Tables where
  users := .empty
  documents := .empty
  bills := .empty
  orders := .empty
  billOrders := .empty
  transactions := .empty
  tasks := .empty

/-- The unique indices beyond the primary keys. -/
structure Tables.Unique (t : Tables) : Prop where
  users_subscriptionId : ∀ u ∈ t.users, ∀ v ∈ t.users, u.subscriptionId = v.subscriptionId →
    u.subscriptionId ≠ none → u.uid = v.uid
  bills_uid_supplierBillId : ∀ b ∈ t.bills, ∀ c ∈ t.bills, b.uid = c.uid →
    b.supplierBillId = c.supplierBillId → b.billId = c.billId
  transactions_orderId_noncancelled : ∀ s ∈ t.transactions, ∀ u ∈ t.transactions,
    s.orderId = u.orderId → s.status ≠ .cancelled → u.status ≠ .cancelled →
      s.transactionId = u.transactionId

/-- The foreign keys. -/
structure Tables.References (t : Tables) : Prop where
  documents_uid : ∀ d ∈ t.documents, (t.users.get? d.uid).isSome
  bills_uid : ∀ b ∈ t.bills, (t.users.get? b.uid).isSome
  bills_documentId : ∀ b ∈ t.bills, (t.documents.get? b.documentId).isSome
  orders_uid : ∀ o ∈ t.orders, (t.users.get? o.uid).isSome
  transactions_orderId : ∀ s ∈ t.transactions, (t.orders.get? s.orderId).isSome
  billOrders_billId : ∀ r ∈ t.billOrders, (t.bills.get? r.billId).isSome
  billOrders_orderId : ∀ r ∈ t.billOrders, (t.orders.get? r.orderId).isSome

instance (t : Tables) : Decidable t.Unique :=
  decidable_of_iff
    ((∀ u ∈ t.users, ∀ v ∈ t.users, u.subscriptionId = v.subscriptionId →
        u.subscriptionId ≠ none → u.uid = v.uid) ∧
      (∀ b ∈ t.bills, ∀ c ∈ t.bills, b.uid = c.uid →
        b.supplierBillId = c.supplierBillId → b.billId = c.billId) ∧
      (∀ s ∈ t.transactions, ∀ u ∈ t.transactions, s.orderId = u.orderId →
        s.status ≠ .cancelled → u.status ≠ .cancelled → s.transactionId = u.transactionId))
    ⟨fun h ↦ ⟨h.1, h.2.1, h.2.2⟩, fun h ↦ ⟨h.1, h.2, h.3⟩⟩

instance (t : Tables) : Decidable t.References :=
  decidable_of_iff
    ((∀ d ∈ t.documents, (t.users.get? d.uid).isSome) ∧
      (∀ b ∈ t.bills, (t.users.get? b.uid).isSome) ∧
      (∀ b ∈ t.bills, (t.documents.get? b.documentId).isSome) ∧
      (∀ o ∈ t.orders, (t.users.get? o.uid).isSome) ∧
      (∀ s ∈ t.transactions, (t.orders.get? s.orderId).isSome) ∧
      (∀ r ∈ t.billOrders, (t.bills.get? r.billId).isSome) ∧
      (∀ r ∈ t.billOrders, (t.orders.get? r.orderId).isSome))
    ⟨fun h ↦ ⟨h.1, h.2.1, h.2.2.1, h.2.2.2.1, h.2.2.2.2.1, h.2.2.2.2.2.1, h.2.2.2.2.2.2⟩,
      fun h ↦ ⟨h.1, h.2, h.3, h.4, h.5, h.6, h.7⟩⟩

/-- Tables that satisfy the constraints of the schema. -/
structure Database extends Tables where
  unique : toTables.Unique
  references : toTables.References

def Database.empty : Database where
  toTables := .empty
  unique := by decide
  references := by decide

/-! ### Statements -/

/-- An action's database transaction. -/
abbrev Action := Tx Database ActionError

/-- Stores new tables if they satisfy the constraints. -/
def write (t : Tables) : Action Unit := fun _ ↦
  if hunique : t.Unique then
    if hreferences : t.References then .ok ((), ⟨t, hunique, hreferences⟩)
    else .error .foreignKeyViolation
  else .error .uniqueViolation

theorem write_eq_ok {t : Tables} {db db' : Database} {u : Unit} :
    write t db = .ok (u, db') ↔ db'.toTables = t := by
  unfold write
  constructor
  · intro h
    split_ifs at h
    cases h
    rfl
  · rintro rfl
    rw [dif_pos db'.unique, dif_pos db'.references]

/-- The operations of `BaseMapperCRUD` need a table and its place in the schema. -/
structure Mapper (α κ : Type) where
  entity : Entity
  key : α → κ
  view : Tables → Table key
  store : Tables → Table key → Tables

namespace Mapper

variable {α κ : Type} [DecidableEq κ] (m : Mapper α κ)

def get (k : κ) : Action α := do
  match (m.view (← MonadState.get).toTables).get? k with
  | some r => pure r
  | none => throw (.doesNotExist m.entity)

def find (p : α → Bool) : Action (List α) := do
  return (m.view (← MonadState.get).toTables).rows.filter p

def create (r : α) : Action α := do
  let t := (← MonadState.get).toTables
  match (m.view t).get? (m.key r) with
  | some _ => throw (.alreadyExists m.entity)
  | none =>
    Tx.mapError (fun e ↦ if e = .uniqueViolation then .alreadyExists m.entity else e)
      (write (m.store t ((m.view t).insert r)))
    pure r

def save (r : α) : Action α := do
  let t := (← MonadState.get).toTables
  match (m.view t).get? (m.key r) with
  | some _ =>
    write (m.store t ((m.view t).replace r))
    pure r
  | none => throw (.doesNotExist m.entity)

variable {m}

theorem get_eq_ok {k : κ} {r : α} {db db' : Database} :
    m.get k db = .ok (r, db') ↔ (m.view db.toTables).get? k = some r ∧ db' = db := by
  rw [get, Tx.get_bind]
  cases (m.view db.toTables).get? k with
  | none => simp
  | some x =>
    rw [Tx.pure_eq_ok, Option.some.injEq]
    exact and_congr_left' eq_comm

omit [DecidableEq κ] in
theorem find_eq_ok {p : α → Bool} {l : List α} {db db' : Database} :
    m.find p db = .ok (l, db') ↔ l = (m.view db.toTables).rows.filter p ∧ db' = db := by
  rw [find, Tx.get_bind, Tx.pure_eq_ok]

theorem create_eq_ok {r a : α} {db db' : Database} :
    m.create r db = .ok (a, db') ↔ a = r ∧ (m.view db.toTables).get? (m.key r) = none ∧
      db'.toTables = m.store db.toTables ((m.view db.toTables).insert r) := by
  rw [create, Tx.get_bind]
  cases (m.view db.toTables).get? (m.key r) with
  | some x => simp
  | none =>
    simp only [Tx.bind_pure_eq_ok, Tx.mapError_eq_ok, write_eq_ok, true_and]

theorem save_eq_ok {r a : α} {db db' : Database} :
    m.save r db = .ok (a, db') ↔ a = r ∧ ((m.view db.toTables).get? (m.key r)).isSome ∧
      db'.toTables = m.store db.toTables ((m.view db.toTables).replace r) := by
  rw [save, Tx.get_bind]
  cases (m.view db.toTables).get? (m.key r) with
  | none => simp
  | some x =>
    simp only [Tx.bind_pure_eq_ok, write_eq_ok, Option.isSome_some, true_and]

end Mapper

/-! ### The mappers of the service -/

def userMapper : Mapper User ℤ :=
  ⟨.user, User.uid, Tables.users, fun t x ↦ { t with users := x }⟩

def documentMapper : Mapper Document UUID :=
  ⟨.document, Document.documentId, Tables.documents, fun t x ↦ { t with documents := x }⟩

def billMapper : Mapper Bill UUID :=
  ⟨.bill, Bill.billId, Tables.bills, fun t x ↦ { t with bills := x }⟩

def orderMapper : Mapper Order UUID :=
  ⟨.order, Order.orderId, Tables.orders, fun t x ↦ { t with orders := x }⟩

def billOrderMapper : Mapper BillOrder (UUID × UUID) :=
  ⟨.billOrder, fun r ↦ (r.billId, r.orderId), Tables.billOrders,
    fun t x ↦ { t with billOrders := x }⟩

def transactionMapper : Mapper Transaction UUID :=
  ⟨.transaction, Transaction.transactionId, Tables.transactions,
    fun t x ↦ { t with transactions := x }⟩

/-- `DocumentMapper.delete`: the foreign keys of `bills` and `bill_orders` cascade. -/
def deleteDocument (documentId : UUID) : Action Unit := do
  let t := (← MonadState.get).toTables
  let bills := t.bills.keep fun b ↦ b.documentId ≠ documentId
  write
    { t with
      documents := t.documents.keep fun d ↦ d.documentId ≠ documentId
      bills
      billOrders := t.billOrders.keep fun r ↦ (bills.get? r.billId).isSome }

/-- `run_async`: adds a pending task for an action. -/
def runAsync (action : SearchFinesAction) : Action Unit := do
  let t := (← MonadState.get).toTables
  write { t with tasks := t.tasks.append (fun taskId ↦ ⟨taskId, action, .pending⟩) fun _ ↦ rfl }

theorem deleteDocument_eq_ok {documentId : UUID} {db db' : Database} {u : Unit} :
    deleteDocument documentId db = .ok (u, db') ↔ db'.toTables =
      { db.toTables with
        documents := db.documents.keep fun d ↦ d.documentId ≠ documentId
        bills := db.bills.keep fun b ↦ b.documentId ≠ documentId
        billOrders := db.billOrders.keep fun r ↦
          ((db.bills.keep fun b ↦ b.documentId ≠ documentId).get? r.billId).isSome } := by
  rw [deleteDocument, Tx.get_bind, write_eq_ok]

theorem runAsync_eq_ok {action : SearchFinesAction} {db db' : Database} {u : Unit} :
    runAsync action db = .ok (u, db') ↔ db'.toTables =
      { db.toTables with
        tasks := db.tasks.append (fun taskId ↦ ⟨taskId, action, .pending⟩) fun _ ↦ rfl } := by
  rw [runAsync, Tx.get_bind, write_eq_ok]

end YandexPay.BillPayments
