import Mathlib.Data.List.Dedup
import YandexPay.BillPayments.Orders

/-!
# Payment transactions

`core/actions/transaction`. `CreateTransactionAction.handle` calls Kazna between two groups of
statements, `prepare` and `store`. It holds the locks on the order and on its transactions during
the call, so its writes are those of `commit` on whatever the database is when the answer comes;
`handle_eq_commit` says that an uninterrupted run is `prepare` followed by `commit`.

`transitions` is the table of `UpdateTransactionStatusAction`, `trigger` the `Machine` that runs
it. `GetTransactionAction` and `SyncTransactionStatusAction` take what Kazna answers as an
argument. The `_ok` theorems state the effects in terms of `Table.update`: which rows change, and
how.
-/

set_option autoImplicit false
set_option relaxedAutoImplicit false

namespace YandexPay.BillPayments

/-! ### Creating a transaction -/

/-- `core/entities/mpi_3ds_info.py` -/
structure MPI3DSInfo where
  browserAcceptHeader : String
  browserColorDepth : ℤ
  browserIp : String
  browserLanguage : String
  browserScreenHeight : ℤ
  browserScreenWidth : ℤ
  browserTz : String
  browserUserAgent : String
  browserJavascriptEnabled : Bool
  windowHeight : ℤ
  windowWidth : ℤ
  deriving DecidableEq, Repr

structure CreateTransactionAction where
  uid : ℤ
  orderId : UUID
  paymentMethod : PaymentMethodType
  payerFullName : String
  paymentToken : String
  mpi3dsInfo : MPI3DSInfo
  returnUrl : String
  deriving DecidableEq, Repr

def Transaction.cancel (t : Transaction) : Transaction := { t with status := .cancelled }

theorem Transaction.cancel_transactionId (t : Transaction) :
    t.cancel.transactionId = t.transactionId := rfl

/-- `OrderMapper.get_by_order_id_and_uid` -/
def getOrderByOrderIdAndUid (orderId : UUID) (uid : ℤ) : Action Order := do
  let order ← orderMapper.get orderId
  if order.uid = uid then return order
  else throw (.doesNotExist .order)

/-- `BillOrderMapper.find_by_order_id` with the related bills. -/
def findBillsByOrderId (orderId : UUID) : Action (List Bill) := do
  let rows ← billOrderMapper.find fun r ↦ r.orderId = orderId
  let bills := (← MonadState.get).bills
  return rows.filterMap fun r ↦ bills.get? r.billId

/-- `_infer_dep_type`; taking an element of the empty set raises `KeyError`. -/
def inferDepType (env : Environment) (bills : List Bill) : Action (Option DepartmentType) :=
  match (bills.map Bill.depType).dedup with
  | [] => throw .keyError
  | [depType] =>
    pure (if depType = some .unknown ∧ env.yenvTesting then some .gibdd else depType)
  | _ => throw .mixedDepartments

/-- The summand of `_get_amount`. -/
def Bill.total (env : Environment) (today : ℤ) (bill : Bill) : Option ℤ :=
  (bill.discountedAmount today).map fun amount ↦ amount + Bill.feeAmount env amount

/-- `_get_amount` -/
def getAmount (env : Environment) (today : ℤ) (bills : List Bill) : Action ℤ :=
  match bills.mapM (Bill.total env today) with
  | none => throw .valueError
  | some amounts => pure amounts.sum

/-- `_get_kazna_pay_type` -/
def getKaznaPayType : PaymentMethodType → PayType
  | .yandexPay => .yandexpay

/-- `_check_existing_transactions` -/
def checkExistingTransactions (orderId : UUID) : Action PUnit := do
  let transactions ← transactionMapper.find fun t ↦ t.orderId = orderId
  if ¬ transactions.all fun t ↦ t.status = .new ∨ t.status = .cancelled then
    throw .orderAlreadyPaid
  forM (transactions.filter fun t ↦ t.status ≠ .cancelled) fun t ↦ do
    let _ ← transactionMapper.save t.cancel

namespace CreateTransactionAction

variable (env : Environment) (today : ℤ) (action : CreateTransactionAction)

/-- `_get_kazna_mpi_ext_info` -/
def getKaznaMpiExtInfo : MpiExtInfo where
  deviceChannel := some .browser
  browserAcceptHeader := some action.mpi3dsInfo.browserAcceptHeader
  browserColorDepth := some action.mpi3dsInfo.browserColorDepth
  browserIp := some action.mpi3dsInfo.browserIp
  browserLanguage := some action.mpi3dsInfo.browserLanguage
  browserScreenHeight := some action.mpi3dsInfo.browserScreenHeight
  browserScreenWidth := some action.mpi3dsInfo.browserScreenWidth
  browserTz := some action.mpi3dsInfo.browserTz
  browserUserAgent := some action.mpi3dsInfo.browserUserAgent
  browserJavaEnabled := some action.mpi3dsInfo.browserJavascriptEnabled
  windowWidth := some action.mpi3dsInfo.windowWidth
  windowHeight := some action.mpi3dsInfo.windowHeight
  notificationUrl := some "https://notification.invalid"
  tdsNotificationUrl := some "https://tds.notification.invalid"

/-- The statements of `handle` that open it: they lock the order and its transactions. -/
def lockOrder : Action PUnit := do
  let order ← Tx.mapError (fun e ↦ if e = .doesNotExist .order then .orderNotFound else e)
    (getOrderByOrderIdAndUid action.orderId action.uid)
  checkExistingTransactions order.orderId

/-- The statements of `handle` before the call of Kazna, with the request they build;
`transactionId` is drawn by `uuid4`. -/
def prepare (transactionId : UUID) : Action PayRequest := do
  action.lockOrder
  let bills ← findBillsByOrderId action.orderId
  let depType ← inferDepType env bills
  let amount ← getAmount env today bills
  return {
    orderId := env.uuidText transactionId
    kvit := false
    depType
    payerParams := PayerData.toKaznaPayerParams ⟨action.payerFullName⟩
    paymentParams := ⟨bills.map Bill.supplierBillId⟩
    payType := getKaznaPayType action.paymentMethod
    amount
    mpiExtInfo := action.getKaznaMpiExtInfo
    returnUrl := action.returnUrl
    ypToken := some action.paymentToken }

/-- The transaction that `handle` stores. -/
def newTransaction (transactionId : UUID) (amount : ℤ) (payment : PayResponse) : Transaction where
  transactionId := transactionId
  orderId := action.orderId
  status := .new
  amount := amount
  externalPaymentId := toString payment.paymentId
  payerData := ⟨action.payerFullName⟩
  paymentMethod := action.paymentMethod

/-- The statements of `handle` after the call of Kazna. -/
def store (transactionId : UUID) (amount : ℤ) (payment : PayResponse) :
    Action (Transaction × Option AcsUrl) := do
  let transaction ← transactionMapper.create (action.newTransaction transactionId amount payment)
  match payment.tds with
  | none => return (transaction, none)
  | some tds =>
    match tds.toUrl with
    | none => throw .assertionFailed
    | some url => return (transaction, some url)

/-- All writes of `handle`, executed on the database at its end. -/
def commit (transactionId : UUID) (amount : ℤ) (payment : PayResponse) :
    Action (Transaction × Option AcsUrl) := do
  action.lockOrder
  action.store transactionId amount payment

/-- `_exception_result`, on an error of Kazna with the code it carries. -/
def exceptionResult : Option KaznaAPIErrorCode → ActionError
  | some .paymentAlreadyExists => .billAlreadyPaid
  | _ => .coreFail

/-- `CreateTransactionAction.handle`; `pay` is `clients.kazna.pay`. -/
def handle (transactionId : UUID)
    (pay : PayRequest → Except (Option KaznaAPIErrorCode) PayResponse) :
    Action (Transaction × Option AcsUrl) := do
  let request ← action.prepare env today transactionId
  match pay request with
  | .error code => throw (exceptionResult code)
  | .ok payment => action.store transactionId request.amount payment

end CreateTransactionAction

/-! ### Effects of a creation -/

theorem saveCancelled_ok {l : List Transaction} {u : PUnit} {db db' : Database}
    (hstored : ∀ t ∈ l, t ∈ db.transactions) (hnodup : (l.map Transaction.transactionId).Nodup)
    (h : (forM l fun t ↦ do let _ ← transactionMapper.save t.cancel : Action PUnit) db =
      .ok (u, db')) :
    db'.toTables =
      { db.toTables with
        transactions := db.transactions.update
          (fun t ↦ t.transactionId ∈ l.map Transaction.transactionId) Transaction.cancel
          Transaction.cancel_transactionId } := by
  induction l generalizing db with
  | nil =>
    obtain ⟨-, rfl⟩ := Tx.pure_eq_ok.mp h
    have hsame : db'.transactions.update (fun t ↦ t.transactionId ∈ ([] : List UUID))
        Transaction.cancel Transaction.cancel_transactionId = db'.transactions := by
      simp [Table.update]
    rw [List.map_nil, hsame]
  | cons t l ih =>
    rw [List.forM_cons] at h
    simp only [Tx.bind_eq_ok, Mapper.save_eq_ok, Tx.pure_eq_ok] at h
    obtain ⟨v, db₁, ⟨saved, db₂, ⟨-, -, hdb₂⟩, -, rfl⟩, hrest⟩ := h
    rw [List.map_cons, List.nodup_cons] at hnodup
    have ht := hstored t List.mem_cons_self
    have hupdate : db₁.transactions = db.transactions.update
        (fun s ↦ s.transactionId = t.transactionId) Transaction.cancel
        Transaction.cancel_transactionId := by
      rw [← Table.replace_eq_update ht, hdb₂]
      rfl
    have hothers : db₁.toTables = { db.toTables with transactions := db₁.transactions } := by
      rw [hdb₂]
      rfl
    rw [ih ?_ hnodup.2 hrest, hothers, hupdate]
    · have hunion : (db.transactions.update (fun s ↦ s.transactionId = t.transactionId)
            Transaction.cancel Transaction.cancel_transactionId).update
              (fun s ↦ s.transactionId ∈ l.map Transaction.transactionId) Transaction.cancel
              Transaction.cancel_transactionId = _ :=
        Table.update_update (fun _ ↦ rfl) (fun _ ↦ rfl)
      simp only [List.map_cons, List.mem_cons, Bool.decide_or]
      exact congrArg (fun x ↦ ({ db.toTables with transactions := x } : Tables)) hunion
    · intro s hs
      rw [hupdate, Table.mem_update]
      refine ⟨s, hstored s (List.mem_cons_of_mem _ hs), ?_⟩
      have hne : s.transactionId ≠ t.transactionId := by
        intro heq
        exact hnodup.1 (heq ▸ List.mem_map_of_mem hs)
      simp [hne]

/-- The transactions of an order are new or cancelled when the check passes, and are all
cancelled afterwards. -/
theorem checkExistingTransactions_ok {orderId : UUID} {u : PUnit} {db db' : Database}
    (h : checkExistingTransactions orderId db = .ok (u, db')) :
    (∀ t ∈ db.transactions, t.orderId = orderId → t.status = .new ∨ t.status = .cancelled) ∧
      db'.toTables =
        { db.toTables with
          transactions := db.transactions.update (fun t ↦ t.orderId = orderId)
            Transaction.cancel Transaction.cancel_transactionId } := by
  simp only [checkExistingTransactions, Tx.bind_eq_ok, Mapper.find_eq_ok] at h
  obtain ⟨transactions, db₁, ⟨rfl, rfl⟩, h⟩ := h
  obtain ⟨hall, hloop⟩ := Tx.guard_eq_ok.mp h
  have hopen : ∀ t ∈ db₁.transactions, t.orderId = orderId →
      t.status = .new ∨ t.status = .cancelled := by
    have hall' := not_not.mp hall
    intro t ht horder
    have hmem : t ∈ (transactionMapper.view db₁.toTables).rows.filter
        (fun t ↦ t.orderId = orderId) := List.mem_filter.mpr ⟨ht, by simpa using horder⟩
    simpa using List.all_eq_true.mp hall' t hmem
  refine ⟨hopen, ?_⟩
  rw [saveCancelled_ok ?_ ?_ hloop]
  · refine congrArg (fun x ↦ ({ db₁.toTables with transactions := x } : Tables))
      (Table.update_congr fun t ht ↦ ?_)
    have hselected : t.transactionId ∈ (((transactionMapper.view db₁.toTables).rows.filter
        (fun t ↦ t.orderId = orderId)).filter fun t ↦ t.status ≠ .cancelled).map
          Transaction.transactionId ↔ t.orderId = orderId ∧ t.status ≠ .cancelled := by
      simp only [List.mem_map, List.mem_filter, decide_eq_true_eq]
      constructor
      · rintro ⟨s, ⟨⟨hs, horder⟩, hstatus⟩, hkey⟩
        have hst : s = t := Table.eq_of_key_eq (t := db₁.transactions) hs ht hkey
        subst hst
        exact ⟨horder, hstatus⟩
      · rintro ⟨horder, hstatus⟩
        exact ⟨t, ⟨⟨ht, horder⟩, hstatus⟩, rfl⟩
    by_cases horder : t.orderId = orderId
    · by_cases hcancelled : t.status = .cancelled
      · have hsame : t.cancel = t := by
          cases t
          simp only [Transaction.cancel] at hcancelled ⊢
          rw [hcancelled]
        rw [hsame, ite_self, ite_self]
      · rw [if_pos (decide_eq_true (hselected.mpr ⟨horder, hcancelled⟩)),
          if_pos (decide_eq_true horder)]
    · rw [if_neg (by simpa using fun h ↦ horder (hselected.mp h).1),
        if_neg (by simpa using horder)]
  · intro t ht
    exact (List.mem_filter.mp (List.mem_filter.mp ht).1).1
  · exact db₁.transactions.nodup.sublist
      ((List.filter_sublist.trans List.filter_sublist).map _)

namespace CreateTransactionAction

variable {env : Environment} {today : ℤ} {action : CreateTransactionAction}

theorem lockOrder_ok {u : PUnit} {db db' : Database} (h : action.lockOrder db = .ok (u, db')) :
    (db.orders.get? action.orderId).isSome ∧
      (∀ t ∈ db.transactions, t.orderId = action.orderId →
        t.status = .new ∨ t.status = .cancelled) ∧
      db'.toTables =
        { db.toTables with
          transactions := db.transactions.update (fun t ↦ t.orderId = action.orderId)
            Transaction.cancel Transaction.cancel_transactionId } := by
  simp only [lockOrder, getOrderByOrderIdAndUid, Tx.bind_eq_ok, Tx.mapError_eq_ok,
    Mapper.get_eq_ok] at h
  obtain ⟨order, db₁, ⟨found, db₂, ⟨hfound, rfl⟩, horder⟩, hcheck⟩ := h
  split_ifs at horder with huid
  · obtain ⟨rfl, rfl⟩ := Tx.pure_eq_ok.mp horder
    have hkey : order.orderId = action.orderId := (Table.get?_eq_some_iff.mp hfound).2
    rw [hkey] at hcheck
    have hisSome : (db₁.orders.get? action.orderId).isSome := by
      change db₁.orders.get? action.orderId = some order at hfound
      rw [hfound]
      rfl
    exact ⟨hisSome, checkExistingTransactions_ok hcheck⟩
  · exact (Tx.throw_ne_ok.mp horder).elim

theorem store_ok {transactionId : UUID} {amount : ℤ} {payment : PayResponse}
    {result : Transaction × Option AcsUrl} {db db' : Database}
    (h : action.store transactionId amount payment db = .ok (result, db')) :
    db.transactions.get? transactionId = none ∧
      result.1 = action.newTransaction transactionId amount payment ∧
      db'.toTables =
        { db.toTables with
          transactions :=
            db.transactions.insert (action.newTransaction transactionId amount payment) } := by
  simp only [store, Tx.bind_eq_ok, Mapper.create_eq_ok] at h
  obtain ⟨transaction, db₁, ⟨rfl, hfree, hdb₁⟩, h⟩ := h
  have hresult : result.1 = action.newTransaction transactionId amount payment ∧ db' = db₁ := by
    obtain ⟨paymentId, tds⟩ := payment
    rcases tds with _ | tds
    · obtain ⟨rfl, rfl⟩ := Tx.pure_eq_ok.mp h
      exact ⟨rfl, rfl⟩
    · simp only [] at h
      generalize tds.toUrl = url at h
      rcases url with _ | url
      · exact (Tx.throw_ne_ok.mp h).elim
      · obtain ⟨rfl, rfl⟩ := Tx.pure_eq_ok.mp h
        exact ⟨rfl, rfl⟩
  obtain ⟨hfst, rfl⟩ := hresult
  exact ⟨hfree, hfst, hdb₁⟩

/-- The transactions after a creation: those of the order are cancelled, one new is added. -/
def created (action : CreateTransactionAction) (transactionId : UUID) (amount : ℤ)
    (payment : PayResponse) (transactions : Table Transaction.transactionId) :
    Table Transaction.transactionId :=
  (transactions.update (fun t ↦ t.orderId = action.orderId) Transaction.cancel
    Transaction.cancel_transactionId).insert (action.newTransaction transactionId amount payment)

/-- The rows after a creation: those of the order cancelled, the others as they were, and the
new one. -/
theorem mem_created {action : CreateTransactionAction} {transactionId : UUID} {amount : ℤ}
    {payment : PayResponse} {transactions : Table Transaction.transactionId}
    (hfree : transactions.get? transactionId = none) {r : Transaction} :
    r ∈ action.created transactionId amount payment transactions ↔
      (∃ s ∈ transactions, r = if s.orderId = action.orderId then s.cancel else s) ∨
        r = action.newTransaction transactionId amount payment := by
  have hfree' : (transactions.update (fun s ↦ s.orderId = action.orderId) Transaction.cancel
      Transaction.cancel_transactionId).get? transactionId = none := by
    rw [Table.get?_update, hfree]
    rfl
  unfold CreateTransactionAction.created
  rw [Table.mem_insert (r := action.newTransaction transactionId amount payment) hfree',
    Table.mem_update]
  simp only [decide_eq_true_eq]

theorem commit_ok {transactionId : UUID} {amount : ℤ} {payment : PayResponse}
    {result : Transaction × Option AcsUrl} {db db' : Database}
    (h : action.commit transactionId amount payment db = .ok (result, db')) :
    (db.orders.get? action.orderId).isSome ∧ db.transactions.get? transactionId = none ∧
      (∀ t ∈ db.transactions, t.orderId = action.orderId →
        t.status = .new ∨ t.status = .cancelled) ∧
      db'.toTables =
        { db.toTables with
          transactions := action.created transactionId amount payment db.transactions } := by
  rw [commit, Tx.bind_eq_ok] at h
  obtain ⟨u, db₁, hlock, hstore⟩ := h
  obtain ⟨horder, hopen, hdb₁⟩ := lockOrder_ok hlock
  obtain ⟨hfree, -, hdb'⟩ := store_ok hstore
  have htransactions : db₁.transactions = db.transactions.update
      (fun t ↦ t.orderId = action.orderId) Transaction.cancel
      Transaction.cancel_transactionId := by
    rw [hdb₁]
  rw [htransactions, Table.get?_update, Option.map_eq_none_iff] at hfree
  refine ⟨horder, hfree, hopen, ?_⟩
  rw [hdb', htransactions, hdb₁]
  rfl

theorem findBillsByOrderId_ok {orderId : UUID} {bills : List Bill} {db db' : Database}
    (h : findBillsByOrderId orderId db = .ok (bills, db')) : db' = db ∧
      bills = (db.billOrders.rows.filter fun r ↦ r.orderId = orderId).filterMap
        fun r ↦ db.bills.get? r.billId := by
  rw [findBillsByOrderId, Tx.bind_eq_ok] at h
  obtain ⟨rows, db₁, hrows, h⟩ := h
  obtain ⟨rfl, rfl⟩ := Mapper.find_eq_ok.mp hrows
  rw [Tx.get_bind, Tx.pure_eq_ok] at h
  exact ⟨h.2, h.1⟩

/-- The request of a creation asks for exactly the bills of a nonempty order, under the new
transaction's identifier. -/
theorem prepare_ok {transactionId : UUID} {request : PayRequest} {db db' : Database}
    (h : action.prepare env today transactionId db = .ok (request, db')) :
    (∃ u, action.lockOrder db = .ok (u, db')) ∧
      request.orderId = env.uuidText transactionId ∧
      (∃ r ∈ db.billOrders, r.orderId = action.orderId) ∧
      ∀ r ∈ db.billOrders, r.orderId = action.orderId → ∀ b ∈ db.bills, b.billId = r.billId →
        b.supplierBillId ∈ request.paymentParams.supplierBillId := by
  simp only [prepare, Tx.bind_eq_ok] at h
  obtain ⟨u, db₁, hlock, bills, db₂, hfind, depType, db₃, hdep, amount, db₄, hamount, hpure⟩ := h
  obtain ⟨rfl, hbills⟩ := findBillsByOrderId_ok hfind
  obtain ⟨-, -, hdb₁⟩ := lockOrder_ok hlock
  have hrows : db₂.billOrders = db.billOrders := by rw [hdb₁]
  have hstored : db₂.bills = db.bills := by rw [hdb₁]
  rw [hrows, hstored] at hbills
  have hdepartment : db₃ = db₂ ∧ bills ≠ [] := by
    unfold inferDepType at hdep
    generalize hset : (bills.map Bill.depType).dedup = depTypes at hdep
    rcases depTypes with _ | ⟨d, _ | ⟨e, rest⟩⟩
    · exact (Tx.throw_ne_ok.mp hdep).elim
    · refine ⟨(Tx.pure_eq_ok.mp hdep).2, ?_⟩
      rintro rfl
      simp at hset
    · exact (Tx.throw_ne_ok.mp hdep).elim
  obtain ⟨rfl, hne⟩ := hdepartment
  have hdb₄ : db₄ = db₃ := by
    unfold getAmount at hamount
    generalize bills.mapM (Bill.total env today) = amounts at hamount
    rcases amounts with _ | amounts
    · exact (Tx.throw_ne_ok.mp hamount).elim
    · exact (Tx.pure_eq_ok.mp hamount).2
  obtain ⟨rfl, rfl⟩ := Tx.pure_eq_ok.mp hpure
  subst hdb₄
  refine ⟨⟨u, hlock⟩, rfl, ?_, ?_⟩
  · obtain ⟨b, hb⟩ := List.exists_mem_of_ne_nil bills hne
    rw [hbills] at hb
    obtain ⟨r, hr, -⟩ := List.mem_filterMap.mp hb
    obtain ⟨hmem, horder⟩ := List.mem_filter.mp hr
    exact ⟨r, hmem, by simpa using horder⟩
  · intro r hr horder b hb hkey
    refine List.mem_map_of_mem ?_
    rw [hbills]
    refine List.mem_filterMap.mpr ⟨r, List.mem_filter.mpr ⟨hr, by simpa using horder⟩, ?_⟩
    exact Table.get?_eq_some_iff.mpr ⟨hb, hkey⟩

/-- A run of `handle` that nothing interrupts builds its request from the state it starts in
and leaves what `commit` leaves. -/
theorem handle_eq_commit {transactionId : UUID} {request : PayRequest} {payment : PayResponse}
    {pay : PayRequest → Except (Option KaznaAPIErrorCode) PayResponse} {db db' : Database}
    (hprepare : action.prepare env today transactionId db = .ok (request, db'))
    (hpay : pay request = .ok payment) :
    action.handle env today transactionId pay db =
      action.commit transactionId request.amount payment db := by
  obtain ⟨⟨u, hlock⟩, -⟩ := prepare_ok hprepare
  have hhandle : action.handle env today transactionId pay db =
      action.store transactionId request.amount payment db' := by
    simp only [handle, bind, StateT.bind, Except.bind, hprepare, hpay]
  have hcommit : action.commit transactionId request.amount payment db =
      action.store transactionId request.amount payment db' := by
    simp only [commit, bind, StateT.bind, Except.bind, hlock]
  rw [hhandle, hcommit]

end CreateTransactionAction

/-! ### The status of a transaction -/

/-- `UpdateTransactionStatusAction.transitions`: trigger, source and destination. -/
def transitions : List (PaymentStatusCode × TransactionStatus × TransactionStatus) :=
  [(.created, .new, .new), (.auth, .new, .paid), (.auth, .paid, .paid),
    (.cancel, .new, .cancelled), (.cancel, .cancelled, .cancelled),
    (.refunded, .paid, .refunded), (.refunded, .refunded, .refunded)]

/-- `machine.trigger`; `none` is the `MachineError` of a trigger that the state does not have. -/
def trigger (code : PaymentStatusCode) (status : TransactionStatus) : Option TransactionStatus :=
  (transitions.find? fun t ↦ t.1 = code ∧ t.2.1 = status).map fun t ↦ t.2.2

/-- The moves of the machine that change the status. -/
theorem trigger_eq_some {code : PaymentStatusCode} {status status' : TransactionStatus}
    (h : trigger code status = some status') :
    status' = status ∨ (code = .auth ∧ status = .new ∧ status' = .paid) ∨
      (code = .cancel ∧ status = .new ∧ status' = .cancelled) ∨
      (code = .refunded ∧ status = .paid ∧ status' = .refunded) := by
  revert h
  cases code <;> cases status <;> cases status' <;> decide

def Bill.pay (bill : Bill) : Bill := { bill with status := .paid }

theorem Bill.pay_billId (bill : Bill) : bill.pay.billId = bill.billId := rfl

def Order.pay (order : Order) : Order := { order with status := .paid }

theorem Order.pay_orderId (order : Order) : order.pay.orderId = order.orderId := rfl

/-- The branch of `UpdateTransactionStatusAction.handle` for a payment that succeeded. -/
def markPaid (orderId : UUID) : Action PUnit := do
  let order ← orderMapper.get orderId
  let billOrders ← billOrderMapper.find fun r ↦ r.orderId = order.orderId
  if billOrders = [] then throw .billOrderNotFound
  forM billOrders fun r ↦ do
    let bill ← billMapper.get r.billId
    let _ ← billMapper.save bill.pay
  let _ ← orderMapper.save order.pay

structure UpdateTransactionStatusAction where
  transactionId : String
  status : PaymentStatusCode
  deriving DecidableEq, Repr

/-- The statements of `handle` on the transaction it has found. -/
def changeStatus (code : PaymentStatusCode) (transaction : Transaction) : Action Transaction :=
  match trigger code transaction.status with
  | none => throw (.machineError code transaction.status)
  | some status =>
    if status = transaction.status then pure transaction
    else do
      if status = .paid then markPaid transaction.orderId
      transactionMapper.save { transaction with status }

/-- `UpdateTransactionStatusAction.handle`; `none` when there is no such transaction. -/
def UpdateTransactionStatusAction.handle (env : Environment)
    (action : UpdateTransactionStatusAction) : Action (Option Transaction) :=
  match env.uuidInput action.transactionId with
  | none => throw (.invalidUuidText action.transactionId)
  | some transactionId => do
    let found ← Tx.orElseOn (fun e ↦ e = .doesNotExist .transaction)
      (some <$> transactionMapper.get transactionId) (pure none)
    match found with
    | none => return none
    | some transaction => some <$> changeStatus action.status transaction

/-! ### Effects of a change of status -/

/-- The tables after the bills of an order and the order itself have been paid. -/
def Tables.paid (t : Tables) (orderId : UUID) : Tables :=
  { t with
    bills := t.bills.update (fun b ↦ (t.billOrders.get? (b.billId, orderId)).isSome) Bill.pay
      Bill.pay_billId
    orders := t.orders.update (fun o ↦ o.orderId = orderId) Order.pay Order.pay_orderId }

theorem Tables.mem_paid_bills {t : Tables} {orderId : UUID} {b : Bill} :
    b ∈ (t.paid orderId).bills ↔ ∃ c ∈ t.bills,
      b = if (t.billOrders.get? (c.billId, orderId)).isSome then c.pay else c := by
  simp only [Tables.paid, Table.mem_update]

theorem Tables.mem_paid_orders {t : Tables} {orderId : UUID} {o : Order} :
    o ∈ (t.paid orderId).orders ↔
      ∃ p ∈ t.orders, o = if p.orderId = orderId then p.pay else p := by
  simp only [Tables.paid, Table.mem_update, decide_eq_true_eq]

theorem savePaidBills_ok {rows : List BillOrder} {u : PUnit} {db db' : Database}
    (h : (forM rows fun r ↦ do
        let bill ← billMapper.get r.billId
        let _ ← billMapper.save bill.pay : Action PUnit) db = .ok (u, db')) :
    db'.toTables =
      { db.toTables with
        bills := db.bills.update (fun b ↦ b.billId ∈ rows.map BillOrder.billId) Bill.pay
          Bill.pay_billId } := by
  induction rows generalizing db with
  | nil =>
    obtain ⟨-, rfl⟩ := Tx.pure_eq_ok.mp h
    have hsame : db'.bills.update (fun b ↦ b.billId ∈ ([] : List UUID)) Bill.pay
        Bill.pay_billId = db'.bills := by
      simp [Table.update]
    rw [List.map_nil, hsame]
  | cons r rows ih =>
    rw [List.forM_cons] at h
    simp only [Tx.bind_eq_ok, Mapper.get_eq_ok, Mapper.save_eq_ok, Tx.pure_eq_ok] at h
    obtain ⟨v, db₁, ⟨bill, db₂, ⟨hbill, rfl⟩, saved, db₃, ⟨-, -, hdb₃⟩, -, rfl⟩, hrest⟩ := h
    obtain ⟨hmem, hkey⟩ := Table.get?_eq_some_iff.mp hbill
    have hupdate : db₁.bills = db₂.bills.update (fun b ↦ b.billId = r.billId) Bill.pay
        Bill.pay_billId := by
      have hkey' : bill.billId = r.billId := hkey
      have hmem' : bill ∈ db₂.bills := hmem
      rw [← hkey', ← Table.replace_eq_update hmem', hdb₃]
      rfl
    have hothers : db₁.toTables = { db₂.toTables with bills := db₁.bills } := by
      rw [hdb₃]
      rfl
    rw [ih hrest, hothers, hupdate]
    have hunion : (db₂.bills.update (fun b ↦ b.billId = r.billId) Bill.pay Bill.pay_billId).update
        (fun b ↦ b.billId ∈ rows.map BillOrder.billId) Bill.pay Bill.pay_billId = _ :=
      Table.update_update (fun _ ↦ rfl) (fun _ ↦ rfl)
    simp only [List.map_cons, List.mem_cons, Bool.decide_or]
    exact congrArg (fun x ↦ ({ db₂.toTables with bills := x } : Tables)) hunion

theorem markPaid_ok {orderId : UUID} {u : PUnit} {db db' : Database}
    (h : markPaid orderId db = .ok (u, db')) :
    (∃ order ∈ db.orders, order.orderId = orderId) ∧
      (∃ r ∈ db.billOrders, r.orderId = orderId) ∧ db'.toTables = db.toTables.paid orderId := by
  simp only [markPaid, Tx.bind_eq_ok, Mapper.get_eq_ok, Mapper.find_eq_ok, Tx.guard_eq_ok] at h
  obtain ⟨order, db₁, ⟨horder, rfl⟩, rows, db₂, ⟨rfl, rfl⟩, hne, v, db₃, hloop, hsave⟩ := h
  simp only [Mapper.save_eq_ok, Tx.pure_eq_ok] at hsave
  obtain ⟨saved, db₄, ⟨-, -, hdb₄⟩, -, rfl⟩ := hsave
  obtain ⟨hmem, hkey⟩ := Table.get?_eq_some_iff.mp horder
  have hkey' : order.orderId = orderId := hkey
  have hdb₃ := savePaidBills_ok hloop
  refine ⟨⟨order, hmem, hkey'⟩, ?_, ?_⟩
  · obtain ⟨r, hr⟩ := List.exists_mem_of_ne_nil _ hne
    obtain ⟨hr, hr'⟩ := List.mem_filter.mp hr
    exact ⟨r, hr, (decide_eq_true_eq.mp hr').trans hkey'⟩
  · have horders : db₃.orders = db₂.orders := by rw [hdb₃]
    have hselected : ∀ b : Bill,
        b.billId ∈ ((billOrderMapper.view db₂.toTables).rows.filter
          (fun r ↦ r.orderId = order.orderId)).map BillOrder.billId ↔
        (db₂.billOrders.get? (b.billId, orderId)).isSome := by
      intro b
      rw [Table.isSome_get?_iff, List.mem_map]
      constructor
      · rintro ⟨r, hr, hid⟩
        obtain ⟨hr, hr'⟩ := List.mem_filter.mp hr
        exact ⟨r, hr, Prod.ext hid ((decide_eq_true_eq.mp hr').trans hkey')⟩
      · rintro ⟨r, hr, hid⟩
        obtain ⟨hid, hr'⟩ := Prod.mk.inj hid
        exact ⟨r, List.mem_filter.mpr ⟨hr, decide_eq_true (hr'.trans hkey'.symm)⟩, hid⟩
    have hpaidOrder : (db₂.orders.replace order.pay) =
        db₂.orders.update (fun o ↦ o.orderId = orderId) Order.pay Order.pay_orderId := by
      have hmem' : order ∈ db₂.orders := hmem
      rw [← hkey', ← Table.replace_eq_update hmem']
    rw [hdb₄]
    change ({ db₃.toTables with orders := db₃.orders.replace order.pay } : Tables) = _
    rw [horders, hpaidOrder, hdb₃, Tables.paid]
    simp only [hselected, Bool.decide_eq_true]

/-- The effects of a status code on a stored transaction: none, a cancellation or a refund of the
transaction alone, or the payment of the transaction, its order and the bills of the order. -/
inductive StatusMove (code : PaymentStatusCode) (r r' : Transaction) (t t' : Tables) : Prop
  | kept (same : r' = r) (tables : t' = t)
  | closed (row : (code = .cancel ∧ r.status = .new ∧ r' = { r with status := .cancelled }) ∨
      (code = .refunded ∧ r.status = .paid ∧ r' = { r with status := .refunded }))
      (tables : t' = { t with transactions := t.transactions.replace r' })
  | paid (auth : code = .auth) (new : r.status = .new) (row : r' = { r with status := .paid })
      (order : ∃ o ∈ t.orders, o.orderId = r.orderId)
      (bill : ∃ s ∈ t.billOrders, s.orderId = r.orderId)
      (tables : t' =
        { t.paid r.orderId with transactions := t.transactions.replace r' })

theorem changeStatus_ok {code : PaymentStatusCode} {r r' : Transaction} {db db' : Database}
    (h : changeStatus code r db = .ok (r', db')) :
    StatusMove code r r' db.toTables db'.toTables := by
  unfold changeStatus at h
  cases htrigger : trigger code r.status with
  | none =>
    rw [htrigger] at h
    exact (Tx.throw_ne_ok.mp h).elim
  | some status =>
    rw [htrigger] at h
    simp only [] at h
    split_ifs at h with hsame hpaid
    · obtain ⟨rfl, rfl⟩ := Tx.pure_eq_ok.mp h
      exact .kept rfl rfl
    · simp only [Tx.bind_eq_ok, Mapper.save_eq_ok] at h
      obtain ⟨u, db₁, hmark, hrow, -, hdb'⟩ := h
      obtain ⟨horder, hbill, hdb₁⟩ := markPaid_ok hmark
      rcases trigger_eq_some htrigger with heq | ⟨hcode, hnew, -⟩ | ⟨-, -, hc⟩ | ⟨-, -, hc⟩
      · exact absurd heq hsame
      · refine .paid hcode hnew (by rw [hrow, hpaid]) horder hbill ?_
        have htransactions : db₁.transactions = db.transactions := by
          rw [hdb₁]
          rfl
        rw [hdb', hrow]
        change ({ db₁.toTables with transactions := db₁.transactions.replace _ } : Tables) = _
        rw [htransactions, hdb₁]
      · rw [hpaid] at hc
        cases hc
      · rw [hpaid] at hc
        cases hc
    · obtain ⟨hrow, -, hdb'⟩ := Mapper.save_eq_ok.mp h
      refine .closed ?_ (by rw [hdb', hrow]; rfl)
      rcases trigger_eq_some htrigger with heq | ⟨-, -, hc⟩ | ⟨hcode, hnew, hc⟩ | ⟨hcode, hnew, hc⟩
      · exact absurd heq hsame
      · exact absurd hc hpaid
      · exact Or.inl ⟨hcode, hnew, by rw [hrow, hc]⟩
      · exact Or.inr ⟨hcode, hnew, by rw [hrow, hc]⟩

/-- What a successful `UpdateTransactionStatusAction` leaves. -/
theorem updateTransactionStatus_ok {env : Environment} {action : UpdateTransactionStatusAction}
    {result : Option Transaction} {db db' : Database}
    (h : action.handle env db = .ok (result, db')) :
    (result = none ∧ db' = db) ∨ ∃ r r', env.uuidInput action.transactionId =
        some r.transactionId ∧ r ∈ db.transactions ∧ result = some r' ∧
      StatusMove action.status r r' db.toTables db'.toTables := by
  unfold UpdateTransactionStatusAction.handle at h
  cases hid : env.uuidInput action.transactionId with
  | none =>
    rw [hid] at h
    exact (Tx.throw_ne_ok.mp h).elim
  | some transactionId =>
    rw [hid] at h
    simp only [Tx.bind_eq_ok, Tx.orElseOn_eq_ok, Tx.map_eq_ok, Mapper.get_eq_ok,
      Tx.pure_eq_ok] at h
    obtain ⟨found, db₁, ⟨r, ⟨hget, rfl⟩, rfl⟩ | ⟨e, -, -, rfl, rfl⟩, h⟩ := h
    · obtain ⟨hmem, hkey⟩ := Table.get?_eq_some_iff.mp hget
      have hkey' : r.transactionId = transactionId := hkey
      obtain ⟨r', hchange, rfl⟩ := Tx.map_eq_ok.mp h
      exact Or.inr ⟨r, r', by rw [hkey'], hmem, rfl, changeStatus_ok hchange⟩
    · obtain ⟨rfl, rfl⟩ := Tx.pure_eq_ok.mp h
      exact Or.inl ⟨rfl, rfl⟩

/-! ### Asking Kazna for the status -/

/-- `GetTransactionAction.handle`; `paymentInfo` is `clients.kazna.payment_info`. -/
def getTransaction (env : Environment)
    (paymentInfo : String → Except (Option KaznaAPIErrorCode) PaymentInfoResponse)
    (transactionId : String) : Action Transaction :=
  match env.uuidInput transactionId with
  | none => throw (.invalidUuidText transactionId)
  | some id => do
    let transaction ← Tx.mapError
      (fun e ↦ if e = .doesNotExist .transaction then .transactionNotFound else e)
      (transactionMapper.get id)
    if transaction.status ≠ .new then return transaction
    else
      match paymentInfo transaction.externalPaymentId with
      | .error _ => throw .coreFail
      | .ok info =>
        if info.status.code = .created then return transaction
        else
          let updated ← UpdateTransactionStatusAction.handle env ⟨transactionId, info.status.code⟩
          match updated with
          | none => throw .assertionFailed
          | some transaction => return transaction

structure SyncTransactionStatusAction where
  externalPaymentId : String
  attempt : ℕ := 0
  deriving DecidableEq, Repr

/-- `MAX_ATTEMPTS` -/
def SyncTransactionStatusAction.maxAttempts : ℕ := 30

/-- `SyncTransactionStatusAction.handle`; the action that it reschedules, if any. -/
def SyncTransactionStatusAction.handle (env : Environment)
    (paymentInfo : String → Except (Option KaznaAPIErrorCode) PaymentInfoResponse)
    (action : SyncTransactionStatusAction) : Action (Option SyncTransactionStatusAction) :=
  match paymentInfo action.externalPaymentId with
  | .error _ => throw .coreFail
  | .ok info =>
    if info.status.code ≠ .created then do
      let _ ← UpdateTransactionStatusAction.handle env ⟨info.orderId, info.status.code⟩
      return none
    else if action.attempt < SyncTransactionStatusAction.maxAttempts then
      return some { action with attempt := action.attempt + 1 }
    else return none

/-- A report changes nothing or applies one status code that Kazna answered to one stored
transaction. -/
theorem getTransaction_ok {env : Environment}
    {paymentInfo : String → Except (Option KaznaAPIErrorCode) PaymentInfoResponse}
    {transactionId : String} {result : Transaction} {db db' : Database}
    (h : getTransaction env paymentInfo transactionId db = .ok (result, db')) :
    db' = db ∨ ∃ r r' info, env.uuidInput transactionId = some r.transactionId ∧
      r ∈ db.transactions ∧ paymentInfo r.externalPaymentId = .ok info ∧
      StatusMove info.status.code r r' db.toTables db'.toTables := by
  unfold getTransaction at h
  cases hid : env.uuidInput transactionId with
  | none =>
    rw [hid] at h
    exact (Tx.throw_ne_ok.mp h).elim
  | some id =>
    rw [hid] at h
    simp only [Tx.bind_eq_ok, Tx.mapError_eq_ok, Mapper.get_eq_ok] at h
    obtain ⟨r, db₁, ⟨hget, rfl⟩, h⟩ := h
    obtain ⟨hmem, hkey⟩ := Table.get?_eq_some_iff.mp hget
    have hkey' : r.transactionId = id := hkey
    split_ifs at h with hstatus
    · exact Or.inl (Tx.pure_eq_ok.mp h).2
    cases hinfo : paymentInfo r.externalPaymentId with
    | error e =>
      rw [hinfo] at h
      exact (Tx.throw_ne_ok.mp h).elim
    | ok info =>
      rw [hinfo] at h
      simp only [] at h
      split_ifs at h with hcreated
      · exact Or.inl (Tx.pure_eq_ok.mp h).2
      obtain ⟨updated, db₂, hupdate, h⟩ := Tx.bind_eq_ok.mp h
      have hdb' : db' = db₂ := by
        rcases updated with _ | updated
        · exact (Tx.throw_ne_ok.mp h).elim
        · exact (Tx.pure_eq_ok.mp h).2
      subst hdb'
      rcases updateTransactionStatus_ok hupdate with ⟨-, rfl⟩ | ⟨s, s', hs, hmems, -, hmove⟩
      · exact Or.inl rfl
      · have hsid : s.transactionId = r.transactionId := by
          rw [hid, Option.some.injEq] at hs
          rw [hkey', hs]
        have hsr : s = r := Table.eq_of_key_eq hmems hmem hsid
        subst hsr
        exact Or.inr ⟨s, s', info, by rw [hkey'], hmem, hinfo, hmove⟩

theorem syncTransactionStatus_ok {env : Environment}
    {paymentInfo : String → Except (Option KaznaAPIErrorCode) PaymentInfoResponse}
    {action : SyncTransactionStatusAction} {result : Option SyncTransactionStatusAction}
    {db db' : Database} (h : action.handle env paymentInfo db = .ok (result, db')) :
    db' = db ∨ ∃ r r' info, r ∈ db.transactions ∧
      paymentInfo action.externalPaymentId = .ok info ∧
      env.uuidInput info.orderId = some r.transactionId ∧
      StatusMove info.status.code r r' db.toTables db'.toTables := by
  unfold SyncTransactionStatusAction.handle at h
  cases hinfo : paymentInfo action.externalPaymentId with
  | error e =>
    rw [hinfo] at h
    exact (Tx.throw_ne_ok.mp h).elim
  | ok info =>
    rw [hinfo] at h
    simp only [] at h
    split_ifs at h with hcode hattempt
    · obtain ⟨updated, db₁, hupdate, hpure⟩ := Tx.bind_eq_ok.mp h
      obtain ⟨-, rfl⟩ := Tx.pure_eq_ok.mp hpure
      rcases updateTransactionStatus_ok hupdate with ⟨-, rfl⟩ | ⟨r, r', hid, hmem, -, hmove⟩
      · exact Or.inl rfl
      · exact Or.inr ⟨r, r', info, hmem, rfl, hid, hmove⟩
    · exact Or.inl (Tx.pure_eq_ok.mp h).2
    · exact Or.inl (Tx.pure_eq_ok.mp h).2

end YandexPay.BillPayments
