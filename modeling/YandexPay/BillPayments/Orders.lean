import YandexPay.BillPayments.Search

/-!
# Orders and bill notifications

`core/actions/order/create.py` and `core/actions/bill/create.py`. An order is created together
with its list of bills, which never grows afterwards: `OrderPlaced` says so of one action. A bill
notification adds a new bill for a known subscription and a known document, so it refreshes the
bills in the sense of `BillsRefresh`.
-/

set_option autoImplicit false
set_option relaxedAutoImplicit false

namespace YandexPay.BillPayments

/-! ### Orders -/

structure CreateOrderAction where
  uid : ℤ
  billIds : List UUID
  deriving DecidableEq, Repr

/-- The body of the loop of `CreateOrderAction.handle`. -/
def addBillToOrder (order : Order) (billId : UUID) : Action PUnit := do
  let bill ← Tx.mapError (fun e ↦ if e = .doesNotExist .bill then .billNotFound billId else e)
    (billMapper.get billId)
  if bill.uid ≠ order.uid then throw (.billNotFound billId)
  let _ ← billOrderMapper.create ⟨bill.billId, order.orderId⟩

/-- `CreateOrderAction.handle` -/
def CreateOrderAction.handle (action : CreateOrderAction) (orderId : UUID) : Action Order := do
  let order ← orderMapper.create { uid := action.uid, status := .new, orderId }
  forM action.billIds (addBillToOrder order)
  return order

/-- Bills of one user were added to an order. -/
structure BillsAdded (order : Order) (db db' : Database) : Prop where
  others : db'.toTables = { db.toTables with billOrders := db'.billOrders }
  kept : ∀ r ∈ db.billOrders, r ∈ db'.billOrders
  added : ∀ r ∈ db'.billOrders, r ∈ db.billOrders ∨
    (r.orderId = order.orderId ∧ ∃ b ∈ db.bills, b.billId = r.billId ∧ b.uid = order.uid)

instance (order : Order) : Std.Refl (BillsAdded order) where
  refl := fun _ ↦ ⟨rfl, fun _ hr ↦ hr, fun _ hr ↦ Or.inl hr⟩

instance (order : Order) : IsTrans Database (BillsAdded order) where
  trans := by
    intro s t u hst htu
    have hbills : t.bills = s.bills := by rw [hst.others]
    refine ⟨by rw [htu.others, hst.others], fun r hr ↦ htu.kept r (hst.kept r hr), ?_⟩
    intro r hr
    rcases htu.added r hr with hr | ⟨hid, b, hb, hkey, huid⟩
    · exact hst.added r hr
    · rw [hbills] at hb
      exact Or.inr ⟨hid, b, hb, hkey, huid⟩

theorem addBillToOrder_moves (order : Order) (billId : UUID) :
    Tx.Moves (BillsAdded order) (addBillToOrder order billId) := by
  intro db u db' h
  simp only [addBillToOrder, Tx.bind_eq_ok, Tx.mapError_eq_ok, Mapper.get_eq_ok] at h
  obtain ⟨bill, db₁, ⟨hbill, rfl⟩, h⟩ := h
  simp only [Tx.guard_eq_ok, Tx.bind_eq_ok, Mapper.create_eq_ok, Tx.pure_eq_ok] at h
  obtain ⟨huid, created, db₂, ⟨-, hfree, hdb₂⟩, -, rfl⟩ := h
  obtain ⟨hmem, -⟩ := Table.get?_eq_some_iff.mp hbill
  have hrows : db'.billOrders = db₁.billOrders.insert ⟨bill.billId, order.orderId⟩ := by
    rw [hdb₂]
    rfl
  refine ⟨by rw [hdb₂]; rfl, fun r hr ↦ ?_, fun r hr ↦ ?_⟩
  · rw [hrows]
    exact (Table.mem_insert hfree).mpr (Or.inl hr)
  · rw [hrows] at hr
    rcases (Table.mem_insert hfree).mp hr with hr | rfl
    · exact Or.inl hr
    · exact Or.inr ⟨rfl, bill, hmem, rfl, not_not.mp huid⟩

/-- What a successful `CreateOrderAction` leaves: a new order and rows that join it to stored
bills of its user. -/
structure OrderPlaced (order : Order) (t t' : Tables) : Prop where
  status : order.status = .new
  fresh : t.orders.get? order.orderId = none
  others : t'.users = t.users ∧ t'.documents = t.documents ∧ t'.bills = t.bills ∧
    t'.transactions = t.transactions ∧ t'.tasks = t.tasks
  orders : t'.orders = t.orders.insert order
  kept : ∀ r ∈ t.billOrders, r ∈ t'.billOrders
  added : ∀ r ∈ t'.billOrders, r ∈ t.billOrders ∨
    (r.orderId = order.orderId ∧ ∃ b ∈ t.bills, b.billId = r.billId ∧ b.uid = order.uid)

theorem createOrder_ok {action : CreateOrderAction} {orderId : UUID} {order : Order}
    {db db' : Database} (h : action.handle orderId db = .ok (order, db')) :
    order = { uid := action.uid, status := .new, orderId } ∧
      OrderPlaced order db.toTables db'.toTables := by
  simp only [CreateOrderAction.handle, Tx.bind_eq_ok, Mapper.create_eq_ok, Tx.pure_eq_ok] at h
  obtain ⟨created, db₁, ⟨rfl, hfree, hdb₁⟩, u, db₂, hloop, rfl, rfl⟩ := h
  have hadded : BillsAdded _ db₁ db' :=
    Tx.Moves.forM (fun billId _ ↦ addBillToOrder_moves _ billId) db₁ u db' hloop
  have hkept := hadded.kept
  have hnew := hadded.added
  have hothers := hadded.others
  rw [hdb₁] at hkept hnew hothers
  refine ⟨rfl, rfl, hfree, ?_, by rw [hothers]; rfl, hkept, hnew⟩
  rw [hothers]
  exact ⟨rfl, rfl, rfl, rfl, rfl⟩

/-! ### Notifications of new bills -/

structure BillNotification where
  supplierBillId : String
  subscriptionId : String
  payerDoc : SinglePayerDoc
  depType : DepartmentType
  billDate : ℤ
  purpose : String
  kbk : String
  payeeName : String
  amount : ℤ
  payerName : Option String := none
  amountToPay : Option ℤ := none
  discountSize : Option String := none
  discountDate : Option ℤ := none
  deriving DecidableEq, Repr

/-- The bill of `_create_new_bill`; an amount to pay that is missing or zero is the amount. -/
def BillNotification.toBill (n : BillNotification) (uid : ℤ) (documentId billId : UUID) : Bill :=
  { billId, uid, supplierBillId := n.supplierBillId, documentId, status := .new,
    amount := n.amount
    amountToPay := if n.amountToPay.getD 0 = 0 then n.amount else n.amountToPay.getD 0
    billDate := n.billDate, depType := some n.depType, purpose := some n.purpose,
    kbk := some n.kbk, payeeName := some n.payeeName, payerName := n.payerName,
    discountSize := n.discountSize, discountDate := n.discountDate }

/-- `_create_new_bill`, after `_get_matched_document_id`. -/
def createNewBill (n : BillNotification) (uid : ℤ) (billId : UUID) : Action PUnit := do
  let documents ← documentMapper.find fun d ↦
    d.uid = uid ∧ d.code = n.payerDoc.code ∧ d.value = n.payerDoc.value
  match documents with
  | [] => pure ()
  | document :: _ =>
    let _ ← billMapper.create (n.toBill uid document.documentId billId)

/-- `CreateBillFromNotificationAction.handle`; a user with uid zero counts as missing. -/
def createBillFromNotification (n : BillNotification) (billId : UUID) : Action PUnit := do
  let users ← userMapper.find fun u ↦ u.subscriptionId = some n.subscriptionId
  match users with
  | [] => pure ()
  | user :: _ =>
    if user.uid ≠ 0 then
      let stored ← billMapper.find fun b ↦
        b.uid = user.uid ∧ b.supplierBillId = n.supplierBillId
      if stored = [] then createNewBill n user.uid billId

/-- `CreateBillsFromManyNotificationsAction.handle` -/
def createBillsFromManyNotifications (notifications : List (BillNotification × UUID)) :
    Action PUnit :=
  forM notifications fun p ↦ createBillFromNotification p.1 p.2

instance : Std.Refl Refreshes := ⟨Refreshes.refl⟩

instance : IsTrans Database Refreshes := ⟨fun _ _ _ ↦ Refreshes.trans⟩

theorem createNewBill_moves (n : BillNotification) (uid : ℤ) (billId : UUID) :
    Tx.Moves Refreshes (createNewBill n uid billId) := by
  intro db u db' h
  simp only [createNewBill, Tx.bind_eq_ok, Mapper.find_eq_ok] at h
  obtain ⟨documents, db₁, ⟨-, rfl⟩, h⟩ := h
  cases documents with
  | nil =>
    obtain ⟨-, rfl⟩ := Tx.pure_eq_ok.mp h
    exact Refreshes.refl _
  | cons document _ =>
    simp only [Tx.bind_eq_ok, Mapper.create_eq_ok, Tx.pure_eq_ok] at h
    obtain ⟨created, db₂, ⟨-, hfree, hdb₂⟩, -, rfl⟩ := h
    refine ⟨?_, by rw [hdb₂]; rfl⟩
    rw [hdb₂]
    exact BillsRefresh.insert hfree (by simp [BillNotification.toBill])

theorem createBillFromNotification_moves (n : BillNotification) (billId : UUID) :
    Tx.Moves Refreshes (createBillFromNotification n billId) := by
  intro db u db' h
  simp only [createBillFromNotification, Tx.bind_eq_ok, Mapper.find_eq_ok] at h
  obtain ⟨users, db₁, ⟨-, rfl⟩, h⟩ := h
  cases users with
  | nil =>
    obtain ⟨-, rfl⟩ := Tx.pure_eq_ok.mp h
    exact Refreshes.refl _
  | cons user _ =>
    simp only [] at h
    split_ifs at h with huid
    · simp only [Tx.bind_eq_ok, Mapper.find_eq_ok] at h
      obtain ⟨stored, db₂, ⟨-, rfl⟩, h⟩ := h
      split_ifs at h with hstored
      · exact createNewBill_moves n user.uid billId db₂ u db' h
      · obtain ⟨-, rfl⟩ := Tx.pure_eq_ok.mp h
        exact Refreshes.refl _
    · obtain ⟨-, rfl⟩ := Tx.pure_eq_ok.mp h
      exact Refreshes.refl _

theorem createBillsFromManyNotifications_ok {notifications : List (BillNotification × UUID)}
    {u : PUnit} {db db' : Database}
    (h : createBillsFromManyNotifications notifications db = .ok (u, db')) :
    Refreshes db db' :=
  Tx.Moves.forM (fun p _ ↦ createBillFromNotification_moves p.1 p.2) db u db' h

end YandexPay.BillPayments
