import YandexPay.BillPayments.Webhook

/-!
# When the report of a payment succeeds

The writes of `UpdateTransactionStatusAction` change statuses only, so they violate no constraint
of the schema. An authorised payment is therefore recorded whenever its transaction is new and
its order has a bill.
-/

set_option autoImplicit false
set_option relaxedAutoImplicit false

namespace YandexPay.BillPayments

/-! ### Writes of statuses -/

/-- Paying a stored bill violates no constraint. -/
theorem exists_save_pay_bill {db : Database} {b : Bill} (hb : b ∈ db.bills) :
    ∃ db', billMapper.save b.pay db = .ok (b.pay, db') := by
  have hold : ∀ x ∈ db.bills.replace b.pay, ∃ y ∈ db.bills, y.billId = x.billId ∧
      y.uid = x.uid ∧ y.supplierBillId = x.supplierBillId ∧ y.documentId = x.documentId := by
    intro x hx
    rcases Table.mem_replace.mp hx with ⟨hx, -⟩ | ⟨hx, -⟩
    · exact ⟨x, hx, rfl, rfl, rfl, rfl⟩
    · rw [hx]
      exact ⟨b, hb, rfl, rfl, rfl, rfl⟩
  let t : Tables := { db.toTables with bills := db.bills.replace b.pay }
  have hunique : t.Unique := by
    refine ⟨db.unique.1, ?_, db.unique.3⟩
    intro x hx y hy huid hsid
    obtain ⟨x', hx', hxid, hxuid, hxsid, -⟩ := hold x hx
    obtain ⟨y', hy', hyid, hyuid, hysid, -⟩ := hold y hy
    rw [← hxid, ← hyid]
    exact db.unique.bills_uid_supplierBillId x' hx' y' hy'
      (hxuid.trans (huid.trans hyuid.symm)) (hxsid.trans (hsid.trans hysid.symm))
  have hreferences : t.References := by
    refine ⟨db.references.1, ?_, ?_, db.references.4, db.references.5, ?_, db.references.7⟩
    · intro x hx
      obtain ⟨y, hy, -, hyuid, -, -⟩ := hold x hx
      rw [← hyuid]
      exact db.references.bills_uid y hy
    · intro x hx
      obtain ⟨y, hy, -, -, -, hydocument⟩ := hold x hx
      rw [← hydocument]
      exact db.references.bills_documentId y hy
    · intro s hs
      rw [Table.isSome_get?_replace]
      exact db.references.billOrders_billId s hs
  exact ⟨⟨t, hunique, hreferences⟩, Mapper.save_eq_ok.mpr
    ⟨rfl, Table.isSome_get?_iff.mpr ⟨b, hb, rfl⟩, rfl⟩⟩

/-- Paying a stored order violates no constraint. -/
theorem exists_save_pay_order {db : Database} {o : Order} (ho : o ∈ db.orders) :
    ∃ db', orderMapper.save o.pay db = .ok (o.pay, db') := by
  let t : Tables := { db.toTables with orders := db.orders.replace o.pay }
  have hunique : t.Unique := ⟨db.unique.1, db.unique.2, db.unique.3⟩
  have hreferences : t.References := by
    refine ⟨db.references.1, db.references.2, db.references.3, ?_, ?_, db.references.6, ?_⟩
    · intro x hx
      rcases Table.mem_replace.mp hx with ⟨hx, -⟩ | ⟨hx, -⟩
      · exact db.references.orders_uid x hx
      · rw [hx]
        exact db.references.orders_uid o ho
    · intro s hs
      rw [Table.isSome_get?_replace]
      exact db.references.transactions_orderId s hs
    · intro s hs
      rw [Table.isSome_get?_replace]
      exact db.references.billOrders_orderId s hs
  exact ⟨⟨t, hunique, hreferences⟩, Mapper.save_eq_ok.mpr
    ⟨rfl, Table.isSome_get?_iff.mpr ⟨o, ho, rfl⟩, rfl⟩⟩

/-- A stored transaction that is not cancelled can be written with any status. -/
theorem exists_save_transaction {db : Database} {r : Transaction} (hr : r ∈ db.transactions)
    (hopen : r.status ≠ .cancelled) (status : TransactionStatus) :
    ∃ db', transactionMapper.save { r with status } db = .ok ({ r with status }, db') := by
  have hold : ∀ x ∈ db.transactions.replace { r with status }, ∃ y ∈ db.transactions,
      y.transactionId = x.transactionId ∧ y.orderId = x.orderId ∧
        (x.status ≠ .cancelled → y.status ≠ .cancelled) := by
    intro x hx
    rcases Table.mem_replace.mp hx with ⟨hx, -⟩ | ⟨hx, -⟩
    · exact ⟨x, hx, rfl, rfl, id⟩
    · rw [hx]
      exact ⟨r, hr, rfl, rfl, fun _ ↦ hopen⟩
  let t : Tables :=
    { db.toTables with transactions := db.transactions.replace { r with status } }
  have hunique : t.Unique := by
    refine ⟨db.unique.1, db.unique.2, ?_⟩
    intro x hx y hy horder hxopen hyopen
    obtain ⟨x', hx', hxid, hxorder, hxopen'⟩ := hold x hx
    obtain ⟨y', hy', hyid, hyorder, hyopen'⟩ := hold y hy
    rw [← hxid, ← hyid]
    exact db.unique.transactions_orderId_noncancelled x' hx' y' hy'
      (hxorder.trans (horder.trans hyorder.symm)) (hxopen' hxopen) (hyopen' hyopen)
  have hreferences : t.References := by
    refine ⟨db.references.1, db.references.2, db.references.3, db.references.4, ?_,
      db.references.6, db.references.7⟩
    intro x hx
    obtain ⟨y, hy, -, hyorder, -⟩ := hold x hx
    rw [← hyorder]
    exact db.references.transactions_orderId y hy
  exact ⟨⟨t, hunique, hreferences⟩, Mapper.save_eq_ok.mpr
    ⟨rfl, Table.isSome_get?_iff.mpr ⟨r, hr, rfl⟩, rfl⟩⟩

/-! ### The branch of an authorised payment -/

theorem exists_savePaidBills {rows : List BillOrder} {db : Database}
    (hstored : ∀ r ∈ rows, (db.bills.get? r.billId).isSome) :
    ∃ u db', (forM rows fun r ↦ do
      let bill ← billMapper.get r.billId
      let _ ← billMapper.save bill.pay : Action PUnit) db = .ok (u, db') := by
  induction rows generalizing db with
  | nil => exact ⟨_, db, rfl⟩
  | cons r rows ih =>
    obtain ⟨bill, hbill⟩ := Option.isSome_iff_exists.mp (hstored r List.mem_cons_self)
    obtain ⟨hmem, -⟩ := Table.get?_eq_some_iff.mp hbill
    obtain ⟨db₁, hsave⟩ := exists_save_pay_bill hmem
    obtain ⟨-, -, hdb₁⟩ := Mapper.save_eq_ok.mp hsave
    have hbills : db₁.bills = db.bills.replace bill.pay := by
      rw [hdb₁]
      rfl
    have hrest : ∀ s ∈ rows, (db₁.bills.get? s.billId).isSome := by
      intro s hs
      rw [hbills, Table.isSome_get?_replace]
      exact hstored s (List.mem_cons_of_mem _ hs)
    obtain ⟨u, db', hloop⟩ := ih hrest
    refine ⟨u, db', ?_⟩
    rw [List.forM_cons, Tx.bind_eq_ok]
    refine ⟨⟨⟩, db₁, ?_, hloop⟩
    rw [Tx.bind_eq_ok]
    refine ⟨bill, db, Mapper.get_eq_ok.mpr ⟨hbill, rfl⟩, ?_⟩
    rw [Tx.bind_eq_ok]
    exact ⟨bill.pay, db₁, hsave, rfl⟩

/-- An order with at least one bill can be paid. -/
theorem exists_markPaid {db : Database} {orderId : UUID}
    (horder : (db.orders.get? orderId).isSome) (hbill : ∃ s ∈ db.billOrders, s.orderId = orderId) :
    ∃ u db', markPaid orderId db = .ok (u, db') := by
  obtain ⟨o, ho⟩ := Option.isSome_iff_exists.mp horder
  obtain ⟨hmem, hkey⟩ := Table.get?_eq_some_iff.mp ho
  have hstored : ∀ s ∈ db.billOrders.rows.filter (fun s ↦ s.orderId = o.orderId),
      (db.bills.get? s.billId).isSome :=
    fun s hs ↦ db.references.billOrders_billId s (List.mem_filter.mp hs).1
  have hne : db.billOrders.rows.filter (fun s ↦ s.orderId = o.orderId) ≠ [] := by
    obtain ⟨s, hs, hsorder⟩ := hbill
    refine List.ne_nil_of_mem (a := s) (List.mem_filter.mpr ⟨hs, decide_eq_true ?_⟩)
    exact hsorder.trans hkey.symm
  obtain ⟨u, db₁, hloop⟩ := exists_savePaidBills hstored
  have hdb₁ := savePaidBills_ok hloop
  have hmem₁ : o ∈ db₁.orders := by
    rw [hdb₁]
    exact hmem
  obtain ⟨db₂, hsave⟩ := exists_save_pay_order hmem₁
  refine ⟨⟨⟩, db₂, ?_⟩
  rw [markPaid, Tx.bind_eq_ok]
  refine ⟨o, db, Mapper.get_eq_ok.mpr ⟨ho, rfl⟩, ?_⟩
  rw [Tx.bind_eq_ok]
  refine ⟨_, db, Mapper.find_eq_ok.mpr ⟨rfl, rfl⟩, ?_⟩
  rw [Tx.guard_eq_ok]
  refine ⟨hne, ?_⟩
  rw [Tx.bind_eq_ok]
  refine ⟨u, db₁, hloop, ?_⟩
  rw [Tx.bind_eq_ok]
  exact ⟨o.pay, db₂, hsave, rfl⟩

/-- The code of an authorised payment is recorded on a new transaction. -/
theorem exists_changeStatus_auth {db : Database} {r : Transaction} (hr : r ∈ db.transactions)
    (hnew : r.status = .new) (hbill : ∃ s ∈ db.billOrders, s.orderId = r.orderId) :
    ∃ db', changeStatus .auth r db = .ok ({ r with status := .paid }, db') := by
  obtain ⟨u, db₁, hmark⟩ := exists_markPaid (db.references.transactions_orderId r hr) hbill
  obtain ⟨-, -, hdb₁⟩ := markPaid_ok hmark
  have hmem₁ : r ∈ db₁.transactions := by
    rw [hdb₁]
    exact hr
  obtain ⟨db₂, hsave⟩ := exists_save_transaction hmem₁ (by rw [hnew]; decide) .paid
  refine ⟨db₂, ?_⟩
  have htrigger : trigger .auth r.status = some .paid := by
    rw [hnew]
    rfl
  have hmoves : TransactionStatus.paid ≠ r.status := by
    rw [hnew]
    decide
  rw [changeStatus, htrigger]
  simp only [if_neg hmoves, if_true]
  rw [Tx.bind_eq_ok]
  exact ⟨u, db₁, hmark, hsave⟩

/-- On a transaction that is already paid the code changes nothing. -/
theorem changeStatus_auth_of_paid {db : Database} {r : Transaction} (hpaid : r.status = .paid) :
    changeStatus .auth r db = .ok (r, db) := by
  have htrigger : trigger .auth r.status = some .paid := by
    rw [hpaid]
    rfl
  rw [changeStatus, htrigger]
  simp only [if_pos hpaid.symm]
  rfl

/-- On a stored transaction the action is its change of status. -/
theorem updateTransactionStatus_eq {env : Environment} {db : Database} {r : Transaction}
    {transactionId : String} (code : PaymentStatusCode) (hr : r ∈ db.transactions)
    (hinput : env.uuidInput transactionId = some r.transactionId) :
    UpdateTransactionStatusAction.handle env ⟨transactionId, code⟩ db =
      (some <$> changeStatus code r : Action (Option Transaction)) db := by
  have hget : db.transactions.get? r.transactionId = some r := Table.get?_key hr
  have hfound : Tx.orElseOn (fun e ↦ e = .doesNotExist .transaction)
      (some <$> transactionMapper.get r.transactionId) (pure none) db = .ok (some r, db) := by
    rw [Tx.orElseOn_eq_ok]
    exact Or.inl (Tx.map_eq_ok.mpr ⟨r, Mapper.get_eq_ok.mpr ⟨hget, rfl⟩, rfl⟩)
  simp only [UpdateTransactionStatusAction.handle, hinput]
  exact Tx.bind_of_ok hfound

theorem updateTransactionStatus_of_changeStatus {env : Environment} {db db' : Database}
    {r r' : Transaction} {code : PaymentStatusCode} {transactionId : String}
    (hr : r ∈ db.transactions) (hinput : env.uuidInput transactionId = some r.transactionId)
    (h : changeStatus code r db = .ok (r', db')) :
    UpdateTransactionStatusAction.handle env ⟨transactionId, code⟩ db = .ok (some r', db') := by
  rw [updateTransactionStatus_eq code hr hinput]
  exact Tx.map_eq_ok.mpr ⟨r', h, rfl⟩

theorem updateTransactionStatus_of_error {env : Environment} {db : Database}
    {r : Transaction} {code : PaymentStatusCode} {transactionId : String} {e : ActionError}
    (hr : r ∈ db.transactions) (hinput : env.uuidInput transactionId = some r.transactionId)
    (h : changeStatus code r db = .error e) :
    UpdateTransactionStatusAction.handle env ⟨transactionId, code⟩ db = .error e := by
  rw [updateTransactionStatus_eq code hr hinput]
  exact Tx.map_of_error h

end YandexPay.BillPayments
