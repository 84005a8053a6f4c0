import YandexPay.BillPayments.Ledger

/-!
# Orders, bills and transactions agree

`PaymentStates` relates the statuses of the three tables: a transaction that is paid or refunded
has a paid order, a paid order has such a transaction and only paid bills, and a paid bill is in a
paid order. Each kind of ledger step keeps it, with one lemma a kind; only the deletion of a
document, which cascades to bills, does not. The unique indices of the database then give the
exact counts.

The second part follows one paid bill: nothing but the cascade removes it, and nothing changes its
status.
-/

set_option autoImplicit false
set_option relaxedAutoImplicit false

namespace YandexPay.BillPayments

open YandexPay.Transition

/-- A transaction whose payment succeeded, refunded later or not. -/
def Transaction.Settled (r : Transaction) : Prop := r.status = .paid ∨ r.status = .refunded

theorem Transaction.Settled.not_cancelled {r : Transaction} (h : r.Settled) :
    r.status ≠ .cancelled := by
  rcases h with h | h <;> simp [h]

/-- The order contains the bill. -/
def Tables.Contains (t : Tables) (orderId billId : UUID) : Prop :=
  ∃ s ∈ t.billOrders, s.orderId = orderId ∧ s.billId = billId

/-- The statuses of transactions, orders and bills agree. -/
structure PaymentStates (t : Tables) : Prop where
  settled_order : ∀ r ∈ t.transactions, r.Settled →
    ∃ o ∈ t.orders, o.orderId = r.orderId ∧ o.status = .paid
  order_settled : ∀ o ∈ t.orders, o.status = .paid →
    ∃ r ∈ t.transactions, r.orderId = o.orderId ∧ r.Settled
  order_bills : ∀ o ∈ t.orders, o.status = .paid → ∀ b ∈ t.bills,
    t.Contains o.orderId b.billId → b.status = .paid
  bill_order : ∀ b ∈ t.bills, b.status = .paid →
    ∃ o ∈ t.orders, t.Contains o.orderId b.billId ∧ o.status = .paid

namespace PaymentStates

variable {t t' : Tables}

theorem empty : PaymentStates Tables.empty where
  settled_order := fun r hr ↦ absurd hr (Table.not_mem_empty r)
  order_settled := fun o ho ↦ absurd ho (Table.not_mem_empty o)
  order_bills := fun o ho ↦ absurd ho (Table.not_mem_empty o)
  bill_order := fun b hb ↦ absurd hb (Table.not_mem_empty b)

theorem of_sameLedger (h : SameLedger t t') (hs : PaymentStates t) : PaymentStates t' := by
  obtain ⟨users, documents, bills, orders, billOrders, transactions, tasks⟩ := t'
  obtain ⟨rfl, rfl, rfl, rfl⟩ := h
  exact ⟨hs.1, hs.2, hs.3, hs.4⟩

/-- A search keeps paid bills and makes no bill paid. Assumes: the bills of orders are stored. -/
theorem refresh {bills : Table Bill.billId} (hrefresh : BillsRefresh t.bills bills)
    (hstored : ∀ s ∈ t.billOrders, (t.bills.get? s.billId).isSome) (hs : PaymentStates t) :
    PaymentStates { t with bills } where
  settled_order := hs.settled_order
  order_settled := hs.order_settled
  order_bills := by
    intro o ho hpaid b hb hcontains
    obtain ⟨s, hsrow, hsorder, hbill⟩ := hcontains
    obtain ⟨old, hold, hkey⟩ := Table.isSome_get?_iff.mp (hstored s hsrow)
    have hid : old.billId = b.billId := hkey.trans hbill
    have hcontains' : t.Contains o.orderId old.billId := ⟨s, hsrow, hsorder, hkey.symm⟩
    have holdPaid := hs.order_bills o ho hpaid old hold hcontains'
    obtain ⟨c, hc, hcid, -, -, hsame⟩ := hrefresh.kept old hold
    have hcold : c = old := hsame holdPaid
    have hcb : c = b := Table.eq_of_key_eq hc hb (hcid.trans hid)
    rw [← hcb, hcold]
    exact holdPaid
  bill_order := fun b hb hpaid ↦ hs.bill_order b (hrefresh.paid b hb hpaid) hpaid

/-- A new order is not paid, and the rows that are added belong to it alone. -/
theorem place {order : Order} (hplaced : OrderPlaced order t t') (hs : PaymentStates t) :
    PaymentStates t' := by
  obtain ⟨-, -, hbills, htransactions, -⟩ := hplaced.others
  have hmem : ∀ o, o ∈ t'.orders ↔ o ∈ t.orders ∨ o = order := by
    intro o
    rw [hplaced.orders]
    exact Table.mem_insert hplaced.fresh
  have hpaid : ∀ o ∈ t'.orders, o.status = .paid → o ∈ t.orders := by
    intro o ho hstatus
    rcases (hmem o).mp ho with ho | ho
    · exact ho
    · rw [ho, hplaced.status] at hstatus
      cases hstatus
  have hcontains : ∀ orderId billId, t.Contains orderId billId → t'.Contains orderId billId :=
    fun orderId billId ⟨s, hsrow, hids⟩ ↦ ⟨s, hplaced.kept s hsrow, hids⟩
  have hcontains' : ∀ o ∈ t.orders, ∀ billId,
      t'.Contains o.orderId billId → t.Contains o.orderId billId := by
    rintro o ho billId ⟨s, hsrow, horder, hbill⟩
    rcases hplaced.added s hsrow with hsrow | ⟨hnew, -⟩
    · exact ⟨s, hsrow, horder, hbill⟩
    · exact absurd (horder.symm.trans hnew) (Table.get?_eq_none_iff.mp hplaced.fresh o ho)
  refine ⟨?_, ?_, ?_, ?_⟩
  · intro r hr hsettled
    rw [htransactions] at hr
    obtain ⟨o, ho, hid, hstatus⟩ := hs.settled_order r hr hsettled
    exact ⟨o, (hmem o).mpr (Or.inl ho), hid, hstatus⟩
  · intro o ho hstatus
    rw [htransactions]
    exact hs.order_settled o (hpaid o ho hstatus) hstatus
  · intro o ho hstatus b hb hcontained
    rw [hbills] at hb
    have ho' := hpaid o ho hstatus
    exact hs.order_bills o ho' hstatus b hb (hcontains' o ho' b.billId hcontained)
  · intro b hb hstatus
    rw [hbills] at hb
    obtain ⟨o, ho, hcontained, hostatus⟩ := hs.bill_order b hb hstatus
    exact ⟨o, (hmem o).mpr (Or.inl ho), hcontains _ _ hcontained, hostatus⟩

/-- A creation cancels only transactions that are new. -/
theorem create {action : CreateTransactionAction} {transactionId : UUID} {amount : ℤ}
    {payment : PayResponse} (hfree : t.transactions.get? transactionId = none)
    (hopen : ∀ r ∈ t.transactions, r.orderId = action.orderId →
      r.status = .new ∨ r.status = .cancelled) (hs : PaymentStates t) :
    PaymentStates
      { t with transactions := action.created transactionId amount payment t.transactions } where
  settled_order := by
    intro r hr hsettled
    rcases (CreateTransactionAction.mem_created hfree).mp hr with ⟨s, hsrow, hrs⟩ | hnew
    · by_cases horder : s.orderId = action.orderId
      · rw [if_pos horder] at hrs
        rw [hrs] at hsettled
        exact absurd rfl hsettled.not_cancelled
      · rw [if_neg horder] at hrs
        rw [hrs] at hsettled ⊢
        exact hs.settled_order s hsrow hsettled
    · rw [hnew] at hsettled
      rcases hsettled with h | h <;> cases h
  order_settled := by
    intro o ho hpaid
    obtain ⟨r, hr, horder, hsettled⟩ := hs.order_settled o ho hpaid
    refine ⟨r, (CreateTransactionAction.mem_created hfree).mpr (Or.inl ⟨r, hr, ?_⟩), horder,
      hsettled⟩
    have hother : r.orderId ≠ action.orderId := by
      intro heq
      rcases hopen r hr heq with hnew | hcancelled
      · rcases hsettled with h | h <;> rw [hnew] at h <;> cases h
      · exact hsettled.not_cancelled hcancelled
    rw [if_neg hother]
  order_bills := hs.order_bills
  bill_order := hs.bill_order

/-- A cancellation or a refund. Assumes: the row is stored. -/
theorem close {r r' : Transaction} (hr : r ∈ t.transactions)
    (hkey : r'.transactionId = r.transactionId) (horder : r'.orderId = r.orderId)
    (hsettled : r'.Settled ↔ r.Settled) (hs : PaymentStates t) :
    PaymentStates { t with transactions := t.transactions.replace r' } where
  settled_order := by
    intro s hsrow hssettled
    rcases Table.mem_replace.mp hsrow with ⟨hsrow, -⟩ | ⟨rfl, -⟩
    · exact hs.settled_order s hsrow hssettled
    · rw [horder]
      exact hs.settled_order r hr (hsettled.mp hssettled)
  order_settled := by
    intro o ho hpaid
    obtain ⟨s, hsrow, hsorder, hssettled⟩ := hs.order_settled o ho hpaid
    by_cases hsame : s.transactionId = r'.transactionId
    · have hsr : s = r := Table.eq_of_key_eq hsrow hr (hsame.trans hkey)
      rw [hsr] at hsorder hssettled
      exact ⟨r', Table.mem_replace.mpr (Or.inr ⟨rfl, r, hr, hkey.symm⟩), horder.trans hsorder,
        hsettled.mpr hssettled⟩
    · exact ⟨s, Table.mem_replace.mpr (Or.inl ⟨hsrow, hsame⟩), hsorder, hssettled⟩
  order_bills := hs.order_bills
  bill_order := hs.bill_order

/-- A payment settles its transaction, its order and the bills of the order together. -/
theorem pay {r : Transaction} (hr : r ∈ t.transactions) (hnew : r.status = .new)
    (horder : ∃ o ∈ t.orders, o.orderId = r.orderId) (hs : PaymentStates t) :
    PaymentStates { t.paid r.orderId with
      transactions := t.transactions.replace { r with status := .paid } } := by
  have hpaidOrder : ∀ p ∈ t.orders, p.status = .paid →
      ∃ o ∈ (t.paid r.orderId).orders, o.orderId = p.orderId ∧ o.status = .paid := by
    intro p hp hpaid
    refine ⟨_, Tables.mem_paid_orders.mpr ⟨p, hp, rfl⟩, ?_, ?_⟩
    · split_ifs <;> rfl
    · split_ifs
      · rfl
      · exact hpaid
  have hunsettled : ¬ r.Settled := by
    rintro (h | h) <;> rw [hnew] at h <;> cases h
  refine ⟨?_, ?_, ?_, ?_⟩
  · intro s hsrow hssettled
    rcases Table.mem_replace.mp hsrow with ⟨hsrow, -⟩ | ⟨rfl, -⟩
    · obtain ⟨o, ho, hid, hpaid⟩ := hs.settled_order s hsrow hssettled
      obtain ⟨o', ho', hid', hpaid'⟩ := hpaidOrder o ho hpaid
      exact ⟨o', ho', hid'.trans hid, hpaid'⟩
    · obtain ⟨o, ho, hid⟩ := horder
      refine ⟨o.pay, Tables.mem_paid_orders.mpr ⟨o, ho, ?_⟩, hid, rfl⟩
      rw [if_pos hid]
  · intro o ho hpaid
    obtain ⟨p, hp, hop⟩ := Tables.mem_paid_orders.mp ho
    by_cases hid : p.orderId = r.orderId
    · rw [if_pos hid] at hop
      refine ⟨{ r with status := .paid },
        Table.mem_replace.mpr (Or.inr ⟨rfl, r, hr, rfl⟩), ?_, Or.inl rfl⟩
      rw [hop]
      exact hid.symm
    · rw [if_neg hid] at hop
      rw [hop] at hpaid ⊢
      obtain ⟨s, hsrow, hsorder, hssettled⟩ := hs.order_settled p hp hpaid
      refine ⟨s, Table.mem_replace.mpr (Or.inl ⟨hsrow, fun hkey ↦ ?_⟩), hsorder, hssettled⟩
      have hsr : s = r := Table.eq_of_key_eq hsrow hr hkey
      exact hunsettled (hsr ▸ hssettled)
  · intro o ho hpaid b hb hcontains
    obtain ⟨p, hp, hop⟩ := Tables.mem_paid_orders.mp ho
    obtain ⟨c, hc, hbc⟩ := Tables.mem_paid_bills.mp hb
    by_cases hin : (t.billOrders.get? (c.billId, r.orderId)).isSome
    · rw [hbc, if_pos hin]
      rfl
    · rw [if_neg hin] at hbc
      have hid : p.orderId ≠ r.orderId := by
        intro hid
        apply hin
        obtain ⟨s, hsrow, hsorder, hsbill⟩ := hcontains
        refine Table.isSome_get?_iff.mpr ⟨s, hsrow, Prod.ext ?_ ?_⟩
        · rw [hbc] at hsbill
          exact hsbill
        · rw [hop, if_pos hid] at hsorder
          exact hsorder.trans hid
      rw [if_neg hid] at hop
      rw [hop] at hpaid hcontains
      rw [hbc] at hcontains ⊢
      exact hs.order_bills p hp hpaid c hc hcontains
  · intro b hb hpaid
    obtain ⟨c, hc, hbc⟩ := Tables.mem_paid_bills.mp hb
    by_cases hin : (t.billOrders.get? (c.billId, r.orderId)).isSome
    · obtain ⟨s, hsrow, hkey⟩ := Table.isSome_get?_iff.mp hin
      obtain ⟨hsbill, hsorder⟩ := Prod.mk.inj hkey
      obtain ⟨o, ho, hid⟩ := horder
      refine ⟨o.pay, Tables.mem_paid_orders.mpr ⟨o, ho, by rw [if_pos hid]⟩,
        ⟨s, hsrow, ?_, ?_⟩, rfl⟩
      · exact hsorder.trans hid.symm
      · rw [hbc, if_pos hin]
        exact hsbill
    · rw [if_neg hin] at hbc
      rw [hbc] at hpaid ⊢
      obtain ⟨p, hp, hcontains, hppaid⟩ := hs.bill_order c hc hpaid
      obtain ⟨o, ho, hid, hopaid⟩ := hpaidOrder p hp hppaid
      refine ⟨o, ho, ?_, hopaid⟩
      rw [hid]
      exact hcontains

/-- Every effect of a status code keeps the agreement. -/
theorem move {code : PaymentStatusCode} {r r' : Transaction} (hr : r ∈ t.transactions)
    (hmove : StatusMove code r r' t t') (hs : PaymentStates t) : PaymentStates t' := by
  cases hmove with
  | kept _ htables => rw [htables]; exact hs
  | closed hrow htables =>
    rw [htables]
    rcases hrow with ⟨-, hnew, rfl⟩ | ⟨-, hpaid, rfl⟩
    · refine close hr rfl rfl ⟨fun h ↦ ?_, fun h ↦ ?_⟩ hs
      · exact absurd rfl h.not_cancelled
      · rcases h with h | h <;> rw [hnew] at h <;> cases h
    · exact close hr rfl rfl ⟨fun _ ↦ Or.inl hpaid, fun _ ↦ Or.inr rfl⟩ hs
  | paid _ hnew hrow horder _ htables =>
    rw [htables, hrow]
    exact pay hr hnew horder hs

/-- Every event that deletes no document keeps the agreement. -/
theorem step {env : Environment} {e : Event} {w w' : World} (h : LedgerStep env e w w')
    (hkeeps : KeepsDocuments w e) (hs : PaymentStates w.db.toTables) :
    PaymentStates w'.db.toTables := by
  cases h with
  | keep hledger => exact of_sameLedger hledger hs
  | refresh hrefresh hledger =>
    exact of_sameLedger hledger (hs.refresh hrefresh w.db.references.billOrders_billId)
  | place order hplaced => exact hs.place hplaced
  | pay c today _ request after _ _ hdb => rw [hdb]; exact hs
  | create c _ result hcommit =>
    obtain ⟨-, hfree, hopen, hdb⟩ := CreateTransactionAction.commit_ok hcommit
    rw [hdb]
    exact hs.create hfree hopen
  | abandon hdb => rw [hdb]; exact hs
  | report r r' code hstored _ hmove => exact hs.move hstored hmove
  | cascade action hevent =>
    subst hevent
    exact hkeeps.elim
  | kaznaMoves hdb => rw [hdb]; exact hs

end PaymentStates

/-- The agreement holds in every state of a run that deletes no document. -/
theorem paymentStates_of_reachable {env : Environment} {w : World}
    (h : (service env).Reachable KeepsDocuments w) : PaymentStates w.db.toTables := by
  refine System.Reachable.invariant (I := fun w ↦ PaymentStates w.db.toTables) ?_ ?_ h
  · rintro w rfl
    exact PaymentStates.empty
  · intro w e w' hs hkeeps hstep
    exact hs.step (ledgerStep_of_step hstep) hkeeps

/-! ### The payment-state invariant -/

/-- In every state of a run that deletes no document: a paid or refunded transaction belongs to a
paid order whose bills are all paid, a paid order has exactly one such transaction, a paid bill is
in a paid order, and an order has at most one transaction that is not cancelled. -/
theorem payment_states_agree (env : Environment) (w : World)
    (h : (service env).Reachable KeepsDocuments w) :
    (∀ r ∈ w.db.transactions, r.status = .paid ∨ r.status = .refunded →
      ∃ o ∈ w.db.orders, o.orderId = r.orderId ∧ o.status = .paid ∧
        ∀ s ∈ w.db.billOrders, s.orderId = o.orderId →
          ∃ b ∈ w.db.bills, b.billId = s.billId ∧ b.status = .paid) ∧
    (∀ o ∈ w.db.orders, o.status = .paid →
      ∃! r, r ∈ w.db.transactions ∧ r.orderId = o.orderId ∧
        (r.status = .paid ∨ r.status = .refunded)) ∧
    (∀ b ∈ w.db.bills, b.status = .paid →
      ∃ s ∈ w.db.billOrders, s.billId = b.billId ∧
        ∃ o ∈ w.db.orders, o.orderId = s.orderId ∧ o.status = .paid) ∧
    (∀ r ∈ w.db.transactions, ∀ s ∈ w.db.transactions, r.orderId = s.orderId →
      r.status ≠ .cancelled → s.status ≠ .cancelled → r = s) := by
  have hstates := paymentStates_of_reachable h
  have hunique : ∀ r ∈ w.db.transactions, ∀ s ∈ w.db.transactions, r.orderId = s.orderId →
      r.status ≠ .cancelled → s.status ≠ .cancelled → r = s := by
    intro r hr s hs horder hropen hsopen
    have hkey := w.db.unique.transactions_orderId_noncancelled r hr s hs horder hropen hsopen
    exact Table.eq_of_key_eq hr hs hkey
  refine ⟨?_, ?_, ?_, hunique⟩
  · intro r hr hsettled
    obtain ⟨o, ho, horder, hpaid⟩ := hstates.settled_order r hr hsettled
    refine ⟨o, ho, horder, hpaid, fun s hs hsorder ↦ ?_⟩
    obtain ⟨b, hb, hkey⟩ :=
      Table.isSome_get?_iff.mp (w.db.references.billOrders_billId s hs)
    exact ⟨b, hb, hkey, hstates.order_bills o ho hpaid b hb ⟨s, hs, hsorder, hkey.symm⟩⟩
  · intro o ho hpaid
    obtain ⟨r, hr, horder, hsettled⟩ := hstates.order_settled o ho hpaid
    refine ⟨r, ⟨hr, horder, hsettled⟩, ?_⟩
    rintro s ⟨hs, hsorder, hssettled⟩
    exact hunique s hs r hr (hsorder.trans horder.symm)
      (Transaction.Settled.not_cancelled hssettled) hsettled.not_cancelled
  · intro b hb hpaid
    obtain ⟨o, ho, ⟨s, hs, hsorder, hsbill⟩, hopaid⟩ := hstates.bill_order b hb hpaid
    exact ⟨s, hs, hsbill, o, ho, hsorder.symm, hopaid⟩

/-! ### A run that pays an order -/

/-- A charge for the driver licence below. -/
def concreteCharge : Charge where
  document := ⟨.driverLicense, ["7700"]⟩
  supplierBillId := "fine"
  department := some .gibdd
  chargeData := some
    { billDate := 0, amountToPay := some 50000, purpose := none, kbk := none, oktmo := none,
      inn := none, kpp := none, bik := none, accountNumber := none, payeeName := none,
      divId := none, amount := some 50000, payerName := none, treasureBranch := none,
      additionalData := none, paymentData := none }

def concreteCreation (orderId : UUID) : CreateTransactionAction where
  uid := 1
  orderId := orderId
  paymentMethod := .yandexPay
  payerFullName := "payer"
  paymentToken := "token"
  mpi3dsInfo := ⟨"*/*", 24, "::1", "ru", 1080, 1920, "-180", "browser", false, 600, 800⟩
  returnUrl := "https://return.invalid"

/-- A creation for an order, with the payment id that Kazna returns. -/
def createRun (orderId transactionId : UUID) (paymentId : ℤ) : List Event :=
  [.pay (concreteCreation orderId) transactionId 0 ⟨paymentId, none⟩,
    .finishCreation transactionId]

/-- Kazna authorises a payment and reports it by the webhook. -/
def authRun (transactionId : UUID) (paymentId : ℤ) : List Event :=
  [.kaznaMoves paymentId .auth,
    .webhook
      { paymentId, orderId := concreteEnv.uuidText transactionId, status := ⟨.auth, "AUTH"⟩,
        sign := some ("Yandex" ++ toString paymentId ++ "AUTH") }]

/-- A driver licence whose search finds one fine. -/
def billRun : List Event :=
  .createDocument ⟨1, .driverLicense, "7700", none⟩ ⟨1⟩ ⟨1⟩ ::
    searchRun 1 ⟨.complete, [concreteCharge]⟩ fun _ ↦ ⟨1⟩

/-- The fine is ordered and paid. -/
def paidRun : List Event :=
  billRun ++ .createOrder ⟨1, [⟨1⟩]⟩ ⟨1⟩ :: createRun ⟨1⟩ ⟨1⟩ 101 ++ authRun ⟨1⟩ 101

/-- The state at the end of a run on concrete inputs. -/
def paidWorld : World :=
  ((service concreteEnv).run KeepsDocuments .initial paidRun).get (by decide +kernel)

/-- The order of the run above is paid by exactly one transaction. -/
theorem payment_states_agree_witness : (∃ o ∈ paidWorld.db.orders, o.status = .paid) ∧
    ∀ o ∈ paidWorld.db.orders, o.status = .paid →
      ∃! r, r ∈ paidWorld.db.transactions ∧ r.orderId = o.orderId ∧
        (r.status = .paid ∨ r.status = .refunded) :=
  ⟨by decide +kernel, (payment_states_agree concreteEnv paidWorld
    (System.reachable_get rfl _)).2.1⟩

/-! ### A paid bill -/

/-- A deletion concerns no document that a paid bill refers to. -/
def KeepsPaidBills (w : World) (e : Event) : Prop :=
  match e with
  | .deleteDocument action =>
    ∀ b ∈ w.db.bills, b.documentId = action.documentId → b.status ≠ .paid
  | _ => True

instance (w : World) (e : Event) : Decidable (KeepsPaidBills w e) := by
  induction e using Event.casesOn <;> unfold KeepsPaidBills <;> infer_instance

/-- The tables hold a paid bill with this owner and supplier id. -/
def Tables.PaidBill (t : Tables) (uid : ℤ) (supplierBillId : String) : Prop :=
  ∃ b ∈ t.bills, b.uid = uid ∧ b.supplierBillId = supplierBillId ∧ b.status = .paid

/-- Every effect of a status code keeps a paid bill. -/
theorem paidBill_of_move {code : PaymentStatusCode} {r r' : Transaction} {t t' : Tables}
    {uid : ℤ} {supplierBillId : String} (hmove : StatusMove code r r' t t')
    (h : t.PaidBill uid supplierBillId) : t'.PaidBill uid supplierBillId := by
  cases hmove with
  | kept _ htables => rw [htables]; exact h
  | closed _ htables => rw [htables]; exact h
  | paid _ _ _ _ _ htables =>
    rw [htables]
    obtain ⟨b, hb, huid, hsid, hpaid⟩ := h
    refine ⟨_, Tables.mem_paid_bills.mpr ⟨b, hb, rfl⟩, ?_, ?_, ?_⟩ <;> split_ifs
    · exact huid
    · exact huid
    · exact hsid
    · exact hsid
    · rfl
    · exact hpaid

/-- Every event that deletes no document of a paid bill keeps a paid bill. -/
theorem paidBill_step {env : Environment} {e : Event} {w w' : World} {uid : ℤ}
    {supplierBillId : String} (hstep : LedgerStep env e w w') (hkeeps : KeepsPaidBills w e)
    (h : w.db.toTables.PaidBill uid supplierBillId) :
    w'.db.toTables.PaidBill uid supplierBillId := by
  obtain ⟨b, hb, huid, hsid, hpaid⟩ := h
  cases hstep with
  | keep hledger =>
    have hbills : w'.db.bills = w.db.bills := hledger.bills
    exact ⟨b, hbills ▸ hb, huid, hsid, hpaid⟩
  | refresh hrefresh =>
    obtain ⟨b', hb', -, -, -, hsame⟩ := hrefresh.kept b hb
    have hbb' : b' = b := hsame hpaid
    rw [hbb'] at hb'
    exact ⟨b, hb', huid, hsid, hpaid⟩
  | place order hplaced =>
    have hbills : w'.db.bills = w.db.bills := hplaced.others.2.2.1
    exact ⟨b, hbills ▸ hb, huid, hsid, hpaid⟩
  | pay _ _ _ _ _ _ _ hdb => rw [hdb]; exact ⟨b, hb, huid, hsid, hpaid⟩
  | create c _ result hcommit =>
    obtain ⟨-, -, -, hdb⟩ := CreateTransactionAction.commit_ok hcommit
    have hbills : w'.db.bills = w.db.bills := by rw [hdb]
    exact ⟨b, hbills ▸ hb, huid, hsid, hpaid⟩
  | abandon hdb => rw [hdb]; exact ⟨b, hb, huid, hsid, hpaid⟩
  | report r r' code _ _ hmove => exact paidBill_of_move hmove ⟨b, hb, huid, hsid, hpaid⟩
  | cascade action hevent hledger =>
    subst hevent
    have hother : b.documentId ≠ action.documentId := fun heq ↦ hkeeps b hb heq hpaid
    have hbills : w'.db.bills = w.db.bills.keep fun b ↦ b.documentId ≠ action.documentId :=
      hledger.bills
    refine ⟨b, ?_, huid, hsid, hpaid⟩
    rw [hbills]
    exact Table.mem_keep.mpr ⟨hb, decide_eq_true hother⟩
  | kaznaMoves hdb => rw [hdb]; exact ⟨b, hb, huid, hsid, hpaid⟩

/-- Assumes: a run in which no step deletes a document that a paid bill refers to. Once a bill is
stored as paid, no later state stores a bill with its supplier id for its user that is not paid. -/
theorem paid_bill_is_terminal (env : Environment) (w w' : World)
    (hrun : (service env).Leads KeepsPaidBills w w') :
    ∀ b ∈ w.db.bills, b.status = .paid → ∀ c ∈ w'.db.bills, c.uid = b.uid →
      c.supplierBillId = b.supplierBillId → c.status = .paid := by
  intro b hb hpaid c hc huid hsid
  have hkept : w'.db.toTables.PaidBill b.uid b.supplierBillId := by
    refine hrun.preserves (I := fun w ↦ w.db.toTables.PaidBill b.uid b.supplierBillId) ?_
      ⟨b, hb, rfl, rfl, hpaid⟩
    intro s e t hs he hstep
    exact paidBill_step (ledgerStep_of_step hstep) he hs
  obtain ⟨d, hd, hduid, hdsid, hdpaid⟩ := hkept
  have hkey := w'.db.unique.bills_uid_supplierBillId c hc d hd (huid.trans hduid.symm)
    (hsid.trans hdsid.symm)
  have hcd : c = d := Table.eq_of_key_eq hc hd hkey
  rw [hcd]
  exact hdpaid

/-- The document of the paid fine is deleted, entered again and searched again. -/
def recreationRun : List Event :=
  .deleteDocument ⟨1, ⟨1⟩⟩ :: .createDocument ⟨1, .driverLicense, "7700", none⟩ ⟨2⟩ ⟨2⟩ ::
    searchRun 3 ⟨.complete, [concreteCharge]⟩ fun _ ↦ ⟨2⟩

/-- A paid fine is stored as new after the cascade has removed its record. -/
theorem paid_bill_recreated :
    (∃ b ∈ paidWorld.db.bills, b.uid = 1 ∧ b.supplierBillId = "fine" ∧ b.status = .paid) ∧
      ((service concreteEnv).run (fun _ _ ↦ True) paidWorld recreationRun).map
        (fun w ↦ w.db.bills.rows.map fun b ↦ (b.uid, b.supplierBillId, b.status)) =
          some [(1, "fine", .new)] := by
  constructor <;> decide +kernel

/-- Another document is entered and deleted, and the paid fine is found again. -/
def researchedWorld : World :=
  ((service concreteEnv).run KeepsPaidBills paidWorld
    (.createDocument ⟨1, .driverLicense, "7701", none⟩ ⟨2⟩ ⟨2⟩ :: .deleteDocument ⟨1, ⟨2⟩⟩ ::
      searchRun 3 ⟨.complete, [concreteCharge]⟩ fun _ ↦ ⟨2⟩)).get (by decide +kernel)

/-- The fine stays paid when another document is deleted. -/
theorem paid_bill_is_terminal_witness :
    (∃ b ∈ paidWorld.db.bills, b.status = .paid) ∧
      ∀ b ∈ paidWorld.db.bills, b.status = .paid → ∀ c ∈ researchedWorld.db.bills,
        c.uid = b.uid → c.supplierBillId = b.supplierBillId → c.status = .paid :=
  ⟨by decide +kernel,
    paid_bill_is_terminal concreteEnv paidWorld researchedWorld (System.leads_get _)⟩

end YandexPay.BillPayments
