import YandexPay.BillPayments.Settlement

/-!
# What becomes of a charge

`CreateTransactionAction` asks Kazna for a payment between two groups of statements, and everything
else may happen meanwhile. This module follows a charge over whole runs. The ledger only grows:
rows stay, statuses move forward, an order gets no further bill (`ledger_grows`). The locks of a
creation in flight keep what its writes rest on, so that the creation commits whenever it is
finished (`creation_commits`), and every payment that Kazna holds is stored or in flight, unless a
process dies in between (`payments_accounted`). The amount of a stored transaction is what the bills
of its order came to when Kazna was asked (`transaction_charges_bills`).

Nothing is assumed of Kazna here: it may return any payment id and report any status.
-/

set_option autoImplicit false
set_option relaxedAutoImplicit false

namespace YandexPay.BillPayments

open YandexPay.Transition

/-! ### The ledger only grows -/

/-- The statuses that a transaction may have from now on. -/
def TransactionStatus.later : TransactionStatus → List TransactionStatus
  | .new => [.new, .paid, .cancelled, .refunded]
  | .paid => [.paid, .refunded]
  | .cancelled => [.cancelled]
  | .refunded => [.refunded]

theorem TransactionStatus.mem_later_self (status : TransactionStatus) : status ∈ status.later := by
  cases status <;> decide

theorem TransactionStatus.later_trans {s t u : TransactionStatus} (hst : t ∈ s.later)
    (htu : u ∈ t.later) : u ∈ s.later := by
  revert hst htu
  cases s <;> cases t <;> cases u <;> decide

/-- No row of a transaction or an order is lost or loses its payment, and a known order keeps its
bills or loses some of them, but gets no other. -/
structure LedgerGrows (w w' : World) : Prop where
  transactions : ∀ r ∈ w.db.transactions, ∃ status ∈ r.status.later,
    { r with status } ∈ w'.db.transactions
  orders : ∀ o ∈ w.db.orders, ∃ status, { o with status } ∈ w'.db.orders ∧
    (o.status = .paid → status = .paid)
  bills : ∀ o ∈ w.db.orders, ∀ s ∈ w'.db.billOrders, s.orderId = o.orderId →
    s ∈ w.db.billOrders ∧ ∀ b ∈ w.db.bills, ∀ b' ∈ w'.db.bills, b.billId = s.billId →
      b'.billId = s.billId → b'.uid = b.uid ∧ b'.supplierBillId = b.supplierBillId ∧
        (b.status = .paid → b'.status = .paid)

namespace LedgerGrows

variable {w w' w'' : World}

theorem refl (w : World) : LedgerGrows w w where
  transactions := fun r hr ↦ ⟨r.status, r.status.mem_later_self, hr⟩
  orders := fun o ho ↦ ⟨o.status, ho, id⟩
  bills := by
    intro o _ s hs _
    refine ⟨hs, fun b hb b' hb' hkey hkey' ↦ ?_⟩
    have hsame : b' = b := Table.eq_of_key_eq hb' hb (hkey'.trans hkey.symm)
    rw [hsame]
    exact ⟨rfl, rfl, id⟩

theorem trans (h : LedgerGrows w w') (h' : LedgerGrows w' w'') : LedgerGrows w w'' where
  transactions := by
    intro r hr
    obtain ⟨status, hstatus, hr'⟩ := h.transactions r hr
    obtain ⟨status', hstatus', hr''⟩ := h'.transactions _ hr'
    exact ⟨status', TransactionStatus.later_trans hstatus hstatus', hr''⟩
  orders := by
    intro o ho
    obtain ⟨status, ho', hpaid⟩ := h.orders o ho
    obtain ⟨status', ho'', hpaid'⟩ := h'.orders _ ho'
    exact ⟨status', ho'', fun h ↦ hpaid' (hpaid h)⟩
  bills := by
    intro o ho s hs horder
    obtain ⟨status, ho', -⟩ := h.orders o ho
    obtain ⟨hs', hlater⟩ := h'.bills _ ho' s hs horder
    obtain ⟨hs'', hearlier⟩ := h.bills o ho s hs' horder
    refine ⟨hs'', fun b hb b'' hb'' hkey hkey'' ↦ ?_⟩
    -- the row is still there in between, and so is its bill
    obtain ⟨b', hb', hkey'⟩ := Table.isSome_get?_iff.mp (w'.db.references.billOrders_billId s hs')
    obtain ⟨huid, hsid, hpaid⟩ := hearlier b hb b' hb' hkey hkey'
    obtain ⟨huid', hsid', hpaid'⟩ := hlater b' hb' b'' hb'' hkey' hkey''
    exact ⟨huid'.trans huid, hsid'.trans hsid, fun h ↦ hpaid' (hpaid h)⟩

/-- A step that leaves the rows that join bills to orders, or drops some. -/
theorem of_rows
    (htransactions : ∀ r ∈ w.db.transactions, ∃ status ∈ r.status.later,
      { r with status } ∈ w'.db.transactions)
    (horders : ∀ o ∈ w.db.orders, ∃ status, { o with status } ∈ w'.db.orders ∧
      (o.status = .paid → status = .paid))
    (hrows : ∀ s ∈ w'.db.billOrders, s ∈ w.db.billOrders)
    (hbills : ∀ b ∈ w.db.bills, ∀ b' ∈ w'.db.bills, b'.billId = b.billId → b'.uid = b.uid ∧
      b'.supplierBillId = b.supplierBillId ∧ (b.status = .paid → b'.status = .paid)) :
    LedgerGrows w w' :=
  ⟨htransactions, horders, fun _ _ s hs _ ↦ ⟨hrows s hs, fun b hb b' hb' hkey hkey' ↦
    hbills b hb b' hb' (hkey'.trans hkey.symm)⟩⟩

theorem kept_transactions (h : w'.db.transactions = w.db.transactions) :
    ∀ r ∈ w.db.transactions, ∃ status ∈ r.status.later, { r with status } ∈ w'.db.transactions :=
  fun r hr ↦ ⟨r.status, r.status.mem_later_self, by rwa [h]⟩

theorem kept_orders (h : w'.db.orders = w.db.orders) :
    ∀ o ∈ w.db.orders, ∃ status, { o with status } ∈ w'.db.orders ∧
      (o.status = .paid → status = .paid) :=
  fun o ho ↦ ⟨o.status, by rwa [h], id⟩

theorem kept_bills (h : ∀ b' ∈ w'.db.bills, b' ∈ w.db.bills) :
    ∀ b ∈ w.db.bills, ∀ b' ∈ w'.db.bills, b'.billId = b.billId → b'.uid = b.uid ∧
      b'.supplierBillId = b.supplierBillId ∧ (b.status = .paid → b'.status = .paid) := by
  intro b hb b' hb' hkey
  have hsame : b' = b := Table.eq_of_key_eq (h b' hb') hb hkey
  rw [hsame]
  exact ⟨rfl, rfl, id⟩

theorem of_db (h : w'.db = w.db) : LedgerGrows w w' :=
  of_rows (kept_transactions (by rw [h])) (kept_orders (by rw [h])) (by rw [h]; exact fun _ ↦ id)
    (kept_bills (by rw [h]; exact fun _ ↦ id))

/-- A creation cancels new transactions only. -/
theorem of_commit {c : Creation} {result : Transaction × Option AcsUrl}
    (hcommit : c.action.commit c.transactionId c.amount c.payment w.db = .ok (result, w'.db)) :
    LedgerGrows w w' := by
  obtain ⟨-, hfree, hopen, hdb⟩ := CreateTransactionAction.commit_ok hcommit
  have hrows : w'.db.transactions =
      c.action.created c.transactionId c.amount c.payment w.db.transactions := by rw [hdb]
  refine of_rows ?_ (kept_orders (by rw [hdb])) (by rw [hdb]; exact fun _ ↦ id)
    (kept_bills (by rw [hdb]; exact fun _ ↦ id))
  intro r hr
  by_cases horder : r.orderId = c.action.orderId
  · refine ⟨.cancelled, ?_, ?_⟩
    · rcases hopen r hr horder with hstatus | hstatus <;> rw [hstatus] <;> decide
    · rw [hrows, CreateTransactionAction.mem_created hfree]
      exact Or.inl ⟨r, hr, (if_pos horder).symm⟩
  · refine ⟨r.status, r.status.mem_later_self, ?_⟩
    rw [hrows, CreateTransactionAction.mem_created hfree]
    exact Or.inl ⟨r, hr, (if_neg horder).symm⟩

/-- The transactions after one of them has got a later status. -/
theorem replaced_transactions {r r' : Transaction} (hr : r ∈ w.db.transactions)
    {status : TransactionStatus} (hrow : r' = { r with status }) (hlater : status ∈ r.status.later)
    (hrows : w'.db.transactions = w.db.transactions.replace r') :
    ∀ s ∈ w.db.transactions, ∃ status ∈ s.status.later,
      { s with status } ∈ w'.db.transactions := by
  intro s hs
  rw [hrows]
  by_cases hkey : s.transactionId = r.transactionId
  · have hsr : s = r := Table.eq_of_key_eq hs hr hkey
    refine ⟨status, hsr ▸ hlater, Table.mem_replace.mpr (Or.inr ⟨?_, r, hr, ?_⟩)⟩
    · rw [hrow, hsr]
    · rw [hrow]
  · refine ⟨s.status, s.status.mem_later_self, Table.mem_replace.mpr (Or.inl ⟨hs, ?_⟩)⟩
    rw [hrow]
    exact hkey

/-- A report pays bills and orders, and moves one transaction forward. -/
theorem of_move {code : PaymentStatusCode} {r r' : Transaction} (hr : r ∈ w.db.transactions)
    (hmove : StatusMove code r r' w.db.toTables w'.db.toTables) : LedgerGrows w w' := by
  cases hmove with
  | kept _ htables =>
    exact of_rows (kept_transactions (by rw [htables])) (kept_orders (by rw [htables]))
      (by rw [htables]; exact fun _ ↦ id) (kept_bills (by rw [htables]; exact fun _ ↦ id))
  | closed hclosed htables =>
    have hrows : w'.db.transactions = w.db.transactions.replace r' := by rw [htables]
    refine of_rows ?_ (kept_orders (by rw [htables])) (by rw [htables]; exact fun _ ↦ id)
      (kept_bills (by rw [htables]; exact fun _ ↦ id))
    rcases hclosed with ⟨-, hstatus, hrow⟩ | ⟨-, hstatus, hrow⟩
    · exact replaced_transactions hr hrow (by rw [hstatus]; decide) hrows
    · exact replaced_transactions hr hrow (by rw [hstatus]; decide) hrows
  | paid _ hnew hrow _ _ htables =>
    refine of_rows (replaced_transactions hr hrow (by rw [hnew]; decide) (by rw [htables])) ?_
      (by rw [htables]; exact fun _ ↦ id) ?_
    · intro o ho
      refine ⟨if o.orderId = r.orderId then .paid else o.status, ?_, fun h ↦ by rw [h, ite_self]⟩
      rw [htables]
      refine Tables.mem_paid_orders.mpr ⟨o, ho, ?_⟩
      split_ifs <;> rfl
    · intro b hb b' hb' hkey
      rw [htables] at hb'
      obtain ⟨c, hc, hb'⟩ := Tables.mem_paid_bills.mp hb'
      have hcb : c = b := Table.eq_of_key_eq hc hb (by rw [← hkey, hb']; split_ifs <;> rfl)
      rw [hb', hcb]
      split_ifs
      · exact ⟨rfl, rfl, fun _ ↦ rfl⟩
      · exact ⟨rfl, rfl, id⟩

/-- One event. -/
theorem step {env : Environment} {e : Event} (hstep : LedgerStep env e w w') :
    LedgerGrows w w' := by
  cases hstep with
  | keep hledger =>
    exact of_rows (kept_transactions hledger.transactions) (kept_orders hledger.orders)
      (by rw [hledger.billOrders]; exact fun _ ↦ id)
      (kept_bills (by rw [hledger.bills]; exact fun _ ↦ id))
  | refresh hrefresh hledger =>
    have hrows : w'.db.billOrders = w.db.billOrders := hledger.billOrders
    refine of_rows (kept_transactions hledger.transactions) (kept_orders hledger.orders)
      (by rw [hrows]; exact fun _ ↦ id) fun b hb b' hb' hkey ↦ ?_
    obtain ⟨d, hd, hdid, hduid, hdsid, hdpaid⟩ := hrefresh.kept b hb
    have hsame : d = b' := Table.eq_of_key_eq hd hb' (hdid.trans hkey.symm)
    subst hsame
    exact ⟨hduid, hdsid, fun h ↦ by rw [hdpaid h, h]⟩
  | place order hplaced =>
    refine ⟨kept_transactions hplaced.others.2.2.2.1, ?_, ?_⟩
    · intro o ho
      refine ⟨o.status, ?_, id⟩
      rw [hplaced.orders]
      exact (Table.mem_insert hplaced.fresh).mpr (Or.inl ho)
    · intro o ho s hs horder
      have hbills : ∀ b' ∈ w'.db.bills, b' ∈ w.db.bills := by
        rw [hplaced.others.2.2.1]
        exact fun _ ↦ id
      refine ⟨?_, fun b hb b' hb' hkey hkey' ↦
        kept_bills hbills b hb b' hb' (hkey'.trans hkey.symm)⟩
      rcases hplaced.added s hs with hs | ⟨hnew, -⟩
      · exact hs
      · exact absurd (horder.symm.trans hnew) (Table.get?_eq_none_iff.mp hplaced.fresh o ho)
  | pay _ _ _ _ _ _ _ hdb => exact of_db hdb
  | create c _ result hcommit => exact of_commit hcommit
  | abandon hdb => exact of_db hdb
  | report r r' code hr _ hmove => exact of_move hr hmove
  | cascade action _ hledger =>
    refine of_rows (kept_transactions hledger.transactions) (kept_orders hledger.orders) ?_ ?_
    · rw [hledger.billOrders]
      exact fun s hs ↦ (Table.mem_keep.mp hs).1
    · refine kept_bills ?_
      rw [hledger.bills]
      exact fun b hb ↦ (Table.mem_keep.mp hb).1
  | kaznaMoves hdb => exact of_db hdb

end LedgerGrows

/-- In every run the ledger only grows. -/
theorem ledger_grows (env : Environment) (w w' : World)
    (h : (service env).Leads (fun _ _ ↦ True) w w') : LedgerGrows w w' := by
  refine h.preserves (I := LedgerGrows w) ?_ (LedgerGrows.refl w)
  intro u e v hu _ hstep
  exact hu.trans (LedgerGrows.step (ledgerStep_of_step hstep))

/-- One fine is ordered and Kazna has been asked for its payment. -/
def chargedWorld : World :=
  ((service concreteEnv).run (fun _ _ ↦ True) .initial
    (billRun ++ .createOrder ⟨1, [⟨1⟩]⟩ ⟨1⟩ :: createRun ⟨1⟩ ⟨1⟩ 101)).get (by decide +kernel)

/-- The payment is authorised afterwards. -/
def settledWorld : World :=
  ((service concreteEnv).run (fun _ _ ↦ True) chargedWorld (authRun ⟨1⟩ 101)).get
    (by decide +kernel)

theorem ledger_grows_witness :
    (chargedWorld.db.transactions.rows.map Transaction.status,
      settledWorld.db.transactions.rows.map Transaction.status) = ([.new], [.paid]) ∧
      LedgerGrows chargedWorld settledWorld :=
  ⟨by decide +kernel, ledger_grows concreteEnv chargedWorld settledWorld (System.leads_get _)⟩

/-! ### Creations in flight -/

/-- `uuid4` draws transaction ids that are not stored. -/
def DrawsIds (w : World) (e : Event) : Prop :=
  match e with
  | .pay _ transactionId _ _ => w.db.transactions.get? transactionId = none
  | _ => True

instance (w : World) (e : Event) : Decidable (DrawsIds w e) := by
  induction e using Event.casesOn <;> unfold DrawsIds <;> infer_instance

/-- What the writes of a creation rest on. -/
structure Creation.Held (c : Creation) (db : Database) : Prop where
  order : ∃ o ∈ db.orders, o.orderId = c.action.orderId ∧ o.uid = c.action.uid
  unsettled : ∀ r ∈ db.transactions, r.orderId = c.action.orderId →
    r.status = .new ∨ r.status = .cancelled
  fresh : db.transactions.get? c.transactionId = none

/-- The creations in flight have different orders and identifiers, and all find what they need. -/
structure InFlight (w : World) : Prop where
  held : ∀ c ∈ w.creations, c.Held w.db
  ids : ∀ c ∈ w.creations, ∀ d ∈ w.creations, c.transactionId = d.transactionId → c = d
  orders : ∀ c ∈ w.creations, ∀ d ∈ w.creations, c.action.orderId = d.action.orderId → c = d

theorem CreateTransactionAction.order_of_lockOrder {action : CreateTransactionAction} {u : PUnit}
    {db db' : Database} (h : action.lockOrder db = .ok (u, db')) :
    ∃ o ∈ db.orders, o.orderId = action.orderId ∧ o.uid = action.uid := by
  simp only [lockOrder, getOrderByOrderIdAndUid, Tx.bind_eq_ok, Tx.mapError_eq_ok,
    Mapper.get_eq_ok] at h
  obtain ⟨order, db₁, ⟨found, db₂, ⟨hfound, rfl⟩, horder⟩, -⟩ := h
  split_ifs at horder with huid
  · obtain ⟨hmem, hkey⟩ := Table.get?_eq_some_iff.mp hfound
    exact ⟨found, hmem, hkey, huid⟩
  · exact (Tx.throw_ne_ok.mp horder).elim

/-- A call of Kazna waits for the creation that holds its order. -/
theorem not_locked_of_pay {env : Environment} {w w' : World} {action : CreateTransactionAction}
    {transactionId : UUID} {today : ℤ} {payment : PayResponse}
    (h : w.pay env action transactionId today payment = some w') :
    ∀ c ∈ w.creations, c.action.orderId ≠ action.orderId := by
  unfold World.pay at h
  split_ifs at h with hwait
  intro c hc heq
  exact hwait (Or.inl (List.any_eq_true.mpr ⟨c, hc, decide_eq_true heq⟩))

/-- A report of a stored transaction waits for the creation that holds its order. -/
theorem not_locked_of_report {env : Environment} {w w' : World} {e : Event} {r : Transaction}
    {code : PaymentStatusCode} (h : World.step env w e = some w') (hr : r ∈ w.db.transactions)
    (hreports : e.Reports env r code) : ∀ c ∈ w.creations, c.action.orderId ≠ r.orderId := by
  have hreport : ∀ {α : Type} {transactionId : String} {action : Action α},
      env.uuidInput transactionId = some r.transactionId →
        w.report env transactionId action = some w' →
          ∀ c ∈ w.creations, c.action.orderId ≠ r.orderId := by
    intro α transactionId action hinput hreport c hc heq
    unfold World.report at hreport
    split_ifs at hreport with hlocked
    refine hlocked ?_
    have hget : w.db.transactions.get? r.transactionId = some r := Table.get?_key hr
    rw [World.lockedTransaction, hinput, Option.bind_some, hget]
    exact List.any_eq_true.mpr ⟨c, hc, decide_eq_true heq⟩
  cases e with
  | webhook request => exact hreport hreports.1 h
  | getTransaction transactionId info => exact hreport hreports.1 h
  | resumeGet transactionId reported => exact hreport hreports.1 h
  | syncStatus action info => exact hreport hreports.1 h
  | _ => exact hreports.elim

namespace InFlight

variable {env : Environment} {w w' : World}

/-- A step that keeps what the creations need, and starts none. -/
theorem of_held (h : InFlight w) (hcreations : ∀ c ∈ w'.creations, c ∈ w.creations)
    (hheld : ∀ c ∈ w'.creations, c.Held w.db → c.Held w'.db) : InFlight w' where
  held := fun c hc ↦ hheld c hc (h.held c (hcreations c hc))
  ids := fun c hc d hd ↦ h.ids c (hcreations c hc) d (hcreations d hd)
  orders := fun c hc d hd ↦ h.orders c (hcreations c hc) d (hcreations d hd)

theorem of_tables (h : InFlight w) (hcreations : ∀ c ∈ w'.creations, c ∈ w.creations)
    (horders : ∀ o ∈ w.db.orders, o ∈ w'.db.orders)
    (htransactions : w'.db.transactions = w.db.transactions) : InFlight w' := by
  refine h.of_held hcreations fun c _ hheld ↦ ⟨?_, by rw [htransactions]; exact hheld.unsettled,
    by rw [htransactions]; exact hheld.fresh⟩
  obtain ⟨o, ho, hkey⟩ := hheld.order
  exact ⟨o, horders o ho, hkey⟩

/-- The writes of one creation leave what another one needs. -/
theorem held_of_commit {c d : Creation} {result : Transaction × Option AcsUrl}
    (hcommit : c.action.commit c.transactionId c.amount c.payment w.db = .ok (result, w'.db))
    (hids : d.transactionId ≠ c.transactionId) (horders : d.action.orderId ≠ c.action.orderId)
    (hd : d.Held w.db) : d.Held w'.db := by
  obtain ⟨-, hfree, -, hdb⟩ := CreateTransactionAction.commit_ok hcommit
  have hrows : w'.db.transactions =
      c.action.created c.transactionId c.amount c.payment w.db.transactions := by rw [hdb]
  refine ⟨by rw [hdb]; exact hd.order, ?_, ?_⟩
  · intro r hr horder
    rw [hrows, CreateTransactionAction.mem_created hfree] at hr
    rcases hr with ⟨s, hs, hr⟩ | hr
    · split_ifs at hr with hsame
      · rw [hr] at horder
        exact absurd (horder.symm.trans hsame) horders
      · rw [hr] at horder ⊢
        exact hd.unsettled s hs horder
    · rw [hr] at horder
      exact absurd horder.symm horders
  · rw [hrows, Table.get?_eq_none_iff]
    intro r hr
    rw [CreateTransactionAction.mem_created hfree] at hr
    rcases hr with ⟨s, hs, hr⟩ | hr
    · have hne := Table.get?_eq_none_iff.mp hd.fresh s hs
      rw [hr]
      split_ifs <;> exact hne
    · rw [hr]
      exact hids.symm

/-- A report of a transaction whose order is not held. -/
theorem held_of_move {c : Creation} {code : PaymentStatusCode} {r r' : Transaction}
    (horder : c.action.orderId ≠ r.orderId)
    (hmove : StatusMove code r r' w.db.toTables w'.db.toTables) (hc : c.Held w.db) :
    c.Held w'.db := by
  have hreplaced : ∀ {status : TransactionStatus}, r' = { r with status } →
      w'.db.transactions = w.db.transactions.replace r' →
        (∀ s ∈ w'.db.transactions, s.orderId = c.action.orderId →
          s.status = .new ∨ s.status = .cancelled) ∧
            w'.db.transactions.get? c.transactionId = none := by
    intro status hrow hrows
    rw [hrows]
    constructor
    · intro s hs hsorder
      rcases Table.mem_replace.mp hs with ⟨hs, -⟩ | ⟨hs, -⟩
      · exact hc.unsettled s hs hsorder
      · rw [hs, hrow] at hsorder
        exact absurd hsorder.symm horder
    · have hisSome := Table.isSome_get?_replace (t := w.db.transactions) (r := r') c.transactionId
      rw [hc.fresh] at hisSome
      exact Option.not_isSome_iff_eq_none.mp (by rw [hisSome]; exact Bool.false_ne_true)
  cases hmove with
  | kept _ htables =>
    exact ⟨by rw [htables]; exact hc.order, by rw [htables]; exact hc.unsettled,
      by rw [htables]; exact hc.fresh⟩
  | closed hclosed htables =>
    obtain ⟨status, hrow⟩ : ∃ status, r' = { r with status } := by
      rcases hclosed with ⟨-, -, hrow⟩ | ⟨-, -, hrow⟩ <;> exact ⟨_, hrow⟩
    obtain ⟨hunsettled, hfresh⟩ := hreplaced hrow (by rw [htables])
    exact ⟨by rw [htables]; exact hc.order, hunsettled, hfresh⟩
  | paid _ _ hrow _ _ htables =>
    obtain ⟨hunsettled, hfresh⟩ := hreplaced hrow (by rw [htables])
    refine ⟨?_, hunsettled, hfresh⟩
    obtain ⟨o, ho, hkey, huid⟩ := hc.order
    rw [htables]
    refine ⟨_, Tables.mem_paid_orders.mpr ⟨o, ho, rfl⟩, ?_, ?_⟩
    · split_ifs <;> exact hkey
    · split_ifs <;> exact huid

/-- A creation joins those in flight. -/
theorem pay (h : InFlight w) {c : Creation} {today : ℤ} {request : PayRequest} {after : Database}
    (hprepare : c.action.prepare env today c.transactionId w.db = .ok (request, after))
    (hfree : ∀ d ∈ w.creations, d.transactionId ≠ c.transactionId)
    (hunlocked : ∀ d ∈ w.creations, d.action.orderId ≠ c.action.orderId)
    (hfresh : w.db.transactions.get? c.transactionId = none) (hdb : w'.db = w.db)
    (hcreations : w'.creations = c :: w.creations) : InFlight w' := by
  obtain ⟨⟨u, hlock⟩, -⟩ := CreateTransactionAction.prepare_ok hprepare
  obtain ⟨-, hunsettled, -⟩ := CreateTransactionAction.lockOrder_ok hlock
  have hc : c.Held w.db :=
    ⟨CreateTransactionAction.order_of_lockOrder hlock, hunsettled, hfresh⟩
  have hcons : ∀ f : Creation → UUID, (∀ d ∈ w.creations, ∀ e ∈ w.creations, f d = f e → d = e) →
      (∀ d ∈ w.creations, f d ≠ f c) →
        ∀ d ∈ w'.creations, ∀ e ∈ w'.creations, f d = f e → d = e := by
    intro f hinj hnew d hd e he heq
    rw [hcreations, List.mem_cons] at hd he
    rcases hd with hd | hd <;> rcases he with he | he
    · rw [hd, he]
    · exact absurd (heq.symm.trans (congrArg f hd)) (hnew e he)
    · exact absurd (heq.trans (congrArg f he)) (hnew d hd)
    · exact hinj d hd e he heq
  refine ⟨?_, hcons _ h.ids hfree, hcons _ h.orders hunlocked⟩
  rw [hcreations, hdb]
  exact fun d hd ↦ (List.mem_cons.mp hd).elim (fun heq ↦ heq ▸ hc) (h.held d)

/-- One event. -/
theorem step {e : Event} (hstep : World.step env w e = some w') (hdraws : DrawsIds w e)
    (h : InFlight w) : InFlight w' := by
  cases ledgerStep_of_step hstep with
  | keep hledger _ hcreations =>
    exact h.of_tables (by rw [hcreations]; exact fun _ ↦ id)
      (by rw [hledger.orders]; exact fun _ ↦ id) hledger.transactions
  | refresh _ hledger _ hcreations =>
    have horders : w'.db.orders = w.db.orders := hledger.orders
    exact h.of_tables (by rw [hcreations]; exact fun _ ↦ id)
      (by rw [horders]; exact fun _ ↦ id) hledger.transactions
  | place order hplaced _ hcreations =>
    refine h.of_tables (by rw [hcreations]; exact fun _ ↦ id) (fun o ho ↦ ?_)
      hplaced.others.2.2.2.1
    rw [hplaced.orders]
    exact (Table.mem_insert hplaced.fresh).mpr (Or.inl ho)
  | pay c today hevent request after hprepare hfree hdb _ hcreations =>
    subst hevent
    exact h.pay hprepare hfree (not_locked_of_pay hstep) hdraws hdb hcreations
  | create c hc result hcommit _ hcreations =>
    have hmem : ∀ d ∈ w'.creations, d ∈ w.creations ∧ d.transactionId ≠ c.transactionId := by
      intro d hd
      rw [hcreations, List.mem_filter, decide_eq_true_eq] at hd
      exact hd
    refine h.of_held (fun d hd ↦ (hmem d hd).1) fun d hd hheld ↦ ?_
    obtain ⟨hd, hne⟩ := hmem d hd
    refine held_of_commit hcommit hne (fun heq ↦ hne ?_) hheld
    rw [h.orders d hd c hc heq]
  | abandon hdb _ hcreations =>
    exact h.of_tables hcreations (by rw [hdb]; exact fun _ ↦ id) (by rw [hdb])
  | report r r' code hr hreports hmove _ hcreations =>
    have hunlocked := not_locked_of_report hstep hr hreports
    refine h.of_held (by rw [hcreations]; exact fun _ ↦ id) fun c hc hheld ↦ ?_
    rw [hcreations] at hc
    exact held_of_move (hunlocked c hc) hmove hheld
  | cascade action _ hledger _ hcreations =>
    have horders : w'.db.orders = w.db.orders := hledger.orders
    exact h.of_tables (by rw [hcreations]; exact fun _ ↦ id)
      (by rw [horders]; exact fun _ ↦ id) hledger.transactions
  | kaznaMoves hdb hcreations =>
    exact h.of_tables (by rw [hcreations]; exact fun _ ↦ id) (by rw [hdb]; exact fun _ ↦ id)
      (by rw [hdb])

end InFlight

theorem inFlight_of_reachable {env : Environment} {w : World}
    (h : (service env).Reachable DrawsIds w) : InFlight w := by
  refine System.Reachable.invariant (I := InFlight) ?_ ?_ h
  · intro w hw
    subst hw
    exact ⟨fun c hc ↦ absurd hc List.not_mem_nil, fun c hc ↦ absurd hc List.not_mem_nil,
      fun c hc ↦ absurd hc List.not_mem_nil⟩
  · intro w e w' hw hdraws hstep
    exact hw.step hstep hdraws

/-! ### The writes of a creation succeed -/

/-- The address of an answer that asks for a confirmation can be built. -/
def PayResponse.Readable (payment : PayResponse) : Prop :=
  ∀ tds, payment.tds = some tds → tds.toUrl.isSome

instance (payment : PayResponse) : Decidable payment.Readable :=
  match h : payment.tds with
  | none => isTrue (by simp [PayResponse.Readable, h])
  | some tds => decidable_of_iff tds.toUrl.isSome (by simp [PayResponse.Readable, h])

/-- A database with other transactions of known orders, of which no two of one order are not
cancelled. -/
theorem exists_withTransactions {db : Database} (transactions : Table Transaction.transactionId)
    (horders : ∀ r ∈ transactions, (db.orders.get? r.orderId).isSome)
    (hopen : ∀ r ∈ transactions, ∀ s ∈ transactions, r.orderId = s.orderId →
      r.status ≠ .cancelled → s.status ≠ .cancelled → r.transactionId = s.transactionId) :
    ∃ db' : Database, db'.toTables = { db.toTables with transactions } := by
  refine ⟨⟨{ db.toTables with transactions }, ⟨db.unique.1, db.unique.2, hopen⟩, ?_⟩, rfl⟩
  exact ⟨db.references.1, db.references.2, db.references.3, db.references.4, horders,
    db.references.6, db.references.7⟩

/-- Cancelling a transaction breaks no constraint. -/
theorem exists_cancel {db : Database} {r : Transaction} (hr : r ∈ db.transactions) :
    ∃ db' : Database, db'.toTables =
      { db.toTables with transactions := db.transactions.replace r.cancel } := by
  have hrow : ∀ s ∈ db.transactions.replace r.cancel, s.status ≠ .cancelled →
      s ∈ db.transactions := by
    intro s hs hstatus
    rcases Table.mem_replace.mp hs with ⟨hs, -⟩ | ⟨hs, -⟩
    · exact hs
    · rw [hs] at hstatus
      exact absurd rfl hstatus
  refine exists_withTransactions _ (fun s hs ↦ ?_) fun s hs u hu horder hsopen huopen ↦ ?_
  · rcases Table.mem_replace.mp hs with ⟨hs, -⟩ | ⟨hs, -⟩
    · exact db.references.transactions_orderId s hs
    · rw [hs]
      exact db.references.transactions_orderId r hr
  · exact db.unique.transactions_orderId_noncancelled s (hrow s hs hsopen) u (hrow u hu huopen)
      horder hsopen huopen

/-- The loop of `_check_existing_transactions` succeeds. -/
theorem saveCancelled_total {l : List Transaction} {db : Database}
    (hstored : ∀ r ∈ l, r ∈ db.transactions) (hnodup : (l.map Transaction.transactionId).Nodup) :
    ∃ db', (forM l fun t ↦ do let _ ← transactionMapper.save t.cancel : Action PUnit) db =
      .ok ((), db') := by
  induction l generalizing db with
  | nil => exact ⟨db, rfl⟩
  | cons r l ih =>
    rw [List.map_cons, List.nodup_cons] at hnodup
    have hr := hstored r List.mem_cons_self
    obtain ⟨db₁, hdb₁⟩ := exists_cancel hr
    have hrest : ∀ s ∈ l, s ∈ db₁.transactions := by
      intro s hs
      rw [hdb₁]
      refine Table.mem_replace.mpr (Or.inl ⟨hstored s (List.mem_cons_of_mem _ hs), fun heq ↦ ?_⟩)
      have hmem := List.mem_map_of_mem (f := Transaction.transactionId) hs
      rw [heq] at hmem
      exact hnodup.1 hmem
    obtain ⟨db', hloop⟩ := ih hrest hnodup.2
    refine ⟨db', ?_⟩
    rw [List.forM_cons]
    have hsave : transactionMapper.save r.cancel db = .ok (r.cancel, db₁) :=
      Mapper.save_eq_ok.mpr ⟨rfl, Table.isSome_get?_iff.mpr ⟨r, hr, rfl⟩, hdb₁⟩
    exact Tx.bind_eq_ok.mpr ⟨(), db₁, Tx.bind_eq_ok.mpr ⟨r.cancel, db₁, hsave, rfl⟩, hloop⟩

theorem checkExistingTransactions_total {orderId : UUID} {db : Database}
    (hunsettled : ∀ r ∈ db.transactions, r.orderId = orderId →
      r.status = .new ∨ r.status = .cancelled) :
    ∃ db', checkExistingTransactions orderId db = .ok ((), db') := by
  have hall : ((transactionMapper.view db.toTables).rows.filter fun t ↦ t.orderId = orderId).all
      (fun t ↦ t.status = .new ∨ t.status = .cancelled) = true := by
    rw [List.all_eq_true]
    intro r hr
    obtain ⟨hr, horder⟩ := List.mem_filter.mp hr
    exact decide_eq_true (hunsettled r hr (of_decide_eq_true horder))
  have hstored : ∀ r ∈ ((transactionMapper.view db.toTables).rows.filter
      fun t ↦ t.orderId = orderId).filter (fun t ↦ t.status ≠ .cancelled), r ∈ db.transactions :=
    fun r hr ↦ (List.mem_filter.mp (List.mem_filter.mp hr).1).1
  obtain ⟨db', hloop⟩ := saveCancelled_total hstored
    (db.transactions.nodup.sublist ((List.filter_sublist.trans List.filter_sublist).map _))
  refine ⟨db', ?_⟩
  rw [checkExistingTransactions, Tx.bind_eq_ok]
  exact ⟨_, db, Mapper.find_eq_ok.mpr ⟨rfl, rfl⟩, Tx.guard_eq_ok.mpr ⟨not_not.mpr hall, hloop⟩⟩

namespace Creation

variable {c : Creation} {db : Database}

theorem Held.lockOrder_total (h : c.Held db) : ∃ db', c.action.lockOrder db = .ok ((), db') := by
  obtain ⟨o, ho, hkey, huid⟩ := h.order
  have hget : orderMapper.get c.action.orderId db = .ok (o, db) :=
    Mapper.get_eq_ok.mpr ⟨hkey ▸ Table.get?_key ho, rfl⟩
  have horder : getOrderByOrderIdAndUid c.action.orderId c.action.uid db = .ok (o, db) := by
    rw [getOrderByOrderIdAndUid, Tx.bind_eq_ok]
    exact ⟨o, db, hget, by rw [if_pos huid]; rfl⟩
  obtain ⟨db', hcheck⟩ := checkExistingTransactions_total h.unsettled
  refine ⟨db', ?_⟩
  rw [CreateTransactionAction.lockOrder, Tx.bind_eq_ok]
  exact ⟨o, db, Tx.mapError_eq_ok.mpr horder, hkey ▸ hcheck⟩

/-- The new transaction can be stored once the others of its order are cancelled. -/
theorem Held.exists_store (h : c.Held db) {db₁ : Database}
    (hlock : c.action.lockOrder db = .ok ((), db₁)) :
    db₁.transactions.get? c.transactionId = none ∧
      ∃ db' : Database, db'.toTables = { db₁.toTables with
        transactions := db₁.transactions.insert
          (c.action.newTransaction c.transactionId c.amount c.payment) } := by
  obtain ⟨horder, -, hdb₁⟩ := CreateTransactionAction.lockOrder_ok hlock
  have hrows : db₁.transactions = db.transactions.update (fun t ↦ t.orderId = c.action.orderId)
      Transaction.cancel Transaction.cancel_transactionId := by rw [hdb₁]
  have horders : db₁.orders = db.orders := by rw [hdb₁]
  have hfree : db₁.transactions.get? c.transactionId = none := by
    rw [hrows, Table.get?_update, h.fresh]
    rfl
  have hcancelled : ∀ r ∈ db₁.transactions, r.orderId = c.action.orderId →
      r.status = .cancelled := by
    intro r hr hsame
    rw [hrows, Table.mem_update] at hr
    obtain ⟨s, -, hr⟩ := hr
    split_ifs at hr with hselected
    · rw [hr]
      rfl
    · rw [hr] at hsame
      exact absurd (decide_eq_true hsame) hselected
  refine ⟨hfree, exists_withTransactions _ (fun r hr ↦ ?_) fun r hr s hs hsame hropen hsopen ↦ ?_⟩
  · rcases (Table.mem_insert hfree).mp hr with hr | hr
    · exact db₁.references.transactions_orderId r hr
    · rw [hr, horders]
      exact horder
  · rcases (Table.mem_insert hfree).mp hr with hr | hr <;>
      rcases (Table.mem_insert hfree).mp hs with hs | hs
    · exact db₁.unique.transactions_orderId_noncancelled r hr s hs hsame hropen hsopen
    · rw [hs] at hsame
      exact absurd (hcancelled r hr hsame) hropen
    · rw [hr] at hsame
      exact absurd (hcancelled s hs hsame.symm) hsopen
    · rw [hr, hs]

/-- The writes of a creation that finds what it needs. -/
theorem Held.commit_total (h : c.Held db) (hreadable : c.payment.Readable) :
    ∃ result db', c.action.commit c.transactionId c.amount c.payment db = .ok (result, db') := by
  obtain ⟨db₁, hlock⟩ := h.lockOrder_total
  obtain ⟨hfree, db', hdb'⟩ := h.exists_store hlock
  have hcreate : transactionMapper.create
      (c.action.newTransaction c.transactionId c.amount c.payment) db₁ = .ok (_, db') :=
    Mapper.create_eq_ok.mpr ⟨rfl, hfree, hdb'⟩
  obtain ⟨result, hstore⟩ : ∃ result,
      c.action.store c.transactionId c.amount c.payment db₁ = .ok (result, db') := by
    unfold CreateTransactionAction.store
    cases htds : c.payment.tds with
    | none => exact ⟨_, Tx.bind_eq_ok.mpr ⟨_, db', hcreate, rfl⟩⟩
    | some tds =>
      obtain ⟨url, hurl⟩ := Option.isSome_iff_exists.mp (hreadable tds htds)
      refine ⟨(c.action.newTransaction c.transactionId c.amount c.payment, some url),
        Tx.bind_eq_ok.mpr ⟨_, db', hcreate, ?_⟩⟩
      simp only [hurl]
      rfl
  exact ⟨result, db', Tx.bind_eq_ok.mpr ⟨(), db₁, hlock, hstore⟩⟩

end Creation

/-- Assumes: `uuid4` draws new transaction ids, and Kazna has given the address of a confirmation
if it asks for one. Whatever has happened since Kazna answered, the creation can be finished: its
transaction is stored, as the only one of its order that is not cancelled. -/
theorem creation_commits (env : Environment) (w : World)
    (h : (service env).Reachable DrawsIds w) (c : Creation) (hc : c ∈ w.creations)
    (hreadable : c.payment.Readable) :
    ∃ w', (service env).step w (.finishCreation c.transactionId) = some w' ∧
      w'.payments = w.payments ∧ (∀ d, d ∈ w'.creations ↔ d ∈ w.creations ∧ d ≠ c) ∧
      c.action.newTransaction c.transactionId c.amount c.payment ∈ w'.db.transactions ∧
      (∀ r ∈ w'.db.transactions, r.orderId = c.action.orderId → r.status ≠ .cancelled →
        r = c.action.newTransaction c.transactionId c.amount c.payment) ∧
      ∀ r ∈ w.db.transactions, r.orderId ≠ c.action.orderId → r ∈ w'.db.transactions := by
  have hinFlight := inFlight_of_reachable h
  obtain ⟨result, db', hcommit⟩ := (hinFlight.held c hc).commit_total hreadable
  obtain ⟨-, hfree, -, hdb'⟩ := CreateTransactionAction.commit_ok hcommit
  have hrows : db'.transactions =
      c.action.created c.transactionId c.amount c.payment w.db.transactions := by rw [hdb']
  have hfind : w.creations.find? (fun d ↦ d.transactionId = c.transactionId) = some c := by
    cases hfound : w.creations.find? fun d ↦ d.transactionId = c.transactionId with
    | none => exact absurd (decide_eq_true rfl) (List.find?_eq_none.mp hfound c hc)
    | some d =>
      have hid : d.transactionId = c.transactionId :=
        of_decide_eq_true (List.find?_some (p := fun d : Creation ↦
          decide (d.transactionId = c.transactionId)) hfound)
      rw [hinFlight.ids d (List.mem_of_find?_eq_some hfound) c hc hid]
  refine ⟨{ w.takeCreation c.transactionId with db := db' }, ?_, rfl, ?_, ?_, ?_, ?_⟩
  · change (w.creations.find? _).map _ = _
    have hrun : c.action.commit c.transactionId c.amount c.payment
        (w.takeCreation c.transactionId).db = .ok (result, db') := hcommit
    rw [hfind, Option.map_some, World.run, hrun]
    rfl
  · intro d
    change d ∈ w.creations.filter _ ↔ _
    rw [List.mem_filter, decide_eq_true_eq]
    refine and_congr_right fun hd ↦ not_congr ⟨hinFlight.ids d hd c hc, fun heq ↦ ?_⟩
    rw [heq]
  · change _ ∈ db'.transactions
    rw [hrows]
    exact (CreateTransactionAction.mem_created hfree).mpr (Or.inr rfl)
  · intro r hr horder hopen
    change r ∈ db'.transactions at hr
    rw [hrows] at hr
    rcases (CreateTransactionAction.mem_created hfree).mp hr with ⟨s, -, hr⟩ | hr
    · split_ifs at hr with hsame
      · rw [hr] at hopen
        exact absurd rfl hopen
      · rw [hr] at horder
        exact absurd horder hsame
    · exact hr
  · intro r hr horder
    change r ∈ db'.transactions
    rw [hrows]
    exact (CreateTransactionAction.mem_created hfree).mpr (Or.inl ⟨r, hr, (if_neg horder).symm⟩)

/-- The document of the fine is deleted while Kazna is asked for the payment. -/
def pendingWorld : World :=
  ((service concreteEnv).run DrawsIds .initial
    (billRun ++ [.createOrder ⟨1, [⟨1⟩]⟩ ⟨1⟩, .pay (concreteCreation ⟨1⟩) ⟨1⟩ 0 ⟨101, none⟩,
      .deleteDocument ⟨1, ⟨1⟩⟩])).get (by decide +kernel)

theorem creation_commits_witness :
    pendingWorld.db.bills.rows = [] ∧ ∃ c ∈ pendingWorld.creations, ∃ w',
      (service concreteEnv).step pendingWorld (.finishCreation c.transactionId) = some w' ∧
        c.action.newTransaction c.transactionId c.amount c.payment ∈ w'.db.transactions := by
  have hc : ∃ c ∈ pendingWorld.creations, c.payment.Readable := by decide +kernel
  obtain ⟨c, hc, hreadable⟩ := hc
  obtain ⟨w', hstep, -, -, hstored, -⟩ :=
    creation_commits concreteEnv pendingWorld (System.reachable_get rfl _) c hc hreadable
  exact ⟨by decide +kernel, c, hc, w', hstep, hstored⟩

/-! ### Payments and what is stored of them -/

/-- A payment was requested for this transaction, under this payment id and amount. -/
structure Payment.Charges (env : Environment) (p : Payment) (transactionId : UUID)
    (externalPaymentId : String) (amount : ℤ) : Prop where
  requested : p.request.orderId = env.uuidText transactionId
  paymentId : toString p.paymentId = externalPaymentId
  amount : p.request.amount = amount

namespace LedgerStep

variable {env : Environment} {e : Event} {w w' : World}

/-- Every stored transaction was stored before, with another status at most, or is that of a
creation. -/
theorem source (hstep : LedgerStep env e w w') {r' : Transaction}
    (hr' : r' ∈ w'.db.transactions) :
    (∃ r ∈ w.db.transactions, r' = { r with status := r'.status }) ∨
      ∃ c ∈ w.creations, r' = c.action.newTransaction c.transactionId c.amount c.payment := by
  have hkept : w'.db.transactions = w.db.transactions →
      (∃ r ∈ w.db.transactions, r' = { r with status := r'.status }) :=
    fun h ↦ ⟨r', h ▸ hr', rfl⟩
  have hreplaced : ∀ {r s : Transaction} {status : TransactionStatus}, r ∈ w.db.transactions →
      s = { r with status } → w'.db.transactions = w.db.transactions.replace s →
        (∃ r ∈ w.db.transactions, r' = { r with status := r'.status }) := by
    intro r s status hr hrow hrows
    rw [hrows] at hr'
    rcases Table.mem_replace.mp hr' with ⟨hr', -⟩ | ⟨hr', -⟩
    · exact ⟨r', hr', rfl⟩
    · exact ⟨r, hr, by rw [hr', hrow]⟩
  cases hstep with
  | keep hledger => exact Or.inl (hkept hledger.transactions)
  | refresh _ hledger => exact Or.inl (hkept hledger.transactions)
  | place order hplaced => exact Or.inl (hkept hplaced.others.2.2.2.1)
  | pay _ _ _ _ _ _ _ hdb => exact Or.inl (hkept (by rw [hdb]))
  | create c hc result hcommit =>
    obtain ⟨-, hfree, -, hdb⟩ := CreateTransactionAction.commit_ok hcommit
    have hrows : w'.db.transactions =
        c.action.created c.transactionId c.amount c.payment w.db.transactions := by rw [hdb]
    rw [hrows, CreateTransactionAction.mem_created hfree] at hr'
    rcases hr' with ⟨s, hs, hr'⟩ | hr'
    · refine Or.inl ⟨s, hs, ?_⟩
      rw [hr']
      split_ifs <;> rfl
    · exact Or.inr ⟨c, hc, hr'⟩
  | abandon hdb => exact Or.inl (hkept (by rw [hdb]))
  | report r s code hr _ hmove =>
    cases hmove with
    | kept _ htables => exact Or.inl (hkept (by rw [htables]))
    | closed hclosed htables =>
      rcases hclosed with ⟨-, -, hrow⟩ | ⟨-, -, hrow⟩ <;>
        exact Or.inl (hreplaced hr hrow (by rw [htables]))
    | paid _ _ hrow _ _ htables => exact Or.inl (hreplaced hr hrow (by rw [htables]))
  | cascade action _ hledger => exact Or.inl (hkept hledger.transactions)
  | kaznaMoves hdb => exact Or.inl (hkept (by rw [hdb]))

/-- Payments stay, whatever their status, and new ones are those of creations. -/
theorem payments_source (hstep : LedgerStep env e w w') :
    (w'.payments.map fun p ↦ (p.paymentId, p.request)) =
        w.payments.map (fun p ↦ (p.paymentId, p.request)) ∧
      (∀ c ∈ w'.creations, c ∈ w.creations) ∨
    ∃ c request, w'.creations = c :: w.creations ∧
      w'.payments = ⟨c.payment.paymentId, request, .created⟩ :: w.payments ∧
      ∃ today after,
        c.action.prepare env today c.transactionId w.db = .ok (request, after) ∧
          e = .pay c.action c.transactionId today c.payment := by
  cases hstep with
  | keep _ hpayments hcreations =>
    exact Or.inl ⟨by rw [hpayments], by rw [hcreations]; exact fun _ ↦ id⟩
  | refresh _ _ hpayments hcreations =>
    exact Or.inl ⟨by rw [hpayments], by rw [hcreations]; exact fun _ ↦ id⟩
  | place _ _ hpayments hcreations =>
    exact Or.inl ⟨by rw [hpayments], by rw [hcreations]; exact fun _ ↦ id⟩
  | pay c today hevent request after hprepare _ _ hpayments hcreations =>
    exact Or.inr ⟨c, request, hcreations, hpayments, today, after, hprepare, hevent⟩
  | create c _ _ _ hpayments hcreations =>
    exact Or.inl ⟨by rw [hpayments], by
      rw [hcreations]; exact fun d hd ↦ (List.mem_filter.mp hd).1⟩
  | abandon _ hpayments hcreations => exact Or.inl ⟨by rw [hpayments], hcreations⟩
  | report _ _ _ _ _ _ hpayments hcreations =>
    exact Or.inl ⟨by rw [hpayments], by rw [hcreations]; exact fun _ ↦ id⟩
  | cascade _ _ _ hpayments hcreations =>
    exact Or.inl ⟨by rw [hpayments], by rw [hcreations]; exact fun _ ↦ id⟩
  | kaznaMoves _ hcreations hpayments =>
    obtain ⟨paymentId, code, hpayments⟩ := hpayments
    refine Or.inl ⟨?_, by rw [hcreations]; exact fun _ ↦ id⟩
    rw [hpayments, List.map_map]
    refine List.map_congr_left fun p _ ↦ ?_
    simp only [Function.comp_apply]
    split_ifs <;> rfl

end LedgerStep

/-- No process dies between the answer of Kazna and its writes, and Kazna gives the address of a
confirmation if it asks for one. -/
def Unbroken (w : World) (e : Event) : Prop :=
  match e with
  | .pay _ transactionId _ payment =>
    w.db.transactions.get? transactionId = none ∧ payment.Readable
  | .abandonCreation _ => False
  | _ => True

instance (w : World) (e : Event) : Decidable (Unbroken w e) := by
  induction e using Event.casesOn <;> unfold Unbroken <;> infer_instance

theorem Unbroken.drawsIds {w : World} {e : Event} (h : Unbroken w e) : DrawsIds w e := by
  cases e with
  | pay action transactionId today payment => exact h.1
  | _ => exact trivial

/-- A creation stays in flight until its transaction is stored. -/
theorem Unbroken.creations {env : Environment} {w w' : World} {e : Event} (h : Unbroken w e)
    (hflight : InFlight w) (hreadable : ∀ c ∈ w.creations, c.payment.Readable)
    (hstep : World.step env w e = some w') : ∀ c ∈ w.creations, c ∈ w'.creations ∨
      c.action.newTransaction c.transactionId c.amount c.payment ∈ w'.db.transactions := by
  have hsame : w'.creations = w.creations → ∀ c ∈ w.creations, c ∈ w'.creations ∨
      c.action.newTransaction c.transactionId c.amount c.payment ∈ w'.db.transactions :=
    fun heq c hc ↦ Or.inl (heq ▸ hc)
  have hrun : ∀ {α : Type} {action : Action α} {record : α → Database → List Occurrence},
      some (w.run action record) = some w' → w'.creations = w.creations := by
    intro α action record heq
    rw [← Option.some.inj heq]
    rcases w.run_eq action record with ⟨a, db, -, heq⟩ | heq <;> rw [heq]
  have hreport : ∀ {α : Type} {transactionId : String} {action : Action α},
      w.report env transactionId action = some w' → w'.creations = w.creations := by
    intro α transactionId action heq
    unfold World.report at heq
    split_ifs at heq
    exact hrun heq
  have hsearch : ∀ {taskId : ℕ}, w.searchEvent taskId e = some w' →
      w'.creations = w.creations := by
    intro taskId heq
    obtain ⟨task, -, hmove⟩ := World.searchEvent_cases heq
    cases hmove with
    | start => unfold World.searchStart; split <;> rfl
    | finishEmpty => unfold World.searchComplete; split <;> rfl
    | finishComplete => unfold World.searchComplete; split <;> rfl
    | finishPart => unfold World.searchRetry; split <;> rfl
    | _ => rfl
  cases e with
  | createDocument action subscriptionId documentId => exact hsame (hrun hstep)
  | updateDocument action => exact hsame (hrun hstep)
  | deleteDocument action => exact hsame (hrun hstep)
  | forceSearch action => exact hsame (hrun hstep)
  | searchStart taskId crashed => exact hsame (hsearch hstep)
  | searchLoad taskId => exact hsame (hsearch hstep)
  | searchReconcile taskId subscription => exact hsame (hsearch hstep)
  | searchAsk taskId response => exact hsame (hsearch hstep)
  | searchFinish taskId newId crashed => exact hsame (hsearch hstep)
  | searchCrash taskId => exact hsame (hsearch hstep)
  | searchFail taskId => exact hsame (hsearch hstep)
  | notifyBills notifications => exact hsame (hrun hstep)
  | createOrder action orderId => exact hsame (hrun hstep)
  | pay action transactionId today payment =>
    obtain ⟨-, heq | ⟨request, db, -, heq⟩⟩ := World.pay_cases hstep
    · exact hsame (by rw [heq])
    · intro c hc
      rw [heq]
      exact Or.inl (List.mem_cons_of_mem _ hc)
  | finishCreation transactionId =>
    obtain ⟨d, hfind, heq⟩ := Option.map_eq_some_iff.mp hstep
    have hd := List.mem_of_find?_eq_some hfind
    have hkey : d.transactionId = transactionId := of_decide_eq_true
      (List.find?_some (p := fun c : Creation ↦ decide (c.transactionId = transactionId)) hfind)
    obtain ⟨result, db', hcommit⟩ := (hflight.held d hd).commit_total (hreadable d hd)
    obtain ⟨-, hfree, -, hdb'⟩ := CreateTransactionAction.commit_ok hcommit
    have hrun : d.action.commit d.transactionId d.amount d.payment
        (w.takeCreation transactionId).db = .ok (result, db') := hcommit
    rw [World.run, hrun] at heq
    intro c hc
    rw [← heq]
    by_cases hcd : c.transactionId = transactionId
    · right
      rw [hflight.ids c hc d hd (hcd.trans hkey.symm)]
      change _ ∈ db'.transactions
      rw [hdb']
      exact (CreateTransactionAction.mem_created hfree).mpr (Or.inr rfl)
    · exact Or.inl (List.mem_filter.mpr ⟨hc, decide_eq_true hcd⟩)
  | abandonCreation transactionId => exact h.elim
  | webhook request => exact hsame (hreport hstep)
  | getTransaction transactionId info => exact hsame (hreport hstep)
  | resumeGet transactionId code => exact hsame (hreport hstep)
  | syncStatus action info => exact hsame (hreport hstep)
  | kaznaMoves paymentId code => exact hsame (by rw [← Option.some.inj hstep]; rfl)

/-- The amount of a new creation is that of its request. -/
theorem amount_of_pay {env : Environment} {w w' : World} {c : Creation} {today : ℤ}
    {request : PayRequest} {after : Database}
    (hstep : World.step env w (.pay c.action c.transactionId today c.payment) = some w')
    (hcreations : w'.creations = c :: w.creations)
    (hprepare : c.action.prepare env today c.transactionId w.db = .ok (request, after)) :
    c.amount = request.amount := by
  obtain ⟨-, heq | ⟨request', db, hprepare', heq⟩⟩ := World.pay_cases hstep
  · rw [heq] at hcreations
    exact absurd hcreations (List.cons_ne_self _ _).symm
  · rw [hprepare, Except.ok.injEq, Prod.mk.injEq] at hprepare'
    rw [heq] at hcreations
    rw [hprepare'.1, ← (List.cons.inj hcreations).1]

/-- What Kazna holds and what the service has of it. -/
structure Accounted (env : Environment) (w : World) : Prop where
  inFlight : InFlight w
  readable : ∀ c ∈ w.creations, c.payment.Readable
  requests : (w.payments.map fun p ↦ p.request.orderId).Nodup
  creations : ∀ c ∈ w.creations, ∃ p ∈ w.payments,
    p.Charges env c.transactionId (toString c.payment.paymentId) c.amount
  transactions : ∀ r ∈ w.db.transactions, ∃ p ∈ w.payments,
    p.Charges env r.transactionId r.externalPaymentId r.amount
  payments : ∀ p ∈ w.payments,
    (∃ c ∈ w.creations, p.Charges env c.transactionId (toString c.payment.paymentId) c.amount) ∨
      ∃ r ∈ w.db.transactions, p.Charges env r.transactionId r.externalPaymentId r.amount

namespace Accounted

variable {env : Environment} {w w' : World}

/-- A payment with the id and the request of another one is for the same charge. -/
theorem charges_congr (env : Environment) {l l' : List Payment}
    (h : (l'.map fun p ↦ (p.paymentId, p.request)) = l.map fun p ↦ (p.paymentId, p.request))
    {p : Payment} (hp : p ∈ l) : ∃ p' ∈ l', ∀ transactionId externalPaymentId amount,
      p.Charges env transactionId externalPaymentId amount ↔
        p'.Charges env transactionId externalPaymentId amount := by
  have hmem := List.mem_map_of_mem (f := fun p : Payment ↦ (p.paymentId, p.request)) hp
  rw [← h] at hmem
  obtain ⟨p', hp', heq⟩ := List.mem_map.mp hmem
  obtain ⟨hid, hrequest⟩ := Prod.mk.inj heq
  refine ⟨p', hp', fun transactionId externalPaymentId amount ↦ ?_⟩
  constructor
  · exact fun hcharges ↦ ⟨by rw [hrequest]; exact hcharges.1, by rw [hid]; exact hcharges.2,
      by rw [hrequest]; exact hcharges.3⟩
  · exact fun hcharges ↦ ⟨by rw [← hrequest]; exact hcharges.1, by rw [← hid]; exact hcharges.2,
      by rw [← hrequest]; exact hcharges.3⟩

/-- What a payment is for is in flight or stored after a step too. -/
theorem payment_kept {e : Event} (h : Accounted env w) (hstep : World.step env w e = some w')
    (hunbroken : Unbroken w e) {p : Payment} (hp : p ∈ w.payments) :
    (∃ c ∈ w'.creations, p.Charges env c.transactionId (toString c.payment.paymentId) c.amount) ∨
      ∃ r ∈ w'.db.transactions, p.Charges env r.transactionId r.externalPaymentId r.amount := by
  rcases h.payments p hp with ⟨c, hc, hcharges⟩ | ⟨r, hr, hcharges⟩
  · rcases hunbroken.creations h.inFlight h.readable hstep c hc with hc | hr
    · exact Or.inl ⟨c, hc, hcharges⟩
    · exact Or.inr ⟨_, hr, hcharges⟩
  · obtain ⟨status, -, hr'⟩ := (LedgerGrows.step (ledgerStep_of_step hstep)).transactions r hr
    exact Or.inr ⟨_, hr', hcharges⟩

theorem step {e : Event} (hstep : World.step env w e = some w') (hunbroken : Unbroken w e)
    (h : Accounted env w) : Accounted env w' := by
  have hledger := ledgerStep_of_step hstep
  have hflight := h.inFlight.step hstep hunbroken.drawsIds
  -- a transaction is stored for a payment that was known before
  have hsource : ∀ r' ∈ w'.db.transactions, ∃ p ∈ w.payments,
      p.Charges env r'.transactionId r'.externalPaymentId r'.amount := by
    intro r' hr'
    rcases hledger.source hr' with ⟨r, hr, heq⟩ | ⟨c, hc, heq⟩
    · rw [heq]
      exact h.transactions r hr
    · rw [heq]
      exact h.creations c hc
  rcases hledger.payments_source with ⟨hpayments, hcreations⟩ |
    ⟨c, request, hcreations, hpayments, today, after, hprepare, hevent⟩
  · have hforward : ∀ {transactionId : UUID} {externalPaymentId : String} {amount : ℤ},
        (∃ p ∈ w.payments, p.Charges env transactionId externalPaymentId amount) →
          ∃ p ∈ w'.payments, p.Charges env transactionId externalPaymentId amount := by
      rintro transactionId externalPaymentId amount ⟨p, hp, hcharges⟩
      obtain ⟨p', hp', hiff⟩ := charges_congr env hpayments hp
      exact ⟨p', hp', (hiff _ _ _).mp hcharges⟩
    refine ⟨hflight, fun c hc ↦ h.readable c (hcreations c hc), ?_,
      fun c hc ↦ hforward (h.creations c (hcreations c hc)), fun r hr ↦ hforward (hsource r hr), ?_⟩
    · have hrequests := congrArg (List.map fun x : ℤ × PayRequest ↦ x.2.orderId) hpayments
      rw [List.map_map, List.map_map] at hrequests
      exact hrequests ▸ h.requests
    · intro p' hp'
      obtain ⟨p, hp, hiff⟩ := charges_congr env hpayments.symm hp'
      rcases h.payment_kept hstep hunbroken hp with ⟨c, hc, hcharges⟩ | ⟨r, hr, hcharges⟩
      · exact Or.inl ⟨c, hc, (hiff _ _ _).mpr hcharges⟩
      · exact Or.inr ⟨r, hr, (hiff _ _ _).mpr hcharges⟩
  · subst hevent
    obtain ⟨hids, -⟩ := World.pay_cases hstep
    have hamount := amount_of_pay hstep hcreations hprepare
    obtain ⟨-, hrequested, -⟩ := CreateTransactionAction.prepare_ok hprepare
    have hnew : (⟨c.payment.paymentId, request, .created⟩ : Payment).Charges env c.transactionId
        (toString c.payment.paymentId) c.amount := ⟨hrequested, rfl, hamount.symm⟩
    have hold : ∀ {q : Payment}, q ∈ w.payments → q ∈ w'.payments := by
      intro q hq
      rw [hpayments]
      exact List.mem_cons_of_mem _ hq
    refine ⟨hflight, ?_, ?_, ?_, ?_, ?_⟩
    · rw [hcreations]
      exact fun d hd ↦ (List.mem_cons.mp hd).elim (fun heq ↦ heq ▸ hunbroken.2) (h.readable d)
    · rw [hpayments, List.map_cons, List.nodup_cons]
      refine ⟨fun hmem ↦ ?_, h.requests⟩
      obtain ⟨q, hq, hsame⟩ := List.mem_map.mp hmem
      rcases h.payments q hq with ⟨d, hd, hcharges⟩ | ⟨r, hr, hcharges⟩
      · exact hids d hd (env.uuidText_injective
          (hcharges.requested.symm.trans (hsame.trans hrequested)))
      · exact Table.get?_eq_none_iff.mp hunbroken.1 r hr (env.uuidText_injective
          (hcharges.requested.symm.trans (hsame.trans hrequested)))
    · intro d hd
      rw [hcreations, List.mem_cons] at hd
      rcases hd with hd | hd
      · rw [hd]
        exact ⟨_, by rw [hpayments]; exact List.mem_cons_self, hnew⟩
      · obtain ⟨q, hq, hcharges⟩ := h.creations d hd
        exact ⟨q, hold hq, hcharges⟩
    · intro r hr
      obtain ⟨q, hq, hcharges⟩ := hsource r hr
      exact ⟨q, hold hq, hcharges⟩
    · intro q hq
      rw [hpayments, List.mem_cons] at hq
      rcases hq with hq | hq
      · rw [hq]
        exact Or.inl ⟨c, by rw [hcreations]; exact List.mem_cons_self, hnew⟩
      · exact h.payment_kept hstep hunbroken hq

end Accounted

theorem accounted_of_reachable {env : Environment} {w : World}
    (h : (service env).Reachable Unbroken w) : Accounted env w := by
  refine System.Reachable.invariant (I := Accounted env) ?_ ?_ h
  · intro w hw
    subst hw
    refine ⟨inFlight_of_reachable (System.Reachable.of_start (S := service env) rfl), ?_,
      List.nodup_nil, ?_, ?_, ?_⟩
    · exact fun c hc ↦ absurd hc List.not_mem_nil
    · exact fun c hc ↦ absurd hc List.not_mem_nil
    · exact fun r hr ↦ absurd hr (Table.not_mem_empty r)
    · exact fun p hp ↦ absurd hp List.not_mem_nil
  · intro w e w' hw hunbroken hstep
    exact hw.step hstep hunbroken

/-- Assumes: `uuid4` draws new transaction ids, no process dies between the answer of Kazna and its
writes, and Kazna gives the address of a confirmation if it asks for one. Every payment that Kazna
holds has a request of its own, and is the payment of a stored transaction or of a creation in
flight, but not of both; every one of these has its payment, with the same id and amount. -/
theorem payments_accounted (env : Environment) (w : World)
    (h : (service env).Reachable Unbroken w) :
    (w.payments.map fun p ↦ p.request.orderId).Nodup ∧
      (∀ p ∈ w.payments, (∃ c ∈ w.creations,
          p.Charges env c.transactionId (toString c.payment.paymentId) c.amount) ∨
        ∃ r ∈ w.db.transactions, p.Charges env r.transactionId r.externalPaymentId r.amount) ∧
      (∀ c ∈ w.creations, (∃ p ∈ w.payments,
          p.Charges env c.transactionId (toString c.payment.paymentId) c.amount) ∧
        ∀ r ∈ w.db.transactions, r.transactionId ≠ c.transactionId) ∧
      ∀ r ∈ w.db.transactions, ∃ p ∈ w.payments,
        p.Charges env r.transactionId r.externalPaymentId r.amount := by
  obtain ⟨hflight, -, hrequests, hcreations, htransactions, hpayments⟩ := accounted_of_reachable h
  exact ⟨hrequests, hpayments, fun c hc ↦ ⟨hcreations c hc,
    Table.get?_eq_none_iff.mp (hflight.held c hc).fresh⟩, htransactions⟩

/-- Two orders of one fine: one payment is stored, the other one is in flight. -/
def twoPaymentsWorld : World :=
  ((service concreteEnv).run Unbroken .initial
    (billRun ++ .createOrder ⟨1, [⟨1⟩]⟩ ⟨1⟩ :: .createOrder ⟨1, [⟨1⟩]⟩ ⟨2⟩ ::
      createRun ⟨1⟩ ⟨1⟩ 101 ++ [.pay (concreteCreation ⟨2⟩) ⟨2⟩ 0 ⟨102, none⟩])).get
    (by decide +kernel)

theorem payments_accounted_witness :
    twoPaymentsWorld.payments.length = 2 ∧ twoPaymentsWorld.creations.length = 1 ∧
      ∀ p ∈ twoPaymentsWorld.payments, (∃ c ∈ twoPaymentsWorld.creations,
          p.Charges concreteEnv c.transactionId (toString c.payment.paymentId) c.amount) ∨
        ∃ r ∈ twoPaymentsWorld.db.transactions,
          p.Charges concreteEnv r.transactionId r.externalPaymentId r.amount :=
  ⟨by decide +kernel, by decide +kernel,
    (payments_accounted concreteEnv twoPaymentsWorld (System.reachable_get rfl _)).2.1⟩

/-! ### The amount of a transaction -/

/-- The bills of an order, as `find_by_order_id` reads them. -/
def Tables.billsOf (t : Tables) (orderId : UUID) : List Bill :=
  (t.billOrders.rows.filter fun r ↦ r.orderId = orderId).filterMap fun r ↦ t.bills.get? r.billId

/-- Every bill of an order belongs to the user of the order. -/
def Owned (t : Tables) : Prop :=
  ∀ s ∈ t.billOrders, ∀ o ∈ t.orders, o.orderId = s.orderId → ∀ b ∈ t.bills,
    b.billId = s.billId → b.uid = o.uid

/-- The rows that join bills to orders are old, or those of a new order of one user. -/
theorem LedgerStep.billOrders_source {env : Environment} {e : Event} {w w' : World}
    (hstep : LedgerStep env e w w') {s : BillOrder} (hs : s ∈ w'.db.billOrders) :
    s ∈ w.db.billOrders ∨ ∃ order, OrderPlaced order w.db.toTables w'.db.toTables ∧
      s.orderId = order.orderId ∧ ∃ b ∈ w.db.bills, b.billId = s.billId ∧ b.uid = order.uid := by
  have hsame : w'.db.billOrders = w.db.billOrders → s ∈ w.db.billOrders := fun h ↦ h ▸ hs
  cases hstep with
  | keep hledger => exact Or.inl (hsame hledger.billOrders)
  | refresh _ hledger => exact Or.inl (hsame hledger.billOrders)
  | place order hplaced =>
    rcases hplaced.added s hs with hs | ⟨horder, hbill⟩
    · exact Or.inl hs
    · exact Or.inr ⟨order, hplaced, horder, hbill⟩
  | pay _ _ _ _ _ _ _ hdb => exact Or.inl (hsame (by rw [hdb]))
  | create c _ result hcommit =>
    obtain ⟨-, -, -, hdb⟩ := CreateTransactionAction.commit_ok hcommit
    exact Or.inl (hsame (by rw [hdb]))
  | abandon hdb => exact Or.inl (hsame (by rw [hdb]))
  | report r r' code _ _ hmove =>
    cases hmove with
    | kept _ htables => exact Or.inl (hsame (by rw [htables]))
    | closed _ htables => exact Or.inl (hsame (by rw [htables]))
    | paid _ _ _ _ _ htables => exact Or.inl (hsame (by rw [htables]; rfl))
  | cascade action _ hledger =>
    have hrows := hledger.billOrders
    rw [hrows] at hs
    exact Or.inl (Table.mem_keep.mp hs).1
  | kaznaMoves hdb => exact Or.inl (hsame (by rw [hdb]))

theorem Owned.step {env : Environment} {e : Event} {w w' : World}
    (hstep : LedgerStep env e w w') (h : Owned w.db.toTables) : Owned w'.db.toTables := by
  intro s hs o' ho' horder' b' hb' hbill'
  have hgrows := LedgerGrows.step hstep
  rcases hstep.billOrders_source hs with hs₀ | ⟨order, hplaced, horder, b, hb, hbill, huid⟩
  · obtain ⟨o, ho, horder⟩ :=
      Table.isSome_get?_iff.mp (w.db.references.billOrders_orderId s hs₀)
    obtain ⟨b, hb, hbill⟩ := Table.isSome_get?_iff.mp (w.db.references.billOrders_billId s hs₀)
    obtain ⟨status, ho'', -⟩ := hgrows.orders o ho
    have hoo' : o' = { o with status } :=
      Table.eq_of_key_eq ho' ho'' (horder'.trans horder.symm)
    obtain ⟨huid, -⟩ := (hgrows.bills o ho s hs horder.symm).2 b hb b' hb' hbill hbill'
    rw [huid, hoo']
    exact h s hs₀ o ho horder b hb hbill
  · have ho'' : order ∈ w'.db.orders := by
      rw [hplaced.orders]
      exact (Table.mem_insert hplaced.fresh).mpr (Or.inr rfl)
    have hoo' : o' = order := Table.eq_of_key_eq ho' ho'' (horder'.trans horder)
    have hbills : w'.db.bills = w.db.bills := hplaced.others.2.2.1
    have hbb' : b' = b := Table.eq_of_key_eq (hbills ▸ hb') hb (hbill'.trans hbill.symm)
    rw [hbb', hoo', huid]

/-- An order stands for an amount: it has bills, all of its user, which come to this amount on some
day, and none of its transactions is paid or refunded. -/
structure ChargedFor (env : Environment) (t : Tables) (orderId : UUID) (amount : ℤ) : Prop where
  owner : ∃ o ∈ t.orders, o.orderId = orderId ∧ ∀ b ∈ t.billsOf orderId, b.uid = o.uid
  nonempty : t.billsOf orderId ≠ []
  unsettled : ∀ r ∈ t.transactions, r.orderId = orderId → r.status = .new ∨ r.status = .cancelled
  amount : ∃ today, ((t.billsOf orderId).mapM (Bill.total env today)).map List.sum = some amount

/-- The request of a creation is for what its order stands for. -/
theorem chargedFor_of_prepare {env : Environment} {action : CreateTransactionAction} {today : ℤ}
    {transactionId : UUID} {request : PayRequest} {db db' : Database} (howned : Owned db.toTables)
    (h : action.prepare env today transactionId db = .ok (request, db')) :
    ChargedFor env db.toTables action.orderId request.amount := by
  obtain ⟨⟨u, hlock⟩, -, ⟨s, hs, horder⟩, -⟩ := CreateTransactionAction.prepare_ok h
  obtain ⟨-, hunsettled, hdb'⟩ := CreateTransactionAction.lockOrder_ok hlock
  obtain ⟨o, ho, hkey, -⟩ := CreateTransactionAction.order_of_lockOrder hlock
  have hmem : ∀ b, b ∈ db.toTables.billsOf action.orderId ↔ ∃ s ∈ db.billOrders,
      s.orderId = action.orderId ∧ db.bills.get? s.billId = some b := by
    intro b
    rw [Tables.billsOf, List.mem_filterMap]
    refine exists_congr fun s ↦ ?_
    rw [List.mem_filter, decide_eq_true_eq, and_assoc, Table.mem_def]
  refine ⟨⟨o, ho, hkey, fun b hb ↦ ?_⟩, fun hempty ↦ ?_, hunsettled, today, ?_⟩
  · obtain ⟨s, hs, horder, hget⟩ := (hmem b).mp hb
    obtain ⟨hb, hbill⟩ := Table.get?_eq_some_iff.mp hget
    exact howned s hs o ho (hkey.trans horder.symm) b hb hbill
  · obtain ⟨b, hget⟩ := Option.isSome_iff_exists.mp (db.references.billOrders_billId s hs)
    have hb := (hmem b).mpr ⟨s, hs, horder, hget⟩
    rw [hempty] at hb
    exact absurd hb List.not_mem_nil
  · simp only [CreateTransactionAction.prepare, Tx.bind_eq_ok] at h
    obtain ⟨_, db₁, hlock₁, bills, db₂, hfind, depType, db₃, -, amount, db₄, hamount, hpure⟩ := h
    obtain ⟨-, -, hdb₁⟩ := CreateTransactionAction.lockOrder_ok hlock₁
    obtain ⟨-, hbills⟩ := CreateTransactionAction.findBillsByOrderId_ok hfind
    have hsame : bills = db.toTables.billsOf action.orderId := by rw [hbills, hdb₁]; rfl
    obtain ⟨rfl, -⟩ := Tx.pure_eq_ok.mp hpure
    unfold getAmount at hamount
    rw [← hsame]
    cases hamounts : bills.mapM (Bill.total env today) with
    | none =>
      rw [hamounts] at hamount
      exact (Tx.throw_ne_ok.mp hamount).elim
    | some amounts =>
      rw [hamounts] at hamount
      rw [Option.map_some, ← (Tx.pure_eq_ok.mp hamount).1]

/-- A state of the run up to `w` in which the order stood for the amount. -/
def Origin (env : Environment) (w : World) (orderId : UUID) (amount : ℤ) : Prop :=
  ∃ v, (service env).Reachable (fun _ _ ↦ True) v ∧
    (service env).Leads (fun _ _ ↦ True) v w ∧ LedgerGrows v w ∧
    ChargedFor env v.db.toTables orderId amount

theorem Origin.tail {env : Environment} {w w' : World} {e : Event} {orderId : UUID} {amount : ℤ}
    (h : Origin env w orderId amount) (hstep : World.step env w e = some w') :
    Origin env w' orderId amount := by
  obtain ⟨v, hv, hleads, hgrows, hcharged⟩ := h
  exact ⟨v, hv, hleads.tail trivial hstep,
    hgrows.trans (LedgerGrows.step (ledgerStep_of_step hstep)), hcharged⟩

/-- The amounts of all transactions and creations have an origin. -/
structure Originated (env : Environment) (w : World) : Prop where
  owned : Owned w.db.toTables
  creations : ∀ c ∈ w.creations, Origin env w c.action.orderId c.amount
  transactions : ∀ r ∈ w.db.transactions, Origin env w r.orderId r.amount

theorem Originated.step {env : Environment} {w w' : World} {e : Event}
    (hreachable : (service env).Reachable (fun _ _ ↦ True) w)
    (hstep : World.step env w e = some w') (h : Originated env w) : Originated env w' := by
  have hledger := ledgerStep_of_step hstep
  refine ⟨h.owned.step hledger, fun c hc ↦ ?_, fun r' hr' ↦ ?_⟩
  · rcases hledger.payments_source with ⟨-, hcreations⟩ |
      ⟨d, request, hcreations, -, today, after, hprepare, hevent⟩
    · exact (h.creations c (hcreations c hc)).tail hstep
    · rw [hcreations, List.mem_cons] at hc
      rcases hc with hc | hc
      · refine Origin.tail ⟨w, hreachable, System.Leads.refl w, LedgerGrows.refl w, ?_⟩ hstep
        rw [hc, amount_of_pay (hevent ▸ hstep) hcreations hprepare]
        exact chargedFor_of_prepare h.owned hprepare
      · exact (h.creations c hc).tail hstep
  · rcases hledger.source hr' with ⟨r, hr, heq⟩ | ⟨c, hc, heq⟩
    · rw [heq]
      exact (h.transactions r hr).tail hstep
    · rw [heq]
      exact (h.creations c hc).tail hstep

/-- In every run, and whatever Kazna answers: the amount of a stored transaction is what its order
stood for at an earlier time of the run, when the order had bills of its user alone and no settled
transaction; since then the order has got no other bill. -/
theorem transaction_charges_bills (env : Environment) (w : World)
    (h : (service env).Reachable (fun _ _ ↦ True) w) (r : Transaction)
    (hr : r ∈ w.db.transactions) : ∃ v, (service env).Reachable (fun _ _ ↦ True) v ∧
      (service env).Leads (fun _ _ ↦ True) v w ∧ LedgerGrows v w ∧
      ChargedFor env v.db.toTables r.orderId r.amount := by
  have horiginated : Originated env w := by
    refine System.Reachable.invariant_of (I := Originated env)
      (J := (service env).Reachable fun _ _ ↦ True) (fun _ ↦ id) ?_ ?_ h
    · intro w hw
      subst hw
      refine ⟨fun s hs ↦ absurd hs (Table.not_mem_empty s),
        fun c hc ↦ absurd hc List.not_mem_nil, fun r hr ↦ absurd hr (Table.not_mem_empty r)⟩
    · intro w e w' hreachable hw _ hstep
      exact hw.step hreachable hstep
  exact horiginated.transactions r hr

/-- The transaction is stored after the bill is gone. -/
def finishedWorld : World :=
  ((service concreteEnv).run (fun _ _ ↦ True) .initial
    (billRun ++ [.createOrder ⟨1, [⟨1⟩]⟩ ⟨1⟩, .pay (concreteCreation ⟨1⟩) ⟨1⟩ 0 ⟨101, none⟩,
      .deleteDocument ⟨1, ⟨1⟩⟩, .finishCreation ⟨1⟩])).get (by decide +kernel)

theorem transaction_charges_bills_witness :
    ∃ r ∈ finishedWorld.db.transactions, ∃ v, (service concreteEnv).Leads (fun _ _ ↦ True) v
      finishedWorld ∧ ChargedFor concreteEnv v.db.toTables r.orderId r.amount := by
  have hr : ∃ r ∈ finishedWorld.db.transactions, r.status = .new := by decide +kernel
  obtain ⟨r, hr, -⟩ := hr
  obtain ⟨v, -, hleads, -, hcharged⟩ :=
    transaction_charges_bills concreteEnv finishedWorld (System.reachable_get rfl _) r hr
  exact ⟨r, hr, v, hleads, hcharged⟩

end YandexPay.BillPayments
