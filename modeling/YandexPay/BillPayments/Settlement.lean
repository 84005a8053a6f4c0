import YandexPay.BillPayments.PaymentStates
import YandexPay.BillPayments.Progress

/-!
# The database and Kazna agree

`KaznaAgrees` relates the stored transactions and the creations in flight to the payments that
Kazna holds: each has its own payment, whose request names the transaction and lists the bills of
its order, and a transaction that is paid or refunded here has been so in Kazna. It holds in every
run in which Kazna returns fresh payment ids and true statuses.

It bounds double payments: two paid transactions for one bill are two payments that Kazna itself
has authorised. It also gives progress: while Kazna holds a payment as authorised, a report of it
succeeds on every stored transaction that is not cancelled, and leaves the order and its bills
paid.
-/

set_option autoImplicit false
set_option relaxedAutoImplicit false

namespace YandexPay.BillPayments

open YandexPay.Transition

/-! ### Payments and their transactions -/

theorem PaymentStatusCode.past_subset {code code' : PaymentStatusCode} (h : code' ∈ code.next) :
    ∀ c ∈ code.past, c ∈ code'.past := by
  revert h
  cases code <;> cases code' <;> decide

/-- A payment was requested for this transaction and lists the bills of this order. -/
structure Payment.Covers (env : Environment) (t : Tables) (p : Payment) (transactionId : UUID)
    (externalPaymentId : String) (orderId : UUID) : Prop where
  requested : p.request.orderId = env.uuidText transactionId
  paymentId : toString p.paymentId = externalPaymentId
  bills : ∀ b ∈ t.bills, t.Contains orderId b.billId →
    b.supplierBillId ∈ p.request.paymentParams.supplierBillId

/-- The stored transactions, the creations in flight and the payments of Kazna agree. -/
structure KaznaAgrees (env : Environment) (w : World) : Prop where
  ids : ∀ p ∈ w.payments, ∀ q ∈ w.payments, p.paymentId = q.paymentId → p = q
  requests : ∀ p ∈ w.payments, ∀ q ∈ w.payments, p.request.orderId = q.request.orderId → p = q
  named : ∀ p ∈ w.payments, ∃ transactionId, p.request.orderId = env.uuidText transactionId
  creations : ∀ c ∈ w.creations, (w.db.orders.get? c.action.orderId).isSome ∧
    ∃ p ∈ w.payments, p.Covers env w.db.toTables c.transactionId
      (toString c.payment.paymentId) c.action.orderId
  transactions : ∀ r ∈ w.db.transactions, ∃ p ∈ w.payments,
    p.Covers env w.db.toTables r.transactionId r.externalPaymentId r.orderId ∧
      (r.status = .paid → .auth ∈ p.status.past) ∧
      (r.status = .refunded → .refunded ∈ p.status.past)

namespace KaznaAgrees

variable {env : Environment} {w w' : World}

/-- The payment whose answer names a stored transaction is the payment of that transaction. -/
theorem payment_of_orderId (h : KaznaAgrees env w) {p q : Payment} {transactionId : UUID}
    (hp : p ∈ w.payments) (hinput : env.uuidInput p.request.orderId = some transactionId)
    (hq : q ∈ w.payments) (hrequested : q.request.orderId = env.uuidText transactionId) :
    p = q := by
  obtain ⟨named, hnamed⟩ := h.named p hp
  rw [hnamed, env.uuidInput_uuidText, Option.some.injEq] at hinput
  refine h.requests p hp q hq ?_
  rw [hnamed, hinput, hrequested]

/-- The payment with the stored external id is the payment of the transaction. -/
theorem payment_of_externalPaymentId (h : KaznaAgrees env w) {p q : Payment}
    (hp : p ∈ w.payments) (hq : q ∈ w.payments)
    (htext : toString p.paymentId = toString q.paymentId) : p = q :=
  h.ids p hp q hq (Decimal.int_toString_injective (congrArg String.toList htext))

/-- A truthful report of a code for a stored transaction is about the payment of the
transaction. -/
theorem reported (h : KaznaAgrees env w) {e : Event} {r : Transaction} {code : PaymentStatusCode}
    (hr : r ∈ w.db.transactions) (htrue : Truthful env w e) (hreports : e.Reports env r code)
    {q : Payment} (hq : q ∈ w.payments)
    (hcovers : q.Covers env w.db.toTables r.transactionId r.externalPaymentId r.orderId) :
    code ∈ q.status.past := by
  cases e with
  | webhook request =>
    obtain ⟨hinput, hcode⟩ := hreports
    obtain ⟨p, hp, hanswers⟩ := htrue
    have horder : request.orderId = p.request.orderId := hanswers.orderId
    rw [horder] at hinput
    have hpq := h.payment_of_orderId hp hinput hq hcovers.requested
    rw [← hpq, ← hcode]
    exact hanswers.code
  | getTransaction transactionId info =>
    obtain ⟨hinput, hcode⟩ := hreports
    obtain ⟨p, hp, htext, hanswers⟩ := htrue r hr hinput
    have hpq := h.payment_of_externalPaymentId hp hq (htext.trans hcovers.paymentId.symm)
    rw [← hpq, ← hcode]
    exact hanswers.code
  | resumeGet transactionId reported =>
    obtain ⟨hinput, hcode⟩ := hreports
    obtain ⟨p, hp, htext, hpast⟩ := htrue r hr hinput
    have hpq := h.payment_of_externalPaymentId hp hq (htext.trans hcovers.paymentId.symm)
    rw [← hpq, ← hcode]
    exact hpast
  | syncStatus action info =>
    obtain ⟨hinput, hcode⟩ := hreports
    obtain ⟨p, hp, -, hanswers⟩ := htrue
    rw [hanswers.orderId] at hinput
    have hpq := h.payment_of_orderId hp hinput hq hcovers.requested
    rw [← hpq, ← hcode]
    exact hanswers.code
  | _ => exact hreports.elim

/-! ### Preservation -/

/-- The coverage of a payment outlives a change of the bills and orders that gives no known order
a bill with another supplier id. -/
theorem covers_mono {t t' : Tables} {p : Payment} {transactionId orderId : UUID}
    {externalPaymentId : String} (hp : p.Covers env t transactionId externalPaymentId orderId)
    (hbills : ∀ b ∈ t'.bills, t'.Contains orderId b.billId →
      ∃ c ∈ t.bills, t.Contains orderId c.billId ∧ c.supplierBillId = b.supplierBillId) :
    p.Covers env t' transactionId externalPaymentId orderId where
  requested := hp.requested
  paymentId := hp.paymentId
  bills := by
    intro b hb hcontains
    obtain ⟨c, hc, hcontains', hsid⟩ := hbills b hb hcontains
    rw [← hsid]
    exact hp.bills c hc hcontains'

/-- A step that changes neither payments nor creations. Assumes: no known order disappears or
gains a bill with another supplier id, and every transaction row comes from a row of the same
payment that was in a status Kazna has confirmed. -/
theorem of_tables (h : KaznaAgrees env w) (hpayments : w'.payments = w.payments)
    (hcreations : ∀ c ∈ w'.creations, c ∈ w.creations)
    (horders : ∀ orderId, (w.db.orders.get? orderId).isSome →
      (w'.db.orders.get? orderId).isSome)
    (hbills : ∀ orderId, (w.db.orders.get? orderId).isSome → ∀ b ∈ w'.db.bills,
      w'.db.toTables.Contains orderId b.billId → ∃ c ∈ w.db.bills,
        w.db.toTables.Contains orderId c.billId ∧ c.supplierBillId = b.supplierBillId)
    (htransactions : ∀ r' ∈ w'.db.transactions, ∃ r ∈ w.db.transactions,
      r'.transactionId = r.transactionId ∧ r'.externalPaymentId = r.externalPaymentId ∧
        r'.orderId = r.orderId ∧ ∀ p ∈ w.payments,
          p.Covers env w.db.toTables r.transactionId r.externalPaymentId r.orderId →
          (r'.status = .paid → r.status = .paid ∨ .auth ∈ p.status.past) ∧
          (r'.status = .refunded → r.status = .refunded ∨ .refunded ∈ p.status.past)) :
    KaznaAgrees env w' where
  ids := by rw [hpayments]; exact h.ids
  requests := by rw [hpayments]; exact h.requests
  named := by rw [hpayments]; exact h.named
  creations := by
    intro c hc
    obtain ⟨horder, p, hp, hcovers⟩ := h.creations c (hcreations c hc)
    rw [hpayments]
    exact ⟨horders _ horder, p, hp, covers_mono hcovers (hbills _ horder)⟩
  transactions := by
    intro r' hr'
    obtain ⟨r, hr, hid, hexternal, horder, hstatus⟩ := htransactions r' hr'
    obtain ⟨p, hp, hcovers, hpaid, hrefunded⟩ := h.transactions r hr
    have hstored := w.db.references.transactions_orderId r hr
    obtain ⟨hpaid', hrefunded'⟩ := hstatus p hp hcovers
    rw [hpayments, hid, hexternal, horder]
    refine ⟨p, hp, covers_mono hcovers (hbills _ hstored), fun hs ↦ ?_, fun hs ↦ ?_⟩
    · rcases hpaid' hs with hold | hpast
      · exact hpaid hold
      · exact hpast
    · rcases hrefunded' hs with hold | hpast
      · exact hrefunded hold
      · exact hpast

/-- The same when the transactions do not change. -/
theorem of_bills (h : KaznaAgrees env w) (hpayments : w'.payments = w.payments)
    (hcreations : ∀ c ∈ w'.creations, c ∈ w.creations)
    (hrows : w'.db.transactions = w.db.transactions)
    (horders : ∀ orderId, (w.db.orders.get? orderId).isSome →
      (w'.db.orders.get? orderId).isSome)
    (hbills : ∀ orderId, (w.db.orders.get? orderId).isSome → ∀ b ∈ w'.db.bills,
      w'.db.toTables.Contains orderId b.billId → ∃ c ∈ w.db.bills,
        w.db.toTables.Contains orderId c.billId ∧ c.supplierBillId = b.supplierBillId) :
    KaznaAgrees env w' := by
  refine h.of_tables hpayments hcreations horders hbills fun r hr ↦ ?_
  rw [hrows] at hr
  exact ⟨r, hr, rfl, rfl, rfl, fun _ _ _ ↦ ⟨Or.inl, Or.inl⟩⟩

theorem contains_of_eq {t t' : Tables} (hrows : t'.billOrders = t.billOrders)
    (hbills : t'.bills = t.bills) (orderId : UUID) :
    ∀ b ∈ t'.bills, t'.Contains orderId b.billId →
      ∃ c ∈ t.bills, t.Contains orderId c.billId ∧ c.supplierBillId = b.supplierBillId := by
  intro b hb hcontains
  rw [Tables.Contains, hrows] at hcontains
  exact ⟨b, hbills ▸ hb, hcontains, rfl⟩

/-- A search keeps the supplier id of every bill of an order. -/
theorem contains_of_refresh {t : Tables} {bills : Table Bill.billId}
    (hrefresh : BillsRefresh t.bills bills)
    (hstored : ∀ s ∈ t.billOrders, (t.bills.get? s.billId).isSome) (orderId : UUID) :
    ∀ b ∈ bills, t.Contains orderId b.billId →
      ∃ c ∈ t.bills, t.Contains orderId c.billId ∧ c.supplierBillId = b.supplierBillId := by
  intro b hb hcontains
  obtain ⟨s, hs, horder, hbill⟩ := hcontains
  obtain ⟨c, hc, hkey⟩ := Table.isSome_get?_iff.mp (hstored s hs)
  obtain ⟨d, hd, hdid, -, hdsid, -⟩ := hrefresh.kept c hc
  have hdb : d = b := Table.eq_of_key_eq hd hb (hdid.trans (hkey.trans hbill))
  exact ⟨c, hc, ⟨s, hs, horder, hkey.symm⟩, by rw [← hdb, hdsid]⟩

/-- A new order changes no known one. -/
theorem contains_of_place {t t' : Tables} {order : Order} (hplaced : OrderPlaced order t t')
    {orderId : UUID} (hstored : (t.orders.get? orderId).isSome) :
    ∀ b ∈ t'.bills, t'.Contains orderId b.billId →
      ∃ c ∈ t.bills, t.Contains orderId c.billId ∧ c.supplierBillId = b.supplierBillId := by
  rintro b hb ⟨s, hs, horder, hbill⟩
  rw [hplaced.others.2.2.1] at hb
  refine ⟨b, hb, ?_, rfl⟩
  rcases hplaced.added s hs with hs | ⟨hnew, -⟩
  · exact ⟨s, hs, horder, hbill⟩
  · rw [horder] at hnew
    rw [hnew, hplaced.fresh] at hstored
    cases hstored

/-- A payment with a name of its own leaves the names unambiguous. -/
theorem eq_of_mem_cons {β : Type} {f : Payment → β} {l : List Payment} {new : Payment}
    (h : ∀ p ∈ l, ∀ q ∈ l, f p = f q → p = q) (hnew : ∀ p ∈ l, f p ≠ f new) :
    ∀ p ∈ new :: l, ∀ q ∈ new :: l, f p = f q → p = q := by
  intro p hp q hq hpq
  rcases List.mem_cons.mp hp with hp | hp <;> rcases List.mem_cons.mp hq with hq | hq
  · rw [hp, hq]
  · exact absurd (by rw [← hpq, hp]) (hnew q hq)
  · exact absurd (by rw [hpq, hq]) (hnew p hp)
  · exact h p hp q hq hpq

/-- A payment that Kazna has returned for a creation joins the payments. -/
theorem pay (h : KaznaAgrees env w) {c : Creation} {today : ℤ} {request : PayRequest}
    {after : Database}
    (hprepare : c.action.prepare env today c.transactionId w.db = .ok (request, after))
    (hids : ∀ p ∈ w.payments, p.paymentId ≠ c.payment.paymentId)
    (hrequests : ∀ p ∈ w.payments, p.request.orderId ≠ env.uuidText c.transactionId)
    (hdb : w'.db = w.db)
    (hpayments : w'.payments = ⟨c.payment.paymentId, request, .created⟩ :: w.payments)
    (hcreations : w'.creations = c :: w.creations) : KaznaAgrees env w' := by
  obtain ⟨⟨u, hlock⟩, hrequest, -, hlists⟩ := CreateTransactionAction.prepare_ok hprepare
  obtain ⟨horder, -, -⟩ := CreateTransactionAction.lockOrder_ok hlock
  refine ⟨?_, ?_, ?_, ?_, ?_⟩
  · rw [hpayments]
    exact eq_of_mem_cons h.ids hids
  · rw [hpayments]
    refine eq_of_mem_cons (f := fun p ↦ p.request.orderId) h.requests fun p hp ↦ ?_
    rw [hrequest]
    exact hrequests p hp
  · rw [hpayments]
    intro p hp
    rcases List.mem_cons.mp hp with hp | hp
    · exact ⟨c.transactionId, by rw [hp, hrequest]⟩
    · exact h.named p hp
  · rw [hpayments, hcreations, hdb]
    intro d hd
    rcases List.mem_cons.mp hd with hd | hd
    · rw [hd]
      refine ⟨horder, _, List.mem_cons_self, hrequest, rfl, ?_⟩
      rintro b hb ⟨s, hs, hsorder, hsbill⟩
      exact hlists s hs hsorder b hb hsbill.symm
    · obtain ⟨hdorder, p, hp, hcovers⟩ := h.creations d hd
      exact ⟨hdorder, p, List.mem_cons_of_mem _ hp, hcovers⟩
  · rw [hpayments, hdb]
    intro r hr
    obtain ⟨p, hp, hrest⟩ := h.transactions r hr
    exact ⟨p, List.mem_cons_of_mem _ hp, hrest⟩

/-- A creation in flight turns into a stored transaction. -/
theorem create (h : KaznaAgrees env w) {c : Creation} (hc : c ∈ w.creations)
    {result : Transaction × Option AcsUrl}
    (hcommit : c.action.commit c.transactionId c.amount c.payment w.db = .ok (result, w'.db))
    (hpayments : w'.payments = w.payments) (hcreations : ∀ d ∈ w'.creations, d ∈ w.creations) :
    KaznaAgrees env w' := by
  obtain ⟨-, hfree, -, hdb⟩ := CreateTransactionAction.commit_ok hcommit
  have hmono : ∀ {p : Payment} {transactionId orderId : UUID} {externalPaymentId : String},
      p.Covers env w.db.toTables transactionId externalPaymentId orderId →
        p.Covers env w'.db.toTables transactionId externalPaymentId orderId := by
    intro p transactionId orderId externalPaymentId hp
    exact covers_mono hp (contains_of_eq (by rw [hdb]) (by rw [hdb]) orderId)
  refine ⟨by rw [hpayments]; exact h.ids, by rw [hpayments]; exact h.requests,
    by rw [hpayments]; exact h.named, ?_, ?_⟩
  · intro d hd
    obtain ⟨horder, p, hp, hcovers⟩ := h.creations d (hcreations d hd)
    refine ⟨?_, p, by rw [hpayments]; exact hp, hmono hcovers⟩
    rw [hdb]
    exact horder
  · intro r hr
    have hr' : r ∈ c.action.created c.transactionId c.amount c.payment w.db.transactions := by
      rw [hdb] at hr
      exact hr
    rw [hpayments]
    rcases (CreateTransactionAction.mem_created hfree).mp hr' with ⟨s, hs, hrs⟩ | hnew
    · obtain ⟨p, hp, hcovers, hpaid, hrefunded⟩ := h.transactions s hs
      by_cases horder : s.orderId = c.action.orderId
      · rw [if_pos horder] at hrs
        rw [hrs]
        exact ⟨p, hp, hmono hcovers, fun hs ↦ TransactionStatus.noConfusion hs,
          fun hs ↦ TransactionStatus.noConfusion hs⟩
      · rw [if_neg horder] at hrs
        rw [hrs]
        exact ⟨p, hp, hmono hcovers, hpaid, hrefunded⟩
    · obtain ⟨-, p, hp, hcovers⟩ := h.creations c hc
      rw [hnew]
      exact ⟨p, hp, hmono hcovers, fun hs ↦ TransactionStatus.noConfusion hs,
        fun hs ↦ TransactionStatus.noConfusion hs⟩

/-- A payment moves along its flow. -/
theorem kaznaMoves (h : KaznaAgrees env w) {paymentId : ℤ} {code : PaymentStatusCode}
    (hdb : w'.db = w.db) (hcreations : w'.creations = w.creations)
    (hpayments : w'.payments = w.payments.map fun p ↦
      if p.paymentId = paymentId ∧ code ∈ p.status.next then { p with status := code } else p) :
    KaznaAgrees env w' := by
  have hmoved : ∀ p : Payment, ∀ p', p' = (if p.paymentId = paymentId ∧ code ∈ p.status.next
      then { p with status := code } else p) → p'.paymentId = p.paymentId ∧
        p'.request = p.request ∧ ∀ c ∈ p.status.past, c ∈ p'.status.past := by
    intro p p' hp'
    by_cases hmoves : p.paymentId = paymentId ∧ code ∈ p.status.next
    · rw [if_pos hmoves] at hp'
      rw [hp']
      exact ⟨rfl, rfl, PaymentStatusCode.past_subset hmoves.2⟩
    · rw [if_neg hmoves] at hp'
      rw [hp']
      exact ⟨rfl, rfl, fun _ hc ↦ hc⟩
  have hold : ∀ p' ∈ w'.payments, ∃ p ∈ w.payments, p' = (if p.paymentId = paymentId ∧
      code ∈ p.status.next then { p with status := code } else p) := by
    intro p' hp'
    rw [hpayments] at hp'
    obtain ⟨p, hp, rfl⟩ := List.mem_map.mp hp'
    exact ⟨p, hp, rfl⟩
  have hnew : ∀ p ∈ w.payments, ∃ p' ∈ w'.payments, p'.paymentId = p.paymentId ∧
      p'.request = p.request ∧ ∀ c ∈ p.status.past, c ∈ p'.status.past := by
    intro p hp
    refine ⟨_, ?_, hmoved p _ rfl⟩
    rw [hpayments]
    exact List.mem_map_of_mem hp
  have hcovers : ∀ {p p' : Payment} {transactionId orderId : UUID} {externalPaymentId : String},
      p'.paymentId = p.paymentId → p'.request = p.request →
      p.Covers env w.db.toTables transactionId externalPaymentId orderId →
        p'.Covers env w.db.toTables transactionId externalPaymentId orderId := by
    intro p p' transactionId orderId externalPaymentId hid hrequest hp
    exact ⟨hrequest ▸ hp.requested, hid ▸ hp.paymentId, hrequest ▸ hp.bills⟩
  refine ⟨?_, ?_, ?_, ?_, ?_⟩
  · intro p' hp' q' hq' heq
    obtain ⟨p, hp, hpp'⟩ := hold p' hp'
    obtain ⟨q, hq, hqq'⟩ := hold q' hq'
    rw [(hmoved p p' hpp').1, (hmoved q q' hqq').1] at heq
    rw [hpp', hqq', h.ids p hp q hq heq]
  · intro p' hp' q' hq' heq
    obtain ⟨p, hp, hpp'⟩ := hold p' hp'
    obtain ⟨q, hq, hqq'⟩ := hold q' hq'
    rw [(hmoved p p' hpp').2.1, (hmoved q q' hqq').2.1] at heq
    rw [hpp', hqq', h.requests p hp q hq heq]
  · intro p' hp'
    obtain ⟨p, hp, hpp'⟩ := hold p' hp'
    obtain ⟨transactionId, hnamed⟩ := h.named p hp
    exact ⟨transactionId, by rw [(hmoved p p' hpp').2.1, hnamed]⟩
  · rw [hcreations, hdb]
    intro c hc
    obtain ⟨horder, p, hp, hp'⟩ := h.creations c hc
    obtain ⟨p', hpmem, hid, hrequest, -⟩ := hnew p hp
    exact ⟨horder, p', hpmem, hcovers hid hrequest hp'⟩
  · rw [hdb]
    intro r hr
    obtain ⟨p, hp, hp', hpaid, hrefunded⟩ := h.transactions r hr
    obtain ⟨p', hpmem, hid, hrequest, hpast⟩ := hnew p hp
    exact ⟨p', hpmem, hcovers hid hrequest hp', fun hs ↦ hpast _ (hpaid hs),
      fun hs ↦ hpast _ (hrefunded hs)⟩

/-- A truthful report settles or closes only what Kazna has confirmed. -/
theorem report (h : KaznaAgrees env w) {r r' : Transaction} {code : PaymentStatusCode}
    (hr : r ∈ w.db.transactions)
    (hconfirmed : ∀ p ∈ w.payments,
      p.Covers env w.db.toTables r.transactionId r.externalPaymentId r.orderId →
        code ∈ p.status.past)
    (hmove : StatusMove code r r' w.db.toTables w'.db.toTables)
    (hpayments : w'.payments = w.payments) (hcreations : w'.creations = w.creations) :
    KaznaAgrees env w' := by
  have hin : ∀ c ∈ w'.creations, c ∈ w.creations := fun c hc ↦ hcreations ▸ hc
  have hrows : ∀ (status : TransactionStatus),
      (status = .paid → code = .auth) → (status = .refunded → code = .refunded) →
      ∀ s' ∈ w.db.transactions.replace { r with status }, ∃ s ∈ w.db.transactions,
        s'.transactionId = s.transactionId ∧ s'.externalPaymentId = s.externalPaymentId ∧
          s'.orderId = s.orderId ∧ ∀ p ∈ w.payments,
            p.Covers env w.db.toTables s.transactionId s.externalPaymentId s.orderId →
            (s'.status = .paid → s.status = .paid ∨ .auth ∈ p.status.past) ∧
            (s'.status = .refunded → s.status = .refunded ∨ .refunded ∈ p.status.past) := by
    intro status hpaid hrefunded s' hs'
    rcases Table.mem_replace.mp hs' with ⟨hs', -⟩ | ⟨hs', -⟩
    · exact ⟨s', hs', rfl, rfl, rfl, fun _ _ _ ↦ ⟨Or.inl, Or.inl⟩⟩
    · refine ⟨r, hr, by rw [hs'], by rw [hs'], by rw [hs'], fun p hp hcovers ↦ ⟨?_, ?_⟩⟩
      · intro hstatus
        rw [hs'] at hstatus
        rw [← hpaid hstatus]
        exact Or.inr (hconfirmed p hp hcovers)
      · intro hstatus
        rw [hs'] at hstatus
        rw [← hrefunded hstatus]
        exact Or.inr (hconfirmed p hp hcovers)
  cases hmove with
  | kept _ htables =>
    refine h.of_bills hpayments hin (by rw [htables]) (by rw [htables]; exact fun _ ↦ id) ?_
    intro orderId _
    exact contains_of_eq (by rw [htables]) (by rw [htables]) orderId
  | closed hrow htables =>
    refine h.of_tables hpayments hin (by rw [htables]; exact fun _ ↦ id) ?_ ?_
    · intro orderId _
      exact contains_of_eq (by rw [htables]) (by rw [htables]) orderId
    · rw [htables]
      rcases hrow with ⟨-, -, rfl⟩ | ⟨hcode, -, rfl⟩
      · exact hrows .cancelled (fun hs ↦ by cases hs) fun hs ↦ by cases hs
      · exact hrows .refunded (fun hs ↦ by cases hs) fun _ ↦ hcode
  | paid hcode _ hrow _ _ htables =>
    refine h.of_tables hpayments hin ?_ ?_ ?_
    · intro orderId horder
      have horders : w'.db.orders = (w.db.toTables.paid r.orderId).orders := by rw [htables]
      rw [horders, Tables.paid, Table.get?_update, Option.isSome_map]
      exact horder
    · rintro orderId - b hb ⟨s, hs, hsorder, hsbill⟩
      rw [htables] at hb hs
      obtain ⟨c, hc, hbc⟩ := Tables.mem_paid_bills.mp hb
      refine ⟨c, hc, ⟨s, hs, hsorder, ?_⟩, ?_⟩
      · rw [hsbill, hbc]
        split_ifs <;> rfl
      · rw [hbc]
        split_ifs <;> rfl
    · rw [htables, hrow]
      exact hrows .paid (fun _ ↦ hcode) fun hs ↦ by cases hs

/-- Every event of a truthful run keeps the agreement. -/
theorem step {e : Event} (hstep : LedgerStep env e w w') (htrue : Truthful env w e)
    (h : KaznaAgrees env w) : KaznaAgrees env w' := by
  cases hstep with
  | keep hledger hpayments hcreations =>
    refine h.of_bills hpayments (fun c hc ↦ hcreations ▸ hc) hledger.transactions
      (by rw [hledger.orders]; exact fun _ ↦ id) fun orderId _ ↦ ?_
    exact contains_of_eq hledger.billOrders hledger.bills orderId
  | refresh hrefresh hledger hpayments hcreations =>
    have hrows : w'.db.billOrders = w.db.billOrders := hledger.billOrders
    have horders : w'.db.orders = w.db.orders := hledger.orders
    refine h.of_bills hpayments (fun c hc ↦ hcreations ▸ hc) hledger.transactions
      (by rw [horders]; exact fun _ ↦ id) fun orderId _ b hb hcontains ↦ ?_
    rw [Tables.Contains, hrows] at hcontains
    exact contains_of_refresh hrefresh w.db.references.billOrders_billId orderId b hb hcontains
  | place order hplaced hpayments hcreations =>
    refine h.of_bills hpayments (fun c hc ↦ hcreations ▸ hc) hplaced.others.2.2.2.1 ?_
      fun orderId hstored ↦ contains_of_place hplaced hstored
    intro orderId hstored
    rw [hplaced.orders, Table.get?_insert hplaced.fresh]
    split_ifs
    · rfl
    · exact hstored
  | pay c today hevent request after hprepare _ hdb hpayments hcreations =>
    subst hevent
    obtain ⟨hids, hrequests, -⟩ := htrue
    exact h.pay hprepare hids hrequests hdb hpayments hcreations
  | create c hc result hcommit hpayments hcreations =>
    exact h.create hc hcommit hpayments
      fun d hd ↦ (List.mem_filter.mp (hcreations ▸ hd)).1
  | abandon hdb hpayments hcreations =>
    refine h.of_bills hpayments hcreations (by rw [hdb]) (by rw [hdb]; exact fun _ ↦ id)
      fun orderId _ ↦ ?_
    exact contains_of_eq (by rw [hdb]) (by rw [hdb]) orderId
  | report r r' code hr hreports hmove hpayments hcreations =>
    exact h.report hr (fun p hp hcovers ↦ h.reported hr htrue hreports hp hcovers) hmove
      hpayments hcreations
  | cascade action _ hledger hpayments hcreations =>
    have hbills := hledger.bills
    have hrows := hledger.billOrders
    have horders : w'.db.orders = w.db.orders := hledger.orders
    refine h.of_bills hpayments (fun c hc ↦ hcreations ▸ hc) hledger.transactions
      (by rw [horders]; exact fun _ ↦ id) ?_
    rintro orderId - b hb ⟨s, hs, hids⟩
    rw [hbills] at hb
    rw [hrows] at hs
    exact ⟨b, (Table.mem_keep.mp hb).1, ⟨s, (Table.mem_keep.mp hs).1, hids⟩, rfl⟩
  | kaznaMoves hdb hcreations hpayments =>
    obtain ⟨paymentId, code, hpayments⟩ := hpayments
    exact h.kaznaMoves hdb hcreations hpayments

end KaznaAgrees

theorem kaznaAgrees_of_reachable {env : Environment} {w : World}
    (h : (service env).Reachable (Truthful env) w) : KaznaAgrees env w := by
  refine System.Reachable.invariant (I := KaznaAgrees env) ?_ ?_ h
  · intro w hw
    subst hw
    refine ⟨?_, ?_, ?_, ?_, ?_⟩
    · exact fun p hp ↦ absurd hp List.not_mem_nil
    · exact fun p hp ↦ absurd hp List.not_mem_nil
    · exact fun p hp ↦ absurd hp List.not_mem_nil
    · exact fun c hc ↦ absurd hc List.not_mem_nil
    · exact fun r hr ↦ absurd hr (Table.not_mem_empty r)
  · intro w e w' hw htrue hstep
    exact hw.step (ledgerStep_of_step hstep) htrue

/-! ### Double payments -/

/-- Assumes: a run in which Kazna returns fresh payment ids and reports true statuses. Two paid
transactions of two different orders that contain one bill belong to two different payments, both
authorised by Kazna, whose requests both list the supplier id of the bill. -/
theorem double_payment_authorised_twice (env : Environment) (w : World)
    (h : (service env).Reachable (Truthful env) w) :
    ∀ r ∈ w.db.transactions, ∀ s ∈ w.db.transactions, r.status = .paid → s.status = .paid →
      r.orderId ≠ s.orderId → ∀ b ∈ w.db.bills, w.db.toTables.Contains r.orderId b.billId →
        w.db.toTables.Contains s.orderId b.billId →
          ∃ p ∈ w.payments, ∃ q ∈ w.payments, p.paymentId ≠ q.paymentId ∧
            p.request.orderId = env.uuidText r.transactionId ∧
            q.request.orderId = env.uuidText s.transactionId ∧
            .auth ∈ p.status.past ∧ .auth ∈ q.status.past ∧
            b.supplierBillId ∈ p.request.paymentParams.supplierBillId ∧
            b.supplierBillId ∈ q.request.paymentParams.supplierBillId := by
  have hagrees := kaznaAgrees_of_reachable h
  intro r hr s hs hrpaid hspaid horders b hb hrb hsb
  obtain ⟨p, hp, hpcovers, hpauth, -⟩ := hagrees.transactions r hr
  obtain ⟨q, hq, hqcovers, hqauth, -⟩ := hagrees.transactions s hs
  have hne : p.paymentId ≠ q.paymentId := by
    intro hpq
    have hsame := hagrees.ids p hp q hq hpq
    have htext : env.uuidText r.transactionId = env.uuidText s.transactionId := by
      rw [← hpcovers.requested, ← hqcovers.requested, hsame]
    have hrs : r = s := Table.eq_of_key_eq hr hs (env.uuidText_injective htext)
    exact horders (by rw [hrs])
  exact ⟨p, hp, q, hq, hne, hpcovers.requested, hqcovers.requested, hpauth hrpaid,
    hqauth hspaid, hpcovers.bills b hb hrb, hqcovers.bills b hb hsb⟩

/-- One fine in two orders, and both orders paid. -/
def doublePaidWorld : World :=
  ((service concreteEnv).run (Truthful concreteEnv) .initial
    (billRun ++ .createOrder ⟨1, [⟨1⟩]⟩ ⟨1⟩ :: .createOrder ⟨1, [⟨1⟩]⟩ ⟨2⟩ ::
      createRun ⟨1⟩ ⟨1⟩ 101 ++ createRun ⟨2⟩ ⟨2⟩ 102 ++ authRun ⟨1⟩ 101 ++
      authRun ⟨2⟩ 102)).get (by decide +kernel)

/-- Two paid transactions of two orders that contain one bill, in a truthful run. -/
theorem bill_paid_in_two_orders :
    (service concreteEnv).Reachable (Truthful concreteEnv) doublePaidWorld ∧
      ∃ r ∈ doublePaidWorld.db.transactions, ∃ s ∈ doublePaidWorld.db.transactions,
        r.status = .paid ∧ s.status = .paid ∧ r.orderId ≠ s.orderId ∧
          (⟨⟨1⟩, r.orderId⟩ : BillOrder) ∈ doublePaidWorld.db.billOrders ∧
          (⟨⟨1⟩, s.orderId⟩ : BillOrder) ∈ doublePaidWorld.db.billOrders :=
  ⟨System.reachable_get rfl _, by decide +kernel⟩

/-- The two payments of the doubly paid fine. -/
theorem double_payment_authorised_twice_witness :
    (∃ r ∈ doublePaidWorld.db.transactions, ∃ s ∈ doublePaidWorld.db.transactions,
      r.status = .paid ∧ s.status = .paid ∧ r.orderId ≠ s.orderId) ∧
    ∀ r ∈ doublePaidWorld.db.transactions, ∀ s ∈ doublePaidWorld.db.transactions,
      r.status = .paid → s.status = .paid → r.orderId ≠ s.orderId →
        ∀ b ∈ doublePaidWorld.db.bills,
          doublePaidWorld.db.toTables.Contains r.orderId b.billId →
          doublePaidWorld.db.toTables.Contains s.orderId b.billId →
            ∃ p ∈ doublePaidWorld.payments, ∃ q ∈ doublePaidWorld.payments,
              p.paymentId ≠ q.paymentId := by
  refine ⟨by decide +kernel, ?_⟩
  intro r hr s hs hrpaid hspaid horders b hb hrb hsb
  obtain ⟨p, hp, q, hq, hne, -⟩ := double_payment_authorised_twice concreteEnv doublePaidWorld
    (System.reachable_get rfl _) r hr s hs hrpaid hspaid horders b hb hrb hsb
  exact ⟨p, hp, q, hq, hne⟩

/-! ### Reports of authorised payments -/

/-- The orders of transactions and of creations in flight have bills. -/
structure BilledOrders (w : World) : Prop where
  transactions : ∀ r ∈ w.db.transactions, ∃ s ∈ w.db.billOrders, s.orderId = r.orderId
  creations : ∀ c ∈ w.creations, ∃ s ∈ w.db.billOrders, s.orderId = c.action.orderId

namespace BilledOrders

variable {w w' : World}

theorem of_rows (h : BilledOrders w) (hbills : ∀ s ∈ w.db.billOrders, s ∈ w'.db.billOrders)
    (hrows : ∀ r' ∈ w'.db.transactions, (∃ r ∈ w.db.transactions, r.orderId = r'.orderId) ∨
      ∃ c ∈ w.creations, c.action.orderId = r'.orderId)
    (hcreations : ∀ c ∈ w'.creations, c ∈ w.creations) : BilledOrders w' where
  transactions := by
    intro r' hr'
    rcases hrows r' hr' with ⟨r, hr, horder⟩ | ⟨c, hc, horder⟩
    · obtain ⟨s, hs, hsorder⟩ := h.transactions r hr
      exact ⟨s, hbills s hs, hsorder.trans horder⟩
    · obtain ⟨s, hs, hsorder⟩ := h.creations c hc
      exact ⟨s, hbills s hs, hsorder.trans horder⟩
  creations := by
    intro c hc
    obtain ⟨s, hs, hsorder⟩ := h.creations c (hcreations c hc)
    exact ⟨s, hbills s hs, hsorder⟩

/-- A status code keeps the bills of orders and the orders of transactions. -/
theorem rows_of_move {code : PaymentStatusCode} {r r' : Transaction} {t t' : Tables}
    (hr : r ∈ t.transactions) (hmove : StatusMove code r r' t t') :
    t'.billOrders = t.billOrders ∧
      ∀ s' ∈ t'.transactions, ∃ s ∈ t.transactions, s.orderId = s'.orderId := by
  have hreplace : ∀ {x : Transaction}, x.orderId = r.orderId →
      ∀ s' ∈ t.transactions.replace x, ∃ s ∈ t.transactions, s.orderId = s'.orderId := by
    intro x hx s' hs'
    rcases Table.mem_replace.mp hs' with ⟨hs', -⟩ | ⟨hs', -⟩
    · exact ⟨s', hs', rfl⟩
    · rw [hs']
      exact ⟨r, hr, hx.symm⟩
  cases hmove with
  | kept _ htables =>
    rw [htables]
    exact ⟨rfl, fun s hs ↦ ⟨s, hs, rfl⟩⟩
  | closed hrow htables =>
    rw [htables]
    refine ⟨rfl, hreplace ?_⟩
    rcases hrow with ⟨-, -, hrow⟩ | ⟨-, -, hrow⟩ <;> rw [hrow]
  | paid _ _ hrow _ _ htables =>
    rw [htables]
    exact ⟨rfl, hreplace (by rw [hrow])⟩

theorem step {env : Environment} {e : Event} (hstep : LedgerStep env e w w')
    (hkeeps : KeepsDocuments w e) (h : BilledOrders w) : BilledOrders w' := by
  have hsame : w'.db = w.db → (∀ c ∈ w'.creations, c ∈ w.creations) → BilledOrders w' := by
    intro hdb hcreations
    exact h.of_rows (by rw [hdb]; exact fun _ ↦ id)
      (by rw [hdb]; exact fun r hr ↦ Or.inl ⟨r, hr, rfl⟩) hcreations
  cases hstep with
  | keep hledger _ hcreations =>
    refine h.of_rows (by rw [hledger.billOrders]; exact fun _ ↦ id) ?_
      fun c hc ↦ hcreations ▸ hc
    rw [hledger.transactions]
    exact fun r hr ↦ Or.inl ⟨r, hr, rfl⟩
  | refresh _ hledger _ hcreations =>
    have hbills : w'.db.billOrders = w.db.billOrders := hledger.billOrders
    have hrows : w'.db.transactions = w.db.transactions := hledger.transactions
    refine h.of_rows (by rw [hbills]; exact fun _ ↦ id) ?_ fun c hc ↦ hcreations ▸ hc
    rw [hrows]
    exact fun r hr ↦ Or.inl ⟨r, hr, rfl⟩
  | place order hplaced _ hcreations =>
    refine h.of_rows hplaced.kept ?_ fun c hc ↦ hcreations ▸ hc
    rw [hplaced.others.2.2.2.1]
    exact fun r hr ↦ Or.inl ⟨r, hr, rfl⟩
  | pay c today _ request after hprepare _ hdb _ hcreations =>
    obtain ⟨-, -, hbilled, -⟩ := CreateTransactionAction.prepare_ok hprepare
    refine ⟨by rw [hdb]; exact h.transactions, ?_⟩
    rw [hdb, hcreations]
    intro d hd
    rcases List.mem_cons.mp hd with hd | hd
    · rw [hd]
      exact hbilled
    · exact h.creations d hd
  | create c hc result hcommit _ hcreations =>
    obtain ⟨-, hfree, -, hdb⟩ := CreateTransactionAction.commit_ok hcommit
    refine h.of_rows (by rw [hdb]; exact fun _ ↦ id) ?_
      fun d hd ↦ (List.mem_filter.mp (hcreations ▸ hd)).1
    intro r hr
    rw [hdb] at hr
    rcases (CreateTransactionAction.mem_created hfree).mp hr with ⟨s, hs, hrs⟩ | hnew
    · refine Or.inl ⟨s, hs, ?_⟩
      rw [hrs]
      split_ifs <;> rfl
    · exact Or.inr ⟨c, hc, by rw [hnew]; rfl⟩
  | abandon hdb _ hcreations => exact hsame hdb hcreations
  | report r r' code hr _ hmove _ hcreations =>
    obtain ⟨hbills, hrows⟩ := rows_of_move hr hmove
    exact h.of_rows (by rw [hbills]; exact fun _ ↦ id) (fun s hs ↦ Or.inl (hrows s hs))
      fun c hc ↦ hcreations ▸ hc
  | cascade action hevent =>
    subst hevent
    exact hkeeps.elim
  | kaznaMoves hdb hcreations => exact hsame hdb fun c hc ↦ hcreations ▸ hc

end BilledOrders

/-- A truthful run that deletes no document. -/
def Undisturbed (env : Environment) (w : World) (e : Event) : Prop :=
  Truthful env w e ∧ KeepsDocuments w e

instance (env : Environment) (w : World) (e : Event) : Decidable (Undisturbed env w e) :=
  inferInstanceAs (Decidable (Truthful env w e ∧ KeepsDocuments w e))

theorem billedOrders_of_reachable {env : Environment} {w : World}
    (h : (service env).Reachable (Undisturbed env) w) : BilledOrders w := by
  refine System.Reachable.invariant (I := BilledOrders) ?_ ?_ h
  · intro w hw
    subst hw
    exact ⟨fun r hr ↦ absurd hr (Table.not_mem_empty r), fun c hc ↦ absurd hc List.not_mem_nil⟩
  · intro w e w' hw hpolicy hstep
    exact hw.step (ledgerStep_of_step hstep) hpolicy.2

/-- An order and all its bills are paid. -/
def Tables.OrderPaid (t : Tables) (orderId : UUID) : Prop :=
  (∃ o ∈ t.orders, o.orderId = orderId ∧ o.status = .paid) ∧
    ∀ s ∈ t.billOrders, s.orderId = orderId → ∃ b ∈ t.bills, b.billId = s.billId ∧
      b.status = .paid

/-- The action succeeds and leaves the order and all its bills paid. -/
def Settles {α : Type} (action : Action α) (db : Database) (orderId : UUID) : Prop :=
  ∃ result db', action db = .ok (result, db') ∧ db'.toTables.OrderPaid orderId

theorem orderPaid_of_settled {db : Database} (h : PaymentStates db.toTables) {r : Transaction}
    (hr : r ∈ db.transactions) (hsettled : r.Settled) : db.toTables.OrderPaid r.orderId := by
  obtain ⟨o, ho, horder, hpaid⟩ := h.settled_order r hr hsettled
  refine ⟨⟨o, ho, horder, hpaid⟩, fun s hs hsorder ↦ ?_⟩
  obtain ⟨b, hb, hkey⟩ := Table.isSome_get?_iff.mp (db.references.billOrders_billId s hs)
  exact ⟨b, hb, hkey,
    h.order_bills o ho hpaid b hb ⟨s, hs, hsorder.trans horder.symm, hkey.symm⟩⟩

/-- The code of an authorised payment succeeds on its transaction unless that is cancelled. -/
theorem changeStatus_auth_settles {env : Environment} {w : World}
    (h : (service env).Reachable (Undisturbed env) w) {p : Payment} (hp : p ∈ w.payments)
    (hauth : p.status = .auth) {r : Transaction} (hr : r ∈ w.db.transactions)
    (hrequest : p.request.orderId = env.uuidText r.transactionId)
    (hopen : r.status ≠ .cancelled) :
    ∃ r' db', changeStatus .auth r w.db = .ok (r', db') ∧
      db'.toTables.OrderPaid r.orderId := by
  have hstates := paymentStates_of_reachable (h.mono fun _ _ hpolicy ↦ hpolicy.2)
  have hagrees := kaznaAgrees_of_reachable (h.mono fun _ _ hpolicy ↦ hpolicy.1)
  obtain ⟨q, hq, hcovers, -, hrefunded⟩ := hagrees.transactions r hr
  have hqp : q = p := hagrees.requests q hq p hp (hcovers.requested.trans hrequest.symm)
  cases hstatus : r.status with
  | new =>
    obtain ⟨db', hchange⟩ := exists_changeStatus_auth hr hstatus
      ((billedOrders_of_reachable h).transactions r hr)
    refine ⟨_, db', hchange, ?_⟩
    have hmove := changeStatus_ok hchange
    have hstates' := hstates.move hr hmove
    refine orderPaid_of_settled (r := { r with status := .paid }) hstates' ?_ (Or.inl rfl)
    have hrow : ({ r with status := .paid } : Transaction) ∈
        w.db.transactions.replace { r with status := .paid } :=
      Table.mem_replace.mpr (Or.inr ⟨rfl, r, hr, rfl⟩)
    cases hmove with
    | kept hsame _ =>
      have hstatus' := congrArg Transaction.status hsame
      rw [hstatus] at hstatus'
      cases hstatus'
    | closed hclosed _ => rcases hclosed with ⟨hc, -, -⟩ | ⟨hc, -, -⟩ <;> cases hc
    | paid _ _ _ _ _ htables =>
      rw [htables]
      exact hrow
  | paid =>
    exact ⟨r, w.db, changeStatus_auth_of_paid hstatus,
      orderPaid_of_settled hstates hr (Or.inl hstatus)⟩
  | cancelled => exact absurd hstatus hopen
  | refunded =>
    have hpast := hrefunded hstatus
    rw [hqp, hauth] at hpast
    simp [PaymentStatusCode.past] at hpast

/-- `GetTransactionAction` asks Kazna about a new transaction only; a transaction that is paid has a
paid order already. -/
theorem getTransaction_settles {env : Environment} {db db' : Database} {r r' : Transaction}
    {transactionId : String}
    {paymentInfo : String → Except (Option KaznaAPIErrorCode) PaymentInfoResponse}
    {info : PaymentInfoResponse} (hr : r ∈ db.transactions)
    (hid : env.uuidInput transactionId = some r.transactionId)
    (hinfo : paymentInfo r.externalPaymentId = .ok info) (hcode : info.status.code = .auth)
    (hchange : changeStatus .auth r db = .ok (r', db'))
    (hsettled : db'.toTables.OrderPaid r.orderId) :
    Settles (getTransaction env paymentInfo transactionId) db r.orderId := by
  have hget : (Tx.mapError
      (fun e ↦ if e = .doesNotExist .transaction then .transactionNotFound else e)
      (transactionMapper.get r.transactionId)) db = .ok (r, db) :=
    Tx.mapError_eq_ok.mpr (Mapper.get_eq_ok.mpr ⟨Table.get?_key hr, rfl⟩)
  by_cases hnew : r.status = .new
  · refine ⟨r', db', ?_, hsettled⟩
    simp only [getTransaction, hid]
    rw [Tx.bind_eq_ok]
    refine ⟨r, db, hget, ?_⟩
    rw [if_neg (not_not.mpr hnew)]
    simp only [hinfo, hcode, reduceCtorEq, if_false]
    rw [Tx.bind_eq_ok]
    exact ⟨some r', db', updateTransactionStatus_of_changeStatus hr hid hchange, rfl⟩
  · have hpaid : r.status = .paid := by
      obtain ⟨status, htrigger⟩ : ∃ status, trigger .auth r.status = some status := by
        unfold changeStatus at hchange
        cases htrigger : trigger .auth r.status with
        | none =>
          rw [htrigger] at hchange
          exact (Tx.throw_ne_ok.mp hchange).elim
        | some status => exact ⟨status, rfl⟩
      revert htrigger hnew
      cases r.status <;> cases status <;> decide
    have hsame : db' = db := by
      rw [changeStatus_auth_of_paid hpaid] at hchange
      cases hchange
      rfl
    refine ⟨r, db, ?_, hsame ▸ hsettled⟩
    simp only [getTransaction, hid]
    rw [Tx.bind_eq_ok]
    refine ⟨r, db, hget, ?_⟩
    rw [if_pos hnew]
    rfl

/-- Assumes: a run in which Kazna returns fresh payment ids and true statuses and no document is
deleted. While Kazna holds a payment as authorised and its transaction is stored and not cancelled,
a report of it succeeds on each of the three paths and leaves the order and its bills paid; so does
the second half of `GetTransactionAction`, when its first half lies further back. -/
theorem auth_report_settles_order (env : Environment) (w : World)
    (h : (service env).Reachable (Undisturbed env) w) (p : Payment) (hp : p ∈ w.payments)
    (hauth : p.status = .auth) (r : Transaction) (hr : r ∈ w.db.transactions)
    (hrequest : p.request.orderId = env.uuidText r.transactionId)
    (hopen : r.status ≠ .cancelled) :
    (∀ request : WebhookPaymentInfoRequest, request.checkSignature env = .ok true →
      request.orderId = p.request.orderId → request.status.code = .auth →
        Settles (kaznaPaymentStatusPost env request) w.db r.orderId) ∧
    (∀ transactionId paymentInfo info, env.uuidInput transactionId = some r.transactionId →
      paymentInfo (toString p.paymentId) = .ok info → info.status.code = .auth →
        Settles (getTransaction env paymentInfo transactionId) w.db r.orderId) ∧
    (∀ transactionId, env.uuidInput transactionId = some r.transactionId →
      Settles (UpdateTransactionStatusAction.handle env ⟨transactionId, .auth⟩) w.db
        r.orderId) ∧
    (∀ attempt paymentInfo info, paymentInfo (toString p.paymentId) = .ok info →
      info.orderId = p.request.orderId → info.status.code = .auth →
        Settles (SyncTransactionStatusAction.handle env paymentInfo
          ⟨toString p.paymentId, attempt⟩) w.db r.orderId) := by
  obtain ⟨r', db', hchange, hsettled⟩ :=
    changeStatus_auth_settles h hp hauth hr hrequest hopen
  have hupdate : ∀ transactionId, env.uuidInput transactionId = some r.transactionId →
      UpdateTransactionStatusAction.handle env ⟨transactionId, .auth⟩ w.db =
        .ok (some r', db') :=
    fun transactionId hinput ↦ updateTransactionStatus_of_changeStatus hr hinput hchange
  have hinput : env.uuidInput p.request.orderId = some r.transactionId := by
    rw [hrequest, env.uuidInput_uuidText]
  refine ⟨?_, ?_, fun transactionId hid ↦ ⟨some r', db', hupdate transactionId hid, hsettled⟩, ?_⟩
  · intro request hsign horder hcode
    refine ⟨some r', db', kaznaPaymentStatusPost_ok.mpr ⟨hsign, ?_⟩, hsettled⟩
    rw [WebhookPaymentInfoRequest.updateAction, hcode, horder]
    exact hupdate _ hinput
  · intro transactionId paymentInfo info hid hinfo hcode
    have hagrees := kaznaAgrees_of_reachable (h.mono fun _ _ hpolicy ↦ hpolicy.1)
    obtain ⟨q, hq, hcovers, -⟩ := hagrees.transactions r hr
    have hqp : q = p := hagrees.requests q hq p hp (hcovers.requested.trans hrequest.symm)
    have hexternal : paymentInfo r.externalPaymentId = .ok info := by
      rw [← hcovers.paymentId, hqp]
      exact hinfo
    exact getTransaction_settles hr hid hexternal hcode hchange hsettled
  · intro attempt paymentInfo info hinfo horder hcode
    refine ⟨none, db', ?_, hsettled⟩
    simp only [SyncTransactionStatusAction.handle, hinfo, hcode, horder]
    rw [if_pos (by decide), Tx.bind_eq_ok]
    exact ⟨some r', db', hupdate _ hinput, rfl⟩

/-- The true notification of the payment 101. -/
def authNotification : WebhookPaymentInfoRequest where
  paymentId := 101
  orderId := "00000000-0000-0000-0000-000000000001"
  status := ⟨.auth, "AUTH"⟩
  sign := some "Yandex101AUTH"

/-- One creation for an order, whose payment Kazna has authorised. -/
def authorisedWorld : World :=
  ((service concreteEnv).run (Undisturbed concreteEnv) .initial
    (billRun ++ .createOrder ⟨1, [⟨1⟩]⟩ ⟨1⟩ :: createRun ⟨1⟩ ⟨1⟩ 101 ++
      [.kaznaMoves 101 .auth])).get (by decide +kernel)

/-- The notification of the payment 101 settles its order. -/
theorem auth_report_settles_order_witness :
    Settles (kaznaPaymentStatusPost concreteEnv authNotification) authorisedWorld.db ⟨1⟩ := by
  have hpayment : ∃ p ∈ authorisedWorld.payments, p.status = .auth ∧
      p.request.orderId = authNotification.orderId := by decide +kernel
  have hrow : ∃ r ∈ authorisedWorld.db.transactions, r.orderId = ⟨1⟩ ∧
      authNotification.orderId = concreteEnv.uuidText r.transactionId ∧
      r.status ≠ .cancelled := by decide +kernel
  obtain ⟨p, hp, hauth, hrequest⟩ := hpayment
  obtain ⟨r, hr, horder, htext, hopen⟩ := hrow
  rw [← horder]
  exact (auth_report_settles_order concreteEnv authorisedWorld (System.reachable_get rfl _) p hp
    hauth r hr (hrequest.trans htext) hopen).1 authNotification (by decide +kernel)
    hrequest.symm rfl

/-- Two creations for one order; Kazna authorises the payment of the first. -/
def supersededWorld : World :=
  ((service concreteEnv).run (Undisturbed concreteEnv) .initial
    (billRun ++ .createOrder ⟨1, [⟨1⟩]⟩ ⟨1⟩ :: createRun ⟨1⟩ ⟨1⟩ 101 ++ createRun ⟨1⟩ ⟨2⟩ 102 ++
      [.kaznaMoves 101 .auth])).get (by decide +kernel)

/-- The report of an authorised payment fails when a newer transaction has superseded it, and the
order stays unpaid. -/
theorem superseded_payment_lost :
    (service concreteEnv).Reachable (Undisturbed concreteEnv) supersededWorld ∧
      (∃ p ∈ supersededWorld.payments,
        p.Answers authNotification.toPaymentInfoResponse ∧ p.status = .auth) ∧
      authNotification.checkSignature concreteEnv = .ok true ∧
      (kaznaPaymentStatusPost concreteEnv authNotification supersededWorld.db).map
        (fun _ ↦ ()) = .error (.machineError .auth .cancelled) ∧
      ¬ ∃ o ∈ supersededWorld.db.orders, o.status = .paid := by
  refine ⟨System.reachable_get rfl _, ?_, by decide +kernel, ?_, by decide +kernel⟩
  · have hpayment : ∃ p ∈ supersededWorld.payments,
        authNotification.paymentId = p.paymentId ∧
          authNotification.orderId = p.request.orderId ∧
          authNotification.status.code ∈ p.status.past ∧ p.status = .auth := by
      decide +kernel
    obtain ⟨p, hp, hid, horder, hcode, hauth⟩ := hpayment
    exact ⟨p, hp, ⟨hid, horder, hcode⟩, hauth⟩
  · decide +kernel

end YandexPay.BillPayments
