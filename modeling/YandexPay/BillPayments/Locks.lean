import YandexPay.BillPayments.Transactions
import YandexPay.Library.LockGraph
import YandexPay.Library.Transition
import Mathlib.Order.WithBot

/-!
# Row locks of the payment actions

The statements with `for_update` of `CreateTransactionAction`, `UpdateTransactionStatusAction` and
`SearchFinesAction._complete`. A statement locks the rows of its result one after the other, and the
locks are held to the end of the database transaction. `rowLocks` is the system of any number of
such actions; what a statement finds is part of its event, in any order.

A creation locks the order before its transactions, and an update that pays a transaction locks the
transaction before the order. `InOrder` is the condition on a run under which no actions wait for
each other (`not_deadlocked_of_reachable`): the two do not meet at an order, and the bills that are
being locked at one time follow one order. When they meet, they block each other
(`deadlocked_of_meets`, `deadlock_reachable`); bills alone can do it too (`bills_deadlocked`).
-/

set_option autoImplicit false
set_option relaxedAutoImplicit false

namespace YandexPay.BillPayments

open Transition

/-! ### Actions -/

inductive Row
  | transaction (transactionId : UUID)
  | order (orderId : UUID)
  | bill (billId : UUID)
  | user (uid : ℤ)
  deriving DecidableEq

/-- The statements that lock rows: two of a creation, three of an update and two of a completed
search. -/
inductive LockingStatement
  | getOrderByOrderIdAndUid (orderId : UUID)
  | findTransactionsByOrderId (orderId : UUID)
  | getTransaction (transactionId : UUID) (status : PaymentStatusCode)
  | getOrder (transactionId : UUID)
  | getBills (transactionId : UUID)
  | findBillsByUid (uid : ℤ)
  | updateSyncedRevision (uid : ℤ)
  | finished
  deriving DecidableEq

/-- An action with the last of its locking statements, the rows that it has locked and those that
the statement has yet to lock. -/
structure LockingAction where
  statement : LockingStatement
  held : List Row
  wanted : List Row
  deriving DecidableEq

/-- The actions start, find the rows of their statements, lock a row, and commit or roll back. -/
inductive LockEvent
  | createTransaction (orderId : UUID)
  | findTransactionsByOrderId (action : ℕ) (transactions : List UUID)
  | updateTransactionStatus (transactionId : UUID) (status : PaymentStatusCode)
  | getOrder (action : ℕ) (found : TransactionStatus)
  | getBills (action : ℕ) (bills : List UUID)
  | complete (uid : ℤ) (bills : List UUID)
  | updateSyncedRevision (action : ℕ)
  | lock (action : ℕ)
  | finish (action : ℕ)

/-- A row that no other action has locked. -/
def Free (s : List LockingAction) (action : ℕ) (row : Row) : Prop :=
  ∀ other ∈ s.zipIdx, other.2 ≠ action → row ∉ other.1.held

instance (s : List LockingAction) (action : ℕ) (row : Row) : Decidable (Free s action row) :=
  inferInstanceAs (Decidable (∀ other ∈ s.zipIdx, other.2 ≠ action → row ∉ other.1.held))

/-- One event; `orderOf` is the order of a transaction, which no action changes. -/
def lockStep (orderOf : UUID → UUID) (s : List LockingAction) :
    LockEvent → Option (List LockingAction)
  | .createTransaction orderId =>
    some (s ++ [⟨.getOrderByOrderIdAndUid orderId, [], [.order orderId]⟩])
  | .findTransactionsByOrderId action transactions =>
    match s[action]? with
    | some ⟨.getOrderByOrderIdAndUid orderId, held, []⟩ =>
      if ∀ t ∈ transactions, orderOf t = orderId then
        some (s.set action
          ⟨.findTransactionsByOrderId orderId, held, transactions.map .transaction⟩)
      else none
    | _ => none
  | .updateTransactionStatus transactionId status =>
    some (s ++ [⟨.getTransaction transactionId status, [], [.transaction transactionId]⟩])
  | .getOrder action found =>
    match s[action]? with
    | some ⟨.getTransaction transactionId status, held, []⟩ =>
      -- Only a transaction that becomes paid needs its order.
      if trigger status found = some .paid ∧ found ≠ .paid then
        some (s.set action ⟨.getOrder transactionId, held, [.order (orderOf transactionId)]⟩)
      else none
    | _ => none
  | .getBills action bills =>
    match s[action]? with
    | some ⟨.getOrder transactionId, held, []⟩ =>
      some (s.set action ⟨.getBills transactionId, held, bills.map .bill⟩)
    | _ => none
  | .complete uid bills => some (s ++ [⟨.findBillsByUid uid, [], bills.map .bill⟩])
  | .updateSyncedRevision action =>
    match s[action]? with
    | some ⟨.findBillsByUid uid, held, []⟩ =>
      some (s.set action ⟨.updateSyncedRevision uid, held, [.user uid]⟩)
    | _ => none
  | .lock action =>
    match s[action]? with
    | some ⟨statement, held, row :: wanted⟩ =>
      if Free s action row then some (s.set action ⟨statement, row :: held, wanted⟩) else none
    | _ => none
  | .finish action =>
    match s[action]? with
    | some ⟨_, _, []⟩ => some (s.set action ⟨.finished, [], []⟩)
    | _ => none

def rowLocks (orderOf : UUID → UUID) : System (List LockingAction) LockEvent where
  start := fun s ↦ s = []
  step := lockStep orderOf

/-- An action waits for the next row of its statement. -/
def lockGraph (s : List LockingAction) : LockGraph ℕ Row where
  holds := fun action row ↦ ∃ r, s[action]? = some r ∧ row ∈ r.held
  awaits := fun action row ↦ ∃ r, s[action]? = some r ∧ r.wanted.head? = some row

/-! ### Steps -/

/-- What a step does: an action starts with nothing locked, asks for the rows of its next statement,
locks a row or ends. -/
inductive LockMoves (orderOf : UUID → UUID) (s : List LockingAction) :
    LockEvent → List LockingAction → Prop
  | createTransaction (orderId : UUID) : LockMoves orderOf s (.createTransaction orderId)
    (s ++ [⟨.getOrderByOrderIdAndUid orderId, [], [.order orderId]⟩])
  | findTransactionsByOrderId {action : ℕ} {orderId : UUID} {held : List Row}
    {transactions : List UUID}
    (at_order : s[action]? = some ⟨.getOrderByOrderIdAndUid orderId, held, []⟩)
    (found : ∀ t ∈ transactions, orderOf t = orderId) :
    LockMoves orderOf s (.findTransactionsByOrderId action transactions)
      (s.set action ⟨.findTransactionsByOrderId orderId, held, transactions.map .transaction⟩)
  | updateTransactionStatus (transactionId : UUID) (status : PaymentStatusCode) :
    LockMoves orderOf s (.updateTransactionStatus transactionId status)
      (s ++ [⟨.getTransaction transactionId status, [], [.transaction transactionId]⟩])
  | getOrder {action : ℕ} {transactionId : UUID} {status : PaymentStatusCode} {held : List Row}
    (found : TransactionStatus)
    (at_transaction : s[action]? = some ⟨.getTransaction transactionId status, held, []⟩) :
    LockMoves orderOf s (.getOrder action found)
      (s.set action ⟨.getOrder transactionId, held, [.order (orderOf transactionId)]⟩)
  | getBills {action : ℕ} {transactionId : UUID} {held : List Row} (bills : List UUID)
    (at_order : s[action]? = some ⟨.getOrder transactionId, held, []⟩) :
    LockMoves orderOf s (.getBills action bills)
      (s.set action ⟨.getBills transactionId, held, bills.map .bill⟩)
  | complete (uid : ℤ) (bills : List UUID) : LockMoves orderOf s (.complete uid bills)
    (s ++ [⟨.findBillsByUid uid, [], bills.map .bill⟩])
  | updateSyncedRevision {action : ℕ} {uid : ℤ} {held : List Row}
    (at_bills : s[action]? = some ⟨.findBillsByUid uid, held, []⟩) :
    LockMoves orderOf s (.updateSyncedRevision action)
      (s.set action ⟨.updateSyncedRevision uid, held, [.user uid]⟩)
  | lock {action : ℕ} {statement : LockingStatement} {held wanted : List Row} {row : Row}
    (waiting : s[action]? = some ⟨statement, held, row :: wanted⟩) (free : Free s action row) :
    LockMoves orderOf s (.lock action) (s.set action ⟨statement, row :: held, wanted⟩)
  | finish {action : ℕ} {r : LockingAction} (running : s[action]? = some r) :
    LockMoves orderOf s (.finish action) (s.set action ⟨.finished, [], []⟩)

theorem lockMoves_of_step {orderOf : UUID → UUID} {s t : List LockingAction} {e : LockEvent}
    (h : (rowLocks orderOf).step s e = some t) : LockMoves orderOf s e t := by
  change lockStep orderOf s e = some t at h
  cases e with
  | createTransaction orderId =>
    obtain rfl := Option.some.inj h
    exact .createTransaction orderId
  | updateTransactionStatus transactionId status =>
    obtain rfl := Option.some.inj h
    exact .updateTransactionStatus transactionId status
  | complete uid bills =>
    obtain rfl := Option.some.inj h
    exact .complete uid bills
  | findTransactionsByOrderId action transactions =>
    simp only [lockStep] at h
    split at h
    · split_ifs at h with hfound
      obtain rfl := Option.some.inj h
      exact .findTransactionsByOrderId ‹_› hfound
    · cases h
  | getOrder action found =>
    simp only [lockStep] at h
    split at h
    · split_ifs at h
      obtain rfl := Option.some.inj h
      exact .getOrder found ‹_›
    · cases h
  | getBills action bills =>
    simp only [lockStep] at h
    split at h
    · obtain rfl := Option.some.inj h
      exact .getBills bills ‹_›
    · cases h
  | updateSyncedRevision action =>
    simp only [lockStep] at h
    split at h
    · obtain rfl := Option.some.inj h
      exact .updateSyncedRevision ‹_›
    · cases h
  | lock action =>
    simp only [lockStep] at h
    split at h
    · split_ifs at h with hfree
      obtain rfl := Option.some.inj h
      exact .lock ‹_› hfree
    · cases h
  | finish action =>
    simp only [lockStep] at h
    split at h
    · obtain rfl := Option.some.inj h
      exact .finish ‹_›
    · cases h

/-! ### Runs without a deadlock -/

/-- The statement is one of a creation for the order. -/
def LockingStatement.Creates : LockingStatement → UUID → Prop
  | .getOrderByOrderIdAndUid orderId, o => orderId = o
  | .findTransactionsByOrderId orderId, o => orderId = o
  | _, _ => False

/-- A creation that has locked an order and an update that waits for it. -/
def Meets (creation update : LockingAction) : Prop :=
  ∃ orderId, creation.statement.Creates orderId ∧ .order orderId ∈ creation.held ∧
    ∃ transactionId, update.statement = .getOrder transactionId ∧ .order orderId ∈ update.wanted

/-- The bills that an action has locked rank below those that it wants, which it wants in the order
of `rank`. -/
structure BillsInOrder (rank : UUID → ℕ) (held wanted : List Row) : Prop where
  below : ∀ b c, .bill b ∈ held → .bill c ∈ wanted → rank b < rank c
  sorted : wanted.Pairwise fun row row' ↦ ∀ b c, row = .bill b → row' = .bill c → rank b < rank c

/-- There is one order for the bills of the actions and for those of one more result. -/
def OneOrder (s : List LockingAction) (held wanted : List Row) : Prop :=
  ∃ rank, BillsInOrder rank held wanted ∧ ∀ r ∈ s, BillsInOrder rank r.held r.wanted

/-- No update asks for the order of its transaction while a creation has locked it, no creation
locks an order that an update waits for, and the bills follow one order. -/
def InOrder (orderOf : UUID → UUID) (s : List LockingAction) : LockEvent → Prop
  | .getOrder action _ => ∀ r, s[action]? = some r → ∀ transactionId status,
    r.statement = .getTransaction transactionId status → ∀ creation ∈ s,
      creation.statement.Creates (orderOf transactionId) →
        .order (orderOf transactionId) ∉ creation.held
  | .lock action => ∀ r, s[action]? = some r → ∀ orderId,
    r.statement = .getOrderByOrderIdAndUid orderId → ∀ update ∈ s, ∀ transactionId,
      update.statement = .getOrder transactionId → .order orderId ∉ update.wanted
  | .getBills _ bills => OneOrder s [] (bills.map .bill)
  | .complete _ bills => OneOrder s [] (bills.map .bill)
  | _ => True

/-- Transactions before orders before bills before users. -/
def Row.rank (rank : UUID → ℕ) : Row → WithTop ℕ
  | .transaction _ => (0 : ℕ)
  | .order _ => (1 : ℕ)
  | .bill billId => (rank billId + 2 : ℕ)
  | .user _ => ⊤

/-- The rows that an action has locked and wants at each of its statements. -/
inductive Fits (orderOf : UUID → UUID) : LockingStatement → (held wanted : List Row) → Prop
  | askOrder (orderId : UUID) : Fits orderOf (.getOrderByOrderIdAndUid orderId) [] [.order orderId]
  | hasOrder (orderId : UUID) : Fits orderOf (.getOrderByOrderIdAndUid orderId) [.order orderId] []
  | transactions {orderId : UUID} {held wanted : List Row} (order : .order orderId ∈ held)
    (locked : ∀ row ∈ held, row = .order orderId ∨ ∃ t, orderOf t = orderId ∧ row = .transaction t)
    (asked : ∀ row ∈ wanted, ∃ t, orderOf t = orderId ∧ row = .transaction t) :
    Fits orderOf (.findTransactionsByOrderId orderId) held wanted
  | askTransaction (transactionId : UUID) (status : PaymentStatusCode) :
    Fits orderOf (.getTransaction transactionId status) [] [.transaction transactionId]
  | hasTransaction (transactionId : UUID) (status : PaymentStatusCode) :
    Fits orderOf (.getTransaction transactionId status) [.transaction transactionId] []
  | askPaidOrder (transactionId : UUID) : Fits orderOf (.getOrder transactionId)
    [.transaction transactionId] [.order (orderOf transactionId)]
  | hasPaidOrder (transactionId : UUID) : Fits orderOf (.getOrder transactionId)
    [.order (orderOf transactionId), .transaction transactionId] []
  | paidBills {transactionId : UUID} (locked : List UUID) {bills : List UUID} {wanted : List Row}
    (asked : wanted = bills.map .bill) : Fits orderOf (.getBills transactionId)
      (locked.map .bill ++ [.order (orderOf transactionId), .transaction transactionId]) wanted
  | foundBills {uid : ℤ} (locked : List UUID) {bills : List UUID} {wanted : List Row}
    (asked : wanted = bills.map .bill) :
    Fits orderOf (.findBillsByUid uid) (locked.map .bill) wanted
  | askUser {uid : ℤ} (locked : List UUID) :
    Fits orderOf (.updateSyncedRevision uid) (locked.map .bill) [.user uid]
  | hasUser {uid : ℤ} (locked : List UUID) :
    Fits orderOf (.updateSyncedRevision uid) (.user uid :: locked.map .bill) []
  | finished : Fits orderOf .finished [] []

variable {orderOf : UUID → UUID} {rank : UUID → ℕ}

/-- An action that wants no bills. -/
theorem BillsInOrder.of_forall_ne {held wanted : List Row} (h : ∀ c, .bill c ∉ wanted) :
    BillsInOrder rank held wanted where
  below := fun _ c _ hc ↦ absurd hc (h c)
  sorted := List.pairwise_iff_forall_sublist.mpr fun hpair _ c _ heq ↦
    absurd (heq ▸ hpair.subset (by simp)) (h c)

/-- The rows locked before a result of bills hold no bill. -/
theorem BillsInOrder.of_nil {held wanted : List Row} (h : BillsInOrder rank [] wanted)
    (hheld : ∀ b, .bill b ∉ held) : BillsInOrder rank held wanted :=
  ⟨fun b _ hb ↦ absurd hb (hheld b), h.sorted⟩

theorem BillsInOrder.lock {held wanted : List Row} {row : Row}
    (h : BillsInOrder rank held (row :: wanted)) : BillsInOrder rank (row :: held) wanted := by
  obtain ⟨hbelow, hsorted⟩ := h
  rw [List.pairwise_cons] at hsorted
  refine ⟨?_, hsorted.2⟩
  intro b c hb hc
  rcases List.mem_cons.mp hb with hb | hb
  · exact hsorted.1 _ hc b c hb.symm rfl
  · exact hbelow b c hb (List.mem_cons_of_mem _ hc)

/-- Locking the next row of a statement. -/
theorem Fits.lock {statement : LockingStatement} {held wanted : List Row} {row : Row}
    (h : Fits orderOf statement held (row :: wanted)) :
    Fits orderOf statement (row :: held) wanted := by
  cases h with
  | askOrder orderId => exact .hasOrder orderId
  | transactions horder hlocked hasked =>
    obtain ⟨hrow, hwanted⟩ := List.forall_mem_cons.mp hasked
    refine .transactions (List.mem_cons_of_mem _ horder) ?_ hwanted
    exact List.forall_mem_cons.mpr ⟨Or.inr hrow, hlocked⟩
  | askTransaction transactionId status => exact .hasTransaction transactionId status
  | askPaidOrder transactionId => exact .hasPaidOrder transactionId
  | paidBills locked hasked =>
    obtain ⟨billId, bills, rfl, rfl, rfl⟩ := List.map_eq_cons_iff.mp hasked.symm
    exact .paidBills (billId :: locked) rfl
  | foundBills locked hasked =>
    obtain ⟨billId, bills, rfl, rfl, rfl⟩ := List.map_eq_cons_iff.mp hasked.symm
    exact .foundBills (billId :: locked) rfl
  | askUser locked => exact .hasUser locked

theorem rank_transaction_lt_order (t o : UUID) :
    Row.rank rank (.transaction t) < Row.rank rank (.order o) :=
  WithTop.coe_lt_coe.mpr Nat.zero_lt_one

theorem rank_transaction_lt_bill (t b : UUID) :
    Row.rank rank (.transaction t) < Row.rank rank (.bill b) :=
  WithTop.coe_lt_coe.mpr (Nat.succ_pos _)

theorem rank_order_lt_bill (o b : UUID) :
    Row.rank rank (.order o) < Row.rank rank (.bill b) :=
  WithTop.coe_lt_coe.mpr (Nat.succ_lt_succ (Nat.succ_pos _))

theorem rank_bill_lt_bill {b c : UUID} (h : rank b < rank c) :
    Row.rank rank (.bill b) < Row.rank rank (.bill c) :=
  WithTop.coe_lt_coe.mpr (Nat.add_lt_add_right h 2)

theorem rank_bill_lt_user (b : UUID) (uid : ℤ) :
    Row.rank rank (.bill b) < Row.rank rank (.user uid) := WithTop.coe_lt_top _

/-- At every statement but the second one of a creation, the next row ranks above the rows that are
locked. -/
theorem Fits.ascends {statement : LockingStatement} {held wanted : List Row}
    (h : Fits orderOf statement held wanted) (hbills : BillsInOrder rank held wanted)
    (hstatement : ∀ orderId, statement ≠ .findTransactionsByOrderId orderId) :
    ∀ row ∈ held, ∀ row' ∈ wanted, row.rank rank < row'.rank rank := by
  cases h with
  | askOrder | hasOrder | askTransaction | hasTransaction | hasPaidOrder | hasUser | finished =>
    simp
  | transactions => exact absurd rfl (hstatement _)
  | askPaidOrder transactionId =>
    rw [List.forall_mem_singleton, List.forall_mem_singleton]
    exact rank_transaction_lt_order _ _
  | paidBills locked hasked =>
    intro row hrow row' hrow'
    obtain ⟨c, -, rfl⟩ := List.mem_map.mp (hasked ▸ hrow')
    rcases List.mem_append.mp hrow with hlocked | hother
    · obtain ⟨b, -, rfl⟩ := List.mem_map.mp hlocked
      exact rank_bill_lt_bill (hbills.below b c hrow hrow')
    · simp only [List.mem_cons, List.not_mem_nil, or_false] at hother
      rcases hother with rfl | rfl
      · exact rank_order_lt_bill _ _
      · exact rank_transaction_lt_bill _ _
  | foundBills locked hasked =>
    intro row hrow row' hrow'
    obtain ⟨b, -, rfl⟩ := List.mem_map.mp hrow
    obtain ⟨c, -, rfl⟩ := List.mem_map.mp (hasked ▸ hrow')
    exact rank_bill_lt_bill (hbills.below b c hrow hrow')
  | askUser locked =>
    intro row hrow row' hrow'
    obtain ⟨b, hb, rfl⟩ := List.mem_map.mp hrow
    rw [List.mem_singleton.mp hrow']
    exact rank_bill_lt_user b _

/-- An action that has locked a transaction and waits has locked the order of the transaction or
waits for it. -/
theorem Fits.order_of_transaction {statement : LockingStatement} {held wanted : List Row}
    (h : Fits orderOf statement held wanted) {t : UUID} (ht : .transaction t ∈ held)
    (hwaits : wanted ≠ []) : .order (orderOf t) ∈ held ∨
      (statement = .getOrder t ∧ .order (orderOf t) ∈ wanted) := by
  cases h with
  | askOrder | askTransaction | finished => exact absurd ht List.not_mem_nil
  | hasOrder | hasTransaction | hasPaidOrder | hasUser => exact absurd rfl hwaits
  | transactions horder hlocked _ =>
    rcases hlocked _ ht with heq | ⟨t', rfl, heq⟩
    · cases heq
    · cases heq
      exact Or.inl horder
  | askPaidOrder transactionId =>
    obtain rfl : t = transactionId := by simpa using ht
    exact Or.inr ⟨rfl, List.mem_singleton_self _⟩
  | paidBills =>
    obtain rfl : t = _ := by simpa using ht
    exact Or.inl (by simp)
  | foundBills | askUser => simp at ht

/-- A creation asks for its order at its first statement. -/
theorem Fits.getOrder_of_creates {statement : LockingStatement} {held wanted : List Row}
    {orderId : UUID} (h : Fits orderOf statement held (.order orderId :: wanted))
    (hcreates : statement.Creates orderId) :
    statement = .getOrderByOrderIdAndUid orderId := by
  cases h with
  | askOrder => rfl
  | transactions _ _ hasked =>
    obtain ⟨t, -, ht⟩ := hasked _ List.mem_cons_self
    cases ht
  | askPaidOrder | paidBills | foundBills => exact hcreates.elim

/-- At its second statement a creation has locked its order and asks for its transactions. -/
theorem Fits.order_mem {orderId : UUID} {held wanted : List Row}
    (h : Fits orderOf (.findTransactionsByOrderId orderId) held wanted) :
    .order orderId ∈ held ∧
      ∀ row ∈ wanted, ∃ t, orderOf t = orderId ∧ row = .transaction t := by
  cases h with
  | transactions horder _ hasked => exact ⟨horder, hasked⟩

/-! ### The invariant -/

/-- What holds in every run in order: the statements fit the rows, no row is locked twice, and no
creation meets an update at an order, and the bills follow one order. -/
structure LocksHold (orderOf : UUID → UUID) (s : List LockingAction) : Prop where
  fits : ∀ r ∈ s, Fits orderOf r.statement r.held r.wanted
  exclusive : ∀ (a b : ℕ) (ra rb : LockingAction), s[a]? = some ra → s[b]? = some rb → a ≠ b →
    ∀ row ∈ ra.held, row ∉ rb.held
  apart : ∀ r ∈ s, ∀ r' ∈ s, ¬Meets r r'
  bills : ∃ rank, ∀ r ∈ s, BillsInOrder rank r.held r.wanted

/-- In a deadlock no creation waits for a transaction: whoever has locked the transaction has locked
its order too or waits for it. -/
theorem LocksHold.statement_ne {s : List LockingAction} (h : LocksHold orderOf s)
    {actions : Finset ℕ} (hdead : (lockGraph s).Deadlocked actions) {a : ℕ} (ha : a ∈ actions)
    {ra : LockingAction} (hra : s[a]? = some ra) (orderId : UUID) :
    ra.statement ≠ .findTransactionsByOrderId orderId := by
  intro hstatement
  obtain ⟨row, ⟨ra', hra', hawaited⟩, b, hb, hne, rb, hrb, hheld⟩ := hdead.waits a ha
  obtain rfl : ra = ra' := Option.some.inj (hra.symm.trans hra')
  obtain ⟨_, ⟨rb', hrb', hwaits⟩, -⟩ := hdead.waits b hb
  obtain rfl : rb = rb' := Option.some.inj (hrb.symm.trans hrb')
  have hfits := h.fits ra (List.mem_of_getElem? hra)
  rw [hstatement] at hfits
  obtain ⟨horder, hasked⟩ := hfits.order_mem
  obtain ⟨t, rfl, rfl⟩ := hasked row (List.mem_of_mem_head? hawaited)
  have hwanted : rb.wanted ≠ [] := by
    intro hnil
    rw [hnil] at hwaits
    cases hwaits
  rcases (h.fits rb (List.mem_of_getElem? hrb)).order_of_transaction hheld hwanted with
    hlocked | ⟨hasks, hawaits⟩
  · exact h.exclusive b a rb ra hrb hra hne _ hlocked horder
  · refine h.apart ra (List.mem_of_getElem? hra) rb (List.mem_of_getElem? hrb)
      ⟨orderOf t, ?_, horder, t, hasks, hawaits⟩
    rw [hstatement]
    rfl

/-- Without a meeting at an order there is no deadlock. -/
theorem LocksHold.not_deadlocked {s : List LockingAction} (h : LocksHold orderOf s)
    (actions : Finset ℕ) : ¬(lockGraph s).Deadlocked actions := by
  intro hdead
  obtain ⟨rank, hbills⟩ := h.bills
  obtain ⟨a, ha, hnot⟩ := hdead.exists_not_ascends (Row.rank rank)
  refine hnot ?_
  rintro row ⟨ra, hra, hheld⟩ row' ⟨ra', hra', hawaited⟩
  obtain rfl : ra = ra' := Option.some.inj (hra.symm.trans hra')
  have hmem := List.mem_of_getElem? hra
  exact (h.fits ra hmem).ascends (hbills ra hmem) (h.statement_ne hdead ha hra) row hheld row'
    (List.mem_of_mem_head? hawaited)

theorem not_meets_of_not_creates {r r' : LockingAction}
    (h : ∀ orderId, ¬r.statement.Creates orderId) : ¬Meets r r' := by
  rintro ⟨orderId, hcreates, -⟩
  exact h orderId hcreates

theorem not_meets_of_ne {r r' : LockingAction}
    (h : ∀ transactionId, r'.statement ≠ .getOrder transactionId) : ¬Meets r r' := by
  rintro ⟨_, -, -, transactionId, hasks, -⟩
  exact h transactionId hasks

theorem not_meets_self (r : LockingAction) : ¬Meets r r := by
  rintro ⟨orderId, hcreates, -, transactionId, hstatement, -⟩
  rw [hstatement] at hcreates
  exact hcreates

theorem LocksHold.oneOrder_of_forall_ne {s : List LockingAction} (h : LocksHold orderOf s)
    {held wanted : List Row} (hwanted : ∀ c, .bill c ∉ wanted) : OneOrder s held wanted := by
  obtain ⟨rank, hbills⟩ := h.bills
  exact ⟨rank, .of_forall_ne hwanted, hbills⟩

/-- An action that starts. -/
theorem LocksHold.append {s : List LockingAction} (h : LocksHold orderOf s)
    {statement : LockingStatement} {wanted : List Row}
    (hfits : Fits orderOf statement [] wanted)
    (hstatement : ∀ transactionId, statement ≠ .getOrder transactionId)
    (hbills : OneOrder s [] wanted) : LocksHold orderOf (s ++ [⟨statement, [], wanted⟩]) := by
  have hcases : ∀ r ∈ s ++ [⟨statement, [], wanted⟩], r ∈ s ∨ r = ⟨statement, [], wanted⟩ := by
    intro r hr
    rwa [List.mem_append, List.mem_singleton] at hr
  refine ⟨fun r hr ↦ ?_, fun a b ra rb hra hrb hne row hheld hheld' ↦ ?_, fun r hr r' hr' ↦ ?_, ?_⟩
  · rcases hcases r hr with hr | rfl
    · exact h.fits r hr
    · exact hfits
  · have hold : ∀ (i : ℕ) (r : LockingAction), (s ++ [⟨statement, [], wanted⟩])[i]? = some r →
        row ∈ r.held → s[i]? = some r := by
      intro i r hr hrow
      rcases Nat.lt_or_ge i s.length with hlt | hge
      · rwa [List.getElem?_append_left hlt] at hr
      · rw [List.getElem?_append_right hge] at hr
        rw [List.mem_singleton.mp (List.mem_of_getElem? hr)] at hrow
        exact absurd hrow List.not_mem_nil
    exact h.exclusive a b ra rb (hold a ra hra hheld) (hold b rb hrb hheld') hne row hheld hheld'
  · rcases hcases r hr with hr | rfl
    · rcases hcases r' hr' with hr' | rfl
      · exact h.apart r hr r' hr'
      · exact not_meets_of_ne hstatement
    · rintro ⟨_, -, hheld, -⟩
      exact absurd hheld List.not_mem_nil
  · obtain ⟨rank, hnew, hold⟩ := hbills
    refine ⟨rank, fun r hr ↦ ?_⟩
    rcases hcases r hr with hr | rfl
    · exact hold r hr
    · exact hnew

/-- An action that moves on: it locks a free row at most. -/
theorem LocksHold.set {s : List LockingAction} (h : LocksHold orderOf s) {a : ℕ}
    {r r' : LockingAction} (hr : s[a]? = some r)
    (hfits : Fits orderOf r'.statement r'.held r'.wanted)
    (hheld : ∀ row ∈ r'.held, row ∈ r.held ∨ Free s a row)
    (hapart : ∀ x ∈ s, ¬Meets x r' ∧ ¬Meets r' x) (hbills : OneOrder s r'.held r'.wanted) :
    LocksHold orderOf (s.set a r') := by
  have hcases : ∀ x ∈ s.set a r', x ∈ s ∨ x = r' := fun x hx ↦ List.mem_or_eq_of_mem_set hx
  have hother : ∀ (b : ℕ) (rb : LockingAction), (s.set a r')[b]? = some rb → b ≠ a →
      s[b]? = some rb := by
    intro b rb hrb hne
    rwa [List.getElem?_set_ne hne.symm] at hrb
  have hself : ∀ rb : LockingAction, (s.set a r')[a]? = some rb → rb = r' := by
    intro rb hrb
    rw [List.getElem?_set_self (List.getElem?_eq_some_iff.mp hr).1] at hrb
    exact (Option.some.inj hrb).symm
  -- Nobody else has locked what the action has now.
  have hfree : ∀ (b : ℕ) (rb : LockingAction), s[b]? = some rb → b ≠ a →
      ∀ row ∈ r'.held, row ∉ rb.held := by
    intro b rb hrb hne row hrow
    rcases hheld row hrow with hold | hfree
    · exact h.exclusive a b r rb hr hrb hne.symm row hold
    · exact hfree (rb, b) (List.mem_zipIdx_iff_getElem?.mpr hrb) hne
  refine ⟨fun x hx ↦ ?_, fun b c rb rc hrb hrc hne row hrow hrow' ↦ ?_, fun x hx y hy ↦ ?_, ?_⟩
  · rcases hcases x hx with hx | rfl
    · exact h.fits x hx
    · exact hfits
  · by_cases hb : b = a
    · subst hb
      obtain rfl := hself rb hrb
      exact hfree c rc (hother c rc hrc hne.symm) hne.symm row hrow hrow'
    · by_cases hc : c = a
      · subst hc
        obtain rfl := hself rc hrc
        exact hfree b rb (hother b rb hrb hb) hb row hrow' hrow
      · exact h.exclusive b c rb rc (hother b rb hrb hb) (hother c rc hrc hc) hne row hrow hrow'
  · rcases hcases x hx with hx' | hx'
    · rcases hcases y hy with hy' | hy'
      · exact h.apart x hx' y hy'
      · exact hy' ▸ (hapart x hx').1
    · rcases hcases y hy with hy' | hy'
      · exact hx' ▸ (hapart y hy').2
      · exact hx' ▸ hy' ▸ not_meets_self r'
  · obtain ⟨rank, hnew, hold⟩ := hbills
    refine ⟨rank, fun x hx ↦ ?_⟩
    rcases hcases x hx with hx | rfl
    · exact hold x hx
    · exact hnew

theorem LocksHold.step {s t : List LockingAction} {e : LockEvent} (h : LocksHold orderOf s)
    (hpolicy : InOrder orderOf s e) (hstep : LockMoves orderOf s e t) : LocksHold orderOf t := by
  have hfitsAt : ∀ {a : ℕ} {r : LockingAction}, s[a]? = some r →
      Fits orderOf r.statement r.held r.wanted := fun hr ↦
    h.fits _ (List.mem_of_getElem? hr)
  cases hstep with
  | createTransaction orderId =>
    exact h.append (.askOrder orderId) (by simp) (h.oneOrder_of_forall_ne (by simp))
  | updateTransactionStatus transactionId status =>
    exact h.append (.askTransaction transactionId status) (by simp)
      (h.oneOrder_of_forall_ne (by simp))
  | complete uid bills => exact h.append (.foundBills [] rfl) (by simp) hpolicy
  | findTransactionsByOrderId hat hfound =>
    have hfits := hfitsAt hat
    cases hfits with
    | hasOrder orderId =>
      refine h.set hat (.transactions (by simp) (by simp) fun row hrow ↦ ?_)
        (fun row hrow ↦ Or.inl hrow) (fun x hx ↦ ⟨not_meets_of_ne (by simp), fun hmeets ↦ ?_⟩)
        (h.oneOrder_of_forall_ne (by simp))
      · obtain ⟨t, ht, rfl⟩ := List.mem_map.mp hrow
        exact ⟨t, hfound t ht, rfl⟩
      -- The creation had locked the order before.
      · exact h.apart _ (List.mem_of_getElem? hat) x hx hmeets
  | @getOrder _ transactionId status _ found hat =>
    have hfits := hfitsAt hat
    cases hfits with
    | hasTransaction =>
      refine h.set hat (.askPaidOrder transactionId) (fun row hrow ↦ Or.inl hrow)
        (fun x hx ↦ ⟨?_, not_meets_of_not_creates fun _ hcreates ↦ hcreates⟩)
        (h.oneOrder_of_forall_ne (by simp))
      rintro ⟨orderId, hcreates, hlocked, _, -, hwaits⟩
      obtain rfl : orderId = orderOf transactionId := by simpa using hwaits
      exact hpolicy _ hat transactionId status rfl x hx hcreates hlocked
  | @getBills _ transactionId _ bills hat =>
    have hfits := hfitsAt hat
    cases hfits with
    | hasPaidOrder =>
      obtain ⟨rank, hnew, hold⟩ := hpolicy
      exact h.set hat (.paidBills [] rfl) (fun row hrow ↦ Or.inl hrow)
        (fun x hx ↦ ⟨not_meets_of_ne (by simp), not_meets_of_not_creates fun _ hcreates ↦ hcreates⟩)
        ⟨rank, hnew.of_nil (by simp), hold⟩
  | updateSyncedRevision hat =>
    have hfits := hfitsAt hat
    cases hfits with
    | foundBills locked _ =>
      exact h.set hat (.askUser locked) (fun row hrow ↦ Or.inl hrow)
        (fun x hx ↦ ⟨not_meets_of_ne (by simp), not_meets_of_not_creates fun _ hcreates ↦ hcreates⟩)
        (h.oneOrder_of_forall_ne (by simp))
  | lock hwaiting hfree =>
    have hfits := hfitsAt hwaiting
    have hmem := List.mem_of_getElem? hwaiting
    obtain ⟨rank, hbills⟩ := h.bills
    refine h.set hwaiting hfits.lock (fun row hrow ↦ ?_) (fun x hx ↦ ⟨?_, ?_⟩)
      ⟨rank, (hbills _ hmem).lock, hbills⟩
    · rcases List.mem_cons.mp hrow with rfl | hrow
      · exact Or.inr hfree
      · exact Or.inl hrow
    · rintro ⟨orderId, hcreates, hlocked, transactionId, hasks, hwaits⟩
      exact h.apart x hx _ hmem
        ⟨orderId, hcreates, hlocked, transactionId, hasks, List.mem_cons_of_mem _ hwaits⟩
    · rintro ⟨orderId, hcreates, hlocked, transactionId, hasks, hwaits⟩
      rcases List.mem_cons.mp hlocked with rfl | hlocked
      -- The creation locks its order now.
      · have hstatement := hfits.getOrder_of_creates hcreates
        exact hpolicy _ hwaiting orderId hstatement x hx transactionId hasks hwaits
      · exact h.apart _ hmem x hx ⟨orderId, hcreates, hlocked, transactionId, hasks, hwaits⟩
  | finish hrunning =>
    exact h.set hrunning .finished (fun row hrow ↦ absurd hrow List.not_mem_nil)
      (fun x hx ↦ ⟨not_meets_of_ne (by simp), not_meets_of_not_creates fun _ hcreates ↦ hcreates⟩)
      (h.oneOrder_of_forall_ne (by simp))

theorem locksHold_of_reachable {s : List LockingAction}
    (hs : (rowLocks orderOf).Reachable (InOrder orderOf) s) : LocksHold orderOf s := by
  refine hs.invariant ?_ fun s e t h hpolicy hstep ↦ h.step hpolicy (lockMoves_of_step hstep)
  rintro s rfl
  exact ⟨by simp, by simp, by simp, UUID.value, by simp⟩

/-- In a run in order no set of actions is in a deadlock, in any state. -/
theorem not_deadlocked_of_reachable (orderOf : UUID → UUID) {s : List LockingAction}
    (hs : (rowLocks orderOf).Reachable (InOrder orderOf) s) (actions : Finset ℕ) :
    ¬(lockGraph s).Deadlocked actions :=
  (locksHold_of_reachable hs).not_deadlocked actions

/-- Two creations for one order: the second waits for the first. -/
theorem reachable_waiting : (rowLocks fun _ ↦ ⟨1⟩).Reachable (InOrder fun _ ↦ ⟨1⟩)
    [⟨.getOrderByOrderIdAndUid ⟨1⟩, [.order ⟨1⟩], []⟩,
      ⟨.getOrderByOrderIdAndUid ⟨1⟩, [], [.order ⟨1⟩]⟩] := by
  have hstart : (rowLocks fun _ ↦ ⟨1⟩).Reachable (InOrder fun _ ↦ ⟨1⟩) [] :=
    System.Reachable.of_start rfl
  have hfirst : (rowLocks fun _ ↦ ⟨1⟩).Reachable (InOrder fun _ ↦ ⟨1⟩)
      [⟨.getOrderByOrderIdAndUid ⟨1⟩, [], [.order ⟨1⟩]⟩] :=
    hstart.tail (e := .createTransaction ⟨1⟩) trivial rfl
  have hsecond : (rowLocks fun _ ↦ ⟨1⟩).Reachable (InOrder fun _ ↦ ⟨1⟩)
      [⟨.getOrderByOrderIdAndUid ⟨1⟩, [], [.order ⟨1⟩]⟩,
        ⟨.getOrderByOrderIdAndUid ⟨1⟩, [], [.order ⟨1⟩]⟩] :=
    hfirst.tail (e := .createTransaction ⟨1⟩) trivial rfl
  refine hsecond.tail (e := .lock 0) ?_ rfl
  intro r _ orderId _ update hupdate transactionId hstatement
  simp only [List.mem_cons, List.not_mem_nil, or_false, or_self] at hupdate
  rw [hupdate] at hstatement
  cases hstatement

theorem not_deadlocked_of_reachable_witness : ¬(lockGraph
    [⟨.getOrderByOrderIdAndUid ⟨1⟩, [.order ⟨1⟩], []⟩,
      ⟨.getOrderByOrderIdAndUid ⟨1⟩, [], [.order ⟨1⟩]⟩]).Deadlocked {0, 1} :=
  not_deadlocked_of_reachable (fun _ ↦ ⟨1⟩) reachable_waiting {0, 1}

/-! ### Deadlocks -/

/-- Two actions that wait for each other. -/
theorem deadlocked_pair {s : List LockingAction} {a b : ℕ} (hne : a ≠ b) {r r' : LockingAction}
    {row row' : Row} (hr : s[a]? = some r) (hr' : s[b]? = some r')
    (hwaits : r.wanted.head? = some row') (hwaits' : r'.wanted.head? = some row)
    (hheld : row ∈ r.held) (hheld' : row' ∈ r'.held) : (lockGraph s).Deadlocked {a, b} where
  nonempty := ⟨a, Finset.mem_insert_self a {b}⟩
  waits := by
    intro c hc
    rw [Finset.mem_insert, Finset.mem_singleton] at hc
    rcases hc with rfl | rfl
    · exact ⟨row', ⟨r, hr, hwaits⟩, b, by simp, hne.symm, r', hr', hheld'⟩
    · exact ⟨row, ⟨r', hr', hwaits'⟩, a, by simp, hne, r, hr, hheld⟩

/-- A creation that has locked an order, while an update waits for it, is in a deadlock with the
update as soon as it asks for the transaction of the update. -/
theorem deadlocked_of_meets {s : List LockingAction} {a b : ℕ} (hne : a ≠ b)
    {creation update : LockingAction} {orderId transactionId : UUID} (rest : List Row)
    (ha : s[a]? = some creation) (hb : s[b]? = some update)
    (hlocked : .order orderId ∈ creation.held)
    (hwaits : update.wanted.head? = some (.order orderId))
    (hheld : .transaction transactionId ∈ update.held) :
    (lockGraph (s.set a ⟨.findTransactionsByOrderId orderId, creation.held,
      .transaction transactionId :: rest⟩)).Deadlocked {a, b} := by
  have hlt := (List.getElem?_eq_some_iff.mp ha).1
  exact deadlocked_pair hne (List.getElem?_set_self hlt) ((List.getElem?_set_ne hne).trans hb) rfl
    hwaits hlocked hheld

/-- The payment of transaction 5 is reported while a new transaction is created for its order. -/
def paidWhileCreating : List LockEvent :=
  [.updateTransactionStatus ⟨5⟩ .auth, .lock 0, .createTransaction ⟨1⟩, .lock 1, .getOrder 0 .new,
    .findTransactionsByOrderId 1 [⟨5⟩]]

theorem deadlock_reachable : ¬∀ (orderOf : UUID → UUID) (s : List LockingAction),
    (rowLocks orderOf).Reachable (fun _ _ ↦ True) s →
      ∀ actions, ¬(lockGraph s).Deadlocked actions := by
  intro hfree
  have hrun : ((rowLocks fun _ ↦ ⟨1⟩).run (fun _ _ ↦ True) [] paidWhileCreating).isSome := by
    decide
  exact hfree _ _ (System.reachable_get rfl hrun) {0, 1} (deadlocked_pair Nat.zero_ne_one rfl rfl
    rfl rfl (List.mem_singleton_self _) (List.mem_singleton_self _))

/-- A search of bills completes while an order of two of them is paid, which lists them the other
way round. -/
def paidWhileSearching : List LockEvent :=
  [.complete 1 [⟨7⟩, ⟨8⟩], .lock 0, .updateTransactionStatus ⟨5⟩ .auth, .lock 1, .getOrder 1 .new,
    .lock 1, .getBills 1 [⟨8⟩, ⟨7⟩], .lock 1]

theorem bills_deadlocked : ∃ s, (rowLocks fun _ ↦ ⟨1⟩).Reachable (fun _ _ ↦ True) s ∧
    (lockGraph s).Deadlocked {0, 1} := by
  have hrun : ((rowLocks fun _ ↦ ⟨1⟩).run (fun _ _ ↦ True) [] paidWhileSearching).isSome := by
    decide
  exact ⟨_, System.reachable_get rfl hrun, deadlocked_pair Nat.zero_ne_one rfl rfl rfl rfl
    (List.mem_singleton_self _) List.mem_cons_self⟩

end YandexPay.BillPayments
