import YandexPay.BillPayments.Machine

/-!
# What one event does to payments

The ledger consists of the tables `bills`, `orders`, `bill_orders` and `transactions`, the payments
of Kazna and the creations in flight. `LedgerStep` lists what one event may do to it, and
`ledgerStep_of_step` derives it from the step function once; every invariant of payments is then
proved by cases on `LedgerStep`.

`Truthful` is the policy of runs in which Kazna gives fresh payment ids and reports only codes that
a payment has really had, and in which `uuid4` draws new transaction ids. `KeepsDocuments` is the
policy of runs in which no document is deleted.
-/

set_option autoImplicit false
set_option relaxedAutoImplicit false

namespace YandexPay.BillPayments

open YandexPay.Transition

/-! ### Reports -/

/-- The event reports a status code for a stored transaction. -/
def Event.Reports (env : Environment) (e : Event) (r : Transaction) (code : PaymentStatusCode) :
    Prop :=
  match e with
  | .webhook request =>
    env.uuidInput request.orderId = some r.transactionId ∧ request.status.code = code
  | .getTransaction transactionId info =>
    env.uuidInput transactionId = some r.transactionId ∧ info.status.code = code
  | .resumeGet transactionId reported =>
    env.uuidInput transactionId = some r.transactionId ∧ reported = code
  | .syncStatus _ info =>
    env.uuidInput info.orderId = some r.transactionId ∧ info.status.code = code
  | _ => False

/-- A report that is not made to wait moves one stored transaction, or changes nothing. -/
theorem move_of_report {env : Environment} {e : Event} {w w' : World} {α : Type}
    {transactionId : String} {action : Action α}
    (h : w.report env transactionId action = some w')
    (hmove : ∀ a db, action w.db = .ok (a, db) → db = w.db ∨ ∃ r r' code,
      r ∈ w.db.transactions ∧ e.Reports env r code ∧
        StatusMove code r r' w.db.toTables db.toTables) :
    w' = w ∨ ∃ db, w' = { w with db } ∧ ∃ r r' code, r ∈ w.db.transactions ∧
      e.Reports env r code ∧ StatusMove code r r' w.db.toTables db.toTables := by
  unfold World.report at h
  split_ifs at h
  obtain rfl := Option.some.inj h
  rcases w.run_eq action (fun _ _ ↦ []) with ⟨a, db, hrun, heq⟩ | heq
  · rw [heq]
    rcases hmove a db hrun with rfl | hmove
    · exact Or.inl rfl
    · exact Or.inr ⟨db, rfl, hmove⟩
  · exact Or.inl heq

/-- The events that report a status. -/
def Event.isReport : Event → Bool
  | .webhook _ => true
  | .getTransaction _ _ => true
  | .resumeGet _ _ => true
  | .syncStatus _ _ => true
  | _ => false

/-- Each of the paths of a status code comes down to one move of the status machine. -/
theorem move_of_step {env : Environment} {e : Event} {w w' : World}
    (hreport : e.isReport = true) (h : World.step env w e = some w') :
    w' = w ∨ ∃ db, w' = { w with db } ∧ ∃ r r' code, r ∈ w.db.transactions ∧
      e.Reports env r code ∧ StatusMove code r r' w.db.toTables db.toTables := by
  cases e with
  | webhook request =>
    refine move_of_report h fun a db hrun ↦ ?_
    obtain ⟨-, hupdate⟩ := kaznaPaymentStatusPost_ok.mp hrun
    rcases updateTransactionStatus_ok hupdate with ⟨-, rfl⟩ | ⟨r, r', hid, hmem, -, hmove⟩
    · exact Or.inl rfl
    · exact Or.inr ⟨r, r', _, hmem, ⟨hid, rfl⟩, hmove⟩
  | getTransaction transactionId info =>
    refine move_of_report h fun a db hrun ↦ ?_
    rcases getTransaction_ok hrun with rfl | ⟨r, r', info', hid, hmem, hinfo, hmove⟩
    · exact Or.inl rfl
    · cases hinfo
      exact Or.inr ⟨r, r', _, hmem, ⟨hid, rfl⟩, hmove⟩
  | resumeGet transactionId code =>
    refine move_of_report h fun a db hrun ↦ ?_
    rcases updateTransactionStatus_ok hrun with ⟨-, rfl⟩ | ⟨r, r', hid, hmem, -, hmove⟩
    · exact Or.inl rfl
    · exact Or.inr ⟨r, r', _, hmem, ⟨hid, rfl⟩, hmove⟩
  | syncStatus action info =>
    refine move_of_report h fun a db hrun ↦ ?_
    rcases syncTransactionStatus_ok hrun with rfl | ⟨r, r', info', hmem, hinfo, hid, hmove⟩
    · exact Or.inl rfl
    · cases hinfo
      exact Or.inr ⟨r, r', _, hmem, ⟨hid, rfl⟩, hmove⟩
  | _ => cases hreport

/-- What Kazna answers about a payment, now or at an earlier time. -/
structure Payment.Answers (p : Payment) (info : PaymentInfoResponse) : Prop where
  paymentId : info.paymentId = p.paymentId
  orderId : info.orderId = p.request.orderId
  code : info.status.code ∈ p.status.past

/-- Kazna returns fresh payment ids and true statuses, and `uuid4` draws new identifiers. -/
def Truthful (env : Environment) (w : World) (e : Event) : Prop :=
  match e with
  | .pay _ transactionId _ payment =>
    (∀ p ∈ w.payments, p.paymentId ≠ payment.paymentId) ∧
      (∀ p ∈ w.payments, p.request.orderId ≠ env.uuidText transactionId) ∧
      w.db.transactions.get? transactionId = none
  | .webhook request => ∃ p ∈ w.payments, p.Answers request.toPaymentInfoResponse
  | .getTransaction transactionId info => ∀ r ∈ w.db.transactions,
    env.uuidInput transactionId = some r.transactionId →
      ∃ p ∈ w.payments, toString p.paymentId = r.externalPaymentId ∧ p.Answers info
  | .resumeGet transactionId code => ∀ r ∈ w.db.transactions,
    env.uuidInput transactionId = some r.transactionId →
      ∃ p ∈ w.payments, toString p.paymentId = r.externalPaymentId ∧ code ∈ p.status.past
  | .syncStatus action info =>
    ∃ p ∈ w.payments, toString p.paymentId = action.externalPaymentId ∧ p.Answers info
  | _ => True

instance (env : Environment) (w : World) (e : Event) : Decidable (Truthful env w e) := by
  have hanswers : ∀ (p : Payment) (info : PaymentInfoResponse), Decidable (p.Answers info) :=
    fun p info ↦ decidable_of_iff
      (info.paymentId = p.paymentId ∧ info.orderId = p.request.orderId ∧
        info.status.code ∈ p.status.past)
      ⟨fun h ↦ ⟨h.1, h.2.1, h.2.2⟩, fun h ↦ ⟨h.1, h.2, h.3⟩⟩
  induction e using Event.casesOn <;> unfold Truthful <;> infer_instance

/-- No document is deleted. -/
def KeepsDocuments (_ : World) (e : Event) : Prop :=
  match e with
  | .deleteDocument _ => False
  | _ => True

instance (w : World) (e : Event) : Decidable (KeepsDocuments w e) := by
  induction e using Event.casesOn <;> unfold KeepsDocuments <;> infer_instance

/-! ### Steps of the ledger -/

/-- The ledger tables agree. -/
structure SameLedger (t t' : Tables) : Prop where
  bills : t'.bills = t.bills
  orders : t'.orders = t.orders
  billOrders : t'.billOrders = t.billOrders
  transactions : t'.transactions = t.transactions

theorem SameLedger.refl (t : Tables) : SameLedger t t := ⟨rfl, rfl, rfl, rfl⟩

/-- What one event does to the ledger. -/
inductive LedgerStep (env : Environment) (e : Event) (w w' : World) : Prop
  | keep (ledger : SameLedger w.db.toTables w'.db.toTables)
      (payments : w'.payments = w.payments) (creations : w'.creations = w.creations)
  | refresh (bills : BillsRefresh w.db.bills w'.db.bills)
      (ledger : SameLedger { w.db.toTables with bills := w'.db.bills } w'.db.toTables)
      (payments : w'.payments = w.payments) (creations : w'.creations = w.creations)
  | place (order : Order) (placed : OrderPlaced order w.db.toTables w'.db.toTables)
      (payments : w'.payments = w.payments) (creations : w'.creations = w.creations)
  | pay (c : Creation) (today : ℤ) (event : e = .pay c.action c.transactionId today c.payment)
      (request : PayRequest) (after : Database)
      (prepared : c.action.prepare env today c.transactionId w.db = .ok (request, after))
      (free : ∀ d ∈ w.creations, d.transactionId ≠ c.transactionId)
      (db : w'.db = w.db)
      (payments : w'.payments = ⟨c.payment.paymentId, request, .created⟩ :: w.payments)
      (creations : w'.creations = c :: w.creations)
  | create (c : Creation) (inFlight : c ∈ w.creations)
      (result : Transaction × Option AcsUrl)
      (committed : c.action.commit c.transactionId c.amount c.payment w.db =
        .ok (result, w'.db))
      (payments : w'.payments = w.payments)
      (creations : w'.creations = w.creations.filter fun d ↦ d.transactionId ≠ c.transactionId)
  | abandon (db : w'.db = w.db) (payments : w'.payments = w.payments)
      (creations : ∀ c ∈ w'.creations, c ∈ w.creations)
  | report (r r' : Transaction) (code : PaymentStatusCode) (stored : r ∈ w.db.transactions)
      (reports : e.Reports env r code)
      (move : StatusMove code r r' w.db.toTables w'.db.toTables)
      (payments : w'.payments = w.payments) (creations : w'.creations = w.creations)
  | cascade (action : DeleteDocumentAction) (event : e = .deleteDocument action)
      (ledger : SameLedger
        { w.db.toTables with
          bills := w.db.bills.keep fun b ↦ b.documentId ≠ action.documentId
          billOrders := w.db.billOrders.keep fun r ↦
            ((w.db.bills.keep fun b ↦ b.documentId ≠ action.documentId).get? r.billId).isSome }
        w'.db.toTables)
      (payments : w'.payments = w.payments) (creations : w'.creations = w.creations)
  | kaznaMoves (db : w'.db = w.db) (creations : w'.creations = w.creations)
      (payments : ∃ paymentId code, w'.payments = w.payments.map fun p ↦
        if p.paymentId = paymentId ∧ code ∈ p.status.next then { p with status := code } else p)

theorem LedgerStep.same {env : Environment} {e : Event} {w : World} : LedgerStep env e w w :=
  .keep (SameLedger.refl _) rfl rfl

theorem ledgerStep_of_searchComplete {env : Environment} {e : Event} {w : World} {task : Task}
    {documents : List Document} {newId : String → UUID} {charges : List Charge}
    {query : Option SearchRequest} {crashed : Bool} :
    LedgerStep env e w (w.searchComplete task documents newId charges query crashed) := by
  unfold World.searchComplete
  cases hrun : task.action.complete documents newId charges w.db with
  | error _ => exact .keep ⟨rfl, rfl, rfl, rfl⟩ rfl rfl
  | ok result =>
    obtain ⟨user, -, -, hbills, hdb⟩ := SearchFinesAction.complete_ok hrun
    have horders : result.2.orders = w.db.orders := by rw [hdb]
    have hrows : result.2.billOrders = w.db.billOrders := by rw [hdb]
    have htransactions : result.2.transactions = w.db.transactions := by rw [hdb]
    exact .refresh hbills ⟨rfl, horders, hrows, htransactions⟩ rfl rfl

theorem ledgerStep_of_searchRetry {env : Environment} {e : Event} {w : World} {task : Task}
    {crashed : Bool} : LedgerStep env e w (w.searchRetry task crashed) := by
  unfold World.searchRetry
  cases hrun : task.action.retry w.db with
  | error _ => exact .keep ⟨rfl, rfl, rfl, rfl⟩ rfl rfl
  | ok result =>
    have hdb := runAsync_eq_ok.mp hrun
    have hbills : result.2.bills = w.db.bills := by rw [hdb]
    have horders : result.2.orders = w.db.orders := by rw [hdb]
    have hrows : result.2.billOrders = w.db.billOrders := by rw [hdb]
    have htransactions : result.2.transactions = w.db.transactions := by rw [hdb]
    exact .keep ⟨hbills, horders, hrows, htransactions⟩ rfl rfl

theorem ledgerStep_of_searchStart {env : Environment} {e : Event} {w : World} {task : Task}
    {crashed : Bool} : LedgerStep env e w (w.searchStart task crashed) := by
  unfold World.searchStart
  cases hrun : task.action.acquireUser w.db with
  | error _ => exact .same
  | ok result =>
    obtain ⟨acquired, db⟩ := result
    have hledger : SameLedger w.db.toTables db.toTables := by
      obtain ⟨user, -, ⟨-, -, hdb⟩ | ⟨-, -, -, -, hdb⟩ | ⟨-, -, -, hdb⟩⟩ :=
        SearchFinesAction.acquireUser_ok hrun <;> rw [hdb] <;> exact ⟨rfl, rfl, rfl, rfl⟩
    cases acquired with
    | none => exact .keep ⟨hledger.1, hledger.2, hledger.3, hledger.4⟩ rfl rfl
    | some user => exact .keep ⟨hledger.1, hledger.2, hledger.3, hledger.4⟩ rfl rfl

/-- The search tasks touch the ledger only through the bills of `_complete`. -/
theorem ledgerStep_of_searchMove {env : Environment} {e : Event} {w w' : World} {task : Task}
    (h : World.SearchMove w task e w') : LedgerStep env e w w' := by
  cases h with
  | start => exact ledgerStep_of_searchStart
  | fail => exact .keep ⟨rfl, rfl, rfl, rfl⟩ rfl rfl
  | load => exact .keep ⟨rfl, rfl, rfl, rfl⟩ rfl rfl
  | reconcile => exact .keep ⟨rfl, rfl, rfl, rfl⟩ rfl rfl
  | ask => exact .keep ⟨rfl, rfl, rfl, rfl⟩ rfl rfl
  | finishEmpty => exact ledgerStep_of_searchComplete
  | finishComplete => exact ledgerStep_of_searchComplete
  | finishPart => exact ledgerStep_of_searchRetry
  | crash => exact .keep ⟨rfl, rfl, rfl, rfl⟩ rfl rfl

/-- An action that succeeds or changes nothing. -/
theorem ledgerStep_of_run {env : Environment} {e : Event} {w : World} {α : Type}
    {action : Action α} {record : α → Database → List Occurrence}
    (h : ∀ a db, action w.db = .ok (a, db) →
      ∀ journal, LedgerStep env e w { w with db, journal }) :
    LedgerStep env e w (w.run action record) := by
  rcases w.run_eq action record with ⟨a, db, hrun, heq⟩ | heq
  · rw [heq]
    exact h a db hrun _
  · rw [heq]
    exact .same

/-- An action on the documents and the searches of a user keeps the ledger. -/
theorem ledgerStep_of_documents {env : Environment} {e : Event} {w : World} {db : Database}
    {journal : List Occurrence} (h : SameLedger w.db.toTables db.toTables) :
    LedgerStep env e w { w with db, journal } :=
  .keep h rfl rfl

/-- Every event of the service is one step of the ledger. -/
theorem ledgerStep_of_step {env : Environment} {e : Event} {w w' : World}
    (h : World.step env w e = some w') : LedgerStep env e w w' := by
  have hsearch : ∀ {taskId}, w.searchEvent taskId e = some w' → LedgerStep env e w w' := by
    intro taskId h
    obtain ⟨task, -, hmove⟩ := World.searchEvent_cases h
    exact ledgerStep_of_searchMove hmove
  have hreport : e.isReport = true → LedgerStep env e w w' := by
    intro hreport
    rcases move_of_step hreport h with rfl | ⟨db, rfl, r, r', code, hmem, hreports, hmove⟩
    · exact .same
    · exact .report r r' code hmem hreports hmove rfl rfl
  cases e with
  | createDocument action subscriptionId documentId =>
    obtain rfl := Option.some.inj h
    refine ledgerStep_of_run fun document db hrun journal ↦ ledgerStep_of_documents ?_
    obtain ⟨-, -, -, -, -, user, users, -, -, hdb⟩ := createDocument_ok hrun
    rw [hdb]
    exact ⟨rfl, rfl, rfl, rfl⟩
  | updateDocument action =>
    obtain rfl := Option.some.inj h
    refine ledgerStep_of_run fun document db hrun journal ↦ ledgerStep_of_documents ?_
    obtain ⟨old, user, -, -, -, -, hdb⟩ := updateDocument_ok hrun
    rw [hdb]
    exact ⟨rfl, rfl, rfl, rfl⟩
  | deleteDocument action =>
    obtain rfl := Option.some.inj h
    refine ledgerStep_of_run fun scheduled db hrun journal ↦ ?_
    rcases deleteDocument_handle_ok hrun with ⟨-, rfl⟩ | ⟨document, user, -, -, -, -, hdb⟩
    · exact .keep (SameLedger.refl _) rfl rfl
    · refine .cascade action rfl ?_ rfl rfl
      rw [hdb]
      exact ⟨rfl, rfl, rfl, rfl⟩
  | forceSearch action =>
    obtain rfl := Option.some.inj h
    refine ledgerStep_of_run fun scheduled db hrun journal ↦ ledgerStep_of_documents ?_
    rcases forceSearch_ok hrun with ⟨-, rfl⟩ | ⟨user, -, -, -, hdb⟩
    · exact SameLedger.refl _
    · rw [hdb]
      exact ⟨rfl, rfl, rfl, rfl⟩
  | searchStart taskId crashed => exact hsearch h
  | searchLoad taskId => exact hsearch h
  | searchReconcile taskId subscription => exact hsearch h
  | searchAsk taskId response => exact hsearch h
  | searchFinish taskId newId crashed => exact hsearch h
  | searchCrash taskId => exact hsearch h
  | searchFail taskId => exact hsearch h
  | notifyBills notifications =>
    obtain rfl := Option.some.inj h
    refine ledgerStep_of_run fun u db hrun journal ↦ ?_
    have hrefresh := createBillsFromManyNotifications_ok hrun
    refine .refresh hrefresh.bills ?_ rfl rfl
    have hothers := hrefresh.others
    exact ⟨rfl, by rw [hothers], by rw [hothers], by rw [hothers]⟩
  | createOrder action orderId =>
    obtain rfl := Option.some.inj h
    refine ledgerStep_of_run fun order db hrun journal ↦ ?_
    obtain ⟨-, hplaced⟩ := createOrder_ok hrun
    exact .place order hplaced rfl rfl
  | pay action transactionId today payment =>
    obtain ⟨hfree, rfl | ⟨request, db, hprepare, rfl⟩⟩ := World.pay_cases h
    · exact .same
    · exact .pay ⟨action, transactionId, request.amount, payment⟩ today rfl request db hprepare
        hfree rfl rfl rfl
  | finishCreation transactionId =>
    obtain ⟨c, hfind, rfl⟩ := Option.map_eq_some_iff.mp h
    have hmem := List.mem_of_find?_eq_some hfind
    have hkey : c.transactionId = transactionId := by simpa using List.find?_some hfind
    rcases (w.takeCreation transactionId).run_eq
      (c.action.commit c.transactionId c.amount c.payment) (fun _ _ ↦ []) with
      ⟨a, db, hrun, heq⟩ | heq
    · rw [heq]
      subst hkey
      exact .create c hmem a hrun rfl rfl
    · rw [heq]
      exact .abandon rfl rfl fun d hd ↦ (List.mem_filter.mp hd).1
  | abandonCreation transactionId =>
    obtain rfl := Option.some.inj h
    exact .abandon rfl rfl fun d hd ↦ (List.mem_filter.mp hd).1
  | webhook request => exact hreport rfl
  | getTransaction transactionId info => exact hreport rfl
  | resumeGet transactionId code => exact hreport rfl
  | syncStatus action info => exact hreport rfl
  | kaznaMoves paymentId code =>
    obtain rfl := Option.some.inj h
    exact .kaznaMoves rfl rfl ⟨paymentId, code, rfl⟩

end YandexPay.BillPayments
