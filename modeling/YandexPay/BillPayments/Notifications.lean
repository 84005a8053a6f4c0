import YandexPay.BillPayments.Machine
import YandexPay.BillPayments.Progress

/-!
# Deliveries of status notifications

Kazna notifies the service of every status of a payment, in any order and repeatedly, and delivers
a refused notification again. `answered` gives the answer to each notification: the notification
of the status that the transaction has is accepted and changes nothing, that of a next status moves
the transaction, and any other is refused by the machine. So the transaction follows the history
of its payment, and `notifications_settle` says where it ends.
-/

set_option autoImplicit false
set_option relaxedAutoImplicit false

namespace YandexPay.BillPayments

/-! ### Histories -/

/-- The codes of a payment in the order in which it has had them. -/
structure TrueHistory (history : List PaymentStatusCode) : Prop where
  starts : history.head? = some .created
  flows : history.IsChain fun code code' ↦ code' ∈ code.next

/-- The status of a transaction that corresponds to the code of its payment. -/
def PaymentStatusCode.transactionStatus : PaymentStatusCode → TransactionStatus
  | .created => .new
  | .auth => .paid
  | .cancel => .cancelled
  | .refunded => .refunded

namespace TrueHistory

variable {history : List PaymentStatusCode}

theorem eq_of_chain {code : PaymentStatusCode} {rest : List PaymentStatusCode}
    (h : (code :: rest).IsChain fun code code' ↦ code' ∈ code.next) (hend : code.next = []) :
    rest = [] := by
  cases rest with
  | nil => rfl
  | cons code' rest =>
    have hnext := (List.isChain_cons_cons.mp h).1
    rw [hend] at hnext
    exact absurd hnext List.not_mem_nil

/-- The flow of Kazna has four histories. -/
theorem eq_or (h : TrueHistory history) :
    history = [.created] ∨ history = [.created, .auth] ∨ history = [.created, .cancel] ∨
      history = [.created, .auth, .refunded] := by
  obtain ⟨hstarts, hflows⟩ := h
  rcases history with _ | ⟨first, _ | ⟨second, rest⟩⟩
  · cases hstarts
  · obtain rfl : first = .created := Option.some.inj hstarts
    exact Or.inl rfl
  · obtain rfl : first = .created := Option.some.inj hstarts
    obtain ⟨hsecond, hrest⟩ := List.isChain_cons_cons.mp hflows
    have hsecond' : second = .auth ∨ second = .cancel := List.mem_pair.mp hsecond
    rcases hsecond' with rfl | rfl
    · rcases rest with _ | ⟨third, rest⟩
      · exact Or.inr (Or.inl rfl)
      · obtain ⟨hthird, hend⟩ := List.isChain_cons_cons.mp hrest
        obtain rfl := List.mem_singleton.mp hthird
        rw [eq_of_chain hend rfl]
        exact Or.inr (Or.inr (Or.inr rfl))
    · rw [eq_of_chain hrest rfl]
      exact Or.inr (Or.inr (Or.inl rfl))

/-- No code of the history follows its last one, and one follows every other. -/
theorem last_iff (h : TrueHistory history) {code : PaymentStatusCode} (hcode : code ∈ history) :
    history.getLast? = some code ↔ ∀ code' ∈ history, code' ∉ code.next := by
  rcases h.eq_or with rfl | rfl | rfl | rfl <;> revert code <;> decide

end TrueHistory

/-! ### Deliveries -/

/-- An accepted notification of a code for a transaction. -/
structure Notifies (env : Environment) (transactionId : UUID) (code : PaymentStatusCode)
    (request : WebhookPaymentInfoRequest) : Prop where
  signed : request.checkSignature env = .ok true
  order : env.uuidInput request.orderId = some transactionId
  code : request.status.code = code

/-- The database after a list of deliveries, and the notifications that were accepted; a refused
one leaves the database as it is. -/
def deliver (env : Environment) :
    Database → List WebhookPaymentInfoRequest → Database × List WebhookPaymentInfoRequest
  | db, [] => (db, [])
  | db, request :: requests =>
    match kaznaPaymentStatusPost env request db with
    | .ok (_, db') =>
      let delivered := deliver env db' requests
      (delivered.1, request :: delivered.2)
    | .error _ => deliver env db requests

/-- The transaction at the status that corresponds to a code. -/
def Transaction.at (r : Transaction) (code : PaymentStatusCode) : Transaction :=
  { r with status := code.transactionStatus }

/-- The database has the transaction at a code, with an order that has a bill. -/
structure StandsAt (r : Transaction) (db : Database) (code : PaymentStatusCode) : Prop where
  row : r.at code ∈ db.transactions
  bill : ∃ s ∈ db.billOrders, s.orderId = r.orderId

variable {env : Environment} {r : Transaction} {db : Database}

/-- The answer to a notification is the result of the change of status. -/
theorem post_of_changeStatus {code code' : PaymentStatusCode} {request : WebhookPaymentInfoRequest}
    (hrow : r.at code ∈ db.transactions) (hrequest : Notifies env r.transactionId code' request)
    {r' : Transaction} {db' : Database} (h : changeStatus code' (r.at code) db = .ok (r', db')) :
    kaznaPaymentStatusPost env request db = .ok (some r', db') := by
  have hupdate := updateTransactionStatus_of_changeStatus hrow hrequest.order h
  rw [← hrequest.code] at hupdate
  exact kaznaPaymentStatusPost_ok.mpr ⟨hrequest.signed, hupdate⟩

theorem post_of_changeStatus_error {code code' : PaymentStatusCode}
    {request : WebhookPaymentInfoRequest} (hrow : r.at code ∈ db.transactions)
    (hrequest : Notifies env r.transactionId code' request) {e : ActionError}
    (h : changeStatus code' (r.at code) db = .error e) :
    kaznaPaymentStatusPost env request db = .error e := by
  have hupdate := updateTransactionStatus_of_error hrow hrequest.order h
  rw [← hrequest.code] at hupdate
  simp only [kaznaPaymentStatusPost, hrequest.signed, if_true]
  exact hupdate

/-- The machine knows the code of its state and the codes that may follow it. -/
theorem trigger_transactionStatus (code code' : PaymentStatusCode) :
    trigger code' code.transactionStatus =
      if code' = code ∨ code' ∈ code.next then some code'.transactionStatus else none := by
  cases code <;> cases code' <;> decide

theorem changeStatus_same (code : PaymentStatusCode) :
    changeStatus code (r.at code) db = .ok (r.at code, db) := by
  have htrigger : trigger code (r.at code).status = some code.transactionStatus := by
    have h := trigger_transactionStatus code code
    rw [if_pos (Or.inl rfl)] at h
    exact h
  rw [changeStatus, htrigger]
  simp only [if_pos (show code.transactionStatus = (r.at code).status from rfl)]
  rfl

theorem exists_changeStatus_next {code code' : PaymentStatusCode} (hstands : StandsAt r db code)
    (hnext : code' ∈ code.next) :
    ∃ db', changeStatus code' (r.at code) db = .ok (r.at code', db') := by
  obtain ⟨hrow, hbill⟩ := hstands
  cases code with
  | created =>
    have hcode : code' = .auth ∨ code' = .cancel := List.mem_pair.mp hnext
    rcases hcode with rfl | rfl
    · exact exists_changeStatus_auth hrow rfl hbill
    · obtain ⟨db', hsave⟩ := exists_save_transaction hrow
        (show TransactionStatus.new ≠ .cancelled by decide) .cancelled
      exact ⟨db', hsave⟩
  | auth =>
    obtain rfl := List.mem_singleton.mp hnext
    obtain ⟨db', hsave⟩ := exists_save_transaction hrow
      (show TransactionStatus.paid ≠ .cancelled by decide) .refunded
    exact ⟨db', hsave⟩
  | cancel => exact absurd hnext List.not_mem_nil
  | refunded => exact absurd hnext List.not_mem_nil

theorem changeStatus_refused {code code' : PaymentStatusCode} (hother : code' ≠ code)
    (hnext : code' ∉ code.next) :
    changeStatus code' (r.at code) db =
      .error (.machineError code' code.transactionStatus) := by
  have htrigger : trigger code' (r.at code).status = none := by
    have h := trigger_transactionStatus code code'
    rw [if_neg (not_or.mpr ⟨hother, hnext⟩)] at h
    exact h
  rw [changeStatus, htrigger]
  rfl

/-- A change of status moves the transaction, and keeps the bills of its order. -/
theorem StandsAt.move {code code' : PaymentStatusCode} {db' : Database}
    (hstands : StandsAt r db code)
    (h : StatusMove code' (r.at code) (r.at code') db.toTables db'.toTables) :
    StandsAt r db' code' := by
  obtain ⟨hrow, hbill⟩ := hstands
  have hreplaced : r.at code' ∈ db.transactions.replace (r.at code') :=
    Table.mem_replace.mpr (Or.inr ⟨rfl, r.at code, hrow, rfl⟩)
  have hstays : db'.billOrders = db.billOrders ∧
      (r.at code' ∈ db'.transactions ∨ r.at code' = r.at code ∧ db'.toTables = db.toTables) := by
    cases h with
    | kept hsame htables => exact ⟨by rw [htables], Or.inr ⟨hsame, htables⟩⟩
    | closed _ htables => exact ⟨by rw [htables], Or.inl (by rw [htables]; exact hreplaced)⟩
    | paid _ _ _ _ _ htables =>
      exact ⟨by rw [htables]; rfl, Or.inl (by rw [htables]; exact hreplaced)⟩
  obtain ⟨hbills, hmoved | ⟨hsame, htables⟩⟩ := hstays
  · exact ⟨hmoved, by rw [hbills]; exact hbill⟩
  · exact ⟨by rw [htables, hsame]; exact hrow, by rw [hbills]; exact hbill⟩

/-- The answer to a notification for a transaction that stands at a code. -/
inductive Answered (env : Environment) (r : Transaction) (db : Database)
    (code code' : PaymentStatusCode) (request : WebhookPaymentInfoRequest) : Prop
  | duplicate (same : code' = code)
    (kept : kaznaPaymentStatusPost env request db = .ok (some (r.at code), db))
  | next (flows : code' ∈ code.next)
    (moved : ∃ db', kaznaPaymentStatusPost env request db = .ok (some (r.at code'), db') ∧
      StandsAt r db' code')
  | refused (other : code' ≠ code) (flows : code' ∉ code.next)
    (error : kaznaPaymentStatusPost env request db =
      .error (.machineError code' code.transactionStatus))

theorem answered {code code' : PaymentStatusCode} {request : WebhookPaymentInfoRequest}
    (hstands : StandsAt r db code) (hrequest : Notifies env r.transactionId code' request) :
    Answered env r db code code' request := by
  by_cases hsame : code' = code
  · subst hsame
    exact .duplicate rfl (post_of_changeStatus hstands.row hrequest (changeStatus_same code'))
  by_cases hnext : code' ∈ code.next
  · obtain ⟨db', hchange⟩ := exists_changeStatus_next hstands hnext
    exact .next hnext ⟨db', post_of_changeStatus hstands.row hrequest hchange,
      hstands.move (changeStatus_ok hchange)⟩
  · exact .refused hsame hnext
      (post_of_changeStatus_error hstands.row hrequest (changeStatus_refused hsame hnext))

/-! ### Schedules -/

/-- Deliveries of notifications of a history move the transaction along the history, and leave it
at the last code once it has been there or the notification of the last code has been accepted. -/
theorem deliver_standsAt {history : List PaymentStatusCode} (hhistory : TrueHistory history)
    {deliveries : List WebhookPaymentInfoRequest}
    (hdeliveries : ∀ request ∈ deliveries, ∃ code ∈ history,
      Notifies env r.transactionId code request)
    {code : PaymentStatusCode} (hcode : code ∈ history) (hstands : StandsAt r db code) :
    ∃ code' ∈ history, StandsAt r (deliver env db deliveries).1 code' ∧
      ∀ last, history.getLast? = some last →
        (code = last ∨ ∃ request ∈ (deliver env db deliveries).2,
          Notifies env r.transactionId last request) → code' = last := by
  induction deliveries generalizing db code with
  | nil =>
    refine ⟨code, hcode, hstands, ?_⟩
    rintro last - (rfl | ⟨request, hmem, -⟩)
    · rfl
    · exact absurd hmem List.not_mem_nil
  | cons request deliveries ih =>
    have hrest := fun request hmem ↦ hdeliveries request (List.mem_cons_of_mem _ hmem)
    obtain ⟨code', hcode', hrequest⟩ := hdeliveries request List.mem_cons_self
    cases answered hstands hrequest with
    | duplicate hsame hpost =>
      obtain ⟨final, hfinal, hfinalStands, hlast⟩ := ih hrest hcode hstands
      rw [deliver, hpost]
      refine ⟨final, hfinal, hfinalStands, fun last hget hreached ↦ hlast last hget ?_⟩
      rcases hreached with rfl | ⟨other, hmem, hother⟩
      · exact Or.inl rfl
      rcases List.mem_cons.mp hmem with rfl | hmem
      · exact Or.inl (hsame.symm.trans (hrequest.code.symm.trans hother.code))
      · exact Or.inr ⟨other, hmem, hother⟩
    | next hnext hmoved =>
      obtain ⟨db', hpost, hstands'⟩ := hmoved
      obtain ⟨final, hfinal, hfinalStands, hlast⟩ := ih hrest hcode' hstands'
      rw [deliver, hpost]
      refine ⟨final, hfinal, hfinalStands, fun last hget hreached ↦ hlast last hget ?_⟩
      rcases hreached with rfl | ⟨other, hmem, hother⟩
      · exact absurd hnext ((hhistory.last_iff hcode).mp hget code' hcode')
      rcases List.mem_cons.mp hmem with rfl | hmem
      · exact Or.inl (hrequest.code.symm.trans hother.code)
      · exact Or.inr ⟨other, hmem, hother⟩
    | refused _ _ hpost =>
      rw [deliver, hpost]
      exact ih hrest hcode hstands

/-- Where deliveries have left the transaction: at a code of the history, with the answers to
further notifications, a next code to be reported unless the code is the last, and the last code
reached if its notification has been accepted. -/
structure Follows (env : Environment) (r : Transaction) (history : List PaymentStatusCode)
    (db : Database) (accepted : List WebhookPaymentInfoRequest) (code : PaymentStatusCode) :
    Prop where
  reached : code ∈ history
  stands : StandsAt r db code
  answers : ∀ code' ∈ history, ∀ request, Notifies env r.transactionId code' request →
    Answered env r db code code' request
  progress : history.getLast? = some code ∨ ∃ code' ∈ history, code' ∈ code.next
  settled : ∀ last, history.getLast? = some last →
    (∃ request ∈ accepted, Notifies env r.transactionId last request) → code = last

/-- The transaction follows the history of its payment, whatever the order of the deliveries. -/
theorem notifications_settle (env : Environment) (db : Database) (r : Transaction)
    (hr : r ∈ db.transactions) (hnew : r.status = .new)
    (hbill : ∃ s ∈ db.billOrders, s.orderId = r.orderId) (history : List PaymentStatusCode)
    (hhistory : TrueHistory history) (deliveries : List WebhookPaymentInfoRequest)
    (hdeliveries : ∀ request ∈ deliveries, ∃ code ∈ history,
      Notifies env r.transactionId code request) :
    ∃ code, Follows env r history (deliver env db deliveries).1 (deliver env db deliveries).2
      code := by
  have hcreated : PaymentStatusCode.created ∈ history := List.mem_of_mem_head? hhistory.starts
  have hstart : StandsAt r db .created := by
    refine ⟨?_, hbill⟩
    have hsame : r.at .created = r := by
      rw [Transaction.at, PaymentStatusCode.transactionStatus, ← hnew]
    rw [hsame]
    exact hr
  obtain ⟨code, hcode, hstands, hlast⟩ := deliver_standsAt hhistory hdeliveries hcreated hstart
  refine ⟨code, hcode, hstands, fun code' _ request hrequest ↦ answered hstands hrequest, ?_,
    fun last hget haccepted ↦ hlast last hget (Or.inr haccepted)⟩
  by_cases hfinal : history.getLast? = some code
  · exact Or.inl hfinal
  · rw [hhistory.last_iff hcode] at hfinal
    simp only [not_forall, not_not] at hfinal
    obtain ⟨code', hmem, hnext⟩ := hfinal
    exact Or.inr ⟨code', hmem, hnext⟩

/-! ### A notification that is never accepted -/

/-- The notifications of the payment 101 of the transaction 1. -/
def statusNotification (code : PaymentStatusCode) (name : String) : WebhookPaymentInfoRequest where
  paymentId := 101
  orderId := "00000000-0000-0000-0000-000000000001"
  status := ⟨code, name⟩
  sign := some ("Yandex101" ++ name)

/-- The transaction 1 of `notificationDatabase`. -/
def notifiedTransaction : Transaction where
  orderId := ⟨1⟩
  status := .new
  amount := 2600
  externalPaymentId := "101"
  payerData := ⟨"payer"⟩
  transactionId := ⟨1⟩

theorem notifies_created : Notifies concreteEnv notifiedTransaction.transactionId .created
    (statusNotification .created "CREATED") :=
  ⟨by decide +kernel, by decide +kernel, rfl⟩

theorem notifies_auth : Notifies concreteEnv notifiedTransaction.transactionId .auth
    (statusNotification .auth "AUTH") :=
  ⟨by decide +kernel, by decide +kernel, rfl⟩

theorem trueHistory_auth : TrueHistory [.created, .auth] := ⟨rfl, by decide⟩

/-- The notification of the authorisation overtakes that of the creation. -/
theorem notifications_settle_witness :
    ∃ code, Follows concreteEnv notifiedTransaction [.created, .auth]
      (deliver concreteEnv notificationDatabase
        [statusNotification .auth "AUTH", statusNotification .created "CREATED"]).1
      (deliver concreteEnv notificationDatabase
        [statusNotification .auth "AUTH", statusNotification .created "CREATED"]).2 code := by
  refine notifications_settle concreteEnv notificationDatabase notifiedTransaction (by decide)
    rfl (by decide) [.created, .auth] trueHistory_auth
    [statusNotification .auth "AUTH", statusNotification .created "CREATED"] ?_
  rw [List.forall_mem_cons, List.forall_mem_singleton]
  exact ⟨⟨.auth, by decide, notifies_auth⟩, .created, by decide, notifies_created⟩

/-- Once the authorisation has been accepted, the notification of the creation is refused however
often it is delivered. -/
theorem superseded_notification_refused :
    TrueHistory [.created, .auth] ∧
      Notifies concreteEnv notifiedTransaction.transactionId .created
        (statusNotification .created "CREATED") ∧
      Notifies concreteEnv notifiedTransaction.transactionId .auth
        (statusNotification .auth "AUTH") ∧
      ∃ db, deliver concreteEnv notificationDatabase [statusNotification .auth "AUTH"] =
          (db, [statusNotification .auth "AUTH"]) ∧
        ∀ n, deliver concreteEnv db (List.replicate n (statusNotification .created "CREATED")) =
          (db, []) := by
  refine ⟨trueHistory_auth, notifies_created, notifies_auth, ?_⟩
  have hstands : StandsAt notifiedTransaction notificationDatabase .created :=
    ⟨by decide, by decide⟩
  cases answered hstands notifies_auth with
  | duplicate same => cases same
  | refused _ flows => exact absurd (by decide) flows
  | next _ hmoved =>
    obtain ⟨db, hpost, hpaid⟩ := hmoved
    refine ⟨db, by rw [deliver, hpost]; rfl, fun n ↦ ?_⟩
    cases answered hpaid notifies_created with
    | duplicate same => cases same
    | next flows => exact absurd flows (by decide)
    | refused _ _ herror =>
      induction n with
      | zero => rfl
      | succ n ih =>
        rw [List.replicate_succ, deliver, herror]
        exact ih

end YandexPay.BillPayments
