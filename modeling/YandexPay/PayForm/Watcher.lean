import YandexPay.PayForm.Checkout

/-!
# The watcher of a server payment and the pay form

`watchServerPayment` asks for the status of a transaction until the payment is decided or a request
fails; what the form shows then depends on the listeners of `checkoutAction`. The system here is
one server payment of a form: a call of `checkoutAction`, and then the answers and the timers.

`watcher_settles` says in which runs a watcher that has stopped leaves a form that is settled: the
pending state reset, and the success or the error screen shown.
-/

set_option autoImplicit false
set_option relaxedAutoImplicit false

namespace YandexPay.PayForm

open Transition Checkout

/-! ### One server payment -/

def serverConfig (page : Page) (targetOrigin : String) : Config := ⟨page, true, targetOrigin⟩

/-- A call of `checkoutAction` in a form in which nothing of an earlier payment is waited for, and
what follows until the next call. -/
def serverPayment (page : Page) (targetOrigin : String) : System Form FormEvent where
  start := fun form' ↦ ∃ (form : Form) (cardId : String),
    form.process.pending = [] ∧ form.processMessages = [] ∧
      form' = form.checkoutAction (serverConfig page targetOrigin) cardId
  step := fun form e ↦
    match e with
    | .checkoutAction _ => none
    | e => form.step (serverConfig page targetOrigin) e

/-- The pending state is reset, and the form shows how the payment has ended. -/
def AppState.Settled (app : AppState) : Prop :=
  app.pending = none ∧ (app.screen = .success ∨ app.screen = .checkoutError)

instance (app : AppState) : Decidable app.Settled := inferInstanceAs (Decidable (_ ∧ _))

/-- The status that arrives is not a new `FAILED`. -/
def NotFailed (form : Form) : FormEvent → Prop
  | .answered (.statusReceived _ transaction) =>
    transaction.status = .failed → form.process.lastTransactionStatus = some .failed
  | _ => True

instance : ∀ form e, Decidable (NotFailed form e) := fun form e ↦ by
  unfold NotFailed
  split <;> infer_instance

/-! ### What the listeners show -/

/-- The events on which the listeners settle the form. -/
def Settles : CheckoutProcessEvent → Prop
  | .error _ _ => True
  | .transactionStatusChanged status => status = .authorized ∨ status = .charged
  | _ => False

section Listeners

variable {form : Form}

theorem listen_settled (call : CheckoutCall) (payment : ℕ) (form : Form)
    {event : CheckoutProcessEvent} (h : Settles event) :
    (call.listen payment form event).app.Settled := by
  cases event with
  | error state =>
    cases state with
    | createPayment => exact ⟨rfl, .inr rfl⟩
    | _ => exact ⟨rfl, .inr rfl⟩
  | transactionStatusChanged status =>
    change status = .authorized ∨ status = .charged at h
    rw [CheckoutCall.listen, if_pos h]
    exact ⟨rfl, .inl rfl⟩
  | _ => exact h.elim

theorem listen_pending (call : CheckoutCall) (payment : ℕ) {event : CheckoutProcessEvent}
    (h : ¬ Settles event) (hpending : form.app.pending.isSome) :
    (call.listen payment form event).app.pending.isSome := by
  cases event with
  | error => exact absurd trivial h
  | transactionStatusChanged status =>
    change ¬ (status = .authorized ∨ status = .charged) at h
    rw [CheckoutCall.listen, if_neg h]
    exact hpending
  | transaction3ds => rfl
  | challengeRedirect => rfl
  | _ => exact hpending

/-- The listeners of all calls settle the form, if there is a call. -/
theorem emit_settled (hcalls : form.calls ≠ []) {record : Record} {event : CheckoutProcessEvent}
    (hevent : actionEvent record.action = some event) (h : Settles event) :
    (form.emit record).app.Settled := by
  obtain ⟨calls, call, hlast⟩ := List.eq_nil_or_concat form.calls |>.resolve_left hcalls
  simp only [Form.emit, hevent, hlast, List.concat_eq_append, List.foldl_append, List.foldl_cons,
    List.foldl_nil]
  exact listen_settled call record.payment _ h

theorem emit_pending {record : Record} (h : ∀ event ∈ actionEvent record.action, ¬ Settles event)
    (hpending : form.app.pending.isSome) : (form.emit record).app.pending.isSome := by
  rw [Form.emit]
  split
  · exact hpending
  · rename_i event hevent
    refine List.foldlRecOn (motive := fun form : Form ↦ (form.app.pending.isSome = true))
      form.calls _ hpending fun form hform call _ ↦ ?_
    exact listen_pending call record.payment (h event hevent) hform

theorem advance_settled (hcalls : form.calls ≠ []) {q : CheckoutProcess} {record : Record}
    {new : List Record} (hnew : q.records = record :: (new ++ form.process.records))
    {event : CheckoutProcessEvent} (hevent : actionEvent record.action = some event)
    (h : Settles event) : (form.advance q).app.Settled := by
  have hsince : recordedSince form.process q = new.reverse ++ [record] :=
    (recordedSince_of_append (List.cons_append ▸ hnew)).trans List.reverse_cons
  rw [Form.advance, hsince, List.foldl_append]
  refine emit_settled ?_ hevent h
  have hkept := foldl_keeps (g := Form.calls) (fun form record ↦ (Form.emit_frame form record).2)
    new.reverse { form with process := q }
  rwa [hkept]

theorem advance_pending {q : CheckoutProcess} {new : List Record}
    (hnew : q.records = new ++ form.process.records)
    (h : ∀ record ∈ new, ∀ event ∈ actionEvent record.action, ¬ Settles event)
    (hpending : form.app.pending.isSome) : (form.advance q).app.pending.isSome := by
  rw [Form.advance, recordedSince_of_append hnew]
  refine List.foldlRecOn (motive := fun form : Form ↦ (form.app.pending.isSome = true))
    new.reverse _ hpending fun form hform record hrecord ↦ ?_
  exact emit_pending (h record (List.mem_reverse.mp hrecord)) hform

end Listeners

/-! ### The turns of the watcher -/

/-- What a server payment waits for: it is not in cash, and it has an order once it asks for the
status of its transaction. -/
def Serves (p : CheckoutProcess) : Pending → Prop
  | .createOrder _ data _ => data.paymentMethodType ≠ .cash
  | .createTransaction _ _ _ => True
  | .getTransactionStatus _ _ _ | .timer => p.order.isSome
  | .checkout _ _ => False

/-- From a state that waits for nothing to a later one, the payment ends with an event that settles
the form, or it waits again. -/
inductive Turn (p q : CheckoutProcess) : Prop
  | ends (record : Record) (new : List Record) (event : CheckoutProcessEvent)
    (recorded : q.records = record :: (new ++ p.records))
    (isEvent : actionEvent record.action = some event) (settles : Settles event)
    (stopped : q.pending = [])
  | waits (pending : Pending) (new : List Record) (recorded : q.records = new ++ p.records)
    (unsettled : ∀ record ∈ new, ∀ event ∈ actionEvent record.action, ¬ Settles event)
    (waiting : q.pending = [pending]) (serves : Serves q pending)

namespace Turn

variable {p : CheckoutProcess}

theorem emitError (hp : p.pending = []) (payment : ℕ) (state : ErrorState) (error : JsError) :
    Turn p (p.emit payment (.error state error)) :=
  .ends _ [] _ rfl rfl trivial hp

theorem poll (hp : p.pending = []) (horder : p.order.isSome) : Turn p p.poll := by
  obtain ⟨order, horder⟩ := Option.isSome_iff_exists.mp horder
  rw [CheckoutProcess.poll, horder]
  exact .waits (.getTransactionStatus order.payment order.transactionId
    (order.transactionId.getD "")) [] rfl (fun _ h ↦ absurd h List.not_mem_nil)
    (congrArg (· ++ _) hp) (Option.isSome_iff_exists.mpr ⟨order, horder⟩)

theorem startServerPayment (hp : p.pending = []) {data : StartPaymentData}
    (hcard : data.paymentMethodType ≠ .cash) : Turn p (p.startServerPayment data) := by
  rw [CheckoutProcess.startServerPayment]
  split_ifs
  · exact emitError hp _ _ _
  · refine .waits _ [_] rfl ?_ (congrArg (· ++ _) hp) hcard
    rintro record hrecord event hevent
    obtain rfl := List.mem_singleton.mp hrecord
    obtain rfl := Option.some.inj hevent
    exact id

theorem orderCreated (hp : p.pending = []) (page : Page) (payment : ℕ) {data : StartPaymentData}
    (hcard : data.paymentMethodType ≠ .cash) (response : CreateOrderResponse) :
    Turn p (p.orderCreated page payment data response) := by
  rw [CheckoutProcess.orderCreated, if_neg hcard]
  split
  · exact .ends _ [_] _ rfl rfl trivial hp
  · refine .waits _ [_] rfl ?_ (congrArg (· ++ _) hp) trivial
    rintro record hrecord event hevent
    obtain rfl := List.mem_singleton.mp hrecord
    exact absurd hevent (Option.not_mem_none _)

theorem transactionCreated (hp : p.pending = []) (payment : ℕ) (response : CreateOrderResponse)
    (transactionId : String) : Turn p (p.transactionCreated payment response transactionId) := by
  rw [CheckoutProcess.transactionCreated]
  split
  · exact emitError hp _ _ _
  · rw [CheckoutProcess.watchServerPayment]
    split
    · exact .ends _ [_, _] _ rfl rfl trivial hp
    · refine .waits _ [_, _, _] rfl ?_ (congrArg (· ++ _) hp) rfl
      simp [actionEvent, Settles]

theorem statusReceived (hp : p.pending = []) (horder : p.order.isSome) (payment : ℕ)
    (transactionId : Option String) {transaction : Transaction}
    (hstatus : transaction.status = .failed → p.lastTransactionStatus = some .failed) :
    Turn p (p.statusReceived payment transactionId transaction) := by
  have hnone : ∀ record ∈ ([] : List Record), ∀ event ∈ actionEvent record.action,
      ¬ Settles event := fun _ h ↦ absurd h List.not_mem_nil
  rw [CheckoutProcess.statusReceived]
  split_ifs with hsame
  · exact .waits _ [] rfl hnone (congrArg (· ++ _) hp) horder
  · dsimp only
    split
    · rename_i hfailed
      rw [hfailed] at hsame
      exact absurd (hstatus hfailed) hsame
    · exact .ends _ [] _ rfl rfl (.inl ‹_›) hp
    · exact .ends _ [] _ rfl rfl (.inr ‹_›) hp
    · split
      · refine .waits _ [_, _] rfl ?_ (congrArg (· ++ _) hp) horder
        simp [actionEvent, Settles, *]
      · exact .waits _ [] rfl hnone (congrArg (· ++ _) hp) horder
    · exact .waits _ [] rfl hnone (congrArg (· ++ _) hp) horder

theorem rejected (hp : p.pending = []) (page : Page) {pending : Pending}
    (hserves : ∀ payment request, pending ≠ .checkout payment request) {error : JsError}
    {q : CheckoutProcess} (h : p.rejected page error pending = some q) : Turn p q := by
  cases pending with
  | timer => cases h
  | checkout payment request => exact absurd rfl (hserves payment request)
  | _ payment =>
    obtain rfl := Option.some.inj h
    exact emitError hp _ _ _

end Turn

/-! ### A form that watches a payment -/

/-- The payment waits, and the form shows that it does; or nothing is waited for, and the form is
settled. -/
structure Watches (form : Form) : Prop where
  called : form.calls ≠ []
  unprocessed : form.processMessages = []
  shows : (form.process.pending = [] ∧ form.app.Settled) ∨
    ∃ pending, form.process.pending = [pending] ∧ Serves form.process pending ∧
      form.app.pending.isSome

section Watcher

variable {page : Page} {targetOrigin : String} {form form' : Form} {e : FormEvent}

/-- A turn of the process keeps the form watching. -/
theorem watches_of_turn (hcalls : form.calls ≠ []) (hmessages : form.processMessages = [])
    (hpending : form.app.pending.isSome) {p q : CheckoutProcess}
    (hturn : Turn p q) (hrecords : p.records = form.process.records)
    (hquiet : ∃ new, q.records = new ++ form.process.records ∧
      new.reverse.filterMap resultOf = []) : Watches (form.advance q) := by
  obtain ⟨hprocess, hregistered⟩ := Form.advance_frame form q
  refine ⟨hregistered ▸ hcalls, (advance_quiet form hquiet).2.trans hmessages, ?_⟩
  rw [hprocess]
  cases hturn with
  | ends record new event recorded isEvent settles stopped =>
    rw [hrecords] at recorded
    exact .inl ⟨stopped, advance_settled hcalls recorded isEvent settles⟩
  | waits pending new recorded unsettled waiting serves =>
    rw [hrecords] at recorded
    exact .inr ⟨pending, waiting, serves, advance_pending recorded unsettled hpending⟩

theorem watches_checkoutAction (hpending : form.process.pending = [])
    (hmessages : form.processMessages = []) (cardId : String) :
    Watches (form.checkoutAction (serverConfig page targetOrigin) cardId) := by
  have hturn : Turn { form.process.reset with started := form.process.started + 1 }
      (form.process.startPayment page
        (form.startPaymentData (serverConfig page targetOrigin) cardId)) :=
    Turn.startServerPayment (p := { form.process.reset with started := form.process.started + 1 })
      hpending (by simp [Form.startPaymentData])
  exact @watches_of_turn form.register
    (List.append_ne_nil_of_right_ne_nil _ (List.cons_ne_nil _ _)) hmessages rfl _ _ hturn rfl
    (startPayment_checkouts page form.process _).1

/-- What the payment waits for is the only thing that is waited for. -/
theorem Watches.take (h : Watches form) {index : ℕ} {r : Pending}
    (hr : form.process.pending[index]? = some r) :
    (form.process.take index).pending = [] ∧ Serves form.process r ∧
      form.app.pending.isSome := by
  rcases h.shows with ⟨hnone, -⟩ | ⟨pending, hone, hserves, hpending⟩
  · rw [hnone] at hr
    cases hr
  · rw [hone] at hr
    obtain ⟨rfl, rfl⟩ : index = 0 ∧ pending = r := by
      cases index with
      | zero => exact ⟨rfl, Option.some.inj hr⟩
      | succ => cases hr
    exact ⟨by simp [CheckoutProcess.take, hone], hserves, hpending⟩

theorem watches_answered (h : Watches form) {event : ProcessEvent} (answer : IsAnswer event)
    (hnotFailed : NotFailed form (.answered event)) {q : CheckoutProcess}
    (hmoved : (checkoutProcess page).step form.process event = some q) :
    Watches (form.advance q) := by
  have hcalls := h.called
  have hmessages := h.unprocessed
  cases steps_of_step hmoved with
  | startPayment => exact answer.elim
  | cancelPayment => exact answer.elim
  | orderCreated response waiting =>
    obtain ⟨hempty, hserves, hpending⟩ := h.take waiting
    exact watches_of_turn hcalls hmessages hpending
      (Turn.orderCreated hempty page _ hserves response) rfl
      (Quiet.orderCreated _ page _ _ response).recorded
  | transactionCreated transactionId waiting =>
    obtain ⟨hempty, hserves, hpending⟩ := h.take waiting
    exact watches_of_turn hcalls hmessages hpending
      (Turn.transactionCreated hempty _ _ transactionId) rfl
      (Quiet.transactionCreated _ _ _ transactionId).recorded
  | statusReceived transaction waiting =>
    obtain ⟨hempty, hserves, hpending⟩ := h.take waiting
    exact watches_of_turn hcalls hmessages hpending
      (Turn.statusReceived hempty hserves _ _ hnotFailed) rfl
      (Quiet.statusReceived _ _ _ transaction).recorded
  | checkedOut data waiting => exact (h.take waiting).2.1.elim
  | @rejected index error r q waiting failed =>
    obtain ⟨hempty, hserves, hpending⟩ := h.take waiting
    have hserved : ∀ payment request, r ≠ .checkout payment request := by
      rintro payment request rfl
      exact hserves
    exact watches_of_turn hcalls hmessages hpending
      (Turn.rejected hempty page hserved failed) rfl (Quiet.rejected page failed).recorded
  | elapsed waiting =>
    obtain ⟨hempty, hserves, hpending⟩ := h.take waiting
    exact watches_of_turn hcalls hmessages hpending (Turn.poll hempty hserves) rfl
      (Quiet.poll _).recorded

theorem watches_resume {delayed : Delayed} {index : ℕ} (h : Watches form)
    (hdue : form.delayed[index]? = some delayed) :
    Watches (Form.resume { form with delayed := form.delayed.eraseIdx index } delayed) := by
  obtain ⟨hcalls, hmessages, hshows⟩ := h
  have hperm := resume_processMessages hdue
  rw [hmessages] at hperm
  cases delayed with
  | successCheckout =>
    rw [Form.resume] at hperm ⊢
    split at hperm
    · exact ⟨hcalls, hperm.eq_nil, hshows⟩
    · exact ⟨hcalls, hperm.eq_nil, hshows⟩
  | _ payment data =>
    -- A form of the server has no message of payment data put off.
    have hmem : (payment, data) ∈ form.delayed.filterMap Delayed.processed :=
      List.mem_filterMap.mpr ⟨_, List.mem_of_getElem? hdue, rfl⟩
    rw [(List.append_eq_nil_iff.mp hmessages).2] at hmem
    exact absurd hmem List.not_mem_nil

theorem form_step_of_step (h : (serverPayment page targetOrigin).step form e = some form') :
    (∀ cardId, e ≠ .checkoutAction cardId) ∧
      form.step (serverConfig page targetOrigin) e = some form' := by
  cases e with
  | checkoutAction => exact absurd h (Option.some_ne_none _).symm
  | _ => exact ⟨fun _ h ↦ FormEvent.noConfusion h, h⟩

/-- An answer moves the process, and the listeners hear of it. -/
theorem answered_of_step {event : ProcessEvent}
    (h : (serverPayment page targetOrigin).step form (.answered event) = some form') :
    IsAnswer event ∧ ∃ q, (checkoutProcess page).step form.process event = some q ∧
      form' = form.advance q := by
  have hform := (form_step_of_step h).2
  rw [Form.step] at hform
  split_ifs at hform with answer
  obtain ⟨q, hmoved, rfl⟩ := Option.map_eq_some_iff.mp hform
  exact ⟨answer, q, hmoved, rfl⟩

theorem watches_step (h : Watches form) (hnotFailed : NotFailed form e)
    (hstep : (serverPayment page targetOrigin).step form e = some form') : Watches form' := by
  obtain ⟨hnoCall, hform⟩ := form_step_of_step hstep
  cases e with
  | checkoutAction cardId => exact absurd rfl (hnoCall cardId)
  | answered event =>
    obtain ⟨answer, q, hmoved, rfl⟩ := answered_of_step hstep
    exact watches_answered h answer hnotFailed hmoved
  | elapsed index =>
    obtain ⟨delayed, hdue, rfl⟩ := Option.map_eq_some_iff.mp hform
    exact watches_resume h hdue
  | _ =>
    obtain rfl := Option.some.inj hform
    exact ⟨h.called, h.unprocessed, h.shows⟩

theorem statusReceived_of_not_notFailed (h : ¬ NotFailed form e) :
    ∃ index transaction, e = .answered (.statusReceived index transaction) ∧
      transaction.status = .failed ∧
      form.process.lastTransactionStatus ≠ some .failed := by
  unfold NotFailed at h
  split at h
  · exact ⟨_, _, rfl, Classical.not_imp.mp h⟩
  · exact absurd trivial h

/-- The listeners do nothing on the status `FAILED`. -/
theorem emit_failed (record : Record)
    (hevent : actionEvent record.action = some (.transactionStatusChanged .failed)) :
    form.emit record = form := by
  have hlisten : ∀ form (call : CheckoutCall),
      call.listen record.payment form (.transactionStatusChanged .failed) = form := by
    intro form call
    rw [CheckoutCall.listen, if_neg (by decide)]
  rw [Form.emit, hevent]
  exact foldl_keeps (g := id) hlisten form.calls form

/-- The watcher stops at a new `FAILED`, and the form goes on showing that it waits. -/
theorem failed_keeps_pending (h : Watches form) (hfailed : ¬ NotFailed form e)
    (hstep : (serverPayment page targetOrigin).step form e = some form') :
    form'.process.pending = [] ∧ form'.app = form.app ∧ form.app.pending.isSome := by
  obtain ⟨index, transaction, rfl, hstatus, hnew⟩ := statusReceived_of_not_notFailed hfailed
  obtain ⟨-, q, hmoved, rfl⟩ := answered_of_step hstep
  cases steps_of_step hmoved with
  | @statusReceived _ payment transactionId requested _ waiting =>
    obtain ⟨hempty, -, hpending⟩ := h.take waiting
    have hreceived : (form.process.take index).statusReceived payment transactionId transaction =
        ({ form.process.take index with
          lastTransactionStatus := some .failed } : CheckoutProcess).record payment
            (.reported transactionId (.transactionStatusChanged .failed)) := by
      rw [CheckoutProcess.statusReceived, hstatus]
      exact if_neg hnew
    have hrecords : ((form.process.take index).statusReceived payment transactionId
        transaction).records =
          [⟨payment, form.process.started, form.process.order,
            .reported transactionId (.transactionStatusChanged .failed)⟩] ++
            form.process.records := by
      rw [hreceived]
      rfl
    refine ⟨?_, ?_, hpending⟩
    · rw [(Form.advance_frame _ _).1, hreceived]
      exact hempty
    · rw [Form.advance, recordedSince_of_append hrecords, List.reverse_singleton, List.foldl_cons,
        List.foldl_nil, emit_failed _ rfl]

/-- In a server payment to which no new `FAILED` is answered, the form is settled whenever nothing
is waited for any more. A new `FAILED` stops the watcher of a form that then goes on waiting. -/
theorem watcher_settles (page : Page) (targetOrigin : String) :
    (∀ form, (serverPayment page targetOrigin).Reachable NotFailed form →
      form.process.pending = [] → form.app.Settled) ∧
    ∀ form e form', (serverPayment page targetOrigin).Reachable NotFailed form →
      (serverPayment page targetOrigin).step form e = some form' → ¬ NotFailed form e →
      form'.process.pending = [] ∧ form'.app = form.app ∧ ¬ form'.app.Settled := by
  have hwatches : ∀ form, (serverPayment page targetOrigin).Reachable NotFailed form →
      Watches form := by
    intro form hform
    refine hform.invariant ?_ fun s e t hs hnotFailed hstep ↦ watches_step hs hnotFailed hstep
    rintro s ⟨form, cardId, hpending, hmessages, rfl⟩
    exact watches_checkoutAction hpending hmessages cardId
  refine ⟨fun form hform hstopped ↦ ?_, fun form e form' hform hstep hfailed ↦ ?_⟩
  · rcases (hwatches form hform).shows with ⟨-, hsettled⟩ | ⟨pending, hone, -⟩
    · exact hsettled
    · rw [hstopped] at hone
      cases hone
  · obtain ⟨hstopped, happ, hpending⟩ := failed_keeps_pending (hwatches form hform) hfailed hstep
    refine ⟨hstopped, happ, fun hsettled ↦ ?_⟩
    rw [happ] at hsettled
    rw [hsettled.1] at hpending
    cases hpending

end Watcher

/-! ### A payment that fails -/

/-- The buyer has a card, and the merchant's sheet is loaded. -/
def loadedForm : Form :=
  { Form.initial with
    payment := ⟨⟨bookSheet, none⟩, "", ""⟩
    paymentMethods := [⟨⟨"1234", "visa"⟩, "card-1"⟩] }

/-- The transaction is created, asks for a confirmation and fails. -/
def failedTransaction : List FormEvent :=
  [.answered (.orderCreated 0 (created "order-1")),
    .answered (.transactionCreated 0 "transaction-1"),
    .answered (.statusReceived 0 ⟨.threedsChallenge, some .iframe, some "confirm"⟩),
    .answered (.elapsed 0), .answered (.statusReceived 0 ⟨.failed, none, none⟩)]

/-- The watcher has stopped, and the form still shows the confirmation. -/
theorem failed_payment_hangs :
    ∃ form, (serverPayment shopPage "bookshop").Reachable (fun _ _ ↦ True) form ∧
      form.process.pending = [] ∧ form.process.lastTransactionStatus = some .failed ∧
      form.app.pending = some .checkout3ds ∧ form.app.screen = .checkout3ds ∧
      ¬ form.app.Settled := by
  have hrun : ∃ form ∈ (serverPayment shopPage "bookshop").run (fun _ _ ↦ True)
      (loadedForm.checkoutAction (serverConfig shopPage "bookshop") "card-1") failedTransaction,
      form.process.pending = [] ∧ form.process.lastTransactionStatus = some .failed ∧
      form.app.pending = some .checkout3ds ∧ form.app.screen = .checkout3ds ∧
      ¬ form.app.Settled := by
    decide
  obtain ⟨form, hform, hhangs⟩ := hrun
  exact ⟨form, ⟨_, ⟨loadedForm, "card-1", rfl, rfl, rfl⟩, System.leads_of_run hform⟩, hhangs⟩

end YandexPay.PayForm
