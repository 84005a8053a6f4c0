import YandexPay.CheckoutForm.PaymentTruth

/-!
# Every regular run of the payment form

`Sound` is the invariant of regular runs: it ties the store to the process and the listeners to the
payment started last. From it, `messages_justified` has every message justified for the payment
during which it was sent, and `form_waits` has a request or a timer of that payment under way as
long as the form only shows that it is busy.
-/

set_option autoImplicit false
set_option relaxedAutoImplicit false

namespace YandexPay.CheckoutForm

open Transition Checkout

variable {CheckoutData : Type}

/-! ### The invariant -/

/-- Requests to the server are either those of orders and transactions or those of `checkout`. -/
def OfMode (IS_CHECKOUT_SERVER : Bool) : Pending → Prop
  | .checkout _ _ => IS_CHECKOUT_SERVER = false
  | .createOrder _ _ _ | .createTransaction _ _ _ | .getTransactionStatus _ _ _ | .timer =>
    IS_CHECKOUT_SERVER = true

/-- The answer goes on with the payment started last. -/
def Serves (p : CheckoutProcess) : Pending → Prop
  | .createOrder payment _ _ | .checkout payment _ => payment = p.started
  | .createTransaction payment _ _ | .getTransactionStatus payment _ _ =>
    payment = p.started ∧ p.order.isSome
  | .timer => p.order.isSome

def Alive (p : CheckoutProcess) : Prop := ∃ r ∈ p.pending, Serves p r

/-- The invariant of the form. -/
structure Sound (IS_CHECKOUT_SERVER : Bool) (f : PaymentForm CheckoutData) : Prop where
  truthful : Truthful IS_CHECKOUT_SERVER f
  coherent : Coherent f.process
  one : f.listeners = [] ∨ ∃ input, f.listeners = [input]
  idle : f.stage.Idle → f.listeners = []
  order : f.listeners ≠ [] → ∀ order ∈ f.process.order, order.transactionId.isSome →
    f.order = some order
  mode : ∀ r ∈ f.process.pending, OfMode IS_CHECKOUT_SERVER r
  asked : ∀ data args, .createOrder f.process.started data args ∈ f.process.pending →
    ∀ input ∈ f.listeners, data.paymentMethodType = input.paymentMethodType
  waits : f.stage.Waits → f.listeners ≠ [] ∧ Alive f.process

/-- The form after a whole step of the process. -/
structure Outcome (server : Bool) (q : CheckoutProcess) (input : PaymentInput CheckoutData)
    (g : PaymentForm CheckoutData) : Prop extends Following server q input g where
  order : ∀ order ∈ q.order, order.transactionId.isSome → g.order = some order
  waits : g.stage.Waits → Alive q

/-! ### Requests and answers -/

section

variable {p q : CheckoutProcess} {r : Pending}

theorem Serves.mono (h : Serves p r) (hstarted : q.started = p.started)
    (horder : p.order.isSome → q.order.isSome) : Serves q r := by
  cases r with
  | createOrder | checkout => exact Eq.trans h hstarted.symm
  | createTransaction | getTransactionStatus => exact ⟨h.1.trans hstarted.symm, horder h.2⟩
  | timer => exact horder h

/-- What is taken was what kept the payment alive, or something else is. -/
theorem serves_or_alive_of_take {index : ℕ} (hr : p.pending[index]? = some r) (h : Alive p) :
    Serves p r ∨ ∃ s ∈ (p.take index).pending, Serves p s := by
  obtain ⟨s, hs, hserves⟩ := h
  obtain ⟨hlt, hget⟩ := List.getElem?_eq_some_iff.mp hr
  have hperm : (r :: p.pending.eraseIdx index).Perm p.pending :=
    hget ▸ List.getElem_cons_eraseIdx_perm hlt
  rcases List.mem_cons.mp (hperm.mem_iff.mpr hs) with rfl | hs
  · exact Or.inl hserves
  · exact Or.inr ⟨s, hs, hserves⟩

theorem watchServerPayment_of_none (payment : ℕ) {order : Order} (horder : p.order = some order)
    (htext : truthyText order.transactionId = none) :
    p.watchServerPayment payment = p.emit payment (.error .waitTransaction
      (.error "Unable to watch transaction status: order not set")) := by
  rw [CheckoutProcess.watchServerPayment, horder, Option.bind_some, htext]

theorem watchServerPayment_of_some (payment : ℕ) {order : Order} (horder : p.order = some order)
    {id : String} (htext : truthyText order.transactionId = some id) :
    p.watchServerPayment payment = (p.emit payment .startWatchServerPayment).await
      (.getTransactionStatus order.payment order.transactionId
        (order.transactionId.getD "")) := by
  have hemit : (p.emit payment .startWatchServerPayment).order = some order := horder
  rw [CheckoutProcess.watchServerPayment, horder, Option.bind_some, htext]
  dsimp only
  rw [CheckoutProcess.poll, hemit]

theorem mem_pending_of_take {index : ℕ} (h : r ∈ (p.take index).pending) : r ∈ p.pending :=
  (List.eraseIdx_sublist p.pending index).subset h

/-- An order that is still to be created was so before. -/
theorem createOrder_of_append {index payment : ℕ} {data : StartPaymentData}
    {args : CreateOrderArgs}
    (h : .createOrder payment data args ∈ (p.take index).pending ++ [r])
    (hother : ∀ payment data args, r ≠ .createOrder payment data args) :
    .createOrder payment data args ∈ p.pending := by
  rcases List.mem_append.mp h with h | h
  · exact mem_pending_of_take h
  · exact absurd (List.mem_singleton.mp h).symm (hother payment data args)

end

namespace Sound

variable {server : Bool} {f : PaymentForm CheckoutData}

/-- A step of the process, by what it records and by what the listeners make of its events. -/
theorem follow (h : Sound server f) {q : CheckoutProcess} (recs : List Record)
    (hcoherent : Coherent q) (hstarted : q.started = f.process.started)
    (hrecords : q.records = recs ++ f.process.records)
    (hmode : ∀ r ∈ q.pending, OfMode server r)
    (hasked : ∀ data args, .createOrder q.started data args ∈ q.pending →
      .createOrder q.started data args ∈ f.process.pending)
    (houtcome : ∀ input, f.listeners = [input] →
      Following server q input { f with process := q } →
      Outcome server q input ((recs.reverse.filterMap fun record ↦ eventOf record.action).foldl
        (fun f event ↦ f.listen server input event) { f with process := q })) :
    Sound server (f.follow server q) := by
  have htruthful := h.truthful.process hrecords hstarted
  rcases h.one with hnil | ⟨input, hone⟩
  · rw [PaymentForm.follow_of_nil server hnil]
    exact ⟨htruthful, hcoherent, Or.inl hnil, fun _ ↦ hnil, fun hne ↦ absurd hnil hne, hmode,
      fun _ _ _ input hinput ↦ absurd (hnil ▸ hinput) List.not_mem_nil,
      fun hwaits ↦ absurd hnil (h.waits hwaits).1⟩
  · have hbusy : ¬ f.stage.Idle := fun hidle ↦ List.cons_ne_nil _ _ (hone.symm.trans (h.idle hidle))
    have hout := houtcome input hone ⟨htruthful, rfl, hone, hbusy⟩
    rw [PaymentForm.follow_of_singleton server hone, emittedEvents_eq _ hrecords]
    have hne := hout.listeners ▸ List.cons_ne_nil input []
    refine ⟨hout.truthful, hout.process.symm ▸ hcoherent, Or.inr ⟨input, hout.listeners⟩,
      fun hidle ↦ absurd hidle hout.busy, fun _ ↦ hout.process.symm ▸ hout.order,
      hout.process.symm ▸ hmode, ?_, fun hwaits ↦ ⟨hne, hout.process.symm ▸ hout.waits hwaits⟩⟩
    intro data args hmem input' hinput'
    rw [hout.process, hstarted] at hmem
    rw [hout.listeners] at hinput'
    refine h.asked data args ?_ input' (hone.symm ▸ hinput')
    rw [← hstarted]
    exact hasked data args (hstarted.symm ▸ hmem)

/-- A step of the process that emits nothing. -/
theorem follow_quiet (h : Sound server f) {q : CheckoutProcess} (recs : List Record)
    (hsilent : (recs.reverse.filterMap fun record ↦ eventOf record.action) = [])
    (hcoherent : Coherent q) (hstarted : q.started = f.process.started)
    (hrecords : q.records = recs ++ f.process.records)
    (hmode : ∀ r ∈ q.pending, OfMode server r)
    (hasked : ∀ data args, .createOrder q.started data args ∈ q.pending →
      .createOrder q.started data args ∈ f.process.pending)
    (horder : f.listeners ≠ [] → ∀ order ∈ q.order, order.transactionId.isSome →
      f.order = some order)
    (halive : Alive f.process → Alive q) : Sound server (f.follow server q) := by
  refine h.follow recs hcoherent hstarted hrecords hmode hasked fun input hone hfollowing ↦ ?_
  rw [hsilent]
  exact ⟨hfollowing, horder (hone ▸ List.cons_ne_nil input []),
    fun hwaits ↦ halive (h.waits hwaits).2⟩

variable {page : Page} {index payment : ℕ}

theorem mode_take (h : Sound server f) (index : ℕ) :
    ∀ r ∈ (f.process.take index).pending, OfMode server r :=
  fun r hr ↦ h.mode r (mem_pending_of_take hr)

theorem mode_await (h : Sound server f) (index : ℕ) {r : Pending} (hr : OfMode server r) :
    ∀ s ∈ (f.process.take index).pending ++ [r], OfMode server s :=
  List.forall_mem_append.mpr ⟨h.mode_take index, List.forall_mem_singleton.mpr hr⟩

/-- An answer whose event ends the waiting. -/
theorem ended (h : Sound server f) {event : CheckoutProcessEvent}
    (hcoherent : Coherent ((f.process.take index).emit payment event))
    (houtcome : ∀ (input : PaymentInput CheckoutData) (g : PaymentForm CheckoutData),
      Following server ((f.process.take index).emit payment event) input g →
      Following server ((f.process.take index).emit payment event) input
          (g.listen server input event) ∧
        (g.listen server input event).order = g.order ∧
        ¬ (g.listen server input event).stage.Waits) :
    Sound server (f.follow server ((f.process.take index).emit payment event)) := by
  refine h.follow [⟨payment, _, _, .emitted event⟩] hcoherent rfl rfl (h.mode_take index)
    (fun _ _ hr ↦ mem_pending_of_take hr) fun input hone hfollowing ↦ ?_
  obtain ⟨hset, horder, hwaits⟩ := houtcome input _ hfollowing
  exact ⟨hset, fun order hsome hid ↦
    horder.trans (h.order (hone ▸ List.cons_ne_nil input []) order hsome hid),
    fun hstage ↦ absurd hstage hwaits⟩

/-- A request that fails ends the payment with an error. -/
theorem failed (h : Sound server f) (hlast : payment = f.process.started) (state : ErrorState)
    (error : JsError)
    (hcoherent : Coherent ((f.process.take index).emit payment (.error state error))) :
    Sound server (f.follow server ((f.process.take index).emit payment (.error state error))) :=
  h.ended hcoherent fun _ _ hfollowing ↦
    hfollowing.error ⟨_, List.mem_cons_self, hlast, rfl⟩

theorem orderCreated (h : Sound server f) {data : StartPaymentData} {args : CreateOrderArgs}
    (response : CreateOrderResponse)
    (waiting : f.process.pending[index]? = some (.createOrder payment data args))
    (hlast : payment = f.process.started)
    (hcoherent : Coherent ((f.process.take index).orderCreated page payment data response)) :
    Sound server
      (f.follow server ((f.process.take index).orderCreated page payment data response)) := by
  have hmem := List.mem_of_getElem? waiting
  have hserver : server = true := h.mode _ hmem
  revert hcoherent
  unfold CheckoutProcess.orderCreated
  dsimp only
  split_ifs with hcash
  · intro hcoherent
    refine h.follow [⟨payment, _, _, .emitted (.paymentOrder _)⟩, ⟨payment, _, _, .assigned⟩]
      hcoherent rfl rfl (h.mode_take index) (fun _ _ hr ↦ mem_pending_of_take hr)
      fun input hone hfollowing ↦ ?_
    obtain ⟨hset, horder, hwaits⟩ :=
      hfollowing.paymentOrder hserver hlast ⟨_, List.mem_cons_self, hlast, rfl⟩
    refine ⟨hset, ?_, fun hstage ↦ absurd hstage (hwaits ?_)⟩
    · rintro order horder' -
      obtain rfl := Option.some.inj horder'
      exact horder
    · have hasked := h.asked data args (hlast ▸ hmem) input (hone ▸ List.mem_singleton_self input)
      exact hasked.symm.trans hcash
  · split
    · intro hcoherent
      refine h.follow [⟨payment, _, _, .emitted (.error .startCheckout .typeError)⟩,
        ⟨payment, _, _, .assigned⟩] hcoherent rfl rfl (h.mode_take index)
        (fun _ _ hr ↦ mem_pending_of_take hr) fun input hone hfollowing ↦ ?_
      obtain ⟨hset, -, hwaits⟩ := hfollowing.error ⟨_, List.mem_cons_self, hlast, rfl⟩
      refine ⟨hset, ?_, fun hstage ↦ absurd hstage hwaits⟩
      rintro order horder hid
      obtain rfl := Option.some.inj horder
      exact absurd hid Bool.false_ne_true
    · intro hcoherent
      refine h.follow_quiet [⟨payment, _, _, .assigned⟩] rfl hcoherent rfl rfl
        (h.mode_await index hserver) ?_ ?_ ?_
      · exact fun _ _ hr ↦ createOrder_of_append hr fun _ _ _ ↦ Pending.noConfusion
      · rintro - order horder hid
        obtain rfl := Option.some.inj horder
        exact absurd hid Bool.false_ne_true
      · exact fun _ ↦ ⟨_, List.mem_append_right _ (List.mem_singleton_self _), hlast, rfl⟩

theorem transactionCreated (h : Sound server f) {response : CreateOrderResponse}
    {request : CreateTransactionRequest} (transactionId : String)
    (waiting : f.process.pending[index]? = some (.createTransaction payment response request))
    (hlast : payment = f.process.started)
    (hcoherent : Coherent
      ((f.process.take index).transactionCreated payment response transactionId)) :
    Sound server
      (f.follow server
        ((f.process.take index).transactionCreated payment response transactionId)) := by
  have hserver : server = true := h.mode _ (List.mem_of_getElem? waiting)
  revert hcoherent
  unfold CheckoutProcess.transactionCreated
  split
  · exact h.failed hlast _ _
  · rename_i current hcurrent
    have hown : ({ current with
        transactionId := some transactionId
        metadata := response.metadata } : Order).payment = f.process.started :=
      h.coherent.own current hcurrent
    cases htext : truthyText (some transactionId) with
    | none =>
      rw [watchServerPayment_of_none payment rfl htext]
      intro hcoherent
      refine h.follow [⟨payment, _, _, .emitted (.error .waitTransaction
        (.error "Unable to watch transaction status: order not set"))⟩,
        ⟨payment, _, _, .emitted (.paymentOrder _)⟩, ⟨payment, _, _, .assigned⟩] hcoherent rfl rfl
        (h.mode_take index) (fun _ _ hr ↦ mem_pending_of_take hr) fun input hone hfollowing ↦ ?_
      obtain ⟨hset, horder, -⟩ := hfollowing.paymentOrder hserver hown
        ⟨_, List.mem_cons_of_mem _ List.mem_cons_self, hlast, rfl⟩
      obtain ⟨hfailed, horder', hwaits⟩ := hset.error ⟨_, List.mem_cons_self, hlast, rfl⟩
      refine ⟨hfailed, ?_, fun hstage ↦ absurd hstage hwaits⟩
      rintro order hsome -
      obtain rfl := Option.some.inj hsome
      exact horder'.trans horder
    | some id =>
      rw [watchServerPayment_of_some payment rfl htext]
      intro hcoherent
      refine h.follow [⟨payment, _, _, .emitted .startWatchServerPayment⟩,
        ⟨payment, _, _, .emitted (.paymentOrder _)⟩, ⟨payment, _, _, .assigned⟩] hcoherent rfl rfl
        (h.mode_await index hserver) ?_ fun input hone hfollowing ↦ ?_
      · exact fun _ _ hr ↦ createOrder_of_append hr fun _ _ _ ↦ Pending.noConfusion
      · obtain ⟨hset, horder, -⟩ := hfollowing.paymentOrder hserver hown
          ⟨_, List.mem_cons_of_mem _ List.mem_cons_self, hlast, rfl⟩
        refine ⟨hset, ?_, fun _ ↦ ⟨_, List.mem_append_right _ (List.mem_singleton_self _),
          hown, rfl⟩⟩
        rintro order hsome -
        obtain rfl := Option.some.inj hsome
        exact horder

/-- A turn of the polling loop that reports nothing. -/
theorem polled (h : Sound server f) {transactionId : Option String} {requested : String}
    (waiting : f.process.pending[index]? =
      some (.getTransactionStatus payment transactionId requested)) {q : CheckoutProcess}
    (hcoherent : Coherent q) (hstarted : q.started = f.process.started)
    (horder : q.order = f.process.order) (hrecords : q.records = f.process.records)
    (hpending : q.pending = (f.process.take index).pending ++ [.timer]) :
    Sound server (f.follow server q) := by
  have hserver : server = true := h.mode _ (List.mem_of_getElem? waiting)
  have htimer : OfMode server .timer := hserver
  refine h.follow_quiet [] rfl hcoherent hstarted hrecords
    (hpending ▸ h.mode_await index htimer) ?_ (horder ▸ h.order) fun halive ↦ ?_
  · rw [hpending]
    exact fun _ _ hr ↦ createOrder_of_append hr fun _ _ _ ↦ Pending.noConfusion
  · rcases serves_or_alive_of_take waiting halive with hserves | ⟨s, hs, hserves⟩
    · refine ⟨.timer, hpending ▸ List.mem_append_right _ (List.mem_singleton_self _), ?_⟩
      change q.order.isSome
      exact horder ▸ hserves.2
    · exact ⟨s, hpending ▸ List.mem_append_left _ hs, hserves.mono hstarted (horder ▸ id)⟩

/-- A status that is reported belongs to the transaction of the order that the store has. -/
theorem order_of_reports (h : Sound server f) {transactionId : Option String} {requested : String}
    (waiting : f.process.pending[index]? =
      some (.getTransactionStatus payment transactionId requested))
    (hlast : payment = f.process.started) (hid : transactionId.isSome)
    (horder : f.process.order.isSome) (hlisteners : f.listeners ≠ []) (order : Order)
    (hsome : f.order = some order) :
    order.payment = f.process.started ∧ order.transactionId = transactionId := by
  obtain ⟨current, hcurrent⟩ := Option.isSome_iff_exists.mp horder
  have hids := (h.coherent.take waiting).2.1 hlast hid current hcurrent
  obtain rfl := Option.some.inj
    ((h.order hlisteners current hcurrent (hids ▸ hid)).symm.trans hsome)
  exact ⟨h.coherent.own current hcurrent, hids⟩

theorem statusReported (h : Sound server f) {transactionId : Option String} {requested : String}
    (waiting : f.process.pending[index]? =
      some (.getTransactionStatus payment transactionId requested))
    (hlast : payment = f.process.started) (hid : transactionId.isSome)
    (horder : f.process.order.isSome) {status : TransactionStatus}
    (hstatus : status ∈ [.failed, .authorized, .charged]) {q : CheckoutProcess}
    (hcoherent : Coherent q) (hstarted : q.started = f.process.started)
    (hsame : q.order = f.process.order)
    (hrecords : q.records = [⟨payment, f.process.started, f.process.order,
      .reported transactionId (.transactionStatusChanged status)⟩] ++ f.process.records)
    (hpending : q.pending = (f.process.take index).pending) :
    Sound server (f.follow server q) := by
  have hserver : server = true := h.mode _ (List.mem_of_getElem? waiting)
  have hrecorded : Recorded q q.started
      (.reported transactionId (.transactionStatusChanged status)) := by
    refine ⟨⟨payment, f.process.started, f.process.order,
      .reported transactionId (.transactionStatusChanged status)⟩, ?_,
      hlast.trans hstarted.symm, rfl⟩
    rw [hrecords]
    exact List.mem_cons_self
  refine h.follow _ hcoherent hstarted hrecords (hpending ▸ h.mode_take index)
    (fun _ _ hr ↦ mem_pending_of_take (hpending ▸ hr)) fun input hone hfollowing ↦ ?_
  have hlisteners := hone ▸ List.cons_ne_nil input []
  obtain ⟨hset, horder', hwaits⟩ := hfollowing.status hserver hstatus hid
    hrecorded fun order hsome ↦ by
      rw [hstarted]
      exact h.order_of_reports waiting hlast hid horder hlisteners order hsome
  refine ⟨hset, fun order hsome hid ↦ ?_, fun hstage ↦ absurd hstage hwaits⟩
  exact horder'.trans (h.order hlisteners order (hsame ▸ hsome) hid)

theorem statusReceived (h : Sound server f) {transactionId : Option String} {requested : String}
    (transaction : Transaction)
    (waiting : f.process.pending[index]? =
      some (.getTransactionStatus payment transactionId requested))
    (hreports : f.process.Reports transaction →
      payment = f.process.started ∧ transactionId.isSome ∧ f.process.order.isSome)
    (hcoherent : Coherent
      ((f.process.take index).statusReceived payment transactionId transaction)) :
    Sound server
      (f.follow server
        ((f.process.take index).statusReceived payment transactionId transaction)) := by
  have hserver : server = true := h.mode _ (List.mem_of_getElem? waiting)
  obtain ⟨status, action, actionUrl⟩ := transaction
  revert hcoherent
  unfold CheckoutProcess.statusReceived
  split_ifs with hsame
  · exact fun hcoherent ↦ h.polled waiting hcoherent rfl rfl rfl rfl
  · cases status with
    | failed | authorized | charged =>
      obtain ⟨hlast, hid, horder⟩ := hreports ⟨hsame, Or.inl (by simp)⟩
      exact fun hcoherent ↦ h.statusReported waiting hlast hid horder (by simp) hcoherent rfl rfl
        rfl rfl
    | new => exact fun hcoherent ↦ h.polled waiting hcoherent rfl rfl rfl rfl
    | threedsChallenge =>
      dsimp only
      split
      · rename_i action url hurl
        intro hcoherent
        obtain ⟨hlast, hid, horder⟩ := hreports
          ⟨hsame, Or.inr ⟨rfl, rfl, Option.isSome_iff_exists.mpr ⟨url, hurl⟩⟩⟩
        refine h.follow [⟨payment, _, _, .reported transactionId (.transaction3ds action url)⟩,
          ⟨payment, _, _, .reported transactionId (.transactionStatusChanged .threedsChallenge)⟩]
          hcoherent rfl rfl (h.mode_await index hserver) ?_ fun input hone hfollowing ↦ ?_
        · exact fun _ _ hr ↦ createOrder_of_append hr fun _ _ _ ↦ Pending.noConfusion
        · refine ⟨hfollowing.setPaymentStage ?_ trivial,
            h.order (hone ▸ List.cons_ne_nil input []),
            fun _ ↦ ⟨.timer, List.mem_append_right _ (List.mem_singleton_self _), horder⟩⟩
          rintro (hidle | hidle) <;> cases hidle
      · exact fun hcoherent ↦ h.polled waiting hcoherent rfl rfl rfl rfl

theorem checkedOut (h : Sound server f) {request : CheckoutRequest} (data : PaymentData)
    (waiting : f.process.pending[index]? = some (.checkout payment request))
    (hlast : payment = f.process.started)
    (hcoherent : Coherent ((f.process.take index).emit payment (.paymentData data))) :
    Sound server (f.follow server ((f.process.take index).emit payment (.paymentData data))) := by
  have hclient : server = false := h.mode _ (List.mem_of_getElem? waiting)
  exact h.ended hcoherent fun _ _ hfollowing ↦
    hfollowing.paymentData hclient ⟨_, List.mem_cons_self, hlast, rfl⟩

theorem rejected (h : Sound server f) {r : Pending} {error : JsError} {q : CheckoutProcess}
    (hlast : r.OfLast f.process) (hrejected : (f.process.take index).rejected page error r = some q)
    (hcoherent : Coherent q) : Sound server (f.follow server q) := by
  cases r with
  | timer => cases hrejected
  | createOrder | createTransaction | getTransactionStatus =>
    obtain rfl := Option.some.inj hrejected
    exact h.failed (hlast _ rfl) _ error hcoherent
  | checkout payment request =>
    obtain rfl := Option.some.inj hrejected
    revert hcoherent
    unfold CheckoutProcess.clientPaymentFailed
    rcases getChallengeParams error with ⟨isChallengeRequired, redirectPath⟩
    dsimp only
    split_ifs
    · intro hcoherent
      refine h.ended hcoherent fun _ _ hfollowing ↦
        ⟨hfollowing.setPaymentStage ?_ trivial, rfl, id⟩
      rintro (hidle | hidle) <;> cases hidle
    · exact fun hcoherent ↦ h.failed (hlast _ rfl) _ error hcoherent

theorem elapsed (h : Sound server f) (waiting : f.process.pending[index]? = some .timer)
    (hcoherent : Coherent (f.process.take index).poll) :
    Sound server (f.follow server (f.process.take index).poll) := by
  have hserver : server = true := h.mode _ (List.mem_of_getElem? waiting)
  revert hcoherent
  unfold CheckoutProcess.poll
  cases horder : f.process.order with
  | none =>
    have htaken : (f.process.take index).order = none := horder
    simp only [htaken]
    intro hcoherent
    refine h.follow_quiet [] rfl hcoherent rfl rfl (h.mode_take index)
      (fun _ _ hr ↦ mem_pending_of_take hr) h.order fun halive ↦ ?_
    rcases serves_or_alive_of_take waiting halive with hserves | halive
    · exact absurd (Option.isSome_iff_exists.mp hserves) (by simp [horder])
    · exact halive
  | some order =>
    have htaken : (f.process.take index).order = some order := horder
    have hown : order.payment = f.process.started := h.coherent.own order horder
    simp only [htaken]
    intro hcoherent
    exact h.follow_quiet [] rfl hcoherent rfl rfl (h.mode_await index hserver)
      (fun _ _ hr ↦ createOrder_of_append hr fun _ _ _ ↦ Pending.noConfusion) h.order
      fun _ ↦ ⟨_, List.mem_append_right _ (List.mem_singleton_self _), hown,
        Option.isSome_iff_exists.mpr ⟨order, horder⟩⟩

/-- A payment is started from a screen without listeners; its first event sets the stage. -/
theorem started (h : Sound server f) (hidle : f.stage.Idle) (input : PaymentInput CheckoutData)
    {q : CheckoutProcess} (record : Record) (event : CheckoutProcessEvent)
    (hevent : eventOf record.action = some event) (hcoherent : Coherent q)
    (hstarted : q.started = f.process.started + 1)
    (hrecords : q.records = [record] ++ f.process.records)
    (hmode : ∀ r ∈ q.pending, OfMode server r) (horder : q.order = none)
    (hasked : ∀ data args, .createOrder q.started data args ∈ q.pending →
      data.paymentMethodType = input.paymentMethodType)
    (houtcome : ∀ g : PaymentForm CheckoutData,
      Following server q input (g.setPaymentStage .payment) →
      Following server q input (g.listen server input event) ∧
        ((g.listen server input event).stage.Waits → Alive q)) :
    Sound server
      ({ f with listeners := f.listeners ++ [input], inputs := f.inputs ++ [input] }.follow
        server q) := by
  have hnil := h.idle hidle
  have hlength : q.started - 1 = f.inputs.length := by
    rw [hstarted, h.truthful.inputs]
    rfl
  have hone : f.listeners ++ [input] = [input] := by rw [hnil, List.nil_append]
  have hlistening : Following server q input
      (({ f with
        process := q
        listeners := f.listeners ++ [input]
        inputs := f.inputs ++ [input] } : PaymentForm CheckoutData).setPaymentStage .payment) := by
    refine ⟨⟨?_, ?_, fun order hsome ↦ (h.truthful.announced order hsome).mono hrecords, trivial,
      fun m hm ↦ (h.truthful.sent m hm).mono hrecords rfl⟩, rfl, hone, ?_⟩
    · change (f.inputs ++ [input]).length = q.started
      rw [List.length_append, h.truthful.inputs, hstarted]
      rfl
    · intro input' hinput'
      change (f.inputs ++ [input])[q.started - 1]? = some input'
      change input' ∈ f.listeners ++ [input] at hinput'
      rw [hone, List.mem_singleton] at hinput'
      rw [hlength, List.getElem?_append_right le_rfl, Nat.sub_self, hinput']
      rfl
    · rintro (hstage | hstage) <;> cases hstage
  obtain ⟨hfollowing, hwaits⟩ := houtcome _ hlistening
  have hevents : [record].reverse.filterMap (fun record ↦ eventOf record.action) = [event] := by
    rw [List.reverse_singleton]
    exact List.filterMap_cons_some hevent
  rw [PaymentForm.follow_of_singleton (f := { f with
      listeners := f.listeners ++ [input]
      inputs := f.inputs ++ [input] }) server hone, emittedEvents_eq _ hrecords, hevents,
    List.foldl_cons, List.foldl_nil]
  refine ⟨hfollowing.truthful, hfollowing.process.symm ▸ hcoherent,
    Or.inr ⟨input, hfollowing.listeners⟩, fun hstage ↦ absurd hstage hfollowing.busy, ?_,
    hfollowing.process.symm ▸ hmode, ?_, fun hstage ↦ ⟨?_, ?_⟩⟩
  · rintro - order hsome
    rw [hfollowing.process, horder] at hsome
    exact absurd hsome (Option.not_mem_none _)
  · intro data args hr input' hinput'
    rw [hfollowing.process] at hr
    rw [hfollowing.listeners, List.mem_singleton] at hinput'
    rw [hinput']
    exact hasked data args hr
  · rw [hfollowing.listeners]
    exact List.cons_ne_nil _ _
  · rw [hfollowing.process]
    exact hwaits hstage

/-- A payment that is being started waits for nothing yet. -/
theorem not_createOrder_of_started (h : Sound server f) (data : StartPaymentData)
    (args : CreateOrderArgs) :
    .createOrder (f.process.started + 1) data args ∉ f.process.pending := by
  intro hmem
  exact Nat.not_succ_le_self _ (h.coherent.past _ hmem _ rfl)

theorem listen_error_setPaymentStage (g : PaymentForm CheckoutData)
    (input : PaymentInput CheckoutData) (state : ErrorState) (error : JsError) :
    (g.setPaymentStage .payment).listen server input (.error state error) =
      g.listen server input (.error state error) := by
  unfold PaymentForm.listen
  dsimp only
  split_ifs <;> rfl

/-- The process when the next payment starts. -/
def begun (p : CheckoutProcess) : CheckoutProcess := { p.reset with started := p.started + 1 }

theorem startedFailed (h : Sound server f) (hidle : f.stage.Idle)
    (input : PaymentInput CheckoutData) (state : ErrorState) (error : JsError)
    (hcoherent : Coherent
      ((begun f.process).emit (begun f.process).started (.error state error))) :
    Sound server
      ({ f with listeners := f.listeners ++ [input], inputs := f.inputs ++ [input] }.follow server
        ((begun f.process).emit (begun f.process).started (.error state error))) := by
  refine h.started hidle input _ (.error state error) rfl hcoherent rfl rfl h.mode rfl
    (fun data args hr ↦ absurd hr (h.not_createOrder_of_started data args)) fun g hg ↦ ?_
  obtain ⟨hset, -, hwaits⟩ := hg.error ⟨_, List.mem_cons_self, rfl, rfl⟩
  rw [listen_error_setPaymentStage] at hset hwaits
  exact ⟨hset, fun hstage ↦ absurd hstage hwaits⟩

theorem startedWaiting (h : Sound server f) (hidle : f.stage.Idle)
    (input : PaymentInput CheckoutData) {event : CheckoutProcessEvent} {r : Pending}
    (hscreen : ∀ g : PaymentForm CheckoutData,
      g.listen server input event = g.setPaymentStage .payment)
    (hmode : OfMode server r) (hserves : Serves (begun f.process) r)
    (hasked : ∀ payment data args, r = .createOrder payment data args →
      data.paymentMethodType = input.paymentMethodType)
    (hcoherent : Coherent
      (((begun f.process).emit (begun f.process).started event).await r)) :
    Sound server
      ({ f with listeners := f.listeners ++ [input], inputs := f.inputs ++ [input] }.follow server
        (((begun f.process).emit (begun f.process).started event).await r)) := by
  refine h.started hidle input _ event rfl hcoherent rfl rfl
    (List.forall_mem_append.mpr ⟨h.mode, List.forall_mem_singleton.mpr hmode⟩) rfl ?_ ?_
  · intro data args hr
    rcases List.mem_append.mp hr with hr | hr
    · exact absurd hr (h.not_createOrder_of_started data args)
    · exact hasked _ data args (List.mem_singleton.mp hr).symm
  · intro g hg
    rw [hscreen g]
    exact ⟨hg, fun _ ↦ ⟨r, List.mem_append_right _ (List.mem_singleton_self r),
      hserves.mono rfl id⟩⟩

theorem startedServer (h : Sound true f) (page : Page) (hidle : f.stage.Idle)
    (input : PaymentInput CheckoutData) :
    Sound true (f.startPaymentService true page input) := by
  have hcoherent := h.coherent.startPayment page (input.toStartPaymentData true)
  have hstart : f.process.startPayment page (input.toStartPaymentData true) =
      (begun f.process).startServerPayment (input.toStartPaymentData true) := rfl
  unfold PaymentForm.startPaymentService
  revert hcoherent
  rw [hstart]
  unfold CheckoutProcess.startServerPayment
  split_ifs
  · exact h.startedFailed hidle input _ _
  · refine h.startedWaiting hidle input (fun _ ↦ rfl) rfl rfl ?_
    rintro payment data args hr
    obtain ⟨-, rfl, -⟩ := Pending.createOrder.inj hr
    rfl

theorem startedClient (h : Sound false f) (page : Page) (hidle : f.stage.Idle)
    (input : PaymentInput CheckoutData) :
    Sound false (f.startPaymentService false page input) := by
  have hcoherent := h.coherent.startPayment page (input.toStartPaymentData false)
  have hstart : f.process.startPayment page (input.toStartPaymentData false) =
      (begun f.process).startClientPayment page (input.toStartPaymentData false) := rfl
  unfold PaymentForm.startPaymentService
  revert hcoherent
  rw [hstart]
  unfold CheckoutProcess.startClientPayment
  dsimp only
  split_ifs
  · have hchallenge : ∀ p : CheckoutProcess, ∀ n : ℕ, ∀ message : String,
        p.clientPaymentFailed page n (.error message) =
          p.emit n (.error .createPayment (.error message)) := by
      intro p n message
      unfold CheckoutProcess.clientPaymentFailed getChallengeParams
      dsimp only
      exact if_neg fun hrequired ↦ absurd hrequired.1 (by decide)
    rw [hchallenge]
    exact h.startedFailed hidle input _ _
  · exact h.startedWaiting hidle input (fun _ ↦ rfl) rfl rfl fun _ _ _ ↦ Pending.noConfusion

theorem startPayment (h : Sound server f) (page : Page) (hidle : f.stage.Idle)
    (input : PaymentInput CheckoutData) :
    Sound server (f.startPaymentService server page input) := by
  cases server with
  | false => exact h.startedClient page hidle input
  | true => exact h.startedServer page hidle input

/-- An answer to the process. -/
theorem answer (h : Sound server f) {e : ProcessEvent} {q : CheckoutProcess} (hanswer : IsAnswer e)
    (hin : InTime f.process e) (hstep : (checkoutProcess page).step f.process e = some q) :
    Sound server (f.follow server q) := by
  have hcoherent := coherent_step h.coherent hin hstep
  cases steps_of_step hstep with
  | startPayment | cancelPayment => exact hanswer.elim
  | orderCreated response waiting =>
    exact h.orderCreated response waiting (hin _ waiting _ rfl) hcoherent
  | transactionCreated transactionId waiting =>
    exact h.transactionCreated transactionId waiting (hin _ waiting _ rfl) hcoherent
  | statusReceived transaction waiting =>
    refine h.statusReceived transaction waiting (fun hreports ↦ ?_) hcoherent
    obtain ⟨hlast, hid, horder⟩ := hin hreports _ waiting
    exact ⟨hlast _ rfl, hid, horder⟩
  | checkedOut data waiting => exact h.checkedOut data waiting (hin _ waiting _ rfl) hcoherent
  | rejected waiting failed => exact h.rejected (hin _ waiting) failed hcoherent
  | elapsed waiting => exact h.elapsed waiting hcoherent

/-- A service that leaves the process and the listeners as they are. -/
theorem store (h : Sound server f) {g : PaymentForm CheckoutData} (htruthful : Truthful server g)
    (hprocess : g.process = f.process) (hlisteners : g.listeners = f.listeners)
    (horder : g.order = f.order) (hidle : g.stage.Idle → f.listeners = [])
    (hwaits : g.stage.Waits → f.stage.Waits) : Sound server g where
  truthful := htruthful
  coherent := hprocess ▸ h.coherent
  one := hlisteners ▸ h.one
  idle := fun hstage ↦ hlisteners.trans (hidle hstage)
  order := by
    rw [hprocess, hlisteners, horder]
    exact h.order
  mode := hprocess ▸ h.mode
  asked := by
    rw [hprocess, hlisteners]
    exact h.asked
  waits := by
    rw [hprocess, hlisteners]
    exact fun hstage ↦ h.waits (hwaits hstage)

theorem failPayment (h : Sound server f) (reason : Option String) :
    Sound server (f.failPaymentService reason none) := by
  refine h.store (h.truthful.setPaymentStage _ trivial) rfl rfl rfl ?_ False.elim
  rintro (hstage | hstage) <;> cases hstage

theorem sendPaymentData (h : Sound server f) (hclient : server = false)
    {processData : ProcessData CheckoutData} (hdata : f.processData = some processData)
    (hjustified : Justified f.process f.inputs f.process.started (.processPayment processData)) :
    Sound server (f.sendPaymentDataService server) := by
  have hsend : f.sendPaymentDataService server = f.send (.processPayment processData) := by
    rw [PaymentForm.sendPaymentDataService, if_neg (hclient ▸ Bool.false_ne_true), hdata]
  rw [hsend]
  exact h.store (h.truthful.send hjustified) rfl rfl rfl h.idle id

/-- The frame of a split payment is done. -/
theorem showPaymentInfo (h : Sound server f) {url : String} (hstage : f.stage = .splitPayment url) :
    Sound server (f.showPaymentInfoService server) := by
  have htrue := h.truthful.stage
  unfold PaymentForm.StageTrue at htrue
  rw [hstage] at htrue
  obtain ⟨hclient, processData, hdata, hjustified⟩ := htrue
  have hshown : Sound server (f.setPaymentStage .successInfo) := by
    refine h.store (h.truthful.setPaymentStage _ trivial) rfl rfl rfl ?_ False.elim
    rintro (hidle | hidle) <;> cases hidle
  exact hshown.sendPaymentData hclient hdata hjustified

theorem resetPayment (h : Sound server f) : Sound server f.resetPaymentService where
  truthful := ⟨h.truthful.inputs, fun _ hinput ↦ absurd hinput List.not_mem_nil,
    h.truthful.announced, trivial, h.truthful.sent⟩
  coherent := h.coherent.cancelPayment
  one := Or.inl rfl
  idle := fun _ ↦ rfl
  order := fun hne ↦ absurd rfl hne
  mode := h.mode
  asked := fun _ _ _ _ hinput ↦ absurd hinput List.not_mem_nil
  waits := False.elim

end Sound

theorem sound_step {server : Bool} {page : Page} {f g : PaymentForm CheckoutData}
    {e : FormEvent CheckoutData} (h : Sound server f) (hregular : Regular f e)
    (hstep : (paymentForm CheckoutData server page).step f e = some g) : Sound server g := by
  cases e with
  | startPayment input =>
    obtain rfl := Option.some.inj hstep
    exact h.startPayment page
      (hregular.imp PaymentStage.eq_initial PaymentStage.eq_newCard) input
  | newCard =>
    obtain rfl := Option.some.inj hstep
    exact h.store (h.truthful.setPaymentStage _ trivial) rfl rfl rfl
      (fun _ ↦ h.idle (Or.inl (PaymentStage.eq_initial hregular))) False.elim
  | setPaymentScreen =>
    obtain rfl := Option.some.inj hstep
    refine h.store (h.truthful.setPaymentStage _ trivial) rfl rfl rfl ?_
      fun _ ↦ PaymentStage.waits_of_auth3ds hregular
    rintro (hidle | hidle) <;> cases hidle
  | showPaymentInfo =>
    obtain rfl := Option.some.inj hstep
    obtain ⟨url, hstage⟩ := PaymentStage.eq_splitPayment hregular
    exact h.showPaymentInfo hstage
  | sendPaymentData =>
    obtain rfl := Option.some.inj hstep
    have htrue := h.truthful.stage
    unfold PaymentForm.StageTrue at htrue
    rw [PaymentStage.eq_successRedirect hregular] at htrue
    obtain ⟨hclient, processData, hdata, hjustified⟩ := htrue
    exact h.sendPaymentData hclient hdata hjustified
  | failPayment reason =>
    obtain rfl := Option.some.inj hstep
    exact h.failPayment reason
  | resetPayment =>
    obtain rfl := Option.some.inj hstep
    exact h.resetPayment
  | failedAction =>
    change f.step server page .failedAction = some g at hstep
    dsimp only [PaymentForm.step] at hstep
    split at hstep
    · rename_i reason error hstage
      obtain rfl := Option.some.inj hstep
      have htrue := h.truthful.stage
      unfold PaymentForm.StageTrue at htrue
      rw [hstage] at htrue
      exact h.store (h.truthful.send htrue) rfl rfl rfl h.idle id
    · cases hstep
  | answer event =>
    change (if IsAnswer event then (f.process.step page event).map (f.follow server) else none) =
      some g at hstep
    split_ifs at hstep with hanswer
    obtain ⟨q, hq, rfl⟩ := Option.map_eq_some_iff.mp hstep
    exact h.answer hanswer hregular hq

theorem sound_of_reachable {server : Bool} {page : Page} {f : PaymentForm CheckoutData}
    (hf : (paymentForm CheckoutData server page).Reachable Regular f) : Sound server f := by
  refine hf.invariant ?_ fun _ _ _ h hregular hstep ↦ sound_step h hregular hstep
  rintro _ rfl
  exact ⟨⟨rfl, fun _ h ↦ absurd h List.not_mem_nil, fun _ h ↦ absurd h (Option.some_ne_none _).symm,
      trivial, fun _ h ↦ absurd h List.not_mem_nil⟩,
    ⟨fun _ h ↦ absurd h (Option.not_mem_none _), fun _ h ↦ absurd h List.not_mem_nil,
      fun _ h ↦ absurd h List.not_mem_nil, List.Pairwise.nil,
      fun _ h ↦ absurd h List.not_mem_nil⟩,
    Or.inl rfl, fun _ ↦ rfl, fun hne ↦ absurd rfl hne, fun _ h ↦ absurd h List.not_mem_nil,
    fun _ _ h ↦ absurd h List.not_mem_nil, False.elim⟩

/-! ### Waiting comes to an end -/

/-- Nothing but answers to the process, in time. -/
def Answers (f : PaymentForm CheckoutData) (e : FormEvent CheckoutData) : Prop :=
  Regular f e ∧ ∃ event, e = .answer event

section

variable {server : Bool} {page : Page} {f : PaymentForm CheckoutData}

theorem follow_of_silent (server : Bool) {q : CheckoutProcess}
    (hrecords : q.records = f.process.records) :
    f.follow server q = { f with process := q } := by
  rw [PaymentForm.follow, emittedEvents_eq [] hrecords]
  rfl

theorem stage_listen_error (server : Bool) (f : PaymentForm CheckoutData)
    (input : PaymentInput CheckoutData) (state : ErrorState) (error : JsError) :
    ∃ reason action,
      (f.listen server input (.error state error)).stage = .failed reason action := by
  unfold PaymentForm.listen
  dsimp only
  split_ifs
  · exact ⟨_, _, rfl⟩
  · exact ⟨_, _, rfl⟩

/-- A request that fails with an error other than a challenge is an error of its payment. -/
theorem rejected_typeError (p : CheckoutProcess) (page : Page) {r : Pending} {payment : ℕ}
    (hr : r.payment = some payment) :
    ∃ state, p.rejected page .typeError r = some (p.emit payment (.error state .typeError)) := by
  cases r with
  | timer => cases hr
  | createOrder | createTransaction | getTransactionStatus =>
    obtain rfl := Option.some.inj hr
    exact ⟨_, rfl⟩
  | checkout =>
    obtain rfl := Option.some.inj hr
    refine ⟨.createPayment, congrArg some ?_⟩
    unfold CheckoutProcess.clientPaymentFailed getChallengeParams
    exact if_neg fun hrequired ↦ absurd hrequired.1 (by decide)

/-- The rejection of a request of the payment started last shows a failure. -/
theorem leads_of_request (server : Bool) (page : Page) {input : PaymentInput CheckoutData}
    (hone : f.listeners = [input]) {index payment : ℕ} {r : Pending}
    (waiting : f.process.pending[index]? = some r) (hr : r.payment = some payment)
    (hlast : payment = f.process.started) :
    ∃ g, (paymentForm CheckoutData server page).Leads Answers f g ∧ ¬ g.stage.Waits := by
  obtain ⟨state, hrejected⟩ := rejected_typeError (f.process.take index) page hr
  have hin : InTime f.process (.rejected index .typeError) := by
    intro pending hpending payment' hpayment'
    obtain rfl := Option.some.inj (waiting.symm.trans hpending)
    exact (Option.some.inj (hr.symm.trans hpayment')).symm.trans hlast
  have hstep : (paymentForm CheckoutData server page).step f
      (.answer (.rejected index .typeError)) =
      some (f.follow server ((f.process.take index).emit payment (.error state .typeError))) := by
    change ((f.process.pending[index]?.bind
      ((f.process.take index).rejected page .typeError)).map (f.follow server)) = _
    rw [waiting, Option.bind_some, hrejected, Option.map_some]
  have hanswers : Answers f (.answer (.rejected index .typeError)) := ⟨hin, _, rfl⟩
  refine ⟨_, (System.Leads.refl f).tail hanswers hstep, ?_⟩
  rw [PaymentForm.follow_of_singleton server hone,
    emittedEvents_eq [⟨payment, _, _, .emitted (.error state .typeError)⟩] rfl]
  obtain ⟨reason, action, hstage⟩ := stage_listen_error server
    { f with process := (f.process.take index).emit payment (.error state .typeError) } input state
    .typeError
  change ¬ PaymentStage.Waits (PaymentForm.listen server _ input (.error state .typeError)).stage
  rw [hstage]
  exact id

/-- What serves the payment started last ends the waiting, a timer by way of its request. -/
theorem leads_of_waits (h : Sound server f) (hstage : f.stage.Waits) :
    ∃ g, (paymentForm CheckoutData server page).Leads Answers f g ∧ ¬ g.stage.Waits := by
  obtain ⟨hlisteners, r, hmem, hserves⟩ := h.waits hstage
  obtain ⟨input, hone⟩ := h.one.resolve_left hlisteners
  obtain ⟨index, waiting⟩ := List.getElem?_of_mem hmem
  cases r with
  | createOrder | checkout => exact leads_of_request server page hone waiting rfl hserves
  | createTransaction | getTransactionStatus =>
    exact leads_of_request server page hone waiting rfl hserves.1
  | timer =>
    obtain ⟨order, horder⟩ := Option.isSome_iff_exists.mp hserves
    have hpoll : (f.process.take index).poll = (f.process.take index).await
        (.getTransactionStatus order.payment order.transactionId
          (order.transactionId.getD "")) := by
      have htaken : (f.process.take index).order = some order := horder
      rw [CheckoutProcess.poll, htaken]
    have hstep : (paymentForm CheckoutData server page).step f (.answer (.elapsed index)) =
        some { f with process := (f.process.take index).poll } := by
      change (f.process.step page (.elapsed index)).map (f.follow server) = _
      rw [CheckoutProcess.step, waiting]
      dsimp only
      rw [Option.map_some, follow_of_silent server (hpoll ▸ rfl)]
    have hasked : (f.process.take index).poll.pending[(f.process.take index).pending.length]? =
        some (.getTransactionStatus order.payment order.transactionId
          (order.transactionId.getD "")) := by
      rw [hpoll]
      exact List.getElem?_concat_length
    have hlast : order.payment = (f.process.take index).poll.started := by
      rw [hpoll]
      exact h.coherent.own order horder
    obtain ⟨g, hleads, hends⟩ := leads_of_request server page
      (f := { f with process := (f.process.take index).poll }) hone hasked rfl hlast
    exact ⟨g, ((System.Leads.refl f).tail ⟨trivial, _, rfl⟩ hstep).trans hleads, hends⟩

end

/-! ### Every regular run -/

/-- Whatever is sent to the merchant is justified for the payment during which it was sent. -/
theorem messages_justified (server : Bool) (page : Page) {f : PaymentForm CheckoutData}
    (hf : (paymentForm CheckoutData server page).Reachable Regular f) :
    ∀ m ∈ f.sent, Justified f.process f.inputs m.1 m.2 :=
  (sound_of_reachable hf).truthful.sent

def cardInput : PaymentInput Unit where
  paymentMethod := payByCard.paymentMethod
  paymentMethodType := .card
  sheet := bookSheet
  billingContact := none
  shippingContact := none
  merchantOrigin := "bookshop"
  checkoutData := ()

/-- A payment that is given up, and one for which the bank asks for a confirmation. -/
def askedPayment : List (FormEvent Unit) :=
  [.startPayment cardInput, .answer (.rejected 0 .typeError), .resetPayment,
    .startPayment cardInput, .answer (.orderCreated 0 (created "second")),
    .answer (.transactionCreated 0 "transaction-2"),
    .answer (.statusReceived 0 ⟨.threedsChallenge, some .iframe, some "/challenge"⟩)]

def paidPayment : List (FormEvent Unit) :=
  askedPayment ++ [.setPaymentScreen, .answer (.elapsed 0),
    .answer (.statusReceived 0 ⟨.charged, none, none⟩)]

theorem paidPayment_isSome :
    ((paymentForm Unit true shopPage).run Regular {} paidPayment).isSome := by
  decide +kernel

theorem messages_justified_witness :
    let f := ((paymentForm Unit true shopPage).run Regular {} paidPayment).get paidPayment_isSome
    f.sent = [(2, .successCheckout "second" none)] ∧
      ∀ m ∈ f.sent, Justified f.process f.inputs m.1 m.2 :=
  ⟨by decide +kernel, messages_justified true shopPage
    (System.reachable_get rfl paidPayment_isSome)⟩

/-- While the form is busy or a bank asks for something, listeners are on and an answer is
awaited that goes on with the payment started last; and some answers end the waiting. -/
theorem form_waits (server : Bool) (page : Page) {f : PaymentForm CheckoutData}
    (hf : (paymentForm CheckoutData server page).Reachable Regular f) (hstage : f.stage.Waits) :
    f.listeners ≠ [] ∧ Alive f.process ∧
      ∃ g, (paymentForm CheckoutData server page).Leads Answers f g ∧ ¬ g.stage.Waits := by
  have hsound := sound_of_reachable hf
  obtain ⟨hlisteners, halive⟩ := hsound.waits hstage
  exact ⟨hlisteners, halive, leads_of_waits hsound hstage⟩

theorem askedPayment_isSome :
    ((paymentForm Unit true shopPage).run Regular {} askedPayment).isSome := by
  decide +kernel

theorem askedPayment_stage :
    (((paymentForm Unit true shopPage).run Regular {} askedPayment).get
      askedPayment_isSome).stage = .auth3ds .iframe "/challenge" := by
  decide +kernel

theorem form_waits_witness :
    let f := ((paymentForm Unit true shopPage).run Regular {} askedPayment).get askedPayment_isSome
    f.listeners ≠ [] ∧ Alive f.process ∧
      ∃ g, (paymentForm Unit true shopPage).Leads Answers f g ∧ ¬ g.stage.Waits :=
  form_waits true shopPage (System.reachable_get rfl askedPayment_isSome)
    (PaymentStage.waits_of_auth3ds (congrArg PaymentStage.type askedPayment_stage))

end YandexPay.CheckoutForm
