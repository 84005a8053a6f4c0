import YandexPay.Checkout.ServerApi

/-!
# The last render and the inputs of the module

A call of the module sets the address or the coupon at once and asks for a rendering with it; the
answer replaces the last render whenever it comes. `renders_inputs_of_reachable` says under which
order of the answers the last render belongs to the present inputs as soon as nothing is open, and
`inOrder_iff` that every other order ends with a render of earlier inputs. The second part is about
the coupon that a rejected `couponChange` leaves behind.
-/

set_option autoImplicit false
set_option relaxedAutoImplicit false

namespace YandexPay.Checkout

open Transition

/-! ### Inputs -/

/-- What a request for a rendering takes from the address and the coupon. -/
structure RenderInputs where
  shippingAddressId : Option String
  coupons : Option (List String)
  deriving DecidableEq

def RenderOrderRequest.inputs (request : RenderOrderRequest) : RenderInputs :=
  ⟨request.shippingAddressId, request.coupons⟩

namespace ServerApiModule

variable (m : ServerApiModule)

def inputs : RenderInputs :=
  ⟨m.address.map Address.id, (truthyText m.coupon).map fun value ↦ [value]⟩

/-- The request made last of those that are open; when none is open, that of the last render. -/
def newest : Option RenderOrderRequest :=
  (m.rendering.getLast?.map Rendering.request).or (m.lastRender.map Render.request)

/-- The open request made just before the last one. -/
def openBefore : Option RenderOrderRequest :=
  m.rendering.dropLast.getLast?.map Rendering.request

/-- When nothing is open the last render answers a request with the present inputs; before the
first sheet nothing has been rendered. -/
def RendersInputs : Prop :=
  m.rendering = [] → (m.initSheet = none ∧ m.lastRender = none) ∨
    ∃ render ∈ m.lastRender, render.request.inputs = m.inputs

/-- The request made last is not answered before an open one with other inputs, and when it fails
another request with the present inputs, open or rendered last, is left. -/
def InOrder : ApiEvent → Prop
  | .rendered index _ => index + 1 = m.rendering.length →
    ∀ request ∈ m.openBefore, request.inputs = m.inputs
  | .renderFailed index => index + 1 = m.rendering.length →
    ∃ request ∈ m.openBefore.or (m.lastRender.map Render.request), request.inputs = m.inputs
  | _ => True

instance (e : ApiEvent) : Decidable (m.InOrder e) := by
  induction e using ApiEvent.casesOn <;> unfold InOrder <;> infer_instance

end ServerApiModule

/-! ### What a step does to the inputs and the requests -/

/-- What the answer to an open request changes. -/
structure Answered (m : ServerApiModule) (index : ℕ) (open_ : Rendering) (m' : ServerApiModule) :
    Prop where
  opened : m.rendering[index]? = some open_
  inputs : m'.inputs = m.inputs
  rendering : m'.rendering = m.rendering.eraseIdx index
  lastRender : m'.lastRender.map Render.request = some open_.request
  initSheet : m'.initSheet.isSome = m.initSheet.isSome

/-- The inputs, the open requests and the last render over one step. -/
inductive RenderEffect (m : ServerApiModule) : ApiEvent → ServerApiModule → Prop
  | kept {e : ApiEvent} {m' : ServerApiModule} (inputs : m'.inputs = m.inputs)
    (rendering : m'.rendering = m.rendering) (lastRender : m'.lastRender = m.lastRender)
    (initSheet : m'.initSheet = m.initSheet) (inOrder : m.InOrder e) : RenderEffect m e m'
  | asked {e : ApiEvent} {m' : ServerApiModule} (open_ : Rendering)
    (inputs : open_.request.inputs = m'.inputs) (rendering : m'.rendering = m.rendering ++ [open_])
    (lastRender : m'.lastRender = m.lastRender) (initSheet : m'.initSheet.isSome)
    (inOrder : m.InOrder e) : RenderEffect m e m'
  | refused {e : ApiEvent} {m' : ServerApiModule} (rendering : m'.rendering = m.rendering)
    (lastRender : m'.lastRender = m.lastRender) (before : m.initSheet = none)
    (initSheet : m'.initSheet = none) (inOrder : m.InOrder e) : RenderEffect m e m'
  | answered (index : ℕ) (order : RenderOrderResponse) (open_ : Rendering) {m' : ServerApiModule}
    (answered : Answered m index open_ m') : RenderEffect m (.rendered index order) m'
  | failed (index : ℕ) (open_ : Rendering) {m' : ServerApiModule}
    (opened : m.rendering[index]? = some open_) (inputs : m'.inputs = m.inputs)
    (rendering : m'.rendering = m.rendering.eraseIdx index)
    (lastRender : m'.lastRender = m.lastRender) (initSheet : m'.initSheet = m.initSheet) :
    RenderEffect m (.renderFailed index) m'

theorem renderEffect_renderOrder (m : ServerApiModule) (e : ApiEvent) (caller : Caller)
    {m₀ : ServerApiModule} (rendering : m.rendering = m₀.rendering)
    (lastRender : m.lastRender = m₀.lastRender)
    (initSheet : m.initSheet = none → m₀.initSheet = none) (inOrder : m₀.InOrder e) :
    RenderEffect m₀ e (m.renderOrder caller) := by
  rw [ServerApiModule.renderOrder]
  split
  · rename_i hsheet
    exact .refused rendering lastRender (initSheet hsheet) hsheet inOrder
  · rename_i sheet hsheet
    exact .asked ⟨paymentSheetToOrder sheet m.address m.coupon, caller⟩ rfl
      (congrArg (· ++ _) rendering) lastRender (Option.isSome_of_mem hsheet) inOrder

theorem answered_resume (m : ServerApiModule) (index : ℕ) (order : RenderOrderResponse)
    {open_ : Rendering} (opened : m.rendering[index]? = some open_) :
    Answered m index open_
      ({ m with rendering := m.rendering.eraseIdx index }.resume open_.request order
        open_.caller) := by
  obtain ⟨render, answer, hresume, hrequest, -⟩ := resume_eq
    { m with rendering := m.rendering.eraseIdx index } open_.request order open_.caller
  rw [hresume]
  exact ⟨opened, rfl, rfl, congrArg some hrequest, Option.isSome_map⟩

theorem renderEffect_of_step {m m' : ServerApiModule} {e : ApiEvent}
    (h : serverApi.step m e = some m') : RenderEffect m e m' := by
  change m.step e = some m' at h
  cases e with
  | waitSheet initSheet =>
    obtain rfl := Option.some.inj h
    exact renderEffect_renderOrder _ _ _ rfl rfl (fun hnone ↦ nomatch hnone) trivial
  | shippingAddressChange address =>
    obtain rfl := Option.some.inj h
    exact renderEffect_renderOrder _ _ _ rfl rfl id trivial
  | shippingOptionChange shippingOption =>
    obtain rfl := Option.some.inj h
    exact .kept rfl rfl rfl rfl trivial
  | pickupPointChange raw =>
    obtain rfl := Option.some.inj h
    exact .kept rfl rfl rfl rfl trivial
  | shippingOptionReset =>
    obtain rfl := Option.some.inj h
    exact .kept rfl rfl rfl rfl trivial
  | couponChange coupon =>
    obtain rfl := Option.some.inj h
    exact renderEffect_renderOrder _ _ _ rfl rfl id trivial
  | couponReset =>
    obtain rfl := Option.some.inj h
    exact renderEffect_renderOrder _ _ _ rfl rfl id trivial
  | createOrder args =>
    obtain rfl := Option.some.inj h
    rw [ServerApiModule.createOrder]
    split <;> exact .kept rfl rfl rfl rfl trivial
  | rendered index order =>
    obtain ⟨open_, hopened, rfl⟩ := Option.map_eq_some_iff.mp h
    exact .answered index order open_ (answered_resume m index order hopened)
  | renderFailed index =>
    obtain ⟨open_, hopened, rfl⟩ := Option.map_eq_some_iff.mp h
    exact .failed index open_ hopened rfl rfl rfl rfl

/-! ### The newest request -/

/-- Before the first sheet no request is made; from then on the newest one has the present
inputs. -/
def NewestCurrent (m : ServerApiModule) : Prop :=
  m.newest.map RenderOrderRequest.inputs = m.initSheet.map fun _ ↦ m.inputs

theorem NewestCurrent.rendersInputs {m : ServerApiModule} (h : NewestCurrent m) :
    m.RendersInputs := by
  intro hidle
  rw [NewestCurrent, ServerApiModule.newest, hidle] at h
  rcases hlast : m.lastRender with _ | render
  · rw [hlast] at h
    exact .inl ⟨Option.map_eq_none_iff.mp h.symm, rfl⟩
  · rw [hlast] at h
    obtain ⟨sheet, -, hinputs⟩ := Option.map_eq_some_iff.mp h.symm
    exact .inr ⟨render, rfl, hinputs.symm⟩

theorem newestCurrent_iff {m : ServerApiModule} (hsheet : m.initSheet.isSome) :
    NewestCurrent m ↔ m.newest.map RenderOrderRequest.inputs = some m.inputs := by
  obtain ⟨sheet, hsheet⟩ := Option.isSome_iff_exists.mp hsheet
  rw [NewestCurrent, hsheet]
  rfl

theorem initSheet_isSome_of_open {m : ServerApiModule} (h : NewestCurrent m) {index : ℕ}
    {open_ : Rendering} (hopened : m.rendering[index]? = some open_) : m.initSheet.isSome := by
  have hne : m.rendering ≠ [] := List.ne_nil_of_mem (List.mem_of_getElem? hopened)
  obtain ⟨last, hlast⟩ := Option.isSome_iff_exists.mp (List.getLast?_isSome.mpr hne)
  rw [NewestCurrent, ServerApiModule.newest, hlast] at h
  by_contra hsheet
  rw [Option.not_isSome_iff_eq_none.mp hsheet] at h
  exact nomatch h

/-- An answer to another than the last open request leaves the newest request. -/
theorem newest_of_erased {m m' : ServerApiModule} {index : ℕ}
    (hindex : index + 1 < m.rendering.length)
    (hrendering : m'.rendering = m.rendering.eraseIdx index) : m'.newest = m.newest := by
  have hlength : (m.rendering.eraseIdx index).length = m.rendering.length - 1 :=
    List.length_eraseIdx_of_lt (by omega)
  have hlast : (m.rendering.eraseIdx index).getLast? = m.rendering.getLast? := by
    rw [List.getLast?_eq_getElem?, List.getLast?_eq_getElem?, hlength,
      List.getElem?_eraseIdx_of_ge (by omega)]
    congr 1
    omega
  obtain ⟨last, hsome⟩ := Option.isSome_iff_exists.mp
    (List.getLast?_isSome.mpr (List.ne_nil_of_length_pos (by omega : 0 < m.rendering.length)))
  rw [ServerApiModule.newest, ServerApiModule.newest, hrendering, hlast, hsome]
  rfl

/-- An answer to the last open request leaves the one before it, or else the last render. -/
theorem newest_of_dropped {m m' : ServerApiModule} {index : ℕ}
    (hindex : index + 1 = m.rendering.length)
    (hrendering : m'.rendering = m.rendering.eraseIdx index) :
    m'.newest = m.openBefore.or (m'.lastRender.map Render.request) := by
  rw [ServerApiModule.newest, ServerApiModule.openBefore, hrendering,
    List.eraseIdx_eq_dropLast hindex]

theorem newest_of_opened {m : ServerApiModule} {index : ℕ} {open_ : Rendering}
    (hindex : index + 1 = m.rendering.length) (hopened : m.rendering[index]? = some open_) :
    m.newest = some open_.request := by
  have hlast : m.rendering.getLast? = some open_ := by
    rw [List.getLast?_eq_getElem?, ← hopened, ← hindex, Nat.add_sub_cancel]
  rw [ServerApiModule.newest, hlast]
  rfl

/-- A step keeps the newest request current exactly when it is in order. -/
theorem newestCurrent_step_iff {m m' : ServerApiModule} {e : ApiEvent} (h : NewestCurrent m)
    (heffect : RenderEffect m e m') : NewestCurrent m' ↔ m.InOrder e := by
  cases heffect with
  | kept inputs rendering lastRender initSheet inOrder =>
    refine iff_of_true ?_ inOrder
    rwa [NewestCurrent, ServerApiModule.newest, rendering, lastRender, initSheet, inputs]
  | asked open_ inputs rendering lastRender initSheet inOrder =>
    refine iff_of_true ((newestCurrent_iff initSheet).mpr ?_) inOrder
    rw [ServerApiModule.newest, rendering, List.getLast?_concat]
    exact congrArg some inputs
  | refused rendering lastRender before initSheet inOrder =>
    refine iff_of_true ?_ inOrder
    rw [NewestCurrent, before] at h
    rw [NewestCurrent, ServerApiModule.newest, rendering, lastRender, initSheet]
    exact h
  | answered index order open_ answered =>
    obtain ⟨opened, inputs, rendering, lastRender, initSheet⟩ := answered
    have hsheet := initSheet_isSome_of_open h opened
    rw [newestCurrent_iff hsheet] at h
    rw [newestCurrent_iff (initSheet.trans hsheet), inputs]
    rcases Nat.lt_or_eq_of_le (List.getElem?_eq_some_iff.mp opened).1 with hindex | hindex
    · rw [newest_of_erased hindex rendering]
      exact iff_of_true h fun heq ↦ absurd heq hindex.ne
    · rw [newest_of_opened hindex opened] at h
      rw [newest_of_dropped hindex rendering, lastRender, ServerApiModule.InOrder]
      rcases hbefore : m.openBefore with _ | request
      · exact iff_of_true h fun _ request hmem ↦ nomatch hmem
      · refine ⟨fun hinputs _ earlier hmem ↦ ?_, fun horder ↦ ?_⟩
        · obtain rfl := Option.some.inj hmem
          exact Option.some.inj hinputs
        · exact congrArg some (horder hindex request rfl)
  | failed index open_ opened inputs rendering lastRender initSheet =>
    have hsheet := initSheet_isSome_of_open h opened
    rw [newestCurrent_iff hsheet] at h
    rw [newestCurrent_iff (initSheet ▸ hsheet), inputs]
    rcases Nat.lt_or_eq_of_le (List.getElem?_eq_some_iff.mp opened).1 with hindex | hindex
    · rw [newest_of_erased hindex rendering]
      exact iff_of_true h fun heq ↦ absurd heq hindex.ne
    · rw [newest_of_dropped hindex rendering, lastRender, ServerApiModule.InOrder,
        Option.map_eq_some_iff]
      exact ⟨fun hleft _ ↦ hleft, fun horder ↦ horder hindex⟩

theorem newestCurrent_of_reachable {m : ServerApiModule}
    (hm : serverApi.Reachable ServerApiModule.InOrder m) : NewestCurrent m := by
  refine hm.invariant ?_ fun s e t h horder hstep ↦
    (newestCurrent_step_iff h (renderEffect_of_step hstep)).mpr horder
  rintro s rfl
  rfl

/-- In a run whose answers come in order, the last render belongs to the present address and coupon
whenever no request is open. -/
theorem renders_inputs_of_reachable {m : ServerApiModule}
    (hm : serverApi.Reachable ServerApiModule.InOrder m) : m.RendersInputs :=
  (newestCurrent_of_reachable hm).rendersInputs

/-- Two address changes, answered in the order of the calls. -/
def answeredInOrder : List ApiEvent :=
  [.waitSheet bookSheet, .rendered 0 fullOrder, .shippingAddressChange ⟨"address-1"⟩,
    .shippingAddressChange ⟨"address-2"⟩, .rendered 0 fullOrder, .rendered 0 couponOrder]

/-- The answer to the second change comes before that to the first, or does not come at all. -/
def overtaken : List (List ApiEvent) :=
  [[.waitSheet bookSheet, .rendered 0 fullOrder, .shippingAddressChange ⟨"address-1"⟩,
    .shippingAddressChange ⟨"address-2"⟩, .rendered 1 couponOrder, .rendered 0 fullOrder],
    [.waitSheet bookSheet, .rendered 0 fullOrder, .shippingAddressChange ⟨"address-1"⟩,
      .rendered 0 fullOrder, .shippingAddressChange ⟨"address-2"⟩, .renderFailed 0]]

theorem answeredInOrder_isSome :
    (serverApi.run ServerApiModule.InOrder .initial answeredInOrder).isSome := by
  decide

theorem renders_inputs_of_reachable_witness :
    let m := (serverApi.run ServerApiModule.InOrder .initial answeredInOrder).get
      answeredInOrder_isSome
    m.rendering = [] ∧ m.address = some ⟨"address-2"⟩ ∧
      m.lastRender.map Render.order = some couponOrder ∧ m.RendersInputs :=
  ⟨rfl, rfl, rfl,
    renders_inputs_of_reachable (System.reachable_get rfl answeredInOrder_isSome)⟩

instance (m : ServerApiModule) : Decidable m.RendersInputs :=
  inferInstanceAs (Decidable (_ → _ ∨ _))

theorem overtaken_not_rendersInputs :
    overtaken.Forall fun events ↦
      ∃ m ∈ serverApi.run (fun _ _ ↦ True) .initial events,
        serverApi.Reachable (fun _ _ ↦ True) m ∧ m.address = some ⟨"address-2"⟩ ∧
          ¬ m.RendersInputs := by
  refine List.forall_iff_forall_mem.mpr fun events hevents ↦ ?_
  have hrun : ∃ m ∈ serverApi.run (fun _ _ ↦ True) .initial events,
      m.address = some ⟨"address-2"⟩ ∧ ¬ m.RendersInputs := by
    revert events
    decide
  obtain ⟨m, hm, hstale⟩ := hrun
  exact ⟨m, hm, ⟨_, rfl, System.leads_of_run hm⟩, hstale⟩

/-! ### Answers out of order -/

theorem openBefore_eq_none {m : ServerApiModule} (h : m.rendering.length ≤ 1) :
    m.openBefore = none := by
  have hdrop : m.rendering.dropLast = [] :=
    List.eq_nil_of_length_eq_zero (by rw [List.length_dropLast]; omega)
  rw [ServerApiModule.openBefore, hdrop]
  rfl

/-- The open requests may all be answered in the order of their calls; this leaves the newest
request and the inputs. -/
theorem exists_idle (n : ℕ) (m : ServerApiModule) (hopen : m.rendering.length = n)
    (order : RenderOrderResponse) :
    ∃ m', serverApi.Leads ServerApiModule.InOrder m m' ∧ m'.rendering = [] ∧
      m'.newest = m.newest ∧ m'.inputs = m.inputs ∧
      m'.initSheet.isSome = m.initSheet.isSome := by
  induction n generalizing m with
  | zero => exact ⟨m, .refl m, List.length_eq_zero_iff.mp hopen, rfl, rfl, rfl⟩
  | succ n ih =>
    obtain ⟨open_, hopened⟩ : ∃ open_, m.rendering[0]? = some open_ :=
      ⟨_, List.getElem?_eq_getElem (by omega)⟩
    have hanswered := answered_resume m 0 order hopened
    generalize hnext : ServerApiModule.resume _ open_.request order open_.caller = next
      at hanswered
    have hstep : serverApi.step m (.rendered 0 order) = some next := by
      rw [← hnext]
      exact congrArg (Option.map _) hopened
    have hfirst : m.InOrder (.rendered 0 order) := by
      intro hlength
      rw [openBefore_eq_none (by omega)]
      exact fun request hmem ↦ nomatch hmem
    obtain ⟨-, hinputs, hrendering, hlast, hsheet⟩ := hanswered
    have hnewest : next.newest = m.newest := by
      rcases Nat.eq_zero_or_pos n with rfl | hpos
      · rw [newest_of_opened (by omega) hopened, newest_of_dropped (by omega) hrendering, hlast,
          openBefore_eq_none (by omega), Option.none_or]
      · exact newest_of_erased (by omega) hrendering
    obtain ⟨m', hleads, hidle, hnewest', hinputs', hsheet'⟩ := ih next (by
      rw [hrendering, List.length_eraseIdx_of_lt (by omega), hopen, Nat.add_sub_cancel])
    exact ⟨m', ((System.Leads.refl m).tail hfirst hstep).trans hleads, hidle,
      hnewest'.trans hnewest, hinputs'.trans hinputs, hsheet'.trans hsheet⟩

/-- A step is in order exactly when the last render belongs to the present inputs in every idle
state that follows while the later steps are in order. -/
theorem inOrder_iff {m m' : ServerApiModule} {e : ApiEvent}
    (hm : serverApi.Reachable ServerApiModule.InOrder m) (hstep : serverApi.step m e = some m') :
    m.InOrder e ↔
      ∀ m'', serverApi.Leads ServerApiModule.InOrder m' m'' → m''.RendersInputs := by
  constructor
  · exact fun horder m'' hleads ↦ renders_inputs_of_reachable ((hm.tail horder hstep).leads hleads)
  · intro hrenders
    have hm' := newestCurrent_of_reachable hm
    by_contra horder
    have heffect := renderEffect_of_step hstep
    have hstale := mt (newestCurrent_step_iff hm' heffect).mp horder
    have hsheet : m'.initSheet.isSome := by
      cases heffect with
      | kept _ _ _ _ inOrder => exact absurd inOrder horder
      | asked _ _ _ _ initSheet => exact initSheet
      | refused _ _ _ _ inOrder => exact absurd inOrder horder
      | answered _ _ _ answered =>
        exact answered.initSheet.trans (initSheet_isSome_of_open hm' answered.opened)
      | failed _ _ opened _ _ _ initSheet =>
        exact initSheet ▸ initSheet_isSome_of_open hm' opened
    obtain ⟨last, hleads, hidle, hnewest, hinputs, hsheet'⟩ := exists_idle _ m' rfl fullOrder
    refine hstale ((newestCurrent_iff hsheet).mpr ?_)
    rw [← hnewest, ← hinputs, ServerApiModule.newest, hidle]
    rcases hrenders last hleads hidle with hnone | hrender
    · rw [hnone.1, hsheet] at hsheet'
      exact nomatch hsheet'
    · obtain ⟨render, hlast, hcurrent⟩ := hrender
      rw [Option.mem_def.mp hlast]
      exact congrArg some hcurrent

/-! ### A rejected coupon -/

def Answer.isRejection : Answer → Bool
  | .couponRejected _ | .requestFailed | .typeError => true
  | .sheet _ | .shippingOptions _ => false

/-- How the request of `couponChange` ends: with an order, or with a failure. -/
def couponOutcome (index : ℕ) : Option RenderOrderResponse → ApiEvent
  | some order => .rendered index order
  | none => .renderFailed index

namespace ServerApiModule

variable (m : ServerApiModule) (coupon : String) (outcome : Option RenderOrderResponse)

/-- A whole call of `couponChange`, with nothing between its request and the answer. Without a
sheet it ends before the request. -/
def couponChange : ServerApiModule :=
  let called := { m with coupon := some coupon }.renderOrder (.couponChange coupon)
  (called.step (couponOutcome m.rendering.length outcome)).getD called

/-- The promise of the call that ended last was rejected. -/
def Rejected : Prop := ∃ answer ∈ m.answers.head?, answer.isRejection

instance : Decidable m.Rejected := inferInstanceAs (Decidable (∃ answer ∈ _, _))

/-- The coupon and the rendered order are those of `m₀`. -/
def Unchanged (m₀ : ServerApiModule) : Prop :=
  m.coupon = m₀.coupon ∧ m.lastRender.map Render.order = m₀.lastRender.map Render.order

instance (m₀ : ServerApiModule) : Decidable (m.Unchanged m₀) :=
  inferInstanceAs (Decidable (_ ∧ _))

/-- The call of `couponChange` is rejected: there is no sheet, the request fails, or the order that
comes does not have the coupon as a valid one. -/
def Declines : Prop :=
  m.initSheet = none ∨ ∀ order ∈ outcome, (couponStatus coupon order).1.1 ≠ .valid

variable {m}

theorem step_couponOutcome_of_le {index : ℕ} (h : m.rendering.length ≤ index) :
    m.step (couponOutcome index outcome) = none := by
  cases outcome with
  | none => exact Option.map_eq_none_iff.mpr (List.getElem?_eq_none h)
  | some order => exact Option.map_eq_none_iff.mpr (List.getElem?_eq_none h)

theorem couponChange_of_initSheet_eq_none (hsheet : m.initSheet = none) :
    m.couponChange coupon outcome = { m with coupon := some coupon }.answer .typeError := by
  have hcalled : { m with coupon := some coupon }.renderOrder (.couponChange coupon) =
      { m with coupon := some coupon }.answer .typeError := by
    rw [renderOrder, hsheet]
    rfl
  have hended := @step_couponOutcome_of_le ({ m with coupon := some coupon }.answer .typeError)
    outcome m.rendering.length le_rfl
  rw [couponChange, hcalled]
  exact congrArg (Option.getD · _) hended

/-- The state in which the answer to the only request of the call is read. -/
theorem couponChange_of_initSheet {sheet : InitPaymentSheet} (hsheet : m.initSheet = some sheet) :
    m.couponChange coupon outcome =
      match outcome with
      | some order => { m with coupon := some coupon }.resume
          (paymentSheetToOrder sheet m.address (some coupon)) order (.couponChange coupon)
      | none => { m with coupon := some coupon }.answer .requestFailed := by
  have hcalled : { m with coupon := some coupon }.renderOrder (.couponChange coupon) =
      { m with
        coupon := some coupon
        rendering := m.rendering ++
          [⟨paymentSheetToOrder sheet m.address (some coupon), .couponChange coupon⟩] } := by
    rw [renderOrder, hsheet]
  have hopened : (m.rendering ++ [⟨paymentSheetToOrder sheet m.address (some coupon),
      .couponChange coupon⟩])[m.rendering.length]? =
        some (⟨paymentSheetToOrder sheet m.address (some coupon), .couponChange coupon⟩ :
          Rendering) := List.getElem?_concat_length
  have herased (open_ : Rendering) :
      (m.rendering ++ [open_]).eraseIdx m.rendering.length = m.rendering := by
    rw [List.eraseIdx_append_of_length_le le_rfl, Nat.sub_self]
    exact List.append_nil _
  rw [couponChange, hcalled]
  cases outcome with
  | none =>
    simp only [couponOutcome, step, hopened, herased, Option.map_some, Option.getD_some]
  | some order =>
    simp only [couponOutcome, step, hopened, herased, Option.map_some, Option.getD_some]

@[simp] theorem answer_coupon (answer : Answer) : (m.answer answer).coupon = m.coupon := rfl

theorem resume_couponChange_coupon (request : RenderOrderRequest) (order : RenderOrderResponse) :
    (m.resume request order (.couponChange coupon)).coupon = m.coupon := by
  rw [resume]
  split_ifs <;> rfl

theorem resume_couponChange_lastRender (request : RenderOrderRequest)
    (order : RenderOrderResponse) :
    (m.resume request order (.couponChange coupon)).lastRender =
      some ⟨request, (couponStatus coupon order).2⟩ := by
  rw [resume]
  split_ifs <;> rfl

/-- A call that gets an order is rejected when the order has not the coupon as a valid one. -/
theorem resume_couponChange_rejected {sheet : InitPaymentSheet} (hsheet : m.initSheet = some sheet)
    (request : RenderOrderRequest) (order : RenderOrderResponse) :
    (m.resume request order (.couponChange coupon)).Rejected ↔
      (couponStatus coupon order).1.1 ≠ .valid := by
  have hsheets (render : Render) : ¬ (m.receive render).getPaymentSheet.isRejection := by
    rw [getPaymentSheet, receive, hsheet]
    exact Bool.false_ne_true
  rw [resume]
  cases hstatus : (couponStatus coupon order).1.1 with
  | valid => simpa [Rejected, answer] using hsheets _
  | invalid => simp [Rejected, answer, Answer.isRejection]
  | expired => simp [Rejected, answer, Answer.isRejection]

theorem couponChange_rejected_iff :
    (m.couponChange coupon outcome).Rejected ↔ m.Declines coupon outcome := by
  rw [Declines]
  rcases hsheet : m.initSheet with _ | sheet
  · rw [couponChange_of_initSheet_eq_none coupon outcome hsheet]
    exact iff_of_true ⟨_, rfl, rfl⟩ (.inl rfl)
  · rw [couponChange_of_initSheet coupon outcome hsheet]
    cases outcome with
    | none => exact iff_of_true ⟨_, rfl, rfl⟩ (.inr fun order hmem ↦ nomatch hmem)
    | some order =>
      have hrejected := @resume_couponChange_rejected { m with coupon := some coupon } coupon sheet
        hsheet (paymentSheetToOrder sheet m.address (some coupon)) order
      simpa using hrejected

theorem couponChange_coupon : (m.couponChange coupon outcome).coupon = some coupon := by
  rcases hsheet : m.initSheet with _ | sheet
  · rw [couponChange_of_initSheet_eq_none coupon outcome hsheet, answer_coupon]
  · rw [couponChange_of_initSheet coupon outcome hsheet]
    cases outcome with
    | none => rfl
    | some order => exact resume_couponChange_coupon coupon _ order

/-- The order that a call of `couponChange` leaves as the last one. -/
theorem couponChange_lastRender :
    (m.couponChange coupon outcome).lastRender.map Render.order =
      ((m.initSheet.bind fun _ ↦ outcome).map fun order ↦ (couponStatus coupon order).2).or
        (m.lastRender.map Render.order) := by
  rcases hsheet : m.initSheet with _ | sheet
  · rw [couponChange_of_initSheet_eq_none coupon outcome hsheet]
    rfl
  · rw [couponChange_of_initSheet coupon outcome hsheet]
    cases outcome with
    | none => rfl
    | some order =>
      exact congrArg (Option.map Render.order) (resume_couponChange_lastRender coupon _ order)

end ServerApiModule

def expiredCoupon : Coupon := ⟨"SPRING", .expired, "Промокод истёк"⟩

def expiredOrder : RenderOrderResponse :=
  bookOrder (bookCart "500.00" (some [expiredCoupon])) [fast "100.00"]

def renderedSheet : List ApiEvent := [.waitSheet bookSheet, .rendered 0 fullOrder]

/-- The module gives the expired coupon and the order with it to the next requests. -/
def CarriesExpired (m : ServerApiModule) : Prop :=
  (∃ m' ∈ m.step (.shippingAddressChange ⟨"address-1"⟩),
    m'.rendering.map (fun open_ ↦ open_.request.coupons) = [some ["SPRING"]]) ∧
  (m.createOrder payCard).creations.map (fun request ↦ request.cart.coupons) =
    [some [expiredCoupon]]

instance (m : ServerApiModule) : Decidable (CarriesExpired m) :=
  inferInstanceAs (Decidable ((∃ m' ∈ _, _) ∧ _))

end YandexPay.Checkout
