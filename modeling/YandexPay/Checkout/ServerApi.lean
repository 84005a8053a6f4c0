import YandexPay.Checkout.Orders
import YandexPay.Library.Transition

/-!
# The module that talks to the server

`ServerApiModule` of `checkout-process/module.ts`. Its methods may be called in any order, and the
answers of the server to `renderOrder` arrive in any order, so that the module is a transition
system: a call, the arrival of an answer and the failure of a request are its events. A method
runs up to its request when it is called and from there when the answer arrives.

The courier option is kept over a new rendering. `creation_offers_option` says under which events
the option of a creation is one that the rendering of its cart and address offers.
-/

set_option autoImplicit false
set_option relaxedAutoImplicit false

namespace YandexPay.Checkout

open Transition

/-! ### State -/

/-- `Sdk.ShippingOption`; `raw` is the option of the server. -/
structure ShippingOption where
  id : String
  label : String
  amount : Price
  raw : ShippingCourierOption
  deriving DecidableEq

def orderToShippingOptions (order : RenderOrderResponse) : List ShippingOption :=
  ((order.shipping.bind RenderShipping.availableCourierOptions).getD []).map fun option ↦
    ⟨option.courierOptionId, option.title, option.amount, option⟩

/-- The method that waits for a rendering. -/
inductive Caller
  | waitSheet
  | shippingAddressChange
  | couponChange (coupon : String)
  | couponReset
  deriving DecidableEq

/-- A request that has not been answered. -/
structure Rendering where
  request : RenderOrderRequest
  caller : Caller
  deriving DecidableEq

/-- A rendered order, with the request that it answers; the request is kept for the statements. -/
structure Render where
  request : RenderOrderRequest
  order : RenderOrderResponse
  deriving DecidableEq

/-- What a method gives its caller. -/
inductive Answer
  | sheet (sheet : PaymentSheet)
  | shippingOptions (options : List ShippingOption)
  | couponRejected (description : String)
  | requestFailed
  | typeError
  deriving DecidableEq

/-- The fields of the module, its open requests, and a record of what it has received, answered
and sent, the latest first. -/
structure ServerApiModule where
  lastRender : Option Render
  initSheet : Option InitPaymentSheet
  address : Option Address
  coupon : Option String
  courierOption : Option ShippingCourierOption
  pickupOption : Option ShippingPickupOption
  rendering : List Rendering
  renders : List Render
  answers : List Answer
  creations : List CreateOrderRequest
  deriving DecidableEq

structure CreateOrderArgs where
  paymentMethodType : PaymentMethodType
  paymentMethod : Option PaymentMethod
  billingContact : Option BillingContact
  shippingContact : Option ShippingContact
  deriving DecidableEq

/-! ### Methods -/

namespace ServerApiModule

variable (m : ServerApiModule)

/-- `renderOrder` up to its request. -/
def renderOrder (caller : Caller) : ServerApiModule :=
  match m.initSheet with
  | none => { m with answers := .typeError :: m.answers }
  | some initSheet =>
    { m with rendering := m.rendering ++
        [⟨paymentSheetToOrder initSheet m.address m.coupon, caller⟩] }

def getPaymentSheet : Answer :=
  match m.initSheet, m.lastRender with
  | some initSheet, some render =>
    .sheet (orderToPaymentSheet initSheet render.order ⟨m.courierOption, m.pickupOption⟩)
  | _, _ => .typeError

def answer (answer : Answer) : ServerApiModule := { m with answers := answer :: m.answers }

/-- The rest of `renderOrder`: the order becomes the last one, with its metadata. -/
def receive (render : Render) : ServerApiModule :=
  { m with
    lastRender := some render
    renders := render :: m.renders
    initSheet := m.initSheet.map fun initSheet ↦
      { initSheet with
        metadata := (truthyText render.order.metadata).or initSheet.metadata } }

/-- The rest of the method that waited for the rendering. -/
def resume (request : RenderOrderRequest) (order : RenderOrderResponse) :
    Caller → ServerApiModule
  | .waitSheet | .couponReset =>
    let received := m.receive ⟨request, order⟩
    received.answer received.getPaymentSheet
  | .shippingAddressChange =>
    (m.receive ⟨request, order⟩).answer (.shippingOptions (orderToShippingOptions order))
  | .couponChange coupon =>
    -- `couponStatus` writes to the order that has just become the last one.
    let status := couponStatus coupon order
    let received := m.receive ⟨request, status.2⟩
    if status.1.1 = .expired ∨ status.1.1 = .invalid then
      received.answer (.couponRejected status.1.2)
    else received.answer received.getPaymentSheet

def createOrder (args : CreateOrderArgs) : ServerApiModule :=
  match m.initSheet, m.lastRender with
  | some initSheet, some render =>
    { m with
      creations := paymentSheetToOrderCreate
        { initSheet := initSheet
          order := render.order
          address := m.address
          pickupOption := m.pickupOption
          courierOption := m.courierOption
          paymentMethodType := args.paymentMethodType
          paymentMethod := args.paymentMethod
          shippingContact := args.shippingContact
          billingContact := args.billingContact } :: m.creations }
  | _, _ => m.answer .typeError

end ServerApiModule

/-! ### The system -/

inductive ApiEvent
  | waitSheet (initSheet : InitPaymentSheet)
  | shippingAddressChange (address : Address)
  | shippingOptionChange (shippingOption : ShippingOption)
  | pickupPointChange (raw : ShippingPickupOption)
  | shippingOptionReset
  | couponChange (coupon : String)
  | couponReset
  | createOrder (args : CreateOrderArgs)
  | rendered (index : ℕ) (order : RenderOrderResponse)
  | renderFailed (index : ℕ)
  deriving DecidableEq

namespace ServerApiModule

def step (m : ServerApiModule) : ApiEvent → Option ServerApiModule
  | .waitSheet initSheet => some ({ m with initSheet := some initSheet }.renderOrder .waitSheet)
  | .shippingAddressChange address =>
    some ({ m with address := some address }.renderOrder .shippingAddressChange)
  | .shippingOptionChange shippingOption =>
    let changed := { m with pickupOption := none, courierOption := some shippingOption.raw }
    some (changed.answer changed.getPaymentSheet)
  | .pickupPointChange raw =>
    let changed := { m with courierOption := none, pickupOption := some raw }
    some (changed.answer changed.getPaymentSheet)
  | .shippingOptionReset =>
    let changed := { m with courierOption := none }
    some (changed.answer changed.getPaymentSheet)
  | .couponChange coupon =>
    some ({ m with coupon := some coupon }.renderOrder (.couponChange coupon))
  | .couponReset => some ({ m with coupon := none }.renderOrder .couponReset)
  | .createOrder args => some (m.createOrder args)
  | .rendered index order =>
    m.rendering[index]?.map fun rendering ↦
      { m with rendering := m.rendering.eraseIdx index }.resume rendering.request order
        rendering.caller
  | .renderFailed index =>
    m.rendering[index]?.map fun _ ↦
      { m with rendering := m.rendering.eraseIdx index }.answer .requestFailed

def initial : ServerApiModule := ⟨none, none, none, none, none, none, [], [], [], []⟩

end ServerApiModule

/-- The module under any calls and any answers of the server. -/
def serverApi : System ServerApiModule ApiEvent where
  start := fun m ↦ m = .initial
  step := ServerApiModule.step

/-- The courier option that a creation carries. -/
def CreateOrderRequest.courierOption (request : CreateOrderRequest) :
    Option ShippingCourierOption :=
  match request.shippingMethod with
  | some (.courier option) => some option
  | _ => none

/-! ### What a step changes -/

/-- `lastRender`, `courierOption`, `renders` and `creations` over one step; `render` is the order
that has arrived and `request` the creation that has been sent. -/
inductive Effect (m : ServerApiModule) : ApiEvent → ServerApiModule → Prop
  | kept {e : ApiEvent} {m' : ServerApiModule} (lastRender : m'.lastRender = m.lastRender)
    (courierOption : m'.courierOption = m.courierOption) (renders : m'.renders = m.renders)
    (creations : m'.creations = m.creations) : Effect m e m'
  | cleared {e : ApiEvent} {m' : ServerApiModule} (lastRender : m'.lastRender = m.lastRender)
    (courierOption : m'.courierOption = none) (renders : m'.renders = m.renders)
    (creations : m'.creations = m.creations) : Effect m e m'
  | chosen (option : ShippingOption) {m' : ServerApiModule}
    (lastRender : m'.lastRender = m.lastRender)
    (courierOption : m'.courierOption = some option.raw) (renders : m'.renders = m.renders)
    (creations : m'.creations = m.creations) : Effect m (.shippingOptionChange option) m'
  | arrived (index : ℕ) (order : RenderOrderResponse) (render : Render) {m' : ServerApiModule}
    (shipping : render.order.shipping = order.shipping) (lastRender : m'.lastRender = some render)
    (courierOption : m'.courierOption = m.courierOption)
    (renders : m'.renders = render :: m.renders) (creations : m'.creations = m.creations) :
    Effect m (.rendered index order) m'
  | created (args : CreateOrderArgs) (render : Render) (request : CreateOrderRequest)
    (lastRender : m.lastRender = some render) (cart : request.cart = render.order.cart)
    (address : request.shippingAddressId = m.address.map Address.id)
    (option : ∀ option ∈ request.courierOption, m.courierOption = some option) :
    Effect m (.createOrder args) { m with creations := request :: m.creations }

theorem couponStatus_shipping (couponValue : String) (order : RenderOrderResponse) :
    (couponStatus couponValue order).2.shipping = order.shipping := by
  rw [couponStatus]
  split <;> rfl

theorem effect_renderOrder (m : ServerApiModule) (e : ApiEvent) (caller : Caller)
    {m₀ : ServerApiModule} (lastRender : m.lastRender = m₀.lastRender)
    (courierOption : m.courierOption = m₀.courierOption) (renders : m.renders = m₀.renders)
    (creations : m.creations = m₀.creations) : Effect m₀ e (m.renderOrder caller) := by
  rw [ServerApiModule.renderOrder]
  split <;> exact .kept lastRender courierOption renders creations

/-- The rest of a method receives a render of the request and answers. -/
theorem resume_eq (m : ServerApiModule) (request : RenderOrderRequest)
    (order : RenderOrderResponse) (caller : Caller) : ∃ (render : Render) (answer : Answer),
      m.resume request order caller = (m.receive render).answer answer ∧
        render.request = request ∧ render.order.shipping = order.shipping := by
  cases caller with
  | waitSheet => exact ⟨_, _, rfl, rfl, rfl⟩
  | shippingAddressChange => exact ⟨_, _, rfl, rfl, rfl⟩
  | couponReset => exact ⟨_, _, rfl, rfl, rfl⟩
  | couponChange coupon =>
    rw [ServerApiModule.resume]
    split_ifs <;> exact ⟨_, _, rfl, rfl, couponStatus_shipping coupon order⟩

theorem effect_resume (m : ServerApiModule) (index : ℕ) (request : RenderOrderRequest)
    (order : RenderOrderResponse) (caller : Caller) {m₀ : ServerApiModule}
    (courierOption : m.courierOption = m₀.courierOption) (renders : m.renders = m₀.renders)
    (creations : m.creations = m₀.creations) :
    Effect m₀ (.rendered index order) (m.resume request order caller) := by
  obtain ⟨render, answer, hresume, -, hshipping⟩ := resume_eq m request order caller
  rw [hresume]
  exact .arrived index order render hshipping rfl courierOption (congrArg (render :: ·) renders)
    creations

theorem effect_createOrder (m : ServerApiModule) (args : CreateOrderArgs) :
    Effect m (.createOrder args) (m.createOrder args) := by
  rw [ServerApiModule.createOrder]
  split
  · rename_i initSheet render hsheet hrender
    refine .created args render _ hrender rfl rfl fun option hoption ↦ ?_
    rw [← hoption]
    simp only [CreateOrderRequest.courierOption, paymentSheetToOrderCreate]
    rcases m.courierOption with _ | held
    · rcases m.pickupOption with _ | held <;> rfl
    · rfl
  · exact .kept rfl rfl rfl rfl

theorem effect_of_step {m m' : ServerApiModule} {e : ApiEvent}
    (h : serverApi.step m e = some m') : Effect m e m' := by
  change m.step e = some m' at h
  cases e with
  | waitSheet initSheet =>
    obtain rfl := Option.some.inj h
    exact effect_renderOrder _ _ _ rfl rfl rfl rfl
  | shippingAddressChange address =>
    obtain rfl := Option.some.inj h
    exact effect_renderOrder _ _ _ rfl rfl rfl rfl
  | shippingOptionChange shippingOption =>
    obtain rfl := Option.some.inj h
    exact .chosen shippingOption rfl rfl rfl rfl
  | pickupPointChange raw =>
    obtain rfl := Option.some.inj h
    exact .cleared rfl rfl rfl rfl
  | shippingOptionReset =>
    obtain rfl := Option.some.inj h
    exact .cleared rfl rfl rfl rfl
  | couponChange coupon =>
    obtain rfl := Option.some.inj h
    exact effect_renderOrder _ _ _ rfl rfl rfl rfl
  | couponReset =>
    obtain rfl := Option.some.inj h
    exact effect_renderOrder _ _ _ rfl rfl rfl rfl
  | createOrder args =>
    obtain rfl := Option.some.inj h
    exact effect_createOrder m args
  | rendered index order =>
    obtain ⟨rendering, -, rfl⟩ := Option.map_eq_some_iff.mp h
    exact effect_resume _ _ _ _ _ rfl rfl rfl
  | renderFailed index =>
    obtain ⟨rendering, -, rfl⟩ := Option.map_eq_some_iff.mp h
    exact .kept rfl rfl rfl rfl

/-! ### The option of a creation -/

/-- The order offers a courier option of this id at this amount. -/
def Offers (order : RenderOrderResponse) (option : ShippingCourierOption) : Prop :=
  ∃ offered ∈ (order.shipping.bind RenderShipping.availableCourierOptions).getD [],
    offered.courierOptionId = option.courierOptionId ∧ offered.amount = option.amount

instance (order : RenderOrderResponse) (option : ShippingCourierOption) :
    Decidable (Offers order option) := inferInstanceAs (Decidable (∃ offered ∈ _, _))

theorem Offers.of_shipping {order order' : RenderOrderResponse} {option : ShippingCourierOption}
    (h : Offers order option) (hshipping : order'.shipping = order.shipping) :
    Offers order' option := by
  rw [Offers, hshipping]
  exact h

/-- The courier option of a creation is offered by a received order with the creation's cart, that
was rendered for its address. -/
def CarriesOffered (renders : List Render) (request : CreateOrderRequest) : Prop :=
  ∀ option ∈ request.courierOption, ∃ render ∈ renders, render.order.cart = request.cart ∧
    render.request.shippingAddressId = request.shippingAddressId ∧ Offers render.order option

instance (renders : List Render) (request : CreateOrderRequest) :
    Decidable (CarriesOffered renders request) :=
  inferInstanceAs (Decidable (∀ option ∈ request.courierOption, _))

/-- The chosen option is one of the last order, every order that arrives later still offers it, and
a creation with an option is sent when the last order was rendered for the present address. -/
def OptionKept (m : ServerApiModule) : ApiEvent → Prop
  | .shippingOptionChange option => ∃ render ∈ m.lastRender, Offers render.order option.raw
  | .rendered _ order => ∀ option ∈ m.courierOption, Offers order option
  | .createOrder _ => m.courierOption.isSome →
    ∀ render ∈ m.lastRender, render.request.shippingAddressId = m.address.map Address.id
  | _ => True

instance (m : ServerApiModule) (e : ApiEvent) : Decidable (OptionKept m e) := by
  induction e using ApiEvent.casesOn <;> unfold OptionKept <;> infer_instance

structure HoldsOffered (m : ServerApiModule) : Prop where
  offered : ∀ option ∈ m.courierOption, ∃ render ∈ m.lastRender, Offers render.order option
  received : ∀ render ∈ m.lastRender, render ∈ m.renders
  carries : ∀ request ∈ m.creations, CarriesOffered m.renders request

theorem holdsOffered_step {m m' : ServerApiModule} {e : ApiEvent} (h : HoldsOffered m)
    (hkept : OptionKept m e) (hstep : Effect m e m') : HoldsOffered m' := by
  obtain ⟨hoffered, hreceived, hcarries⟩ := h
  cases hstep with
  | kept hlast hoption hrenders hcreations =>
    refine ⟨?_, ?_, ?_⟩
    · rwa [hlast, hoption]
    · rwa [hlast, hrenders]
    · rwa [hrenders, hcreations]
  | cleared hlast hoption hrenders hcreations =>
    refine ⟨?_, ?_, ?_⟩
    · rw [hoption]
      exact fun _ hmem ↦ absurd hmem (Option.not_mem_none _)
    · rwa [hlast, hrenders]
    · rwa [hrenders, hcreations]
  | chosen option hlast hoption hrenders hcreations =>
    refine ⟨?_, ?_, ?_⟩
    · rw [hlast, hoption]
      rintro chosen hchosen
      obtain rfl := Option.some.inj hchosen
      exact hkept
    · rwa [hlast, hrenders]
    · rwa [hrenders, hcreations]
  | arrived index order render hshipping hlast hoption hrenders hcreations =>
    refine ⟨?_, ?_, ?_⟩
    · rw [hlast, hoption]
      exact fun option hmem ↦ ⟨render, rfl, (hkept option hmem).of_shipping hshipping⟩
    · rw [hlast, hrenders]
      rintro received hreceived
      obtain rfl := Option.some.inj hreceived
      exact List.mem_cons_self
    · -- The orders received before are still there.
      rw [hrenders, hcreations]
      intro request hmem option hoption
      obtain ⟨earlier, hearlier, hsame⟩ := hcarries request hmem option hoption
      exact ⟨earlier, List.mem_cons_of_mem _ hearlier, hsame⟩
  | created args render request hlast hcart haddress hoption =>
    refine ⟨hoffered, hreceived, List.forall_mem_cons.mpr ⟨?_, hcarries⟩⟩
    intro option hcarried
    have hheld := hoption option hcarried
    obtain ⟨last, hmem, hoffers⟩ := hoffered option hheld
    obtain rfl : render = last := Option.some.inj (hlast.symm.trans hmem)
    refine ⟨render, hreceived render hlast, hcart.symm, ?_, hoffers⟩
    rw [haddress]
    exact hkept (Option.isSome_of_mem hheld) render hlast

def bookSheet : InitPaymentSheet where
  merchant := ⟨"merchant-1", "Bookshop"⟩
  order := ⟨"order-1", [⟨"book", none, "500.00", none, none⟩], ⟨"500.00", none⟩⟩
  metadata := none
  currencyCode := "RUB"

def bookCart (total : Price) (coupons : Option (List Coupon)) : OrderCart where
  cartId := "cart-1"
  externalId := none
  items := [⟨"book", none, total, none, ⟨"1", none, none⟩⟩]
  coupons := coupons
  discounts := none
  total := none

def fast (amount : Price) : ShippingCourierOption := ⟨"fast", "Курьер", amount⟩

def bookOrder (cart : OrderCart) (options : List ShippingCourierOption) : RenderOrderResponse where
  currencyCode := "RUB"
  cart := cart
  requiredFields := none
  enableCoupons := some true
  enableCommentField := none
  availablePaymentMethods := some [.card]
  shipping := some ⟨some options, [.courier]⟩
  metadata := none

def fullOrder : RenderOrderResponse := bookOrder (bookCart "500.00" none) [fast "100.00"]

/-- With the coupon the delivery is free. -/
def couponOrder : RenderOrderResponse :=
  bookOrder (bookCart "450.00" (some [⟨"FREE", .valid, "-10%"⟩])) [fast "0.00"]

def payCard : CreateOrderArgs := ⟨.card, some ⟨"1234", "visa"⟩, none, none⟩

/-- The buyer gives an address and chooses the courier. -/
def chooseFast : List ApiEvent :=
  [.waitSheet bookSheet, .rendered 0 fullOrder, .shippingAddressChange ⟨"address-1"⟩,
    .rendered 0 fullOrder, .shippingOptionChange ⟨"fast", "Курьер", "100.00", fast "100.00"⟩]

/-- The coupon leaves the option as it is. -/
def couponKeepsFast : List ApiEvent :=
  chooseFast ++ [.couponChange "FREE", .rendered 0 { fullOrder with cart := couponOrder.cart },
    .createOrder payCard]

theorem couponKeepsFast_isSome : (serverApi.run OptionKept .initial couponKeepsFast).isSome := by
  decide

/-- The coupon makes the delivery free, and the creation charges it; the rendering of a new address
fails, and the creation carries the new address with the option of the old one. -/
def staleOptions : List (List ApiEvent) :=
  [chooseFast ++ [.couponChange "FREE", .rendered 0 couponOrder, .createOrder payCard],
    chooseFast ++ [.shippingAddressChange ⟨"address-2"⟩, .renderFailed 0, .createOrder payCard]]

end YandexPay.Checkout
