import YandexPay.Library.JsNumber
import YandexPay.Library.JsValue

/-!
# Orders and payment sheets

The transforms of `pay-common/transform` with the amounts of `utils/math`. An order is rendered by
the server; `orderToPaymentSheet` makes of it the sheet that the buyer sees, `paymentSheetToOrder`
the request for the next rendering, and `paymentSheetToOrderCreate` the request that charges the
buyer. A price is a text, and its arithmetic is that of exact numbers.
-/

set_option autoImplicit false
set_option relaxedAutoImplicit false

namespace YandexPay.Checkout

/-! ### Amounts -/

abbrev Price := String

/-- `toNum` with its default of zero. -/
def toNum (val : Price) : JsNumber :=
  match JsNumber.ofText val with
  | .nan => 0
  | num => num

/-- `DEFAULT_PRECISION` -/
def defaultPrecision : ℕ := 2

def sumAmount (amounts : List Price) : Price :=
  (amounts.foldl (fun res amount ↦ res + toNum amount) 0).toFixed defaultPrecision

def diffAmount (amountA amountB : Price) : Price :=
  (toNum amountA - toNum amountB).toFixed defaultPrecision

def mulAmount (amounts : List Price) : Price :=
  (amounts.foldl (fun res amount ↦ res * toNum amount) 1).toFixed defaultPrecision

theorem sumAmount_eq (amounts : List Price) :
    sumAmount amounts = ((amounts.map toNum).sum).toFixed defaultPrecision := by
  rw [sumAmount, List.sum_eq_foldl, List.foldl_map]

/-! ### Rendered orders -/

inductive CouponStatus
  | valid
  | invalid
  | expired
  deriving DecidableEq

structure Coupon where
  value : String
  status : CouponStatus
  description : String
  deriving DecidableEq

structure Discount where
  description : String
  amount : Price
  deriving DecidableEq

structure OrderItemQuantity where
  count : String
  available : Option String
  label : Option String
  deriving DecidableEq

structure OrderItem where
  productId : String
  title : Option String
  total : Price
  subtotal : Option Price
  quantity : OrderItemQuantity
  deriving DecidableEq

structure OrderCartTotal where
  label : Option String
  amount : Price
  deriving DecidableEq

structure OrderCart where
  cartId : String
  externalId : Option String
  items : List OrderItem
  coupons : Option (List Coupon)
  discounts : Option (List Discount)
  total : Option OrderCartTotal
  deriving DecidableEq

structure ShippingCourierOption where
  courierOptionId : String
  title : String
  amount : Price
  deriving DecidableEq

structure ShippingPickupOption where
  pickupPointId : String
  title : String
  amount : Option Price
  deriving DecidableEq

inductive ServerPaymentMethodType
  | card
  | split
  | cashOnDelivery
  | cardOnDelivery
  deriving DecidableEq

inductive ShippingMethodType
  | courier
  | pickup
  | yandexDelivery
  deriving DecidableEq

/-- The contact fields that a server or a sheet asks for. -/
structure ContactFields where
  phone : Bool
  email : Bool
  name : Bool
  deriving DecidableEq

structure RenderRequiredFields where
  billingContact : Option ContactFields
  shippingContact : Option ContactFields
  deriving DecidableEq

structure RenderShipping where
  availableCourierOptions : Option (List ShippingCourierOption)
  availableMethods : List ShippingMethodType
  deriving DecidableEq

structure RenderOrderResponse where
  currencyCode : String
  cart : OrderCart
  requiredFields : Option RenderRequiredFields
  enableCoupons : Option Bool
  enableCommentField : Option Bool
  availablePaymentMethods : Option (List ServerPaymentMethodType)
  shipping : Option RenderShipping
  metadata : Option String
  deriving DecidableEq

/-! ### Sheets -/

structure Merchant where
  id : String
  name : String
  deriving DecidableEq

inductive SheetItemType
  | shipping
  | discount
  deriving DecidableEq

structure SheetItem where
  id : String
  type : Option SheetItemType
  amount : Price
  label : Option String
  quantity : Option OrderItemQuantity
  deriving DecidableEq

structure OrderTotal where
  amount : Price
  label : Option String
  deriving DecidableEq

structure SheetOrder where
  id : String
  items : List SheetItem
  total : OrderTotal
  deriving DecidableEq

inductive AllowedAuthMethod
  | panOnly
  deriving DecidableEq

inductive AllowedCardNetwork
  | visa
  | mastercard
  | mir
  | uzcard
  deriving DecidableEq

inductive SheetPaymentMethod
  | card (gateway gatewayMerchantId : String) (allowedAuthMethods : List AllowedAuthMethod)
    (allowedCardNetworks : List AllowedCardNetwork)
  | cash
  | split
  deriving DecidableEq

structure InitPaymentSheet where
  merchant : Merchant
  order : SheetOrder
  metadata : Option String
  currencyCode : String
  deriving DecidableEq

structure BillingContactFields where
  name : Bool
  email : Bool
  deriving DecidableEq

structure ShippingTypes where
  direct : Bool
  pickup : Bool
  deriving DecidableEq

structure RequiredFields where
  billingContact : BillingContactFields
  shippingContact : ContactFields
  shippingTypes : ShippingTypes
  deriving DecidableEq

structure AdditionalFields where
  coupons : Bool
  comment : Bool
  deriving DecidableEq

structure PaymentSheet where
  version : ℕ
  merchant : Merchant
  currencyCode : String
  countryCode : String
  requiredFields : RequiredFields
  additionalFields : AdditionalFields
  order : SheetOrder
  paymentMethods : List SheetPaymentMethod
  deriving DecidableEq

/-! ### From an order to a sheet -/

structure ShippingOptions where
  courier : Option ShippingCourierOption
  pickup : Option ShippingPickupOption

def COUPON_ID : String := "__coupon_pay"

def DISCOUNT_ID : String := "__discount_pay"

def SHIPPING_ID : String := "__shipping_pay"

/-- A text that may be `undefined`, where only its truth counts. -/
def textOr (value : Option String) (fallback : String) : String :=
  orElseText (value.getD "") fallback

/-- A text that is neither `undefined` nor empty. -/
def truthyText (value : Option String) : Option String := value.filter fun text ↦ text ≠ ""

def getOrderItems (order : RenderOrderResponse) : List SheetItem :=
  order.cart.items.map fun item ↦
    { id := item.productId
      type := none
      amount := textOr item.subtotal item.total
      label := item.title
      quantity := some item.quantity }

def getOrderItemsTotalAmounts (order : RenderOrderResponse) : List Price :=
  match order.cart.total with
  | some total => [total.amount]
  | none => order.cart.items.map OrderItem.total

def getDiscountsItems (order : RenderOrderResponse) : List SheetItem :=
  (order.cart.discounts.getD []).map fun discount ↦
    { id := DISCOUNT_ID
      type := some .discount
      amount := discount.amount
      label := some discount.description
      quantity := none }

/-- The discount that the coupons give, from the items that have a subtotal. -/
def couponDiscount (items : List OrderItem) : Price :=
  items.foldl (fun total item ↦
    match truthyText item.subtotal with
    | some subtotal => sumAmount [total, diffAmount subtotal item.total]
    | none => total) "0.00"

def getCouponItems (order : RenderOrderResponse) : List SheetItem :=
  let discount := couponDiscount order.cart.items
  if discount = "0.00" then []
  else
    let coupon := (order.cart.coupons.getD []).find? fun coupon ↦ coupon.status = .valid
    [{ id := COUPON_ID
       type := some .discount
       amount := mulAmount ["-1", discount]
       label := some (coupon.elim "Скидка" Coupon.description)
       quantity := none }]

def getShippingOrderItems (shippingOption : ShippingOptions) : List SheetItem :=
  match shippingOption.courier, shippingOption.pickup with
  | some option, _ =>
    [{ id := SHIPPING_ID
       type := some .shipping
       amount := option.amount
       label := some ("Доставка " ++ option.title)
       quantity := none }]
  | none, some option =>
    [{ id := SHIPPING_ID
       type := some .shipping
       amount := option.amount.getD "undefined"
       label := some ("Самовывоз " ++ option.title)
       quantity := none }]
  | none, none => []

def getPaymentSheetOrder (order : RenderOrderResponse) (shippingOption : ShippingOptions) :
    SheetOrder :=
  let shippingOrderItems := getShippingOrderItems shippingOption
  { id := textOr order.cart.externalId order.cart.cartId
    items := getOrderItems order ++ shippingOrderItems ++ getDiscountsItems order ++
      getCouponItems order
    total :=
      { amount := sumAmount (getOrderItemsTotalAmounts order ++
          shippingOrderItems.map SheetItem.amount)
        label := some (textOr (order.cart.total.bind OrderCartTotal.label) "") } }

def getPaymentMethods (order : RenderOrderResponse) : List SheetPaymentMethod :=
  let available := order.availablePaymentMethods.getD []
  let card := if .card ∈ available then
      [.card "payture" "payture-merchant-id" [.panOnly] [.visa, .mastercard, .mir, .uzcard]]
    else []
  let cash := if .cashOnDelivery ∈ available ∨ .cardOnDelivery ∈ available then
      [SheetPaymentMethod.cash]
    else []
  let split := if .split ∈ available then [SheetPaymentMethod.split] else []
  card ++ cash ++ split

def orderToPaymentSheet (initSheet : InitPaymentSheet) (order : RenderOrderResponse)
    (shippingOption : ShippingOptions) : PaymentSheet :=
  let billing := order.requiredFields.bind RenderRequiredFields.billingContact
  let shipping := order.requiredFields.bind RenderRequiredFields.shippingContact
  let methods := order.shipping.elim [] RenderShipping.availableMethods
  { version := 2
    merchant := initSheet.merchant
    currencyCode := order.currencyCode
    countryCode := "RU"
    requiredFields :=
      { billingContact :=
          { name := billing.elim false ContactFields.name
            email := billing.elim false ContactFields.email }
        shippingContact :=
          { name := shipping.elim false ContactFields.name
            email := shipping.elim false ContactFields.email
            phone := shipping.elim false ContactFields.phone }
        shippingTypes :=
          { direct := .courier ∈ methods ∨ .yandexDelivery ∈ methods
            pickup := .pickup ∈ methods } }
    additionalFields :=
      { coupons := order.enableCoupons.getD false
        comment := order.enableCommentField.getD false }
    order := getPaymentSheetOrder order shippingOption
    paymentMethods := getPaymentMethods order }

/-! ### Requests -/

structure Address where
  id : String
  deriving DecidableEq

structure RenderCartItem where
  productId : String
  count : String
  deriving DecidableEq

structure RenderOrderRequest where
  merchantId : String
  currencyCode : String
  externalId : String
  items : List RenderCartItem
  /-- `cart.coupons`, by their values. -/
  coupons : Option (List String)
  metadata : Option String
  shippingAddressId : Option String
  deriving DecidableEq

def paymentSheetToOrder (initSheet : InitPaymentSheet) (address : Option Address)
    (coupon : Option String) : RenderOrderRequest where
  merchantId := initSheet.merchant.id
  currencyCode := initSheet.currencyCode
  externalId := initSheet.order.id
  items := initSheet.order.items.map fun item ↦
    { productId := item.id
      count := item.quantity.elim "1" OrderItemQuantity.count }
  coupons := (truthyText coupon).map fun value ↦ [value]
  metadata := initSheet.metadata
  shippingAddressId := address.map Address.id

/-- `PaymentMethodType` of `utils/payment-methods`. -/
inductive PaymentMethodType
  | card
  | newCard
  | cash
  | split
  deriving DecidableEq

structure PaymentMethod where
  lastDigits : String
  system : String
  deriving DecidableEq

inductive OrderPaymentMethod
  | cashOnDelivery
  | card (cardLast4 cardNetwork : String)
  deriving DecidableEq

inductive Shipping
  | courier (courierOption : ShippingCourierOption)
  | pickup (pickupOption : ShippingPickupOption)
  deriving DecidableEq

structure BillingContact where
  email : Option String
  phone : Option String
  deriving DecidableEq

structure ShippingContact where
  id : Option String
  deriving DecidableEq

structure CreateOrderRequest where
  merchantId : String
  currencyCode : String
  cart : OrderCart
  metadata : Option String
  shippingAddressId : Option String
  paymentMethod : Option OrderPaymentMethod
  shippingContactId : Option String
  billingContact : Option BillingContact
  shippingMethod : Option Shipping
  orderAmount : Price
  deriving DecidableEq

/-- `getTotalAmount`; the shipping amount is `'0'` when it is `undefined`. -/
def getTotalAmount (order : RenderOrderResponse) (shippingAmount : Option Price) : Price :=
  sumAmount (shippingAmount.getD "0" :: order.cart.items.map OrderItem.total)

/-- The arguments of `paymentSheetToOrderCreate`. -/
structure OrderCreateArgs where
  initSheet : InitPaymentSheet
  order : RenderOrderResponse
  paymentMethod : Option PaymentMethod
  paymentMethodType : PaymentMethodType
  address : Option Address
  shippingContact : Option ShippingContact
  billingContact : Option BillingContact
  courierOption : Option ShippingCourierOption
  pickupOption : Option ShippingPickupOption

/-- `paymentSheetToOrderCreate`; the upper case of a card network is that of ASCII letters. -/
def paymentSheetToOrderCreate (args : OrderCreateArgs) : CreateOrderRequest where
  merchantId := args.initSheet.merchant.id
  currencyCode := args.order.currencyCode
  cart := args.order.cart
  metadata := (truthyText args.order.metadata).or args.initSheet.metadata
  shippingAddressId := args.address.map Address.id
  paymentMethod :=
    match args.paymentMethodType, args.paymentMethod with
    | .cash, _ => some .cashOnDelivery
    | .card, some paymentMethod =>
      some (.card paymentMethod.lastDigits paymentMethod.system.toUpper)
    | _, _ => none
  shippingContactId := args.shippingContact.bind ShippingContact.id
  billingContact := args.billingContact
  shippingMethod :=
    match args.courierOption, args.pickupOption with
    | some courierOption, _ => some (.courier courierOption)
    | none, some pickupOption => some (.pickup pickupOption)
    | none, none => none
  orderAmount :=
    match args.courierOption, args.pickupOption with
    | some courierOption, _ => getTotalAmount args.order (some courierOption.amount)
    | none, some pickupOption => getTotalAmount args.order pickupOption.amount
    | none, none => getTotalAmount args.order none

/-! ### Coupons -/

/-- The callback of `find` in `couponStatus`, which assigns the value to the coupons it visits: an
empty value is no match and is assigned to all of them, any other is assigned to the first one,
which matches. -/
def assignCoupons (couponValue : String) : List Coupon → Option Coupon × List Coupon
  | [] => (none, [])
  | item :: items =>
    let assigned := { item with value := couponValue }
    if couponValue = "" then
      let visited := assignCoupons couponValue items
      (visited.1, assigned :: visited.2)
    else (some assigned, assigned :: items)

/-- `couponStatus`, with the order that it leaves. -/
def couponStatus (couponValue : String) (order : RenderOrderResponse) :
    (CouponStatus × String) × RenderOrderResponse :=
  match order.cart.coupons with
  | none => ((.invalid, "Некорретный промокод"), order)
  | some coupons =>
    let visited := assignCoupons couponValue coupons
    let status := visited.1.elim (.invalid, "Некорретный промокод") fun coupon ↦
      (coupon.status, coupon.description)
    (status, { order with cart := { order.cart with coupons := some visited.2 } })

end YandexPay.Checkout
