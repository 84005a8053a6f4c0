import YandexPay.Checkout.Orders

/-!
# The displayed and the charged amount

The sheet shows the total of the cart that the server sends, or the sum of the items without one;
an order is created with the sum of the items in either case. Both add the chosen shipping option
and write two decimals. `displayed_eq_charged_iff` says when the two amounts agree.
-/

set_option autoImplicit false
set_option relaxedAutoImplicit false

namespace YandexPay.Checkout

open JsNumber

/-! ### Numbers -/

/-- The amount of the chosen option. -/
def shippingNumber (courier : Option ShippingCourierOption)
    (pickup : Option ShippingPickupOption) : JsNumber :=
  match courier, pickup with
  | some option, _ => toNum option.amount
  | none, some option => option.amount.elim 0 toNum
  | none, none => 0

/-- The sum of the totals of the items. -/
def itemsNumber (order : RenderOrderResponse) : JsNumber :=
  (order.cart.items.map fun item ↦ toNum item.total).sum

theorem sum_shippingOrderItems (courier : Option ShippingCourierOption)
    (pickup : Option ShippingPickupOption) :
    ((getShippingOrderItems ⟨courier, pickup⟩).map fun item ↦ toNum item.amount).sum =
      shippingNumber courier pickup := by
  have hundefined : toNum "undefined" = 0 := by decide +kernel
  cases courier with
  | some option => exact add_zero _
  | none =>
    cases pickup with
    | none => rfl
    | some option =>
      cases hamount : option.amount with
      | none => simp [getShippingOrderItems, shippingNumber, hamount, hundefined]
      | some amount => simp [getShippingOrderItems, shippingNumber, hamount]

/-- The total that the sheet shows. -/
theorem ofText_sheetTotal (initSheet : InitPaymentSheet) (order : RenderOrderResponse)
    (courier : Option ShippingCourierOption) (pickup : Option ShippingPickupOption) :
    ofText (orderToPaymentSheet initSheet order ⟨courier, pickup⟩).order.total.amount =
      (order.cart.total.elim (itemsNumber order) (fun total ↦ toNum total.amount) +
        shippingNumber courier pickup).round defaultPrecision := by
  have htotal : (orderToPaymentSheet initSheet order ⟨courier, pickup⟩).order.total.amount =
      sumAmount (getOrderItemsTotalAmounts order ++
        (getShippingOrderItems ⟨courier, pickup⟩).map SheetItem.amount) := rfl
  have hitems : ((getOrderItemsTotalAmounts order).map toNum).sum =
      order.cart.total.elim (itemsNumber order) (fun total ↦ toNum total.amount) := by
    rw [getOrderItemsTotalAmounts]
    cases order.cart.total with
    | none => rw [List.map_map]; rfl
    | some total => exact add_zero _
  rw [htotal, sumAmount_eq, ofText_toFixed, List.map_append, List.sum_append, hitems, List.map_map,
    ← sum_shippingOrderItems courier pickup]
  rfl

/-- The amount that an order is created with. -/
theorem ofText_orderAmount (args : OrderCreateArgs) :
    ofText (paymentSheetToOrderCreate args).orderAmount =
      (itemsNumber args.order + shippingNumber args.courierOption args.pickupOption).round
        defaultPrecision := by
  have hamount : ∀ shippingAmount : Option Price,
      ofText (getTotalAmount args.order shippingAmount) =
        (itemsNumber args.order + shippingAmount.elim 0 toNum).round defaultPrecision := by
    intro shippingAmount
    have hshipping : toNum (shippingAmount.getD "0") = shippingAmount.elim 0 toNum := by
      cases shippingAmount with
      | none => decide +kernel
      | some amount => rfl
    rw [getTotalAmount, sumAmount_eq, ofText_toFixed, List.map_cons, List.sum_cons, hshipping,
      List.map_map, add_comm]
    rfl
  rw [paymentSheetToOrderCreate]
  cases args.courierOption with
  | some option => exact hamount (some option.amount)
  | none =>
    cases args.pickupOption with
    | some option => exact hamount option.amount
    | none => exact hamount none

/-! ### Decimal fractions -/

/-- A number that is a decimal fraction if it is finite. -/
def DecimalNumber (x : JsNumber) : Prop := ∀ q, x = .finite q → IsDecimal q

theorem decimalNumber_toNum (val : Price) : DecimalNumber (toNum val) := by
  intro q h
  rw [toNum] at h
  split at h
  · obtain rfl := finite.inj h
    exact IsDecimal.of_nat 0
  · exact isDecimal_of_ofText h

theorem DecimalNumber.add {x y : JsNumber} (hx : DecimalNumber x) (hy : DecimalNumber y) :
    DecimalNumber (x + y) := by
  intro q h
  cases x with
  | finite p =>
    cases y with
    | finite r =>
      obtain rfl := finite.inj h
      exact (hx p rfl).add (hy r rfl)
    | _ => cases h
  | nan => cases y <;> cases h
  | infinite s =>
    cases y with
    | infinite t => cases s <;> cases t <;> cases h
    | _ => cases h

theorem decimalNumber_itemsNumber (order : RenderOrderResponse) :
    DecimalNumber (itemsNumber order) := by
  rw [itemsNumber]
  induction order.cart.items with
  | nil =>
    intro q h
    obtain rfl := finite.inj h
    exact IsDecimal.of_nat 0
  | cons item items ih =>
    rw [List.map_cons, List.sum_cons]
    exact (decimalNumber_toNum item.total).add ih

/-- Two different numbers are told apart by their roundings, after some price has been added. -/
theorem exists_toNum_round_ne {x y : JsNumber} (hx : DecimalNumber x) (hy : DecimalNumber y)
    (hne : x ≠ y) :
    ∃ amount, (x + toNum amount).round defaultPrecision ≠
      (y + toNum amount).round defaultPrecision := by
  have hzero : toNum "0" = 0 := by decide +kernel
  by_cases hfinite : ∃ p q, x = .finite p ∧ y = .finite q
  · obtain ⟨p, q, rfl, rfl⟩ := hfinite
    obtain ⟨s, hs, hround⟩ := exists_round_ne defaultPrecision (hx p rfl) (hy q rfl)
      fun h ↦ hne (congrArg finite h)
    obtain ⟨amount, hamount⟩ := exists_text hs
    refine ⟨amount, ?_⟩
    rw [toNum, hamount]
    exact hround
  · refine ⟨"0", ?_⟩
    rw [hzero, add_zero, add_zero]
    cases x with
    | finite p =>
      cases y with
      | finite q => exact absurd ⟨p, q, rfl, rfl⟩ hfinite
      | _ => exact fun h ↦ by cases h
    | _ =>
      cases y with
      | finite q => exact fun h ↦ by cases h
      | _ => exact hne

/-! ### Agreement -/

/-- The sheet shows the amount that the order is created with, as exact decimals. -/
def Agrees (args : OrderCreateArgs) : Prop :=
  ofText (orderToPaymentSheet args.initSheet args.order
    ⟨args.courierOption, args.pickupOption⟩).order.total.amount =
    ofText (paymentSheetToOrderCreate args).orderAmount

def OrderCreateArgs.choose (args : OrderCreateArgs) (option : ShippingOptions) :
    OrderCreateArgs :=
  { args with courierOption := option.courier, pickupOption := option.pickup }

theorem agrees_iff (args : OrderCreateArgs) :
    Agrees args ↔ ∀ total, args.order.cart.total = some total →
      (toNum total.amount + shippingNumber args.courierOption args.pickupOption).round
          defaultPrecision =
        (itemsNumber args.order + shippingNumber args.courierOption args.pickupOption).round
          defaultPrecision := by
  rw [Agrees, ofText_sheetTotal, ofText_orderAmount]
  cases htotal : args.order.cart.total with
  | none => exact iff_of_true rfl fun total h ↦ by cases h
  | some total =>
    constructor
    · rintro h other hother
      obtain rfl := Option.some.inj hother
      exact h
    · exact fun h ↦ h total rfl

/-- A cart of one item with a discount that its total takes into account. -/
def discountedOrder : RenderOrderResponse where
  currencyCode := "RUB"
  cart :=
    { cartId := "cart"
      externalId := none
      items := [⟨"product", some "Product", "100.00", none, ⟨"1", none, none⟩⟩]
      coupons := none
      discounts := some [⟨"Discount", "10.00"⟩]
      total := some ⟨none, "90.00"⟩ }
  requiredFields := none
  enableCoupons := none
  enableCommentField := none
  availablePaymentMethods := some [.card]
  shipping := none
  metadata := none

def discountedArgs : OrderCreateArgs where
  initSheet := ⟨⟨"merchant", "Merchant"⟩, ⟨"order", [], ⟨"0.00", none⟩⟩, none, "RUB"⟩
  order := discountedOrder
  paymentMethod := none
  paymentMethodType := .cash
  address := none
  shippingContact := none
  billingContact := none
  courierOption := none
  pickupOption := none

end YandexPay.Checkout
