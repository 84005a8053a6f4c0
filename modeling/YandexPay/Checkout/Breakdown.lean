import YandexPay.Checkout.Totals

/-!
# The lines of a sheet and its total

A line of an item shows the subtotal where there is one, the line of the coupons takes the
difference to the totals back, and the total of the sheet is summed up from the totals of the items
alone. Where the amounts are whole cents nothing is lost to rounding on the way, and the lines add
up to the total.
-/

set_option autoImplicit false
set_option relaxedAutoImplicit false

namespace YandexPay.Checkout

open JsNumber (finite ofText ofText_toFixed round_of_eq)

/-! ### Cents -/

/-- A count of cents as an amount. -/
def ofCents : ℤ →+ JsNumber where
  toFun n := .finite (n / 100)
  map_zero' := congrArg finite (by simp)
  map_add' a b := congrArg finite (by push_cast; ring)

/-- The text of a number with two decimals. -/
def TwoDecimal (val : Price) : Prop := ∃ n : ℤ, ofText val = ofCents n

def cents (val : Price) : ℤ :=
  match toNum val with
  | .finite q => ⌊q * 100⌋
  | _ => 0

theorem ofCents_injective {a b : ℤ} (h : ofCents a = ofCents b) : a = b := by
  have hdiv : (a : ℚ) / 100 = b / 100 := finite.inj h
  exact_mod_cast (div_left_inj' (by norm_num)).mp hdiv

theorem ofCents_sub (a b : ℤ) : ofCents a - ofCents b = ofCents (a - b) := by
  rw [sub_eq_add_neg, map_add]
  apply congrArg (ofCents a + ·)
  exact congrArg finite (by push_cast; ring)

theorem toNum_of_ofText {val : Price} {n : ℤ} (h : ofText val = ofCents n) :
    toNum val = ofCents n := by
  rw [toNum, h]
  rfl

theorem toNum_eq_ofCents {val : Price} (h : TwoDecimal val) : toNum val = ofCents (cents val) := by
  obtain ⟨n, hn⟩ := h
  have hcents : cents val = n := by
    rw [cents, toNum_of_ofText hn]
    change ⌊(n : ℚ) / 100 * 100⌋ = n
    rw [div_mul_cancel₀ _ (by norm_num), Int.floor_intCast]
  rw [hcents, toNum_of_ofText hn]

/-- Cents are written and read back as they are. -/
theorem ofText_toFixed_ofCents (n : ℤ) :
    ofText ((ofCents n).toFixed defaultPrecision) = ofCents n := by
  rw [ofText_toFixed]
  exact round_of_eq (n := n) (by norm_num [defaultPrecision])

theorem toNum_toFixed_ofCents (n : ℤ) :
    toNum ((ofCents n).toFixed defaultPrecision) = ofCents n :=
  toNum_of_ofText (ofText_toFixed_ofCents n)

/-! ### Lines -/

/-- The amounts that the sheet is made of are whole cents; a courier goes before a pickup point. -/
structure TwoDecimalAmounts (order : RenderOrderResponse) (shippingOption : ShippingOptions) :
    Prop where
  totals : ∀ item ∈ order.cart.items, TwoDecimal item.total
  subtotals : ∀ item ∈ order.cart.items, ∀ subtotal ∈ truthyText item.subtotal, TwoDecimal subtotal
  courier : ∀ option ∈ shippingOption.courier, TwoDecimal option.amount
  pickup : shippingOption.courier = none →
    ∀ option ∈ shippingOption.pickup, ∀ amount ∈ option.amount, TwoDecimal amount

/-- What a subtotal takes away from the line of the coupons. -/
def couponCents (item : OrderItem) : ℤ :=
  (truthyText item.subtotal).elim 0 fun subtotal ↦ cents subtotal - cents item.total

theorem diffAmount_eq {amountA amountB : Price} (hA : TwoDecimal amountA)
    (hB : TwoDecimal amountB) : diffAmount amountA amountB =
      (ofCents (cents amountA - cents amountB)).toFixed defaultPrecision := by
  rw [diffAmount, toNum_eq_ofCents hA, toNum_eq_ofCents hB, ofCents_sub]

theorem couponDiscount_eq_foldl (items : List OrderItem) :
    couponDiscount items = items.foldl (fun total item ↦
      (truthyText item.subtotal).elim total fun subtotal ↦
        sumAmount [total, diffAmount subtotal item.total]) "0.00" := by
  unfold couponDiscount
  congr 1
  funext total item
  cases truthyText item.subtotal <;> rfl

/-- The running sum of the coupons is kept as a text, and loses nothing by that. -/
theorem couponDiscount_eq {items : List OrderItem} (htotals : ∀ item ∈ items, TwoDecimal item.total)
    (hsubtotals : ∀ item ∈ items, ∀ subtotal ∈ truthyText item.subtotal, TwoDecimal subtotal) :
    couponDiscount items =
      (ofCents (items.map couponCents).sum).toFixed defaultPrecision := by
  have hstart : "0.00" = (ofCents 0).toFixed defaultPrecision := by decide +kernel
  rw [couponDiscount_eq_foldl, hstart, ← zero_add (items.map couponCents).sum]
  generalize (0 : ℤ) = c
  induction items generalizing c with
  | nil => rw [List.map_nil, List.sum_nil, add_zero, List.foldl_nil]
  | cons item items ih =>
    rw [List.forall_mem_cons] at htotals hsubtotals
    rw [List.map_cons, List.sum_cons, ← add_assoc, ← ih htotals.2 hsubtotals.2, List.foldl_cons]
    congr 1
    rw [couponCents]
    cases hsubtotal : truthyText item.subtotal with
    | none => rw [Option.elim_none, Option.elim_none, add_zero]
    | some subtotal =>
      have hdecimal := hsubtotals.1 subtotal hsubtotal
      rw [Option.elim_some, Option.elim_some, diffAmount_eq hdecimal htotals.1, sumAmount_eq,
        List.map_cons, List.map_singleton, List.sum_cons, List.sum_singleton,
        toNum_toFixed_ofCents, toNum_toFixed_ofCents, ← map_add]

theorem mulAmount_minus {discount : Price} {n : ℤ} (h : toNum discount = ofCents n) :
    mulAmount ["-1", discount] = (ofCents (-n)).toFixed defaultPrecision := by
  have hminus : (1 : JsNumber) * toNum "-1" = finite (-1) := by decide +kernel
  have hproduct : finite (-1) * ofCents n = ofCents (-n) := by
    change finite (-1 * (n / 100)) = finite (((-n : ℤ) : ℚ) / 100)
    rw [Int.cast_neg, neg_one_mul, neg_div]
  change ((1 : JsNumber) * toNum "-1" * toNum discount).toFixed defaultPrecision = _
  rw [hminus, h, hproduct]

/-- The line of the coupons. -/
theorem sum_couponItems {order : RenderOrderResponse} {shippingOption : ShippingOptions}
    (h : TwoDecimalAmounts order shippingOption) :
    ((getCouponItems order).map fun item ↦ toNum item.amount).sum =
      ofCents (-(order.cart.items.map couponCents).sum) := by
  have hread : toNum (couponDiscount order.cart.items) =
      ofCents (order.cart.items.map couponCents).sum := by
    rw [couponDiscount_eq h.totals h.subtotals, toNum_toFixed_ofCents]
  unfold getCouponItems
  by_cases hzero : couponDiscount order.cart.items = "0.00"
  · have htext : toNum "0.00" = ofCents 0 := by decide +kernel
    rw [hzero, htext] at hread
    rw [← ofCents_injective hread]
    simp only [if_pos hzero]
    exact (map_zero ofCents).symm
  · simp only [if_neg hzero, List.map_singleton, List.sum_singleton]
    rw [mulAmount_minus hread, toNum_toFixed_ofCents]

theorem textOr_eq_getD (value : Option String) (fallback : String) :
    textOr value fallback = (truthyText value).getD fallback := by
  cases value with
  | none => rfl
  | some text =>
    by_cases htext : text = ""
    · subst htext
      rfl
    · rw [textOr, orElseText, Option.getD_some, if_neg htext, truthyText,
        Option.filter_some_pos (by simpa using htext)]
      rfl

/-- The line of an item. -/
theorem toNum_textOr {item : OrderItem} (htotal : TwoDecimal item.total)
    (hsubtotal : ∀ subtotal ∈ truthyText item.subtotal, TwoDecimal subtotal) :
    toNum (textOr item.subtotal item.total) = toNum item.total + ofCents (couponCents item) := by
  rw [textOr_eq_getD, couponCents]
  cases htext : truthyText item.subtotal with
  | none => rw [Option.elim_none, Option.getD_none, map_zero, add_zero]
  | some subtotal =>
    rw [Option.elim_some, Option.getD_some, toNum_eq_ofCents htotal,
      toNum_eq_ofCents (hsubtotal subtotal htext), ← map_add, add_sub_cancel]

theorem sum_orderItems {order : RenderOrderResponse} {shippingOption : ShippingOptions}
    (h : TwoDecimalAmounts order shippingOption) :
    ((getOrderItems order).map fun item ↦ toNum item.amount).sum =
      itemsNumber order + ofCents (order.cart.items.map couponCents).sum := by
  rw [getOrderItems, itemsNumber, map_list_sum, List.map_map, List.map_map, ← List.sum_map_add]
  apply congrArg List.sum
  exact List.map_congr_left fun item hitem ↦
    toNum_textOr (h.totals item hitem) (h.subtotals item hitem)

theorem itemsNumber_eq {order : RenderOrderResponse} {shippingOption : ShippingOptions}
    (h : TwoDecimalAmounts order shippingOption) :
    itemsNumber order = ofCents (order.cart.items.map fun item ↦ cents item.total).sum := by
  rw [itemsNumber, map_list_sum, List.map_map]
  apply congrArg List.sum
  exact List.map_congr_left fun item hitem ↦ toNum_eq_ofCents (h.totals item hitem)

theorem shippingNumber_eq {order : RenderOrderResponse} {shippingOption : ShippingOptions}
    (h : TwoDecimalAmounts order shippingOption) :
    ∃ n, shippingNumber shippingOption.courier shippingOption.pickup = ofCents n := by
  obtain ⟨courier, pickup⟩ := shippingOption
  cases courier with
  | some option => exact ⟨_, toNum_eq_ofCents (h.courier option rfl)⟩
  | none =>
    cases pickup with
    | none => exact ⟨0, (map_zero ofCents).symm⟩
    | some option =>
      cases hamount : option.amount with
      | none =>
        refine ⟨0, ?_⟩
        rw [shippingNumber, hamount, map_zero, Option.elim_none]
      | some amount =>
        refine ⟨cents amount, ?_⟩
        rw [shippingNumber, hamount, Option.elim_some]
        exact toNum_eq_ofCents (h.pickup rfl option rfl amount hamount)

/-- A cart of an item with a subtotal and one without. -/
def couponCartOrder : RenderOrderResponse where
  currencyCode := "RUB"
  cart :=
    { cartId := "cart"
      externalId := none
      items := [⟨"tea", some "Tea", "90.50", some "100.00", ⟨"1", none, none⟩⟩,
        ⟨"cup", some "Cup", "250", none, ⟨"2", none, none⟩⟩]
      coupons := some [⟨"SALE", .valid, "Sale"⟩]
      discounts := none
      total := none }
  requiredFields := none
  enableCoupons := some true
  enableCommentField := none
  availablePaymentMethods := some [.card]
  shipping := none
  metadata := none

def courierChoice : ShippingOptions := ⟨some ⟨"courier", "Courier", "199.99"⟩, none⟩

theorem twoDecimalAmounts_couponCart : TwoDecimalAmounts couponCartOrder courierChoice where
  totals := by
    refine List.forall_mem_cons.mpr ⟨⟨9050, ?_⟩, List.forall_mem_singleton.mpr ⟨25000, ?_⟩⟩
    · decide +kernel
    · decide +kernel
  subtotals := by
    refine List.forall_mem_cons.mpr ⟨fun subtotal h ↦ ⟨10000, ?_⟩,
      List.forall_mem_singleton.mpr fun subtotal h ↦ ?_⟩
    · obtain rfl := Option.some.inj h
      decide +kernel
    · cases h
  courier := by
    intro option h
    obtain rfl := Option.some.inj h
    exact ⟨19999, by decide +kernel⟩
  pickup := fun h ↦ by cases h

end YandexPay.Checkout
