import YandexPay.Checkout.Orders

/-!
# The status of a coupon

`couponStatus` looks a coupon up in the cart of the last order by its value. The callback of its
search assigns the value instead of comparing it, so the search stops at the first coupon whatever
that is, or runs through all of them for an empty value, and the cart is written to on the way.
`readsCoupon_iff` says when the answer is right and the order left as it was.
-/

set_option autoImplicit false
set_option relaxedAutoImplicit false

namespace YandexPay.Checkout

/-- The answer for a value that no coupon has. -/
def unknownCoupon : CouponStatus × String := (.invalid, "Некорретный промокод")

def Coupon.answer (coupon : Coupon) : CouponStatus × String := (coupon.status, coupon.description)

/-- The answer is that of a coupon with the value, or that of an unknown one if there is none, and
the order is unchanged. -/
def ReadsCoupon (couponValue : String) (order : RenderOrderResponse) : Prop :=
  ((∃ coupon ∈ order.cart.coupons.getD [], coupon.value = couponValue ∧
      (couponStatus couponValue order).1 = coupon.answer) ∨
    (∀ coupon ∈ order.cart.coupons.getD [], coupon.value ≠ couponValue) ∧
      (couponStatus couponValue order).1 = unknownCoupon) ∧
  (couponStatus couponValue order).2 = order

/-- The cart has no coupon, or the first one has the value, or the value is empty, as are the values
of all coupons, and one of these is answered as an unknown one would be. -/
def CouponReadable (couponValue : String) (coupons : List Coupon) : Prop :=
  coupons = [] ∨
    (couponValue ≠ "" ∧ ∃ coupon rest, coupons = coupon :: rest ∧ coupon.value = couponValue) ∨
    (couponValue = "" ∧ (∀ coupon ∈ coupons, coupon.value = "") ∧
      ∃ coupon ∈ coupons, coupon.answer = unknownCoupon)

/-! ### The search -/

theorem assignCoupons_empty (coupons : List Coupon) :
    assignCoupons "" coupons = (none, coupons.map fun coupon ↦ { coupon with value := "" }) := by
  induction coupons with
  | nil => rfl
  | cons coupon coupons ih => rw [assignCoupons, if_pos rfl, ih, List.map_cons]

theorem assignCoupons_cons {couponValue : String} (hvalue : couponValue ≠ "") (coupon : Coupon)
    (rest : List Coupon) : assignCoupons couponValue (coupon :: rest) =
      (some { coupon with value := couponValue },
        { coupon with value := couponValue } :: rest) := by
  rw [assignCoupons, if_neg hvalue]

theorem withValue_eq_iff {couponValue : String} {coupon : Coupon} :
    { coupon with value := couponValue } = coupon ↔ coupon.value = couponValue := by
  cases coupon
  simp [eq_comm]

theorem map_withValue_eq_iff {couponValue : String} {coupons : List Coupon} :
    (coupons.map fun coupon ↦ { coupon with value := couponValue }) = coupons ↔
      ∀ coupon ∈ coupons, coupon.value = couponValue := by
  induction coupons with
  | nil => simp
  | cons coupon coupons ih =>
    rw [List.map_cons, List.cons.injEq, withValue_eq_iff, ih, List.forall_mem_cons]

/-- The order is unchanged exactly if its coupons are. -/
theorem couponStatus_snd_eq_iff {couponValue : String} {order : RenderOrderResponse} :
    (couponStatus couponValue order).2 = order ↔
      (assignCoupons couponValue (order.cart.coupons.getD [])).2 = order.cart.coupons.getD [] := by
  obtain ⟨_, cart, _, _, _, _, _, _⟩ := order
  obtain ⟨_, _, _, coupons, _, _⟩ := cart
  cases coupons with
  | none => exact iff_of_true rfl rfl
  | some coupons => simp [couponStatus]

theorem couponStatus_fst (couponValue : String) (order : RenderOrderResponse) :
    (couponStatus couponValue order).1 =
      (assignCoupons couponValue (order.cart.coupons.getD [])).1.elim unknownCoupon
        Coupon.answer := by
  rw [couponStatus]
  cases order.cart.coupons <;> rfl

/-! ### When the answer is right -/

/-- The answer is right and the order unchanged exactly if the cart has no coupon, or the first one
has the value, or nothing tells the coupons from unknown ones. -/
theorem readsCoupon_iff (couponValue : String) (order : RenderOrderResponse) :
    ReadsCoupon couponValue order ↔
      CouponReadable couponValue (order.cart.coupons.getD []) := by
  rw [ReadsCoupon, couponStatus_snd_eq_iff, couponStatus_fst, CouponReadable]
  generalize order.cart.coupons.getD [] = coupons
  by_cases hvalue : couponValue = ""
  · subst hvalue
    rw [assignCoupons_empty, map_withValue_eq_iff, Option.elim_none]
    constructor
    · rintro ⟨⟨coupon, hmem, -, hanswer⟩ | ⟨hnone, -⟩, hempty⟩
      · exact Or.inr (Or.inr ⟨rfl, hempty, coupon, hmem, hanswer.symm⟩)
      · refine Or.inl (List.eq_nil_iff_forall_not_mem.mpr fun coupon hmem ↦ ?_)
        exact hnone coupon hmem (hempty coupon hmem)
    · rintro (rfl | ⟨hne, -⟩ | ⟨-, hempty, coupon, hmem, hanswer⟩)
      · exact ⟨Or.inr ⟨List.forall_mem_nil _, rfl⟩, List.forall_mem_nil _⟩
      · exact absurd rfl hne
      · exact ⟨Or.inl ⟨coupon, hmem, hempty coupon hmem, hanswer.symm⟩, hempty⟩
  · cases coupons with
    | nil =>
      apply iff_of_true
      · exact ⟨Or.inr ⟨List.forall_mem_nil _, rfl⟩, rfl⟩
      · exact Or.inl rfl
    | cons coupon rest =>
      rw [assignCoupons_cons hvalue, Option.elim_some, List.cons.injEq, withValue_eq_iff]
      constructor
      · rintro ⟨-, hfirst, -⟩
        exact Or.inr (Or.inl ⟨hvalue, coupon, rest, rfl, hfirst⟩)
      · rintro (hnil | ⟨-, first, tail, heq, hfirst⟩ | ⟨hempty, -⟩)
        · cases hnil
        · obtain ⟨rfl, rfl⟩ := List.cons.inj heq
          exact ⟨Or.inl ⟨coupon, List.mem_cons_self, hfirst, rfl⟩, hfirst, rfl⟩
        · exact absurd hempty hvalue

/-- A cart with a coupon that is valid. -/
def saleOrder : RenderOrderResponse where
  currencyCode := "RUB"
  cart :=
    { cartId := "cart"
      externalId := none
      items := []
      coupons := some [⟨"SALE", .valid, "Sale"⟩]
      discounts := none
      total := none }
  requiredFields := none
  enableCoupons := some true
  enableCommentField := none
  availablePaymentMethods := none
  shipping := none
  metadata := none

/-- Another coupon is answered as the valid one, which is renamed in the order. -/
theorem other_coupon_valid :
    couponStatus "OTHER" saleOrder = ((.valid, "Sale"),
      { saleOrder with cart :=
          { saleOrder.cart with coupons := some [⟨"OTHER", .valid, "Sale"⟩] } }) ∧
      ¬ ReadsCoupon "OTHER" saleOrder := by
  refine ⟨by decide, ?_⟩
  rw [ReadsCoupon, not_and_or]
  exact Or.inr (by decide)

end YandexPay.Checkout
