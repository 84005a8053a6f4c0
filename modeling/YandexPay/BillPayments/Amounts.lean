import YandexPay.BillPayments.Transactions
import YandexPay.Library.PyDecimalQuantize
import Mathlib.Algebra.Group.Int.Defs
import Mathlib.Data.Int.ConditionallyCompleteOrder
import Mathlib.Data.List.Forall2

/-!
# The amounts of bills

The discounted amount of a bill, its fee and the amount of an order, from
`storage/entities/bill.py` and `_get_amount`. The fee is computed with `Decimal`:
`Commission.feeAmount` follows the statements, and `Commission.feeAmount_eq` says that for amounts
of 64 bits nothing is rounded before the last step, so that the result is `Bill.feeAmount`, the
formula on rationals.
-/

set_option autoImplicit false
set_option relaxedAutoImplicit false

namespace YandexPay.BillPayments

open PyDecimal

/-! ### The discount -/

namespace Bill

/-- A discount is given, and its date has not passed. -/
def HasDiscount (today : ℤ) (bill : Bill) : Prop :=
  bill.discountSize ≠ none ∧ ∃ date ∈ bill.discountDate, today ≤ date

instance (today : ℤ) (bill : Bill) : Decidable (bill.HasDiscount today) :=
  inferInstanceAs (Decidable (_ ∧ _))

/-- The discount size, if there is one, is this percentage. -/
structure HasPercentage (size : ℤ) (bill : Bill) : Prop where
  nonneg : 0 ≤ size
  le_hundred : size ≤ 100
  text : ∀ text, bill.discountSize = some text → pyInt text = some size

/-- What is left of an amount by the discount of a bill. -/
def discounted (today size : ℤ) (bill : Bill) (amount : ℤ) : ℤ :=
  if bill.HasDiscount today then (amount * (100 - size) + 99) / 100 else amount

variable {today size : ℤ} {bill : Bill}

theorem discounted_of_hasDiscount (h : bill.HasDiscount today) (amount : ℤ) :
    bill.discounted today size amount = (amount * (100 - size) + 99) / 100 := if_pos h

theorem discounted_of_not (h : ¬ bill.HasDiscount today) (amount : ℤ) :
    bill.discounted today size amount = amount := if_neg h

/-- `discounted_amount` does not fail on a percentage. -/
theorem discountedAmount_eq (hsize : bill.HasPercentage size) (amount : ℤ) :
    { bill with amountToPay := amount }.discountedAmount today =
      some (bill.discounted today size amount) := by
  rw [discountedAmount]
  rcases hdiscount : bill.discountSize with _ | text
  · have hnone : ¬ bill.HasDiscount today := fun h ↦ h.1 hdiscount
    rw [discounted_of_not hnone]
  rcases hdate : bill.discountDate with _ | date
  · have hnone : ¬ bill.HasDiscount today := by
      rintro ⟨-, date, hsome, -⟩
      exact nomatch hdate.symm.trans hsome
    rw [discounted_of_not hnone]
  have htext : bill.discountSize ≠ none := by
    rw [hdiscount]
    exact Option.some_ne_none text
  dsimp only
  by_cases hpassed : date < today
  · have hnone : ¬ bill.HasDiscount today := by
      rintro ⟨-, other, hsome, hle⟩
      obtain rfl := Option.some.inj (hdate.symm.trans hsome)
      exact absurd hpassed hle.not_gt
    rw [if_pos hpassed, discounted_of_not hnone]
  · rw [if_neg hpassed, hsize.text text hdiscount,
      discounted_of_hasDiscount ⟨htext, date, hdate, not_lt.mp hpassed⟩]
    rfl

/-- The discounted amount is rounded up. -/
theorem isLeast_discounted (h : bill.HasDiscount today) (amount : ℤ) :
    IsLeast {n : ℤ | (amount * (100 - size) / 100 : ℚ) ≤ n}
      (bill.discounted today size amount) := by
  have hmem (n : ℤ) :
      (amount * (100 - size) / 100 : ℚ) ≤ n ↔ amount * (100 - size) ≤ n * 100 := by
    rw [div_le_iff₀ (by norm_num)]
    exact_mod_cast Iff.rfl
  rw [discounted_of_hasDiscount h]
  generalize amount * (100 - size) = product at *
  constructor
  · rw [Set.mem_ofPred_eq, hmem]
    omega
  · intro n hn
    rw [Set.mem_ofPred_eq, hmem] at hn
    omega

theorem discounted_mono (hsize : size ≤ 100) : Monotone (bill.discounted today size) := by
  intro a b hab
  by_cases h : bill.HasDiscount today
  · have hproduct : a * (100 - size) ≤ b * (100 - size) :=
      mul_le_mul_of_nonneg_right hab (by omega)
    rw [discounted_of_hasDiscount h, discounted_of_hasDiscount h]
    omega
  · rwa [discounted_of_not h, discounted_of_not h]

theorem discounted_mem (today : ℤ) (hsize : bill.HasPercentage size) {amount : ℤ}
    (hamount : 0 ≤ amount) :
    0 ≤ bill.discounted today size amount ∧ bill.discounted today size amount ≤ amount := by
  by_cases h : bill.HasDiscount today
  · have hlower : 0 ≤ amount * (100 - size) := mul_nonneg hamount (by linarith [hsize.le_hundred])
    have hupper : amount * (100 - size) ≤ amount * 100 :=
      mul_le_mul_of_nonneg_left (by linarith [hsize.nonneg]) hamount
    rw [discounted_of_hasDiscount h]
    omega
  · rw [discounted_of_not h]
    exact ⟨hamount, le_rfl⟩

end Bill

/-! ### The fee -/

variable {env : Environment}

variable (env) in
/-- The fee in minor units before it is rounded. -/
def exactFee (discountedAmount : ℤ) : ℚ :=
  max ((discountedAmount : ℚ) / 100 * env.billCommissionMultiplier + env.billCommissionAddition)
    env.billCommissionMin * 100

theorem exactFee_nonneg (env : Environment) (discountedAmount : ℤ) :
    0 ≤ exactFee env discountedAmount :=
  mul_nonneg (env.min_nonneg.trans (le_max_right _ _)) (by norm_num)

theorem exactFee_mono (env : Environment) : Monotone (exactFee env) := by
  intro a b hab
  have hcast : (a : ℚ) / 100 ≤ (b : ℚ) / 100 := by
    have hab' : (a : ℚ) ≤ b := by exact_mod_cast hab
    linarith
  have hmul := mul_le_mul_of_nonneg_right hcast env.multiplier_nonneg
  exact mul_le_mul_of_nonneg_right (max_le_max_right _ (by linarith)) (by norm_num)

theorem Bill.feeAmount_eq_floor (discountedAmount : ℤ) :
    Bill.feeAmount env discountedAmount = ⌊exactFee env discountedAmount + 1 / 2⌋ :=
  if_pos (exactFee_nonneg env discountedAmount)

theorem Bill.feeAmount_mono : Monotone (Bill.feeAmount env) := by
  intro a b hab
  rw [feeAmount_eq_floor, feeAmount_eq_floor]
  have hfee := exactFee_mono env hab
  exact Int.floor_le_floor (by linarith)

/-- The settings of the commission as they are read, with so few digits that no operation before
`quantize` rounds. -/
structure Commission (env : Environment) where
  multiplier : Number
  addition : Number
  minimum : Number
  value_multiplier : multiplier.value = env.billCommissionMultiplier
  value_addition : addition.value = env.billCommissionAddition
  value_minimum : minimum.value = env.billCommissionMin
  multiplier_exp : -8 ≤ multiplier.exp
  addition_exp : -10 ≤ addition.exp
  addition_le : |env.billCommissionAddition| ≤ 10 ^ 17
  minimum_le : env.billCommissionMin ≤ 10 ^ 17

namespace Commission

/-- The settings of the repository: `'0.01'`, `'0'` and `'25'`. -/
def ofSettings (md5Hex : String → String) : Commission (Environment.ofSettings md5Hex) where
  multiplier := ⟨false, 1, -2⟩
  addition := ⟨false, 0, 0⟩
  minimum := ⟨false, 25, 0⟩
  value_multiplier := by
    show (1 : ℕ) * (10 : ℚ) ^ (-2 : ℤ) = 1 / 100
    norm_num
  value_addition := by
    show (0 : ℕ) * (10 : ℚ) ^ (0 : ℤ) = 0
    norm_num
  value_minimum := by
    show (25 : ℕ) * (10 : ℚ) ^ (0 : ℤ) = 25
    norm_num
  multiplier_exp := by decide
  addition_exp := by decide
  addition_le := by
    show |(0 : ℚ)| ≤ 10 ^ 17
    norm_num
  minimum_le := by
    show (25 : ℚ) ≤ 10 ^ 17
    norm_num

/-- `fee_amount`, from the discounted amount; `none` is a trapped signal. -/
def feeAmount (commission : Commission env) (discountedAmount : ℤ) : Option ℤ := do
  let decimalAmount ← (Number.ofInt discountedAmount).div defaultContext (Number.ofInt 100)
  let percentage ← decimalAmount.mul defaultContext commission.multiplier
  let withAddition ← percentage.add defaultContext commission.addition
  let decimalFee := withAddition.greater commission.minimum
  let quantized ← decimalFee.quantize defaultContext (-2)
  let fee ← quantized.mul defaultContext (Number.ofInt 100)
  return fee.toInt

/-- A number below a million million million with ten places is one of the context. -/
theorem fits_of_lt {v : ℚ} (h : HasPlaces (-10) v) (hlt : |v| < 10 ^ 18) :
    defaultContext.Fits v ∧ ¬ defaultContext.Overflows v := by
  refine h.fits (by decide) (by decide) ?_
  have hprec : (defaultContext.prec : ℤ) + -10 = (18 : ℕ) := by decide
  rwa [hprec, zpow_natCast]

variable {commission : Commission env} {discountedAmount : ℤ}

theorem hasPlaces_roubles (discountedAmount : ℤ) :
    HasPlaces (-2) ((discountedAmount : ℚ) / 100) :=
  ⟨discountedAmount, by rw [div_eq_mul_inv]; norm_num⟩

theorem exists_decimalAmount (hnonneg : 0 ≤ discountedAmount) (hlt : discountedAmount < 2 ^ 63) :
    ∃ decimalAmount, (Number.ofInt discountedAmount).div defaultContext (Number.ofInt 100) =
        some decimalAmount ∧ decimalAmount.value = (discountedAmount : ℚ) / 100 := by
  have hnonneg' : (0 : ℚ) ≤ discountedAmount := by exact_mod_cast hnonneg
  have hlt' : (discountedAmount : ℚ) < 2 ^ 63 := by exact_mod_cast hlt
  have hdiv : (discountedAmount : ℚ) / 100 =
      (Number.ofInt discountedAmount).value / (Number.ofInt 100).value := by
    rw [Number.value_ofInt, Number.value_ofInt, Int.cast_ofNat]
  have hbound : |(discountedAmount : ℚ) / 100| < 10 ^ 18 := by
    rw [abs_of_nonneg (by positivity)]
    linarith
  obtain ⟨hfits, hover⟩ := fits_of_lt ((hasPlaces_roubles discountedAmount).mono (by decide)) hbound
  rw [hdiv] at hfits hover ⊢
  exact Number.div_of_fits (by decide) hfits hover

theorem hasPlaces_percentage (commission : Commission env) (discountedAmount : ℤ) :
    HasPlaces (-10) ((discountedAmount : ℚ) / 100 * env.billCommissionMultiplier) := by
  rw [← commission.value_multiplier]
  exact (hasPlaces_roubles discountedAmount).mul
    (commission.multiplier.hasPlaces.mono commission.multiplier_exp)

theorem percentage_mem (env : Environment) (hnonneg : 0 ≤ discountedAmount)
    (hlt : discountedAmount < 2 ^ 63) :
    0 ≤ (discountedAmount : ℚ) / 100 * env.billCommissionMultiplier ∧
      (discountedAmount : ℚ) / 100 * env.billCommissionMultiplier < 10 ^ 17 := by
  have hroubles : (0 : ℚ) ≤ discountedAmount / 100 := by
    have hnonneg' : (0 : ℚ) ≤ discountedAmount := by exact_mod_cast hnonneg
    positivity
  have hlt' : (discountedAmount : ℚ) < 2 ^ 63 := by exact_mod_cast hlt
  have hle := mul_le_mul_of_nonneg_left env.multiplier_lt_one.le hroubles
  exact ⟨mul_nonneg hroubles env.multiplier_nonneg, by linarith⟩

theorem exists_percentage (commission : Commission env) (hnonneg : 0 ≤ discountedAmount)
    (hlt : discountedAmount < 2 ^ 63) {decimalAmount : Number}
    (hvalue : decimalAmount.value = (discountedAmount : ℚ) / 100) :
    ∃ percentage, decimalAmount.mul defaultContext commission.multiplier = some percentage ∧
      percentage.value = (discountedAmount : ℚ) / 100 * env.billCommissionMultiplier := by
  obtain ⟨hlower, hupper⟩ := percentage_mem env hnonneg hlt
  have hbound : |(discountedAmount : ℚ) / 100 * env.billCommissionMultiplier| < 10 ^ 18 := by
    rw [abs_of_nonneg hlower]
    linarith
  obtain ⟨hfits, hover⟩ := fits_of_lt (hasPlaces_percentage commission discountedAmount) hbound
  rw [← hvalue, ← commission.value_multiplier] at hfits hover ⊢
  exact Number.mul_of_fits hfits hover

theorem exists_withAddition (commission : Commission env) (hnonneg : 0 ≤ discountedAmount)
    (hlt : discountedAmount < 2 ^ 63) {percentage : Number}
    (hvalue : percentage.value = (discountedAmount : ℚ) / 100 * env.billCommissionMultiplier) :
    ∃ withAddition, percentage.add defaultContext commission.addition = some withAddition ∧
      withAddition.value = (discountedAmount : ℚ) / 100 * env.billCommissionMultiplier +
        env.billCommissionAddition := by
  obtain ⟨hlower, hupper⟩ := percentage_mem env hnonneg hlt
  obtain ⟨haddition, haddition'⟩ := abs_le.mp commission.addition_le
  have hplaces := (hasPlaces_percentage commission discountedAmount).add
    (commission.addition.hasPlaces.mono commission.addition_exp)
  rw [commission.value_addition] at hplaces
  have hbound : |(discountedAmount : ℚ) / 100 * env.billCommissionMultiplier +
      env.billCommissionAddition| < 10 ^ 18 := by
    rw [abs_lt]
    constructor <;> linarith
  obtain ⟨hfits, hover⟩ := fits_of_lt hplaces hbound
  rw [← hvalue, ← commission.value_addition] at hfits hover ⊢
  exact Number.add_of_fits hfits hover

theorem exactFee_lt (commission : Commission env) (hnonneg : 0 ≤ discountedAmount)
    (hlt : discountedAmount < 2 ^ 63) : exactFee env discountedAmount < 10 ^ 20 := by
  obtain ⟨hlower, hupper⟩ := percentage_mem env hnonneg hlt
  obtain ⟨-, haddition⟩ := abs_le.mp commission.addition_le
  have hminimum := commission.minimum_le
  have hmax : max ((discountedAmount : ℚ) / 100 * env.billCommissionMultiplier +
      env.billCommissionAddition) env.billCommissionMin < 10 ^ 18 :=
    max_lt (by linarith) (by linarith)
  rw [exactFee]
  linarith

/-- The fee is rounded half-up to the second place of roubles. -/
theorem exists_quantized (commission : Commission env) (hnonneg : 0 ≤ discountedAmount)
    (hlt : discountedAmount < 2 ^ 63) {withAddition : Number} (hvalue : withAddition.value =
      (discountedAmount : ℚ) / 100 * env.billCommissionMultiplier + env.billCommissionAddition) :
    ∃ quantized, (withAddition.greater commission.minimum).quantize defaultContext (-2) =
        some quantized ∧
      quantized.value = ⌊exactFee env discountedAmount + 1 / 2⌋₊ * 10 ^ (-2 : ℤ) := by
  have hfee : (withAddition.greater commission.minimum).value =
      exactFee env discountedAmount / 100 := by
    rw [Number.value_greater, hvalue, commission.value_minimum, exactFee]
    ring
  have hscale : (withAddition.greater commission.minimum).value / 10 ^ (-2 : ℤ) =
      exactFee env discountedAmount := by
    rw [hfee]
    norm_num
    ring
  have hpos := exactFee_nonneg env discountedAmount
  have hupper := exactFee_lt commission hnonneg hlt
  have hdigits : ⌊(withAddition.greater commission.minimum).value / 10 ^ (-2 : ℤ) + 1 / 2⌋₊ <
      10 ^ defaultContext.prec := by
    rw [hscale, Nat.floor_lt (by positivity)]
    show exactFee env discountedAmount + 1 / 2 < ((10 ^ 28 : ℕ) : ℚ)
    push_cast
    linarith
  rw [← hscale]
  exact Number.quantize_of_nonneg (by rw [hfee]; positivity) hdigits (by decide) (by decide)
    (by decide)

theorem exists_fee {quantized : Number} {n : ℕ} (hn : n < 10 ^ 28)
    (hvalue : quantized.value = n * 10 ^ (-2 : ℤ)) :
    ∃ fee, quantized.mul defaultContext (Number.ofInt 100) = some fee ∧ fee.toInt = n := by
  have hproduct : quantized.value * (Number.ofInt 100).value = n := by
    rw [hvalue, Number.value_ofInt]
    norm_num
    ring
  have hplaces : HasPlaces 0 (quantized.value * (Number.ofInt 100).value) :=
    ⟨n, by rw [hproduct, zpow_zero, mul_one, Int.cast_natCast]⟩
  have hbound : |quantized.value * (Number.ofInt 100).value| <
      10 ^ ((defaultContext.prec : ℤ) + 0) := by
    rw [hproduct, Nat.abs_cast, add_zero, zpow_natCast]
    exact_mod_cast hn
  obtain ⟨hfits, hover⟩ := hplaces.fits (by decide : defaultContext.etiny ≤ 0) (by decide) hbound
  obtain ⟨fee, hfee, hresult⟩ := Number.mul_of_fits hfits hover
  rw [hproduct] at hresult
  exact ⟨fee, hfee, Number.toInt_eq_of_value (by rw [hresult, Int.cast_natCast])⟩

/-- On amounts of 64 bits the fee is the formula, rounded half-up. -/
theorem feeAmount_eq (commission : Commission env) (hnonneg : 0 ≤ discountedAmount)
    (hlt : discountedAmount < 2 ^ 63) :
    commission.feeAmount discountedAmount = some (Bill.feeAmount env discountedAmount) := by
  obtain ⟨decimalAmount, hdecimalAmount, hvalue⟩ := exists_decimalAmount hnonneg hlt
  obtain ⟨percentage, hpercentage, hvalue⟩ :=
    exists_percentage commission hnonneg hlt hvalue
  obtain ⟨withAddition, hwithAddition, hvalue⟩ :=
    exists_withAddition commission hnonneg hlt hvalue
  obtain ⟨quantized, hquantized, hvalue⟩ :=
    exists_quantized commission hnonneg hlt hvalue
  have hpos : 0 ≤ exactFee env discountedAmount + 1 / 2 := by
    linarith [exactFee_nonneg env discountedAmount]
  have hdigits : ⌊exactFee env discountedAmount + 1 / 2⌋₊ < 10 ^ 28 := by
    rw [Nat.floor_lt hpos]
    push_cast
    linarith [exactFee_lt commission hnonneg hlt]
  obtain ⟨fee, hfee, hint⟩ := exists_fee hdigits hvalue
  rw [Bill.feeAmount_eq_floor, ← Int.natCast_floor_eq_floor hpos, ← hint]
  simp only [feeAmount, Option.bind_eq_bind, hdecimalAmount, hpercentage, hwithAddition, hquantized,
    hfee, Option.bind_some]
  rfl

example : (ofSettings id).feeAmount 1234567 = some 12346 := by decide +kernel

end Commission

/-! ### The amount of an order -/

/-- The bills of an order, as they are stored. -/
def billsOfOrder (db : Database) (orderId : UUID) : List Bill :=
  (db.billOrders.rows.filter fun r ↦ r.orderId = orderId).filterMap fun r ↦ db.bills.get? r.billId

/-- Each bill with its discounted amount and the fee for it. -/
def Costs (env : Environment) (today : ℤ) : List Bill → List (ℤ × ℤ) → Prop :=
  List.Forall₂ fun bill cost ↦
    bill.discountedAmount today = some cost.1 ∧ cost.2 = Bill.feeAmount env cost.1

variable {today : ℤ}

theorem costs_of_mapM {bills : List Bill} {totals : List ℤ}
    (h : bills.mapM (Bill.total env today) = some totals) :
    ∃ costs, Costs env today bills costs ∧ totals = costs.map fun cost ↦ cost.1 + cost.2 := by
  induction bills generalizing totals with
  | nil =>
    obtain rfl := Option.some.inj h
    exact ⟨[], .nil, rfl⟩
  | cons bill bills ih =>
    rw [List.mapM_cons, Option.bind_eq_bind, Option.bind_eq_some_iff] at h
    obtain ⟨total, htotal, hrest⟩ := h
    rw [Option.bind_eq_bind, Option.bind_eq_some_iff] at hrest
    obtain ⟨rest, hmap, hpure⟩ := hrest
    obtain rfl := Option.some.inj hpure
    obtain ⟨costs, hcosts, rfl⟩ := ih hmap
    obtain ⟨amount, hamount, rfl⟩ := Option.map_eq_some_iff.mp htotal
    exact ⟨(amount, Bill.feeAmount env amount) :: costs, .cons ⟨hamount, rfl⟩ hcosts, rfl⟩

theorem getAmount_ok {bills : List Bill} {amount : ℤ} {db db' : Database}
    (h : getAmount env today bills db = .ok (amount, db')) :
    ∃ costs, Costs env today bills costs ∧ amount = (costs.map fun cost ↦ cost.1 + cost.2).sum := by
  rw [getAmount] at h
  rcases hmap : bills.mapM (Bill.total env today) with _ | totals
  · rw [hmap] at h
    exact (Tx.throw_ne_ok.mp h).elim
  · rw [hmap] at h
    obtain ⟨costs, hcosts, rfl⟩ := costs_of_mapM hmap
    exact ⟨costs, hcosts, (Tx.pure_eq_ok.mp h).1⟩

namespace CreateTransactionAction

variable {action : CreateTransactionAction} {transactionId : UUID}

/-- The request asks for what the bills of the order cost. -/
theorem costs_of_prepare {request : PayRequest} {db db' : Database}
    (h : action.prepare env today transactionId db = .ok (request, db')) :
    ∃ costs, Costs env today (billsOfOrder db action.orderId) costs ∧
      request.amount = (costs.map fun cost ↦ cost.1 + cost.2).sum := by
  simp only [prepare, Tx.bind_eq_ok] at h
  obtain ⟨u, db₁, hlock, bills, db₂, hfind, depType, db₃, hdep, amount, db₄, hamount, hpure⟩ := h
  obtain ⟨rfl, rfl⟩ := Tx.pure_eq_ok.mp hpure
  obtain ⟨rfl, hbills⟩ := findBillsByOrderId_ok hfind
  obtain ⟨-, -, hdb₁⟩ := lockOrder_ok hlock
  have hrows : db₂.billOrders = db.billOrders := by rw [hdb₁]
  have hstored : db₂.bills = db.bills := by rw [hdb₁]
  rw [hrows, hstored] at hbills
  obtain ⟨costs, hcosts, hsum⟩ := getAmount_ok hamount
  rw [hbills] at hcosts
  exact ⟨costs, hcosts, hsum⟩

/-- The transaction has the amount of the request that Kazna accepted. -/
theorem amount_of_handle {pay : PayRequest → Except (Option KaznaAPIErrorCode) PayResponse}
    {transaction : Transaction} {url : Option AcsUrl} {db db' : Database}
    (h : action.handle env today transactionId pay db = .ok ((transaction, url), db')) :
    ∃ request payment db₁, action.prepare env today transactionId db = .ok (request, db₁) ∧
      pay request = .ok payment ∧ transaction.amount = request.amount := by
  rw [handle, Tx.bind_eq_ok] at h
  obtain ⟨request, db₁, hprepare, h⟩ := h
  rcases hpay : pay request with code | payment
  · rw [hpay] at h
    exact (Tx.throw_ne_ok.mp h).elim
  rw [hpay] at h
  simp only [store, Tx.bind_eq_ok, Mapper.create_eq_ok] at h
  obtain ⟨created, db₂, ⟨rfl, -, -⟩, h⟩ := h
  refine ⟨request, payment, db₁, hprepare, hpay, ?_⟩
  rcases htds : payment.tds with _ | tds
  · rw [htds] at h
    obtain ⟨hresult, -⟩ := Tx.pure_eq_ok.mp h
    rw [Prod.mk.injEq] at hresult
    rw [hresult.1]
    rfl
  · rw [htds] at h
    dsimp only at h
    rcases hurl : tds.toUrl with _ | address
    · rw [hurl] at h
      exact (Tx.throw_ne_ok.mp h).elim
    · rw [hurl] at h
      obtain ⟨hresult, -⟩ := Tx.pure_eq_ok.mp h
      rw [Prod.mk.injEq] at hresult
      rw [hresult.1]
      rfl

end CreateTransactionAction

/-! ### Bill arithmetic -/

/-- The discounted amount is rounded up and lies between zero and the amount to pay; the fee is the
percentage with its addition and minimum, rounded half-up; both and their sum are monotone; and a
transaction is of the sum over the bills of the order, which is what Kazna was asked for. -/
theorem bill_amounts (env : Environment) (commission : Commission env) :
    (∀ (today size : ℤ) (bill : Bill), bill.HasPercentage size →
      ∃ discounted : ℤ → ℤ, Monotone discounted ∧
        Monotone (fun amount ↦ Bill.feeAmount env (discounted amount)) ∧
        Monotone (fun amount ↦ discounted amount + Bill.feeAmount env (discounted amount)) ∧
        ∀ amount, 0 ≤ amount →
          { bill with amountToPay := amount }.discountedAmount today = some (discounted amount) ∧
          0 ≤ discounted amount ∧ discounted amount ≤ amount ∧
          (bill.HasDiscount today →
            IsLeast {n : ℤ | (amount * (100 - size) / 100 : ℚ) ≤ n} (discounted amount)) ∧
          (¬ bill.HasDiscount today → discounted amount = amount)) ∧
    (∀ discountedAmount : ℤ, 0 ≤ discountedAmount → discountedAmount < 2 ^ 63 →
      commission.feeAmount discountedAmount = some (Bill.feeAmount env discountedAmount) ∧
        Bill.feeAmount env discountedAmount =
          ⌊max ((discountedAmount : ℚ) / 100 * env.billCommissionMultiplier +
            env.billCommissionAddition) env.billCommissionMin * 100 + 1 / 2⌋) ∧
    ∀ (action : CreateTransactionAction) (today : ℤ) (transactionId : UUID)
      (pay : PayRequest → Except (Option KaznaAPIErrorCode) PayResponse)
      (transaction : Transaction) (url : Option AcsUrl) (db db' : Database),
      action.handle env today transactionId pay db = .ok ((transaction, url), db') →
        ∃ costs, Costs env today (billsOfOrder db action.orderId) costs ∧
          transaction.amount = (costs.map fun cost ↦ cost.1 + cost.2).sum ∧
          ∃ request payment, pay request = .ok payment ∧ request.amount = transaction.amount := by
  refine ⟨fun today size bill hsize ↦ ⟨bill.discounted today size, ?_, ?_, ?_, ?_⟩, ?_, ?_⟩
  · exact Bill.discounted_mono hsize.le_hundred
  · exact Bill.feeAmount_mono.comp (Bill.discounted_mono hsize.le_hundred)
  · exact (Bill.discounted_mono hsize.le_hundred).add
      (Bill.feeAmount_mono.comp (Bill.discounted_mono hsize.le_hundred))
  · intro amount hamount
    obtain ⟨hlower, hupper⟩ := Bill.discounted_mem today hsize hamount
    exact ⟨Bill.discountedAmount_eq hsize amount, hlower, hupper,
      fun h ↦ Bill.isLeast_discounted h amount, fun h ↦ Bill.discounted_of_not h amount⟩
  · intro discountedAmount hnonneg hlt
    exact ⟨commission.feeAmount_eq hnonneg hlt, Bill.feeAmount_eq_floor discountedAmount⟩
  · intro action today transactionId pay transaction url db db' h
    obtain ⟨request, payment, db₁, hprepare, hpay, hamount⟩ :=
      CreateTransactionAction.amount_of_handle h
    obtain ⟨costs, hcosts, hsum⟩ := CreateTransactionAction.costs_of_prepare hprepare
    exact ⟨costs, hcosts, hamount.trans hsum, request, payment, hpay, hamount.symm⟩

/-! ### An order of two bills -/

/-- A bill with half of it discounted until the fifth day. -/
def halvedBill (billId : ℕ) (amountToPay : ℤ) : Bill where
  billId := ⟨billId⟩
  uid := 2
  supplierBillId := Nat.repr billId
  documentId := ⟨10⟩
  status := .new
  amount := amountToPay
  amountToPay
  billDate := 0
  discountSize := some "50"
  discountDate := some 5

def orderDatabase : Database where
  users := ⟨[{ uid := 2 }], by decide⟩
  documents := ⟨[⟨⟨10⟩, 2, .driverLicense, "7700", none⟩], by decide⟩
  bills := ⟨[halvedBill 1 101, halvedBill 2 1000000], by decide⟩
  orders := ⟨[⟨2, .new, ⟨20⟩⟩], by decide⟩
  billOrders := ⟨[⟨⟨1⟩, ⟨20⟩⟩, ⟨⟨2⟩, ⟨20⟩⟩], by decide⟩
  transactions := .empty
  tasks := .empty
  unique := by decide
  references := by decide

def orderPayment : CreateTransactionAction where
  uid := 2
  orderId := ⟨20⟩
  paymentMethod := .yandexPay
  payerFullName := "Payer"
  paymentToken := "token"
  mpi3dsInfo := ⟨"*/*", 24, "::1", "ru", 1080, 1920, "0", "agent", true, 1080, 1920⟩
  returnUrl := "return"

theorem halvedBill_hasPercentage (billId : ℕ) (amountToPay : ℤ) :
    (halvedBill billId amountToPay).HasPercentage 50 where
  nonneg := by decide
  le_hundred := by decide
  text := by
    rintro text htext
    obtain rfl := Option.some.inj htext
    decide

theorem bill_amounts_witness :
    (∃ discounted : ℤ → ℤ, (halvedBill 1 101).discountedAmount 3 = some (discounted 101) ∧
      IsLeast {n : ℤ | (((101 : ℤ) : ℚ) * (100 - (50 : ℤ)) / 100 : ℚ) ≤ n} (discounted 101)) ∧
    (Commission.ofSettings id).feeAmount 500000 =
      some (Bill.feeAmount (Environment.ofSettings id) 500000) ∧
    ∃ transaction costs, Costs (Environment.ofSettings id) 3
        [halvedBill 1 101, halvedBill 2 1000000] costs ∧
      Transaction.amount transaction = (costs.map fun cost ↦ cost.1 + cost.2).sum := by
  obtain ⟨hdiscount, hfee, hcharged⟩ :=
    bill_amounts (Environment.ofSettings id) (Commission.ofSettings id)
  refine ⟨?_, (hfee 500000 (by decide) (by decide)).1, ?_⟩
  · obtain ⟨discounted, -, -, -, hbill⟩ :=
      hdiscount 3 50 (halvedBill 1 101) (halvedBill_hasPercentage 1 101)
    obtain ⟨hamount, -, -, hleast, -⟩ := hbill 101 (by decide)
    exact ⟨discounted, hamount, hleast (by decide)⟩
  · rcases hrun : orderPayment.handle (Environment.ofSettings id) 3 ⟨30⟩
      (fun _ ↦ .ok ⟨77, none⟩) orderDatabase with error | ⟨⟨transaction, url⟩, db'⟩
    · have hok : (orderPayment.handle (Environment.ofSettings id) 3 ⟨30⟩
          (fun _ ↦ .ok ⟨77, none⟩) orderDatabase).isOk = true := by decide +kernel
      rw [hrun] at hok
      exact nomatch hok
    · obtain ⟨costs, hcosts, hamount, -⟩ := hcharged _ _ _ _ _ _ _ _ hrun
      exact ⟨transaction, costs, hcosts, hamount⟩

end YandexPay.BillPayments
