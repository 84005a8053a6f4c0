import YandexPay.Library.PyDecimal

/-!
# Sums of Python's decimal numbers, and rounding to a place

Addition, the greater of two numbers, and `quantize`, which rounds half-up to a given exponent. As
for the other operations there is one lemma for each that says what it does to the values.
-/

set_option autoImplicit false
set_option relaxedAutoImplicit false

namespace YandexPay.PyDecimal

/-! ### Rounding half-up -/

/-- `ROUND_HALF_UP` on a coefficient that loses its last `k` digits. -/
def roundHalfUp (c k : ℕ) : ℕ :=
  if 10 ^ k ≤ 2 * (c % 10 ^ k) then c / 10 ^ k + 1 else c / 10 ^ k

theorem roundHalfUp_eq_floor (c k : ℕ) : roundHalfUp c k = ⌊(c : ℚ) / 10 ^ k + 1 / 2⌋₊ := by
  have hpos : 0 < 10 ^ k := by positivity
  have hsplit : (c : ℚ) / 10 ^ k = (c / 10 ^ k : ℕ) + (c % 10 ^ k : ℕ) / (10 ^ k : ℕ) := by
    have hdiv : (c : ℚ) = (10 ^ k : ℕ) * (c / 10 ^ k : ℕ) + (c % 10 ^ k : ℕ) := by
      exact_mod_cast (Nat.div_add_mod c (10 ^ k)).symm
    have hne : ((10 ^ k : ℕ) : ℚ) ≠ 0 := by positivity
    push_cast at hdiv hne ⊢
    field_simp
    linarith
  have hlt : c % 10 ^ k < 10 ^ k := Nat.mod_lt c hpos
  rw [hsplit, roundHalfUp]
  generalize c / 10 ^ k = q at *
  generalize c % 10 ^ k = r at *
  generalize 10 ^ k = p at *
  have hp : (0 : ℚ) < p := by exact_mod_cast hpos
  have hr : (r : ℚ) / p < 1 := (div_lt_one hp).mpr (by exact_mod_cast hlt)
  have hr' : (0 : ℚ) ≤ r / p := by positivity
  symm
  split_ifs with hhalf
  · have hge : 1 / 2 ≤ (r : ℚ) / p := by
      rw [div_le_div_iff₀ two_pos hp]
      exact_mod_cast (by omega : 1 * p ≤ r * 2)
    rw [Nat.floor_eq_iff (by positivity)]
    push_cast
    constructor <;> linarith
  · have hless : (r : ℚ) / p < 1 / 2 := by
      rw [div_lt_div_iff₀ hp two_pos]
      exact_mod_cast (by omega : r * 2 < 1 * p)
    rw [Nat.floor_eq_iff (by positivity)]
    constructor <;> linarith

/-! ### Numbers with few places -/

/-- The number has no digit behind the place of the exponent. -/
def HasPlaces (e : ℤ) (v : ℚ) : Prop := ∃ c : ℤ, v = c * 10 ^ e

namespace HasPlaces

variable {e f : ℤ} {v w : ℚ}

theorem mono (h : HasPlaces e v) (hle : f ≤ e) : HasPlaces f v := by
  obtain ⟨c, rfl⟩ := h
  refine ⟨c * 10 ^ (e - f).toNat, ?_⟩
  have hexp : e = (e - f).toNat + f := by omega
  conv_lhs => rw [hexp, zpow_ten_add, zpow_natCast]
  push_cast
  rw [mul_assoc]

theorem add (hv : HasPlaces e v) (hw : HasPlaces e w) : HasPlaces e (v + w) := by
  obtain ⟨c, rfl⟩ := hv
  obtain ⟨c', rfl⟩ := hw
  exact ⟨c + c', by rw [Int.cast_add, add_mul]⟩

theorem mul (hv : HasPlaces e v) (hw : HasPlaces f w) : HasPlaces (e + f) (v * w) := by
  obtain ⟨c, rfl⟩ := hv
  obtain ⟨c', rfl⟩ := hw
  refine ⟨c * c', ?_⟩
  rw [zpow_ten_add, Int.cast_mul]
  ring

/-- A number of the context with these places: it is not rounded and does not overflow. -/
theorem fits {ctx : Context} (h : HasPlaces e v) (hlow : ctx.etiny ≤ e) (hhigh : e ≤ ctx.etop)
    (hlt : |v| < 10 ^ (ctx.prec + e)) : ctx.Fits v ∧ ¬ ctx.Overflows v := by
  obtain ⟨c, rfl⟩ := h
  rw [abs_mul_zpow_ten, zpow_ten_add, zpow_natCast] at hlt
  have hlt' := lt_of_mul_lt_mul_right hlt (zpow_ten_pos e).le
  have hc : |c| < 10 ^ ctx.prec := by exact_mod_cast hlt'
  refine ⟨⟨c, e, hc, hlow, rfl⟩, ?_⟩
  have hle : |(c : ℚ)| + 1 ≤ 10 ^ ctx.prec := by exact_mod_cast hc
  rw [Context.Overflows, not_le, abs_mul_zpow_ten]
  refine (mul_le_mul_of_nonneg_left (zpow_le_zpow_right₀ (by norm_num) hhigh)
    (abs_nonneg _)).trans_lt ?_
  exact mul_lt_mul_of_pos_right (by linarith) (zpow_ten_pos _)

end HasPlaces

namespace Number

variable {ctx : Context}

theorem hasPlaces (d : Number) : HasPlaces d.exp d.value := ⟨d.signed, d.value_eq_signed⟩

/-! ### Operations -/

/-- `Decimal.__add__`; `none` is the trapped overflow. -/
def add (ctx : Context) (a b : Number) : Option Number :=
  let exp := min a.exp b.exp
  let sum := a.signed * 10 ^ (a.exp - exp).toNat + b.signed * 10 ^ (b.exp - exp).toNat
  fix ctx ⟨decide (sum < 0), sum.natAbs, exp⟩

/-- `a < b`, on coefficients with a common exponent. -/
def lt (a b : Number) : Bool :=
  a.signed * 10 ^ (a.exp - min a.exp b.exp).toNat < b.signed * 10 ^ (b.exp - min a.exp b.exp).toNat

/-- `max(a, b)`, the first of equal numbers. -/
def greater (a b : Number) : Number := if a.lt b then b else a

/-- `_rescale` with `ROUND_HALF_UP` -/
def rescale (d : Number) (exp : ℤ) : Number :=
  if exp ≤ d.exp then ⟨d.sign, d.int * 10 ^ (d.exp - exp).toNat, exp⟩
  else ⟨d.sign, roundHalfUp d.int (exp - d.exp).toNat, exp⟩

/-- `quantize` with `ROUND_HALF_UP`; `none` is a trapped signal, an exponent out of range or a
result with too many digits. -/
def quantize (ctx : Context) (d : Number) (exp : ℤ) : Option Number :=
  if ctx.etiny ≤ exp ∧ exp ≤ ctx.emax ∧ numDigits (d.rescale exp).int ≤ ctx.prec then
    fix ctx (d.rescale exp)
  else none

/-! ### Their values -/

theorem mul_of_fits {a b : Number} (hfits : ctx.Fits (a.value * b.value))
    (hover : ¬ ctx.Overflows (a.value * b.value)) :
    ∃ r, a.mul ctx b = some r ∧ r.value = a.value * b.value := by
  rw [← value_mul] at hfits hover ⊢
  exact fix_of_fits hfits hover

theorem value_of_signed (n exp : ℤ) :
    (⟨decide (n < 0), n.natAbs, exp⟩ : Number).value = n * 10 ^ exp := by
  rw [value_eq_signed, ← value_ofInt n, value_eq_signed (ofInt n), ofInt, zpow_zero, mul_one]
  rfl

theorem add_of_fits {a b : Number} (hfits : ctx.Fits (a.value + b.value))
    (hover : ¬ ctx.Overflows (a.value + b.value)) :
    ∃ r, a.add ctx b = some r ∧ r.value = a.value + b.value := by
  have hsum := value_of_signed (a.signed * 10 ^ (a.exp - min a.exp b.exp).toNat +
    b.signed * 10 ^ (b.exp - min a.exp b.exp).toNat) (min a.exp b.exp)
  rw [Int.cast_add, add_mul, ← a.value_eq_aligned (min_le_left _ _),
    ← b.value_eq_aligned (min_le_right _ _)] at hsum
  rw [← hsum] at hfits hover ⊢
  exact fix_of_fits hfits hover

theorem lt_iff {a b : Number} : a.lt b ↔ a.value < b.value := by
  rw [lt, decide_eq_true_iff, a.value_eq_aligned (min_le_left a.exp b.exp),
    b.value_eq_aligned (min_le_right a.exp b.exp), mul_lt_mul_iff_left₀ (zpow_ten_pos _),
    Int.cast_lt]

theorem value_greater (a b : Number) : (a.greater b).value = max a.value b.value := by
  rw [greater]
  by_cases h : a.value < b.value
  · rw [if_pos (lt_iff.mpr h), max_eq_right h.le]
  · rw [if_neg (mt lt_iff.mp h), max_eq_left (not_lt.mp h)]

theorem int_rescale (d : Number) (exp : ℤ) :
    (d.rescale exp).int = ⌊d.magnitude / 10 ^ exp + 1 / 2⌋₊ := by
  have hquotient : d.magnitude / 10 ^ exp = d.int * 10 ^ (d.exp - exp) := by
    rw [magnitude, mul_div_assoc, ← zpow_sub₀ (by norm_num)]
  rw [hquotient, rescale]
  by_cases hexp : exp ≤ d.exp
  · rw [if_pos hexp]
    have hnat : d.exp - exp = (d.exp - exp).toNat := by omega
    conv_rhs => rw [hnat, zpow_natCast]
    symm
    rw [Nat.floor_eq_iff (by positivity)]
    push_cast
    constructor <;> linarith
  · rw [if_neg hexp, roundHalfUp_eq_floor]
    have hnat : d.exp - exp = -((exp - d.exp).toNat : ℤ) := by omega
    rw [hnat, zpow_neg, zpow_natCast, div_eq_mul_inv]

theorem rescale_sign (d : Number) (exp : ℤ) : (d.rescale exp).sign = d.sign := by
  rw [rescale]
  split_ifs <;> rfl

theorem rescale_exp (d : Number) (exp : ℤ) : (d.rescale exp).exp = exp := by
  rw [rescale]
  split_ifs <;> rfl

/-- A number that is not negative is rounded to a place half-up. -/
theorem quantize_of_nonneg {d : Number} {exp : ℤ} (hnonneg : 0 ≤ d.value)
    (hdigits : ⌊d.value / 10 ^ exp + 1 / 2⌋₊ < 10 ^ ctx.prec) (hlow : ctx.etiny ≤ exp)
    (hhigh : exp ≤ ctx.etop) (htop : ctx.etop ≤ ctx.emax) :
    ∃ r, d.quantize ctx exp = some r ∧
      r.value = ⌊d.value / 10 ^ exp + 1 / 2⌋₊ * 10 ^ exp := by
  have hmagnitude : d.value = d.magnitude := by
    rw [← abs_value, abs_of_nonneg hnonneg]
  have hvalue : (d.rescale exp).value = ⌊d.value / 10 ^ exp + 1 / 2⌋₊ * 10 ^ exp := by
    rw [value, rescale_sign, magnitude, int_rescale, rescale_exp, ← hmagnitude]
    by_cases hneg : d.sign
    · -- Only zero has a minus before it.
      have hzero : d.value = 0 := by
        refine le_antisymm ?_ hnonneg
        rw [value, if_pos hneg]
        exact neg_nonpos.mpr d.magnitude_nonneg
      have hfloor : ⌊(0 : ℚ) / 10 ^ exp + 1 / 2⌋₊ = 0 := by
        rw [zero_div, zero_add, Nat.floor_eq_zero]
        norm_num
      rw [if_pos hneg, hzero, hfloor, Nat.cast_zero, zero_mul, neg_zero]
    · rw [if_neg hneg]
  have hint : numDigits (d.rescale exp).int ≤ ctx.prec := by
    rw [numDigits, Nat.length_toDigits_le_iff (by decide) ctx.prec_pos, int_rescale, ← hmagnitude]
    exact hdigits
  have hlt : |(d.rescale exp).value| < 10 ^ (ctx.prec + exp) := by
    have hint' : (numDigits (d.rescale exp).int : ℤ) ≤ ctx.prec := by exact_mod_cast hint
    rw [abs_value]
    refine (magnitude_lt _).trans_le (zpow_le_zpow_right₀ (by norm_num) ?_)
    rw [rescale_exp]
    omega
  have hplaces := (d.rescale exp).hasPlaces
  rw [rescale_exp] at hplaces
  obtain ⟨hfits, hover⟩ := hplaces.fits hlow hhigh hlt
  rw [quantize, if_pos ⟨hlow, hhigh.trans htop, hint⟩, ← hvalue]
  exact fix_of_fits hfits hover

end Number

end YandexPay.PyDecimal
