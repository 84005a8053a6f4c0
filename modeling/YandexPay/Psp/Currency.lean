import YandexPay.Library.PyDecimalText

/-!
# Amounts in minor units

`lib/utils/currency.py` over the decimal arithmetic of Python's default context. The precision of a
currency is a parameter. `minor_units_exact_iff` says for which amounts the conversions are exact:
the product with a power of ten is rounded to 28 digits before the test for an integer is made.
-/

set_option autoImplicit false
set_option relaxedAutoImplicit false

namespace YandexPay.Psp

open PyDecimal

/-- The exceptions of a conversion: `InvalidAmountError`, the overflow of the decimal context, and
what an infinity or a signalling NaN raises. -/
inductive AmountError
  | invalidAmount
  | overflow
  | special
  deriving DecidableEq

section

variable (getCurrencyPrecision : Option String → ℕ)

/-- `amount_to_minor_units` for a finite amount. -/
def amountToMinorUnits (amount : Number) (currency : Option String) (minAllowed : Option ℤ) :
    Except AmountError ℤ :=
  let currencyExponent := getCurrencyPrecision currency
  match amount.mul defaultContext (.ofInt (10 ^ currencyExponent)) with
  | none => .error .overflow
  | some normalizedAmount =>
    let integralAmount := normalizedAmount.toIntegralValue
    if normalizedAmount.eq integralAmount then
      let normalized := integralAmount.toInt
      if minAllowed.any fun minimum ↦ normalized < minimum then .error .invalidAmount
      else .ok normalized
    else .error .invalidAmount

/-- `amount_to_minor_units`; a quiet NaN differs from its integral value. -/
def decimalToMinorUnits (amount : Decimal) (currency : Option String) (minAllowed : Option ℤ) :
    Except AmountError ℤ :=
  match amount with
  | .finite number => amountToMinorUnits getCurrencyPrecision number currency minAllowed
  | .infinity _ => .error .special
  | .nan _ signals _ => .error (if signals then .special else .invalidAmount)

/-- `amount_from_minor_units`; `none` is the overflow. -/
def amountFromMinorUnits (minorUnits : ℤ) (currency : Option String) : Option Number :=
  (Number.ofInt minorUnits).div defaultContext (.ofInt (10 ^ getCurrencyPrecision currency))

/-- The exact amount in minor units. -/
def minorUnits (amount : Number) (currency : Option String) : ℚ :=
  amount.value * 10 ^ getCurrencyPrecision currency

/-- The amount is a whole number of minor units, at least the minimum if there is one. -/
def IsMinorUnits (amount : Number) (currency : Option String) (minAllowed : Option ℤ) (n : ℤ) :
    Prop :=
  minorUnits getCurrencyPrecision amount currency = n ∧ ∀ minimum ∈ minAllowed, minimum ≤ n

variable {getCurrencyPrecision} {amount : Number} {currency : Option String}
  {minAllowed : Option ℤ} {n : ℤ}

theorem value_power (n : ℕ) : (Number.ofInt (10 ^ n)).value = 10 ^ n := by
  rw [Number.value_ofInt]
  push_cast
  rfl

theorem power_int_ne_zero (n : ℕ) : (Number.ofInt (10 ^ n)).int ≠ 0 := by
  rw [Number.ofInt, Int.natAbs_pow]
  positivity

theorem amountToMinorUnits_eq_overflow_iff :
    amountToMinorUnits getCurrencyPrecision amount currency minAllowed = .error .overflow ↔
      defaultContext.Overflows (minorUnits getCurrencyPrecision amount currency) := by
  rw [minorUnits, ← value_power, ← Number.mul_eq_none_iff, amountToMinorUnits]
  dsimp only
  split
  · exact iff_of_true rfl (by assumption)
  · rename_i normalized hnormalized
    rw [hnormalized]
    split_ifs <;> exact iff_of_false (by simp) (by simp)

theorem amountToMinorUnits_ne_special :
    amountToMinorUnits getCurrencyPrecision amount currency minAllowed ≠ .error .special := by
  rw [amountToMinorUnits]
  dsimp only
  split
  · simp
  · split_ifs <;> simp

/-- The result is the rounded product when this is an integer, and no less than the minimum. -/
theorem amountToMinorUnits_eq_ok_iff :
    amountToMinorUnits getCurrencyPrecision amount currency minAllowed = .ok n ↔
      ∃ r, amount.mul defaultContext (.ofInt (10 ^ getCurrencyPrecision currency)) = some r ∧
        r.value = n ∧ ∀ minimum ∈ minAllowed, minimum ≤ n := by
  rw [amountToMinorUnits]
  dsimp only
  split
  · rename_i hnone
    rw [hnone]
    exact iff_of_false (by simp) (by simp)
  · rename_i r hr
    have hint := Number.toIntegralValue_exp r
    have hiff : (∃ r', amount.mul defaultContext (.ofInt (10 ^ getCurrencyPrecision currency)) =
        some r' ∧ r'.value = n ∧ ∀ minimum ∈ minAllowed, minimum ≤ n) ↔
        r.value = n ∧ ∀ minimum ∈ minAllowed, minimum ≤ n := by
      rw [hr]
      simp
    rw [hiff]
    by_cases hinteger : r.eq r.toIntegralValue
    · rw [if_pos hinteger]
      have hvalue := (Number.eq_iff.mp hinteger).trans (Number.value_toInt hint)
      rw [hvalue, Int.cast_inj]
      by_cases hmin : minAllowed.any fun minimum ↦ r.toIntegralValue.toInt < minimum
      · rw [if_pos hmin]
        refine iff_of_false (by simp) ?_
        rintro ⟨rfl, hle⟩
        obtain ⟨minimum, hmem, hlt⟩ := (Option.any_eq_true _ _).mp hmin
        exact absurd (hle minimum hmem) (not_le.mpr (of_decide_eq_true hlt))
      · rw [if_neg hmin, Except.ok.injEq]
        refine ⟨fun heq ↦ ⟨heq, fun minimum hmem ↦ ?_⟩, And.left⟩
        rw [← heq]
        by_contra hlt
        exact hmin ((Option.any_eq_true _ _).mpr ⟨minimum, hmem, decide_eq_true (not_le.mp hlt)⟩)
    · rw [if_neg hinteger]
      exact iff_of_false (by simp) fun h ↦
        hinteger (Number.eq_toIntegralValue_iff.mpr ⟨n, h.1⟩)

variable (getCurrencyPrecision amount currency minAllowed n)

/-- The conversion to minor units gives the exact number of them, and the exception when there is
none. -/
def ConvertsExactly : Prop :=
  (∀ n, amountToMinorUnits getCurrencyPrecision amount currency minAllowed = .ok n ↔
    IsMinorUnits getCurrencyPrecision amount currency minAllowed n) ∧
  (amountToMinorUnits getCurrencyPrecision amount currency minAllowed = .error .invalidAmount ↔
    ¬ ∃ n, IsMinorUnits getCurrencyPrecision amount currency minAllowed n)

/-- An accepted amount is got back from its minor units. -/
def RestoresAmount : Prop :=
  ∀ n, amountToMinorUnits getCurrencyPrecision amount currency none = .ok n →
    ∃ d, amountFromMinorUnits getCurrencyPrecision n currency = some d ∧ d.value = amount.value

/-- A number of minor units is got back from its amount. -/
def RestoresMinorUnits : Prop :=
  ∃ d, amountFromMinorUnits getCurrencyPrecision n currency = some d ∧
    amountToMinorUnits getCurrencyPrecision d currency none = .ok n

/-- Every integer is further than half a unit of the last digit from the number, so that the number
is not rounded to an integer. -/
def FarFromIntegers (x : ℚ) : Prop := ∀ z : ℤ, defaultContext.unit x / 2 < |x - z|

variable {getCurrencyPrecision amount currency minAllowed n}

theorem farFromIntegers_iff {x w : ℚ} (h : defaultContext.Rounds x w) :
    FarFromIntegers x ↔ ¬ ∃ n : ℤ, w = n := by
  rw [h.isInt_iff, not_exists]
  exact forall_congr' fun z ↦ not_le.symm

/-- Without an overflow the product is some rounding of the exact number of minor units. -/
theorem exists_mul_of_not_overflows
    (hover : ¬ defaultContext.Overflows (minorUnits getCurrencyPrecision amount currency)) :
    ∃ r, amount.mul defaultContext (.ofInt (10 ^ getCurrencyPrecision currency)) = some r ∧
      defaultContext.Rounds (minorUnits getCurrencyPrecision amount currency) r.value := by
  rw [minorUnits, ← value_power, ← Number.mul_eq_none_iff] at hover
  obtain ⟨r, hr⟩ := Option.ne_none_iff_exists'.mp hover
  refine ⟨r, hr, ?_⟩
  rw [minorUnits, ← value_power]
  exact (Number.of_mul_eq_some hr).1

/-- Without an overflow and without rounding the conversion is exact; so it is for an amount that is
not rounded to an integer. -/
theorem convertsExactly_of_not_overflows
    (hover : ¬ defaultContext.Overflows (minorUnits getCurrencyPrecision amount currency))
    (h : defaultContext.Fits (minorUnits getCurrencyPrecision amount currency) ∨
      FarFromIntegers (minorUnits getCurrencyPrecision amount currency)) :
    ConvertsExactly getCurrencyPrecision amount currency minAllowed := by
  obtain ⟨r, hr, hrounds⟩ := exists_mul_of_not_overflows hover
  have hok (n : ℤ) : amountToMinorUnits getCurrencyPrecision amount currency minAllowed = .ok n ↔
      IsMinorUnits getCurrencyPrecision amount currency minAllowed n := by
    have hinteger : r.value = n ↔ minorUnits getCurrencyPrecision amount currency = n := by
      rcases h with hfits | hfar
      · rw [hrounds.eq_of_fits hfits]
      · refine iff_of_false (fun heq ↦ (farFromIntegers_iff hrounds).mp hfar ⟨n, heq⟩) fun heq ↦ ?_
        have hdist := hfar n
        rw [heq, sub_self, abs_zero] at hdist
        exact absurd hdist (half_pos (defaultContext.unit_pos _)).not_gt
    rw [amountToMinorUnits_eq_ok_iff, hr, IsMinorUnits, ← hinteger]
    simp
  refine ⟨hok, ?_⟩
  simp only [← hok]
  have hnot : amountToMinorUnits getCurrencyPrecision amount currency minAllowed ≠
      .error .overflow := mt amountToMinorUnits_eq_overflow_iff.mp hover
  have hspecial : amountToMinorUnits getCurrencyPrecision amount currency minAllowed ≠
      .error .special := amountToMinorUnits_ne_special
  generalize amountToMinorUnits getCurrencyPrecision amount currency minAllowed = result
    at hnot hspecial
  rcases result with error | n
  · cases error with
    | invalidAmount => exact iff_of_true rfl (by simp)
    | overflow => exact absurd rfl hnot
    | special => exact absurd rfl hspecial
  · exact iff_of_false (by simp) (by simp)

/-- An accepted amount is exact when the product was not rounded; it raises when there is an
overflow or the rounding is not an integer. -/
theorem minorUnits_eq_of_ok_iff :
    (∀ n, amountToMinorUnits getCurrencyPrecision amount currency none = .ok n →
      minorUnits getCurrencyPrecision amount currency = n) ↔
      defaultContext.Overflows (minorUnits getCurrencyPrecision amount currency) ∨
        defaultContext.Fits (minorUnits getCurrencyPrecision amount currency) ∨
        FarFromIntegers (minorUnits getCurrencyPrecision amount currency) := by
  by_cases hover : defaultContext.Overflows (minorUnits getCurrencyPrecision amount currency)
  · refine iff_of_true (fun n hok ↦ ?_) (.inl hover)
    rw [amountToMinorUnits_eq_overflow_iff.mpr hover] at hok
    exact nomatch hok
  · constructor
    · intro hexact
      obtain ⟨r, hr, hrounds⟩ := exists_mul_of_not_overflows hover
      by_cases hinteger : ∃ n : ℤ, r.value = n
      · obtain ⟨n, hn⟩ := hinteger
        have hminor := hexact n (amountToMinorUnits_eq_ok_iff.mpr
          ⟨r, hr, hn, fun minimum hmem ↦ nomatch hmem⟩)
        rw [hminor, ← hn]
        exact .inr (.inl (Number.of_mul_eq_some hr).2)
      · exact .inr (.inr ((farFromIntegers_iff hrounds).mpr hinteger))
    · intro h n hok
      exact (((convertsExactly_of_not_overflows hover (h.resolve_left hover)).1 n).mp hok).1

/-- Dividing by a power of ten gives no overflow that was not there before. -/
theorem not_overflows_div_pow {x : ℚ} (hover : ¬ defaultContext.Overflows x) (n : ℕ) :
    ¬ defaultContext.Overflows (x / 10 ^ n) := by
  refine fun h ↦ hover (h.trans ?_)
  rw [abs_div, abs_of_pos (by positivity : (0 : ℚ) < 10 ^ n)]
  exact div_le_self (abs_nonneg x) (one_le_pow₀ (by norm_num))

theorem amountFromMinorUnits_of_fits
    (hfits : defaultContext.Fits (n / 10 ^ getCurrencyPrecision currency))
    (hover : ¬ defaultContext.Overflows n) :
    ∃ d, amountFromMinorUnits getCurrencyPrecision n currency = some d ∧
      d.value = n / 10 ^ getCurrencyPrecision currency := by
  have hdiv : (n : ℚ) / 10 ^ getCurrencyPrecision currency =
      (Number.ofInt n).value / (Number.ofInt (10 ^ getCurrencyPrecision currency)).value := by
    rw [Number.value_ofInt, value_power]
  have hover' := not_overflows_div_pow hover (getCurrencyPrecision currency)
  rw [hdiv] at hfits hover' ⊢
  exact Number.div_of_fits (power_int_ne_zero _) hfits hover'

theorem minorUnits_eq_iff {d : Number} :
    minorUnits getCurrencyPrecision d currency = n ↔
      d.value = n / 10 ^ getCurrencyPrecision currency :=
  (eq_div_iff (by positivity)).symm

/-- Minor units are got back when their amount has no more digits than the context keeps. -/
theorem restoresMinorUnits_iff :
    RestoresMinorUnits getCurrencyPrecision currency n ↔
      ¬ defaultContext.Overflows n ∧
        defaultContext.Fits (n / 10 ^ getCurrencyPrecision currency) := by
  constructor
  · rintro ⟨d, hd, hok⟩
    have hfits : defaultContext.Fits d.value := Number.fits_of_div hd
    obtain ⟨r, hr, hvalue, -⟩ := amountToMinorUnits_eq_ok_iff.mp hok
    have hover : ¬ defaultContext.Overflows (minorUnits getCurrencyPrecision d currency) := by
      intro hoverflow
      have herror : amountToMinorUnits getCurrencyPrecision d currency none = .error .overflow :=
        amountToMinorUnits_eq_overflow_iff.mpr hoverflow
      rw [hok] at herror
      exact nomatch herror
    obtain ⟨r', hr', hrounds⟩ := exists_mul_of_not_overflows hover
    obtain rfl := Option.some.inj (hr.symm.trans hr')
    have hminor : minorUnits getCurrencyPrecision d currency = n :=
      (hrounds.eq_of_fits (hfits.shift _)).symm.trans hvalue
    rw [hminor] at hover
    exact ⟨hover, minorUnits_eq_iff.mp hminor ▸ hfits⟩
  · rintro ⟨hover, hfits⟩
    obtain ⟨d, hd, hvalue⟩ := amountFromMinorUnits_of_fits hfits hover
    have hminor := minorUnits_eq_iff.mpr hvalue
    refine ⟨d, hd, ?_⟩
    refine ((convertsExactly_of_not_overflows (hminor ▸ hover) (.inl ?_)).1 n).mpr
      ⟨hminor, fun minimum hmem ↦ nomatch hmem⟩
    rw [← hvalue] at hfits
    exact hfits.shift _

/-- The conversion of an amount is exact, for every minimum, when the product with the power of ten
does not overflow and either the amount has no more digits than the context keeps or the product is
not rounded to an integer; the conversion of minor units is undone when their amount has no more
digits than the context keeps and they do not overflow. -/
theorem minor_units_exact_iff (getCurrencyPrecision : Option String → ℕ)
    (currency : Option String) :
    (∀ amount, ((∀ minAllowed, ConvertsExactly getCurrencyPrecision amount currency minAllowed) ∧
        RestoresAmount getCurrencyPrecision amount currency) ↔
      ¬ defaultContext.Overflows (minorUnits getCurrencyPrecision amount currency) ∧
        (defaultContext.Fits amount.value ∨
          FarFromIntegers (minorUnits getCurrencyPrecision amount currency))) ∧
    ∀ n : ℤ, RestoresMinorUnits getCurrencyPrecision currency n ↔
      ¬ defaultContext.Overflows n ∧
        defaultContext.Fits (n / 10 ^ getCurrencyPrecision currency) := by
  refine ⟨fun amount ↦ ⟨?_, ?_⟩, fun n ↦ restoresMinorUnits_iff⟩
  · rintro ⟨hconverts, hrestores⟩
    have hover : ¬ defaultContext.Overflows (minorUnits getCurrencyPrecision amount currency) := by
      intro hoverflow
      have herror : amountToMinorUnits getCurrencyPrecision amount currency none =
          .error .overflow := amountToMinorUnits_eq_overflow_iff.mpr hoverflow
      obtain ⟨hok, hinvalid⟩ := hconverts none
      rw [herror] at hok hinvalid
      exact nomatch hinvalid.mpr (not_exists.mpr fun n hn ↦ nomatch (hok n).mpr hn)
    refine ⟨hover, ?_⟩
    obtain ⟨r, hr, hrounds⟩ := exists_mul_of_not_overflows hover
    by_cases hinteger : ∃ n : ℤ, r.value = n
    · -- The amount is accepted and comes back from a division, a number of the context.
      obtain ⟨n, hn⟩ := hinteger
      have hok : amountToMinorUnits getCurrencyPrecision amount currency none = .ok n :=
        amountToMinorUnits_eq_ok_iff.mpr ⟨r, hr, hn, fun minimum hmem ↦ nomatch hmem⟩
      obtain ⟨d, hd, hvalue⟩ := hrestores n hok
      exact .inl (hvalue ▸ Number.fits_of_div hd)
    · exact .inr ((farFromIntegers_iff hrounds).mpr hinteger)
  · rintro ⟨hover, hexact⟩
    have hconverts (minAllowed : Option ℤ) :
        ConvertsExactly getCurrencyPrecision amount currency minAllowed :=
      convertsExactly_of_not_overflows hover (hexact.imp_left fun hfits ↦ hfits.shift _)
    refine ⟨hconverts, fun n hok ↦ ?_⟩
    have hminor := (((hconverts none).1 n).mp hok).1
    have hvalue := minorUnits_eq_iff.mp hminor
    have hfits : defaultContext.Fits amount.value := by
      rcases hexact with hfits | hfar
      · exact hfits
      · have hdist := hfar n
        rw [hminor, sub_self, abs_zero] at hdist
        exact absurd hdist (half_pos (defaultContext.unit_pos _)).not_gt
    rw [hminor] at hover
    rw [hvalue] at hfits ⊢
    exact amountFromMinorUnits_of_fits hfits hover

/-! ### An amount of 31 digits -/

/-- 28 digits before the point, and a thousandth behind it. -/
def longAmount : Number := ⟨false, 1234567890123456789012345678001, -3⟩

/-- The thousandth of a rouble is rounded away and the amount accepted. -/
theorem longAmount_not_convertsExactly :
    amountToMinorUnits (fun _ ↦ 2) longAmount (some "RUB") none =
        .ok 123456789012345678901234567800 ∧
      ¬ ConvertsExactly (fun _ ↦ 2) longAmount (some "RUB") none := by
  have hok : amountToMinorUnits (fun _ ↦ 2) longAmount (some "RUB") none =
      .ok 123456789012345678901234567800 := by
    decide +kernel
  refine ⟨hok, fun h ↦ ?_⟩
  have hminor := ((h.1 _).mp hok).1
  rw [minorUnits, Number.value, Number.magnitude, longAmount] at hminor
  norm_num at hminor

end

end YandexPay.Psp
