import Mathlib.Algebra.Order.Field.Rat
import Mathlib.Algebra.Order.Ring.Abs
import Mathlib.Data.Int.Log
import Mathlib.Data.Rat.Floor
import Mathlib.Tactic.FieldSimp
import Mathlib.Tactic.Linarith
import Mathlib.Tactic.NormNum
import Mathlib.Tactic.Positivity
import Mathlib.Tactic.Ring

/-!
# Decimal numbers of Python

The finite numbers of the module `decimal`: a sign, a coefficient and an exponent. An operation is
exact and its result is then fixed to the context, that is rounded half-even to the precision; an
overflow is trapped. The first part says what this does to a rational: `Rounds` is the rounding,
`Fits` says that there is nothing to round and `Overflows` that there is no result. The second part
is the arithmetic, with one lemma for each operation in these words.
-/

set_option autoImplicit false
set_option relaxedAutoImplicit false

namespace YandexPay.PyDecimal

/-! ### Rounding to a context -/

theorem zpow_ten_pos (e : ℤ) : (0 : ℚ) < 10 ^ e := zpow_pos (by norm_num) e

theorem zpow_ten_add (e f : ℤ) : (10 : ℚ) ^ (e + f) = 10 ^ e * 10 ^ f :=
  zpow_add₀ (by norm_num) e f

theorem zpow_ten_mul_pow {e : ℤ} (he : e ≤ 0) : (10 : ℚ) ^ e * 10 ^ (-e).toNat = 1 := by
  rw [← zpow_natCast, ← zpow_ten_add]
  convert zpow_zero (10 : ℚ)
  omega

theorem abs_mul_zpow_ten (x : ℚ) (e : ℤ) : |x * 10 ^ e| = |x| * 10 ^ e := by
  rw [abs_mul, abs_of_pos (zpow_ten_pos e)]

/-- The precision and the least and greatest exponent of a context; it rounds half-even. -/
structure Context where
  prec : ℕ
  emin : ℤ
  emax : ℤ
  prec_pos : 0 < prec
  emin_le_emax : emin ≤ emax

/-- The default context of the module. -/
def defaultContext : Context := ⟨28, -999999, 999999, by decide, by decide⟩

namespace Context

variable (ctx : Context)

/-- The least exponent of a coefficient with all its digits. -/
def etiny : ℤ := ctx.emin - ctx.prec + 1

def etop : ℤ := ctx.emax - ctx.prec + 1

theorem etiny_le_etop : ctx.etiny ≤ ctx.etop := by
  have := ctx.emin_le_emax
  rw [etiny, etop]
  omega

/-- The exponent of the last digit that the context keeps of a number. -/
def unitExp (v : ℚ) : ℤ := max (Int.log 10 |v| + 1 - ctx.prec) ctx.etiny

def unit (v : ℚ) : ℚ := 10 ^ ctx.unitExp v

theorem unit_pos (v : ℚ) : 0 < ctx.unit v := zpow_ten_pos _

/-- The number is one of the context: not more digits than the precision, and none too small. -/
def Fits (v : ℚ) : Prop := ∃ c e : ℤ, |c| < 10 ^ ctx.prec ∧ ctx.etiny ≤ e ∧ v = c * 10 ^ e

/-- The number is so large that it rounds to a number above the greatest of the context. -/
def Overflows (v : ℚ) : Prop := (10 ^ ctx.prec - 1 / 2) * 10 ^ ctx.etop ≤ |v|

/-- The second number is the first one rounded half-even to the digits that the context keeps. -/
def Rounds (v w : ℚ) : Prop :=
  ∃ z : ℤ, w = z * ctx.unit v ∧ |w - v| ≤ ctx.unit v / 2 ∧ (|w - v| = ctx.unit v / 2 → Even z)

variable {ctx}

theorem abs_lt_zpow_unitExp (v : ℚ) : |v| < 10 ^ (ctx.unitExp v + ctx.prec) := by
  refine (Int.lt_zpow_succ_log_self (by norm_num : 1 < 10) |v|).trans_le ?_
  refine zpow_le_zpow_right₀ (by norm_num) ?_
  have := le_max_left (Int.log 10 |v| + 1 - ctx.prec) ctx.etiny
  rw [unitExp]
  omega

/-- A number fits when it is a multiple of its unit. -/
theorem fits_iff {v : ℚ} : ctx.Fits v ↔ ∃ z : ℤ, v = z * ctx.unit v := by
  constructor
  · rintro ⟨c, e, hc, he, hv⟩
    rcases eq_or_ne v 0 with hzero | hzero
    · exact ⟨0, by rw [hzero, Int.cast_zero, zero_mul]⟩
    have habs : |v| < (10 : ℕ) ^ (ctx.prec + e : ℤ) := by
      have hcast : |(c : ℚ)| < 10 ^ ctx.prec := by exact_mod_cast hc
      rw [hv, abs_mul_zpow_ten, Nat.cast_ofNat, zpow_ten_add, zpow_natCast]
      exact mul_lt_mul_of_pos_right hcast (zpow_ten_pos e)
    have hlog := (Int.lt_zpow_iff_log_lt (by norm_num) (abs_pos.mpr hzero)).mp habs
    have hunit : ctx.unitExp v ≤ e := max_le (by omega) he
    refine ⟨c * 10 ^ (e - ctx.unitExp v).toNat, ?_⟩
    have hexp : e = (e - ctx.unitExp v).toNat + ctx.unitExp v := by omega
    conv_lhs => rw [hv, hexp, zpow_ten_add]
    push_cast
    rw [zpow_natCast, unit, mul_assoc]
  · rintro ⟨z, hz⟩
    refine ⟨z, ctx.unitExp v, ?_, le_max_right _ _, hz⟩
    have habs : |v| < 10 ^ (ctx.unitExp v + ctx.prec) := abs_lt_zpow_unitExp v
    rw [add_comm, zpow_ten_add, zpow_natCast] at habs
    conv_lhs at habs => rw [hz, unit, abs_mul_zpow_ten]
    have hlt := lt_of_mul_lt_mul_right habs (zpow_ten_pos _).le
    exact_mod_cast hlt

theorem Fits.zero : ctx.Fits 0 := fits_iff.mpr ⟨0, by rw [Int.cast_zero, zero_mul]⟩

theorem Fits.neg {v : ℚ} (h : ctx.Fits v) : ctx.Fits (-v) := by
  obtain ⟨c, e, hc, he, rfl⟩ := h
  exact ⟨-c, e, by rwa [abs_neg], he, by rw [Int.cast_neg, neg_mul]⟩

/-- More zeros behind a number leave it a number of the context. -/
theorem Fits.shift {v : ℚ} (h : ctx.Fits v) (n : ℕ) : ctx.Fits (v * 10 ^ n) := by
  obtain ⟨c, e, hc, he, rfl⟩ := h
  exact ⟨c, e + n, hc, by omega, by rw [zpow_ten_add, zpow_natCast, mul_assoc]⟩

theorem unit_neg (v : ℚ) : ctx.unit (-v) = ctx.unit v := by
  rw [unit, unit, unitExp, unitExp, abs_neg]

namespace Rounds

variable {v w : ℚ}

theorem neg (h : ctx.Rounds v w) : ctx.Rounds (-v) (-w) := by
  obtain ⟨z, hw, hdist, htie⟩ := h
  refine ⟨-z, by rw [unit_neg, Int.cast_neg, neg_mul, ← hw], ?_⟩
  rw [unit_neg, neg_sub_neg, abs_sub_comm]
  exact ⟨hdist, fun heq ↦ even_neg.mpr (htie heq)⟩

theorem of_fits (h : ctx.Fits v) : ctx.Rounds v v := by
  obtain ⟨z, hz⟩ := fits_iff.mp h
  have hhalf := half_pos (ctx.unit_pos v)
  refine ⟨z, hz, ?_, ?_⟩
  · rw [sub_self, abs_zero]
    exact hhalf.le
  · rw [sub_self, abs_zero]
    exact fun heq ↦ absurd heq hhalf.ne

/-- A multiple of the unit that is as near as the rounding is the rounding, unless it is odd. -/
theorem eq_of_abs_le (h : ctx.Rounds v w) {y : ℤ} (hy : |y * ctx.unit v - v| ≤ ctx.unit v / 2)
    (heven : |y * ctx.unit v - v| = ctx.unit v / 2 → Even y) : w = y * ctx.unit v := by
  obtain ⟨z, rfl, hdist, htie⟩ := h
  have hpos := ctx.unit_pos v
  have htriangle : |((z - y : ℤ) : ℚ)| * ctx.unit v ≤
      |z * ctx.unit v - v| + |y * ctx.unit v - v| := by
    have hsub := abs_sub_le (z * ctx.unit v) v (y * ctx.unit v)
    rwa [abs_sub_comm v, ← sub_mul, abs_mul, abs_of_pos hpos, ← Int.cast_sub] at hsub
  by_contra hne
  have hone : (1 : ℚ) ≤ |((z - y : ℤ) : ℚ)| := by
    have hdiff : z - y ≠ 0 := fun hzero ↦ hne (by rw [sub_eq_zero.mp hzero])
    exact_mod_cast Int.one_le_abs hdiff
  -- Both are ties, on two sides of the number.
  have hunit := le_mul_of_one_le_left hpos.le hone
  have hsum : |((z - y : ℤ) : ℚ)| * ctx.unit v = 1 * ctx.unit v := by linarith
  have habs : |z - y| = 1 := by exact_mod_cast mul_right_cancel₀ hpos.ne' hsum
  have hparity : Even (z - y) := (htie (by linarith)).sub (heven (by linarith))
  rcases (abs_eq zero_le_one).mp habs with hdiff | hdiff
  · rw [hdiff] at hparity
    exact absurd hparity (by decide)
  · rw [hdiff] at hparity
    exact absurd hparity (by decide)

/-- What fits is not changed. -/
theorem eq_of_fits (h : ctx.Rounds v w) (hv : ctx.Fits v) : w = v := by
  obtain ⟨y, hy⟩ := fits_iff.mp hv
  have hhalf := half_pos (ctx.unit_pos v)
  refine (h.eq_of_abs_le (y := y) ?_ ?_).trans hy.symm
  · rw [← hy, sub_self, abs_zero]
    exact hhalf.le
  · rw [← hy, sub_self, abs_zero]
    exact fun heq ↦ absurd heq hhalf.ne

/-- A number is rounded to an integer when an integer is at most half a unit away: the integers are
even multiples of a unit below one. -/
theorem isInt_iff (h : ctx.Rounds v w) :
    (∃ n : ℤ, w = n) ↔ ∃ n : ℤ, |v - n| ≤ ctx.unit v / 2 := by
  obtain ⟨z, hw, hdist, -⟩ := id h
  constructor
  · rintro ⟨n, rfl⟩
    exact ⟨n, by rwa [abs_sub_comm]⟩
  · rintro ⟨n, hn⟩
    rcases le_or_gt 0 (ctx.unitExp v) with hexp | hexp
    · -- Every multiple of the unit is an integer.
      refine ⟨z * 10 ^ (ctx.unitExp v).toNat, ?_⟩
      have hnat : ctx.unitExp v = (ctx.unitExp v).toNat := by omega
      rw [hw, unit, hnat, zpow_natCast, Int.toNat_natCast]
      push_cast
      rfl
    · -- The integer is an even multiple of the unit, and nothing else is as near.
      have hunit : (n : ℚ) = (n * 10 ^ (-ctx.unitExp v).toNat : ℤ) * ctx.unit v := by
        have hnat : ((-ctx.unitExp v).toNat : ℤ) = -ctx.unitExp v := by omega
        push_cast
        rw [unit, ← zpow_natCast, hnat, mul_assoc, ← zpow_ten_add, neg_add_cancel, zpow_zero,
          mul_one]
      have heven : Even (n * 10 ^ (-ctx.unitExp v).toNat) :=
        (Even.pow_of_ne_zero (by decide) (by omega)).mul_left n
      rw [abs_sub_comm, hunit] at hn
      exact ⟨n, (h.eq_of_abs_le hn fun _ ↦ heven).trans hunit.symm⟩

/-- A rounding below the power of ten above the greatest number is no overflow. -/
theorem not_overflows (h : ctx.Rounds v w) (hunit : ctx.unitExp v ≤ ctx.etop)
    (hw : |w| < 10 ^ ((ctx.prec : ℤ) + ctx.etop)) : ¬ ctx.Overflows v := by
  rw [Overflows, not_le]
  obtain ⟨n, hprec⟩ : ∃ n, ctx.prec = n + 1 := Nat.exists_eq_succ_of_ne_zero ctx.prec_pos.ne'
  rcases hunit.lt_or_eq with hlt | heq
  · -- The number has its first digit below the greatest place.
    have hplace : (10 : ℚ) ^ (ctx.unitExp v + ctx.prec) ≤ 10 ^ ((n : ℤ) + ctx.etop) :=
      zpow_le_zpow_right₀ (by norm_num) (by omega)
    have hone : (1 : ℚ) ≤ 10 ^ n := one_le_pow₀ (by norm_num)
    rw [zpow_ten_add n, zpow_natCast] at hplace
    refine (abs_lt_zpow_unitExp v).trans_le (hplace.trans ?_)
    rw [hprec, pow_succ]
    exact mul_le_mul_of_nonneg_right (by linarith) (zpow_ten_pos _).le
  · obtain ⟨z, rfl, hdist, htie⟩ := h
    have hu : ctx.unit v = 10 ^ ctx.etop := by rw [unit, heq]
    rw [hu] at hdist htie hw
    rw [abs_mul_zpow_ten, zpow_ten_add, zpow_natCast] at hw
    have hz : |z| < 10 ^ ctx.prec := by
      exact_mod_cast lt_of_mul_lt_mul_right hw (zpow_ten_pos _).le
    have hz' : |(z : ℚ)| + 1 ≤ 10 ^ ctx.prec := by exact_mod_cast Int.add_one_le_iff.mpr hz
    have hbound : |v| ≤ |(z : ℚ)| * 10 ^ ctx.etop + |z * 10 ^ ctx.etop - v| := by
      have hsub := abs_sub_abs_le_abs_sub v (z * 10 ^ ctx.etop)
      rw [abs_sub_comm, abs_mul_zpow_ten] at hsub
      linarith
    have hmul := mul_le_mul_of_nonneg_right hz' (zpow_ten_pos ctx.etop).le
    refine lt_of_le_of_ne (by linarith) fun heq' ↦ ?_
    -- Equality would be a tie that goes to an odd coefficient.
    have hodd : |(z : ℚ)| + 1 = 10 ^ ctx.prec := by
      refine mul_right_cancel₀ (zpow_ten_pos ctx.etop).ne' (le_antisymm hmul ?_)
      linarith
    have heven : Even z := htie (by linarith)
    have hcast : |z| + 1 = 10 ^ ctx.prec := by exact_mod_cast hodd
    have hpow : Even ((10 : ℤ) ^ ctx.prec) := Even.pow_of_ne_zero (by decide) ctx.prec_pos.ne'
    rw [← hcast, Int.even_add_one] at hpow
    exact hpow (even_abs.mpr heven)

end Rounds

end Context

/-! ### Rounding a coefficient -/

/-- Drops the last `k` digits, rounding half-even. -/
def roundHalfEven (c k : ℕ) : ℕ :=
  if 10 ^ k < 2 * (c % 10 ^ k) ∨ 2 * (c % 10 ^ k) = 10 ^ k ∧ c / 10 ^ k % 2 = 1 then
    c / 10 ^ k + 1
  else c / 10 ^ k

theorem roundHalfEven_spec (c k : ℕ) :
    |(roundHalfEven c k : ℚ) * 10 ^ k - c| ≤ 10 ^ k / 2 ∧
      (|(roundHalfEven c k : ℚ) * 10 ^ k - c| = 10 ^ k / 2 → Even (roundHalfEven c k)) := by
  have hdiv : (c : ℚ) = 10 ^ k * (c / 10 ^ k : ℕ) + (c % 10 ^ k : ℕ) := by
    exact_mod_cast (Nat.div_add_mod c (10 ^ k)).symm
  have hmod : ((c % 10 ^ k : ℕ) : ℚ) < 10 ^ k := by
    exact_mod_cast Nat.mod_lt c (by positivity)
  have hnonneg : (0 : ℚ) ≤ (c % 10 ^ k : ℕ) := Nat.cast_nonneg _
  have hexact : (2 : ℚ) * (c % 10 ^ k : ℕ) = 10 ^ k → 2 * (c % 10 ^ k) = 10 ^ k :=
    fun hq ↦ by exact_mod_cast hq
  rw [roundHalfEven]
  split_ifs with hup
  · have hhalf : (10 : ℚ) ^ k ≤ 2 * (c % 10 ^ k : ℕ) := by
      rcases hup with hlt | heq
      · exact_mod_cast hlt.le
      · exact_mod_cast heq.1.ge
    have habs : |((c / 10 ^ k + 1 : ℕ) : ℚ) * 10 ^ k - c| = 10 ^ k - (c % 10 ^ k : ℕ) := by
      rw [abs_of_nonneg (by push_cast; linarith)]
      push_cast
      linarith
    rw [habs]
    refine ⟨by linarith, fun htie ↦ ?_⟩
    have htie := hexact (by linarith)
    rcases hup with hlt | heq
    · exact absurd htie hlt.ne'
    · exact Nat.even_iff.mpr (by omega)
  · rw [not_or] at hup
    have hhalf : 2 * ((c % 10 ^ k : ℕ) : ℚ) ≤ 10 ^ k := by exact_mod_cast not_lt.mp hup.1
    have habs : |((c / 10 ^ k : ℕ) : ℚ) * 10 ^ k - c| = (c % 10 ^ k : ℕ) := by
      rw [abs_sub_comm, abs_of_nonneg (by linarith)]
      linarith
    rw [habs]
    refine ⟨by linarith, fun htie ↦ ?_⟩
    have htie := hexact (by linarith)
    have hparity : c / 10 ^ k % 2 ≠ 1 := fun hodd ↦ hup.2 ⟨htie, hodd⟩
    exact Nat.even_iff.mpr (by omega)

theorem roundHalfEven_le (c k : ℕ) : roundHalfEven c k ≤ c / 10 ^ k + 1 := by
  rw [roundHalfEven]
  split_ifs <;> omega

/-! ### Numbers -/

/-- A finite `Decimal`; `sign` is `true` for a negative one, and `int` is the coefficient. -/
structure Number where
  sign : Bool
  int : ℕ
  exp : ℤ
  deriving DecidableEq

/-- `len(str(n))` -/
def numDigits (n : ℕ) : ℕ := (Nat.toDigits 10 n).length

theorem numDigits_pos (n : ℕ) : 0 < numDigits n := Nat.length_toDigits_pos

theorem lt_pow_numDigits (n : ℕ) : n < 10 ^ numDigits n :=
  (Nat.length_toDigits_le_iff (by decide) (numDigits_pos n)).mp le_rfl

theorem pow_le_of_numDigits {n : ℕ} (hn : n ≠ 0) : 10 ^ (numDigits n - 1) ≤ n := by
  rcases Nat.eq_zero_or_pos (numDigits n - 1) with hzero | hpos
  · rw [hzero]
    exact Nat.one_le_iff_ne_zero.mpr hn
  · by_contra hlt
    have hle : numDigits n ≤ numDigits n - 1 :=
      (Nat.length_toDigits_le_iff (by decide) hpos).mpr (not_le.mp hlt)
    omega

namespace Number

def magnitude (d : Number) : ℚ := d.int * 10 ^ d.exp

def value (d : Number) : ℚ := if d.sign then -d.magnitude else d.magnitude

def ofInt (n : ℤ) : Number := ⟨decide (n < 0), n.natAbs, 0⟩

/-- `Decimal._fix`; `none` is the trapped overflow. -/
def fix (ctx : Context) (d : Number) : Option Number :=
  if d.int = 0 then some ⟨d.sign, 0, min (max d.exp ctx.etiny) ctx.emax⟩
  else if ctx.etop < numDigits d.int + d.exp - ctx.prec then none
  else
    let expMin := max (numDigits d.int + d.exp - ctx.prec) ctx.etiny
    if expMin ≤ d.exp then some d
    else
      let coeff := roundHalfEven d.int (expMin - d.exp).toNat
      if numDigits coeff ≤ ctx.prec then some ⟨d.sign, coeff, expMin⟩
      else if ctx.etop < expMin + 1 then none
      else some ⟨d.sign, coeff / 10, expMin + 1⟩

theorem magnitude_nonneg (d : Number) : 0 ≤ d.magnitude :=
  mul_nonneg (Nat.cast_nonneg _) (zpow_ten_pos _).le

theorem abs_value (d : Number) : |d.value| = d.magnitude := by
  rw [value]
  split_ifs
  · rw [abs_neg, abs_of_nonneg d.magnitude_nonneg]
  · exact abs_of_nonneg d.magnitude_nonneg

theorem magnitude_lt (d : Number) : d.magnitude < 10 ^ (numDigits d.int + d.exp : ℤ) := by
  have hlt : (d.int : ℚ) < 10 ^ numDigits d.int := by exact_mod_cast lt_pow_numDigits d.int
  rw [zpow_ten_add, zpow_natCast]
  exact mul_lt_mul_of_pos_right hlt (zpow_ten_pos _)

theorem le_magnitude {d : Number} (hint : d.int ≠ 0) :
    (10 : ℚ) ^ (numDigits d.int + d.exp - 1 : ℤ) ≤ d.magnitude := by
  have hpos := numDigits_pos d.int
  have hle : (10 : ℚ) ^ (numDigits d.int - 1) ≤ d.int := by
    exact_mod_cast pow_le_of_numDigits hint
  have hexp : (numDigits d.int + d.exp - 1 : ℤ) = (numDigits d.int - 1 : ℕ) + d.exp := by omega
  rw [hexp, zpow_ten_add, zpow_natCast]
  exact mul_le_mul_of_nonneg_right hle (zpow_ten_pos _).le

/-- The exponent to which `fix` rounds. -/
theorem unitExp_magnitude (ctx : Context) {d : Number} (hint : d.int ≠ 0) :
    ctx.unitExp d.magnitude = max (numDigits d.int + d.exp - ctx.prec) ctx.etiny := by
  have hpos : 0 < d.magnitude := (zpow_ten_pos _).trans_le (le_magnitude hint)
  have hlog : Int.log 10 d.magnitude = numDigits d.int + d.exp - 1 := by
    refine le_antisymm ?_ ?_
    · refine Int.le_sub_one_iff.mpr ((Int.lt_zpow_iff_log_lt (by norm_num) hpos).mp ?_)
      exact_mod_cast magnitude_lt d
    · refine (Int.zpow_le_iff_le_log (by norm_num) hpos).mp ?_
      exact_mod_cast le_magnitude hint
  rw [Context.unitExp, abs_of_pos hpos, hlog]
  congr 1
  omega

variable {ctx : Context}

theorem rounds_value {d r : Number} (hsign : r.sign = d.sign)
    (h : ctx.Rounds d.magnitude r.magnitude) : ctx.Rounds d.value r.value := by
  rw [value, value, hsign]
  split_ifs
  · exact h.neg
  · exact h

theorem fits_value {d : Number} (h : ctx.Fits d.magnitude) : ctx.Fits d.value := by
  rw [value]
  split_ifs
  · exact h.neg
  · exact h

theorem overflows_value {d : Number} : ctx.Overflows d.value ↔ ctx.Overflows d.magnitude := by
  rw [Context.Overflows, Context.Overflows, abs_value, abs_of_nonneg d.magnitude_nonneg]

theorem fits_magnitude {d : Number} (hint : numDigits d.int ≤ ctx.prec) (hexp : ctx.etiny ≤ d.exp) :
    ctx.Fits d.magnitude := by
  refine ⟨d.int, d.exp, ?_, hexp, by rw [magnitude, Int.cast_natCast]⟩
  rw [Nat.abs_cast]
  exact_mod_cast (lt_pow_numDigits d.int).trans_le (Nat.pow_le_pow_right (by decide) hint)

/-- The coefficient without its last digits is the rounding. -/
theorem rounds_roundHalfEven {d : Number} {e : ℤ} (hunit : ctx.unitExp d.magnitude = e)
    (hexp : d.exp < e) :
    ctx.Rounds d.magnitude (roundHalfEven d.int (e - d.exp).toNat * 10 ^ e) := by
  obtain ⟨hdist, htie⟩ := roundHalfEven_spec d.int (e - d.exp).toNat
  generalize roundHalfEven d.int (e - d.exp).toNat = coeff at *
  have hexp' : e = (e - d.exp).toNat + d.exp := by omega
  have hpow : (10 : ℚ) ^ e = 10 ^ (e - d.exp).toNat * 10 ^ d.exp := by
    conv_lhs => rw [hexp', zpow_ten_add, zpow_natCast]
  have hsub : |(coeff : ℚ) * 10 ^ e - d.magnitude| =
      |(coeff : ℚ) * 10 ^ (e - d.exp).toNat - d.int| * 10 ^ d.exp := by
    rw [magnitude, hpow, ← mul_assoc, ← sub_mul, abs_mul_zpow_ten]
  have hhalf : ctx.unit d.magnitude / 2 = 10 ^ (e - d.exp).toNat / 2 * 10 ^ d.exp := by
    rw [Context.unit, hunit, hpow]
    ring
  refine ⟨coeff, by rw [Context.unit, hunit, Int.cast_natCast], ?_, fun heq ↦ ?_⟩
  · rw [hsub, hhalf]
    exact mul_le_mul_of_nonneg_right hdist (zpow_ten_pos _).le
  · rw [hsub, hhalf] at heq
    exact_mod_cast htie (mul_right_cancel₀ (zpow_ten_pos _).ne' heq)

/-- The rounded coefficient has the digits that the context keeps, or is the next power of ten. -/
theorem roundHalfEven_eq_pow {d : Number} {e : ℤ}
    (hunit : numDigits d.int + d.exp - ctx.prec ≤ e) (hexp : d.exp < e)
    (hcarry : ¬ numDigits (roundHalfEven d.int (e - d.exp).toNat) ≤ ctx.prec) :
    roundHalfEven d.int (e - d.exp).toNat = 10 ^ ctx.prec := by
  have hlower : 10 ^ ctx.prec ≤ roundHalfEven d.int (e - d.exp).toNat := by
    rw [numDigits, Nat.length_toDigits_le_iff (by decide) ctx.prec_pos] at hcarry
    exact not_lt.mp hcarry
  have hupper : d.int / 10 ^ (e - d.exp).toNat < 10 ^ ctx.prec := by
    rw [Nat.div_lt_iff_lt_mul (by positivity), ← pow_add]
    exact (lt_pow_numDigits d.int).trans_le (Nat.pow_le_pow_right (by decide) (by omega))
  have hle := roundHalfEven_le d.int (e - d.exp).toNat
  omega

theorem overflows_of_le {v : ℚ} (h : (10 : ℚ) ^ (ctx.prec + ctx.etop : ℤ) ≤ |v|) :
    ctx.Overflows v := by
  rw [zpow_ten_add, zpow_natCast] at h
  exact (mul_le_mul_of_nonneg_right (by linarith) (zpow_ten_pos _).le).trans h

theorem not_overflows_zero : ¬ ctx.Overflows 0 := by
  have hone : (1 : ℚ) ≤ 10 ^ ctx.prec := one_le_pow₀ (by norm_num)
  rw [Context.Overflows, abs_zero, not_le]
  exact mul_pos (by linarith) (zpow_ten_pos _)

/-- A number that `fix` leaves or rounds, by its magnitude. -/
structure Fixed (ctx : Context) (d r : Number) : Prop where
  rounds : ctx.Rounds d.value r.value
  fits : ctx.Fits r.value
  not_overflows : ¬ ctx.Overflows d.value

theorem Fixed.of_magnitude {d r : Number} (hsign : r.sign = d.sign)
    (hrounds : ctx.Rounds d.magnitude r.magnitude) (hint : numDigits r.int ≤ ctx.prec)
    (hexp : ctx.etiny ≤ r.exp) (hunit : ctx.unitExp d.magnitude ≤ ctx.etop)
    (htop : (numDigits r.int + r.exp : ℤ) ≤ ctx.prec + ctx.etop) : Fixed ctx d r := by
  have hlt : |r.magnitude| < 10 ^ ((ctx.prec : ℤ) + ctx.etop) := by
    rw [abs_of_nonneg r.magnitude_nonneg]
    exact (magnitude_lt r).trans_le (zpow_le_zpow_right₀ (by norm_num) htop)
  exact ⟨rounds_value hsign hrounds, fits_value (fits_magnitude hint hexp),
    mt overflows_value.mp (hrounds.not_overflows hunit hlt)⟩

/-- What is fixed is the rounding, a number of the context, unless there is an overflow. -/
theorem fix_spec (ctx : Context) (d : Number) :
    (d.fix ctx).elim (ctx.Overflows d.value) (Fixed ctx d) := by
  rw [fix]
  by_cases hzero : d.int = 0
  · rw [if_pos hzero]
    have hvalue : ∀ r : Number, r.int = 0 → r.value = 0 := by
      rintro r hr
      rw [value, magnitude, hr, Nat.cast_zero, zero_mul, neg_zero, ite_self]
    refine ⟨?_, ?_, ?_⟩
    · rw [hvalue d hzero, hvalue _ rfl]
      exact .of_fits .zero
    · rw [hvalue _ rfl]
      exact .zero
    · rw [hvalue d hzero]
      exact not_overflows_zero
  rw [if_neg hzero]
  have hunit := unitExp_magnitude ctx hzero
  by_cases hover : ctx.etop < numDigits d.int + d.exp - ctx.prec
  · rw [if_pos hover]
    refine overflows_of_le ?_
    rw [abs_value]
    exact (zpow_le_zpow_right₀ (by norm_num) (by omega)).trans (le_magnitude hzero)
  rw [if_neg hover]
  generalize he : max (numDigits d.int + d.exp - ctx.prec) ctx.etiny = e at hunit
  have hle : (numDigits d.int + d.exp - ctx.prec : ℤ) ≤ e := he ▸ le_max_left _ _
  have hetiny : ctx.etiny ≤ e := he ▸ le_max_right _ _
  have htop : e ≤ ctx.etop := he ▸ max_le (not_lt.mp hover) ctx.etiny_le_etop
  dsimp only
  by_cases hexp : e ≤ d.exp
  · rw [if_pos hexp]
    have hint : numDigits d.int ≤ ctx.prec := by omega
    have hfits : ctx.Fits d.magnitude := fits_magnitude hint (hetiny.trans hexp)
    exact .of_magnitude rfl (.of_fits hfits) hint (hetiny.trans hexp) (hunit.le.trans htop)
      (by omega)
  rw [if_neg hexp]
  have hrounds := rounds_roundHalfEven hunit (not_le.mp hexp)
  by_cases hcarry : numDigits (roundHalfEven d.int (e - d.exp).toNat) ≤ ctx.prec
  · rw [if_pos hcarry]
    exact .of_magnitude rfl hrounds hcarry hetiny (hunit.le.trans htop) (by dsimp only; omega)
  rw [if_neg hcarry]
  have hpow := roundHalfEven_eq_pow hle (not_le.mp hexp) hcarry
  rw [hpow] at hrounds ⊢
  push_cast at hrounds
  by_cases hlast : ctx.etop < e + 1
  · rw [if_pos hlast]
    -- The rounding is the power of ten above the greatest number, half a unit away.
    have heq : e = ctx.etop := by omega
    obtain ⟨-, -, hdist, -⟩ := hrounds
    rw [Context.unit, hunit, heq] at hdist
    have habs := (abs_le.mp hdist).2
    refine overflows_value.mpr ?_
    rw [Context.Overflows, abs_of_nonneg d.magnitude_nonneg, sub_mul]
    linarith
  · rw [if_neg hlast]
    obtain ⟨n, hprec⟩ : ∃ n, ctx.prec = n + 1 := Nat.exists_eq_succ_of_ne_zero ctx.prec_pos.ne'
    have hdiv : 10 ^ ctx.prec / 10 = 10 ^ n := by
      rw [hprec, pow_succ, Nat.mul_div_cancel _ (by decide)]
    have hdigits : numDigits (10 ^ n) ≤ ctx.prec :=
      (Nat.length_toDigits_le_iff (by decide) ctx.prec_pos).mpr
        (Nat.pow_lt_pow_right (by decide) (by omega))
    rw [hdiv]
    refine .of_magnitude rfl ?_ hdigits (by dsimp only; omega) (hunit.le.trans htop)
      (by dsimp only; omega)
    convert hrounds using 1
    rw [magnitude, hprec, zpow_ten_add, zpow_one, pow_succ]
    push_cast
    ring

theorem fix_eq_none_iff {d : Number} : d.fix ctx = none ↔ ctx.Overflows d.value := by
  have hspec := fix_spec ctx d
  rcases hfix : d.fix ctx with _ | r
  · rw [hfix] at hspec
    exact iff_of_true rfl hspec
  · rw [hfix] at hspec
    exact iff_of_false (Option.some_ne_none r) hspec.not_overflows

theorem of_fix_eq_some {d r : Number} (h : d.fix ctx = some r) :
    ctx.Rounds d.value r.value ∧ ctx.Fits r.value := by
  have hspec := fix_spec ctx d
  rw [h] at hspec
  exact ⟨hspec.rounds, hspec.fits⟩

/-- A number of the context is fixed to itself. -/
theorem fix_of_fits {d : Number} (hfits : ctx.Fits d.value) (hover : ¬ ctx.Overflows d.value) :
    ∃ r, d.fix ctx = some r ∧ r.value = d.value := by
  obtain ⟨r, hr⟩ := Option.ne_none_iff_exists'.mp (mt fix_eq_none_iff.mp hover)
  exact ⟨r, hr, (of_fix_eq_some hr).1.eq_of_fits hfits⟩

/-! ### Operations -/

def mul (ctx : Context) (a b : Number) : Option Number :=
  fix ctx ⟨a.sign != b.sign, a.int * b.int, a.exp + b.exp⟩

/-- The loop of the division that drops zeros, at most `n` of them. -/
def stripZeros : ℕ → ℕ → ℤ → ℕ × ℤ
  | 0, coeff, exp => (coeff, exp)
  | n + 1, coeff, exp =>
    if coeff % 10 = 0 then stripZeros n (coeff / 10) (exp + 1) else (coeff, exp)

/-- `Decimal.__truediv__`; `none` is a trapped signal, an overflow or a zero divisor. -/
def div (ctx : Context) (a b : Number) : Option Number :=
  if b.int = 0 then none
  else if a.int = 0 then fix ctx ⟨a.sign != b.sign, 0, a.exp - b.exp⟩
  else
    let shift : ℤ := numDigits b.int - numDigits a.int + ctx.prec + 1
    let num := a.int * 10 ^ shift.toNat
    let den := b.int * 10 ^ (-shift).toNat
    let coeff := num / den
    let exp := a.exp - b.exp - shift
    if num % den = 0 then
      let stripped := stripZeros shift.toNat coeff exp
      fix ctx ⟨a.sign != b.sign, stripped.1, stripped.2⟩
    else
      -- The last digit records that something is left.
      fix ctx ⟨a.sign != b.sign, if coeff % 5 = 0 then coeff + 1 else coeff, exp⟩

def toIntegralValue (d : Number) : Number :=
  if 0 ≤ d.exp then d else ⟨d.sign, roundHalfEven d.int (-d.exp).toNat, 0⟩

def signed (d : Number) : ℤ := if d.sign then -d.int else d.int

/-- `a == b`, on coefficients with a common exponent. -/
def eq (a b : Number) : Bool :=
  a.signed * 10 ^ (a.exp - min a.exp b.exp).toNat = b.signed * 10 ^ (b.exp - min a.exp b.exp).toNat

/-- `int(d)` -/
def toInt (d : Number) : ℤ :=
  let whole : ℤ := if 0 ≤ d.exp then d.int * 10 ^ d.exp.toNat else d.int / 10 ^ (-d.exp).toNat
  if d.sign then -whole else whole

theorem value_eq_signed (d : Number) : d.value = d.signed * 10 ^ d.exp := by
  rw [value, signed, magnitude]
  split_ifs
  · push_cast
    ring
  · push_cast
    rfl

theorem value_ofInt (n : ℤ) : (ofInt n).value = n := by
  rw [value_eq_signed, signed, ofInt]
  have habs := Int.natCast_natAbs n
  by_cases hneg : n < 0
  · simp only [hneg, decide_true, if_true, habs, abs_of_neg hneg]
    simp
  · simp only [hneg, decide_false, habs, abs_of_nonneg (not_lt.mp hneg)]
    simp

theorem value_of_magnitude {a b d : Number} (hsign : d.sign = (a.sign != b.sign)) (f : ℚ → ℚ → ℚ)
    (hneg : ∀ x y, f (-x) y = -f x y) (hneg' : ∀ x y, f x (-y) = -f x y)
    (h : d.magnitude = f a.magnitude b.magnitude) : d.value = f a.value b.value := by
  rw [value, value, value, hsign, h]
  cases a.sign <;> cases b.sign <;> simp [hneg, hneg']

theorem value_mul (a b : Number) :
    (⟨a.sign != b.sign, a.int * b.int, a.exp + b.exp⟩ : Number).value = a.value * b.value := by
  refine value_of_magnitude rfl (· * ·) neg_mul mul_neg ?_
  rw [magnitude, magnitude, magnitude, zpow_ten_add]
  push_cast
  ring

theorem mul_eq_none_iff {a b : Number} :
    a.mul ctx b = none ↔ ctx.Overflows (a.value * b.value) := by
  rw [mul, fix_eq_none_iff, value_mul]

theorem of_mul_eq_some {a b r : Number} (h : a.mul ctx b = some r) :
    ctx.Rounds (a.value * b.value) r.value ∧ ctx.Fits r.value := by
  have hfixed := of_fix_eq_some h
  rwa [value_mul] at hfixed

/-! ### Division -/

theorem fits_of_div {a b r : Number} (h : a.div ctx b = some r) : ctx.Fits r.value := by
  rw [div] at h
  dsimp only at h
  split_ifs at h <;> exact (of_fix_eq_some h).2

theorem stripZeros_value (n coeff : ℕ) (exp : ℤ) :
    ((stripZeros n coeff exp).1 : ℚ) * 10 ^ (stripZeros n coeff exp).2 = coeff * 10 ^ exp := by
  induction n generalizing coeff exp with
  | zero => rfl
  | succ n ih =>
    rw [stripZeros]
    split_ifs with hzero
    · have hcast : (coeff : ℚ) = 10 * (coeff / 10 : ℕ) := by
        exact_mod_cast (Nat.mul_div_cancel' (Nat.dvd_of_mod_eq_zero hzero)).symm
      rw [ih, hcast, zpow_ten_add, zpow_one]
      ring
    · rfl

/-- The quotient of the coefficients that the division forms has more digits than the context
keeps. -/
theorem pow_prec_lt_quotient {a b : Number} (ha : a.int ≠ 0) (hb : b.int ≠ 0) {shift : ℤ}
    (hshift : shift = numDigits b.int - numDigits a.int + ctx.prec + 1) :
    (10 : ℚ) ^ ctx.prec < a.int / b.int * 10 ^ shift := by
  have hbpos : (0 : ℚ) < b.int := by exact_mod_cast Nat.pos_of_ne_zero hb
  have hdigits := numDigits_pos a.int
  have hale : (10 : ℚ) ^ (numDigits a.int - 1) ≤ a.int := by exact_mod_cast pow_le_of_numDigits ha
  have hblt : (b.int : ℚ) < 10 ^ numDigits b.int := by exact_mod_cast lt_pow_numDigits b.int
  have hsplit : (10 : ℚ) ^ ctx.prec * 10 ^ numDigits b.int =
      10 ^ (numDigits a.int - 1) * 10 ^ shift := by
    rw [← zpow_natCast, ← zpow_natCast, ← zpow_natCast, ← zpow_ten_add, ← zpow_ten_add]
    congr 1
    omega
  rw [div_mul_eq_mul_div, lt_div_iff₀ hbpos]
  calc (10 : ℚ) ^ ctx.prec * b.int < 10 ^ ctx.prec * 10 ^ numDigits b.int :=
        mul_lt_mul_of_pos_left hblt (by positivity)
    _ = 10 ^ (numDigits a.int - 1) * 10 ^ shift := hsplit
    _ ≤ a.int * 10 ^ shift := mul_le_mul_of_nonneg_right hale (zpow_ten_pos _).le

theorem quotient_eq (a b : Number) (shift : ℤ) :
    ((a.int * 10 ^ shift.toNat : ℕ) : ℚ) / (b.int * 10 ^ (-shift).toNat : ℕ) =
      a.int / b.int * 10 ^ shift := by
  have hpow : (10 : ℚ) ^ shift = 10 ^ shift.toNat / 10 ^ (-shift).toNat := by
    rw [← zpow_natCast, ← zpow_natCast, ← zpow_sub₀ (by norm_num)]
    congr 1
    omega
  rw [hpow]
  push_cast
  rw [mul_div_mul_comm]

theorem magnitude_div (a b : Number) (shift : ℤ) :
    a.magnitude / b.magnitude =
      a.int / b.int * 10 ^ shift * 10 ^ (a.exp - b.exp - shift) := by
  rw [magnitude, magnitude, mul_assoc, ← zpow_ten_add, mul_div_mul_comm, ← zpow_sub₀ (by norm_num)]
  congr 2
  omega

/-- A quotient that is a number of the context is found exactly. -/
theorem div_of_fits {a b : Number} (hb : b.int ≠ 0) (hfits : ctx.Fits (a.value / b.value))
    (hover : ¬ ctx.Overflows (a.value / b.value)) :
    ∃ r, a.div ctx b = some r ∧ r.value = a.value / b.value := by
  have hvalue {d : Number} (hsign : d.sign = (a.sign != b.sign))
      (h : d.magnitude = a.magnitude / b.magnitude) : d.value = a.value / b.value :=
    value_of_magnitude hsign (· / ·) (fun x y ↦ neg_div y x) (fun x y ↦ div_neg x) h
  have hfix {d : Number} (hd : d.value = a.value / b.value) :
      ∃ r, d.fix ctx = some r ∧ r.value = a.value / b.value := by
    rw [← hd] at hfits hover ⊢
    exact fix_of_fits hfits hover
  rw [div, if_neg hb]
  by_cases ha : a.int = 0
  · rw [if_pos ha]
    refine hfix (hvalue rfl ?_)
    rw [magnitude, magnitude, ha, Nat.cast_zero, zero_mul, zero_mul, zero_div]
  rw [if_neg ha]
  generalize hshift : (numDigits b.int - numDigits a.int + ctx.prec + 1 : ℤ) = shift
  have hquotient := quotient_eq a b shift
  have hmagnitude := magnitude_div a b shift
  have hlarge : (10 : ℚ) ^ ctx.prec < a.int / b.int * 10 ^ shift :=
    pow_prec_lt_quotient ha hb hshift.symm
  dsimp only
  generalize a.int * 10 ^ shift.toNat = num at hquotient ⊢
  have hden : b.int * 10 ^ (-shift).toNat ≠ 0 := by positivity
  generalize b.int * 10 ^ (-shift).toNat = den at hquotient hden ⊢
  -- The quotient is a natural number, since a number of the context has fewer digits.
  obtain ⟨n, hn⟩ : ∃ n : ℕ, (num : ℚ) / den = n := by
    obtain ⟨c, e, hc, -, hce⟩ := hfits
    have hcast : |(c : ℚ)| < 10 ^ ctx.prec := by exact_mod_cast hc
    have habs : (num : ℚ) / den * 10 ^ (a.exp - b.exp - shift) = |(c : ℚ)| * 10 ^ e := by
      rw [hquotient, ← hmagnitude, ← abs_mul_zpow_ten, ← hce, abs_div, abs_value, abs_value]
    have hexp : a.exp - b.exp - shift < e := by
      by_contra hle
      have hpow := zpow_le_zpow_right₀ (by norm_num : (1 : ℚ) ≤ 10) (not_lt.mp hle)
      have hsmall := mul_lt_mul_of_pos_right (hquotient ▸ hlarge)
        (zpow_ten_pos (a.exp - b.exp - shift))
      have hupper := mul_lt_mul_of_pos_right hcast (zpow_ten_pos e)
      have hscaled := mul_le_mul_of_nonneg_left hpow (by positivity : (0 : ℚ) ≤ 10 ^ ctx.prec)
      linarith
    refine ⟨c.natAbs * 10 ^ (e - (a.exp - b.exp - shift)).toNat, ?_⟩
    have hsplit : (10 : ℚ) ^ e =
        10 ^ (e - (a.exp - b.exp - shift)).toNat * 10 ^ (a.exp - b.exp - shift) := by
      rw [← zpow_natCast, ← zpow_ten_add]
      congr 1
      omega
    rw [hsplit, ← mul_assoc] at habs
    have hcancel := mul_right_cancel₀ (zpow_ten_pos _).ne' habs
    rw [hcancel]
    push_cast
    rw [Nat.cast_natAbs, Int.cast_abs]
  have hnum : num = den * n := by
    have hden' : (den : ℚ) ≠ 0 := by exact_mod_cast hden
    rw [div_eq_iff hden', mul_comm] at hn
    exact_mod_cast hn
  rw [if_pos (by rw [hnum, Nat.mul_mod_right]), hnum,
    Nat.mul_div_cancel_left n (Nat.pos_of_ne_zero hden)]
  refine hfix (hvalue rfl ?_)
  rw [magnitude, stripZeros_value, hmagnitude, ← hquotient, hn]

/-! ### Integers -/

/-- A number over a power of ten that is not above its own. -/
theorem value_eq_aligned (d : Number) {e : ℤ} (he : e ≤ d.exp) :
    d.value = (d.signed * 10 ^ (d.exp - e).toNat : ℤ) * 10 ^ e := by
  have hexp : d.exp = (d.exp - e).toNat + e := by omega
  rw [value_eq_signed]
  conv_lhs => rw [hexp, zpow_ten_add, zpow_natCast]
  push_cast
  ring

theorem eq_iff {a b : Number} : a.eq b ↔ a.value = b.value := by
  rw [eq, decide_eq_true_iff, a.value_eq_aligned (min_le_left a.exp b.exp),
    b.value_eq_aligned (min_le_right a.exp b.exp), mul_left_inj' (zpow_ten_pos _).ne', Int.cast_inj]

theorem toIntegralValue_exp (d : Number) : 0 ≤ d.toIntegralValue.exp := by
  rw [toIntegralValue]
  split_ifs with hexp
  · exact hexp
  · exact le_rfl

theorem value_toInt {d : Number} (hexp : 0 ≤ d.exp) : d.value = d.toInt := by
  have hnat : d.exp = d.exp.toNat := by omega
  have hpow : (10 : ℚ) ^ d.exp = 10 ^ d.exp.toNat := by
    conv_lhs => rw [hnat, zpow_natCast]
  rw [value, toInt, magnitude, hpow]
  simp only [hexp, if_true]
  split_ifs
  · push_cast
    rfl
  · push_cast
    rfl

/-- The digits of an integer behind the point are zeros. -/
theorem int_eq_of_value {d : Number} {n : ℤ} (hn : d.value = n) (hexp : d.exp ≤ 0) :
    d.int = n.natAbs * 10 ^ (-d.exp).toNat := by
  have habs := abs_value d
  rw [hn, magnitude] at habs
  have hint : (d.int : ℚ) = n.natAbs * 10 ^ (-d.exp).toNat := by
    rw [Nat.cast_natAbs, Int.cast_abs, habs, mul_assoc, zpow_ten_mul_pow hexp, mul_one]
  exact_mod_cast hint

theorem toInt_eq_of_value {d : Number} {n : ℤ} (hn : d.value = n) : d.toInt = n := by
  by_cases hexp : 0 ≤ d.exp
  · exact_mod_cast (value_toInt hexp).symm.trans hn
  · have hint := int_eq_of_value hn (not_le.mp hexp).le
    have hwhole : ((d.int : ℤ) / 10 ^ (-d.exp).toNat) = n.natAbs := by
      rw [hint]
      push_cast
      exact Int.mul_ediv_cancel _ (by positivity)
    have hsign := d.magnitude_nonneg
    rw [toInt, if_neg hexp, hwhole]
    rw [value] at hn
    by_cases hneg : d.sign
    · rw [if_pos hneg] at hn
      have hle : (n : ℚ) ≤ 0 := by linarith
      have hle' : n ≤ 0 := by exact_mod_cast hle
      rw [if_pos hneg]
      omega
    · rw [if_neg hneg] at hn
      have hle : (0 : ℚ) ≤ n := by linarith
      have hle' : 0 ≤ n := by exact_mod_cast hle
      rw [if_neg hneg]
      omega

/-- A number that equals its integral value is an integer, and every integer does. -/
theorem eq_toIntegralValue_iff {d : Number} : d.eq d.toIntegralValue ↔ ∃ n : ℤ, d.value = n := by
  rw [eq_iff]
  constructor
  · intro heq
    exact ⟨d.toIntegralValue.toInt, heq.trans (value_toInt d.toIntegralValue_exp)⟩
  · rintro ⟨n, hn⟩
    by_cases hexp : 0 ≤ d.exp
    · rw [toIntegralValue, if_pos hexp]
    · -- No digit other than zero is dropped.
      have hint := int_eq_of_value hn (not_le.mp hexp).le
      have hpos : 0 < 10 ^ (-d.exp).toNat := by positivity
      have hdrop : roundHalfEven d.int (-d.exp).toNat = n.natAbs := by
        rw [hint, roundHalfEven, Nat.mul_mod_left, Nat.mul_div_cancel _ hpos]
        exact if_neg (by omega)
      rw [toIntegralValue, if_neg hexp, value, value, magnitude, magnitude, hdrop, hint]
      push_cast
      rw [mul_assoc, mul_comm (10 ^ (-d.exp).toNat), zpow_ten_mul_pow (not_le.mp hexp).le]

end Number

end YandexPay.PyDecimal
