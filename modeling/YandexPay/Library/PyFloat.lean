import Mathlib.Data.Nat.Find
import YandexPay.Library.PyNumberText

/-!
# Floats of Python and their texts

A finite `float` is a binary64 number. Its `str` writes the shortest decimal number that rounds to
it. No decimal number rounds to two floats (`eq_of_rounds`), so the text determines the float.
-/

set_option autoImplicit false
set_option relaxedAutoImplicit false

namespace YandexPay

open PyDecimal

/-- The number of absolute value `mantissa * 2 ^ (shift - 1074)`. -/
structure Binary64 where
  sign : Bool
  mantissa : ℕ
  shift : ℕ
  mantissa_lt : mantissa < 2 ^ 53
  shift_le : shift ≤ 2045
  normal : 2 ^ 52 ≤ mantissa ∨ shift = 0
deriving DecidableEq

namespace Binary64

variable (x y : Binary64)

/-! ### Rounding

The bounds are counted in quarters of the least number, that is in units of `2 ^ -1076`. -/

def upper : ℕ := (4 * x.mantissa + 2) * 2 ^ x.shift

/-- Below a power of two the numbers lie closer together. -/
def lower : ℕ :=
  (4 * x.mantissa - if x.mantissa = 2 ^ 52 ∧ x.shift ≠ 0 then 1 else 2) * 2 ^ x.shift

/-- The absolute value is rounded half-even to this number. -/
def Rounds (v : ℚ) : Prop :=
  if x.mantissa % 2 = 0 then x.lower ≤ v * 2 ^ 1076 ∧ v * 2 ^ 1076 ≤ x.upper
  else x.lower < v * 2 ^ 1076 ∧ v * 2 ^ 1076 < x.upper

instance (v : ℚ) : Decidable (x.Rounds v) := by
  unfold Rounds
  infer_instance

variable {x y}

theorem Rounds.le {v : ℚ} (h : x.Rounds v) :
    x.lower ≤ v * 2 ^ 1076 ∧ v * 2 ^ 1076 ≤ x.upper := by
  unfold Rounds at h
  split_ifs at h
  · exact h
  · exact ⟨h.1.le, h.2.le⟩

/-- Only an even number takes what lies on its bounds. -/
theorem Rounds.even {v : ℚ} (h : x.Rounds v)
    (hbound : v * 2 ^ 1076 = x.lower ∨ v * 2 ^ 1076 = x.upper) : x.mantissa % 2 = 0 := by
  unfold Rounds at h
  split_ifs at h with heven
  · exact heven
  · rcases hbound with hlower | hupper
    · exact absurd hlower h.1.ne'
    · exact absurd hupper h.2.ne

/-- What rounds to a number lies below what rounds to a greater one; they meet at most where one of
them is not even. -/
theorem upper_le_lower
    (h : x.shift < y.shift ∨ x.shift = y.shift ∧ x.mantissa < y.mantissa) :
    x.upper ≤ y.lower ∧
      (x.upper = y.lower → ¬ (x.mantissa % 2 = 0 ∧ y.mantissa % 2 = 0)) := by
  have hx := x.mantissa_lt
  have hpow : 0 < 2 ^ x.shift := Nat.two_pow_pos _
  unfold upper lower
  rcases h with hshift | ⟨hshift, hmantissa⟩
  · -- The next binade: only its least number can be reached from below.
    obtain ⟨d, hd⟩ := Nat.exists_eq_add_of_lt hshift
    have hy := y.normal
    have hdouble : 0 < 2 ^ d := Nat.two_pow_pos _
    have hsplit : 2 ^ y.shift = 2 * 2 ^ d * 2 ^ x.shift := by
      rw [hd, pow_succ, pow_add]
      ring
    set lowest := 4 * y.mantissa - if y.mantissa = 2 ^ 52 ∧ y.shift ≠ 0 then 1 else 2
    have hlowest : 2 ^ 54 - 1 ≤ lowest := by
      simp only [lowest]
      split_ifs <;> omega
    have hfactor : 4 * x.mantissa + 2 ≤ lowest * (2 * 2 ^ d) := by
      calc 4 * x.mantissa + 2 ≤ (2 ^ 54 - 1) * (2 * 1) := by omega
        _ ≤ lowest * (2 * 2 ^ d) := Nat.mul_le_mul hlowest (Nat.mul_le_mul_left 2 hdouble)
    rw [hsplit, ← mul_assoc]
    refine ⟨Nat.mul_le_mul_right _ hfactor, fun heq heven ↦ ?_⟩
    have hmeet := Nat.eq_of_mul_eq_mul_right hpow heq
    have hle : (2 ^ 54 - 1) * (2 * 1) ≤ lowest * (2 * 2 ^ d) :=
      Nat.mul_le_mul hlowest (Nat.mul_le_mul_left 2 hdouble)
    omega
  · have hx' := x.normal
    have hlowest : ¬ (y.mantissa = 2 ^ 52 ∧ y.shift ≠ 0) := by omega
    rw [if_neg hlowest, ← hshift]
    refine ⟨Nat.mul_le_mul_right _ (by omega), fun heq heven ↦ ?_⟩
    have hmeet := Nat.eq_of_mul_eq_mul_right hpow heq
    omega

theorem not_rounds_of_lt {v : ℚ}
    (h : x.shift < y.shift ∨ x.shift = y.shift ∧ x.mantissa < y.mantissa) (hx : x.Rounds v) :
    ¬ y.Rounds v := by
  intro hy
  obtain ⟨hle, hmeet⟩ := upper_le_lower h
  have hle' : (x.upper : ℚ) ≤ y.lower := by exact_mod_cast hle
  have hupper : v * 2 ^ 1076 = x.upper := le_antisymm hx.le.2 (hle'.trans hy.le.1)
  have hlower : v * 2 ^ 1076 = y.lower := le_antisymm (hx.le.2.trans hle') hy.le.1
  have heq : x.upper = y.lower := by exact_mod_cast hupper.symm.trans hlower
  exact hmeet heq ⟨hx.even (.inr hupper), hy.even (.inl hlower)⟩

/-- No value is rounded to two numbers. -/
theorem eq_of_rounds {v : ℚ} (hx : x.Rounds v) (hy : y.Rounds v) (hsign : x.sign = y.sign) :
    x = y := by
  have hless : ¬ (x.shift < y.shift ∨ x.shift = y.shift ∧ x.mantissa < y.mantissa) :=
    fun h ↦ not_rounds_of_lt h hx hy
  have hgreater : ¬ (y.shift < x.shift ∨ y.shift = x.shift ∧ y.mantissa < x.mantissa) :=
    fun h ↦ not_rounds_of_lt h hy hx
  have hshift : x.shift = y.shift := by omega
  have hmantissa : x.mantissa = y.mantissa := by omega
  obtain ⟨sign, mantissa, shift, _, _, _⟩ := x
  obtain ⟨sign', mantissa', shift', _, _, _⟩ := y
  simp only at hshift hmantissa hsign
  subst hshift hmantissa hsign
  rfl

/-! ### The shortest decimal number -/

def decimalValue (d : ℕ × ℤ) : ℚ := d.1 * 10 ^ d.2

variable (x)

/-- The number itself, as a decimal one. -/
def exact : ℕ × ℤ :=
  (x.mantissa * 2 ^ (x.shift - 1074) * 5 ^ (1074 - x.shift), -((1074 - x.shift : ℕ) : ℤ))

/-- A decimal number without its last digits, rounded down and up, the nearest of the two first and
of two at one distance the even one. -/
def candidates (d : ℕ × ℤ) (dropped : ℕ) : List (ℕ × ℤ) :=
  let quotient := d.1 / 10 ^ dropped
  let remainder := d.1 % 10 ^ dropped
  let below := (quotient, d.2 + dropped)
  let above := (quotient + 1, d.2 + dropped)
  if 2 * remainder < 10 ^ dropped ∨ 2 * remainder = 10 ^ dropped ∧ quotient % 2 = 0 then
    [below, above]
  else [above, below]

/-- The decimal number without zeros at its end. -/
def stripZeros (d : ℕ × ℤ) : ℕ × ℤ :=
  let zeros := Nat.findGreatest (fun k ↦ 10 ^ k ∣ d.1) (numDigits d.1)
  (d.1 / 10 ^ zeros, d.2 + zeros)

/-- A decimal number of as few digits as possible that rounds to the number; more than seventeen
are never tried. -/
def shortest : ℕ × ℤ :=
  if x.mantissa = 0 then (0, 0)
  else
    let found := ((List.range 17).flatMap fun digits ↦
      candidates x.exact (numDigits x.exact.1 - (digits + 1))).find? fun d ↦
        x.Rounds (decimalValue d)
    stripZeros (found.getD x.exact)

theorem decimalValue_exact :
    decimalValue x.exact * 2 ^ 1076 = ((4 * x.mantissa * 2 ^ x.shift : ℕ) : ℚ) := by
  set k := 1074 - x.shift with hk
  have hshift : x.shift - 1074 + 1074 = x.shift + k := by omega
  have htwo : (2 : ℚ) ^ (x.shift - 1074) * 2 ^ 1074 = 2 ^ x.shift * 2 ^ k := by
    rw [← pow_add, hshift, pow_add]
  have hten : (5 : ℚ) ^ k * 2 ^ k * 10 ^ (-(k : ℤ)) = 1 := by
    rw [← mul_pow, zpow_neg, zpow_natCast]
    norm_num
  have hquarters : (2 : ℚ) ^ 1076 = 4 * 2 ^ 1074 := by
    have hfour : (2 : ℚ) ^ 2 = 4 := by norm_num
    rw [pow_add 2 1074 2, hfour, mul_comm]
  unfold decimalValue exact
  rw [← hk, hquarters]
  push_cast
  generalize (2 : ℚ) ^ 1074 = least at htwo
  calc (x.mantissa : ℚ) * 2 ^ (x.shift - 1074) * 5 ^ k * (10 : ℚ) ^ (-(k : ℤ)) * (4 * least)
      = 4 * x.mantissa * (2 ^ (x.shift - 1074) * least) * 5 ^ k * (10 : ℚ) ^ (-(k : ℤ)) := by ring
    _ = 4 * x.mantissa * 2 ^ x.shift * (5 ^ k * 2 ^ k * (10 : ℚ) ^ (-(k : ℤ))) := by
      rw [htwo]
      ring
    _ = 4 * x.mantissa * 2 ^ x.shift := by rw [hten, mul_one]

theorem rounds_exact : x.Rounds (decimalValue x.exact) := by
  have hpow : 0 < 2 ^ x.shift := Nat.two_pow_pos _
  have hupper : 4 * x.mantissa * 2 ^ x.shift < x.upper :=
    Nat.mul_lt_mul_of_pos_right (by omega) hpow
  unfold Rounds
  rw [decimalValue_exact]
  split_ifs with heven
  · refine ⟨?_, by exact_mod_cast hupper.le⟩
    have hlower : x.lower ≤ 4 * x.mantissa * 2 ^ x.shift :=
      Nat.mul_le_mul_right _ (Nat.sub_le _ _)
    exact_mod_cast hlower
  · refine ⟨?_, by exact_mod_cast hupper⟩
    have hlower : x.lower < 4 * x.mantissa * 2 ^ x.shift := by
      refine Nat.mul_lt_mul_of_pos_right ?_ hpow
      split_ifs <;> omega
    exact_mod_cast hlower

theorem decimalValue_stripZeros (d : ℕ × ℤ) : decimalValue (stripZeros d) = decimalValue d := by
  have hdvd : 10 ^ Nat.findGreatest (fun k ↦ 10 ^ k ∣ d.1) (numDigits d.1) ∣ d.1 :=
    Nat.findGreatest_spec (P := fun k ↦ 10 ^ k ∣ d.1) (Nat.zero_le _) (one_dvd _)
  unfold decimalValue stripZeros
  set zeros := Nat.findGreatest (fun k ↦ 10 ^ k ∣ d.1) (numDigits d.1)
  have hcast : ((d.1 / 10 ^ zeros : ℕ) : ℚ) * 10 ^ zeros = d.1 := by
    exact_mod_cast Nat.div_mul_cancel hdvd
  change ((d.1 / 10 ^ zeros : ℕ) : ℚ) * 10 ^ (d.2 + (zeros : ℤ)) = _
  rw [zpow_ten_add, zpow_natCast, mul_comm ((10 : ℚ) ^ d.2), ← mul_assoc, hcast]

theorem rounds_shortest : x.Rounds (decimalValue x.shortest) := by
  unfold shortest
  split_ifs with hzero
  · have hexact : decimalValue x.exact = decimalValue (0, 0) := by
      simp [decimalValue, exact, hzero]
    rw [← hexact]
    exact x.rounds_exact
  · rw [decimalValue_stripZeros]
    set found := ((List.range 17).flatMap fun digits ↦
      candidates x.exact (numDigits x.exact.1 - (digits + 1))).find? fun d ↦
        x.Rounds (decimalValue d) with hfound
    cases hd : found with
    | none => exact x.rounds_exact
    | some d => simpa using List.find?_some (hfound.symm.trans hd)

/-! ### `str` -/

/-- `'%+.2d'` -/
def exponentDigits (n : ℤ) : List Char :=
  (if n < 0 then '-' else '+') :: ((if n.natAbs < 10 then ['0'] else []) ++
    Nat.toDigits 10 n.natAbs)

/-- The place of the point among the digits. -/
def decpt : ℤ := numDigits x.shortest.1 + x.shortest.2

/-- The number is written without an exponent. -/
def IsPlain : Prop := -4 < x.decpt ∧ x.decpt ≤ 16

instance : Decidable x.IsPlain := inferInstanceAs (Decidable (_ ∧ _))

def str : String :=
  let digits := Nat.toDigits 10 x.shortest.1
  let sign := if x.sign then ['-'] else []
  if x.IsPlain then
    let parts := Number.pointed digits x.decpt
    String.ofList (sign ++ parts.1 ++ if parts.2 = [] then ['.', '0'] else parts.2)
  else
    let parts := Number.pointed digits 1
    String.ofList (sign ++ parts.1 ++ parts.2 ++ 'e' :: exponentDigits (x.decpt - 1))

theorem readExponent_exponentDigits (n : ℤ) : readExponent (exponentDigits n) = n := by
  have hpadded : Nat.ofDigitChars 10 ((if n.natAbs < 10 then ['0'] else []) ++
      Nat.toDigits 10 n.natAbs) 0 = n.natAbs := by
    rw [Nat.ofDigitChars_append]
    split_ifs <;> exact Nat.ofDigitChars_ten_toDigits
  unfold exponentDigits
  by_cases h : n < 0
  · rw [if_pos h]
    change -((Nat.ofDigitChars 10 _ 0 : ℕ) : ℤ) = n
    rw [hpadded]
    omega
  · rw [if_neg h]
    change ((Nat.ofDigitChars 10 _ 0 : ℕ) : ℤ) = n
    rw [hpadded]
    omega

theorem decimalValue_scaled (n k : ℕ) (e : ℤ) :
    decimalValue (10 ^ k * n, e - k) = decimalValue (n, e) := by
  have hsplit : (10 : ℚ) ^ e = 10 ^ (e - k) * 10 ^ k := by
    rw [← zpow_natCast, ← zpow_ten_add, sub_add_cancel]
  unfold decimalValue
  rw [hsplit]
  push_cast
  ring

/-- The text has no point of its own, and one is added. -/
theorem readNumber_addPoint (negative : Bool) (n : ℕ) {place : ℤ}
    (hnone : (Number.pointed (Nat.toDigits 10 n) place).2 = []) :
    readNumber 'e' ((if negative then ['-'] else []) ++
      (Number.pointed (Nat.toDigits 10 n) place).1 ++ ['.', '0']) =
        (negative, 10 ^ ((place - numDigits n).toNat + 1) * n, -1) ∧ numDigits n ≤ place := by
  obtain ⟨whole, fraction, hwhole, hparts, hsplit, hlength⟩ :=
    pointed_spec (Nat.toDigits_ne_nil (n := n) (b := 10)) place
  rw [hparts] at hnone ⊢
  have hfraction : fraction = [] := by
    by_contra hne
    exact absurd hnone (by simp [hne])
  rw [hfraction, List.append_nil] at hsplit
  rw [hfraction, List.length_nil] at hlength
  have hdigits : ∀ c ∈ whole ++ ['0'], c.isDigit := by
    intro c hc
    rcases List.mem_append.mp hc with hc | hc
    · rw [hsplit] at hc
      exact isDigit_of_mem_padded (fun _ ↦ Number.isDigit_of_mem_digits) hc
    · rw [List.mem_singleton.mp hc]
      rfl
  have htext := @readNumber_plainText 'e' (by decide) negative _ _ hwhole hdigits none
  have hvalue : Nat.ofDigitChars 10 (whole ++ ['0']) 0 =
      10 ^ ((place - numDigits n).toNat + 1) * n := by
    rw [Nat.ofDigitChars_append, hsplit, ofDigitChars_padded, Nat.ofDigitChars_ten_toDigits,
      pow_succ', mul_assoc]
    rfl
  rw [hvalue] at htext
  refine ⟨?_, ?_⟩
  · refine Eq.trans (congrArg (readNumber 'e') ?_) htext
    rw [exponentText, List.append_nil, plainText, if_neg (List.cons_ne_nil _ _)]
  · change ((Nat.toDigits 10 n).length : ℤ) ≤ place
    omega

theorem readNumber_str (x : Binary64) : (readNumber 'e' x.str.toList).1 = x.sign ∧
    decimalValue (readNumber 'e' x.str.toList).2 = decimalValue x.shortest := by
  have hdecpt : x.decpt = numDigits x.shortest.1 + x.shortest.2 := rfl
  unfold str
  by_cases hplain : x.IsPlain
  · rw [if_pos hplain, String.toList_ofList]
    by_cases hnone : (Number.pointed (Nat.toDigits 10 x.shortest.1) x.decpt).2 = []
    · obtain ⟨hread, hle⟩ := readNumber_addPoint x.sign x.shortest.1 hnone
      rw [if_pos hnone, hread]
      refine ⟨rfl, ?_⟩
      have hexp : (-1 : ℤ) = x.shortest.2 -
          (((x.decpt - numDigits x.shortest.1).toNat + 1 : ℕ) : ℤ) := by
        omega
      rw [hexp]
      exact decimalValue_scaled _ _ _
    · have hread := @readNumber_pointed 'e' (by decide) x.sign x.shortest.1 x.decpt none
      rw [exponentText, List.append_nil] at hread
      rw [if_neg hnone, hread]
      refine ⟨rfl, ?_⟩
      rw [← decimalValue_scaled x.shortest.1 (x.decpt - numDigits x.shortest.1).toNat]
      refine congrArg decimalValue (Prod.ext rfl ?_)
      change 0 + x.decpt - _ - _ = _
      omega
  · have hread := @readNumber_pointed 'e' (by decide) x.sign x.shortest.1 1
      (some (exponentDigits (x.decpt - 1)))
    have hpos := numDigits_pos x.shortest.1
    rw [if_neg hplain, String.toList_ofList]
    rw [exponentText] at hread
    rw [hread]
    refine ⟨rfl, ?_⟩
    rw [← decimalValue_scaled x.shortest.1 (1 - (numDigits x.shortest.1 : ℤ)).toNat]
    refine congrArg decimalValue (Prod.ext rfl ?_)
    change readExponent (exponentDigits _) + 1 - _ - _ = _
    rw [readExponent_exponentDigits]
    omega

/-- The text of a float rounds to the float. -/
theorem str_injective : Function.Injective str := by
  intro x y h
  obtain ⟨hsign, hvalue⟩ := x.readNumber_str
  obtain ⟨hsign', hvalue'⟩ := y.readNumber_str
  rw [h] at hsign hvalue
  have hrounds := x.rounds_shortest
  rw [← hvalue, hvalue'] at hrounds
  exact eq_of_rounds hrounds y.rounds_shortest (hsign.symm.trans hsign')

theorem isNumberChar_of_mem_exponentDigits {marker : Char} {n : ℤ} {c : Char}
    (hc : c ∈ exponentDigits n) : IsNumberChar marker c := by
  rcases List.mem_cons.mp hc with rfl | hc
  · split_ifs <;> exact .inl (by simp)
  · rcases List.mem_append.mp hc with hc | hc
    · split_ifs at hc
      · rw [List.mem_singleton.mp hc]
        exact .inr rfl
      · exact absurd hc List.not_mem_nil
    · exact .inr (Number.isDigit_of_mem_digits hc)

theorem isNumberChar_of_mem_str {x : Binary64} {c : Char} (hc : c ∈ x.str.toList) :
    IsNumberChar 'e' c := by
  have hnone : ∀ d ∈ (none : Option (List Char)).getD [], IsNumberChar 'e' d :=
    fun d hd ↦ absurd hd List.not_mem_nil
  unfold str at hc
  by_cases hplain : x.IsPlain
  · rw [if_pos hplain, String.toList_ofList] at hc
    by_cases hpoint : (Number.pointed (Nat.toDigits 10 x.shortest.1) x.decpt).2 = []
    · rw [if_pos hpoint] at hc
      rcases List.mem_append.mp hc with hc | hc
      · exact isNumberChar_of_mem_pointed hnone
          (List.mem_append_left _ (List.mem_append_left _ hc))
      · rcases List.mem_cons.mp hc with rfl | hc
        · exact .inl (by simp)
        · rw [List.mem_singleton.mp hc]
          exact .inr rfl
    · rw [if_neg hpoint] at hc
      exact isNumberChar_of_mem_pointed hnone (List.mem_append_left _ hc)
  · rw [if_neg hplain, String.toList_ofList] at hc
    have hexponent : ∀ d ∈ (some (exponentDigits (x.decpt - 1))).getD [], IsNumberChar 'e' d :=
      fun _ hd ↦ isNumberChar_of_mem_exponentDigits hd
    exact isNumberChar_of_mem_pointed hexponent hc

/-- No integer has such a text. -/
theorem point_or_exponent_mem_str (x : Binary64) : '.' ∈ x.str.toList ∨ 'e' ∈ x.str.toList := by
  unfold str
  by_cases hplain : x.IsPlain
  · rw [if_pos hplain, String.toList_ofList]
    refine .inl (List.mem_append_right _ ?_)
    obtain ⟨whole, fraction, -, hparts, -, -⟩ :=
      pointed_spec (Nat.toDigits_ne_nil (n := x.shortest.1) (b := 10)) x.decpt
    rw [hparts]
    by_cases hfraction : fraction = [] <;> simp [hfraction]
  · rw [if_neg hplain, String.toList_ofList]
    exact .inr (List.mem_append_right _ List.mem_cons_self)

end Binary64

/-! ### Numbers -/

inductive PyFloat
  | finite (number : Binary64)
  | infinity (sign : Bool)
  | nan
deriving DecidableEq

namespace PyFloat

def str : PyFloat → String
  | .finite number => number.str
  | .infinity sign => if sign then "-inf" else "inf"
  | .nan => "nan"

/-- Only what is not finite has this letter. -/
theorem mem_str_iff (x : PyFloat) : 'n' ∈ x.str.toList ↔
    x ∈ [.infinity true, .infinity false, .nan] := by
  cases x with
  | finite number =>
    constructor
    · exact fun h ↦ absurd (Binary64.isNumberChar_of_mem_str h) (by decide)
    · intro h
      simp only [List.mem_cons, List.not_mem_nil, or_false, reduceCtorEq] at h
  | infinity sign => cases sign <;> exact ⟨fun _ ↦ by simp, fun _ ↦ by decide⟩
  | nan => exact ⟨fun _ ↦ by simp, fun _ ↦ by decide⟩

theorem str_injective : Function.Injective str := by
  intro x y h
  have hx := x.mem_str_iff
  have hy := y.mem_str_iff
  rw [h] at hx
  by_cases hspecial : y ∈ [.infinity true, .infinity false, .nan]
  · have hspecial' := hx.mp (hy.mpr hspecial)
    simp only [List.mem_cons, List.not_mem_nil, or_false] at hspecial hspecial'
    rcases hspecial' with rfl | rfl | rfl <;> rcases hspecial with rfl | rfl | rfl <;>
      first | rfl | exact absurd h (by decide)
  · have hspecial' := mt hx.mpr (mt hy.mp hspecial)
    cases x with
    | finite number =>
      cases y with
      | finite number' => exact congrArg finite (Binary64.str_injective h)
      | infinity sign => cases sign <;> exact absurd (by simp) hspecial
      | nan => exact absurd (by simp) hspecial
    | infinity sign => cases sign <;> exact absurd (by simp) hspecial'
    | nan => exact absurd (by simp) hspecial'

end PyFloat

/-- An `int` or a `float`. -/
inductive PyNumber
  | int (n : ℤ)
  | float (x : PyFloat)
deriving DecidableEq

namespace PyNumber

def str : PyNumber → String
  | .int n => toString n
  | .float x => x.str

/-- The text of a float has a character that no text of an integer has. -/
theorem exists_mem_str_float (x : PyFloat) : ∃ c ∈ x.str.toList, c ≠ '-' ∧ ¬ c.isDigit := by
  cases x with
  | finite number =>
    rcases number.point_or_exponent_mem_str with h | h
    · exact ⟨'.', h, by decide⟩
    · exact ⟨'e', h, by decide⟩
  | infinity sign => exact ⟨'n', by cases sign <;> decide, by decide⟩
  | nan => exact ⟨'n', by decide, by decide⟩

theorem toString_ne_str (n : ℤ) (x : PyFloat) : toString n ≠ x.str := by
  intro h
  obtain ⟨c, hc, hminus, hdigit⟩ := exists_mem_str_float x
  rcases Decimal.eq_minus_or_isDigit_of_mem_int (h ▸ hc) with hsign | hdigit'
  · exact hminus hsign
  · exact hdigit hdigit'

theorem str_injective : Function.Injective str := by
  intro a b h
  cases a with
  | int m =>
    cases b with
    | int n => exact congrArg int (Decimal.int_toString_injective (congrArg String.toList h))
    | float y => exact absurd h (toString_ne_str m y)
  | float x =>
    cases b with
    | int n => exact absurd h.symm (toString_ne_str n x)
    | float y => exact congrArg float (PyFloat.str_injective h)

/-- No separator is part of such a text. -/
theorem notMem_str {a : PyNumber} {c : Char} (hc : ¬ IsNumberChar 'e' c)
    (hletter : c ∉ "infa".toList) : c ∉ a.str.toList := by
  intro h
  cases a with
  | int n =>
    rcases Decimal.eq_minus_or_isDigit_of_mem_int h with rfl | hdigit
    · exact hc (.inl List.mem_cons_self)
    · exact hc (.inr hdigit)
  | float x =>
    cases x with
    | finite number => exact hc (Binary64.isNumberChar_of_mem_str h)
    | infinity sign =>
      have hsub : "inf".toList ⊆ "infa".toList := by decide
      cases sign with
      | false => exact hletter (hsub h)
      | true =>
        rcases List.mem_cons.mp h with rfl | h
        · exact hc (.inl List.mem_cons_self)
        · exact hletter (hsub h)
    | nan =>
      have hsub : "nan".toList ⊆ "infa".toList := by decide
      exact hletter (hsub h)

end PyNumber

end YandexPay
