import YandexPay.Library.PyDecimal

/-!
# Texts of Python's decimal numbers

`str` of a finite `Decimal`: its digits with a point among them, or a coefficient of one digit
before the point and an exponent. `denotes_str_iff` says which texts are plain decimal text of their
number.
-/

set_option autoImplicit false
set_option relaxedAutoImplicit false

namespace YandexPay.PyDecimal

/-! ### Plain text -/

/-- Digits, of which some may follow a point, and possibly a minus before them. -/
def plainText (negative : Bool) (whole fraction : List Char) : List Char :=
  (if negative then ['-'] else []) ++ whole ++ if fraction = [] then [] else '.' :: fraction

/-- The text is plain decimal text of the number. -/
def Denotes (text : String) (v : ℚ) : Prop :=
  ∃ (negative : Bool) (whole fraction : List Char), whole ≠ [] ∧
    (∀ c ∈ whole ++ fraction, c.isDigit) ∧ text.toList = plainText negative whole fraction ∧
    v = (if negative then -1 else 1) *
      ((Nat.ofDigitChars 10 (whole ++ fraction) 0 : ℕ) / 10 ^ fraction.length : ℚ)

theorem mem_plainText {negative : Bool} {whole fraction : List Char}
    (hdigits : ∀ c ∈ whole ++ fraction, c.isDigit) {c : Char}
    (hc : c ∈ plainText negative whole fraction) : c = '-' ∨ c = '.' ∨ c.isDigit := by
  rw [plainText, List.mem_append, List.mem_append] at hc
  rcases hc with (hsign | hwhole) | hfraction
  · cases negative with
    | false => exact absurd hsign List.not_mem_nil
    | true => exact .inl (List.mem_singleton.mp hsign)
  · exact .inr (.inr (hdigits c (List.mem_append_left _ hwhole)))
  · split_ifs at hfraction
    · exact absurd hfraction List.not_mem_nil
    · rcases List.mem_cons.mp hfraction with rfl | hmem
      · exact .inr (.inl rfl)
      · exact .inr (.inr (hdigits c (List.mem_append_right _ hmem)))

namespace Number

/-! ### `str` -/

def zeros (n : ℤ) : List Char := List.replicate n.toNat '0'

/-- `'%+d'` -/
def signedText (n : ℤ) : List Char := (if n < 0 then '-' else '+') :: Nat.toDigits 10 n.natAbs

/-- `leftdigits`, the count of digits before the point. -/
def leftdigits (d : Number) : ℤ := d.exp + numDigits d.int

/-- The number is written without an exponent. -/
def IsPlain (d : Number) : Prop := d.exp ≤ 0 ∧ -6 < d.leftdigits

instance (d : Number) : Decidable d.IsPlain := inferInstanceAs (Decidable (_ ∧ _))

/-- The place of the point among the digits that are written. -/
def dotplace (d : Number) : ℤ := if d.IsPlain then d.leftdigits else 1

/-- `intpart` and `fracpart` -/
def pointed (digits : List Char) (dotplace : ℤ) : List Char × List Char :=
  if dotplace ≤ 0 then (['0'], '.' :: (zeros (-dotplace) ++ digits))
  else if digits.length ≤ dotplace then (digits ++ zeros (dotplace - digits.length), [])
  else (digits.take dotplace.toNat, '.' :: digits.drop dotplace.toNat)

def str (d : Number) : String :=
  let parts := pointed (Nat.toDigits 10 d.int) d.dotplace
  let exp := if d.leftdigits = d.dotplace then [] else
    'E' :: signedText (d.leftdigits - d.dotplace)
  String.ofList ((if d.sign then ['-'] else []) ++ parts.1 ++ parts.2 ++ exp)

example : (⟨true, 1000, -2⟩ : Number).str = "-10.00" := by decide +kernel

example : (⟨false, 0, -7⟩ : Number).str = "0E-7" := by decide +kernel

theorem isDigit_of_mem_digits {n : ℕ} {c : Char} (hc : c ∈ Nat.toDigits 10 n) : c.isDigit :=
  Nat.isDigit_of_mem_toDigits (by decide) (by decide) hc

theorem isDigit_of_mem_zeros {n : ℤ} {c : Char} (hc : c ∈ zeros n) : c.isDigit := by
  rw [List.eq_of_mem_replicate hc]
  rfl

/-- The digits behind the sign are those of the coefficient, with zeros before them. -/
theorem denotes_of_digits (d : Number) (k : ℕ) (whole fraction : List Char) (hwhole : whole ≠ [])
    (hsplit : whole ++ fraction = List.replicate k '0' ++ Nat.toDigits 10 d.int)
    (hexp : d.exp = -fraction.length) {text : String}
    (htext : text.toList = plainText d.sign whole fraction) : Denotes text d.value := by
  refine ⟨d.sign, whole, fraction, hwhole, fun c hc ↦ ?_, htext, ?_⟩
  · rw [hsplit] at hc
    rcases List.mem_append.mp hc with hzero | hdigit
    · exact isDigit_of_mem_zeros (n := k) hzero
    · exact isDigit_of_mem_digits hdigit
  · rw [hsplit, Nat.ofDigitChars_append, Nat.ofDigitChars_replicate_zero, Nat.mul_zero,
      Nat.ofDigitChars_ten_toDigits, value, magnitude, hexp, zpow_neg, zpow_natCast, div_eq_mul_inv]
    split_ifs
    · rw [neg_one_mul]
    · rw [one_mul]

theorem toList_str_of_isPlain {d : Number} (h : d.IsPlain) :
    d.str.toList = (if d.sign then ['-'] else []) ++
      (pointed (Nat.toDigits 10 d.int) d.leftdigits).1 ++
        (pointed (Nat.toDigits 10 d.int) d.leftdigits).2 := by
  have hdot : d.dotplace = d.leftdigits := if_pos h
  rw [str, String.toList_ofList, hdot, if_pos rfl, List.append_nil]

theorem denotes_str_of_isPlain {d : Number} (h : d.IsPlain) : Denotes d.str d.value := by
  have htext := toList_str_of_isPlain h
  have hexp : d.exp ≤ 0 := h.1
  have hleft : d.leftdigits = d.exp + (Nat.toDigits 10 d.int).length := rfl
  have hne : Nat.toDigits 10 d.int ≠ [] := Nat.toDigits_ne_nil
  by_cases hzero : d.leftdigits ≤ 0
  · -- Nothing but a zero stands before the point.
    rw [pointed, if_pos hzero] at htext
    refine denotes_of_digits d ((-d.leftdigits).toNat + 1) ['0']
      (zeros (-d.leftdigits) ++ Nat.toDigits 10 d.int) (List.cons_ne_nil _ _) ?_ ?_ ?_
    · rw [List.replicate_succ]
      rfl
    · rw [List.length_append, zeros, List.length_replicate]
      omega
    · rw [htext, plainText, if_neg (List.append_ne_nil_of_right_ne_nil _ hne)]
  by_cases hwhole : ((Nat.toDigits 10 d.int).length : ℤ) ≤ d.leftdigits
  · have hzeros : zeros (d.leftdigits - (Nat.toDigits 10 d.int).length) = [] := by
      rw [zeros, List.replicate_eq_nil_iff]
      omega
    rw [pointed, if_neg hzero, if_pos hwhole, hzeros, List.append_nil, List.append_nil] at htext
    refine denotes_of_digits d 0 (Nat.toDigits 10 d.int) [] hne (List.append_nil _) ?_ ?_
    · rw [List.length_nil]
      omega
    · rw [htext, plainText, if_pos rfl, List.append_nil]
  · rw [pointed, if_neg hzero, if_neg hwhole] at htext
    refine denotes_of_digits d 0 ((Nat.toDigits 10 d.int).take d.leftdigits.toNat)
      ((Nat.toDigits 10 d.int).drop d.leftdigits.toNat) ?_ (List.take_append_drop _ _) ?_ ?_
    · exact List.ne_nil_of_length_pos (by rw [List.length_take]; omega)
    · rw [List.length_drop]
      omega
    · rw [htext, plainText,
        if_neg (List.ne_nil_of_length_pos (by rw [List.length_drop]; omega))]

/-- A text with an exponent is no plain decimal text. -/
theorem not_denotes_str {d : Number} (h : ¬ d.IsPlain) (v : ℚ) : ¬ Denotes d.str v := by
  have hdigits := numDigits_pos d.int
  have hexponent : 'E' ∈ d.str.toList := by
    have hdot : d.dotplace = 1 := if_neg h
    have hleft : ¬ d.leftdigits = 1 := by
      rw [IsPlain, leftdigits] at h
      rw [leftdigits]
      omega
    rw [str, String.toList_ofList, hdot, if_neg hleft]
    exact List.mem_append_right _ List.mem_cons_self
  rintro ⟨negative, whole, fraction, -, hplain, htext, -⟩
  rw [htext] at hexponent
  rcases mem_plainText hplain hexponent with hsign | hpoint | hdigit
  · exact absurd hsign (by decide)
  · exact absurd hpoint (by decide)
  · exact absurd hdigit (by decide)

/-- The text of a number is plain decimal text exactly when it has no exponent. -/
theorem denotes_str_iff (d : Number) : Denotes d.str d.value ↔ d.IsPlain :=
  ⟨fun hdenotes ↦ by_contra fun h ↦ not_denotes_str h _ hdenotes, denotes_str_of_isPlain⟩

end Number

/-! ### Special values -/

/-- A `Decimal`; the text of a NaN may have digits behind it. -/
inductive Decimal
  | finite (number : Number)
  | infinity (sign : Bool)
  | nan (sign signals : Bool) (diagnostic : Option ℕ)
  deriving DecidableEq

namespace Decimal

def str : Decimal → String
  | .finite number => number.str
  | .infinity sign => if sign then "-Infinity" else "Infinity"
  | .nan sign signals diagnostic =>
    (if sign then "-" else "") ++ (if signals then "sNaN" else "NaN") ++ diagnostic.elim "" Nat.repr

/-- `bool(d)` -/
def truthy : Decimal → Bool
  | .finite number => number.int ≠ 0
  | .infinity _ => true
  | .nan .. => true

/-- The text is plain decimal text of the value, which is then finite. -/
def DenotedBy (text : String) : Decimal → Prop
  | .finite number => Denotes text number.value
  | .infinity _ => False
  | .nan .. => False

/-- The value is finite and written without an exponent. -/
def IsPlain : Decimal → Prop
  | .finite number => number.IsPlain
  | .infinity _ => False
  | .nan .. => False

theorem denotedBy_str_iff (d : Decimal) : DenotedBy d.str d ↔ d.IsPlain := by
  cases d with
  | finite number => exact number.denotes_str_iff
  | infinity sign => exact Iff.rfl
  | nan sign signals diagnostic => exact Iff.rfl

end Decimal

end YandexPay.PyDecimal
