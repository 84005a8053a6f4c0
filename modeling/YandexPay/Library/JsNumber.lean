import Mathlib.Algebra.Order.Field.Rat
import Mathlib.Data.List.Infix
import Mathlib.Data.List.TakeWhile
import Mathlib.Data.Rat.Floor
import Mathlib.Data.Sign.Basic
import Mathlib.Order.WithBot

/-!
# Numbers of JavaScript and their decimal texts

The numbers of the language with exact arithmetic: a finite number is a rational. `ofText` is
`Number(text)` and `toFixed` the method of that name, which writes a number with a given count of
decimals, ties rounded away from zero. `ofText_toFixed` reads a written number back: it is the
number rounded to that count. A finite number that was read from a text is a decimal fraction
(`isDecimal_of_ofText`), and every decimal fraction has a text (`exists_text`).
-/

set_option autoImplicit false
set_option relaxedAutoImplicit false

namespace YandexPay

inductive JsNumber
  | nan
  | infinite (negative : Bool)
  | finite (value : ℚ)
  deriving DecidableEq

namespace JsNumber

/-! ### Arithmetic -/

protected def add : JsNumber → JsNumber → JsNumber
  | .finite x, .finite y => .finite (x + y)
  | .finite _, .infinite negative => .infinite negative
  | .infinite negative, .finite _ => .infinite negative
  | .infinite a, .infinite b => if a = b then .infinite a else .nan
  | .nan, _ => .nan
  | _, .nan => .nan

protected def neg : JsNumber → JsNumber
  | .nan => .nan
  | .infinite negative => .infinite !negative
  | .finite x => .finite (-x)

/-- An infinite number with the sign of a product, or no number when the other factor is zero. -/
def scaleInfinite (negative : Bool) (x : ℚ) : JsNumber :=
  if x = 0 then .nan else .infinite (negative != decide (x < 0))

protected def mul : JsNumber → JsNumber → JsNumber
  | .finite x, .finite y => .finite (x * y)
  | .finite x, .infinite negative => scaleInfinite negative x
  | .infinite negative, .finite x => scaleInfinite negative x
  | .infinite a, .infinite b => .infinite (a != b)
  | .nan, _ => .nan
  | _, .nan => .nan

instance : Zero JsNumber := ⟨.finite 0⟩

instance : One JsNumber := ⟨.finite 1⟩

instance : Add JsNumber := ⟨JsNumber.add⟩

instance : Sub JsNumber := ⟨fun a b ↦ a.add b.neg⟩

instance : Mul JsNumber := ⟨JsNumber.mul⟩

@[simp] theorem finite_add_finite (x y : ℚ) :
    JsNumber.finite x + JsNumber.finite y = .finite (x + y) := rfl

theorem add_comm (a b : JsNumber) : a + b = b + a := by
  change a.add b = b.add a
  cases a with
  | nan => cases b <;> rfl
  | finite x =>
    cases b with
    | finite y => exact congrArg finite (Rat.add_comm x y)
    | _ => rfl
  | infinite s =>
    cases b with
    | infinite t => cases s <;> cases t <;> rfl
    | _ => rfl

theorem add_assoc (a b c : JsNumber) : a + b + c = a + (b + c) := by
  change (a.add b).add c = a.add (b.add c)
  cases a with
  | nan => cases b <;> cases c <;> rfl
  | finite x =>
    cases b with
    | nan => cases c <;> rfl
    | finite y =>
      cases c with
      | finite z => exact congrArg finite (Rat.add_assoc x y z)
      | _ => rfl
    | infinite t =>
      cases c with
      | infinite u => cases t <;> cases u <;> rfl
      | _ => rfl
  | infinite s =>
    cases b with
    | nan => cases c <;> rfl
    | finite y =>
      cases c with
      | infinite u => cases s <;> cases u <;> rfl
      | _ => rfl
    | infinite t =>
      cases c with
      | infinite u => cases s <;> cases t <;> cases u <;> rfl
      | _ => cases s <;> cases t <;> rfl

theorem zero_add (a : JsNumber) : 0 + a = a := by
  cases a with
  | finite x => exact congrArg finite (Rat.zero_add x)
  | _ => rfl

instance : AddCommMonoid JsNumber where
  add_assoc := add_assoc
  zero_add := zero_add
  add_zero a := by rw [add_comm, zero_add]
  add_comm := add_comm
  nsmul := nsmulRec

/-! ### Comparison -/

/-- `a < b` -/
def less : JsNumber → JsNumber → Bool
  | .finite x, .finite y => x < y
  | .finite _, .infinite negative => !negative
  | .infinite negative, .finite _ => negative
  | .infinite a, .infinite b => a && !b
  | .nan, _ => false
  | _, .nan => false

/-- `value || fallback` -/
def orElse (value fallback : JsNumber) : JsNumber :=
  if value = .nan ∨ value = .finite 0 then fallback else value

/-! ### Reading -/

/-- `WhiteSpace` and `LineTerminator` of the language. -/
def isWhiteSpace (c : Char) : Bool :=
  [0x9, 0xa, 0xb, 0xc, 0xd, 0x20, 0xa0, 0x1680, 0x2028, 0x2029, 0x202f, 0x205f, 0x3000,
    0xfeff].contains c.toNat ∨ 0x2000 ≤ c.toNat ∧ c.toNat ≤ 0x200a

def trim (cs : List Char) : List Char :=
  ((cs.dropWhile isWhiteSpace).reverse.dropWhile isWhiteSpace).reverse

/-- The value of a digit in a radix up to 16. -/
def digitValue (c : Char) : ℕ :=
  if c.isDigit then c.toNat - 48
  else if 'a' ≤ c ∧ c ≤ 'f' then c.toNat - 87
  else if 'A' ≤ c ∧ c ≤ 'F' then c.toNat - 55
  else 16

/-- The digits of a literal such as `0x1f` in its radix. -/
def ofRadixDigits (radix : ℕ) (digits : List Char) : JsNumber :=
  if digits ≠ [] ∧ digits.all fun c ↦ digitValue c < radix then
    .finite (digits.foldl (fun n c ↦ radix * n + digitValue c) 0 : ℕ)
  else .nan

/-- One or more decimal digits. -/
def readDigits (digits : List Char) : Option ℕ :=
  if digits ≠ [] ∧ digits.all Char.isDigit then some (Nat.ofDigitChars 10 digits 0) else none

/-- The exponent at the end of a decimal literal, when there is one. -/
def readExponent : List Char → Option ℤ
  | [] => some 0
  | c :: rest =>
    if c = 'e' ∨ c = 'E' then
      match rest with
      | '+' :: digits => (readDigits digits).map Nat.cast
      | '-' :: digits => (readDigits digits).map fun n ↦ -(n : ℤ)
      | digits => (readDigits digits).map Nat.cast
    else none

/-- The digits after the point, and what follows them. -/
def readFraction : List Char → List Char × List Char
  | '.' :: rest => (rest.takeWhile Char.isDigit, rest.dropWhile Char.isDigit)
  | rest => ([], rest)

/-- `StrUnsignedDecimalLiteral` -/
def readUnsigned (cs : List Char) : Option ℚ :=
  let whole := cs.takeWhile Char.isDigit
  let (fraction, rest) := readFraction (cs.dropWhile Char.isDigit)
  if whole ++ fraction = [] then none
  else (readExponent rest).map fun exponent : ℤ ↦
    Nat.ofDigitChars 10 (whole ++ fraction) 0 * (10 : ℚ) ^ (exponent - fraction.length)

/-- `StrDecimalLiteral` after its sign. -/
def readDecimal (cs : List Char) : JsNumber :=
  if cs = "Infinity".toList then .infinite false
  else
    match readUnsigned cs with
    | some value => .finite value
    | none => .nan

/-- `StringNumericLiteral` after it has been trimmed. -/
def readNumber : List Char → JsNumber
  | [] => .finite 0
  | '+' :: cs => readDecimal cs
  | '-' :: cs => (readDecimal cs).neg
  | '0' :: 'x' :: digits => ofRadixDigits 16 digits
  | '0' :: 'X' :: digits => ofRadixDigits 16 digits
  | '0' :: 'o' :: digits => ofRadixDigits 8 digits
  | '0' :: 'O' :: digits => ofRadixDigits 8 digits
  | '0' :: 'b' :: digits => ofRadixDigits 2 digits
  | '0' :: 'B' :: digits => ofRadixDigits 2 digits
  | cs => readDecimal cs

/-- `Number(text)` -/
def ofText (text : String) : JsNumber := readNumber (trim text.toList)

/-! ### Writing -/

/-- The digits of `n`, with zeros before them so that there are more than `decimals`. -/
def paddedDigits (decimals n : ℕ) : List Char :=
  List.replicate (decimals + 1 - (Nat.toDigits 10 n).length) '0' ++ Nat.toDigits 10 n

/-- Writes `n` with a point before its last `decimals` digits. -/
def pointText (decimals n : ℕ) : List Char :=
  let digits := paddedDigits decimals n
  if decimals = 0 then digits
  else
    digits.take (digits.length - decimals) ++ '.' :: digits.drop (digits.length - decimals)

/-- The natural number closest to a non-negative number, the larger of two. -/
def closest (x : ℚ) : ℕ := ⌊x + 1 / 2⌋₊

/-- `number.toFixed(decimals)` -/
def toFixed (decimals : ℕ) : JsNumber → String
  | .nan => "NaN"
  | .infinite negative => if negative then "-Infinity" else "Infinity"
  | .finite x =>
    let digits := pointText decimals (closest (|x| * 10 ^ decimals))
    String.ofList (if x < 0 then '-' :: digits else digits)

/-- A number rounded to a count of decimals. -/
def round (decimals : ℕ) : JsNumber → JsNumber
  | .finite x =>
    .finite ((if x < 0 then -1 else 1) * closest (|x| * 10 ^ decimals) / 10 ^ decimals)
  | x => x

example : ofText " -12.345e1\n" = .finite (-12345 / 100) := by decide +kernel

example : (finite (12345 / 1000)).toFixed 2 = "12.35" := by decide +kernel

example : (finite (-1 / 1000)).toFixed 2 = "-0.00" := by decide +kernel

/-! ### Reading what was written -/

theorem isDigit_of_mem_paddedDigits {decimals n : ℕ} {c : Char}
    (hc : c ∈ paddedDigits decimals n) : c.isDigit = true := by
  rcases List.mem_append.mp hc with hzero | hdigit
  · rw [List.eq_of_mem_replicate hzero]
    rfl
  · exact Nat.isDigit_of_mem_toDigits (by decide) (by decide) hdigit

theorem ofDigitChars_paddedDigits (decimals n : ℕ) :
    Nat.ofDigitChars 10 (paddedDigits decimals n) 0 = n := by
  rw [paddedDigits, Nat.ofDigitChars_append, Nat.ofDigitChars_replicate_zero, Nat.mul_zero,
    Nat.ofDigitChars_ten_toDigits]

theorem lt_length_paddedDigits (decimals n : ℕ) : decimals < (paddedDigits decimals n).length := by
  rw [paddedDigits, List.length_append, List.length_replicate]
  omega

/-- The characters of a written number without its sign. -/
theorem mem_pointText {decimals n : ℕ} {c : Char} (hc : c ∈ pointText decimals n) :
    c.isDigit = true ∨ c = '.' := by
  rw [pointText] at hc
  split_ifs at hc
  · exact Or.inl (isDigit_of_mem_paddedDigits hc)
  · rcases List.mem_append.mp hc with hwhole | hfraction
    · exact Or.inl (isDigit_of_mem_paddedDigits (List.mem_of_mem_take hwhole))
    · rcases List.mem_cons.mp hfraction with rfl | hfraction
      · exact Or.inr rfl
      · exact Or.inl (isDigit_of_mem_paddedDigits (List.mem_of_mem_drop hfraction))

/-- Digits with a point among them. -/
theorem readUnsigned_point {whole fraction : List Char} (hwhole : ∀ c ∈ whole, c.isDigit = true)
    (hfraction : ∀ c ∈ fraction, c.isDigit = true) (hne : whole ++ fraction ≠ []) :
    readUnsigned (whole ++ '.' :: fraction) =
      some ((Nat.ofDigitChars 10 (whole ++ fraction) 0 : ℕ) / 10 ^ fraction.length : ℚ) := by
  have htake : (whole ++ '.' :: fraction).takeWhile Char.isDigit = whole := by
    rw [List.takeWhile_append_of_pos hwhole, List.takeWhile_cons_of_neg (by decide),
      List.append_nil]
  have hdrop : (whole ++ '.' :: fraction).dropWhile Char.isDigit = '.' :: fraction := by
    rw [List.dropWhile_append_of_pos hwhole, List.dropWhile_cons_of_neg (by decide)]
  have hread : readFraction ('.' :: fraction) = (fraction, []) := by
    rw [readFraction, List.takeWhile_eq_self_iff.mpr hfraction,
      List.dropWhile_eq_nil_iff.mpr hfraction]
  rw [readUnsigned, htake, hdrop, hread]
  simp only [if_neg hne, readExponent, Option.map_some, zero_sub, zpow_neg, zpow_natCast,
    div_eq_mul_inv]

theorem readUnsigned_digits {digits : List Char} (hdigits : ∀ c ∈ digits, c.isDigit = true)
    (hne : digits ≠ []) :
    readUnsigned digits = some ((Nat.ofDigitChars 10 digits 0 : ℕ) : ℚ) := by
  have hread : readFraction [] = ([], []) := rfl
  rw [readUnsigned, List.takeWhile_eq_self_iff.mpr hdigits, List.dropWhile_eq_nil_iff.mpr hdigits,
    hread]
  simp [hne, readExponent]

theorem readUnsigned_pointText (decimals n : ℕ) :
    readUnsigned (pointText decimals n) = some ((n : ℚ) / 10 ^ decimals) := by
  have hdigits : ∀ c ∈ paddedDigits decimals n, c.isDigit = true :=
    fun c hc ↦ isDigit_of_mem_paddedDigits hc
  have hlength := lt_length_paddedDigits decimals n
  have hne : paddedDigits decimals n ≠ [] := List.ne_nil_of_length_pos (by omega)
  rw [pointText]
  split_ifs with hzero
  · rw [readUnsigned_digits hdigits hne, ofDigitChars_paddedDigits, hzero, pow_zero, div_one]
  · rw [readUnsigned_point (fun c hc ↦ hdigits c (List.mem_of_mem_take hc))
      (fun c hc ↦ hdigits c (List.mem_of_mem_drop hc)) (by rw [List.take_append_drop]; exact hne),
      List.take_append_drop, ofDigitChars_paddedDigits, List.length_drop,
      Nat.sub_sub_self hlength.le]

theorem trim_eq_self {cs : List Char} (h : ∀ c ∈ cs, isWhiteSpace c = false) : trim cs = cs := by
  have hdrop : ∀ l : List Char, (∀ c ∈ l, isWhiteSpace c = false) →
      l.dropWhile isWhiteSpace = l := by
    intro l hl
    cases l with
    | nil => rfl
    | cons c l => exact List.dropWhile_cons_of_neg (by simp [hl c List.mem_cons_self])
  rw [trim, hdrop cs h, hdrop cs.reverse fun c hc ↦ h c (List.mem_reverse.mp hc),
    List.reverse_reverse]

/-- The characters of a written number are no white space. -/
theorem isWhiteSpace_eq_false {c : Char} (hc : c.isDigit = true ∨ c = '.' ∨ c = '-') :
    isWhiteSpace c = false := by
  rcases hc with hdigit | rfl | rfl
  · have hbounds : 48 ≤ c.toNat ∧ c.toNat ≤ 57 := by
      simpa [Char.isDigit, UInt32.le_iff_toNat_le] using hdigit
    obtain ⟨hlow, hhigh⟩ := hbounds
    simp only [isWhiteSpace, List.contains_eq_mem, List.mem_cons, List.not_mem_nil,
      decide_eq_true_eq, or_false, decide_eq_false_iff_not]
    omega
  · decide
  · decide

/-- A text of digits and points has no sign, and is no literal of another radix. -/
theorem readNumber_of_digits {cs : List Char} (hne : cs ≠ [])
    (hcs : ∀ c ∈ cs, c.isDigit = true ∨ c = '.') : readNumber cs = readDecimal cs := by
  have hnot : ∀ c, c.isDigit = false → c ≠ '.' → c ∉ cs := by
    intro c hdigit hpoint hmem
    rcases hcs c hmem with h | h
    · rw [hdigit] at h
      cases h
    · exact hpoint h
  unfold readNumber
  split
  · exact absurd rfl hne
  all_goals first
    | rfl
    | exact absurd List.mem_cons_self (hnot _ (by decide) (by decide))
    | exact absurd (List.mem_cons_of_mem _ List.mem_cons_self) (hnot _ (by decide) (by decide))

theorem readDecimal_pointText (decimals n : ℕ) :
    readDecimal (pointText decimals n) = .finite ((n : ℚ) / 10 ^ decimals) := by
  have hfinite : pointText decimals n ≠ "Infinity".toList := by
    intro h
    have hmem : 'I' ∈ pointText decimals n := by
      rw [h]
      decide
    rcases mem_pointText hmem with hdigit | hpoint
    · cases hdigit
    · cases hpoint
  rw [readDecimal, if_neg hfinite, readUnsigned_pointText]

theorem pointText_ne_nil (decimals n : ℕ) : pointText decimals n ≠ [] := by
  intro h
  have hread := readUnsigned_pointText decimals n
  rw [h] at hread
  cases hread

/-- A written number reads as the number rounded to the count of decimals written. -/
theorem ofText_toFixed (decimals : ℕ) (x : JsNumber) :
    ofText (x.toFixed decimals) = x.round decimals := by
  cases x with
  | nan =>
    change ofText "NaN" = .nan
    decide
  | infinite negative =>
    cases negative with
    | false =>
      change ofText "Infinity" = .infinite false
      decide
    | true =>
      change ofText "-Infinity" = .infinite true
      decide
  | finite x =>
    have hchars : ∀ n, ∀ c ∈ pointText decimals n, isWhiteSpace c = false := fun n c hc ↦
      isWhiteSpace_eq_false ((mem_pointText hc).imp_right Or.inl)
    rw [ofText, toFixed, String.toList_ofList, round]
    by_cases hneg : x < 0
    · rw [if_pos hneg, if_pos hneg, trim_eq_self (List.forall_mem_cons.mpr
        ⟨by decide, hchars _⟩), readNumber, readDecimal_pointText, JsNumber.neg, neg_one_mul,
        neg_div]
    · rw [if_neg hneg, if_neg hneg, trim_eq_self (hchars _),
        readNumber_of_digits (pointText_ne_nil _ _) fun c hc ↦ mem_pointText hc,
        readDecimal_pointText, one_mul]

/-! ### Decimal fractions -/

/-- A number with finitely many decimals. -/
def IsDecimal (q : ℚ) : Prop := ∃ (decimals : ℕ) (n : ℤ), q = n / 10 ^ decimals

theorem IsDecimal.of_nat (n : ℕ) : IsDecimal n := ⟨0, n, by simp⟩

theorem IsDecimal.neg {q : ℚ} (h : IsDecimal q) : IsDecimal (-q) := by
  obtain ⟨decimals, n, rfl⟩ := h
  exact ⟨decimals, -n, by rw [Int.cast_neg, neg_div]⟩

theorem IsDecimal.add {p q : ℚ} (hp : IsDecimal p) (hq : IsDecimal q) : IsDecimal (p + q) := by
  obtain ⟨k, m, rfl⟩ := hp
  obtain ⟨l, n, rfl⟩ := hq
  have hk : (10 : ℚ) ^ k ≠ 0 := pow_ne_zero _ (by norm_num)
  have hl : (10 : ℚ) ^ l ≠ 0 := pow_ne_zero _ (by norm_num)
  refine ⟨k + l, m * 10 ^ l + 10 ^ k * n, ?_⟩
  rw [div_add_div _ _ hk hl, pow_add]
  push_cast
  rfl

theorem IsDecimal.scale {q : ℚ} (h : IsDecimal q) (e : ℤ) : IsDecimal (q * 10 ^ e) := by
  obtain ⟨k, n, rfl⟩ := h
  cases e with
  | ofNat e =>
    refine ⟨k, n * 10 ^ e, ?_⟩
    rw [Int.ofNat_eq_natCast, zpow_natCast]
    push_cast
    rw [div_mul_eq_mul_div]
  | negSucc e =>
    refine ⟨k + (e + 1), n, ?_⟩
    rw [zpow_negSucc, ← div_eq_mul_inv, div_div, ← pow_add]

theorem isDecimal_of_readUnsigned {cs : List Char} {q : ℚ} (h : readUnsigned cs = some q) :
    IsDecimal q := by
  unfold readUnsigned at h
  simp only at h
  split_ifs at h
  obtain ⟨exponent, -, rfl⟩ := Option.map_eq_some_iff.mp h
  exact (IsDecimal.of_nat _).scale _

theorem isDecimal_of_readDecimal {cs : List Char} {q : ℚ} (h : readDecimal cs = .finite q) :
    IsDecimal q := by
  rw [readDecimal] at h
  split_ifs at h
  split at h
  · obtain rfl := finite.inj h
    exact isDecimal_of_readUnsigned ‹_›
  · cases h

theorem isDecimal_of_ofRadixDigits {radix : ℕ} {digits : List Char} {q : ℚ}
    (h : ofRadixDigits radix digits = .finite q) : IsDecimal q := by
  rw [ofRadixDigits] at h
  split_ifs at h
  obtain rfl := finite.inj h
  exact IsDecimal.of_nat _

/-- A finite number that is read from a text has finitely many decimals. -/
theorem isDecimal_of_ofText {text : String} {q : ℚ} (h : ofText text = .finite q) :
    IsDecimal q := by
  unfold ofText readNumber at h
  split at h
  · obtain rfl := finite.inj h
    exact ⟨0, 0, by simp⟩
  · exact isDecimal_of_readDecimal h
  · rename_i cs _
    cases hread : readDecimal cs with
    | finite x =>
      rw [hread] at h
      obtain rfl := finite.inj h
      exact (isDecimal_of_readDecimal hread).neg
    | _ =>
      rw [hread] at h
      cases h
  all_goals first
    | exact isDecimal_of_ofRadixDigits h
    | exact isDecimal_of_readDecimal h

theorem closest_natCast (n : ℕ) : closest n = n := by
  refine (Nat.floor_eq_iff (by positivity)).mpr ⟨?_, ?_⟩
  · linarith
  · linarith

/-- A number of at most the given count of decimals is its own rounding. -/
theorem round_of_eq {decimals : ℕ} {n : ℤ} {q : ℚ} (h : q = n / 10 ^ decimals) :
    (finite q).round decimals = .finite q := by
  have hpos : (0 : ℚ) < 10 ^ decimals := by positivity
  have hscaled : |q| * 10 ^ decimals = n.natAbs := by
    rw [h, abs_div, abs_of_pos hpos, div_mul_cancel₀ _ hpos.ne', Nat.cast_natAbs, Int.cast_abs]
  have hsign : (if q < 0 then (-1 : ℚ) else 1) * n.natAbs = n := by
    rw [Nat.cast_natAbs, Int.cast_abs]
    split_ifs with hneg
    · have hn : (n : ℚ) < 0 := by
        rw [h] at hneg
        exact (div_neg_iff.mp hneg).elim (fun hc ↦ absurd hc.2 hpos.le.not_gt) And.left
      rw [abs_of_neg hn, neg_one_mul, neg_neg]
    · have hn : (0 : ℚ) ≤ n := by
        rw [not_lt, h] at hneg
        exact (div_nonneg_iff.mp hneg).elim And.left fun hc ↦ absurd hc.2 hpos.not_ge
      rw [abs_of_nonneg hn, one_mul]
  rw [round, hscaled, closest_natCast, hsign, ← h]

/-- Every decimal fraction has a text. -/
theorem exists_text {q : ℚ} (h : IsDecimal q) : ∃ text, ofText text = .finite q := by
  obtain ⟨decimals, n, hq⟩ := h
  exact ⟨(finite q).toFixed decimals, (ofText_toFixed _ _).trans (round_of_eq hq)⟩

/-- Half a unit of the last decimal is rounded up, and anything less is rounded differently. -/
theorem round_half_ne {decimals : ℕ} {x y : ℚ} (hx : x = 1 / 2 / 10 ^ decimals) (hy : y < x) :
    (finite x).round decimals ≠ (finite y).round decimals := by
  have hpos : (0 : ℚ) < 10 ^ decimals := by positivity
  have hhalf : |x| * 10 ^ decimals = 1 / 2 := by
    rw [hx, abs_of_pos (by positivity), div_mul_cancel₀ _ hpos.ne']
  have hone : closest (|x| * 10 ^ decimals) = 1 := by
    rw [hhalf, closest]
    norm_num
  have hx0 : ¬ x < 0 := by
    rw [hx, not_lt]
    positivity
  rw [round, round, hone, if_neg hx0]
  intro h
  have heq := finite.inj h
  rw [div_left_inj' hpos.ne'] at heq
  by_cases hneg : y < 0
  · rw [if_pos hneg] at heq
    have hnonneg : (0 : ℚ) ≤ closest (|y| * 10 ^ decimals) := Nat.cast_nonneg _
    push_cast at heq
    linarith
  · rw [if_neg hneg] at heq
    have hsmall : |y| * 10 ^ decimals < 1 / 2 := by
      rw [abs_of_nonneg (not_lt.mp hneg), ← hhalf, abs_of_nonneg (not_lt.mp hx0)]
      exact mul_lt_mul_of_pos_right hy hpos
    have hzero : closest (|y| * 10 ^ decimals) = 0 := by
      refine Nat.floor_eq_zero.mpr ?_
      linarith
    rw [hzero] at heq
    norm_num at heq

/-- Two different decimal fractions are told apart by their roundings, after a decimal fraction
has been added to both. -/
theorem exists_round_ne (decimals : ℕ) {p q : ℚ} (hp : IsDecimal p) (hq : IsDecimal q)
    (hne : p ≠ q) : ∃ s, IsDecimal s ∧
      (finite (p + s)).round decimals ≠ (finite (q + s)).round decimals := by
  have hhalf : IsDecimal (1 / 2 / 10 ^ decimals) := by
    refine ⟨decimals + 1, 5, ?_⟩
    rw [pow_succ]
    field_simp
    norm_num
  rcases lt_or_gt_of_ne hne with hlt | hlt
  · refine ⟨1 / 2 / 10 ^ decimals + -q, hhalf.add hq.neg, Ne.symm ?_⟩
    exact round_half_ne (by ring) (by linarith)
  · refine ⟨1 / 2 / 10 ^ decimals + -p, hhalf.add hp.neg, ?_⟩
    exact round_half_ne (by ring) (by linarith)

/-! ### Comparing by a difference -/

/-- The sign of a result, where a comparison counts no number as zero. -/
def sign : JsNumber → SignType
  | .nan => 0
  | .infinite negative => if negative then -1 else 1
  | .finite x => SignType.sign x

theorem sign_sub_eq_one_iff {x y : JsNumber} : (x - y).sign = 1 ↔ y.less x = true := by
  change (x.add y.neg).sign = 1 ↔ _
  cases x with
  | nan => cases y <;> simp [JsNumber.add, sign, less]
  | infinite a =>
    cases y with
    | infinite b => cases a <;> cases b <;> decide
    | _ => cases a <;> simp [JsNumber.add, JsNumber.neg, sign, less]
  | finite x =>
    cases y with
    | nan => simp [JsNumber.add, JsNumber.neg, sign, less]
    | infinite b => cases b <;> simp [JsNumber.add, JsNumber.neg, sign, less]
    | finite y =>
      simp only [JsNumber.add, JsNumber.neg, sign, less, sign_eq_one_iff, decide_eq_true_eq]
      rw [← sub_eq_add_neg, sub_pos]

/-- The sign of a difference is reversed with its operands. -/
theorem sign_sub_swap (x y : JsNumber) : (x - y).sign = -(y - x).sign := by
  change (x.add y.neg).sign = -(y.add x.neg).sign
  cases x with
  | nan => cases y <;> rfl
  | infinite a =>
    cases y with
    | nan => cases a <;> rfl
    | infinite b => cases a <;> cases b <;> rfl
    | finite y => cases a <;> rfl
  | finite x =>
    cases y with
    | nan => rfl
    | infinite b => cases b <;> rfl
    | finite y =>
      simp only [JsNumber.add, JsNumber.neg, sign]
      rw [← Left.sign_neg, neg_add, neg_neg, Rat.add_comm]

theorem less_self (x : JsNumber) : x.less x = false := by
  cases x with
  | finite x => exact decide_eq_false (lt_irrefl x)
  | infinite negative => cases negative <;> rfl
  | nan => rfl

/-- The place of a number in the order of `less`, in which no number has none. -/
def place : JsNumber → Option (WithBot (WithTop ℚ))
  | .nan => none
  | .infinite negative => some (if negative then ⊥ else ⊤)
  | .finite x => some ((x : WithTop ℚ) : WithBot (WithTop ℚ))

theorem less_iff {x y : JsNumber} :
    x.less y = true ↔ ∃ p ∈ x.place, ∃ q ∈ y.place, p < q := by
  cases x with
  | nan => cases y <;> simp [less, place]
  | infinite a =>
    cases y with
    | nan => simp [less, place]
    | infinite b => cases a <;> cases b <;> simp [less, place]
    | finite y => cases a <;> simp [less, place]
  | finite x =>
    cases y with
    | nan => simp [less, place]
    | infinite b =>
      have htop : ((x : WithTop ℚ) : WithBot (WithTop ℚ)) < ⊤ :=
        WithBot.coe_lt_coe.mpr (WithTop.coe_lt_top x)
      cases b <;> simp [less, place, htop]
    | finite y => simp [less, place]

theorem exists_place {x : JsNumber} (hx : x ≠ .nan) : ∃ p, x.place = some p := by
  cases x with
  | nan => exact absurd rfl hx
  | infinite negative => exact ⟨_, rfl⟩
  | finite x => exact ⟨_, rfl⟩

theorem less_trans {x y z : JsNumber} (hxy : x.less y = true) (hyz : y.less z = true) :
    x.less z = true := by
  rw [less_iff] at hxy hyz ⊢
  obtain ⟨p, hp, q, hq, hpq⟩ := hxy
  obtain ⟨q', hq', r, hr, hqr⟩ := hyz
  obtain rfl := Option.mem_unique hq hq'
  exact ⟨p, hp, r, hr, hpq.trans hqr⟩

/-- What is no number aside, not to be less is transitive. -/
theorem not_less_trans {x y z : JsNumber} (hx : x ≠ .nan) (hy : y ≠ .nan) (hz : z ≠ .nan)
    (hxy : y.less x = false) (hyz : z.less y = false) : z.less x = false := by
  obtain ⟨p, hp⟩ := exists_place hx
  obtain ⟨q, hq⟩ := exists_place hy
  obtain ⟨r, hr⟩ := exists_place hz
  rw [Bool.eq_false_iff, ne_eq, less_iff] at hxy hyz ⊢
  simp only [hp, hq, hr, Option.mem_def, Option.some.injEq, exists_eq_left', not_lt] at hxy hyz ⊢
  exact hxy.trans hyz

end JsNumber

end YandexPay
