import YandexPay.Library.Decimal
import YandexPay.Library.Delimited
import YandexPay.Library.PyDecimalText

/-!
# Reading the texts of Python's numbers

A reader of a sign, of digits with a point among them and of an exponent behind a marker. It gives
back the sign, the coefficient and the exponent of a finite `Decimal` from its `str`, so that two
decimals have one text only if they are written alike.
-/

set_option autoImplicit false
set_option relaxedAutoImplicit false

namespace YandexPay.PyDecimal

open Delimited

/-! ### The reader -/

def readSign : List Char → Bool × List Char
  | '-' :: text => (true, text)
  | text => (false, text)

def readExponent : List Char → ℤ
  | [] => 0
  | '-' :: digits => -Nat.ofDigitChars 10 digits 0
  | _ :: digits => Nat.ofDigitChars 10 digits 0

/-- The sign, all digits as one number, and the exponent of the last of them. -/
def readNumber (marker : Char) (text : List Char) : Bool × ℕ × ℤ :=
  let signed := readSign text
  let halves := cutAt marker signed.2
  let parts := cutAt '.' halves.1
  (signed.1, Nat.ofDigitChars 10 (parts.1 ++ parts.2) 0, readExponent halves.2 - parts.2.length)

example : readNumber 'E' "-12.50E+3".toList = (true, 1250, 1) := by decide

/-! ### What it reads -/

theorem readSign_plainText {negative : Bool} {whole fraction tail : List Char} (hwhole : whole ≠ [])
    (hdigits : ∀ c ∈ whole, c.isDigit) : readSign (plainText negative whole fraction ++ tail) =
      (negative, plainText false whole fraction ++ tail) := by
  cases negative with
  | true => rfl
  | false =>
    obtain ⟨c, digits, rfl⟩ := List.exists_cons_of_ne_nil hwhole
    have hc : c ≠ '-' := by
      rintro rfl
      exact absurd (hdigits '-' List.mem_cons_self) (by decide)
    change readSign (c :: _) = (false, c :: _)
    unfold readSign
    split
    · next heq => exact absurd (List.cons.inj heq).1 hc
    · rfl

theorem cutAt_point {whole fraction : List Char} (hdigits : ∀ c ∈ whole, c.isDigit) :
    cutAt '.' (plainText false whole fraction) = (whole, fraction) := by
  have hpoint : '.' ∉ whole := fun hmem ↦ absurd (hdigits '.' hmem) (by decide)
  change cutAt '.' (whole ++ if fraction = [] then [] else '.' :: fraction) = _
  split_ifs with hnil
  · rw [hnil, List.append_nil, cutAt_self hpoint]
  · exact cutAt_of_notMem hpoint fraction

/-- The text of an exponent. -/
def exponentText (marker : Char) : Option (List Char) → List Char
  | none => []
  | some exponent => marker :: exponent

theorem readNumber_plainText {marker : Char} (hmarker : marker ≠ '-' ∧ marker ≠ '.' ∧
    ¬ marker.isDigit) (negative : Bool) {whole fraction : List Char} (hwhole : whole ≠ [])
    (hdigits : ∀ c ∈ whole ++ fraction, c.isDigit) (exponent : Option (List Char)) :
    readNumber marker (plainText negative whole fraction ++ exponentText marker exponent) =
      (negative, Nat.ofDigitChars 10 (whole ++ fraction) 0,
        readExponent (exponent.getD []) - fraction.length) := by
  have hleft : ∀ c ∈ whole, c.isDigit := fun c hc ↦ hdigits c (List.mem_append_left _ hc)
  have hnone : marker ∉ plainText false whole fraction := by
    intro hmem
    rcases mem_plainText hdigits hmem with hsign | hpoint | hdigit
    · exact hmarker.1 hsign
    · exact hmarker.2.1 hpoint
    · exact hmarker.2.2 hdigit
  have hcut : cutAt marker (plainText false whole fraction ++ exponentText marker exponent) =
      (plainText false whole fraction, exponent.getD []) := by
    cases exponent with
    | none =>
      change cutAt marker (_ ++ []) = _
      rw [List.append_nil, cutAt_self hnone]
      rfl
    | some exponent => exact cutAt_of_notMem hnone exponent
  rw [readNumber, readSign_plainText hwhole hleft, hcut, cutAt_point hleft]

/-! ### Digits with a point among them -/

/-- The point leaves the digits as they are, but for zeros put before or behind them. -/
theorem pointed_spec {digits : List Char} (hne : digits ≠ []) (place : ℤ) :
    ∃ whole fraction : List Char, whole ≠ [] ∧
      Number.pointed digits place = (whole, if fraction = [] then [] else '.' :: fraction) ∧
      whole ++ fraction = List.replicate (1 - place).toNat '0' ++ digits ++
        List.replicate (place - digits.length).toNat '0' ∧
      (fraction.length : ℤ) = digits.length + (place - digits.length).toNat - place := by
  have hlength := List.length_pos_of_ne_nil hne
  unfold Number.pointed
  by_cases hzero : place ≤ 0
  · refine ⟨['0'], Number.zeros (-place) ++ digits, List.cons_ne_nil _ _, ?_, ?_, ?_⟩
    · rw [if_pos hzero, if_neg (List.append_ne_nil_of_right_ne_nil _ hne)]
    · have hbefore : (1 - place).toNat = (-place).toNat + 1 := by omega
      have hbehind : (place - digits.length).toNat = 0 := by omega
      rw [hbefore, hbehind, List.replicate_succ, List.replicate_zero, List.append_nil]
      rfl
    · rw [List.length_append, Number.zeros, List.length_replicate]
      omega
  by_cases hlong : (digits.length : ℤ) ≤ place
  · refine ⟨digits ++ Number.zeros (place - digits.length), [],
      List.append_ne_nil_of_left_ne_nil hne _, ?_, ?_, ?_⟩
    · rw [if_neg hzero, if_pos hlong, if_pos rfl]
    · have hbefore : (1 - place).toNat = 0 := by omega
      rw [hbefore, List.append_nil]
      rfl
    · rw [List.length_nil]
      omega
  · have hdrop : digits.drop place.toNat ≠ [] :=
      List.ne_nil_of_length_pos (by rw [List.length_drop]; omega)
    refine ⟨digits.take place.toNat, digits.drop place.toNat,
      List.ne_nil_of_length_pos (by rw [List.length_take]; omega), ?_, ?_, ?_⟩
    · rw [if_neg hzero, if_neg hlong, if_neg hdrop]
    · have hbefore : (1 - place).toNat = 0 := by omega
      have hbehind : (place - digits.length).toNat = 0 := by omega
      rw [hbefore, hbehind, List.take_append_drop, List.replicate_zero, List.nil_append,
        List.append_nil]
    · rw [List.length_drop]
      omega

theorem isDigit_of_mem_padded {digits : List Char} (hdigits : ∀ c ∈ digits, c.isDigit) {j k : ℕ}
    {c : Char} (hc : c ∈ List.replicate j '0' ++ digits ++ List.replicate k '0') : c.isDigit := by
  rcases List.mem_append.mp hc with hc | hc
  · rcases List.mem_append.mp hc with hc | hc
    · exact Number.isDigit_of_mem_zeros (n := j) hc
    · exact hdigits c hc
  · exact Number.isDigit_of_mem_zeros (n := k) hc

theorem ofDigitChars_padded (digits : List Char) (j k : ℕ) :
    Nat.ofDigitChars 10 (List.replicate j '0' ++ digits ++ List.replicate k '0') 0 =
      10 ^ k * Nat.ofDigitChars 10 digits 0 := by
  rw [Nat.ofDigitChars_append, Nat.ofDigitChars_append, Nat.ofDigitChars_replicate_zero,
    Nat.ofDigitChars_replicate_zero, Nat.mul_zero]

/-- The digits of a number with a point among them, read back. -/
theorem readNumber_pointed {marker : Char} (hmarker : marker ≠ '-' ∧ marker ≠ '.' ∧
    ¬ marker.isDigit) (negative : Bool) (n : ℕ) (place : ℤ) (exponent : Option (List Char)) :
    readNumber marker ((if negative then ['-'] else []) ++
        (Number.pointed (Nat.toDigits 10 n) place).1 ++
        (Number.pointed (Nat.toDigits 10 n) place).2 ++ exponentText marker exponent) =
      (negative, 10 ^ (place - numDigits n).toNat * n, readExponent (exponent.getD []) + place -
        numDigits n - (place - numDigits n).toNat) := by
  obtain ⟨whole, fraction, hwhole, hparts, hsplit, hlength⟩ :=
    pointed_spec (Nat.toDigits_ne_nil (n := n) (b := 10)) place
  have hdigits : ∀ c ∈ whole ++ fraction, c.isDigit := by
    intro c hc
    rw [hsplit] at hc
    exact isDigit_of_mem_padded (fun _ ↦ Number.isDigit_of_mem_digits) hc
  have htext := readNumber_plainText hmarker negative hwhole hdigits exponent
  rw [hparts]
  change readNumber marker (plainText negative whole fraction ++ _) = _
  rw [htext, hsplit, ofDigitChars_padded, Nat.ofDigitChars_ten_toDigits, hlength]
  refine congrArg _ (congrArg _ ?_)
  change _ = _ - ((Nat.toDigits 10 n).length : ℤ) - _
  simp only [numDigits]
  omega

/-- The characters of a number's text. -/
def IsNumberChar (marker c : Char) : Prop := c ∈ ['-', '+', '.', marker] ∨ c.isDigit

instance (marker c : Char) : Decidable (IsNumberChar marker c) :=
  inferInstanceAs (Decidable (_ ∨ _))

theorem isNumberChar_of_mem_pointed {marker : Char} {negative : Bool} {n : ℕ} {place : ℤ}
    {exponent : Option (List Char)} (hexponent : ∀ c ∈ exponent.getD [], IsNumberChar marker c)
    {c : Char} (hc : c ∈ (if negative then ['-'] else []) ++
      (Number.pointed (Nat.toDigits 10 n) place).1 ++
      (Number.pointed (Nat.toDigits 10 n) place).2 ++ exponentText marker exponent) :
    IsNumberChar marker c := by
  obtain ⟨whole, fraction, -, hparts, hsplit, -⟩ :=
    pointed_spec (Nat.toDigits_ne_nil (n := n) (b := 10)) place
  rw [hparts] at hc
  change c ∈ plainText negative whole fraction ++ _ at hc
  rcases List.mem_append.mp hc with hc | hc
  · have hdigits : ∀ d ∈ whole ++ fraction, d.isDigit := by
      intro d hd
      rw [hsplit] at hd
      exact isDigit_of_mem_padded (fun _ ↦ Number.isDigit_of_mem_digits) hd
    rcases mem_plainText hdigits hc with rfl | rfl | hdigit
    · exact .inl (by simp)
    · exact .inl (by simp)
    · exact .inr hdigit
  · cases exponent with
    | none => exact absurd hc List.not_mem_nil
    | some exponent =>
      rcases List.mem_cons.mp hc with rfl | hc
      · exact .inl (by simp)
      · exact hexponent c hc

theorem isNumberChar_of_mem_signedText {marker : Char} {n : ℤ} {c : Char}
    (hc : c ∈ Number.signedText n) : IsNumberChar marker c := by
  rcases List.mem_cons.mp hc with rfl | hc
  · split_ifs <;> exact .inl (by simp)
  · exact .inr (Number.isDigit_of_mem_digits hc)

theorem readExponent_signedText (n : ℤ) : readExponent (Number.signedText n) = n := by
  unfold Number.signedText
  by_cases h : n < 0
  · rw [if_pos h]
    change -((Nat.ofDigitChars 10 (Nat.toDigits 10 n.natAbs) 0 : ℕ) : ℤ) = n
    rw [Nat.ofDigitChars_ten_toDigits]
    omega
  · rw [if_neg h]
    change ((Nat.ofDigitChars 10 (Nat.toDigits 10 n.natAbs) 0 : ℕ) : ℤ) = n
    rw [Nat.ofDigitChars_ten_toDigits]
    omega

/-! ### Decimals -/

namespace Number

/-- The exponent that is written, if one is. -/
def exponentPart (d : Number) : Option (List Char) :=
  if d.leftdigits = d.dotplace then none else some (signedText (d.leftdigits - d.dotplace))

theorem toList_str (d : Number) : d.str.toList = (if d.sign then ['-'] else []) ++
    (pointed (Nat.toDigits 10 d.int) d.dotplace).1 ++
    (pointed (Nat.toDigits 10 d.int) d.dotplace).2 ++ exponentText 'E' d.exponentPart := by
  rw [str, String.toList_ofList, exponentPart]
  split_ifs <;> rfl

theorem readExponent_exponentPart (d : Number) :
    readExponent (d.exponentPart.getD []) = d.leftdigits - d.dotplace := by
  unfold exponentPart
  split_ifs with h
  · rw [h, sub_self]
    rfl
  · exact readExponent_signedText _

/-- The point stands at most behind the last digit, so no zeros are put there. -/
theorem dotplace_le (d : Number) : d.dotplace ≤ numDigits d.int := by
  have hpos := numDigits_pos d.int
  unfold dotplace
  split_ifs with h
  · have hexp := h.1
    rw [leftdigits]
    omega
  · omega

theorem readNumber_str (d : Number) : readNumber 'E' d.str.toList = (d.sign, d.int, d.exp) := by
  have hbehind : (d.dotplace - numDigits d.int).toNat = 0 := by
    have := d.dotplace_le
    omega
  rw [toList_str, readNumber_pointed (by decide), readExponent_exponentPart, hbehind, pow_zero,
    one_mul]
  refine congrArg _ (congrArg _ ?_)
  rw [leftdigits]
  omega

theorem str_injective : Function.Injective str := by
  intro d d' h
  have hread := d.readNumber_str
  rw [h, readNumber_str] at hread
  obtain ⟨sign, int, exp⟩ := d
  simp only [Prod.mk.injEq] at hread
  obtain ⟨rfl, rfl, rfl⟩ := hread
  rfl

theorem isNumberChar_of_mem_str {d : Number} {c : Char} (hc : c ∈ d.str.toList) :
    IsNumberChar 'E' c := by
  rw [toList_str] at hc
  refine isNumberChar_of_mem_pointed (fun e he ↦ ?_) hc
  unfold exponentPart at he
  split_ifs at he
  · exact absurd he List.not_mem_nil
  · exact isNumberChar_of_mem_signedText he

end Number

namespace Decimal

/-- The digits behind `NaN`. -/
def diagnosticText (diagnostic : Option ℕ) : List Char := diagnostic.elim [] (Nat.toDigits 10)

theorem isDigit_of_mem_diagnosticText {diagnostic : Option ℕ} {c : Char}
    (hc : c ∈ diagnosticText diagnostic) : c.isDigit := by
  cases diagnostic with
  | none => exact absurd hc List.not_mem_nil
  | some n => exact Number.isDigit_of_mem_digits hc

theorem diagnosticText_injective : Function.Injective diagnosticText := by
  intro a b h
  cases a with
  | none =>
    cases b with
    | none => rfl
    | some n => exact absurd h.symm Nat.toDigits_ne_nil
  | some m =>
    cases b with
    | none => exact absurd h Nat.toDigits_ne_nil
    | some n =>
      refine congrArg some (YandexPay.Decimal.nat_repr_injective ?_)
      rw [Nat.toList_repr, Nat.toList_repr]
      exact h

/-- What stands before the digits. -/
def nanLetters (sign signals : Bool) : List Char :=
  (if sign then ['-'] else []) ++ (if signals then ['s'] else []) ++ ['N', 'a', 'N']

theorem toList_str_nan (sign signals : Bool) (diagnostic : Option ℕ) :
    (Decimal.nan sign signals diagnostic).str.toList =
      nanLetters sign signals ++ diagnosticText diagnostic := by
  rw [str, String.toList_append, String.toList_append]
  cases sign <;> cases signals <;> cases diagnostic <;>
    simp [nanLetters, diagnosticText, Nat.toList_repr]

/-- What kind of number a text is of shows in two letters. -/
theorem mem_str_iff (d : Decimal) : ('N' ∈ d.str.toList ↔ ∃ s q n, d = .nan s q n) ∧
    ('I' ∈ d.str.toList ↔ ∃ s, d = .infinity s) := by
  cases d with
  | finite number =>
    refine ⟨⟨fun h ↦ ?_, fun ⟨_, _, _, h⟩ ↦ by cases h⟩, fun h ↦ ?_, fun ⟨_, h⟩ ↦ by cases h⟩
    · exact absurd (Number.isNumberChar_of_mem_str h) (by decide)
    · exact absurd (Number.isNumberChar_of_mem_str h) (by decide)
  | infinity sign =>
    refine ⟨⟨fun h ↦ ?_, fun ⟨_, _, _, h⟩ ↦ by cases h⟩, fun _ ↦ ⟨sign, rfl⟩, fun _ ↦ ?_⟩
    · cases sign <;> exact absurd h (by decide)
    · cases sign <;> decide
  | nan sign signals diagnostic =>
    rw [toList_str_nan]
    refine ⟨⟨fun _ ↦ ⟨sign, signals, diagnostic, rfl⟩, fun _ ↦ ?_⟩, fun h ↦ ?_,
      fun ⟨_, h⟩ ↦ by cases h⟩
    · exact List.mem_append_left _ (List.mem_append_right _ List.mem_cons_self)
    · rcases List.mem_append.mp h with hletter | hdigit
      · cases sign <;> cases signals <;> exact absurd hletter (by decide)
      · exact absurd (isDigit_of_mem_diagnosticText hdigit) (by decide)

theorem str_injective : Function.Injective str := by
  intro d d' h
  have hkind := d.mem_str_iff
  rw [h] at hkind
  cases d with
  | finite number =>
    cases d' with
    | finite number' => exact congrArg _ (Number.str_injective h)
    | infinity sign' =>
      obtain ⟨_, heq⟩ := hkind.2.mp ((mem_str_iff _).2.mpr ⟨sign', rfl⟩)
      cases heq
    | nan sign' signals' diagnostic' =>
      obtain ⟨_, _, _, heq⟩ := hkind.1.mp ((mem_str_iff _).1.mpr ⟨_, _, _, rfl⟩)
      cases heq
  | infinity sign =>
    obtain ⟨sign', rfl⟩ := (mem_str_iff d').2.mp (hkind.2.mpr ⟨sign, rfl⟩)
    cases sign <;> cases sign' <;> first | rfl | exact absurd h (by decide)
  | nan sign signals diagnostic =>
    obtain ⟨sign', signals', diagnostic', rfl⟩ :=
      (mem_str_iff d').1.mp (hkind.1.mpr ⟨sign, signals, diagnostic, rfl⟩)
    have htext := congrArg String.toList h
    rw [toList_str_nan, toList_str_nan] at htext
    -- A sign and an `s` before the letters tell the first two apart, the digits behind the third.
    have hparts : sign = sign' ∧ signals = signals' ∧
        diagnosticText diagnostic = diagnosticText diagnostic' := by
      cases sign <;> cases sign' <;> cases signals <;> cases signals' <;>
        simp [nanLetters] at htext <;> exact ⟨rfl, rfl, htext⟩
    obtain ⟨rfl, rfl, hdiagnostic⟩ := hparts
    rw [diagnosticText_injective hdiagnostic]

/-- No separator is part of such a text. -/
theorem notMem_str {d : Decimal} {c : Char} (hc : ¬ IsNumberChar 'E' c)
    (hletter : c ∉ "InfityNas".toList) : c ∉ d.str.toList := by
  cases d with
  | finite number => exact fun h ↦ hc (Number.isNumberChar_of_mem_str h)
  | infinity sign =>
    have hsub : "Infinity".toList ⊆ "InfityNas".toList := by decide
    cases sign with
    | false => exact fun h ↦ hletter (hsub h)
    | true =>
      intro h
      rcases List.mem_cons.mp h with rfl | h
      · exact hc (.inl List.mem_cons_self)
      · exact hletter (hsub h)
  | nan sign signals diagnostic =>
    have hsub : nanLetters sign signals ⊆ '-' :: "InfityNas".toList := by
      cases sign <;> cases signals <;> decide
    rw [toList_str_nan]
    intro h
    rcases List.mem_append.mp h with h | hdigit
    · rcases List.mem_cons.mp (hsub h) with rfl | h
      · exact hc (.inl List.mem_cons_self)
      · exact hletter h
    · exact hc (.inr (isDigit_of_mem_diagnosticText hdigit))

end Decimal

end YandexPay.PyDecimal
