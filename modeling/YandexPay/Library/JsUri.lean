import Mathlib.Data.List.Basic
import Mathlib.Tactic.SplitIfs

/-!
# Texts of JavaScript and their percent encoding

A text is a list of 16-bit code units. `encodeURIComponent` writes its code points in UTF-8, every
byte of a character that is not kept as `%XX`; on a lone surrogate it throws, here `none`.
`decodeURIComponent` reads such sequences back and throws on any that is not UTF-8.
`decodeURIComponent_of_encodeURIComponent` is the round trip.
-/

set_option autoImplicit false
set_option relaxedAutoImplicit false

namespace YandexPay.JsUri

abbrev CodeUnit := UInt16

abbrev Text := List CodeUnit

/-! ### Code points -/

/-- The one or two code units of a code point. -/
def utf16 (c : Char) : Text :=
  if c.toNat < 0x10000 then [UInt16.ofNat c.toNat]
  else [UInt16.ofNat (0xD800 + (c.toNat - 0x10000) / 0x400),
    UInt16.ofNat (0xDC00 + (c.toNat - 0x10000) % 0x400)]

def ofChars (chars : List Char) : Text := chars.flatMap utf16

/-- The text of a literal. -/
def text (literal : String) : Text := ofChars literal.toList

def isLeadingSurrogate (u : CodeUnit) : Bool := 0xD800 ≤ u ∧ u < 0xDC00

def isTrailingSurrogate (u : CodeUnit) : Bool := 0xDC00 ≤ u ∧ u < 0xE000

/-- The code point of a surrogate pair. -/
def pairCode (u v : CodeUnit) : ℕ := (u.toNat - 0xD800) * 0x400 + (v.toNat - 0xDC00) + 0x10000

/-- The code points of a text; `none` when one of them is a lone surrogate. -/
def toChars : Text → Option (List Char)
  | [] => some []
  | u :: rest =>
    if isTrailingSurrogate u then none
    else if isLeadingSurrogate u then
      match rest with
      | [] => none
      | v :: rest =>
        if isTrailingSurrogate v then (toChars rest).map (Char.ofNat (pairCode u v) :: ·)
        else none
    else (toChars rest).map (Char.ofNat u.toNat :: ·)

/-- `text.isWellFormed()` -/
def IsWellFormed (s : Text) : Prop := ∃ chars, s = ofChars chars

theorem toNat_range (c : Char) : c.toNat < 0xD800 ∨ 0xE000 ≤ c.toNat ∧ c.toNat < 0x110000 := by
  have hvalid : c.toNat < 0xD800 ∨ 0xDFFF < c.toNat ∧ c.toNat < 0x110000 := c.valid
  omega

theorem toChars_cons {u : CodeUnit} (htrailing : isTrailingSurrogate u = false)
    (hleading : isLeadingSurrogate u = false) (rest : Text) :
    toChars (u :: rest) = (toChars rest).map (Char.ofNat u.toNat :: ·) := by
  rw [toChars.eq_def]
  simp [htrailing, hleading]

theorem toChars_pair {u v : CodeUnit} (hu : isLeadingSurrogate u = true)
    (hv : isTrailingSurrogate v = true) (rest : Text) :
    toChars (u :: v :: rest) = (toChars rest).map (Char.ofNat (pairCode u v) :: ·) := by
  have htrailing : isTrailingSurrogate u = false := by
    simp only [isLeadingSurrogate, isTrailingSurrogate, decide_eq_true_eq,
      decide_eq_false_iff_not] at hu ⊢
    exact fun h ↦ absurd hu.2 (UInt16.not_lt.mpr h.1)
  rw [toChars.eq_def]
  simp [htrailing, hu, hv]

theorem isLeadingSurrogate_iff (u : CodeUnit) :
    isLeadingSurrogate u = true ↔ 0xD800 ≤ u.toNat ∧ u.toNat < 0xDC00 := by
  simp [isLeadingSurrogate, UInt16.le_iff_toNat_le, UInt16.lt_iff_toNat_lt]

theorem isTrailingSurrogate_iff (u : CodeUnit) :
    isTrailingSurrogate u = true ↔ 0xDC00 ≤ u.toNat ∧ u.toNat < 0xE000 := by
  simp [isTrailingSurrogate, UInt16.le_iff_toNat_le, UInt16.lt_iff_toNat_lt]

theorem toChars_utf16_append (c : Char) (rest : Text) :
    toChars (utf16 c ++ rest) = (toChars rest).map (c :: ·) := by
  have hrange := toNat_range c
  unfold utf16
  split_ifs with hsmall
  · have hvalue : (UInt16.ofNat c.toNat).toNat = c.toNat := UInt16.toNat_ofNat_of_lt' hsmall
    rw [List.singleton_append, toChars_cons, hvalue, Char.ofNat_toNat]
    · rw [← Bool.not_eq_true, isTrailingSurrogate_iff, hvalue]
      omega
    · rw [← Bool.not_eq_true, isLeadingSurrogate_iff, hvalue]
      omega
  · have hhigh : (UInt16.ofNat (0xD800 + (c.toNat - 0x10000) / 0x400)).toNat =
        0xD800 + (c.toNat - 0x10000) / 0x400 :=
      UInt16.toNat_ofNat_of_lt' (by rw [UInt16.size]; omega)
    have hlow : (UInt16.ofNat (0xDC00 + (c.toNat - 0x10000) % 0x400)).toNat =
        0xDC00 + (c.toNat - 0x10000) % 0x400 :=
      UInt16.toNat_ofNat_of_lt' (by rw [UInt16.size]; omega)
    have hcode : pairCode (UInt16.ofNat (0xD800 + (c.toNat - 0x10000) / 0x400))
        (UInt16.ofNat (0xDC00 + (c.toNat - 0x10000) % 0x400)) = c.toNat := by
      rw [pairCode, hhigh, hlow]
      omega
    rw [List.cons_append, List.singleton_append, toChars_pair, hcode, Char.ofNat_toNat]
    · rw [isLeadingSurrogate_iff, hhigh]
      omega
    · rw [isTrailingSurrogate_iff, hlow]
      omega

theorem toChars_ofChars (chars : List Char) : toChars (ofChars chars) = some chars := by
  induction chars with
  | nil => rfl
  | cons c chars ih =>
    change toChars (utf16 c ++ ofChars chars) = _
    rw [toChars_utf16_append, ih]
    rfl

theorem toNat_ofNat {n : ℕ} (hn : n < 0xD800 ∨ 0xE000 ≤ n ∧ n < 0x110000) :
    (Char.ofNat n).toNat = n := by
  have hvalid : n.isValidChar := hn.imp id fun h ↦ ⟨by omega, h.2⟩
  rw [Char.ofNat, dif_pos hvalid]
  rfl

/-- The code points of a text determine it. -/
theorem eq_ofChars_of_toChars {s : Text} {chars : List Char} (h : toChars s = some chars) :
    s = ofChars chars := by
  fun_induction toChars s generalizing chars with
  | case1 =>
    cases h
    rfl
  | case2 => cases h
  | case3 => cases h
  | case4 u htrailing hleading v rest hv ih =>
    obtain ⟨tail, htail, rfl⟩ := Option.map_eq_some_iff.mp h
    rw [isLeadingSurrogate_iff] at hleading
    rw [isTrailingSurrogate_iff] at hv
    have hcode : pairCode u v = (u.toNat - 0xD800) * 0x400 + (v.toNat - 0xDC00) + 0x10000 := rfl
    have hhigh : 0xD800 + (pairCode u v - 0x10000) / 0x400 = u.toNat := by omega
    have hlow : 0xDC00 + (pairCode u v - 0x10000) % 0x400 = v.toNat := by omega
    have hunits : utf16 (Char.ofNat (pairCode u v)) = [u, v] := by
      rw [utf16, toNat_ofNat (Or.inr (by omega)), if_neg (by omega), hhigh, hlow,
        UInt16.ofNat_toNat, UInt16.ofNat_toNat]
    change _ = utf16 (Char.ofNat (pairCode u v)) ++ ofChars tail
    rw [hunits, ← ih htail]
    rfl
  | case5 => cases h
  | case6 u rest htrailing hleading ih =>
    obtain ⟨tail, htail, rfl⟩ := Option.map_eq_some_iff.mp h
    rw [isTrailingSurrogate_iff] at htrailing
    rw [isLeadingSurrogate_iff] at hleading
    have hlt := u.toNat_lt
    have hunits : utf16 (Char.ofNat u.toNat) = [u] := by
      rw [utf16, toNat_ofNat (by omega), if_pos (by omega), UInt16.ofNat_toNat]
    change _ = utf16 (Char.ofNat u.toNat) ++ ofChars tail
    rw [hunits, ← ih htail]
    rfl

theorem isWellFormed_iff {s : Text} : IsWellFormed s ↔ (toChars s).isSome = true := by
  rw [Option.isSome_iff_exists]
  constructor
  · rintro ⟨chars, rfl⟩
    exact ⟨chars, toChars_ofChars chars⟩
  · rintro ⟨chars, h⟩
    exact ⟨chars, eq_ofChars_of_toChars h⟩

instance (s : Text) : Decidable (IsWellFormed s) := decidable_of_iff _ isWellFormed_iff.symm

/-! ### Percent encoding -/

/-- Letters, digits and `-`, `_`, `.`, `!`, `~`, `*`, `'`, `(`, `)`. -/
def isUnescaped (u : CodeUnit) : Bool :=
  (97 ≤ u ∧ u ≤ 122) ∨ (65 ≤ u ∧ u ≤ 90) ∨ (48 ≤ u ∧ u ≤ 57) ∨
    u ∈ [45, 95, 46, 33, 126, 42, 39, 40, 41]

def hexDigit (n : ℕ) : CodeUnit := UInt16.ofNat (if n < 10 then n + 48 else n + 55)

def parseHexDigit (u : CodeUnit) : Option ℕ :=
  if 48 ≤ u ∧ u ≤ 57 then some (u.toNat - 48)
  else if 97 ≤ u ∧ u ≤ 102 then some (u.toNat - 87)
  else if 65 ≤ u ∧ u ≤ 70 then some (u.toNat - 55)
  else none

/-- `%XX` -/
def percentEncode (octet : UInt8) : Text :=
  [37, hexDigit (octet.toNat / 16), hexDigit (octet.toNat % 16)]

def encodeChar (c : Char) : Text :=
  if (utf16 c).all isUnescaped then utf16 c else (String.utf8EncodeChar c).flatMap percentEncode

def encodeURIComponent (s : Text) : Option Text :=
  (toChars s).map fun chars ↦ chars.flatMap encodeChar

/-! ### Percent decoding -/

/-- A code unit that stands for itself, or an octet written as `%XX`. -/
inductive Token
  | unit (u : CodeUnit)
  | octet (octet : UInt8)
deriving DecidableEq

/-- `none` when two hexadecimal digits do not follow a `%`. -/
def tokens : Text → Option (List Token)
  | [] => some []
  | u :: rest =>
    if u = 37 then
      match rest with
      | a :: b :: rest => do
        let high ← parseHexDigit a
        let low ← parseHexDigit b
        (tokens rest).map (.octet (UInt8.ofNat (high * 16 + low)) :: ·)
      | _ => none
    else (tokens rest).map (.unit u :: ·)

/-- The number of octets of a sequence that starts with `first`, by its leading one bits; zero when
no sequence does. -/
def sequenceLength (first : UInt8) : ℕ :=
  if first < 0x80 then 1
  else if first < 0xC0 then 0
  else if first < 0xE0 then 2
  else if first < 0xF0 then 3
  else if first < 0xF8 then 4
  else 0

/-- The code point of a sequence of octets, put before what follows it. -/
def emit (octets : List UInt8) (rest : Option Text) : Option Text := do
  let c ← octets.toByteArray.utf8DecodeChar? 0
  rest.map (utf16 c ++ ·)

def decodeTokens : List Token → Option Text
  | [] => some []
  | .unit u :: rest => (decodeTokens rest).map (u :: ·)
  | .octet a :: rest =>
    match sequenceLength a, rest with
    | 1, rest => emit [a] (decodeTokens rest)
    | 2, .octet b :: rest => emit [a, b] (decodeTokens rest)
    | 3, .octet b :: .octet c :: rest => emit [a, b, c] (decodeTokens rest)
    | 4, .octet b :: .octet c :: .octet d :: rest => emit [a, b, c, d] (decodeTokens rest)
    | _, _ => none

def decodeURIComponent (s : Text) : Option Text := do
  decodeTokens (← tokens s)

/-! ### Decoding what was encoded -/

theorem parseHexDigit_hexDigit : ∀ n < 16, parseHexDigit (hexDigit n) = some n := by decide

theorem tokens_percent (a b : CodeUnit) (rest : Text) :
    tokens (37 :: a :: b :: rest) = (parseHexDigit a).bind fun high ↦ (parseHexDigit b).bind
      fun low ↦ (tokens rest).map (.octet (UInt8.ofNat (high * 16 + low)) :: ·) := by
  rw [tokens.eq_def]
  rfl

theorem tokens_percentEncode_append (octet : UInt8) (rest : Text) :
    tokens (percentEncode octet ++ rest) = (tokens rest).map (.octet octet :: ·) := by
  have hlt := octet.toNat_lt
  have hvalue : UInt8.ofNat (octet.toNat / 16 * 16 + octet.toNat % 16) = octet := by
    rw [Nat.div_add_mod']
    exact UInt8.ofNat_toNat
  change tokens (37 :: _ :: _ :: rest) = _
  rw [tokens_percent, parseHexDigit_hexDigit _ (by omega), parseHexDigit_hexDigit _ (by omega),
    Option.bind_some, Option.bind_some, hvalue]

theorem tokens_percentEncodes_append (octets : List UInt8) (rest : Text) :
    tokens (octets.flatMap percentEncode ++ rest) =
      (tokens rest).map (octets.map .octet ++ ·) := by
  induction octets with
  | nil => exact (Option.map_id_apply (x := tokens rest)).symm
  | cons octet octets ih =>
    rw [List.flatMap_cons, List.append_assoc, tokens_percentEncode_append, ih, Option.map_map]
    rfl

theorem tokens_cons {u : CodeUnit} (hu : u ≠ 37) (rest : Text) :
    tokens (u :: rest) = (tokens rest).map (.unit u :: ·) := by
  rw [tokens.eq_def]
  simp only [if_neg hu]

theorem tokens_unescaped_append {kept : Text} (hkept : kept.all isUnescaped = true)
    (rest : Text) : tokens (kept ++ rest) = (tokens rest).map (kept.map .unit ++ ·) := by
  induction kept with
  | nil => exact (Option.map_id_apply (x := tokens rest)).symm
  | cons u kept ih =>
    rw [List.all_cons, Bool.and_eq_true] at hkept
    have hu : u ≠ 37 := by
      rintro rfl
      exact absurd hkept.1 (by decide)
    rw [List.cons_append, tokens_cons hu, ih hkept.2, Option.map_map]
    rfl

theorem decodeTokens_units_append (units : Text) (rest : List Token) :
    decodeTokens (units.map .unit ++ rest) = (decodeTokens rest).map (units ++ ·) := by
  induction units with
  | nil => exact (Option.map_id_apply (x := decodeTokens rest)).symm
  | cons u units ih =>
    rw [List.map_cons, List.cons_append, decodeTokens, ih, Option.map_map]
    rfl

theorem emit_utf8EncodeChar (c : Char) (rest : Option Text) :
    emit (String.utf8EncodeChar c) rest = rest.map (utf16 c ++ ·) := by
  have hdecode := ByteArray.utf8DecodeChar?_utf8EncodeChar_append (b := ByteArray.empty) (c := c)
  rw [ByteArray.append_empty] at hdecode
  rw [emit, hdecode]
  rfl

theorem sequenceLength_ofNat {n : ℕ} (hn : n < 256) : sequenceLength (UInt8.ofNat n) =
    if n < 0x80 then 1 else if n < 0xC0 then 0 else if n < 0xE0 then 2 else if n < 0xF0 then 3
    else if n < 0xF8 then 4 else 0 := by
  simp only [sequenceLength, UInt8.lt_iff_toNat_lt, UInt8.reduceToNat,
    UInt8.toNat_ofNat_of_lt' hn]

section Sequence

variable {a b c d : UInt8} (rest : List Token)

theorem decodeTokens_one (ha : sequenceLength a = 1) :
    decodeTokens (.octet a :: rest) = emit [a] (decodeTokens rest) := by
  rw [decodeTokens.eq_def]
  simp only [ha]

theorem decodeTokens_two (ha : sequenceLength a = 2) :
    decodeTokens (.octet a :: .octet b :: rest) = emit [a, b] (decodeTokens rest) := by
  rw [decodeTokens.eq_def]
  simp only [ha]

theorem decodeTokens_three (ha : sequenceLength a = 3) :
    decodeTokens (.octet a :: .octet b :: .octet c :: rest) =
      emit [a, b, c] (decodeTokens rest) := by
  rw [decodeTokens.eq_def]
  simp only [ha]

theorem decodeTokens_four (ha : sequenceLength a = 4) :
    decodeTokens (.octet a :: .octet b :: .octet c :: .octet d :: rest) =
      emit [a, b, c, d] (decodeTokens rest) := by
  rw [decodeTokens.eq_def]
  simp only [ha]

end Sequence

/-- A sequence of octets is read as the code point that it encodes. -/
theorem decodeTokens_octets_append (c : Char) (rest : List Token) :
    decodeTokens ((String.utf8EncodeChar c).map .octet ++ rest) =
      (decodeTokens rest).map (utf16 c ++ ·) := by
  have hrange := toNat_range c
  have hval : c.val.toNat = c.toNat := rfl
  rw [← emit_utf8EncodeChar]
  unfold String.utf8EncodeChar
  simp only [hval]
  split_ifs with h₁ h₂ h₃
  · refine decodeTokens_one rest ?_
    rw [sequenceLength_ofNat (by omega), if_pos (by omega)]
  · refine decodeTokens_two rest ?_
    rw [sequenceLength_ofNat (by omega)]
    split_ifs <;> omega
  · refine decodeTokens_three rest ?_
    rw [sequenceLength_ofNat (by omega)]
    split_ifs <;> omega
  · refine decodeTokens_four rest ?_
    rw [sequenceLength_ofNat (by omega)]
    split_ifs <;> omega

theorem decodeURIComponent_eq (s : Text) :
    decodeURIComponent s = (tokens s).bind decodeTokens := rfl

theorem decodeURIComponent_cons {u : CodeUnit} (hu : u ≠ 37) (rest : Text) :
    decodeURIComponent (u :: rest) = (decodeURIComponent rest).map (u :: ·) := by
  rw [decodeURIComponent_eq, decodeURIComponent_eq, tokens_cons hu]
  cases tokens rest <;> rfl

theorem decodeURIComponent_encodeChar_append (c : Char) (rest : Text) :
    decodeURIComponent (encodeChar c ++ rest) =
      (decodeURIComponent rest).map (utf16 c ++ ·) := by
  rw [decodeURIComponent_eq, decodeURIComponent_eq]
  unfold encodeChar
  split_ifs with hkept
  · rw [tokens_unescaped_append hkept]
    cases tokens rest with
    | none => rfl
    | some tail => exact decodeTokens_units_append (utf16 c) tail
  · rw [tokens_percentEncodes_append]
    cases tokens rest with
    | none => rfl
    | some tail => exact decodeTokens_octets_append c tail

/-- An encoded text is read back. -/
theorem decodeURIComponent_of_encodeURIComponent {s encoded : Text}
    (h : encodeURIComponent s = some encoded) : decodeURIComponent encoded = some s := by
  obtain ⟨chars, hchars, rfl⟩ := Option.map_eq_some_iff.mp h
  rw [eq_ofChars_of_toChars hchars]
  clear h hchars
  induction chars with
  | nil => rfl
  | cons c chars ih =>
    rw [List.flatMap_cons, decodeURIComponent_encodeChar_append, ih]
    rfl

example : encodeURIComponent (text "a=я 😀") = some (text "a%3D%D1%8F%20%F0%9F%98%80") := by
  decide +kernel

theorem encodeURIComponent_isSome {s : Text} :
    (encodeURIComponent s).isSome = true ↔ IsWellFormed s := by
  rw [isWellFormed_iff, encodeURIComponent, Option.isSome_map]

theorem isUnescaped_hexDigit : ∀ n < 16, isUnescaped (hexDigit n) = true := by decide

/-- An encoded text has unescaped characters and `%` only. -/
theorem of_mem_encodeURIComponent {s encoded : Text} (h : encodeURIComponent s = some encoded)
    {u : CodeUnit} (hu : u ∈ encoded) : isUnescaped u = true ∨ u = 37 := by
  obtain ⟨chars, -, rfl⟩ := Option.map_eq_some_iff.mp h
  obtain ⟨c, -, hu⟩ := List.mem_flatMap.mp hu
  unfold encodeChar at hu
  split_ifs at hu with hkept
  · exact Or.inl (List.all_eq_true.mp hkept u hu)
  · obtain ⟨octet, -, hu⟩ := List.mem_flatMap.mp hu
    have hlt := octet.toNat_lt
    simp only [percentEncode, List.mem_cons, List.not_mem_nil, or_false] at hu
    rcases hu with rfl | rfl | rfl
    · exact Or.inr rfl
    · exact Or.inl (isUnescaped_hexDigit _ (by omega))
    · exact Or.inl (isUnescaped_hexDigit _ (by omega))

/-- The delimiters of a URL and its query: `#`, `&`, `=` and `?`. -/
theorem delimiter_notMem_encodeURIComponent {s encoded : Text}
    (h : encodeURIComponent s = some encoded) {u : CodeUnit}
    (hu : u = 35 ∨ u = 38 ∨ u = 61 ∨ u = 63) : u ∉ encoded := by
  intro hmem
  have hkind := of_mem_encodeURIComponent h hmem
  rcases hu with rfl | rfl | rfl | rfl <;> revert hkind <;> decide

/-! ### Decoding a text in parts -/

theorem tokens_append {s : Text} {found : List Token} (h : tokens s = some found) (rest : Text) :
    tokens (s ++ rest) = (tokens rest).map (found ++ ·) := by
  fun_induction tokens s generalizing found with
  | case1 =>
    cases h
    exact (Option.map_id_apply (x := tokens rest)).symm
  | case2 a b tail ih =>
    obtain ⟨high, hhigh, h⟩ := Option.bind_eq_some_iff.mp h
    obtain ⟨low, hlow, h⟩ := Option.bind_eq_some_iff.mp h
    obtain ⟨found, hfound, rfl⟩ := Option.map_eq_some_iff.mp h
    rw [List.cons_append, List.cons_append, List.cons_append, tokens_percent, hhigh, hlow,
      Option.bind_some, Option.bind_some, ih hfound, Option.map_map]
    rfl
  | case3 => cases h
  | case4 u tail hu ih =>
    obtain ⟨found, hfound, rfl⟩ := Option.map_eq_some_iff.mp h
    rw [List.cons_append, tokens_cons hu, ih hfound, Option.map_map]
    rfl

theorem exists_of_emit {octets : List UInt8} {rest : Option Text} {found : Text}
    (h : emit octets rest = some found) : ∃ c w, rest = some w ∧ found = utf16 c ++ w := by
  obtain ⟨c, -, h⟩ := Option.bind_eq_some_iff.mp h
  obtain ⟨w, hw, rfl⟩ := Option.map_eq_some_iff.mp h
  exact ⟨c, w, hw, rfl⟩

theorem emit_eq_some {octets : List UInt8} {rest : Option Text} {found : Text}
    (h : emit octets rest = some found) : ∃ w, rest = some w ∧
      ∀ more : Option Text, emit octets (more.map (w ++ ·)) = more.map (found ++ ·) := by
  obtain ⟨c, hc, h⟩ := Option.bind_eq_some_iff.mp h
  obtain ⟨w, hw, rfl⟩ := Option.map_eq_some_iff.mp h
  refine ⟨w, hw, fun more ↦ ?_⟩
  rw [emit, hc, Option.bind_eq_bind, Option.bind_some, Option.map_map]
  refine congrArg (Option.map · more) (funext fun tail ↦ ?_)
  exact (List.append_assoc _ _ _).symm

theorem decodeTokens_append {first : List Token} {found : Text}
    (h : decodeTokens first = some found) (rest : List Token) :
    decodeTokens (first ++ rest) = (decodeTokens rest).map (found ++ ·) := by
  fun_induction decodeTokens first generalizing found with
  | case1 =>
    cases h
    exact (Option.map_id_apply (x := decodeTokens rest)).symm
  | case2 u tail ih =>
    obtain ⟨found, hfound, rfl⟩ := Option.map_eq_some_iff.mp h
    rw [List.cons_append, decodeTokens, ih hfound, Option.map_map]
    rfl
  | case3 a tail ha ih =>
    obtain ⟨w, hw, hmore⟩ := emit_eq_some h
    rw [← hmore, ← ih hw]
    exact decodeTokens_one (tail ++ rest) ha
  | case4 a b tail ha ih =>
    obtain ⟨w, hw, hmore⟩ := emit_eq_some h
    rw [← hmore, ← ih hw]
    exact decodeTokens_two (tail ++ rest) ha
  | case5 a b c tail ha ih =>
    obtain ⟨w, hw, hmore⟩ := emit_eq_some h
    rw [← hmore, ← ih hw]
    exact decodeTokens_three (tail ++ rest) ha
  | case6 a b c d tail ha ih =>
    obtain ⟨w, hw, hmore⟩ := emit_eq_some h
    rw [← hmore, ← ih hw]
    exact decodeTokens_four (tail ++ rest) ha
  | case7 => cases h

/-- What follows a text that can be decoded is decoded by itself. -/
theorem decodeURIComponent_append {s found : Text} (h : decodeURIComponent s = some found)
    (rest : Text) :
    decodeURIComponent (s ++ rest) = (decodeURIComponent rest).map (found ++ ·) := by
  obtain ⟨first, hfirst, h⟩ := Option.bind_eq_some_iff.mp h
  rw [decodeURIComponent_eq, decodeURIComponent_eq, tokens_append hfirst]
  cases tokens rest with
  | none => rfl
  | some tail => exact decodeTokens_append h tail

/-! ### Lone surrogates -/

theorem not_surrogate_of_lt {u : CodeUnit} (hu : u.toNat < 0xD800) :
    isTrailingSurrogate u = false ∧ isLeadingSurrogate u = false := by
  rw [← Bool.not_eq_true, isTrailingSurrogate_iff, ← Bool.not_eq_true, isLeadingSurrogate_iff]
  omega

theorem isWellFormed_cons {u : CodeUnit} (hu : isLeadingSurrogate u = false) (s : Text) :
    IsWellFormed (u :: s) ↔ isTrailingSurrogate u = false ∧ IsWellFormed s := by
  cases htrailing : isTrailingSurrogate u with
  | true =>
    rw [isWellFormed_iff, toChars.eq_def]
    simp [htrailing]
  | false =>
    rw [isWellFormed_iff, toChars_cons htrailing hu, Option.isSome_map, isWellFormed_iff]
    exact (and_iff_right rfl).symm

theorem isWellFormed_cons_of_lt {u : CodeUnit} (hu : u.toNat < 0xD800) (s : Text) :
    IsWellFormed (u :: s) ↔ IsWellFormed s := by
  rw [isWellFormed_cons (not_surrogate_of_lt hu).2]
  exact and_iff_right (not_surrogate_of_lt hu).1

theorem isWellFormed_pair {u : CodeUnit} (hu : isLeadingSurrogate u = true) (v : CodeUnit)
    (s : Text) : IsWellFormed (u :: v :: s) ↔ isTrailingSurrogate v = true ∧ IsWellFormed s := by
  cases hv : isTrailingSurrogate v with
  | true =>
    rw [isWellFormed_iff, toChars_pair hu hv, Option.isSome_map, isWellFormed_iff]
    exact (and_iff_right rfl).symm
  | false =>
    have htrailing : isTrailingSurrogate u = false := by
      rw [isLeadingSurrogate_iff] at hu
      rw [← Bool.not_eq_true, isTrailingSurrogate_iff]
      omega
    rw [isWellFormed_iff, toChars.eq_def]
    simp [htrailing, hu, hv]

theorem isWellFormed_utf16_append (c : Char) (s : Text) :
    IsWellFormed (utf16 c ++ s) ↔ IsWellFormed s := by
  rw [isWellFormed_iff, toChars_utf16_append, Option.isSome_map, isWellFormed_iff]

theorem toNat_of_parseHexDigit {u : CodeUnit} {n : ℕ} (h : parseHexDigit u = some n) :
    u.toNat < 0xD800 := by
  unfold parseHexDigit at h
  simp only [UInt16.le_iff_toNat_le, UInt16.reduceToNat] at h
  split_ifs at h with h₁ h₂ h₃ <;> omega

/-- A text that is cut into tokens is empty, starts with an escaped octet, or starts with a code
unit of its own. -/
theorem tokens_cases {s : Text} {found : List Token} (h : tokens s = some found) :
    (s = [] ∧ found = []) ∨
      (∃ a b tail high low rest, s = 37 :: a :: b :: tail ∧ parseHexDigit a = some high ∧
        parseHexDigit b = some low ∧ tokens tail = some rest ∧
        found = .octet (UInt8.ofNat (high * 16 + low)) :: rest) ∨
      ∃ u tail rest, s = u :: tail ∧ tokens tail = some rest ∧ found = .unit u :: rest := by
  revert h
  fun_cases tokens s with
  | case1 => exact fun h ↦ Or.inl ⟨rfl, (Option.some.inj h).symm⟩
  | case2 a b tail =>
    intro h
    obtain ⟨high, hhigh, h⟩ := Option.bind_eq_some_iff.mp h
    obtain ⟨low, hlow, h⟩ := Option.bind_eq_some_iff.mp h
    obtain ⟨rest, htail, hrest⟩ := Option.map_eq_some_iff.mp h
    exact Or.inr (Or.inl ⟨a, b, tail, high, low, rest, rfl, hhigh, hlow, htail, hrest.symm⟩)
  | case3 =>
    intro h
    cases h
  | case4 u tail =>
    intro h
    obtain ⟨rest, htail, hrest⟩ := Option.map_eq_some_iff.mp h
    exact Or.inr (Or.inr ⟨u, tail, rest, rfl, htail, hrest.symm⟩)

theorem tokens_eq_nil {s : Text} (h : tokens s = some []) : s = [] := by
  rcases tokens_cases h with ⟨rfl, -⟩ | ⟨_, _, _, _, _, _, -, -, -, -, hfound⟩ |
    ⟨_, _, _, -, -, hfound⟩
  · rfl
  · cases hfound
  · cases hfound

theorem tokens_eq_unit_cons {s : Text} {u : CodeUnit} {rest : List Token}
    (h : tokens s = some (.unit u :: rest)) : ∃ s', s = u :: s' ∧ tokens s' = some rest := by
  rcases tokens_cases h with ⟨-, hfound⟩ | ⟨_, _, _, _, _, _, -, -, -, -, hfound⟩ |
    ⟨v, tail, found, rfl, htail, hfound⟩
  · cases hfound
  · cases hfound
  · cases hfound
    exact ⟨tail, rfl, htail⟩

/-- What follows an octet has no other lone surrogates, and none before it is completed. -/
theorem tokens_eq_octet_cons {s : Text} {o : UInt8} {rest : List Token}
    (h : tokens s = some (.octet o :: rest)) : ∃ s', tokens s' = some rest ∧
      (IsWellFormed s → IsWellFormed s') ∧
      ∀ u, isLeadingSurrogate u = true → ¬IsWellFormed (u :: s) := by
  rcases tokens_cases h with ⟨-, hfound⟩ |
    ⟨a, b, tail, high, low, found, rfl, hhigh, hlow, htail, hfound⟩ | ⟨_, _, _, -, -, hfound⟩
  · cases hfound
  · cases hfound
    refine ⟨tail, htail, ?_, fun u hu hwell ↦ ?_⟩
    · rw [isWellFormed_cons_of_lt (by decide),
        isWellFormed_cons_of_lt (toNat_of_parseHexDigit hhigh),
        isWellFormed_cons_of_lt (toNat_of_parseHexDigit hlow)]
      exact id
    · exact absurd ((isWellFormed_pair hu _ _).mp hwell).1 (by decide)
  · cases hfound

/-- A decoded text has no lone surrogate when the text has none; with a leading surrogate before
it, neither. -/
theorem isWellFormed_of_decodeTokens {found : List Token} {w : Text}
    (h : decodeTokens found = some w) {s : Text} (hs : tokens s = some found) :
    (IsWellFormed s → IsWellFormed w) ∧
      ∀ u, isLeadingSurrogate u = true → IsWellFormed (u :: s) → IsWellFormed (u :: w) := by
  fun_induction decodeTokens found generalizing w s with
  | case1 =>
    cases h
    rw [tokens_eq_nil hs]
    exact ⟨id, fun u hu ↦ id⟩
  | case2 v tail ih =>
    obtain ⟨w, hw, rfl⟩ := Option.map_eq_some_iff.mp h
    obtain ⟨s', rfl, hs'⟩ := tokens_eq_unit_cons hs
    obtain ⟨hself, hpending⟩ := ih hw hs'
    constructor
    · intro hwell
      cases hv : isLeadingSurrogate v with
      | true => exact hpending v hv hwell
      | false =>
        rw [isWellFormed_cons hv] at hwell ⊢
        exact hwell.imp id hself
    · intro u hu hwell
      rw [isWellFormed_pair hu] at hwell ⊢
      exact hwell.imp id hself
  | case3 a tail ha ih =>
    obtain ⟨c, w, hw, rfl⟩ := exists_of_emit h
    obtain ⟨s₁, hs₁, hwell₁, hnone⟩ := tokens_eq_octet_cons hs
    refine ⟨fun hwell ↦ ?_, fun u hu hwell ↦ absurd hwell (hnone u hu)⟩
    rw [isWellFormed_utf16_append]
    exact (ih hw hs₁).1 (hwell₁ hwell)
  | case4 a b tail ha ih =>
    obtain ⟨c, w, hw, rfl⟩ := exists_of_emit h
    obtain ⟨s₁, hs₁, hwell₁, hnone⟩ := tokens_eq_octet_cons hs
    obtain ⟨s₂, hs₂, hwell₂, -⟩ := tokens_eq_octet_cons hs₁
    refine ⟨fun hwell ↦ ?_, fun u hu hwell ↦ absurd hwell (hnone u hu)⟩
    rw [isWellFormed_utf16_append]
    exact (ih hw hs₂).1 (hwell₂ (hwell₁ hwell))
  | case5 a b c tail ha ih =>
    obtain ⟨c, w, hw, rfl⟩ := exists_of_emit h
    obtain ⟨s₁, hs₁, hwell₁, hnone⟩ := tokens_eq_octet_cons hs
    obtain ⟨s₂, hs₂, hwell₂, -⟩ := tokens_eq_octet_cons hs₁
    obtain ⟨s₃, hs₃, hwell₃, -⟩ := tokens_eq_octet_cons hs₂
    refine ⟨fun hwell ↦ ?_, fun u hu hwell ↦ absurd hwell (hnone u hu)⟩
    rw [isWellFormed_utf16_append]
    exact (ih hw hs₃).1 (hwell₃ (hwell₂ (hwell₁ hwell)))
  | case6 a b c d tail ha ih =>
    obtain ⟨c, w, hw, rfl⟩ := exists_of_emit h
    obtain ⟨s₁, hs₁, hwell₁, hnone⟩ := tokens_eq_octet_cons hs
    obtain ⟨s₂, hs₂, hwell₂, -⟩ := tokens_eq_octet_cons hs₁
    obtain ⟨s₃, hs₃, hwell₃, -⟩ := tokens_eq_octet_cons hs₂
    obtain ⟨s₄, hs₄, hwell₄, -⟩ := tokens_eq_octet_cons hs₃
    refine ⟨fun hwell ↦ ?_, fun u hu hwell ↦ absurd hwell (hnone u hu)⟩
    rw [isWellFormed_utf16_append]
    exact (ih hw hs₄).1 (hwell₄ (hwell₃ (hwell₂ (hwell₁ hwell))))
  | case7 => cases h

theorem isWellFormed_of_decodeURIComponent {s w : Text} (h : decodeURIComponent s = some w)
    (hs : IsWellFormed s) : IsWellFormed w := by
  obtain ⟨found, hfound, h⟩ := Option.bind_eq_some_iff.mp h
  exact (isWellFormed_of_decodeTokens h hfound).1 hs

/-- A text that is cut at a character of one code unit has lone surrogates in its parts only. -/
theorem isWellFormed_append_cons {u : CodeUnit} (hu : u.toNat < 0xD800) {before after : Text}
    (h : IsWellFormed (before ++ u :: after)) : IsWellFormed before ∧ IsWellFormed after := by
  obtain ⟨htrailing, hleading⟩ := not_surrogate_of_lt hu
  rw [isWellFormed_iff] at h
  rw [isWellFormed_iff, isWellFormed_iff]
  fun_induction toChars before with
  | case1 =>
    rw [List.nil_append, toChars_cons htrailing hleading, Option.isSome_map] at h
    exact ⟨rfl, h⟩
  | case2 v tail hv =>
    rw [List.cons_append, toChars.eq_def] at h
    simp [hv] at h
  | case3 v hv hlead =>
    rw [List.singleton_append, toChars.eq_def] at h
    simp [hv, hlead, htrailing] at h
  | case4 v hv hlead w tail hw ih =>
    rw [List.cons_append, List.cons_append, toChars_pair hlead hw, Option.isSome_map] at h
    rw [Option.isSome_map]
    exact ih h
  | case5 v hv hlead w tail hw =>
    rw [List.cons_append, List.cons_append, toChars.eq_def] at h
    simp [hv, hlead, hw] at h
  | case6 v tail hv hlead ih =>
    rw [List.cons_append, toChars_cons (Bool.eq_false_iff.mpr hv) (Bool.eq_false_iff.mpr hlead),
      Option.isSome_map] at h
    rw [Option.isSome_map]
    exact ih h

end YandexPay.JsUri
