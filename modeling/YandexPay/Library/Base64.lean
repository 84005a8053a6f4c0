import YandexPay.Library.GoOutcome

/-!
# Base64 with padding

`StdEncoding` of Go's `encoding/base64`. The decoder skips line breaks, takes the characters four
at a time, accepts padding in the last group only, and ignores the bits that padding leaves over.
`decodeString_encodeToString` is the round trip.
-/

set_option autoImplicit false
set_option relaxedAutoImplicit false

namespace YandexPay.Base64

/-- The six bits of a character of the alphabet. -/
def sextet (c : UInt8) : Option ℕ :=
  if 65 ≤ c ∧ c ≤ 90 then some (c.toNat - 65)
  else if 97 ≤ c ∧ c ≤ 122 then some (c.toNat - 71)
  else if 48 ≤ c ∧ c ≤ 57 then some (c.toNat + 4)
  else if c = 43 then some 62
  else if c = 47 then some 63
  else none

/-- The first `count` bytes of a group of four sextets. -/
def groupBytes (a b c d count : ℕ) : Bytes :=
  let value := ((a * 64 + b) * 64 + c) * 64 + d
  [UInt8.ofNat (value / 65536), UInt8.ofNat (value / 256), UInt8.ofNat value].take count

/-- The groups of a text without line breaks; 61 is the padding. -/
def decodeGroups : Bytes → Option Bytes
  | [] => some []
  | [a, b, 61, 61] => do return groupBytes (← sextet a) (← sextet b) 0 0 1
  | [a, b, c, 61] => do return groupBytes (← sextet a) (← sextet b) (← sextet c) 0 2
  | a :: b :: c :: d :: rest => do
    let group := groupBytes (← sextet a) (← sextet b) (← sextet c) (← sextet d) 3
    return group ++ (← decodeGroups rest)
  | _ => none

/-- `base64.StdEncoding.DecodeString` -/
def decodeString (text : Bytes) : Outcome Bytes :=
  Outcome.ofOption .corruptInput (decodeGroups (text.filter fun c ↦ c ≠ 10 ∧ c ≠ 13))

theorem decodeString_ne_panic (text : Bytes) : decodeString text ≠ .panic :=
  Outcome.ofOption_ne_panic _ _

example : decodeGroups (utf8 "TWFueQ==") = some (utf8 "Many") := by decide

/-! ### Encoding -/

/-- The character of six bits. -/
def character (n : ℕ) : UInt8 :=
  if n < 26 then UInt8.ofNat (n + 65)
  else if n < 52 then UInt8.ofNat (n + 71)
  else if n < 62 then UInt8.ofNat (n - 4)
  else if n = 62 then 43
  else 47

/-- The first `count` characters of three bytes. -/
def groupCharacters (a b c : UInt8) (count : ℕ) : Bytes :=
  let value := (a.toNat * 256 + b.toNat) * 256 + c.toNat
  [character (value / 262144), character (value / 4096 % 64), character (value / 64 % 64),
    character (value % 64)].take count

/-- `base64.StdEncoding.EncodeToString` -/
def encodeToString : Bytes → Bytes
  | [] => []
  | [a] => groupCharacters a 0 0 2 ++ [61, 61]
  | [a, b] => groupCharacters a b 0 3 ++ [61]
  | a :: b :: c :: rest => groupCharacters a b c 4 ++ encodeToString rest

/-! ### The round trip -/

theorem sextet_character : ∀ n < 64, sextet (character n) = some n := by decide

theorem character_ne : ∀ n < 64, character n ≠ 61 ∧ character n ≠ 10 ∧ character n ≠ 13 := by decide

theorem decodeGroups_cons {a b c d : UInt8} {rest : Bytes} (hc : c ≠ 61) (hd : d ≠ 61) :
    decodeGroups (a :: b :: c :: d :: rest) = (do
      let group := groupBytes (← sextet a) (← sextet b) (← sextet c) (← sextet d) 3
      return group ++ (← decodeGroups rest)) := by
  rw [decodeGroups]
  · intro h
    exact absurd h hc
  · intro h
    exact absurd h hd

theorem decodeGroups_three {a b c : UInt8} (hc : c ≠ 61) :
    decodeGroups [a, b, c, 61] = (do
      return groupBytes (← sextet a) (← sextet b) (← sextet c) 0 2) := by
  rw [decodeGroups]
  intro h
  exact absurd h hc

theorem ofNat_eq {n : ℕ} {a : UInt8} (h : n % 256 = a.toNat) : UInt8.ofNat n = a := by
  rw [← UInt8.toNat_inj, UInt8.toNat_ofNat']
  exact h

/-- The three bytes are those of their four sextets. -/
theorem groupBytes_three (a b c : UInt8) {v : ℕ}
    (hv : v = (a.toNat * 256 + b.toNat) * 256 + c.toNat) :
    groupBytes (v / 262144) (v / 4096 % 64) (v / 64 % 64) (v % 64) 3 = [a, b, c] := by
  have ha := a.toNat_lt
  have hb := b.toNat_lt
  have hc := c.toNat_lt
  have hvalue : ((v / 262144 * 64 + v / 4096 % 64) * 64 + v / 64 % 64) * 64 + v % 64 = v := by
    omega
  simp only [groupBytes, hvalue, List.take_succ_cons, List.take_zero, List.cons.injEq, and_true]
  exact ⟨ofNat_eq (by omega), ofNat_eq (by omega), ofNat_eq (by omega)⟩

theorem groupBytes_two (a b : UInt8) {v : ℕ} (hv : v = (a.toNat * 256 + b.toNat) * 256) :
    groupBytes (v / 262144) (v / 4096 % 64) (v / 64 % 64) 0 2 = [a, b] := by
  have ha := a.toNat_lt
  have hb := b.toNat_lt
  have hvalue : ((v / 262144 * 64 + v / 4096 % 64) * 64 + v / 64 % 64) * 64 + 0 = v := by omega
  simp only [groupBytes, hvalue, List.take_succ_cons, List.take_zero, List.cons.injEq, and_true]
  exact ⟨ofNat_eq (by omega), ofNat_eq (by omega)⟩

theorem groupBytes_one (a : UInt8) {v : ℕ} (hv : v = a.toNat * 65536) :
    groupBytes (v / 262144) (v / 4096 % 64) 0 0 1 = [a] := by
  have ha := a.toNat_lt
  have hvalue : ((v / 262144 * 64 + v / 4096 % 64) * 64 + 0) * 64 + 0 = v := by omega
  simp only [groupBytes, hvalue, List.take_succ_cons, List.take_zero, List.cons.injEq, and_true]
  exact ofNat_eq (by omega)

theorem decodeGroups_encodeToString (data : Bytes) :
    decodeGroups (encodeToString data) = some data := by
  fun_induction encodeToString data with
  | case1 => rfl
  | case2 a =>
    have ha := a.toNat_lt
    simp only [groupCharacters, UInt8.toNat_zero, add_zero, List.take_succ_cons, List.take_zero,
      List.cons_append, List.nil_append, decodeGroups]
    rw [sextet_character _ (by omega), sextet_character _ (by omega)]
    exact congrArg some (groupBytes_one a (by omega))
  | case3 a b =>
    have ha := a.toNat_lt
    have hb := b.toNat_lt
    simp only [groupCharacters, UInt8.toNat_zero, add_zero, List.take_succ_cons, List.take_zero,
      List.cons_append, List.nil_append]
    rw [decodeGroups_three (character_ne _ (by omega)).1, sextet_character _ (by omega),
      sextet_character _ (by omega), sextet_character _ (by omega)]
    exact congrArg some (groupBytes_two a b rfl)
  | case4 a b c rest ih =>
    have ha := a.toNat_lt
    have hb := b.toNat_lt
    have hc := c.toNat_lt
    simp only [groupCharacters, List.take_succ_cons, List.take_zero, List.cons_append,
      List.nil_append]
    rw [decodeGroups_cons (character_ne _ (by omega)).1 (character_ne _ (by omega)).1,
      sextet_character _ (by omega), sextet_character _ (by omega),
      sextet_character _ (by omega), sextet_character _ (by omega), ih]
    exact congrArg (fun group ↦ some (group ++ rest)) (groupBytes_three a b c rfl)

theorem length_le_length_encodeToString (data : Bytes) :
    data.length ≤ (encodeToString data).length := by
  fun_induction encodeToString data with
  | case1 => exact Nat.le_refl _
  | case2 a => exact (by decide : 1 ≤ 4)
  | case3 a b => exact (by decide : 2 ≤ 4)
  | case4 a b c rest ih =>
    have hgroup : (groupCharacters a b c 4).length = 4 := rfl
    rw [List.length_append, hgroup]
    simp only [List.length_cons]
    omega

/-- Encoded text consists of the alphabet and padding. -/
theorem eq_character_of_mem {data : Bytes} {c : UInt8} (hc : c ∈ encodeToString data) :
    c = 61 ∨ ∃ n < 64, c = character n := by
  have hgroup : ∀ {a b d : UInt8} {count : ℕ}, c ∈ groupCharacters a b d count →
      ∃ n < 64, c = character n := by
    intro a b d count hmem
    have ha := a.toNat_lt
    have hb := b.toNat_lt
    have hd := d.toNat_lt
    have hfour := List.mem_of_mem_take hmem
    simp only [List.mem_cons, List.not_mem_nil, or_false] at hfour
    rcases hfour with h | h | h | h
    all_goals exact ⟨_, by omega, h⟩
  fun_induction encodeToString data with
  | case1 => exact absurd hc List.not_mem_nil
  | case2 a =>
    rcases List.mem_append.mp hc with hmem | hpadding
    · exact Or.inr (hgroup hmem)
    · simp only [List.mem_cons, List.not_mem_nil, or_false, or_self] at hpadding
      exact Or.inl hpadding
  | case3 a b =>
    rcases List.mem_append.mp hc with hmem | hpadding
    · exact Or.inr (hgroup hmem)
    · exact Or.inl (List.mem_singleton.mp hpadding)
  | case4 a b d rest ih =>
    rcases List.mem_append.mp hc with hmem | hrest
    · exact Or.inr (hgroup hmem)
    · exact ih hrest

/-- Encoded text has no line breaks. -/
theorem ne_lineBreak_of_mem {data : Bytes} {c : UInt8} (hc : c ∈ encodeToString data) :
    c ≠ 10 ∧ c ≠ 13 := by
  rcases eq_character_of_mem hc with rfl | ⟨n, hn, rfl⟩
  · decide
  · exact (character_ne n hn).2

/-- Decoding undoes encoding. -/
theorem decodeString_encodeToString (data : Bytes) :
    decodeString (encodeToString data) = .ok data := by
  have hfilter : (encodeToString data).filter (fun c ↦ c ≠ 10 ∧ c ≠ 13) = encodeToString data :=
    List.filter_eq_self.mpr fun c hc ↦ decide_eq_true (ne_lineBreak_of_mem hc)
  rw [decodeString, hfilter, decodeGroups_encodeToString]
  rfl

theorem encodeToString_ne_nil {data : Bytes} (h : data ≠ []) : encodeToString data ≠ [] := by
  fun_cases encodeToString data with
  | case1 => exact absurd rfl h
  | case2 a => exact List.append_ne_nil_of_right_ne_nil _ (by decide)
  | case3 a b => exact List.append_ne_nil_of_right_ne_nil _ (by decide)
  | case4 a b c rest => exact List.append_ne_nil_of_left_ne_nil (by simp [groupCharacters]) _

/-! ### ASCII text -/

theorem sextet_ascii {c : UInt8} {n : ℕ} (h : sextet c = some n) : c < 128 := by
  have hlt : c < 128 ∨ sextet c = none := by
    rw [sextet]
    split_ifs with h1 h2 h3 h4 h5
    · exact Or.inl (UInt8.lt_of_le_of_lt h1.2 (by decide))
    · exact Or.inl (UInt8.lt_of_le_of_lt h2.2 (by decide))
    · exact Or.inl (UInt8.lt_of_le_of_lt h3.2 (by decide))
    · exact Or.inl (h4 ▸ by decide)
    · exact Or.inl (h5 ▸ by decide)
    · exact Or.inr rfl
  exact hlt.resolve_right (by rw [h]; exact Option.some_ne_none n)

theorem decodeGroups_ascii {text data : Bytes} (h : decodeGroups text = some data) :
    Ascii text := by
  fun_induction decodeGroups text generalizing data with
  | case1 => exact fun c hc ↦ absurd hc List.not_mem_nil
  | case2 a b =>
    simp only [Option.bind_eq_bind, Option.bind_eq_some_iff] at h
    obtain ⟨x, hx, y, hy, -⟩ := h
    simp [Ascii, sextet_ascii hx, sextet_ascii hy]
  | case3 a b c =>
    simp only [Option.bind_eq_bind, Option.bind_eq_some_iff] at h
    obtain ⟨x, hx, y, hy, z, hz, -⟩ := h
    simp [Ascii, sextet_ascii hx, sextet_ascii hy, sextet_ascii hz]
  | case4 a b c d rest _ _ ih =>
    simp only [Option.bind_eq_bind, Option.bind_eq_some_iff] at h
    obtain ⟨x, hx, y, hy, z, hz, w, hw, others, hothers, -⟩ := h
    simp only [Ascii, List.forall_mem_cons]
    exact ⟨sextet_ascii hx, sextet_ascii hy, sextet_ascii hz, sextet_ascii hw, ih hothers⟩
  | case5 => cases h

/-- What decodes is ASCII text. -/
theorem ascii_of_decodeString {text data : Bytes} (h : decodeString text = .ok data) :
    Ascii text := by
  have hgroups := decodeGroups_ascii (Outcome.ofOption_eq_ok.mp h)
  intro c hc
  by_cases hbreak : c ≠ 10 ∧ c ≠ 13
  · exact hgroups c (List.mem_filter.mpr ⟨hc, decide_eq_true hbreak⟩)
  · rcases not_and_or.mp hbreak with hbreak | hbreak
    · exact not_not.mp hbreak ▸ by decide
    · exact not_not.mp hbreak ▸ by decide

theorem encodeToString_ascii (data : Bytes) : Ascii (encodeToString data) :=
  ascii_of_decodeString (decodeString_encodeToString data)

end YandexPay.Base64
