import Mathlib.Algebra.Group.Int.Defs
import Mathlib.Algebra.Group.Nat.Defs
import Mathlib.Data.List.Basic

/-!
# Results of Go functions

A Go function that returns a value and an error, and may panic, has an `Outcome`. Its bind is the
early return on an error. A pointer is an option, and `deref` of a nil pointer panics. Strings are
their bytes. `parseInt` is `strconv.ParseInt` in base 10 for 64 bits, and `parseInt_formatInt` its
round trip with `strconv.FormatInt`.
-/

set_option autoImplicit false
set_option relaxedAutoImplicit false

namespace YandexPay

abbrev Bytes := List UInt8

/-- The bytes of a literal. -/
def utf8 (text : String) : Bytes := text.toUTF8.data.toList

inductive GoError
  /-- `fmt.Errorf`, with the bytes that its format prints. -/
  | errorf (format : String) (argument : Bytes)
  /-- `fmt.Errorf`, with the errors that its format prints. -/
  | errorsf (format : String) (errors : List GoError)
  /-- `base64.CorruptInputError` -/
  | corruptInput
  /-- `strconv.NumError` -/
  | numError (input : Bytes)
  /-- The error of a package outside the repository. -/
  | library (text : String)

inductive Outcome (α : Type)
  | ok (value : α)
  | err (error : GoError)
  | panic

namespace Outcome

variable {α β : Type}

protected def bind (x : Outcome α) (f : α → Outcome β) : Outcome β :=
  match x with
  | .ok value => f value
  | .err error => .err error
  | .panic => .panic

instance : Monad Outcome where
  pure := .ok
  bind := Outcome.bind

@[simp] theorem pure_eq_ok {a b : α} : (pure a : Outcome α) = .ok b ↔ a = b :=
  ⟨fun h ↦ Outcome.ok.inj h, fun h ↦ congrArg Outcome.ok h⟩

theorem bind_eq_ok {x : Outcome α} {f : α → Outcome β} {b : β} :
    (x >>= f) = .ok b ↔ ∃ a, x = .ok a ∧ f a = .ok b := by
  change x.bind f = .ok b ↔ _
  cases x with
  | ok a =>
    constructor
    · exact fun h ↦ ⟨a, rfl, h⟩
    · rintro ⟨c, hc, h⟩
      rw [Outcome.ok.inj hc]
      exact h
  | err error =>
    constructor
    · intro h
      cases h
    · rintro ⟨a, h, -⟩
      cases h
  | panic =>
    constructor
    · intro h
      cases h
    · rintro ⟨a, h, -⟩
      cases h

theorem pure_ne_panic (a : α) : (pure a : Outcome α) ≠ .panic := fun h ↦ by cases h

theorem err_ne_panic (error : GoError) : (.err error : Outcome α) ≠ .panic := fun h ↦ by cases h

/-- A sequence panics where its first part does, or its second part on the value of the first. -/
theorem bind_eq_panic {x : Outcome α} {f : α → Outcome β} :
    (x >>= f) = .panic ↔ x = .panic ∨ ∃ a, x = .ok a ∧ f a = .panic := by
  change x.bind f = .panic ↔ _
  cases x with
  | ok a =>
    constructor
    · exact fun h ↦ Or.inr ⟨a, rfl, h⟩
    · rintro (h | ⟨c, hc, h⟩)
      · cases h
      · rw [Outcome.ok.inj hc]
        exact h
  | err error =>
    constructor
    · intro h
      cases h
    · rintro (h | ⟨a, h, -⟩)
      · cases h
      · cases h
  | panic => exact ⟨fun _ ↦ Or.inl rfl, fun _ ↦ rfl⟩

/-- A first part that does not panic leaves the panics of the second. -/
theorem bind_eq_panic_of_ne {x : Outcome α} {f : α → Outcome β} (hx : x ≠ .panic) :
    (x >>= f) = .panic ↔ ∃ a, x = .ok a ∧ f a = .panic := by
  rw [bind_eq_panic]
  exact or_iff_right hx

/-- A second part that does not panic leaves the panics of the first. -/
theorem bind_eq_panic_iff_left {x : Outcome α} {f : α → Outcome β}
    (hf : ∀ a, x = .ok a → f a ≠ .panic) : (x >>= f) = .panic ↔ x = .panic := by
  rw [bind_eq_panic]
  refine or_iff_left ?_
  rintro ⟨a, ha, h⟩
  exact hf a ha h

theorem bind_ne_panic {x : Outcome α} {f : α → Outcome β} (hx : x ≠ .panic)
    (hf : ∀ a, x = .ok a → f a ≠ .panic) : (x >>= f) ≠ .panic := by
  rw [Ne, bind_eq_panic_of_ne hx]
  rintro ⟨a, ha, h⟩
  exact hf a ha h

instance decidableEqOk [DecidableEq α] (x : Outcome α) (value : α) :
    Decidable (x = .ok value) :=
  match x with
  | .ok other => decidable_of_iff (other = value) ⟨congrArg _, Outcome.ok.inj⟩
  | .err _ => .isFalse fun h ↦ by cases h
  | .panic => .isFalse fun h ↦ by cases h

/-- The value behind a pointer. -/
def deref : Option α → Outcome α
  | some value => .ok value
  | none => .panic

@[simp] theorem deref_eq_ok {pointer : Option α} {value : α} :
    deref pointer = .ok value ↔ pointer = some value := by
  cases pointer <;> simp [deref]

@[simp] theorem deref_eq_panic {pointer : Option α} :
    deref pointer = .panic ↔ pointer = none := by
  cases pointer <;> simp [deref]

/-- Returns the error unless the condition holds. -/
def require (condition : Bool) (error : GoError) : Outcome Unit :=
  if condition then .ok () else .err error

@[simp] theorem require_eq_ok {condition : Bool} {error : GoError} {u : Unit} :
    require condition error = .ok u ↔ condition = true := by
  cases condition <;> simp [require]

theorem require_ne_panic (condition : Bool) (error : GoError) :
    require condition error ≠ .panic := by
  cases condition <;> simp [require]

/-- The outcome of a part of a function that cannot panic. -/
def ofExcept : Except GoError α → Outcome α
  | .ok value => .ok value
  | .error error => .err error

theorem ofExcept_eq_ok {x : Except GoError α} {value : α} :
    ofExcept x = .ok value ↔ x = .ok value := by
  cases x <;> simp [ofExcept]

theorem ofExcept_ne_panic (x : Except GoError α) : ofExcept x ≠ .panic := by
  cases x <;> simp [ofExcept]

def ofOption (error : GoError) : Option α → Outcome α
  | some value => .ok value
  | none => .err error

@[simp] theorem ofOption_eq_ok {error : GoError} {x : Option α} {value : α} :
    ofOption error x = .ok value ↔ x = some value := by
  cases x <;> simp [ofOption]

theorem ofOption_ne_panic (error : GoError) (x : Option α) : ofOption error x ≠ .panic := by
  cases x <;> simp [ofOption]

/-- Wraps the error of a call. -/
def mapErr (f : GoError → GoError) : Outcome α → Outcome α
  | .ok value => .ok value
  | .err error => .err (f error)
  | .panic => .panic

@[simp] theorem mapErr_eq_ok {f : GoError → GoError} {x : Outcome α} {value : α} :
    mapErr f x = .ok value ↔ x = .ok value := by
  cases x <;> simp [mapErr]

theorem mapErr_ne_panic {f : GoError → GoError} {x : Outcome α} :
    mapErr f x ≠ .panic ↔ x ≠ .panic := by
  cases x <;> simp [mapErr]

end Outcome

/-! ### Integers -/

/-- The number that decimal digits write. -/
def parseDigits (digits : Bytes) : Option ℕ :=
  if digits ≠ [] ∧ digits.all fun d ↦ 48 ≤ d ∧ d ≤ 57 then
    some (digits.foldl (fun n d ↦ 10 * n + (d.toNat - 48)) 0)
  else none

/-- `strconv.ParseInt(s, 10, 64)`; `none` for a syntax or a range error. -/
def parseInt (s : Bytes) : Option ℤ :=
  match s with
  | 43 :: digits => (parseDigits digits).bind fun n ↦ if n < 2 ^ 63 then some n else none
  | 45 :: digits => (parseDigits digits).bind fun n ↦ if n ≤ 2 ^ 63 then some (-n) else none
  | digits => (parseDigits digits).bind fun n ↦ if n < 2 ^ 63 then some n else none

def formatNat (n : ℕ) : Bytes := (Nat.toDigits 10 n).map fun d ↦ UInt8.ofNat d.toNat

/-- `strconv.FormatInt(n, 10)` -/
def formatInt : ℤ → Bytes
  | .ofNat n => formatNat n
  | .negSucc n => 45 :: formatNat (n + 1)

theorem digit_byte {d : Char} (hd : d.isDigit = true) :
    (UInt8.ofNat d.toNat).toNat = d.toNat ∧ 48 ≤ d.toNat ∧ d.toNat ≤ 57 := by
  simp only [Char.isDigit, Bool.and_eq_true, decide_eq_true_eq, ge_iff_le] at hd
  have hlow : 48 ≤ d.toNat := by simpa using UInt32.le_iff_toNat_le.mp hd.1
  have hhigh : d.toNat ≤ 57 := by simpa using UInt32.le_iff_toNat_le.mp hd.2
  refine ⟨?_, hlow, hhigh⟩
  rw [UInt8.toNat_ofNat']
  omega

/-- The bytes of a number are digits. -/
theorem digit_of_mem_formatNat {n : ℕ} {c : UInt8} (hc : c ∈ formatNat n) : 48 ≤ c ∧ c ≤ 57 := by
  obtain ⟨d, hd, rfl⟩ := List.mem_map.mp hc
  obtain ⟨hbyte, hlow, hhigh⟩ :=
    digit_byte (Nat.isDigit_of_mem_toDigits (by decide) (by decide) hd)
  rw [UInt8.le_iff_toNat_le, UInt8.le_iff_toNat_le, hbyte]
  exact ⟨hlow, hhigh⟩

theorem formatNat_ne_nil (n : ℕ) : formatNat n ≠ [] :=
  fun h ↦ Nat.toDigits_ne_nil (List.map_eq_nil_iff.mp h)

theorem parseDigits_formatNat (n : ℕ) : parseDigits (formatNat n) = some n := by
  have hall : (formatNat n).all (fun d ↦ 48 ≤ d ∧ d ≤ 57) = true :=
    List.all_eq_true.mpr fun c hc ↦ decide_eq_true (digit_of_mem_formatNat hc)
  have hvalue : (formatNat n).foldl (fun n d ↦ 10 * n + (d.toNat - 48)) 0 =
      Nat.ofDigitChars 10 (Nat.toDigits 10 n) 0 := by
    rw [formatNat, List.foldl_map]
    refine List.foldl_ext _ _ 0 fun value d hd ↦ ?_
    rw [(digit_byte (Nat.isDigit_of_mem_toDigits (by decide) (by decide) hd)).1]
    rfl
  rw [parseDigits, if_pos ⟨formatNat_ne_nil n, hall⟩, hvalue, Nat.ofDigitChars_ten_toDigits]

/-- A number in the range of 64 bits is read back from its text. -/
theorem parseInt_formatInt {n : ℤ} (hlow : -2 ^ 63 ≤ n) (hhigh : n < 2 ^ 63) :
    parseInt (formatInt n) = some n := by
  cases n with
  | ofNat n =>
    have hvalue : (n : ℤ) < 2 ^ 63 := hhigh
    have hlt : n < 2 ^ 63 := by omega
    have hsign : ∀ c digits, ¬ 48 ≤ c → formatNat n ≠ c :: digits := fun c digits hc heq ↦
      hc (digit_of_mem_formatNat (heq ▸ List.mem_cons_self)).1
    rw [formatInt, parseInt]
    · rw [parseDigits_formatNat, Option.bind_some, if_pos hlt]
      rfl
    · exact fun digits ↦ hsign 43 digits (by decide)
    · exact fun digits ↦ hsign 45 digits (by decide)
  | negSucc n =>
    have hle : n + 1 ≤ 2 ^ 63 := by omega
    rw [formatInt, parseInt, parseDigits_formatNat, Option.bind_some, if_pos hle]
    rfl

/-- `strconv.ParseInt(s, 10, 64)` as a number of 64 bits. -/
def parseInt64 (s : Bytes) : Option Int64 := (parseInt s).map Int64.ofInt

theorem parseInt64_formatInt (n : Int64) : parseInt64 (formatInt n.toInt) = some n := by
  rw [parseInt64, parseInt_formatInt n.le_toInt n.toInt_lt, Option.map_some, Int64.ofInt_toInt]

/-- Text without bytes beyond 127. -/
def Ascii (text : Bytes) : Prop := ∀ c ∈ text, c < 128

theorem formatInt_ascii (n : ℤ) : Ascii (formatInt n) := by
  have hnat : ∀ n, Ascii (formatNat n) := fun n c hc ↦
    UInt8.lt_of_le_of_lt (digit_of_mem_formatNat hc).2 (by decide)
  cases n with
  | ofNat n => exact hnat n
  | negSucc n => exact List.forall_mem_cons.mpr ⟨by decide, hnat (n + 1)⟩

theorem formatInt_ne_nil (n : ℤ) : formatInt n ≠ [] := by
  cases n with
  | ofNat n => exact formatNat_ne_nil n
  | negSucc n => exact List.cons_ne_nil 45 _

end YandexPay
