import Mathlib.Data.Rat.Defs
import YandexPay.Library.Base64

/-!
# JSON in Python

The values that `json.loads` returns, with the operations that meet a value of unknown shape and
raise when it is of another one: iteration, `get`, `items` and `hash`. `b64decode` is
`base64.b64decode` of a text, which skips what is no character of the alphabet.
-/

set_option autoImplicit false
set_option relaxedAutoImplicit false

namespace YandexPay

/-- The exceptions by their classes; the first four are subclasses of `ValueError`, or that class
itself. -/
inductive PyError
  | binasciiError
  | jsonDecodeError
  | unicodeDecodeError
  | valueError
  | recursionError
  | typeError
  | attributeError
  deriving DecidableEq

/-! ### `base64.b64decode` -/

/-- `binascii.a2b_base64` after some characters: of the group at hand `quad` were read, the last
one with the bits `left`, and `pads` paddings followed them. -/
def a2bBase64 (quad left pads : ℕ) : Bytes → Option Bytes
  | [] => if quad = 0 then some [] else none
  | c :: rest =>
    if c = 61 then
      if 2 ≤ quad then
        if 4 ≤ quad + (pads + 1) then some [] else a2bBase64 quad left (pads + 1) rest
      else a2bBase64 quad left pads rest
    else
      match Base64.sextet c with
      | none => a2bBase64 quad left pads rest
      | some v =>
        match quad with
        | 0 => a2bBase64 1 v 0 rest
        | 1 => (a2bBase64 2 (v % 16) 0 rest).map fun data ↦ UInt8.ofNat (left * 4 + v / 16) :: data
        | 2 => (a2bBase64 3 (v % 4) 0 rest).map fun data ↦ UInt8.ofNat (left * 16 + v / 4) :: data
        | _ => (a2bBase64 0 0 0 rest).map fun data ↦ UInt8.ofNat (left * 64 + v) :: data

/-- `base64.b64decode` of a text -/
def b64decode (text : String) : Except PyError Bytes :=
  if text.toList.all fun c ↦ c.toNat < 128 then
    match a2bBase64 0 0 0 (text.toList.map fun c ↦ UInt8.ofNat c.toNat) with
    | some data => .ok data
    | none => .error .binasciiError
  else .error .valueError

example : (b64decode "TW_Fu-eQ==").toOption = some (utf8 "Many") := by decide +kernel

example : (b64decode "not_b64_encoded").toOption = none := by decide +kernel

/-! ### Values -/

/-- A value that a set may hold, up to the equality of Python: `True` is `1`, and `1.0` too. -/
inductive PyScalar
  | none
  | number (value : ℚ)
  | infinity (negative : Bool)
  | nan
  | text (s : String)
  deriving DecidableEq

inductive PyJson
  | null
  | bool (value : Bool)
  | number (value : ℚ)
  | infinity (negative : Bool)
  | nan
  | string (s : String)
  | list (elements : List PyJson)
  | dict (fields : List (String × PyJson))

namespace PyJson

/-- The value as an element of a set. -/
def hash : PyJson → Except PyError PyScalar
  | .null => .ok .none
  | .bool value => .ok (.number (if value then 1 else 0))
  | .number value => .ok (.number value)
  | .infinity negative => .ok (.infinity negative)
  | .nan => .ok .nan
  | .string s => .ok (.text s)
  | .list _ => .error .typeError
  | .dict _ => .error .typeError

/-- `iter(value)` -/
def iterate : PyJson → Except PyError (List PyJson)
  | .list elements => .ok elements
  | .string s => .ok (s.toList.map fun c ↦ .string c.toString)
  | .dict fields => .ok (fields.map fun field ↦ .string field.1)
  | _ => .error .typeError

/-- `value.get(key, default)` -/
def get (value : PyJson) (key : String) (default : PyJson) : Except PyError PyJson :=
  match value with
  | .dict fields => .ok ((fields.lookup key).getD default)
  | _ => .error .attributeError

/-- `value.items()` -/
def items : PyJson → Except PyError (List (String × PyJson))
  | .dict fields => .ok fields
  | _ => .error .attributeError

/-- `value == text` -/
def isText (value : PyJson) (text : String) : Bool :=
  match value with
  | .string s => s = text
  | _ => false

end PyJson

/-! ### Sorting a set -/

namespace PyScalar

/-- `a < b` does not raise. -/
def Comparable : PyScalar → PyScalar → Prop
  | .text _, .text _ => True
  | .none, _ => False
  | _, .none => False
  | .text _, _ => False
  | _, .text _ => False
  | _, _ => True

instance (a b : PyScalar) : Decidable (Comparable a b) := by
  unfold Comparable
  split <;> infer_instance

/-- `sorted` of the set does not raise. -/
def Sortable (ids : List PyScalar) : Prop := ∀ a ∈ ids, ∀ b ∈ ids, a = b ∨ Comparable a b

instance (ids : List PyScalar) : Decidable (Sortable ids) :=
  inferInstanceAs (Decidable (∀ a ∈ ids, ∀ b ∈ ids, _))

theorem Sortable.subset {ids ids' : List PyScalar} (h : Sortable ids) (hsub : ids' ⊆ ids) :
    Sortable ids' :=
  fun a ha b hb ↦ h a (hsub ha) b (hsub hb)

end PyScalar

end YandexPay
