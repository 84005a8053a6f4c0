import Mathlib.Data.List.Basic

/-!
# JSON values as JavaScript reads them

The results of `JSON.parse`, with the operations of the language that meet a value of unknown
shape: reading a property, truthiness, strict equality with a text, and `String(value)`. A missing
property is `undefined`, here `none`. Reading a property of `null` throws, and so does the text of
an object whose own `toString` hides the inherited one, since no JSON value is a function. A number
is given by its text, which determines whether it is zero.
-/

set_option autoImplicit false
set_option relaxedAutoImplicit false

namespace YandexPay

inductive JsValue
  | null
  | bool (value : Bool)
  | number (text : String)
  | string (text : String)
  | array (elements : List JsValue)
  | object (fields : List (String × JsValue))

namespace JsValue

def isNull : JsValue → Bool
  | .null => true
  | _ => false

/-- `value.key` for a key that no prototype has; the outer `none` is the `TypeError` of `null`. -/
def get? (value : JsValue) (key : String) : Option (Option JsValue) :=
  match value with
  | .null => none
  | .object fields => some ((fields.find? fun field ↦ field.1 = key).map Prod.snd)
  | _ => some none

def truthy : JsValue → Bool
  | .null => false
  | .bool value => value
  | .number text => text ≠ "0" ∧ text ≠ "NaN"
  | .string text => text ≠ ""
  | .array _ => true
  | .object _ => true

/-- `value === text` -/
def isText (value : JsValue) (text : String) : Bool :=
  match value with
  | .string s => s = text
  | _ => false

mutual

/-- `String(value)` -/
def toText : JsValue → Option String
  | .null => some "null"
  | .bool value => some (if value then "true" else "false")
  | .number text => some text
  | .string text => some text
  | .array elements => joinTexts elements
  | .object fields => if fields.any fun field ↦ field.1 = "toString" then none
    else some "[object Object]"

/-- `elements.join()` -/
def joinTexts : List JsValue → Option String
  | [] => some ""
  | element :: elements => do
    let text ← if element.isNull then some "" else toText element
    let rest ← joinTexts elements
    return if elements.isEmpty then text else text ++ "," ++ rest

end

theorem get?_eq_none {value : JsValue} {key : String} : value.get? key = none ↔ value = .null := by
  cases value <;> simp [get?]

end JsValue

/-- `value || fallback` on texts. -/
def orElseText (value fallback : String) : String := if value = "" then fallback else value

/-- The keys that every object literal has from `Object.prototype`. -/
def objectPrototypeKeys : List String :=
  ["constructor", "__defineGetter__", "__defineSetter__", "hasOwnProperty", "__lookupGetter__",
    "__lookupSetter__", "isPrototypeOf", "propertyIsEnumerable", "toString", "valueOf",
    "__proto__", "toLocaleString"]

end YandexPay
