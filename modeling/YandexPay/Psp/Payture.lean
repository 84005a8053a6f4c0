import YandexPay.Psp.Currency

/-!
# Requests to Payture

The requests of `lib/interactions/psp/payture/client.py` that carry an amount, up to the form that
is posted. The encoding of a cheque and the addresses are parameters.
-/

set_option autoImplicit false
set_option relaxedAutoImplicit false

namespace YandexPay.Psp

open PyDecimal

/-- A value of a form. -/
inductive FormValue
  | text (text : String)
  | int (value : ℤ)
  deriving DecidableEq

/-- The fields of a form, in the order in which they were set. -/
abbrev Form := List (String × FormValue)

def withoutNone (data : List (String × Option FormValue)) : Form :=
  data.filterMap fun field ↦ field.2.map fun value ↦ (field.1, value)

/-- What is posted. -/
structure PostRequest where
  interactionMethod : String
  url : String
  data : Form
  deriving DecidableEq

namespace Payture

structure Credentials where
  key : String
  password : String

/-- The client: its addresses, the precisions of currencies, and the encoding of cheques and of
browser data. -/
structure Client (Cheque BrowserData : Type*) where
  endpointUrl : String → String
  getCurrencyPrecision : Option String → ℕ
  encodeCheque : Cheque → String
  encodeBrowserData : BrowserData → String

variable {Cheque BrowserData : Type*} (client : Client Cheque BrowserData)

def roubles (amount : Decimal) : Except AmountError ℤ :=
  decimalToMinorUnits client.getCurrencyPrecision amount (some "RUB") none

/-- `amount_to_minor_units(..) if amount else None` -/
def partialAmount (amount : Option Decimal) : Except AmountError (Option FormValue) :=
  match amount.filter Decimal.truthy with
  | some amount => (roubles client amount).map fun n ↦ some (.int n)
  | none => .ok none

/-- `charge` and `refund`, which differ in the fields before the amount. -/
def postAmount (interactionMethod path : String) (fields : List (String × Option FormValue))
    (amount : Option Decimal) (cheque : Option Cheque) : Except AmountError PostRequest :=
  (partialAmount client amount).map fun value ↦
    { interactionMethod := interactionMethod
      url := client.endpointUrl path
      data := withoutNone (fields ++
        [("Amount", value),
          ("Cheque", cheque.map fun cheque ↦ .text (client.encodeCheque cheque))]) }

def charge (credentials : Credentials) (orderId : String) (amount : Option Decimal)
    (cheque : Option Cheque) : Except AmountError PostRequest :=
  postAmount client "charge" "/api/Charge"
    [("Key", some (.text credentials.key)), ("OrderId", some (.text orderId))] amount cheque

def refund (credentials : Credentials) (orderId : String) (amount : Option Decimal)
    (cheque : Option Cheque) : Except AmountError PostRequest :=
  postAmount client "refund" "/api/Refund"
    [("Key", some (.text credentials.key)), ("Password", some (.text credentials.password)),
      ("OrderId", some (.text orderId))] amount cheque

structure MobileBlockArgs (Cheque BrowserData : Type*) where
  credentials : Credentials
  orderId : String
  paymentToken : String
  amount : Decimal
  userIp : String
  challengeNotificationUrl : String
  browserData : BrowserData
  isCheckout : Bool
  cheque : Option Cheque

def toSemicolonSeparatedFormdata (data : List (String × String)) : String :=
  ";".intercalate (data.map fun field ↦ field.1 ++ "=" ++ field.2)

def mobileBlock (args : MobileBlockArgs Cheque BrowserData) : Except AmountError PostRequest :=
  let customFields :=
    [("IP", args.userIp), ("ChallengeNotificationURL", args.challengeNotificationUrl)] ++
      (if args.isCheckout then [("YaPayCheckout", "1")] else []) ++
      [("BrowserData", client.encodeBrowserData args.browserData)]
  (roubles client args.amount).map fun amount ↦
    { interactionMethod := "mobile_block"
      url := client.endpointUrl "/api/MobileBlock"
      data := withoutNone
        [("Key", some (.text args.credentials.key)), ("OrderId", some (.text args.orderId)),
          ("PayToken", some (.text args.paymentToken)), ("Amount", some (.int amount)),
          ("CustomFields", some (.text (toSemicolonSeparatedFormdata customFields))),
          ("Cheque", args.cheque.map fun cheque ↦ .text (client.encodeCheque cheque))] }

/-! ### The amount of a request -/

variable {client} {amount : Option Decimal} {cheque : Option Cheque}

/-- The amount of a form stands after the other fields, which have other names. -/
theorem lookup_amount {fields : List (String × Option FormValue)}
    (hfields : ∀ field ∈ fields, field.1 ≠ "Amount") (value : Option FormValue)
    (rest : Option FormValue) :
    (withoutNone (fields ++ [("Amount", value), ("Cheque", rest)])).lookup "Amount" = value := by
  induction fields with
  | nil =>
    cases value <;> cases rest <;> rfl
  | cons field fields ih =>
    obtain ⟨hfield, htail⟩ := List.forall_mem_cons.mp hfields
    rcases hvalue : field.2 with _ | first
    · rw [List.cons_append, withoutNone, List.filterMap_cons_none (by rw [hvalue]; rfl)]
      exact ih htail
    · rw [List.cons_append, withoutNone, List.filterMap_cons_some (by rw [hvalue]; rfl),
        List.lookup_cons, beq_false_of_ne hfield.symm]
      exact ih htail

/-- What holds of the amount of every request that is posted holds of every partial amount that
does not raise. -/
theorem forall_postAmount_iff {interactionMethod path : String}
    {fields : List (String × Option FormValue)} (hfields : ∀ field ∈ fields, field.1 ≠ "Amount")
    (P : Option FormValue → Prop) :
    (∀ request, postAmount client interactionMethod path fields amount cheque = .ok request →
      P (request.data.lookup "Amount")) ↔
      ∀ value, partialAmount client amount = .ok value → P value := by
  rw [postAmount]
  rcases partialAmount client amount with error | value
  · exact iff_of_true (fun _ h ↦ nomatch h) fun _ h ↦ nomatch h
  · constructor
    · rintro hposted value' hvalue
      obtain rfl := Except.ok.inj hvalue
      have hfield := hposted _ rfl
      rwa [lookup_amount hfields] at hfield
    · rintro hvalue request hrequest
      obtain rfl := Except.ok.inj hrequest
      rw [lookup_amount hfields]
      exact hvalue value rfl

theorem forall_charge_iff {credentials : Credentials} {orderId : String}
    (P : Option FormValue → Prop) :
    (∀ request, charge client credentials orderId amount cheque = .ok request →
      P (request.data.lookup "Amount")) ↔
      ∀ value, partialAmount client amount = .ok value → P value :=
  forall_postAmount_iff (by simp) P

theorem forall_refund_iff {credentials : Credentials} {orderId : String}
    (P : Option FormValue → Prop) :
    (∀ request, refund client credentials orderId amount cheque = .ok request →
      P (request.data.lookup "Amount")) ↔
      ∀ value, partialAmount client amount = .ok value → P value :=
  forall_postAmount_iff (by simp) P

end Payture

end YandexPay.Psp
