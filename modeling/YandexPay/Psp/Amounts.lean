import YandexPay.Psp.Payture
import YandexPay.Psp.Uniteller

/-!
# The amounts in requests to payment providers

An amount that is given to a charge, a confirmation or a refund selects a part of the sum; without
one the whole sum is meant. The clients test the amount for its truth, so that zero is no amount,
and write it with `str`. `amounts_carried_iff` says for which amounts the request denotes the amount
that was given.
-/

set_option autoImplicit false
set_option relaxedAutoImplicit false

namespace YandexPay.Psp

open PyDecimal

/-! ### Payture -/

namespace Payture

variable {Cheque BrowserData : Type*} {client : Client Cheque BrowserData}

variable (client) in
/-- The field is the given amount in minor units of the rouble; it is missing when none is given. -/
def CarriesAmount (amount : Option Decimal) (field : Option FormValue) : Prop :=
  match amount with
  | none => field = none
  | some (.finite number) => ∃ n : ℤ, field = some (.int n) ∧
      minorUnits client.getCurrencyPrecision number (some "RUB") = n
  | some _ => False

variable (client) in
/-- The amount is not zero, and its minor units are not rounded to an integer. -/
def IsExact (amount : Option Decimal) : Prop :=
  ∀ number, amount = some (.finite number) → number.int ≠ 0 ∧
    (defaultContext.Overflows (minorUnits client.getCurrencyPrecision number (some "RUB")) ∨
      defaultContext.Fits (minorUnits client.getCurrencyPrecision number (some "RUB")) ∨
      FarFromIntegers (minorUnits client.getCurrencyPrecision number (some "RUB")))

theorem partialAmount_of_truthy {amount : Decimal} (h : amount.truthy) :
    partialAmount client (some amount) = (roubles client amount).map fun n ↦ some (.int n) := by
  rw [partialAmount, Option.filter_some, if_pos h]

theorem partialAmount_carries_iff {amount : Option Decimal} :
    (∀ value, partialAmount client amount = .ok value → CarriesAmount client amount value) ↔
      IsExact client amount := by
  rcases amount with _ | amount
  · refine iff_of_true (fun value hvalue ↦ ?_) fun number hnone ↦ nomatch hnone
    exact (Except.ok.inj hvalue).symm
  cases amount with
  | finite number =>
    have hexact : IsExact client (some (.finite number)) ↔ number.int ≠ 0 ∧
        ∀ n, roubles client (.finite number) = .ok n →
          minorUnits client.getCurrencyPrecision number (some "RUB") = n := by
      rw [IsExact]
      simp only [Option.some.injEq, Decimal.finite.injEq, forall_eq']
      exact and_congr_right fun _ ↦ minorUnits_eq_of_ok_iff.symm
    rw [hexact]
    by_cases hzero : number.int = 0
    · -- Zero is taken for no amount.
      have hpartial : partialAmount client (some (.finite number)) = .ok none := by
        rw [partialAmount, Option.filter_some, if_neg (by simpa [Decimal.truthy] using hzero)]
      refine iff_of_false (fun h ↦ ?_) fun h ↦ h.1 hzero
      obtain ⟨n, hn, -⟩ := h none hpartial
      exact nomatch hn
    · rw [partialAmount_of_truthy (by simpa [Decimal.truthy] using hzero),
        and_iff_right hzero]
      rcases roubles client (.finite number) with error | n
      · exact iff_of_true (fun _ h ↦ nomatch h) fun _ h ↦ nomatch h
      · constructor
        · intro h n' hn'
          obtain rfl := Except.ok.inj hn'
          obtain ⟨m, hm, hminor⟩ := h _ rfl
          rw [hminor, FormValue.int.inj (Option.some.inj hm)]
        · intro h value hvalue
          obtain rfl := Except.ok.inj hvalue
          exact ⟨n, rfl, h n rfl⟩
  | infinity sign =>
    refine iff_of_true (fun value hvalue ↦ ?_) fun number hnumber ↦ nomatch hnumber
    rw [partialAmount_of_truthy rfl] at hvalue
    exact nomatch hvalue
  | nan sign signals diagnostic =>
    refine iff_of_true (fun value hvalue ↦ ?_) fun number hnumber ↦ nomatch hnumber
    rw [partialAmount_of_truthy rfl] at hvalue
    exact nomatch hvalue

end Payture

/-! ### Uniteller -/

namespace Uniteller

variable {Cheque BrowserData : Type*} {client : Client Cheque BrowserData}

/-- The field is plain decimal text of the given amount; it is missing when none is given. -/
def CarriesText (amount : Option Decimal) (field : Option String) : Prop :=
  match amount with
  | none => field = none
  | some amount => ∃ text, field = some text ∧ amount.DenotedBy text

/-- The amount is not zero, and its text has no exponent. -/
def IsWritten (amount : Option Decimal) : Prop :=
  ∀ value, amount = some value → value.truthy ∧ value.IsPlain

theorem carriesText_str_iff {amount : Decimal} :
    CarriesText (some amount) (some amount.str) ↔ amount.IsPlain := by
  rw [← amount.denotedBy_str_iff]
  constructor
  · rintro ⟨text, htext, hdenoted⟩
    rwa [Option.some.inj htext]
  · intro hdenoted
    exact ⟨amount.str, rfl, hdenoted⟩

theorem carriesText_filter_iff {amount : Option Decimal} :
    CarriesText amount ((amount.filter Decimal.truthy).map Decimal.str) ↔ IsWritten amount := by
  rcases amount with _ | amount
  · exact iff_of_true rfl fun value hnone ↦ nomatch hnone
  have hwritten : IsWritten (some amount) ↔ amount.truthy ∧ amount.IsPlain := by
    rw [IsWritten]
    simp only [Option.some.injEq, forall_eq']
  rw [hwritten, Option.filter_some]
  by_cases htruthy : amount.truthy
  · rw [if_pos htruthy, Option.map_some, carriesText_str_iff, and_iff_right htruthy]
  · -- Zero is taken for no amount.
    rw [if_neg htruthy]
    refine iff_of_false ?_ fun h ↦ htruthy h.1
    rintro ⟨text, htext, -⟩
    exact nomatch htext

theorem lookup_charge_subtotal (args : ChargeArgs Cheque BrowserData) :
    (charge client args).data.lookup "Subtotal" = some args.amount.str := by
  rw [charge, sign, chargeData]
  rfl

theorem lookup_confirm_subtotal (credentials : UnitellerCredentials) (orderId : String)
    (amount : Option Decimal) :
    (confirm client credentials orderId amount).data.lookup "Subtotal" =
      (amount.filter Decimal.truthy).map Decimal.str := by
  rw [confirm, sign, confirmData]
  rcases amount.filter Decimal.truthy with _ | amount <;> rfl

theorem lookup_refund_subtotal (credentials : UnitellerCredentials) (orderId : String)
    (amount : Option Decimal) :
    (refund client credentials orderId amount).data.lookup "Subtotal_P" =
      (amount.filter Decimal.truthy).map Decimal.str := by
  rw [refund, sign, refundData]
  rcases amount.filter Decimal.truthy with _ | amount <;> rfl

end Uniteller

/-! ### Both clients -/

section

variable {Cheque BrowserData Cheque' BrowserData' : Type*}

/-- The amounts that reach the provider: for Payture those that are not zero and whose minor units
are not rounded to an integer, for Uniteller those that are not zero, but for charges, and whose
text has no exponent. -/
theorem amounts_carried_iff (payture : Payture.Client Cheque BrowserData)
    (uniteller : Uniteller.Client Cheque' BrowserData') :
    (∀ credentials orderId amount cheque,
      (∀ request, Payture.charge payture credentials orderId amount cheque = .ok request →
        Payture.CarriesAmount payture amount (request.data.lookup "Amount")) ↔
        Payture.IsExact payture amount) ∧
    (∀ credentials orderId amount cheque,
      (∀ request, Payture.refund payture credentials orderId amount cheque = .ok request →
        Payture.CarriesAmount payture amount (request.data.lookup "Amount")) ↔
        Payture.IsExact payture amount) ∧
    (∀ args : Uniteller.ChargeArgs Cheque' BrowserData',
      Uniteller.CarriesText (some args.amount)
        ((Uniteller.charge uniteller args).data.lookup "Subtotal") ↔ args.amount.IsPlain) ∧
    (∀ credentials orderId amount,
      Uniteller.CarriesText amount
        ((Uniteller.confirm uniteller credentials orderId amount).data.lookup "Subtotal") ↔
        Uniteller.IsWritten amount) ∧
    ∀ credentials orderId amount,
      Uniteller.CarriesText amount
        ((Uniteller.refund uniteller credentials orderId amount).data.lookup "Subtotal_P") ↔
        Uniteller.IsWritten amount := by
  refine ⟨fun credentials orderId amount cheque ↦ ?_, fun credentials orderId amount cheque ↦ ?_,
    fun args ↦ ?_, fun credentials orderId amount ↦ ?_, fun credentials orderId amount ↦ ?_⟩
  · rw [Payture.forall_charge_iff, Payture.partialAmount_carries_iff]
  · rw [Payture.forall_refund_iff, Payture.partialAmount_carries_iff]
  · rw [Uniteller.lookup_charge_subtotal, Uniteller.carriesText_str_iff]
  · rw [Uniteller.lookup_confirm_subtotal, Uniteller.carriesText_filter_iff]
  · rw [Uniteller.lookup_refund_subtotal, Uniteller.carriesText_filter_iff]

end

/-! ### Amounts that are lost -/

def zeroAmount : Decimal := .finite ⟨false, 0, -2⟩

/-- `Decimal('1E+2')` -/
def hundred : Decimal := .finite ⟨false, 1, 2⟩

/-- A refund of zero has no amount, so that everything is returned; a charge of a hundred is written
with an exponent. -/
theorem amounts_not_carried :
    (∀ (client : Payture.Client String String) (credentials : Payture.Credentials)
      (orderId : String), ∃ request,
        Payture.refund client credentials orderId (some zeroAmount) none = .ok request ∧
          request.data.lookup "Amount" = none ∧
          ¬ Payture.CarriesAmount client (some zeroAmount) (request.data.lookup "Amount")) ∧
    (∀ client : Uniteller.Client String String,
      (Uniteller.refund client Uniteller.shop "order-1" (some zeroAmount)).data.lookup
          "Subtotal_P" = none ∧
        ¬ Uniteller.CarriesText (some zeroAmount)
          ((Uniteller.refund client Uniteller.shop "order-1" (some zeroAmount)).data.lookup
            "Subtotal_P")) ∧
    ∀ client : Uniteller.Client String String,
      (Uniteller.refund client Uniteller.shop "order-1" (some hundred)).data.lookup "Subtotal_P" =
          some "1E+2" ∧
        ¬ Uniteller.CarriesText (some hundred)
          ((Uniteller.refund client Uniteller.shop "order-1" (some hundred)).data.lookup
            "Subtotal_P") := by
  refine ⟨fun client credentials orderId ↦ ⟨_, rfl, rfl, ?_⟩, fun client ↦ ⟨rfl, ?_⟩,
    fun client ↦ ⟨?_, ?_⟩⟩
  · rintro ⟨n, hn, -⟩
    exact nomatch hn
  · rintro ⟨text, htext, -⟩
    exact nomatch htext
  · rw [Uniteller.lookup_refund_subtotal]
    decide +kernel
  · rw [Uniteller.lookup_refund_subtotal, Uniteller.carriesText_filter_iff]
    intro h
    exact absurd (h hundred rfl).2 (by decide +kernel : ¬ Number.IsPlain ⟨false, 1, 2⟩)

end YandexPay.Psp
