import YandexPay.BillPayments.Kazna
import YandexPay.Library.Table
import Mathlib.Data.List.Infix
import Mathlib.Data.Rat.Floor

/-!
# Stored entities

`storage/entities`. The columns `created` and `updated` are left out: they are written by the
storage and no modelled function reads them. `UUID` is a number; how it is written and how the
database reads it back belong to `Environment`.

`Environment` collects what the code takes from its surroundings: the settings with the
assertions that `storage/entities/bill.py` makes on them at import, the digest, and the text form
of identifiers. `Bill.discountedAmount` and `Bill.feeAmount` are the two computed amounts of a
bill; the decimals of the commission are exact rationals, which is what `Decimal` computes on
amounts of up to 25 digits.
-/

set_option autoImplicit false
set_option relaxedAutoImplicit false

namespace YandexPay.BillPayments

/-- An identifier made by `uuid4`. -/
structure UUID where
  value : ℕ
  deriving DecidableEq, Repr

inductive BillStatus
  | new | paid | gone
  deriving DecidableEq, Repr

inductive OrderStatus
  | new | paid
  deriving DecidableEq, Repr

inductive TransactionStatus
  | new | paid | cancelled | refunded
  deriving DecidableEq, Repr

inductive PaymentMethodType
  | yandexPay
  deriving DecidableEq, Repr

structure User where
  uid : ℤ
  revision : ℕ := 1
  syncedRevision : ℕ := 0
  syncingRevision : Option ℕ := none
  subscriptionId : Option String := none
  deriving DecidableEq, Repr

structure Document where
  documentId : UUID
  uid : ℤ
  code : DocumentCode
  value : String
  title : Option String := none
  deriving DecidableEq, Repr

structure Bill where
  billId : UUID
  uid : ℤ
  supplierBillId : String
  documentId : UUID
  status : BillStatus
  amount : ℤ
  amountToPay : ℤ
  billDate : ℤ
  purpose : Option String := none
  kbk : Option String := none
  oktmo : Option String := none
  inn : Option String := none
  kpp : Option String := none
  bik : Option String := none
  accountNumber : Option String := none
  payeeName : Option String := none
  payerName : Option String := none
  divId : Option ℤ := none
  treasureBranch : Option String := none
  depType : Option DepartmentType := none
  discountSize : Option String := none
  discountDate : Option ℤ := none
  legalAct : Option String := none
  offenseName : Option String := none
  offensePlace : Option String := none
  offenseDate : Option ℤ := none
  paidAmount : Option ℤ := none
  paidDate : Option ℤ := none
  deriving DecidableEq, Repr

structure Order where
  uid : ℤ
  status : OrderStatus
  orderId : UUID
  deriving DecidableEq, Repr

structure BillOrder where
  billId : UUID
  orderId : UUID
  deriving DecidableEq, Repr

structure PayerData where
  payerFullName : String
  deriving DecidableEq, Repr

def PayerData.toKaznaPayerParams (data : PayerData) : PayerParams where
  fio := some data.payerFullName

structure Transaction where
  orderId : UUID
  status : TransactionStatus
  amount : ℤ
  externalPaymentId : String
  payerData : PayerData
  transactionId : UUID
  paymentMethod : PaymentMethodType := .yandexPay
  deriving DecidableEq, Repr

/-! ### The environment of the service -/

/-- Settings and library functions that the actions depend on. -/
structure Environment where
  kaznaToken : String
  apiDocumentsLimit : ℕ
  /-- `yenv.type in ('testing', 'development')` -/
  yenvTesting : Bool
  billCommissionMultiplier : ℚ
  billCommissionAddition : ℚ
  billCommissionMin : ℚ
  multiplier_nonneg : 0 ≤ billCommissionMultiplier
  multiplier_lt_one : billCommissionMultiplier < 1
  min_nonneg : 0 ≤ billCommissionMin
  /-- `md5(text.encode('utf-8')).hexdigest()` -/
  md5Hex : String → String
  /-- `str(uuid)` -/
  uuidText : UUID → String
  uuidText_ne_empty : ∀ u, uuidText u ≠ ""
  /-- The value that the database reads from the text of a `UUID` parameter. -/
  uuidInput : String → Option UUID
  uuidInput_uuidText : ∀ u, uuidInput (uuidText u) = some u

theorem Environment.uuidText_injective (env : Environment) : Function.Injective env.uuidText := by
  intro u v h
  have hinput := congrArg env.uuidInput h
  simpa only [env.uuidInput_uuidText, Option.some.injEq] using hinput

def uuidPrefix : String := "00000000-0000-0000-0000-00000000000"

/-- The settings of the repository, with a counter as the text of identifiers. The digest is a
parameter. -/
def Environment.ofSettings (md5Hex : String → String) : Environment where
  kaznaToken := "Yandex"
  apiDocumentsLimit := 10
  yenvTesting := false
  billCommissionMultiplier := 1 / 100
  billCommissionAddition := 0
  billCommissionMin := 25
  multiplier_nonneg := by decide +kernel
  multiplier_lt_one := by decide +kernel
  min_nonneg := by decide +kernel
  md5Hex := md5Hex
  uuidText := fun u ↦ uuidPrefix ++ Nat.repr u.value
  uuidText_ne_empty := fun u h ↦ absurd (String.append_eq_empty_iff.mp h).1 (by decide)
  uuidInput := fun text ↦
    if text.toList.take 35 = uuidPrefix.toList then
      some ⟨Nat.ofDigitChars 10 (text.toList.drop 35) 0⟩
    else none
  uuidInput_uuidText := by
    intro u
    have hlength : uuidPrefix.toList.length = 35 := by decide +kernel
    rw [String.toList_append, List.take_left' hlength, if_pos rfl, List.drop_left' hlength,
      Nat.toList_repr, Nat.ofDigitChars_ten_toDigits]

/-! ### Amounts -/

/-- `int(text)` on decimal text: surrounding blanks, one sign, digits with single underscores
between them. -/
def pyInt (text : String) : Option ℤ :=
  let digits (chars : List Char) : Option ℤ :=
    if chars.head? = some '_' ∨ chars.getLast? = some '_' ∨ ['_', '_'] <:+: chars then none
    else
      let plain := chars.filter (· ≠ '_')
      if plain = [] ∨ ¬ plain.all Char.isDigit then none
      else some (plain.foldl (fun n c ↦ 10 * n + (c.toNat - '0'.toNat : ℕ)) 0)
  match ((text.toList.dropWhile Char.isWhitespace).reverse.dropWhile Char.isWhitespace).reverse with
  | '-' :: rest => (digits rest).map fun n ↦ -n
  | '+' :: rest => digits rest
  | rest => digits rest

namespace Bill

/-- `discounted_amount`; `none` is the `ValueError` of a discount size that is no number. -/
def discountedAmount (today : ℤ) (bill : Bill) : Option ℤ :=
  match bill.discountSize, bill.discountDate with
  | some discountSize, some discountDate =>
    if discountDate < today then some bill.amountToPay
    else (pyInt discountSize).map fun size ↦ (bill.amountToPay * (100 - size) + 99) / 100
  | _, _ => some bill.amountToPay

/-- Rounding to the nearest integer, ties away from zero. -/
def roundHalfUp (q : ℚ) : ℤ := if 0 ≤ q then ⌊q + 1 / 2⌋ else -⌊-q + 1 / 2⌋

/-- `fee_amount`, from the discounted amount. -/
def feeAmount (env : Environment) (discountedAmount : ℤ) : ℤ :=
  roundHalfUp (max ((discountedAmount : ℚ) / 100 * env.billCommissionMultiplier +
    env.billCommissionAddition) env.billCommissionMin * 100)

end Bill

end YandexPay.BillPayments
