import Mathlib.Data.Int.Notation

/-!
# The Kazna client: what the bill payments service sends and receives

`interactions/kazna/entities.py`. Requests carry the fields that the actions fill in, answers
the fields that the actions read. `int` is `ℤ`, `str` is `String`, a point in time is its number
of seconds and a date its number of days; optional fields are `Option`.
-/

set_option autoImplicit false
set_option relaxedAutoImplicit false

namespace YandexPay.BillPayments

/-- The enumeration `DepartmentType`. -/
inductive DepartmentType
  | gibdd | fns | fssp | rosreestr | rosreestrOffer | guvmmvd | rosgvard | park | parkFines | jkh
  | rnip | donation | justice | unknown
  deriving DecidableEq, Repr

/-- The enumeration `DocumentCode`. -/
inductive DocumentCode
  | passportRussianFederation | passportForeign | driverLicense | vehicleRegistrationCertificate
  | els
  deriving DecidableEq, Repr

/-- The enumeration `SearchStatus`. -/
inductive SearchStatus
  | part | complete
  deriving DecidableEq, Repr

/-- The enumeration `PayType`. -/
inductive PayType
  | phone | card | deposit | applepay | googlepay | pscb | yandexpay
  deriving DecidableEq, Repr

/-- The enumeration `DeviceChannel`. -/
inductive DeviceChannel
  | mobileApp | browser | requestor3ds
  deriving DecidableEq, Repr

/-- The enumeration `PaymentStatusCode`. -/
inductive PaymentStatusCode
  | created | auth | cancel | refunded
  deriving DecidableEq, Repr

/-- The enumeration `KaznaAPIErrorCode`. -/
inductive KaznaAPIErrorCode
  | paymentAlreadyExists | invalidSign
  deriving DecidableEq, Repr

/-! ### Search and subscriptions -/

/-- One document of a payer, as bill notifications name it. -/
structure SinglePayerDoc where
  code : DocumentCode
  value : String
  deriving DecidableEq, Repr

/-- The documents of one code. -/
structure PayerDoc where
  code : DocumentCode
  value : List String
  deriving DecidableEq, Repr

structure AdditionalData where
  discountSize : Option String
  discountDate : Option ℤ
  legalAct : Option String
  offenseName : Option String
  offensePlace : Option String
  offenseDate : Option ℤ
  deriving DecidableEq, Repr

structure PaymentData where
  sum : Option ℤ
  date : Option ℤ
  deriving DecidableEq, Repr

structure ChargeData where
  billDate : ℤ
  amountToPay : Option ℤ
  purpose : Option String
  kbk : Option String
  oktmo : Option String
  inn : Option String
  kpp : Option String
  bik : Option String
  accountNumber : Option String
  payeeName : Option String
  divId : Option ℤ
  amount : Option ℤ
  payerName : Option String
  treasureBranch : Option String
  additionalData : Option AdditionalData
  paymentData : Option PaymentData
  deriving DecidableEq, Repr

structure Charge where
  document : PayerDoc
  supplierBillId : String
  department : Option DepartmentType
  chargeData : Option ChargeData
  deriving DecidableEq, Repr

structure SearchRequest where
  documents : List PayerDoc
  department : DepartmentType
  subscribe : Option String
  deriving DecidableEq, Repr

structure SearchResponse where
  status : SearchStatus
  charges : List Charge
  deriving DecidableEq, Repr

/-! ### Payments -/

structure MpiExtInfo where
  notificationUrl : Option String
  browserAcceptHeader : Option String
  browserColorDepth : Option ℤ
  browserIp : Option String
  browserLanguage : Option String
  browserScreenHeight : Option ℤ
  browserScreenWidth : Option ℤ
  browserTz : Option String
  browserUserAgent : Option String
  deviceChannel : Option DeviceChannel
  browserJavaEnabled : Option Bool
  windowWidth : Option ℤ
  windowHeight : Option ℤ
  tdsNotificationUrl : Option String
  deriving DecidableEq, Repr

structure PayerParams where
  fio : Option String
  deriving DecidableEq, Repr

structure PaymentParams where
  supplierBillId : List String
  deriving DecidableEq, Repr

structure PayRequest where
  orderId : String
  kvit : Bool
  depType : Option DepartmentType
  payerParams : PayerParams
  paymentParams : PaymentParams
  payType : PayType
  amount : ℤ
  mpiExtInfo : MpiExtInfo
  returnUrl : String
  ypToken : Option String
  deriving DecidableEq, Repr

structure TDS where
  acsUrl : Option String
  termUrl : Option String
  paReq : Option String
  creq : Option String
  md : Option String
  deriving DecidableEq, Repr

structure PayResponse where
  paymentId : ℤ
  tds : Option TDS
  deriving DecidableEq, Repr

structure PaymentStatus where
  code : PaymentStatusCode
  name : String
  deriving DecidableEq, Repr

structure PaymentInfoResponse where
  paymentId : ℤ
  orderId : String
  status : PaymentStatus
  deriving DecidableEq, Repr

/-- A three-domain-secure URL: the base address and the query parameters that are present. -/
structure AcsUrl where
  base : String
  query : List (String × String)
  deriving DecidableEq, Repr

/-- `TDS.to_url`: the assertion on `acs_url` fails on a missing and on an empty address. -/
def TDS.toUrl (tds : TDS) : Option AcsUrl :=
  match tds.acsUrl with
  | none => none
  | some base =>
    if base = "" then none
    else some
      { base
        query := [("TermUrl", tds.termUrl), ("PaReq", tds.paReq), ("creq", tds.creq),
          ("MD", tds.md)].filterMap fun p ↦ p.2.map fun value ↦ (p.1, value) }

end YandexPay.BillPayments
