import YandexPay.Library.Dict
import YandexPay.Library.JsDate

/-!
# Shipping options

`helpers/shippings.ts` with `helpers/date.ts`: the slots that the options of a delivery share, the
cheapest option of each, their order, and the option that is selected at first. Times are Unix
timestamps; days and minutes are those of the clock of the buyer, given by a time zone. How a list
is sorted by a comparison that is no order is left open by the language, so the sort is a parameter,
of which only that it permutes is known.
-/

set_option autoImplicit false
set_option relaxedAutoImplicit false

namespace YandexPay.CheckoutForm

open JsDate

/-! ### Options -/

inductive ShippingProvider
  | yandex
  | courier
  | cdek
  | ems
  | dhl
  | russianPost
  deriving DecidableEq

inductive ShippingCategory
  | express
  | today
  | standart
  deriving DecidableEq

structure TimeRange where
  start : JsNumber
  stop : JsNumber
  deriving DecidableEq

structure ShippingOption where
  id : String
  provider : ShippingProvider
  amount : String
  category : Option ShippingCategory
  date : Option JsNumber
  time : Option TimeRange
  deriving DecidableEq

namespace ShippingOption

/-- `option.date`, where `undefined` counts as no number. -/
def timestamp (option : ShippingOption) : JsNumber := option.date.getD .nan

/-- `Number(option.amount)` -/
def price (option : ShippingOption) : JsNumber := JsNumber.ofText option.amount

end ShippingOption

def hasDate (option : ShippingOption) : Bool := option.timestamp ≠ .nan ∧ option.timestamp ≠ 0

/-- An option with a date. -/
abbrev WithDateOption := {option : ShippingOption // hasDate option}

/-- The type guard, with the time that it finds. -/
def hasDateAndTime (option : ShippingOption) : Option TimeRange :=
  if hasDate option then option.time else none

def isYandexExpress (option : ShippingOption) : Bool :=
  hasDate option && option.provider = .yandex && option.category = some .express

def isNotYandexExpress (option : ShippingOption) : Bool := !isYandexExpress option

/-! ### Days and minutes -/

def fromUnixTimestamp (timestamp : JsNumber) : Date := ofNumber (timestamp * .finite 1000)

/-- The seconds of a date; `none` is `NaN`. -/
def toUnixTimestamp (date : Date) : Option ℤ := date.map (· / 1000)

section

variable (tz : TimeZone)

def getPureDate (date : Date) : Date :=
  date.bind fun ms ↦ tz.newDate { tz.localTime ms with hours := 0, minutes := 0 }

def getPureTime (time : Date) : Date := time.bind fun ms ↦ tz.newDate (tz.localTime ms)

def getPureDateOfTimestamp (timestamp : JsNumber) : Option ℤ :=
  toUnixTimestamp (getPureDate tz (fromUnixTimestamp timestamp))

def getPureTimeOfTimestamp (timestamp : JsNumber) : Option ℤ :=
  toUnixTimestamp (getPureTime tz (fromUnixTimestamp timestamp))

/-- `===` on timestamps -/
def sameTimestamp (a b : Option ℤ) : Bool := a.isSome && a = b

/-! ### Slots -/

def inSameDay (option1 option2 : ShippingOption) : Bool :=
  sameTimestamp (getPureDateOfTimestamp tz option1.timestamp)
    (getPureDateOfTimestamp tz option2.timestamp)

def inSameTime (time1 time2 : JsNumber) : Bool :=
  sameTimestamp (getPureTimeOfTimestamp tz time1) (getPureDateOfTimestamp tz time2)

def inSameSlot (option1 option2 : ShippingOption) : Bool :=
  match hasDateAndTime option1, hasDateAndTime option2 with
  | some time1, some time2 =>
    inSameDay tz option1 option2 && inSameTime tz time1.start time2.start &&
      inSameTime tz time1.stop time2.stop
  | _, _ =>
    hasDate option1 && option1.time.isNone && hasDate option2 && option2.time.isNone &&
      inSameDay tz option1 option2

def sortOptions (a b : ShippingOption) : JsNumber :=
  let dates := number (getPureDate tz (fromUnixTimestamp a.timestamp)) -
    number (getPureDate tz (fromUnixTimestamp b.timestamp))
  match a.time, b.time with
  | some timeA, some timeB =>
    if inSameSlot tz a b then a.price - b.price
    else if inSameDay tz a b ∧ inSameTime tz timeA.start timeB.start then
      number (getPureTime tz (fromUnixTimestamp timeA.stop)) -
        number (getPureTime tz (fromUnixTimestamp timeB.stop))
    else if inSameDay tz a b then
      number (getPureTime tz (fromUnixTimestamp timeA.start)) -
        number (getPureTime tz (fromUnixTimestamp timeB.start))
    else dates
  | some _, none => 1
  | none, some _ => .finite (-1)
  | none, none => dates

def isCheaper (option than : ShippingOption) : Bool := option.price.less than.price

/-- `String(timestamp)` -/
def timestampText (timestamp : Option ℤ) : String := timestamp.elim "NaN" toString

/-- The key of an option in `filterCheapest`. -/
def slotKey (option : ShippingOption) : String :=
  match hasDateAndTime option with
  | some time =>
    timestampText (getPureTimeOfTimestamp tz time.start) ++ "-" ++
      timestampText (getPureTimeOfTimestamp tz time.stop)
  | none => timestampText (getPureDateOfTimestamp tz option.timestamp)

/-- The body of the reduction in `filterCheapest`. -/
def keepCheaper (acc : Dict String ShippingOption) (curr : ShippingOption) :
    Dict String ShippingOption :=
  match acc.get? (slotKey tz curr) with
  | none => acc.set (slotKey tz curr) curr
  | some current =>
    if curr.price.less current.price then acc.set (slotKey tz curr) curr else acc

def filterCheapest (options : List ShippingOption) : List ShippingOption :=
  (options.foldl (keepCheaper tz) Dict.empty).items.map Prod.snd

/-! ### The options that are offered -/

/-- `Array.prototype.sort` with a comparison. -/
structure ArraySort where
  sort : (ShippingOption → ShippingOption → JsNumber) → List ShippingOption → List ShippingOption
  perm : ∀ compare options, (sort compare options).Perm options

variable (sorting : ArraySort)

def prepareOptions (options : List ShippingOption) : List ShippingOption :=
  let onlyWithDate := options.filter hasDate
  let yandexExpressOptions := onlyWithDate.filter isYandexExpress
  let otherOptions := filterCheapest tz (onlyWithDate.filter isNotYandexExpress)
  sorting.sort (sortOptions tz) yandexExpressOptions ++ sorting.sort (sortOptions tz) otherOptions

/-- `getOptionIdToSelect`; `none` is the exception of a property of `undefined`. -/
def getOptionIdToSelect (selectId : String) (options : List ShippingOption) : Option String :=
  if options.any fun option ↦ option.id = selectId then some selectId
  else if options.any hasDate then
    (prepareOptions tz sorting (options.filter fun option ↦
      option.provider ≠ .russianPost)).head?.map ShippingOption.id
  else
    let courierOptions := sorting.sort (fun a b ↦ a.price - b.price)
      (options.filter fun option ↦ option.provider ≠ .russianPost)
    some (courierOptions.head?.elim "" ShippingOption.id)

end

end YandexPay.CheckoutForm
