import YandexPay.Library.JsNumber

/-!
# Dates

A `Date` is a time value in milliseconds, or invalid. Its fields are those of the clock of a place,
which is a parameter: the time zone with all its changes. All that is known of it is that the clock
shows whole minutes at whole seconds of the time value.
-/

set_option autoImplicit false
set_option relaxedAutoImplicit false

namespace YandexPay

namespace JsDate

/-- What a clock shows, to the minute; the months are counted from zero. -/
structure LocalTime where
  year : ℤ
  month : ℤ
  day : ℤ
  hours : ℤ
  minutes : ℤ
  deriving DecidableEq

/-- What the clock of a place shows at a time value, and the time value at which it shows a time,
if that is in the range of dates. -/
structure TimeZone where
  localTime : ℤ → LocalTime
  timeValue : LocalTime → Option ℤ
  whole : ∀ shown ms, timeValue shown = some ms → 1000 ∣ ms

/-- A time value; `none` is an invalid date. -/
abbrev Date := Option ℤ

/-- `Math.trunc` -/
def trunc (q : ℚ) : ℤ := if q < 0 then ⌈q⌉ else ⌊q⌋

/-- `new Date(value)` -/
def ofNumber : JsNumber → Date
  | .finite q => if |trunc q| ≤ 8640000000000000 then some (trunc q) else none
  | _ => none

/-- `Number(date)` -/
def number (date : Date) : JsNumber := date.elim .nan fun ms ↦ .finite ms

/-- `new Date(year, month, day, hours, minutes)`, which takes a year below 100 for one of the last
century. -/
def TimeZone.newDate (tz : TimeZone) (shown : LocalTime) : Date :=
  tz.timeValue
    { shown with
      year := if 0 ≤ shown.year ∧ shown.year ≤ 99 then 1900 + shown.year else shown.year }

theorem TimeZone.whole_newDate {tz : TimeZone} {shown : LocalTime} {ms : ℤ}
    (h : tz.newDate shown = some ms) : 1000 ∣ ms := tz.whole _ _ h

/-- The clock of universal time, in January of 1970. -/
def januaryUtc : TimeZone where
  localTime ms := ⟨1970, 0, ms / 86400000 + 1, ms / 3600000 % 24, ms / 60000 % 60⟩
  timeValue shown := some ((((shown.day - 1) * 24 + shown.hours) * 60 + shown.minutes) * 60000)
  whole shown ms h := by
    rw [← Option.some.inj h]
    exact Dvd.dvd.mul_left (by decide) _

end JsDate

end YandexPay
