/-!
# Dates and times

Days of the Gregorian calendar are numbered from the first day of the year 1 on. A time of a day may
come with the distance of its clock from universal time; two such times are the same if they are the
same moment, whatever their clocks show.
-/

namespace PodLaunch

/-- A day of the calendar. -/
structure Date where
  /-- The year, from 1 on. -/
  year : Nat
  /-- The month, from 1 to 12. -/
  month : Nat
  /-- The day of the month. -/
  day : Nat
  deriving DecidableEq, Repr

/-- Whether a year has a leap day. -/
def isLeapYear (year : Nat) : Bool :=
  year % 4 = 0 && (year % 100 ≠ 0 || year % 400 = 0)

/-- The lengths of the months of a year. -/
def monthLengths (year : Nat) : List Nat :=
  [31, if isLeapYear year then 29 else 28, 31, 30, 31, 30, 31, 31, 30, 31, 30, 31]

namespace Date

/-- The number of a day. -/
def dayNumber (d : Date) : Nat :=
  let years := d.year - 1
  let before := (monthLengths d.year).take (d.month - 1)
  365 * years + years / 4 - years / 100 + years / 400 + before.foldr (· + ·) 0 + d.day

/-- The month and the day of the day behind a number of days of a year. -/
def monthDay (month : Nat) : List Nat → Nat → Nat × Nat
  | [], days => (month, days + 1)
  | length :: lengths, days =>
    if days < length then (month, days + 1) else monthDay (month + 1) lengths (days - length)

/-- The date of the day with a number. -/
def ofDayNumber (number : Nat) : Date :=
  let days := number - 1
  let centuries := min (days % 146097 / 36524) 3
  let inCentury := days % 146097 - centuries * 36524
  let years := min (inCentury % 1461 / 365) 3
  let inYear := inCentury % 1461 - years * 365
  let year := days / 146097 * 400 + centuries * 100 + inCentury / 1461 * 4 + years + 1
  let (month, day) := monthDay 1 (monthLengths year) inYear
  ⟨year, month, day⟩

/-- The number of the last day of the last year. -/
def lastDayNumber : Nat :=
  dayNumber ⟨9999, 12, 31⟩

end Date

/-- The distance of a clock from universal time. -/
structure TimeZone where
  /-- Seconds ahead of universal time. -/
  offset : Int
  /-- The distance as it is written, where that is kept. -/
  name : Option String := none
  deriving DecidableEq, Repr

/-- A time of a day, possibly with the distance of its clock from universal time. -/
structure Moment where
  /-- The day. -/
  date : Date
  /-- The hour. -/
  hour : Nat
  /-- The minute. -/
  minute : Nat
  /-- The second. -/
  second : Nat
  /-- The millionth parts of a second. -/
  microsecond : Nat
  /-- The distance from universal time, if known. -/
  zone : Option TimeZone
  deriving DecidableEq, Repr

namespace Moment

/-- The seconds from the beginning of the first day to a time, as its clock counts them. -/
def clockSeconds (m : Moment) : Int :=
  (m.date.dayNumber * 86400 + m.hour * 3600 + m.minute * 60 + m.second : Nat)

/-- The seconds to a time and its millionth parts, in universal time if that is known. -/
def instant (m : Moment) : Int × Nat :=
  (m.clockSeconds - (m.zone.map TimeZone.offset).getD 0, m.microsecond)

/-- Whether two times are the same. One whose distance from universal time is not known differs from
all others whose distance is. -/
def same (left right : Moment) : Bool :=
  left.zone.isSome == right.zone.isSome && left.instant == right.instant

end Moment

end PodLaunch
