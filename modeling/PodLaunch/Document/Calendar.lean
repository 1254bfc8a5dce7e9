import PodLaunch.Document.Display

/-!
# Dates and times that exist

A date or a time is put together from its parts, each of which has to be in range. The years go from
1 to 9999.
-/

namespace PodLaunch

/-- The parts of a date or a time that may be out of range, and the ways in which they are. -/
inductive CalendarDefect where
  /-- There is no such year. -/
  | year (value : Nat)
  /-- There is no such month. -/
  | month
  /-- The month has no such day. -/
  | day
  /-- There is no such hour. -/
  | hour
  /-- There is no such minute. -/
  | minute
  /-- There is no such second. -/
  | second
  /-- The distance from universal time is a day or more. -/
  | offset (seconds : Int)
  /-- The time is before the first or behind the last year. -/
  | range
  deriving DecidableEq, Repr

/-- The report of a part that is out of range. -/
def CalendarDefect.message : CalendarDefect → String
  | .year value => "year " ++ toString value ++ " is out of range"
  | .month => "month must be in 1..12"
  | .day => "day is out of range for month"
  | .hour => "hour must be in 0..23"
  | .minute => "minute must be in 0..59"
  | .second => "second must be in 0..59"
  | .offset seconds =>
    "offset must be a timedelta strictly between -timedelta(hours=24) and " ++
      "timedelta(hours=24), not " ++
      TimeZone.durationDisplay seconds ++ "."
  | .range => "date value out of range"

namespace Date

/-- The date with a year, a month and a day, if there is one. -/
def check (year month day : Nat) : Except CalendarDefect Date :=
  if year = 0 then .error (.year year)
  else if month = 0 ∨ 12 < month then .error .month
  else if day = 0 ∨ (monthLengths year).getD (month - 1) 0 < day then .error .day
  else .ok ⟨year, month, day⟩

end Date

/-- The time zone with a distance from universal time of less than a day. -/
def TimeZone.check (offset : Int) (name : Option String) : Except CalendarDefect TimeZone :=
  if 86400 ≤ offset.natAbs then .error (.offset offset) else .ok ⟨offset, name⟩

namespace Moment

/-- The time with a date, an hour, a minute and a second, if there is one. -/
def check (date : Date) (hour minute second microsecond : Nat) (zone : Option TimeZone) :
    Except CalendarDefect Moment :=
  if 23 < hour then .error .hour
  else if 59 < minute then .error .minute
  else if 59 < second then .error .second
  else .ok ⟨date, hour, minute, second, microsecond, zone⟩

/-- The time a number of seconds later, by the same clock. -/
def later (moment : Moment) (seconds : Int) : Except CalendarDefect Moment :=
  let total := moment.clockSeconds + seconds
  let number := Int.fdiv total 86400
  let second := (Int.fmod total 86400).toNat
  if number < 1 ∨ (Date.lastDayNumber : Int) < number then .error .range
  else
    .ok { moment with
      date := Date.ofDayNumber number.toNat
      hour := second / 3600
      minute := second / 60 % 60
      second := second % 60 }

end Moment

end PodLaunch
