import PodLaunch.Document.Calendar
import PodLaunch.Text.Hexadecimal
import PodLaunch.Yaml.Dialect

/-!
# Dates and times in texts

A plain scalar such as `2001-12-14` is a date, and one such as `2001-12-14 21:59:43.10 -5` is a
time. Manifests round the fraction of a time and keep its zone as it is written; profiles cut the
fraction and keep only how far the zone is from universal time.
-/

namespace PodLaunch.Yaml

open Text

/-- A time zone as it is written. -/
structure WrittenZone where
  /-- Its text. -/
  text : String
  /-- The seconds that it is ahead of universal time. -/
  offset : Int
  deriving DecidableEq, Repr

/-- A time of a day as it is written. -/
structure WrittenClock where
  /-- The hour. -/
  hour : Nat
  /-- The minute. -/
  minute : Nat
  /-- The second. -/
  second : Nat
  /-- The digits of the fraction. -/
  fraction : List Char
  /-- The time zone, if there is one. -/
  zone : Option WrittenZone
  deriving DecidableEq, Repr

/-- A date, possibly with a time, as it is written. -/
structure Timestamp where
  /-- The year. -/
  year : Nat
  /-- The month. -/
  month : Nat
  /-- The day. -/
  day : Nat
  /-- The time of the day. -/
  clock : Option WrittenClock
  deriving DecidableEq, Repr

namespace Timestamp

/-- A numeral of at least and at most some digits, and what follows it. -/
def number (least most : Nat) (chars : List Char) : Option (Nat × List Char) :=
  let digits := (chars.take most).takeWhile Char.isDigit
  if digits.length < least then none
  else (numeralValue? 10 digits).map fun n => (n, chars.drop digits.length)

/-- A character, and what follows it. -/
def mark (c : Char) : List Char → Option (List Char)
  | first :: rest => if first = c then some rest else none
  | [] => none

/-- The seconds that a number of hours and minutes behind a sign stands for. -/
def signedSeconds (sign : Char) (hours minutes : Nat) : Int :=
  let seconds : Int := (hours * 3600 + minutes * 60 : Nat)
  if sign = '-' then -seconds else seconds

/-- The seconds that a time zone is ahead of universal time. -/
def zoneOffset? : List Char → Option Int
  | ['Z'] => some 0
  | sign :: rest =>
    if sign = '+' ∨ sign = '-' then do
      let (hours, rest) ← number 1 2 rest
      match rest with
      | [] => return signedSeconds sign hours 0
      | _ => do
        let (minutes, rest) ← number 2 2 (← mark ':' rest)
        if rest.isEmpty then return signedSeconds sign hours minutes else none
    else none
  | [] => none

/-- The time zone at the end of a time, if there is one. -/
def zone? : List Char → Option (Option WrittenZone)
  | [] => some none
  | chars =>
    let text := chars.dropWhile fun c => c = ' ' || c = '\t'
    (zoneOffset? text).map fun offset => some ⟨String.ofList text, offset⟩

/-- The time of a day at the end of a timestamp. -/
def clock? (chars : List Char) : Option WrittenClock := do
  let (hour, rest) ← number 1 2 chars
  let (minute, rest) ← number 2 2 (← mark ':' rest)
  let (second, rest) ← number 2 2 (← mark ':' rest)
  let (fraction, rest) :=
    match rest with
    | '.' :: rest => (rest.takeWhile Char.isDigit, rest.dropWhile Char.isDigit)
    | _ => ([], rest)
  let zone ← zone? rest
  return ⟨hour, minute, second, fraction, zone⟩

/-- What separates the date from the time, dropped. -/
def dropSeparator : List Char → Option (List Char)
  | 'T' :: rest => some rest
  | 't' :: rest => some rest
  | c :: rest =>
    if c = ' ' ∨ c = '\t' then some (rest.dropWhile fun c => c = ' ' || c = '\t') else none
  | [] => none

/-- The timestamp that is written in a scalar. -/
def parse? (chars : List Char) : Option Timestamp := do
  let (year, rest) ← number 4 4 chars
  let (month, rest) ← number 1 2 (← mark '-' rest)
  let (day, rest) ← number 1 2 (← mark '-' rest)
  match rest with
  | [] => return ⟨year, month, day, none⟩
  | _ =>
    let clock ← clock? (← dropSeparator rest)
    return ⟨year, month, day, some clock⟩

/-- Whether a plain scalar is a timestamp. The month and the day of a date alone have two digits. -/
def isPlain (chars : List Char) : Bool :=
  match parse? chars with
  | some stamp => stamp.clock.isSome || chars.length = 10
  | none => false

/-- The millionth parts in the digits of a fraction. -/
def microseconds (fraction : List Char) : Nat :=
  let digits := fraction.take 6
  (numeralValue? 10 digits).getD 0 * Nat.pow 10 (6 - digits.length)

/-- Whether the digits of a fraction are rounded up to a millionth part. -/
def roundsUp (fraction : List Char) : Bool :=
  match fraction.drop 6 with
  | digit :: _ => '5' ≤ digit
  | [] => false

/-- The time zone that is written in a timestamp. Only manifests keep its text. -/
def checkZone (dialect : Dialect) : Option WrittenZone → Except CalendarDefect (Option TimeZone)
  | none => .ok none
  | some zone =>
    (TimeZone.check zone.offset (if dialect.isProfile then none else some zone.text)).map some

/-- The document that a timestamp stands for. -/
def toDocument (dialect : Dialect) (stamp : Timestamp) : Except CalendarDefect Document := do
  match stamp.clock with
  | none => return .date (← Date.check stamp.year stamp.month stamp.day)
  | some clock =>
    let zone ← checkZone dialect clock.zone
    let date ← Date.check stamp.year stamp.month stamp.day
    let micro := microseconds clock.fraction
    let micro := if !dialect.isProfile && roundsUp clock.fraction then micro + 1 else micro
    let moment ←
      Moment.check date clock.hour clock.minute clock.second (micro % 1000000) zone
    if micro < 1000000 then return .moment moment else return .moment (← moment.later 1)

end Timestamp

end PodLaunch.Yaml
