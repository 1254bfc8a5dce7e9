import PodLaunch.Document.Basic
import PodLaunch.Number.Shortest
import PodLaunch.Text.Lines
import PodLaunch.Text.Quoted

/-!
# How messages show a document

A message names the kind of a document and shows its value on one line. Inside a sentence a text
stands as it is; everywhere else it is quoted.
-/

namespace PodLaunch

open Number Text

/-- The form of a floating-point number in messages. -/
structure FloatFormat where
  /-- The least power of ten that is written positionally. -/
  leastPositional : Int
  /-- The first power of ten that is not written positionally any more. -/
  firstScientific : Int
  /-- The least number of digits of an exponent. -/
  exponentDigits : Nat

/-- Messages write numbers from a ten-thousandth to below ten quadrillions positionally, always with
a fraction, and others with a signed exponent of at least two digits. -/
def messageFloat : FloatFormat := ⟨-4, 16, 2⟩

namespace FloatFormat

/-- A text of digits behind zeros that fill it up to a width. -/
def padded (width : Nat) (digits : String) : String :=
  String.ofList (List.replicate (width - digits.length) '0') ++ digits

/-- A run of zeros. -/
def zeros (count : Int) : String :=
  String.ofList (List.replicate count.toNat '0')

/-- The text of a positive decimal in a format. -/
def decimalText (format : FloatFormat) (d : Decimal) : String :=
  let digits := toString d.digits
  let point := d.exponent + digits.length
  let power := point - 1
  if format.leastPositional ≤ power ∧ power < format.firstScientific then
    if point ≤ 0 then "0." ++ zeros (-point) ++ digits
    else if (digits.length : Int) ≤ point then digits ++ zeros (point - digits.length) ++ ".0"
    else
      String.ofList (digits.toList.take point.toNat) ++ "." ++
        String.ofList (digits.toList.drop point.toNat)
  else
    let fraction := String.ofList (digits.toList.drop 1)
    let mark := if power < 0 then "e-" else "e+"
    String.ofList (digits.toList.take 1) ++ (if fraction = "" then "" else "." ++ fraction) ++
      mark ++ padded format.exponentDigits (toString power.natAbs)

/-- The text of a number in a format. -/
def text (format : FloatFormat) : Binary64 → String
  | .finite negative significand exponent =>
    let magnitude :=
      if significand = 0 then "0.0"
      else format.decimalText (Decimal.shortest significand exponent)
    if negative then "-" ++ magnitude else magnitude
  | .infinite negative => if negative then "-inf" else "inf"
  | .notANumber => "nan"

end FloatFormat

/-- Numerals behind one another with a separator and a width for each. -/
def numerals (separator : String) (fields : List (Nat × Nat)) : String :=
  joinTexts separator (fields.map fun field => FloatFormat.padded field.1 (toString field.2))

namespace Date

/-- A day inside a sentence. -/
def sentence (d : Date) : String :=
  numerals "-" [(4, d.year), (2, d.month), (2, d.day)]

/-- A day as a value. -/
def display (d : Date) : String :=
  "datetime.date(" ++ numerals ", " [(1, d.year), (1, d.month), (1, d.day)] ++ ")"

end Date

namespace TimeZone

/-- A number of seconds as a value. -/
def durationDisplay (duration : Int) : String :=
  let days := Int.fdiv duration 86400
  let seconds := Int.fmod duration 86400
  let dayPart := if days = 0 then [] else ["days=" ++ toString days]
  let secondPart := if seconds = 0 then [] else ["seconds=" ++ toString seconds]
  let parts := dayPart ++ secondPart
  "datetime.timedelta(" ++ (if parts.isEmpty then "0" else joinTexts ", " parts) ++ ")"

/-- A time zone inside a sentence. -/
def sentence (zone : TimeZone) : String :=
  let seconds := zone.offset.natAbs
  let sign := if zone.offset < 0 then "-" else "+"
  let fields := [(2, seconds / 3600), (2, seconds / 60 % 60)]
  sign ++ numerals ":" (if seconds % 60 = 0 then fields else fields ++ [(2, seconds % 60)])

/-- A time zone as a value. -/
def display (zone : TimeZone) : String :=
  match zone.name with
  | some name =>
    "datetime.timezone(" ++ durationDisplay zone.offset ++ ", " ++ quoted name ++ ")"
  | none =>
    if zone.offset = 0 then "datetime.timezone.utc"
    else "datetime.timezone(" ++ durationDisplay zone.offset ++ ")"

end TimeZone

namespace Moment

/-- A time inside a sentence. -/
def sentence (m : Moment) : String :=
  m.date.sentence ++ " " ++ numerals ":" [(2, m.hour), (2, m.minute), (2, m.second)] ++
    (if m.microsecond = 0 then "" else "." ++ numerals "" [(6, m.microsecond)]) ++
    (m.zone.map TimeZone.sentence).getD ""

/-- A time as a value. The seconds are left out when they are zero, the millionths too. -/
def display (m : Moment) : String :=
  let fields := [m.date.year, m.date.month, m.date.day, m.hour, m.minute]
  let fields :=
    if m.microsecond = 0 then (if m.second = 0 then fields else fields ++ [m.second])
    else fields ++ [m.second, m.microsecond]
  let zone := (m.zone.map fun zone => ["tzinfo=" ++ zone.display]).getD []
  "datetime.datetime(" ++ joinTexts ", " (fields.map toString ++ zone) ++ ")"

end Moment

namespace Document

/-- The name of a document's kind. -/
def kindName : Document → String
  | .null => "NoneType"
  | .bool _ => "bool"
  | .int _ => "int"
  | .float _ => "float"
  | .text _ => "str"
  | .bytes _ => "bytes"
  | .date _ => "date"
  | .moment _ => "datetime"
  | .list _ => Shape.list.name
  | .mapping _ => Shape.mapping.name
  | .tuple _ => "tuple"
  | .set _ => Shape.set.name
  | .ordered _ => Shape.ordered.name
  | .cyclic _ content => content.kindName
  | .again _ shape => shape.name

/-! ## What can be shown -/

/-- The largest number of digits of an integer that is shown. -/
def digitLimit : Nat := 4300

/-- Whether an integer has no more digits than are shown. -/
def hasShownDigits (n : Int) : Bool :=
  n.natAbs < Nat.pow 10 digitLimit

mutual

/-- Whether a document can be shown: all its integers are short enough. -/
def isShown : Document → Bool
  | .int value => hasShownDigits value
  | .list items | .tuple items | .set items => areShown items
  | .mapping entries | .ordered entries => areEntriesShown entries
  | .cyclic _ content => isShown content
  | _ => true

/-- Whether the elements of a document can be shown. -/
def areShown : List Document → Bool
  | [] => true
  | item :: items => isShown item && areShown items

/-- Whether the entries of a mapping can be shown. -/
def areEntriesShown : List (Document × Document) → Bool
  | [] => true
  | (key, value) :: entries => isShown key && isShown value && areEntriesShown entries

end

/-! ## Values -/

/-- Elements in round brackets: a single one is followed by a comma. -/
def inRoundBrackets : List String → String
  | [item] => "(" ++ item ++ ",)"
  | items => "(" ++ joinTexts ", " items ++ ")"

/-- Entries or members in braces. -/
def inBraces (entries : List String) : String :=
  "\x7b" ++ joinTexts ", " entries ++ "\x7d"

/-- The members of a set. Empty braces would be those of a mapping. -/
def inSetBraces (members : List String) : String :=
  if members.isEmpty then "set()" else inBraces members

/-- The entries of a mapping that is tagged as ordered. -/
def inOrder (entries : List String) : String :=
  "ordereddict(" ++ (if entries.isEmpty then "" else inBraces entries) ++ ")"

/-- What stands for a list or a mapping within itself. -/
def ellipsis : Shape → String
  | .list => "[...]"
  | .mapping => "\x7b...\x7d"
  | .set => "set(...)"
  | .ordered => "..."

mutual

/-- A document as a value on one line, within the documents with some marks. -/
def displayWithin (around : List Nat) : Document → String
  | .null => "None"
  | .bool value => if value then "True" else "False"
  | .int value => toString value
  | .float value => messageFloat.text value
  | .text value => quoted value
  | .bytes value => quotedBytes value
  | .date value => value.display
  | .moment value => value.display
  | .list items => "[" ++ joinTexts ", " (displayItems around items) ++ "]"
  | .mapping entries => inBraces (displayEntries around entries)
  | .tuple items => inRoundBrackets (displayItems around items)
  | .set members => inSetBraces (displayItems around members)
  | .ordered entries => inOrder (displayEntries around entries)
  | .cyclic mark content =>
    if mark ∈ around then ellipsis (content.shape?.getD .list)
    else displayWithin (mark :: around) content
  | .again _ shape => ellipsis shape

/-- The elements of a document as values. -/
def displayItems (around : List Nat) : List Document → List String
  | [] => []
  | item :: items => displayWithin around item :: displayItems around items

/-- The entries of a mapping as values. -/
def displayEntries (around : List Nat) : List (Document × Document) → List String
  | [] => []
  | (key, value) :: entries =>
    (displayWithin around key ++ ": " ++ displayWithin around value) ::
      displayEntries around entries

end

/-- A document as a value on one line. -/
def display (d : Document) : String :=
  displayWithin [] d

/-- A document inside a sentence: a text stands as it is. -/
def sentence : Document → String
  | .text value => value
  | .date value => value.sentence
  | .moment value => value.sentence
  | other => other.display

end Document

end PodLaunch
