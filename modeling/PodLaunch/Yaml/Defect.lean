import PodLaunch.Document.Basic
import PodLaunch.Document.Calendar
import PodLaunch.Text.Utf8
import PodLaunch.Yaml.Dialect

/-!
# Why a text denotes nothing

Most defects make a text malformed, and the bytes of a file may form no characters. Some scalars,
however, look like a number, a truth value or a date and turn out not to be one only when their
value is computed, and some keys turn out to be of no use. A text may also be nested too deeply, or
spell out half of a character, which no text here can hold.
-/

namespace PodLaunch.Yaml

open Text

/-- Why a text denotes nothing. -/
inductive Defect where
  /-- The text breaks the rules of the language. -/
  | malformed
  /-- The bytes of the text are not the encoding of characters. -/
  | notUnicode (error : Utf8Error)
  /-- A plain scalar has no meaning in an edition. -/
  | unknownEdition (edition : Edition)
  /-- A document asks for an edition that does not exist. -/
  | unsupportedEdition (edition : Edition)
  /-- A scalar that is tagged as a number is empty. -/
  | emptyNumeral
  /-- A scalar is no integer in a base. -/
  | badInteger (base : Nat) (numeral : String)
  /-- An integer has too many digits to be read. -/
  | longInteger (digits : Nat)
  /-- An integer has too many digits to be shown in the report of a repeated key. -/
  | hiddenInteger
  /-- A scalar is no floating-point number. -/
  | badFloat (numeral : String)
  /-- A digit of base sixty stands too far in front. -/
  | largeFactor
  /-- A scalar that is tagged as a truth value is none. -/
  | badBool (name : String)
  /-- A date or time does not exist. -/
  | badTime (cause : CalendarDefect)
  /-- A scalar that is tagged as a date is none. -/
  | noTime
  /-- A mapping stands in the place of a date. -/
  | mappingAsTime
  /-- An escape names a character beyond the last one. -/
  | noCharacter
  /-- An escape names a character by a number of more than 31 bits. -/
  | largeCharacter
  /-- An escape names one half of a character that takes two numbers. -/
  | surrogate
  /-- A key, or a part of it, holds others and can be changed. -/
  | nestedKey (shape : Shape)
  /-- A key of a mapping that is tagged as ordered comes twice. -/
  | repeatedEntry
  /-- Lists and mappings are nested too deeply. -/
  | tooDeep
  deriving DecidableEq, Repr

/-- A numeral in the report that it is no integer: its quoted form is cut. -/
def shownNumeral (numeral : String) : String :=
  String.ofList ((quoted numeral).toList.take 200)

/-- The report that the limit of digits is exceeded, with a remark. -/
def digitLimitMessage (remark : String) : String :=
  "Exceeds the limit (" ++ toString Document.digitLimit ++
    " digits) for integer string conversion" ++ remark ++
    "; use sys.set_int_max_str_digits() to increase the limit"

/-- The report of a defect. -/
def Defect.message : Defect → String
  | .malformed => "malformed text"
  | .notUnicode error => error.message
  | .unknownEdition edition => edition.text
  | .unsupportedEdition edition => "version minor part can only be 2 or 1, got " ++ edition.text
  | .emptyNumeral => "string index out of range"
  | .badInteger base numeral =>
    "invalid literal for int() with base " ++ toString base ++ ": " ++ shownNumeral numeral
  | .longInteger digits => digitLimitMessage (": value has " ++ toString digits ++ " digits")
  | .hiddenInteger => digitLimitMessage ""
  | .badFloat numeral => "could not convert string to float: " ++ quoted numeral
  | .largeFactor => "int too large to convert to float"
  | .badBool name => quoted name
  | .badTime cause => cause.message
  | .noTime => "'NoneType' object has no attribute 'groupdict'"
  | .mappingAsTime => "expected string or bytes-like object, got 'list'"
  | .noCharacter => "chr() arg not in range(0x110000)"
  | .largeCharacter => "Python int too large to convert to C int"
  | .surrogate => "surrogates not allowed"
  | .nestedKey shape => "unhashable type: '" ++ shape.name ++ "'"
  | .repeatedEntry => ""
  | .tooDeep => "maximum recursion depth exceeded"

end PodLaunch.Yaml
