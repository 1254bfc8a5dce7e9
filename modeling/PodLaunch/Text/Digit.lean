import PodLaunch.Text.Blank
import PodLaunch.Text.Hexadecimal

/-!
# Decimal digits of all scripts

Every script that has decimal digits of its own lists them in order, from zero to nine. A numeral
may be written with the digits of any script, and with any blanks around it.
-/

namespace PodLaunch.Text

/-- The codes of the zeros of all scripts, in increasing order. -/
def zeroCodes : List Nat :=
  [48, 1632, 1776, 1984, 2406, 2534, 2662, 2790, 2918, 3046, 3174, 3302, 3430, 3558, 3664, 3792,
    3872, 4160, 4240, 6112, 6160, 6470, 6608, 6784, 6800, 6992, 7088, 7232, 7248, 42528, 43216,
    43264, 43472, 43504, 43600, 44016, 65296, 66720, 68912, 69734, 69872, 69942, 70096, 70384,
    70736, 70864, 71248, 71360, 71472, 71904, 72016, 72784, 73040, 73120, 92768, 92864, 93008,
    120782, 120792, 120802, 120812, 120822, 123200, 123632, 125264, 130032]

/-- The value of a decimal digit of any script. -/
def decimalValue? (c : Char) : Option Nat :=
  (zeroCodes.find? fun first => first ≤ c.toNat && c.toNat < first + 10).map fun first =>
    c.toNat - first

/-- The digit of ASCII with a value. -/
def asciiDigit (value : Nat) : Char :=
  Char.ofNat ('0'.toNat + value)

/-- A character as it counts in a numeral: a digit of any script as that of ASCII, and a blank
beyond ASCII as a space. -/
def plainNumeralChar (c : Char) : Char :=
  if c.toNat < 127 then c
  else if isBlank c then ' '
  else
    match decimalValue? c with
    | some value => asciiDigit value
    | none => c

/-- Whether a character may stand around the numerals of ASCII. -/
def isNumeralBlank (c : Char) : Bool :=
  c = ' ' || ('\t' ≤ c && c ≤ '\r')

/-- A numeral with digits and blanks of ASCII, and without the blanks around it. -/
def plainNumeral (s : List Char) : List Char :=
  let inner := (s.map plainNumeralChar).dropWhile isNumeralBlank
  (inner.reverse.dropWhile isNumeralBlank).reverse

end PodLaunch.Text
