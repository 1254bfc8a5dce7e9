/-!
# Hexadecimal numerals of a fixed width

Escapes name a character by a numeral of two, four or eight hexadecimal digits.
-/

namespace PodLaunch.Text

/-- The digit characters of base sixteen, in lower case. -/
def hexDigits : List Char :=
  "0123456789abcdef".toList

/-- The last digit of a number in base sixteen. -/
def lastHexDigit (n : Nat) : Char :=
  hexDigits.getD (n % 16) '0'

/-- The last `width` digits of a number in base sixteen, in lower case. -/
def hexNumeral : Nat → Nat → List Char
  | 0, _ => []
  | width + 1, n => hexNumeral width (n / 16) ++ [lastHexDigit n]

/-- The last `width` digits of a number in base sixteen, in upper case. -/
def upperHexNumeral (width n : Nat) : List Char :=
  (hexNumeral width n).map Char.toUpper

/-- The value of a hexadecimal digit in either case. -/
def hexValue? (c : Char) : Option Nat :=
  if '0' ≤ c ∧ c ≤ '9' then some (c.toNat - '0'.toNat)
  else if 'a' ≤ c ∧ c ≤ 'f' then some (c.toNat - 'a'.toNat + 10)
  else if 'A' ≤ c ∧ c ≤ 'F' then some (c.toNat - 'A'.toNat + 10)
  else none

/-- The value of a text of digits in a base of at most sixteen, if every character is a digit. -/
def numeralValue? (base : Nat) (s : List Char) : Option Nat :=
  s.foldl (fun value c => do
    let digit ← hexValue? c
    if digit < base then return (← value) * base + digit else none) (some 0)

end PodLaunch.Text
