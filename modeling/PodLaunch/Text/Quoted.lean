import PodLaunch.Text.Hexadecimal
import PodLaunch.Text.Printable

/-!
# Quoted texts

The form in which a message shows a text or a sequence of bytes: between single quotes, or between
double quotes where that saves escapes, with everything that is not printable escaped.
-/

namespace PodLaunch.Text

/-- The quote for a text: single, unless the text holds a single quote and no double quote. -/
def quoteFor (s : List Char) : Char :=
  if s.contains '\'' && !s.contains '"' then '"' else '\''

/-- One character between quotes. -/
def escapeQuoted (quote c : Char) : List Char :=
  if c = quote ∨ c = '\\' then ['\\', c]
  else if c = '\n' then ['\\', 'n']
  else if c = '\r' then ['\\', 'r']
  else if c = '\t' then ['\\', 't']
  else if isPrintable c then [c]
  else if c.toNat < 0x100 then '\\' :: 'x' :: hexNumeral 2 c.toNat
  else if c.toNat < 0x10000 then '\\' :: 'u' :: hexNumeral 4 c.toNat
  else '\\' :: 'U' :: hexNumeral 8 c.toNat

/-- A text between quotes. -/
def quoted (s : String) : String :=
  let quote := quoteFor s.toList
  String.ofList (quote :: (s.toList.flatMap (escapeQuoted quote)) ++ [quote])

/-- One byte between quotes: a printable ASCII character, or an escape. -/
def escapeQuotedByte (quote : Char) (byte : UInt8) : List Char :=
  if byte.toNat < 0x7f then escapeQuoted quote (Char.ofNat byte.toNat)
  else '\\' :: 'x' :: hexNumeral 2 byte.toNat

/-- A sequence of bytes between quotes, marked by a leading `b`. -/
def quotedBytes (bytes : List UInt8) : String :=
  let quote := quoteFor (bytes.map fun byte => Char.ofNat byte.toNat)
  String.ofList ('b' :: quote :: (bytes.flatMap (escapeQuotedByte quote)) ++ [quote])

end PodLaunch.Text
