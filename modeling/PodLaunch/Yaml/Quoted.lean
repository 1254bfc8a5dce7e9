import PodLaunch.Text.Hexadecimal
import PodLaunch.Yaml.Defect
import PodLaunch.Yaml.Gap

/-!
# Quoted scalars

A scalar between single quotes knows one escape, the doubled quote. Between double quotes a
backslash introduces an escape, and before a line break it joins two lines. A marker between
documents must not stand at the beginning of a line within quotes.
-/

namespace PodLaunch.Yaml

open Text

/-- The character that a letter behind a backslash stands for. -/
def escapedChar? : Char → Option Char
  | '0' => some '\x00'
  | 'a' => some '\x07'
  | 'b' => some '\x08'
  | 't' => some '\t'
  | '\t' => some '\t'
  | 'n' => some '\n'
  | 'v' => some '\x0b'
  | 'f' => some '\x0c'
  | 'r' => some '\r'
  | 'e' => some '\x1b'
  | ' ' => some ' '
  | '"' => some '"'
  | '/' => some '/'
  | '\\' => some '\\'
  | 'N' => some '\x85'
  | '_' => some '\xa0'
  | 'L' => some '\u2028'
  | 'P' => some '\u2029'
  | _ => none

/-- The character with a code. A surrogate is one half of a character. -/
def charOfCode (code : Nat) : Except Defect Char :=
  if Nat.pow 2 31 ≤ code then .error .largeCharacter
  else if 0x110000 ≤ code then .error .noCharacter
  else if code.isValidChar then .ok (Char.ofNat code)
  else .error .surrogate

/-- The character whose code is written with hexadecimal digits. -/
def charOfDigits (digits : List Char) : Except Defect Char :=
  match numeralValue? 16 digits with
  | some code => charOfCode code
  | none => .error .malformed

/-- The rest of a scalar between single quotes, behind a text (last character first) and a gap.
Gives the scalar and what follows the closing quote. -/
def singleQuotedFrom (text : List Char) (gap : Gap) :
    List Char → Except Defect (List Char × List Char)
  | [] => .error .malformed
  | '\'' :: '\'' :: rest => singleQuotedFrom ('\'' :: gap.appendTo text) .none rest
  | '\'' :: rest => .ok ((gap.appendTo text).reverse, rest)
  | c :: rest =>
    if c = ' ' ∨ c = '\t' then singleQuotedFrom text (gap.addBlank c) rest
    else if isBreak c then
      if beginsWithMarker rest then .error .malformed
      else singleQuotedFrom text (gap.addBreak c) rest
    else singleQuotedFrom (c :: gap.appendTo text) .none rest

/-- The rest of a scalar between double quotes, behind a text (last character first) and a gap.
Gives the scalar and what follows the closing quote. -/
def doubleQuotedFrom (text : List Char) (gap : Gap) :
    List Char → Except Defect (List Char × List Char)
  | [] => .error .malformed
  | '"' :: rest => .ok ((gap.appendTo text).reverse, rest)
  | '\\' :: 'x' :: a :: b :: rest => do
    let c ← charOfDigits [a, b]
    doubleQuotedFrom (c :: gap.appendTo text) .none rest
  | '\\' :: 'u' :: a :: b :: c :: d :: rest => do
    let c ← charOfDigits [a, b, c, d]
    doubleQuotedFrom (c :: gap.appendTo text) .none rest
  | '\\' :: 'U' :: a :: b :: c :: d :: e :: f :: g :: h :: rest => do
    let c ← charOfDigits [a, b, c, d, e, f, g, h]
    doubleQuotedFrom (c :: gap.appendTo text) .none rest
  | '\\' :: c :: rest =>
    if isBreak c then
      if beginsWithMarker rest then .error .malformed
      else doubleQuotedFrom (gap.appendTo text) (.joined []) rest
    else
      match escapedChar? c with
      | some escaped => doubleQuotedFrom (escaped :: gap.appendTo text) .none rest
      | none => .error .malformed
  | c :: rest =>
    if c = '\\' then .error .malformed
    else if c = ' ' ∨ c = '\t' then doubleQuotedFrom text (gap.addBlank c) rest
    else if isBreak c then
      if beginsWithMarker rest then .error .malformed
      else doubleQuotedFrom text (gap.addBreak c) rest
    else doubleQuotedFrom (c :: gap.appendTo text) .none rest

/-- A scalar behind its opening single quote, and what follows it. -/
def singleQuoted (chars : List Char) : Except Defect (List Char × List Char) :=
  singleQuotedFrom [] .none chars

/-- A scalar behind its opening double quote, and what follows it. -/
def doubleQuoted (chars : List Char) : Except Defect (List Char × List Char) :=
  doubleQuotedFrom [] .none chars

end PodLaunch.Yaml
