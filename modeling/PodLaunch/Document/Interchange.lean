import PodLaunch.Document.Display

/-!
# Documents in interchange form

A document is written for other programs in ASCII: what is no printable ASCII character is escaped
by its code in units of 16 bits. Lists and mappings are spread over lines, indented by two columns
for each level. What the form has no notation for is written as a text.
-/

namespace PodLaunch

open Text

/-- The escape of a unit of 16 bits. -/
def escapeUnit (unit : Nat) : List Char :=
  '\\' :: 'u' :: hexNumeral 4 unit

/-- One character between double quotes. -/
def escapeInterchange (c : Char) : List Char :=
  let code := c.toNat
  if c = '"' ∨ c = '\\' then ['\\', c]
  else if c = '\n' then ['\\', 'n']
  else if c = '\r' then ['\\', 'r']
  else if c = '\t' then ['\\', 't']
  else if c = '\x08' then ['\\', 'b']
  else if c = '\x0c' then ['\\', 'f']
  else if ' ' ≤ c ∧ c ≤ '~' then [c]
  else if code < 0x10000 then escapeUnit code
  else
    escapeUnit (0xd800 + (code - 0x10000) / 0x400) ++ escapeUnit (0xdc00 + (code - 0x10000) % 0x400)

/-- A text between double quotes. -/
def interchangeText (s : String) : String :=
  String.ofList ('"' :: s.toList.flatMap escapeInterchange ++ ['"'])

/-- A new line at a level of indentation. -/
def interchangeLine (level : Nat) : String :=
  String.ofList ('\n' :: List.replicate (2 * level) ' ')

/-- Items between brackets, each on lines of its own, at a level of indentation. -/
def interchangeBlock (opening closing : String) (level : Nat) (items : List String) : String :=
  if items.isEmpty then opening ++ closing
  else
    opening ++ interchangeLine (level + 1) ++
      joinTexts ("," ++ interchangeLine (level + 1)) items ++ interchangeLine level ++ closing

namespace Document

mutual

/-- A document at a level of indentation. -/
def interchange (level : Nat) : Document → String
  | .null => "null"
  | .bool value => if value then "true" else "false"
  | .int value => toString value
  | .text value => interchangeText value
  | .list items => interchangeBlock "[" "]" level (interchangeItems (level + 1) items)
  | .mapping entries =>
    interchangeBlock "\x7b" "\x7d" level (interchangeEntries (level + 1) entries)
  | other => interchangeText other.sentence

/-- The elements of a list at a level of indentation. -/
def interchangeItems (level : Nat) : List Document → List String
  | [] => []
  | item :: items => interchange level item :: interchangeItems level items

/-- The entries of a mapping at a level of indentation. -/
def interchangeEntries (level : Nat) : List (Document × Document) → List String
  | [] => []
  | (key, value) :: entries =>
    (interchangeText key.sentence ++ ": " ++ interchange level value) ::
      interchangeEntries level entries

end

end Document

end PodLaunch
