import PodLaunch.Yaml.Dialect

/-!
# Characters of structured texts

Which characters may occur, which end a line, and how the markers between documents are recognised.
-/

namespace PodLaunch.Yaml

/-- Whether a character may occur in a text at all. -/
def isReadable (c : Char) : Bool :=
  let code := c.toNat
  c = '\t' || c = '\n' || c = '\r' || c = '\x85' || (0x20 ≤ code && code ≤ 0x7e) ||
    (0xa0 ≤ code && code ≤ 0xfffd) || 0x10000 ≤ code

/-- Whether a character is the line or the paragraph separator. -/
def isSeparator (c : Char) : Bool :=
  c = '\u2028' || c = '\u2029'

/-- Whether a character ends a line. -/
def isBreak (c : Char) : Bool :=
  c = '\n' || c = '\x85' || isSeparator c

/-- The character that the end of a line contributes to a scalar: separators stand for themselves.
-/
def breakValue (c : Char) : Char :=
  if isSeparator c then c else '\n'

/-- Whether the columns are counted anew behind a character. In manifests they are so only behind a
line feed, though other characters end lines as well. -/
def restartsColumns (dialect : Dialect) (c : Char) : Bool :=
  c = '\n' || (dialect.isProfile && isBreak c)

/-- The column behind a character at a column. A byte order mark takes no room. -/
def columnBehind (dialect : Dialect) (column : Nat) (c : Char) : Nat :=
  if restartsColumns dialect c then 0 else if c = '\ufeff' then column else column + 1

/-- Whether a word ends before a character, or at the end of the text. -/
def endsWord : Option Char → Bool
  | none => true
  | some c => c = ' ' || c = '\t' || isBreak c

/-- Whether a directive, a tag or the header of a block scalar ends before a character: as a word,
but not before a tabulator. -/
def endsHeader : Option Char → Bool
  | some '\t' => false
  | next => endsWord next

/-- The rest of a line that may hold a comment, and what follows the line. -/
def skipRestOfLine (chars : List Char) : Option (List Char) :=
  let rest := chars.dropWhile (· = ' ')
  let rest := if rest.head? = some '#' then rest.dropWhile (!isBreak ·) else rest
  match rest with
  | [] => some []
  | c :: rest => if isBreak c then some rest else none

/-- Whether a list of characters begins with three copies of a character that form a word. -/
def beginsWithTriple (mark : Char) : List Char → Bool
  | a :: b :: c :: rest => a = mark && b = mark && c = mark && endsWord rest.head?
  | _ => false

/-- Whether a line begins with a marker between documents. -/
def beginsWithMarker (line : List Char) : Bool :=
  beginsWithTriple '-' line || beginsWithTriple '.' line

/-- A scalar without a line feed at its end. One that is nothing but a line feed is kept. What a
scalar looks like is judged without it. -/
def withoutLastBreak (s : List Char) : List Char :=
  if s.getLast? = some '\n' && s ≠ ['\n'] then s.dropLast else s

end PodLaunch.Yaml
