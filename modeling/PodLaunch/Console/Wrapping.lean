import PodLaunch.Text.Blank
import PodLaunch.Text.Columns
import PodLaunch.Text.Lines

/-!
# Lines of a width

On the console, control characters are dropped, tabulators lead to the next multiple of eight
columns, and lines are wrapped between words. A word that is wider than a line is cut into pieces,
or, within a table, its end is left out.
-/

namespace PodLaunch.Console

open Text

/-- Whether a character moves the cursor or rings a bell, and is therefore dropped. -/
def isDropped (c : Char) : Bool :=
  c = '\x07' || c = '\x08' || c = '\x0b' || c = '\x0c' || c = '\r'

/-- A text without the characters that are dropped. -/
def withoutDropped (s : List Char) : List Char :=
  s.filter (!isDropped ·)

/-- The number of columns between two places to which tabulators lead. -/
def tabWidth : Nat := 8

/-- A line with its tabulators replaced by spaces, from a column on, behind some characters that
have not been counted yet (last one first). A tabulator takes one column at least. -/
def expandTabs (column : Nat) (before : List Char) : List Char → List Char
  | [] => before.reverse
  | c :: rest =>
    if c = '\t' then
      let part := (' ' :: before).reverse
      let reached := column + columns part
      let added := (tabWidth - reached % tabWidth) % tabWidth
      part ++ List.replicate added ' ' ++ expandTabs (reached + added) [] rest
    else expandTabs column (c :: before) rest

/-- The lines of a text, with tabulators replaced. -/
def plainLines (s : List Char) : List (List Char) :=
  (splitOnChar '\n' s).map (expandTabs 0 [])

/-- The words of a line, each with the blanks behind it; the first one also with those before it.
Given are the characters of the current word, last one first, and whether it has ended. -/
def wordsFrom (word : List Char) (ended : Bool) : List Char → List (List Char)
  | [] => if word.any (!isBlank ·) then [word.reverse] else []
  | c :: rest =>
    if isBlank c then wordsFrom (c :: word) (word.any (!isBlank ·)) rest
    else if ended then word.reverse :: wordsFrom [c] false rest
    else wordsFrom (c :: word) false rest

/-- The words of a line. -/
def words (line : List Char) : List (List Char) :=
  wordsFrom [] false line

/-- Signs cut into pieces that are no wider than a width, behind a piece (last sign first) that
takes some columns. -/
def chop (width : Nat) (piece : List Sign) (taken : Nat) : List Sign → List (List Char)
  | [] => [textOfSigns piece.reverse]
  | sign :: rest =>
    if width < taken + sign.width then
      textOfSigns piece.reverse :: chop width [sign] sign.width rest
    else chop width (sign :: piece) (taken + sign.width) rest

/-- What happens to what is too wide. -/
inductive Overflow where
  /-- It is cut into pieces. -/
  | fold
  /-- Its end is left out. -/
  | omit
  deriving DecidableEq, Repr

/-- Put words on lines that are no wider than a width, behind the words on the current line, which
take some columns. -/
def wrapWords (overflow : Overflow) (width : Nat) (line : List Char) (taken : Nat) :
    List (List Char) → List (List Char)
  | [] => [line]
  | word :: rest =>
    let needed := columns (trimRight word)
    let before := if line.isEmpty then [] else [line]
    if taken + needed ≤ width then
      wrapWords overflow width (line ++ word) (taken + columns word) rest
    else if needed ≤ width || overflow = .omit then
      before ++ wrapWords overflow width word (columns word) rest
    else
      let pieces := chop width [] 0 (signs word)
      let last := pieces.getLast?.getD []
      before ++ pieces.dropLast ++ wrapWords overflow width last (columns last) rest

/-- Signs up to a width. A sign that would go beyond it leaves a space. -/
def takeSigns (width : Nat) : List Sign → List Char
  | [] => []
  | sign :: rest =>
    if width = 0 then []
    else if width < sign.width then [' ']
    else sign.chars.reverse ++ takeSigns (width - sign.width) rest

/-- A line without as many of the blanks at its end as it has characters beyond a width. -/
def dropExcessBlanks (width : Nat) (line : List Char) : List Char :=
  let blanks := line.length - (trimRight line).length
  line.take (line.length - min blanks (line.length - width))

/-- A line whose end is left out if it is wider than a width, with a mark in its place. -/
def shorten (width : Nat) (line : List Char) : List Char :=
  let line := dropExcessBlanks width line
  if columns line ≤ width then line else takeSigns (width - 1) (signs line) ++ ['…']

/-- A line wrapped to a width. -/
def wrap (overflow : Overflow) (width : Nat) (line : List Char) : List (List Char) :=
  let lines :=
    match words line with
    | [] => [line]
    | words => wrapWords overflow width [] 0 words
  match overflow with
  | .fold => lines
  | .omit => lines.map (shorten width)

end PodLaunch.Console
