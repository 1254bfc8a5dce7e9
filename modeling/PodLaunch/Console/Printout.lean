import PodLaunch.Console.Table

/-!
# Printouts

A command prints texts with or without markup, and tables. If a printout has faulty markup, nothing
of it is shown.
-/

namespace PodLaunch.Console

open Text

/-- Something that is printed. -/
inductive Printout where
  /-- A text with markup. -/
  | marked (markup : String)
  /-- A text without markup. -/
  | literal (text : String)
  /-- A text that goes out as it is. -/
  | verbatim (text : String)
  /-- A table. -/
  | table (table : Table)
  deriving DecidableEq, Repr

/-! ## Showing printouts -/

/-- The number of columns of the console. -/
def consoleWidth : Nat := 5000

/-- The lines of a text on the console. -/
def textLines (s : List Char) : List OutputLine :=
  foldedLines consoleWidth s

/-- The lines of a text that goes out as it is. -/
def rawLines (s : List Char) : List OutputLine :=
  (splitOnChar '\n' s).map fun line => .text (String.ofList line)

/-- The lines of a printout. -/
def Printout.lines : Printout → Except MarkupError (List OutputLine)
  | .marked markup => do
    let text ← render markup.toList
    text.check
    return textLines text.chars
  | .literal text => .ok (textLines (withoutDropped (replaceEmoji text.toList)))
  | .verbatim text => .ok (rawLines text.toList)
  | .table grid => grid.lines consoleWidth

/-- The lines of printouts, up to the first one with faulty markup. -/
def showAll : List Printout → List OutputLine × Option MarkupError
  | [] => ([], none)
  | printout :: rest =>
    match printout.lines with
    | .error error => ([], some error)
    | .ok lines =>
      let (more, error) := showAll rest
      (lines ++ more, error)

end PodLaunch.Console
