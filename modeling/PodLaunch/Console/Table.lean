import PodLaunch.Console.Markup
import PodLaunch.Number.Quotient

/-!
# Tables

A column of a table is as wide as the widest line of its cells, unless the table is wider than the
console; then the widest columns give way. The title is wrapped to the width of the table.
-/

namespace PodLaunch.Console

open Text Number

/-- A table. Its title and its cells may have markup. -/
structure Table where
  /-- The title above the table. -/
  title : String
  /-- The headings of the columns. -/
  headings : List String
  /-- The rows, with a cell for each column. -/
  rows : List (List String)
  deriving DecidableEq, Repr

/-- A line on the console. -/
inductive OutputLine where
  /-- A line of text. -/
  | text (text : String)
  /-- A line of a table, with the texts of its cells. -/
  | cells (cells : List String)
  deriving DecidableEq, Repr

/-- A line as one text: a bar stands between the cells of a table. -/
def OutputLine.line : OutputLine → String
  | .text s => s
  | .cells row => joinTexts " | " row

/-- The lines of a text on a console of a width. -/
def foldedLines (width : Nat) (s : List Char) : List OutputLine :=
  ((plainLines s).flatMap (wrap .fold width)).map fun line => .text (String.ofList line)

namespace Table

/-- Whether a line of a cell is taken to end with a character when its width is measured. -/
def endsMeasuredLine (c : Char) : Bool :=
  c = '\n' || ('\x1c' ≤ c && c ≤ '\x1e') || c = '\x85' || c = '\u2028' || c = '\u2029'

/-- The number of columns that the widest line of a cell takes. -/
def cellWidth (cell : List Char) : Nat :=
  let lines := splitOnChar '\n' (cell.map fun c => if endsMeasuredLine c then '\n' else c)
  (lines.map columns).foldl max 0

/-- The lines of a cell in a column of a width. -/
def cellLines (width : Nat) (cell : List Char) : List (List Char) :=
  (plainLines cell).flatMap (wrap .omit width)

/-- The cells of a table, column by column, without the headings. -/
def columns (table : Table) : Except MarkupError (List (List StyledText)) :=
  (List.range table.headings.length).mapM fun index =>
    table.rows.mapM fun row => render (row.getD index "").toList

/-- The width that some cells of a column ask for. -/
def askedWidth (cells : List (List Char)) : Nat :=
  (cells.map cellWidth).foldl max 0

/-- The lines of a row: the first lines of its cells, then the second ones, and so on. -/
def rowLines (widths : List Nat) (row : List (List Char)) : List OutputLine :=
  let cells := (widths.zip row).map fun (width, cell) => cellLines width cell
  let height := (cells.map List.length).foldl max 1
  (List.range height).map fun index =>
    .cells (cells.map fun cell => String.ofList (trim (cell.getD index [])))

/-! ## Widths -/

/-- The sum of some widths. -/
def total (widths : List Nat) : Nat :=
  widths.foldr (· + ·) 0

/-- The columns that a table of a number of columns takes beside their widths: two for the padding
of each one, and the borders. -/
def frame (count : Nat) : Nat :=
  3 * count + 1

/-- Take an excess from the widest columns, in equal parts as far as possible. No part goes beyond a
limit. Given is the number of the widest columns that follow. -/
def reduceWidest (widest limit : Nat) (count excess : Nat) : List Nat → List Nat
  | [] => []
  | width :: rest =>
    if width = widest then
      let part := min limit (roundQuotient excess count)
      (width - part) :: reduceWidest widest limit (count - 1) (excess - part) rest
    else width :: reduceWidest widest limit count excess rest

/-- Reduce widths until they fit into some room: the widest ones down to the next smaller one, and
so on. The second argument bounds the number of steps; each one takes away something. -/
def reduceTo (room : Nat) : Nat → List Nat → List Nat
  | 0, widths => widths
  | steps + 1, widths =>
    let excess := total widths - room
    if excess = 0 then widths
    else
      let widest := widths.foldl max 0
      let next := (widths.filter (· ≠ widest)).foldl max 0
      let count := (widths.filter (· = widest)).length
      reduceTo room steps (reduceWidest widest (min excess (widest - next)) count excess widths)

/-- The widths of columns that ask for some widths, on a console of a width. The padding of a column
counts when the widths are reduced. -/
def fittedWidths (consoleWidth : Nat) (asked : List Nat) : List Nat :=
  let room := consoleWidth - (asked.length + 1)
  let widths := asked.map fun width => min (width + 2) room
  (reduceTo room (total widths - room) widths).map (· - 2)

/-! ## Lines -/

/-- The lines of a table on a console of a width. The cells are rendered first, to find the widths
of the columns. -/
def lines (consoleWidth : Nat) (table : Table) : Except MarkupError (List OutputLine) := do
  let columns ← table.columns
  let title ← render table.title.toList
  title.check
  columns.forM (·.forM StyledText.check)
  let cells := (table.headings.zip columns).map fun (heading, column) =>
    heading.toList :: column.map StyledText.chars
  let widths := fittedWidths consoleWidth (cells.map askedWidth)
  let rows := (List.range (table.rows.length + 1)).map fun index =>
    cells.map fun column => column.getD index []
  return foldedLines (total widths + frame widths.length) title.chars ++
    rows.flatMap (rowLines widths)

end Table

end PodLaunch.Console
