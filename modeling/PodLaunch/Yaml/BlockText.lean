import PodLaunch.Yaml.Character

/-!
# Block scalars

A block scalar consists of the lines below its header that are indented deep enough. Its lines are
kept as they are, or folded: then a single break between lines that do not begin with a blank
becomes a space. The header says how deep the lines are indented, unless the first line is to show
it, and what becomes of the breaks at the end.
-/

namespace PodLaunch.Yaml

/-- What becomes of the line breaks at the end of a block scalar. -/
inductive Chomping where
  /-- The first one is kept. -/
  | clip
  /-- None is kept. -/
  | strip
  /-- All are kept. -/
  | keep
  deriving DecidableEq, Repr

/-- The chomping for a sign. -/
def Chomping.ofSign? : Char → Option Chomping
  | '+' => some .keep
  | '-' => some .strip
  | _ => none

/-- The header of a block scalar. -/
structure BlockHeader where
  /-- The chomping. -/
  chomping : Chomping := .clip
  /-- How much deeper than the collection around them the lines are indented, if the header says so.
  -/
  increment : Option Nat := none
  deriving DecidableEq, Repr

namespace BlockHeader

/-- The digit behind an indicator, as an increment. Zero is none. -/
def increment? (c : Char) : Option Nat :=
  if c.isDigit && c ≠ '0' then some (c.toNat - '0'.toNat) else none

/-- The indicators of a header, and what follows them. -/
def indicators : List Char → BlockHeader × List Char
  | [] => ({}, [])
  | first :: rest =>
    match Chomping.ofSign? first, increment? first with
    | some chomping, _ =>
      match rest with
      | [] => (⟨chomping, none⟩, [])
      | second :: more =>
        match increment? second with
        | some increment => (⟨chomping, some increment⟩, more)
        | none => (⟨chomping, none⟩, rest)
    | none, some increment =>
      match rest with
      | [] => (⟨.clip, some increment⟩, [])
      | second :: more =>
        match Chomping.ofSign? second with
        | some chomping => (⟨chomping, some increment⟩, more)
        | none => (⟨.clip, some increment⟩, rest)
    | none, none => ({}, first :: rest)

/-- The header of a block scalar, and what follows its line. -/
def read (chars : List Char) : Option (BlockHeader × List Char) := do
  let (header, rest) := indicators chars
  if endsHeader rest.head? then
    let rest ← skipRestOfLine rest
    return (header, rest)
  else none

end BlockHeader

/-- Blanks and breaks in front of the first line of a block scalar. -/
structure Leading where
  /-- The breaks, the last one first. -/
  breaks : List Char := []
  /-- The column of the first break, if there is one. -/
  firstBreak : Option Nat := none
  /-- The deepest indentation. -/
  deepest : Nat := 0
  /-- The column behind all blanks. -/
  column : Nat := 0
  deriving Repr

/-- The blanks and breaks at the beginning of some characters, and what follows them. -/
def Leading.read (dialect : Dialect) (leading : Leading) : List Char → Leading × List Char
  | [] => (leading, [])
  | c :: rest =>
    if c = ' ' then
      let column := leading.column + 1
      Leading.read dialect { leading with column, deepest := max leading.deepest column } rest
    else if isBreak c then
      let firstBreak := some (leading.firstBreak.getD leading.column)
      let column := columnBehind dialect leading.column c
      Leading.read dialect
        { leading with breaks := breakValue c :: leading.breaks, firstBreak, column } rest
    else (leading, c :: rest)

/-- Whether lines after a first line of blanks are indented deeper than it. -/
def Leading.deepens (leading : Leading) : Bool :=
  match leading.firstBreak with
  | some column => 0 < column && column < leading.deepest
  | none => false

/-- How the lines of a block scalar are read. -/
structure BlockStyle where
  /-- Whether lines are folded. -/
  folded : Bool
  /-- The column at which lines begin. -/
  indent : Nat
  /-- Whether a marker between documents ends the scalar, since its lines are not indented. -/
  endsAtMarker : Bool
  deriving Repr

/-- What has been read of a block scalar. -/
structure BlockProgress where
  /-- The text up to the last line, the last character first. -/
  text : List Char := []
  /-- The break behind the last line. -/
  lineBreak : Option Char := none
  /-- Whether there is a last line, and whether it begins with a blank. -/
  startsBlank : Option Bool := none
  /-- Further breaks, the last one first. -/
  breaks : List Char := []
  deriving Repr

namespace BlockProgress

/-- The text with everything that separates its last line from a line that begins with a
character. -/
def join (progress : BlockProgress) (folded : Bool) (c : Char) : List Char :=
  let blank := c = ' ' || c = '\t'
  match progress.startsBlank with
  | none => progress.breaks ++ progress.text
  | some startsBlank =>
    if folded && progress.lineBreak = some '\n' && !startsBlank && !blank then
      if progress.breaks.isEmpty then ' ' :: progress.text else progress.breaks ++ progress.text
    else progress.breaks ++ progress.lineBreak.toList ++ progress.text

/-- The text with the breaks at its end that remain. -/
def finish (progress : BlockProgress) (chomping : Chomping) : List Char :=
  match chomping with
  | .strip => progress.text.reverse
  | .clip => (progress.lineBreak.toList ++ progress.text).reverse
  | .keep => (progress.breaks ++ progress.lineBreak.toList ++ progress.text).reverse

/-- Read on at a column, within a line or in front of one. Gives what has been read, and what
follows it. -/
def read (dialect : Dialect) (style : BlockStyle) (progress : BlockProgress) (inLine : Bool)
    (column : Nat) : List Char → BlockProgress × List Char
  | [] => (progress, [])
  | c :: rest =>
    let behind := columnBehind dialect column c
    if inLine then
      if isBreak c then
        read dialect style { progress with lineBreak := some (breakValue c), breaks := [] } false
          behind rest
      else read dialect style { progress with text := c :: progress.text } true behind rest
    else if c = ' ' && column < style.indent then
      read dialect style progress false behind rest
    else if isBreak c then
      read dialect style { progress with breaks := breakValue c :: progress.breaks } false behind
        rest
    else if column ≠ style.indent ||
        (style.endsAtMarker && column = 0 && progress.startsBlank.isSome &&
          beginsWithMarker (c :: rest)) then
      (progress, c :: rest)
    else
      read dialect style
        ⟨c :: progress.join style.folded c, none, some (c = ' ' || c = '\t'), []⟩ true behind rest

end BlockProgress

/-- The block scalar behind its introducing character, from a column on, and what follows it. Its
lines are indented at least to the column `least`; profiles do not let them begin at the margin. -/
def blockText (dialect : Dialect) (folded : Bool) (least column : Nat) (chars : List Char) :
    Option (List Char × List Char) := do
  let (header, rest) ← BlockHeader.read chars
  let passed := chars.take (chars.length - rest.length)
  let column := passed.foldl (columnBehind dialect) column
  match header.increment with
  | some increment =>
    let style : BlockStyle := ⟨folded, max least 1 + increment - 1, false⟩
    let (progress, rest) := BlockProgress.read dialect style {} false column rest
    return (progress.finish header.chomping, rest)
  | none =>
    let least := if dialect.isProfile then max least 1 else least
    let (leading, rest) := Leading.read dialect { column } rest
    if leading.deepens && !dialect.isProfile then none
    else
      let style : BlockStyle := ⟨folded, max least leading.deepest, least = 0⟩
      let (progress, rest) :=
        BlockProgress.read dialect style { breaks := leading.breaks } false leading.column rest
      return (progress.finish header.chomping, rest)

end PodLaunch.Yaml
