import PodLaunch.Yaml.BlockText
import PodLaunch.Yaml.Quoted
import PodLaunch.Yaml.Token

/-!
# From characters to tokens

The characters of a text are read once, from the left. Three things have to be remembered beside the
place: the columns at which the open block collections begin, the open flow collections, and, for
each level of flow collections, the token that turns out to be a key if a colon follows it on the
same line. Until that is settled, the tokens from the first such one on are pending.
-/

namespace PodLaunch.Yaml

/-- A place in a text. -/
structure Place where
  /-- The number of characters before it. -/
  offset : Nat := 0
  /-- The number of lines before it. -/
  line : Nat := 0
  /-- The number of characters before it in its line. -/
  column : Nat := 0
  deriving DecidableEq, Repr

/-- The place behind a character. -/
def Place.step (dialect : Dialect) (place : Place) (c : Char) : Place :=
  ⟨place.offset + 1, if restartsColumns dialect c then place.line + 1 else place.line,
    columnBehind dialect place.column c⟩

/-- A token that turns out to be a key if a colon follows it. -/
structure PossibleKey where
  /-- How many tokens are before it. -/
  index : Nat
  /-- Whether the token has to be a key, since it begins a line of a block mapping. -/
  required : Bool
  /-- Where it begins. -/
  place : Place
  deriving Repr

/-- The kinds of collections that are written in one piece. -/
inductive FlowKind where
  /-- A list in brackets. -/
  | list
  /-- A mapping in braces. -/
  | mapping
  deriving DecidableEq, Repr

/-- An open flow collection. -/
structure FlowLevel where
  /-- Its kind. -/
  kind : FlowKind
  /-- The possible key around it. -/
  outerKey : Option PossibleKey
  deriving Repr

/-- What has been read of a text. -/
structure Layout where
  /-- The dialect that is followed from here on. -/
  dialect : Dialect
  /-- What remains of the text. -/
  rest : List Char
  /-- Why nothing can be read behind what remains, if that is not the end of the text. -/
  barrier : Option Defect := none
  /-- The place that has been reached. -/
  place : Place := {}
  /-- The number of tokens that are settled. -/
  settled : Nat := 0
  /-- The tokens that are pending, the last one first. -/
  pending : List Lexeme := []
  /-- The columns of the open block collections, the innermost one first. -/
  indents : List Nat := []
  /-- The open flow collections, the innermost one first. -/
  flows : List FlowLevel := []
  /-- Whether a key that is not marked as such may begin here. -/
  keyAllowed : Bool := true
  /-- The possible key at the innermost level. -/
  key : Option PossibleKey := none
  deriving Repr

namespace Layout

/-! ## Small steps -/

/-- Whether the place is within a flow collection. -/
def inFlow (layout : Layout) : Bool :=
  !layout.flows.isEmpty

/-- The number of tokens so far. -/
def count (layout : Layout) : Nat :=
  layout.settled + layout.pending.length

/-- A token that begins on a line. -/
def lexeme (layout : Layout) (line : Nat) (token : Token) : Lexeme :=
  ⟨token, line, layout.dialect⟩

/-- Add a token that begins here. -/
def emit (layout : Layout) (token : Token) : Layout :=
  { layout with pending := layout.lexeme layout.place.line token :: layout.pending }

/-- Go on to a remainder of the text. -/
def advanceTo (layout : Layout) (rest : List Char) : Layout :=
  let passed := layout.rest.take (layout.rest.length - rest.length)
  { layout with rest, place := passed.foldl (Place.step layout.dialect) layout.place }

/-- The column from which lines belong to the innermost block collection. -/
def innerColumn (layout : Layout) : Nat :=
  match layout.indents with
  | [] => 0
  | column :: _ => column + 1

/-- Close the innermost block collections, a number of them. -/
def closeBlocks (layout : Layout) : Nat → Layout
  | 0 => layout
  | number + 1 =>
    closeBlocks ({ layout with indents := layout.indents.drop 1 }.emit .blockEnd) number

/-- Close the block collections that begin to the right of a column, or all of them. Within flow
collections indentation has no meaning. -/
def closeDeeper (layout : Layout) (column : Option Nat) : Layout :=
  if layout.inFlow then layout
  else
    let deeper := layout.indents.takeWhile fun indent =>
      match column with
      | some column => column < indent
      | none => true
    layout.closeBlocks deeper.length

/-- Open a block collection at a column, unless there is one. -/
def openAt (layout : Layout) (column : Nat) : Option Layout :=
  if layout.innerColumn ≤ column then some { layout with indents := column :: layout.indents }
  else none

/-- Open a block collection here, unless there is one. -/
def openHere (layout : Layout) (token : Token) : Layout :=
  match layout.openAt layout.place.column with
  | some opened => opened.emit token
  | none => layout

/-- Forget the possible key of the innermost level. One that has to be a key must not be forgotten.
-/
def forgetKey (layout : Layout) : Except Defect Layout :=
  match layout.key with
  | some ⟨_, true, _⟩ => .error .malformed
  | _ => .ok { layout with key := none }

/-- The token that begins here is a possible key, if one is allowed. -/
def notePossibleKey (layout : Layout) : Except Defect Layout :=
  if layout.keyAllowed then do
    let required := !layout.inFlow && layout.indents.head? = some layout.place.column
    let layout ← layout.forgetKey
    return { layout with key := some ⟨layout.count, required, layout.place⟩ }
  else .ok layout

/-- Whether a possible key is too far away by now: on another line, or more than 1024 characters. -/
def isStale (layout : Layout) (key : PossibleKey) : Bool :=
  key.place.line ≠ layout.place.line || key.place.offset + 1024 < layout.place.offset

/-- A possible key, unless it is stale. One that has to be a key must not become stale. -/
def freshKey (layout : Layout) : Option PossibleKey → Except Defect (Option PossibleKey)
  | some key =>
    if !layout.isStale key then .ok (some key)
    else if key.required then .error .malformed
    else .ok none
  | none => .ok none

/-- Forget the stale possible keys of all levels. -/
def forgetStaleKeys (layout : Layout) : Except Defect Layout := do
  let key ← layout.freshKey layout.key
  let flows ← layout.flows.mapM fun level => do
    let outerKey ← layout.freshKey level.outerKey
    return { level with outerKey }
  return { layout with key, flows }

/-- The first of the possible keys of all levels. -/
def firstKey? (layout : Layout) : Option PossibleKey :=
  (layout.key :: layout.flows.map FlowLevel.outerKey).reverse.findSome? id

/-- Whether a line break has been passed, and what follows blanks, comments and line breaks. -/
def skipBlank (tabs comment broken : Bool) : List Char → Bool × List Char
  | [] => (broken, [])
  | c :: rest =>
    if isBreak c then skipBlank tabs false true rest
    else if comment then skipBlank tabs true broken rest
    else if c = ' ' || (tabs && c = '\t') then skipBlank tabs false broken rest
    else if c = '#' then skipBlank tabs true broken rest
    else (broken, c :: rest)

/-- Check that the barrier has not been reached. One character in front of it is looked at ahead. -/
def checkReach (layout : Layout) : Except Defect Unit :=
  match layout.barrier, layout.rest with
  | some cause, [] | some cause, [_] => .error cause
  | _, _ => .ok ()

/-- Go on to the next token: pass blanks, comments and line breaks, forget stale keys and close
block collections. After a line break a key may begin. -/
def toNextToken (layout : Layout) : Except Defect Layout := do
  let tabs := layout.inFlow && !layout.dialect.isProfile
  let (broken, rest) := skipBlank tabs false false layout.rest
  let layout := layout.advanceTo rest
  layout.checkReach
  let layout := { layout with keyAllowed := layout.keyAllowed || (broken && !layout.inFlow) }
  let layout ← layout.forgetStaleKeys
  return layout.closeDeeper (some layout.place.column)

/-! ## Reading one token -/

/-- A directive or a marker between documents: everything open is closed. -/
def endDocument (layout : Layout) : Except Defect Layout := do
  let layout ← (layout.closeDeeper none).forgetKey
  return { layout with keyAllowed := false }

/-- Read a directive. -/
def readDirective (layout : Layout) (chars : List Char) : Except Defect Layout := do
  let layout ← layout.endDocument
  let (directive, rest) ← directive layout.dialect chars
  let dialect :=
    match directive with
    | .version edition => layout.dialect.withEdition edition
    | _ => layout.dialect
  return ({ layout with dialect }.emit (.directive directive)).advanceTo rest

/-- Read the three characters of a marker between documents. -/
def readMarker (layout : Layout) (token : Token) : Except Defect Layout := do
  let layout ← layout.endDocument
  return (layout.emit token).advanceTo (layout.rest.drop 3)

/-- Read the bracket or brace at the beginning of a flow collection. -/
def openFlow (layout : Layout) (kind : FlowKind) (token : Token) (rest : List Char) :
    Except Defect Layout := do
  let layout ← layout.notePossibleKey
  return ({ layout with
    flows := ⟨kind, layout.key⟩ :: layout.flows, key := none, keyAllowed := true }.emit
      token).advanceTo rest

/-- Read the bracket or brace at the end of a flow collection. Where none is open, it is up to the
reader of the tokens to object. -/
def closeFlow (layout : Layout) (token : Token) (rest : List Char) : Except Defect Layout := do
  let layout ← layout.forgetKey
  let key := layout.flows.head?.bind FlowLevel.outerKey
  return ({ layout with flows := layout.flows.drop 1, key, keyAllowed := false }.emit
    token).advanceTo rest

/-- Read a comma between entries. -/
def readComma (layout : Layout) (rest : List Char) : Except Defect Layout := do
  let layout ← layout.forgetKey
  return ({ layout with keyAllowed := true }.emit .comma).advanceTo rest

/-- Read a dash. -/
def readDash (layout : Layout) (rest : List Char) : Except Defect Layout := do
  if !layout.inFlow && !layout.keyAllowed then throw .malformed
  let layout := if layout.inFlow then layout else layout.openHere .blockListStart
  let layout ← layout.forgetKey
  return ({ layout with keyAllowed := true }.emit .dash).advanceTo rest

/-- Read the question mark in front of a key. -/
def readKeyMark (layout : Layout) (rest : List Char) : Except Defect Layout := do
  if !layout.inFlow && !layout.keyAllowed then throw .malformed
  let layout := if layout.inFlow then layout else layout.openHere .blockMappingStart
  let layout ← layout.forgetKey
  return ({ layout with keyAllowed := !layout.inFlow }.emit .key).advanceTo rest

/-- Insert tokens in front of the pending tokens from a possible key on. They begin where it does.
-/
def insertAt (layout : Layout) (key : PossibleKey) (tokens : List Token) : Layout :=
  let after := layout.count - key.index
  let inserted := tokens.map (layout.lexeme key.place.line)
  { layout with
    pending := layout.pending.take after ++ inserted.reverse ++ layout.pending.drop after }

/-- Read a colon behind a possible key. -/
def readColonAfter (layout : Layout) (key : PossibleKey) (rest : List Char) : Layout :=
  let layout := { layout with key := none, keyAllowed := false }
  let opened := if layout.inFlow then none else layout.openAt key.place.column
  let layout :=
    match opened with
    | some opened => opened.insertAt key [.blockMappingStart, .key]
    | none => layout.insertAt key [.key]
  (layout.emit .value).advanceTo rest

/-- Read a colon in front of a value. -/
def readColon (layout : Layout) (rest : List Char) : Except Defect Layout :=
  match layout.key with
  | some key => .ok (layout.readColonAfter key rest)
  | none =>
    if layout.inFlow then
      .ok (({ layout with keyAllowed := false }.emit .value).advanceTo rest)
    else if layout.keyAllowed then
      .ok (((layout.openHere .blockMappingStart).emit .value).advanceTo rest)
    else .error .malformed

/-- Read a token that may be a key, and go on to what follows it. -/
def readPossibleKey (layout : Layout) (read : Except Defect (Token × List Char)) :
    Except Defect Layout := do
  let layout ← layout.notePossibleKey
  let (token, rest) ← read
  return ({ layout with keyAllowed := false }.emit token).advanceTo rest

/-- Read a plain scalar. If its line ends with it, a key may follow. -/
def readPlain (layout : Layout) (c : Char) (rest : List Char) : Except Defect Layout := do
  let layout ← layout.notePossibleKey
  let scalar :=
    plain layout.dialect layout.inFlow layout.innerColumn layout.place.column c rest
  let token := Token.scalar true (String.ofList scalar.text)
  return ({ layout with keyAllowed := scalar.endsLine }.emit token).advanceTo scalar.rest

/-- Read a block scalar. -/
def readBlockText (layout : Layout) (folded : Bool) (chars : List Char) :
    Except Defect Layout := do
  let layout ← layout.forgetKey
  let column := layout.place.column + 1
  let (text, rest) ←
    orMalformed (blockText layout.dialect folded layout.innerColumn column chars)
  return ({ layout with keyAllowed := true }.emit (.scalar false (String.ofList text))).advanceTo
    rest

/-- Whether the last token is a value mark that is pending. -/
def endsInValue (layout : Layout) : Bool :=
  (layout.pending.head?.map Lexeme.token) = some .value

/-- Whether a colon introduces a value, given the character behind it. -/
def isValueColon (layout : Layout) (next : Option Char) : Bool :=
  match layout.flows with
  | [] => endsWord next
  | level :: _ =>
    if layout.dialect.isFirst then true
    else if level.kind = .list || layout.endsInValue then endsWord next
    else true

/-- A scalar between quotes as a token. -/
def scalarToken (scalar : List Char × List Char) : Token × List Char :=
  (.scalar false (String.ofList scalar.1), scalar.2)

/-- Read the token that begins with a character. -/
def readToken (layout : Layout) (c : Char) (rest : List Char) : Except Defect Layout :=
  let dialect := layout.dialect
  let atMargin := layout.place.column = 0
  let wordEnds := endsWord rest.head?
  let name := orMalformed (anchorName dialect rest)
  if atMargin && c = '%' then layout.readDirective rest
  else if atMargin && beginsWithTriple '-' (c :: rest) then layout.readMarker .documentStart
  else if atMargin && beginsWithTriple '.' (c :: rest) then layout.readMarker .documentEnd
  else if c = '[' then layout.openFlow .list .flowListStart rest
  else if c = '\x7b' then layout.openFlow .mapping .flowMappingStart rest
  else if c = ']' then layout.closeFlow .flowListEnd rest
  else if c = '\x7d' then layout.closeFlow .flowMappingEnd rest
  else if c = ',' then layout.readComma rest
  else if c = '-' && wordEnds then layout.readDash rest
  else if c = '?' && (layout.inFlow || wordEnds) then layout.readKeyMark rest
  else if c = ':' && layout.isValueColon rest.head? then layout.readColon rest
  else if c = '*' then
    layout.readPossibleKey (name.map fun (name, rest) => (.alias name, rest))
  else if c = '&' then
    layout.readPossibleKey (name.map fun (name, rest) => (.anchor name, rest))
  else if c = '!' then
    layout.readPossibleKey
      ((orMalformed (writtenTag dialect rest)).map fun (tag, rest) => (.tag tag, rest))
  else if c = '|' && !layout.inFlow then layout.readBlockText false rest
  else if c = '>' && !layout.inFlow then layout.readBlockText true rest
  else if c = '\'' then layout.readPossibleKey ((singleQuoted rest).map scalarToken)
  else if c = '"' then layout.readPossibleKey ((doubleQuoted rest).map scalarToken)
  else if beginsPlain dialect layout.inFlow c rest.head? then layout.readPlain c rest
  else .error .malformed

/-! ## Reading a whole text -/

/-- The pending tokens in order, settled under the dialect that is followed now. -/
def settledTokens (layout : Layout) : List Lexeme :=
  layout.pending.reverse.map fun lexeme => { lexeme with dialect := layout.dialect }

/-- Settle the tokens in front of the first possible key. -/
def settle (layout : Layout) : List Lexeme × Layout :=
  let number :=
    match layout.firstKey? with
    | some key => key.index - layout.settled
    | none => layout.pending.length
  (layout.settledTokens.take number,
    { layout with
      settled := layout.settled + number
      pending := layout.pending.take (layout.pending.length - number) })

/-- A place where no token can be read. What is pending has not been settled and is left out. -/
def atDefect (layout : Layout) (cause : Defect) : List Lexeme :=
  [layout.lexeme layout.place.line (.defect cause)]

/-- The last tokens, at the end of the text. -/
def finish (layout : Layout) : List Lexeme :=
  match layout.endDocument with
  | .ok layout => (layout.emit .textEnd).settledTokens
  | .error cause => layout.atDefect cause

/-- Whether a character is a quote that is not followed by another one. -/
def isUnclosedQuote (c : Char) (rest : List Char) : Bool :=
  (c = '\'' || c = '"') && !rest.contains c

/-- Read the token that begins with a character, and go on as far as it settles other ones. A text
between quotes that goes beyond the barrier is stopped by it. -/
def readSettled (layout : Layout) (c : Char) (rest : List Char) : Except Defect Layout := do
  if isUnclosedQuote c rest then layout.barrier.forM throw
  let layout ← layout.readToken c rest
  layout.checkReach
  layout.forgetStaleKeys

/-- All tokens of the text from here on. -/
def run (layout : Layout) : List Lexeme :=
  match layout.toNextToken with
  | .error cause => layout.atDefect cause
  | .ok next =>
    match next.rest with
    | [] => next.finish
    | c :: rest =>
      match next.readSettled c rest with
      | .error cause => next.atDefect cause
      | .ok read =>
        if read.settle.2.rest.length < layout.rest.length then
          read.settle.1 ++ run read.settle.2
        else next.atDefect .malformed
termination_by layout.rest.length

end Layout

/-- The tokens of a text, up to a barrier if there is one. A byte order mark at its beginning is
passed. -/
def lexemes (dialect : Dialect) (text : List Char) (barrier : Option Defect) : List Lexeme :=
  let layout : Layout := { dialect, rest := text, barrier }
  match text with
  | '\ufeff' :: rest => (layout.advanceTo rest).run
  | _ => layout.run

end PodLaunch.Yaml
