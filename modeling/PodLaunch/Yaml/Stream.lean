import PodLaunch.Yaml.Denotation
import PodLaunch.Yaml.Layout
import PodLaunch.Yaml.Nesting

/-!
# Documents in a text

A manifest holds any number of documents, a profile at most one. Markers separate documents, and
directives stand in front of one. Every document is understood before the next one is read, so that
the first defect counts.
-/

namespace PodLaunch.Yaml

open Text

/-- What the directives in front of a document say. -/
structure Preamble where
  /-- The edition that they ask for. -/
  edition : Option Edition := none
  /-- What the handles of tags stand for, the defaults apart. -/
  handles : Handles := []
  deriving Repr

/-- Take a directive into account. The edition and a handle must not be set twice, and the major
number of the edition is one. -/
def Preamble.add (preamble : Preamble) : Directive → Except Defect Preamble
  | .version edition =>
    if preamble.edition.isSome || edition.major ≠ 1 then .error .malformed
    else .ok { preamble with edition := some edition }
  | .handle handle expansion =>
    if preamble.handles.any fun entry => entry.1 == handle then .error .malformed
    else .ok { preamble with handles := (handle, expansion) :: preamble.handles }
  | .reserved => .ok preamble

/-- The defect of asking for an edition that does not exist. Profiles take no notice of it. -/
def Preamble.checkEdition (preamble : Preamble) (dialect : Dialect) : Except Defect Unit :=
  match preamble.edition with
  | some edition =>
    if dialect.isProfile || edition.isKnown then .ok ()
    else .error (.unsupportedEdition edition)
  | none => .ok ()

/-- The first of some tokens. Where it cannot be read, its cause is reported. -/
def headLexeme (lexemes : List Lexeme) : Except Defect Lexeme :=
  Reading.next { lexemes }

/-- The directives at the beginning of some tokens, and what follows them. -/
def readPreamble (preamble : Preamble) : List Lexeme → Except Defect (Preamble × List Lexeme)
  | [] => .error .malformed
  | lexeme :: rest =>
    match lexeme.token with
    | .directive directive => do readPreamble (← preamble.add directive) rest
    | .defect cause => .error cause
    | _ => .ok (preamble, lexeme :: rest)

/-- A document that has been read, and what remains. -/
structure Section where
  /-- The root node. -/
  root : Node
  /-- The lists and mappings of the document. -/
  collections : Collections
  /-- The dialect that is followed once the end of the document is known. -/
  dialect : Dialect
  /-- Whether the next document may begin without a marker. -/
  endsMarked : Bool
  /-- The tokens behind the document. -/
  rest : List Lexeme
  deriving Repr

/-- Whether a document has no content before a token. -/
def endsDocument : Token → Bool
  | .directive _ | .documentStart | .documentEnd | .textEnd => true
  | _ => false

/-- A document from its content on. In a manifest, nothing else stands on the line of the marker at
its end, and after the first edition, the next document may then begin without a marker. -/
def readSection (handles : Handles) (mayBeEmpty : Bool) (lexemes : List Lexeme) :
    Except Defect Section := do
  let (root, reading) ←
    if mayBeEmpty && endsDocument (← headLexeme lexemes).token then Reading.missing { lexemes }
    else readRoot handles lexemes
  let behind ← reading.next
  let rest := reading.skip.lexemes
  if behind.token ≠ .documentEnd then
    return ⟨root, reading.collections, behind.dialect, false, reading.lexemes⟩
  else if behind.dialect.isProfile then
    return ⟨root, reading.collections, behind.dialect, false, rest⟩
  else
    let after ← headLexeme rest
    if after.token ≠ .textEnd && after.line = behind.line then throw .malformed
    return ⟨root, reading.collections, after.dialect, !after.dialect.isFirst, rest⟩

/-- Whether a document begins without a marker before a token. -/
def beginsUnmarked : Token → Bool
  | .directive _ | .documentStart | .textEnd => false
  | _ => true

/-- The tokens behind markers at the end of documents. -/
def skipEnds (lexemes : List Lexeme) : List Lexeme :=
  lexemes.dropWhile fun lexeme => lexeme.token = .documentEnd

/-- The next document, if the text does not end before. -/
def nextSection (unmarked : Bool) (lexemes : List Lexeme) : Except Defect (Option Section) := do
  if unmarked && beginsUnmarked (← headLexeme lexemes).token then
    return some (← readSection defaultHandles false lexemes)
  let lexemes := skipEnds lexemes
  let first ← headLexeme lexemes
  if first.token = .textEnd then return none
  let (preamble, lexemes) ← readPreamble {} lexemes
  preamble.checkEdition first.dialect
  if (← headLexeme lexemes).token ≠ .documentStart then throw .malformed
  return some (← readSection (preamble.handles ++ defaultHandles) true (lexemes.drop 1))

/-- The document that a section denotes. -/
def Section.denote (found : Section) : Except Defect Document :=
  found.root.denote found.dialect found.collections

/-- The documents that remain. Each one takes at least one token, so that their number is bounded by
the first argument. -/
def documentsFrom : Nat → Bool → List Lexeme → Except Defect (List Document)
  | 0, _, _ => .error .malformed
  | count + 1, unmarked, lexemes => do
    match ← nextSection unmarked lexemes with
    | none => return []
    | some found =>
      let document ← found.denote
      let documents ← documentsFrom count found.endsMarked found.rest
      return document :: documents

/-! ## Whole texts -/

/-- The number of characters that are taken from a file together; at its beginning, it is twice as
many. -/
def portionLength : Nat := 4096

/-- The number of characters in front of the portion that holds the character at an index. -/
def portionStart (index : Nat) : Nat :=
  if index < 2 * portionLength then 0 else index / portionLength * portionLength

/-- Why a text cannot be read to its end, with the number of characters in front of the portion that
cannot be read: its bytes form no characters, or a character may not occur. -/
def barrierOf (text : Decoded) : Option (Nat × Defect) :=
  let readable := text.chars.takeWhile isReadable
  let misplaced :=
    if readable.length < text.chars.length then
      some (portionStart readable.length, Defect.malformed)
    else none
  match text.error, misplaced with
  | some error, some (start, cause) =>
    if portionStart text.chars.length ≤ start then
      some (portionStart text.chars.length, .notUnicode error)
    else some (start, cause)
  | some error, none => some (portionStart text.chars.length, .notUnicode error)
  | none, misplaced => misplaced

/-- The tokens of a text that has come out of a file. If its first portion cannot be read, no token
can. -/
def tokensOf (dialect : Dialect) (text : Decoded) : List Lexeme :=
  match barrierOf text with
  | some (start, cause) => lexemes dialect (text.chars.take start) (some cause)
  | none => lexemes dialect text.chars none

/-- The documents in the text of a manifest, with room for so many lists and mappings within each
other. -/
def manifestDocuments (room : Nat) (text : Decoded) : Except Defect (List Document) :=
  let lexemes := withinRoom room (tokensOf (.manifest .second) text)
  documentsFrom (lexemes.length + 1) true lexemes

/-- What follows the only document of a text: its end, perhaps behind a marker. -/
def checkOnly (found : Section) : Except Defect Unit := do
  let lexemes := skipEnds found.rest
  if (← headLexeme lexemes).token = .textEnd then return ()
  else
    let _ ← readPreamble {} lexemes
    throw .malformed

/-- The document in the text of a profile, with room for so many lists and mappings within each
other. An empty text holds the absent value. -/
def profileDocument (room : Nat) (text : Decoded) : Except Defect Document := do
  match ← nextSection true (withinRoom room (tokensOf .profile text)) with
  | none => return .null
  | some found =>
    checkOnly found
    found.denote

end PodLaunch.Yaml
