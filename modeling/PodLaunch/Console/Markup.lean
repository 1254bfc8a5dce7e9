import PodLaunch.Console.Emoji
import PodLaunch.Console.Literal
import PodLaunch.Console.Style
import PodLaunch.Console.Wrapping

/-!
# Markup

A text for the console may hold tags in square brackets, such as `[red]` and `[/red]`, which set its
style and are not shown. A tag begins with a lower-case letter, a hash, a slash or an at sign; a
backslash in front of it makes it ordinary text. A closing tag has to match an open one. A tag that
begins with an at sign names a handler, whose parameters have to be a literal once it is closed.
-/

namespace PodLaunch.Console

open Text

/-! ## Pieces -/

/-- A piece of a text with markup. -/
inductive Piece where
  /-- Characters that are shown. -/
  | text (chars : List Char)
  /-- A tag, without its brackets. -/
  | tag (content : List Char)
  deriving DecidableEq, Repr

/-- Whether a tag may begin with a character. -/
def beginsTag (c : Char) : Bool :=
  ('a' ≤ c && c ≤ 'z') || c = '#' || c = '/' || c = '@'

/-- The content of the tag whose opening bracket stands in front of some characters. -/
def tagContent? : List Char → Option (List Char)
  | [] => none
  | first :: rest =>
    if beginsTag first then
      let content := rest.takeWhile fun c => c ≠ '[' && c ≠ ']'
      if (rest.drop content.length).head? = some ']' then some (first :: content) else none
    else none

/-- The piece of some characters, last one first, if there are any. -/
def textPiece (chars : List Char) : List Piece :=
  if chars.isEmpty then [] else [.text chars.reverse]

/-- The pieces that end with a tag, given the characters in front of it, last one first. Of the
backslashes directly in front of the tag, every second one is shown; with one more it is ordinary
text. -/
def piecesUpTo (before content : List Char) : List Piece :=
  let backslashes := before.takeWhile (· = '\\')
  let count := backslashes.length
  textPiece (before.drop count) ++ textPiece (backslashes.take (count / 2)) ++
    [if count % 2 = 1 then .text ('[' :: content ++ [']']) else .tag content]

/-- The pieces of a text behind some characters that are shown (last one first). A number of
characters in front belong to a tag and have been accounted for. A backslash in front of a bracket
that opens no tag is not shown. -/
def piecesFrom (inTag : Nat) (before : List Char) : List Char → List Piece
  | [] => textPiece before
  | c :: rest =>
    match inTag with
    | inTag + 1 => piecesFrom inTag before rest
    | 0 =>
      if c = '[' then
        match tagContent? rest with
        | some content => piecesUpTo before content ++ piecesFrom (content.length + 1) [] rest
        | none =>
          let before := if before.head? = some '\\' then before.drop 1 else before
          piecesFrom 0 (c :: before) rest
      else piecesFrom 0 (c :: before) rest

/-- The pieces of a text with markup. -/
def pieces (markup : List Char) : List Piece :=
  piecesFrom 0 [] markup

/-! ## Tags -/

/-- What is wrong with markup. -/
inductive MarkupError where
  /-- A closing tag matches no open one. -/
  | unopened (content : String)
  /-- The parameters of a handler are no literal. -/
  | noLiteral (parameters : String)
  /-- A color is written with something that is no number. -/
  | noNumber (numeral : String)
  deriving DecidableEq, Repr

/-- What is wrong with markup, as a sentence. -/
def MarkupError.message : MarkupError → String
  | .unopened content => "closing tag '[" ++ content ++ "]' doesn't match any open tag"
  | .noLiteral parameters => "the parameters '" ++ parameters ++ "' are no literal"
  | .noNumber numeral => "the numeral '" ++ numeral ++ "' of a color is no number"

/-- The normal form of a style in a tag. -/
def tagStyle (s : List Char) : Except MarkupError String :=
  (normalStyle s).mapError .noNumber

/-- A tag that is open. -/
structure OpenTag where
  /-- The normal form of its style, or the name of its handler. -/
  name : String
  /-- What stands behind the equals sign, if there is one. -/
  parameters : Option (List Char)
  /-- The number of characters that are shown before it. -/
  start : Nat
  deriving DecidableEq, Repr

/-- What stands in front of the first equals sign, and what stands behind it, if there is one. -/
def splitParameters (content : List Char) : List Char × Option (List Char) :=
  let name := content.takeWhile (· ≠ '=')
  (name, if name.length < content.length then some (content.drop (name.length + 1)) else none)

/-- Whether parameters can be given to a handler: the name of a function, perhaps with a literal in
round brackets behind it, or a literal alone. -/
def areParameters (parameters : List Char) : Bool :=
  let inner := trim parameters
  let rest := inner.dropWhile fun c => isWordChar c || c = '.'
  if rest.isEmpty then true
  else if rest.head? = some '(' && rest.getLast? = some ')' && !rest.contains '\n' then
    isLiteral rest
  else isLiteral inner

namespace OpenTag

/-- Whether a tag names a handler. -/
def isHandler (tag : OpenTag) : Bool :=
  tag.name.toList.head? = some '@'

/-- Check the parameters of a tag that is closed. -/
def checkParameters (tag : OpenTag) : Except MarkupError Unit :=
  match tag.parameters with
  | some parameters =>
    if !tag.isHandler || parameters.isEmpty || areParameters parameters then .ok ()
    else .error (.noLiteral (String.ofList parameters))
  | none => .ok ()

/-- The words of the style of a tag: its name and its parameters. -/
def styleWords (tag : OpenTag) : List Char :=
  match tag.parameters with
  | some parameters => tag.name.toList ++ ' ' :: parameters
  | none => tag.name.toList

end OpenTag

/-- Take out the innermost of some open tags with a name. -/
def takeTag (name : String) : List OpenTag → Option (OpenTag × List OpenTag)
  | [] => none
  | tag :: tags =>
    if tag.name = name then some (tag, tags)
    else (takeTag name tags).map fun (closed, others) => (closed, tag :: others)

/-! ## Rendering -/

/-- A part of a text that has a style. -/
structure StyledPart where
  /-- The number of characters before it. -/
  start : Nat
  /-- The number of characters up to its end. -/
  stop : Nat
  /-- The words of its style. -/
  style : List Char
  deriving DecidableEq, Repr

/-- A text with the styles of its parts. -/
structure StyledText where
  /-- The characters that are shown. -/
  chars : List Char
  /-- The parts with a style. -/
  parts : List StyledPart
  deriving DecidableEq, Repr

/-- Whether a part still has its style once a text is laid out. Where a text is divided, at line
ends and tabulators, a part without characters is lost, and so is one of line ends alone. -/
def StyledText.keeps (text : StyledText) (part : StyledPart) : Bool :=
  !(text.chars.contains '\n' || text.chars.contains '\t') ||
    ((text.chars.take part.stop).drop part.start).any (· ≠ '\n')

/-- Check the styles of a text that is laid out. -/
def StyledText.check (text : StyledText) : Except MarkupError Unit :=
  (text.parts.filter text.keeps).forM fun part => do let _ ← tagStyle part.style

/-- A text that is being rendered. -/
structure Rendering where
  /-- The characters that are shown, the last one first. -/
  shown : List Char := []
  /-- The open tags, the innermost one first. -/
  tags : List OpenTag := []
  /-- The parts that have a style. -/
  parts : List StyledPart := []

namespace Rendering

/-- The part of a text from an open tag up to here. -/
def partOf (rendering : Rendering) (tag : OpenTag) : StyledPart :=
  ⟨tag.start, rendering.shown.length, tag.styleWords⟩

/-- Show characters. -/
def put (rendering : Rendering) (chars : List Char) : Rendering :=
  let chars := withoutDropped (replaceEmoji chars)
  { rendering with shown := chars.reverse ++ rendering.shown }

/-- The tag that a closing tag closes, given its content without the slash, and the other ones. -/
def tagToClose (rendering : Rendering) (content : List Char) :
    Except MarkupError (OpenTag × List OpenTag) := do
  let name := trim (splitParameters content).1
  let closed ←
    if name.isEmpty then pure (rendering.tags.head?.map fun tag => (tag, rendering.tags.drop 1))
    else pure (takeTag (← tagStyle name) rendering.tags)
  match closed with
  | some closed => return closed
  | none => throw (.unopened (String.ofList ('/' :: content)))

/-- Carry out a closing tag, given its content without the slash. -/
def close (rendering : Rendering) (content : List Char) : Except MarkupError Rendering := do
  let (tag, tags) ← rendering.tagToClose content
  tag.checkParameters
  let parts := if tag.isHandler then [] else [rendering.partOf tag]
  return { rendering with tags, parts := rendering.parts ++ parts }

/-- Carry out an opening tag. -/
def openTag (rendering : Rendering) (content : List Char) : Except MarkupError Rendering := do
  let (name, parameters) := splitParameters content
  let tag := ⟨← tagStyle name, parameters, rendering.shown.length⟩
  return { rendering with tags := tag :: rendering.tags }

/-- Carry out a piece of a text. -/
def add (rendering : Rendering) : Piece → Except MarkupError Rendering
  | .text chars => .ok (rendering.put chars)
  | .tag ('/' :: content) => rendering.close content
  | .tag content => rendering.openTag content

/-- The text, with the tags closed that are still open. -/
def finish (rendering : Rendering) : StyledText :=
  ⟨rendering.shown.reverse, rendering.parts ++ rendering.tags.map rendering.partOf⟩

end Rendering

/-- The text that markup shows. -/
def render (markup : List Char) : Except MarkupError StyledText := do
  let rendering ← (pieces markup).foldlM Rendering.add {}
  return rendering.finish

/-! ## Escaping -/

/-- A text that ends in a single backslash, with that one doubled. -/
def doubleLastBackslash (s : List Char) : List Char :=
  if s.getLast? = some '\\' && s.dropLast.getLast? ≠ some '\\' then s ++ ['\\'] else s

/-- A text with a backslash in front of everything that would be a tag, behind some backslashes. -/
def escapeFrom (backslashes : Nat) : List Char → List Char
  | [] => List.replicate backslashes '\\'
  | c :: rest =>
    if c = '\\' then escapeFrom (backslashes + 1) rest
    else if c = '[' && (tagContent? rest).isSome then
      List.replicate (2 * backslashes + 1) '\\' ++ c :: escapeFrom 0 rest
    else List.replicate backslashes '\\' ++ c :: escapeFrom 0 rest

/-- A text as markup that shows it. -/
def escape (s : String) : String :=
  String.ofList (doubleLastBackslash (escapeFrom 0 s.toList))

end PodLaunch.Console
