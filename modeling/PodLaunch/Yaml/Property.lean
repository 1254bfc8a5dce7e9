import PodLaunch.Text.Hexadecimal
import PodLaunch.Text.Utf8
import PodLaunch.Yaml.Defect
import PodLaunch.Yaml.Plain

/-!
# Directives, anchors and tags

What stands around the content of a text: a directive in front of a document, and the anchor and the
tag in front of a node. A tag is written with a handle, whose meaning a directive may set, and a
suffix, in which any character may be written by the numbers of its bytes.
-/

namespace PodLaunch.Yaml

open Text

/-- A tag as it is written. -/
structure WrittenTag where
  /-- The handle, unless the tag is written in full. -/
  handle : Option String
  /-- What stands behind the handle. -/
  suffix : String
  deriving DecidableEq, Repr

/-- A directive. -/
inductive Directive where
  /-- The edition of the language. -/
  | version (edition : Edition)
  /-- What a handle stands for. -/
  | handle (handle expansion : String)
  /-- A directive without a meaning. -/
  | reserved
  deriving DecidableEq, Repr

/-- Whether a character may be part of the name of a handle or of a profile's anchor. -/
def isNameChar (c : Char) : Bool :=
  c.isAlphanum || c = '-' || c = '_'

/-- Whether a character may be part of the name of a directive. Manifests allow colons and points.
-/
def isDirectiveChar (dialect : Dialect) (c : Char) : Bool :=
  isNameChar c || (!dialect.isProfile && (c = ':' || c = '.'))

/-- Whether a character may be part of the suffix of a tag. A hash may be one only after the first
edition. -/
def isTagChar (dialect : Dialect) (c : Char) : Bool :=
  c.isAlphanum || "-;/?:@&=+$,_.!~*'()[]".toList.contains c || (dialect.isLenient && c = '#')

/-! ## Anchors -/

/-- Whether a character may be part of an anchor. Manifests allow every visible one that is no
punctuation of flow collections, and the separators of lines and paragraphs. -/
def isAnchorChar (dialect : Dialect) (c : Char) : Bool :=
  if dialect.isProfile then isNameChar c
  else ' ' < c && !isFlowPunctuation c && c ≠ '\x85' && c ≠ '\ufeff'

/-- Whether an anchor may end before a character, or at the end of the text. -/
def endsAnchor (dialect : Dialect) : Option Char → Bool
  | none => true
  | some c =>
    endsWord (some c) || c = '?' || c = ':' || c = '%' || c = '@' || c = '\x60' ||
      (isFlowPunctuation c && !(dialect.isProfile && (c = '[' || c = '\x7b')))

/-- The name behind the introducing character of an anchor or an alias, and what follows it. -/
def anchorName (dialect : Dialect) (chars : List Char) : Option (String × List Char) :=
  let name := chars.takeWhile (isAnchorChar dialect)
  let rest := chars.dropWhile (isAnchorChar dialect)
  if name.isEmpty || !endsAnchor dialect rest.head? then none
  else some (String.ofList name, rest)

/-! ## Tags -/

/-- The text behind a part of a suffix (last character first) and some bytes that are still to be
decoded (last one first), and what follows it. -/
def suffixFrom (dialect : Dialect) (text : List Char) (bytes : List UInt8) :
    List Char → Option (List Char × List Char)
  | '%' :: high :: low :: rest => do
    let byte ← numeralValue? 16 [high, low]
    suffixFrom dialect text (UInt8.ofNat byte :: bytes) rest
  | rest =>
    match decodeUtf8 bytes.reverse with
    | .error _ => none
    | .ok decoded =>
      let text := decoded.reverse ++ text
      match rest with
      | [] => some (text.reverse, [])
      | c :: more =>
        if c = '%' then none
        else if isTagChar dialect c then suffixFrom dialect (c :: text) [] more
        else some (text.reverse, rest)

/-- A suffix that is not empty, and what follows it. -/
def tagSuffix (dialect : Dialect) (chars : List Char) : Option (String × List Char) := do
  let (suffix, rest) ← suffixFrom dialect [] [] chars
  if suffix.isEmpty then none else return (String.ofList suffix, rest)

/-- The name between the exclamation marks of a handle, and what follows the second one. -/
def handleName (chars : List Char) : Option (List Char × List Char) :=
  match chars.dropWhile isNameChar with
  | '!' :: rest => some (chars.takeWhile isNameChar, rest)
  | _ => none

/-- A handle with a name. -/
def namedHandle (name : List Char) : String :=
  String.ofList ('!' :: name ++ ['!'])

/-- The handle and the suffix behind an exclamation mark. A tag without a second mark has the short
handle. -/
def handledTag (dialect : Dialect) (short : String) (chars : List Char) :
    Option (WrittenTag × List Char) := do
  let word := chars.takeWhile fun c => !endsHeader (some c)
  if word.contains '!' then
    let (name, rest) ← handleName chars
    let (suffix, rest) ← tagSuffix dialect rest
    return (⟨some (namedHandle name), suffix⟩, rest)
  else
    let (suffix, rest) ← tagSuffix dialect chars
    return (⟨some short, suffix⟩, rest)

/-- The tag behind an exclamation mark, and what follows it: written in full, or with a handle, or
without anything behind its short handle. -/
def shortTag (dialect : Dialect) (short : String) (chars : List Char) :
    Option (WrittenTag × List Char) := do
  match chars with
  | '<' :: more =>
    let (suffix, rest) ← tagSuffix dialect more
    match rest with
    | '>' :: rest => return (⟨none, suffix⟩, rest)
    | _ => none
  | _ =>
    if endsWord chars.head? then return (⟨none, short⟩, chars)
    else handledTag dialect short chars

/-- The tag behind its first exclamation mark, and what follows it. In manifests a second mark is
part of the short handle, whatever follows. -/
def writtenTag (dialect : Dialect) (chars : List Char) : Option (WrittenTag × List Char) := do
  let (tag, rest) ←
    match chars with
    | '!' :: more =>
      if dialect.isProfile then shortTag dialect "!" chars else shortTag dialect "!!" more
    | _ => shortTag dialect "!" chars
  if endsHeader rest.head? then return (tag, rest) else none

/-! ## Directives -/

/-- A directive as it is read. -/
abbrev ReadDirective := Except Defect (Directive × List Char)

/-- The value of some digits, of which there must not be too many. -/
def limitedNumeral (digits : List Char) : Except Defect Nat :=
  if Document.digitLimit < digits.length then .error (.longInteger digits.length)
  else
    match numeralValue? 10 digits with
    | some n => .ok n
    | none => .error .malformed

/-- A numeral, and what follows it. -/
def directiveNumber (chars : List Char) : Except Defect (Nat × List Char) := do
  let digits := chars.takeWhile Char.isDigit
  if digits.isEmpty then throw .malformed
  return (← limitedNumeral digits, chars.dropWhile Char.isDigit)

/-- The edition that a directive names. -/
def versionDirective (chars : List Char) : ReadDirective := do
  let (major, rest) ← directiveNumber (chars.dropWhile (· = ' '))
  match rest with
  | '.' :: rest =>
    let (minor, rest) ← directiveNumber rest
    if endsHeader rest.head? then return (.version ⟨major, minor⟩, rest) else throw .malformed
  | _ => throw .malformed

/-- A handle behind its first exclamation mark, and what follows it. -/
def directiveHandle (chars : List Char) : Option (String × List Char) :=
  if chars.head? = some ' ' then some ("!", chars)
  else (handleName chars).map fun (name, rest) => (namedHandle name, rest)

/-- The handle that a directive sets, and what it stands for. -/
def handleDirective? (dialect : Dialect) (chars : List Char) :
    Option (Directive × List Char) := do
  match chars.dropWhile (· = ' ') with
  | '!' :: rest =>
    let (handle, rest) ← directiveHandle rest
    if rest.head? ≠ some ' ' then none
    else
      let (expansion, rest) ← tagSuffix dialect (rest.dropWhile (· = ' '))
      if endsHeader rest.head? then return (.handle handle expansion, rest) else none
  | _ => none

/-- What is missing makes a text malformed. -/
def orMalformed {α : Type} : Option α → Except Defect α
  | some value => .ok value
  | none => .error .malformed

/-- The directive with a name, read from what stands behind the name. -/
def directiveBody (dialect : Dialect) (name : String) (chars : List Char) : ReadDirective :=
  match name with
  | "YAML" => versionDirective chars
  | "TAG" => orMalformed (handleDirective? dialect chars)
  | _ => .ok (.reserved, chars.dropWhile (!isBreak ·))

/-- The directive behind its percent sign, and what follows its line. -/
def directive (dialect : Dialect) (chars : List Char) : ReadDirective := do
  let name := chars.takeWhile (isDirectiveChar dialect)
  let rest := chars.dropWhile (isDirectiveChar dialect)
  if name.isEmpty || !endsHeader rest.head? then throw .malformed
  let (directive, rest) ← directiveBody dialect (String.ofList name) rest
  let rest ← orMalformed (skipRestOfLine rest)
  return (directive, rest)

end PodLaunch.Yaml
