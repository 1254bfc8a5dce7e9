import PodLaunch.Text.Hexadecimal
import PodLaunch.Text.Lines
import PodLaunch.Text.Word

/-!
# Literals

The parameters of a handler are a literal: numbers, texts, bytes, names of constants, and sequences,
sets and mappings of them. Only whether a text is a literal matters, and of a part, whether it is a
number and whether it may be an element of a set. Within brackets a line end is a gap; outside of
them it ends the literal:

    literals = literal [{"," literal} [","]]
    literal  = signed [("+" | "-") number]
    signed   = ["+" | "-"] atom
    atom     = number | text {text} | constant | "(" [literals] ")" | "{" [entries] "}"
    entries  = literal {"," literal} [","] | entry {"," entry} [","]
    entry    = literal ":" literal
-/

namespace PodLaunch.Console

open Text

/-- What a literal is. -/
inductive LiteralKind where
  /-- A number without a sign, real or imaginary. -/
  | number (isImaginary : Bool)
  /-- A number behind a sign. -/
  | signed (isImaginary : Bool)
  /-- Anything else that may be an element of a set or a key. -/
  | value
  /-- A set or a mapping, or a sequence that holds one. -/
  | container
  deriving DecidableEq, Repr

/-- Whether a literal of a kind may be an element of a set or a key. -/
def LiteralKind.isElement : LiteralKind → Bool
  | .container => false
  | _ => true

/-- The kind of a sequence of literals. -/
def sequenceKind (kinds : List LiteralKind) : LiteralKind :=
  if kinds.all LiteralKind.isElement then .value else .container

/-- Where a gap stands. -/
inductive GapPlace where
  /-- Outside of brackets, where a line end is no gap. -/
  | outside
  /-- Within brackets. -/
  | bracketed
  deriving DecidableEq, Repr

/-- What follows the gap in front of some characters: blanks, joined lines and comments. -/
def skipGap (place : GapPlace) (inComment : Bool) : List Char → List Char
  | [] => []
  | c :: rest =>
    if c = '\n' then
      if place = .outside then c :: rest else skipGap place false rest
    else if inComment || c = '#' then skipGap place true rest
    else if c = ' ' || c = '\t' || c = '\x0c' then skipGap place false rest
    else
      match c, rest with
      | '\\', '\n' :: rest => skipGap place false rest
      | _, _ => c :: rest

/-! ## Numbers -/

/-- The digits of a base at the beginning of some characters, with single underscores between them,
and what follows. -/
def digitRun (base : Nat) (isFirst : Bool) : List Char → List Char × List Char
  | '_' :: c :: rest =>
    if !isFirst && (hexValue? c).any (· < base) then
      let (digits, behind) := digitRun base false rest
      (c :: digits, behind)
    else ([], '_' :: c :: rest)
  | c :: rest =>
    if (hexValue? c).any (· < base) then
      let (digits, behind) := digitRun base false rest
      (c :: digits, behind)
    else ([], c :: rest)
  | [] => ([], [])

/-- What follows the exponent in front of some characters. There may be none; one without digits is
a defect. -/
def skipExponent : List Char → Option (Bool × List Char)
  | c :: rest =>
    if c = 'e' || c = 'E' then
      let unsigned := if rest.head? = some '+' || rest.head? = some '-' then rest.drop 1 else rest
      let (digits, behind) := digitRun 10 true unsigned
      if digits.isEmpty then none else some (true, behind)
    else some (false, c :: rest)
  | [] => some (false, [])

/-- What follows the point and the digits of a fraction in front of some characters. -/
def skipFraction : List Char → Bool × List Char × List Char
  | '.' :: rest =>
    let (digits, behind) := digitRun 10 true rest
    (true, digits, behind)
  | chars => (false, [], chars)

/-- The end of a number: the mark of an imaginary one may stand there, but no part of a word. -/
def endNumber (isInteger : Bool) (digits chars : List Char) : Option (LiteralKind × List Char) :=
  let isImaginary := chars.head? = some 'j' || chars.head? = some 'J'
  let rest := if isImaginary then chars.drop 1 else chars
  let isPlain := isInteger && !isImaginary
  let hasZeros := digits.head? = some '0' && digits.any (· ≠ '0')
  if rest.head?.any isWordChar || (isPlain && (hasZeros || 4300 < digits.length)) then none
  else some (.number isImaginary, rest)

/-- A number in base ten. -/
def readDecimal (chars : List Char) : Option (LiteralKind × List Char) := do
  let (whole, rest) := digitRun 10 true chars
  let (hasPoint, fraction, rest) := skipFraction rest
  if whole.isEmpty && fraction.isEmpty then none
  else
    let (hasExponent, rest) ← skipExponent rest
    endNumber (!hasPoint && !hasExponent) whole rest

/-- A number in another base, behind the letter for it. -/
def readInBase (base : Nat) (chars : List Char) : Option (LiteralKind × List Char) :=
  let chars := if chars.head? = some '_' then chars.drop 1 else chars
  let (digits, rest) := digitRun base true chars
  if digits.isEmpty || rest.head?.any isWordChar then none else some (.number false, rest)

/-- A number. -/
def readNumber : List Char → Option (LiteralKind × List Char)
  | '0' :: c :: rest =>
    if c = 'x' || c = 'X' then readInBase 16 rest
    else if c = 'o' || c = 'O' then readInBase 8 rest
    else if c = 'b' || c = 'B' then readInBase 2 rest
    else readDecimal ('0' :: c :: rest)
  | chars => readDecimal chars

/-! ## Texts -/

/-- How a text is written, which the letters in front of it say. -/
structure TextForm where
  /-- Whether it stands for bytes. -/
  isBytes : Bool
  /-- Whether backslashes have no meaning. -/
  isRaw : Bool

/-- The form of a text with some letters in front of it, in lower case. -/
def TextForm.of? (letters : String) : Option TextForm :=
  match letters with
  | "" | "u" => some ⟨false, false⟩
  | "r" => some ⟨false, true⟩
  | "b" => some ⟨true, false⟩
  | "br" | "rb" => some ⟨true, true⟩
  | _ => none

/-- Whether a character may be part of the name of a character. -/
def isNameChar (c : Char) : Bool :=
  c.isAlphanum || c = ' ' || c = '-'

/-- What follows an escape, given what stands behind its backslash; one that is cut short or too
large is a defect. -/
def skipEscape (form : TextForm) : List Char → Option (List Char)
  | [] => none
  | c :: rest =>
    let digits (count : Nat) : Option (List Char) :=
      let taken := rest.take count
      match numeralValue? 16 taken with
      | some code =>
        if taken.length = count && code < 0x110000 then some (rest.drop count) else none
      | none => none
    if form.isBytes && 128 ≤ c.toNat then none
    else if form.isRaw then some rest
    else if c = 'x' then digits 2
    else if form.isBytes then some rest
    else if c = 'u' then digits 4
    else if c = 'U' then digits 8
    else if c = 'N' then
      let name := rest.takeWhile (· ≠ '\x7d')
      let behind := (rest.drop name.length).drop 1
      if rest.head? = some '\x7b' && 1 < name.length && name.length < rest.length &&
          (name.drop 1).all isNameChar then some behind
      else none
    else some rest

/-- What follows a text up to some quotes, given what stands behind the first ones. A text between
single quotes ends on its line. The first argument bounds the number of characters. -/
def skipText (form : TextForm) (quotes : List Char) : Nat → List Char → Option (List Char)
  | 0, _ => none
  | _, [] => none
  | steps + 1, c :: rest =>
    if quotes.isPrefixOf (c :: rest) then some ((c :: rest).drop quotes.length)
    else if c = '\\' then do skipText form quotes steps (← skipEscape form rest)
    else if c = '\n' && quotes.length = 1 then none
    else if form.isBytes && 128 ≤ c.toNat then none
    else skipText form quotes steps rest

/-- A text behind the letters in front of it: whether it stands for bytes, and what follows. -/
def readText (letters : List Char) (chars : List Char) : Option (Bool × List Char) := do
  let form ← TextForm.of? (String.ofList (letters.map Char.toLower))
  match chars with
  | [] => none
  | quote :: rest =>
    if quote ≠ '\'' && quote ≠ '"' then none
    else
      let quotes := if [quote, quote].isPrefixOf rest then [quote, quote, quote] else [quote]
      let behind ← skipText form quotes chars.length (chars.drop quotes.length)
      return (form.isBytes, behind)

/-- The letters at the beginning of some characters, and what follows them. -/
def splitWord (chars : List Char) : List Char × List Char :=
  (chars.takeWhile isWordChar, chars.dropWhile isWordChar)

/-- What follows texts that stand behind a text. They are all of one form, texts or bytes. The first
argument bounds their number. -/
def skipTexts (place : GapPlace) (isBytes : Bool) : Nat → List Char → Option (List Char)
  | 0, chars => some chars
  | steps + 1, chars =>
    let start := skipGap place false chars
    let (letters, rest) := splitWord start
    if rest.head? = some '\'' || rest.head? = some '"' then do
      let (isAlsoBytes, behind) ← readText letters rest
      if isAlsoBytes = isBytes then skipTexts place isBytes steps behind else none
    else some chars

/-! ## Literals -/

/-- What follows a mark in front of some characters, behind a gap. -/
def expect? (place : GapPlace) (mark : Char) (chars : List Char) : Option (List Char) :=
  match skipGap place false chars with
  | [] => none
  | c :: rest => if c = mark then some rest else none

/-- A word that is a literal: a constant, or the empty set as it is written with a word. -/
def readConstant (place : GapPlace) (word rest : List Char) : Option (LiteralKind × List Char) :=
  match String.ofList word with
  | "True" | "False" | "None" => some (.value, rest)
  | "set" => do
    let behind ← expect? .bracketed ')' (← expect? place '(' rest)
    return (.container, behind)
  | _ => none

/-- A word or a text. -/
def readWord (place : GapPlace) (chars : List Char) : Option (LiteralKind × List Char) :=
  let (word, rest) := splitWord chars
  if rest.head? = some '\'' || rest.head? = some '"' then do
    let (isBytes, behind) ← readText word rest
    let behind ← skipTexts place isBytes behind.length behind
    return (.value, behind)
  else readConstant place word rest

mutual

/-- A literal. The first argument bounds the number of steps. -/
def readLiteral (place : GapPlace) : Nat → List Char → Option (LiteralKind × List Char)
  | 0, _ => none
  | steps + 1, chars => do
    let (left, rest) ← readSigned place steps chars
    match skipGap place false rest with
    | [] => return (left, [])
    | c :: behind =>
      if c = '+' || c = '-' then
        let (right, behind) ← readSigned place steps behind
        let isReal := left = .number false || left = .signed false
        if isReal && right = .number true then return (.value, behind) else none
      else return (left, c :: behind)

/-- A literal that may have a sign. -/
def readSigned (place : GapPlace) : Nat → List Char → Option (LiteralKind × List Char)
  | 0, _ => none
  | steps + 1, chars =>
    match skipGap place false chars with
    | [] => none
    | c :: rest =>
      if c = '+' || c = '-' then
        match readSigned place steps rest with
        | some (.number isImaginary, behind) => some (.signed isImaginary, behind)
        | _ => none
      else if c = '(' then readGroup steps rest
      else if c = '\x7b' then readBraces steps rest
      else if c.isDigit || (c = '.' && rest.head?.any Char.isDigit) then readNumber (c :: rest)
      else if "...".toList.isPrefixOf (c :: rest) then some (.value, rest.drop 2)
      else readWord place (c :: rest)

/-- What stands in round brackets, behind the first one: a literal, or a sequence. -/
def readGroup : Nat → List Char → Option (LiteralKind × List Char)
  | 0, _ => none
  | steps + 1, chars =>
    match expect? .bracketed ')' chars with
    | some rest => some (.value, rest)
    | none => do
      let (kind, behind) ← readSequence .bracketed steps chars
      return (kind, ← expect? .bracketed ')' behind)

/-- Literals with commas between them. A single one without a comma stands for itself. -/
def readSequence (place : GapPlace) : Nat → List Char → Option (LiteralKind × List Char)
  | 0, _ => none
  | steps + 1, chars => do
    let (first, behind) ← readLiteral place steps chars
    match expect? place ',' behind with
    | none => return (first, behind)
    | some behind =>
      let (kinds, behind) ← readMore place steps behind
      return (sequenceKind (first :: kinds), behind)

/-- The literals behind a comma, as far as there are any. -/
def readMore (place : GapPlace) : Nat → List Char → Option (List LiteralKind × List Char)
  | 0, _ => none
  | steps + 1, chars =>
    let start := skipGap place false chars
    if start.isEmpty || start.head? = some ')' || start.head? = some '\x7d' then some ([], start)
    else do
      let (kind, behind) ← readLiteral place steps start
      match expect? place ',' behind with
      | none => return ([kind], behind)
      | some behind =>
        let (kinds, behind) ← readMore place steps behind
        return (kind :: kinds, behind)

/-- What stands in braces, behind the first one: a mapping, or a set. -/
def readBraces : Nat → List Char → Option (LiteralKind × List Char)
  | 0, _ => none
  | steps + 1, chars =>
    match expect? .bracketed '\x7d' chars with
    | some rest => some (.container, rest)
    | none => do
      let (first, behind) ← readLiteral .bracketed steps chars
      if !first.isElement then none
      else
        match expect? .bracketed ':' behind with
        | some behind =>
          let (_, behind) ← readLiteral .bracketed steps behind
          let behind ← readEntries steps behind
          return (.container, behind)
        | none =>
          let (kinds, behind) ←
            match expect? .bracketed ',' behind with
            | none => some ([], behind)
            | some behind => readMore .bracketed steps behind
          if kinds.all LiteralKind.isElement then
            return (.container, ← expect? .bracketed '\x7d' behind)
          else none

/-- The entries of a mapping behind one of them, up to its end. -/
def readEntries : Nat → List Char → Option (List Char)
  | 0, _ => none
  | steps + 1, chars =>
    match expect? .bracketed '\x7d' chars with
    | some rest => some rest
    | none => do
      let behind ← expect? .bracketed ',' chars
      match expect? .bracketed '\x7d' behind with
      | some rest => return rest
      | none =>
        let (key, behind) ← readLiteral .bracketed steps behind
        if !key.isElement then none
        else
          let (_, behind) ← readLiteral .bracketed steps (← expect? .bracketed ':' behind)
          readEntries steps behind

end

/-- A text with its line ends written alike. -/
def alikeLineEnds : List Char → List Char
  | [] => []
  | c :: rest =>
    if c = '\r' then
      match rest with
      | '\n' :: rest => '\n' :: alikeLineEnds rest
      | rest => '\n' :: alikeLineEnds rest
    else c :: alikeLineEnds rest

/-- Whether a line holds nothing but blanks and a comment. -/
def isBlankLine (line : List Char) : Bool :=
  let rest := line.dropWhile fun c => c = ' ' || c = '\t' || c = '\x0c'
  rest.isEmpty || rest.head? = some '#'

/-- A text without the blank lines in front of it. -/
def withoutBlankLines (s : List Char) : List Char :=
  ['\n'].intercalate ((splitOnChar '\n' s).dropWhile isBlankLine)

/-- Whether a text is a literal, or a sequence of literals without brackets. Each character takes
part in at most a few steps. Blank lines may stand around the literal, but no blank in front of
it. -/
def isLiteral (s : List Char) : Bool :=
  let inner := withoutBlankLines (alikeLineEnds s)
  if s.contains '\x00' || inner.head? = some ' ' || inner.head? = some '\t' then false
  else
    match readSequence .outside (8 * inner.length + 8) inner with
    | some (_, rest) => (splitOnChar '\n' (skipGap .outside false rest)).all isBlankLine
    | none => false

end PodLaunch.Console
