import PodLaunch.Yaml.Plain
import PodLaunch.Yaml.Scalar

/-!
# Writing texts as scalars

A text is written plain where that is understood as the same text, else between single quotes where
no escapes are needed, else between double quotes. All that is written is ASCII. Lines are folded
behind the eightieth column; what follows is indented.
-/

namespace PodLaunch.Yaml

open Text

/-! ## The choice of a style -/

/-- The styles of scalars. -/
inductive Style where
  /-- Without quotes. -/
  | plain
  /-- Between single quotes. -/
  | single
  /-- Between double quotes. -/
  | double
  deriving DecidableEq, Repr

/-- Whether a character can be written without an escape. -/
def isUnescaped (c : Char) : Bool :=
  c = '\n' || (' ' ≤ c && c ≤ '~')

/-- Whether a character begins plain scalars of no kind. -/
def isLeadingIndicator (c : Char) : Bool :=
  isFlowPunctuation c || c = '#' || c = '&' || c = '*' || c = '!' || c = '|' || c = '>' ||
    c = '\'' || c = '"' || c = '%' || c = '@' || c = '\x60'

/-- Whether a space follows, or nothing. -/
def spaceFollows (rest : List Char) : Bool :=
  rest.isEmpty || rest.head? = some ' '

/-- Whether a text has, behind its first character, a colon in front of a space or at the end, or a
hash behind a space. The character before is given. -/
def hasInnerIndicator (before : Char) : List Char → Bool
  | [] => false
  | c :: rest =>
    (c = ':' && spaceFollows rest) || (c = '#' && before = ' ') || hasInnerIndicator c rest

/-- Whether a text has a character at its beginning or within it that is punctuation. -/
def hasIndicator : List Char → Bool
  | [] => false
  | c :: rest =>
    isLeadingIndicator c || ((c = '?' || c = ':' || c = '-') && spaceFollows rest) ||
      hasInnerIndicator c rest

/-- Whether a text begins like a marker between documents. -/
def beginsLikeMarker (s : List Char) : Bool :=
  s.take 3 = ['-', '-', '-'] || s.take 3 = ['.', '.', '.']

/-- Whether two characters stand next to each other in this order. -/
def hasAdjacent (left right : Char) : List Char → Bool
  | a :: b :: rest => (a = left && b = right) || hasAdjacent left right (b :: rest)
  | _ => false

/-- Whether a text can be written on one line without quotes. -/
def isPlainLine (s : List Char) : Bool :=
  s.all (fun c => isUnescaped c && c ≠ '\n') && s.head? ≠ some ' ' && s.getLast? ≠ some ' ' &&
    !beginsLikeMarker s && !hasIndicator s

/-- Whether a text can be written between single quotes, on several lines if need be. -/
def isSingleQuotable (s : List Char) : Bool :=
  s.all isUnescaped && !hasAdjacent ' ' '\n' s && !hasAdjacent '\n' ' ' s

/-- The style for a text. -/
def Style.of (s : List Char) : Style :=
  if isPlainLine s && ScalarKind.ofPlain .profile (String.ofList s) = .text then .plain
  else if isSingleQuotable s then .single
  else .double

/-! ## Writing in a style -/

/-- The column behind which lines are folded. -/
def foldColumn : Nat := 80

/-- A number of spaces. -/
def spaces (count : Nat) : List Char :=
  List.replicate count ' '

/-- How lines are folded. -/
structure Folding where
  /-- Whether lines may be folded. -/
  allowed : Bool
  /-- The indentation of further lines. -/
  indent : Nat

/-- A new line with its indentation. -/
def Folding.newLine (folding : Folding) : List Char :=
  '\n' :: spaces folding.indent

/-- Whether a line is folded at a column. -/
def Folding.foldsAt (folding : Folding) (column : Nat) : Bool :=
  folding.allowed && foldColumn < column

/-- A text without quotes from a column on, behind some spaces that have not been written. A single
space may be replaced by a new line. -/
def writePlain (folding : Folding) (column waiting : Nat) : List Char → List Char
  | [] => spaces waiting
  | c :: rest =>
    if c = ' ' then writePlain folding column (waiting + 1) rest
    else if waiting = 1 && folding.foldsAt column then
      folding.newLine ++ c :: writePlain folding (folding.indent + 1) 0 rest
    else spaces waiting ++ c :: writePlain folding (column + waiting + 1) 0 rest

/-- What separates two pieces of a text between single quotes. -/
inductive Waiting where
  /-- Spaces, and whether a piece is in front of them. -/
  | blanks (inside : Bool) (count : Nat)
  /-- Line breaks. -/
  | breaks (count : Nat)
  deriving DecidableEq, Repr

/-- What separates two pieces as it is written from a column on, and the column behind it. A line
break is written as an empty line more. -/
def Waiting.write (folding : Folding) (column : Nat) : Waiting → List Char × Nat
  | .blanks inside count =>
    if inside && count = 1 && folding.foldsAt column then (folding.newLine, folding.indent)
    else (spaces count, column + count)
  | .breaks count => (List.replicate count '\n' ++ folding.newLine, folding.indent)

/-- The rest of a text between single quotes from a column on. -/
def writeSingle (folding : Folding) (column : Nat) (waiting : Waiting) : List Char → List Char
  | [] =>
    match waiting with
    | .blanks _ count => spaces count
    | .breaks _ => (waiting.write folding column).1
  | c :: rest =>
    match c, waiting with
    | ' ', .blanks inside count => writeSingle folding column (.blanks inside (count + 1)) rest
    | '\n', .breaks count => writeSingle folding column (.breaks (count + 1)) rest
    | '\n', .blanks _ count => spaces count ++ writeSingle folding (column + count) (.breaks 1) rest
    | _, _ =>
      let (separator, column) := waiting.write folding column
      let written := if c = '\'' then ['\'', '\''] else [c]
      separator ++ written ++
        writeSingle folding (column + written.length) (.blanks true 0) rest

/-- The letter behind a backslash that stands for a character. -/
def escapeLetter? : Char → Option Char
  | '\x00' => some '0'
  | '\x07' => some 'a'
  | '\x08' => some 'b'
  | '\t' => some 't'
  | '\n' => some 'n'
  | '\x0b' => some 'v'
  | '\x0c' => some 'f'
  | '\r' => some 'r'
  | '\x1b' => some 'e'
  | '"' => some '"'
  | '\\' => some '\\'
  | '\x85' => some 'N'
  | '\xa0' => some '_'
  | '\u2028' => some 'L'
  | '\u2029' => some 'P'
  | _ => none

/-- The escape of a character between double quotes, if it needs one. -/
def escape? (c : Char) : Option (List Char) :=
  match escapeLetter? c with
  | some letter => some ['\\', letter]
  | none =>
    if ' ' ≤ c && c ≤ '~' then none
    else if c.toNat < 0x100 then some ('\\' :: 'x' :: upperHexNumeral 2 c.toNat)
    else if c.toNat < 0x10000 then some ('\\' :: 'u' :: upperHexNumeral 4 c.toNat)
    else some ('\\' :: 'U' :: upperHexNumeral 8 c.toNat)

/-- The new line at which a text between double quotes is folded. A space behind it is escaped. -/
def foldEscaped (folding : Folding) (rest : List Char) : List Char :=
  '\\' :: folding.newLine ++ if rest.head? = some ' ' then ['\\'] else []

/-- The column behind a fold. -/
def columnAfterFold (folding : Folding) (rest : List Char) : Nat :=
  folding.indent + if rest.head? = some ' ' then 1 else 0

/-- The rest of a text between double quotes from a column on. Behind an escape and in front of a
space a line may be folded, but not at the first or the last character. -/
def writeDouble (folding : Folding) (column : Nat) (first afterEscape : Bool) :
    List Char → List Char
  | [] => []
  | c :: rest =>
    let inside := !first && !rest.isEmpty
    match escape? c with
    | some escape =>
      let column := column + escape.length
      if inside && folding.foldsAt (column - 1) then
        escape ++ foldEscaped folding rest ++
          writeDouble folding (columnAfterFold folding rest) false true rest
      else escape ++ writeDouble folding column false true rest
    | none =>
      if inside && (c = ' ' || afterEscape) && folding.foldsAt column then
        foldEscaped folding (c :: rest) ++
          c :: writeDouble folding (columnAfterFold folding (c :: rest) + 1) false false rest
      else c :: writeDouble folding (column + 1) false false rest

/-- A text as a scalar from a column on. -/
def writeText (folding : Folding) (column : Nat) (s : List Char) : List Char :=
  match Style.of s with
  | .plain => writePlain folding column 0 s
  | .single => '\'' :: writeSingle folding (column + 1) (.blanks false 0) s ++ ['\'']
  | .double => '"' :: writeDouble folding (column + 1) true false s ++ ['"']

/-! ## Entries of mappings -/

/-- Whether a text is short enough, and on one line, for a key that is not marked as such. -/
def isSimpleKey (s : List Char) : Bool :=
  !s.isEmpty && !s.any isBreak && s.length < 123

/-- What is written as the value of an entry. -/
inductive WrittenValue where
  /-- A text. -/
  | text (s : List Char)
  /-- A word that stands for a value that is no text. -/
  | word (s : List Char)

/-- A value from a column on, within a mapping that is indented. -/
def WrittenValue.write (indent column : Nat) : WrittenValue → List Char
  | .text s => writeText ⟨true, indent + 2⟩ column s
  | .word s => s

/-- An entry of a mapping whose keys stand at a column, without the indentation of its first line.
-/
def writeEntry (indent : Nat) (key : List Char) (value : WrittenValue) : List Char :=
  if isSimpleKey key then
    let written := writeText ⟨false, indent + 2⟩ indent key
    written ++ ':' :: ' ' :: value.write indent (indent + written.length + 2) ++ ['\n']
  else
    '?' :: ' ' :: writeText ⟨true, indent + 2⟩ (indent + 2) key ++ '\n' :: spaces indent ++
      ':' :: ' ' :: value.write indent (indent + 2) ++ ['\n']

end PodLaunch.Yaml
