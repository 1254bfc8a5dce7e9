import PodLaunch.Yaml.Gap

/-!
# Plain scalars

A plain scalar stands without quotes. It ends before a colon or a hash that counts as punctuation,
before the punctuation of a flow collection that it is in, and where a following line is not
indented deeper than the collection around it. Its lines are folded; the blanks and breaks behind
its last character do not belong to it, but are passed with it.
-/

namespace PodLaunch.Yaml

/-- Whether a character is punctuation within flow collections. -/
def isFlowPunctuation (c : Char) : Bool :=
  c = ',' || c = '[' || c = ']' || c = '\x7b' || c = '\x7d'

/-- Whether a character belongs to a plain scalar that has begun, given the character behind it. -/
def continuesPlain (dialect : Dialect) (flow : Bool) (c : Char) (next : Option Char) : Bool :=
  if endsWord (some c) then false
  else if c = ':' then
    !endsWord next && !(dialect.isProfile && flow && (next.map isFlowPunctuation).getD false)
  else if c = '?' then !flow || !dialect.isFirst
  else !(flow && isFlowPunctuation c)

/-- Whether a character has a meaning of its own where a plain scalar could begin. -/
def isIndicator (c : Char) : Bool :=
  isFlowPunctuation c || c = '-' || c = '?' || c = ':' || c = '#' || c = '&' || c = '*' ||
    c = '!' || c = '|' || c = '>' || c = '\'' || c = '"' || c = '%' || c = '@' || c = '\x60'

/-- Whether a plain scalar begins with a character, given the character behind it. After the first
edition a colon may begin one within a flow collection. -/
def beginsPlain (dialect : Dialect) (flow : Bool) (c : Char) (next : Option Char) : Bool :=
  if c = ' ' || c = '\t' || isBreak c then false
  else if !isIndicator c then true
  else if !dialect.isFirst && flow && c = ':' then next ≠ some ' ' && next ≠ some '\t'
  else !endsWord next && (c = '-' || (!flow && (c = '?' || c = ':')))

/-- A plain scalar that has been read. -/
structure PlainScalar where
  /-- Its text. -/
  text : List Char
  /-- What follows it and the blanks and breaks behind it. -/
  rest : List Char
  /-- Whether there are breaks behind it. -/
  endsLine : Bool
  deriving DecidableEq, Repr

/-- The rest of a plain scalar at a column, behind a text (last character first) and a gap. In a
block collection a further line belongs to it if it begins at a column no less than `indent`, and if
it is no marker between documents. -/
def plainFrom (dialect : Dialect) (flow : Bool) (indent : Nat) (text : List Char) :
    Gap → Nat → List Char → PlainScalar
  | gap, _, [] => ⟨text.reverse, [], gap.hasBreak⟩
  | gap, column, c :: rest =>
    let column' := columnBehind dialect column c
    let fits := gap = .none || (c ≠ '#' && (flow || indent ≤ column))
    if fits && continuesPlain dialect flow c rest.head? then
      plainFrom dialect flow indent (c :: gap.appendTo text) .none column' rest
    else if c = ' ' then plainFrom dialect flow indent text (gap.addBlank c) column' rest
    else if isBreak c then
      if beginsWithMarker rest then ⟨text.reverse, rest, true⟩
      else plainFrom dialect flow indent text (gap.addBreak c) column' rest
    else ⟨text.reverse, c :: rest, gap.hasBreak⟩

/-- The plain scalar that begins with a character at a column. -/
def plain (dialect : Dialect) (flow : Bool) (indent column : Nat) (c : Char) (rest : List Char) :
    PlainScalar :=
  plainFrom dialect flow indent [c] .none (columnBehind dialect column c) rest

end PodLaunch.Yaml
