import PodLaunch.Yaml.Property

/-!
# Tokens

The punctuation and the scalars of a text. Indentation shows as tokens too: a block collection is
enclosed by a token for its kind and one for its end.
-/

namespace PodLaunch.Yaml

/-- A token. -/
inductive Token where
  /-- A directive. -/
  | directive (value : Directive)
  /-- The marker at the beginning of a document. -/
  | documentStart
  /-- The marker at the end of a document. -/
  | documentEnd
  /-- The beginning of a list that is written with dashes. -/
  | blockListStart
  /-- The beginning of a mapping that is written with indentation. -/
  | blockMappingStart
  /-- The end of a collection that is written with indentation. -/
  | blockEnd
  /-- A dash in front of an element. -/
  | dash
  /-- The bracket at the beginning of a list. -/
  | flowListStart
  /-- The bracket at the end of a list. -/
  | flowListEnd
  /-- The brace at the beginning of a mapping. -/
  | flowMappingStart
  /-- The brace at the end of a mapping. -/
  | flowMappingEnd
  /-- The comma between the entries of a collection in brackets or braces. -/
  | comma
  /-- What stands in front of a key, whether it is written or not. -/
  | key
  /-- The colon in front of a value. -/
  | value
  /-- A reference to an anchor. -/
  | alias (name : String)
  /-- An anchor. -/
  | anchor (name : String)
  /-- A tag. -/
  | tag (tag : WrittenTag)
  /-- A scalar: whether it is plain, and its text. -/
  | scalar (isPlain : Bool) (text : String)
  /-- The end of the text. -/
  | textEnd
  /-- A place where no token can be read, with the cause. Nothing follows it. -/
  | defect (cause : Defect)
  deriving DecidableEq, Repr

/-- A token with what is known about it. A token is used once it is settled that it is no key whose
colon is still to come; by then, a directive behind it may have been read. -/
structure Lexeme where
  /-- The token. -/
  token : Token
  /-- The number of lines before the token. -/
  line : Nat
  /-- The dialect that is followed when the token is settled. -/
  dialect : Dialect
  deriving DecidableEq, Repr

end PodLaunch.Yaml
