import PodLaunch.Text.Base64
import PodLaunch.Yaml.Numeral
import PodLaunch.Yaml.Timestamp

/-!
# The meaning of scalars

A tag says what a scalar is. Without one, a quoted scalar is a text, and a plain one is whatever its
spelling suggests: a truth value, a number, nothing, a date, or else a text.
-/

namespace PodLaunch.Yaml

open Text

/-- What a scalar is. -/
inductive ScalarKind where
  /-- The absent value. -/
  | null
  /-- A truth value. -/
  | bool
  /-- An integer. -/
  | int
  /-- A floating-point number. -/
  | float
  /-- A sequence of bytes. -/
  | bytes
  /-- A date or a time. -/
  | timestamp
  /-- A text. -/
  | text
  /-- The key whose value is merged into its mapping. -/
  | merge
  /-- The key of the value that stands for its mapping. -/
  | standIn
  deriving DecidableEq, Repr

/-- The common part of the tags that are known. -/
def coreTag (name : String) : String :=
  "tag:yaml.org,2002:" ++ name

namespace ScalarKind

/-- The kinds of scalars that a tag can ask for. -/
def tagged : List (String × ScalarKind) :=
  [(coreTag "null", .null), (coreTag "bool", .bool), (coreTag "int", .int),
    (coreTag "float", .float), (coreTag "binary", .bytes), (coreTag "timestamp", .timestamp),
    (coreTag "str", .text), (coreTag "merge", .merge), (coreTag "value", .standIn)]

/-- A name in lower case, capitalised, and in upper case. -/
def spellings (name : String) : List String :=
  let chars := name.toList
  [name, String.ofList ((chars.take 1).map Char.toUpper ++ chars.drop 1),
    String.ofList (chars.map Char.toUpper)]

/-- The plain scalars that are truth values. -/
def truthNames (dialect : Dialect) : List String :=
  let names :=
    if dialect.isProfile then ["yes", "no", "true", "false", "on", "off"]
    else if dialect.isFirst then ["y", "n", "yes", "no", "true", "false", "on", "off"]
    else ["true", "false"]
  names.flatMap spellings

/-- The plain scalars that stand for the absent value. -/
def nullNames : List String :=
  "" :: "~" :: spellings "null"

/-- What a plain scalar that does not end in a line feed is. -/
def ofLine (dialect : Dialect) (text : String) : ScalarKind :=
  if (truthNames dialect).contains text then .bool
  else if isFloat dialect text.toList then .float
  else if isInteger dialect text.toList then .int
  else if text = "<<" then .merge
  else if nullNames.contains text then .null
  else if Timestamp.isPlain text.toList then .timestamp
  else if text = "=" then .standIn
  else .text

/-- What a plain scalar is. -/
def ofPlain (dialect : Dialect) (text : String) : ScalarKind :=
  ofLine dialect (String.ofList (withoutLastBreak text.toList))

end ScalarKind

/-- What a node is meant to be. -/
inductive Meaning where
  /-- A scalar of a kind. -/
  | scalar (kind : ScalarKind)
  /-- A list. -/
  | list
  /-- A mapping. -/
  | mapping
  /-- A set, which is written as a mapping from its members. -/
  | set
  /-- An ordered mapping, which is written as a list of mappings with one entry each. -/
  | ordered
  /-- A list of pairs, which is written in the same way. -/
  | pairs
  /-- Something that is not known. -/
  | unknown
  deriving DecidableEq, Repr

/-- What the known tags ask for. -/
def Meaning.tagged : List (String × Meaning) :=
  [(coreTag "seq", .list), (coreTag "map", .mapping), (coreTag "set", .set),
    (coreTag "omap", .ordered), (coreTag "pairs", .pairs)] ++
    ScalarKind.tagged.map fun entry => (entry.1, .scalar entry.2)

/-- What a tag asks for. -/
def Meaning.ofTag (tag : String) : Meaning :=
  ((tagged.find? fun entry => entry.1 == tag).map Prod.snd).getD .unknown

/-- What a scalar without a tag is meant to be, plain or not. A plain one has no meaning in an
edition that does not exist. -/
def Meaning.ofUntagged (dialect : Dialect) (isPlain : Bool) (text : String) :
    Except Defect Meaning :=
  if !isPlain then .ok (.scalar .text)
  else if !dialect.edition.isKnown then .error (.unknownEdition dialect.edition)
  else .ok (.scalar (.ofPlain dialect text))

/-- The truth value that a scalar stands for, in any case. -/
def boolValue (dialect : Dialect) (text : String) : Except Defect Bool :=
  let lower := lowerText text
  let short := !dialect.isProfile
  if ["yes", "true", "on"].contains lower || (short && lower = "y") then .ok true
  else if ["no", "false", "off"].contains lower || (short && lower = "n") then .ok false
  else .error (.badBool lower)

/-- The bytes that a scalar stands for. -/
def bytesValue (text : String) : Except Defect (List UInt8) :=
  if text.toList.all fun c => c.toNat < 128 then orMalformed (decodeBase64 text.toList)
  else .error .malformed

/-- The date or time that a scalar stands for. -/
def timestampValue (dialect : Dialect) (text : String) : Except Defect Document :=
  match Timestamp.parse? (withoutLastBreak text.toList) with
  | some stamp => (stamp.toDocument dialect).mapError .badTime
  | none => if dialect.isProfile then .error .noTime else .error .malformed

/-- The document that a scalar of a kind stands for. The keys with a special meaning stand for
nothing. -/
def scalarDocument (dialect : Dialect) (kind : ScalarKind) (text : String) :
    Except Defect Document :=
  match kind with
  | .null => .ok .null
  | .bool => (boolValue dialect text).map .bool
  | .int => (integerValue dialect text.toList).map .int
  | .float => (floatValue dialect text.toList).map .float
  | .bytes => (bytesValue text).map .bytes
  | .timestamp => timestampValue dialect text
  | .text => .ok (.text text)
  | .merge | .standIn => .error .malformed

end PodLaunch.Yaml
