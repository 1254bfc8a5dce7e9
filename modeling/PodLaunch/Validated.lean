import PodLaunch.Document.Display
import PodLaunch.Text.Utf8

/-!
# Validation of documents

A document is checked against a model field by field. Every problem of a value is reported, in the
order of the fields, with its place and its fault. One defect is not a problem among others: a
toleration that is well-typed and yet matches nothing ends the validation of everything around it.
-/

namespace PodLaunch

open Text

/-- One step on the way to a place within a value. -/
inductive PlaceStep where
  /-- Into a field of a model. -/
  | field (name : String)
  /-- To an element of a list. -/
  | index (position : Nat)
  /-- To the value under a key of a mapping. -/
  | under (key : Document)
  /-- To the key itself. -/
  | keyItself
  deriving Repr

/-- A key on the way to a place. A truth value appears as the integer that it counts as. -/
def keyText (key : Document) : String :=
  match key with
  | .text key => key
  | .bool key => if key then "1" else "0"
  | _ => if key.isShown then key.display else unshown key.kindName
where
  /-- What stands for a key that cannot be shown. -/
  unshown (kind : String) : String := "<unprintable " ++ kind ++ " object>"

/-- The text of a step. -/
def PlaceStep.text : PlaceStep → String
  | .field name => name
  | .index position => toString position
  | .under key => keyText key
  | .keyItself => "[key]"

/-- What a model demands beyond the types of its fields. -/
inductive Rule where
  /-- A taint has a key. -/
  | taintKey
  /-- A configuration volume has a name and names a bundle. -/
  | volumeNames
  /-- A mount path is absolute. -/
  | absolutePath (path : String)
  /-- The volumes of a pod have distinct names. -/
  | distinctVolumes (name : String)
  /-- A pod has a container. -/
  | someContainer
  /-- A node profile names the node. -/
  | nodeName
  /-- A node profile names an architecture. -/
  | architecture
  deriving DecidableEq, Repr

/-- The report of a broken rule. -/
def Rule.message : Rule → String
  | .taintKey => "taint key cannot be empty"
  | .volumeNames => "volume name and configMapRef cannot be empty"
  | .absolutePath path => "mountPath '" ++ path ++ "' must be an absolute path"
  | .distinctVolumes name => "volume name '" ++ name ++ "' is declared more than once"
  | .someContainer => "pod must declare at least one container"
  | .nodeName => "node_name cannot be empty"
  | .architecture => "architecture cannot be empty"

/-- What is wrong with a value at a place. -/
inductive Fault where
  /-- A required field is absent. -/
  | missing
  /-- The value is not a text. -/
  | notText
  /-- The bytes are not the encoding of a text. -/
  | notUnicode
  /-- The value is not a list, where the field holds a fixed sequence. -/
  | notTuple
  /-- The value is not a list. -/
  | notList
  /-- The value is not a mapping. -/
  | notMapping
  /-- The value is not a mapping that could hold a model. -/
  | notModel (model : String)
  /-- The value is none of the names to choose from. -/
  | notChoice (choices : List String)
  /-- The value is not a truth value. -/
  | notBool
  /-- The value could be a truth value but for its content. -/
  | unclearBool
  /-- A rule of the model is broken. -/
  | broken (rule : Rule)
  deriving DecidableEq, Repr

/-- Names to choose from, in quotes, as an enumeration in a sentence. -/
def choiceText : List String → String
  | [] => ""
  | [name] => "'" ++ name ++ "'"
  | [first, last] => "'" ++ first ++ "' or '" ++ last ++ "'"
  | name :: names => "'" ++ name ++ "', " ++ choiceText names

/-- The report of a fault. -/
def Fault.message : Fault → String
  | .missing => "Field required"
  | .notText => "Input should be a valid string"
  | .notUnicode =>
    "Input should be a valid string, unable to parse raw data as a unicode string"
  | .notTuple => "Input should be a valid tuple"
  | .notList => "Input should be a valid list"
  | .notMapping => "Input should be a valid dictionary"
  | .notModel model => "Input should be a valid dictionary or instance of " ++ model
  | .notChoice choices => "Input should be " ++ choiceText choices
  | .notBool => "Input should be a valid boolean"
  | .unclearBool => "Input should be a valid boolean, unable to interpret input"
  | .broken rule => "Value error, " ++ rule.message

/-- A fault at a place. -/
structure Problem where
  /-- The way from the whole value to the place. -/
  place : List PlaceStep
  /-- What is wrong there. -/
  fault : Fault
  deriving Repr

/-- A problem on one line. -/
def Problem.line (problem : Problem) : String :=
  joinTexts "." (problem.place.map PlaceStep.text) ++ ": " ++ problem.fault.message

/-- The outcome of a validation. -/
inductive Validated (α : Type) where
  /-- The value that the document denotes. -/
  | valid (value : α)
  /-- All problems of the document. -/
  | invalid (problems : List Problem)
  /-- A toleration for this key compares with no value. -/
  | unmatchable (key : String)
  deriving Repr

namespace Validated

variable {α β : Type}

/-- Apply a function to a valid value. -/
def map (f : α → β) : Validated α → Validated β
  | .valid value => .valid (f value)
  | .invalid problems => .invalid problems
  | .unmatchable key => .unmatchable key

/-- Check a valid value further. -/
def andThen (outcome : Validated α) (next : α → Validated β) : Validated β :=
  match outcome with
  | .valid value => next value
  | .invalid problems => .invalid problems
  | .unmatchable key => .unmatchable key

/-- Two validations of independent parts. The problems of both are reported; a toleration that
matches nothing takes precedence over problems, and the first one over a second one. -/
def zip : Validated α → Validated β → Validated (α × β)
  | .unmatchable key, _ => .unmatchable key
  | _, .unmatchable key => .unmatchable key
  | .valid left, .valid right => .valid (left, right)
  | .valid _, .invalid problems => .invalid problems
  | .invalid problems, .valid _ => .invalid problems
  | .invalid problems, .invalid more => .invalid (problems ++ more)

/-- One fault of the whole value. -/
def fault (f : Fault) : Validated α :=
  .invalid [⟨[], f⟩]

/-- A broken rule of the whole value. -/
def broken (rule : Rule) : Validated α :=
  fault (.broken rule)

/-- An outcome for a part, as an outcome for the whole that holds the part at a step. -/
def atStep (step : PlaceStep) : Validated α → Validated α
  | .valid value => .valid value
  | .invalid problems =>
    .invalid (problems.map fun problem => ⟨step :: problem.place, problem.fault⟩)
  | .unmatchable key => .unmatchable key

/-- The outcomes for all elements of a list, from a position on. -/
def allFrom (check : Document → Validated α) : Nat → List Document → Validated (List α)
  | _, [] => .valid []
  | position, item :: items =>
    (((check item).atStep (.index position)).zip (allFrom check (position + 1) items)).map
      fun pair => pair.1 :: pair.2

end Validated

/-! ## Checks of single values -/

/-- A text, given as such or as the bytes of its encoding. -/
def checkText : Document → Validated String
  | .text value => .valid value
  | .bytes value =>
    match decodeUtf8 value with
    | .ok s => .valid (String.ofList s)
    | .error _ => .fault .notUnicode
  | _ => .fault .notText

/-- A text, or nothing. -/
def checkOptionalText : Document → Validated (Option String)
  | .null => .valid none
  | other => (checkText other).map some

/-- One of several names, each standing for a value. -/
def checkChoice {α : Type} (choices : List (String × α)) (d : Document) : Validated α :=
  let chosen : Option (String × α) :=
    match checkText d with
    | .valid name => choices.find? fun choice => choice.1 == name
    | _ => none
  match chosen with
  | some choice => .valid choice.2
  | none => .fault (.notChoice (choices.map Prod.fst))

/-- The names that stand for truth values, in lower case. -/
def truthNames : List (String × Bool) :=
  [("0", false), ("off", false), ("f", false), ("false", false), ("n", false), ("no", false),
    ("1", true), ("on", true), ("t", true), ("true", true), ("y", true), ("yes", true)]

/-- The truth value that a name stands for, in any case. -/
def checkTruthName (name : String) : Validated Bool :=
  let lower := String.ofList (name.toList.map Char.toLower)
  match truthNames.find? fun choice => choice.1 == lower with
  | some choice => .valid choice.2
  | none => .fault .unclearBool

/-- The truth value that an integer stands for. -/
def checkTruthInt (n : Int) : Validated Bool :=
  if n = 0 then .valid false
  else if n = 1 then .valid true
  else .fault .unclearBool

/-- The least integer that is too large for a signed word of 64 bits. -/
def wordLimit : Int := 9223372036854775808

/-- A truth value, or a text or number that stands for one. A number that no signed word of 64 bits
holds, or with a fraction, is no candidate at all. -/
def checkBool : Document → Validated Bool
  | .bool value => .valid value
  | .text name => checkTruthName name
  | .bytes value =>
    match decodeUtf8 value with
    | .ok s => checkTruthName (String.ofList s)
    | .error _ => .fault .unclearBool
  | .int n => if -wordLimit ≤ n ∧ n < wordLimit then checkTruthInt n else .fault .notBool
  | .float x =>
    match x.toInt? with
    | some n => if -wordLimit < n ∧ n < wordLimit then checkTruthInt n else .fault .notBool
    | none => .fault .notBool
  | _ => .fault .notBool

/-- A sequence whose elements are checked one by one; anything else is a fault. -/
def checkItems {α : Type} (otherwise : Fault) (check : Document → Validated α) (d : Document) :
    Validated (List α) :=
  match d.sequence? with
  | some items => Validated.allFrom check 0 items
  | none => .fault otherwise

/-- A fixed sequence whose elements are checked one by one. -/
def checkTuple {α : Type} (check : Document → Validated α) : Document → Validated (List α) :=
  checkItems .notTuple check

/-- The entries of a mapping that can hold a model. -/
def checkModel (model : String) (d : Document) : Validated Entries :=
  match d.entries? with
  | some entries => .valid entries
  | none => .fault (.notModel model)

/-! ## Fields of a model -/

/-- The value of a field: under its outer name, or else under its inner name. -/
def Entries.field? (entries : Entries) (name inner : String) : Option Document :=
  match entries.get? name with
  | some value => some value
  | none => entries.get? inner

/-- A field that has to be present, under either of two names. Its problems stand at the outer name,
also where the value is found under the inner one. -/
def requiredAs {α : Type} (entries : Entries) (name inner : String)
    (check : Document → Validated α) : Validated α :=
  match entries.field? name inner with
  | some value => (check value).atStep (.field name)
  | none => .invalid [⟨[.field name], .missing⟩]

/-- A field with a default, under either of two names. Its problems stand at the outer name too. -/
def optionalAs {α : Type} (entries : Entries) (name inner : String) (default : α)
    (check : Document → Validated α) : Validated α :=
  match entries.field? name inner with
  | some value => (check value).atStep (.field name)
  | none => .valid default

/-- A field that has to be present. -/
def required {α : Type} (entries : Entries) (name : String) (check : Document → Validated α) :
    Validated α :=
  requiredAs entries name name check

/-- A field with a default. -/
def optional {α : Type} (entries : Entries) (name : String) (default : α)
    (check : Document → Validated α) : Validated α :=
  optionalAs entries name name default check

/-- A model: values that documents denote and that are written as documents. -/
class Model (α : Type) where
  /-- The name of the model in reports. -/
  name : String
  /-- The value that a document denotes. -/
  validate : Document → Validated α
  /-- A value as a mapping from the names of its fields. -/
  toDocument : α → Document

end PodLaunch
