import PodLaunch.Document.Date
import PodLaunch.Number.Binary64

/-!
# Documents

A document is the value that a manifest, a profile or an interchange text denotes before anything is
known about its meaning: scalars, lists, sets, and mappings whose entries keep their order. What
cannot be changed any more, such as a key or a pair, is a tuple instead of a list. A list or a
mapping may occur within itself; it then carries a mark, and its inner occurrences refer to it.
-/

namespace PodLaunch

open Number

/-- A sort of documents that hold others and that can be changed. None of them can be a key. -/
inductive Shape where
  /-- Lists. -/
  | list
  /-- Mappings. -/
  | mapping
  /-- Sets. -/
  | set
  /-- Mappings that are tagged as ordered. -/
  | ordered
  deriving DecidableEq, Repr

/-- The name of a shape. -/
def Shape.name : Shape → String
  | .list => "list"
  | .mapping => "dict"
  | .set => "set"
  | .ordered => "ordereddict"

/-- A document. -/
inductive Document where
  /-- The absent value. -/
  | null
  /-- A truth value. -/
  | bool (value : Bool)
  /-- An integer of any size. -/
  | int (value : Int)
  /-- A floating-point number. -/
  | float (value : Binary64)
  /-- A text. -/
  | text (value : String)
  /-- A sequence of bytes. -/
  | bytes (value : List UInt8)
  /-- A day. -/
  | date (value : Date)
  /-- A time of a day. -/
  | moment (value : Moment)
  /-- A list. -/
  | list (items : List Document)
  /-- A mapping, with its entries in order. -/
  | mapping (entries : List (Document × Document))
  /-- A list that cannot be changed. -/
  | tuple (items : List Document)
  /-- A set, with its members in the order in which they are written. -/
  | set (members : List Document)
  /-- A mapping that is tagged as ordered. -/
  | ordered (entries : List (Document × Document))
  /-- A list or a mapping that occurs within itself, with its mark. -/
  | cyclic (mark : Nat) (content : Document)
  /-- The list or mapping with a mark, within itself. -/
  | again (mark : Nat) (shape : Shape)
  deriving Repr, Inhabited

/-- The entries of a mapping. -/
abbrev Entries := List (Document × Document)

namespace Document

/-- Whether a document is a given text. -/
def isText (s : String) : Document → Bool
  | .text value => value == s
  | _ => false

/-- Whether a document counts as empty where a default may stand in for it. -/
def isFalsy : Document → Bool
  | .null => true
  | .bool value => !value
  | .int value => value == 0
  | .float value => value.isZero
  | .text value => value == ""
  | .bytes value => value.isEmpty
  | .list items | .tuple items | .set items => items.isEmpty
  | .mapping entries | .ordered entries => entries.isEmpty
  | _ => false

/-- The shape of a document, if it holds others and can be changed. -/
def shape? : Document → Option Shape
  | .list _ => some .list
  | .mapping _ => some .mapping
  | .set _ => some .set
  | .ordered _ => some .ordered
  | .cyclic _ content => content.shape?
  | .again _ shape => some shape
  | _ => none

/-- The number that a document is as a key: truth values count as zero and one. -/
def keyInt? : Document → Option Int
  | .bool value => some (if value then 1 else 0)
  | .int value => some value
  | .float value => value.toInt?
  | _ => none

mutual

/-- Whether two documents are one key of a mapping. Numbers are compared by value, whatever their
kind. -/
def sameKey : Document → Document → Bool
  | .null, .null => true
  | .text left, .text right => left == right
  | .bytes left, .bytes right => left == right
  | .date left, .date right => left == right
  | .moment left, .moment right => left.same right
  | .float left, .float right => left.sameValue right
  | .tuple left, .tuple right => sameKeys left right
  | left, right =>
    match keyInt? left, keyInt? right with
    | some leftInt, some rightInt => leftInt == rightInt
    | _, _ => false

/-- Whether the elements of two tuples agree as keys, one by one. -/
def sameKeys : List Document → List Document → Bool
  | [], [] => true
  | left :: lefts, right :: rights => sameKey left right && sameKeys lefts rights
  | _, _ => false

end

mutual

/-- A document in which the inner occurrences with a mark are replaced. The members of a set hold
none. -/
def replaceAgain (mark : Nat) (whole : Document) : Document → Document
  | .list items => .list (replaceInItems mark whole items)
  | .mapping entries => .mapping (replaceInEntries mark whole entries)
  | .tuple items => .tuple (replaceInItems mark whole items)
  | .ordered entries => .ordered (replaceInEntries mark whole entries)
  | .cyclic inner content =>
    if inner = mark then .cyclic inner content
    else .cyclic inner (replaceAgain mark whole content)
  | .again inner shape => if inner = mark then whole else .again inner shape
  | other => other

/-- The elements of a list or a tuple, with the inner occurrences with a mark replaced. -/
def replaceInItems (mark : Nat) (whole : Document) : List Document → List Document
  | [] => []
  | item :: items => replaceAgain mark whole item :: replaceInItems mark whole items

/-- The entries of a mapping, with the inner occurrences with a mark replaced. Keys hold none. -/
def replaceInEntries (mark : Nat) (whole : Document) :
    List (Document × Document) → List (Document × Document)
  | [] => []
  | (key, value) :: entries =>
    (key, replaceAgain mark whole value) :: replaceInEntries mark whole entries

end

/-- A document whose kind shows: one that occurs within itself is unfolded once. -/
def opened : Document → Document
  | .cyclic mark content => replaceAgain mark (.cyclic mark content) content
  | other => other

/-- The elements of a document, if it is a list. -/
def items? (d : Document) : Option (List Document) :=
  match d.opened with
  | .list items => some items
  | _ => none

/-- The elements of a document, if it can stand where a sequence is asked for: as a list, a tuple or
a set. -/
def sequence? (d : Document) : Option (List Document) :=
  match d.opened with
  | .list items | .tuple items | .set items => some items
  | _ => none

/-- The entries of a document, if it is a mapping, be it tagged as ordered or not. -/
def entries? (d : Document) : Option (List (Document × Document)) :=
  match d.opened with
  | .mapping entries | .ordered entries => some entries
  | _ => none

/-- A list has its elements where a sequence is asked for. -/
theorem sequence?_list (items : List Document) : (Document.list items).sequence? = some items :=
  rfl

/-- A mapping has its entries. -/
theorem entries?_mapping (entries : List (Document × Document)) :
    (Document.mapping entries).entries? = some entries :=
  rfl

end Document

namespace Entries

/-- The value under a key that is a text. -/
def get? (entries : Entries) (key : String) : Option Document :=
  (entries.find? fun entry => entry.1.isText key).map (·.2)

/-- Set the value under a key: an old entry keeps its place and its key, a new one comes last. -/
def insert : Entries → Document → Document → Entries
  | [], key, value => [(key, value)]
  | (oldKey, oldValue) :: rest, key, value =>
    if oldKey.sameKey key then (oldKey, value) :: rest
    else (oldKey, oldValue) :: insert rest key value

/-- Entries one after the other, a later value for the same key in the place of the earlier one. -/
def merge (entries later : Entries) : Entries :=
  later.foldl (fun merged entry => merged.insert entry.1 entry.2) entries

end Entries

end PodLaunch
