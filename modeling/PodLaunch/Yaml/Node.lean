import PodLaunch.Yaml.Scalar
import PodLaunch.Yaml.Token

/-!
# Nodes

A node is a piece of a text with its structure laid bare, before its scalars are given a meaning:

    node       = alias | properties content
    properties = [anchor] [tag] in either order
    content    = scalar | flow list | flow mapping | block list | block mapping | nothing

Content may be missing where properties are given, and a key, a value or an element of a block list
may be missing altogether; an empty plain scalar stands in for it. An alias stands for the node that
carries its anchor. Since that node may be around the alias, the lists and mappings of a document
are numbered, and a node names them by their number.
-/

namespace PodLaunch.Yaml

/-- A node. -/
inductive Node where
  /-- A scalar: what it is meant to be, and its text. -/
  | scalar (meaning : Meaning) (text : String)
  /-- The list or mapping with a number. -/
  | collection (number : Nat)
  deriving DecidableEq, Repr, Inhabited

/-- What a list or a mapping holds. -/
inductive Content where
  /-- The elements of a list. -/
  | items (items : List Node)
  /-- The entries of a mapping, in order, and whether entries have been merged into them. -/
  | entries (entries : List (Node × Node)) (isMerged : Bool)
  deriving DecidableEq, Repr

/-- A list or a mapping, as it is written. -/
structure Collection where
  /-- What it is meant to be. -/
  meaning : Meaning
  /-- What it holds. -/
  content : Content
  deriving DecidableEq, Repr

/-- The lists and mappings of a document, by their numbers. -/
abbrev Collections := Array Collection

/-- What the handles of tags stand for. -/
abbrev Handles := List (String × String)

/-- What the handles stand for unless a directive says otherwise. -/
def defaultHandles : Handles :=
  [("!", "!"), ("!!", "tag:yaml.org,2002:")]

/-- The full tag that is written with a handle. -/
def WrittenTag.full? (tag : WrittenTag) (handles : Handles) : Option String :=
  match tag.handle with
  | none => some tag.suffix
  | some handle =>
    (handles.find? fun entry => entry.1 == handle).map fun entry => entry.2 ++ tag.suffix

/-- The properties of a node. -/
structure Properties where
  /-- Its anchor. -/
  anchor : Option String := none
  /-- Its full tag. -/
  tag : Option String := none
  deriving Repr

namespace Properties

/-- The tag, unless it is the mark that asks for the usual meaning. -/
def meaningTag (properties : Properties) : Option String :=
  if properties.tag = some "!" then none else properties.tag

/-- What a scalar with these properties is meant to be. The mark that asks for the usual meaning
makes it as good as a plain one. -/
def scalarMeaning (properties : Properties) (dialect : Dialect) (isPlain : Bool) (text : String) :
    Except Defect Meaning :=
  match properties.meaningTag with
  | some tag => .ok (.ofTag tag)
  | none => Meaning.ofUntagged dialect (isPlain || properties.tag.isSome) text

/-- What a collection with these properties is meant to be. -/
def collectionMeaning (properties : Properties) (usual : Meaning) : Meaning :=
  (properties.meaningTag.map Meaning.ofTag).getD usual

/-- Whether there are any properties. -/
def isAny (properties : Properties) : Bool :=
  properties.anchor.isSome || properties.tag.isSome

end Properties

/-- What remains to be read, and what has been read so far. -/
structure Reading where
  /-- The tokens that remain. -/
  lexemes : List Lexeme
  /-- The lists and mappings. -/
  collections : Collections := #[]
  /-- The nodes that carry an anchor, the last one first. -/
  anchors : List (String × Node) := []
  deriving Repr

namespace Reading

/-- The next token. Where it cannot be read, its cause is reported. -/
def next (reading : Reading) : Except Defect Lexeme :=
  match reading.lexemes with
  | [] => .error .malformed
  | lexeme :: _ =>
    match lexeme.token with
    | .defect cause => .error cause
    | _ => .ok lexeme

/-- Go on behind the next token. -/
def skip (reading : Reading) : Reading :=
  { reading with lexemes := reading.lexemes.drop 1 }

/-- The node that carries an anchor. -/
def anchored? (reading : Reading) (name : String) : Option Node :=
  (reading.anchors.find? fun entry => entry.1 == name).map (·.2)

/-- Note the anchor of a node that begins here. A profile must not use an anchor twice. -/
def note (reading : Reading) (dialect : Dialect) (anchor : Option String) (node : Node) :
    Except Defect Reading :=
  match anchor with
  | none => .ok reading
  | some name =>
    if dialect.isProfile && (reading.anchored? name).isSome then .error .malformed
    else .ok { reading with anchors := (name, node) :: reading.anchors }

/-- Begin a list or a mapping: it gets a number, and its anchor can be used within it. -/
def openCollection (reading : Reading) (dialect : Dialect) (anchor : Option String)
    (meaning : Meaning) : Except Defect (Nat × Reading) := do
  let number := reading.collections.size
  let reading ← reading.note dialect anchor (.collection number)
  return (number, { reading with collections := reading.collections.push ⟨meaning, .items []⟩ })

/-- End the list or mapping with a number. -/
def closeCollection (reading : Reading) (number : Nat) (content : Content) : Node × Reading :=
  (.collection number,
    { reading with
      collections := reading.collections.modify number fun collection =>
        { collection with content } })

/-- The empty scalar in the place of a missing node. -/
def missing (reading : Reading) : Except Defect (Node × Reading) := do
  let lexeme ← reading.next
  return (.scalar (← Meaning.ofUntagged lexeme.dialect true "") "", reading)

/-- The anchor that comes next, if there is one. -/
def readAnchor (reading : Reading) : Except Defect (Option String × Reading) := do
  match (← reading.next).token with
  | .anchor name => return (some name, reading.skip)
  | _ => return (none, reading)

/-- The tag that comes next, if there is one. -/
def readTag (reading : Reading) : Except Defect (Option WrittenTag × Reading) := do
  match (← reading.next).token with
  | .tag tag => return (some tag, reading.skip)
  | _ => return (none, reading)

/-- The properties in front of a node. The handle of its tag has to be known. -/
def readProperties (handles : Handles) (reading : Reading) :
    Except Defect (Properties × Reading) := do
  let (before, reading) ← reading.readAnchor
  let (tag, reading) ← reading.readTag
  let (anchor, reading) ←
    if before.isNone && tag.isSome then reading.readAnchor else pure (before, reading)
  match tag with
  | none => return (⟨anchor, none⟩, reading)
  | some tag => return (⟨anchor, some (← orMalformed (tag.full? handles))⟩, reading)

/-- The position of a node among the tokens around it. -/
structure Position where
  /-- Whether the node may be a block collection. -/
  block : Bool
  /-- Whether the node may be a list whose dashes stand at the column of the mapping around it. -/
  dashes : Bool

/-- A node within a flow collection. -/
def Position.flow : Position := ⟨false, false⟩

/-- An element of a block list, or the root. -/
def Position.element : Position := ⟨true, false⟩

/-- A key or a value of a block mapping. -/
def Position.entry : Position := ⟨true, true⟩

/-- Whether a node is missing before a token within a block collection. -/
def endsBlockNode : Token → Bool
  | .key | .value | .blockEnd => true
  | _ => false

/-- Whether a node is missing before a token behind a dash within a block list. -/
def endsElement : Token → Bool
  | .dash | .blockEnd => true
  | _ => false

/-- Whether a node is missing before a token behind a dash at the column of a mapping. -/
def endsDashed (token : Token) : Bool :=
  endsElement token || endsBlockNode token

/-- Whether a node is missing before a token within a flow list. -/
def endsListNode : Token → Bool
  | .comma | .flowListEnd => true
  | _ => false

/-- Whether a node is missing before a token within a flow mapping. -/
def endsMappingNode : Token → Bool
  | .comma | .flowMappingEnd => true
  | _ => false

/-- Go on to the next entry of a flow collection: behind a comma, unless it is the first one. The
token that ends the collection may come in its place. -/
def toFlowEntry (reading : Reading) (first : Bool) (ending : Token) : Except Defect Reading := do
  let lexeme ← reading.next
  if first || lexeme.token = ending then return reading
  else if lexeme.token = .comma then return reading.skip
  else throw .malformed

mutual

/-- A node. The first argument bounds the number of steps. -/
def readNode (handles : Handles) : Nat → Position → Reading → Except Defect (Node × Reading)
  | 0, _, _ => .error .malformed
  | steps + 1, position, reading => do
    match (← reading.next).token with
    | .alias name => return (← orMalformed (reading.anchored? name), reading.skip)
    | _ =>
      let (properties, reading) ← reading.readProperties handles
      readContent handles steps position properties reading

/-- The content of a node behind its properties. -/
def readContent (handles : Handles) :
    Nat → Position → Properties → Reading → Except Defect (Node × Reading)
  | 0, _, _, _ => .error .malformed
  | steps + 1, position, properties, reading => do
    let lexeme ← reading.next
    let dialect := lexeme.dialect
    let asList := properties.collectionMeaning .list
    let asMapping := properties.collectionMeaning .mapping
    match lexeme.token, position with
    | .dash, ⟨_, true⟩ =>
      let (number, reading) ← reading.openCollection dialect properties.anchor asList
      let (items, reading) ← readDashes handles steps endsDashed [] reading
      return reading.closeCollection number (.items items)
    | .scalar isPlain text, _ =>
      let node := Node.scalar (← properties.scalarMeaning dialect isPlain text) text
      return (node, ← reading.skip.note dialect properties.anchor node)
    | .flowListStart, _ =>
      let (number, reading) ← reading.skip.openCollection dialect properties.anchor asList
      let (items, reading) ← readFlowList handles steps true [] reading
      return reading.closeCollection number (.items items)
    | .flowMappingStart, _ =>
      let (number, reading) ← reading.skip.openCollection dialect properties.anchor asMapping
      let (entries, reading) ← readFlowMapping handles steps true [] reading
      return reading.closeCollection number (.entries entries false)
    | .blockListStart, ⟨true, _⟩ =>
      let (number, reading) ← reading.skip.openCollection dialect properties.anchor asList
      let (items, reading) ← readDashes handles steps endsElement [] reading
      if (← reading.next).token ≠ .blockEnd then throw .malformed
      return reading.skip.closeCollection number (.items items)
    | .blockMappingStart, ⟨true, _⟩ =>
      let (number, reading) ← reading.skip.openCollection dialect properties.anchor asMapping
      let (entries, reading) ← readBlockMapping handles steps [] reading
      return reading.closeCollection number (.entries entries false)
    | _, _ =>
      if !properties.isAny then throw .malformed
      let node := Node.scalar (← properties.scalarMeaning dialect true "") ""
      return (node, ← reading.note dialect properties.anchor node)

/-- A node, or an empty one if it is missing before a token. -/
def readOptional (handles : Handles) :
    Nat → (Token → Bool) → Position → Reading → Except Defect (Node × Reading)
  | 0, _, _, _ => .error .malformed
  | steps + 1, ends, position, reading => do
    if ends (← reading.next).token then reading.missing
    else readNode handles steps position reading

/-- The elements of a list behind dashes, up to a token that is no dash. -/
def readDashes (handles : Handles) :
    Nat → (Token → Bool) → List Node → Reading → Except Defect (List Node × Reading)
  | 0, _, _, _ => .error .malformed
  | steps + 1, ends, items, reading => do
    match (← reading.next).token with
    | .dash =>
      let (item, reading) ← readOptional handles steps ends .element reading.skip
      readDashes handles steps ends (item :: items) reading
    | _ => return (items.reverse, reading)

/-- The value of an entry of a mapping, given the tokens before which it is missing. -/
def readValue (handles : Handles) :
    Nat → (Token → Bool) → Position → Reading → Except Defect (Node × Reading)
  | 0, _, _, _ => .error .malformed
  | steps + 1, ends, position, reading => do
    match (← reading.next).token with
    | .value => readOptional handles steps ends position reading.skip
    | _ => reading.missing

/-- The entries of a block mapping. -/
def readBlockMapping (handles : Handles) :
    Nat → List (Node × Node) → Reading → Except Defect (List (Node × Node) × Reading)
  | 0, _, _ => .error .malformed
  | steps + 1, entries, reading => do
    let lexeme ← reading.next
    match lexeme.token with
    | .key =>
      let (key, reading) ← readOptional handles steps endsBlockNode .entry reading.skip
      let (value, reading) ← readValue handles steps endsBlockNode .entry reading
      readBlockMapping handles steps ((key, value) :: entries) reading
    | .value =>
      if !lexeme.dialect.isLenient then throw .malformed
      let (key, reading) ← reading.missing
      let (value, reading) ← readValue handles steps endsBlockNode .entry reading
      readBlockMapping handles steps ((key, value) :: entries) reading
    | .blockEnd => return (entries.reverse, reading.skip)
    | _ => throw .malformed

/-- The key and the value behind the mark of a key in a flow collection. -/
def readFlowEntry (handles : Handles) :
    Nat → (Token → Bool) → Reading → Except Defect ((Node × Node) × Reading)
  | 0, _, _ => .error .malformed
  | steps + 1, ends, reading => do
    let (key, reading) ←
      readOptional handles steps (fun token => token = .value || ends token) .flow reading
    let (value, reading) ← readValue handles steps ends .flow reading
    return ((key, value), reading)

/-- The elements of a flow list, from the first one or from behind an earlier one. An entry with a
key is a mapping of its own. -/
def readFlowList (handles : Handles) :
    Nat → Bool → List Node → Reading → Except Defect (List Node × Reading)
  | 0, _, _, _ => .error .malformed
  | steps + 1, first, items, reading => do
    let reading ← reading.toFlowEntry first .flowListEnd
    let lexeme ← reading.next
    match lexeme.token with
    | .flowListEnd => return (items.reverse, reading.skip)
    | .key =>
      let (number, reading) ← reading.skip.openCollection lexeme.dialect none .mapping
      let (entry, reading) ← readFlowEntry handles steps endsListNode reading
      let (item, reading) := reading.closeCollection number (.entries [entry] false)
      readFlowList handles steps false (item :: items) reading
    | _ =>
      let (item, reading) ← readNode handles steps .flow reading
      readFlowList handles steps false (item :: items) reading

/-- The entries of a flow mapping, from the first one or from behind an earlier one. -/
def readFlowMapping (handles : Handles) :
    Nat → Bool → List (Node × Node) → Reading → Except Defect (List (Node × Node) × Reading)
  | 0, _, _, _ => .error .malformed
  | steps + 1, first, entries, reading => do
    let reading ← reading.toFlowEntry first .flowMappingEnd
    let lexeme ← reading.next
    match lexeme.token with
    | .flowMappingEnd => return (entries.reverse, reading.skip)
    | .key =>
      let (entry, reading) ← readFlowEntry handles steps endsMappingNode reading.skip
      readFlowMapping handles steps false (entry :: entries) reading
    | .value =>
      if !lexeme.dialect.isLenient then throw .malformed
      let (key, reading) ← reading.missing
      let (value, reading) ← readValue handles steps endsMappingNode .flow reading
      readFlowMapping handles steps false ((key, value) :: entries) reading
    | _ =>
      let (key, reading) ← readNode handles steps .flow reading
      let (value, reading) ← reading.missing
      readFlowMapping handles steps false ((key, value) :: entries) reading

end

end Reading

/-- The root node of a document, with its lists and mappings and the tokens behind it. Each token
takes part in at most a few steps. -/
def readRoot (handles : Handles) (lexemes : List Lexeme) : Except Defect (Node × Reading) :=
  Reading.readNode handles (6 * lexemes.length + 6) .element { lexemes }

end PodLaunch.Yaml
