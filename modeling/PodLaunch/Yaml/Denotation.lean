import PodLaunch.Document.Display
import PodLaunch.Yaml.Merge

/-!
# The document that a node denotes

The document is built layer by layer: the root first, then what it holds, then what that holds. Each
list, mapping or set is begun empty where it is met and filled when its turn comes, so that a list
can hold itself and the defect that lies nearest to the root counts. Only the keys of a manifest are
completed at once. In the end, what has been filled is put together from the root.
-/

namespace PodLaunch.Yaml

/-- A place in a list or a mapping that is being built. -/
inductive Part where
  /-- A document that is complete. -/
  | done (document : Document)
  /-- The list or mapping with a number. -/
  | collection (number : Nat)
  deriving Repr, Inhabited

/-- A list, a mapping or a set that is being built: it is empty until its turn comes. -/
inductive Draft where
  /-- A list. -/
  | list (parts : List Part)
  /-- A mapping, without repeated keys. -/
  | mapping (entries : List (Document × Part))
  /-- A set, without repeated members. -/
  | set (members : List Document)
  /-- A mapping that is tagged as ordered, without repeated keys. -/
  | ordered (entries : List (Document × Part))
  /-- A list of pairs. -/
  | pairs (pairs : List (Part × Part))
  deriving Repr

/-- A construction site. -/
structure Building where
  /-- The dialect. -/
  dialect : Dialect
  /-- The lists and mappings as they are written. -/
  collections : Collections
  /-- Those that have been begun, by their numbers. -/
  drafts : Array (Option Draft)
  /-- The nodes whose turn is still to come. -/
  waiting : List Node := []

/-- The shape of a draft. -/
def Draft.shape : Draft → Shape
  | .list _ | .pairs _ => .list
  | .mapping _ => .mapping
  | .set _ => .set
  | .ordered _ => .ordered

/-- The document of a draft that is still empty. -/
def Draft.empty : Draft → Document
  | .list _ | .pairs _ => .list []
  | .mapping _ => .mapping []
  | .set _ => .set []
  | .ordered _ => .ordered []

/-- What a node that is meant to hold others is begun as. For a profile, an ordered mapping is a
list of pairs. -/
def Meaning.draft? (dialect : Dialect) : Meaning → Option Draft
  | .list => some (.list [])
  | .mapping => some (.mapping [])
  | .set => some (.set [])
  | .ordered => some (if dialect.isProfile then .pairs [] else .ordered [])
  | .pairs => some (.pairs [])
  | .scalar _ | .unknown => none

namespace Building

/-- The draft with a number. -/
def draft? (building : Building) (number : Nat) : Option Draft :=
  (building.drafts[number]?).join

/-- The shape of what is built under a number. -/
def shape (building : Building) (number : Nat) : Shape :=
  ((building.draft? number).map Draft.shape).getD .list

/-- Set the draft with a number. -/
def setDraft (building : Building) (number : Nat) (draft : Draft) : Building :=
  { building with drafts := building.drafts.setIfInBounds number (some draft) }

/-! ## Putting together -/

/-- The lists and mappings that documents refer to from within. -/
abbrev Marks := List Nat

/-- A list or a mapping with the marks that it refers to: it is cyclic if there are any, be it that
it holds itself or that it is held by what it holds. Its own mark means nothing to what is around
it. -/
def close (number : Nat) (content : Document) (marks : Marks) : Document × Marks :=
  if marks.isEmpty then (content, [])
  else (.cyclic number content, marks.filter (· ≠ number))

/-- A part with everything in it, and the lists and mappings around it that it refers to. Those
around it are given; their number is bounded by the first argument. -/
def assemble (building : Building) : Nat → Marks → Part → Document × Marks
  | _, _, .done document => (document, [])
  | 0, _, .collection number => (.again number (building.shape number), [number])
  | steps + 1, around, .collection number =>
    if around.contains number then (.again number (building.shape number), [number])
    else
      match building.draft? number with
      | some (.list parts) =>
        let items := parts.map (assemble building steps (number :: around))
        close number (.list (items.map (·.1))) (items.flatMap (·.2))
      | some (.mapping entries) =>
        let values := entries.map fun entry =>
          assemble building steps (number :: around) entry.2
        close number (.mapping ((entries.map (·.1)).zip (values.map (·.1))))
          (values.flatMap (·.2))
      | some (.set members) => (.set members, [])
      | some (.ordered entries) =>
        let values := entries.map fun entry =>
          assemble building steps (number :: around) entry.2
        close number (.ordered ((entries.map (·.1)).zip (values.map (·.1))))
          (values.flatMap (·.2))
      | some (.pairs pairs) =>
        let found := pairs.map fun pair =>
          (assemble building steps (number :: around) pair.1,
            assemble building steps (number :: around) pair.2)
        close number (.list (found.map fun pair => .tuple [pair.1.1, pair.2.1]))
          (found.flatMap fun pair => pair.1.2 ++ pair.2.2)
      | none => (.null, [])

/-- The document that a part stands for, as far as it has been built. -/
def document (building : Building) (part : Part) : Document :=
  (building.assemble (building.drafts.size + 1) [] part).1

/-! ## Scalars -/

/-- The text of a node that is meant to be a scalar: a mapping stands for the value under its
stand-in key. The first argument bounds the depth; only mappings that stand for each other go beyond
it. -/
def scalarText (collections : Collections) : Nat → Node → Except Defect String
  | _, .scalar _ text => .ok text
  | 0, _ => .error .tooDeep
  | steps + 1, node =>
    match node.content? collections with
    | some (.entries entries _) => do
      let entry ← orMalformed
        (entries.find? fun entry => entry.1.meaning collections = .scalar .standIn)
      scalarText collections steps entry.2
    | _ => .error .malformed

/-- The document that a node stands for if it is meant to be a scalar. A date must be written as
one. -/
def scalar (building : Building) (kind : ScalarKind) (node : Node) : Except Defect Document := do
  let text ← scalarText building.collections (building.collections.size + 1) node
  match kind, node with
  | .timestamp, .collection _ =>
    throw (if building.dialect.isProfile then .mappingAsTime else .malformed)
  | _, _ => scalarDocument building.dialect kind text

/-! ## Keys -/

/-- The shape of a part that cannot be a key, or a part of one. -/
def shape? (building : Building) : Part → Option Shape
  | .done document => document.shape?
  | .collection number => some (building.shape number)

/-- A key: whether it is complete, or the shape of its first part that cannot be in a key. A
manifest also allows lists, as they are at this time, but only pairs in them hold others. -/
def key (building : Building) (part : Part) : Except Defect (Document × Option Shape) :=
  match part with
  | .done document =>
    if document.shape?.isSome then .error .malformed else .ok (document, none)
  | .collection number =>
    if building.dialect.isProfile then .error .malformed
    else
      match building.draft? number with
      | some (.list parts) =>
        .ok (.tuple (parts.map building.document), parts.findSome? building.shape?)
      | some (.pairs pairs) =>
        .ok (.tuple (pairs.map fun pair =>
            .tuple [building.document pair.1, building.document pair.2]),
          pairs.findSome? fun pair => building.shape? pair.1 <|> building.shape? pair.2)
      | _ => .error .malformed

/-- A key of a mapping that is tagged as ordered. -/
def orderedKey (building : Building) (part : Part) : Except Defect Document :=
  match building.shape? part with
  | some shape => .error (.nestedKey shape)
  | none => .ok (building.document part)

/-- The defect of a key that comes twice. Its report shows the key and both values. -/
def repeatedKey (building : Building) (key : Document) (value old : Part) : Defect :=
  if key.isShown && (building.document value).isShown && (building.document old).isShown then
    .malformed
  else .hiddenInteger

/-- Add an entry to those of a mapping: an old entry keeps its place and its key. -/
def addEntry : List (Document × Part) → Document → Part → List (Document × Part)
  | [], key, value => [(key, value)]
  | entry :: entries, key, value =>
    if entry.1.sameKey key then (entry.1, value) :: entries
    else entry :: addEntry entries key value

/-! ## Layers -/

/-- Begin the document that a node denotes. A scalar is complete at once, and what holds others is
begun unless it has been before. The result also tells whether the node has to be filled. -/
def begin (building : Building) (node : Node) : Except Defect (Part × Building × Bool) :=
  match node, node.meaning building.collections with
  | .scalar _ _, .scalar kind => do
    return (.done (← building.scalar kind node), building, false)
  | .scalar _ _, meaning => do
    let draft ← orMalformed (meaning.draft? building.dialect)
    return (.done draft.empty, building, true)
  | .collection number, meaning =>
    match building.draft? number, meaning with
    | some _, _ => .ok (.collection number, building, false)
    | none, .scalar kind => do
      return (.done (← building.scalar kind node), building, false)
    | none, meaning => do
      let draft ← orMalformed (meaning.draft? building.dialect)
      return (.collection number, building.setDraft number draft, true)

/-- The parts that some nodes denote, in order. -/
def parts (part : Node → Building → Except Defect (Part × Building)) :
    List Node → Building → Except Defect (List Part × Building)
  | [], building => .ok ([], building)
  | node :: nodes, building => do
    let (first, building) ← part node building
    let (rest, building) ← parts part nodes building
    return (first :: rest, building)

/-- The entries of a mapping, added to earlier ones. Unless others are merged into it, a manifest
must not repeat a key. -/
def entries (keyPart valuePart : Node → Building → Except Defect (Part × Building))
    (isMerged : Bool) : List (Document × Part) → List (Node × Node) → Building →
    Except Defect (List (Document × Part) × Building)
  | earlier, [], building => .ok (earlier, building)
  | earlier, (keyNode, valueNode) :: others, building => do
    let (part, building) ← keyPart keyNode building
    let (key, nested) ← building.key part
    let (value, building) ← valuePart valueNode building
    if let some shape := nested then throw (.nestedKey shape)
    if !building.dialect.isProfile && !isMerged then
      if let some entry := earlier.find? fun entry => entry.1.sameKey key then
        throw (building.repeatedKey key value entry.2)
    entries keyPart valuePart isMerged (addEntry earlier key value) others building

/-- The entries of the mapping with a number, once its merge keys have been taken away. -/
def ownEntries (keyPart valuePart : Node → Building → Except Defect (Part × Building))
    (number : Nat) (building : Building) :
    Except Defect (List (Document × Part) × Building) := do
  let collections ← withoutMergeKeys building.dialect number building.collections
  let building := { building with collections }
  match Node.content? collections (.collection number) with
  | some (.entries own isMerged) => entries keyPart valuePart isMerged [] own building
  | _ => throw .malformed

/-- The key and the value of a mapping with one entry. -/
def pairNodes (building : Building) (node : Node) : Except Defect (Node × Node) :=
  match node.content? building.collections with
  | some (.entries [entry] _) => .ok entry
  | _ => .error .malformed

/-- The pairs that mappings with one entry each denote, in order. -/
def pairs (part : Node → Building → Except Defect (Part × Building)) :
    List Node → Building → Except Defect (List (Part × Part) × Building)
  | [], building => .ok ([], building)
  | node :: nodes, building => do
    let (keyNode, valueNode) ← building.pairNodes node
    let (key, building) ← part keyNode building
    let (value, building) ← part valueNode building
    let (rest, building) ← pairs part nodes building
    return ((key, value) :: rest, building)

/-- The entries of an ordered mapping, added to earlier ones: each one stands in a mapping of its
own. A key must not be repeated; this is found out before its value is built. -/
def orderedEntries (part : Node → Building → Except Defect (Part × Building)) :
    List (Document × Part) → List Node → Building →
    Except Defect (List (Document × Part) × Building)
  | earlier, [], building => .ok (earlier, building)
  | earlier, node :: nodes, building => do
    let (keyNode, valueNode) ← building.pairNodes node
    let (keyPart, building) ← part keyNode building
    let key ← building.orderedKey keyPart
    if earlier.any fun entry => entry.1.sameKey key then throw .repeatedEntry
    let (value, building) ← part valueNode building
    orderedEntries part (earlier ++ [(key, value)]) nodes building

/-- The part that a node denotes, to be filled later on. -/
def later (node : Node) (building : Building) : Except Defect (Part × Building) := do
  let (part, building, isEmpty) ← building.begin node
  if isEmpty then return (part, { building with waiting := building.waiting ++ [node] })
  else return (part, building)

/-- What is built under a number, given what it has been begun as and what is written. These have to
be of one kind. -/
def filled (keyPart part : Node → Building → Except Defect (Part × Building)) (number : Nat)
    (empty : Draft) (content : Content) (building : Building) :
    Except Defect (Draft × Building) :=
  match empty, content with
  | .list _, .items items => do
    let (found, building) ← parts part items building
    return (.list found, building)
  | .mapping _, .entries _ _ => do
    let (found, building) ← ownEntries keyPart part number building
    return (.mapping found, building)
  | .set _, .entries _ _ => do
    let (found, building) ← ownEntries keyPart part number building
    return (.set (found.map Prod.fst), building)
  | .ordered _, .items items => do
    let (found, building) ← orderedEntries part [] items building
    return (.ordered found, building)
  | .pairs _, .items items => do
    let (found, building) ← pairs part items building
    return (.pairs found, building)
  | _, _ => .error .malformed

/-- Fill what has been begun, given how keys and other parts are built. -/
def fill (keyPart part : Node → Building → Except Defect (Part × Building)) (node : Node)
    (building : Building) : Except Defect Building := do
  let .collection number := node | throw .malformed
  let content ← orMalformed (node.content? building.collections)
  let empty ← orMalformed ((node.meaning building.collections).draft? building.dialect)
  let (draft, building) ← filled keyPart part number empty content building
  return building.setDraft number draft

/-- The part that a node denotes, filled at once. The first argument bounds the depth. -/
def atOnce : Nat → Node → Building → Except Defect (Part × Building)
  | 0, _, _ => .error .malformed
  | steps + 1, node, building => do
    let (part, building, isEmpty) ← building.begin node
    if isEmpty then return (part, ← fill (atOnce steps) (atOnce steps) node building)
    else return (part, building)

/-- The part that a key denotes: only in a manifest it may be a list, which is filled at once. -/
def keyPart (node : Node) (building : Building) : Except Defect (Part × Building) :=
  if building.dialect.isProfile then later node building
  else atOnce (building.collections.size + 2) node building

/-- Fill the lists and mappings that wait, and then those that they hold. The first argument bounds
their number. -/
def fillWaiting : Nat → Building → Except Defect Building
  | 0, _ => .error .malformed
  | steps + 1, building =>
    match building.waiting with
    | [] => .ok building
    | node :: waiting => do
      fillWaiting steps (← fill keyPart later node { building with waiting })

end Building

/-- The document that a root denotes, given the lists and mappings. -/
def Node.denote (dialect : Dialect) (collections : Collections) (root : Node) :
    Except Defect Document := do
  let drafts := collections.map fun _ => none
  let (part, building) ← Building.later root { dialect, collections, drafts }
  let building ← Building.fillWaiting (collections.size + 2) building
  return building.document part

end PodLaunch.Yaml
