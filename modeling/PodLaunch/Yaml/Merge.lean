import PodLaunch.Yaml.Node

/-!
# Merge keys

The value of a merge key contributes the entries of one mapping, or of several of which the first
takes precedence. They come before the entries of the mapping itself, which override them. A mapping
that contributes has its own merge keys taken away first.
-/

namespace PodLaunch.Yaml

/-- What a node is meant to be. -/
def Node.meaning (collections : Collections) : Node → Meaning
  | .scalar meaning _ => meaning
  | .collection number => ((collections[number]?).map (·.meaning)).getD .unknown

/-- What a node holds, if it is a list or a mapping. -/
def Node.content? (collections : Collections) : Node → Option Content
  | .scalar _ _ => none
  | .collection number => (collections[number]?).map (·.content)

/-- The entries of a mapping in front of its first merge key, the value of that key, and the entries
behind it. -/
def splitAtMerge? (collections : Collections) :
    List (Node × Node) → Option (List (Node × Node) × Node × List (Node × Node))
  | [] => none
  | entry :: entries =>
    if entry.1.meaning collections = .scalar .merge then some ([], entry.2, entries)
    else
      (splitAtMerge? collections entries).map fun (before, value, after) =>
        (entry :: before, value, after)

/-- A key that stands for its mapping is as good as a text within the mapping. -/
def withTextKey : Node × Node → Node × Node
  | (.scalar (.scalar .standIn) text, value) => (.scalar (.scalar .text) text, value)
  | entry => entry

/-- Set the entries of the mapping with a number. -/
def setEntries (number : Nat) (entries : List (Node × Node)) (isMerged : Bool)
    (collections : Collections) : Collections :=
  collections.modify number fun collection =>
    { collection with content := .entries entries isMerged }

/-- The entries of a mapping after a step that takes its merge keys away. Nothing but a mapping has
entries. -/
def entriesAfter (withoutMerge : Node → Collections → Except Defect Collections) (node : Node)
    (collections : Collections) : Except Defect (List (Node × Node) × Collections) := do
  let collections ← withoutMerge node collections
  match node.content? collections with
  | some (.entries entries _) => return (entries, collections)
  | _ => throw .malformed

/-- The entries of several mappings, those of the first one last. -/
def entriesOfAll (withoutMerge : Node → Collections → Except Defect Collections) :
    List Node → Collections → Except Defect (List (Node × Node) × Collections)
  | [], collections => .ok ([], collections)
  | node :: nodes, collections => do
    let (first, collections) ← entriesAfter withoutMerge node collections
    let (rest, collections) ← entriesOfAll withoutMerge nodes collections
    return (rest ++ first, collections)

/-- The entries that the value of a merge key contributes. -/
def contribution (withoutMerge : Node → Collections → Except Defect Collections) (value : Node)
    (collections : Collections) : Except Defect (List (Node × Node) × Collections) :=
  match value.content? collections with
  | some (.items items) => entriesOfAll withoutMerge items collections
  | _ => entriesAfter withoutMerge value collections

/-- Take the merge keys of a mapping away, given the entries that earlier ones have contributed. A
manifest has at most one such key that contributes anything. The first argument bounds the number of
merge keys. -/
def takeMerged (dialect : Dialect) :
    Nat → List (Node × Node) → Node → Collections → Except Defect Collections
  | steps + 1, merged, .collection number, collections =>
    match Node.content? collections (.collection number) with
    | some (.entries entries isMerged) =>
      match splitAtMerge? collections entries with
      | none =>
        .ok (setEntries number (merged ++ entries.map withTextKey)
          (isMerged || !merged.isEmpty) collections)
      | some (before, value, after) => do
        if !dialect.isProfile && !merged.isEmpty then throw .malformed
        let (found, collections) ← contribution (takeMerged dialect steps []) value
          (setEntries number (before ++ after) isMerged collections)
        takeMerged dialect steps (merged ++ found) (.collection number) collections
    | _ => .error .malformed
  | _, _, _, _ => .error .malformed

/-- The number of merge keys in a list or a mapping. -/
def Content.mergeCount (collections : Collections) : Content → Nat
  | .items _ => 0
  | .entries own _ => own.countP fun entry => entry.1.meaning collections = .scalar .merge

/-- Take the merge keys of a mapping away. Every step takes one of them, or ends. -/
def withoutMergeKeys (dialect : Dialect) (number : Nat) (collections : Collections) :
    Except Defect Collections :=
  let count := collections.toList.foldr (fun collection sum =>
    collection.content.mergeCount collections + sum) 0
  takeMerged dialect (count + 1) [] (.collection number) collections

end PodLaunch.Yaml
