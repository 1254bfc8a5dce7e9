import PodLaunch.Decision
import PodLaunch.Pod

/-!
# Pods and nodes in manifests

A manifest document declares its kind, metadata and a specification. The parts of a pod or node are
collected from their sections; the first defect in the shape of a section ends the reading, whereas
all problems of one part are reported together.
-/

namespace PodLaunch

open Text

/-- The label that holds the architecture of a node. -/
def architectureLabel : String := "kubernetes.io/arch"

/-- Problems as lines of a list. -/
def problemLines (problems : List Problem) : String :=
  joinTexts "\n" (problems.map fun problem => "  - " ++ problem.line)

/-- A value in the wrong place, with its kind. -/
def gotText (value : Document) : String :=
  "Got " ++ value.kindName ++ ": " ++ value.display

namespace Manifest

/-- The name in the metadata of a document. -/
def metadataName? (document : Entries) : Option Document := do
  let metadata ← document.get? "metadata"
  Entries.get? (← metadata.entries?) "name"

/-- A document in reports: its kind, and the name in its metadata. -/
def describe (document : Entries) : String :=
  let kind := ((document.get? "kind").map Document.sentence).getD "<unknown kind>"
  let name := ((metadataName? document).map Document.sentence).getD "<unnamed>"
  kind ++ " '" ++ name ++ "'"

/-- Whether a document can be described: its kind and its name can be shown. -/
def canDescribe (document : Entries) : Bool :=
  ((document.get? "kind").map Document.isShown).getD true &&
    ((metadataName? document).map Document.isShown).getD true

end Manifest

/-- Why a document does not declare what it should. -/
inductive DocumentError where
  /-- The document is of another kind. -/
  | unexpectedKind (expected : String) (document : Entries)
  /-- A section or an entry of a list is not a mapping. -/
  | notMapping (place : String) (document : Entries) (value : Document)
  /-- A section is not a list. -/
  | notList (place : String) (document : Entries) (value : Document)
  /-- A volume is not backed by a bundle. -/
  | noBundle (volume : Document) (document : Entries)
  /-- A part of the document breaks the rules of its model. -/
  | invalid (document : Entries) (problems : List Problem)
  /-- A toleration for this key compares with no value. -/
  | unmatchable (key : String)
  deriving Repr

namespace DocumentError

open Manifest

/-- The failure that reports a cause. -/
def failure : DocumentError → Failure
  | .unexpectedKind expected document =>
    ⟨.manifest, "Expected a " ++ expected ++ " manifest, got " ++ describe document, none⟩
  | .notMapping place document value =>
    ⟨.manifest, "'" ++ place ++ "' in " ++ describe document ++ " must be a mapping",
      some (gotText value)⟩
  | .notList place document value =>
    ⟨.manifest, "'" ++ place ++ "' in " ++ describe document ++ " must be a list",
      some (gotText value)⟩
  | .noBundle volume document =>
    ⟨.manifest,
      "Volume '" ++ volume.sentence ++ "' in " ++ describe document ++ " has no configMap source",
      some "Only volumes backed by a configuration bundle (configMap) are supported"⟩
  | .invalid document problems =>
    ⟨.manifest, "Invalid " ++ describe document, some (problemLines problems)⟩
  | .unmatchable key => Toleration.unmatchableFailure key

/-- Whether a cause can be reported: everything that the report shows can be shown. -/
def canReport : DocumentError → Bool
  | .unexpectedKind _ document | .invalid document _ => canDescribe document
  | .notMapping _ document value | .notList _ document value | .noBundle value document =>
    canDescribe document && value.isShown
  | .unmatchable _ => true

end DocumentError

namespace Manifest

/-- Whether a document is of a kind. -/
def isKind (kind : String) (document : Entries) : Bool :=
  ((document.get? "kind").map (Document.isText kind)).getD false

/-- A section that has to be a mapping; an absent one is empty. -/
def mapping (document : Entries) (place : String) : Option Document → Except DocumentError Entries
  | none => .ok []
  | some .null => .ok []
  | some value =>
    match value.entries? with
    | some entries => .ok entries
    | none => .error (.notMapping place document value)

/-- The elements of a list from a position on, each of which has to be a mapping. -/
def mappingsFrom (document : Entries) (place : String) :
    Nat → List Document → Except DocumentError (List Entries)
  | _, [] => .ok []
  | position, value :: values =>
    match value.entries? with
    | some entries => do
      let rest ← mappingsFrom document place (position + 1) values
      return entries :: rest
    | none => .error (.notMapping (place ++ "[" ++ toString position ++ "]") document value)

/-- A section that has to be a list of mappings; an absent one is empty. -/
def entryList (document : Entries) (place : String) :
    Option Document → Except DocumentError (List Entries)
  | none => .ok []
  | some .null => .ok []
  | some value =>
    match value.items? with
    | some items => mappingsFrom document place 0 items
    | none => .error (.notList place document value)

/-- The outcome of a validation, with the document that was validated. -/
def accept {α : Type} (document : Entries) : Validated α → Except DocumentError α
  | .valid value => .ok value
  | .invalid problems => .error (.invalid document problems)
  | .unmatchable key => .error (.unmatchable key)

/-- Validate mappings one after the other, up to the first that is not valid. -/
def acceptAll {α : Type} (document : Entries) (validate : Document → Validated α)
    (parts : List Document) : Except DocumentError (List α) :=
  parts.mapM fun part => accept document (validate part)

/-- The value under a key, or the absent value. -/
def valueOrNull (entries : Entries) (key : String) : Document :=
  (entries.get? key).getD .null

/-- The value under a key, or the empty text. -/
def valueOrEmpty (entries : Entries) (key : String) : Document :=
  (entries.get? key).getD (.text "")

/-- The value under a key, or a default in the place of any empty value. -/
def valueOr (default : Document) (entries : Entries) (key : String) : Document :=
  match entries.get? key with
  | some value => if value.isFalsy then default else value
  | none => default

/-- The volume that the volume at a position of a pod stands for, still to be validated. -/
def volumePart (document : Entries) (position : Nat) (volume : Entries) :
    Except DocumentError Document := do
  let place := "spec.volumes[" ++ toString position ++ "].configMap"
  let bundle ← mapping document place (volume.get? "configMap")
  if bundle.isEmpty then
    .error (.noBundle (valueOrNull volume "name") document)
  else
    return .mapping
      [(.text "name", valueOrNull volume "name"),
        (.text "configMapRef", valueOrNull bundle "name")]

/-- The volumes of a pod from a position on. -/
def volumeParts (document : Entries) : Nat → List Entries → Except DocumentError (List Document)
  | _, [] => .ok []
  | position, volume :: volumes => do
    let part ← volumePart document position volume
    let parts ← volumeParts document (position + 1) volumes
    return part :: parts

/-- The container that an entry stands for, still to be validated. -/
def containerPart (container : Entries) : Document :=
  .mapping
    [(.text "name", valueOrEmpty container "name"), (.text "image", valueOrNull container "image"),
      (.text "command", valueOr (.list []) container "command"),
      (.text "volumeMounts", valueOr (.list []) container "volumeMounts")]

/-- The pod that a document declares. -/
def parsePod (document : Entries) : Except DocumentError Pod := do
  if !isKind "Pod" document then
    throw (.unexpectedKind "Pod" document)
  let metadata ← mapping document "metadata" (document.get? "metadata")
  let spec ← mapping document "spec" (document.get? "spec")
  let volumeEntries ← entryList document "spec.volumes" (spec.get? "volumes")
  let volumeDocuments ← volumeParts document 0 volumeEntries
  let tolerationEntries ← entryList document "spec.tolerations" (spec.get? "tolerations")
  let containerEntries ← entryList document "spec.containers" (spec.get? "containers")
  let tolerations ←
    acceptAll document Toleration.validate (tolerationEntries.map Document.mapping)
  let volumes ← acceptAll document ConfigVolume.validate volumeDocuments
  let containers ← acceptAll document Container.validate (containerEntries.map containerPart)
  accept document
    (Pod.ofParts ((checkText (valueOrEmpty metadata "name")).atStep (.field "name"))
      ((checkLabels (valueOr (.mapping []) metadata "labels")).atStep (.field "labels"))
      (.valid tolerations) (.valid volumes) (.valid containers))

/-- The node that a document declares. Its architecture is that of its label. -/
def parseNode (document : Entries) : Except DocumentError Node := do
  if !isKind "Node" document then
    throw (.unexpectedKind "Node" document)
  let metadata ← mapping document "metadata" (document.get? "metadata")
  let spec ← mapping document "spec" (document.get? "spec")
  let labels ← mapping document "metadata.labels" (metadata.get? "labels")
  let taintEntries ← entryList document "spec.taints" (spec.get? "taints")
  let taints ← acceptAll document Taint.validate (taintEntries.map Document.mapping)
  accept document
    (Node.ofParts ((checkText (valueOrEmpty metadata "name")).atStep (.field "name"))
      ((checkOptionalText (valueOrNull labels architectureLabel)).atStep (.field "architecture"))
      ((checkLabels (.mapping labels)).atStep (.field "labels")) (.valid taints))

/-- Whether the pod that a document declares may be placed on the node that another one declares. -/
def evaluateDocuments (pod node : Entries) : Except DocumentError Decision := do
  let pod ← parsePod pod
  let node ← parseNode node
  return evaluate pod.tolerations node.taints

end Manifest

end PodLaunch
