import PodLaunch.Command.Run
import PodLaunch.Proofs.Manifest.Collections
import PodLaunch.Proofs.Manifest.Node
import PodLaunch.Proofs.NodeProfile.Isolation
import PodLaunch.Proofs.NodeProfile.Validation

/-!
# Two ways to a node

A node is declared by a document, or described by a profile. A document gives the label, and the
architecture follows; a profile gives the architecture, and the label gives way. So the architecture
of a node is the value of its label either way. The document that declares the node of a profile is
read as that very node, and a check finds the same whichever of the two it is given.
-/

namespace PodLaunch

open Manifest

/-! ## Documents that declare a node -/

/-- The entries of a taint as a mapping. -/
def Taint.entries (taint : Taint) : Entries :=
  [(.text "key", .text taint.key.text),
    (.text "value", (taint.value.map Document.text).getD .null),
    (.text "effect", .text taint.effect.name)]

namespace Node

/-- The labels of a node agree with its architecture. -/
def FollowsLabel (node : Node) : Prop :=
  node.architecture = node.labels.get? architectureLabel

/-- The document that declares a node by its name, labels and taints. -/
def declaration (node : Node) : Entries :=
  [(.text "kind", .text "Node"),
    (.text "metadata", .mapping
      [(.text "name", .text node.name), (.text "labels", node.labels.toDocument)]),
    (.text "spec", .mapping
      [(.text "taints", .list ((node.taints.map Taint.entries).map .mapping))])]

variable (node : Node)

/-- The document that declares a node is an interchange document. -/
theorem isInterchange_declaration : (Document.mapping node.declaration).IsInterchange := by
  have labels : node.labels.toDocument.IsInterchange := node.labels.isInterchange_toDocument
  have each (taint : Taint) : (Document.mapping taint.entries).IsInterchange := by
    obtain ⟨key, value, effect⟩ := taint
    cases value <;> simp [Taint.entries]
  have taints : (Document.list ((node.taints.map Taint.entries).map .mapping)).IsInterchange := by
    simpa using fun taint _ => each taint
  simp [declaration, labels, taints, -List.map_map]

/-- The entries of a taint declare it. -/
theorem taintHolds_entries (taint : Taint) : TaintHolds taint.entries taint := by
  have value : IsOptionalText (some ((taint.value.map Document.text).getD .null)) taint.value := by
    cases given : taint.value with
    | none => exact Or.inl ⟨Or.inr rfl, rfl⟩
    | some text => exact Or.inr ⟨text, rfl, rfl⟩
  exact ⟨rfl, value, rfl⟩

/-- A document declares a node that follows its label, and that node only. -/
theorem nodeHolds_declaration_iff : NodeHolds node.declaration node ↔ node.FollowsLabel := by
  constructor
  · exact NodeHolds.architecture
  · intro follows
    have all : List.Forall₂ TaintHolds (node.taints.map Taint.entries) node.taints := by
      rw [List.forall₂_map_left_iff, List.forall₂_same]
      exact fun taint _ => taintHolds_entries taint
    exact ⟨⟨_, Or.inr rfl, Or.inr rfl, Or.inr rfl⟩, follows, _, Or.inr rfl, _, Or.inr rfl, all⟩

/-- The document that declares a node is read as that node exactly if the node follows its label. -/
theorem parseNode_declaration_iff :
    parseNode node.declaration = .ok node ↔ node.FollowsLabel := by
  rw [parseNode_eq_ok_iff node.isInterchange_declaration, nodeHolds_declaration_iff]
  exact and_iff_right rfl

end Node

/-! ## Nodes of profiles -/

namespace NodeProfile

variable (profile : NodeProfile)

/-- A node as a profile describes it. -/
structure Describes (node : Node) : Prop where
  /-- The name is that of the profile. -/
  name : node.name = profile.nodeName.text
  /-- So is the architecture. -/
  architecture : node.architecture = some profile.architecture.text
  /-- The label for the architecture holds the architecture, whatever it held before. -/
  label : node.labels.get? architectureLabel = some profile.architecture.text
  /-- Every other label is that of the profile. -/
  others : ∀ key, key ≠ architectureLabel → node.labels.get? key = profile.labels.get? key
  /-- The other labels are in their order. -/
  order : (node.labels.entries.filter fun entry => entry.1 != architectureLabel) =
    profile.labels.entries.filter fun entry => entry.1 != architectureLabel
  /-- The taints for the architecture come first, if there are any, and then the further ones. -/
  taints : node.taints =
    (if profile.taintArchitecture then
      [⟨⟨architectureLabel, by decide⟩, some profile.architecture.text, .noSchedule⟩,
        ⟨⟨architectureLabel, by decide⟩, some profile.architecture.text, .noExecute⟩]
    else []) ++ profile.extraTaints

/-- The node of a profile is described by it. -/
theorem describes_toNode : profile.Describes profile.toNode := by
  have set (key : String) :
      profile.toNode.labels.get? key =
        if key = architectureLabel then some profile.architecture.text
        else profile.labels.get? key :=
    profile.labels.get?_set architectureLabel profile.architecture.text key
  have other (key : String) (differs : key ≠ architectureLabel) :
      profile.toNode.labels.get? key = profile.labels.get? key := by
    rw [set, if_neg differs]
  have own : profile.toNode.labels.get? architectureLabel = some profile.architecture.text := by
    rw [set, if_pos rfl]
  exact ⟨rfl, rfl, own, other, Labels.filter_setIn _ _ _, rfl⟩

/-- The node of a profile follows its label. -/
theorem followsLabel_toNode : profile.toNode.FollowsLabel :=
  profile.describes_toNode.label.symm

end NodeProfile

/-! ## Checks of a pod against either -/

section Checks

variable {files : LoggedFiles} {name : String} {documents : List Entries} {document : Entries}
  {profile : NodeProfile}

/-- The only node among the documents of a file is the one that is loaded. -/
theorem loadNode_of_read {node : Node} (readFile : (read files name).result = .ok documents)
    (only : documents.filter (isKind "Node") = [document])
    (parsed : parseNode document = .ok node) : (loadNode files name).result = .ok node := by
  have collected : (loadNodes files name).result = .ok [node] := by
    rw [loadNodes, result_load readFile, nodesOf, only]
    exact (ofDocuments_eq_ok_iff _ _).2
      ((mapM_eq_ok_iff _ _ _).2 (List.Forall₂.cons parsed List.Forall₂.nil))
  exact (takesFirst_loadNode files name).found node [] collected

/-- A check ends in the same way whether its node is declared in a manifest or described by a
profile. -/
theorem check_eq (podFile profileFile : String) (named : name ≠ "")
    (readManifest : (read (files.after (loadPod files podFile).records) name).result =
      .ok documents)
    (only : documents.filter (isKind "Node") = [document])
    (parsed : parseNode document = .ok profile.toNode)
    (loadProfile : (NodeProfile.load (files.after (loadPod files podFile).records)
      profileFile).result = .ok profile) :
    (Command.check files podFile (some name) none).result =
      (Command.check files podFile none (some profileFile)).result := by
  have loadManifest := loadNode_of_read readManifest only parsed
  have manifest : Command.NodeSource.of? (some name) none = some (.manifest name) := by
    rw [Command.NodeSource.of?, if_neg named]
  have described : Command.NodeSource.of? none (some profileFile) = some (.profile profileFile) :=
    rfl
  rw [Command.check, Command.check, manifest, described]
  simp only [Recorded.result_andThenWith]
  cases (loadPod files podFile).result with
  | error error => rfl
  | ok pod =>
    simp only [Command.checkAgainst, Recorded.result_bind, loadManifest, loadProfile]
    rfl

end Checks

/-! ## Both ways agree -/

/-- The architecture of a node is the value of its label, whether the node is declared by a document
or described by a profile. The document that declares the node of a profile is read as that node, as
is any other one that holds it, and a check of a pod ends in the same way for either. -/
theorem nodes_agree :
    (∀ document : Entries, (Document.mapping document).IsInterchange →
      ∀ node, parseNode document = .ok node → node.FollowsLabel ∧ NodeHolds document node) ∧
    (∀ profile : NodeProfile, profile.Describes profile.toNode ∧ profile.toNode.FollowsLabel ∧
      parseNode profile.toNode.declaration = .ok profile.toNode ∧
      ∀ document : Entries, (Document.mapping document).IsInterchange →
        (parseNode document = .ok profile.toNode ↔
          document.get? "kind" = some (.text "Node") ∧ NodeHolds document profile.toNode)) ∧
    ∀ (files : LoggedFiles) (podFile manifest profileFile : String) (documents : List Entries)
      (profile : NodeProfile), manifest ≠ "" →
      (read (files.after (loadPod files podFile).records) manifest).result = .ok documents →
      documents.filter (isKind "Node") = [profile.toNode.declaration] →
      (NodeProfile.load (files.after (loadPod files podFile).records) profileFile).result =
        .ok profile →
      (Command.check files podFile (some manifest) none).result =
        (Command.check files podFile none (some profileFile)).result := by
  have declared (profile : NodeProfile) :
      parseNode profile.toNode.declaration = .ok profile.toNode :=
    profile.toNode.parseNode_declaration_iff.2 profile.followsLabel_toNode
  refine ⟨fun document h node parsed => ?_, fun profile => ?_, ?_⟩
  · have ⟨_, holds⟩ := (parseNode_eq_ok_iff h node).1 parsed
    exact ⟨holds.architecture, holds⟩
  · exact ⟨profile.describes_toNode, profile.followsLabel_toNode, declared profile,
      fun document h => parseNode_eq_ok_iff h profile.toNode⟩
  · intro files podFile manifest profileFile documents profile named readManifest only loadProfile
    exact check_eq podFile profileFile named readManifest only (declared profile) loadProfile

/-- A profile with a label that contradicts its architecture, and with taints without a value and
with an empty one. -/
def contradictoryProfile : NodeProfile where
  nodeName := ⟨"edge", by decide⟩
  architecture := ⟨"riscv64", by decide⟩
  taintArchitecture := true
  extraTaints := [⟨⟨"gpu", by decide⟩, none, .preferNoSchedule⟩,
    ⟨⟨"gpu", by decide⟩, some "", .noExecute⟩]
  labels := ⟨[("zone", "a"), ("kubernetes.io/arch", "amd64"), ("tier", "")], by decide⟩

/-- The files of a pod, of that profile and of a manifest that declares its node. -/
def edgeFiles : LoggedFiles :=
  let file (text : String) : Files.Entry := .file (Text.encodeUtf8 text)
  let pod := file "kind: Pod\nspec:\n  containers:\n  - name: c\n"
  let profile := file ("node_name: edge\narchitecture: riscv64\nextra_taints:\n" ++
    "- key: gpu\n  effect: PreferNoSchedule\n- key: gpu\n  value: ''\n  effect: NoExecute\n" ++
    "labels:\n  zone: a\n  kubernetes.io/arch: amd64\n  tier: ''\n")
  let manifest := file ("kind: Node\nmetadata:\n  name: edge\n  labels:\n    zone: a\n" ++
    "    kubernetes.io/arch: riscv64\n    tier: ''\nspec:\n  taints:\n" ++
    "  - key: kubernetes.io/arch\n    value: riscv64\n    effect: NoSchedule\n" ++
    "  - key: kubernetes.io/arch\n    value: riscv64\n    effect: NoExecute\n" ++
    "  - key: gpu\n    value: null\n    effect: PreferNoSchedule\n" ++
    "  - key: gpu\n    value: ''\n    effect: NoExecute\n")
  .ofTree (((({} : Files.Tree).put ["pod.yaml"] pod).put ["node.yaml"] manifest).put
    ["profile.yaml"] profile)

/-- The node of that profile has the label of its architecture, and a check ends in the same way for
the manifest and for the profile. -/
theorem nodes_agree_contradictoryProfile :
    contradictoryProfile.toNode.labels.get? architectureLabel = some "riscv64" ∧
    parseNode contradictoryProfile.toNode.declaration = .ok contradictoryProfile.toNode ∧
    (read edgeFiles "node.yaml").result =
      .ok [contradictoryProfile.toNode.declaration] ∧
    (NodeProfile.load edgeFiles "profile.yaml").result = .ok contradictoryProfile ∧
    (Command.check edgeFiles "pod.yaml" (some "node.yaml") none).result =
      (Command.check edgeFiles "pod.yaml" none (some "profile.yaml")).result := by
  have readManifest : (read edgeFiles "node.yaml").result =
      .ok [contradictoryProfile.toNode.declaration] := by
    decide +kernel
  have loadProfile : (NodeProfile.load edgeFiles "profile.yaml").result =
      .ok contradictoryProfile := by
    decide +kernel
  have ⟨_, ofProfiles, checks⟩ := nodes_agree
  have ⟨describes, _, parsed, _⟩ := ofProfiles contradictoryProfile
  exact ⟨describes.label, parsed, readManifest, loadProfile,
    checks edgeFiles "pod.yaml" "node.yaml" "profile.yaml" _ _ (by decide) readManifest
      (by decide) loadProfile⟩

end PodLaunch
