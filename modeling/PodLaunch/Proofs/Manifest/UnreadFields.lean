import PodLaunch.Proofs.Manifest.Acceptance
import PodLaunch.Proofs.Manifest.Agreement
import PodLaunch.Proofs.Manifest.Node
import PodLaunch.Resolution

/-!
# Fields that are not read

A manifest document may hold more than is read of it, at every level. Documents that agree on the
fields that are read declare the same pod or node, up to the order of its labels; so they are placed
and mounted alike.
-/

namespace PodLaunch.Manifest

open Document

/-! ## The fields that are read -/

/-- The fields of a mount. -/
def mountFields : ReadFields :=
  [("name", Reordered), ("mountPath", Reordered), ("mount_path", Reordered)]

/-- The fields of a container. -/
def containerFields : ReadFields :=
  [("name", Reordered), ("image", Reordered), ("command", Reordered),
    ("volumeMounts", AgreeEach (AgreeOn mountFields))]

/-- The fields of a toleration. -/
def tolerationFields : ReadFields :=
  [("key", Reordered), ("operator", Reordered), ("value", Reordered), ("effect", Reordered)]

/-- The fields of a taint. -/
def taintFields : ReadFields :=
  [("key", Reordered), ("value", Reordered), ("effect", Reordered)]

/-- The fields of the source of a volume. -/
def sourceFields : ReadFields :=
  [("name", Reordered)]

/-- The fields of a volume. -/
def volumeFields : ReadFields :=
  [("name", Reordered), ("configMap", AgreeOn sourceFields)]

/-- The fields of metadata. -/
def metadataFields : ReadFields :=
  [("name", Reordered), ("labels", Reordered)]

/-- The fields of a document with a specification of its own. -/
def documentFields (specFields : ReadFields) : ReadFields :=
  [("kind", Reordered), ("metadata", AgreeOn metadataFields), ("spec", AgreeOn specFields)]

/-- The fields of a pod. -/
def podFields : ReadFields :=
  documentFields [("volumes", AgreeEach (AgreeOn volumeFields)),
    ("tolerations", AgreeEach (AgreeOn tolerationFields)),
    ("containers", AgreeEach (AgreeOn containerFields))]

/-- The fields of a node. -/
def nodeFields : ReadFields :=
  documentFields [("taints", AgreeEach (AgreeOn taintFields))]

/-! ## Parts of a pod or node -/

variable {left right : Entries} {value other : Option Document}

/-- A field that holds a text holds it in any order of its keys. -/
theorem eq_text_of_reordered {s : String} (held : value = some (.text s))
    (related : Option.Rel Reordered value other) : other = some (.text s) := by
  subst held
  exact eq_of_reordered (isRigidField_text s) related

/-- Entries that agree with those of a mount declare the same mount. -/
theorem MountHolds.of_agree {mount : VolumeMount} (held : MountHolds left mount)
    (agree : Entries.AgreeOn mountFields left right) : MountHolds right mount := by
  simp only [Entries.AgreeOn, mountFields, List.forall_mem_cons] at agree
  obtain ⟨name, path, innerPath, -⟩ := agree
  refine ⟨eq_text_of_reordered held.name name, ?_⟩
  rcases held.path with outer | ⟨noOuter, inner⟩
  · exact Or.inl (eq_text_of_reordered outer path)
  · rw [noOuter] at path
    exact Or.inr ⟨eq_of_reordered isRigidField_none path, eq_text_of_reordered inner innerPath⟩

/-- Entries that agree with those of a container declare the same container. -/
theorem ContainerHolds.of_agree {container : Container} (held : ContainerHolds left container)
    (agree : Entries.AgreeOn containerFields left right) : ContainerHolds right container := by
  simp only [Entries.AgreeOn, containerFields, List.forall_mem_cons] at agree
  obtain ⟨name, image, command, mounts, -⟩ := agree
  obtain ⟨own, listed, all⟩ := held.mounts
  obtain ⟨others, listedOthers, each⟩ := listed.of_agree mounts
  refine ⟨?_, ?_, ?_, others, listedOthers, ?_⟩
  · exact eq_of_reordered held.name.isRigidField name ▸ held.name
  · exact eq_of_reordered held.image.isRigidField image ▸ held.image
  · exact eq_of_reordered held.command.isRigidField command ▸ held.command
  · exact forall₂_of_agree all each fun _ _ _ => MountHolds.of_agree

/-- Entries that agree with those of a volume declare the same volume. -/
theorem VolumeHolds.of_agree {volume : ConfigVolume} (held : VolumeHolds left volume)
    (agree : Entries.AgreeOn volumeFields left right) : VolumeHolds right volume := by
  simp only [Entries.AgreeOn, volumeFields, List.forall_mem_cons] at agree
  obtain ⟨name, source, -⟩ := agree
  obtain ⟨own, found, backed⟩ := held.bundle
  rw [found] at source
  obtain ⟨entries, foundOther, agreed⟩ := exists_mapping_of_agree source
  simp only [Entries.AgreeOn, sourceFields, List.forall_mem_cons] at agreed
  exact ⟨eq_text_of_reordered held.name name, entries, foundOther,
    eq_text_of_reordered backed agreed.1⟩

/-- A text that may be absent has no keys. -/
theorem IsTextOrEmpty.isRigidField {text : String} (held : IsTextOrEmpty value text) :
    IsRigidField value := by
  rcases held with ⟨absent, -⟩ | rfl
  · exact absent.isRigidField
  · exact isRigidField_text text

/-- An operator has no keys. -/
theorem IsOperator.isRigidField {operator : TolerationOperator} (held : IsOperator value operator) :
    IsRigidField value := by
  rcases held with ⟨rfl, -⟩ | rfl
  · exact isRigidField_none
  · exact isRigidField_text operator.name

/-- An effect has no keys. -/
theorem IsEffect.isRigidField {effect : Option TaintEffect} (held : IsEffect value effect) :
    IsRigidField value := by
  rcases held with ⟨absent | rfl, -⟩ | ⟨given, rfl, -⟩
  · exact absent.isRigidField
  · exact isRigidField_text ""
  · exact isRigidField_text given.name

/-- Entries that agree with those of a toleration declare the same toleration. -/
theorem TolerationFields.of_agree {key : String} {operator : TolerationOperator} {text : String}
    {effect : Option TaintEffect} (held : TolerationFields left key operator text effect)
    (agree : Entries.AgreeOn tolerationFields left right) :
    TolerationFields right key operator text effect := by
  simp only [Entries.AgreeOn, tolerationFields, List.forall_mem_cons] at agree
  obtain ⟨sameKey, sameOperator, sameValue, sameEffect, -⟩ := agree
  constructor
  · exact eq_of_reordered held.key.isRigidField sameKey ▸ held.key
  · exact eq_of_reordered held.operator.isRigidField sameOperator ▸ held.operator
  · exact eq_of_reordered held.value.isRigidField sameValue ▸ held.value
  · exact eq_of_reordered held.effect.isRigidField sameEffect ▸ held.effect

/-- Mappings that agree with those of valid tolerations are valid as the same ones. -/
theorem tolerations_of_agree {own others : List Entries} {tolerations : List Toleration}
    (isOwn : ∀ entry ∈ own, (Document.mapping entry).IsInterchange)
    (areOthers : ∀ entry ∈ others, (Document.mapping entry).IsInterchange)
    (all : List.Forall₂ (fun entry toleration =>
      Toleration.validate (.mapping entry) = .valid toleration) own tolerations)
    (agree : List.Forall₂ (Entries.AgreeOn tolerationFields) own others) :
    List.Forall₂ (fun entry toleration =>
      Toleration.validate (.mapping entry) = .valid toleration) others tolerations := by
  rw [forall₂_congr_of_mem fun entry member toleration =>
    validate_toleration_eq_valid_iff (isOwn entry member) toleration] at all
  rw [forall₂_congr_of_mem fun entry member toleration =>
    validate_toleration_eq_valid_iff (areOthers entry member) toleration]
  exact forall₂_of_agree all agree fun _ _ _ => TolerationFields.of_agree

/-- Entries that agree with those of a taint declare the same taint. -/
theorem TaintHolds.of_agree {taint : Taint} (held : TaintHolds left taint)
    (agree : Entries.AgreeOn taintFields left right) : TaintHolds right taint := by
  simp only [Entries.AgreeOn, taintFields, List.forall_mem_cons] at agree
  obtain ⟨sameKey, sameValue, sameEffect, -⟩ := agree
  constructor
  · exact eq_text_of_reordered held.key sameKey
  · exact eq_of_reordered held.value.isRigidField sameValue ▸ held.value
  · exact eq_text_of_reordered held.effect sameEffect

/-! ## Pods and nodes -/

/-- Documents that agree are of the same kind. -/
theorem kind_of_agree {specFields : ReadFields} {kind : String}
    (isOfKind : left.get? "kind" = some (.text kind))
    (agree : Entries.AgreeOn (documentFields specFields) left right) :
    right.get? "kind" = some (.text kind) := by
  simp only [Entries.AgreeOn, documentFields, List.forall_mem_cons] at agree
  exact eq_text_of_reordered isOfKind agree.1

/-- Documents that agree have metadata with the same name and with labels that are the same up to
their order. -/
theorem metadata_of_agree {specFields : ReadFields} {metadata : Entries} {name : String}
    (isMetadata : IsSection (left.get? "metadata") metadata)
    (named : IsName (metadata.get? "name") name)
    (agree : Entries.AgreeOn (documentFields specFields) left right) :
    ∃ others, IsSection (right.get? "metadata") others ∧ IsName (others.get? "name") name ∧
      Option.Rel Reordered (metadata.get? "labels") (others.get? "labels") := by
  simp only [Entries.AgreeOn, documentFields, List.forall_mem_cons] at agree
  obtain ⟨others, areMetadata, agreed⟩ := isMetadata.of_agree agree.2.1
  simp only [Entries.AgreeOn, metadataFields, List.forall_mem_cons] at agreed
  obtain ⟨sameName, sameLabels, -⟩ := agreed
  exact ⟨others, areMetadata, eq_of_reordered named.isRigidField sameName ▸ named, sameLabels⟩

/-- Documents that agree have specifications that agree. -/
theorem spec_of_agree {specFields : ReadFields} {spec : Entries}
    (isSpec : IsSection (left.get? "spec") spec)
    (agree : Entries.AgreeOn (documentFields specFields) left right) :
    ∃ others, IsSection (right.get? "spec") others ∧ Entries.AgreeOn specFields spec others := by
  simp only [Entries.AgreeOn, documentFields, List.forall_mem_cons] at agree
  exact isSpec.of_agree agree.2.2.1

/-- Documents that agree with that of a pod declare the same pod, up to the order of its labels. -/
theorem PodHolds.of_agree {pod : Pod} (isLeft : (Document.mapping left).IsInterchange)
    (isRight : (Document.mapping right).IsInterchange) (held : PodHolds left pod)
    (agree : Entries.AgreeOn podFields left right) :
    ∃ labels : Labels, labels.entries.Perm pod.labels.entries ∧
      PodHolds right { pod with labels := labels } := by
  obtain ⟨⟨metadata, isMetadata, named, labelled⟩, spec, isSpec, ⟨volumes, listedVolumes,
    allVolumes⟩, ⟨tolerations, listedTolerations, allTolerations⟩, containers, listedContainers,
    allContainers⟩ := held
  obtain ⟨otherMetadata, isOtherMetadata, otherNamed, sameLabels⟩ :=
    metadata_of_agree isMetadata named agree
  obtain ⟨labels, order, otherLabelled⟩ := labelled.of_reordered
    (fun _ found => (isOtherMetadata.isInterchange isRight).of_get? found) sameLabels
  obtain ⟨otherSpec, isOtherSpec, agreed⟩ := spec_of_agree isSpec agree
  simp only [Entries.AgreeOn, List.forall_mem_cons] at agreed
  obtain ⟨sameVolumes, sameTolerations, sameContainers, -⟩ := agreed
  obtain ⟨otherVolumes, otherListedVolumes, eachVolume⟩ := listedVolumes.of_agree sameVolumes
  obtain ⟨otherTolerations, otherListedTolerations, eachToleration⟩ :=
    listedTolerations.of_agree sameTolerations
  obtain ⟨otherContainers, otherListedContainers, eachContainer⟩ :=
    listedContainers.of_agree sameContainers
  have own := listedTolerations.isInterchange (isSpec.isInterchange isLeft)
  have others := otherListedTolerations.isInterchange (isOtherSpec.isInterchange isRight)
  refine ⟨labels, order, ⟨otherMetadata, isOtherMetadata, otherNamed, otherLabelled⟩, otherSpec,
    isOtherSpec, ⟨otherVolumes, otherListedVolumes, ?_⟩,
    ⟨otherTolerations, otherListedTolerations, ?_⟩, otherContainers, otherListedContainers, ?_⟩
  · exact forall₂_of_agree allVolumes eachVolume fun _ _ _ => VolumeHolds.of_agree
  · exact tolerations_of_agree own others allTolerations eachToleration
  · exact forall₂_of_agree allContainers eachContainer fun _ _ _ => ContainerHolds.of_agree

/-- Documents that agree with that of a node declare the same node, up to the order of its labels.
-/
theorem NodeHolds.of_agree {node : Node} (isRight : (Document.mapping right).IsInterchange)
    (held : NodeHolds left node) (agree : Entries.AgreeOn nodeFields left right) :
    ∃ labels : Labels, labels.entries.Perm node.labels.entries ∧
      NodeHolds right { node with labels := labels } := by
  obtain ⟨⟨metadata, isMetadata, named, labelled⟩, architecture, spec, isSpec, taints,
    listedTaints, allTaints⟩ := held
  obtain ⟨otherMetadata, isOtherMetadata, otherNamed, sameLabels⟩ :=
    metadata_of_agree isMetadata named agree
  obtain ⟨labels, order, otherLabelled⟩ := labelled.of_reordered
    (fun _ found => (isOtherMetadata.isInterchange isRight).of_get? found) sameLabels
  obtain ⟨otherSpec, isOtherSpec, agreed⟩ := spec_of_agree isSpec agree
  simp only [Entries.AgreeOn, List.forall_mem_cons] at agreed
  obtain ⟨otherTaints, otherListedTaints, eachTaint⟩ := listedTaints.of_agree agreed.1
  refine ⟨labels, order, ⟨otherMetadata, isOtherMetadata, otherNamed, otherLabelled⟩, ?_,
    otherSpec, isOtherSpec, otherTaints, otherListedTaints, ?_⟩
  · -- The architecture is looked up in the labels, whose order does not matter there.
    rw [architecture]
    exact Labels.get?_of_perm order architectureLabel
  · exact forall₂_of_agree allTaints eachTaint fun _ _ _ => TaintHolds.of_agree

/-- A document that agrees with that of a pod or node on every field that is read, whatever its
other fields and the order of its keys, declares the same pod or node up to the order of its labels.
The pod is placed on every node and each of its containers is mounted as before, and every pod is
placed on the node as before. -/
theorem declared_by_read_fields {left right : Entries}
    (isLeft : (Document.mapping left).IsInterchange)
    (isRight : (Document.mapping right).IsInterchange) :
    (Entries.AgreeOn podFields left right → ∀ pod, parsePod left = .ok pod →
      (∃ labels : Labels, labels.entries.Perm pod.labels.entries ∧
        parsePod right = .ok { pod with labels := labels }) ∧
      (∀ node : Node, (parsePod right).map (fun own => evaluate own.tolerations node.taints) =
        (parsePod left).map fun own => evaluate own.tolerations node.taints) ∧
      ∀ name, (parsePod right).map (fun own => resolveContainer own name) =
        (parsePod left).map fun own => resolveContainer own name) ∧
    (Entries.AgreeOn nodeFields left right → ∀ node, parseNode left = .ok node →
      (∃ labels : Labels, labels.entries.Perm node.labels.entries ∧
        parseNode right = .ok { node with labels := labels }) ∧
      ∀ pod : Pod, (parseNode right).map (fun own => evaluate pod.tolerations own.taints) =
        (parseNode left).map fun own => evaluate pod.tolerations own.taints) := by
  refine ⟨fun agree pod parsed => ?_, fun agree node parsed => ?_⟩
  · obtain ⟨kind, holds⟩ := (parsePod_eq_ok_iff isLeft pod).1 parsed
    obtain ⟨labels, order, otherHolds⟩ := holds.of_agree isLeft isRight agree
    have otherParsed := (parsePod_eq_ok_iff isRight _).2 ⟨kind_of_agree kind agree, otherHolds⟩
    refine ⟨⟨labels, order, otherParsed⟩, fun node => ?_, fun name => ?_⟩
    · rw [parsed, otherParsed]
      rfl
    · rw [parsed, otherParsed]
      rfl
  · obtain ⟨kind, holds⟩ := (parseNode_eq_ok_iff isLeft node).1 parsed
    obtain ⟨labels, order, otherHolds⟩ := holds.of_agree isRight agree
    have otherParsed := (parseNode_eq_ok_iff isRight _).2 ⟨kind_of_agree kind agree, otherHolds⟩
    refine ⟨⟨labels, order, otherParsed⟩, fun pod => ?_⟩
    rw [parsed, otherParsed]
    rfl

/-- The document of a container that mounts a bundle. -/
def mountingContainerDocument : Entries :=
  [(.text "command", .list [.text "run"]),
    (.text "volumeMounts", .list [.mapping
      [(.text "name", .text "config"), (.text "mountPath", .text "/etc/web")]])]

/-- The same container with more fields and in another order. -/
def annotatedContainerDocument : Entries :=
  [(.text "ports", .list [.int 80]),
    (.text "volumeMounts", .list [.mapping
      [(.text "mountPath", .text "/etc/web"), (.text "readOnly", .bool true),
        (.text "name", .text "config")]]),
    (.text "command", .list [.text "run"])]

/-- The document of a pod with labels that tolerates everything and mounts a bundle. -/
def labelledPodDocument : Entries :=
  [(.text "kind", .text "Pod"),
    (.text "metadata", .mapping [(.text "name", .text "web"),
      (.text "labels", .mapping [(.text "app", .text "web"), (.text "tier", .text "front")])]),
    (.text "spec", .mapping
      [(.text "tolerations", .list [.mapping [(.text "operator", .text "Exists")]]),
        (.text "volumes", .list [.mapping [(.text "name", .text "config"),
          (.text "configMap", .mapping [(.text "name", .text "web-config")])]]),
        (.text "containers", .list [.mapping mountingContainerDocument])])]

/-- The same pod with more fields at every level and in another order. -/
def annotatedPodDocument : Entries :=
  [(.text "apiVersion", .text "v1"),
    (.text "spec", .mapping
      [(.text "containers", .list [.mapping annotatedContainerDocument]),
        (.text "nodeName", .null),
        (.text "volumes", .list [.mapping
          [(.text "configMap", .mapping
              [(.text "optional", .bool true), (.text "name", .text "web-config")]),
            (.text "emptyDir", .mapping []), (.text "name", .text "config")]]),
        (.text "tolerations", .list [.mapping
          [(.text "tolerationSeconds", .int 60), (.text "operator", .text "Exists")]])]),
    (.text "metadata", .mapping
      [(.text "labels", .mapping [(.text "tier", .text "front"), (.text "app", .text "web")]),
        (.text "namespace", .text "default"), (.text "name", .text "web")]),
    (.text "kind", .text "Pod")]

/-- The pod of these documents. -/
def labelledPod : Pod :=
  { name := "web"
    labels := ⟨[("app", "web"), ("tier", "front")], by decide⟩
    tolerations := [⟨"", .exists, "", none, nofun⟩]
    volumes := [⟨⟨"config", by decide⟩, ⟨"web-config", by decide⟩⟩]
    containers := [⟨"", none, ["run"], [⟨"config", "/etc/web", by decide⟩]⟩]
    distinct_volumes := by decide
    containers_ne := by simp }

/-- The document of a taint. -/
def dedicatedTaintDocument : Entries :=
  [(.text "key", .text "dedicated"), (.text "effect", .text "NoSchedule")]

/-- The same taint with another field and in another order. -/
def timedTaintDocument : Entries :=
  [(.text "effect", .text "NoSchedule"), (.text "timeAdded", .text "now"),
    (.text "key", .text "dedicated")]

/-- The document of a node with a taint. -/
def dedicatedNodeDocument : Entries :=
  [(.text "kind", .text "Node"),
    (.text "metadata", .mapping [(.text "name", .text "edge"),
      (.text "labels", .mapping
        [(.text "kubernetes.io/arch", .text "arm64"), (.text "zone", .text "a")])]),
    (.text "spec", .mapping [(.text "taints", .list [.mapping dedicatedTaintDocument])])]

/-- The same node with more fields at every level and in another order. -/
def annotatedNodeDocument : Entries :=
  [(.text "status", .mapping [(.text "phase", .text "Running")]),
    (.text "spec", .mapping
      [(.text "unschedulable", .bool true),
        (.text "taints", .list [.mapping timedTaintDocument])]),
    (.text "metadata", .mapping
      [(.text "labels", .mapping
          [(.text "zone", .text "a"), (.text "kubernetes.io/arch", .text "arm64")]),
        (.text "annotations", .mapping []), (.text "name", .text "edge")]),
    (.text "kind", .text "Node")]

/-- The node of these documents. -/
def dedicatedNode : Node :=
  { name := "edge"
    architecture := some "arm64"
    labels := ⟨[("kubernetes.io/arch", "arm64"), ("zone", "a")], by decide⟩
    taints := [⟨⟨"dedicated", by decide⟩, none, .noSchedule⟩] }

/-- Pods and nodes with more fields and in another order are the same, up to the order of their
labels. -/
theorem declared_by_read_fields_annotated :
    (∃ labels : Labels, labels.entries.Perm labelledPod.labels.entries ∧
      parsePod annotatedPodDocument = .ok { labelledPod with labels := labels }) ∧
    ∃ labels : Labels, labels.entries.Perm dedicatedNode.labels.entries ∧
      parseNode annotatedNodeDocument = .ok { dedicatedNode with labels := labels } := by
  have podLabels : Reordered
      (.mapping [(.text "app", .text "web"), (.text "tier", .text "front")])
      (.mapping [(.text "tier", .text "front"), (.text "app", .text "web")]) :=
    .of_perm (by simp) (.swap _ _ _)
  have containers : Entries.AgreeOn containerFields mountingContainerDocument
      annotatedContainerDocument := by
    simp [Entries.AgreeOn, containerFields, mountingContainerDocument, annotatedContainerDocument,
      AgreeOn, AgreeEach, mountFields, Reordered.same]
  have pods : Entries.AgreeOn podFields labelledPodDocument annotatedPodDocument := by
    simpa [Entries.AgreeOn, podFields, documentFields, labelledPodDocument, annotatedPodDocument,
      AgreeOn, AgreeEach, metadataFields, tolerationFields, volumeFields, sourceFields,
      Reordered.same] using ⟨podLabels, fun name related => containers (name, related)⟩
  have nodeLabels : Reordered
      (.mapping [(.text "kubernetes.io/arch", .text "arm64"), (.text "zone", .text "a")])
      (.mapping [(.text "zone", .text "a"), (.text "kubernetes.io/arch", .text "arm64")]) :=
    .of_perm (by simp) (.swap _ _ _)
  have taints : Entries.AgreeOn taintFields dedicatedTaintDocument timedTaintDocument := by
    apply Entries.agreeOn_of_perm
    · simp [taintFields, Reordered.same]
    · simp [dedicatedTaintDocument]
    · exact .swap _ _ _
  have nodes : Entries.AgreeOn nodeFields dedicatedNodeDocument annotatedNodeDocument := by
    simpa [Entries.AgreeOn, nodeFields, documentFields, dedicatedNodeDocument,
      annotatedNodeDocument, AgreeOn, AgreeEach, metadataFields, Reordered.same]
      using ⟨nodeLabels, fun name related => taints (name, related)⟩
  have isPod : (Document.mapping labelledPodDocument).IsInterchange := by
    simp [labelledPodDocument, mountingContainerDocument]
  have isOtherPod : (Document.mapping annotatedPodDocument).IsInterchange := by
    simp [annotatedPodDocument, annotatedContainerDocument]
  have isNode : (Document.mapping dedicatedNodeDocument).IsInterchange := by
    simp [dedicatedNodeDocument, dedicatedTaintDocument]
  have isOtherNode : (Document.mapping annotatedNodeDocument).IsInterchange := by
    simp [annotatedNodeDocument, timedTaintDocument]
  have ofPods := declared_by_read_fields isPod isOtherPod
  have ofNodes := declared_by_read_fields isNode isOtherNode
  exact ⟨(ofPods.1 pods labelledPod rfl).1, (ofNodes.2 nodes dedicatedNode rfl).1⟩

end PodLaunch.Manifest
