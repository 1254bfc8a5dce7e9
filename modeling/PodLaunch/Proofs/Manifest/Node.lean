import PodLaunch.Proofs.Manifest.Pod
import PodLaunch.Proofs.Manifest.Tolerations

/-!
# Which documents declare a node

A node is declared by its metadata, with a name and labels, and by the taints of its specification.
Its architecture is not declared by itself: it is the value of a label.
-/

namespace PodLaunch.Manifest

open Validated

/-! ## Taints -/

/-- A taint as it is declared. -/
structure TaintHolds (entry : Entries) (taint : Taint) : Prop where
  /-- Its key. -/
  key : entry.get? "key" = some (.text taint.key.text)
  /-- Its value. -/
  value : IsOptionalText (entry.get? "value") taint.value
  /-- Its effect. -/
  effect : entry.get? "effect" = some (.text taint.effect.name)

/-- A field that has to be present is valid exactly if it holds a valid value. -/
theorem required_eq_some_iff {α : Type} {entries : Entries} {check : Document → Validated α}
    {image : α → Document} (h : (Document.mapping entries).IsInterchange) (name : String)
    (valid : ∀ d : Document, d.IsInterchange → ∀ value, check d = .valid value ↔ d = image value)
    (value : α) :
    required entries name check = .valid value ↔ entries.get? name = some (image value) := by
  rw [required_eq_valid_iff]
  constructor
  · rintro ⟨d, found, checked⟩
    rwa [(valid d (h.of_get? found) value).1 checked] at found
  · intro found
    exact ⟨_, found, (valid _ (h.of_get? found) value).2 rfl⟩

/-- A mapping is a valid taint exactly if it is declared so. -/
theorem validate_taint_iff {entry : Entries} (h : (Document.mapping entry).IsInterchange)
    (taint : Taint) : Taint.validate (.mapping entry) = .valid taint ↔ TaintHolds entry taint := by
  have key := required_eq_some_iff h "key" fun d => checkText_eq_valid_iff (d := d)
  have effect := required_eq_some_iff h "effect" fun d => checkTaintEffect_eq_valid_iff (d := d)
  have value (given : Option String) :
      optional entry "value" none checkOptionalText = .valid given ↔
        IsOptionalText (entry.get? "value") given := by
    rw [optional_eq_valid_iff, IsOptionalText, IsAbsent]
    cases found : entry.get? "value" with
    | none => simp
    | some d => simp [checkOptionalText_eq_valid_iff (h.of_get? found)]
  have fields : checkModel "Taint" (.mapping entry) = .valid entry := rfl
  simp only [Taint.validate, fields, andThen, Taint.ofParts, map_eq_valid_iff, zip_eq_valid_iff,
    Name.check_eq_valid_iff, key, effect, value]
  constructor
  · rintro ⟨⟨⟨name, given⟩, own⟩, ⟨⟨isKey, isValue⟩, isEffect⟩, rfl⟩
    exact ⟨isKey, isValue, isEffect⟩
  · rintro ⟨isKey, isValue, isEffect⟩
    exact ⟨((taint.key, taint.value), taint.effect), ⟨⟨isKey, isValue⟩, isEffect⟩, rfl⟩

/-! ## Nodes -/

/-- A node as its document declares it. -/
structure NodeHolds (document : Entries) (node : Node) : Prop where
  /-- Its name and labels. -/
  metadata : ∃ metadata, IsSection (document.get? "metadata") metadata ∧
    IsName (metadata.get? "name") node.name ∧
    IsSection (metadata.get? "labels") (settingEntries node.labels.entries)
  /-- Its architecture, which is that of its label. -/
  architecture : node.architecture = node.labels.get? architectureLabel
  /-- Its taints, in order. -/
  spec : ∃ spec, IsSection (document.get? "spec") spec ∧
    ∃ taints, IsEntryList (spec.get? "taints") taints ∧
      List.Forall₂ TaintHolds taints node.taints

/-- A node is made of valid parts exactly if the parts are its own. -/
theorem node_ofParts_eq_valid_iff (name : Validated String)
    (architecture : Validated (Option String)) (labels : Validated Labels)
    (taints : Validated (List Taint)) (node : Node) :
    Node.ofParts name architecture labels taints = .valid node ↔
      name = .valid node.name ∧ architecture = .valid node.architecture ∧
        labels = .valid node.labels ∧ taints = .valid node.taints := by
  simp only [Node.ofParts, map_eq_valid_iff, zip_eq_valid_iff]
  constructor
  · rintro ⟨⟨⟨⟨_, _⟩, _⟩, _⟩, ⟨⟨⟨isName, isArchitecture⟩, isLabels⟩, areTaints⟩, rfl⟩
    exact ⟨isName, isArchitecture, isLabels, areTaints⟩
  · rintro ⟨isName, isArchitecture, isLabels, areTaints⟩
    exact ⟨(((node.name, node.architecture), node.labels), node.taints),
      ⟨⟨⟨isName, isArchitecture⟩, isLabels⟩, areTaints⟩, rfl⟩

/-- The value of a label is an optional text exactly if it is that of the label. -/
theorem checkOptionalText_label_iff (labels : Labels) (key : String) (text : Option String) :
    checkOptionalText (valueOrNull (settingEntries labels.entries) key) = .valid text ↔
      text = labels.get? key := by
  rw [valueOrNull, get?_settingEntries, Labels.get?]
  cases labels.entries.lookup key <;> simp [checkOptionalText, checkText, map, eq_comm]

/-- Taints are accepted exactly if they are declared so. -/
theorem acceptAll_taint_iff (document : Entries) {own : List Entries}
    (h : ∀ entry ∈ own, (Document.mapping entry).IsInterchange) (taints : List Taint) :
    acceptAll document Taint.validate (own.map .mapping) = .ok taints ↔
      List.Forall₂ TaintHolds own taints := by
  rw [acceptAll_map_eq_ok_iff]
  exact forall₂_congr_of_mem (fun entry member taint => validate_taint_iff (h entry member) taint)
    taints

/-- A document is read as a node exactly if it is of that kind and holds that node. -/
theorem parseNode_eq_ok_iff {document : Entries}
    (h : (Document.mapping document).IsInterchange) (node : Node) :
    parseNode document = .ok node ↔
      document.get? "kind" = some (.text "Node") ∧ NodeHolds document node := by
  rw [← isKind_iff]
  cases kind : isKind "Node" document with
  | false => simp [parseNode, kind, throw, throwThe, MonadExceptOf.throw, bind, Except.bind]
  | true =>
    simp only [parseNode, kind, Bool.not_true, Bool.false_eq_true, ↓reduceIte, bind_eq_ok_iff,
      mapping_eq_ok_iff document _ fun d found => h.of_get? found, accept_eq_ok_iff,
      node_ofParts_eq_valid_iff, atStep_eq_valid_iff, valid.injEq, true_and]
    constructor
    · rintro ⟨metadata, isMetadata, spec, isSpec, labels, readLabels, entries, readEntries,
        taints, acceptTaints, named, ofArchitecture, labelled, rfl⟩
      have metadataEach := isMetadata.isInterchange h
      have specEach := isSpec.isInterchange h
      rw [mapping_eq_ok_iff document _ fun d found => metadataEach.of_get? found] at readLabels
      rw [entryList_eq_ok_iff document _ fun d found => specEach.of_get? found] at readEntries
      rw [checkText_valueOrEmpty_iff metadataEach] at named
      rw [checkLabels_eq_valid_iff (readLabels.isInterchange metadataEach)] at labelled
      obtain rfl : labels = settingEntries node.labels.entries := Document.mapping.inj labelled
      rw [checkOptionalText_label_iff] at ofArchitecture
      rw [acceptAll_taint_iff document (readEntries.isInterchange specEach)] at acceptTaints
      exact ⟨⟨metadata, isMetadata, named, readLabels⟩, ofArchitecture, spec, isSpec, entries,
        readEntries, acceptTaints⟩
    · rintro ⟨⟨metadata, isMetadata, named, readLabels⟩, ofArchitecture, spec, isSpec, entries,
        readEntries, acceptTaints⟩
      have metadataEach := isMetadata.isInterchange h
      have specEach := isSpec.isInterchange h
      have labelsEach := readLabels.isInterchange metadataEach
      rw [← acceptAll_taint_iff document (readEntries.isInterchange specEach)] at acceptTaints
      rw [← mapping_eq_ok_iff document "metadata.labels"
        fun d found => metadataEach.of_get? found] at readLabels
      rw [← entryList_eq_ok_iff document "spec.taints"
        fun d found => specEach.of_get? found] at readEntries
      rw [← checkText_valueOrEmpty_iff metadataEach] at named
      rw [← checkOptionalText_label_iff] at ofArchitecture
      exact ⟨metadata, isMetadata, spec, isSpec, _, readLabels, entries, readEntries, _,
        acceptTaints, named, ofArchitecture, (checkLabels_eq_valid_iff labelsEach _).2 rfl, rfl⟩

end PodLaunch.Manifest
