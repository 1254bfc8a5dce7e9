import PodLaunch.Proofs.Manifest.Pod
import PodLaunch.Proofs.Manifest.Tolerations
import PodLaunch.Proofs.NodeProfile.Validation

/-!
# Normal forms of values

Every value is written as a plain mapping from the names of its fields, and this mapping denotes the
value and nothing else. So a document that is valid for a model has a normal form: the mapping of
the value that it denotes, in which absent values, other names of fields and texts that stand for
truth values are written in one way only. The normal form of a normal form is itself.
-/

namespace PodLaunch

open Validated

/-! ## Models -/

/-- The normal form of a document: the mapping of the value that it denotes. -/
def Model.normalize (α : Type) [Model α] (document : Document) : Validated Document :=
  (Model.validate document).map (Model.toDocument (α := α))

/-- The values of a model are written as plain mappings with some fields, and these mappings and the
values determine each other. -/
structure Model.Normalizes (α : Type) [Model α] (fields : List String) : Prop where
  /-- A value is written as a plain mapping from the names of its fields. -/
  plain : ∀ value : α, ∃ entries, Model.toDocument value = .mapping entries ∧
    entries.map Prod.fst = fields.map .text ∧ (Document.mapping entries).IsInterchange
  /-- The mapping denotes the value. -/
  denotes : ∀ value : α, Model.validate (Model.toDocument value) = .valid value
  /-- Whatever a document denotes, its normal form denotes as well. -/
  kept : ∀ (document : Document) (value : α), Model.validate document = .valid value →
    ∃ normal, Model.normalize α document = .valid normal ∧ Model.validate normal = .valid value
  /-- Normal forms are normal forms of themselves. -/
  idempotent : ∀ document,
    (Model.normalize α document).andThen (Model.normalize α) = Model.normalize α document

/-- A model whose values are denoted by what they are written as has normal forms. -/
theorem Model.normalizes_of_denotes {α : Type} [Model α] {fields : List String}
    (plain : ∀ value : α, ∃ entries, Model.toDocument value = .mapping entries ∧
      entries.map Prod.fst = fields.map .text ∧ (Document.mapping entries).IsInterchange)
    (denotes : ∀ value : α, Model.validate (Model.toDocument value) = .valid value) :
    Model.Normalizes α fields := by
  refine ⟨plain, denotes, fun document value valid => ?_, fun document => ?_⟩
  · refine ⟨Model.toDocument value, ?_, denotes value⟩
    rw [Model.normalize, valid]
    rfl
  · cases outcome : Model.validate (α := α) document with
    | valid value =>
      have normal : Model.normalize α document = .valid (Model.toDocument value) := by
        rw [Model.normalize, outcome]
        rfl
      rw [normal, andThen, Model.normalize, denotes]
      rfl
    | invalid problems =>
      rw [Model.normalize, outcome]
      rfl
    | unmatchable key =>
      rw [Model.normalize, outcome]
      rfl

/-! ## Lists and choices in mappings -/

/-- A text that may be absent is written as an interchange document. -/
theorem isInterchange_optionalText (value : Option String) :
    ((value.map Document.text).getD .null).IsInterchange := by
  cases value with
  | none => exact .null
  | some text => exact .text text

/-- A fixed sequence of values is what it is written as, if each of them is. -/
theorem checkTuple_map {α : Type} {check : Document → Validated α} {write : α → Document}
    (each : ∀ value, check (write value) = .valid value) (values : List α) :
    checkTuple check (.list (values.map write)) = .valid values :=
  checkItems_map .notTuple each values

/-- Texts are what they are written as. -/
theorem checkText_text (value : String) : checkText (.text value) = .valid value :=
  rfl

/-- Labels are what they are written as. -/
theorem checkLabels_toDocument (labels : Labels) : checkLabels labels.toDocument = .valid labels :=
  (checkLabels_eq_valid_iff labels.isInterchange_toDocument labels).2 rfl

/-! ## The models -/

/-- The mapping of a toleration denotes the toleration. -/
theorem Toleration.validate_toDocument (toleration : Toleration) :
    validate toleration.toDocument = .valid toleration := by
  obtain ⟨key, operator, value, effect, equalValue⟩ := toleration
  have operatorName :
      checkChoice TolerationOperator.choices (.text operator.name) = .valid operator := by
    cases operator <;> rfl
  have effectName : checkEffect
      ((effect.map fun effect => Document.text effect.name).getD .null) = .valid effect := by
    rcases effect with - | (- | - | -) <;> rfl
  calc
    validate (toDocument ⟨key, operator, value, effect, equalValue⟩) =
        ofParts key operator value effect := by
      simp [validate, toDocument, checkModel, Document.entries?_mapping, optional, optionalAs,
        Entries.field?, andThen, atStep, checkTextOrNull, checkText, operatorName, effectName,
        Validated.zip]
    _ = .valid ⟨key, operator, value, effect, equalValue⟩ := dif_pos equalValue

/-- The mapping of a report denotes the report. -/
theorem PlacementReport.validate_toDocument (report : PlacementReport) :
    validate report.toDocument = .valid report := by
  obtain ⟨decision, violations, evict⟩ := report
  have decisionName : checkChoice Decision.choices (.text decision.name) = .valid decision := by
    cases decision <;> rfl
  simp [validate, toDocument, checkModel, Document.entries?_mapping, required, requiredAs, optional,
    optionalAs, Entries.field?, andThen, atStep, decisionName,
    checkTuple_map Taint.validate_toDocument, checkBool, Validated.zip, Validated.map]

/-- The mapping of a volume denotes the volume. -/
theorem ConfigVolume.validate_toDocument (volume : ConfigVolume) :
    validate volume.toDocument = .valid volume := by
  simp [validate, toDocument, checkModel, Document.entries?_mapping, required, requiredAs,
    Entries.field?, andThen, atStep, checkText, Name.check_text, Validated.zip, Validated.map]

/-- The mapping of a mount denotes the mount. -/
theorem VolumeMount.validate_toDocument (mount : VolumeMount) :
    validate mount.toDocument = .valid mount := by
  simp [validate, toDocument, checkModel, Document.entries?_mapping, required, requiredAs,
    Entries.field?, andThen, atStep, checkText, checkPath, mount.absolute, Validated.zip,
    Validated.map]

/-- The mapping of a binding denotes the binding. -/
theorem MountBinding.validate_toDocument (binding : MountBinding) :
    validate binding.toDocument = .valid binding :=
  rfl

/-- The mapping of a resolved container denotes the container. -/
theorem ResolvedContainer.validate_toDocument (container : ResolvedContainer) :
    validate container.toDocument = .valid container := by
  simp [validate, toDocument, checkModel, Document.entries?_mapping, optional, optionalAs,
    Entries.field?, andThen, atStep, checkTuple_map MountBinding.validate_toDocument,
    checkTuple_map checkText_text, Validated.zip, Validated.map]

/-- The mapping of a container denotes the container. -/
theorem Container.validate_toDocument (container : Container) :
    validate container.toDocument = .valid container := by
  simp [validate, toDocument, checkModel, Document.entries?_mapping, required, requiredAs, optional,
    optionalAs, Entries.field?, andThen, atStep, checkText, checkOptionalText_getD,
    checkTuple_map checkText_text, checkTuple_map VolumeMount.validate_toDocument, Validated.zip,
    Validated.map]

/-- The mapping of a pod denotes the pod. -/
theorem Pod.validate_toDocument (pod : Pod) : validate pod.toDocument = .valid pod := by
  simp [validate, toDocument, checkModel, Document.entries?_mapping, required, requiredAs, optional,
    optionalAs, Entries.field?, andThen, atStep, checkText, checkLabels_toDocument,
    checkTuple_map Toleration.validate_toDocument, checkTuple_map ConfigVolume.validate_toDocument,
    checkTuple_map Container.validate_toDocument, Manifest.ofParts_eq_valid_iff]

/-- The mapping of a node denotes the node. -/
theorem Node.validate_toDocument (node : Node) : validate node.toDocument = .valid node := by
  simp [validate, toDocument, checkModel, Document.entries?_mapping, required, requiredAs, optional,
    optionalAs, Entries.field?, andThen, atStep, ofParts, checkText, checkOptionalText_getD,
    checkLabels_toDocument, checkTuple_map Taint.validate_toDocument, Validated.zip, Validated.map]

/-! ## Plain mappings -/

/-- A toleration is written as an interchange document. -/
theorem Toleration.isInterchange_toDocument (toleration : Toleration) :
    toleration.toDocument.IsInterchange := by
  obtain ⟨key, operator, value, effect, -⟩ := toleration
  cases effect <;> simp [toDocument]

/-- A taint is written as an interchange document. -/
theorem Taint.isInterchange_toDocument (taint : Taint) : taint.toDocument.IsInterchange := by
  simp [toDocument, isInterchange_optionalText]

/-- A report is written as an interchange document. -/
theorem PlacementReport.isInterchange_toDocument (report : PlacementReport) :
    report.toDocument.IsInterchange := by
  simp [toDocument, Taint.isInterchange_toDocument]

/-- A volume is written as an interchange document. -/
theorem ConfigVolume.isInterchange_toDocument (volume : ConfigVolume) :
    volume.toDocument.IsInterchange := by
  simp [toDocument]

/-- A mount is written as an interchange document. -/
theorem VolumeMount.isInterchange_toDocument (mount : VolumeMount) :
    mount.toDocument.IsInterchange := by
  simp [toDocument]

/-- A binding is written as an interchange document. -/
theorem MountBinding.isInterchange_toDocument (binding : MountBinding) :
    binding.toDocument.IsInterchange := by
  simp [toDocument]

/-- A resolved container is written as an interchange document. -/
theorem ResolvedContainer.isInterchange_toDocument (container : ResolvedContainer) :
    container.toDocument.IsInterchange := by
  simp [toDocument, MountBinding.isInterchange_toDocument]

/-- A container is written as an interchange document. -/
theorem Container.isInterchange_toDocument (container : Container) :
    container.toDocument.IsInterchange := by
  simp [toDocument, isInterchange_optionalText, VolumeMount.isInterchange_toDocument]

/-- A pod is written as an interchange document. -/
theorem Pod.isInterchange_toDocument (pod : Pod) : pod.toDocument.IsInterchange := by
  simp [toDocument, Labels.isInterchange_toDocument, Toleration.isInterchange_toDocument,
    ConfigVolume.isInterchange_toDocument, Container.isInterchange_toDocument]

/-- A node is written as an interchange document. -/
theorem Node.isInterchange_toDocument (node : Node) : node.toDocument.IsInterchange := by
  simp [toDocument, isInterchange_optionalText, Labels.isInterchange_toDocument,
    Taint.isInterchange_toDocument]

/-- A profile is written as an interchange document. -/
theorem NodeProfile.isInterchange_toDocument (profile : NodeProfile) :
    profile.toDocument.IsInterchange := by
  simp [toDocument, Labels.isInterchange_toDocument, Taint.isInterchange_toDocument]

/-! ## Normal forms -/

/-- For each model, the mapping of a value has the fields of the model and denotes that value, and
so a valid document has a normal form, which is its own normal form. -/
theorem models_normalize :
    Model.Normalizes Taint ["key", "value", "effect"] ∧
    Model.Normalizes Toleration ["key", "operator", "value", "effect"] ∧
    Model.Normalizes PlacementReport ["decision", "violations", "evict"] ∧
    Model.Normalizes ConfigVolume ["name", "config_map_ref"] ∧
    Model.Normalizes VolumeMount ["name", "mount_path"] ∧
    Model.Normalizes MountBinding ["volume_name", "mount_path", "source_bundle_name"] ∧
    Model.Normalizes ResolvedContainer ["mount_plan", "resolved_command"] ∧
    Model.Normalizes Container ["name", "image", "command", "volume_mounts"] ∧
    Model.Normalizes Pod ["name", "labels", "tolerations", "volumes", "containers"] ∧
    Model.Normalizes Node ["name", "architecture", "labels", "taints"] ∧
    Model.Normalizes NodeProfile
      ["node_name", "architecture", "taint_architecture", "extra_taints", "labels"] := by
  refine ⟨?_, ?_, ?_, ?_, ?_, ?_, ?_, ?_, ?_, ?_, ?_⟩
  · exact Model.normalizes_of_denotes
      (fun taint => ⟨_, rfl, rfl, taint.isInterchange_toDocument⟩) Taint.validate_toDocument
  · exact Model.normalizes_of_denotes
      (fun toleration => ⟨_, rfl, rfl, toleration.isInterchange_toDocument⟩)
      Toleration.validate_toDocument
  · exact Model.normalizes_of_denotes
      (fun report => ⟨_, rfl, rfl, report.isInterchange_toDocument⟩)
      PlacementReport.validate_toDocument
  · exact Model.normalizes_of_denotes
      (fun volume => ⟨_, rfl, rfl, volume.isInterchange_toDocument⟩)
      ConfigVolume.validate_toDocument
  · exact Model.normalizes_of_denotes
      (fun mount => ⟨_, rfl, rfl, mount.isInterchange_toDocument⟩) VolumeMount.validate_toDocument
  · exact Model.normalizes_of_denotes
      (fun binding => ⟨_, rfl, rfl, binding.isInterchange_toDocument⟩)
      MountBinding.validate_toDocument
  · exact Model.normalizes_of_denotes
      (fun container => ⟨_, rfl, rfl, container.isInterchange_toDocument⟩)
      ResolvedContainer.validate_toDocument
  · exact Model.normalizes_of_denotes
      (fun container => ⟨_, rfl, rfl, container.isInterchange_toDocument⟩)
      Container.validate_toDocument
  · exact Model.normalizes_of_denotes
      (fun pod => ⟨_, rfl, rfl, pod.isInterchange_toDocument⟩) Pod.validate_toDocument
  · exact Model.normalizes_of_denotes
      (fun node => ⟨_, rfl, rfl, node.isInterchange_toDocument⟩) Node.validate_toDocument
  · exact Model.normalizes_of_denotes
      (fun profile => ⟨_, rfl, rfl, profile.isInterchange_toDocument⟩)
      NodeProfile.validate_toDocument

end PodLaunch
