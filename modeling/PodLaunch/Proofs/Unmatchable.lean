import PodLaunch.Pod
import PodLaunch.Proofs.Validation

/-!
# Validations that end with problems only

A toleration that matches nothing ends the validation around it at once. No other model has such a
defect: its validation ends with a value or with problems, as those of its parts do.
-/

namespace PodLaunch

namespace Validated

variable {α β : Type}

/-- A validation ends with a value or with problems. -/
def NeverUnmatchable (outcome : Validated α) : Prop :=
  ∀ key, outcome ≠ .unmatchable key

/-- A value is no such defect. -/
theorem neverUnmatchable_valid (value : α) : (valid value).NeverUnmatchable := by
  intro key same
  cases same

/-- Problems are no such defect. -/
theorem neverUnmatchable_invalid (problems : List Problem) :
    (invalid problems : Validated α).NeverUnmatchable := by
  intro key same
  cases same

section Parts

variable {outcome : Validated α} (h : outcome.NeverUnmatchable)

include h

/-- A changed value is no defect of its own. -/
theorem NeverUnmatchable.map (f : α → β) : (outcome.map f).NeverUnmatchable := by
  cases outcome with
  | valid value => exact neverUnmatchable_valid _
  | invalid problems => exact neverUnmatchable_invalid _
  | unmatchable key => exact absurd rfl (h key)

/-- A place is no defect of its own. -/
theorem NeverUnmatchable.atStep (step : PlaceStep) : (outcome.atStep step).NeverUnmatchable := by
  cases outcome with
  | valid value => exact neverUnmatchable_valid _
  | invalid problems => exact neverUnmatchable_invalid _
  | unmatchable key => exact absurd rfl (h key)

/-- A further check ends with problems if it does so by itself. -/
theorem NeverUnmatchable.andThen {next : α → Validated β}
    (rest : ∀ value, (next value).NeverUnmatchable) :
    (outcome.andThen next).NeverUnmatchable := by
  cases outcome with
  | valid value => exact rest value
  | invalid problems => exact neverUnmatchable_invalid _
  | unmatchable key => exact absurd rfl (h key)

/-- Two parts end with problems if each of them does. -/
theorem NeverUnmatchable.zip {other : Validated β} (also : other.NeverUnmatchable) :
    (outcome.zip other).NeverUnmatchable := by
  cases outcome with
  | unmatchable key => exact absurd rfl (h key)
  | valid value =>
    cases other with
    | unmatchable key => exact absurd rfl (also key)
    | valid _ => exact neverUnmatchable_valid _
    | invalid _ => exact neverUnmatchable_invalid _
  | invalid problems =>
    cases other with
    | unmatchable key => exact absurd rfl (also key)
    | valid _ => exact neverUnmatchable_invalid _
    | invalid _ => exact neverUnmatchable_invalid _

/-- A value that is checked further matches nothing exactly if the further check says so. -/
theorem NeverUnmatchable.andThen_eq_unmatchable_iff (next : α → Validated β) (key : String) :
    outcome.andThen next = .unmatchable key ↔
      ∃ value, outcome = .valid value ∧ next value = .unmatchable key := by
  cases outcome with
  | valid value => simp [Validated.andThen]
  | invalid problems => simp [Validated.andThen]
  | unmatchable other => exact absurd rfl (h other)

end Parts

/-- The elements of a list end with problems if each of them does. -/
theorem neverUnmatchable_allFrom {check : Document → Validated α}
    (each : ∀ d, (check d).NeverUnmatchable) (position : Nat) (items : List Document) :
    (allFrom check position items).NeverUnmatchable := by
  induction items generalizing position with
  | nil => exact neverUnmatchable_valid []
  | cons item items ih => exact (((each item).atStep _).zip (ih _)).map _

end Validated

open Validated

/-! ## Checks of single values -/

/-- A text has problems only. -/
theorem neverUnmatchable_checkText (d : Document) : (checkText d).NeverUnmatchable := by
  unfold checkText
  split
  · exact neverUnmatchable_valid _
  · split
    · exact neverUnmatchable_valid _
    · exact neverUnmatchable_invalid _
  · exact neverUnmatchable_invalid _

/-- A text that may be absent has problems only. -/
theorem neverUnmatchable_checkOptionalText (d : Document) :
    (checkOptionalText d).NeverUnmatchable := by
  unfold checkOptionalText
  split
  · exact neverUnmatchable_valid _
  · exact (neverUnmatchable_checkText d).map _

/-- A truth value has problems only. -/
theorem neverUnmatchable_checkBool (d : Document) : (checkBool d).NeverUnmatchable := by
  have name (s : String) : (checkTruthName s).NeverUnmatchable := by
    unfold checkTruthName
    dsimp only
    split
    · exact neverUnmatchable_valid _
    · exact neverUnmatchable_invalid _
  have number (n : Int) : (checkTruthInt n).NeverUnmatchable := by
    unfold checkTruthInt
    split
    · exact neverUnmatchable_valid _
    · split
      · exact neverUnmatchable_valid _
      · exact neverUnmatchable_invalid _
  unfold checkBool
  split
  · exact neverUnmatchable_valid _
  · exact name _
  · split
    · exact name _
    · exact neverUnmatchable_invalid _
  · split
    · exact number _
    · exact neverUnmatchable_invalid _
  · split
    · split
      · exact number _
      · exact neverUnmatchable_invalid _
    · exact neverUnmatchable_invalid _
  · exact neverUnmatchable_invalid _

/-- A choice has problems only. -/
theorem neverUnmatchable_checkChoice {α : Type} (choices : List (String × α)) (d : Document) :
    (checkChoice choices d).NeverUnmatchable := by
  unfold checkChoice
  cases checkText d with
  | valid name =>
    dsimp only
    split
    · exact neverUnmatchable_valid _
    · exact neverUnmatchable_invalid _
  | invalid problems => exact neverUnmatchable_invalid _
  | unmatchable key => exact neverUnmatchable_invalid _

/-- A list has problems only if its elements do. -/
theorem neverUnmatchable_checkItems {α : Type} (otherwise : Fault) {check : Document → Validated α}
    (each : ∀ d, (check d).NeverUnmatchable) (d : Document) :
    (checkItems otherwise check d).NeverUnmatchable := by
  unfold checkItems
  split
  · exact neverUnmatchable_allFrom each 0 _
  · exact neverUnmatchable_invalid _

/-- What may hold a model has problems only. -/
theorem neverUnmatchable_checkModel (model : String) (d : Document) :
    (checkModel model d).NeverUnmatchable := by
  unfold checkModel
  split
  · exact neverUnmatchable_valid _
  · exact neverUnmatchable_invalid _

/-- A name has problems only if its text does. -/
theorem neverUnmatchable_check (field : String) (rule : Rule) {text : Validated String}
    (h : text.NeverUnmatchable) : (Name.check field rule text).NeverUnmatchable := by
  apply h.andThen
  intro s
  split
  · exact neverUnmatchable_invalid _
  · exact neverUnmatchable_valid _

section Fields

variable {α : Type} {check : Document → Validated α} (each : ∀ d, (check d).NeverUnmatchable)
  (entries : Entries) (name inner : String)

include each

/-- A required field has problems only if its check does. -/
theorem neverUnmatchable_requiredAs : (requiredAs entries name inner check).NeverUnmatchable := by
  unfold requiredAs
  split
  · exact (each _).atStep _
  · exact neverUnmatchable_invalid _

/-- A field with a default has problems only if its check does. -/
theorem neverUnmatchable_optionalAs (default : α) :
    (optionalAs entries name inner default check).NeverUnmatchable := by
  unfold optionalAs
  split
  · exact (each _).atStep _
  · exact neverUnmatchable_valid _

/-- A required field of one name has problems only if its check does. -/
theorem neverUnmatchable_required : (required entries name check).NeverUnmatchable :=
  neverUnmatchable_requiredAs each entries name name

/-- A field of one name with a default has problems only if its check does. -/
theorem neverUnmatchable_optional (default : α) :
    (optional entries name default check).NeverUnmatchable :=
  neverUnmatchable_optionalAs each entries name name default

end Fields

/-- The entries of a mapping have problems only as labels. -/
theorem neverUnmatchable_checkLabelEntries (entries : Entries) :
    (checkLabelEntries entries).NeverUnmatchable := by
  induction entries with
  | nil => exact neverUnmatchable_valid []
  | cons entry entries ih =>
    have key := ((neverUnmatchable_checkText entry.1).atStep .keyItself).atStep (.under entry.1)
    have value := (neverUnmatchable_checkText entry.2).atStep (.under entry.1)
    exact ((key.zip value).zip ih).map _

/-- Labels have problems only. -/
theorem neverUnmatchable_checkLabels (d : Document) : (checkLabels d).NeverUnmatchable := by
  unfold checkLabels
  split
  · exact (neverUnmatchable_checkLabelEntries _).map _
  · exact neverUnmatchable_invalid _

/-! ## Models -/

/-- A taint has problems only. -/
theorem Taint.neverUnmatchable_validate (d : Document) : (Taint.validate d).NeverUnmatchable := by
  apply (neverUnmatchable_checkModel "Taint" d).andThen
  intro entries
  have key := neverUnmatchable_check "key" .taintKey
    (neverUnmatchable_required neverUnmatchable_checkText entries "key")
  have value := neverUnmatchable_optional neverUnmatchable_checkOptionalText entries "value" none
  have effect := neverUnmatchable_required
    (neverUnmatchable_checkChoice TaintEffect.choices) entries "effect"
  exact ((key.zip value).zip effect).map _

/-- A volume has problems only. -/
theorem ConfigVolume.neverUnmatchable_validate (d : Document) :
    (ConfigVolume.validate d).NeverUnmatchable := by
  apply (neverUnmatchable_checkModel "ConfigVolume" d).andThen
  intro entries
  have name := neverUnmatchable_check "name" .volumeNames
    (neverUnmatchable_required neverUnmatchable_checkText entries "name")
  have bundle := neverUnmatchable_check "configMapRef" .volumeNames
    (neverUnmatchable_requiredAs neverUnmatchable_checkText entries "configMapRef" "config_map_ref")
  exact (name.zip bundle).map _

/-- A mount has problems only. -/
theorem VolumeMount.neverUnmatchable_validate (d : Document) :
    (VolumeMount.validate d).NeverUnmatchable := by
  apply (neverUnmatchable_checkModel "VolumeMount" d).andThen
  intro entries
  have name := neverUnmatchable_required neverUnmatchable_checkText entries "name"
  have path := neverUnmatchable_requiredAs neverUnmatchable_checkText entries "mountPath"
    "mount_path"
  have checked : (VolumeMount.checkPath
      (requiredAs entries "mountPath" "mount_path" checkText)).NeverUnmatchable := by
    apply path.andThen
    intro s
    split
    · exact neverUnmatchable_valid _
    · exact neverUnmatchable_invalid _
  exact (name.zip checked).map _

/-- A container has problems only. -/
theorem Container.neverUnmatchable_validate (d : Document) :
    (Container.validate d).NeverUnmatchable := by
  apply (neverUnmatchable_checkModel "ContainerSpec" d).andThen
  intro entries
  have name := neverUnmatchable_required neverUnmatchable_checkText entries "name"
  have image := neverUnmatchable_optional neverUnmatchable_checkOptionalText entries "image" none
  have command := neverUnmatchable_optional
    (neverUnmatchable_checkItems .notTuple neverUnmatchable_checkText) entries "command" []
  have mounts := neverUnmatchable_optionalAs
    (neverUnmatchable_checkItems .notTuple VolumeMount.neverUnmatchable_validate) entries
    "volumeMounts" "volume_mounts" []
  exact (((name.zip image).zip command).zip mounts).map _

/-- A pod has problems only if its parts do. -/
theorem Pod.neverUnmatchable_ofParts {name : Validated String} {labels : Validated Labels}
    {tolerations : Validated (List Toleration)} {volumes : Validated (List ConfigVolume)}
    {containers : Validated (List Container)} (named : name.NeverUnmatchable)
    (labelled : labels.NeverUnmatchable) (tolerant : tolerations.NeverUnmatchable)
    (filled : volumes.NeverUnmatchable) (contained : containers.NeverUnmatchable) :
    (Pod.ofParts name labels tolerations volumes containers).NeverUnmatchable := by
  have distinct : (checkVolumes volumes).NeverUnmatchable := by
    apply filled.andThen
    intro values
    split
    · exact neverUnmatchable_valid _
    · exact neverUnmatchable_invalid _
  have some : (checkContainers containers).NeverUnmatchable := by
    apply contained.andThen
    intro values
    split
    · exact neverUnmatchable_invalid _
    · exact neverUnmatchable_valid _
  exact ((((named.zip labelled).zip tolerant).zip distinct).zip some).map _

/-- A node has problems only if its parts do. -/
theorem Node.neverUnmatchable_ofParts {name : Validated String}
    {architecture : Validated (Option String)} {labels : Validated Labels}
    {taints : Validated (List Taint)} (named : name.NeverUnmatchable)
    (built : architecture.NeverUnmatchable) (labelled : labels.NeverUnmatchable)
    (tainted : taints.NeverUnmatchable) :
    (Node.ofParts name architecture labels taints).NeverUnmatchable :=
  (((named.zip built).zip labelled).zip tainted).map _

end PodLaunch
