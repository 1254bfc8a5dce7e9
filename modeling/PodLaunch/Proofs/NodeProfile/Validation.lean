import PodLaunch.NodeProfile.File
import PodLaunch.Proofs.Labels

/-!
# Profiles are valid

The document of a taint, of labels or of a profile denotes nothing but that taint, these labels or
that profile.
-/

namespace PodLaunch

open Validated

/-- The text of a name is a name. -/
theorem Name.check_text (field : String) (rule : Rule) (name : Name) :
    Name.check field rule (.valid name.text) = .valid name :=
  (Name.check_eq_valid_iff field rule (.valid name.text) name).2 rfl

/-- The name of an effect is that of the effect. -/
theorem checkChoice_effect (effect : TaintEffect) :
    checkChoice TaintEffect.choices (.text effect.name) = .valid effect := by
  cases effect <;> rfl

/-- The document of a taint denotes the taint. -/
theorem Taint.validate_toDocument (taint : Taint) :
    Taint.validate taint.toDocument = .valid taint := by
  obtain ⟨key, value, effect⟩ := taint
  simp [Taint.validate, Taint.toDocument, checkModel, Document.entries?_mapping, Taint.ofParts,
    required, requiredAs, optional, optionalAs, Entries.field?_self, andThen, checkText, atStep,
    Name.check_text, checkOptionalText_getD, checkChoice_effect, Validated.zip, Validated.map]

/-- The document of labels is an interchange document. -/
theorem Labels.isInterchange_toDocument (labels : Labels) : labels.toDocument.IsInterchange := by
  have distinct := List.Nodup.map (fun _ _ => Document.text.inj) labels.distinct
  rw [List.map_map] at distinct
  rw [toDocument, Document.isInterchange_mapping_iff, List.map_map]
  refine ⟨fun entry member => ?_, distinct, fun entry member => ?_⟩
  · obtain ⟨label, _, rfl⟩ := List.mem_map.1 member
    exact ⟨label.1, rfl⟩
  · obtain ⟨label, _, rfl⟩ := List.mem_map.1 member
    exact .text label.2

/-- The document of a profile denotes the profile. -/
theorem NodeProfile.validate_toDocument (profile : NodeProfile) :
    NodeProfile.validate profile.toDocument = .valid profile := by
  obtain ⟨nodeName, architecture, taintArchitecture, extraTaints, labels⟩ := profile
  have settings := (checkLabels_eq_valid_iff labels.isInterchange_toDocument labels).2 rfl
  simp [NodeProfile.validate, NodeProfile.toDocument, checkModel, Document.entries?_mapping,
    required, requiredAs, optional, optionalAs, Entries.field?_self, andThen, checkText, atStep,
    Name.check_text, checkBool, checkItems_map _ Taint.validate_toDocument, settings,
    Validated.zip, Validated.map]

/-- The document of a profile in a file denotes the profile. -/
theorem NodeProfile.ofDocument_toDocument (path : String) (profile : NodeProfile) :
    NodeProfile.ofDocument path profile.toDocument = .ok profile := by
  have valid := profile.validate_toDocument
  have entries : ∃ entries, profile.toDocument = .mapping entries ∧ hasTextKeys entries = true :=
    ⟨_, rfl, rfl⟩
  obtain ⟨entries, mapping, textKeys⟩ := entries
  rw [mapping] at valid ⊢
  rw [ofDocument, Document.entries?_mapping]
  simp only [textKeys, valid, Bool.not_true, Bool.false_eq_true, ↓reduceIte]

end PodLaunch
