import Mathlib.Logic.Function.Basic
import PodLaunch.Proofs.Manifest.Shape
import PodLaunch.Proofs.Unmatchable

/-!
# Tolerations in documents

What the fields of a toleration have to look like, and which values they stand for. A toleration
with such fields that asks for a value, but for none in particular, matches nothing.
-/

namespace PodLaunch

open Validated

/-- A name of a choice stands for the choice of that name, if no other one has it. -/
theorem checkChoice_eq_valid_iff {α : Type} {name : α → String} (distinct : name.Injective)
    {all : List α} (complete : ∀ value, value ∈ all) {d : Document} (h : d.IsInterchange)
    (value : α) :
    checkChoice (all.map fun value => (name value, value)) d = .valid value ↔
      d = .text (name value) := by
  cases h with
  | text given =>
    simp only [checkChoice, checkText, List.find?_map, Function.comp_def, Document.text.injEq]
    cases found : all.find? fun value => name value == given with
    | none =>
      have unknown : given ≠ name value := by
        intro same
        have differs := List.find?_eq_none.1 found value (complete value)
        exact differs (by simp [same])
      simp [unknown, fault]
    | some other =>
      have named : name other = given := by simpa using List.find?_some found
      simp only [Option.map_some, valid.injEq]
      rw [← named, distinct.eq_iff]
  | _ => simp [checkChoice, checkText, fault]

namespace Manifest

/-! ## Fields -/

/-- A field holds a text, where an absent one counts as empty. -/
def IsTextOrEmpty (value : Option Document) (text : String) : Prop :=
  IsAbsent value ∧ text = "" ∨ value = some (.text text)

/-- A field holds the name of an operator; a value is asked for if it is left out. -/
def IsOperator (value : Option Document) (operator : TolerationOperator) : Prop :=
  value = none ∧ operator = .equal ∨ value = some (.text operator.name)

/-- A field holds the name of an effect, or stands for every effect. -/
def IsEffect (value : Option Document) (effect : Option TaintEffect) : Prop :=
  (IsAbsent value ∨ value = some (.text "")) ∧ effect = none ∨
    ∃ given : TaintEffect, value = some (.text given.name) ∧ effect = some given

/-- The fields of a toleration, with the values that they stand for. -/
structure TolerationFields (entry : Entries) (key : String) (operator : TolerationOperator)
    (value : String) (effect : Option TaintEffect) : Prop where
  /-- The key. -/
  key : IsTextOrEmpty (entry.get? "key") key
  /-- The operator. -/
  operator : IsOperator (entry.get? "operator") operator
  /-- The value. -/
  value : IsTextOrEmpty (entry.get? "value") value
  /-- The effect. -/
  effect : IsEffect (entry.get? "effect") effect

/-- A text or the absent value is valid exactly if it is given as such. -/
theorem checkTextOrNull_eq_valid_iff {d : Document} (h : d.IsInterchange) (text : String) :
    Toleration.checkTextOrNull d = .valid text ↔ d = .null ∧ text = "" ∨ d = .text text := by
  cases h <;> simp [Toleration.checkTextOrNull, checkText, fault, eq_comm]

/-- An operator is valid exactly if it is given by its name. -/
theorem checkOperator_eq_valid_iff {d : Document} (h : d.IsInterchange)
    (operator : TolerationOperator) :
    checkChoice TolerationOperator.choices d = .valid operator ↔ d = .text operator.name := by
  apply checkChoice_eq_valid_iff _ _ h
  · intro left right same
    cases left <;> cases right <;> first | rfl | exact absurd same (by decide)
  · intro operator
    cases operator <;> decide

/-- An effect is valid exactly if it is given by its name. -/
theorem checkTaintEffect_eq_valid_iff {d : Document} (h : d.IsInterchange)
    (effect : TaintEffect) :
    checkChoice TaintEffect.choices d = .valid effect ↔ d = .text effect.name := by
  apply checkChoice_eq_valid_iff _ _ h
  · intro left right same
    cases left <;> cases right <;> first | rfl | exact absurd same (by decide)
  · intro effect
    cases effect <;> decide

/-- An effect or none is valid exactly if it is given by its name, or is absent or empty. -/
theorem checkEffect_eq_valid_iff {d : Document} (h : d.IsInterchange)
    (effect : Option TaintEffect) :
    Toleration.checkEffect d = .valid effect ↔
      (d = .null ∨ d = .text "") ∧ effect = none ∨
        ∃ given : TaintEffect, d = .text given.name ∧ effect = some given := by
  have named (given : TaintEffect) : given.name ≠ "" := by
    cases given <;> decide
  unfold Toleration.checkEffect
  split
  · simp [eq_comm]
  · have unnamed (given : TaintEffect) : "" ≠ given.name := (named given).symm
    simp [unnamed, eq_comm]
  · rename_i notNull notEmpty
    have notNull : d ≠ .null := notNull
    have notEmpty : d ≠ .text "" := notEmpty
    simp only [map_eq_valid_iff, checkTaintEffect_eq_valid_iff h, notNull, notEmpty, or_self,
      false_and, false_or, eq_comm]

/-! ## Tolerations that match nothing -/

/-- A toleration asks for a value, but for none in particular: its fields are well-typed, its
operator is the one that asks for a value, and its value is absent or empty. -/
def AsksForNoValue (entry : Entries) (key : String) : Prop :=
  ∃ effect, TolerationFields entry key .equal "" effect

/-- A field of a toleration has problems only. -/
theorem neverUnmatchable_checkTextOrNull (d : Document) :
    (Toleration.checkTextOrNull d).NeverUnmatchable := by
  unfold Toleration.checkTextOrNull
  split
  · exact neverUnmatchable_valid _
  · exact neverUnmatchable_checkText _

/-- The effect of a toleration has problems only. -/
theorem neverUnmatchable_checkEffect (d : Document) :
    (Toleration.checkEffect d).NeverUnmatchable := by
  unfold Toleration.checkEffect
  split
  · exact neverUnmatchable_valid _
  · exact neverUnmatchable_valid _
  · exact (neverUnmatchable_checkChoice _ _).map _

/-- Well-typed parts match nothing exactly if they ask for a value and give none. -/
theorem ofParts_eq_unmatchable_iff (key : String) (operator : TolerationOperator) (value : String)
    (effect : Option TaintEffect) (reported : String) :
    Toleration.ofParts key operator value effect = .unmatchable reported ↔
      operator = .equal ∧ value = "" ∧ key = reported := by
  unfold Toleration.ofParts
  split
  · rename_i matchable
    simp only [reduceCtorEq, false_iff, not_and]
    intro asks empty
    exact absurd empty (matchable asks)
  · rename_i contradictory
    have ⟨asks, empty⟩ : operator = .equal ∧ value = "" := by
      simpa using contradictory
    simp [asks, empty]

variable {entry : Entries}

/-- A text is a field of a toleration exactly if the field holds it. -/
theorem optional_checkTextOrNull_iff (h : (Document.mapping entry).IsInterchange)
    (name text : String) :
    optional entry name "" Toleration.checkTextOrNull = .valid text ↔
      IsTextOrEmpty (entry.get? name) text := by
  rw [optional_eq_valid_iff, IsTextOrEmpty, IsAbsent]
  cases found : entry.get? name with
  | none => simp
  | some d => simp [checkTextOrNull_eq_valid_iff (h.of_get? found)]

/-- An operator is that of a toleration exactly if its field holds it. -/
theorem optional_checkOperator_iff (h : (Document.mapping entry).IsInterchange)
    (operator : TolerationOperator) :
    optional entry "operator" .equal (checkChoice TolerationOperator.choices) =
        .valid operator ↔
      IsOperator (entry.get? "operator") operator := by
  rw [optional_eq_valid_iff, IsOperator]
  cases found : entry.get? "operator" with
  | none => simp
  | some d => simp [checkOperator_eq_valid_iff (h.of_get? found)]

/-- An effect is that of a toleration exactly if its field holds it. -/
theorem optional_checkEffect_iff (h : (Document.mapping entry).IsInterchange)
    (effect : Option TaintEffect) :
    optional entry "effect" none Toleration.checkEffect = .valid effect ↔
      IsEffect (entry.get? "effect") effect := by
  rw [optional_eq_valid_iff, IsEffect, IsAbsent]
  cases found : entry.get? "effect" with
  | none => simp
  | some d => simp [checkEffect_eq_valid_iff (h.of_get? found)]

/-- The parts of a toleration, as far as its fields are well-typed. -/
def tolerationParts (entry : Entries) :
    Validated (((String × TolerationOperator) × String) × Option TaintEffect) :=
  (((optional entry "key" "" Toleration.checkTextOrNull).zip
    (optional entry "operator" .equal (checkChoice TolerationOperator.choices))).zip
    (optional entry "value" "" Toleration.checkTextOrNull)).zip
    (optional entry "effect" none Toleration.checkEffect)

/-- A toleration is validated as its parts are put together. -/
theorem validate_toleration_eq (entry : Entries) :
    Toleration.validate (.mapping entry) =
      (tolerationParts entry).andThen fun (((key, operator), value), effect) =>
        Toleration.ofParts key operator value effect :=
  rfl

/-- Parts are those of a toleration exactly if its fields hold them. -/
theorem tolerationParts_eq_valid_iff (h : (Document.mapping entry).IsInterchange) (key : String)
    (operator : TolerationOperator) (value : String) (effect : Option TaintEffect) :
    tolerationParts entry = .valid (((key, operator), value), effect) ↔
      TolerationFields entry key operator value effect := by
  simp only [tolerationParts, zip_eq_valid_iff, optional_checkTextOrNull_iff h,
    optional_checkOperator_iff h, optional_checkEffect_iff h]
  constructor
  · rintro ⟨⟨⟨isKey, isOperator⟩, isValue⟩, isEffect⟩
    exact ⟨isKey, isOperator, isValue, isEffect⟩
  · rintro ⟨isKey, isOperator, isValue, isEffect⟩
    exact ⟨⟨⟨isKey, isOperator⟩, isValue⟩, isEffect⟩

/-- The parts of a toleration have problems only. -/
theorem neverUnmatchable_tolerationParts (entry : Entries) :
    (tolerationParts entry).NeverUnmatchable := by
  have keys := neverUnmatchable_optional neverUnmatchable_checkTextOrNull entry "key" ""
  have operators := neverUnmatchable_optional
    (neverUnmatchable_checkChoice TolerationOperator.choices) entry "operator" .equal
  have values := neverUnmatchable_optional neverUnmatchable_checkTextOrNull entry "value" ""
  have effects := neverUnmatchable_optional neverUnmatchable_checkEffect entry "effect" none
  exact ((keys.zip operators).zip values).zip effects

/-- Well-typed parts are a toleration exactly if they are its own. -/
theorem ofParts_eq_toleration_iff (key : String) (operator : TolerationOperator) (value : String)
    (effect : Option TaintEffect) (toleration : Toleration) :
    Toleration.ofParts key operator value effect = .valid toleration ↔
      toleration.key = key ∧ toleration.operator = operator ∧ toleration.value = value ∧
        toleration.effect = effect := by
  unfold Toleration.ofParts
  constructor
  · intro valid
    split at valid
    · cases valid
      exact ⟨rfl, rfl, rfl, rfl⟩
    · cases valid
  · rintro ⟨rfl, rfl, rfl, rfl⟩
    rw [dif_pos toleration.equal_value]

/-- A mapping is a valid toleration exactly if its fields hold the parts of the toleration. -/
theorem validate_toleration_eq_valid_iff (h : (Document.mapping entry).IsInterchange)
    (toleration : Toleration) :
    Toleration.validate (.mapping entry) = .valid toleration ↔
      TolerationFields entry toleration.key toleration.operator toleration.value
        toleration.effect := by
  rw [validate_toleration_eq, andThen_eq_valid_iff, ← tolerationParts_eq_valid_iff h]
  simp only [ofParts_eq_toleration_iff]
  constructor
  · rintro ⟨⟨⟨⟨key, operator⟩, value⟩, effect⟩, parts, rfl, rfl, rfl, rfl⟩
    exact parts
  · intro parts
    exact ⟨_, parts, rfl, rfl, rfl, rfl⟩

/-- A mapping is a toleration that matches nothing exactly if it asks for a value, but for none in
particular. -/
theorem validate_eq_unmatchable_iff (h : (Document.mapping entry).IsInterchange) (key : String) :
    Toleration.validate (.mapping entry) = .unmatchable key ↔ AsksForNoValue entry key := by
  rw [validate_toleration_eq, (neverUnmatchable_tolerationParts entry).andThen_eq_unmatchable_iff]
  simp only [ofParts_eq_unmatchable_iff, AsksForNoValue, ← tolerationParts_eq_valid_iff h]
  constructor
  · rintro ⟨⟨⟨⟨own, operator⟩, value⟩, effect⟩, parts, rfl, rfl, rfl⟩
    exact ⟨effect, parts⟩
  · rintro ⟨effect, parts⟩
    exact ⟨_, parts, rfl, rfl, rfl⟩

end Manifest

end PodLaunch
