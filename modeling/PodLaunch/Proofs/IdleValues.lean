import Mathlib.Data.List.Forall2
import PodLaunch.Proofs.Placement

/-!
# Values of no account

A toleration that asks for existence never looks at its own value, and a taint without a value is
taken for one with an empty value. So neither the first kind of value nor the choice of the second
has any bearing on a placement. The reported violations, however, tell an absent value from an empty
one. A taint with either of them is only tolerated where its existence is asked for, since no
toleration compares with the empty value.
-/

namespace PodLaunch

/-- Two tolerations are the same except for values that are not looked at. -/
structure Toleration.SameButIdleValue (left right : Toleration) : Prop where
  /-- They have the same key. -/
  key : left.key = right.key
  /-- They have the same operator. -/
  operator : left.operator = right.operator
  /-- They have the same effect. -/
  effect : left.effect = right.effect
  /-- They have the same value, unless they ask for existence only. -/
  value : left.operator = .exists ∨ left.value = right.value

/-- Two taints are the same, where an absent value and an empty one are not told apart. -/
structure Taint.SameButAbsence (left right : Taint) : Prop where
  /-- They have the same key. -/
  key : left.key = right.key
  /-- They have the same effect. -/
  effect : left.effect = right.effect
  /-- They have the same value, or each has none or an empty one. -/
  value : left.value = right.value ∨
    (left.value = none ∨ left.value = some "") ∧ (right.value = none ∨ right.value = some "")

/-- The text of a value is empty exactly if the value is absent or empty. -/
theorem Taint.valueText_eq_empty_iff (taint : Taint) :
    taint.valueText = "" ↔ taint.value = none ∨ taint.value = some "" := by
  unfold valueText
  cases taint.value <;> simp

/-- Such taints have the same text as their value. -/
theorem Taint.SameButAbsence.valueText_eq {left right : Taint} (same : left.SameButAbsence right) :
    left.valueText = right.valueText := by
  cases same.value with
  | inl value => exact congrArg (Option.getD · "") value
  | inr bare => rw [left.valueText_eq_empty_iff.2 bare.1, right.valueText_eq_empty_iff.2 bare.2]

/-! ## Tolerations -/

/-- Tolerations that differ in values that are not looked at tolerate the same taints. -/
theorem Toleration.SameButIdleValue.tolerates_eq {left right : Toleration}
    (same : left.SameButIdleValue right) (taint : Taint) :
    left.tolerates taint = right.tolerates taint := by
  have value : (left.operator == .exists || left.value == taint.valueText) =
      (right.operator == .exists || right.value == taint.valueText) := by
    rw [← same.operator]
    cases same.value with
    | inl asks => simp [asks]
    | inr equal => rw [equal]
  rw [tolerates, tolerates, same.key, same.effect, value]

section Tolerations

variable {tolerations others : List Toleration}
  (same : List.Forall₂ Toleration.SameButIdleValue tolerations others) (taints : List Taint)

include same

/-- So do lists of them. -/
theorem isTolerated_of_sameButIdleValue (taint : Taint) :
    isTolerated tolerations taint = isTolerated others taint := by
  induction same with
  | nil => rfl
  | cons first _ ih =>
    simp only [isTolerated, List.any_cons] at ih ⊢
    rw [first.tolerates_eq, ih]

/-- They leave the same violations. -/
theorem untoleratedTaints_of_sameButIdleValue :
    untoleratedTaints tolerations taints = untoleratedTaints others taints := by
  simp only [untoleratedTaints, isTolerated_of_sameButIdleValue same]

/-- They lead to the same report. -/
theorem diagnose_of_sameButIdleValue : diagnose tolerations taints = diagnose others taints := by
  rw [diagnose, untoleratedTaints_of_sameButIdleValue same, diagnose]

/-- They lead to the same decision, which is that of the report. -/
theorem evaluate_of_sameButIdleValue : evaluate tolerations taints = evaluate others taints := by
  rw [← diagnose_decision_eq_evaluate, diagnose_of_sameButIdleValue same,
    diagnose_decision_eq_evaluate]

/-- They have the same pods removed, which are those of the report. -/
theorem requiresEviction_of_sameButIdleValue :
    requiresEviction tolerations taints = requiresEviction others taints := by
  rw [← diagnose_evict_eq_requiresEviction, diagnose_of_sameButIdleValue same,
    diagnose_evict_eq_requiresEviction]

end Tolerations

/-! ## Taints -/

/-- A toleration does not tell an absent value from an empty one. -/
theorem Taint.SameButAbsence.tolerates_eq {left right : Taint} (same : left.SameButAbsence right)
    (toleration : Toleration) : toleration.tolerates left = toleration.tolerates right := by
  rw [Toleration.tolerates, Toleration.tolerates, same.key, same.effect, same.valueText_eq]

/-- Neither do several tolerations. -/
theorem Taint.SameButAbsence.isTolerated_eq {left right : Taint} (same : left.SameButAbsence right)
    (tolerations : List Toleration) :
    isTolerated tolerations left = isTolerated tolerations right := by
  simp only [isTolerated, same.tolerates_eq]

section Taints

variable (tolerations : List Toleration) {taints others : List Taint}
  (same : List.Forall₂ Taint.SameButAbsence taints others)

include same

/-- A scan from any decision comes to the same end, since each of its steps does. -/
theorem evaluateFrom_of_sameButAbsence (before : Decision) :
    evaluateFrom tolerations before taints = evaluateFrom tolerations before others := by
  induction same generalizing before with
  | nil => rfl
  | cons first _ ih =>
    rw [evaluateFrom, evaluateFrom, first.isTolerated_eq, first.effect, ih, ih]

/-- The decision is the same for absent values and for empty ones. -/
theorem evaluate_of_sameButAbsence : evaluate tolerations taints = evaluate tolerations others :=
  evaluateFrom_of_sameButAbsence tolerations same .schedulable

/-- So are the pods that are removed. -/
theorem requiresEviction_of_sameButAbsence :
    requiresEviction tolerations taints = requiresEviction tolerations others := by
  induction same with
  | nil => rfl
  | cons first _ ih =>
    simp only [requiresEviction, List.any_cons] at ih ⊢
    rw [first.isTolerated_eq, first.effect, ih]

end Taints

/-! ## Absent and empty values -/

/-- A taint whose value is absent or empty is tolerated exactly if some toleration asks for the
existence of a taint with its key and effect. -/
theorem isTolerated_iff_of_bare (tolerations : List Toleration) {taint : Taint}
    (bare : taint.value = none ∨ taint.value = some "") :
    isTolerated tolerations taint = true ↔
      ∃ toleration ∈ tolerations, toleration.operator = .exists ∧
        (toleration.key = "" ∨ toleration.key = taint.key.text) ∧
        (toleration.effect = none ∨ toleration.effect = some taint.effect) := by
  rw [isTolerated_iff]
  refine exists_congr fun toleration => and_congr_right fun _ => ?_
  constructor
  · intro found
    have asks := found.operator_eq_exists (taint.valueText_eq_empty_iff.2 bare)
    exact ⟨asks, found.key, found.effect⟩
  · intro ⟨asks, key, effect⟩
    exact ⟨key, effect, Or.inl asks⟩

/-- A toleration that compares with a value tolerates no taint whose value is absent or empty. -/
theorem Toleration.tolerates_eq_false_of_bare {toleration : Toleration} {taint : Taint}
    (compares : toleration.operator = .equal)
    (bare : taint.value = none ∨ taint.value = some "") :
    toleration.tolerates taint = false := by
  rw [← Bool.not_eq_true, tolerates_iff]
  intro found
  have asks := found.operator_eq_exists (taint.valueText_eq_empty_iff.2 bare)
  rw [compares] at asks
  cases asks

/-- Values that are not looked at are of no account: other values of tolerations that ask for
existence change nothing, and empty values of taints in the place of absent ones, or the other way
round, change neither the decision nor the removal of a running pod. A taint with such a value is
only tolerated where its existence is asked for. -/
theorem placement_ignores_idle_values :
    (∀ (tolerations others : List Toleration) (taints : List Taint),
      List.Forall₂ Toleration.SameButIdleValue tolerations others →
      evaluate tolerations taints = evaluate others taints ∧
      requiresEviction tolerations taints = requiresEviction others taints ∧
      untoleratedTaints tolerations taints = untoleratedTaints others taints ∧
      diagnose tolerations taints = diagnose others taints) ∧
    (∀ (tolerations : List Toleration) (taints others : List Taint),
      List.Forall₂ Taint.SameButAbsence taints others →
      evaluate tolerations taints = evaluate tolerations others ∧
      requiresEviction tolerations taints = requiresEviction tolerations others ∧
      (diagnose tolerations taints).decision = (diagnose tolerations others).decision ∧
      (diagnose tolerations taints).evict = (diagnose tolerations others).evict) ∧
    ∀ taint : Taint, taint.value = none ∨ taint.value = some "" →
      (∀ tolerations : List Toleration, isTolerated tolerations taint = true ↔
        ∃ toleration ∈ tolerations, toleration.operator = .exists ∧
          (toleration.key = "" ∨ toleration.key = taint.key.text) ∧
          (toleration.effect = none ∨ toleration.effect = some taint.effect)) ∧
      ∀ toleration : Toleration, toleration.operator = .equal →
        toleration.tolerates taint = false := by
  refine ⟨?_, ?_, ?_⟩
  · intro tolerations others taints same
    exact ⟨evaluate_of_sameButIdleValue same taints,
      requiresEviction_of_sameButIdleValue same taints,
      untoleratedTaints_of_sameButIdleValue same taints, diagnose_of_sameButIdleValue same taints⟩
  · intro tolerations taints others same
    have decision := evaluate_of_sameButAbsence tolerations same
    have eviction := requiresEviction_of_sameButAbsence tolerations same
    simp only [diagnose_decision_eq_evaluate, diagnose_evict_eq_requiresEviction]
    exact ⟨decision, eviction, decision, eviction⟩
  · intro taint bare
    exact ⟨fun tolerations => isTolerated_iff_of_bare tolerations bare,
      fun toleration compares => Toleration.tolerates_eq_false_of_bare compares bare⟩

/-- A toleration of every taint with the key of a lease, with a value that is not looked at. -/
def leaseToleration (value : String) : Toleration :=
  ⟨"lease", .exists, value, none, by simp⟩

/-- A taint that removes pods without a lease. -/
def leaseTaint (key : Name) (value : Option String) : Taint :=
  ⟨key, value, .noExecute⟩

/-- The key of a lock. -/
def lockKey : Name :=
  ⟨"lock", by decide⟩

/-- Another value of the toleration changes nothing. Two taints of a lock that differ in the absence
of their value are two violations, and only one if neither has a value, but they remove the pod in
both cases; and a toleration of the empty key and a value tolerates neither. -/
theorem placement_ignores_idle_values_lockTaints :
    diagnose [leaseToleration "a"] [leaseTaint lockKey none] =
      diagnose [leaseToleration "b"] [leaseTaint lockKey none] ∧
    (untoleratedTaints [leaseToleration "a"]
      [leaseTaint lockKey none, leaseTaint lockKey (some "")]).length = 2 ∧
    (untoleratedTaints [leaseToleration "a"]
      [leaseTaint lockKey none, leaseTaint lockKey none]).length = 1 ∧
    evaluate [leaseToleration "a"] [leaseTaint lockKey none, leaseTaint lockKey (some "")] =
      evaluate [leaseToleration "a"] [leaseTaint lockKey none, leaseTaint lockKey none] ∧
    isTolerated [leaseToleration "a"] (leaseTaint lockKey (some "")) = false ∧
    (⟨"", .equal, "a", none, by decide⟩ : Toleration).tolerates (leaseTaint lockKey none) =
      false := by
  have ⟨tolerations, taints, bare⟩ := placement_ignores_idle_values
  have idle : List.Forall₂ Toleration.SameButIdleValue [leaseToleration "a"]
      [leaseToleration "b"] :=
    .cons ⟨rfl, rfl, rfl, Or.inl rfl⟩ .nil
  have absent : List.Forall₂ Taint.SameButAbsence
      [leaseTaint lockKey none, leaseTaint lockKey (some "")]
      [leaseTaint lockKey none, leaseTaint lockKey none] :=
    .cons ⟨rfl, rfl, Or.inl rfl⟩ (.cons ⟨rfl, rfl, Or.inr ⟨Or.inr rfl, Or.inl rfl⟩⟩ .nil)
  have ⟨_, _, _, report⟩ := tolerations _ _ [leaseTaint lockKey none] idle
  have ⟨decision, _, _, _⟩ := taints [leaseToleration "a"] _ _ absent
  have unmatched : isTolerated [leaseToleration "a"] (leaseTaint lockKey (some "")) = false := by
    rw [← Bool.not_eq_true, (bare (leaseTaint lockKey (some "")) (Or.inr rfl)).1]
    decide
  exact ⟨report, by decide, by decide, decision, unmatched,
    (bare (leaseTaint lockKey none) (Or.inl rfl)).2 _ rfl⟩

end PodLaunch
