import PodLaunch.Decision

/-!
# Violations

A toleration tolerates a taint by three conditions, on the key, the effect and the value. The taints
for which no toleration meets them are the violations. Putting them into order neither adds nor
loses one, since only a taint compares as equal with itself.
-/

namespace PodLaunch

/-! ## The rule of toleration -/

/-- The conditions under which a toleration tolerates a taint. -/
structure Toleration.Matches (toleration : Toleration) (taint : Taint) : Prop where
  /-- The toleration asks for the key of the taint, or for no key. -/
  key : toleration.key = "" ∨ toleration.key = taint.key.text
  /-- It asks for the effect of the taint, or for no effect. -/
  effect : toleration.effect = none ∨ toleration.effect = some taint.effect
  /-- It asks for the value of the taint, where an absent one counts as empty, or only for the
  existence of the taint. -/
  value : toleration.operator = .exists ∨ toleration.value = taint.value.getD ""

/-- The test for toleration decides the conditions. -/
theorem Toleration.tolerates_iff (toleration : Toleration) (taint : Taint) :
    toleration.tolerates taint = true ↔ toleration.Matches taint := by
  simp only [tolerates, Bool.and_eq_true, Bool.or_eq_true, beq_iff_eq, Taint.valueText]
  constructor
  · rintro ⟨⟨key, effect⟩, value⟩
    exact ⟨key, effect, value⟩
  · rintro ⟨key, effect, value⟩
    exact ⟨⟨key, effect⟩, value⟩

/-- A taint whose value is absent or empty is matched only by a toleration that asks for existence.
-/
theorem Toleration.Matches.operator_eq_exists {toleration : Toleration} {taint : Taint}
    (found : toleration.Matches taint) (bare : taint.valueText = "") :
    toleration.operator = .exists := by
  cases found.value with
  | inl asks => exact asks
  | inr same =>
    cases operator : toleration.operator with
    | «exists» => rfl
    | equal =>
      have empty : toleration.value = "" := same.trans bare
      exact absurd empty (toleration.equal_value operator)

/-- The toleration of the taints with a key, whatever their value; the empty key is that of all. -/
def Toleration.ofKey (key : String) (effect : Option TaintEffect) : Toleration :=
  ⟨key, .exists, "", effect, by decide⟩

/-- A taint that no toleration matches. -/
def Taint.IsUntolerated (taint : Taint) (tolerations : List Toleration) : Prop :=
  ∀ toleration ∈ tolerations, ¬ toleration.Matches taint

/-- Some toleration tolerates a taint exactly if one matches it. -/
theorem isTolerated_iff (tolerations : List Toleration) (taint : Taint) :
    isTolerated tolerations taint = true ↔
      ∃ toleration ∈ tolerations, toleration.Matches taint := by
  simp only [isTolerated, List.any_eq_true, Toleration.tolerates_iff]

/-- No toleration tolerates a taint exactly if none matches it. -/
theorem isTolerated_eq_false_iff (tolerations : List Toleration) (taint : Taint) :
    isTolerated tolerations taint = false ↔ taint.IsUntolerated tolerations := by
  rw [← Bool.not_eq_true, isTolerated_iff, Taint.IsUntolerated]
  constructor
  · exact fun none toleration member found => none ⟨toleration, member, found⟩
  · exact fun none ⟨toleration, member, found⟩ => none toleration member found

/-! ## The order of violations -/

/-- Effects of the same severity are the same. -/
theorem TaintEffect.eq_of_severity_eq {left right : TaintEffect}
    (h : left.severity = right.severity) : left = right := by
  cases left <;> cases right <;> first | rfl | exact absurd h (by decide)

/-- Values are the same if their texts are, and if both are there or neither is. -/
theorem value_eq_of_getD_eq {left right : Option String} (text : left.getD "" = right.getD "")
    (presence : left.isSome.toNat = right.isSome.toNat) : left = right := by
  cases left with
  | none =>
    cases right with
    | none => rfl
    | some value => exact absurd presence (by simp)
  | some value =>
    cases right with
    | none => exact absurd presence (by simp)
    | some other => exact congrArg some text

/-- Only a taint compares as equal with itself. -/
theorem Taint.compareViolations_eq_eq_iff (left right : Taint) :
    left.compareViolations right = .eq ↔ left = right := by
  constructor
  · intro h
    simp only [compareViolations, compareValues, Ordering.then_eq_eq,
      Std.compare_eq_iff_eq] at h
    obtain ⟨⟨severity, key⟩, text, presence⟩ := h
    obtain ⟨leftKey, leftValue, leftEffect⟩ := left
    obtain ⟨rightKey, rightValue, rightEffect⟩ := right
    have sameKey : leftKey = rightKey := Name.eq_of_text_eq key
    have sameValue : leftValue = rightValue := value_eq_of_getD_eq text presence
    have sameEffect : leftEffect = rightEffect := (TaintEffect.eq_of_severity_eq severity).symm
    rw [sameKey, sameValue, sameEffect]
  · rintro rfl
    simp only [compareViolations, compareValues, Ordering.then_eq_eq, Std.compare_eq_iff_eq,
      and_self]

/-- Putting a violation into its place adds it and nothing else. -/
theorem mem_insertViolation (taint other : Taint) (violations : List Taint) :
    other ∈ insertViolation taint violations ↔ other = taint ∨ other ∈ violations := by
  induction violations with
  | nil => simp [insertViolation]
  | cons first rest ih =>
    simp only [insertViolation]
    cases order : taint.compareViolations first with
    | lt => exact List.mem_cons
    | eq =>
      have same : taint = first := (taint.compareViolations_eq_eq_iff first).1 order
      subst same
      simp
    | gt =>
      simp only [List.mem_cons, ih]
      exact or_left_comm

/-- The violations are exactly the taints that no toleration matches. -/
theorem mem_untoleratedTaints (tolerations : List Toleration) (taints : List Taint)
    (taint : Taint) :
    taint ∈ untoleratedTaints tolerations taints ↔
      taint ∈ taints ∧ taint.IsUntolerated tolerations := by
  have collected (found : List Taint) :
      taint ∈ found.foldr insertViolation [] ↔ taint ∈ found := by
    induction found with
    | nil => simp
    | cons first rest ih => rw [List.foldr_cons, mem_insertViolation, ih, List.mem_cons]
  rw [untoleratedTaints, collected, List.mem_filter, Bool.not_eq_true', isTolerated_eq_false_iff]

end PodLaunch
