import Mathlib.Order.Compare
import Mathlib.Data.String.Basic
import PodLaunch.Proofs.Placement
import PodLaunch.Proofs.ViolationOrder

/-!
# Violations as a set

What is reported of a placement depends on which tolerations a pod has and on which taints a node
has, and neither on their order nor on how often they are listed. The violations are reported in the
one strict order of effect, key and value, where an absent value comes just before the empty one.
-/

namespace PodLaunch

/-- A violation is reported before another one. -/
inductive Taint.ComesBefore (left right : Taint) : Prop where
  /-- Its effect is harder. -/
  | effect (harder : right.effect.severity < left.effect.severity)
  /-- For the same effect, its key is less. -/
  | key (effect : left.effect = right.effect) (less : left.key.text < right.key.text)
  /-- For the same effect and key, the text of its value is less. -/
  | value (effect : left.effect = right.effect) (key : left.key = right.key)
    (less : left.value.getD "" < right.value.getD "")
  /-- For the same effect and key, it has no value and the other one has an empty value. -/
  | absent (effect : left.effect = right.effect) (key : left.key = right.key)
    (missing : left.value = none) (empty : right.value = some "")

/-- Values with the same text are in order exactly if one is absent and the other one is empty. -/
theorem isSome_lt_iff {left right : Option String} (text : left.getD "" = right.getD "") :
    left.isSome.toNat < right.isSome.toNat ↔ left = none ∧ right = some "" := by
  cases left with
  | some value => cases right <;> simp
  | none =>
    cases right with
    | none => simp
    | some other => simpa using Eq.comm.1 text

/-- The comparison of violations decides which one is reported first. -/
theorem Taint.precedes_iff (left right : Taint) :
    left.Precedes right ↔ left.ComesBefore right := by
  have sameEffect : right.effect.severity = left.effect.severity ↔ left.effect = right.effect :=
    ⟨fun same => TaintEffect.eq_of_severity_eq same.symm, fun same => congrArg _ same.symm⟩
  have sameKey : left.key.text = right.key.text ↔ left.key = right.key :=
    ⟨Name.eq_of_text_eq, congrArg _⟩
  simp only [Precedes, compareViolations, compareValues, Ordering.then_eq_lt, Ordering.then_eq_eq,
    compare_lt_iff_lt, compare_eq_iff_eq, sameEffect, sameKey, valueText]
  constructor
  · rintro ((harder | ⟨effect, less⟩) | ⟨⟨effect, key⟩, less | ⟨text, less⟩⟩)
    · exact .effect harder
    · exact .key effect less
    · exact .value effect key less
    · obtain ⟨missing, empty⟩ := (isSome_lt_iff text).1 less
      exact .absent effect key missing empty
  · rintro (harder | ⟨effect, less⟩ | ⟨effect, key, less⟩ | ⟨effect, key, missing, empty⟩)
    · exact .inl (.inl harder)
    · exact .inl (.inr ⟨effect, less⟩)
    · exact .inr ⟨⟨effect, key⟩, .inl less⟩
    · have text : left.value.getD "" = right.value.getD "" := by
        rw [missing, empty]
        rfl
      exact .inr ⟨⟨effect, key⟩, .inr ⟨text, (isSome_lt_iff text).2 ⟨missing, empty⟩⟩⟩

/-- No violation is reported twice. -/
theorem nodup_untoleratedTaints (tolerations : List Toleration) (taints : List Taint) :
    (untoleratedTaints tolerations taints).Nodup :=
  (pairwise_untoleratedTaints tolerations taints).nodup

/-! ## The same members -/

section SameMembers

variable {tolerations otherTolerations : List Toleration} {taints otherTaints : List Taint}
  (sameTolerations : ∀ toleration, toleration ∈ tolerations ↔ toleration ∈ otherTolerations)
  (sameTaints : ∀ taint, taint ∈ taints ↔ taint ∈ otherTaints)

include sameTolerations sameTaints

/-- The violations depend only on which tolerations and taints there are. -/
theorem untoleratedTaints_congr :
    untoleratedTaints tolerations taints = untoleratedTaints otherTolerations otherTaints := by
  refine eq_untoleratedTaints (pairwise_untoleratedTaints tolerations taints) fun taint => ?_
  rw [mem_untoleratedTaints, sameTaints]
  simp only [Taint.IsUntolerated, sameTolerations]

/-- So does the report. -/
theorem diagnose_congr :
    diagnose tolerations taints = diagnose otherTolerations otherTaints := by
  rw [diagnose, untoleratedTaints_congr sameTolerations sameTaints, diagnose]

/-- So does the decision, which is that of the report. -/
theorem evaluate_congr :
    evaluate tolerations taints = evaluate otherTolerations otherTaints := by
  rw [← diagnose_decision_eq_evaluate, diagnose_congr sameTolerations sameTaints,
    diagnose_decision_eq_evaluate]

/-- So does whether a running pod is removed, which is what the report says. -/
theorem requiresEviction_congr :
    requiresEviction tolerations taints = requiresEviction otherTolerations otherTaints := by
  rw [← diagnose_evict_eq_requiresEviction, diagnose_congr sameTolerations sameTaints,
    diagnose_evict_eq_requiresEviction]

end SameMembers

/-! ## The list of violations -/

/-- The violations are the taints that no toleration tolerates, each once and in the order of
reports, and no other list is that. So neither the order of tolerations and taints nor their
repetition has any bearing on the violations, the report, the decision and the removal of a running
pod. -/
theorem violations_determined (tolerations : List Toleration) (taints : List Taint) :
    (∀ taint, taint ∈ untoleratedTaints tolerations taints ↔
      taint ∈ taints ∧ ∀ toleration ∈ tolerations, toleration.tolerates taint = false) ∧
    (untoleratedTaints tolerations taints).Nodup ∧
    (untoleratedTaints tolerations taints).Pairwise Taint.ComesBefore ∧
    (∀ found : List Taint, found.Pairwise Taint.ComesBefore →
      (∀ taint, taint ∈ found ↔
        taint ∈ taints ∧ ∀ toleration ∈ tolerations, toleration.tolerates taint = false) →
      found = untoleratedTaints tolerations taints) ∧
    ∀ (otherTolerations : List Toleration) (otherTaints : List Taint),
      (∀ toleration, toleration ∈ tolerations ↔ toleration ∈ otherTolerations) →
      (∀ taint, taint ∈ taints ↔ taint ∈ otherTaints) →
      untoleratedTaints tolerations taints = untoleratedTaints otherTolerations otherTaints ∧
      diagnose tolerations taints = diagnose otherTolerations otherTaints ∧
      evaluate tolerations taints = evaluate otherTolerations otherTaints ∧
      requiresEviction tolerations taints = requiresEviction otherTolerations otherTaints := by
  have untolerated (taint : Taint) :
      (∀ toleration ∈ tolerations, toleration.tolerates taint = false) ↔
        taint.IsUntolerated tolerations := by
    simp only [Taint.IsUntolerated, ← Toleration.tolerates_iff, Bool.not_eq_true]
  have order : Taint.ComesBefore = Taint.Precedes := by
    funext left right
    exact propext (left.precedes_iff right).symm
  simp only [untolerated, order]
  refine ⟨mem_untoleratedTaints tolerations taints, nodup_untoleratedTaints tolerations taints,
    pairwise_untoleratedTaints tolerations taints, fun found => eq_untoleratedTaints, ?_⟩
  intro otherTolerations otherTaints sameTolerations sameTaints
  exact ⟨untoleratedTaints_congr sameTolerations sameTaints,
    diagnose_congr sameTolerations sameTaints, evaluate_congr sameTolerations sameTaints,
    requiresEviction_congr sameTolerations sameTaints⟩

/-- A taint that keeps new pods off graphics nodes. -/
def graphicsTaint (value : Option String) : Taint :=
  ⟨⟨"graphics", by decide⟩, value, .noSchedule⟩

/-- Taints without a value and with an empty one are two violations, in this order, however they are
listed. -/
theorem violations_determined_graphicsTaints :
    untoleratedTaints [.ofKey "arch" none] [graphicsTaint (some ""), graphicsTaint none] =
      [graphicsTaint none, graphicsTaint (some "")] ∧
    diagnose [.ofKey "arch" none] [graphicsTaint (some ""), graphicsTaint none] =
      diagnose [.ofKey "arch" none, .ofKey "arch" none]
        [graphicsTaint none, graphicsTaint (some ""), graphicsTaint none] := by
  have ⟨_, _, _, only, alike⟩ := violations_determined [.ofKey "arch" none]
    [graphicsTaint (some ""), graphicsTaint none]
  have listed : untoleratedTaints [.ofKey "arch" none]
      [graphicsTaint (some ""), graphicsTaint none] =
        [graphicsTaint none, graphicsTaint (some "")] := by
    refine (only _ ?_ ?_).symm
    · exact List.pairwise_pair.2 (.absent rfl rfl rfl rfl)
    · intro taint
      rw [List.forall_mem_singleton]
      constructor
      · intro member
        rw [List.mem_pair] at member
        obtain rfl | rfl := member <;> decide
      · rintro ⟨member, -⟩
        simpa [or_comm] using member
  have ⟨_, report, _, _⟩ := alike [.ofKey "arch" none, .ofKey "arch" none]
    [graphicsTaint none, graphicsTaint (some ""), graphicsTaint none] (by simp)
    (by simp [or_comm])
  exact ⟨listed, report⟩

end PodLaunch
