import Mathlib.Data.List.Sort
import PodLaunch.Proofs.Violations

/-!
# The order of violations

Severity, key and value are compared one after the other, and so violations are in a strict order.
The list of violations is in that order, and it is the only list in that order with its members.
-/

namespace PodLaunch

namespace Taint

/-- Violations are compared part by part, the severities backwards. -/
theorem compareViolations_eq_compareLex :
    compareViolations =
      compareLex
        (compareLex
          (fun left right => compareOn (fun taint : Taint => taint.effect.severity) right left)
          (compareOn fun taint => taint.key.text))
        (compareLex (compareOn valueText) (compareOn fun taint => taint.value.isSome.toNat)) :=
  rfl

instance : Std.TransCmp compareViolations := by
  rw [compareViolations_eq_compareLex]
  infer_instance

/-- A violation comes before another one. -/
def Precedes (left right : Taint) : Prop :=
  left.compareViolations right = .lt

/-- What comes before a violation comes before those that follow it. -/
theorem Precedes.trans {first second third : Taint} (left : first.Precedes second)
    (right : second.Precedes third) : first.Precedes third :=
  Std.TransCmp.lt_trans left right

instance : Std.Irrefl Precedes where
  irrefl taint before := by
    have same : taint.compareViolations taint = .eq := Std.ReflCmp.compare_self
    rw [Precedes, same] at before
    cases before

instance : Std.Antisymm Precedes where
  antisymm _ _ left right := absurd right (Std.OrientedCmp.not_lt_of_lt left)

end Taint

/-- A violation put into its place among violations in order leaves them in order. -/
theorem pairwise_insertViolation (taint : Taint) {violations : List Taint}
    (ordered : violations.Pairwise Taint.Precedes) :
    (insertViolation taint violations).Pairwise Taint.Precedes := by
  induction violations with
  | nil => exact List.pairwise_singleton _ _
  | cons first rest ih =>
    have ⟨firstBefore, restOrdered⟩ := List.pairwise_cons.1 ordered
    unfold insertViolation
    cases order : taint.compareViolations first with
    | lt =>
      have before : taint.Precedes first := order
      apply List.Pairwise.cons _ ordered
      intro other member
      cases List.mem_cons.1 member with
      | inl same => exact same ▸ before
      | inr later => exact before.trans (firstBefore other later)
    | eq => exact ordered
    | gt =>
      have after : first.Precedes taint := Std.OrientedCmp.lt_of_gt order
      apply List.Pairwise.cons _ (ih restOrdered)
      intro other member
      cases (mem_insertViolation taint other rest).1 member with
      | inl same => exact same ▸ after
      | inr later => exact firstBefore other later

/-- The violations are in order. -/
theorem pairwise_untoleratedTaints (tolerations : List Toleration) (taints : List Taint) :
    (untoleratedTaints tolerations taints).Pairwise Taint.Precedes := by
  have collected (found : List Taint) :
      (found.foldr insertViolation []).Pairwise Taint.Precedes := by
    induction found with
    | nil => exact List.Pairwise.nil
    | cons first rest ih => exact pairwise_insertViolation first ih
  exact collected _

/-- A list in order whose members are the violations is the list of violations. -/
theorem eq_untoleratedTaints {tolerations : List Toleration} {taints found : List Taint}
    (ordered : found.Pairwise Taint.Precedes)
    (members : ∀ taint, taint ∈ found ↔ taint ∈ taints ∧ taint.IsUntolerated tolerations) :
    found = untoleratedTaints tolerations taints := by
  apply ordered.eq_of_mem_iff (pairwise_untoleratedTaints tolerations taints)
  intro taint
  rw [members, mem_untoleratedTaints]

end PodLaunch
