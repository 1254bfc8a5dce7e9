import PodLaunch.Proofs.Placement
import PodLaunch.Proofs.ViolationOrder

/-!
# Composition of tolerations and taints

A node with the taints of two nodes is as bad as the worse of the two, and a pod with the
tolerations of two pods violates what both of them violate. So a further toleration never speaks
against a placement, a further taint never speaks for it, and a tolerated taint is of no account.
-/

namespace PodLaunch

namespace Decision

/-- How much a decision speaks against a placement. -/
def rank : Decision → Nat
  | .schedulable => 0
  | .schedulableEvictable => 1
  | .rejected => 2

instance : LE Decision where
  le left right := left.rank ≤ right.rank

instance : LT Decision where
  lt left right := left.rank < right.rank

instance (left right : Decision) : Decidable (left ≤ right) :=
  inferInstanceAs (Decidable (left.rank ≤ right.rank))

instance (left right : Decision) : Decidable (left < right) :=
  inferInstanceAs (Decidable (left.rank < right.rank))

/-- The worse of two decisions. -/
instance : Max Decision :=
  maxOfLe

example : schedulable < schedulableEvictable ∧ schedulableEvictable < rejected := by decide

/-- A decision is no worse than another one exactly if it rejects only where the other one does, and
schedules without reserve wherever the other one does. -/
theorem le_iff (left right : Decision) :
    left ≤ right ↔
      (left = .rejected → right = .rejected) ∧ (right = .schedulable → left = .schedulable) := by
  cases left <;> cases right <;> decide

/-- The worse of two decisions rejects exactly if one of them does. -/
theorem max_eq_rejected_iff (left right : Decision) :
    max left right = .rejected ↔ left = .rejected ∨ right = .rejected := by
  cases left <;> cases right <;> decide

/-- The worse of two decisions schedules without reserve exactly if both do. -/
theorem max_eq_schedulable_iff (left right : Decision) :
    max left right = .schedulable ↔ left = .schedulable ∧ right = .schedulable := by
  cases left <;> cases right <;> decide

end Decision

/-! ## Further tolerations -/

/-- Two lists of tolerations leave a taint untolerated exactly if each of them does. -/
theorem Taint.isUntolerated_append (taint : Taint) (first second : List Toleration) :
    taint.IsUntolerated (first ++ second) ↔
      taint.IsUntolerated first ∧ taint.IsUntolerated second :=
  List.forall_mem_append

/-- What more tolerations leave untolerated, fewer do as well. -/
theorem Taint.IsUntolerated.of_subset {taint : Taint} {fewer more : List Toleration}
    (unmatched : taint.IsUntolerated more) (subset : fewer ⊆ more) :
    taint.IsUntolerated fewer := by
  intro toleration member
  exact unmatched toleration (subset member)

/-- More tolerations do not make a decision worse. -/
theorem evaluate_le_of_subset_tolerations {fewer more : List Toleration} (subset : fewer ⊆ more)
    (taints : List Taint) : evaluate more taints ≤ evaluate fewer taints := by
  rw [Decision.le_iff, evaluate_eq_rejected_iff, evaluate_eq_rejected_iff,
    evaluate_eq_schedulable_iff, evaluate_eq_schedulable_iff]
  constructor
  · intro ⟨taint, member, hard, unmatched⟩
    exact ⟨taint, member, hard, unmatched.of_subset subset⟩
  · intro matched taint member unmatched
    exact matched taint member (unmatched.of_subset subset)

/-- More tolerations do not have a pod removed. -/
theorem requiresEviction_of_subset_tolerations {fewer more : List Toleration}
    (subset : fewer ⊆ more) {taints : List Taint} (evicts : requiresEviction more taints = true) :
    requiresEviction fewer taints = true := by
  rw [requiresEviction_iff] at evicts ⊢
  have ⟨taint, member, removes, unmatched⟩ := evicts
  exact ⟨taint, member, removes, unmatched.of_subset subset⟩

/-- Two lists of tolerations together are violated by what violates both, in the same order. -/
theorem untoleratedTaints_append_tolerations (first second : List Toleration)
    (taints : List Taint) :
    untoleratedTaints (first ++ second) taints =
      (untoleratedTaints first taints).filter fun taint =>
        taint ∈ untoleratedTaints second taints := by
  symm
  -- The violations of both are in order, and that order leaves one list with these members.
  apply eq_untoleratedTaints
  · exact (pairwise_untoleratedTaints first taints).filter _
  · intro taint
    rw [List.mem_filter, decide_eq_true_eq, mem_untoleratedTaints, mem_untoleratedTaints,
      Taint.isUntolerated_append]
    constructor
    · intro ⟨⟨member, unmatched⟩, _, unmatchedToo⟩
      exact ⟨member, unmatched, unmatchedToo⟩
    · intro ⟨member, unmatched, unmatchedToo⟩
      exact ⟨⟨member, unmatched⟩, member, unmatchedToo⟩

/-! ## Further taints -/

/-- The decision on the taints of two lists is the worse of those on each. -/
theorem evaluate_append (tolerations : List Toleration) (left right : List Taint) :
    evaluate tolerations (left ++ right) =
      max (evaluate tolerations left) (evaluate tolerations right) := by
  apply Decision.eq_of_iffs
  · rw [Decision.max_eq_rejected_iff]
    simp only [evaluate_eq_rejected_iff, List.mem_append, or_and_right, exists_or]
  · rw [Decision.max_eq_schedulable_iff]
    simp only [evaluate_eq_schedulable_iff, List.forall_mem_append]

/-- A pod is removed for the taints of two lists exactly if it is for those of one. -/
theorem requiresEviction_append (tolerations : List Toleration) (left right : List Taint) :
    requiresEviction tolerations (left ++ right) =
      (requiresEviction tolerations left || requiresEviction tolerations right) :=
  List.any_append

/-- The violations among the taints of two lists are those among each. -/
theorem mem_untoleratedTaints_append (tolerations : List Toleration) (left right : List Taint)
    (taint : Taint) :
    taint ∈ untoleratedTaints tolerations (left ++ right) ↔
      taint ∈ untoleratedTaints tolerations left ∨
        taint ∈ untoleratedTaints tolerations right := by
  simp only [mem_untoleratedTaints, List.mem_append, or_and_right]

/-- More taints do not make a decision better. -/
theorem evaluate_le_of_subset_taints (tolerations : List Toleration) {fewer more : List Taint}
    (subset : fewer ⊆ more) : evaluate tolerations fewer ≤ evaluate tolerations more := by
  rw [Decision.le_iff, evaluate_eq_rejected_iff, evaluate_eq_rejected_iff,
    evaluate_eq_schedulable_iff, evaluate_eq_schedulable_iff]
  constructor
  · intro ⟨taint, member, violated⟩
    exact ⟨taint, subset member, violated⟩
  · intro matched taint member
    exact matched taint (subset member)

/-- More taints do not let a pod stay. -/
theorem requiresEviction_of_subset_taints {tolerations : List Toleration} {fewer more : List Taint}
    (subset : fewer ⊆ more) (evicts : requiresEviction tolerations fewer = true) :
    requiresEviction tolerations more = true := by
  rw [requiresEviction_iff] at evicts ⊢
  have ⟨taint, member, violated⟩ := evicts
  exact ⟨taint, subset member, violated⟩

/-! ## Tolerated taints -/

section Tolerated

variable {tolerations : List Toleration} {taint : Taint}
  (tolerated : isTolerated tolerations taint = true) (left right : List Taint)

include tolerated

/-- A tolerated taint has no bearing on the decision. -/
theorem evaluate_append_cons_of_tolerated :
    evaluate tolerations (left ++ taint :: right) = evaluate tolerations (left ++ right) := by
  have skipped : evaluate tolerations (taint :: right) = evaluate tolerations right := by
    rw [evaluate, evaluateFrom, if_pos tolerated, evaluate]
  rw [evaluate_append, skipped, evaluate_append]

/-- A tolerated taint has no bearing on whether a pod is removed. -/
theorem requiresEviction_append_cons_of_tolerated :
    requiresEviction tolerations (left ++ taint :: right) =
      requiresEviction tolerations (left ++ right) := by
  have skipped : requiresEviction tolerations (taint :: right) =
      requiresEviction tolerations right := by
    simp [requiresEviction, tolerated]
  rw [requiresEviction_append, skipped, requiresEviction_append]

/-- A tolerated taint is no violation. -/
theorem untoleratedTaints_append_cons_of_tolerated :
    untoleratedTaints tolerations (left ++ taint :: right) =
      untoleratedTaints tolerations (left ++ right) := by
  simp [untoleratedTaints, tolerated]

/-- A tolerated taint has no bearing on the report. -/
theorem diagnose_append_cons_of_tolerated :
    diagnose tolerations (left ++ taint :: right) = diagnose tolerations (left ++ right) := by
  rw [diagnose, untoleratedTaints_append_cons_of_tolerated tolerated, diagnose]

end Tolerated

/-! ## The laws of composition -/

/-- Taints of two lists lead to the worse of two decisions, to an eviction if one of them does and
to the violations of both; tolerations of two lists are violated by what violates both. So a further
toleration never worsens a decision or turns eviction on, a further taint never improves a decision
or turns eviction off, and a tolerated taint changes nothing. -/
theorem placement_composes (first second : List Toleration) (left right : List Taint) :
    evaluate first (left ++ right) = max (evaluate first left) (evaluate first right) ∧
    requiresEviction first (left ++ right) =
      (requiresEviction first left || requiresEviction first right) ∧
    (∀ taint, taint ∈ untoleratedTaints first (left ++ right) ↔
      taint ∈ untoleratedTaints first left ∨ taint ∈ untoleratedTaints first right) ∧
    untoleratedTaints (first ++ second) left =
      (untoleratedTaints first left).filter (fun taint =>
        taint ∈ untoleratedTaints second left) ∧
    (∀ toleration,
      evaluate (first ++ toleration :: second) left ≤ evaluate (first ++ second) left ∧
      (requiresEviction (first ++ toleration :: second) left = true →
        requiresEviction (first ++ second) left = true)) ∧
    (∀ taint,
      evaluate first (left ++ right) ≤ evaluate first (left ++ taint :: right) ∧
      (requiresEviction first (left ++ right) = true →
        requiresEviction first (left ++ taint :: right) = true)) ∧
    ∀ taint, isTolerated first taint = true →
      evaluate first (left ++ taint :: right) = evaluate first (left ++ right) ∧
      requiresEviction first (left ++ taint :: right) = requiresEviction first (left ++ right) ∧
      untoleratedTaints first (left ++ taint :: right) =
        untoleratedTaints first (left ++ right) ∧
      diagnose first (left ++ taint :: right) = diagnose first (left ++ right) := by
  refine ⟨evaluate_append first left right, requiresEviction_append first left right,
    mem_untoleratedTaints_append first left right,
    untoleratedTaints_append_tolerations first second left, ?_, ?_, ?_⟩
  · intro toleration
    have subset : first ++ second ⊆ first ++ toleration :: second :=
      ((List.sublist_cons_self toleration second).append_left first).subset
    exact ⟨evaluate_le_of_subset_tolerations subset left,
      requiresEviction_of_subset_tolerations subset⟩
  · intro taint
    have subset : left ++ right ⊆ left ++ taint :: right :=
      ((List.sublist_cons_self taint right).append_left left).subset
    exact ⟨evaluate_le_of_subset_taints first subset, requiresEviction_of_subset_taints subset⟩
  · intro taint tolerated
    exact ⟨evaluate_append_cons_of_tolerated tolerated left right,
      requiresEviction_append_cons_of_tolerated tolerated left right,
      untoleratedTaints_append_cons_of_tolerated tolerated left right,
      diagnose_append_cons_of_tolerated tolerated left right⟩

/-- A toleration of the taints that keep new pods off one architecture. -/
def armToleration : Toleration where
  key := "arch"
  operator := .equal
  value := "arm"
  effect := some .noSchedule
  equal_value := by decide

/-- A taint of that architecture. -/
def armTaint (effect : TaintEffect) : Taint :=
  ⟨⟨"arch", by decide⟩, some "arm", effect⟩

/-- The taint against new pods is tolerated and so of no account. The one that removes pods still
rejects the pod and removes it, also without its toleration and beside another taint. -/
theorem placement_composes_armTaint :
    isTolerated [armToleration] (armTaint .noSchedule) = true ∧
    evaluate [armToleration] [armTaint .noSchedule, armTaint .noExecute] =
      evaluate [armToleration] [armTaint .noExecute] ∧
    requiresEviction [armToleration] [armTaint .noExecute] = true ∧
    evaluate [armToleration] [armTaint .noExecute] ≤ evaluate [] [armTaint .noExecute] ∧
    requiresEviction [] [armTaint .noExecute] = true ∧
    requiresEviction [armToleration] [armTaint .preferNoSchedule, armTaint .noExecute] = true := by
  have tolerated : isTolerated [armToleration] (armTaint .noSchedule) = true := by decide
  have removed : requiresEviction [armToleration] [armTaint .noExecute] = true := by decide
  have ⟨_, _, _, _, _, further, skipped⟩ :=
    placement_composes [armToleration] [] [] [armTaint .noExecute]
  have ⟨_, _, _, _, lenient, _, _⟩ := placement_composes [] [] [armTaint .noExecute] []
  have ⟨noWorse, removedWithout⟩ := lenient armToleration
  exact ⟨tolerated, (skipped _ tolerated).1, removed, noWorse, removedWithout removed,
    (further (armTaint .preferNoSchedule)).2 removed⟩

end PodLaunch
