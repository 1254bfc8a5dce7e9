import PodLaunch.Proofs.Violations

/-!
# Placement by the rule

The decision on a placement comes from a scan that stops at the first hard violation, the report
from all violations in order, and the removal of a running pod from a scan of its own. Each of them
follows one rule on the taints that no toleration matches, and so they agree with each other.
-/

namespace PodLaunch

/-- A decision is known by whether it rejects and whether it schedules without reserve. -/
theorem Decision.eq_of_iffs {left right : Decision}
    (rejects : left = .rejected ↔ right = .rejected)
    (schedules : left = .schedulable ↔ right = .schedulable) : left = right := by
  cases left <;> cases right <;> simp_all

/-- The effects that are hard are those that keep new pods away strictly. -/
theorem TaintEffect.isHard_iff (effect : TaintEffect) :
    effect.isHard = true ↔ effect = .noSchedule ∨ effect = .noExecute := by
  cases effect <;> simp [isHard]

/-- The effect that is not hard is the soft one. -/
theorem TaintEffect.not_isHard_iff (effect : TaintEffect) :
    ¬ effect.isHard = true ↔ effect = .preferNoSchedule := by
  cases effect <;> simp [isHard]

/-! ## The scan that stops early -/

/-- A scan from a decision short of rejection rejects exactly if there is a hard violation. -/
theorem evaluateFrom_eq_rejected_iff (tolerations : List Toleration) (taints : List Taint)
    (before : Decision) (short : before ≠ .rejected) :
    evaluateFrom tolerations before taints = .rejected ↔
      ∃ taint ∈ taints, taint.effect.isHard = true ∧ taint.IsUntolerated tolerations := by
  induction taints generalizing before with
  | nil => simp [evaluateFrom, short]
  | cons taint taints ih =>
    simp only [evaluateFrom, List.mem_cons, exists_eq_or_imp]
    cases tolerated : isTolerated tolerations taint with
    | true =>
      have matched : ¬ taint.IsUntolerated tolerations := by
        rw [← isTolerated_eq_false_iff, tolerated]
        decide
      simp only [↓reduceIte, ih before short, matched, and_false, false_or]
    | false =>
      have unmatched := (isTolerated_eq_false_iff tolerations taint).1 tolerated
      by_cases hard : taint.effect.isHard = true
      · simp [hard, unmatched]
      · simp [hard, ih .schedulableEvictable (by decide)]

/-- A scan schedules without reserve exactly if there was no reserve before and it meets no
violation. -/
theorem evaluateFrom_eq_schedulable_iff (tolerations : List Toleration) (taints : List Taint)
    (before : Decision) :
    evaluateFrom tolerations before taints = .schedulable ↔
      before = .schedulable ∧ ∀ taint ∈ taints, ¬ taint.IsUntolerated tolerations := by
  induction taints generalizing before with
  | nil => simp [evaluateFrom]
  | cons taint taints ih =>
    simp only [evaluateFrom, List.mem_cons, forall_eq_or_imp]
    cases tolerated : isTolerated tolerations taint with
    | true =>
      have matched : ¬ taint.IsUntolerated tolerations := by
        rw [← isTolerated_eq_false_iff, tolerated]
        decide
      simp only [↓reduceIte, ih before, matched, not_false_eq_true, true_and]
    | false =>
      have unmatched := (isTolerated_eq_false_iff tolerations taint).1 tolerated
      by_cases hard : taint.effect.isHard = true
      · simp [hard, unmatched]
      · simp [hard, unmatched, ih .schedulableEvictable]

/-- A placement is rejected exactly if there is a hard violation. -/
theorem evaluate_eq_rejected_iff (tolerations : List Toleration) (taints : List Taint) :
    evaluate tolerations taints = .rejected ↔
      ∃ taint ∈ taints, taint.effect.isHard = true ∧ taint.IsUntolerated tolerations :=
  evaluateFrom_eq_rejected_iff tolerations taints .schedulable (by decide)

/-- A placement is not rejected exactly if every hard taint is tolerated. -/
theorem evaluate_ne_rejected_iff (tolerations : List Toleration) (taints : List Taint) :
    evaluate tolerations taints ≠ .rejected ↔
      ∀ taint ∈ taints, taint.effect = .noSchedule ∨ taint.effect = .noExecute →
        isTolerated tolerations taint = true := by
  simp only [ne_eq, evaluate_eq_rejected_iff, not_exists, not_and, TaintEffect.isHard_iff,
    ← isTolerated_eq_false_iff, Bool.not_eq_false]

/-- A placement is free of reserve exactly if there is no violation. -/
theorem evaluate_eq_schedulable_iff (tolerations : List Toleration) (taints : List Taint) :
    evaluate tolerations taints = .schedulable ↔
      ∀ taint ∈ taints, ¬ taint.IsUntolerated tolerations := by
  simp [evaluate, evaluateFrom_eq_schedulable_iff]

/-- A placement is left open exactly if there is a violation, and none of them is hard. -/
theorem evaluate_eq_schedulableEvictable_iff (tolerations : List Toleration)
    (taints : List Taint) :
    evaluate tolerations taints = .schedulableEvictable ↔
      (¬ ∃ taint ∈ taints, taint.effect.isHard = true ∧ taint.IsUntolerated tolerations) ∧
        ∃ taint ∈ taints, taint.IsUntolerated tolerations := by
  have rejects := evaluate_eq_rejected_iff tolerations taints
  have schedules := evaluate_eq_schedulable_iff tolerations taints
  cases decision : evaluate tolerations taints <;>
    simp only [decision, reduceCtorEq, true_iff, false_iff] at rejects schedules ⊢
  · rintro ⟨_, taint, member, unmatched⟩
    exact schedules taint member unmatched
  · refine ⟨rejects, ?_⟩
    simpa using schedules
  · exact fun none => none.1 rejects

/-! ## The scan of a running pod -/

/-- A running pod is removed exactly if no toleration matches some taint that removes pods. -/
theorem requiresEviction_iff (tolerations : List Toleration) (taints : List Taint) :
    requiresEviction tolerations taints = true ↔
      ∃ taint ∈ taints, taint.effect = .noExecute ∧ taint.IsUntolerated tolerations := by
  simp only [requiresEviction, List.any_eq_true, Bool.and_eq_true, beq_iff_eq, Bool.not_eq_true',
    isTolerated_eq_false_iff]

/-! ## The report -/

/-- A report rejects exactly if one of its violations is hard. -/
theorem diagnose_decision_eq_rejected_iff (tolerations : List Toleration) (taints : List Taint) :
    (diagnose tolerations taints).decision = .rejected ↔
      ∃ taint ∈ taints, taint.effect.isHard = true ∧ taint.IsUntolerated tolerations := by
  have hard : ((untoleratedTaints tolerations taints).any fun taint => taint.effect.isHard) = true ↔
      ∃ taint ∈ taints, taint.effect.isHard = true ∧ taint.IsUntolerated tolerations := by
    simp only [List.any_eq_true, mem_untoleratedTaints]
    constructor
    · rintro ⟨taint, ⟨member, unmatched⟩, isHard⟩
      exact ⟨taint, member, isHard, unmatched⟩
    · rintro ⟨taint, member, isHard, unmatched⟩
      exact ⟨taint, ⟨member, unmatched⟩, isHard⟩
  rw [← hard]
  simp only [diagnose]
  split
  · simp [*]
  · split <;> simp [*]

/-- A report schedules without reserve exactly if it lists no violation. -/
theorem diagnose_decision_eq_schedulable_iff (tolerations : List Toleration)
    (taints : List Taint) :
    (diagnose tolerations taints).decision = .schedulable ↔
      ∀ taint ∈ taints, ¬ taint.IsUntolerated tolerations := by
  have empty : untoleratedTaints tolerations taints = [] ↔
      ∀ taint ∈ taints, ¬ taint.IsUntolerated tolerations := by
    simp only [List.eq_nil_iff_forall_not_mem, mem_untoleratedTaints, not_and]
  rw [← empty, ← List.isEmpty_iff]
  simp only [diagnose]
  split
  · rename_i hard
    obtain ⟨taint, member, _⟩ := List.any_eq_true.1 hard
    simp [List.ne_nil_of_mem member]
  · split <;> simp [*]

/-- The report comes to the decision of the scan that stops early. -/
theorem diagnose_decision_eq_evaluate (tolerations : List Toleration) (taints : List Taint) :
    (diagnose tolerations taints).decision = evaluate tolerations taints := by
  apply Decision.eq_of_iffs
  · rw [diagnose_decision_eq_rejected_iff, evaluate_eq_rejected_iff]
  · rw [diagnose_decision_eq_schedulable_iff, evaluate_eq_schedulable_iff]

/-- The report removes a running pod exactly if the scan for such pods does. -/
theorem diagnose_evict_eq_requiresEviction (tolerations : List Toleration)
    (taints : List Taint) :
    (diagnose tolerations taints).evict = requiresEviction tolerations taints := by
  rw [Bool.eq_iff_iff, requiresEviction_iff]
  simp only [diagnose, List.any_eq_true, mem_untoleratedTaints, beq_iff_eq]
  constructor
  · rintro ⟨taint, ⟨member, unmatched⟩, removes⟩
    exact ⟨taint, member, removes, unmatched⟩
  · rintro ⟨taint, member, removes, unmatched⟩
    exact ⟨taint, ⟨member, unmatched⟩, removes⟩

/-- A pod that would be removed from a node is not placed there. -/
theorem evaluate_eq_rejected_of_requiresEviction {tolerations : List Toleration}
    {taints : List Taint} (h : requiresEviction tolerations taints = true) :
    evaluate tolerations taints = .rejected := by
  obtain ⟨taint, member, removes, unmatched⟩ := (requiresEviction_iff tolerations taints).1 h
  rw [evaluate_eq_rejected_iff]
  exact ⟨taint, member, (taint.effect.isHard_iff).2 (Or.inr removes), unmatched⟩

/-! ## Agreement -/

/-- The early decision, the report and the check of running pods follow the rule of toleration, and
agree: a pod is rejected for an untolerated hard taint, placed with reserve for an untolerated soft
one, and removed for an untolerated one that removes pods; what is removed is also rejected. -/
theorem placement_follows_rule (tolerations : List Toleration) (taints : List Taint) :
    (evaluate tolerations taints = .rejected ↔
      ∃ taint ∈ taints, (taint.effect = .noSchedule ∨ taint.effect = .noExecute) ∧
        ∀ toleration ∈ tolerations, ¬ toleration.Matches taint) ∧
    (evaluate tolerations taints = .schedulableEvictable ↔
      (¬ ∃ taint ∈ taints, (taint.effect = .noSchedule ∨ taint.effect = .noExecute) ∧
        ∀ toleration ∈ tolerations, ¬ toleration.Matches taint) ∧
      ∃ taint ∈ taints, taint.effect = .preferNoSchedule ∧
        ∀ toleration ∈ tolerations, ¬ toleration.Matches taint) ∧
    (evaluate tolerations taints = .schedulable ↔
      ∀ taint ∈ taints, ∃ toleration ∈ tolerations, toleration.Matches taint) ∧
    (diagnose tolerations taints).decision = evaluate tolerations taints ∧
    (diagnose tolerations taints).evict = requiresEviction tolerations taints ∧
    (requiresEviction tolerations taints = true ↔
      ∃ taint ∈ taints, taint.effect = .noExecute ∧
        ∀ toleration ∈ tolerations, ¬ toleration.Matches taint) ∧
    ((diagnose tolerations taints).evict = true →
      (diagnose tolerations taints).decision = .rejected ∧
        (diagnose tolerations taints).schedulable = false) := by
  have agreement := diagnose_decision_eq_evaluate tolerations taints
  have eviction := diagnose_evict_eq_requiresEviction tolerations taints
  refine ⟨?_, ?_, ?_, agreement, eviction, requiresEviction_iff tolerations taints, ?_⟩
  · simp only [evaluate_eq_rejected_iff, TaintEffect.isHard_iff, Taint.IsUntolerated]
  · rw [evaluate_eq_schedulableEvictable_iff]
    simp only [← TaintEffect.isHard_iff, ← TaintEffect.not_isHard_iff]
    refine and_congr_right fun none => exists_congr fun taint => and_congr_right fun member => ?_
    have soft (unmatched : taint.IsUntolerated tolerations) : ¬ taint.effect.isHard = true :=
      fun hard => none ⟨taint, member, hard, unmatched⟩
    exact ⟨fun unmatched => ⟨soft unmatched, unmatched⟩, And.right⟩
  · rw [evaluate_eq_schedulable_iff]
    simp only [← isTolerated_iff, ← isTolerated_eq_false_iff, Bool.not_eq_false]
  · intro evicted
    rw [eviction] at evicted
    have rejected := evaluate_eq_rejected_of_requiresEviction evicted
    rw [← agreement] at rejected
    exact ⟨rejected, by simp [PlacementReport.schedulable, rejected]⟩

end PodLaunch
