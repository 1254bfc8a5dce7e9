import Mathlib.Data.Fintype.EquivFin
import PodLaunch.Pod
import PodLaunch.Proofs.Placement

/-!
# Effects that are covered

A toleration without a key that asks for existence only tolerates every taint with its effect, and
nothing else does: some name is the key of no toleration of a list, and a taint without a value is
not tolerated by one that asks for a value. So the effects that are covered in this way decide which
placements can go wrong on some node.
-/

namespace PodLaunch

/-- Some toleration is for every taint with an effect, whatever its key and value. -/
def Covers (tolerations : List Toleration) (effect : TaintEffect) : Prop :=
  ∃ toleration ∈ tolerations, toleration.operator = .exists ∧ toleration.key = "" ∧
    (toleration.effect = none ∨ toleration.effect = some effect)

/-- Some name is the key of no toleration of a list. -/
theorem exists_name_ne_key (tolerations : List Toleration) :
    ∃ name : Name, ∀ toleration ∈ tolerations, toleration.key ≠ name.text := by
  have ⟨fresh, new⟩ := Infinite.exists_notMem_finset ("" :: tolerations.map (·.key)).toFinset
  rw [List.mem_toFinset, List.mem_cons, not_or] at new
  refine ⟨⟨fresh, new.1⟩, ?_⟩
  intro toleration member same
  exact new.2 (List.mem_map.2 ⟨toleration, member, same⟩)

/-- An effect is covered exactly if every taint with it is tolerated. -/
theorem covers_iff (tolerations : List Toleration) (effect : TaintEffect) :
    Covers tolerations effect ↔
      ∀ taint : Taint, taint.effect = effect → ¬ taint.IsUntolerated tolerations := by
  constructor
  · intro ⟨toleration, member, operator, key, asked⟩ taint same unmatched
    apply unmatched toleration member
    exact ⟨Or.inl key, same ▸ asked, Or.inl operator⟩
  · intro tolerated
    by_contra uncovered
    -- A taint with a fresh key and no value can only be tolerated without a key and a value.
    have ⟨name, fresh⟩ := exists_name_ne_key tolerations
    apply tolerated ⟨name, none, effect⟩ rfl
    intro toleration member found
    have anyKey : toleration.key = "" := found.key.resolve_right (fresh toleration member)
    have operator := found.operator_eq_exists rfl
    exact uncovered ⟨toleration, member, operator, anyKey, found.effect⟩

/-- Tolerations that each ask for a key or a value cover no effect. -/
theorem not_covers_of_narrow {tolerations : List Toleration}
    (narrow : ∀ toleration ∈ tolerations, toleration.key ≠ "" ∨ toleration.operator = .equal)
    (effect : TaintEffect) : ¬ Covers tolerations effect := by
  intro ⟨toleration, member, operator, key, _⟩
  cases narrow toleration member with
  | inl keyed => exact keyed key
  | inr equal => exact absurd (operator.symm.trans equal) (by decide)

/-- What holds of the taints of all lists holds of all taints. -/
theorem forall_list_taints_iff (p : Taint → Prop) :
    (∀ taints : List Taint, ∀ taint ∈ taints, p taint) ↔ ∀ taint, p taint := by
  constructor
  · intro all taint
    exact all [taint] taint List.mem_cons_self
  · intro all _ taint _
    exact all taint

/-- A pod is removed from no node exactly if the effect that removes pods is covered. -/
theorem requiresEviction_eq_false_iff_covers (tolerations : List Toleration) :
    (∀ taints, requiresEviction tolerations taints = false) ↔ Covers tolerations .noExecute := by
  simp only [← Bool.not_eq_true, requiresEviction_iff, not_exists, not_and]
  rw [forall_list_taints_iff, covers_iff]

/-- A pod is rejected by no node exactly if both hard effects are covered. -/
theorem evaluate_ne_rejected_iff_covers (tolerations : List Toleration) :
    (∀ taints, evaluate tolerations taints ≠ .rejected) ↔
      Covers tolerations .noSchedule ∧ Covers tolerations .noExecute := by
  simp only [ne_eq, evaluate_eq_rejected_iff, not_exists, not_and, TaintEffect.isHard_iff]
  rw [forall_list_taints_iff, covers_iff, covers_iff, ← forall_and]
  exact forall_congr' fun taint => or_imp

/-- A pod is placed on every node without reserve exactly if all effects are covered. -/
theorem evaluate_eq_schedulable_iff_covers (tolerations : List Toleration) :
    (∀ taints, evaluate tolerations taints = .schedulable) ↔
      Covers tolerations .noSchedule ∧ Covers tolerations .preferNoSchedule ∧
        Covers tolerations .noExecute := by
  simp only [evaluate_eq_schedulable_iff, covers_iff]
  rw [forall_list_taints_iff]
  constructor
  · intro all
    exact ⟨fun taint _ => all taint, fun taint _ => all taint, fun taint _ => all taint⟩
  · intro ⟨schedule, prefer, execute⟩ taint
    cases effect : taint.effect with
    | noSchedule => exact schedule taint effect
    | preferNoSchedule => exact prefer taint effect
    | noExecute => exact execute taint effect

/-- A list of tolerations keeps a pod from removal, from rejection or from any reserve on every node
exactly if it covers the effect that removes pods, the hard effects or all effects. So tolerations
that each ask for a key or a value leave some node that rejects the pod. -/
theorem placement_everywhere (tolerations : List Toleration) :
    ((∀ taints, requiresEviction tolerations taints = false) ↔ Covers tolerations .noExecute) ∧
    ((∀ taints, evaluate tolerations taints ≠ .rejected) ↔
      Covers tolerations .noSchedule ∧ Covers tolerations .noExecute) ∧
    ((∀ taints, evaluate tolerations taints = .schedulable) ↔
      Covers tolerations .noSchedule ∧ Covers tolerations .preferNoSchedule ∧
        Covers tolerations .noExecute) ∧
    ((∀ toleration ∈ tolerations, toleration.key ≠ "" ∨ toleration.operator = .equal) →
      ∃ node : Node, evaluate tolerations node.taints = .rejected) := by
  refine ⟨requiresEviction_eq_false_iff_covers tolerations,
    evaluate_ne_rejected_iff_covers tolerations, evaluate_eq_schedulable_iff_covers tolerations, ?_⟩
  intro narrow
  have somewhere : ∃ taints, evaluate tolerations taints = .rejected := by
    by_contra nowhere
    rw [not_exists] at nowhere
    have covered := ((evaluate_ne_rejected_iff_covers tolerations).1 nowhere).2
    exact not_covers_of_narrow narrow .noExecute covered
  have ⟨taints, rejected⟩ := somewhere
  exact ⟨⟨"", none, .empty, taints⟩, rejected⟩

/-- A toleration of every taint with one key, and one of every taint with one value. -/
def narrowTolerations : List Toleration :=
  [.ofKey "arch" none, ⟨"", .equal, "gpu", none, by decide⟩]

/-- Both tolerations together leave some node that rejects the pod. -/
theorem placement_everywhere_narrowTolerations :
    (∀ toleration ∈ narrowTolerations, toleration.key ≠ "" ∨ toleration.operator = .equal) ∧
    ∃ node : Node, evaluate narrowTolerations node.taints = .rejected := by
  have narrow : ∀ toleration ∈ narrowTolerations,
      toleration.key ≠ "" ∨ toleration.operator = .equal := by decide
  have ⟨_, _, _, rejects⟩ := placement_everywhere narrowTolerations
  exact ⟨narrow, rejects narrow⟩

end PodLaunch
