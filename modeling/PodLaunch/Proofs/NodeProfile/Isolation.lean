import Mathlib.Data.List.Basic
import PodLaunch.NodeProfile
import PodLaunch.Proofs.Placement

/-!
# Nodes that are kept to their architecture

A profile that taints its node for the architecture keeps away every pod that does not admit both
hard effects of that taint. Further taints of the profile count by themselves, whatever they are
about, and alone if the node is not tainted for its architecture.
-/

namespace PodLaunch

namespace NodeProfile

variable (profile : NodeProfile) (tolerations : List Toleration)

/-- Some toleration is for the taint of an architecture with an effect: it asks for no key or for
that of architectures, for no effect or for that one, and for existence or for the architecture. -/
def Admits (effect : TaintEffect) : Prop :=
  ∃ toleration ∈ tolerations,
    (toleration.key = "" ∨ toleration.key = architectureLabel) ∧
    (toleration.effect = none ∨ toleration.effect = some effect) ∧
    (toleration.operator = .exists ∨ toleration.value = profile.architecture.text)

/-- The taint of an architecture is tolerated exactly if its effect is admitted. -/
theorem isTolerated_architectureTaint_iff (effect : TaintEffect) :
    isTolerated tolerations (profile.architectureTaint effect) = true ↔
      profile.Admits tolerations effect := by
  rw [isTolerated_iff, Admits]
  constructor
  · intro ⟨toleration, member, found⟩
    exact ⟨toleration, member, found.key, found.effect, found.value⟩
  · intro ⟨toleration, member, key, asked, value⟩
    exact ⟨toleration, member, ⟨key, asked, value⟩⟩

variable {profile}

/-- A node that is tainted for its architecture has two taints for it in front of the others. -/
theorem taints_toNode_of_tainted (tainted : profile.taintArchitecture = true) :
    profile.toNode.taints =
      profile.architectureTaint .noSchedule :: profile.architectureTaint .noExecute ::
        profile.extraTaints := by
  rw [toNode, architectureTaints, if_pos tainted]
  rfl

/-- A node that is not tainted for its architecture has the further taints only. -/
theorem taints_toNode_of_untainted (untainted : profile.taintArchitecture = false) :
    profile.toNode.taints = profile.extraTaints := by
  rw [toNode, architectureTaints, untainted]
  rfl

/-- A pod is not rejected by a node that is tainted for its architecture exactly if it admits both
hard effects and tolerates the further hard taints. -/
theorem evaluate_toNode_ne_rejected_iff (tainted : profile.taintArchitecture = true) :
    evaluate tolerations profile.toNode.taints ≠ .rejected ↔
      profile.Admits tolerations .noSchedule ∧ profile.Admits tolerations .noExecute ∧
        ∀ taint ∈ profile.extraTaints, taint.effect = .noSchedule ∨ taint.effect = .noExecute →
          isTolerated tolerations taint = true := by
  rw [evaluate_ne_rejected_iff, taints_toNode_of_tainted tainted, List.forall_mem_cons,
    List.forall_mem_cons, isTolerated_architectureTaint_iff, isTolerated_architectureTaint_iff]
  simp [architectureTaint]

/-- A pod is removed from a node that is tainted for its architecture exactly if it does not admit
the effect that removes pods, or some further taint removes it. -/
theorem requiresEviction_toNode_iff (tainted : profile.taintArchitecture = true) :
    requiresEviction tolerations profile.toNode.taints = true ↔
      ¬ profile.Admits tolerations .noExecute ∨
        ∃ taint ∈ profile.extraTaints, taint.effect = .noExecute ∧
          isTolerated tolerations taint = false := by
  rw [requiresEviction_iff, taints_toNode_of_tainted tainted, List.exists_mem_cons_iff,
    List.exists_mem_cons_iff]
  simp only [← isTolerated_eq_false_iff, ← isTolerated_architectureTaint_iff, Bool.not_eq_true]
  simp [architectureTaint]

variable (profile)

/-- A node that is tainted for its architecture takes and keeps exactly the pods that admit the hard
effects of that taint and tolerate the further taints of the profile. For any other node, the
further taints decide alone. -/
theorem toNode_isolates :
    (profile.taintArchitecture = true →
      (evaluate tolerations profile.toNode.taints ≠ .rejected ↔
        profile.Admits tolerations .noSchedule ∧ profile.Admits tolerations .noExecute ∧
          ∀ taint ∈ profile.extraTaints,
            taint.effect = .noSchedule ∨ taint.effect = .noExecute →
              ∃ toleration ∈ tolerations, toleration.Matches taint) ∧
      (requiresEviction tolerations profile.toNode.taints = true ↔
        ¬ profile.Admits tolerations .noExecute ∨
          ∃ taint ∈ profile.extraTaints, taint.effect = .noExecute ∧
            ∀ toleration ∈ tolerations, ¬ toleration.Matches taint)) ∧
    (profile.taintArchitecture = false →
      evaluate tolerations profile.toNode.taints = evaluate tolerations profile.extraTaints ∧
      requiresEviction tolerations profile.toNode.taints =
        requiresEviction tolerations profile.extraTaints) := by
  constructor
  · intro tainted
    constructor
    · rw [evaluate_toNode_ne_rejected_iff tolerations tainted]
      simp only [isTolerated_iff]
    · rw [requiresEviction_toNode_iff tolerations tainted]
      simp only [isTolerated_eq_false_iff, Taint.IsUntolerated]
  · intro untainted
    rw [taints_toNode_of_untainted untainted]
    exact ⟨rfl, rfl⟩

/-- A profile with a further taint that contradicts its architecture. -/
def armProfile (taintArchitecture : Bool) : NodeProfile where
  nodeName := ⟨"worker", by decide⟩
  architecture := ⟨"arm64", by decide⟩
  taintArchitecture := taintArchitecture
  extraTaints := [⟨⟨"kubernetes.io/arch", by decide⟩, some "amd64", .noSchedule⟩]
  labels := .empty

/-- Tolerations of that architecture, whatever the effect, and of whatever removes pods. -/
def armTolerations : List Toleration :=
  [⟨architectureLabel, .equal, "arm64", none, by decide⟩, .ofKey "" (some .noExecute)]

/-- A pod for the architecture is rejected for the further taint only, and is not removed. -/
theorem toNode_isolates_armProfile :
    (armProfile true).Admits armTolerations .noSchedule ∧
    (armProfile true).Admits armTolerations .noExecute ∧
    evaluate armTolerations (armProfile true).toNode.taints = .rejected ∧
    requiresEviction armTolerations (armProfile true).toNode.taints = false ∧
    evaluate armTolerations (armProfile false).toNode.taints =
      evaluate armTolerations (armProfile false).extraTaints := by
  have schedule : (armProfile true).Admits armTolerations .noSchedule :=
    ⟨_, List.mem_cons_self, Or.inr rfl, Or.inl rfl, Or.inr rfl⟩
  have execute : (armProfile true).Admits armTolerations .noExecute :=
    ⟨_, List.mem_cons_self, Or.inr rfl, Or.inl rfl, Or.inr rfl⟩
  have ⟨accepts, removes⟩ := (toNode_isolates (armProfile true) armTolerations).1 rfl
  have unaffected := (toNode_isolates (armProfile false) armTolerations).2 rfl
  refine ⟨schedule, execute, ?_, ?_, unaffected.1⟩
  · by_contra accepted
    have tolerated := (accepts.1 accepted).2.2 _ List.mem_cons_self (Or.inl rfl)
    rw [← isTolerated_iff] at tolerated
    exact absurd tolerated (by decide)
  · rw [Bool.eq_false_iff]
    intro removed
    cases removes.1 removed with
    | inl excluded => exact excluded execute
    | inr violated =>
      have ⟨taint, member, removing, _⟩ := violated
      cases List.mem_singleton.1 member
      cases removing

end NodeProfile

end PodLaunch
