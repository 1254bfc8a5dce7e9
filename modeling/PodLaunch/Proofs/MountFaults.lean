import Mathlib.Data.List.Induction
import PodLaunch.Proofs.DeclaredVolumes
import PodLaunch.Proofs.Sequence

/-!
# Faults of mounts

A mount is at fault if its volume is not declared, or if its path leads to the place of an earlier
mount. Mounts are bound exactly if none is at fault, each to the bundle behind its name; otherwise
the first one at fault is reported, and an undeclared volume counts before a place that is taken.
-/

namespace PodLaunch

/-- The place that a mount leads to. -/
def VolumeMount.place (mount : VolumeMount) : String :=
  MountPath.normalize mount.path

/-- Whether a mount behind others is at fault. -/
def VolumeMount.IsFaulty (volumes : List ConfigVolume) (earlier : List VolumeMount)
    (mount : VolumeMount) : Prop :=
  mount.name ∉ volumeNames volumes ∨
    ∃ other ∈ earlier, MountPath.normalize other.path = MountPath.normalize mount.path

/-- What is reported of a mount at fault. -/
def VolumeMount.fault (volumes : List ConfigVolume) (mount : VolumeMount) : ResolutionError :=
  if mount.name ∈ volumeNames volumes then .duplicateMountPath mount.path
  else .unknownVolume mount.name (declaredNames volumes)

/-- The binding of a mount to the bundle behind its name. -/
def VolumeMount.binding (volumes : List ConfigVolume) (mount : VolumeMount) : MountBinding :=
  ⟨mount.name, mount.path, (bundle? volumes mount.name).getD ""⟩

/-- Whether none of some mounts is at fault behind those before it. -/
def IsFaultless (volumes : List ConfigVolume) (mounts : List VolumeMount) : Prop :=
  ∀ earlier mount later, mounts = earlier ++ mount :: later → ¬ mount.IsFaulty volumes earlier

variable (volumes : List ConfigVolume)

/-! ## One mount after the other -/

/-- Whether a mount may be bound behind those that took some places. -/
def VolumeMount.IsFree (seen : List String) (mount : VolumeMount) : Prop :=
  mount.name ∈ volumeNames volumes ∧ mount.place ∉ seen

/-- A mount that may be bound is bound, and its place is taken for those behind it. -/
theorem bindMountsFrom_cons_of_isFree {seen : List String} {mount : VolumeMount}
    (free : mount.IsFree volumes seen) (mounts : List VolumeMount) :
    bindMountsFrom volumes seen (mount :: mounts) =
      (bindMountsFrom volumes (mount.place :: seen) mounts).map (mount.binding volumes :: ·) := by
  obtain ⟨bundle, behind⟩ := Option.isSome_iff_exists.1 ((isSome_bundle?_iff _ _).2 free.1)
  have fresh : MountPath.normalize mount.path ∉ seen := free.2
  simp only [bindMountsFrom, behind, if_neg fresh, VolumeMount.binding, VolumeMount.place,
    Option.getD_some]
  cases bindMountsFrom volumes (MountPath.normalize mount.path :: seen) mounts <;> rfl

/-- A mount that may not be bound is reported. -/
theorem bindMountsFrom_cons_of_not_isFree {seen : List String} {mount : VolumeMount}
    (taken : ¬ mount.IsFree volumes seen) (mounts : List VolumeMount) :
    bindMountsFrom volumes seen (mount :: mounts) = .error (mount.fault volumes) := by
  rw [VolumeMount.IsFree, not_and, not_not] at taken
  by_cases declared : mount.name ∈ volumeNames volumes
  · obtain ⟨bundle, behind⟩ := Option.isSome_iff_exists.1 ((isSome_bundle?_iff _ _).2 declared)
    have known : MountPath.normalize mount.path ∈ seen := taken declared
    simp only [bindMountsFrom, behind, if_pos known, VolumeMount.fault, if_pos declared]
  · have none := (bundle?_eq_none_iff _ _).2 declared
    simp only [bindMountsFrom, none, VolumeMount.fault, if_neg declared]

/-- Mounts may be bound behind one more place exactly if they may without it and none leads
there. -/
theorem forall_isFree_cons_iff (place : String) (seen : List String) (mounts : List VolumeMount) :
    (∀ mount ∈ mounts, mount.IsFree volumes (place :: seen)) ↔
      (∀ mount ∈ mounts, mount.IsFree volumes seen) ∧ place ∉ mounts.map VolumeMount.place := by
  constructor
  · intro free
    constructor
    · intro mount member
      exact ⟨(free mount member).1, fun old => (free mount member).2 (List.mem_cons_of_mem _ old)⟩
    · intro taken
      obtain ⟨mount, member, rfl⟩ := List.mem_map.1 taken
      exact (free mount member).2 List.mem_cons_self
  · rintro ⟨free, fresh⟩ mount member
    refine ⟨(free mount member).1, fun taken => ?_⟩
    rcases List.mem_cons.1 taken with same | old
    · exact fresh (List.mem_map.2 ⟨mount, member, same⟩)
    · exact (free mount member).2 old

/-- Mounts are bound behind those that took some places exactly if each of them may be, and no two
of them lead to one place. -/
theorem bindMountsFrom_eq_ok_iff (seen : List String) (mounts : List VolumeMount)
    (plan : List MountBinding) :
    bindMountsFrom volumes seen mounts = .ok plan ↔
      ((∀ mount ∈ mounts, mount.IsFree volumes seen) ∧ (mounts.map VolumeMount.place).Nodup) ∧
        plan = mounts.map (VolumeMount.binding volumes) := by
  induction mounts generalizing seen plan with
  | nil => simp [bindMountsFrom, eq_comm]
  | cons mount mounts ih =>
    by_cases free : mount.IsFree volumes seen
    · rw [bindMountsFrom_cons_of_isFree volumes free, map_eq_ok_iff, List.forall_mem_cons,
        List.map_cons, List.map_cons, List.nodup_cons]
      simp only [ih, forall_isFree_cons_iff]
      constructor
      · rintro ⟨_, ⟨⟨⟨others, fresh⟩, distinct⟩, rfl⟩, rfl⟩
        exact ⟨⟨⟨free, others⟩, fresh, distinct⟩, rfl⟩
      · rintro ⟨⟨⟨-, others⟩, fresh, distinct⟩, rfl⟩
        exact ⟨_, ⟨⟨⟨others, fresh⟩, distinct⟩, rfl⟩, rfl⟩
    · rw [bindMountsFrom_cons_of_not_isFree volumes free, List.forall_mem_cons]
      simp [free]

/-- What is reported of mounts behind those that took some places is the fault of the first one that
may not be bound behind those before it. -/
theorem bindMountsFrom_eq_error_iff (seen : List String) (mounts : List VolumeMount)
    (error : ResolutionError) :
    bindMountsFrom volumes seen mounts = .error error ↔
      ∃ earlier mount later, mounts = earlier ++ mount :: later ∧
        (∃ plan, bindMountsFrom volumes seen earlier = .ok plan) ∧
        ¬ mount.IsFree volumes (earlier.map VolumeMount.place ++ seen) ∧
        error = mount.fault volumes := by
  induction mounts generalizing seen with
  | nil => simp [bindMountsFrom]
  | cons mount mounts ih =>
    by_cases free : mount.IsFree volumes seen
    · have behind (earlier : List VolumeMount) :
          (∃ plan, bindMountsFrom volumes seen (mount :: earlier) = .ok plan) ↔
            ∃ plan, bindMountsFrom volumes (mount.place :: seen) earlier = .ok plan := by
        simp [bindMountsFrom_cons_of_isFree volumes free, map_eq_ok_iff]
      have taken (earlier : List VolumeMount) (other : VolumeMount) :
          other.IsFree volumes ((mount :: earlier).map VolumeMount.place ++ seen) ↔
            other.IsFree volumes (earlier.map VolumeMount.place ++ mount.place :: seen) := by
        simp [VolumeMount.IsFree, or_left_comm]
      rw [bindMountsFrom_cons_of_isFree volumes free, map_eq_error_iff, ih]
      constructor
      · rintro ⟨earlier, other, later, rfl, bound, notFree, report⟩
        exact ⟨mount :: earlier, other, later, rfl, (behind earlier).2 bound,
          (taken earlier other).not.2 notFree, report⟩
      · rintro ⟨earlier, other, later, split, bound, notFree, report⟩
        cases earlier with
        | nil =>
          cases split
          exact absurd free notFree
        | cons first earlier =>
          cases split
          exact ⟨earlier, other, later, rfl, (behind earlier).1 bound,
            (taken earlier other).not.1 notFree, report⟩
    · rw [bindMountsFrom_cons_of_not_isFree volumes free, Except.error.injEq]
      constructor
      · rintro rfl
        exact ⟨[], mount, mounts, rfl, ⟨[], rfl⟩, free, rfl⟩
      · rintro ⟨earlier, other, later, split, ⟨plan, bound⟩, -, report⟩
        cases earlier with
        | nil =>
          cases split
          exact report.symm
        | cons first earlier =>
          cases split
          rw [bindMountsFrom_cons_of_not_isFree volumes free] at bound
          cases bound

/-! ## All mounts -/

variable {volumes}

/-- Another mount behind faultless ones leaves them faultless unless it is at fault itself. -/
theorem isFaultless_append_singleton_iff (mounts : List VolumeMount) (mount : VolumeMount) :
    IsFaultless volumes (mounts ++ [mount]) ↔
      IsFaultless volumes mounts ∧ ¬ mount.IsFaulty volumes mounts := by
  constructor
  · refine fun faultless => ⟨?_, faultless mounts mount [] rfl⟩
    rintro earlier other later rfl
    exact faultless earlier other (later ++ [mount]) (by simp)
  · rintro ⟨faultless, sound⟩ earlier other later split
    rcases List.eq_nil_or_concat later with rfl | ⟨between, last, rfl⟩
    · obtain ⟨rfl, same⟩ := List.append_inj' split rfl
      exact List.singleton_inj.1 same ▸ sound
    · refine faultless earlier other between ?_
      rw [List.concat_eq_append, ← List.cons_append, ← List.append_assoc] at split
      exact (List.append_inj' split rfl).1

/-- No mount is at fault exactly if all of them are declared and no two lead to one place. -/
theorem isFaultless_iff (mounts : List VolumeMount) :
    IsFaultless volumes mounts ↔
      (∀ mount ∈ mounts, mount.name ∈ volumeNames volumes) ∧
        (mounts.map VolumeMount.place).Nodup := by
  induction mounts using List.reverseRecOn with
  | nil => simp [IsFaultless]
  | append_singleton mounts mount ih =>
    have sound : ¬ mount.IsFaulty volumes mounts ↔
        mount.name ∈ volumeNames volumes ∧ mount.place ∉ mounts.map VolumeMount.place := by
      simp [VolumeMount.IsFaulty, VolumeMount.place]
    rw [isFaultless_append_singleton_iff, ih, sound, List.map_append, List.map_singleton,
      List.nodup_append_comm, List.singleton_append, List.nodup_cons, List.forall_mem_append,
      List.forall_mem_singleton]
    constructor
    · rintro ⟨⟨declared, distinct⟩, alsoDeclared, fresh⟩
      exact ⟨⟨declared, alsoDeclared⟩, fresh, distinct⟩
    · rintro ⟨⟨declared, alsoDeclared⟩, fresh, distinct⟩
      exact ⟨⟨declared, distinct⟩, alsoDeclared, fresh⟩

/-- A mount behind others may be bound exactly if it is not at fault. -/
theorem isFree_map_place_iff (earlier : List VolumeMount) (mount : VolumeMount) :
    mount.IsFree volumes (earlier.map VolumeMount.place) ↔ ¬ mount.IsFaulty volumes earlier := by
  simp [VolumeMount.IsFree, VolumeMount.IsFaulty, VolumeMount.place]

/-- Mounts are bound exactly if none of them is at fault, each by itself. -/
theorem bindMounts_eq_ok_iff (mounts : List VolumeMount) (plan : List MountBinding) :
    bindMounts volumes mounts = .ok plan ↔
      IsFaultless volumes mounts ∧ plan = mounts.map (VolumeMount.binding volumes) := by
  rw [bindMounts, bindMountsFrom_eq_ok_iff, isFaultless_iff]
  simp [VolumeMount.IsFree]

/-- Some plan is made exactly if no mount is at fault. -/
theorem exists_bindMounts_iff (mounts : List VolumeMount) :
    (∃ plan, bindMounts volumes mounts = .ok plan) ↔ IsFaultless volumes mounts := by
  simp only [bindMounts_eq_ok_iff, exists_and_left, exists_eq, and_true]

/-- What is reported of mounts is the first one at fault. -/
theorem bindMounts_eq_error_iff (mounts : List VolumeMount) (error : ResolutionError) :
    bindMounts volumes mounts = .error error ↔
      ∃ earlier mount later, mounts = earlier ++ mount :: later ∧
        IsFaultless volumes earlier ∧ mount.IsFaulty volumes earlier ∧
        error = mount.fault volumes := by
  have bound (earlier : List VolumeMount) :
      (∃ plan, bindMountsFrom volumes [] earlier = .ok plan) ↔ IsFaultless volumes earlier :=
    exists_bindMounts_iff earlier
  simp only [bindMounts, bindMountsFrom_eq_error_iff, bound, List.append_nil,
    isFree_map_place_iff, not_not]

/-- The bindings of a plan lead to the places of the mounts. -/
theorem map_place_of_bindMounts {mounts : List VolumeMount} {plan : List MountBinding}
    (binds : bindMounts volumes mounts = .ok plan) :
    (plan.map fun binding => MountPath.normalize binding.path) =
      mounts.map VolumeMount.place := by
  rw [((bindMounts_eq_ok_iff mounts plan).1 binds).2, List.map_map]
  rfl

/-- Mounts are bound exactly if none of them is at fault: to one binding for each mount, in order,
with its name, its path as it is written and the bundle behind the name, and so to places that
differ. Otherwise the first mount at fault is reported, by its name if that is not declared and else
by its path. -/
theorem bindMounts_outcome (volumes : List ConfigVolume) (mounts : List VolumeMount) :
    ((∃ plan, bindMounts volumes mounts = .ok plan) ↔ IsFaultless volumes mounts) ∧
    (∀ plan, bindMounts volumes mounts = .ok plan →
      List.Forall₂ (fun mount binding => binding.volume = mount.name ∧
        binding.path = mount.path ∧ IsBundleBehind volumes mount.name binding.bundle) mounts plan ∧
      (plan.map fun binding => MountPath.normalize binding.path).Nodup) ∧
    ∀ error, bindMounts volumes mounts = .error error ↔
      ∃ earlier mount later, mounts = earlier ++ mount :: later ∧
        IsFaultless volumes earlier ∧ mount.IsFaulty volumes earlier ∧
        error = if mount.name ∈ volumeNames volumes then .duplicateMountPath mount.path
          else .unknownVolume mount.name (declaredNames volumes) := by
  refine ⟨exists_bindMounts_iff mounts, fun plan binds => ⟨?_, ?_⟩, fun error => ?_⟩
  · refine (forall₂_binds_of_bindMounts binds).imp fun mount binding one => ?_
    exact ⟨one.volume, one.path, (bundle?_eq_some_iff _ _ _).1 one.bundle⟩
  · rw [map_place_of_bindMounts binds]
    exact ((isFaultless_iff mounts).1 ((bindMounts_eq_ok_iff mounts plan).1 binds).1).2
  · exact bindMounts_eq_error_iff mounts error

end PodLaunch
