import Mathlib.Data.List.Forall2
import PodLaunch.Resolution

/-!
# Bindings and the root of the configuration

A mount plan has one binding for each mount, in order. The root of the configuration is therefore
determined by the volumes and the mounts alone: it is where the first volume that is mounted at all
is mounted first.
-/

namespace PodLaunch

/-- Whether a binding is that of a mount of one of some volumes. -/
structure MountBinding.Binds (volumes : List ConfigVolume) (mount : VolumeMount)
    (binding : MountBinding) : Prop where
  /-- It has the name of the mount. -/
  volume : binding.volume = mount.name
  /-- It has the path of the mount as it is written. -/
  path : binding.path = mount.path
  /-- It has the bundle behind the name. -/
  bundle : bundle? volumes mount.name = some binding.bundle

/-- There is a bundle behind exactly the names of the volumes. -/
theorem isSome_bundle?_iff (volumes : List ConfigVolume) (name : String) :
    (bundle? volumes name).isSome ↔ name ∈ volumeNames volumes := by
  simp only [bundle?, Option.isSome_map, List.find?_isSome, List.mem_reverse, beq_iff_eq,
    volumeNames, List.mem_map]

/-- What is bound are the mounts, one after the other. -/
theorem forall₂_binds_of_bindMountsFrom {volumes : List ConfigVolume} {seen : List String}
    {mounts : List VolumeMount} {bindings : List MountBinding}
    (h : bindMountsFrom volumes seen mounts = .ok bindings) :
    List.Forall₂ (MountBinding.Binds volumes) mounts bindings := by
  induction mounts generalizing seen bindings with
  | nil =>
    cases h
    exact List.Forall₂.nil
  | cons mount mounts ih =>
    simp only [bindMountsFrom] at h
    cases behind : bundle? volumes mount.name with
    | none => simp [behind] at h
    | some bundle =>
      simp only [behind] at h
      split at h
      · cases h
      · cases rest : bindMountsFrom volumes (MountPath.normalize mount.path :: seen) mounts with
        | error error => simp [rest, bind, Except.bind] at h
        | ok others =>
          simp only [rest, bind, Except.bind, pure, Except.pure, Except.ok.injEq] at h
          subst h
          exact List.Forall₂.cons ⟨rfl, rfl, behind⟩ (ih rest)

/-- What is bound are the mounts, in order. -/
theorem forall₂_binds_of_bindMounts {volumes : List ConfigVolume} {mounts : List VolumeMount}
    {bindings : List MountBinding} (h : bindMounts volumes mounts = .ok bindings) :
    List.Forall₂ (MountBinding.Binds volumes) mounts bindings :=
  forall₂_binds_of_bindMountsFrom h

/-! ## The root of the configuration -/

/-- Whether a path is the root of the configuration: the path of the first mount of the first volume
that any mount refers to. -/
def IsConfigRoot (volumes : List ConfigVolume) (mounts : List VolumeMount) (path : String) : Prop :=
  ∃ skipped volume others, volumes = skipped ++ volume :: others ∧
    (∀ other ∈ skipped, ∀ mount ∈ mounts, mount.name ≠ other.name.text) ∧
    ∃ earlier mount later, mounts = earlier ++ mount :: later ∧
      (∀ other ∈ earlier, other.name ≠ volume.name.text) ∧
      mount.name = volume.name.text ∧ mount.path = path

/-- The first path of a volume among bindings is that of its first mount. -/
theorem firstPath?_eq {volumes : List ConfigVolume} {mounts : List VolumeMount}
    {bindings : List MountBinding}
    (bound : List.Forall₂ (MountBinding.Binds volumes) mounts bindings) (volume : ConfigVolume) :
    firstPath? bindings volume =
      (mounts.find? fun mount => mount.name == volume.name.text).map VolumeMount.path := by
  induction bound with
  | nil => rfl
  | cons binds _ ih =>
    rw [firstPath?] at ih ⊢
    rw [List.find?_cons, List.find?_cons, binds.volume]
    split
    · simp [binds.path]
    · exact ih

/-- The first path of a volume is the path of its first mount. -/
theorem find?_mount_eq_some_iff (mounts : List VolumeMount) (name path : String) :
    (mounts.find? fun mount => mount.name == name).map VolumeMount.path = some path ↔
      ∃ earlier mount later, mounts = earlier ++ mount :: later ∧
        (∀ other ∈ earlier, other.name ≠ name) ∧ mount.name = name ∧ mount.path = path := by
  simp only [Option.map_eq_some_iff, List.find?_eq_some_iff_append, beq_iff_eq,
    Bool.not_eq_true', beq_eq_false_iff_ne]
  constructor
  · rintro ⟨mount, ⟨same, earlier, later, split, others⟩, atPath⟩
    exact ⟨earlier, mount, later, split, others, same, atPath⟩
  · rintro ⟨earlier, mount, later, split, others, same, atPath⟩
    exact ⟨mount, ⟨same, earlier, later, split, others⟩, atPath⟩

/-- The root that is found among bindings is the root of the configuration. -/
theorem configRoot?_eq_some_iff {volumes : List ConfigVolume} {mounts : List VolumeMount}
    {bindings : List MountBinding}
    (bound : List.Forall₂ (MountBinding.Binds volumes) mounts bindings) (path : String) :
    configRoot? volumes bindings = some path ↔ IsConfigRoot volumes mounts path := by
  simp only [configRoot?, List.findSome?_eq_some_iff, firstPath?_eq bound,
    find?_mount_eq_some_iff, Option.map_eq_none_iff, List.find?_eq_none, beq_iff_eq]
  constructor
  · rintro ⟨skipped, volume, others, split, found, unmounted⟩
    exact ⟨skipped, volume, others, split, unmounted, found⟩
  · rintro ⟨skipped, volume, others, split, unmounted, found⟩
    exact ⟨skipped, volume, others, split, found, unmounted⟩

/-- There is a root exactly if anything is mounted, since what is bound belongs to a volume. -/
theorem isSome_configRoot?_iff {volumes : List ConfigVolume} {mounts : List VolumeMount}
    {bindings : List MountBinding}
    (bound : List.Forall₂ (MountBinding.Binds volumes) mounts bindings) :
    (configRoot? volumes bindings).isSome ↔ mounts ≠ [] := by
  simp only [configRoot?, List.findSome?_isSome_iff, firstPath?_eq bound, Option.isSome_map,
    List.find?_isSome, beq_iff_eq]
  constructor
  · rintro ⟨volume, _, mount, mounted, _⟩
    exact List.ne_nil_of_mem mounted
  · intro mounted
    cases bound with
    | nil => exact absurd rfl mounted
    | @cons mount binding mounts bindings binds rest =>
      have declared : mount.name ∈ volumeNames volumes := by
        rw [← isSome_bundle?_iff, binds.bundle]
        rfl
      obtain ⟨volume, member, same⟩ := List.mem_map.1 declared
      exact ⟨volume, member, mount, List.mem_cons_self, same.symm⟩

end PodLaunch
