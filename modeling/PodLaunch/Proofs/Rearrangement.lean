import PodLaunch.Proofs.MountFaults
import PodLaunch.Proofs.Resolution

/-!
# Volumes and mounts in another order

Whether mounts can be bound does not depend on their order, and each keeps its binding. The order of
the volumes and of the mounts of one volume decides what the root of the configuration is, and so
what a command is resolved to; a volume that nothing mounts has no bearing on that.
-/

namespace PodLaunch

/-! ## Places -/

section Places

variable {α β : Type}

/-- The items at some places of a list, in the order of the places. -/
def rearrange (places : List Nat) (items : List α) : List α :=
  places.filterMap (items[·]?)

/-- Items are rearranged before or after they are mapped. -/
theorem rearrange_map (f : α → β) (places : List Nat) (items : List α) :
    rearrange places (items.map f) = (rearrange places items).map f := by
  simp [rearrange, List.map_filterMap]

/-- All places in order give the list itself. -/
theorem rearrange_range (items : List α) : rearrange (List.range items.length) items = items := by
  induction items with
  | nil => rfl
  | cons item items ih =>
    have behind : (List.map Nat.succ (List.range items.length)).filterMap
        ((item :: items)[·]?) = items := by
      rw [List.filterMap_map]
      exact ih
    simp only [rearrange, List.length_cons, List.range_succ_eq_map, List.filterMap_cons,
      List.getElem?_cons_zero, behind]

/-- All places in another order give a permutation of the list. -/
theorem rearrange_perm {places : List Nat} {items : List α}
    (all : places.Perm (List.range items.length)) : (rearrange places items).Perm items := by
  have permuted := all.filterMap (items[·]?)
  rwa [show (List.range items.length).filterMap (items[·]?) = items from rearrange_range items]
    at permuted

/-- Whether items with the same key stand in their old order at some places. -/
def KeepsOrder (key : α → β) (items : List α) (places : List Nat) : Prop :=
  places.Pairwise fun left right =>
    items[left]?.map key = items[right]?.map key → left < right

instance [DecidableEq β] (key : α → β) (items : List α) (places : List Nat) :
    Decidable (KeepsOrder key items places) :=
  inferInstanceAs (Decidable (List.Pairwise _ places))

/-- What passes a test among rearranged items are the items at the places of such. -/
theorem filter_rearrange (test : α → Bool) (places : List Nat) (items : List α) :
    (rearrange places items).filter test =
      rearrange (places.filter fun place => items[place]?.any test) items := by
  induction places with
  | nil => rfl
  | cons place places ih =>
    simp only [rearrange] at ih ⊢
    cases here : items[place]? with
    | none => simp [here, ih]
    | some item => by_cases passes : test item <;> simp [here, passes, ih]

/-- Items with the same key are a list of their own, which stays as it is if they stand in their old
order. -/
theorem filter_rearrange_of_keepsOrder [DecidableEq β] {key : α → β} {items : List α}
    {places : List Nat} (all : places.Perm (List.range items.length))
    (keeps : KeepsOrder key items places) (value : β) :
    (rearrange places items).filter (fun item => key item == value) =
      items.filter fun item => key item == value := by
  let chosen (place : Nat) : Bool := items[place]?.any fun item => key item == value
  have same {place : Nat} (isChosen : chosen place = true) :
      items[place]?.map key = some value := by
    obtain ⟨item, here, named⟩ := (Option.any_eq_true _ _).1 isChosen
    rw [here, Option.map_some, beq_iff_eq.1 named]
  have increasing : (places.filter chosen).Pairwise (· < ·) := by
    refine (keeps.filter chosen).imp_of_mem fun isLeft isRight before => before ?_
    rw [same (List.mem_filter.1 isLeft).2, same (List.mem_filter.1 isRight).2]
  have inRange : ((List.range items.length).filter chosen).Pairwise (· < ·) :=
    List.pairwise_lt_range.filter chosen
  -- Two lists of the same places that both increase are one list.
  have places_eq : places.filter chosen = (List.range items.length).filter chosen :=
    (all.filter chosen).eq_of_pairwise (fun _ _ _ _ left right => absurd left right.not_gt)
      increasing inRange
  calc
    (rearrange places items).filter (fun item => key item == value) =
        rearrange (places.filter chosen) items := filter_rearrange _ _ _
    _ = rearrange ((List.range items.length).filter chosen) items := by rw [places_eq]
    _ = (rearrange (List.range items.length) items).filter (fun item => key item == value) :=
      (filter_rearrange _ _ _).symm
    _ = items.filter (fun item => key item == value) := by rw [rearrange_range]

end Places

/-! ## Mounts in another order -/

section Mounts

variable {volumes : List ConfigVolume} {mounts : List VolumeMount} {places : List Nat}
  (all : places.Perm (List.range mounts.length))

/-- Whether mounts are faultless does not depend on their order. -/
theorem isFaultless_perm {permuted : List VolumeMount} (order : permuted.Perm mounts) :
    IsFaultless volumes permuted ↔ IsFaultless volumes mounts := by
  rw [isFaultless_iff, isFaultless_iff, (order.map _).nodup_iff]
  simp only [order.mem_iff]

include all

/-- Mounts can be bound in any order. -/
theorem exists_bindMounts_rearrange_iff :
    (∃ plan, bindMounts volumes (rearrange places mounts) = .ok plan) ↔
      ∃ plan, bindMounts volumes mounts = .ok plan := by
  rw [exists_bindMounts_iff, exists_bindMounts_iff, isFaultless_perm (rearrange_perm all)]

variable {plan : List MountBinding} (binds : bindMounts volumes mounts = .ok plan)

include binds

/-- Each mount keeps its binding. -/
theorem bindMounts_rearrange :
    bindMounts volumes (rearrange places mounts) = .ok (rearrange places plan) := by
  obtain ⟨faultless, rfl⟩ := (bindMounts_eq_ok_iff mounts plan).1 binds
  rw [bindMounts_eq_ok_iff, rearrange_map]
  exact ⟨(isFaultless_perm (rearrange_perm all)).2 faultless, rfl⟩

/-- The root of the configuration stays where it is if the mounts of each volume keep their
order. -/
theorem configRoot?_rearrange (keeps : KeepsOrder VolumeMount.name mounts places) :
    configRoot? volumes (rearrange places plan) = configRoot? volumes plan := by
  have first (volume : ConfigVolume) :
      firstPath? (rearrange places plan) volume = firstPath? plan volume := by
    rw [firstPath?_eq (forall₂_binds_of_bindMounts (bindMounts_rearrange all binds)),
      firstPath?_eq (forall₂_binds_of_bindMounts binds), ← List.head?_filter,
      ← List.head?_filter, filter_rearrange_of_keepsOrder all keeps]
  rw [configRoot?, configRoot?, funext first]

/-- So a command is resolved to the same arguments, or the same placeholder is reported. -/
theorem resolve_rearrange (keeps : KeepsOrder VolumeMount.name mounts places)
    (command : List String) :
    (∃ arguments, resolve volumes mounts command = .ok ⟨plan, arguments⟩ ∧
      resolve volumes (rearrange places mounts) command =
        .ok ⟨rearrange places plan, arguments⟩) ∨
    ∃ identifier known,
      resolve volumes mounts command = .error (.unresolvedPlaceholder identifier known) ∧
      resolve volumes (rearrange places mounts) command =
        .error (.unresolvedPlaceholder identifier known) := by
  rw [resolve_of_bindMounts binds, resolve_of_bindMounts (bindMounts_rearrange all binds),
    configRoot?_rearrange all binds keeps]
  cases outcome : command.mapM (resolveArgument (configRoot? volumes plan)) with
  | ok arguments => exact .inl ⟨arguments, rfl, rfl⟩
  | error error =>
    obtain ⟨_, identifier, _, -, -, -, rfl⟩ := exists_first_of_mapM_error outcome
    exact .inr ⟨identifier, _, rfl, rfl⟩

end Mounts

/-! ## Other volumes -/

section Volumes

variable {volumes others : List ConfigVolume} {mounts : List VolumeMount}

/-- Volumes that have the same bundles behind the names of some mounts bind them alike, up to what
is told of an undeclared volume. -/
theorem mapError_bindMountsFrom_congr {ε : Type} (report : ResolutionError → ε)
    (bundles : ∀ mount ∈ mounts, bundle? volumes mount.name = bundle? others mount.name)
    (alike : ∀ name, report (.unknownVolume name (declaredNames volumes)) =
      report (.unknownVolume name (declaredNames others))) (seen : List String) :
    (bindMountsFrom volumes seen mounts).mapError report =
      (bindMountsFrom others seen mounts).mapError report := by
  induction mounts generalizing seen with
  | nil => rfl
  | cons mount mounts ih =>
    obtain ⟨bundle, later⟩ := List.forall_mem_cons.1 bundles
    have declared : mount.name ∈ volumeNames volumes ↔ mount.name ∈ volumeNames others := by
      rw [← isSome_bundle?_iff, ← isSome_bundle?_iff, bundle]
    -- Whether a mount is free depends on the volumes only through the names that they declare.
    by_cases free : mount.IsFree volumes seen
    · have alsoFree : mount.IsFree others seen := free.imp_left declared.1
      rw [bindMountsFrom_cons_of_isFree volumes free, bindMountsFrom_cons_of_isFree others alsoFree,
        mapError_map, mapError_map, ih later, VolumeMount.binding, VolumeMount.binding, bundle]
    · have alsoTaken : ¬ mount.IsFree others seen := fun other => free (other.imp_left declared.2)
      rw [bindMountsFrom_cons_of_not_isFree volumes free,
        bindMountsFrom_cons_of_not_isFree others alsoTaken]
      have fault : report (mount.fault volumes) = report (mount.fault others) := by
        simp only [VolumeMount.fault, declared]
        split
        · rfl
        · exact alike mount.name
      exact congrArg Except.error fault

/-- What is bound, and what is reported otherwise, does not depend on the order of the volumes, if
no name is declared twice. -/
theorem bindMounts_perm (order : others.Perm volumes) (distinct : (volumeNames volumes).Nodup)
    (mounts : List VolumeMount) : bindMounts others mounts = bindMounts volumes mounts := by
  have same : (bindMounts others mounts).mapError id = (bindMounts volumes mounts).mapError id :=
    mapError_bindMountsFrom_congr id (fun mount _ => bundle?_perm order distinct mount.name)
      (fun name => by rw [declaredNames_perm order]) []
  rwa [mapError_id, mapError_id] at same

end Volumes

/-! ## Another volume -/

/-- What a failure is about: its category and the name, path or identifier that offends. -/
def ResolutionError.offence (error : ResolutionError) : FailureCategory × String :=
  (error.failure.category, error.failure.subject)

section Insertion

variable {volume : ConfigVolume} {mounts : List VolumeMount}
  (unmounted : ∀ mount ∈ mounts, mount.name ≠ volume.name.text) (before after : List ConfigVolume)

include unmounted

/-- A volume that nothing mounts has no bearing on what is bound, or on what is at fault. -/
theorem mapError_bindMounts_insert :
    (bindMounts (before ++ volume :: after) mounts).mapError ResolutionError.offence =
      (bindMounts (before ++ after) mounts).mapError ResolutionError.offence :=
  mapError_bindMountsFrom_congr ResolutionError.offence
    (fun mount member => bundle?_insert (unmounted mount member) before after) (fun _ => rfl) []

/-- Nor has it any on the root of the configuration. -/
theorem configRoot?_insert {plan : List MountBinding}
    (binds : bindMounts (before ++ after) mounts = .ok plan) :
    configRoot? (before ++ volume :: after) plan = configRoot? (before ++ after) plan := by
  have skipped : firstPath? plan volume = none := by
    rw [firstPath?_eq (forall₂_binds_of_bindMounts binds), Option.map_eq_none_iff,
      List.find?_eq_none]
    simpa using unmounted
  simp only [configRoot?, List.findSome?_append, List.findSome?_cons, skipped]

/-- So a container is resolved to the same plan and arguments, or fails for the same offence. -/
theorem mapError_resolve_insert (command : List String) :
    (resolve (before ++ volume :: after) mounts command).mapError ResolutionError.offence =
      (resolve (before ++ after) mounts command).mapError ResolutionError.offence := by
  have same := mapError_bindMounts_insert unmounted before after
  cases bound : bindMounts (before ++ after) mounts with
  | error error =>
    rw [bound] at same
    obtain ⟨other, fault, offence⟩ := (mapError_eq_error_iff _ _ _).1 same
    rw [resolve_of_bindMounts_error bound, resolve_of_bindMounts_error fault]
    exact congrArg Except.error offence
  | ok plan =>
    rw [bound] at same
    have alsoBound := (mapError_eq_ok_iff _ _ _).1 same
    rw [resolve_of_bindMounts bound, resolve_of_bindMounts alsoBound,
      configRoot?_insert unmounted before after bound]

end Insertion

/-! ## All orders -/

/-- If no two volumes have one name, order matters as follows. Mounts can be bound in any order or
in none, and each keeps its binding; a command is resolved alike as long as the mounts of each volume
keep their order. In any order of the volumes the mounts are bound alike. A volume that nothing
mounts may be declared anywhere: a container is resolved alike, or fails for the same offence. -/
theorem resolve_reordered {volumes : List ConfigVolume} (distinct : (volumeNames volumes).Nodup)
    (mounts : List VolumeMount) :
    (∀ places : List Nat, places.Perm (List.range mounts.length) →
      ((∃ plan, bindMounts volumes (rearrange places mounts) = .ok plan) ↔
        ∃ plan, bindMounts volumes mounts = .ok plan) ∧
      ∀ plan, bindMounts volumes mounts = .ok plan →
        bindMounts volumes (rearrange places mounts) = .ok (rearrange places plan) ∧
        (KeepsOrder VolumeMount.name mounts places → ∀ command,
          (∃ arguments, resolve volumes mounts command = .ok ⟨plan, arguments⟩ ∧
            resolve volumes (rearrange places mounts) command =
              .ok ⟨rearrange places plan, arguments⟩) ∨
          ∃ identifier known,
            resolve volumes mounts command = .error (.unresolvedPlaceholder identifier known) ∧
            resolve volumes (rearrange places mounts) command =
              .error (.unresolvedPlaceholder identifier known))) ∧
    (∀ permuted : List ConfigVolume, permuted.Perm volumes →
      bindMounts permuted mounts = bindMounts volumes mounts) ∧
    ∀ before volume after, volumes = before ++ after →
      (∀ mount ∈ mounts, mount.name ≠ volume.name.text) → ∀ command,
        (resolve (before ++ volume :: after) mounts command).mapError ResolutionError.offence =
          (resolve volumes mounts command).mapError ResolutionError.offence := by
  refine ⟨fun places all => ⟨exists_bindMounts_rearrange_iff all, fun plan binds => ⟨?_, ?_⟩⟩,
    fun permuted order => bindMounts_perm order distinct mounts, ?_⟩
  · exact bindMounts_rearrange all binds
  · exact fun keeps command => resolve_rearrange all binds keeps command
  · rintro before volume after rfl unmounted command
    exact mapError_resolve_insert unmounted before after command

/-- The volumes of a service: its configuration, and another one for its records. -/
def storeVolumes : List ConfigVolume :=
  [⟨⟨"conf", by decide⟩, ⟨"zookeeper-conf", by decide⟩⟩,
    ⟨⟨"logs", by decide⟩, ⟨"zookeeper-logs", by decide⟩⟩]

/-- A volume that the service does not mount. -/
def spareVolume : ConfigVolume :=
  ⟨⟨"spare", by decide⟩, ⟨"zookeeper-spare", by decide⟩⟩

/-- The mounts of the service: the configuration at two places, behind the records. -/
def storeMounts : List VolumeMount :=
  [⟨"logs", "/etc/zk/../log", by decide⟩, ⟨"conf", "/etc/zk/", by decide⟩,
    ⟨"conf", "//etc/zk/more", by decide⟩]

/-- What these mounts are bound to. -/
def storePlan : List MountBinding :=
  [⟨"logs", "/etc/zk/../log", "zookeeper-logs"⟩, ⟨"conf", "/etc/zk/", "zookeeper-conf"⟩,
    ⟨"conf", "//etc/zk/more", "zookeeper-conf"⟩]

/-- The records may be mounted last, the volumes declared the other way round, and another volume
between them: the root stays that of the first mount of the configuration. -/
theorem resolve_reordered_storeMounts :
    (volumeNames storeVolumes).Nodup ∧
    [1, 2, 0].Perm (List.range storeMounts.length) ∧
    KeepsOrder VolumeMount.name storeMounts [1, 2, 0] ∧
    resolve storeVolumes (rearrange [1, 2, 0] storeMounts) ["\x7b\x7b configroot \x7d\x7dlog"] =
      .ok ⟨rearrange [1, 2, 0] storePlan, ["/etc/zk/log"]⟩ ∧
    bindMounts storeVolumes.reverse storeMounts = .ok storePlan ∧
    (resolve (storeVolumes.take 1 ++ spareVolume :: storeVolumes.drop 1) storeMounts
        ["\x7b\x7b configroot \x7d\x7dlog"]).mapError ResolutionError.offence =
      .ok ⟨storePlan, ["/etc/zk/log"]⟩ := by
  have distinct : (volumeNames storeVolumes).Nodup := by decide
  have all : [1, 2, 0].Perm (List.range storeMounts.length) := by decide
  have keeps : KeepsOrder VolumeMount.name storeMounts [1, 2, 0] := by decide
  have binds : bindMounts storeVolumes storeMounts = .ok storePlan := by decide +kernel
  have resolves : resolve storeVolumes storeMounts ["\x7b\x7b configroot \x7d\x7dlog"] =
      .ok ⟨storePlan, ["/etc/zk/log"]⟩ := by decide +kernel
  obtain ⟨ofMounts, ofVolumes, ofInsertion⟩ := resolve_reordered distinct storeMounts
  refine ⟨distinct, all, keeps, ?_, ?_, ?_⟩
  · rcases ((ofMounts _ all).2 _ binds).2 keeps ["\x7b\x7b configroot \x7d\x7dlog"] with
      ⟨arguments, same, moved⟩ | ⟨identifier, known, fails, -⟩
    · rw [resolves] at same
      cases same
      exact moved
    · rw [resolves] at fails
      cases fails
  · exact (ofVolumes _ storeVolumes.reverse_perm).trans binds
  · rw [ofInsertion _ spareVolume _ (List.take_append_drop 1 storeVolumes).symm (by decide),
      resolves]
    rfl

/-- Mounts of one volume the other way round move the root, and with it what a command comes to. -/
example :
    ¬ KeepsOrder VolumeMount.name storeMounts [0, 2, 1] ∧
      resolve storeVolumes (rearrange [0, 2, 1] storeMounts) ["\x7b\x7bconfigroot\x7d\x7d"] =
        .ok ⟨rearrange [0, 2, 1] storePlan, ["//etc/zk/more"]⟩ := by
  decide +kernel

end PodLaunch
