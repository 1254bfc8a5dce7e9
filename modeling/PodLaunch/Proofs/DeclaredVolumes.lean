import Mathlib.Data.List.Sort
import Mathlib.Data.String.Basic
import Mathlib.Order.Compare
import PodLaunch.Proofs.Binding

/-!
# Declared volumes

Volumes declare names, and a bundle behind each of them: where a name is declared more than once,
the bundle of the last volume counts. The names are listed in order and without repetitions, so that
the list depends on nothing but which names there are.
-/

namespace PodLaunch

/-! ## The bundle behind a name -/

/-- Whether a bundle is the one behind a name: that of the last volume declared under it. -/
def IsBundleBehind (volumes : List ConfigVolume) (name bundle : String) : Prop :=
  ∃ before volume after, volumes = before ++ volume :: after ∧ volume.name.text = name ∧
    volume.bundle.text = bundle ∧ ∀ other ∈ after, other.name.text ≠ name

/-- The bundle that is found for a name is the one behind it. -/
theorem bundle?_eq_some_iff (volumes : List ConfigVolume) (name bundle : String) :
    bundle? volumes name = some bundle ↔ IsBundleBehind volumes name bundle := by
  simp only [bundle?, Option.map_eq_some_iff, List.find?_eq_some_iff_append, beq_iff_eq,
    Bool.not_eq_true', beq_eq_false_iff_ne]
  constructor
  · rintro ⟨volume, ⟨named, after, before, split, others⟩, backs⟩
    refine ⟨before.reverse, volume, after.reverse, ?_, named, backs, ?_⟩
    · simpa using congrArg List.reverse split
    · exact fun other member => others other (List.mem_reverse.1 member)
  · rintro ⟨before, volume, after, rfl, named, backs, others⟩
    refine ⟨volume, ⟨named, after.reverse, before.reverse, by simp, ?_⟩, backs⟩
    exact fun other member => others other (List.mem_reverse.1 member)

/-- If no name is declared twice, any volume of a name has the bundle behind it. -/
theorem bundle?_eq_some_iff_of_nodup {volumes : List ConfigVolume}
    (distinct : (volumeNames volumes).Nodup) (name bundle : String) :
    bundle? volumes name = some bundle ↔
      ∃ volume ∈ volumes, volume.name.text = name ∧ volume.bundle.text = bundle := by
  rw [bundle?_eq_some_iff]
  constructor
  · rintro ⟨before, volume, after, rfl, named, backs, -⟩
    exact ⟨volume, List.mem_append_cons_self, named, backs⟩
  · rintro ⟨volume, member, rfl, rfl⟩
    obtain ⟨before, after, rfl⟩ := List.append_of_mem member
    refine ⟨before, volume, after, rfl, rfl, rfl, fun other isLater same => ?_⟩
    rw [volumeNames, List.map_append, List.map_cons] at distinct
    have once := (List.nodup_cons.1 (List.nodup_append.1 distinct).2.1).1
    exact once (List.mem_map.2 ⟨other, isLater, same⟩)

/-- There is no bundle behind a name that is not declared. -/
theorem bundle?_eq_none_iff (volumes : List ConfigVolume) (name : String) :
    bundle? volumes name = none ↔ name ∉ volumeNames volumes := by
  rw [← isSome_bundle?_iff, Option.not_isSome_iff_eq_none]

/-! ## The names in order -/

/-- Putting a name into its place adds it and nothing else. -/
theorem mem_insertText (name other : String) (names : List String) :
    other ∈ insertText name names ↔ other = name ∨ other ∈ names := by
  induction names with
  | nil => simp [insertText]
  | cons first rest ih =>
    simp only [insertText]
    cases order : compare name first with
    | lt => exact List.mem_cons
    | eq =>
      have same : name = first := compare_eq_iff_eq.1 order
      simp [same]
    | gt =>
      simp only [List.mem_cons, ih]
      exact or_left_comm

/-- A name put into its place among names in order leaves them in order. -/
theorem pairwise_insertText (name : String) {names : List String}
    (ordered : names.Pairwise (· < ·)) : (insertText name names).Pairwise (· < ·) := by
  induction names with
  | nil => exact List.pairwise_singleton _ _
  | cons first rest ih =>
    have ⟨firstBefore, restOrdered⟩ := List.pairwise_cons.1 ordered
    unfold insertText
    cases order : compare name first with
    | lt =>
      have before : name < first := compare_lt_iff_lt.1 order
      apply List.Pairwise.cons _ ordered
      intro other member
      rcases List.mem_cons.1 member with rfl | later
      · exact before
      · exact before.trans (firstBefore other later)
    | eq => exact ordered
    | gt =>
      have after : first < name := compare_gt_iff_gt.1 order
      apply List.Pairwise.cons _ (ih restOrdered)
      intro other member
      rcases (mem_insertText name other rest).1 member with rfl | later
      · exact after
      · exact firstBefore other later

/-- The declared names are those of the volumes. -/
theorem mem_declaredNames (volumes : List ConfigVolume) (name : String) :
    name ∈ declaredNames volumes ↔ name ∈ volumeNames volumes := by
  unfold declaredNames
  induction volumeNames volumes with
  | nil => rfl
  | cons first rest ih => rw [List.foldr_cons, mem_insertText, ih, List.mem_cons]

/-- The declared names are in strict order. -/
theorem pairwise_declaredNames (volumes : List ConfigVolume) :
    (declaredNames volumes).Pairwise (· < ·) := by
  unfold declaredNames
  induction volumeNames volumes with
  | nil => exact List.Pairwise.nil
  | cons first rest ih => exact pairwise_insertText first ih

/-! ## Volumes in another order -/

section Rearranged

variable {volumes permuted : List ConfigVolume} (order : permuted.Perm volumes)

include order

/-- The declared names do not depend on the order of the volumes. -/
theorem declaredNames_perm : declaredNames permuted = declaredNames volumes := by
  apply (pairwise_declaredNames permuted).eq_of_mem_iff (pairwise_declaredNames volumes)
  intro name
  rw [mem_declaredNames, mem_declaredNames]
  exact (order.map _).mem_iff

/-- Neither does the bundle behind a name, if no name is declared twice. -/
theorem bundle?_perm (distinct : (volumeNames volumes).Nodup) (name : String) :
    bundle? permuted name = bundle? volumes name := by
  have alsoDistinct : (volumeNames permuted).Nodup := (order.map _).nodup_iff.2 distinct
  ext bundle
  rw [bundle?_eq_some_iff_of_nodup distinct, bundle?_eq_some_iff_of_nodup alsoDistinct]
  simp only [order.mem_iff]

end Rearranged

/-! ## Another volume -/

/-- A volume has no bearing on the bundles behind other names. -/
theorem bundle?_insert {volume : ConfigVolume} {name : String} (other : name ≠ volume.name.text)
    (before after : List ConfigVolume) :
    bundle? (before ++ volume :: after) name = bundle? (before ++ after) name := by
  have skipped : (volume.name.text == name) = false := by simpa using other.symm
  simp [bundle?, List.find?_append, skipped]

end PodLaunch
