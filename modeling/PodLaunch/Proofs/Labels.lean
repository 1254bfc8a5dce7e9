import Mathlib.Data.List.Nodup
import PodLaunch.Labels
import PodLaunch.Proofs.Validation

/-!
# Labels in documents

Settings with distinct keys leave exactly themselves behind, in their order. So a mapping from texts
to texts in an interchange document and the labels that it denotes determine each other.
-/

namespace PodLaunch

namespace Labels

/-- Setting a key that is new puts it at the end. -/
theorem setIn_of_not_mem (entries : List (String × String)) (key value : String)
    (new : key ∉ entries.map Prod.fst) : setIn entries key value = entries ++ [(key, value)] := by
  induction entries with
  | nil => rfl
  | cons entry rest ih =>
    obtain ⟨oldKey, oldValue⟩ := entry
    simp only [List.map_cons, List.mem_cons, not_or] at new
    rw [setIn, if_neg (Ne.symm new.1), ih new.2, List.cons_append]

/-- Settings with new and distinct keys are added to labels as they are. -/
theorem entries_foldl_set (settings : List (String × String)) (labels : Labels)
    (distinct : ((labels.entries ++ settings).map Prod.fst).Nodup) :
    (settings.foldl (fun labels setting => labels.set setting.1 setting.2) labels).entries =
      labels.entries ++ settings := by
  induction settings generalizing labels with
  | nil => simp
  | cons setting settings ih =>
    obtain ⟨key, value⟩ := setting
    have new : key ∉ labels.entries.map Prod.fst := by
      rw [List.map_append, List.nodup_append] at distinct
      exact fun old => distinct.2.2 key old key (by simp) rfl
    have set : (labels.set key value).entries = labels.entries ++ [(key, value)] :=
      setIn_of_not_mem labels.entries key value new
    rw [List.foldl_cons, ih, set, List.append_assoc, List.singleton_append]
    rwa [set, List.append_assoc, List.singleton_append]

/-- Settings with distinct keys leave exactly themselves behind. -/
theorem entries_ofList (settings : List (String × String))
    (distinct : (settings.map Prod.fst).Nodup) : (ofList settings).entries = settings := by
  have start : ((empty.entries ++ settings).map Prod.fst).Nodup := by simpa [empty] using distinct
  simpa [ofList, empty] using entries_foldl_set settings .empty start

/-- What is looked up in entries stands in the first one, or else in the others. -/
theorem lookup_cons_eq (key value other : String) (entries : List (String × String)) :
    ((key, value) :: entries).lookup other =
      if other = key then some value else entries.lookup other := by
  by_cases same : other = key
  · simp [same]
  · rw [List.lookup_cons, beq_false_of_ne same, if_neg same]

/-- Setting a key changes what is looked up under that key only. -/
theorem lookup_setIn (entries : List (String × String)) (key value other : String) :
    (setIn entries key value).lookup other =
      if other = key then some value else entries.lookup other := by
  induction entries with
  | nil => exact lookup_cons_eq key value other []
  | cons entry rest ih =>
    obtain ⟨oldKey, oldValue⟩ := entry
    by_cases same : oldKey = key
    · subst same
      rw [setIn, if_pos rfl, lookup_cons_eq, lookup_cons_eq]
      split <;> rfl
    · rw [setIn, if_neg same, lookup_cons_eq, lookup_cons_eq, ih]
      by_cases asked : other = oldKey
      · simp [asked, same]
      · simp [asked]

/-- A key that is set has the value it is set to, and every other key has the value it had. -/
theorem get?_set (labels : Labels) (key value other : String) :
    (labels.set key value).get? other = if other = key then some value else labels.get? other :=
  lookup_setIn labels.entries key value other

/-- The entries for other keys are left as they are, in their order. -/
theorem filter_setIn (entries : List (String × String)) (key value : String) :
    ((setIn entries key value).filter fun entry => entry.1 != key) =
      entries.filter fun entry => entry.1 != key := by
  induction entries with
  | nil => simp [setIn]
  | cons entry rest ih =>
    obtain ⟨oldKey, oldValue⟩ := entry
    by_cases same : oldKey = key
    · simp [setIn, same]
    · rw [setIn, if_neg same, List.filter_cons, List.filter_cons, ih]

/-- Labels are determined by their entries. -/
theorem eq_of_entries_eq {left right : Labels} (h : left.entries = right.entries) :
    left = right := by
  cases left
  cases right
  cases h
  rfl

end Labels

open Validated

/-- The mapping that holds some settings. -/
def settingEntries (settings : List (String × String)) : Entries :=
  settings.map fun setting => (.text setting.1, .text setting.2)

/-- Under a key of the entries of some settings stands the value that it is set to. -/
theorem get?_settingEntries (settings : List (String × String)) (key : String) :
    (settingEntries settings).get? key = (settings.lookup key).map .text := by
  induction settings with
  | nil => rfl
  | cons setting settings ih =>
    obtain ⟨name, value⟩ := setting
    rw [Labels.lookup_cons_eq, settingEntries, List.map_cons, Entries.get?_cons, ← settingEntries,
      ih]
    by_cases same : name = key
    · simp [same]
    · simp [same, Ne.symm same]

/-- Entries under distinct texts come from distinct settings. -/
theorem nodup_keys_of_settingEntries {settings : List (String × String)}
    (distinct : ((settingEntries settings).map Prod.fst).Nodup) :
    (settings.map Prod.fst).Nodup := by
  have texts : (settingEntries settings).map Prod.fst = (settings.map Prod.fst).map .text := by
    simp [settingEntries]
  rw [texts] at distinct
  exact List.Nodup.of_map _ distinct

/-- Entries of an interchange document are valid labels exactly if they hold those settings. -/
theorem checkLabelEntries_eq_valid_iff {entries : Entries}
    (texts : ∀ entry ∈ entries, ∃ key, entry.1 = .text key)
    (each : ∀ entry ∈ entries, entry.2.IsInterchange) (settings : List (String × String)) :
    checkLabelEntries entries = .valid settings ↔ entries = settingEntries settings := by
  induction entries generalizing settings with
  | nil => cases settings <;> simp [checkLabelEntries, settingEntries]
  | cons entry entries ih =>
    obtain ⟨key, value⟩ := entry
    obtain ⟨name, rfl⟩ := texts (key, value) List.mem_cons_self
    have valueEach := each (.text name, value) List.mem_cons_self
    have rest := ih (fun other member => texts other (List.mem_cons_of_mem _ member))
      (fun other member => each other (List.mem_cons_of_mem _ member))
    simp only [checkLabelEntries, checkLabel, map_eq_valid_iff, zip_eq_valid_iff,
      atStep_eq_valid_iff, rest, checkText_eq_valid_iff (.text name),
      checkText_eq_valid_iff valueEach]
    constructor
    · rintro ⟨⟨⟨foundName, foundValue⟩, others⟩, ⟨⟨sameName, sameValue⟩, sameRest⟩, rfl⟩
      simp only at sameName sameValue sameRest
      rw [sameName, sameValue, sameRest]
      rfl
    · intro same
      cases settings with
      | nil => cases same
      | cons setting settings =>
        simp only [settingEntries, List.map_cons, List.cons.injEq, Prod.mk.injEq] at same
        exact ⟨(setting, settings), ⟨⟨same.1.1, same.1.2⟩, same.2⟩, rfl⟩

/-- A document denotes labels exactly if it is the mapping that holds them. -/
theorem checkLabels_eq_valid_iff {d : Document} (h : d.IsInterchange) (labels : Labels) :
    checkLabels d = .valid labels ↔ d = labels.toDocument := by
  unfold checkLabels
  cases found : d.entries? with
  | none =>
    have noMapping : d ≠ labels.toDocument := fun same => by
      have entries := (Document.entries?_eq_some_iff h _).2 same
      rw [found] at entries
      cases entries
    simp [noMapping, fault]
  | some entries =>
    rw [Document.entries?_eq_some_iff h] at found
    subst found
    cases h with
    | mapping _ texts distinct each =>
      simp only [map_eq_valid_iff, checkLabelEntries_eq_valid_iff texts each, Labels.toDocument,
        Document.mapping.injEq]
      constructor
      · rintro ⟨settings, rfl, rfl⟩
        rw [Labels.entries_ofList settings (nodup_keys_of_settingEntries distinct)]
        rfl
      · rintro rfl
        exact ⟨labels.entries, rfl,
          Labels.eq_of_entries_eq (Labels.entries_ofList _ labels.distinct)⟩

end PodLaunch
