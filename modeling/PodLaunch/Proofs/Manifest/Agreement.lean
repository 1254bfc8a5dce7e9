import Mathlib.Data.List.Forall2
import Mathlib.Data.List.Perm.Basic
import Mathlib.Data.Set.List
import PodLaunch.Proofs.Manifest.Shape
import PodLaunch.Proofs.Sequence

/-!
# Documents that agree on what is read

Two documents agree on some fields if they are mappings with values under these fields that agree in
turn; their other entries and the order of all entries are of no account. What a section holds is
then held by the other one as well.
-/

namespace PodLaunch

namespace Document

/-- Two documents are the same up to the order of keys, at any depth. -/
inductive Reordered : Document → Document → Prop where
  /-- The same document. -/
  | same (d : Document) : Reordered d d
  /-- Lists with such elements at each place. -/
  | list {left right : List Document} (length : left.length = right.length)
    (each : ∀ (place : Nat) (x y : Document), left[place]? = some x → right[place]? = some y →
      Reordered x y) : Reordered (.list left) (.list right)
  /-- Mappings with the same keys in any order, and such values under each of them. -/
  | mapping {left right : Entries} (keys : (left.map Prod.fst).Perm (right.map Prod.fst))
    (each : ∀ key x y, (key, x) ∈ left → (key, y) ∈ right → Reordered x y) :
    Reordered (.mapping left) (.mapping right)

/-- Entries with distinct keys may be listed in any order. -/
theorem Reordered.of_perm {left right : Entries} (distinct : (left.map Prod.fst).Nodup)
    (order : left.Perm right) : Reordered (.mapping left) (.mapping right) := by
  refine .mapping (order.map _) fun key x y isLeft isRight => ?_
  have same : (key, x) = (key, y) :=
    List.inj_on_of_nodup_map distinct isLeft (order.mem_iff.2 isRight) rfl
  rw [(Prod.mk.inj same).2]
  exact .same y

/-- No other document is the same up to the order of keys. -/
def IsRigid (d : Document) : Prop :=
  ∀ other, d.Reordered other → other = d

/-- A text has no keys. -/
theorem isRigid_text (s : String) : (Document.text s).IsRigid := by
  intro other reordered
  cases reordered
  rfl

/-- A list has no keys to be reordered if none of its elements has. -/
theorem isRigid_list {items : List Document} (each : ∀ item ∈ items, item.IsRigid) :
    (Document.list items).IsRigid := by
  intro other reordered
  cases reordered with
  | same => rfl
  | @list _ right length places =>
    have same : right = items := by
      apply List.ext_getElem length.symm
      intro place isRight isLeft
      exact each _ (List.getElem_mem isLeft) _
        (places place _ _ (List.getElem?_eq_getElem isLeft) (List.getElem?_eq_getElem isRight))
    rw [same]

/-- A text is a key exactly if it is the text of the key. -/
theorem isText_iff (key : String) (d : Document) : d.isText key = true ↔ d = .text key := by
  cases d <;> simp [isText]

end Document

open Document

/-! ## Entries in another order -/

/-- What is found in a list is found in another order as well if nothing else could be found. -/
theorem find?_of_perm {α : Type} {sought : α → Bool} {left right : List α}
    (order : left.Perm right)
    (unique : ∀ x ∈ left, ∀ y ∈ left, sought x = true → sought y = true → x = y) :
    right.find? sought = left.find? sought := by
  cases found : left.find? sought with
  | none =>
    rw [List.find?_eq_none] at found ⊢
    exact fun x member => found x (order.mem_iff.2 member)
  | some x =>
    have member := List.mem_of_find?_eq_some found
    obtain ⟨y, other⟩ := Option.isSome_iff_exists.1
      (List.find?_isSome.2 ⟨x, order.mem_iff.1 member, List.find?_some found⟩)
    have otherMember := order.mem_iff.2 (List.mem_of_find?_eq_some other)
    rw [other, unique x member y otherMember (List.find?_some found) (List.find?_some other)]

/-- Entries with distinct keys hold the same under each key, whatever their order. -/
theorem Entries.get?_of_perm {left right : Entries} (distinct : (left.map Prod.fst).Nodup)
    (order : left.Perm right) (key : String) :
    Entries.get? right key = Entries.get? left key := by
  refine congrArg (Option.map Prod.snd) (find?_of_perm order fun x isX y isY ofX ofY => ?_)
  rw [isText_iff] at ofX ofY
  exact List.inj_on_of_nodup_map distinct isX isY (ofX.trans ofY.symm)

/-- Labels with the same entries have the same values, whatever the order of the entries. -/
theorem Labels.get?_of_perm {left right : Labels} (order : left.entries.Perm right.entries)
    (key : String) : right.get? key = left.get? key := by
  have distinct : ((settingEntries left.entries).map Prod.fst).Nodup := by
    simpa [settingEntries, Function.comp_def] using
      left.distinct.map (f := Document.text) fun _ _ same => Document.text.inj same
  have settings : (settingEntries left.entries).Perm (settingEntries right.entries) :=
    order.map _
  have same := Entries.get?_of_perm distinct settings key
  rw [get?_settingEntries, get?_settingEntries] at same
  exact Option.map_injective (fun _ _ same => Document.text.inj same) same

/-! ## Agreement -/

/-- Fields that are read, each with what its values have to have in common. -/
abbrev ReadFields := List (String × (Document → Document → Prop))

/-- Entries agree on some fields: under each of them, both hold related values, or nothing. -/
def Entries.AgreeOn (fields : ReadFields) (left right : Entries) : Prop :=
  ∀ field ∈ fields, Option.Rel field.2 (left.get? field.1) (right.get? field.1)

/-- Mappings that agree on some fields; other documents have to be the same. -/
def AgreeOn (fields : ReadFields) : Document → Document → Prop
  | .mapping left, .mapping right => Entries.AgreeOn fields left right
  | left, right => left = right

/-- Lists with related elements, one by one; other documents have to be the same. -/
def AgreeEach (related : Document → Document → Prop) : Document → Document → Prop
  | .list left, .list right => List.Forall₂ related left right
  | left, right => left = right

variable {fields : ReadFields} {value other : Option Document}

/-- Whether the key of an entry is that of a field that is read. -/
def ReadFields.reads (fields : ReadFields) (entry : Document × Document) : Bool :=
  fields.any fun field => entry.1.isText field.1

/-- Entries agree if the ones that are read are the same, in any order. So entries that are not read
may be added, removed or changed. -/
theorem Entries.agreeOn_of_perm {left right : Entries}
    (same : ∀ field ∈ fields, ∀ d, field.2 d d) (distinct : (left.map Prod.fst).Nodup)
    (order : (left.filter fields.reads).Perm (right.filter fields.reads)) :
    Entries.AgreeOn fields left right := by
  intro field isField
  -- What is looked for is among the entries that are read.
  have kept (entries : Entries) :
      Entries.get? (entries.filter fields.reads) field.1 = entries.get? field.1 := by
    rw [Entries.get?, List.find?_filter]
    congr 2
    funext entry
    have isRead : entry.1.isText field.1 = true → fields.reads entry = true := fun found =>
      List.any_eq_true.2 ⟨field, isField, found⟩
    grind
  have read : ((left.filter fields.reads).map Prod.fst).Nodup :=
    distinct.sublist (List.filter_sublist.map _)
  rw [← kept left, ← kept right, Entries.get?_of_perm read order]
  cases Entries.get? (left.filter fields.reads) field.1 with
  | none => exact .none
  | some d => exact .some (same field isField d)

/-- What agrees with a mapping on some fields is a mapping. -/
theorem AgreeOn.exists_mapping {left : Entries} {d : Document}
    (agree : AgreeOn fields (.mapping left) d) :
    ∃ right : Entries, d = .mapping right ∧ Entries.AgreeOn fields left right := by
  cases d with
  | mapping right => exact ⟨right, rfl, agree⟩
  | _ => cases agree

/-- What agrees with a list one by one is a list. -/
theorem AgreeEach.exists_list {related : Document → Document → Prop} {left : List Document}
    {d : Document} (agree : AgreeEach related (.list left) d) :
    ∃ right, d = .list right ∧ List.Forall₂ related left right := by
  cases d with
  | list right => exact ⟨right, rfl, agree⟩
  | _ => cases agree

/-- What agrees with mappings one by one are mappings. -/
theorem exists_mappings_of_agree {own : List Entries} {items : List Document}
    (agree : List.Forall₂ (AgreeOn fields) (own.map .mapping) items) :
    ∃ others : List Entries, items = others.map .mapping ∧
      List.Forall₂ (Entries.AgreeOn fields) own others := by
  rw [List.forall₂_map_left_iff] at agree
  induction agree with
  | nil => exact ⟨[], rfl, .nil⟩
  | cons first _ ih =>
    obtain ⟨right, rfl, one⟩ := first.exists_mapping
    obtain ⟨others, rfl, rest⟩ := ih
    exact ⟨right :: others, rfl, .cons one rest⟩

/-- What each entry of a list holds is held by the others that agree with them. -/
theorem forall₂_of_agree {α : Type} {holds : Entries → α → Prop} {own others : List Entries}
    {values : List α} (held : List.Forall₂ holds own values)
    (agree : List.Forall₂ (Entries.AgreeOn fields) own others)
    (each : ∀ left value right, holds left value → Entries.AgreeOn fields left right →
      holds right value) :
    List.Forall₂ holds others values := by
  induction agree generalizing values with
  | nil => exact held
  | cons one _ ih =>
    cases held with
    | cons first rest => exact .cons (each _ _ _ first one) (ih rest)

namespace Manifest

/-! ## Values without keys -/

/-- A field holds nothing whose keys could be reordered. -/
def IsRigidField (value : Option Document) : Prop :=
  ∀ d, value = some d → d.IsRigid

/-- A field whose keys cannot be reordered holds the same. -/
theorem eq_of_reordered (rigid : IsRigidField value) (related : Option.Rel Reordered value other) :
    other = value := by
  cases related with
  | none => rfl
  | some reordered => rw [rigid _ rfl _ reordered]

/-- A field without a value has no keys. -/
theorem isRigidField_none : IsRigidField none := by
  intro d found
  cases found

/-- A field that holds a text has no keys. -/
theorem isRigidField_text (s : String) : IsRigidField (some (.text s)) := by
  intro d found
  cases found
  exact isRigid_text s

/-- A field that is left out or empty has no keys. -/
theorem IsEmptyValue.isRigidField (empty : IsEmptyValue value) : IsRigidField value := by
  intro d found other reordered
  subst found
  cases empty with
  | list => exact isRigid_list (by simp) other reordered
  | mapping =>
    cases reordered with
    | same => rfl
    | @mapping _ right keys _ =>
      have none : right = [] := by simpa using keys.symm.eq_nil
      rw [none]
  | _ =>
    cases reordered
    rfl

/-- A field that is absent has no keys. -/
theorem IsAbsent.isRigidField (absent : IsAbsent value) : IsRigidField value := by
  rcases absent with rfl | rfl
  · exact isRigidField_none
  · exact IsEmptyValue.null.isRigidField

/-- The field of a name has no keys. -/
theorem IsName.isRigidField {name : String} (held : IsName value name) : IsRigidField value := by
  rcases held with ⟨rfl, -⟩ | rfl
  · exact isRigidField_none
  · exact isRigidField_text name

/-- The field of an optional text has no keys. -/
theorem IsOptionalText.isRigidField {text : Option String} (held : IsOptionalText value text) :
    IsRigidField value := by
  rcases held with ⟨absent, -⟩ | ⟨given, rfl, -⟩
  · exact absent.isRigidField
  · exact isRigidField_text given

/-- The field of several texts has no keys. -/
theorem IsItems.isRigidField {texts : List String} (held : IsItems value (texts.map .text)) :
    IsRigidField value := by
  rcases held with ⟨empty, -⟩ | rfl
  · exact empty.isRigidField
  · intro d found
    cases found
    apply isRigid_list
    intro item member
    obtain ⟨text, -, rfl⟩ := List.mem_map.1 member
    exact isRigid_text text

/-! ## Sections that agree -/

/-- Values that agree with an empty one, element by element, are that value. -/
theorem IsEmptyValue.eq_of_agreeEach {related : Document → Document → Prop}
    (empty : IsEmptyValue value) (agree : Option.Rel (AgreeEach related) value other) :
    other = value := by
  cases agree with
  | none => rfl
  | @some d e one =>
    cases empty with
    | list =>
      obtain ⟨right, rfl, none⟩ := one.exists_list
      cases none
      rfl
    | _ => exact congrArg some (Eq.symm one)

/-- A value that agrees with an absent one on some fields is absent. -/
theorem IsAbsent.of_agreeOn (absent : IsAbsent value)
    (agree : Option.Rel (AgreeOn fields) value other) : IsAbsent other := by
  cases agree with
  | none => exact Or.inl rfl
  | @some d e one =>
    rcases absent with none | null
    · cases none
    · cases null
      exact Or.inr (congrArg some (Eq.symm one))

/-- A field that agrees with a mapping on some fields holds a mapping. -/
theorem exists_mapping_of_agree {own : Entries}
    (agree : Option.Rel (AgreeOn fields) (some (.mapping own)) other) :
    ∃ entries : Entries, other = some (.mapping entries) ∧
      Entries.AgreeOn fields own entries := by
  cases agree with
  | some one =>
    obtain ⟨entries, rfl, agreed⟩ := one.exists_mapping
    exact ⟨entries, rfl, agreed⟩

/-- A field that agrees with a list of mappings, one by one, holds such a list. -/
theorem exists_mappingList_of_agree {own : List Entries}
    (agree : Option.Rel (AgreeEach (AgreeOn fields)) (some (.list (own.map .mapping))) other) :
    ∃ others : List Entries, other = some (.list (others.map .mapping)) ∧
      List.Forall₂ (Entries.AgreeOn fields) own others := by
  cases agree with
  | some one =>
    obtain ⟨right, rfl, each⟩ := one.exists_list
    obtain ⟨others, rfl, agreed⟩ := exists_mappings_of_agree each
    exact ⟨others, rfl, agreed⟩

/-- Sections that agree hold entries that agree. -/
theorem IsSection.of_agree {own : Entries} (held : IsSection value own)
    (agree : Option.Rel (AgreeOn fields) value other) :
    ∃ entries, IsSection other entries ∧ Entries.AgreeOn fields own entries := by
  rcases held with ⟨absent, rfl⟩ | rfl
  · exact ⟨[], Or.inl ⟨absent.of_agreeOn agree, rfl⟩, fun field _ => Option.Rel.none⟩
  · obtain ⟨entries, found, agreed⟩ := exists_mapping_of_agree agree
    exact ⟨entries, Or.inr found, agreed⟩

/-- Fields that agree, element by element, hold mappings that agree. -/
theorem IsItems.of_agree {own : List Entries} (held : IsItems value (own.map .mapping))
    (agree : Option.Rel (AgreeEach (AgreeOn fields)) value other) :
    ∃ others : List Entries, IsItems other (others.map .mapping) ∧
      List.Forall₂ (Entries.AgreeOn fields) own others := by
  rcases held with ⟨empty, none⟩ | rfl
  · obtain rfl := List.map_eq_nil_iff.1 none
    exact ⟨[], Or.inl ⟨empty.eq_of_agreeEach agree ▸ empty, rfl⟩, .nil⟩
  · obtain ⟨others, found, agreed⟩ := exists_mappingList_of_agree agree
    exact ⟨others, Or.inr found, agreed⟩

/-- An absent value is an empty one. -/
theorem IsAbsent.isEmptyValue (absent : IsAbsent value) : IsEmptyValue value := by
  rcases absent with rfl | rfl
  · exact .leftOut
  · exact .null

/-- Lists of mappings that agree hold mappings that agree. -/
theorem IsEntryList.of_agree {own : List Entries} (held : IsEntryList value own)
    (agree : Option.Rel (AgreeEach (AgreeOn fields)) value other) :
    ∃ others, IsEntryList other others ∧ List.Forall₂ (Entries.AgreeOn fields) own others := by
  rcases held with ⟨absent, rfl⟩ | rfl
  · have same := absent.isEmptyValue.eq_of_agreeEach agree
    exact ⟨[], Or.inl ⟨same ▸ absent, rfl⟩, .nil⟩
  · obtain ⟨others, found, agreed⟩ := exists_mappingList_of_agree agree
    exact ⟨others, Or.inr found, agreed⟩

/-! ## Labels in another order -/

/-- Entries stand among others that have the same keys and the same values under them. -/
theorem subset_of_keys {left right : Entries}
    (keys : (left.map Prod.fst).Perm (right.map Prod.fst))
    (same : ∀ key x y, (key, x) ∈ left → (key, y) ∈ right → x = y) : left ⊆ right := by
  rintro ⟨key, x⟩ member
  obtain ⟨⟨_, y⟩, other, rfl⟩ := List.mem_map.1 (keys.mem_iff.1 (List.mem_map_of_mem member))
  rwa [same _ _ _ member other]

/-- Labels are written down with one entry for each setting. -/
theorem settingEntry_injective : Function.Injective fun setting : String × String =>
    (Document.text setting.1, Document.text setting.2) := by
  rintro ⟨leftKey, left⟩ ⟨rightKey, right⟩ same
  simpa using same

/-- The mapping of some labels, with its keys in another order, is that of the same labels in
another order. -/
theorem exists_labels_of_reordered {labels : Labels} {d : Document} (h : d.IsInterchange)
    (reordered : Reordered (.mapping (settingEntries labels.entries)) d) :
    ∃ others : Labels, others.entries.Perm labels.entries ∧
      d = .mapping (settingEntries others.entries) := by
  cases reordered with
  | same => exact ⟨labels, .refl _, rfl⟩
  | @mapping _ entries keys each =>
    have same (key x y : Document) (isSetting : (key, x) ∈ settingEntries labels.entries)
        (member : (key, y) ∈ entries) : y = x := by
      obtain ⟨setting, -, written⟩ := List.mem_map.1 isSetting
      obtain rfl : x = .text setting.2 := (Prod.mk.inj written).2.symm
      exact isRigid_text _ _ (each _ _ _ isSetting member)
    have order : entries.Perm (settingEntries labels.entries) := by
      obtain ⟨-, distinct, -⟩ := (isInterchange_mapping_iff entries).1 h
      have distinctSettings : (settingEntries labels.entries).Nodup :=
        (List.Nodup.of_map _ labels.distinct).map settingEntry_injective
      rw [List.perm_ext_iff_of_nodup (List.Nodup.of_map _ distinct) distinctSettings]
      intro entry
      constructor
      · intro member
        exact subset_of_keys keys.symm (fun key y x given own => same key x y own given) member
      · intro member
        exact subset_of_keys keys (fun key x y own given => (same key x y own given).symm) member
    obtain ⟨settings, rfl⟩ : entries ∈ Set.range (List.map fun setting : String × String =>
        (Document.text setting.1, Document.text setting.2)) := by
      rw [Set.range_list_map]
      intro entry member
      obtain ⟨setting, -, written⟩ := List.mem_map.1 (order.mem_iff.1 member)
      exact ⟨setting, written⟩
    have sameSettings := (List.map_perm_map_iff settingEntry_injective).1 order
    exact ⟨⟨settings, (sameSettings.map Prod.fst).nodup_iff.2 labels.distinct⟩, sameSettings, rfl⟩

/-- A field for labels or any empty value, with its keys in another order, holds the same labels. -/
theorem IsSettings.of_reordered {labels : Labels} (h : ∀ d, other = some d → d.IsInterchange)
    (held : IsSettings value labels.entries) (related : Option.Rel Reordered value other) :
    ∃ others : Labels, others.entries.Perm labels.entries ∧ IsSettings other others.entries := by
  rcases held with ⟨empty, none⟩ | rfl
  · have same := eq_of_reordered empty.isRigidField related
    exact ⟨labels, .refl _, Or.inl ⟨same ▸ empty, none⟩⟩
  · cases related with
    | some reordered =>
      obtain ⟨others, order, rfl⟩ := exists_labels_of_reordered (h _ rfl) reordered
      exact ⟨others, order, Or.inr rfl⟩

/-- A section of labels, with its keys in another order, holds the same labels. -/
theorem IsSection.of_reordered {labels : Labels} (h : ∀ d, other = some d → d.IsInterchange)
    (held : IsSection value (settingEntries labels.entries))
    (related : Option.Rel Reordered value other) :
    ∃ others : Labels, others.entries.Perm labels.entries ∧
      IsSection other (settingEntries others.entries) := by
  rcases held with ⟨absent, none⟩ | rfl
  · have same := eq_of_reordered absent.isRigidField related
    exact ⟨labels, .refl _, Or.inl ⟨same ▸ absent, none⟩⟩
  · cases related with
    | some reordered =>
      obtain ⟨others, order, rfl⟩ := exists_labels_of_reordered (h _ rfl) reordered
      exact ⟨others, order, Or.inr rfl⟩

end Manifest

end PodLaunch
