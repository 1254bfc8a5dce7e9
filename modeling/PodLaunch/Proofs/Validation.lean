import Mathlib.Data.List.Forall2
import PodLaunch.Name

/-!
# When a validation succeeds

A validation of several parts succeeds exactly if that of each part does, and the value is made of
those of the parts. In an interchange document, a text is only ever given as such.
-/

namespace PodLaunch

/-! ## Interchange documents -/

/-- The documents of interchange texts: mappings are from distinct texts, and there are neither
bytes nor dates nor cycles. -/
inductive Document.IsInterchange : Document → Prop where
  /-- The absent value. -/
  | null : IsInterchange .null
  /-- A truth value. -/
  | bool (value : Bool) : IsInterchange (.bool value)
  /-- An integer. -/
  | int (value : Int) : IsInterchange (.int value)
  /-- A floating-point number. -/
  | float (value : Number.Binary64) : IsInterchange (.float value)
  /-- A text. -/
  | text (value : String) : IsInterchange (.text value)
  /-- A list of such documents. -/
  | list (items : List Document) (each : ∀ item ∈ items, IsInterchange item) :
    IsInterchange (.list items)
  /-- A mapping from distinct texts to such documents. -/
  | mapping (entries : List (Document × Document))
    (texts : ∀ entry ∈ entries, ∃ key, entry.1 = .text key)
    (distinct : (entries.map Prod.fst).Nodup)
    (each : ∀ entry ∈ entries, IsInterchange entry.2) : IsInterchange (.mapping entries)

namespace Document

attribute [simp] IsInterchange.null IsInterchange.bool IsInterchange.int IsInterchange.float
  IsInterchange.text

/-- A list is an interchange document exactly if its elements are. -/
@[simp]
theorem isInterchange_list_iff (items : List Document) :
    (Document.list items).IsInterchange ↔ ∀ item ∈ items, item.IsInterchange := by
  constructor
  · rintro (_ | _)
    assumption
  · exact .list items

/-- A mapping is an interchange document exactly if it is from distinct texts to such documents. -/
@[simp]
theorem isInterchange_mapping_iff (entries : List (Document × Document)) :
    (Document.mapping entries).IsInterchange ↔
      (∀ entry ∈ entries, ∃ key, entry.1 = .text key) ∧ (entries.map Prod.fst).Nodup ∧
        ∀ entry ∈ entries, entry.2.IsInterchange := by
  constructor
  · rintro (_ | _)
    exact ⟨‹_›, ‹_›, ‹_›⟩
  · rintro ⟨texts, distinct, each⟩
    exact .mapping entries texts distinct each

/-- The elements of an interchange document are those of a list. -/
theorem items?_eq_some_iff {d : Document} (h : d.IsInterchange) (items : List Document) :
    d.items? = some items ↔ d = .list items := by
  cases h <;> simp [items?, opened]

/-- A sequence in an interchange document is a list. -/
theorem sequence?_eq_some_iff {d : Document} (h : d.IsInterchange) (items : List Document) :
    d.sequence? = some items ↔ d = .list items := by
  cases h <;> simp [sequence?, opened]

/-- The entries of an interchange document are those of a mapping. -/
theorem entries?_eq_some_iff {d : Document} (h : d.IsInterchange)
    (entries : List (Document × Document)) :
    d.entries? = some entries ↔ d = .mapping entries := by
  cases h <;> simp [entries?, opened]

/-- The elements of a list in an interchange document are such documents. -/
theorem IsInterchange.of_mem_items {items : List Document} (h : (Document.list items).IsInterchange)
    {item : Document} (member : item ∈ items) : item.IsInterchange := by
  cases h with
  | list _ each => exact each item member

/-- The value under a key of a mapping in an interchange document is such a document. -/
theorem IsInterchange.of_get? {entries : Entries} (h : (Document.mapping entries).IsInterchange)
    {key : String} {value : Document} (found : entries.get? key = some value) :
    value.IsInterchange := by
  obtain ⟨entry, first, rfl⟩ := Option.map_eq_some_iff.1 found
  cases h with
  | mapping _ _ _ each => exact each entry (List.mem_of_find?_eq_some first)

end Document

/-- The value under a key of entries that begin with one under a text. -/
@[simp] theorem Entries.get?_cons (name key : String) (value : Document) (entries : Entries) :
    Entries.get? ((.text name, value) :: entries) key =
      if name = key then some value else entries.get? key := by
  by_cases same : name = key <;> simp [Entries.get?, Document.isText, same]

/-- There is nothing under a key of no entries. -/
@[simp] theorem Entries.get?_nil (key : String) : Entries.get? [] key = none :=
  rfl

/-! ## Parts of a validation -/

namespace Validated

variable {α β : Type}

/-- A changed value comes from a valid one. -/
theorem map_eq_valid_iff (f : α → β) (outcome : Validated α) (value : β) :
    outcome.map f = .valid value ↔ ∃ before, outcome = .valid before ∧ f before = value := by
  cases outcome <;> simp [map]

/-- A value that was checked further was valid before. -/
theorem andThen_eq_valid_iff (outcome : Validated α) (next : α → Validated β) (value : β) :
    outcome.andThen next = .valid value ↔
      ∃ before, outcome = .valid before ∧ next before = .valid value := by
  cases outcome <;> simp [andThen]

/-- Two parts are valid together exactly if each of them is. -/
theorem zip_eq_valid_iff (left : Validated α) (right : Validated β) (value : α × β) :
    left.zip right = .valid value ↔ left = .valid value.1 ∧ right = .valid value.2 := by
  cases left <;> cases right <;> simp [zip, Prod.ext_iff]

/-- A part is as valid as it is by itself. -/
theorem atStep_eq_valid_iff (step : PlaceStep) (outcome : Validated α) (value : α) :
    outcome.atStep step = .valid value ↔ outcome = .valid value := by
  cases outcome <;> simp [atStep]

/-- The elements of a list are valid together exactly if each of them is. -/
theorem allFrom_eq_valid_iff (check : Document → Validated α) (position : Nat)
    (items : List Document) (values : List α) :
    allFrom check position items = .valid values ↔
      List.Forall₂ (fun item value => check item = .valid value) items values := by
  induction items generalizing position values with
  | nil => cases values <;> simp [allFrom]
  | cons item items ih =>
    simp only [allFrom, map_eq_valid_iff, zip_eq_valid_iff, atStep_eq_valid_iff, ih]
    constructor
    · rintro ⟨⟨first, rest⟩, ⟨valid, others⟩, rfl⟩
      exact List.Forall₂.cons valid others
    · rintro (_ | ⟨valid, others⟩)
      exact ⟨(_, _), ⟨valid, others⟩, rfl⟩

end Validated

open Validated

/-! ## Checks of single values -/

/-- A text in an interchange document is valid exactly if it is given as such. -/
theorem checkText_eq_valid_iff {d : Document} (h : d.IsInterchange) (value : String) :
    checkText d = .valid value ↔ d = .text value := by
  cases h <;> simp [checkText, fault]

/-- A text that may be absent is valid exactly if it is absent or given as such. -/
theorem checkOptionalText_eq_valid_iff {d : Document} (h : d.IsInterchange)
    (value : Option String) :
    checkOptionalText d = .valid value ↔
      d = .null ∧ value = none ∨ ∃ text, d = .text text ∧ value = some text := by
  cases h <;> simp [checkOptionalText, checkText, fault, map, eq_comm]

/-- Elements are valid exactly if they are those of a list and each is valid. -/
theorem checkItems_eq_valid_iff {α : Type} {otherwise : Fault} {check : Document → Validated α}
    {d : Document} (h : d.IsInterchange) (values : List α) :
    checkItems otherwise check d = .valid values ↔
      ∃ items, d = .list items ∧
        List.Forall₂ (fun item value => check item = .valid value) items values := by
  unfold checkItems
  cases found : d.sequence? with
  | none =>
    have noList (items : List Document) : d ≠ .list items := fun same => by
      rw [← Document.sequence?_eq_some_iff h, found] at same
      cases same
    simp [noList, fault]
  | some items =>
    rw [Document.sequence?_eq_some_iff h] at found
    subst found
    simp [allFrom_eq_valid_iff]

/-- A name is checked exactly as a text that is not empty. -/
theorem Name.check_eq_valid_iff (field : String) (rule : Rule) (text : Validated String)
    (name : Name) : Name.check field rule text = .valid name ↔ text = .valid name.text := by
  simp only [Name.check, andThen_eq_valid_iff]
  constructor
  · rintro ⟨s, rfl, valid⟩
    split at valid
    · cases valid
    · cases valid
      rfl
  · rintro rfl
    refine ⟨name.text, rfl, ?_⟩
    rw [dif_neg name.text_ne]

/-- A text that may be absent is what it is written as. -/
theorem checkOptionalText_getD (value : Option String) :
    checkOptionalText ((value.map Document.text).getD .null) = .valid value := by
  cases value <;> rfl

/-- Values are the elements that they are written as, if each of them is. -/
theorem checkItems_map {α : Type} (otherwise : Fault) {check : Document → Validated α}
    {write : α → Document} (each : ∀ value, check (write value) = .valid value)
    (values : List α) : checkItems otherwise check (.list (values.map write)) = .valid values := by
  rw [checkItems, Document.sequence?_list]
  refine (allFrom_eq_valid_iff _ _ _ _).2 ?_
  rw [List.forall₂_map_left_iff, List.forall₂_same]
  exact fun value _ => each value

/-- The entries for a model are those of a mapping. -/
theorem checkModel_eq_valid_iff {d : Document} (h : d.IsInterchange) (model : String)
    (entries : Entries) : checkModel model d = .valid entries ↔ d = .mapping entries := by
  rw [← Document.entries?_eq_some_iff h]
  unfold checkModel
  cases d.entries? <;> simp [fault]

/-! ## Fields of a model -/

variable {α : Type} {entries : Entries} {name inner : String} {check : Document → Validated α}

/-- A field under two names is the one under its outer name, or else that under its inner name. -/
theorem Entries.field?_eq_some_iff (entries : Entries) (name inner : String) (value : Document) :
    entries.field? name inner = some value ↔
      entries.get? name = some value ∨
        entries.get? name = none ∧ entries.get? inner = some value := by
  unfold field?
  cases entries.get? name <;> simp

/-- A field of one name is the one under it. -/
theorem Entries.field?_self (entries : Entries) (name : String) :
    entries.field? name name = entries.get? name := by
  unfold field?
  cases entries.get? name <;> rfl

/-- A required field is valid exactly if it is present with a valid value. -/
theorem requiredAs_eq_valid_iff (value : α) :
    requiredAs entries name inner check = .valid value ↔
      ∃ d, entries.field? name inner = some d ∧ check d = .valid value := by
  unfold requiredAs
  cases entries.field? name inner <;> simp [atStep_eq_valid_iff]

/-- A field with a default is valid exactly if it is absent or present with a valid value. -/
theorem optionalAs_eq_valid_iff (default value : α) :
    optionalAs entries name inner default check = .valid value ↔
      entries.field? name inner = none ∧ value = default ∨
        ∃ d, entries.field? name inner = some d ∧ check d = .valid value := by
  unfold optionalAs
  cases entries.field? name inner <;> simp [atStep_eq_valid_iff, eq_comm]

/-- A required field of one name is valid exactly if it is present with a valid value. -/
theorem required_eq_valid_iff (value : α) :
    required entries name check = .valid value ↔
      ∃ d, entries.get? name = some d ∧ check d = .valid value := by
  rw [required, requiredAs_eq_valid_iff, Entries.field?_self]

/-- A field of one name with a default is valid exactly if it is absent or present with a valid
value. -/
theorem optional_eq_valid_iff (default value : α) :
    optional entries name default check = .valid value ↔
      entries.get? name = none ∧ value = default ∨
        ∃ d, entries.get? name = some d ∧ check d = .valid value := by
  rw [optional, optionalAs_eq_valid_iff, Entries.field?_self]

end PodLaunch
