import PodLaunch.Proofs.Manifest.Shape
import PodLaunch.Proofs.Sequence

/-!
# Which documents declare a pod

Each section, part and model of a pod is accepted exactly if it has its shape, and what is accepted
is what the document holds. Together they say which documents are pods, and which pods they are.
-/

namespace PodLaunch.Manifest

open Validated

/-! ## Sections -/

/-- A kind is that of a document exactly if the document names it. -/
theorem isKind_iff (kind : String) (document : Entries) :
    isKind kind document = true ↔ document.get? "kind" = some (.text kind) := by
  unfold isKind
  cases document.get? "kind" with
  | none => simp
  | some value => cases value <;> simp [Document.isText]

/-- A section that has to be a mapping is read exactly if it is one, or absent. -/
theorem mapping_eq_ok_iff (document : Entries) (place : String) {value : Option Document}
    (h : ∀ d, value = some d → d.IsInterchange) (entries : Entries) :
    mapping document place value = .ok entries ↔ IsSection value entries := by
  unfold mapping
  split
  · simp [IsSection, IsAbsent, eq_comm]
  · simp [IsSection, IsAbsent, eq_comm]
  · rename_i d notNull
    have interchange := h d rfl
    have absent : ¬ IsAbsent (some d) := by
      rintro (none | null)
      · cases none
      · exact notNull (Option.some.inj null)
    simp only [IsSection, absent, false_and, false_or, Option.some.injEq,
      ← Document.entries?_eq_some_iff interchange]
    cases d.entries? <;> simp

/-- Elements are read as mappings exactly if each of them is one. -/
theorem mappingsFrom_eq_ok_iff (document : Entries) (place : String) (position : Nat)
    {items : List Document} (h : ∀ item ∈ items, item.IsInterchange) (entries : List Entries) :
    mappingsFrom document place position items = .ok entries ↔
      items = entries.map .mapping := by
  induction items generalizing position entries with
  | nil => cases entries <;> simp [mappingsFrom]
  | cons item items ih =>
    have interchange := h item List.mem_cons_self
    have rest (others : List Entries) := ih (position + 1)
      (fun other member => h other (List.mem_cons_of_mem _ member)) others
    simp only [mappingsFrom]
    cases found : item.entries? with
    | none =>
      have noMapping (own : Entries) : item ≠ .mapping own := fun same => by
        rw [← Document.entries?_eq_some_iff interchange, found] at same
        cases same
      cases entries <;> simp [noMapping]
    | some own =>
      rw [Document.entries?_eq_some_iff interchange] at found
      simp only [bind_eq_ok_iff, rest, pure, Except.pure, Except.ok.injEq]
      constructor
      · rintro ⟨others, rfl, rfl⟩
        rw [found, List.map_cons]
      · intro same
        cases entries with
        | nil => cases same
        | cons first others =>
          simp only [List.map_cons, List.cons.injEq, found, Document.mapping.injEq] at same
          exact ⟨others, same.2, by rw [same.1]⟩

/-- A section that has to be a list of mappings is read exactly if it is one, or absent. -/
theorem entryList_eq_ok_iff (document : Entries) (place : String) {value : Option Document}
    (h : ∀ d, value = some d → d.IsInterchange) (entries : List Entries) :
    entryList document place value = .ok entries ↔ IsEntryList value entries := by
  unfold entryList
  split
  · simp [IsEntryList, IsAbsent, eq_comm]
  · simp [IsEntryList, IsAbsent, eq_comm]
  · rename_i d notNull
    have interchange := h d rfl
    have absent : ¬ IsAbsent (some d) := by
      rintro (none | null)
      · cases none
      · exact notNull (Option.some.inj null)
    simp only [IsEntryList, absent, false_and, false_or, Option.some.injEq,
      ← Document.items?_eq_some_iff interchange]
    cases found : d.items? with
    | none => simp
    | some items =>
      rw [Document.items?_eq_some_iff interchange] at found
      subst found
      rw [mappingsFrom_eq_ok_iff document place 0 fun item member =>
        interchange.of_mem_items member, Option.some.injEq]

/-! ## Parts that are validated -/

/-- What is accepted is what is valid. -/
theorem accept_eq_ok_iff {α : Type} (document : Entries) (outcome : Validated α) (value : α) :
    accept document outcome = .ok value ↔ outcome = .valid value := by
  cases outcome <;> simp [accept]

/-- Parts are accepted exactly if each of them is valid. -/
theorem acceptAll_eq_ok_iff {α : Type} (document : Entries) (validate : Document → Validated α)
    (parts : List Document) (values : List α) :
    acceptAll document validate parts = .ok values ↔
      List.Forall₂ (fun part value => validate part = .valid value) parts values := by
  simp only [acceptAll, mapM_eq_ok_iff, accept_eq_ok_iff]

/-- Parts that stand for some entries are accepted exactly if each of them is valid. -/
theorem acceptAll_map_eq_ok_iff {α : Type} (document : Entries)
    (validate : Document → Validated α) (part : Entries → Document) (own : List Entries)
    (values : List α) :
    acceptAll document validate (own.map part) = .ok values ↔
      List.Forall₂ (fun entry value => validate (part entry) = .valid value) own values := by
  rw [acceptAll_eq_ok_iff, List.forall₂_map_left_iff]

/-- The volume that a volume stands for. -/
def boundVolume (volume source : Entries) : Document :=
  .mapping [(.text "name", valueOrNull volume "name"),
    (.text "configMapRef", valueOrNull source "name")]

/-- A volume stands for one with a bundle exactly if its source is a mapping that is not empty. -/
theorem volumePart_eq_ok_iff (document : Entries) (position : Nat) {volume : Entries}
    (h : (Document.mapping volume).IsInterchange) (part : Document) :
    volumePart document position volume = .ok part ↔
      ∃ source : Entries, volume.get? "configMap" = some (.mapping source) ∧ source ≠ [] ∧
        part = boundVolume volume source := by
  simp only [volumePart, bind_eq_ok_iff,
    mapping_eq_ok_iff document _ fun d found => h.of_get? found]
  constructor
  · rintro ⟨source, section_, accepted⟩
    split at accepted
    · cases accepted
    · rename_i filled
      have filled : source ≠ [] := fun empty => filled (by rw [empty]; rfl)
      rcases section_ with ⟨_, empty⟩ | found
      · exact absurd empty filled
      · exact ⟨source, found, filled, (Except.ok.inj accepted).symm⟩
  · rintro ⟨source, found, filled, rfl⟩
    refine ⟨source, Or.inr found, ?_⟩
    rw [if_neg (by simpa using filled)]
    rfl

/-- Volumes stand for others exactly if each of them does. -/
theorem volumeParts_eq_ok_iff (document : Entries) (position : Nat) {volumes : List Entries}
    (h : ∀ volume ∈ volumes, (Document.mapping volume).IsInterchange) (parts : List Document) :
    volumeParts document position volumes = .ok parts ↔
      List.Forall₂ (fun (volume : Entries) part => ∃ source : Entries,
        volume.get? "configMap" = some (.mapping source) ∧ source ≠ [] ∧
          part = boundVolume volume source) volumes parts := by
  induction volumes generalizing position parts with
  | nil => cases parts <;> simp [volumeParts]
  | cons volume volumes ih =>
    have first := volumePart_eq_ok_iff document position (h volume List.mem_cons_self)
    have rest (others : List Document) := ih (position + 1)
      (fun other member => h other (List.mem_cons_of_mem _ member)) others
    simp only [volumeParts, bind_eq_ok_iff, first, rest, pure, Except.pure, Except.ok.injEq]
    constructor
    · rintro ⟨part, found, others, all, rfl⟩
      exact List.Forall₂.cons found all
    · rintro (_ | ⟨found, all⟩)
      exact ⟨_, found, _, all, rfl⟩

/-! ## Values with a default -/

variable {entries : Entries} {key : String}

/-- An interchange document gives way to a default exactly if it is an empty value. -/
theorem isFalsy_iff {d : Document} (h : d.IsInterchange) :
    d.isFalsy = true ↔ IsEmptyValue (some d) := by
  constructor
  · intro falsy
    cases h with
    | null => exact .null
    | bool value =>
      cases value with
      | false => exact .falsehood
      | true => cases falsy
    | int value =>
      obtain rfl : value = 0 := by simpa [Document.isFalsy] using falsy
      exact .zero
    | float value => exact .floatZero value falsy
    | text value =>
      obtain rfl : value = "" := by simpa [Document.isFalsy] using falsy
      exact .text
    | list items each =>
      obtain rfl : items = [] := by simpa [Document.isFalsy] using falsy
      exact .list
    | mapping own texts distinct each =>
      obtain rfl : own = [] := by simpa [Document.isFalsy] using falsy
      exact .mapping
  · rintro (_ | _)
    all_goals first | assumption | rfl

/-- A value with a default is the default where there is an empty one, and else the value. -/
theorem valueOr_eq (key : String) (h : (Document.mapping entries).IsInterchange)
    (default : Document) :
    IsEmptyValue (entries.get? key) ∧ valueOr default entries key = default ∨
      ¬ IsEmptyValue (entries.get? key) ∧
        entries.get? key = some (valueOr default entries key) := by
  unfold valueOr
  cases found : entries.get? key with
  | none => exact Or.inl ⟨.leftOut, rfl⟩
  | some value =>
    rw [← isFalsy_iff (h.of_get? found)]
    cases falsy : value.isFalsy <;> simp [falsy]

/-- A text or the absent value is a valid text exactly if there is one. -/
theorem checkText_valueOrNull_iff (h : (Document.mapping entries).IsInterchange) (text : String) :
    checkText (valueOrNull entries key) = .valid text ↔ entries.get? key = some (.text text) := by
  unfold valueOrNull
  cases found : entries.get? key with
  | none => simp [checkText_eq_valid_iff .null]
  | some value => simp [checkText_eq_valid_iff (h.of_get? found)]

/-- A text or the empty one is a valid text exactly if it is a name. -/
theorem checkText_valueOrEmpty_iff (h : (Document.mapping entries).IsInterchange)
    (text : String) :
    checkText (valueOrEmpty entries key) = .valid text ↔ IsName (entries.get? key) text := by
  unfold valueOrEmpty
  cases found : entries.get? key with
  | none => simp [checkText_eq_valid_iff (.text ""), IsName, eq_comm]
  | some value => simp [checkText_eq_valid_iff (h.of_get? found), IsName]

/-- A text or the absent value is a valid optional text exactly if it is one. -/
theorem checkOptionalText_valueOrNull_iff (h : (Document.mapping entries).IsInterchange)
    (text : Option String) :
    checkOptionalText (valueOrNull entries key) = .valid text ↔
      IsOptionalText (entries.get? key) text := by
  unfold valueOrNull
  cases found : entries.get? key with
  | none => simp [checkOptionalText_eq_valid_iff .null, IsOptionalText, IsAbsent]
  | some value =>
    simp [checkOptionalText_eq_valid_iff (h.of_get? found), IsOptionalText, IsAbsent]

/-- A list with the empty one as its default holds valid elements exactly if its own elements are
valid. -/
theorem checkTuple_valueOr_iff {α : Type} (h : (Document.mapping entries).IsInterchange)
    (check : Document → Validated α) (values : List α) :
    checkTuple check (valueOr (.list []) entries key) = .valid values ↔
      ∃ items, IsItems (entries.get? key) items ∧
        List.Forall₂ (fun item value => check item = .valid value) items values := by
  rcases valueOr_eq key h (.list []) with ⟨empty, default⟩ | ⟨filled, found⟩
  · have noList (items : List Document) (given : entries.get? key = some (.list items)) :
        items = [] := by
      rw [given] at empty
      cases empty
      rfl
    rw [default, checkTuple, checkItems_eq_valid_iff (.list [] (by simp))]
    constructor
    · rintro ⟨items, same, all⟩
      cases same
      exact ⟨[], Or.inl ⟨empty, rfl⟩, all⟩
    · rintro ⟨items, ⟨_, rfl⟩ | given, all⟩
      · exact ⟨[], rfl, all⟩
      · exact ⟨items, by rw [noList items given], all⟩
  · simp only [IsItems, filled, false_and, false_or, checkTuple,
      checkItems_eq_valid_iff (h.of_get? found)]
    rw [found]
    simp only [Option.some.injEq]

/-- The elements that a field holds are interchange documents. -/
theorem IsItems.isInterchange {items : List Document}
    (h : (Document.mapping entries).IsInterchange) (held : IsItems (entries.get? key) items) :
    ∀ item ∈ items, item.IsInterchange := by
  intro item member
  rcases held with ⟨_, rfl⟩ | found
  · cases member
  · exact (h.of_get? found).of_mem_items member

/-- A list with the empty one as its default holds valid elements exactly if its own elements are
what makes such elements. -/
theorem checkTuple_valueOr_image_iff {α β : Type} (key : String)
    (h : (Document.mapping entries).IsInterchange)
    {check : Document → Validated α} {image : β → Document} {holds : β → α → Prop}
    (valid : ∀ item, item.IsInterchange → ∀ value,
      check item = .valid value ↔ ∃ source, item = image source ∧ holds source value)
    (values : List α) :
    checkTuple check (valueOr (.list []) entries key) = .valid values ↔
      ∃ sources, IsItems (entries.get? key) (sources.map image) ∧
        List.Forall₂ holds sources values := by
  rw [checkTuple_valueOr_iff h]
  constructor
  · rintro ⟨items, held, all⟩
    rw [forall₂_congr_of_mem fun item member => valid item (held.isInterchange h item member),
      forall₂_image_iff] at all
    obtain ⟨sources, rfl, all⟩ := all
    exact ⟨sources, held, all⟩
  · rintro ⟨sources, held, all⟩
    refine ⟨sources.map image, held, ?_⟩
    rw [forall₂_congr_of_mem fun item member => valid item (held.isInterchange h item member),
      forall₂_image_iff]
    exact ⟨sources, rfl, all⟩

/-- Labels with none as their default are those that a field holds. -/
theorem checkLabels_valueOr_iff (h : (Document.mapping entries).IsInterchange) (labels : Labels) :
    checkLabels (valueOr (.mapping []) entries key) = .valid labels ↔
      IsSettings (entries.get? key) labels.entries := by
  rcases valueOr_eq key h (.mapping []) with ⟨empty, default⟩ | ⟨filled, found⟩
  · have noMapping (own : List (Document × Document))
        (given : entries.get? key = some (.mapping own)) : own = [] := by
      rw [given] at empty
      cases empty
      rfl
    rw [default, checkLabels_eq_valid_iff (.mapping [] (by simp) (by simp) (by simp))]
    simp only [Labels.toDocument, Document.mapping.injEq, eq_comm (a := []),
      List.map_eq_nil_iff]
    constructor
    · exact fun none => Or.inl ⟨empty, none⟩
    · rintro (⟨_, none⟩ | given)
      · exact none
      · simpa [settingEntries] using noMapping _ given
  · simp only [IsSettings, filled, false_and, false_or,
      checkLabels_eq_valid_iff (h.of_get? found)]
    rw [found]
    simp only [Option.some.injEq]
    rfl

/-! ## Models -/

/-- A volume with a bundle is valid exactly if it is declared so. -/
theorem validate_boundVolume_iff {volume source : Entries}
    (volumeInterchange : (Document.mapping volume).IsInterchange)
    (sourceInterchange : (Document.mapping source).IsInterchange) (value : ConfigVolume) :
    ConfigVolume.validate (boundVolume volume source) = .valid value ↔
      volume.get? "name" = some (.text value.name.text) ∧
        source.get? "name" = some (.text value.bundle.text) := by
  have fields : checkModel "ConfigVolume" (boundVolume volume source) =
      .valid [(.text "name", valueOrNull volume "name"),
        (.text "configMapRef", valueOrNull source "name")] := rfl
  simp only [ConfigVolume.validate, fields, andThen, map_eq_valid_iff, zip_eq_valid_iff,
    Name.check_eq_valid_iff, required_eq_valid_iff, requiredAs_eq_valid_iff,
    Entries.field?_eq_some_iff, Entries.get?_cons]
  simp only [↓reduceIte, String.reduceEq, Option.some.injEq, exists_eq_left',
    checkText_valueOrNull_iff volumeInterchange, reduceCtorEq, false_and, or_false,
    checkText_valueOrNull_iff sourceInterchange]
  constructor
  · rintro ⟨⟨name, bundle⟩, texts, rfl⟩
    exact texts
  · exact fun texts => ⟨(value.name, value.bundle), texts, rfl⟩

/-- A mount is valid exactly if it is a mapping that declares it. -/
theorem validate_mount_iff {d : Document} (h : d.IsInterchange) (mount : VolumeMount) :
    VolumeMount.validate d = .valid mount ↔
      ∃ entries, d = .mapping entries ∧ MountHolds entries mount := by
  simp only [VolumeMount.validate, andThen_eq_valid_iff, checkModel_eq_valid_iff h,
    map_eq_valid_iff, zip_eq_valid_iff, required_eq_valid_iff, VolumeMount.checkPath,
    requiredAs_eq_valid_iff, Entries.field?_eq_some_iff]
  refine exists_congr fun entries => and_congr_right ?_
  rintro rfl
  have text (key : String) (s : String) :
      (∃ value, Entries.get? entries key = some value ∧ checkText value = .valid s) ↔
        Entries.get? entries key = some (.text s) := by
    constructor
    · rintro ⟨value, found, valid⟩
      rwa [(checkText_eq_valid_iff (h.of_get? found) s).1 valid] at found
    · exact fun found => ⟨.text s, found, rfl⟩
  have path (s : String) :
      (∃ value, (Entries.get? entries "mountPath" = some value ∨
          Entries.get? entries "mountPath" = none ∧
            Entries.get? entries "mount_path" = some value) ∧ checkText value = .valid s) ↔
        IsMountPath entries s := by
    rw [IsMountPath, ← text "mountPath", ← text "mount_path", ← exists_and_left, ← exists_or]
    exact exists_congr fun value => by rw [or_and_right, and_assoc]
  simp only [text, path]
  constructor
  · rintro ⟨⟨name, found⟩, ⟨named, s, atPath, absolute⟩, rfl⟩
    split at absolute
    · cases absolute
      exact ⟨named, atPath⟩
    · cases absolute
  · rintro ⟨named, atPath⟩
    refine ⟨(mount.name, ⟨mount.path, mount.absolute⟩), ⟨named, mount.path, atPath, ?_⟩, rfl⟩
    rw [dif_pos mount.absolute]

/-- A container is valid exactly if it is declared so. -/
theorem validate_containerPart_iff {entries : Entries}
    (h : (Document.mapping entries).IsInterchange) (container : Container) :
    Container.validate (containerPart entries) = .valid container ↔
      ContainerHolds entries container := by
  have fields : checkModel "ContainerSpec" (containerPart entries) =
      .valid [(.text "name", valueOrEmpty entries "name"),
        (.text "image", valueOrNull entries "image"),
        (.text "command", valueOr (.list []) entries "command"),
        (.text "volumeMounts", valueOr (.list []) entries "volumeMounts")] := rfl
  have arguments (values : List String) :
      checkTuple checkText (valueOr (.list []) entries "command") = .valid values ↔
        IsItems (entries.get? "command") (values.map .text) := by
    have text (item : Document) (each : item.IsInterchange) (value : String) :
        checkText item = .valid value ↔ ∃ source, item = .text source ∧ source = value := by
      simp [checkText_eq_valid_iff each]
    rw [checkTuple_valueOr_image_iff _ h text]
    simp [List.forall₂_eq_eq_eq]
  have mounts := checkTuple_valueOr_image_iff "volumeMounts" h
    fun item each value => validate_mount_iff each value
  simp only [Container.validate, fields, andThen, map_eq_valid_iff, zip_eq_valid_iff,
    required_eq_valid_iff, optional_eq_valid_iff, optionalAs_eq_valid_iff,
    Entries.get?_cons, Entries.field?]
  simp only [↓reduceIte, String.reduceEq, Option.some.injEq, exists_eq_left', reduceCtorEq,
    false_and, false_or, checkText_valueOrEmpty_iff h,
    checkOptionalText_valueOrNull_iff h, arguments, mounts]
  constructor
  · rintro ⟨⟨⟨⟨name, image⟩, command⟩, mounts⟩, ⟨⟨⟨named, pictured⟩, commanded⟩, mounted⟩, rfl⟩
    exact ⟨named, pictured, commanded, mounted⟩
  · rintro ⟨named, pictured, commanded, mounted⟩
    exact ⟨(((container.name, container.image), container.command), container.mounts),
      ⟨⟨⟨named, pictured⟩, commanded⟩, mounted⟩, rfl⟩

/-- Volumes are accepted for a pod exactly as they are, and then have distinct names. -/
theorem checkVolumes_eq_valid_iff (volumes : Validated (List ConfigVolume))
    (checked : { volumes : List ConfigVolume // (volumeNames volumes).Nodup }) :
    checkVolumes volumes = .valid checked ↔ volumes = .valid checked.val := by
  simp only [checkVolumes, andThen_eq_valid_iff]
  constructor
  · rintro ⟨values, rfl, valid⟩
    split at valid
    · cases valid
      rfl
    · cases valid
  · rintro rfl
    refine ⟨checked.val, rfl, ?_⟩
    have distinct : firstRepeated? [] (volumeNames checked.val) = none :=
      (firstRepeated?_eq_none_iff [] _).2 ⟨checked.property, by simp⟩
    split
    · rfl
    · rename_i repeated
      rw [distinct] at repeated
      cases repeated

/-- Containers are accepted for a pod exactly as they are, and then there is one. -/
theorem checkContainers_eq_valid_iff (containers : Validated (List Container))
    (checked : { containers : List Container // containers ≠ [] }) :
    checkContainers containers = .valid checked ↔ containers = .valid checked.val := by
  simp only [checkContainers, andThen_eq_valid_iff]
  constructor
  · rintro ⟨values, rfl, valid⟩
    split at valid
    · cases valid
    · cases valid
      rfl
  · rintro rfl
    refine ⟨checked.val, rfl, ?_⟩
    rw [dif_neg checked.property]

/-- A pod is made of valid parts exactly if the parts are its own. -/
theorem ofParts_eq_valid_iff (name : Validated String) (labels : Validated Labels)
    (tolerations : Validated (List Toleration)) (volumes : Validated (List ConfigVolume))
    (containers : Validated (List Container)) (pod : Pod) :
    Pod.ofParts name labels tolerations volumes containers = .valid pod ↔
      name = .valid pod.name ∧ labels = .valid pod.labels ∧
        tolerations = .valid pod.tolerations ∧ volumes = .valid pod.volumes ∧
          containers = .valid pod.containers := by
  simp only [Pod.ofParts, map_eq_valid_iff, zip_eq_valid_iff, checkVolumes_eq_valid_iff,
    checkContainers_eq_valid_iff]
  constructor
  · rintro ⟨⟨⟨⟨⟨_, _⟩, _⟩, _⟩, _⟩, ⟨⟨⟨⟨isName, isLabels⟩, isTolerations⟩, isVolumes⟩,
      isContainers⟩, rfl⟩
    exact ⟨isName, isLabels, isTolerations, isVolumes, isContainers⟩
  · rintro ⟨isName, isLabels, isTolerations, isVolumes, isContainers⟩
    exact ⟨((((pod.name, pod.labels), pod.tolerations), ⟨pod.volumes, pod.distinct_volumes⟩),
      ⟨pod.containers, pod.containers_ne⟩),
      ⟨⟨⟨⟨isName, isLabels⟩, isTolerations⟩, isVolumes⟩, isContainers⟩, rfl⟩

/-! ## Whole documents -/

/-- The entries of a section are those of an interchange document. -/
theorem IsSection.isInterchange {own : Entries} (h : (Document.mapping entries).IsInterchange)
    (held : IsSection (entries.get? key) own) : (Document.mapping own).IsInterchange := by
  rcases held with ⟨_, rfl⟩ | found
  · exact .mapping [] (by simp) (by simp) (by simp)
  · exact h.of_get? found

/-- The mappings of a section are interchange documents. -/
theorem IsEntryList.isInterchange {list : List Entries}
    (h : (Document.mapping entries).IsInterchange) (held : IsEntryList (entries.get? key) list) :
    ∀ own ∈ list, (Document.mapping own).IsInterchange := by
  intro own member
  rcases held with ⟨_, rfl⟩ | found
  · cases member
  · exact (h.of_get? found).of_mem_items (List.mem_map_of_mem member)

/-- Volumes stand for valid ones exactly if they are declared so. -/
theorem exists_volumeParts_iff (document : Entries) {own : List Entries}
    (h : ∀ volume ∈ own, (Document.mapping volume).IsInterchange) (volumes : List ConfigVolume) :
    (∃ parts, volumeParts document 0 own = .ok parts ∧
        acceptAll document ConfigVolume.validate parts = .ok volumes) ↔
      List.Forall₂ VolumeHolds own volumes := by
  simp only [volumeParts_eq_ok_iff document 0 h, acceptAll_eq_ok_iff, exists_forall₂_comp_iff]
  refine forall₂_congr_of_mem (fun entry member value => ?_) volumes
  constructor
  · rintro ⟨part, ⟨source, found, _, rfl⟩, valid⟩
    rw [validate_boundVolume_iff (h entry member) ((h entry member).of_get? found)] at valid
    exact ⟨valid.1, source, found, valid.2⟩
  · rintro ⟨named, source, found, backed⟩
    have filled : source ≠ [] := fun empty => by
      rw [empty] at backed
      cases backed
    refine ⟨boundVolume entry source, ⟨source, found, filled, rfl⟩, ?_⟩
    rw [validate_boundVolume_iff (h entry member) ((h entry member).of_get? found)]
    exact ⟨named, backed⟩

/-- Containers are accepted exactly if they are declared so. -/
theorem acceptAll_containerPart_iff (document : Entries) {own : List Entries}
    (h : ∀ container ∈ own, (Document.mapping container).IsInterchange)
    (containers : List Container) :
    acceptAll document Container.validate (own.map containerPart) = .ok containers ↔
      List.Forall₂ ContainerHolds own containers := by
  rw [acceptAll_map_eq_ok_iff]
  exact forall₂_congr_of_mem
    (fun entry member value => validate_containerPart_iff (h entry member) value) containers

/-- A document is read as a pod exactly if it is of that kind and holds that pod. -/
theorem parsePod_eq_ok_iff {document : Entries}
    (h : (Document.mapping document).IsInterchange) (pod : Pod) :
    parsePod document = .ok pod ↔
      document.get? "kind" = some (.text "Pod") ∧ PodHolds document pod := by
  rw [← isKind_iff]
  cases kind : isKind "Pod" document with
  | false => simp [parsePod, kind, throw, throwThe, MonadExceptOf.throw, bind, Except.bind]
  | true =>
    simp only [parsePod, kind, Bool.not_true, Bool.false_eq_true, ↓reduceIte, bind_eq_ok_iff,
      mapping_eq_ok_iff document _ fun d found => h.of_get? found, accept_eq_ok_iff,
      ofParts_eq_valid_iff, atStep_eq_valid_iff, valid.injEq, true_and]
    constructor
    · rintro ⟨metadata, isMetadata, spec, isSpec, volumes, readVolumes, parts, readParts,
        tolerations, readTolerations, containers, readContainers, _, acceptTolerations, _,
        acceptVolumes, _, acceptContainers, named, labelled, rfl, rfl, rfl⟩
      have metadataEach := isMetadata.isInterchange h
      have specEach := isSpec.isInterchange h
      rw [entryList_eq_ok_iff document _ fun d found => specEach.of_get? found] at readVolumes
      rw [entryList_eq_ok_iff document _ fun d found => specEach.of_get? found] at readTolerations
      rw [entryList_eq_ok_iff document _ fun d found => specEach.of_get? found] at readContainers
      rw [checkText_valueOrEmpty_iff metadataEach] at named
      rw [checkLabels_valueOr_iff metadataEach] at labelled
      rw [acceptAll_map_eq_ok_iff] at acceptTolerations
      rw [acceptAll_containerPart_iff _ (readContainers.isInterchange specEach)]
        at acceptContainers
      have heldVolumes := (exists_volumeParts_iff document (readVolumes.isInterchange specEach)
        pod.volumes).1 ⟨parts, readParts, acceptVolumes⟩
      exact ⟨⟨metadata, isMetadata, named, labelled⟩, spec, isSpec,
        ⟨volumes, readVolumes, heldVolumes⟩, ⟨tolerations, readTolerations, acceptTolerations⟩,
        containers, readContainers, acceptContainers⟩
    · rintro ⟨⟨metadata, isMetadata, named, labelled⟩, spec, isSpec,
        ⟨volumes, readVolumes, heldVolumes⟩, ⟨tolerations, readTolerations, acceptTolerations⟩,
        containers, readContainers, acceptContainers⟩
      have metadataEach := isMetadata.isInterchange h
      have specEach := isSpec.isInterchange h
      obtain ⟨parts, readParts, acceptVolumes⟩ := (exists_volumeParts_iff document
        (readVolumes.isInterchange specEach) pod.volumes).2 heldVolumes
      rw [← acceptAll_containerPart_iff document (readContainers.isInterchange specEach)]
        at acceptContainers
      rw [← acceptAll_map_eq_ok_iff document Toleration.validate] at acceptTolerations
      rw [← entryList_eq_ok_iff document "spec.volumes"
        fun d found => specEach.of_get? found] at readVolumes
      rw [← entryList_eq_ok_iff document "spec.tolerations"
        fun d found => specEach.of_get? found] at readTolerations
      rw [← entryList_eq_ok_iff document "spec.containers"
        fun d found => specEach.of_get? found] at readContainers
      rw [← checkText_valueOrEmpty_iff metadataEach] at named
      rw [← checkLabels_valueOr_iff metadataEach] at labelled
      exact ⟨metadata, isMetadata, spec, isSpec, volumes, readVolumes, parts, readParts,
        tolerations, readTolerations, containers, readContainers, _, acceptTolerations, _,
        acceptVolumes, _, acceptContainers, named, labelled, rfl, rfl, rfl⟩

end PodLaunch.Manifest
