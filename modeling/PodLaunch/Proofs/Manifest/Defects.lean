import PodLaunch.Proofs.Manifest.Pod
import PodLaunch.Proofs.Unmatchable

/-!
# Defects of a document

What is wrong with a document is reported as a failure of the manifest. The report shows the kind
and the name of the document, and at most one value that stands in it, so that it can be made for
every document that can be shown.
-/

namespace PodLaunch

namespace Document

/-- All elements are shown exactly if each of them is. -/
theorem areShown_iff (items : List Document) :
    areShown items = true ↔ ∀ item ∈ items, item.isShown = true := by
  induction items with
  | nil => simp [areShown]
  | cons item items ih => simp [areShown, ih]

/-- All entries are shown exactly if their keys and values are. -/
theorem areEntriesShown_iff (entries : List (Document × Document)) :
    areEntriesShown entries = true ↔
      ∀ entry ∈ entries, entry.1.isShown = true ∧ entry.2.isShown = true := by
  induction entries with
  | nil => simp [areEntriesShown]
  | cons entry entries ih => simp [areEntriesShown, ih]

/-- A part of an interchange document is such a document itself, and is shown if the whole is. -/
structure IsPartOf (part whole : Document) : Prop where
  /-- It is an interchange document. -/
  isInterchange : part.IsInterchange
  /-- It can be shown if the whole can. -/
  isShown : whole.isShown = true → part.isShown = true

namespace IsPartOf

variable {whole : Document}

/-- An interchange document is a part of itself. -/
theorem refl (h : whole.IsInterchange) : whole.IsPartOf whole :=
  ⟨h, id⟩

/-- The absent value counts as a part. -/
theorem null : Document.null.IsPartOf whole :=
  ⟨.null, fun _ => rfl⟩

/-- A mapping without entries counts as a part. -/
theorem empty : (Document.mapping []).IsPartOf whole :=
  ⟨.mapping [] (by simp) (by simp) (by simp), fun _ => rfl⟩

/-- The value under a key is a part. -/
theorem of_get? {entries : Entries} (part : (Document.mapping entries).IsPartOf whole)
    {key : String} {value : Document} (found : entries.get? key = some value) :
    value.IsPartOf whole := by
  refine ⟨part.isInterchange.of_get? found, ?_⟩
  intro shown
  have each := (areEntriesShown_iff entries).1 (part.isShown shown)
  have ⟨entry, first, same⟩ := Option.map_eq_some_iff.1 found
  rw [← same]
  exact (each entry (List.mem_of_find?_eq_some first)).2

/-- An element of a list is a part. -/
theorem of_mem_items {items : List Document} (part : (Document.list items).IsPartOf whole)
    {item : Document} (member : item ∈ items) : item.IsPartOf whole := by
  refine ⟨part.isInterchange.of_mem_items member, ?_⟩
  intro shown
  exact (areShown_iff items).1 (part.isShown shown) item member

end IsPartOf

end Document

namespace Manifest

/-! ## Reports of defects -/

/-- What is wrong with a document: its report shows, besides the description of the document, at
most a value that is a part of it. -/
inductive IsDefect (document : Entries) : DocumentError → Prop where
  /-- The document is of another kind. -/
  | unexpectedKind (expected : String) : IsDefect document (.unexpectedKind expected document)
  /-- A part is not a mapping. -/
  | notMapping (place : String) {value : Document} (part : value.IsPartOf (.mapping document)) :
    IsDefect document (.notMapping place document value)
  /-- A part is not a list. -/
  | notList (place : String) {value : Document} (part : value.IsPartOf (.mapping document)) :
    IsDefect document (.notList place document value)
  /-- A volume is not backed by a bundle. -/
  | noBundle {volume : Document} (part : volume.IsPartOf (.mapping document)) :
    IsDefect document (.noBundle volume document)
  /-- A part breaks the rules of its model. -/
  | invalid (problems : List Problem) : IsDefect document (.invalid document problems)

variable {document : Entries}

/-- A defect is reported as a failure of the manifest. -/
theorem IsDefect.category_failure {error : DocumentError} (defect : IsDefect document error) :
    error.failure.category = .manifest := by
  cases defect <;> rfl

/-- A document that can be shown can be described. -/
theorem canDescribe_of_isShown (h : (Document.mapping document).IsInterchange)
    (shown : (Document.mapping document).isShown = true) : canDescribe document = true := by
  have whole := Document.IsPartOf.refl h
  have kind (value : Document) (found : document.get? "kind" = some value) :
      value.isShown = true :=
    (whole.of_get? found).isShown shown
  have name (value : Document) (found : metadataName? document = some value) :
      value.isShown = true := by
    unfold metadataName? at found
    simp only [Option.bind_eq_bind, Option.bind_eq_some_iff] at found
    have ⟨metadata, foundMetadata, entries, isEntries, foundName⟩ := found
    have part := whole.of_get? foundMetadata
    rw [Document.entries?_eq_some_iff part.isInterchange] at isEntries
    subst isEntries
    exact (part.of_get? foundName).isShown shown
  rw [canDescribe, Bool.and_eq_true]
  constructor
  · cases found : document.get? "kind" with
    | none => rfl
    | some value => exact kind value found
  · cases found : metadataName? document with
    | none => rfl
    | some value => exact name value found

/-- A defect of a document that can be shown can be reported. -/
theorem IsDefect.canReport {error : DocumentError} (defect : IsDefect document error)
    (h : (Document.mapping document).IsInterchange)
    (shown : (Document.mapping document).isShown = true) : error.canReport = true := by
  have described := canDescribe_of_isShown h shown
  cases defect with
  | unexpectedKind expected => exact described
  | notMapping place part => exact (Bool.and_eq_true _ _).mpr ⟨described, part.isShown shown⟩
  | notList place part => exact (Bool.and_eq_true _ _).mpr ⟨described, part.isShown shown⟩
  | noBundle part => exact (Bool.and_eq_true _ _).mpr ⟨described, part.isShown shown⟩
  | invalid problems => exact described

/-! ## Outcomes that fail with defects only -/

/-- An outcome fails only with errors of some sort. -/
def FailsOnlyWith {α : Type} (sort : DocumentError → Prop) (outcome : Except DocumentError α) :
    Prop :=
  ∀ error, outcome = .error error → sort error

section Outcomes

variable {α β : Type} {sort : DocumentError → Prop}

/-- A value does not fail. -/
theorem failsOnlyWith_ok (value : α) : FailsOnlyWith sort (.ok value) := by
  intro error failed
  cases failed

/-- An error fails with itself. -/
theorem failsOnlyWith_error {error : DocumentError} (h : sort error) :
    FailsOnlyWith sort (.error error : Except DocumentError α) := by
  intro other failed
  cases failed
  exact h

/-- Two steps fail only as the first one does, or the second one with the result of the first. -/
theorem FailsOnlyWith.bind {first : Except DocumentError α} {next : α → Except DocumentError β}
    (fails : FailsOnlyWith sort first)
    (rest : ∀ value, first = .ok value → FailsOnlyWith sort (next value)) :
    FailsOnlyWith sort (first >>= next) := by
  cases outcome : first with
  | error error => exact failsOnlyWith_error (fails error outcome)
  | ok value => exact rest value outcome

/-- What fails only in one way fails only in a more general one. -/
theorem FailsOnlyWith.imp {other : DocumentError → Prop} {outcome : Except DocumentError α}
    (fails : FailsOnlyWith sort outcome) (weaker : ∀ error, sort error → other error) :
    FailsOnlyWith other outcome := by
  intro error failed
  exact weaker error (fails error failed)

/-- Steps for all values fail only as one of them does. -/
theorem failsOnlyWith_mapM {step : α → Except DocumentError β}
    (each : ∀ value, FailsOnlyWith sort (step value)) (values : List α) :
    FailsOnlyWith sort (values.mapM step) := by
  intro error failed
  have ⟨_, value, _, _, failure, _⟩ := (mapM_eq_error_iff step values error).1 failed
  exact each value error failure

end Outcomes

/-! ## Sections -/

/-- The entries of a section of a part are a part. -/
theorem IsSection.isPartOf {whole : Document} {entries own : Entries} {key : String}
    (part : (Document.mapping entries).IsPartOf whole)
    (held : IsSection (entries.get? key) own) : (Document.mapping own).IsPartOf whole := by
  cases held with
  | inl absent => exact absent.2 ▸ .empty
  | inr found => exact part.of_get? found

/-- The mappings of a section of a part are parts. -/
theorem IsEntryList.isPartOf {whole : Document} {entries : Entries} {list : List Entries}
    {key : String} (part : (Document.mapping entries).IsPartOf whole)
    (held : IsEntryList (entries.get? key) list) :
    ∀ own ∈ list, (Document.mapping own).IsPartOf whole := by
  intro own member
  cases held with
  | inl absent =>
    rw [absent.2] at member
    cases member
  | inr found => exact (part.of_get? found).of_mem_items (List.mem_map_of_mem member)

/-- A section that has to be a mapping fails as a part that is none. -/
theorem failsOnlyWith_mapping (place : String) {value : Option Document}
    (part : ∀ d, value = some d → d.IsPartOf (.mapping document)) :
    FailsOnlyWith (IsDefect document) (mapping document place value) := by
  unfold mapping
  split
  · exact failsOnlyWith_ok _
  · exact failsOnlyWith_ok _
  · split
    · exact failsOnlyWith_ok _
    · exact failsOnlyWith_error (.notMapping place (part _ rfl))

/-- Elements that have to be mappings fail as a part that is none. -/
theorem failsOnlyWith_mappingsFrom (place : String) (position : Nat) {items : List Document}
    (part : ∀ item ∈ items, item.IsPartOf (.mapping document)) :
    FailsOnlyWith (IsDefect document) (mappingsFrom document place position items) := by
  induction items generalizing position with
  | nil => exact failsOnlyWith_ok []
  | cons item items ih =>
    unfold mappingsFrom
    split
    · apply FailsOnlyWith.bind
      · exact ih (position + 1) fun other member => part other (List.mem_cons_of_mem item member)
      · exact fun rest _ => failsOnlyWith_ok _
    · exact failsOnlyWith_error (.notMapping _ (part item List.mem_cons_self))

/-- A section that has to be a list of mappings fails as a part that is no list or no mapping. -/
theorem failsOnlyWith_entryList (place : String) {value : Option Document}
    (part : ∀ d, value = some d → d.IsPartOf (.mapping document)) :
    FailsOnlyWith (IsDefect document) (entryList document place value) := by
  unfold entryList
  split
  · exact failsOnlyWith_ok _
  · exact failsOnlyWith_ok _
  · rename_i d _
    have own := part d rfl
    split
    · rename_i items isItems
      rw [Document.items?_eq_some_iff own.isInterchange] at isItems
      subst isItems
      exact failsOnlyWith_mappingsFrom place 0 fun item member => own.of_mem_items member
    · exact failsOnlyWith_error (.notList place own)

/-- The value under a key, or the absent value, is a part. -/
theorem valueOrNull_isPartOf {whole : Document} {entries : Entries}
    (part : (Document.mapping entries).IsPartOf whole) (key : String) :
    (valueOrNull entries key).IsPartOf whole := by
  unfold valueOrNull
  cases found : entries.get? key with
  | none => exact .null
  | some value => exact part.of_get? found

/-- A volume fails as a part that is no mapping, or without a bundle. -/
theorem failsOnlyWith_volumePart (position : Nat) {volume : Entries}
    (part : (Document.mapping volume).IsPartOf (.mapping document)) :
    FailsOnlyWith (IsDefect document) (volumePart document position volume) := by
  apply FailsOnlyWith.bind
  · exact failsOnlyWith_mapping _ fun d found => part.of_get? found
  · intro bundle _
    split
    · exact failsOnlyWith_error (.noBundle (valueOrNull_isPartOf part "name"))
    · exact failsOnlyWith_ok _

/-- Volumes fail as one of them does. -/
theorem failsOnlyWith_volumeParts (position : Nat) {volumes : List Entries}
    (part : ∀ volume ∈ volumes, (Document.mapping volume).IsPartOf (.mapping document)) :
    FailsOnlyWith (IsDefect document) (volumeParts document position volumes) := by
  induction volumes generalizing position with
  | nil => exact failsOnlyWith_ok []
  | cons volume volumes ih =>
    apply FailsOnlyWith.bind (failsOnlyWith_volumePart position (part volume List.mem_cons_self))
    intro first _
    apply FailsOnlyWith.bind
    · exact ih (position + 1) fun other member => part other (List.mem_cons_of_mem volume member)
    · exact fun rest _ => failsOnlyWith_ok _

/-! ## Parts that are validated -/

section Validations

variable {α : Type}

/-- A validation that has problems only fails with them. -/
theorem failsOnlyWith_accept {outcome : Validated α} (h : outcome.NeverUnmatchable) :
    FailsOnlyWith (IsDefect document) (accept document outcome) := by
  cases outcome with
  | valid value => exact failsOnlyWith_ok value
  | invalid problems => exact failsOnlyWith_error (.invalid problems)
  | unmatchable key => exact absurd rfl (h key)

/-- Validations that have problems only fail with those of one of them. -/
theorem failsOnlyWith_acceptAll {validate : Document → Validated α}
    (h : ∀ d, (validate d).NeverUnmatchable) (parts : List Document) :
    FailsOnlyWith (IsDefect document) (acceptAll document validate parts) :=
  failsOnlyWith_mapM (fun part => failsOnlyWith_accept (h part)) parts

/-- Why a pod is refused. -/
inductive IsRefusal (document : Entries) : DocumentError → Prop where
  /-- Its document has a defect. -/
  | defect {error : DocumentError} (defect : IsDefect document error) : IsRefusal document error
  /-- One of its tolerations matches nothing. -/
  | unmatchable (key : String) : IsRefusal document (.unmatchable key)

/-- Any validations fail with problems or with a toleration that matches nothing. -/
theorem failsOnlyWith_isRefusal_acceptAll (validate : Document → Validated α)
    (parts : List Document) :
    FailsOnlyWith (IsRefusal document) (acceptAll document validate parts) := by
  apply failsOnlyWith_mapM
  intro part
  cases validate part with
  | valid value => exact failsOnlyWith_ok value
  | invalid problems => exact failsOnlyWith_error (.defect (.invalid problems))
  | unmatchable key => exact failsOnlyWith_error (.unmatchable key)

end Validations

/-! ## Whole documents -/

/-- A document of another kind is not read as a node. -/
theorem parseNode_of_otherKind (other : isKind "Node" document = false) :
    parseNode document = .error (.unexpectedKind "Node" document) := by
  simp [parseNode, other, throw, throwThe, MonadExceptOf.throw, bind, Except.bind]

/-- A document of another kind is not read as a pod. -/
theorem parsePod_of_otherKind (other : isKind "Pod" document = false) :
    parsePod document = .error (.unexpectedKind "Pod" document) := by
  simp [parsePod, other, throw, throwThe, MonadExceptOf.throw, bind, Except.bind]

/-- A node that is not read has a defect. -/
theorem failsOnlyWith_parseNode (h : (Document.mapping document).IsInterchange) :
    FailsOnlyWith (IsDefect document) (parseNode document) := by
  have whole := Document.IsPartOf.refl h
  cases kind : isKind "Node" document with
  | false =>
    rw [parseNode_of_otherKind kind]
    exact failsOnlyWith_error (.unexpectedKind "Node")
  | true =>
    simp only [parseNode, kind, Bool.not_true, Bool.false_eq_true, ↓reduceIte]
    apply FailsOnlyWith.bind (failsOnlyWith_mapping _ fun d found => whole.of_get? found)
    intro metadata readMetadata
    rw [mapping_eq_ok_iff document _ fun d found => h.of_get? found] at readMetadata
    have metadataPart := readMetadata.isPartOf whole
    apply FailsOnlyWith.bind (failsOnlyWith_mapping _ fun d found => whole.of_get? found)
    intro spec readSpec
    rw [mapping_eq_ok_iff document _ fun d found => h.of_get? found] at readSpec
    have specPart := readSpec.isPartOf whole
    apply FailsOnlyWith.bind (failsOnlyWith_mapping _ fun d found => metadataPart.of_get? found)
    intro labels _
    apply FailsOnlyWith.bind (failsOnlyWith_entryList _ fun d found => specPart.of_get? found)
    intro taintEntries _
    apply FailsOnlyWith.bind (failsOnlyWith_acceptAll Taint.neverUnmatchable_validate _)
    intro taints _
    apply failsOnlyWith_accept
    exact Node.neverUnmatchable_ofParts ((neverUnmatchable_checkText _).atStep _)
      ((neverUnmatchable_checkOptionalText _).atStep _)
      ((neverUnmatchable_checkLabels _).atStep _) (Validated.neverUnmatchable_valid taints)

/-- Once its tolerations have been accepted, a pod that is not read breaks the rules of a model. -/
theorem failsOnlyWith_acceptPod (metadata : Entries) (tolerations : List Toleration)
    (parts : List Document) (containerEntries : List Entries) :
    FailsOnlyWith (IsDefect document) (do
      let volumes ← acceptAll document ConfigVolume.validate parts
      let containers ← acceptAll document Container.validate (containerEntries.map containerPart)
      accept document
        (Pod.ofParts ((checkText (valueOrEmpty metadata "name")).atStep (.field "name"))
          ((checkLabels (valueOr (.mapping []) metadata "labels")).atStep (.field "labels"))
          (.valid tolerations) (.valid volumes) (.valid containers))) := by
  apply (failsOnlyWith_acceptAll ConfigVolume.neverUnmatchable_validate parts).bind
  intro volumes _
  apply (failsOnlyWith_acceptAll Container.neverUnmatchable_validate _).bind
  intro containers _
  apply failsOnlyWith_accept
  exact Pod.neverUnmatchable_ofParts ((neverUnmatchable_checkText _).atStep _)
    ((neverUnmatchable_checkLabels _).atStep _) (Validated.neverUnmatchable_valid tolerations)
    (Validated.neverUnmatchable_valid volumes) (Validated.neverUnmatchable_valid containers)

/-- A pod that is not read has a defect, or a toleration that matches nothing. -/
theorem failsOnlyWith_parsePod (h : (Document.mapping document).IsInterchange) :
    FailsOnlyWith (IsRefusal document) (parsePod document) := by
  have whole := Document.IsPartOf.refl h
  have defect (error : DocumentError) (is : IsDefect document error) : IsRefusal document error :=
    .defect is
  cases kind : isKind "Pod" document with
  | false =>
    rw [parsePod_of_otherKind kind]
    exact failsOnlyWith_error (defect _ (.unexpectedKind "Pod"))
  | true =>
    simp only [parsePod, kind, Bool.not_true, Bool.false_eq_true, ↓reduceIte]
    apply ((failsOnlyWith_mapping _ fun d found => whole.of_get? found).imp defect).bind
    intro metadata readMetadata
    apply ((failsOnlyWith_mapping _ fun d found => whole.of_get? found).imp defect).bind
    intro spec readSpec
    rw [mapping_eq_ok_iff document _ fun d found => h.of_get? found] at readSpec
    have specPart := readSpec.isPartOf whole
    apply ((failsOnlyWith_entryList _ fun d found => specPart.of_get? found).imp defect).bind
    intro volumes readVolumes
    rw [entryList_eq_ok_iff document _ fun d found => specPart.isInterchange.of_get? found]
      at readVolumes
    apply ((failsOnlyWith_volumeParts 0 (readVolumes.isPartOf specPart)).imp defect).bind
    intro parts _
    apply ((failsOnlyWith_entryList _ fun d found => specPart.of_get? found).imp defect).bind
    intro tolerationEntries _
    apply ((failsOnlyWith_entryList _ fun d found => specPart.of_get? found).imp defect).bind
    intro containerEntries _
    apply (failsOnlyWith_isRefusal_acceptAll Toleration.validate _).bind
    intro tolerations _
    exact (failsOnlyWith_acceptPod metadata tolerations parts containerEntries).imp defect

end Manifest

end PodLaunch
