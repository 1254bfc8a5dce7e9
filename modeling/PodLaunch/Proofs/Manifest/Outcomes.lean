import PodLaunch.Manifest.File
import PodLaunch.Proofs.Manifest.Defects
import PodLaunch.Proofs.Manifest.Tolerations

/-!
# How reading a document ends

A document is read, or it is refused with a report, as long as the report can be made. A node is
refused for defects of its document only. A pod is also refused for a toleration that matches
nothing, once its sections have the right shape. No defect of the name, the labels, the volumes or
the containers comes before that toleration, since tolerations are validated before them.
-/

namespace PodLaunch.Manifest

/-! ## Reports -/

/-- Something has been read, or it is refused with a report of one of some categories. -/
def IsReported {α : Type} (categories : List FailureCategory) (outcome : Except LoadError α) :
    Prop :=
  (∃ value, outcome = .ok value) ∨
    ∃ failure, outcome = .error (.failure failure) ∧ failure.category ∈ categories

section Reports

variable {α : Type} {outcome : Except DocumentError α}

/-- A failure is reported exactly if it is that of an error whose report can be made. -/
theorem ofDocuments_eq_failure_iff (failure : Failure) :
    ofDocuments outcome = .error (.failure failure) ↔
      ∃ error, outcome = .error error ∧ error.canReport = true ∧ error.failure = failure := by
  cases outcome with
  | ok value => simp [ofDocuments, Except.mapError]
  | error error =>
    cases can : error.canReport <;> simp [ofDocuments, Except.mapError, can]

/-- An outcome is reported exactly if the report of its error can be made, where all its errors are
of the given categories. -/
theorem isReported_ofDocuments_iff {categories : List FailureCategory}
    (known : ∀ error, outcome = .error error → error.failure.category ∈ categories) :
    IsReported categories (ofDocuments outcome) ↔
      ∀ error, outcome = .error error → error.canReport = true := by
  unfold IsReported
  simp only [ofDocuments_eq_failure_iff]
  cases outcome with
  | ok value => simp [ofDocuments, Except.mapError]
  | error error =>
    have category := known error rfl
    constructor
    · rintro (⟨value, read⟩ | ⟨_, ⟨other, same, can, _⟩, _⟩) reported isError
      · simp [ofDocuments, Except.mapError] at read
      · cases same
        cases isError
        exact can
    · intro can
      exact Or.inr ⟨error.failure, ⟨error, rfl, can error rfl, rfl⟩, category⟩

end Reports

variable {document : Entries}

/-- A refusal of a pod is a failure of the manifest or of a toleration. -/
theorem IsRefusal.category_failure_mem {error : DocumentError}
    (refusal : IsRefusal document error) :
    error.failure.category ∈ [FailureCategory.manifest, .invalidToleration] := by
  cases refusal with
  | defect defect => simp [defect.category_failure]
  | unmatchable key => simp [DocumentError.failure, Toleration.unmatchableFailure]

/-- A refusal of a pod that can be shown can be reported. -/
theorem IsRefusal.canReport {error : DocumentError} (refusal : IsRefusal document error)
    (h : (Document.mapping document).IsInterchange)
    (shown : (Document.mapping document).isShown = true) : error.canReport = true := by
  cases refusal with
  | defect defect => exact defect.canReport h shown
  | unmatchable key => rfl

/-- A refusal of a pod that is no failure of the manifest is that of a toleration. -/
theorem IsRefusal.eq_unmatchable {error : DocumentError} (refusal : IsRefusal document error)
    (invalid : error.failure.category = .invalidToleration) : ∃ key, error = .unmatchable key := by
  cases refusal with
  | defect defect =>
    rw [defect.category_failure] at invalid
    cases invalid
  | unmatchable key => exact ⟨key, rfl⟩

/-! ## Pods with a toleration that matches nothing -/

/-- A volume is backed by a bundle: it has a source with entries. -/
def IsBacked (volume : Entries) : Prop :=
  ∃ source : Entries, source ≠ [] ∧ volume.get? "configMap" = some (.mapping source)

/-- A document has the sections of a pod, with these tolerations among them. -/
structure PodSections (document : Entries) (tolerations : List Entries) : Prop where
  /-- The kind. -/
  kind : document.get? "kind" = some (.text "Pod")
  /-- The metadata are a mapping. -/
  metadata : ∃ metadata, IsSection (document.get? "metadata") metadata
  /-- The specification is a mapping with lists of mappings. Each volume is backed by a bundle. -/
  spec : ∃ spec, IsSection (document.get? "spec") spec ∧
    (∃ volumes, IsEntryList (spec.get? "volumes") volumes ∧ ∀ volume ∈ volumes, IsBacked volume) ∧
    (∃ containers, IsEntryList (spec.get? "containers") containers) ∧
    IsEntryList (spec.get? "tolerations") tolerations

/-- The first toleration that is not valid asks for a value, but for none in particular. -/
def FirstAsksForNoValue (tolerations : List Entries) (key : String) : Prop :=
  ∃ before entry after, tolerations = before ++ entry :: after ∧
    (∀ earlier ∈ before, ∃ toleration,
      Toleration.validate (.mapping earlier) = .valid toleration) ∧
    AsksForNoValue entry key

/-- What is accepted matches nothing exactly if its validation says so. -/
theorem accept_eq_unmatchable_iff {α : Type} (document : Entries) (outcome : Validated α)
    (key : String) :
    accept document outcome = .error (.unmatchable key) ↔ outcome = .unmatchable key := by
  cases outcome <;> simp [accept]

/-- Tolerations are refused for one that matches nothing exactly if it is the first one that is not
valid. -/
theorem acceptAll_toleration_eq_unmatchable_iff {tolerations : List Entries}
    (h : ∀ entry ∈ tolerations, (Document.mapping entry).IsInterchange) (key : String) :
    acceptAll document Toleration.validate (tolerations.map Document.mapping) =
        .error (.unmatchable key) ↔
      FirstAsksForNoValue tolerations key := by
  rw [acceptAll, List.mapM_map, mapM_eq_error_iff]
  simp only [Function.comp_apply, accept_eq_unmatchable_iff, accept_eq_ok_iff]
  constructor
  · rintro ⟨before, entry, after, rfl, unmatchable, valid⟩
    rw [validate_eq_unmatchable_iff (h entry (by simp))] at unmatchable
    exact ⟨before, entry, after, rfl, valid, unmatchable⟩
  · rintro ⟨before, entry, after, rfl, valid, asks⟩
    refine ⟨before, entry, after, rfl, ?_, valid⟩
    rwa [validate_eq_unmatchable_iff (h entry (by simp))]

/-- A defect is no toleration that matches nothing. -/
theorem FailsOnlyWith.ne_unmatchable {α : Type} {outcome : Except DocumentError α}
    (fails : FailsOnlyWith (IsDefect document) outcome) (key : String) :
    outcome ≠ .error (.unmatchable key) := by
  intro same
  cases fails _ same

/-- A step that fails with defects only passes on the toleration that matches nothing. -/
theorem bind_eq_unmatchable_iff {α β : Type} {first : Except DocumentError α}
    (fails : FailsOnlyWith (IsDefect document) first) (next : α → Except DocumentError β)
    (key : String) :
    (first >>= next) = .error (.unmatchable key) ↔
      ∃ value, first = .ok value ∧ next value = .error (.unmatchable key) := by
  cases outcome : first with
  | ok value => simp [bind, Except.bind]
  | error error =>
    have differs := fails.ne_unmatchable key
    rw [outcome] at differs
    simpa [bind, Except.bind] using differs

/-- A step fails with a toleration that matches nothing, if only defects can come after it. -/
theorem bind_eq_unmatchable_iff_of_rest {α β : Type} {first : Except DocumentError α}
    {next : α → Except DocumentError β}
    (rest : ∀ value, FailsOnlyWith (IsDefect document) (next value)) (key : String) :
    (first >>= next) = .error (.unmatchable key) ↔ first = .error (.unmatchable key) := by
  cases first with
  | ok value =>
    have differs := (rest value).ne_unmatchable key
    simpa [bind, Except.bind] using differs
  | error error => simp [bind, Except.bind]

section Sections

variable {α : Type} {value : Option Document}
  (part : ∀ d, value = some d → d.IsPartOf (.mapping document)) (place key : String)

include part

/-- A mapping is read before a toleration is found that matches nothing. -/
theorem mapping_bind_eq_unmatchable_iff (next : Entries → Except DocumentError α) :
    (mapping document place value >>= next) = .error (.unmatchable key) ↔
      ∃ entries, IsSection value entries ∧ next entries = .error (.unmatchable key) := by
  rw [bind_eq_unmatchable_iff (failsOnlyWith_mapping place part)]
  simp only [mapping_eq_ok_iff document place fun d found => (part d found).isInterchange]

/-- A list of mappings is read before a toleration is found that matches nothing. -/
theorem entryList_bind_eq_unmatchable_iff (next : List Entries → Except DocumentError α) :
    (entryList document place value >>= next) = .error (.unmatchable key) ↔
      ∃ list, IsEntryList value list ∧ next list = .error (.unmatchable key) := by
  rw [bind_eq_unmatchable_iff (failsOnlyWith_entryList place part)]
  simp only [entryList_eq_ok_iff document place fun d found => (part d found).isInterchange]

end Sections

/-- Volumes stand for others exactly if each of them is backed. -/
theorem exists_volumeParts_eq_ok_iff (document : Entries) {volumes : List Entries}
    (h : ∀ volume ∈ volumes, (Document.mapping volume).IsInterchange) :
    (∃ parts, volumeParts document 0 volumes = .ok parts) ↔
      ∀ volume ∈ volumes, IsBacked volume := by
  simp only [volumeParts_eq_ok_iff document 0 h, exists_forall₂_iff]
  refine forall₂_congr fun volume _ => ?_
  constructor
  · rintro ⟨part, source, found, filled, -⟩
    exact ⟨source, filled, found⟩
  · rintro ⟨source, filled, found⟩
    exact ⟨boundVolume volume source, source, found, filled, rfl⟩

/-- Volumes stand for others before a toleration is found that matches nothing. -/
theorem volumes_bind_eq_unmatchable_iff {α : Type} {spec : Entries}
    (specPart : (Document.mapping spec).IsPartOf (.mapping document)) (place key : String)
    (next : List Document → Except DocumentError α) :
    (entryList document place (spec.get? "volumes") >>= fun volumes =>
        volumeParts document 0 volumes >>= next) = .error (.unmatchable key) ↔
      ∃ volumes, IsEntryList (spec.get? "volumes") volumes ∧
        ∃ parts, volumeParts document 0 volumes = .ok parts ∧
          next parts = .error (.unmatchable key) := by
  rw [entryList_bind_eq_unmatchable_iff fun d found => specPart.of_get? found]
  refine exists_congr fun volumes => and_congr_right fun isVolumes => ?_
  exact bind_eq_unmatchable_iff (failsOnlyWith_volumeParts 0 (isVolumes.isPartOf specPart)) next key

/-- A pod is refused for a toleration that matches nothing exactly if its document has the sections
of a pod, and that toleration is the first one that is not valid. -/
theorem parsePod_eq_unmatchable_iff (h : (Document.mapping document).IsInterchange)
    (key : String) :
    parsePod document = .error (.unmatchable key) ↔
      ∃ tolerations, PodSections document tolerations ∧ FirstAsksForNoValue tolerations key := by
  have whole := Document.IsPartOf.refl h
  cases kind : isKind "Pod" document with
  | false =>
    have other : document.get? "kind" ≠ some (.text "Pod") := by
      rw [ne_eq, ← isKind_iff, kind]
      simp
    rw [parsePod_of_otherKind kind]
    constructor
    · intro same
      cases same
    · rintro ⟨_, sections, _⟩
      exact absurd sections.kind other
  | true =>
    simp only [parsePod, kind, Bool.not_true, Bool.false_eq_true, ↓reduceIte]
    simp only [mapping_bind_eq_unmatchable_iff fun d found => whole.of_get? found]
    constructor
    · rintro ⟨metadata, isMetadata, spec, isSpec, refused⟩
      have specPart := isSpec.isPartOf whole
      simp only [volumes_bind_eq_unmatchable_iff specPart,
        entryList_bind_eq_unmatchable_iff fun d found => specPart.of_get? found] at refused
      obtain ⟨volumes, isVolumes, parts, readVolumes, tolerations, isTolerations, containers,
        isContainers, refused⟩ := refused
      have backed := (exists_volumeParts_eq_ok_iff document
        (isVolumes.isInterchange specPart.isInterchange)).1 ⟨parts, readVolumes⟩
      -- What comes after the tolerations only has defects, and so they are refused themselves.
      rw [bind_eq_unmatchable_iff_of_rest fun tolerations =>
          failsOnlyWith_acceptPod metadata tolerations parts containers,
        acceptAll_toleration_eq_unmatchable_iff
          (isTolerations.isInterchange specPart.isInterchange)] at refused
      exact ⟨tolerations, ⟨(isKind_iff "Pod" document).1 kind, ⟨metadata, isMetadata⟩, spec, isSpec,
        ⟨volumes, isVolumes, backed⟩, ⟨containers, isContainers⟩, isTolerations⟩, refused⟩
    · rintro ⟨tolerations, ⟨_, ⟨metadata, isMetadata⟩, spec, isSpec, ⟨volumes, isVolumes, backed⟩,
        ⟨containers, isContainers⟩, isTolerations⟩, first⟩
      have specPart := isSpec.isPartOf whole
      obtain ⟨parts, readVolumes⟩ := (exists_volumeParts_eq_ok_iff document
        (isVolumes.isInterchange specPart.isInterchange)).2 backed
      refine ⟨metadata, isMetadata, spec, isSpec, ?_⟩
      simp only [volumes_bind_eq_unmatchable_iff specPart,
        entryList_bind_eq_unmatchable_iff fun d found => specPart.of_get? found]
      refine ⟨volumes, isVolumes, parts, readVolumes, tolerations, isTolerations, containers,
        isContainers, ?_⟩
      rw [bind_eq_unmatchable_iff_of_rest fun tolerations =>
          failsOnlyWith_acceptPod metadata tolerations parts containers,
        acceptAll_toleration_eq_unmatchable_iff
          (isTolerations.isInterchange specPart.isInterchange)]
      exact first

/-! ## Outcomes -/

/-- A pod or node is read, or it is refused with a report of the manifest or, for a pod, of a
toleration, exactly if the report of what is wrong can be made. It always can if the document can be
shown. A toleration is reported exactly if the document has the sections of a pod, and the first of
its tolerations that is not valid asks for a value, but for none in particular. -/
theorem parse_outcomes (h : (Document.mapping document).IsInterchange) :
    (IsReported [.manifest, .invalidToleration] (ofDocuments (parsePod document)) ↔
      ∀ error, parsePod document = .error error → error.canReport = true) ∧
    (IsReported [.manifest] (ofDocuments (parseNode document)) ↔
      ∀ error, parseNode document = .error error → error.canReport = true) ∧
    ((Document.mapping document).isShown = true →
      IsReported [.manifest, .invalidToleration] (ofDocuments (parsePod document)) ∧
      IsReported [.manifest] (ofDocuments (parseNode document))) ∧
    ((∃ failure, ofDocuments (parsePod document) = .error (.failure failure) ∧
        failure.category = .invalidToleration) ↔
      ∃ tolerations key, PodSections document tolerations ∧
        FirstAsksForNoValue tolerations key) ∧
    ∀ tolerations key, PodSections document tolerations → FirstAsksForNoValue tolerations key →
      ofDocuments (parsePod document) =
        .error (.failure (Toleration.unmatchableFailure key)) := by
  have pods := failsOnlyWith_parsePod h
  have nodes := failsOnlyWith_parseNode h
  have podReported := isReported_ofDocuments_iff fun error failed =>
    (pods error failed).category_failure_mem
  have nodeReported : IsReported [.manifest] (ofDocuments (parseNode document)) ↔ _ :=
    isReported_ofDocuments_iff fun error failed => by simp [(nodes error failed).category_failure]
  have refused (tolerations : List Entries) (key : String)
      (sections : PodSections document tolerations)
      (first : FirstAsksForNoValue tolerations key) :
      ofDocuments (parsePod document) =
        .error (.failure (Toleration.unmatchableFailure key)) := by
    rw [(parsePod_eq_unmatchable_iff h key).2 ⟨tolerations, sections, first⟩]
    rfl
  refine ⟨podReported, nodeReported, ?_, ?_, refused⟩
  · intro shown
    rw [podReported, nodeReported]
    exact ⟨fun error failed => (pods error failed).canReport h shown,
      fun error failed => (nodes error failed).canReport h shown⟩
  · constructor
    · intro ⟨failure, reported, category⟩
      have ⟨error, failed, _, same⟩ := (ofDocuments_eq_failure_iff failure).1 reported
      rw [← same] at category
      have ⟨key, unmatchable⟩ := (pods error failed).eq_unmatchable category
      rw [unmatchable, parsePod_eq_unmatchable_iff h] at failed
      have ⟨tolerations, sections, first⟩ := failed
      exact ⟨tolerations, key, sections, first⟩
    · intro ⟨tolerations, key, sections, first⟩
      exact ⟨_, refused tolerations key sections first, rfl⟩

/-- Tolerations of which the second one asks for no value, and the third one for an unknown effect.
-/
def defectiveTolerations : List Entries :=
  [[(.text "operator", .text "Exists")],
    [(.text "key", .text "arch"), (.text "value", .null)],
    [(.text "effect", .text "Never")]]

/-- The document of a pod with these tolerations and no valid name, labels, volume or container. -/
def defectivePodDocument : Entries :=
  [(.text "kind", .text "Pod"),
    (.text "metadata", .mapping [(.text "name", .int 7), (.text "labels", .bool true)]),
    (.text "spec", .mapping
      [(.text "volumes", .list [.mapping [(.text "configMap", .mapping [(.text "x", .null)])]]),
        (.text "tolerations", .list (defectiveTolerations.map .mapping))])]

/-- The second toleration of that document is reported. -/
theorem parse_outcomes_defectivePodDocument :
    (Document.mapping defectivePodDocument).IsInterchange ∧
    PodSections defectivePodDocument defectiveTolerations ∧
    FirstAsksForNoValue defectiveTolerations "arch" ∧
    IsReported [.manifest, .invalidToleration] (ofDocuments (parsePod defectivePodDocument)) ∧
    ofDocuments (parsePod defectivePodDocument) =
      .error (.failure (Toleration.unmatchableFailure "arch")) := by
  have interchange : (Document.mapping defectivePodDocument).IsInterchange := by
    simp [defectivePodDocument, defectiveTolerations]
  have absent : IsAbsent (none : Option Document) := Or.inl rfl
  have volume : IsBacked [(.text "configMap", .mapping [(.text "x", .null)])] :=
    ⟨[(.text "x", .null)], by simp, rfl⟩
  have sections : PodSections defectivePodDocument defectiveTolerations := by
    refine ⟨rfl, ⟨_, Or.inr rfl⟩, _, Or.inr rfl, ⟨[_], Or.inr rfl, ?_⟩, ⟨[], ?_⟩, Or.inr rfl⟩
    · simpa using volume
    · exact Or.inl ⟨absent, rfl⟩
  have first : FirstAsksForNoValue defectiveTolerations "arch" := by
    refine ⟨[_], _, _, rfl, ?_, none, Or.inr rfl, Or.inl ⟨rfl, rfl⟩, Or.inl ⟨Or.inr rfl, rfl⟩,
      Or.inl ⟨Or.inl absent, rfl⟩⟩
    simp only [List.mem_singleton, forall_eq]
    exact ⟨⟨"", .exists, "", none, by simp⟩, rfl⟩
  have ⟨_, _, shown, _, refused⟩ := parse_outcomes interchange
  exact ⟨interchange, sections, first, (shown (by decide +kernel)).1, refused _ _ sections first⟩

/-- The document of a pod whose specification is an integer. -/
def integerSpecDocument (n : Int) : Entries :=
  [(.text "kind", .text "Pod"), (.text "spec", .int n)]

/-- A pod is refused without a report if the report would show an integer with too many digits. -/
theorem not_isReported_integerSpecDocument :
    (Document.mapping (integerSpecDocument (Nat.pow 16 3572))).IsInterchange ∧
    ofDocuments (parsePod (integerSpecDocument (Nat.pow 16 3572))) =
      .error (.accident .unshown) ∧
    ¬ IsReported [.manifest, .invalidToleration]
      (ofDocuments (parsePod (integerSpecDocument (Nat.pow 16 3572)))) := by
  have interchange (n : Int) : (Document.mapping (integerSpecDocument n)).IsInterchange := by
    simp [integerSpecDocument]
  have unreported : ofDocuments (parsePod (integerSpecDocument (Nat.pow 16 3572))) =
      .error (.accident .unshown) := by
    decide +kernel
  refine ⟨interchange _, unreported, ?_⟩
  rw [unreported]
  rintro (⟨_, read⟩ | ⟨_, reported, _⟩)
  · cases read
  · cases reported

end PodLaunch.Manifest
