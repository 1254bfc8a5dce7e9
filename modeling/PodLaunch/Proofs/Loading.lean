import PodLaunch.Proofs.Manifest.Collections
import PodLaunch.Proofs.NodeProfile.Validation
import PodLaunch.Proofs.Yaml.TextDefects

/-!
# What loading can end with

Loading a profile or a manifest gives what its file holds, or it ends with a report of its own
category, whatever the path and the bytes of the file are. Only a few accidents are not reported,
and each of them has a cause that can be told from the files: a path that is too long, a profile
that is a directory, a text that the library gives up for another reason than that it is malformed,
a key of a profile that is not a text, and an integer that is too long for a report.

All of this holds for any library. With the readers of this development, the causes for which a text
is given up are those that a text can have: bytes that form no characters, scalars and keys that
turn out to be of no use, and lists and mappings that are nested too deeply. Two kinds of files are
left out. Where an escape names half of a character, a library may go on with a text that cannot be
written here; and documents that are nested very deeply may be read and still be too deep to be
shown.
-/

namespace PodLaunch

open Files Manifest Text

/-- A loader reports what goes wrong by failures of some categories, but for some accidents. -/
structure ReportsBut {α : Type} (categories : List FailureCategory) (IsAccident : Accident → Prop)
    (outcome : Except LoadError α) : Prop where
  /-- It gives a value or a report exactly if there is no such accident. -/
  isReported_iff : IsReported categories outcome ↔ ∀ accident, ¬ IsAccident accident
  /-- It ends with an accident exactly if there is this accident. -/
  accident_iff : ∀ accident, outcome = .error (.accident accident) ↔ IsAccident accident

/-- A loader reports what goes wrong if its failures are of some categories and its accidents are
known. -/
theorem reportsBut_of_accident_iff {α : Type} {categories : List FailureCategory}
    {IsAccident : Accident → Prop} {outcome : Except LoadError α}
    (known : ∀ failure, outcome = .error (.failure failure) → failure.category ∈ categories)
    (accidents : ∀ accident, outcome = .error (.accident accident) ↔ IsAccident accident) :
    ReportsBut categories IsAccident outcome := by
  refine ⟨?_, accidents⟩
  simp only [← accidents]
  cases outcome with
  | ok value => exact iff_of_true (.inl ⟨value, rfl⟩) nofun
  | error error =>
    cases error with
    | failure failure => exact iff_of_true (.inr ⟨failure, rfl, known failure rfl⟩) nofun
    | accident accident =>
      refine iff_of_false ?_ fun none => none accident rfl
      rintro (⟨_, value⟩ | ⟨_, failure, _⟩)
      · cases value
      · cases failure

/-- What a loader reports is of the categories. -/
theorem ReportsBut.category {α : Type} {categories : List FailureCategory}
    {IsAccident : Accident → Prop} {outcome : Except LoadError α}
    (reports : ReportsBut categories IsAccident outcome) {failure : Failure}
    (fails : outcome = .error (.failure failure)) : failure.category ∈ categories := by
  have reported : IsReported categories outcome := by
    rw [reports.isReported_iff]
    intro accident isAccident
    rw [← reports.accident_iff, fails] at isAccident
    cases isAccident
  obtain ⟨value, loaded⟩ | ⟨other, same, category⟩ := reported
  · rw [fails] at loaded
    cases loaded
  · rw [fails] at same
    cases same
    exact category

/-- A library gives a text up for this reason, and nobody reports it. What happens to a text with
half of a character is not followed. -/
def IsRaised (defect : Yaml.Defect) : Prop :=
  defect ≠ .malformed ∧ defect ≠ .surrogate

/-- No escape in the file at a path names half of a character, as far as a reader comes. -/
def SpellsCharacters {α : Type} (reader : Decoded → Except Yaml.Defect α) (tree : Files.Tree)
    (path : Files.Path) : Prop :=
  ∀ content, tree.find path = .ok (.file content) →
    reader (decodeFile content) ≠ .error .surrogate

/-- Where whole characters are spelled, a text that is given up although it is not malformed is
given up without a report. -/
theorem isRaised_of_spells {α : Type} {reader : Decoded → Except Yaml.Defect α} {tree : Files.Tree}
    {path : Files.Path} {content : List UInt8} {defect : Yaml.Defect}
    (spells : SpellsCharacters reader tree path) (found : tree.find path = .ok (.file content))
    (fails : reader (decodeFile content) = .error defect) (other : defect ≠ .malformed) :
    IsRaised defect := by
  refine ⟨other, ?_⟩
  rintro rfl
  exact spells content found fails

/-- Something is wrong with the text of the file at a path. -/
def IsDefectAt (isProfile : Bool) (tree : Files.Tree) (path : Files.Path) (defect : Yaml.Defect) :
    Prop :=
  ∃ content, tree.find path = .ok (.file content) ∧
    Yaml.IsDefectOf isProfile (decodeFile content) defect

/-- Nothing is found on a path that is too long, and on no other one for this reason. -/
theorem find_eq_tooLong_iff (tree : Files.Tree) (path : Files.Path) :
    tree.find path = .error .tooLong ↔ tree.locate path = .error .tooLong := by
  unfold Files.Tree.find
  cases tree.locate path with
  | error refusal => simp [bind, Except.bind]
  | ok place =>
    refine iff_of_false (fun isLong => ?_) nofun
    cases found : tree.at? place with
    | none => simp [bind, Except.bind, found] at isLong
    | some entry => simp [bind, Except.bind, found] at isLong

/-! ## Profiles -/

namespace NodeProfile

/-- The files as they are when a profile is looked for: it has been recorded that it is going to be
loaded. -/
def treeFor (files : LoggedFiles) (path : Files.Path) : Files.Tree :=
  files.treeAfter
    (Recorded.note .debug profileSource ("Loading node profile from " ++ path.toText)).records

/-- The file at a path holds a profile. -/
def IsAt (library : Yaml.Library) (tree : Files.Tree) (path : Files.Path) (profile : NodeProfile) :
    Prop :=
  ∃ content document entries, tree.find path = .ok (.file content) ∧
    library.profileDocument (decodeFile content) = .ok document ∧
    document.entries? = some entries ∧ hasTextKeys entries = true ∧
    validate (.mapping entries) = .valid profile

/-- What goes wrong without a report when a profile is loaded. -/
inductive IsAccident (library : Yaml.Library) (tree : Files.Tree) (path : Files.Path) :
    Accident → Prop where
  /-- The path is too long. -/
  | tooLong (long : tree.locate path = .error .tooLong) :
    IsAccident library tree path (.refused ⟨.tooLong, path.toText⟩)
  /-- The path is that of a directory. -/
  | isDirectory (found : tree.find path = .ok .directory) :
    IsAccident library tree path (.refused ⟨.isDirectory, path.toText⟩)
  /-- The text is given up. -/
  | noValue {content : List UInt8} {defect : Yaml.Defect}
    (found : tree.find path = .ok (.file content)) (raised : IsRaised defect)
    (fails : library.profileDocument (decodeFile content) = .error defect) :
    IsAccident library tree path (.noValue defect)
  /-- The text is that of a mapping with a key that is not a text. -/
  | keyNotText {content : List UInt8} {document : Document} {entries : Entries}
    (found : tree.find path = .ok (.file content))
    (denotes : library.profileDocument (decodeFile content) = .ok document)
    (isMapping : document.entries? = some entries) (other : hasTextKeys entries = false) :
    IsAccident library tree path .keyNotText

/-- The readers of this development give the text of a profile up for a defect of it. -/
theorem isDefectAt_of_isAccident {room : Nat} {tree : Files.Tree} {path : Files.Path}
    {defect : Yaml.Defect}
    (isAccident : IsAccident (Yaml.library room) tree path (.noValue defect)) :
    IsDefectAt true tree path defect := by
  cases isAccident with
  | noValue found raised fails =>
    exact ⟨_, found, (Yaml.profileDocument_reads room _).allowed_of_eq_error fails⟩

/-- A profile has problems only. -/
theorem neverUnmatchable_validate (d : Document) : (validate d).NeverUnmatchable := by
  apply (neverUnmatchable_checkModel "NodeConfig" d).andThen
  intro entries
  have name := neverUnmatchable_check "node_name" .nodeName
    (neverUnmatchable_required neverUnmatchable_checkText entries "node_name")
  have architecture := neverUnmatchable_check "architecture" .architecture
    (neverUnmatchable_optional neverUnmatchable_checkText entries "architecture"
      defaultArchitecture)
  have tainted :=
    neverUnmatchable_optional neverUnmatchable_checkBool entries "taint_architecture" true
  have taints := neverUnmatchable_optional
    (neverUnmatchable_checkItems .notList Taint.neverUnmatchable_validate) entries "extra_taints" []
  have labels := neverUnmatchable_optional neverUnmatchable_checkLabels entries "labels" .empty
  exact ((((name.zip architecture).zip tainted).zip taints).zip labels).map _

/-- What is loaded from the document of a file. -/
theorem ofDocument_eq_ok_iff (path : String) (document : Document) (profile : NodeProfile) :
    ofDocument path document = .ok profile ↔
      ∃ entries, document.entries? = some entries ∧ hasTextKeys entries = true ∧
        validate (.mapping entries) = .valid profile := by
  unfold ofDocument
  cases document.entries? with
  | none => simp
  | some entries =>
    cases keys : hasTextKeys entries with
    | false => simp [keys]
    | true => cases valid : validate (.mapping entries) <;> simp [keys, valid]

/-- The document of a file has a key that is not a text, if it ends with an accident. -/
theorem ofDocument_eq_accident_iff (path : String) (document : Document) (accident : Accident) :
    ofDocument path document = .error (.accident accident) ↔
      accident = .keyNotText ∧
        ∃ entries, document.entries? = some entries ∧ hasTextKeys entries = false := by
  unfold ofDocument
  cases document.entries? with
  | none => simp
  | some entries =>
    cases keys : hasTextKeys entries with
    | false => simp [keys, eq_comm (a := accident)]
    | true => cases valid : validate (.mapping entries) <;> simp [keys, valid]

/-- What is wrong with the document of a file is reported as a failure of the configuration. -/
theorem category_of_ofDocument {path : String} {document : Document} {failure : Failure}
    (fails : ofDocument path document = .error (.failure failure)) :
    failure.category = .configuration := by
  unfold ofDocument at fails
  split at fails
  · cases fails
    rfl
  · split at fails
    · cases fails
    · split at fails
      · cases fails
      · cases fails
        rfl
      · rename_i key unmatchable
        exact absurd unmatchable (neverUnmatchable_validate _ key)

/-- What is loaded depends on what is found at the path. -/
theorem loadAt_eq (library : Yaml.Library) (tree : Files.Tree) (path : Files.Path) :
    loadAt library tree path =
      match tree.find path with
      | .ok (.file content) => ofText library path.toText (decodeFile content)
      | .ok .directory => .error (.accident (.refused ⟨.isDirectory, path.toText⟩))
      | .error .tooLong => .error (.accident (.refused ⟨.tooLong, path.toText⟩))
      | .error _ => .error (.failure ⟨.configuration, "Node profile not found: " ++ path.toText,
          some "Create one with: pod-placement init-node <path>"⟩) := by
  unfold loadAt Files.Tree.hasAny Files.Tree.read
  cases tree.find path with
  | ok entry => cases entry <;> rfl
  | error refusal => cases refusal <;> rfl

/-- A profile is loaded from a file exactly if it is there. -/
theorem loadAt_eq_ok_iff (library : Yaml.Library) (tree : Files.Tree) (path : Files.Path)
    (profile : NodeProfile) :
    loadAt library tree path = .ok profile ↔ IsAt library tree path profile := by
  rw [loadAt_eq]
  unfold IsAt
  split
  · rename_i content found
    unfold ofText
    split
    · rename_i document denotes
      simp [found, denotes, ofDocument_eq_ok_iff]
    · rename_i malformed
      simp [found, malformed]
    · rename_i isDefect
      simp [found, isDefect]
  · rename_i found
    simp [found]
  · rename_i found
    simp [found]
  · rename_i found
    simp [found]

/-- A text leads to an accident if it is given up for another reason than that it is malformed, or
if it is that of a mapping with a key that is not a text. -/
theorem ofText_eq_accident_iff (library : Yaml.Library) (path : String) (text : Decoded)
    (accident : Accident) :
    ofText library path text = .error (.accident accident) ↔
      (∃ defect, library.profileDocument text = .error defect ∧ defect ≠ .malformed ∧
        accident = .noValue defect) ∨
      accident = .keyNotText ∧ ∃ document entries, library.profileDocument text = .ok document ∧
        document.entries? = some entries ∧ hasTextKeys entries = false := by
  cases reads : library.profileDocument text with
  | ok document =>
    rw [ofText, reads]
    dsimp only
    rw [ofDocument_eq_accident_iff]
    simp
  | error defect =>
    by_cases malformed : defect = .malformed
    · subst malformed
      simp [ofText, reads]
    · have givenUp : ofText library path text = .error (.accident (.noValue defect)) := by
        rw [ofText, reads]
        cases defect with
        | malformed => exact absurd rfl malformed
        | _ => rfl
      rw [givenUp]
      simp [malformed, eq_comm (a := accident)]

/-- An accident that happens when a file is loaded has a cause, and the other way round. -/
theorem loadAt_eq_accident_iff {library : Yaml.Library} {tree : Files.Tree} {path : Files.Path}
    (spells : SpellsCharacters library.profileDocument tree path) (accident : Accident) :
    loadAt library tree path = .error (.accident accident) ↔
      IsAccident library tree path accident := by
  rw [loadAt_eq]
  constructor
  · intro ends
    split at ends
    · rename_i content found
      obtain ⟨defect, fails, other, rfl⟩ | ⟨rfl, document, entries, denotes, isMapping, other⟩ :=
        (ofText_eq_accident_iff _ _ _ _).1 ends
      · exact .noValue found (isRaised_of_spells spells found fails other) fails
      · exact .keyNotText found denotes isMapping other
    · rename_i found
      cases ends
      exact .isDirectory found
    · rename_i found
      cases ends
      exact .tooLong ((find_eq_tooLong_iff tree path).1 found)
    · cases ends
  · intro isAccident
    cases isAccident with
    | tooLong long => rw [(find_eq_tooLong_iff tree path).2 long]
    | isDirectory found => rw [found]
    | noValue found raised fails =>
      rw [found]
      exact (ofText_eq_accident_iff _ _ _ _).2 (.inl ⟨_, fails, raised.1, rfl⟩)
    | keyNotText found denotes isMapping other =>
      rw [found]
      exact (ofText_eq_accident_iff _ _ _ _).2 (.inr ⟨rfl, _, _, denotes, isMapping, other⟩)

/-- What is loaded from the file that a text names is what is loaded at its path. -/
theorem result_load (files : LoggedFiles) (name : String) :
    (load files name).result =
      loadAt files.library (treeFor files (.ofText name)) (.ofText name) := by
  rw [load, treeFor]
  simp only [Recorded.result_andThenWith, Recorded.result_pure]

/-- What is wrong with a file is reported as a failure of the configuration. -/
theorem category_of_loadAt {library : Yaml.Library} {tree : Files.Tree} {path : Files.Path}
    {failure : Failure} (fails : loadAt library tree path = .error (.failure failure)) :
    failure.category = .configuration := by
  rw [loadAt_eq] at fails
  split at fails
  · unfold ofText at fails
    split at fails
    · exact category_of_ofDocument fails
    · cases fails
      rfl
    · cases fails
  · cases fails
  · cases fails
  · cases fails
    rfl

end NodeProfile

/-! ## Manifests -/

namespace Manifest

/-- The files as they are when a manifest is looked for: it has been recorded that it is going to be
read. -/
def treeFor (files : LoggedFiles) (path : Files.Path) : Files.Tree :=
  files.treeAfter
    (Recorded.note .debug manifestSource ("Reading manifest file: " ++ path.toText)).records

/-- The file at a path holds mappings, and nothing else but documents without a value. -/
def AreAt (library : Yaml.Library) (tree : Files.Tree) (path : Files.Path)
    (documents : List Entries) : Prop :=
  ∃ content present, tree.find path = .ok (.file content) ∧
    presentDocuments library (decodeFile content) = .ok present ∧
    List.Forall₂ (fun document entries => document.entries? = some entries) present documents

/-- What goes wrong without a report when a manifest is read. -/
inductive IsReadAccident (library : Yaml.Library) (tree : Files.Tree) (path : Files.Path) :
    Accident → Prop where
  /-- The path is too long. -/
  | tooLong (long : tree.locate path = .error .tooLong) :
    IsReadAccident library tree path (.refused ⟨.tooLong, path.toText⟩)
  /-- The text is given up. -/
  | noValue {content : List UInt8} {defect : Yaml.Defect}
    (found : tree.find path = .ok (.file content)) (raised : IsRaised defect)
    (fails : library.manifestDocuments (decodeFile content) = .error defect) :
    IsReadAccident library tree path (.noValue defect)

/-- The readers of this development give the text of a manifest up for a defect of it. -/
theorem isDefectAt_of_isReadAccident {room : Nat} {tree : Files.Tree} {path : Files.Path}
    {defect : Yaml.Defect}
    (isAccident : IsReadAccident (Yaml.library room) tree path (.noValue defect)) :
    IsDefectAt false tree path defect := by
  cases isAccident with
  | noValue found raised fails =>
    exact ⟨_, found, (Yaml.manifestDocuments_reads room _).allowed_of_eq_error fails⟩

/-- A key that comes twice in an ordered mapping is such a defect. -/
example : (Yaml.library Yaml.usualRoom).manifestDocuments
    (decodeFile (encodeUtf8 "a: !!omap [b: 1, b: 2]")) = .error .repeatedEntry := by
  decide +kernel

/-- What is read of a file depends on its documents. -/
theorem result_readExisting (library : Yaml.Library) {tree : Files.Tree} {path : Files.Path}
    {content : List UInt8} (found : tree.find path = .ok (.file content)) :
    (readExisting library tree path).result =
      match presentDocuments library (decodeFile content) with
      | .ok documents =>
        if documents.all fun document => document.entries?.isSome then .ok documents
        else .error (.failure (notMappings path))
      | .error .malformed => .error (.failure (unreadable path Yaml.Defect.malformed.message))
      | .error defect => .error (.accident (.noValue defect)) := by
  have read : tree.read path = .ok content := by rw [Files.Tree.read, found]; rfl
  rw [readExisting, readPresent, read]
  dsimp only
  cases presentDocuments library (decodeFile content) with
  | ok documents =>
    simp only [Recorded.result_bind, Recorded.result_pure]
    split <;> rfl
  | error defect => cases defect <;> rfl

/-- What is read depends on what is found at the path. -/
theorem result_readAt (library : Yaml.Library) (tree : Files.Tree) (path : Files.Path) :
    (readAt library tree path).result =
      match tree.find path with
      | .ok (.file _) => (readExisting library tree path).result
      | .ok .directory =>
        .error (.failure (unreadable path (FileError.message ⟨.isDirectory, path.toText⟩)))
      | .error .tooLong => .error (.accident (.refused ⟨.tooLong, path.toText⟩))
      | .error _ => .error (.failure (notFound tree.home path)) := by
  unfold readAt Files.Tree.hasAny
  cases found : tree.find path with
  | ok entry =>
    cases entry with
    | file content => rfl
    | directory =>
      have read : tree.read path = .error .isDirectory := by rw [Files.Tree.read, found]; rfl
      dsimp only
      rw [readExisting, readPresent, read]
      rfl
  | error refusal => cases refusal <;> rfl

/-- The documents of a file are mappings exactly if they have these entries. -/
theorem filterMap_entries?_eq_iff (documents : List Document) (found : List Entries) :
    (documents.all (fun document => document.entries?.isSome) = true ∧
        documents.filterMap Document.entries? = found) ↔
      List.Forall₂ (fun document entries => document.entries? = some entries) documents found := by
  induction documents generalizing found with
  | nil => cases found <;> simp
  | cons document documents ih =>
    cases isMapping : document.entries? with
    | none => cases found <;> simp [isMapping]
    | some entries => cases found <;> simp [isMapping, ← ih, and_left_comm]

/-- What is read of the file that a text names is what is read at its path. -/
theorem result_read (files : LoggedFiles) (name : String) :
    (read files name).result =
      (readAt files.library (treeFor files (.ofText name)) (.ofText name)).result.map
        fun documents => documents.filterMap Document.entries? := by
  rw [read, readDocuments, treeFor]
  simp only [Recorded.result_bind, Recorded.result_andThenWith, Recorded.result_pure]

/-- A manifest is read from a file exactly if its documents are there. -/
theorem read_eq_ok_iff (files : LoggedFiles) (name : String) (documents : List Entries) :
    (read files name).result = .ok documents ↔
      AreAt files.library (treeFor files (.ofText name)) (.ofText name) documents := by
  rw [result_read, result_readAt]
  unfold AreAt
  split
  · rename_i content found
    rw [result_readExisting _ found]
    simp only [found, ← filterMap_entries?_eq_iff]
    split
    · rename_i present denotes
      split
      · rename_i mappings
        rw [List.all_eq_true] at mappings
        simpa [denotes, Except.map] using fun _ => mappings
      · rename_i other
        rw [List.all_eq_true] at other
        simpa [denotes, Except.map] using fun mappings => absurd mappings other
    · rename_i malformed
      simp [malformed, Except.map]
    · rename_i isDefect
      simp [isDefect, Except.map]
  · rename_i found
    simp [found, Except.map]
  · rename_i found
    simp [found, Except.map]
  · rename_i found
    simp [found, Except.map]

/-- A text has no present documents exactly if it has no documents, for the same reason. -/
theorem presentDocuments_eq_error_iff (library : Yaml.Library) (text : Decoded)
    (defect : Yaml.Defect) :
    presentDocuments library text = .error defect ↔
      library.manifestDocuments text = .error defect := by
  rw [presentDocuments]
  cases library.manifestDocuments text <;> simp [Except.map]

/-- The documents of a file are an accident if its text is given up for another reason than that it
is malformed. -/
theorem readExisting_eq_accident_iff (library : Yaml.Library) {tree : Files.Tree}
    {path : Files.Path} {content : List UInt8} (found : tree.find path = .ok (.file content))
    (accident : Accident) :
    (readExisting library tree path).result = .error (.accident accident) ↔
      ∃ defect, library.manifestDocuments (decodeFile content) = .error defect ∧
        defect ≠ .malformed ∧ accident = .noValue defect := by
  simp only [← presentDocuments_eq_error_iff]
  rw [result_readExisting _ found]
  cases presentDocuments library (decodeFile content) with
  | ok documents =>
    dsimp only
    split <;> simp
  | error defect => cases defect <;> simp [eq_comm]

/-- An accident that happens when the documents at a path are read has a cause, and the other way
round. -/
theorem readAt_eq_accident_iff {library : Yaml.Library} {tree : Files.Tree} {path : Files.Path}
    (spells : SpellsCharacters library.manifestDocuments tree path) (accident : Accident) :
    (readAt library tree path).result = .error (.accident accident) ↔
      IsReadAccident library tree path accident := by
  rw [result_readAt]
  constructor
  · intro ends
    split at ends
    · rename_i content found
      obtain ⟨defect, fails, other, rfl⟩ := (readExisting_eq_accident_iff _ found _).1 ends
      exact .noValue found (isRaised_of_spells spells found fails other) fails
    · cases ends
    · rename_i found
      cases ends
      exact .tooLong ((find_eq_tooLong_iff tree path).1 found)
    · cases ends
  · intro isAccident
    cases isAccident with
    | tooLong long => rw [(find_eq_tooLong_iff tree path).2 long]
    | noValue found raised fails =>
      rw [found]
      exact (readExisting_eq_accident_iff _ found _).2 ⟨_, fails, raised.1, rfl⟩

/-- An accident that happens when a manifest is read has a cause, and the other way round. -/
theorem read_eq_accident_iff {files : LoggedFiles} {name : String}
    (spells : SpellsCharacters files.library.manifestDocuments (treeFor files (.ofText name))
      (.ofText name)) (accident : Accident) :
    (read files name).result = .error (.accident accident) ↔
      IsReadAccident files.library (treeFor files (.ofText name)) (.ofText name) accident := by
  rw [← readAt_eq_accident_iff spells, result_read]
  cases (readAt files.library (treeFor files (.ofText name)) (.ofText name)).result <;>
    simp [Except.map]

/-- What is wrong with a manifest is reported as a failure of the manifest. -/
theorem category_of_read {files : LoggedFiles} {name : String} {failure : Failure}
    (fails : (read files name).result = .error (.failure failure)) :
    failure.category = .manifest := by
  rw [result_read, result_readAt] at fails
  split at fails
  · rename_i content found
    rw [result_readExisting _ found] at fails
    split at fails
    · split at fails <;> cases fails
      rfl
    · cases fails
      rfl
    · cases fails
  · cases fails
    rfl
  · cases fails
  · cases fails
    rfl

/-! ## Pods and nodes -/

/-- A document of a kind keeps those of this kind from being collected. -/
def IsObstacleOf {α : Type} (kind : String) (parse : Entries → Except DocumentError α)
    (document : Entries) (error : LoadError) : Prop :=
  isKind kind document = true ∧ ofDocuments (parse document) = .error error

/-- What goes wrong without a report when something is collected from a manifest, given which
documents stand in the way. -/
inductive IsLoadAccident (files : LoggedFiles) (name : String)
    (Stops : Entries → LoadError → Prop) : Accident → Prop where
  /-- The manifest cannot be read. -/
  | reading {accident : Accident}
    (fails : IsReadAccident files.library (treeFor files (.ofText name)) (.ofText name) accident) :
    IsLoadAccident files name Stops accident
  /-- The first document that stands in the way cannot be shown in a report. -/
  | report {before : List Entries} {document : Entries} {after : List Entries}
    (areAt : AreAt files.library (treeFor files (.ofText name)) (.ofText name)
      (before ++ document :: after))
    (stops : Stops document (.accident .unshown))
    (clear : ∀ earlier ∈ before, ∀ error, ¬ Stops earlier error) :
    IsLoadAccident files name Stops .unshown

section Collecting

variable {α : Type} {files : LoggedFiles} {name : String}

/-- A report of a document that cannot be made is an accident, and there is no other one. -/
theorem eq_unshown_of_ofDocuments {outcome : Except DocumentError α} {accident : Accident}
    (fails : ofDocuments outcome = .error (.accident accident)) : accident = .unshown := by
  obtain ⟨cause, -, same⟩ := (ofDocuments_eq_error_iff _ _).1 fails
  unfold errorOf at same
  split at same
  · cases same
  · cases same
    rfl

/-- What is wrong with a document is reported as a failure of the manifest or of a toleration. -/
theorem category_of_ofDocuments {outcome : Except DocumentError α} {failure : Failure}
    (fails : ofDocuments outcome = .error (.failure failure)) :
    failure.category ∈ [FailureCategory.manifest, .invalidToleration] := by
  obtain ⟨cause, -, -, rfl⟩ := (ofDocuments_eq_failure_iff failure).1 fails
  cases cause <;> simp [DocumentError.failure, Toleration.unmatchableFailure]

/-- A document without a fault stands in no way, and the other way round. -/
theorem forall_not_isObstacleOf_iff (kind : String) (parse : Entries → Except DocumentError α)
    (document : Entries) :
    (∀ error, ¬ IsObstacleOf kind parse document error) ↔
      (isKind kind document = true → ∃ value, parse document = .ok value) := by
  unfold IsObstacleOf
  cases is : isKind kind document with
  | false => simp
  | true => cases parse document <;> simp [ofDocuments, Except.mapError]

/-- What is collected of a kind fails at the first document that stands in the way. -/
theorem ofDocuments_mapM_eq_error_iff (kind : String)
    (parse : Entries → Except DocumentError α) (documents : List Entries) (error : LoadError) :
    ofDocuments ((documents.filter (isKind kind)).mapM parse) = .error error ↔
      ∃ before document after, documents = before ++ document :: after ∧
        IsObstacleOf kind parse document error ∧
        ∀ earlier ∈ before, ∀ other, ¬ IsObstacleOf kind parse earlier other := by
  rw [(collects_mapM kind parse documents).error_iff]
  simp only [forall_not_isObstacleOf_iff]
  simp only [IsObstacleOf, and_assoc]

variable {collect : List Entries → Recorded (Except LoadError α)}
  {Stops : Entries → LoadError → Prop}

/-- What is collected from a manifest ends with an accident if reading it does, or if the first
document that stands in the way cannot be shown. -/
theorem load_eq_accident_iff
    (spells : SpellsCharacters files.library.manifestDocuments (treeFor files (.ofText name))
      (.ofText name))
    (first : ∀ documents error, (collect documents).result = .error error ↔
      ∃ before document after, documents = before ++ document :: after ∧
        Stops document error ∧ ∀ earlier ∈ before, ∀ other, ¬ Stops earlier other)
    (unshown : ∀ document accident, Stops document (.accident accident) → accident = .unshown)
    (accident : Accident) :
    (load files name collect).result = .error (.accident accident) ↔
      IsLoadAccident files name Stops accident := by
  constructor
  · intro ends
    cases outcome : (read files name).result with
    | error error =>
      rw [load, Recorded.result_bind, outcome] at ends
      cases ends
      exact .reading ((read_eq_accident_iff spells accident).1 outcome)
    | ok documents =>
      rw [result_load outcome, first] at ends
      obtain ⟨before, document, after, rfl, stops, clear⟩ := ends
      obtain rfl := unshown document accident stops
      exact .report ((read_eq_ok_iff files name _).1 outcome) stops clear
  · intro isAccident
    cases isAccident with
    | reading fails =>
      rw [load, Recorded.result_bind, (read_eq_accident_iff spells accident).2 fails]
      rfl
    | report areAt stops clear =>
      rw [result_load ((read_eq_ok_iff files name _).2 areAt), first]
      exact ⟨_, _, _, rfl, stops, clear⟩

/-- What is wrong with a manifest or with what is collected from it is reported as a failure of the
manifest or of a toleration. -/
theorem category_of_load
    (known : ∀ documents failure, (collect documents).result = .error (.failure failure) →
      failure.category ∈ [FailureCategory.manifest, .invalidToleration])
    {failure : Failure} (fails : (load files name collect).result = .error (.failure failure)) :
    failure.category ∈ [FailureCategory.manifest, .invalidToleration] := by
  cases outcome : (read files name).result with
  | error error =>
    rw [load, Recorded.result_bind, outcome] at fails
    cases fails
    simp [category_of_read outcome]
  | ok documents =>
    rw [result_load outcome] at fails
    exact known documents failure fails

/-- The first declaration of a kind is reported as all of them are, or it is reported that there is
none. -/
theorem TakesFirst.reportsBut {kind : String} {collected : Except LoadError (List α)}
    {first : Except LoadError α} (takes : TakesFirst kind name collected first)
    {IsAccident : Accident → Prop}
    (reports : ReportsBut [.manifest, .invalidToleration] IsAccident collected) :
    ReportsBut [.manifest, .invalidToleration] IsAccident first := by
  cases outcome : collected with
  | error error =>
    rw [outcome] at reports
    rw [takes.failed error outcome]
    refine reportsBut_of_accident_iff ?_ fun accident => ?_
    · rintro failure ⟨rfl⟩
      exact reports.category rfl
    · rw [← reports.accident_iff]
      simp
  | ok values =>
    have none (accident : Accident) : ¬ IsAccident accident := by
      rw [← reports.accident_iff, outcome]
      nofun
    cases values with
    | nil =>
      rw [takes.missing outcome]
      refine reportsBut_of_accident_iff ?_ fun accident => iff_of_false nofun (none accident)
      rintro _ ⟨rfl⟩
      simp [noneFound]
    | cons value others =>
      rw [takes.found value others outcome]
      exact reportsBut_of_accident_iff nofun fun accident => iff_of_false nofun (none accident)

/-- The declarations of a kind are collected from a manifest, or it is reported why not. -/
theorem reportsBut_load_kind
    (spells : SpellsCharacters files.library.manifestDocuments (treeFor files (.ofText name))
      (.ofText name))
    (kind : String) (parse : Entries → Except DocumentError α) :
    ReportsBut [.manifest, .invalidToleration]
      (IsLoadAccident files name (IsObstacleOf kind parse))
      (load files name fun documents =>
        pure (ofDocuments ((documents.filter (isKind kind)).mapM parse))).result := by
  refine reportsBut_of_accident_iff (fun failure => ?_) fun accident => ?_
  · exact category_of_load fun documents failure fails => category_of_ofDocuments fails
  · exact load_eq_accident_iff spells (ofDocuments_mapM_eq_error_iff kind parse)
      (fun document accident stops => eq_unshown_of_ofDocuments stops.2) accident

/-- The pods and the nodes of a manifest are collected, or it is reported why not. -/
theorem reportsBut_loadAll
    (spells : SpellsCharacters files.library.manifestDocuments (treeFor files (.ofText name))
      (.ofText name)) :
    ReportsBut [.manifest, .invalidToleration] (IsLoadAccident files name IsObstacle)
      (loadAll files name).result := by
  refine reportsBut_of_accident_iff (fun failure => ?_) fun accident => ?_
  · refine category_of_load fun documents failure fails => ?_
    obtain ⟨_, document, _, _, obstacle, _⟩ := (declarationsOf_eq_error_iff _ _).1 fails
    cases obstacle with
    | pod is fails => exact category_of_ofDocuments fails
    | node is fails => exact category_of_ofDocuments fails
  · refine load_eq_accident_iff spells declarationsOf_eq_error_iff
      (fun document accident obstacle => ?_) accident
    cases obstacle with
    | pod is fails => exact eq_unshown_of_ofDocuments fails
    | node is fails => exact eq_unshown_of_ofDocuments fails
    | foreign => rfl

end Collecting

end Manifest

/-! ## The files that loading is followed on -/

namespace Document

mutual

/-- How many lists, sets and mappings are within each other. -/
def depth : Document → Nat
  | .list items | .tuple items | .set items => depthOfItems items + 1
  | .mapping entries | .ordered entries => depthOfEntries entries + 1
  | .cyclic _ content => depth content
  | _ => 0

/-- The largest depth of an element. -/
def depthOfItems : List Document → Nat
  | [] => 0
  | item :: items => max (depth item) (depthOfItems items)

/-- The largest depth of a key or a value. -/
def depthOfEntries : List (Document × Document) → Nat
  | [] => 0
  | (key, value) :: entries => max (max (depth key) (depth value)) (depthOfEntries entries)

end

/-- Documents of this depth can be shown, with up to three calls out of a thousand for each list,
set or mapping. -/
def shownDepth : Nat := 200

end Document

/-- What is loaded from the file that a text names is followed to its end: no escape in it names
half of a character, and the documents of a manifest are not too deep to be shown. -/
structure IsFollowed (files : LoggedFiles) (name : String) : Prop where
  /-- No escape in a profile names half of a character. -/
  profile : SpellsCharacters files.library.profileDocument
    (NodeProfile.treeFor files (.ofText name)) (.ofText name)
  /-- No escape in a manifest names half of a character. -/
  manifest : SpellsCharacters files.library.manifestDocuments (treeFor files (.ofText name))
    (.ofText name)
  /-- The documents of a manifest are not too deep to be shown. No depth is too much for a report of
  this development, so this only leaves out what a limit elsewhere could make false. -/
  shallow : ∀ documents,
    AreAt files.library (treeFor files (.ofText name)) (.ofText name) documents →
    ∀ document ∈ documents, (Document.mapping document).depth ≤ Document.shownDepth

/-- Whatever the path, the bytes and the library are, loading a profile gives the valid profile that
is there or a report on the configuration, and reading a manifest gives the mappings that are there
or a report on the manifest. Loading a pod, a node or all of them gives a value or a report on the
manifest or on a toleration. There are no exceptions but the accidents that are listed. With the
readers of this development, a text is given up for a defect of it. -/
theorem loading_reports (files : LoggedFiles) (name : String) (followed : IsFollowed files name) :
    (∀ profile, (NodeProfile.load files name).result = .ok profile ↔
      NodeProfile.IsAt files.library (NodeProfile.treeFor files (.ofText name)) (.ofText name)
        profile) ∧
    ReportsBut [.configuration]
      (NodeProfile.IsAccident files.library (NodeProfile.treeFor files (.ofText name))
        (.ofText name))
      (NodeProfile.load files name).result ∧
    (∀ documents, (read files name).result = .ok documents ↔
      AreAt files.library (treeFor files (.ofText name)) (.ofText name) documents) ∧
    ReportsBut [.manifest]
      (IsReadAccident files.library (treeFor files (.ofText name)) (.ofText name))
      (read files name).result ∧
    ReportsBut [.manifest, .invalidToleration]
      (IsLoadAccident files name (IsObstacleOf "Pod" parsePod)) (loadPod files name).result ∧
    ReportsBut [.manifest, .invalidToleration]
      (IsLoadAccident files name (IsObstacleOf "Node" parseNode)) (loadNode files name).result ∧
    ReportsBut [.manifest, .invalidToleration] (IsLoadAccident files name IsObstacle)
      (loadAll files name).result ∧
    ∀ room defect, files.library = Yaml.library room →
      (NodeProfile.IsAccident files.library (NodeProfile.treeFor files (.ofText name))
          (.ofText name) (.noValue defect) →
        IsDefectAt true (NodeProfile.treeFor files (.ofText name)) (.ofText name) defect) ∧
      (IsReadAccident files.library (treeFor files (.ofText name)) (.ofText name)
          (.noValue defect) →
        IsDefectAt false (treeFor files (.ofText name)) (.ofText name) defect) := by
  obtain ⟨spellsProfile, spells, -⟩ := followed
  have profile := NodeProfile.result_load files name
  refine ⟨fun value => ?_, ?_, read_eq_ok_iff files name, ?_, ?_, ?_, reportsBut_loadAll spells,
    fun room defect own => ?_⟩
  · rw [profile]
    exact NodeProfile.loadAt_eq_ok_iff _ _ _ value
  · rw [profile]
    refine reportsBut_of_accident_iff (fun failure fails => ?_)
      (NodeProfile.loadAt_eq_accident_iff spellsProfile)
    simp [NodeProfile.category_of_loadAt fails]
  · refine reportsBut_of_accident_iff (fun failure fails => ?_) (read_eq_accident_iff spells)
    simp [category_of_read fails]
  · exact (takesFirst_loadPod files name).reportsBut (reportsBut_load_kind spells "Pod" parsePod)
  · exact (takesFirst_loadNode files name).reportsBut
      (reportsBut_load_kind spells "Node" parseNode)
  · rw [own]
    exact ⟨NodeProfile.isDefectAt_of_isAccident, isDefectAt_of_isReadAccident⟩

/-- A file with a key that is a number. -/
def numberedFiles : LoggedFiles :=
  .ofTree (({} : Files.Tree).put ["p.yaml"] (.file (encodeUtf8 "kind: Pod\n1: a\n")))

/-- No profile is loaded from that file, and there is no report. Its document is read, and nothing
else happens to the pod than that its faults are reported. -/
theorem loading_reports_numberedFiles :
    IsFollowed numberedFiles "p.yaml" ∧
    NodeProfile.IsAccident numberedFiles.library
      (NodeProfile.treeFor numberedFiles (.ofText "p.yaml")) (.ofText "p.yaml") .keyNotText ∧
    AreAt numberedFiles.library (treeFor numberedFiles (.ofText "p.yaml")) (.ofText "p.yaml")
      [[(.text "kind", .text "Pod"), (.int 1, .text "a")]] ∧
    ∀ accident, ¬ IsLoadAccident numberedFiles "p.yaml" (IsObstacleOf "Pod" parsePod) accident := by
  have atProfile : (NodeProfile.treeFor numberedFiles (.ofText "p.yaml")).find (.ofText "p.yaml") =
      .ok (.file (encodeUtf8 "kind: Pod\n1: a\n")) := by
    decide +kernel
  have atManifest : (treeFor numberedFiles (.ofText "p.yaml")).find (.ofText "p.yaml") =
      .ok (.file (encodeUtf8 "kind: Pod\n1: a\n")) := by
    decide +kernel
  have read : (read numberedFiles "p.yaml").result =
      .ok [[(.text "kind", .text "Pod"), (.int 1, .text "a")]] := by
    decide +kernel
  have invalid : (loadPod numberedFiles "p.yaml").result =
      .error (.failure ⟨.manifest, "Invalid Pod '<unnamed>'",
        some "  - containers: Value error, pod must declare at least one container"⟩) := by
    decide +kernel
  have followed : IsFollowed numberedFiles "p.yaml" := by
    refine ⟨fun content found => ?_, fun content found => ?_, fun documents areAt => ?_⟩
    · rw [atProfile] at found
      cases found
      decide +kernel
    · rw [atManifest] at found
      cases found
      decide +kernel
    · rw [← read_eq_ok_iff, read] at areAt
      cases areAt
      decide +kernel
  obtain ⟨-, profile, documents, -, pod, -, -, -⟩ :=
    loading_reports numberedFiles "p.yaml" followed
  refine ⟨followed, (profile.accident_iff _).1 (by decide +kernel), (documents _).1 read,
    fun accident isAccident => ?_⟩
  rw [← pod.accident_iff, invalid] at isAccident
  cases isAccident

/-- A file with a byte that begins no character. -/
def illFormedFiles : LoggedFiles :=
  .ofTree (({} : Files.Tree).put ["p.yaml"]
    (.file (encodeUtf8 "node_name: n" ++ [0xff] ++ encodeUtf8 "\n")))

/-- Neither a profile nor a manifest is loaded from that file, and there is no report. -/
theorem not_isReported_illFormedFiles :
    ¬ IsReported [.configuration] (NodeProfile.load illFormedFiles "p.yaml").result ∧
    ¬ IsReported [.manifest] (read illFormedFiles "p.yaml").result := by
  have profile : (NodeProfile.load illFormedFiles "p.yaml").result =
      .error (.accident (.noValue (.notUnicode ⟨12, [0xff], .start⟩))) := by
    decide +kernel
  have manifest : (read illFormedFiles "p.yaml").result =
      .error (.accident (.noValue (.notUnicode ⟨12, [0xff], .start⟩))) := by
    decide +kernel
  rw [profile, manifest]
  constructor
  · rintro (⟨_, loaded⟩ | ⟨_, fails, _⟩)
    · cases loaded
    · cases fails
  · rintro (⟨_, loaded⟩ | ⟨_, fails, _⟩)
    · cases loaded
    · cases fails

end PodLaunch
