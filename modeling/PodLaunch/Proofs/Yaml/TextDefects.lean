import PodLaunch.Proofs.Yaml.TokenDefects

/-!
# The defects of texts

Every defect of a text is one of those that are listed for its dialect: those of its tokens, those
of its scalars, and those that come up when lists and mappings are filled. A defect of its bytes is
the one at which decoding them stops.
-/

namespace PodLaunch.Yaml

open Text Number

variable {isProfile : Bool} {text : Decoded}

/-! ## Scalars -/

/-- A numeral is an integer, or it is too long, or it is none. -/
theorem integerIn_reads (base : Nat) (numeral : List Char) :
    Reads isProfile text (fun _ => True) (integerIn base numeral) := by
  unfold integerIn
  dsimp only
  split
  · exact .value (.longInteger _)
  · split
    · exact trivial
    · exact .value (.badInteger _ _)

/-- A scalar is an integer, or one of its numerals is none. -/
theorem integerValue_reads (dialect : Dialect) (chars : List Char) :
    Reads isProfile text (fun _ => True) (integerValue dialect chars) := by
  have empty : IsDefectOf isProfile text .emptyNumeral := .value .emptyNumeral
  have signed (base : Nat) (numeral : List Char) (sign : Int → Int) :
      Reads isProfile text (fun _ => True) (integerIn base numeral >>= fun n => pure (sign n)) :=
    (integerIn_reads base numeral).bind fun _ _ => trivial
  unfold integerValue
  dsimp only
  refine yields_ite empty ?_
  split
  · exact trivial
  · exact signed _ _ _
  · exact signed _ _ _
  · refine yields_ite (signed _ _ _) (yields_ite (signed _ _ _) ?_)
    refine yields_ite empty (yields_ite (signed _ _ _) (yields_ite ?_ (signed _ _ _)))
    exact (yields_mapM (integerIn_reads 10) _).bind fun _ _ => trivial

/-- A numeral is a floating-point number, or it is none. -/
theorem floatIn_reads (numeral : List Char) :
    Reads isProfile text (fun _ => True) (floatIn numeral) := by
  unfold floatIn
  dsimp only
  refine yields_ite trivial (yields_ite trivial ?_)
  split
  · exact trivial
  · exact .value (.badFloat _)

/-- Digits of base sixty have a sum, or one of them stands too far in front. -/
theorem sixtiethsSum_reads (sum : Binary64) (power : Nat) (digits : List Binary64) :
    Reads isProfile text (fun _ => True) (sixtiethsSum sum power digits) := by
  have scaled (digit : Binary64) (power : Nat) :
      Reads isProfile text (fun _ => True) (scaleBySixty digit power) := by
    unfold scaleBySixty
    split
    · exact .value .largeFactor
    · exact trivial
  induction digits generalizing sum power with
  | nil => exact trivial
  | cons digit digits ih => exact (scaled digit power).bind fun _ _ => ih _ _

/-- A scalar is a floating-point number, or one of its numerals is none. -/
theorem floatValue_reads (dialect : Dialect) (chars : List Char) :
    Reads isProfile text (fun _ => True) (floatValue dialect chars) := by
  have magnitude (body : List Char) :
      Reads isProfile text (fun _ => True) (floatMagnitude dialect body) := by
    unfold floatMagnitude
    refine yields_ite trivial (yields_ite trivial (yields_ite ?_ (floatIn_reads body)))
    exact (yields_mapM floatIn_reads _).bind fun _ _ => sixtiethsSum_reads _ _ _
  unfold floatValue
  dsimp only
  refine yields_ite (.value .emptyNumeral) ?_
  exact (magnitude _).bind fun _ _ => trivial

/-- A scalar of a kind has a value, or that is a defect of the dialect. -/
theorem scalarDocument_reads {dialect : Dialect} (is : dialect.isProfile = isProfile)
    (kind : ScalarKind) (chars : String) :
    Reads isProfile text (fun _ => True) (scalarDocument dialect kind chars) := by
  have truth : Reads isProfile text (fun _ => True) (boolValue dialect chars) := by
    unfold boolValue
    dsimp only
    exact yields_ite trivial (yields_ite trivial (.value (.badBool _)))
  have bytes : Reads isProfile text (fun _ => True) (bytesValue chars) := by
    unfold bytesValue
    exact yields_ite (yields_orMalformed .malformed _) .malformed
  have time : Reads isProfile text (fun _ => True) (timestampValue dialect chars) := by
    unfold timestampValue
    split
    · rename_i stamp _
      cases stamp.toDocument dialect with
      | ok document => exact trivial
      | error cause => exact .value (.badTime cause)
    · split
      · rename_i profile
        exact .value (.noTime (is.symm.trans profile))
      · exact .malformed
  cases kind with
  | null => exact trivial
  | bool => exact truth.map _
  | int => exact (integerValue_reads dialect _).map _
  | float => exact (floatValue_reads dialect _).map _
  | bytes => exact bytes.map _
  | timestamp => exact time
  | text => exact trivial
  | merge => exact .malformed
  | standIn => exact .malformed

/-! ## Merge keys -/

/-- A step that takes merge keys away finds that the text is malformed, or nothing wrong. -/
abbrev Merges (isProfile : Bool) (text : Decoded) {α : Type} (result : Except Defect α) : Prop :=
  Reads isProfile text (fun _ => True) result

/-- The value of a merge key contributes entries, or the text is malformed. -/
theorem contribution_merges {withoutMerge : Node → Collections → Except Defect Collections}
    (merges : ∀ node collections, Merges isProfile text (withoutMerge node collections))
    (value : Node) (collections : Collections) :
    Merges isProfile text (contribution withoutMerge value collections) := by
  have one (node : Node) (collections : Collections) :
      Merges isProfile text (entriesAfter withoutMerge node collections) := by
    refine (merges node collections).bind fun collections _ => ?_
    split
    · exact trivial
    · exact .malformed
  have several (nodes : List Node) (collections : Collections) :
      Merges isProfile text (entriesOfAll withoutMerge nodes collections) := by
    induction nodes generalizing collections with
    | nil => exact trivial
    | cons node nodes ih =>
      exact (one node collections).bind fun _ _ => (ih _).bind fun _ _ => trivial
  unfold contribution
  split
  · exact several _ _
  · exact one _ _

/-- The merge keys of a mapping are taken away, or the text is malformed. -/
theorem takeMerged_merges (dialect : Dialect) (steps : Nat) (merged : List (Node × Node))
    (node : Node) (collections : Collections) :
    Merges isProfile text (takeMerged dialect steps merged node collections) := by
  induction steps generalizing merged node collections with
  | zero => exact .malformed
  | succ steps ih =>
    cases node with
    | scalar => exact .malformed
    | collection number =>
      rw [takeMerged]
      split
      · split
        · exact trivial
        · refine yields_ite .malformed ?_
          exact (contribution_merges (ih []) _ _).bind fun _ _ => ih _ _ _
      · exact .malformed

/-! ## Lists and mappings -/

namespace Building

/-- A step of building goes on in the dialect of profiles or in that of manifests. -/
abbrev Builds (isProfile : Bool) (text : Decoded) (result : Except Defect (Part × Building)) :
    Prop :=
  Reads isProfile text (fun found => found.2.dialect.isProfile = isProfile) result

variable {building : Building}

/-- The text of a scalar is found, or the text as a whole is malformed, or mappings stand for each
other. -/
theorem scalarText_reads (collections : Collections) (steps : Nat) (node : Node) :
    Reads isProfile text (fun _ => True) (scalarText collections steps node) := by
  induction steps generalizing node with
  | zero =>
    cases node with
    | scalar => exact trivial
    | collection => exact .tooDeep
  | succ steps ih =>
    cases node with
    | scalar => exact trivial
    | collection number =>
      rw [scalarText]
      split
      · exact (yields_orMalformed .malformed _).bind fun entry _ => ih entry.2
      · exact .malformed
      · nofun

/-- A scalar is complete, or it has no value. -/
theorem scalar_reads (is : building.dialect.isProfile = isProfile) (kind : ScalarKind)
    (node : Node) : Reads isProfile text (fun _ => True) (building.scalar kind node) := by
  refine (scalarText_reads _ _ _).bind fun chars _ => ?_
  split
  · split
    · rename_i profile
      exact .value (.mappingAsTime (is.symm.trans profile))
    · exact .malformed
  · exact scalarDocument_reads is _ _

/-- A node is begun, or it has no value. -/
theorem begin_reads (is : building.dialect.isProfile = isProfile) (node : Node) :
    Reads isProfile text (fun found => found.2.1.dialect.isProfile = isProfile)
      (building.begin node) := by
  unfold begin
  split
  · exact (scalar_reads is _ _).bind fun _ _ => is
  · exact (yields_orMalformed .malformed _).bind fun _ _ => is
  · split
    · exact is
    · exact (scalar_reads is _ _).bind fun _ _ => is
    · exact (yields_orMalformed .malformed _).bind fun _ _ => is

/-- A node is begun and waits to be filled, or it has no value. -/
theorem later_builds (is : building.dialect.isProfile = isProfile) (node : Node) :
    Builds isProfile text (later node building) := by
  refine (begin_reads is node).bind fun ⟨part, begun, isEmpty⟩ is => ?_
  dsimp only
  split
  · exact is
  · exact is

/-- A part is a key, or the text is malformed. Only in a manifest, something in a key may be wrong.
-/
theorem key_reads (is : building.dialect.isProfile = isProfile) (part : Part) :
    Reads isProfile text (fun found => ∀ shape, found.2 = some shape → isProfile = false)
      (building.key part) := by
  unfold key
  split
  · exact yields_ite .malformed nofun
  · split
    · exact .malformed
    · rename_i manifest
      have isManifest : isProfile = false := is.symm.trans (Bool.eq_false_iff.2 manifest)
      split
      · exact fun _ _ => isManifest
      · exact fun _ _ => isManifest
      · exact .malformed

/-- A part is a key of an ordered mapping, which only a manifest has, or it cannot be one. -/
theorem orderedKey_reads (manifest : isProfile = false) (part : Part) :
    Reads isProfile text (fun _ => True) (building.orderedKey part) := by
  unfold orderedKey
  split
  · exact .value (.nestedKey _ manifest)
  · exact trivial

/-- A mapping has one entry, or the text is malformed. -/
theorem pairNodes_reads (node : Node) :
    Reads isProfile text (fun _ => True) (building.pairNodes node) := by
  unfold pairNodes
  split
  · exact trivial
  · exact .malformed

/-- What a node is begun as is an ordered mapping in a manifest only. -/
theorem yields_draft? (is : building.dialect.isProfile = isProfile) (meaning : Meaning) :
    Reads isProfile text (fun empty => empty.shape = .ordered → isProfile = false)
      (orMalformed (meaning.draft? building.dialect)) := by
  rw [← is]
  cases meaning with
  | ordered =>
    cases isManifest : building.dialect.isProfile with
    | true =>
      rw [Meaning.draft?, isManifest]
      exact nofun
    | false => exact fun _ => rfl
  | scalar | unknown => exact .malformed
  | _ => exact nofun

section Filling

variable {keyPart part : Node → Building → Except Defect (Part × Building)}
  (buildsKey : ∀ node (building : Building), building.dialect.isProfile = isProfile →
    Builds isProfile text (keyPart node building))
  (builds : ∀ node (building : Building), building.dialect.isProfile = isProfile →
    Builds isProfile text (part node building))

include builds

/-- The elements of a list are built one by one. -/
theorem parts_reads (is : building.dialect.isProfile = isProfile) (nodes : List Node) :
    Reads isProfile text (fun found => found.2.dialect.isProfile = isProfile)
      (parts part nodes building) := by
  induction nodes generalizing building with
  | nil => exact is
  | cons node nodes ih =>
    exact (builds node building is).bind fun _ is => (ih is).bind fun _ is => is

/-- Pairs are built one by one. -/
theorem pairs_reads (is : building.dialect.isProfile = isProfile) (nodes : List Node) :
    Reads isProfile text (fun found => found.2.dialect.isProfile = isProfile)
      (pairs part nodes building) := by
  induction nodes generalizing building with
  | nil => exact is
  | cons node nodes ih =>
    refine (pairNodes_reads node).bind fun ⟨keyNode, valueNode⟩ _ => ?_
    refine (builds keyNode building is).bind fun _ is => ?_
    exact (builds valueNode _ is).bind fun _ is => (ih is).bind fun _ is => is

/-- The entries of an ordered mapping of a manifest are built one by one. -/
theorem orderedEntries_reads (is : building.dialect.isProfile = isProfile)
    (manifest : isProfile = false) (earlier : List (Document × Part)) (nodes : List Node) :
    Reads isProfile text (fun found => found.2.dialect.isProfile = isProfile)
      (orderedEntries part earlier nodes building) := by
  induction nodes generalizing building earlier with
  | nil => exact is
  | cons node nodes ih =>
    refine (pairNodes_reads node).bind fun ⟨keyNode, valueNode⟩ _ => ?_
    refine (builds keyNode building is).bind fun ⟨keyPart, _⟩ is => ?_
    refine (orderedKey_reads manifest keyPart).bind fun key _ => ?_
    refine yields_ite (.value (.repeatedEntry manifest)) ?_
    exact (builds valueNode _ is).bind fun _ is => ih is _

include buildsKey

/-- The entries of a mapping are built one by one. In a manifest, a key may be repeated or be no
key. -/
theorem entries_reads (is : building.dialect.isProfile = isProfile) (isMerged : Bool)
    (earlier : List (Document × Part)) (own : List (Node × Node)) :
    Reads isProfile text (fun found => found.2.dialect.isProfile = isProfile)
      (entries keyPart part isMerged earlier own building) := by
  induction own generalizing building earlier with
  | nil => exact is
  | cons entry others ih =>
    obtain ⟨keyNode, valueNode⟩ := entry
    refine (buildsKey keyNode building is).bind fun ⟨_, _⟩ is => ?_
    refine (key_reads is _).bind fun ⟨key, nested⟩ manifest => ?_
    refine (builds valueNode _ is).bind fun ⟨value, building⟩ is => ?_
    have repeats (old : Part) (isManifest : building.dialect.isProfile = false) :
        IsDefectOf isProfile text (building.repeatedKey key value old) := by
      unfold repeatedKey
      split
      · exact .malformed
      · exact .value (.hiddenInteger (is.symm.trans isManifest))
    cases nested with
    | some shape => exact .value (.nestedKey shape (manifest shape rfl))
    | none =>
      dsimp only
      split
      · rename_i checks
        split
        · exact repeats _ (by simp_all)
        · exact ih is _
      · exact ih is _

/-- The entries of a mapping are built once its merge keys have been taken away. -/
theorem ownEntries_reads (is : building.dialect.isProfile = isProfile) (number : Nat) :
    Reads isProfile text (fun found => found.2.dialect.isProfile = isProfile)
      (ownEntries keyPart part number building) := by
  refine (takeMerged_merges _ _ _ _ _).bind fun collections _ => ?_
  dsimp only
  split
  · have written : ({ building with collections } : Building).dialect.isProfile = isProfile := is
    exact entries_reads buildsKey builds written _ _ _
  · exact .malformed

/-- What has been begun is built, or something in it has no value. Only a manifest has begun an
ordered mapping. -/
theorem filled_reads (is : building.dialect.isProfile = isProfile) (number : Nat) {empty : Draft}
    (ordered : empty.shape = .ordered → isProfile = false) (content : Content) :
    Reads isProfile text (fun found => found.2.dialect.isProfile = isProfile)
      (filled keyPart part number empty content building) := by
  unfold filled
  split
  · exact (parts_reads builds is _).bind fun _ is => is
  · exact (ownEntries_reads buildsKey builds is number).bind fun _ is => is
  · exact (ownEntries_reads buildsKey builds is number).bind fun _ is => is
  · exact (orderedEntries_reads builds is (ordered rfl) [] _).bind fun _ is => is
  · exact (pairs_reads builds is _).bind fun _ is => is
  · exact .malformed

/-- A node is filled, or something in it has no value. -/
theorem fill_reads (is : building.dialect.isProfile = isProfile) (node : Node) :
    Reads isProfile text (fun filled => filled.dialect.isProfile = isProfile)
      (fill keyPart part node building) := by
  unfold fill
  split
  · refine (yields_orMalformed .malformed _).bind fun content _ => ?_
    refine (yields_draft? is _).bind fun empty ordered => ?_
    exact (filled_reads buildsKey builds is _ ordered content).bind fun _ is => is
  · exact .malformed

end Filling

/-- A node is filled at once, or something in it has no value. -/
theorem atOnce_builds (steps : Nat) (node : Node) (building : Building)
    (is : building.dialect.isProfile = isProfile) :
    Builds isProfile text (atOnce steps node building) := by
  induction steps generalizing node building with
  | zero => exact .malformed
  | succ steps ih =>
    rw [atOnce]
    refine (begin_reads is node).bind fun ⟨part, begun, isEmpty⟩ is => ?_
    dsimp only
    split
    · exact (fill_reads ih ih is node).bind fun _ is => is
    · exact is

/-- A key is built, or something in it has no value. -/
theorem keyPart_builds (node : Node) (building : Building)
    (is : building.dialect.isProfile = isProfile) :
    Builds isProfile text (keyPart node building) := by
  unfold keyPart
  split
  · exact later_builds is node
  · exact atOnce_builds _ node building is

/-- All that waits is filled, or something in it has no value. -/
theorem fillWaiting_reads (steps : Nat) (is : building.dialect.isProfile = isProfile) :
    Reads isProfile text (fun filled => filled.dialect.isProfile = isProfile)
      (fillWaiting steps building) := by
  induction steps generalizing building with
  | zero => exact .malformed
  | succ steps ih =>
    rw [fillWaiting]
    split
    · exact is
    · have rest (waiting : List Node) :
          ({ building with waiting } : Building).dialect.isProfile = isProfile := is
      exact (fill_reads keyPart_builds (fun node _ is => later_builds is node) (rest _) _).bind
        fun _ is => ih is

end Building

/-- A root denotes a document, or something in it has no value. -/
theorem Node.denote_reads {dialect : Dialect} (is : dialect.isProfile = isProfile)
    (collections : Collections) (root : Node) :
    Reads isProfile text (fun _ => True) (root.denote dialect collections) := by
  unfold Node.denote
  refine (Building.later_builds is root).bind fun ⟨part, building⟩ is => ?_
  exact (Building.fillWaiting_reads _ is).bind fun _ _ => trivial

/-! ## Documents -/

/-- The defects of a text account for its tokens: only in a manifest, a plain scalar may have no
meaning. -/
theorem accountsFor_isDefectOf (isProfile : Bool) (text : Decoded) :
    AccountsFor (Lexeme.IsSound isProfile text) (IsDefectOf isProfile text) where
  malformed := .malformed
  defect _ sound cause isDefect := sound.defect cause isDefect
  meaning lexeme sound isPlain chars := by
    unfold Meaning.ofUntagged
    refine yields_ite trivial ?_
    match found : lexeme.dialect with
    | .profile => exact trivial
    | .manifest edition =>
      have manifest : isProfile = false := by
        rw [← sound.dialect, found]
        rfl
      exact yields_ite (.value (.unknownEdition edition manifest)) trivial

section Documents

variable {lexemes : List Lexeme}

/-- The next document is followed by sound tokens, and its dialect is as it should be. -/
theorem nextSection_reads (sound : AllOf (Lexeme.IsSound isProfile text) lexemes)
    (unmarked : Bool) :
    Reads isProfile text
      (fun next => ∀ found, next = some found →
        found.IsLeaving (Lexeme.IsSound isProfile text))
      (nextSection unmarked lexemes) := by
  have accounts := accountsFor_isDefectOf isProfile text
  have behind : AllOf (Lexeme.IsSound isProfile text) (skipEnds lexemes) := skipEnds_all sound
  have following {lexemes : List Lexeme} (sound : AllOf (Lexeme.IsSound isProfile text) lexemes)
      (handles : Handles) (mayBeEmpty : Bool) :
      Reads isProfile text
        (fun next => ∀ found, next = some found →
          found.IsLeaving (Lexeme.IsSound isProfile text))
        (do return some (← readSection handles mayBeEmpty lexemes)) := by
    refine (readSection_yields accounts sound _ _).bind fun found leaving => ?_
    rintro _ ⟨rfl⟩
    exact leaving
  rw [nextSection]
  refine (headLexeme_yields accounts sound).bind fun _ _ => ?_
  refine yields_ite (following sound _ _) ?_
  refine (headLexeme_yields accounts behind).bind fun first isSound => ?_
  refine yields_ite (by exact nofun) ?_
  refine (readPreamble_yields accounts behind {}).bind fun ⟨preamble, rest⟩ sound => ?_
  have edition : Reads isProfile text (fun _ => True) (preamble.checkEdition first.dialect) := by
    unfold Preamble.checkEdition
    split
    · rename_i edition _
      split
      · exact trivial
      · rename_i unsupported
        have manifest : isProfile = false := by
          rw [← isSound.dialect]
          simp_all
        exact .value (.unsupportedEdition edition manifest)
    · exact trivial
  refine edition.bind fun _ _ => ?_
  refine (headLexeme_yields accounts sound).bind fun start _ => ?_
  exact yields_ite .malformed (following (sound.drop 1) _ _)

/-- What a document denotes is looked for in the dialect of its tokens. -/
theorem Section.IsLeaving.denote_reads {found : Section}
    (leaving : found.IsLeaving (Lexeme.IsSound isProfile text)) :
    Reads isProfile text (fun _ => True) found.denote := by
  obtain ⟨lexeme, sound, same⟩ := leaving.dialect
  exact Node.denote_reads (same ▸ sound.dialect) found.collections found.root

/-- All documents are read, or something is wrong with the text. -/
theorem documentsFrom_reads (sound : AllOf (Lexeme.IsSound isProfile text) lexemes)
    (count : Nat) (unmarked : Bool) :
    Reads isProfile text (fun _ => True) (documentsFrom count unmarked lexemes) := by
  induction count generalizing unmarked lexemes with
  | zero => exact .malformed
  | succ count ih =>
    rw [documentsFrom]
    refine (nextSection_reads sound unmarked).bind fun next leaving => ?_
    split
    · exact trivial
    · rename_i found
      have leaves := leaving found rfl
      exact leaves.denote_reads.bind fun _ _ => (ih leaves.rest _).bind fun _ _ => trivial

end Documents

/-- Tokens are sound with and without the room that they need. -/
theorem withinRoom_sound {lexemes : List Lexeme}
    (sound : AllOf (Lexeme.IsSound isProfile text) lexemes) (room : Nat) :
    AllOf (Lexeme.IsSound isProfile text) (withinRoom room lexemes) := by
  induction lexemes generalizing room with
  | nil => exact sound
  | cons lexeme lexemes ih =>
    have first := sound lexeme List.mem_cons_self
    rw [withinRoom]
    split
    · exact List.forall_mem_cons.2 ⟨first, ih (sound.drop 1) _⟩
    · refine List.forall_mem_singleton.2 ⟨first.dialect, ?_⟩
      rintro _ ⟨rfl⟩
      exact .tooDeep

/-- A manifest has documents, or something that can be wrong with a manifest is wrong with it. -/
theorem manifestDocuments_reads (room : Nat) (text : Decoded) :
    Reads false text (fun _ => True) (manifestDocuments room text) :=
  documentsFrom_reads (withinRoom_sound (tokensOf_sound rfl text) room) _ true

/-- A profile has a document, or something that can be wrong with a profile is wrong with it. -/
theorem profileDocument_reads (room : Nat) (text : Decoded) :
    Reads true text (fun _ => True) (profileDocument room text) := by
  have accounts := accountsFor_isDefectOf true text
  have sound : AllOf (Lexeme.IsSound true text) (withinRoom room (tokensOf .profile text)) :=
    withinRoom_sound (tokensOf_sound rfl text) room
  refine (nextSection_reads sound true).bind fun next leaving => ?_
  split
  · exact trivial
  · rename_i found
    have leaves := leaving found rfl
    have behind : AllOf (Lexeme.IsSound true text) (skipEnds found.rest) :=
      skipEnds_all leaves.rest
    have only : Reads true text (fun _ => True) (checkOnly found) := by
      refine (headLexeme_yields accounts behind).bind fun _ _ => yields_ite trivial ?_
      exact (readPreamble_yields accounts behind {}).bind fun _ _ => .malformed
    exact only.bind fun _ _ => leaves.denote_reads

end PodLaunch.Yaml
