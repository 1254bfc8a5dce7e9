import PodLaunch.Proofs.Yaml.Readers

/-!
# The defects of tokens

A text that cannot be read is malformed or nested too deeply, or its bytes are not the encoding of
characters, or an escape in it names half of a character, or something in it that looks like a value
has none. Which values these can be depends on the dialect. As far as tokens are concerned, there
are two of them: the number of an edition, and a character that is given by its number.
-/

namespace PodLaunch.Yaml

open Text

/-! ## What can be wrong with a text -/

/-- Something in a text of a profile or of a manifest looks like a value and has none. -/
inductive IsValueDefect (isProfile : Bool) : Defect → Prop where
  /-- A numeral is empty. -/
  | emptyNumeral : IsValueDefect isProfile .emptyNumeral
  /-- An integer is none. -/
  | badInteger (base : Nat) (numeral : String) : IsValueDefect isProfile (.badInteger base numeral)
  /-- An integer is too long. -/
  | longInteger (digits : Nat) : IsValueDefect isProfile (.longInteger digits)
  /-- A floating-point number is none. -/
  | badFloat (numeral : String) : IsValueDefect isProfile (.badFloat numeral)
  /-- A digit of base sixty stands too far in front. -/
  | largeFactor : IsValueDefect isProfile .largeFactor
  /-- A truth value is none. -/
  | badBool (name : String) : IsValueDefect isProfile (.badBool name)
  /-- A date or a time does not exist. -/
  | badTime (cause : CalendarDefect) : IsValueDefect isProfile (.badTime cause)
  /-- A character does not exist. -/
  | noCharacter : IsValueDefect isProfile .noCharacter
  /-- The number of a character is too large. -/
  | largeCharacter : IsValueDefect isProfile .largeCharacter
  /-- What a profile calls a date is none. -/
  | noTime (profile : isProfile = true) : IsValueDefect isProfile .noTime
  /-- What a profile calls a date is a mapping. -/
  | mappingAsTime (profile : isProfile = true) : IsValueDefect isProfile .mappingAsTime
  /-- A manifest is of an edition without plain scalars. -/
  | unknownEdition (edition : Edition) (manifest : isProfile = false) :
    IsValueDefect isProfile (.unknownEdition edition)
  /-- A manifest is of an edition that does not exist. -/
  | unsupportedEdition (edition : Edition) (manifest : isProfile = false) :
    IsValueDefect isProfile (.unsupportedEdition edition)
  /-- A manifest repeats a key, and this cannot be shown. -/
  | hiddenInteger (manifest : isProfile = false) : IsValueDefect isProfile .hiddenInteger
  /-- A key of a manifest, or a part of it, is something that can be changed. -/
  | nestedKey (shape : Shape) (manifest : isProfile = false) :
    IsValueDefect isProfile (.nestedKey shape)
  /-- An ordered mapping of a manifest repeats a key. -/
  | repeatedEntry (manifest : isProfile = false) : IsValueDefect isProfile .repeatedEntry

/-- What can be wrong with a text of a profile or of a manifest. -/
inductive IsDefectOf (isProfile : Bool) (text : Decoded) : Defect → Prop where
  /-- It is malformed. -/
  | malformed : IsDefectOf isProfile text .malformed
  /-- Its bytes are not the encoding of characters. -/
  | notUnicode (error : Utf8Error) (illFormed : text.error = some error) :
    IsDefectOf isProfile text (.notUnicode error)
  /-- An escape in it names half of a character. -/
  | surrogate : IsDefectOf isProfile text .surrogate
  /-- It is nested too deeply. -/
  | tooDeep : IsDefectOf isProfile text .tooDeep
  /-- Something in it has no value. -/
  | value {defect : Defect} (isValue : IsValueDefect isProfile defect) :
    IsDefectOf isProfile text defect

variable {isProfile : Bool} {text : Decoded}

/-- An outcome is a value with a property, or something that can be wrong with a text. -/
abbrev Reads {α : Type} (isProfile : Bool) (text : Decoded) (P : α → Prop)
    (result : Except Defect α) : Prop :=
  Yields (IsDefectOf isProfile text) P result

/-- A token that does not stand for a defect. -/
def Token.IsSound (token : Token) : Prop :=
  ∀ cause, token ≠ .defect cause

/-! ## Tokens by themselves -/

/-- A number in a directive is too long, or the directive is malformed. -/
theorem directive_reads (dialect : Dialect) (chars : List Char) :
    Reads isProfile text (fun _ => True) (directive dialect chars) := by
  have number (chars : List Char) :
      Reads isProfile text (fun _ => True) (directiveNumber chars) := by
    unfold directiveNumber limitedNumeral
    dsimp only
    split
    · exact .malformed
    · refine Yields.bind (P := fun _ => True) ?_ fun _ _ => trivial
      split
      · exact .value (.longInteger _)
      · split
        · exact trivial
        · exact .malformed
  have version (chars : List Char) :
      Reads isProfile text (fun _ => True) (versionDirective chars) := by
    refine (number _).bind fun ⟨major, rest⟩ _ => ?_
    dsimp only
    split
    · refine (number _).bind fun ⟨minor, rest⟩ _ => ?_
      dsimp only
      split
      · exact trivial
      · exact .malformed
    · exact .malformed
  have body (name : String) (chars : List Char) :
      Reads isProfile text (fun _ => True) (directiveBody dialect name chars) := by
    unfold directiveBody
    split
    · exact version chars
    · exact yields_orMalformed .malformed _
    · exact trivial
  unfold directive
  dsimp only
  split
  · exact .malformed
  · refine (body _ _).bind fun ⟨found, rest⟩ _ => ?_
    exact (yields_orMalformed .malformed _).bind fun _ _ => trivial

/-- A text between single quotes is malformed, if anything is wrong. -/
theorem singleQuotedFrom_reads (before : List Char) (gap : Gap) (chars : List Char) :
    Reads isProfile text (fun _ => True) (singleQuotedFrom before gap chars) := by
  fun_induction singleQuotedFrom before gap chars <;>
    first | assumption | exact .malformed | exact trivial

/-- A character that is given by its number does not exist, its number is too large, or it names
half of one, if anything is wrong. -/
theorem charOfDigits_reads (digits : List Char) :
    Reads isProfile text (fun _ => True) (charOfDigits digits) := by
  unfold charOfDigits charOfCode
  split
  · split
    · exact .value .largeCharacter
    · split
      · exact .value .noCharacter
      · split
        · exact trivial
        · exact .surrogate
  · exact .malformed

/-- A text between double quotes has a character that cannot be, or it is malformed, if anything is
wrong. -/
theorem doubleQuotedFrom_reads (before : List Char) (gap : Gap) (chars : List Char) :
    Reads isProfile text (fun _ => True) (doubleQuotedFrom before gap chars) := by
  fun_induction doubleQuotedFrom before gap chars with
  | case3 | case4 | case5 =>
    rename_i ih
    exact (charOfDigits_reads _).bind fun c _ => ih c
  | _ => first | assumption | exact .malformed | exact trivial

/-! ## Tokens of a text -/

namespace Layout

variable {layout : Layout}

/-- What has been read of a text gives tokens that stand for no defect, and what stops it is
something that can be wrong with the text. -/
structure IsSound (isProfile : Bool) (text : Decoded) (layout : Layout) : Prop where
  /-- The dialect is that of profiles or of manifests. -/
  dialect : layout.dialect.isProfile = isProfile
  /-- What stops the text can be wrong with it. -/
  barrier : ∀ cause, layout.barrier = some cause → IsDefectOf isProfile text cause
  /-- The pending tokens stand for no defect. -/
  pending : ∀ lexeme ∈ layout.pending, lexeme.token.IsSound

/-- A reader of tokens keeps what has been read sound. -/
abbrev KeepsSound (isProfile : Bool) (text : Decoded) (read : Except Defect Layout) : Prop :=
  Reads isProfile text (IsSound isProfile text) read

/-- A token is added. -/
theorem IsSound.emit (sound : layout.IsSound isProfile text) {token : Token}
    (isSound : token.IsSound) : (layout.emit token).IsSound isProfile text := by
  refine ⟨sound.dialect, sound.barrier, fun lexeme member => ?_⟩
  rcases List.mem_cons.1 member with rfl | earlier
  · exact isSound
  · exact sound.pending lexeme earlier

/-- A part of the text is passed. -/
theorem IsSound.advanceTo (sound : layout.IsSound isProfile text) (rest : List Char) :
    (layout.advanceTo rest).IsSound isProfile text :=
  ⟨sound.dialect, sound.barrier, sound.pending⟩

/-- Block collections are closed. -/
theorem IsSound.closeBlocks (sound : layout.IsSound isProfile text) (number : Nat) :
    (layout.closeBlocks number).IsSound isProfile text := by
  induction number generalizing layout with
  | zero => exact sound
  | succ number ih =>
    have shut : IsSound isProfile text { layout with indents := layout.indents.drop 1 } :=
      ⟨sound.dialect, sound.barrier, sound.pending⟩
    exact ih (shut.emit (by nofun))

/-- Deeper block collections are closed. -/
theorem IsSound.closeDeeper (sound : layout.IsSound isProfile text) (column : Option Nat) :
    (layout.closeDeeper column).IsSound isProfile text := by
  unfold Layout.closeDeeper
  split
  · exact sound
  · exact sound.closeBlocks _

/-- A block collection is opened. -/
theorem IsSound.openHere (sound : layout.IsSound isProfile text) {token : Token}
    (isSound : token.IsSound) : (layout.openHere token).IsSound isProfile text := by
  unfold Layout.openHere Layout.openAt
  split
  · rename_i opened found
    split at found
    · cases found
      have opened : IsSound isProfile text
          { layout with indents := layout.place.column :: layout.indents } :=
        ⟨sound.dialect, sound.barrier, sound.pending⟩
      exact opened.emit isSound
    · cases found
  · exact sound

/-- A possible key is forgotten. -/
theorem IsSound.forgetKey (sound : layout.IsSound isProfile text) :
    KeepsSound isProfile text layout.forgetKey := by
  unfold Layout.forgetKey
  split
  · exact .malformed
  · exact ⟨sound.dialect, sound.barrier, sound.pending⟩

/-- A possible key is noted. -/
theorem IsSound.notePossibleKey (sound : layout.IsSound isProfile text) :
    KeepsSound isProfile text layout.notePossibleKey := by
  unfold Layout.notePossibleKey
  split
  · exact sound.forgetKey.bind fun _ sound => ⟨sound.dialect, sound.barrier, sound.pending⟩
  · exact sound

/-- A possible key is fresh, or it is forgotten. -/
theorem freshKey_reads (layout : Layout) (key : Option PossibleKey) :
    Reads isProfile text (fun _ => True) (layout.freshKey key) := by
  unfold freshKey
  split
  · split
    · exact trivial
    · split
      · exact .malformed
      · exact trivial
  · exact trivial

/-- Stale keys are forgotten. -/
theorem IsSound.forgetStaleKeys (sound : layout.IsSound isProfile text) :
    KeepsSound isProfile text layout.forgetStaleKeys := by
  refine (freshKey_reads layout layout.key).bind fun key _ => ?_
  have flows : Reads isProfile text (fun _ => True)
      (layout.flows.mapM fun level => do
        let outerKey ← layout.freshKey level.outerKey
        return { level with outerKey }) :=
    yields_mapM (fun level : FlowLevel => (freshKey_reads layout level.outerKey).bind fun _ _ =>
      yields_pure trivial) layout.flows
  exact flows.bind fun _ _ => ⟨sound.dialect, sound.barrier, sound.pending⟩

/-- What stops the text is looked for. -/
theorem IsSound.checkReach (sound : layout.IsSound isProfile text) :
    Reads isProfile text (fun _ => True) layout.checkReach := by
  unfold Layout.checkReach
  split
  · exact sound.barrier _ (by assumption)
  · exact sound.barrier _ (by assumption)
  · exact trivial

/-- Blanks are passed up to the next token. -/
theorem IsSound.toNextToken (sound : layout.IsSound isProfile text) :
    KeepsSound isProfile text layout.toNextToken := by
  unfold Layout.toNextToken
  have passed := sound.advanceTo (skipBlank (layout.inFlow && !layout.dialect.isProfile) false false
    layout.rest).2
  refine passed.checkReach.bind fun _ _ => ?_
  have allowed (keyAllowed : Bool) : IsSound isProfile text
      { layout.advanceTo (skipBlank (layout.inFlow && !layout.dialect.isProfile) false false
          layout.rest).2 with keyAllowed } :=
    ⟨passed.dialect, passed.barrier, passed.pending⟩
  exact (allowed _).forgetStaleKeys.bind fun _ sound => sound.closeDeeper _

/-! ## Reading one token -/

/-- Everything open is closed. -/
theorem IsSound.endDocument (sound : layout.IsSound isProfile text) :
    KeepsSound isProfile text layout.endDocument :=
  (sound.closeDeeper none).forgetKey.bind fun _ sound =>
    ⟨sound.dialect, sound.barrier, sound.pending⟩

/-- A token is added, and a part of the text is passed. Whether keys are allowed, and which ones are
possible, is of no account. -/
theorem IsSound.pass (sound : layout.IsSound isProfile text) {token : Token}
    (isSound : token.IsSound) (rest : List Char) :
    ((layout.emit token).advanceTo rest).IsSound isProfile text :=
  (sound.emit isSound).advanceTo rest

/-- A directive is read. -/
theorem IsSound.readDirective (sound : layout.IsSound isProfile text) (chars : List Char) :
    KeepsSound isProfile text (layout.readDirective chars) := by
  refine sound.endDocument.bind fun ended sound => ?_
  refine (directive_reads _ _).bind fun ⟨directive, rest⟩ _ => ?_
  have sameKind (edition : Edition) :
      (ended.dialect.withEdition edition).isProfile = ended.dialect.isProfile := by
    cases ended.dialect <;> rfl
  dsimp only
  split
  · have turned (edition : Edition) :
        IsSound isProfile text { ended with dialect := ended.dialect.withEdition edition } :=
      ⟨(sameKind edition).trans sound.dialect, sound.barrier, sound.pending⟩
    exact yields_pure ((turned _).pass (by nofun) rest)
  · exact yields_pure (sound.pass (by nofun) rest)

/-- A marker is read. -/
theorem IsSound.readMarker (sound : layout.IsSound isProfile text) {token : Token}
    (isSound : token.IsSound) : KeepsSound isProfile text (layout.readMarker token) :=
  sound.endDocument.bind fun _ sound => sound.pass isSound _

/-- A flow collection is opened. -/
theorem IsSound.openFlow (sound : layout.IsSound isProfile text) (kind : FlowKind) {token : Token}
    (isSound : token.IsSound) (rest : List Char) :
    KeepsSound isProfile text (layout.openFlow kind token rest) := by
  refine sound.notePossibleKey.bind fun noted sound => ?_
  have opened : IsSound isProfile text
      { noted with flows := ⟨kind, noted.key⟩ :: noted.flows, key := none, keyAllowed := true } :=
    ⟨sound.dialect, sound.barrier, sound.pending⟩
  exact opened.pass isSound rest

/-- A flow collection is closed. -/
theorem IsSound.closeFlow (sound : layout.IsSound isProfile text) {token : Token}
    (isSound : token.IsSound) (rest : List Char) :
    KeepsSound isProfile text (layout.closeFlow token rest) := by
  refine sound.forgetKey.bind fun free sound => ?_
  have closed : IsSound isProfile text
      { free with
        flows := free.flows.drop 1, key := free.flows.head?.bind FlowLevel.outerKey,
        keyAllowed := false } :=
    ⟨sound.dialect, sound.barrier, sound.pending⟩
  exact closed.pass isSound rest

/-- A comma is read. -/
theorem IsSound.readComma (sound : layout.IsSound isProfile text) (rest : List Char) :
    KeepsSound isProfile text (layout.readComma rest) := by
  refine sound.forgetKey.bind fun free sound => ?_
  have allowed : IsSound isProfile text { free with keyAllowed := true } :=
    ⟨sound.dialect, sound.barrier, sound.pending⟩
  exact yields_pure (allowed.pass (by nofun) rest)

/-- A token in front of an element or a key is read. -/
theorem IsSound.readMark (sound : layout.IsSound isProfile text) {opening token : Token}
    (opens : opening.IsSound) (isSound : token.IsSound) (allows : Layout → Bool)
    (rest : List Char) :
    KeepsSound isProfile text (do
      let layout ← (if layout.inFlow then layout else layout.openHere opening).forgetKey
      return ({ layout with keyAllowed := allows layout }.emit token).advanceTo rest) := by
  have opened :
      (if layout.inFlow then layout else layout.openHere opening).IsSound isProfile text := by
    split
    · exact sound
    · exact sound.openHere opens
  refine opened.forgetKey.bind fun free sound => ?_
  have allowed : IsSound isProfile text { free with keyAllowed := allows free } :=
    ⟨sound.dialect, sound.barrier, sound.pending⟩
  exact yields_pure (allowed.pass isSound rest)

/-- A dash is read. -/
theorem IsSound.readDash (sound : layout.IsSound isProfile text) (rest : List Char) :
    KeepsSound isProfile text (layout.readDash rest) := by
  unfold Layout.readDash
  dsimp only
  split
  · exact .malformed
  · exact sound.readMark (by nofun) (by nofun) (fun _ => true) rest

/-- A question mark is read. -/
theorem IsSound.readKeyMark (sound : layout.IsSound isProfile text) (rest : List Char) :
    KeepsSound isProfile text (layout.readKeyMark rest) := by
  unfold Layout.readKeyMark
  dsimp only
  split
  · exact .malformed
  · exact sound.readMark (by nofun) (by nofun) (fun layout => !layout.inFlow) rest

/-- Tokens are inserted. -/
theorem IsSound.insertAt (sound : layout.IsSound isProfile text) (key : PossibleKey)
    {tokens : List Token} (areSound : ∀ token ∈ tokens, token.IsSound) :
    (layout.insertAt key tokens).IsSound isProfile text := by
  refine ⟨sound.dialect, sound.barrier, fun lexeme member => ?_⟩
  simp only [Layout.insertAt, List.mem_append, List.mem_reverse, List.mem_map] at member
  rcases member with (taken | ⟨token, inserted, rfl⟩) | dropped
  · exact sound.pending lexeme (List.mem_of_mem_take taken)
  · exact areSound token inserted
  · exact sound.pending lexeme (List.mem_of_mem_drop dropped)

/-- A colon behind a possible key is read. -/
theorem IsSound.readColonAfter (sound : layout.IsSound isProfile text) (key : PossibleKey)
    (rest : List Char) : (layout.readColonAfter key rest).IsSound isProfile text := by
  have free : IsSound isProfile text { layout with key := none, keyAllowed := false } :=
    ⟨sound.dialect, sound.barrier, sound.pending⟩
  have keyed : ∀ token ∈ [Token.blockMappingStart, .key], token.IsSound := by
    simp [Token.IsSound]
  unfold Layout.readColonAfter
  dsimp only
  split
  · rename_i opened found
    have isOpened : opened.IsSound isProfile text := by
      split at found
      · cases found
      · unfold Layout.openAt at found
        split at found
        · cases found
          exact ⟨sound.dialect, sound.barrier, sound.pending⟩
        · cases found
    exact (isOpened.insertAt key keyed).pass (by nofun) rest
  · have inserted := free.insertAt key fun token member =>
      keyed token (List.mem_cons_of_mem _ member)
    exact inserted.pass (by nofun) rest

/-- A colon is read. -/
theorem IsSound.readColon (sound : layout.IsSound isProfile text) (rest : List Char) :
    KeepsSound isProfile text (layout.readColon rest) := by
  have free : IsSound isProfile text { layout with keyAllowed := false } :=
    ⟨sound.dialect, sound.barrier, sound.pending⟩
  have opened : (layout.openHere .blockMappingStart).IsSound isProfile text :=
    sound.openHere (by nofun)
  unfold Layout.readColon
  split
  · exact sound.readColonAfter _ rest
  · split
    · exact yields_pure (free.pass (by nofun) rest)
    · split
      · exact yields_pure (opened.pass (by nofun) rest)
      · exact .malformed

/-- A token that may be a key is read. -/
theorem IsSound.readPossibleKey (sound : layout.IsSound isProfile text)
    {read : Except Defect (Token × List Char)}
    (reads : Reads isProfile text (fun found => found.1.IsSound) read) :
    KeepsSound isProfile text (layout.readPossibleKey read) := by
  refine sound.notePossibleKey.bind fun noted sound => ?_
  refine reads.bind fun ⟨token, rest⟩ isSound => ?_
  have free : IsSound isProfile text { noted with keyAllowed := false } :=
    ⟨sound.dialect, sound.barrier, sound.pending⟩
  exact yields_pure (free.pass isSound rest)

/-- A plain scalar is read. -/
theorem IsSound.readPlain (sound : layout.IsSound isProfile text) (c : Char) (rest : List Char) :
    KeepsSound isProfile text (layout.readPlain c rest) := by
  refine sound.notePossibleKey.bind fun noted sound => ?_
  have allowed (keyAllowed : Bool) : IsSound isProfile text { noted with keyAllowed } :=
    ⟨sound.dialect, sound.barrier, sound.pending⟩
  exact yields_pure ((allowed _).pass (by nofun) _)

/-- A block scalar is read. -/
theorem IsSound.readBlockText (sound : layout.IsSound isProfile text) (folded : Bool)
    (chars : List Char) : KeepsSound isProfile text (layout.readBlockText folded chars) := by
  refine sound.forgetKey.bind fun free sound => ?_
  refine (yields_orMalformed .malformed _).bind fun ⟨found, rest⟩ _ => ?_
  have allowed : IsSound isProfile text { free with keyAllowed := true } :=
    ⟨sound.dialect, sound.barrier, sound.pending⟩
  exact yields_pure (allowed.pass (by nofun) rest)

/-- A token is read. -/
theorem IsSound.readToken (sound : layout.IsSound isProfile text) (c : Char)
    (rest : List Char) : KeepsSound isProfile text (layout.readToken c rest) := by
  have named {α : Type} (found : Option (α × List Char)) (token : α → Token)
      (areSound : ∀ value, (token value).IsSound) :
      Reads isProfile text (fun found => found.1.IsSound)
        ((orMalformed found).map fun (value, rest) => (token value, rest)) := by
    cases found with
    | none => exact .malformed
    | some found => exact areSound found.1
  have quoted {found : Except Defect (List Char × List Char)}
      (reads : Reads isProfile text (fun _ => True) found) :
      Reads isProfile text (fun found => found.1.IsSound) (found.map scalarToken) := by
    match found, reads with
    | .ok found, _ => exact nofun
    | .error cause, isDefect => exact isDefect
  unfold Layout.readToken
  dsimp only
  refine yields_ite (sound.readDirective rest) ?_
  refine yields_ite (sound.readMarker (by nofun)) ?_
  refine yields_ite (sound.readMarker (by nofun)) ?_
  refine yields_ite (sound.openFlow _ (by nofun) rest) ?_
  refine yields_ite (sound.openFlow _ (by nofun) rest) ?_
  refine yields_ite (sound.closeFlow (by nofun) rest) ?_
  refine yields_ite (sound.closeFlow (by nofun) rest) ?_
  refine yields_ite (sound.readComma rest) ?_
  refine yields_ite (sound.readDash rest) ?_
  refine yields_ite (sound.readKeyMark rest) ?_
  refine yields_ite (sound.readColon rest) ?_
  refine yields_ite (sound.readPossibleKey (named _ Token.alias nofun)) ?_
  refine yields_ite (sound.readPossibleKey (named _ Token.anchor nofun)) ?_
  refine yields_ite (sound.readPossibleKey (named _ Token.tag nofun)) ?_
  refine yields_ite (sound.readBlockText _ rest) ?_
  refine yields_ite (sound.readBlockText _ rest) ?_
  refine yields_ite (sound.readPossibleKey (quoted (singleQuotedFrom_reads _ _ _))) ?_
  refine yields_ite (sound.readPossibleKey (quoted (doubleQuotedFrom_reads _ _ _))) ?_
  exact yields_ite (sound.readPlain c rest) .malformed

/-! ## Reading a whole text -/

/-- A token and as much as it settles is read. -/
theorem IsSound.readSettled (sound : layout.IsSound isProfile text) (c : Char)
    (rest : List Char) : KeepsSound isProfile text (layout.readSettled c rest) := by
  have stopped : Reads isProfile text (fun _ => True) (layout.barrier.forM throw) := by
    cases found : layout.barrier with
    | none => exact trivial
    | some cause => exact sound.barrier cause found
  have read : KeepsSound isProfile text (do
      let layout ← layout.readToken c rest
      layout.checkReach
      layout.forgetStaleKeys) :=
    (sound.readToken c rest).bind fun _ sound =>
      sound.checkReach.bind fun _ _ => sound.forgetStaleKeys
  unfold Layout.readSettled
  dsimp only
  split
  · exact stopped.bind fun _ _ => read
  · exact read

end Layout

/-- A lexeme of a profile or of a manifest stands for a defect only if that is something that can be
wrong with the text. -/
structure Lexeme.IsSound (isProfile : Bool) (text : Decoded) (lexeme : Lexeme) : Prop where
  /-- The dialect is that of profiles or of manifests. -/
  dialect : lexeme.dialect.isProfile = isProfile
  /-- A defect can be one of the text. -/
  defect : ∀ cause, lexeme.token = .defect cause → IsDefectOf isProfile text cause

namespace Layout

variable {layout : Layout}

/-- The pending tokens are settled. -/
theorem IsSound.settledTokens (sound : layout.IsSound isProfile text) :
    AllOf (Lexeme.IsSound isProfile text) layout.settledTokens := by
  intro lexeme member
  obtain ⟨pending, isPending, rfl⟩ := List.mem_map.1 member
  have isSound := sound.pending pending (List.mem_reverse.1 isPending)
  exact ⟨sound.dialect, fun cause isDefect => absurd isDefect (isSound cause)⟩

/-- A defect ends the tokens. -/
theorem IsSound.atDefect (sound : layout.IsSound isProfile text) {cause : Defect}
    (isDefect : IsDefectOf isProfile text cause) :
    AllOf (Lexeme.IsSound isProfile text) (layout.atDefect cause) := by
  intro lexeme member
  obtain rfl := List.mem_singleton.1 member
  refine ⟨sound.dialect, fun other same => ?_⟩
  cases same
  exact isDefect

/-- The end of the text ends the tokens. -/
theorem IsSound.finish (sound : layout.IsSound isProfile text) :
    AllOf (Lexeme.IsSound isProfile text) layout.finish := by
  unfold Layout.finish
  match layout.endDocument, sound.endDocument with
  | .ok ended, sound => exact (sound.emit (by nofun)).settledTokens
  | .error cause, isDefect => exact sound.atDefect isDefect

/-- What is left pending is as before. -/
theorem IsSound.settle (sound : layout.IsSound isProfile text) :
    AllOf (Lexeme.IsSound isProfile text) layout.settle.1 ∧
      layout.settle.2.IsSound isProfile text := by
  constructor
  · exact fun lexeme member => sound.settledTokens lexeme (List.mem_of_mem_take member)
  · exact ⟨sound.dialect, sound.barrier, fun lexeme member =>
      sound.pending lexeme (List.mem_of_mem_take member)⟩

/-- All tokens are sound. -/
theorem IsSound.run (sound : layout.IsSound isProfile text) :
    AllOf (Lexeme.IsSound isProfile text) layout.run := by
  fun_induction Layout.run layout with
  | case1 layout cause fails =>
    have isDefect := sound.toNextToken
    rw [fails] at isDefect
    exact sound.atDefect isDefect
  | case2 layout next reached ends =>
    have isSound := sound.toNextToken
    rw [reached] at isSound
    exact isSound.finish
  | case3 layout next reached c rest begins cause fails =>
    have isSound := sound.toNextToken
    rw [reached] at isSound
    have isDefect := isSound.readSettled c rest
    rw [fails] at isDefect
    exact isSound.atDefect isDefect
  | case4 layout next reached c rest begins read reads shorter ih =>
    have isSound := sound.toNextToken
    rw [reached] at isSound
    have isRead := isSound.readSettled c rest
    rw [reads] at isRead
    obtain ⟨settled, waiting⟩ := isRead.settle
    exact List.forall_mem_append.2 ⟨settled, ih waiting⟩
  | case5 layout next reached =>
    have isSound := sound.toNextToken
    rw [reached] at isSound
    exact isSound.atDefect .malformed

end Layout

/-- All tokens of a text are sound, if what stops it is something that can be wrong with it. -/
theorem lexemes_sound {dialect : Dialect} (is : dialect.isProfile = isProfile) (chars : List Char)
    {barrier : Option Defect}
    (stops : ∀ cause, barrier = some cause → IsDefectOf isProfile text cause) :
    AllOf (Lexeme.IsSound isProfile text) (lexemes dialect chars barrier) := by
  have begun : Layout.IsSound isProfile text { dialect, rest := chars, barrier } :=
    ⟨is, stops, by simp⟩
  unfold lexemes
  dsimp only
  split
  · exact (begun.advanceTo _).run
  · exact begun.run

/-- What stops a text is that a character may not occur, or that its bytes are not the encoding of
characters. -/
theorem isDefectOf_barrierOf {start : Nat} {cause : Defect}
    (stops : barrierOf text = some (start, cause)) : IsDefectOf isProfile text cause := by
  unfold barrierOf at stops
  extract_lets readable misplaced at stops
  have isMisplaced {place : Nat} {cause : Defect} (found : misplaced = some (place, cause)) :
      IsDefectOf isProfile text cause := by
    dsimp only [misplaced] at found
    split at found
    · cases found
      exact .malformed
    · cases found
  clear_value misplaced
  split at stops
  · split at stops
    · cases stops
      exact .notUnicode _ (by assumption)
    · cases stops
      exact isMisplaced rfl
  · cases stops
    exact .notUnicode _ (by assumption)
  · exact isMisplaced stops

/-- All tokens of a text that has come out of a file are sound. -/
theorem tokensOf_sound {dialect : Dialect} (is : dialect.isProfile = isProfile)
    (text : Decoded) : AllOf (Lexeme.IsSound isProfile text) (tokensOf dialect text) := by
  unfold tokensOf
  split
  · rename_i start cause stops
    refine lexemes_sound is _ ?_
    rintro _ ⟨rfl⟩
    exact isDefectOf_barrierOf stops
  · exact lexemes_sound is _ nofun

end PodLaunch.Yaml
