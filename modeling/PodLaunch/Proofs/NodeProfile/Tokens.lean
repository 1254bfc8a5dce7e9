import PodLaunch.Proofs.Yaml.Entries

/-!
# The tokens of a profile

The text of a profile is read as the tokens of its fields, one field after the other, if all keys of
its labels fit. Otherwise the tokens break off. Two lists or mappings within each other are enough.
-/

namespace PodLaunch.NodeProfile

open Yaml Layout

/-! ## Fields -/

/-- The names of the fields of a profile. -/
def fieldNames : List (List Char) :=
  ["node_name".toList, "architecture".toList, "taint_architecture".toList, "extra_taints".toList,
    "labels".toList]

/-- A name is written as itself and begins a line. -/
structure IsFieldName (name : List Char) : Prop where
  /-- It is a key that is not marked. -/
  simple : isSimpleKey name = true
  /-- It is written without quotes. -/
  plain : Style.of name = .plain
  /-- It does not begin with anything blank, a comment or a marker. -/
  begins : ∃ c others, name = c :: others ∧ (c ≠ ' ' ∧ isBreak c = false ∧ c ≠ '#') ∧
    (c ≠ '-' ∧ c ≠ '.')

/-- The names of the fields are written as themselves. -/
theorem isFieldName {name : List Char} (member : name ∈ fieldNames) : IsFieldName name := by
  simp only [fieldNames, List.mem_cons, List.not_mem_nil, or_false] at member
  rcases member with rfl | rfl | rfl | rfl | rfl <;>
    exact ⟨by decide, by decide, _, _, rfl, by decide, by decide⟩

variable {layout : Layout} {waiting opening : List Token} {indents : List Nat}
  {name rest : List Char}

/-- A line may begin with the name of a field. -/
theorem IsFieldName.lineBegins (field : IsFieldName name) (rest : List Char) :
    LineBegins 0 (name ++ rest) := by
  obtain ⟨c, others, rfl, noBlank, noMarker⟩ := field.begins
  exact lineBegins_cons 0 (others ++ rest) noBlank noMarker

/-- The name of a field is written as itself. -/
theorem IsFieldName.writeText_eq (field : IsFieldName name) :
    writeText ⟨false, 2⟩ 0 name = name := by
  rw [writeText, field.plain]
  exact writePlain_unfolded (show Folding.allowed ⟨false, 2⟩ = false from rfl) name 0 0

/-- The name of a field fits. -/
theorem IsFieldName.keyFits (field : IsFieldName name) : KeyFits 0 name := by
  intro simple
  simp only [isSimpleKey, Bool.and_eq_true, decide_eq_true_eq] at simple
  rw [field.writeText_eq]
  omega

/-- A line may begin with a field. -/
theorem IsFieldName.lineBegins_entry (field : IsFieldName name) (value : WrittenValue)
    (rest : List Char) : LineBegins 0 (writeEntry 0 name value ++ rest) := by
  rw [writeEntry_simple field.simple, field.writeText_eq]
  exact field.lineBegins _

/-- The name of a field with a list or a mapping is read as a key, and its value begins. -/
theorem IsFieldName.key (field : IsFieldName name)
    (start : KeyStart layout waiting [0] 0 (name ++ ':' :: rest))
    (wordEnds : endsWord rest.head? = true) :
    ∃ reached, ValueStart reached 0 [] rest ∧
      Leads layout waiting [.key, textToken name, .value] reached [] := by
  have opens : Opens .blockMappingStart [0] 0 [] [] := .inside 0 []
  have text := scalarText_simpleKey opens (by decide) name
  have shown := isShown_simpleKey field.simple 0
  have fits := field.keyFits field.simple
  rw [field.writeText_eq] at text shown fits
  exact start.simpleKey opens text shown fits wordEnds (field.lineBegins (':' :: rest)).noMarker

/-! ## Taints -/

/-- The tokens of a taint in a list. -/
def taintTokens (taint : Taint) : List Token :=
  [.dash, .blockMappingStart] ++ entriesTokens (taintEntries taint) ++ [.blockEnd]

/-- The tokens of the taints of a profile. -/
def taintsTokens : List Taint → List Token
  | [] => [.flowListStart, .flowListEnd]
  | taints => taints.flatMap taintTokens

/-- The entries of a taint can be written. -/
theorem isWritable_taintEntries (taint : Taint) :
    ∀ entry ∈ taintEntries taint, entry.2.IsWritable := by
  have null : (WrittenValue.word "null".toList).IsWritable :=
    ⟨by decide, (isPlainLine_iff _).1 (by decide)⟩
  intro entry member
  simp only [taintEntries, List.mem_cons, List.not_mem_nil, or_false] at member
  rcases member with rfl | rfl | rfl
  · trivial
  · cases taint.value with
    | none => exact null
    | some value => trivial
  · trivial

/-- The keys of a taint fit. -/
theorem keyFits_taintEntries (taint : Taint) :
    ∀ entry ∈ taintEntries taint, KeyFits 2 entry.1 := by
  intro entry member
  simp only [taintEntries, List.mem_cons, List.not_mem_nil, or_false] at member
  rcases member with rfl | rfl | rfl <;> dsimp only <;> decide

/-- A taint is written behind a dash. -/
theorem writeTaint_eq (taint : Taint) (rest : List Char) :
    ∃ key value others, taintEntries taint = (key, value) :: others ∧
      writeTaint taint ++ rest =
        '-' :: ' ' :: (writeEntry 2 key value ++ (writeMapping 2 others ++ rest)) := by
  refine ⟨_, _, _, rfl, ?_⟩
  simp [writeTaint, writeMapping, taintEntries, spaces, List.replicate]

/-- A taint is read as its tokens, and the next line begins. -/
theorem leads_taint {taint : Taint}
    (start : KeyStart layout waiting [0] 0 (writeTaint taint ++ rest))
    (begins : LineBegins 0 rest) :
    ∃ reached left, KeyStart reached left [0] 0 rest ∧
      Leads layout waiting (taintTokens taint) reached left := by
  obtain ⟨key, value, others, entries, written⟩ := writeTaint_eq taint rest
  have fits := keyFits_taintEntries taint
  have writable := isWritable_taintEntries taint
  rw [entries] at fits writable
  rw [written] at start
  obtain ⟨behindDash, first, dashLeads⟩ := start.dash
  obtain ⟨behindEntries, left, next, entriesLead⟩ := KeyStart.entries
    (show KeyStart behindDash [] [0] 2 (_ ++ (_ ++ (spaces 0 ++ rest))) from first)
    (.new 2 [0] (by simp)) (fun entry _ => lineBegins_entry (by decide) (by decide) entry.1 entry.2)
    (by decide) fits writable (Nat.zero_le 2) begins
  obtain ⟨reached, last, endLeads⟩ := next.close begins (by decide) (by simp)
  refine ⟨reached, _, last, ?_⟩
  have leads := (dashLeads.trans entriesLead).trans endLeads
  rw [taintTokens, entries]
  exact leads

/-- A line may begin with taints. -/
theorem lineBegins_taints (taints : List Taint) (begins : LineBegins 0 rest) :
    LineBegins 0 (taints.flatMap writeTaint ++ rest) := by
  cases taints with
  | nil => exact begins
  | cons taint taints =>
    obtain ⟨key, value, others, _, written⟩ :=
      writeTaint_eq taint (taints.flatMap writeTaint ++ rest)
    rw [List.flatMap_cons, List.append_assoc, written]
    exact lineBegins_dash 0 _

/-- Taints are read as their tokens, and the next line begins. -/
theorem leads_taints {taints : List Taint}
    (start : KeyStart layout waiting [0] 0 (taints.flatMap writeTaint ++ rest))
    (begins : LineBegins 0 rest) :
    ∃ reached left, KeyStart reached left [0] 0 rest ∧
      Leads layout waiting (taints.flatMap taintTokens) reached left := by
  induction taints generalizing layout waiting with
  | nil => exact ⟨layout, waiting, start, Leads.refl layout waiting⟩
  | cons taint taints ih =>
    rw [List.flatMap_cons, List.append_assoc] at start
    obtain ⟨between, waits, next, taintLeads⟩ :=
      leads_taint start (lineBegins_taints taints begins)
    obtain ⟨reached, left, last, leads⟩ := ih next
    exact ⟨reached, left, last, taintLeads.trans leads⟩

/-- The taints of a profile are read behind their key, and the next line begins. -/
theorem leads_taintsField {taints : List Taint}
    (start : ValueStart layout 0 [] (writeTaints taints ++ rest)) (begins : LineBegins 0 rest) :
    ∃ reached left, KeyStart reached left [0] 0 rest ∧
      Leads layout [] (taintsTokens taints) reached left := by
  cases taints with
  | nil =>
    obtain ⟨reached, next, leads⟩ := ValueStart.empty
      (show ValueStart layout 0 [] (' ' :: '[' :: ']' :: ('\n' :: spaces 0 ++ rest)) from start)
      .list
    exact ⟨reached, [], next, leads⟩
  | cons taint taints =>
    have first := ValueStart.newLine (show ValueStart layout 0 []
      ('\n' :: spaces 0 ++ ((taint :: taints).flatMap writeTaint ++ rest)) from start)
    exact leads_taints first begins

/-! ## Labels -/

/-- The tokens of the labels of a profile. -/
def labelsTokens (labels : Labels) : List Token :=
  if labels.entries.isEmpty then [.flowMappingStart, .flowMappingEnd]
  else [.blockMappingStart] ++ entriesTokens (labelEntries labels) ++ [.blockEnd]

/-- The entries of labels can be written. -/
theorem isWritable_labelEntries (labels : Labels) :
    ∀ entry ∈ labelEntries labels, entry.2.IsWritable := by
  intro entry member
  obtain ⟨label, _, rfl⟩ := List.mem_map.1 member
  trivial

/-- Labels are either missing, or they begin with an entry. -/
theorem labels_cases (labels : Labels) :
    (writeLabels labels = " \x7b\x7d\n".toList ∧
      labelsTokens labels = [.flowMappingStart, .flowMappingEnd] ∧ labels.entries = []) ∨
    ∃ key value others, labelEntries labels = (key, value) :: others ∧
      labelsTokens labels =
        [.blockMappingStart] ++ entriesTokens (labelEntries labels) ++ [.blockEnd] ∧
      writeLabels labels = '\n' :: spaces 2 ++ (writeEntry 2 key value ++
        (writeMapping 2 others ++ [])) := by
  cases entries : labels.entries with
  | nil => simp [writeLabels, labelsTokens, entries]
  | cons label others =>
    refine Or.inr ⟨_, _, _, by rw [labelEntries, entries, List.map_cons], ?_, ?_⟩
    · simp [labelsTokens, entries]
    · simp [writeLabels, labelEntries, writeMapping, entries]

/-- A line may begin where a text ends. -/
theorem lineBegins_nil : LineBegins 0 [] :=
  ⟨by simp, rfl⟩

/-- The labels of a profile are read behind their key, if all keys fit. -/
theorem leads_labelsField {labels : Labels}
    (start : ValueStart layout 0 [] (writeLabels labels))
    (fits : ∀ label ∈ labels.entries, KeyFits 2 label.1.toList) :
    ∃ reached left, KeyStart reached left [0] 0 [] ∧
      Leads layout [] (labelsTokens labels) reached left := by
  rcases labels_cases labels with
    ⟨written, tokens, _⟩ | ⟨key, value, others, entries, tokens, written⟩
  · rw [written] at start
    obtain ⟨reached, next, leads⟩ := ValueStart.empty
      (show ValueStart layout 0 [] (' ' :: '\x7b' :: '\x7d' :: ('\n' :: spaces 0 ++ [])) from start)
      .mapping
    rw [tokens]
    exact ⟨reached, [], next, leads⟩
  · have fits : ∀ entry ∈ labelEntries labels, KeyFits 2 entry.1 := by
      intro entry member
      obtain ⟨label, among, rfl⟩ := List.mem_map.1 member
      exact fits label among
    have writable := isWritable_labelEntries labels
    rw [entries] at fits writable
    rw [written] at start
    obtain ⟨behindEntries, left, next, entriesLead⟩ := KeyStart.entries
      (show KeyStart layout [] [0] 2 (_ ++ (_ ++ (spaces 0 ++ []))) from start.newLine)
      (.new 2 [0] (by simp))
      (fun entry _ => lineBegins_entry (by decide) (by decide) entry.1 entry.2) (by decide) fits
      writable (Nat.zero_le 2) lineBegins_nil
    obtain ⟨reached, last, endLeads⟩ := next.close lineBegins_nil (by decide) (by simp)
    rw [tokens, entries]
    exact ⟨reached, _, last, entriesLead.trans endLeads⟩

/-- The labels of a profile break off if a key does not fit. -/
theorem breaksOff_labelsField {labels : Labels}
    (start : ValueStart layout 0 [] (writeLabels labels))
    (long : ∃ label ∈ labels.entries, ¬ KeyFits 2 label.1.toList) : BreaksOff 1 layout.run := by
  obtain ⟨label, among, tooLong⟩ := long
  rcases labels_cases labels with ⟨_, _, empty⟩ | ⟨key, value, others, entries, _, written⟩
  · rw [empty] at among
    cases among
  · have writable := isWritable_labelEntries labels
    have long : ∃ entry ∈ labelEntries labels, ¬ KeyFits 2 entry.1 :=
      ⟨_, List.mem_map.2 ⟨label, among, rfl⟩, tooLong⟩
    rw [entries] at writable long
    rw [written] at start
    exact KeyStart.longEntries start.newLine (.new 2 [0] (by simp)) (by decide) (by decide) long
      writable (by simp)

/-! ## Profiles -/

/-- The fields of a profile that are scalars. -/
def scalarEntries (profile : NodeProfile) : List (List Char × WrittenValue) :=
  [("node_name".toList, .text profile.nodeName.text.toList),
    ("architecture".toList, .text profile.architecture.text.toList),
    ("taint_architecture".toList,
      .word (if profile.taintArchitecture then "true" else "false").toList)]

/-- The tokens of a profile in front of its labels. -/
def tokensBeforeLabels (profile : NodeProfile) : List Token :=
  [.blockMappingStart] ++ entriesTokens (scalarEntries profile) ++
    [.key, textToken "extra_taints".toList, .value] ++ taintsTokens profile.extraTaints ++
    [.key, textToken "labels".toList, .value]

/-- The tokens of a profile. -/
def profileTokens (profile : NodeProfile) : List Token :=
  tokensBeforeLabels profile ++ labelsTokens profile.labels ++ [.blockEnd, .textEnd]

/-- The scalars of a profile can be written. -/
theorem isWritable_scalarEntries (profile : NodeProfile) :
    ∀ entry ∈ scalarEntries profile, entry.2.IsWritable := by
  have words : (WrittenValue.word "true".toList).IsWritable ∧
      (WrittenValue.word "false".toList).IsWritable :=
    ⟨⟨by decide, (isPlainLine_iff _).1 (by decide)⟩, ⟨by decide, (isPlainLine_iff _).1 (by decide)⟩⟩
  intro entry member
  simp only [scalarEntries, List.mem_cons, List.not_mem_nil, or_false] at member
  rcases member with rfl | rfl | rfl
  · trivial
  · trivial
  · cases profile.taintArchitecture
    · exact words.2
    · exact words.1

/-- The scalars of a profile have the names of fields. -/
theorem isFieldName_scalarEntries (profile : NodeProfile) :
    ∀ entry ∈ scalarEntries profile, IsFieldName entry.1 := by
  intro entry member
  simp only [scalarEntries, List.mem_cons, List.not_mem_nil, or_false] at member
  rcases member with rfl | rfl | rfl <;> exact isFieldName (by simp [fieldNames])

/-- The scalars of a profile are read as their entries, and the next line begins. -/
theorem leads_scalarEntries {profile : NodeProfile}
    (start : KeyStart layout [] [] 0 (writeMapping 0 (scalarEntries profile) ++ rest))
    (begins : LineBegins 0 rest) :
    ∃ reached left, KeyStart reached left [0] 0 rest ∧
      Leads layout [] ([.blockMappingStart] ++ entriesTokens (scalarEntries profile)) reached
        left := by
  have names := isFieldName_scalarEntries profile
  have writable := isWritable_scalarEntries profile
  obtain ⟨key, value, others, entries⟩ : ∃ key value others,
      scalarEntries profile = (key, value) :: others := ⟨_, _, _, rfl⟩
  rw [entries] at names writable start ⊢
  rw [writeMapping_cons] at start
  exact KeyStart.entries
    (show KeyStart layout [] [] 0 (_ ++ (_ ++ (spaces 0 ++ rest))) from start) (.new 0 [] (by simp))
    (fun entry member => (names entry member).lineBegins_entry entry.2) (by decide)
    (fun entry member => (names entry member).keyFits) writable (Nat.le_refl 0) begins

/-- The text of a profile, field by field. -/
theorem toText_eq (profile : NodeProfile) :
    profile.toText = writeMapping 0 (scalarEntries profile) ++ ("extra_taints".toList ++ ':' ::
      (writeTaints profile.extraTaints ++ ("labels".toList ++ ':' ::
        writeLabels profile.labels))) := by
  have colons : "extra_taints:".toList = "extra_taints".toList ++ [':'] ∧
      "labels:".toList = "labels".toList ++ [':'] := by decide
  rw [toText, colons.1, colons.2]
  simp only [scalarEntries, List.append_assoc, List.cons_append, List.nil_append]

/-- What follows the key of the taints is on the same line as a space, or on the next one. -/
theorem endsWord_writeTaints (taints : List Taint) (rest : List Char) :
    endsWord (writeTaints taints ++ rest).head? = true := by
  cases taints <;> rfl

/-- What follows the key of the labels is on the same line as a space, or on the next one. -/
theorem endsWord_writeLabels (labels : Labels) : endsWord (writeLabels labels).head? = true := by
  rw [writeLabels]
  split <;> rfl

/-- At the beginning of a text, a key may begin. -/
theorem keyStart_text (text : List Char) :
    KeyStart (block text {} 0 [] [] true none) [] [] 0 text :=
  ⟨[], {}, 0, [], true, none, rfl, rfl, Or.inr ⟨rfl, 0, rfl, rfl⟩, by simp⟩

/-- The fields of a profile in front of its labels are read, and the labels begin. -/
theorem leads_beforeLabels (profile : NodeProfile) :
    ∃ reached, ValueStart reached 0 [] (writeLabels profile.labels) ∧
      Leads (block profile.toText {} 0 [] [] true none) [] (tokensBeforeLabels profile) reached
        [] := by
  have taintsName : IsFieldName "extra_taints".toList := isFieldName (by simp [fieldNames])
  have labelsName : IsFieldName "labels".toList := isFieldName (by simp [fieldNames])
  have start := keyStart_text profile.toText
  nth_rewrite 2 [toText_eq] at start
  obtain ⟨behindScalars, waits, next, scalarsLead⟩ :=
    leads_scalarEntries start (taintsName.lineBegins _)
  obtain ⟨taintsValue, valueStart, taintsKeyLeads⟩ :=
    taintsName.key next (endsWord_writeTaints _ _)
  obtain ⟨behindTaints, left, labelsStart, taintsLead⟩ :=
    leads_taintsField valueStart (labelsName.lineBegins _)
  obtain ⟨reached, last, labelsKeyLeads⟩ := labelsName.key labelsStart (endsWord_writeLabels _)
  exact ⟨reached, last, ((scalarsLead.trans taintsKeyLeads).trans taintsLead).trans labelsKeyLeads⟩

/-- The tokens of a profile in front of its labels stand in front of the end of its text. -/
theorem isInner_tokensBeforeLabels (profile : NodeProfile) :
    ∀ token ∈ tokensBeforeLabels profile, token.IsInner := by
  have taints : ∀ token ∈ taintsTokens profile.extraTaints, token.IsInner := by
    cases profile.extraTaints with
    | nil => simp [taintsTokens, Token.IsInner]
    | cons taint taints =>
      intro token member
      obtain ⟨taint, _, among⟩ := List.mem_flatMap.1 member
      simp only [taintTokens, List.mem_append, List.mem_cons, List.not_mem_nil, or_false] at among
      rcases among with ((rfl | rfl) | entries) | rfl
      · simp [Token.IsInner]
      · simp [Token.IsInner]
      · exact isInner_entriesTokens _ token entries
      · simp [Token.IsInner]
  have key (name : List Char) : ∀ token ∈ [.key, textToken name, .value], token.IsInner := by
    simp [Token.IsInner, textToken]
  simp only [tokensBeforeLabels, List.forall_mem_append, List.forall_mem_singleton]
  have opening : Token.blockMappingStart.IsInner := by simp [Token.IsInner]
  exact ⟨⟨⟨⟨opening, isInner_entriesTokens _⟩, key _⟩, taints⟩, key _⟩

/-- The text of a profile does not begin with a byte order mark. -/
theorem lexemes_toText (profile : NodeProfile) :
    lexemes .profile profile.toText none = (block profile.toText {} 0 [] [] true none).run := by
  obtain ⟨rest, begins⟩ : ∃ rest, profile.toText = 'n' :: rest := by
    have name : IsFieldName "node_name".toList := isFieldName (by simp [fieldNames])
    rw [toText_eq, scalarEntries, writeMapping_cons, writeEntry_simple name.simple,
      name.writeText_eq]
    exact ⟨_, rfl⟩
  rw [begins]
  rfl

/-- The text of a profile is read as its tokens, if all keys of its labels fit. -/
theorem carries_profile {profile : NodeProfile}
    (fits : ∀ label ∈ profile.labels.entries, KeyFits 2 label.1.toList) :
    Carries (lexemes .profile profile.toText none) (profileTokens profile) := by
  obtain ⟨behind, labelsStart, before⟩ := leads_beforeLabels profile
  obtain ⟨reached, left, last, labels⟩ := leads_labelsField labelsStart fits
  obtain ⟨lexemes, settled, run, carried, same⟩ := before.trans labels
  rw [List.reverse_nil, List.nil_append] at same
  rw [lexemes_toText, run, profileTokens, ← same, List.append_assoc]
  exact carried.append last.finish

/-! ## Room -/

/-- The tokens of taints take one level. -/
theorem keepsRoom_taintsTokens (taints : List Taint) : KeepsRoom (taintsTokens taints) := by
  cases taints with
  | nil => exact keepsRoom_enclosed rfl ⟨rfl, rfl⟩ (List.forall_mem_nil _)
  | cons taint taints =>
    refine keepsRoom_flatMap fun other _ => ?_
    have dash : KeepsRoom [.dash] := keepsRoom_of_isLevel (by simp [Token.IsLevel, Token.opens,
      Token.closes])
    exact dash.append (keepsRoom_enclosed rfl ⟨rfl, rfl⟩ (isLevel_entriesTokens _))

/-- The tokens of labels take one level. -/
theorem keepsRoom_labelsTokens (labels : Labels) : KeepsRoom (labelsTokens labels) := by
  rcases labels_cases labels with ⟨_, tokens, _⟩ | ⟨_, _, _, _, tokens, _⟩
  · rw [tokens]
    exact keepsRoom_enclosed rfl ⟨rfl, rfl⟩ (List.forall_mem_nil _)
  · rw [tokens]
    exact keepsRoom_enclosed rfl ⟨rfl, rfl⟩ (isLevel_entriesTokens _)

/-- In front of the labels of a profile, its own mapping is open. -/
theorem roomBehind?_tokensBeforeLabels (profile : NodeProfile) (room : Nat) :
    roomBehind? (tokensBeforeLabels profile) (room + 2) = some (room + 1) := by
  have key (name : List Char) : KeepsRoom [.key, textToken name, .value] :=
    keepsRoom_of_isLevel (by simp [Token.IsLevel, Token.opens, Token.closes, textToken])
  have fields := keepsRoom_of_isLevel (isLevel_entriesTokens (scalarEntries profile))
  have behind := ((fields.append (key "extra_taints".toList)).append
    (keepsRoom_taintsTokens profile.extraTaints)).append (key "labels".toList)
  simp only [tokensBeforeLabels, List.append_assoc, List.singleton_append] at behind ⊢
  exact behind room

/-- Behind a profile, there is as much room as in front of it. -/
theorem roomBehind?_profileTokens (profile : NodeProfile) (room : Nat) :
    roomBehind? (profileTokens profile) (room + 2) = some (room + 2) := by
  rw [profileTokens, roomBehind?_append, roomBehind?_append, roomBehind?_tokensBeforeLabels,
    Option.bind_some, keepsRoom_labelsTokens]
  rfl

/-- With room for two levels, the text of a profile is read as its tokens, if all keys of its labels
fit. -/
theorem carries_withinRoom {profile : NodeProfile}
    (fits : ∀ label ∈ profile.labels.entries, KeyFits 2 label.1.toList) (room : Nat) :
    Carries (withinRoom (room + 2) (lexemes .profile profile.toText none))
      (profileTokens profile) := by
  have carries := carries_profile fits
  have same := withinRoom_append carries (roomBehind?_profileTokens profile room) []
  rw [List.append_nil, withinRoom, List.append_nil] at same
  rwa [same]

/-- With room for two levels, the text of a profile breaks off if the key of a label does not fit.
-/
theorem cutOff_withinRoom {profile : NodeProfile}
    (long : ∃ label ∈ profile.labels.entries, ¬ KeyFits 2 label.1.toList) (room : Nat) :
    CutOff (withinRoom (room + 2) (lexemes .profile profile.toText none)) := by
  obtain ⟨behind, labelsStart, before⟩ := leads_beforeLabels profile
  have breaks := breaksOff_labelsField labelsStart long
  have cut := before.cutOff (isInner_tokensBeforeLabels profile) breaks.cutOff
  obtain ⟨first, settled, run, carries, same⟩ := before
  rw [List.reverse_nil, List.append_nil, List.nil_append] at same
  subst same
  rw [lexemes_toText]
  rw [run] at cut ⊢
  rw [withinRoom_append carries (roomBehind?_tokensBeforeLabels profile room),
    withinRoom_of_countP_le (Nat.le_trans breaks.opening (Nat.le_add_left 1 room))]
  exact cut

end PodLaunch.NodeProfile
