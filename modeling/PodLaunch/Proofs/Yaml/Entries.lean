import PodLaunch.NodeProfile.Text
import PodLaunch.Proofs.Yaml.EmptyFlows

/-!
# The tokens of entries

An entry of a mapping is written on lines of its own. Its key may be marked or not; either way, the
tokens are those of a key and a value. A key that is not marked has to fit into what the reader
looks back for it.
-/

namespace PodLaunch.Yaml

/-- A text as a scalar. -/
def textToken (s : List Char) : Token :=
  .scalar (Style.of s = .plain) (String.ofList s)

/-- A value as a token. -/
def WrittenValue.token : WrittenValue → Token
  | .text s => textToken s
  | .word s => .scalar true (String.ofList s)

/-- A value can be written: a word is one without quotes. -/
def WrittenValue.IsWritable : WrittenValue → Prop
  | .text _ => True
  | .word s => s ≠ [] ∧ IsPlainLine s

/-- A key fits into an entry whose keys stand at a column: unless it is marked, it is written with
no more characters than the reader looks back for it. -/
def KeyFits (column : Nat) (key : List Char) : Prop :=
  isSimpleKey key = true → (writeText ⟨false, column + 2⟩ column key).length ≤ 1024

instance (column : Nat) (key : List Char) : Decidable (KeyFits column key) :=
  inferInstanceAs (Decidable (_ → _))

/-- The tokens of an entry. -/
def entryTokens (key : List Char) (value : WrittenValue) : List Token :=
  [.key, textToken key, .value, value.token]

/-- The tokens of entries. -/
def entriesTokens (entries : List (List Char × WrittenValue)) : List Token :=
  entries.flatMap fun entry => entryTokens entry.1 entry.2

/-- A value is written as its token. -/
theorem scalarText_write {value : WrittenValue} (writable : value.IsWritable) (column place : Nat)
    (narrow : column + 2 < foldColumn) :
    ScalarText (column + 1) (value.write column place) value.token := by
  cases value with
  | text s =>
    exact scalarText_writeText ⟨true, column + 2⟩ place s (Nat.succ_pos _) (Nat.le_succ _) narrow
  | word s =>
    have plain := ScalarText.plain ⟨false, column + 2⟩ place s writable.2 writable.1
      (Nat.succ_pos _) (Nat.le_succ (column + 1))
    rwa [writePlain_unfolded rfl] at plain

namespace Layout

variable {layout : Layout} {waiting opening : List Token} {indents outer : List Nat}
  {column count : Nat} {rest : List Char}

/-- Behind the colon of a key, the next line may begin. -/
theorem ValueStart.newLine
    (start : ValueStart layout column outer ('\n' :: spaces count ++ rest)) :
    KeyStart layout [] (column :: outer) count rest := by
  obtain ⟨place, settled, rfl, _⟩ := start
  exact ⟨'\n' :: spaces count, place, settled, [], false, none, rfl, rfl, Or.inl rfl, by simp⟩

/-- The scalar of a key that is not marked. -/
theorem scalarText_simpleKey (opens : Opens .blockMappingStart indents column outer opening)
    (narrow : column + 2 < foldColumn) (key : List Char) :
    ScalarText (innerOf indents) (writeText ⟨false, column + 2⟩ column key) (textToken key) :=
  scalarText_writeText ⟨false, column + 2⟩ column key (Nat.succ_pos _)
    (Nat.le_trans opens.innerOf_le (Nat.le_succ _)) narrow

/-- A key that is not marked is written on one line. -/
theorem isShown_simpleKey {key : List Char} (simple : isSimpleKey key = true) (column : Nat) :
    ∀ c ∈ writeText ⟨false, column + 2⟩ column key, IsShown c := by
  have noLineFeed : '\n' ∉ key := by
    intro member
    simp only [isSimpleKey, Bool.and_eq_true, Bool.not_eq_true', List.any_eq_false] at simple
    exact simple.1.2 '\n' member rfl
  intro c member
  have written : IsWritten False c :=
    isWritten_writeText ⟨false, column + 2⟩ (by simp) column key (fun breaks => noLineFeed breaks)
      c member
  simpa [IsWritten] using written

/-- An entry whose key is simple begins with it. -/
theorem writeEntry_simple {key : List Char} (simple : isSimpleKey key = true) (column : Nat)
    (value : WrittenValue) (rest : List Char) :
    writeEntry column key value ++ rest =
      writeText ⟨false, column + 2⟩ column key ++ ':' :: (' ' :: (value.write column
        (column + (writeText ⟨false, column + 2⟩ column key).length + 2) ++ '\n' :: rest)) := by
  rw [writeEntry, if_pos simple]
  simp

/-- An entry whose key is not simple begins with a mark, and its value stands on another line. -/
theorem writeEntry_marked {key : List Char} (marked : ¬ isSimpleKey key = true) (column : Nat)
    (value : WrittenValue) (rest : List Char) :
    writeEntry column key value ++ rest =
      '?' :: ' ' :: (writeText ⟨true, column + 2⟩ (column + 2) key ++ ('\n' :: spaces column ++
        ':' :: ' ' :: (value.write column (column + 2) ++ '\n' :: rest))) := by
  rw [writeEntry, if_neg marked]
  simp

/-- A mapping begins with its first entry. -/
theorem writeMapping_cons (column : Nat) (entry : List Char × WrittenValue)
    (others : List (List Char × WrittenValue)) (rest : List Char) :
    NodeProfile.writeMapping column (entry :: others) ++ rest =
      spaces column ++ (writeEntry column entry.1 entry.2 ++
        (NodeProfile.writeMapping column others ++ rest)) := by
  simp [NodeProfile.writeMapping]

/-- An entry is read as its tokens, and the next line begins. -/
theorem KeyStart.entry {key : List Char} {value : WrittenValue}
    (start : KeyStart layout waiting indents column
      (writeEntry column key value ++ (spaces count ++ rest)))
    (opens : Opens .blockMappingStart indents column outer opening)
    (narrow : column + 2 < foldColumn) (fits : KeyFits column key)
    (writable : value.IsWritable) (shallow : count ≤ column)
    (noMarker : beginsWithMarker
      (spaces column ++ (writeEntry column key value ++ (spaces count ++ rest))) = false)
    (begins : LineBegins count rest) :
    ∃ reached left, KeyStart reached left (column :: outer) count rest ∧
      Leads layout waiting (opening ++ entryTokens key value) reached left := by
  by_cases simple : isSimpleKey key = true
  · rw [writeEntry_simple simple] at start noMarker
    obtain ⟨behindColon, valueStart, keyLeads⟩ := start.simpleKey opens
      (scalarText_simpleKey opens narrow key) (isShown_simpleKey simple column) (fits simple) rfl
      noMarker
    obtain ⟨reached, nextStart, valueLeads⟩ := valueStart.scalar
      (scalarText_write writable column _ narrow) shallow begins
    refine ⟨reached, [], nextStart, ?_⟩
    have leads := keyLeads.trans valueLeads
    rw [List.append_assoc] at leads
    exact leads
  · rw [writeEntry_marked simple] at start
    obtain ⟨behindMark, keyStart, markLeads⟩ := start.keyMark opens
    have keyText : ScalarText (column + 1) (writeText ⟨true, column + 2⟩ (column + 2) key)
        (textToken key) :=
      scalarText_writeText ⟨true, column + 2⟩ (column + 2) key (Nat.succ_pos _) (Nat.le_succ _)
        narrow
    obtain ⟨behindKey, left, colonStart, keyLeads⟩ := keyStart.scalar (by omega) keyText
      (Nat.le_refl _) (lineBegins_cons column _ (by decide) (by decide))
    obtain ⟨behindColon, valueStart, colonLeads⟩ := colonStart.valueMark
    obtain ⟨reached, last, nextStart, valueLeads⟩ := valueStart.scalar (by omega)
      (scalarText_write writable column _ narrow) shallow begins
    refine ⟨reached, last, nextStart, ?_⟩
    have leads := ((markLeads.trans keyLeads).trans colonLeads).trans valueLeads
    simp only [List.append_assoc] at leads
    exact leads

/-- A line may begin with an entry of a mapping that is indented. -/
theorem lineBegins_entry (indented : 0 < column) (narrow : column + 2 < foldColumn)
    (key : List Char) (value : WrittenValue) (rest : List Char) :
    LineBegins column (writeEntry column key value ++ rest) := by
  refine ⟨?_, beginsWithMarker_spaces indented _⟩
  rw [writeEntry]
  split
  · have text := scalarText_simpleKey (@Opens.inside .blockMappingStart column []) narrow key
    simp only [List.append_assoc]
    exact text.head?_append _
  · intro c head
    cases head
    decide

/-- Entries are read as their tokens, and the next line begins. -/
theorem KeyStart.entries {key : List Char} {value : WrittenValue}
    {others : List (List Char × WrittenValue)}
    (start : KeyStart layout waiting indents column
      (writeEntry column key value ++ (NodeProfile.writeMapping column others ++
        (spaces count ++ rest))))
    (opens : Opens .blockMappingStart indents column outer opening)
    (lines : ∀ entry ∈ (key, value) :: others, ∀ behind,
      LineBegins column (writeEntry column entry.1 entry.2 ++ behind))
    (narrow : column + 2 < foldColumn)
    (fits : ∀ entry ∈ (key, value) :: others, KeyFits column entry.1)
    (writable : ∀ entry ∈ (key, value) :: others, entry.2.IsWritable) (shallow : count ≤ column)
    (begins : LineBegins count rest) :
    ∃ reached left, KeyStart reached left (column :: outer) count rest ∧
      Leads layout waiting (opening ++ entriesTokens ((key, value) :: others)) reached left := by
  induction others generalizing layout waiting indents opening key value with
  | nil =>
    obtain ⟨reached, left, next, leads⟩ := KeyStart.entry start opens narrow
      (fits _ List.mem_cons_self) (writable _ List.mem_cons_self) shallow
      (lines _ List.mem_cons_self _).noMarker begins
    refine ⟨reached, left, next, ?_⟩
    simpa [entriesTokens] using leads
  | cons entry others ih =>
    rw [writeMapping_cons] at start
    obtain ⟨between, waits, next, leads⟩ := KeyStart.entry start opens narrow
      (fits _ List.mem_cons_self) (writable _ List.mem_cons_self) (Nat.le_refl column)
      (lines _ List.mem_cons_self _).noMarker
      (lines entry (List.mem_cons_of_mem _ List.mem_cons_self) _)
    obtain ⟨reached, left, last, leadsOn⟩ := ih next (.inside column outer)
      (fun other member => lines other (List.mem_cons_of_mem _ member))
      (fun other member => fits other (List.mem_cons_of_mem _ member))
      (fun other member => writable other (List.mem_cons_of_mem _ member))
    refine ⟨reached, left, last, ?_⟩
    have both := leads.trans leadsOn
    rw [List.append_assoc] at both
    exact both

/-! ## Keys that do not fit -/

/-- A scalar stands in front of the end of a text. -/
theorem isInner_scalar (isPlain : Bool) (s : String) : (Token.scalar isPlain s).IsInner := by
  simp [Token.IsInner]

/-- The tokens of entries stand in front of the end of a text. -/
theorem isInner_entriesTokens (entries : List (List Char × WrittenValue)) :
    ∀ token ∈ entriesTokens entries, token.IsInner := by
  intro token member
  obtain ⟨⟨key, value⟩, _, among⟩ := List.mem_flatMap.1 member
  simp only [entryTokens, List.mem_cons, List.not_mem_nil, or_false] at among
  rcases among with rfl | rfl | rfl | rfl
  · simp [Token.IsInner]
  · exact isInner_scalar _ _
  · simp [Token.IsInner]
  · cases value <;> exact isInner_scalar _ _

/-- The tokens of entries neither open nor close anything. -/
theorem isLevel_entriesTokens (entries : List (List Char × WrittenValue)) :
    ∀ token ∈ entriesTokens entries, token.IsLevel := by
  intro token member
  obtain ⟨⟨key, value⟩, _, among⟩ := List.mem_flatMap.1 member
  simp only [entryTokens, List.mem_cons, List.not_mem_nil, or_false] at among
  rcases among with rfl | rfl | rfl | rfl
  · exact ⟨rfl, rfl⟩
  · exact ⟨rfl, rfl⟩
  · exact ⟨rfl, rfl⟩
  · cases value <;> exact ⟨rfl, rfl⟩

/-- The token that opens a mapping stands in front of the end of a text. -/
theorem Opens.isInner (opens : Opens .blockMappingStart indents column outer opening) :
    ∀ token ∈ opening, token.IsInner := by
  intro token member
  cases opens with
  | inside => cases member
  | new =>
    rw [List.mem_singleton.1 member]
    simp [Token.IsInner]

/-- At an entry whose key does not fit, the lexemes break off. -/
theorem KeyStart.longEntry {key : List Char} {value : WrittenValue}
    (start : KeyStart layout waiting indents column (writeEntry column key value ++ rest))
    (opens : Opens .blockMappingStart indents column outer opening) (indented : 0 < column)
    (narrow : column + 2 < foldColumn) (long : ¬ KeyFits column key)
    (inner : ∀ token ∈ waiting, token.IsInner) :
    BreaksOff (waiting.countP Token.opens) layout.run := by
  obtain ⟨simple, tooLong⟩ := Classical.not_imp.1 long
  rw [writeEntry_simple simple] at start
  exact start.longKey opens (scalarText_simpleKey opens narrow key)
    (isShown_simpleKey simple column) (Nat.lt_of_not_le tooLong) rfl
    (beginsWithMarker_spaces indented _) inner (isInner_scalar _ _) rfl

/-- Entries break off if a key does not fit. Nothing is opened but their mapping. -/
theorem KeyStart.longEntries {key : List Char} {value : WrittenValue}
    {others : List (List Char × WrittenValue)}
    (start : KeyStart layout waiting indents column
      (writeEntry column key value ++ (NodeProfile.writeMapping column others ++ rest)))
    (opens : Opens .blockMappingStart indents column outer opening)
    (indented : 0 < column) (narrow : column + 2 < foldColumn)
    (long : ∃ entry ∈ (key, value) :: others, ¬ KeyFits column entry.1)
    (writable : ∀ entry ∈ (key, value) :: others, entry.2.IsWritable)
    (inner : ∀ token ∈ waiting, token.IsInner) :
    BreaksOff ((waiting ++ opening).countP Token.opens) layout.run := by
  have more (waiting opening : List Token) :
      waiting.countP Token.opens ≤ (waiting ++ opening).countP Token.opens := by
    rw [List.countP_append]
    exact Nat.le_add_right _ _
  induction others generalizing layout waiting indents opening key value with
  | nil =>
    obtain ⟨entry, member, tooLong⟩ := long
    rw [List.mem_singleton.1 member] at tooLong
    exact (start.longEntry opens indented narrow tooLong inner).mono (more _ _)
  | cons entry others ih =>
    by_cases fits : KeyFits column key
    · rw [writeMapping_cons] at start
      obtain ⟨between, waits, next, leads⟩ := KeyStart.entry start opens narrow fits
        (writable _ List.mem_cons_self) (Nat.le_refl column)
        (beginsWithMarker_spaces indented _)
        (lineBegins_entry indented narrow entry.1 entry.2 _)
      have entryInner := isInner_entriesTokens [(key, value)]
      have entryLevel := isLevel_entriesTokens [(key, value)]
      rw [entriesTokens, List.flatMap_singleton] at entryInner entryLevel
      have tokensInner : ∀ token ∈ waiting ++ (opening ++ entryTokens key value),
          token.IsInner := by
        intro token member
        rcases List.mem_append.1 member with before | member
        · exact inner token before
        rcases List.mem_append.1 member with opens' | among
        · exact opens.isInner token opens'
        · exact entryInner token among
      have counted : (waiting ++ (opening ++ entryTokens key value)).countP Token.opens =
          (waiting ++ opening).countP Token.opens := by
        have none : (entryTokens key value).countP Token.opens = 0 :=
          List.countP_eq_zero.2 fun token among => Bool.eq_false_iff.1 (entryLevel token among).1
        rw [← List.append_assoc, List.countP_append, none, Nat.add_zero]
      obtain ⟨other, member, tooLong⟩ := long
      have later : other ∈ entry :: others := by
        rcases List.mem_cons.1 member with rfl | later
        · exact absurd fits tooLong
        · exact later
      have rest := ih next (.inside column outer) ⟨other, later, tooLong⟩
        (fun other member => writable other (List.mem_cons_of_mem _ member))
        (fun token member => tokensInner token (leads.mem_left member))
      rw [List.append_nil] at rest
      rw [← counted]
      exact leads.breaksOff tokensInner rest
    · exact (start.longEntry opens indented narrow fits inner).mono (more _ _)

end Layout

end PodLaunch.Yaml
