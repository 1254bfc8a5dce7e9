import PodLaunch.Proofs.Yaml.KeyStarts

/-!
# Marks within blocks

A mark at a column belongs to the block that begins there, and opens it if need be. Blocks that
begin deeper than a line are closed in front of it.
-/

namespace PodLaunch.Yaml.Layout

variable {layout : Layout} {rest : List Char} {waiting opening : List Token}
  {indents outer : List Nat} {column : Nat}

/-! ## Blocks that are opened and closed -/

/-- A key at a column belongs to the block that begins there, within outer ones. If there is none, a
token opens it. -/
inductive Opens (token : Token) : List Nat → Nat → List Nat → List Token → Prop where
  /-- The block is open. -/
  | inside (column : Nat) (outer : List Nat) : Opens token (column :: outer) column outer []
  /-- The block is opened. -/
  | new (column : Nat) (outer : List Nat)
    (deeper : ∀ indent ∈ outer.head?, indent < column) : Opens token outer column outer [token]

/-- No open block begins deeper than a key that belongs to a block. -/
theorem Opens.head?_le {token : Token} (opens : Opens token indents column outer opening) :
    ∀ indent ∈ indents.head?, indent ≤ column := by
  cases opens with
  | inside => exact fun indent head => Nat.le_of_eq (Option.some.inj head).symm
  | new _ _ deeper => exact fun indent head => Nat.le_of_lt (deeper indent head)

/-- The tokens that open a block are the same in both directions. -/
theorem Opens.reverse_eq {token : Token} (opens : Opens token indents column outer opening) :
    opening.reverse = opening := by
  cases opens <;> rfl

/-- A block is opened at a column unless it is open. -/
theorem openAt_block {token : Token} (opens : Opens token indents column outer opening)
    (rest : List Char) (place : Place) (settled : Nat) (pending : List Lexeme)
    (keyAllowed : Bool) (key : Option PossibleKey) :
    (block rest place settled pending indents keyAllowed key).openAt column =
      if opening = [] then none
      else some (block rest place settled pending (column :: outer) keyAllowed key) := by
  cases opens with
  | inside =>
    have closed : ¬ column + 1 ≤ column := by omega
    simp [openAt, innerColumn, closed]
  | new _ _ deeper =>
    have inside : (block rest place settled pending indents keyAllowed key).innerColumn ≤
        column := by
      unfold innerColumn
      cases indents with
      | nil => exact Nat.zero_le _
      | cons indent others => exact deeper indent rfl
    simp [openAt, inside]

/-- A block is opened where a mark stands unless it is open. -/
theorem openHere_block {token : Token} {place : Place}
    (opens : Opens token indents place.column outer opening) (rest : List Char)
    (settled : Nat) (pending : List Lexeme) (keyAllowed : Bool) (key : Option PossibleKey) :
    (block rest place settled pending indents keyAllowed key).openHere token =
      block rest place settled
        (opening.map (fun token => ⟨token, place.line, .profile⟩) ++ pending)
        (place.column :: outer) keyAllowed key := by
  have opened := openAt_block opens rest place settled pending keyAllowed key
  rw [openHere, opened]
  cases opens <;> rfl

/-- Two layouts from which the same token comes next have the same tokens. -/
theorem run_eq_of_toNextToken_eq {first second next : Layout}
    (one : first.toNextToken = .ok next) (other : second.toNextToken = .ok next)
    (length : first.rest.length = second.rest.length) : first.run = second.run := by
  rw [run, run, one, other]
  simp only [length]

/-- A block that begins deeper than the next key is closed. -/
theorem KeyStart.close {deep : Nat}
    (start : KeyStart layout waiting (deep :: outer) column rest)
    (begins : LineBegins column rest) (deeper : column < deep)
    (stays : ∀ indent ∈ outer.head?, indent ≤ column) :
    ∃ reached, KeyStart reached (.blockEnd :: waiting) outer column rest ∧
      Leads layout waiting [.blockEnd] reached (.blockEnd :: waiting) := by
  obtain ⟨blank, place, settled, pending, keyAllowed, key, rfl, carried, leads⟩ := start
  let ending : Lexeme := ⟨.blockEnd, (place.after blank).line, .profile⟩
  have closes : (block rest (place.after blank) settled pending (deep :: outer) true
      none).closeDeeper (some column) =
      block rest (place.after blank) settled (ending :: pending) outer true none := by
    have outerStays : outer.takeWhile (fun indent => decide (column < indent)) = [] := by
      cases outer with
      | nil => rfl
      | cons indent others => simp [stays indent rfl]
    simp [closeDeeper, inFlow, deeper, outerStays, closeBlocks, emit, lexeme, ending]
  have next := (leads.toNextToken begins settled pending (deep :: outer)).2
  have other := (leads.toNextToken begins settled (ending :: pending) outer).2
  rw [closes] at next
  rw [closeDeeper_of_le _ _ _ _ _ _ _ _ stays] at other
  refine ⟨_, ⟨blank, place, settled, ending :: pending, keyAllowed, key, rfl, ?_, leads⟩,
    [], [], run_eq_of_toNextToken_eq next other rfl, List.Forall₂.nil, List.reverse_cons⟩
  rw [List.map_cons, carried]

/-- At the end of the text, the outermost block is closed. -/
theorem KeyStart.finish (start : KeyStart layout waiting [0] 0 []) :
    Carries layout.run (waiting.reverse ++ [.blockEnd, .textEnd]) := by
  have begins : LineBegins 0 [] := ⟨by simp, rfl⟩
  obtain ⟨place, settled, pending, carried, atMargin, _, next⟩ := start.toNextToken begins (by simp)
  have finished := carries_settledTokens [] place settled
    (⟨.textEnd, place.line, .profile⟩ :: ⟨.blockEnd, place.line, .profile⟩ :: pending) [] false none
  have ends : (block [] place settled pending [0] true none).finish = (block [] place settled
    (⟨.textEnd, place.line, .profile⟩ :: ⟨.blockEnd, place.line, .profile⟩ :: pending) [] false
    none).settledTokens := rfl
  rw [run_eq_finish next rfl, ends, ← carried]
  simpa using finished

/-! ## Marks -/

/-- A line may begin with a character that is neither blank nor begins a marker or a comment. -/
theorem lineBegins_cons (column : Nat) {c : Char} (others : List Char)
    (noBlank : c ≠ ' ' ∧ isBreak c = false ∧ c ≠ '#') (noMarker : c ≠ '-' ∧ c ≠ '.') :
    LineBegins column (c :: others) := by
  constructor
  · intro first head
    cases head
    exact noBlank
  · cases column with
    | zero => exact beginsWithMarker_cons_eq_false noMarker others
    | succ column => exact beginsWithMarker_spaces (Nat.succ_pos column) _

/-- A line may begin with a dash in front of a space. -/
theorem lineBegins_dash (column : Nat) (others : List Char) :
    LineBegins column ('-' :: ' ' :: others) := by
  constructor
  · intro first head
    cases head
    decide
  · cases column with
    | zero => cases others <;> rfl
    | succ column => exact beginsWithMarker_spaces (Nat.succ_pos column) _

/-- Behind a mark and a space, a key may begin. -/
theorem keyStart_behindMark (place : Place) (settled : Nat) (indents : List Nat) :
    KeyStart (block (' ' :: rest) (place.after ['-']) settled [] indents true none) [] indents
      (place.column + 2) rest :=
  ⟨[' '], _, settled, [], true, none, rfl, rfl, Or.inr ⟨rfl, 1, rfl, rfl⟩, by simp⟩

/-- A dash within a block stands in front of an element. -/
theorem KeyStart.dash
    (start : KeyStart layout waiting (column :: outer) column ('-' :: ' ' :: rest)) :
    ∃ reached, KeyStart reached [] (column :: outer) (column + 2) rest ∧
      Leads layout waiting [.dash] reached [] := by
  obtain ⟨place, settled, pending, carried, rfl, shorter, next⟩ :=
    start.toNextToken (lineBegins_dash column rest) (by simp)
  have noMarker : beginsWithTriple '-' ('-' :: ' ' :: rest) = false := by cases rest <;> rfl
  have noPoint : beginsWithTriple '.' ('-' :: ' ' :: rest) = false := by cases rest <;> rfl
  have isDash : (block ('-' :: ' ' :: rest) place settled pending (place.column :: outer) true
      none).readToken '-' (' ' :: rest) = readDash (block ('-' :: ' ' :: rest) place settled
        pending (place.column :: outer) true none) (' ' :: rest) := by
    simp [readToken, noMarker, noPoint, endsWord]
  have read : (block ('-' :: ' ' :: rest) place settled pending (place.column :: outer) true
      none).readToken '-' (' ' :: rest) =
      .ok (block (' ' :: rest) (place.after ['-']) settled
        (⟨.dash, place.line, .profile⟩ :: pending) (place.column :: outer) true none) := by
    have opened := openHere_block (@Opens.inside .blockListStart place.column outer)
      ('-' :: ' ' :: rest) settled pending true none
    rw [isDash, readDash, ← advanceTo_block ['-']]
    simp only [opened]
    rfl
  have settles := readSettled_block _ _ _ _ _ _ _ rfl '-' (' ' :: rest) read rfl
  refine ⟨_, keyStart_behindMark place _ _, leads_of_read next rfl settles ?_ ?_⟩
  · simp only [List.length_cons] at shorter ⊢
    omega
  · simp [carried]

/-- A question mark stands in front of a key, and opens a block for it if need be. -/
theorem KeyStart.keyMark
    (start : KeyStart layout waiting indents column ('?' :: ' ' :: rest))
    (opens : Opens .blockMappingStart indents column outer opening) :
    ∃ reached, KeyStart reached [] (column :: outer) (column + 2) rest ∧
      Leads layout waiting (opening ++ [.key]) reached [] := by
  obtain ⟨place, settled, pending, carried, rfl, shorter, next⟩ :=
    start.toNextToken (lineBegins_cons column _ (by decide) (by decide)) opens.head?_le
  have noDash := beginsWithTriple_cons_eq_false (' ' :: rest) (show '?' ≠ '-' by decide)
  have noPoint := beginsWithTriple_cons_eq_false (' ' :: rest) (show '?' ≠ '.' by decide)
  have isMark : (block ('?' :: ' ' :: rest) place settled pending indents true none).readToken '?'
      (' ' :: rest) =
      readKeyMark (block ('?' :: ' ' :: rest) place settled pending indents true none)
        (' ' :: rest) := by
    simp [readToken, noDash, noPoint, endsWord]
  have read : (block ('?' :: ' ' :: rest) place settled pending indents true none).readToken '?'
      (' ' :: rest) =
      .ok (block (' ' :: rest) (place.after ['?']) settled
        (⟨.key, place.line, .profile⟩ ::
          (opening.map (fun token => ⟨token, place.line, .profile⟩) ++ pending))
        (place.column :: outer) true none) := by
    have opened := openHere_block opens ('?' :: ' ' :: rest) settled pending true none
    rw [isMark, readKeyMark, ← advanceTo_block ['?']]
    simp only [opened]
    rfl
  have settles := readSettled_block _ _ _ _ _ _ _ rfl '?' (' ' :: rest) read rfl
  refine ⟨_, keyStart_behindMark place _ _, leads_of_read next rfl settles ?_ ?_⟩
  · simp only [List.length_cons] at shorter ⊢
    omega
  · simp [carried, opens.reverse_eq, Function.comp_def]

/-- A colon within a block stands in front of the value of a key that is marked. -/
theorem KeyStart.valueMark
    (start : KeyStart layout waiting (column :: outer) column (':' :: ' ' :: rest)) :
    ∃ reached, KeyStart reached [] (column :: outer) (column + 2) rest ∧
      Leads layout waiting [.value] reached [] := by
  obtain ⟨place, settled, pending, carried, rfl, shorter, next⟩ :=
    start.toNextToken (lineBegins_cons column _ (by decide) (by decide)) (by simp)
  have isColon : (block (':' :: ' ' :: rest) place settled pending (place.column :: outer) true
      none).readToken ':' (' ' :: rest) =
      readColon (block (':' :: ' ' :: rest) place settled pending (place.column :: outer) true
        none) (' ' :: rest) :=
    readToken_colon (' ' :: rest) rfl rfl
  have read : (block (':' :: ' ' :: rest) place settled pending (place.column :: outer) true
      none).readToken ':' (' ' :: rest) =
      .ok (block (' ' :: rest) (place.after [':']) settled
        (⟨.value, place.line, .profile⟩ :: pending) (place.column :: outer) true none) := by
    have opened := openHere_block (@Opens.inside .blockMappingStart place.column outer)
      (':' :: ' ' :: rest) settled pending true none
    rw [isColon, readColon, ← advanceTo_block [':']]
    simp only [opened]
    rfl
  have settles := readSettled_block _ _ _ _ _ _ _ rfl ':' (' ' :: rest) read rfl
  refine ⟨_, keyStart_behindMark place _ _, leads_of_read next rfl settles ?_ ?_⟩
  · simp only [List.length_cons] at shorter ⊢
    omega
  · simp [carried]

end PodLaunch.Yaml.Layout
