import PodLaunch.Proofs.Yaml.SimpleKeys

/-!
# Empty collections

A list or a mapping that holds nothing is written in brackets or braces, behind the colon of its
key.
-/

namespace PodLaunch.Yaml.Layout

/-- The marks of an empty collection, with their tokens. -/
inductive EmptyMarks : FlowKind → Char → Char → Token → Token → Prop where
  /-- Brackets. -/
  | list : EmptyMarks .list '[' ']' .flowListStart .flowListEnd
  /-- Braces. -/
  | mapping : EmptyMarks .mapping '\x7b' '\x7d' .flowMappingStart .flowMappingEnd

/-- What is remembered within an empty collection that is the value of a key. -/
abbrev within (kind : FlowKind) (rest : List Char) (place : Place) (settled : Nat)
    (pending : List Lexeme) (indents : List Nat) : Layout :=
  { block rest place settled pending indents true none with flows := [⟨kind, none⟩] }

variable {kind : FlowKind} {left right : Char} {opening closing : Token} (rest : List Char)
  (place : Place) (settled : Nat) (indents : List Nat)

/-- The first mark of an empty collection begins it. -/
theorem readToken_openFlow (marks : EmptyMarks kind left right opening closing) :
    (block (left :: rest) place settled [] indents false none).readToken left rest =
      .ok (within kind rest (place.after [left]) settled [⟨opening, place.line, .profile⟩]
        indents) := by
  have noTriple (mark : Char) (other : mark = '-' ∨ mark = '.') :
      beginsWithTriple mark (left :: rest) = false :=
    beginsWithTriple_cons_eq_false rest (by rcases other with rfl | rfl <;> cases marks <;> decide)
  have advance := advanceTo_append [left] rest (within kind (left :: rest) place settled
    [⟨opening, place.line, .profile⟩] indents) rfl rfl
  have opens : (block (left :: rest) place settled [] indents false none).readToken left rest =
      openFlow (block (left :: rest) place settled [] indents false none) kind opening rest := by
    cases marks <;>
      simp [readToken, noTriple '-' (Or.inl rfl), noTriple '.' (Or.inr rfl)]
  rw [opens]
  exact congrArg Except.ok advance

/-- The second mark of an empty collection ends it. -/
theorem readToken_closeFlow (marks : EmptyMarks kind left right opening closing) :
    (within kind (right :: rest) place settled [] indents).readToken right rest =
      .ok (block rest (place.after [right]) settled [⟨closing, place.line, .profile⟩] indents false
        none) := by
  have noTriple (mark : Char) (other : mark = '-' ∨ mark = '.') :
      beginsWithTriple mark (right :: rest) = false :=
    beginsWithTriple_cons_eq_false rest (by rcases other with rfl | rfl <;> cases marks <;> decide)
  have advance := advanceTo_append [right] rest (block (right :: rest) place settled
    [⟨closing, place.line, .profile⟩] indents false none) rfl rfl
  have closes : (within kind (right :: rest) place settled [] indents).readToken right rest =
      closeFlow (within kind (right :: rest) place settled [] indents) closing rest := by
    cases marks <;>
      simp [readToken, noTriple '-' (Or.inl rfl), noTriple '.' (Or.inr rfl)]
  rw [closes]
  exact congrArg Except.ok advance

/-- Within an empty collection, its second mark comes next. -/
theorem toNextToken_within (marks : EmptyMarks kind left right opening closing) :
    (within kind (right :: rest) place settled [] indents).toNextToken =
      .ok (within kind (right :: rest) place settled [] indents) := by
  have skipped : skipBlank false false false (right :: rest) = (false, right :: rest) := by
    cases marks <;> rfl
  have stays := advanceTo_append [] (right :: rest)
    (within kind (right :: rest) place settled [] indents) rfl rfl
  simp only [toNextToken, inFlow, List.isEmpty_cons, Bool.not_false, Dialect.isProfile,
    Bool.not_true, Bool.and_false, skipped, stays]
  rfl

/-- An empty collection that is the value of a key is settled, and the next line begins. -/
theorem ValueStart.empty {layout : Layout} {column count : Nat} {outer : List Nat}
    {rest : List Char}
    (start : ValueStart layout column outer
      (' ' :: left :: right :: ('\n' :: spaces count ++ rest)))
    (marks : EmptyMarks kind left right opening closing) :
    ∃ reached, KeyStart reached [] (column :: outer) count rest ∧
      Leads layout [] [opening, closing] reached [] := by
  obtain ⟨place, settled, rfl, inside⟩ := start
  have noBlank : ∀ c, (left :: right :: ('\n' :: spaces count ++ rest)).head? = some c →
      c ≠ ' ' ∧ isBreak c = false ∧ c ≠ '#' := by
    intro c head
    cases head
    cases marks <;> decide
  have next := toNextToken_block [' '] (left :: right :: ('\n' :: spaces count ++ rest)) place
    settled [] (column :: outer) false none (skipBlank_spaces noBlank false 1) rfl
  have stays : ∀ indent ∈ (column :: outer).head?, indent ≤ (place.after [' ']).column := by
    intro indent head
    cases head
    exact Nat.le_of_lt (Nat.lt_succ_of_lt inside)
  rw [closeDeeper_of_le _ _ _ _ _ _ _ _ stays] at next
  let atLeft : Place := place.after [' ']
  let atRight : Place := atLeft.after [left]
  let tail : List Char := '\n' :: spaces count ++ rest
  have opens := readToken_openFlow (right :: tail) atLeft settled (column :: outer) marks
  have opened : (block (left :: right :: tail) atLeft settled [] (column :: outer) false
      none).readSettled left (right :: tail) = .ok (within kind (right :: tail) atRight settled
        [⟨opening, atLeft.line, .profile⟩] (column :: outer)) :=
    readSettled_eq rfl left _ opens rfl rfl
  have first : Leads (block (' ' :: left :: right :: tail) place settled [] (column :: outer) false
      none) [] [opening]
      (within kind (right :: tail) atRight (settled + 1) [] (column :: outer)) [] :=
    ⟨[⟨opening, atLeft.line, .profile⟩], [opening],
      run_eq_append next rfl opened (Nat.lt_succ_of_lt (Nat.lt_succ_self _)),
      List.Forall₂.cons ⟨rfl, rfl⟩ List.Forall₂.nil, rfl⟩
  have closes := readToken_closeFlow tail atRight (settled + 1) (column :: outer) marks
  have closed := readSettled_block _ _ _ _ _ _ _ rfl right _ closes rfl
  have second := leads_of_read (toNextToken_within _ _ _ _ marks) rfl closed (Nat.lt_succ_self _)
    (show _ = [closing].reverse ++ [] from rfl)
  exact ⟨_, ⟨'\n' :: spaces count, _, _, [], false, none, rfl, rfl, Or.inl rfl, by simp⟩,
    first.trans second⟩

end PodLaunch.Yaml.Layout
