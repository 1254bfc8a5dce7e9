import PodLaunch.Proofs.Yaml.Lexemes
import PodLaunch.Proofs.Yaml.Readers

/-!
# Texts that break off

Where the tokens of a profile break off in front of the end of the text, every reader either leaves
such tokens behind or finds the text malformed. So it is malformed as a whole.
-/

namespace PodLaunch.Yaml

/-- A result has a property, or else the text is malformed. -/
abbrev HoldsOrMalformed {α : Type} (P : α → Prop) (result : Except Defect α) : Prop :=
  Yields (fun cause => cause = .malformed) P result

/-- The lexeme is one of a profile, in front of the end of its text. -/
abbrev IsInnerLexeme (lexeme : Lexeme) : Prop :=
  lexeme.dialect = .profile ∧ lexeme.token.IsInner

/-- Where a text breaks off, it is malformed, and nothing else is wrong. -/
theorem accountsFor_inner : AccountsFor IsInnerLexeme fun cause => cause = .malformed where
  malformed := rfl
  defect _ inner cause isDefect := inner.2.2 cause isDefect
  meaning lexeme inner isPlain text := by
    rw [inner.1]
    cases isPlain <;> exact trivial

variable {lexemes : List Lexeme}

/-- There is a next document, which leaves tokens behind that are cut off. -/
theorem nextSection_cutOff (cut : CutOff lexemes) (unmarked : Bool) :
    HoldsOrMalformed (fun next => ∃ found, next = some found ∧ CutOff found.rest)
      (nextSection unmarked lexemes) := by
  have cutBehind : CutOff (skipEnds lexemes) := skipEnds_all cut
  rw [nextSection]
  refine (headLexeme_yields accountsFor_inner cut).bind fun lexeme _ => ?_
  split
  · exact (readSection_yields accountsFor_inner cut _ _).bind fun found leaving =>
      ⟨found, rfl, leaving.rest⟩
  · refine (headLexeme_yields accountsFor_inner cutBehind).bind
      fun first ⟨isProfile, noEnd, _⟩ => ?_
    rw [if_neg noEnd]
    refine (readPreamble_yields accountsFor_inner cutBehind {}).bind fun ⟨preamble, rest⟩ cut => ?_
    have edition : preamble.checkEdition first.dialect = .ok () := by
      rw [isProfile]
      unfold Preamble.checkEdition
      split <;> rfl
    dsimp only
    rw [edition]
    refine (headLexeme_yields accountsFor_inner cut).bind fun start _ => ?_
    split
    · exact rfl
    · exact (readSection_yields accountsFor_inner (cut.drop 1) _ _).bind fun found leaving =>
        ⟨found, rfl, leaving.rest⟩

/-- Behind a document whose text breaks off, the text is malformed. -/
theorem checkOnly_cutOff {found : Section} (cut : CutOff found.rest) :
    checkOnly found = .error .malformed := by
  have cutBehind : CutOff (skipEnds found.rest) := skipEnds_all cut
  have never : HoldsOrMalformed (fun _ => False) (checkOnly found) := by
    refine (headLexeme_yields accountsFor_inner cutBehind).bind fun lexeme ⟨_, noEnd, _⟩ => ?_
    rw [if_neg noEnd]
    exact (readPreamble_yields accountsFor_inner cutBehind {}).bind fun _ _ => rfl
  match only : checkOnly found, never with
  | .error cause, malformed => exact congrArg Except.error malformed

/-- A text that breaks off is malformed. -/
theorem profileDocument_of_cutOff {text : Text.Decoded} {room : Nat}
    (cut : CutOff (withinRoom room (tokensOf .profile text))) :
    profileDocument room text = .error .malformed := by
  have never : HoldsOrMalformed (fun _ => False) (profileDocument room text) := by
    refine (nextSection_cutOff cut true).bind ?_
    rintro _ ⟨found, rfl, cut⟩
    dsimp only
    rw [checkOnly_cutOff cut]
    exact rfl
  match document : profileDocument room text, never with
  | .error cause, malformed => exact congrArg Except.error malformed

end PodLaunch.Yaml
