import Mathlib.Data.List.Forall2
import PodLaunch.Yaml.Layout

/-!
# The lexemes of a profile

Lexemes carry tokens if they are these tokens, one after the other, and all of them belong to a
profile. Lexemes are cut off if the text cannot be read to its end.
-/

namespace PodLaunch.Yaml

/-- Some lexemes of a profile are those of tokens. -/
def Carries (lexemes : List Lexeme) (tokens : List Token) : Prop :=
  List.Forall₂ (fun lexeme token => lexeme.token = token ∧ lexeme.dialect = .profile) lexemes tokens

/-- The lexemes of tokens and those of others are those of both. -/
theorem Carries.append {first second : List Lexeme} {tokens others : List Token}
    (one : Carries first tokens) (other : Carries second others) :
    Carries (first ++ second) (tokens ++ others) :=
  List.rel_append one other

/-- A lexeme of some tokens has one of them. -/
theorem Carries.mem {lexemes : List Lexeme} {tokens : List Token}
    (carries : Carries lexemes tokens) {lexeme : Lexeme} (member : lexeme ∈ lexemes) :
    lexeme.dialect = .profile ∧ lexeme.token ∈ tokens := by
  induction carries with
  | nil => cases member
  | cons one _ ih =>
    rcases List.mem_cons.1 member with rfl | later
    · rw [one.1]
      exact ⟨one.2, List.mem_cons_self⟩
    · exact ⟨(ih later).1, List.mem_cons_of_mem _ (ih later).2⟩

/-- A token stands in front of the end of a text, or in front of a place where the text is
malformed. -/
def Token.IsInner (token : Token) : Prop :=
  token ≠ .textEnd ∧ ∀ cause, token = .defect cause → cause = .malformed

/-- Lexemes of a profile are cut off if they break off before the end of the text. -/
def CutOff (lexemes : List Lexeme) : Prop :=
  ∀ lexeme ∈ lexemes, lexeme.dialect = .profile ∧ lexeme.token.IsInner

/-- Lexemes that are cut off are so from any one on. -/
theorem CutOff.drop {lexemes : List Lexeme} (cut : CutOff lexemes) (count : Nat) :
    CutOff (lexemes.drop count) :=
  fun lexeme member => cut lexeme (List.mem_of_mem_drop member)

end PodLaunch.Yaml
