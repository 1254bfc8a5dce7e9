import PodLaunch.Yaml.Quoted
import PodLaunch.Yaml.Style

/-!
# Characters that are written

Whatever a text is, all that is written of it is of ASCII: the characters from the space to the
tilde, and line feeds. None of them but the line feed ends a line, and a line that is indented
begins with no marker.
-/

namespace PodLaunch.Yaml

/-- A character is written as itself. -/
def IsShown (c : Char) : Prop :=
  ' ' ≤ c ∧ c ≤ '~'

instance (c : Char) : Decidable (IsShown c) :=
  inferInstanceAs (Decidable (' ' ≤ c ∧ c ≤ '~'))

/-- A character that is shown ends no line. -/
theorem IsShown.isBreak_eq_false {c : Char} (h : IsShown c) : isBreak c = false := by
  have other (code : Char) (low : code < ' ' ∨ '~' < code) : c ≠ code := by
    rintro rfl
    rcases low with low | high
    · exact absurd low (Char.not_lt.2 h.1)
    · exact absurd high (Char.not_lt.2 h.2)
  simp [isBreak, isSeparator, other '\n' (by decide), other '\x85' (by decide),
    other '\u2028' (by decide), other '\u2029' (by decide)]

/-- A character that is shown is no tabulator. -/
theorem IsShown.ne_tab {c : Char} (h : IsShown c) : c ≠ '\t' := by
  rintro rfl
  exact absurd h.1 (by decide)

/-- A line that begins with neither a dash nor a point begins with no marker. -/
theorem beginsWithMarker_cons_eq_false {c : Char} (h : c ≠ '-' ∧ c ≠ '.') (rest : List Char) :
    beginsWithMarker (c :: rest) = false := by
  match rest with
  | [] => rfl
  | [_] => rfl
  | _ :: _ :: _ => simp [beginsWithMarker, beginsWithTriple, h.1, h.2]

/-- An indented line begins with no marker. -/
theorem beginsWithMarker_spaces {count : Nat} (indented : 0 < count) (rest : List Char) :
    beginsWithMarker (spaces count ++ rest) = false := by
  cases count with
  | zero => cases indented
  | succ count => exact beginsWithMarker_cons_eq_false (by decide) (spaces count ++ rest)

/-- Nothing but blanks within a line is in a gap. -/
def Gap.IsInline : Gap → Prop
  | .none | .blanks _ => True
  | .lines _ _ | .joined _ => False

/-- A blank within a line belongs to the text. -/
theorem Gap.appendTo_addBlank {gap : Gap} (h : gap.IsInline) (c : Char) (text : List Char) :
    (gap.addBlank c).IsInline ∧ (gap.addBlank c).appendTo text = c :: gap.appendTo text := by
  cases gap with
  | none => exact ⟨trivial, rfl⟩
  | blanks _ => exact ⟨trivial, rfl⟩
  | lines _ _ => cases h
  | joined _ => cases h

/-- A line break makes a gap one between lines. -/
theorem Gap.hasBreak_addBreak (gap : Gap) (c : Char) : (gap.addBreak c).hasBreak = true := by
  cases gap <;> rfl

/-- Blanks at the beginning of a line are dropped. -/
theorem Gap.addBlank_of_hasBreak {gap : Gap} (h : gap.hasBreak = true) (c : Char) :
    gap.addBlank c = gap := by
  cases gap with
  | none => cases h
  | blanks _ => cases h
  | lines _ _ => rfl
  | joined _ => rfl

/-- Spaces as one space and others. -/
theorem spaces_succ (count : Nat) : spaces (count + 1) = ' ' :: spaces count := rfl

/-- A space in front of spaces is one behind them. -/
theorem spaces_append_space (count : Nat) (rest : List Char) :
    spaces count ++ ' ' :: rest = spaces (count + 1) ++ rest := by
  rw [spaces, spaces, List.replicate_succ', List.append_assoc, List.singleton_append]

end PodLaunch.Yaml
