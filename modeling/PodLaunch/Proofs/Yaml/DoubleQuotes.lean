import Mathlib.Algebra.Group.Nat.Defs
import PodLaunch.Proofs.Yaml.Written

/-!
# Texts between double quotes

What is written between double quotes is read as the same text: an escape is read as its character,
and a fold as nothing. A space behind a fold would be taken for indentation; it is escaped.
-/

namespace PodLaunch.Text

/-- A digit in upper case has the value that it was written for. -/
theorem hexValue?_toUpper_lastHexDigit (n : Nat) :
    hexValue? (lastHexDigit n).toUpper = some (n % 16) := by
  have digits : ∀ digit : Fin 16,
      hexValue? (hexDigits.getD digit.val '0').toUpper = some digit.val := by decide
  exact digits ⟨n % 16, Nat.mod_lt n (by decide)⟩

/-- A numeral has as its value the number, as far as its width reaches. -/
theorem numeralValue?_upperHexNumeral (width n : Nat) :
    numeralValue? 16 (upperHexNumeral width n) = some (n % 16 ^ width) := by
  induction width generalizing n with
  | zero => simp [upperHexNumeral, hexNumeral, numeralValue?, Nat.mod_one]
  | succ width ih =>
    have before := ih (n / 16)
    have smaller : n % 16 < 16 := Nat.mod_lt n (by decide)
    have value : n / 16 % 16 ^ width * 16 + n % 16 = n % 16 ^ (width + 1) := by
      rw [Nat.pow_succ, Nat.mul_comm (16 ^ width), Nat.mod_mul]
      omega
    unfold numeralValue? upperHexNumeral at before ⊢
    rw [hexNumeral, List.map_append, List.foldl_append, before]
    simp only [List.map_cons, List.map_nil, List.foldl_cons, List.foldl_nil,
      hexValue?_toUpper_lastHexDigit, Option.bind_eq_bind, Option.bind_some, if_pos smaller, value]
    rfl

end PodLaunch.Text

namespace PodLaunch.Yaml

open Text

/-- No character has a code beyond the last one. -/
theorem toNat_lt_codeLimit (c : Char) : c.toNat < 0x110000 := by
  rcases c.valid with small | ⟨_, large⟩
  · exact Nat.lt_trans small (by decide)
  · exact large

/-- A character is read from the digits of its code. -/
theorem charOfDigits_upperHexNumeral (c : Char) (width : Nat) (wide : c.toNat < 16 ^ width) :
    charOfDigits (upperHexNumeral width c.toNat) = .ok c := by
  have valid : c.toNat.isValidChar := c.valid
  have bound := toNat_lt_codeLimit c
  rw [charOfDigits, numeralValue?_upperHexNumeral, Nat.mod_eq_of_lt wide]
  simp only [charOfCode]
  rw [if_neg (by simp; omega), if_neg (by omega), if_pos valid, Char.ofNat_toNat]

/-! ## Steps of the reader -/

variable (text : List Char) (gap : Gap) (rest : List Char)

/-- A backslash that no numeral follows makes what follows it an escape or a fold. -/
theorem doubleQuotedFrom_backslash {c : Char} (h : c ≠ 'x' ∧ c ≠ 'u' ∧ c ≠ 'U') :
    doubleQuotedFrom text gap ('\\' :: c :: rest) =
      if isBreak c then
        if beginsWithMarker rest then .error .malformed
        else doubleQuotedFrom (gap.appendTo text) (.joined []) rest
      else
        match escapedChar? c with
        | some escaped => doubleQuotedFrom (escaped :: gap.appendTo text) .none rest
        | none => .error .malformed :=
  doubleQuotedFrom.eq_6 text gap c rest (fun _ _ _ same => absurd same h.1)
    (fun _ _ _ _ _ same => absurd same h.2.1)
    (fun _ _ _ _ _ _ _ _ _ same => absurd same h.2.2)

/-- What is neither a quote nor a backslash stands for itself, or for a blank or a break. -/
theorem doubleQuotedFrom_other {c : Char} (noQuote : c ≠ '"') (noBackslash : c ≠ '\\') :
    doubleQuotedFrom text gap (c :: rest) =
      if c = ' ' ∨ c = '\t' then doubleQuotedFrom text (gap.addBlank c) rest
      else if isBreak c then
        if beginsWithMarker rest then .error .malformed
        else doubleQuotedFrom text (gap.addBreak c) rest
      else doubleQuotedFrom (c :: gap.appendTo text) .none rest := by
  rw [doubleQuotedFrom.eq_7 text gap c rest noQuote (fun _ _ _ same => absurd same noBackslash)
    (fun _ _ _ _ _ same => absurd same noBackslash)
    (fun _ _ _ _ _ _ _ _ _ same => absurd same noBackslash)
    (fun _ _ same => absurd same noBackslash), if_neg noBackslash]

/-- A letter behind a backslash is read as the character that it was written for. -/
theorem escapedChar?_of_escapeLetter? {c letter : Char} (h : escapeLetter? c = some letter) :
    (letter ≠ 'x' ∧ letter ≠ 'u' ∧ letter ≠ 'U') ∧ isBreak letter = false ∧
      escapedChar? letter = some c := by
  unfold escapeLetter? at h
  split at h
  all_goals first | (cases h; exact ⟨by decide, by decide, rfl⟩) | cases h

/-- An escape is read as the character that it was written for. -/
theorem doubleQuotedFrom_escape {c : Char} {escape : List Char} (h : escape? c = some escape) :
    doubleQuotedFrom text gap (escape ++ rest) =
      doubleQuotedFrom (c :: gap.appendTo text) .none rest := by
  have digits (width : Nat) (wide : c.toNat < 16 ^ width) :=
    charOfDigits_upperHexNumeral c width wide
  unfold escape? at h
  split at h
  · rename_i letter found
    cases h
    obtain ⟨noNumeral, noBreak, escaped⟩ := escapedChar?_of_escapeLetter? found
    rw [List.cons_append, List.cons_append, List.nil_append,
      doubleQuotedFrom_backslash text gap rest noNumeral, noBreak, escaped]
    rfl
  · split at h
    · cases h
    · have bound := toNat_lt_codeLimit c
      split at h
      · rename_i small
        cases h
        change doubleQuotedFrom text gap ('\\' :: 'x' :: _ :: _ :: rest) = _
        rw [doubleQuotedFrom.eq_3]
        change (charOfDigits (upperHexNumeral 2 c.toNat) >>= _) = _
        rw [digits 2 small]
        rfl
      · split at h
        · rename_i small
          cases h
          change doubleQuotedFrom text gap ('\\' :: 'u' :: _ :: _ :: _ :: _ :: rest) = _
          rw [doubleQuotedFrom.eq_4]
          change (charOfDigits (upperHexNumeral 4 c.toNat) >>= _) = _
          rw [digits 4 small]
          rfl
        · cases h
          change doubleQuotedFrom text gap
            ('\\' :: 'U' :: _ :: _ :: _ :: _ :: _ :: _ :: _ :: _ :: rest) = _
          rw [doubleQuotedFrom.eq_5]
          change (charOfDigits (upperHexNumeral 8 c.toNat) >>= _) = _
          rw [digits 8 (Nat.lt_trans bound (by decide))]
          rfl

/-- A character that needs no escape is of ASCII, and neither a quote nor a backslash. -/
theorem of_escape?_eq_none {c : Char} (h : escape? c = none) :
    IsShown c ∧ c ≠ '"' ∧ c ≠ '\\' := by
  unfold escape? at h
  split at h
  · cases h
  · rename_i noLetter
    split at h
    · rename_i shown
      refine ⟨by simpa [IsShown] using shown, ?_, ?_⟩
      · rintro rfl
        cases noLetter
      · rintro rfl
        cases noLetter
    · split at h
      · cases h
      · split at h <;> cases h

/-- A character that needs no escape stands for itself, unless it is a space. -/
theorem doubleQuotedFrom_shown {c : Char} (h : escape? c = none) (noSpace : c ≠ ' ') :
    doubleQuotedFrom text gap (c :: rest) =
      doubleQuotedFrom (c :: gap.appendTo text) .none rest := by
  obtain ⟨shown, noQuote, noBackslash⟩ := of_escape?_eq_none h
  have noBlank : ¬ (c = ' ' ∨ c = '\t') := by simp [noSpace, shown.ne_tab]
  rw [doubleQuotedFrom_other text gap rest noQuote noBackslash, if_neg noBlank,
    shown.isBreak_eq_false, if_neg Bool.false_ne_true]

/-- A space is added to the gap. -/
theorem doubleQuotedFrom_space :
    doubleQuotedFrom text gap (' ' :: rest) = doubleQuotedFrom text (gap.addBlank ' ') rest := by
  rw [doubleQuotedFrom_other text gap rest (by decide) (by decide), if_pos (Or.inl rfl)]

/-- A space behind a backslash is a character of the text. -/
theorem doubleQuotedFrom_escapedSpace :
    doubleQuotedFrom text gap ('\\' :: ' ' :: rest) =
      doubleQuotedFrom (' ' :: gap.appendTo text) .none rest := by
  rw [doubleQuotedFrom_backslash text gap rest (by decide), if_neg (by decide)]
  rfl

/-- Blanks behind a fold are dropped. -/
theorem doubleQuotedFrom_spaces (more : List Char) (count : Nat) :
    doubleQuotedFrom text (.joined more) (spaces count ++ rest) =
      doubleQuotedFrom text (.joined more) rest := by
  induction count with
  | zero => rfl
  | succ count ih =>
    rw [spaces, List.replicate_succ, List.cons_append, ← spaces, doubleQuotedFrom_space]
    exact ih

/-- A fold joins what is in front of it to what is behind it. -/
theorem doubleQuotedFrom_fold (folding : Folding) (indented : 0 < folding.indent) :
    doubleQuotedFrom text gap ('\\' :: folding.newLine ++ rest) =
      doubleQuotedFrom (gap.appendTo text) (.joined []) rest := by
  rw [Folding.newLine, List.cons_append, List.cons_append,
    doubleQuotedFrom_backslash text gap _ (by decide), if_pos (by decide),
    beginsWithMarker_spaces indented rest]
  exact doubleQuotedFrom_spaces _ rest [] folding.indent

/-! ## Reading what is written -/

variable {folding : Folding}

/-- A column that is not behind the last one is no place for a fold. -/
theorem Folding.foldsAt_eq_false {column : Nat} (h : column ≤ foldColumn) :
    folding.foldsAt column = false := by
  simp [Folding.foldsAt, Nat.not_lt.2 h]

/-- What is written between double quotes is read as the text, behind a gap within a line, behind a
fold unless the text begins with a space, and behind the backslash in front of such a space. -/
theorem doubleQuotedFrom_writeDouble (indented : 0 < folding.indent)
    (narrow : folding.indent < foldColumn) (tail s : List Char) :
    ∀ text gap column first afterEscape,
      (gap.IsInline ∨ gap = .joined [] ∧ s.head? ≠ some ' ' →
        doubleQuotedFrom text gap (writeDouble folding column first afterEscape s ++ '"' :: tail) =
          .ok ((gap.appendTo text).reverse ++ s, tail)) ∧
      (s.head? = some ' ' → column ≤ foldColumn →
        doubleQuotedFrom text gap
            ('\\' :: (writeDouble folding column first afterEscape s ++ '"' :: tail)) =
          .ok ((gap.appendTo text).reverse ++ s, tail)) := by
  induction s with
  | nil =>
    intro text gap column first afterEscape
    refine ⟨fun _ => ?_, fun begins => absurd begins (by simp)⟩
    rw [writeDouble, List.nil_append, doubleQuotedFrom.eq_2, List.append_nil]
  | cons c rest ih =>
    -- Behind a fold, the rest is read whether it begins with an escaped space or not.
    have behindFold (text : List Char) (gap : Gap) :
        doubleQuotedFrom text gap (foldEscaped folding rest ++
            (writeDouble folding (columnAfterFold folding rest) false true rest ++ '"' :: tail)) =
          .ok ((gap.appendTo text).reverse ++ rest, tail) := by
      by_cases space : rest.head? = some ' '
      · rw [foldEscaped, if_pos space, List.append_assoc, doubleQuotedFrom_fold _ _ _ _ indented]
        refine (ih _ _ _ _ _).2 space ?_
        rw [columnAfterFold, if_pos space]
        exact narrow
      · rw [foldEscaped, if_neg space, List.append_nil, doubleQuotedFrom_fold _ _ _ _ indented]
        exact (ih _ _ _ _ _).1 (Or.inr ⟨rfl, space⟩)
    -- Behind a character, the rest is read as it is.
    have behind (text : List Char) (column : Nat) (afterEscape : Bool) :=
      (ih text .none column false afterEscape).1 (Or.inl trivial)
    intro text gap column first afterEscape
    constructor
    · intro opens
      rw [writeDouble]
      split
      · rename_i escape needed
        dsimp only
        split
        · rw [List.append_assoc, List.append_assoc, doubleQuotedFrom_escape _ _ _ needed,
            behindFold]
          simp [Gap.appendTo]
        · rw [List.append_assoc, doubleQuotedFrom_escape _ _ _ needed, behind]
          simp [Gap.appendTo]
      · rename_i shown
        split
        · by_cases space : c = ' '
          · subst space
            rw [foldEscaped, List.head?_cons, if_pos rfl, List.append_assoc, List.append_assoc,
              doubleQuotedFrom_fold _ _ _ _ indented, List.singleton_append, List.cons_append,
              doubleQuotedFrom_escapedSpace, behind]
            simp [Gap.appendTo]
          · rw [foldEscaped, if_neg (by simpa using space), List.append_nil, List.append_assoc,
              doubleQuotedFrom_fold _ _ _ _ indented, List.cons_append,
              doubleQuotedFrom_shown _ _ _ shown space, behind]
            simp [Gap.appendTo]
        · by_cases space : c = ' '
          · subst space
            have inline : gap.IsInline := by
              rcases opens with inline | ⟨_, noSpace⟩
              · exact inline
              · exact absurd rfl noSpace
            obtain ⟨stays, added⟩ := Gap.appendTo_addBlank inline ' ' text
            rw [List.cons_append, doubleQuotedFrom_space, (ih _ _ _ _ _).1 (Or.inl stays), added]
            simp
          · rw [List.cons_append, doubleQuotedFrom_shown _ _ _ shown space, behind]
            simp [Gap.appendTo]
    · intro begins narrowColumn
      obtain rfl : c = ' ' := by simpa using begins
      have shown : escape? ' ' = none := by decide
      rw [writeDouble, shown]
      simp only [Folding.foldsAt_eq_false narrowColumn, Bool.and_false, Bool.false_eq_true,
        ↓reduceIte]
      rw [List.cons_append, doubleQuotedFrom_escapedSpace, behind]
      simp [Gap.appendTo]

/-- A text that is written between double quotes is read from behind the first one. -/
theorem doubleQuoted_writeDouble (indented : 0 < folding.indent)
    (narrow : folding.indent < foldColumn) (column : Nat) (s tail : List Char) :
    doubleQuoted (writeDouble folding column true false s ++ '"' :: tail) = .ok (s, tail) :=
  (doubleQuotedFrom_writeDouble indented narrow tail s [] .none column true false).1
    (Or.inl trivial)

end PodLaunch.Yaml
