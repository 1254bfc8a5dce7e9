import PodLaunch.Proofs.Yaml.Blocks

/-!
# Scalars as tokens

The first character of a scalar tells the reader its style. Behind a scalar that is written for a
text, the reader finds itself at the colon behind a key, or at the end of the line.
-/

namespace PodLaunch.Yaml

namespace Layout

/-! ## The first character -/

section FirstCharacter

variable {layout : Layout} (rest : List Char)

/-- A list that begins with another character begins with no triple. -/
theorem beginsWithTriple_cons_eq_false {mark c : Char} (h : c ≠ mark) :
    beginsWithTriple mark (c :: rest) = false := by
  match rest with
  | [] => rfl
  | [_] => rfl
  | _ :: _ :: _ => simp [beginsWithTriple, h]

/-- A single quote begins a scalar. -/
theorem readToken_singleQuote :
    layout.readToken '\'' rest = layout.readPossibleKey ((singleQuoted rest).map scalarToken) := by
  have noDash := beginsWithTriple_cons_eq_false rest (show '\'' ≠ '-' by decide)
  have noPoint := beginsWithTriple_cons_eq_false rest (show '\'' ≠ '.' by decide)
  simp [readToken, noDash, noPoint]

/-- A double quote begins a scalar. -/
theorem readToken_doubleQuote :
    layout.readToken '"' rest = layout.readPossibleKey ((doubleQuoted rest).map scalarToken) := by
  have noDash := beginsWithTriple_cons_eq_false rest (show '"' ≠ '-' by decide)
  have noPoint := beginsWithTriple_cons_eq_false rest (show '"' ≠ '.' by decide)
  simp [readToken, noDash, noPoint]

/-- A colon at the end of a word is punctuation. -/
theorem readToken_colon (noFlow : layout.flows = []) (wordEnds : endsWord rest.head? = true) :
    layout.readToken ':' rest = layout.readColon rest := by
  have noDash := beginsWithTriple_cons_eq_false rest (show ':' ≠ '-' by decide)
  have noPoint := beginsWithTriple_cons_eq_false rest (show ':' ≠ '.' by decide)
  simp [readToken, noDash, noPoint, isValueColon, noFlow, wordEnds]

variable {c : Char} (shown : IsShown c) (noSpace : c ≠ ' ')
  (noIndicator : isLeadingIndicator c = false)
  (inWord : c = '-' ∨ c = '?' ∨ c = ':' → endsWord rest.head? = false)

include shown noSpace noIndicator inWord in
/-- A character that is no indicator begins a scalar without quotes. -/
theorem beginsPlain_of_noIndicator (dialect : Dialect) :
    beginsPlain dialect false c rest.head? = true := by
  have noBlank : (c = ' ' || c = '\t' || isBreak c) = false := by
    simp [noSpace, shown.ne_tab, shown.isBreak_eq_false]
  rw [beginsPlain, noBlank, if_neg Bool.false_ne_true]
  cases indicator : isIndicator c with
  | false => rfl
  | true =>
    have special : (c = '-' ∨ c = '?') ∨ c = ':' := by
      simp only [isLeadingIndicator, Bool.or_eq_false_iff] at noIndicator
      simp only [isIndicator, Bool.or_eq_true, noIndicator] at indicator
      simpa using indicator
    have continues := inWord (or_assoc.1 special)
    rcases special with (rfl | rfl) | rfl <;> simp [continues]

include shown noSpace noIndicator inWord in
/-- A character that is no indicator begins a scalar without quotes, unless a marker begins with it
at the margin. -/
theorem readToken_plain (noFlow : layout.flows = [])
    (noMarker : layout.place.column = 0 → beginsWithMarker (c :: rest) = false) :
    layout.readToken c rest = layout.readPlain c rest := by
  have outside : layout.inFlow = false := by
    rw [inFlow, noFlow]
    rfl
  have noDash : (decide (c = '-') && endsWord rest.head?) = false := by
    by_cases dash : c = '-' <;> simp [dash, inWord]
  have noMark : (decide (c = '?') && (false || endsWord rest.head?)) = false := by
    by_cases mark : c = '?' <;> simp [mark, inWord]
  have noColon : (decide (c = ':') && layout.isValueColon rest.head?) = false := by
    by_cases colon : c = ':' <;> simp [colon, inWord, isValueColon, noFlow]
  have noTriple : (decide (layout.place.column = 0) && beginsWithTriple '-' (c :: rest)) = false ∧
      (decide (layout.place.column = 0) && beginsWithTriple '.' (c :: rest)) = false := by
    by_cases margin : layout.place.column = 0
    · have noMarker := noMarker margin
      rw [beginsWithMarker, Bool.or_eq_false_iff] at noMarker
      simp [noMarker]
    · simp [margin]
  have begins := beginsPlain_of_noIndicator rest shown noSpace noIndicator inWord layout.dialect
  simp only [isLeadingIndicator, isFlowPunctuation, Bool.or_eq_false_iff,
    decide_eq_false_iff_not] at noIndicator
  simp only [readToken, outside, noIndicator, decide_false, Bool.and_false, Bool.false_and,
    noTriple, noDash, noMark, noColon, begins, Bool.false_eq_true, ↓reduceIte]

end FirstCharacter

/-! ## Possible keys -/

variable (rest : List Char) (place : Place) (settled : Nat) (pending : List Lexeme)
  (indents : List Nat) (keyAllowed : Bool)

/-- The possible key that a token is, if one is allowed. -/
def possibleKey : Option PossibleKey :=
  if keyAllowed then
    some ⟨settled + pending.length, decide (indents.head? = some place.column), place⟩
  else none

/-- The token that begins is noted as a possible key, if one is allowed. -/
theorem notePossibleKey_block :
    (block rest place settled pending indents keyAllowed none).notePossibleKey =
      .ok (block rest place settled pending indents keyAllowed
        (possibleKey place settled pending indents keyAllowed)) := by
  cases keyAllowed <;> rfl

/-- A scalar without quotes is added to the pending tokens. -/
theorem readPlain_block (c : Char) (others : List Char) {scalar : PlainScalar}
    (read : plain .profile false
      (block rest place settled pending indents keyAllowed none).innerColumn place.column c others =
      scalar) :
    (block rest place settled pending indents keyAllowed none).readPlain c others =
      .ok ((block rest place settled
        (⟨.scalar true (String.ofList scalar.text), place.line, .profile⟩ :: pending) indents
        scalar.endsLine (possibleKey place settled pending indents keyAllowed)).advanceTo
          scalar.rest) := by
  subst read
  rw [readPlain, notePossibleKey_block]
  rfl

end Layout

/-! ## Scalars -/

/-- What is written for a scalar in a block whose lines are indented, and the token that it is read
as. -/
inductive ScalarText (indent : Nat) : List Char → Token → Prop where
  /-- A line without quotes. -/
  | plain (folding : Folding) (column : Nat) (s : List Char) (line : IsPlainLine s)
    (notEmpty : s ≠ []) (indented : 0 < folding.indent) (deep : indent ≤ folding.indent) :
    ScalarText indent (writePlain folding column 0 s) (.scalar true (String.ofList s))
  /-- A text between single quotes. -/
  | single (folding : Folding) (column : Nat) (s : List Char)
    (unescaped : ∀ c ∈ s, isUnescaped c = true) (noTrailing : hasAdjacent ' ' '\n' s = false)
    (noLeading : hasAdjacent '\n' ' ' s = false) (indented : 0 < folding.indent) :
    ScalarText indent ('\'' :: writeSingle folding column (.blanks false 0) s ++ ['\''])
      (.scalar false (String.ofList s))
  /-- A text between double quotes. -/
  | double (folding : Folding) (column : Nat) (s : List Char) (indented : 0 < folding.indent)
    (narrow : folding.indent < foldColumn) :
    ScalarText indent ('"' :: writeDouble folding column true false s ++ ['"'])
      (.scalar false (String.ofList s))

/-- A text is written as a scalar with that text. -/
theorem scalarText_writeText {indent : Nat} (folding : Folding) (column : Nat) (s : List Char)
    (indented : 0 < folding.indent) (deep : indent ≤ folding.indent)
    (narrow : folding.indent < foldColumn) :
    ScalarText indent (writeText folding column s)
      (.scalar (Style.of s = .plain) (String.ofList s)) := by
  rw [writeText]
  cases style : Style.of s with
  | plain =>
    obtain ⟨line, isText⟩ := (Style.of_eq_plain_iff s).1 style
    have notEmpty : s ≠ [] := by
      rintro rfl
      exact absurd isText (by decide)
    exact .plain folding column s line notEmpty indented deep
  | single =>
    obtain ⟨unescaped, noTrailing, noLeading⟩ := isSingleQuotable_of_style style
    exact .single folding (column + 1) s unescaped noTrailing noLeading indented
  | double => exact .double folding (column + 1) s indented narrow

/-- A scalar begins with a character that is neither blank nor begins a comment. -/
theorem ScalarText.head?_append {indent : Nat} {w : List Char} {token : Token}
    (scalar : ScalarText indent w token) (tail : List Char) :
    ∀ c, (w ++ tail).head? = some c → c ≠ ' ' ∧ isBreak c = false ∧ c ≠ '#' := by
  intro c head
  cases scalar with
  | plain folding column s line notEmpty =>
    obtain ⟨first, others, rfl⟩ := List.exists_cons_of_ne_nil notEmpty
    have noSpace : first ≠ ' ' := by simpa using line.noFirst
    rw [writePlain_cons folding column noSpace] at head
    cases head
    refine ⟨noSpace, (line.shown c List.mem_cons_self).isBreak_eq_false, ?_⟩
    rintro rfl
    cases line.noIndicator
  | single =>
    cases head
    decide
  | double =>
    cases head
    decide

/-- A scalar is not empty. -/
theorem ScalarText.length_pos {indent : Nat} {w : List Char} {token : Token}
    (scalar : ScalarText indent w token) : 0 < w.length := by
  cases w with
  | nil => exact absurd (scalar.head?_append ['\n'] '\n' rfl).2.1 (by decide)
  | cons c others => exact Nat.succ_pos _

/-- What stands behind a scalar: the reader of one without quotes goes on to `after`, behind some
blanks and perhaps the end of the line. -/
structure ScalarEnd (indent : Nat) (tail passed after : List Char) (endsLine : Bool) : Prop where
  /-- It consists of what is passed and what is not. -/
  split : tail = passed ++ after
  /-- It ends a scalar without quotes. -/
  ends : ∀ text column, plainFrom .profile false indent text .none column tail =
    ⟨text.reverse, after, endsLine⟩
  /-- It does not double a closing quote. -/
  noQuote : tail.head? ≠ some '\''

section PlainText

variable {folding : Folding} {c : Char} {others tail passed after : List Char} {endsLine : Bool}
  (line : IsPlainLine (c :: others)) (column : Nat)

include line

/-- What is written without quotes begins with no space, and with an indicator only where more of
the text follows at once. -/
theorem IsPlainLine.begins :
    c ≠ ' ' ∧ isLeadingIndicator c = false ∧
      (c = '-' ∨ c = '?' ∨ c = ':' →
        endsWord (writePlain folding column 0 others ++ tail).head? = false) := by
  have noIndicator := line.noIndicator
  simp only [hasIndicator, Bool.or_eq_false_iff] at noIndicator
  obtain ⟨⟨leading, single⟩, _⟩ := noIndicator
  refine ⟨by simpa using line.noFirst, leading, fun special => ?_⟩
  refine endsWord_writePlain folding column
    (fun other member => line.shown other (List.mem_cons_of_mem _ member)) ?_ tail
  rcases special with rfl | rfl | rfl <;> simpa using single

/-- What is written without quotes is read as the text, and then the reader goes on. -/
theorem IsPlainLine.plain_writePlain {indent start : Nat} (indented : 0 < folding.indent)
    (deep : indent ≤ folding.indent) (within : indent ≤ start + 1)
    (behind : ScalarEnd indent tail passed after endsLine) :
    plain .profile false indent start c (writePlain folding column 0 others ++ tail) =
      ⟨c :: others, after, endsLine⟩ := by
  have shownRest : ∀ other ∈ others, IsShown other :=
    fun other member => line.shown other (List.mem_cons_of_mem _ member)
  have noIndicator := line.noIndicator
  simp only [hasIndicator, Bool.or_eq_false_iff] at noIndicator
  have noLast : others.getLast? ≠ some ' ' := by
    have last := line.noLast
    cases others with
    | nil => simp
    | cons next more => rwa [List.getLast?_cons_cons] at last
  obtain ⟨ending, read⟩ := plainFrom_writePlain indented deep tail others shownRest c
    noIndicator.2 0 (fun positive => absurd positive (Nat.lt_irrefl 0)) (fun _ => rfl) noLast [c]
    column (start + 1) within
  rw [plain, columnBehind_shown start (line.shown c List.mem_cons_self), read, behind.ends]
  simp [spaces]

end PlainText

namespace Layout

/-- A scalar is read as its token. Behind one without quotes, the reader goes on at once. -/
theorem readToken_scalar {w : List Char} {token : Token} (rest : List Char) (place : Place)
    (settled : Nat) (pending : List Lexeme) (indents : List Nat) (keyAllowed : Bool)
    (scalar : ScalarText (block rest place settled pending indents keyAllowed none).innerColumn
      w token)
    {tail passed after : List Char} {endsLine : Bool}
    (behind : ScalarEnd (block rest place settled pending indents keyAllowed none).innerColumn
      tail passed after endsLine)
    (whole : rest = w ++ tail)
    (within : (block rest place settled pending indents keyAllowed none).innerColumn ≤
      place.column + 1)
    (noMarker : place.column = 0 → beginsWithMarker rest = false) :
    ∃ c others blank remaining allowed, rest = c :: others ∧
      (blank = passed ∧ remaining = after ∧ allowed = endsLine ∨
        blank = [] ∧ remaining = tail ∧ allowed = false) ∧
      (block rest place settled pending indents keyAllowed none).readToken c others =
        .ok (block remaining (place.after (w ++ blank)) settled
          (⟨token, place.line, .profile⟩ :: pending) indents allowed
          (possibleKey place settled pending indents keyAllowed)) := by
  have advance (first : List Char) (remaining : List Char) (equal : rest = first ++ remaining)
      (allowed : Bool) :
      ((block rest place settled (⟨token, place.line, .profile⟩ :: pending) indents allowed
          (possibleKey place settled pending indents keyAllowed)).advanceTo remaining) =
        block remaining (place.after first) settled
          (⟨token, place.line, .profile⟩ :: pending) indents allowed
          (possibleKey place settled pending indents keyAllowed) := by
    rw [equal, advanceTo_block]
  cases scalar with
  | plain folding column s line notEmpty indented deep =>
    obtain ⟨c, others, rfl⟩ := List.exists_cons_of_ne_nil notEmpty
    obtain ⟨noSpace, leading, inWord⟩ := @line.begins folding _ _ tail (column + 1)
    have equal : rest = c :: (writePlain folding (column + 1) 0 others ++ tail) := by
      rw [whole, writePlain_cons folding column noSpace, List.cons_append]
    have read := line.plain_writePlain (column + 1) indented deep within behind
    refine ⟨c, _, passed, after, endsLine, equal, Or.inl ⟨rfl, rfl, rfl⟩, ?_⟩
    have atMargin : place.column = 0 →
        beginsWithMarker (c :: (writePlain folding (column + 1) 0 others ++ tail)) = false := by
      rwa [← equal]
    rw [readToken_plain _ (line.shown c List.mem_cons_self) noSpace leading inWord rfl atMargin,
      readPlain_block rest place settled pending indents keyAllowed c _ read]
    exact congrArg Except.ok (advance _ after
      (by rw [whole, behind.split, List.append_assoc]) endsLine)
  | single folding column s unescaped noTrailing noLeading indented =>
    have equal :
        rest = '\'' :: (writeSingle folding column (.blanks false 0) s ++ '\'' :: tail) := by
      rw [whole]
      simp
    have read : singleQuoted (writeSingle folding column (.blanks false 0) s ++ '\'' :: tail) =
        .ok (s, tail) :=
      singleQuotedFrom_writeSingle indented behind.noQuote s unescaped noTrailing noLeading []
        column (.blanks false 0) fun positive => absurd positive (Nat.lt_irrefl 0)
    refine ⟨'\'', _, [], tail, false, equal, Or.inr ⟨rfl, rfl, rfl⟩, ?_⟩
    rw [readToken_singleQuote, read, readPossibleKey, notePossibleKey_block]
    have gone := advance _ tail whole false
    rw [List.append_nil, ← gone]
    rfl
  | double folding column s indented narrow =>
    have equal : rest = '"' :: (writeDouble folding column true false s ++ '"' :: tail) := by
      rw [whole]
      simp
    have read := doubleQuoted_writeDouble indented narrow column s tail
    refine ⟨'"', _, [], tail, false, equal, Or.inr ⟨rfl, rfl, rfl⟩, ?_⟩
    rw [readToken_doubleQuote, read, readPossibleKey, notePossibleKey_block]
    have gone := advance _ tail whole false
    rw [List.append_nil, ← gone]
    rfl

end Layout

end PodLaunch.Yaml
