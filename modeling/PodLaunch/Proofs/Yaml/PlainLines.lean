import PodLaunch.Proofs.Yaml.Written

/-!
# Texts without quotes

What is written without quotes is read as the same text: it has no punctuation that would end it,
and the fold in the place of a space is read as the space. It ends where the colon behind a key
stands, or where the next line is not indented as deep.
-/

namespace PodLaunch.Yaml

/-! ## Steps of the reader -/

variable {indent : Nat} (text : List Char) (gap : Gap) (column : Nat) (rest : List Char)

/-- A character that is shown takes a column. -/
theorem columnBehind_shown {c : Char} (h : IsShown c) :
    columnBehind .profile column c = column + 1 := by
  have noBreak := h.isBreak_eq_false
  have noLineFeed : c ≠ '\n' := by
    rintro rfl
    cases noBreak
  have noMark : c ≠ '\ufeff' := by
    rintro rfl
    exact absurd h.2 (by decide)
  simp [columnBehind, restartsColumns, noBreak, noLineFeed, noMark]

/-- A character that is no punctuation where it stands belongs to the text. -/
theorem plainFrom_shown {c : Char} (shown : IsShown c) (noSpace : c ≠ ' ')
    (inWord : c = ':' → endsWord rest.head? = false)
    (fits : gap = .none ∨ c ≠ '#' ∧ indent ≤ column) :
    plainFrom .profile false indent text gap column (c :: rest) =
      plainFrom .profile false indent (c :: gap.appendTo text) .none (column + 1) rest := by
  have continues : continuesPlain .profile false c rest.head? = true := by
    have noWordEnd : endsWord (some c) = false := by
      simp [endsWord, noSpace, shown.ne_tab, shown.isBreak_eq_false]
    by_cases colon : c = ':'
    · rw [colon] at noWordEnd
      simp [continuesPlain, noWordEnd, colon, inWord colon]
    · simp [continuesPlain, noWordEnd, colon]
  rw [plainFrom, if_pos, columnBehind_shown column shown]
  simpa [continues] using fits

/-- A space is added to the gap. -/
theorem plainFrom_space :
    plainFrom .profile false indent text gap column (' ' :: rest) =
      plainFrom .profile false indent text (gap.addBlank ' ') (column + 1) rest := by
  have ends : continuesPlain .profile false ' ' rest.head? = false := rfl
  rw [plainFrom, ends, Bool.and_false, if_neg Bool.false_ne_true, if_pos rfl]
  rfl

/-- A line feed is added to the gap, unless a marker follows it. -/
theorem plainFrom_lineFeed (noMarker : beginsWithMarker rest = false) :
    plainFrom .profile false indent text gap column ('\n' :: rest) =
      plainFrom .profile false indent text (gap.addBreak '\n') 0 rest := by
  have ends : continuesPlain .profile false '\n' rest.head? = false := rfl
  rw [plainFrom, ends, Bool.and_false, if_neg Bool.false_ne_true, if_neg (by decide),
    if_pos (by decide), noMarker, if_neg Bool.false_ne_true]
  rfl

/-- Blanks at the beginning of a line are dropped. -/
theorem plainFrom_indentation (h : gap.hasBreak = true) (count : Nat) :
    plainFrom .profile false indent text gap column (spaces count ++ rest) =
      plainFrom .profile false indent text gap (column + count) rest := by
  induction count generalizing column with
  | zero => rfl
  | succ count ih =>
    rw [spaces_succ, List.cons_append, plainFrom_space, Gap.addBlank_of_hasBreak h, ih]
    congr 1
    omega

/-- Spaces within a line are added to the gap. -/
theorem plainFrom_spaces (inline : gap.IsInline) (count : Nat) :
    ∃ next : Gap, (count = 0 → next = gap) ∧
      next.appendTo text = spaces count ++ gap.appendTo text ∧
      plainFrom .profile false indent text gap column (spaces count ++ rest) =
        plainFrom .profile false indent text next (column + count) rest := by
  induction count generalizing gap column with
  | zero => exact ⟨gap, fun _ => rfl, rfl, rfl⟩
  | succ count ih =>
    obtain ⟨stays, added⟩ := Gap.appendTo_addBlank inline ' ' text
    obtain ⟨next, _, gathered, read⟩ := ih _ (column + 1) stays
    refine ⟨next, fun empty => absurd empty (Nat.succ_ne_zero count), ?_, ?_⟩
    · rw [gathered, added, spaces_append_space]
    · rw [spaces_succ, List.cons_append, plainFrom_space, read]
      congr 1
      omega

/-! ## The end of a text -/

/-- A colon at the end of a word ends the text. -/
theorem plainFrom_colon (wordEnds : endsWord rest.head? = true) :
    plainFrom .profile false indent text .none column (':' :: rest) =
      ⟨text.reverse, ':' :: rest, false⟩ := by
  have ends : continuesPlain .profile false ':' rest.head? = false := by
    have noEnd : endsWord (some ':') = false := rfl
    simp [continuesPlain, noEnd, wordEnds]
  rw [plainFrom, ends, Bool.and_false, if_neg Bool.false_ne_true, if_neg (by decide),
    if_neg (by decide)]
  rfl

/-- A line that is not indented as deep ends the text, and so does the end of the last line. -/
theorem plainFrom_lineEnd {count : Nat} (shallow : count < indent)
    (begins : ∀ c, rest.head? = some c → c ≠ ' ' ∧ isBreak c = false)
    (noMarker : beginsWithMarker (spaces count ++ rest) = false) :
    plainFrom .profile false indent text .none column ('\n' :: (spaces count ++ rest)) =
      ⟨text.reverse, rest, true⟩ := by
  rw [plainFrom_lineFeed _ _ _ _ noMarker, plainFrom_indentation _ _ _ _ rfl]
  cases rest with
  | nil => rfl
  | cons c others =>
    obtain ⟨noSpace, noBreak⟩ := begins c rfl
    rw [plainFrom, if_neg, if_neg noSpace, noBreak, if_neg Bool.false_ne_true]
    · rfl
    · simp [Gap.addBreak, Nat.not_le.2 shallow]

/-! ## Reading what is written -/

/-- A text that begins with no space is written from its first character on. -/
theorem writePlain_cons (folding : Folding) (column : Nat) {c : Char} (noSpace : c ≠ ' ')
    (s : List Char) :
    writePlain folding column 0 (c :: s) = c :: writePlain folding (column + 1) 0 s := by
  have noFold : ¬ (decide (0 = 1) && folding.foldsAt column) = true := by simp
  rw [writePlain, if_neg noSpace, if_neg noFold]
  rfl

/-- A text whose lines may not be folded is written as it is. -/
theorem writePlain_unfolded {folding : Folding} (unfolded : folding.allowed = false)
    (s : List Char) (column waiting : Nat) :
    writePlain folding column waiting s = spaces waiting ++ s := by
  induction s generalizing column waiting with
  | nil => simp [writePlain]
  | cons c rest ih =>
    rw [writePlain]
    split
    · rename_i space
      rw [ih, space, spaces_append_space]
    · rw [if_neg (by simp [Folding.foldsAt, unfolded]), ih]
      rfl

/-- What no space follows in the text does not end a word in what is written. -/
theorem endsWord_writePlain (folding : Folding) (column : Nat) {s : List Char}
    (shown : ∀ c ∈ s, IsShown c) (follows : spaceFollows s = false) (tail : List Char) :
    endsWord (writePlain folding column 0 s ++ tail).head? = false := by
  cases s with
  | nil => cases follows
  | cons next others =>
    have nextShown := shown next List.mem_cons_self
    have noSpace : next ≠ ' ' := by
      rintro rfl
      simp [spaceFollows] at follows
    rw [writePlain_cons folding column noSpace]
    simp [endsWord, noSpace, nextShown.ne_tab, nextShown.isBreak_eq_false]

/-- What is written is read as the text, with the spaces that wait in front of it. -/
theorem plainFrom_writePlain {folding : Folding} (indented : 0 < folding.indent)
    (deep : indent ≤ folding.indent)
    (tail s : List Char) (shown : ∀ c ∈ s, IsShown c) (before : Char)
    (inner : hasInnerIndicator before s = false) (waiting : Nat)
    (spaced : 0 < waiting → before = ' ') (ends : s = [] → waiting = 0)
    (noLast : s.getLast? ≠ some ' ') (text : List Char) (written column : Nat)
    (within : indent ≤ column) :
    ∃ behind, plainFrom .profile false indent text .none column
        (writePlain folding written waiting s ++ tail) =
      plainFrom .profile false indent (s.reverse ++ (spaces waiting ++ text)) .none behind
        tail := by
  induction s generalizing before waiting text written column with
  | nil =>
    rw [ends rfl]
    exact ⟨column, rfl⟩
  | cons c rest ih =>
    obtain ⟨innerHere, innerRest⟩ : ((c = ':' && spaceFollows rest) || (c = '#' && before = ' ')) =
        false ∧ hasInnerIndicator c rest = false := by
      simpa only [hasInnerIndicator, Bool.or_eq_false_iff] using inner
    have shownRest : ∀ other ∈ rest, IsShown other :=
      fun other member => shown other (List.mem_cons_of_mem _ member)
    have noLastRest : rest.getLast? ≠ some ' ' := by
      cases rest with
      | nil => simp
      | cons next others => rwa [List.getLast?_cons_cons] at noLast
    by_cases space : c = ' '
    · subst space
      have notLast : rest = [] → waiting + 1 = 0 := by
        rintro rfl
        exact absurd rfl noLast
      obtain ⟨behind, read⟩ := ih shownRest ' ' innerRest (waiting + 1) (fun _ => rfl) notLast
        noLastRest text written column within
      refine ⟨behind, ?_⟩
      rw [writePlain, if_pos rfl, read, spaces_succ]
      simp
    · -- A colon within the text has another character of a word behind it.
      have inWord (written : Nat) (colon : c = ':') :
          endsWord (writePlain folding written 0 rest ++ tail).head? = false := by
        rw [colon] at innerHere
        refine endsWord_writePlain folding written shownRest ?_ tail
        simpa using innerHere
      -- A hash within the text has no space in front of it.
      have noComment (positive : 0 < waiting) : c ≠ '#' := by
        rintro rfl
        simp [spaced positive] at innerHere
      have continued (written column : Nat) (within : indent ≤ column) (text : List Char) :=
        ih shownRest c innerRest 0 (fun positive => absurd positive (Nat.lt_irrefl 0))
          (fun _ => rfl) noLastRest text written column within
      rw [writePlain, if_neg space]
      split
      · rename_i folded
        obtain rfl : waiting = 1 := by
          simp only [Bool.and_eq_true, decide_eq_true_eq] at folded
          exact folded.1
        have fits : Gap.lines '\n' [] = .none ∨ c ≠ '#' ∧ indent ≤ 0 + folding.indent :=
          Or.inr ⟨noComment Nat.one_pos, by omega⟩
        obtain ⟨behind, read⟩ := continued (folding.indent + 1) (0 + folding.indent + 1) (by omega)
          (c :: ' ' :: text)
        refine ⟨behind, ?_⟩
        rw [Folding.newLine, List.append_assoc, List.cons_append,
          plainFrom_lineFeed _ _ _ _ (beginsWithMarker_spaces indented _),
          plainFrom_indentation _ _ _ _ (Gap.hasBreak_addBreak _ _), List.cons_append]
        refine (plainFrom_shown _ _ _ _ (shown c List.mem_cons_self) space (inWord _) fits).trans ?_
        rw [List.reverse_cons, List.append_assoc]
        exact read
      · obtain ⟨next, empty, gathered, gap⟩ := plainFrom_spaces text .none column
          (c :: (writePlain folding (written + waiting + 1) 0 rest ++ tail)) trivial waiting
        have fits : next = .none ∨ c ≠ '#' ∧ indent ≤ column + waiting := by
          rcases Nat.eq_zero_or_pos waiting with none | positive
          · exact Or.inl (empty none)
          · exact Or.inr ⟨noComment positive, by omega⟩
        obtain ⟨behind, read⟩ := continued (written + waiting + 1) (column + waiting + 1) (by omega)
          (c :: (spaces waiting ++ text))
        refine ⟨behind, ?_⟩
        rw [List.append_assoc, List.cons_append, gap]
        refine (plainFrom_shown _ _ _ _ (shown c List.mem_cons_self) space (inWord _) fits).trans ?_
        rw [gathered, List.reverse_cons, List.append_assoc]
        exact read

end PodLaunch.Yaml
