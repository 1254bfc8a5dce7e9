import PodLaunch.Proofs.Yaml.Written

/-!
# Texts between single quotes

What is written between single quotes is read as the same text: a doubled quote is read as one, a
fold as the space that it replaces, and line breaks with one more behind them as they are. That only
holds where no space stands next to a line break, and other texts are not written so.
-/

namespace PodLaunch.Yaml

/-! ## Characters next to each other -/

/-- Characters that stand next to each other in a rest do so in the whole. -/
theorem hasAdjacent_of_cons {left right c : Char} {rest : List Char}
    (h : hasAdjacent left right (c :: rest) = false) : hasAdjacent left right rest = false := by
  cases rest with
  | nil => rfl
  | cons next others =>
    rw [hasAdjacent, Bool.or_eq_false_iff] at h
    exact h.2

/-- Behind the first of two characters, the second one does not come next. -/
theorem head?_ne_of_hasAdjacent {left right : Char} {rest : List Char}
    (h : hasAdjacent left right (left :: rest) = false) : rest.head? ≠ some right := by
  cases rest with
  | nil => simp
  | cons next others =>
    simp only [hasAdjacent, decide_true, Bool.true_and, Bool.or_eq_false_iff,
      decide_eq_false_iff_not] at h
    simpa using h.1

/-! ## Steps of the reader -/

variable (text : List Char) (gap : Gap) (rest : List Char)

/-- What is no quote stands for itself, or for a blank or a break. -/
theorem singleQuotedFrom_other {c : Char} (noQuote : c ≠ '\'') :
    singleQuotedFrom text gap (c :: rest) =
      if c = ' ' ∨ c = '\t' then singleQuotedFrom text (gap.addBlank c) rest
      else if isBreak c then
        if beginsWithMarker rest then .error .malformed
        else singleQuotedFrom text (gap.addBreak c) rest
      else singleQuotedFrom (c :: gap.appendTo text) .none rest :=
  singleQuotedFrom.eq_4 text gap c rest (fun _ same => absurd same noQuote) noQuote

/-- A quote that is not doubled ends the text. -/
theorem singleQuotedFrom_end (single : rest.head? ≠ some '\'') :
    singleQuotedFrom text gap ('\'' :: rest) = .ok ((gap.appendTo text).reverse, rest) :=
  singleQuotedFrom.eq_3 text gap rest fun others same => single (by rw [same]; rfl)

/-- A space is added to the gap. -/
theorem singleQuotedFrom_space :
    singleQuotedFrom text gap (' ' :: rest) = singleQuotedFrom text (gap.addBlank ' ') rest := by
  rw [singleQuotedFrom_other text gap rest (by decide), if_pos (Or.inl rfl)]

/-- A line feed is added to the gap, unless a marker follows it. -/
theorem singleQuotedFrom_lineFeed (noMarker : beginsWithMarker rest = false) :
    singleQuotedFrom text gap ('\n' :: rest) = singleQuotedFrom text (gap.addBreak '\n') rest := by
  rw [singleQuotedFrom_other text gap rest (by decide), if_neg (by decide), if_pos (by decide),
    noMarker, if_neg Bool.false_ne_true]

/-- Blanks at the beginning of a line are dropped. -/
theorem singleQuotedFrom_indentation (h : gap.hasBreak = true) (count : Nat) :
    singleQuotedFrom text gap (spaces count ++ rest) = singleQuotedFrom text gap rest := by
  induction count with
  | zero => rfl
  | succ count ih =>
    rw [spaces_succ, List.cons_append, singleQuotedFrom_space, Gap.addBlank_of_hasBreak h, ih]

/-- A new line with its indentation is a line break in the gap. -/
theorem singleQuotedFrom_newLine {folding : Folding} (indented : 0 < folding.indent) :
    singleQuotedFrom text gap (folding.newLine ++ rest) =
      singleQuotedFrom text (gap.addBreak '\n') rest := by
  rw [Folding.newLine, List.cons_append,
    singleQuotedFrom_lineFeed _ _ _ (beginsWithMarker_spaces indented _),
    singleQuotedFrom_indentation _ _ _ (Gap.hasBreak_addBreak gap _)]

/-- Spaces within a line are added to the gap. -/
theorem singleQuotedFrom_spaces (inline : gap.IsInline) (count : Nat) :
    ∃ next : Gap, next.appendTo text = spaces count ++ gap.appendTo text ∧
      singleQuotedFrom text gap (spaces count ++ rest) = singleQuotedFrom text next rest := by
  induction count generalizing gap with
  | zero => exact ⟨gap, rfl, rfl⟩
  | succ count ih =>
    obtain ⟨stays, added⟩ := Gap.appendTo_addBlank inline ' ' text
    obtain ⟨next, gathered, read⟩ := ih _ stays
    refine ⟨next, ?_, ?_⟩
    · rw [gathered, added, spaces_append_space]
    · rw [spaces_succ, List.cons_append, singleQuotedFrom_space, read]

/-- Line feeds and a new line behind them stand for the line feeds. -/
theorem singleQuotedFrom_lineFeeds {folding : Folding} (indented : 0 < folding.indent)
    (count : Nat) (more : List Char) :
    singleQuotedFrom text (.lines '\n' more)
        (List.replicate count '\n' ++ (folding.newLine ++ rest)) =
      singleQuotedFrom text (.lines '\n' (List.replicate (count + 1) '\n' ++ more)) rest := by
  induction count generalizing more with
  | zero => exact singleQuotedFrom_newLine _ _ _ indented
  | succ count ih =>
    have noMarker : beginsWithMarker
        (List.replicate count '\n' ++ (folding.newLine ++ rest)) = false := by
      cases count <;> exact beginsWithMarker_cons_eq_false (by decide) _
    have read := ih ('\n' :: more)
    rw [List.replicate_succ, List.cons_append, singleQuotedFrom_lineFeed _ _ _ noMarker]
    rw [List.append_cons, ← List.replicate_succ'] at read
    exact read

/-! ## Reading what is written -/

/-- The characters that wait to be written. -/
def Waiting.chars : Waiting → List Char
  | .blanks _ count => spaces count
  | .breaks count => List.replicate count '\n'

/-- What waits may stand in front of a text: there are line feeds if any, and no space stands next
to one of them. -/
def Waiting.Fits (s : List Char) : Waiting → Prop
  | .blanks _ count => 0 < count → s.head? ≠ some '\n'
  | .breaks count => 0 < count ∧ s.head? ≠ some ' '

/-- What is written in the place of what waits is read as it. -/
theorem singleQuotedFrom_waiting {folding : Folding} (indented : 0 < folding.indent)
    {waiting : Waiting} {s : List Char} (fits : waiting.Fits s) (column : Nat) :
    ∃ gap : Gap, gap.appendTo text = waiting.chars.reverse ++ text ∧
      singleQuotedFrom text .none ((waiting.write folding column).1 ++ rest) =
        singleQuotedFrom text gap rest := by
  cases waiting with
  | blanks inside count =>
    rw [Waiting.write]
    split
    · rename_i folded
      obtain rfl : count = 1 := by
        simp only [Bool.and_eq_true, decide_eq_true_eq] at folded
        exact folded.1.2
      exact ⟨.lines '\n' [], rfl, singleQuotedFrom_newLine _ _ _ indented⟩
    · obtain ⟨gap, gathered, read⟩ := singleQuotedFrom_spaces text .none rest trivial count
      refine ⟨gap, ?_, read⟩
      rw [gathered, Waiting.chars, spaces, List.reverse_replicate]
      rfl
  | breaks count =>
    obtain ⟨count, rfl⟩ := Nat.exists_eq_succ_of_ne_zero (Nat.ne_of_gt fits.1)
    refine ⟨.lines '\n' (List.replicate (count + 1) '\n'), ?_, ?_⟩
    · rw [Waiting.chars, List.reverse_replicate]
      rfl
    · have read := singleQuotedFrom_lineFeeds text rest indented count []
      rw [List.append_nil] at read
      rw [Waiting.write, List.replicate_succ, List.append_assoc, List.cons_append,
        singleQuotedFrom_lineFeed]
      · exact read
      · cases count <;> exact beginsWithMarker_cons_eq_false (by decide) _

/-- A character that is not added to what waits is written behind it. -/
theorem writeSingle_other (folding : Folding) (column : Nat) (waiting : Waiting) {c : Char}
    (noBlank : c = ' ' → ∃ count, waiting = .breaks count) (noLineFeed : c ≠ '\n')
    (s : List Char) :
    ∃ behind, writeSingle folding column waiting (c :: s) =
      (waiting.write folding column).1 ++ (if c = '\'' then ['\'', '\''] else [c]) ++
        writeSingle folding behind (.blanks true 0) s := by
  cases waiting with
  | blanks inside count =>
    have noSpace : c ≠ ' ' := fun space => by
      obtain ⟨other, same⟩ := noBlank space
      cases same
    exact ⟨_, by rw [writeSingle] <;> simp [noSpace, noLineFeed]⟩
  | breaks count => exact ⟨_, by rw [writeSingle] <;> simp [noLineFeed]⟩

/-- A character that separates no pieces is read as it is. -/
theorem singleQuotedFrom_written {c : Char} (shown : IsShown c) (noSpace : c ≠ ' ') :
    singleQuotedFrom text gap ((if c = '\'' then ['\'', '\''] else [c]) ++ rest) =
      singleQuotedFrom (c :: gap.appendTo text) .none rest := by
  split
  · rename_i quote
    subst quote
    exact singleQuotedFrom.eq_2 text gap rest
  · rename_i noQuote
    have noBlank : ¬ (c = ' ' ∨ c = '\t') := by simp [noSpace, shown.ne_tab]
    rw [List.singleton_append, singleQuotedFrom_other text gap rest noQuote, if_neg noBlank,
      shown.isBreak_eq_false, if_neg Bool.false_ne_true]

/-- What is written between single quotes is read as the text, with what waits in front of it. -/
theorem singleQuotedFrom_writeSingle {folding : Folding} (indented : 0 < folding.indent)
    {tail : List Char} (single : tail.head? ≠ some '\'') (s : List Char)
    (unescaped : ∀ c ∈ s, isUnescaped c = true) (noTrailing : hasAdjacent ' ' '\n' s = false)
    (noLeading : hasAdjacent '\n' ' ' s = false) (text : List Char) (column : Nat)
    (waiting : Waiting) (fits : waiting.Fits s) :
    singleQuotedFrom text .none (writeSingle folding column waiting s ++ '\'' :: tail) =
      .ok (text.reverse ++ (waiting.chars ++ s), tail) := by
  induction s generalizing text column waiting with
  | nil =>
    have finished (gap : Gap) (gathered : gap.appendTo text = waiting.chars.reverse ++ text) :
        singleQuotedFrom text gap ('\'' :: tail) =
          .ok (text.reverse ++ (waiting.chars ++ []), tail) := by
      rw [singleQuotedFrom_end _ _ _ single, gathered]
      simp
    cases waiting with
    | blanks inside count =>
      obtain ⟨gap, gathered, read⟩ :=
        singleQuotedFrom_spaces text .none ('\'' :: tail) trivial count
      rw [writeSingle, read]
      refine finished gap ?_
      rw [gathered, Waiting.chars, spaces, List.reverse_replicate]
      rfl
    | breaks count =>
      obtain ⟨gap, gathered, read⟩ :=
        singleQuotedFrom_waiting text ('\'' :: tail) indented fits column
      rw [writeSingle, read]
      exact finished gap gathered
  | cons c rest ih =>
    have later := ih (fun other member => unescaped other (List.mem_cons_of_mem _ member))
      (hasAdjacent_of_cons noTrailing) (hasAdjacent_of_cons noLeading)
    by_cases space : c = ' '
    · subst space
      cases waiting with
      | blanks inside count =>
        have stillFits : (Waiting.blanks inside (count + 1)).Fits rest :=
          fun _ => head?_ne_of_hasAdjacent noTrailing
        rw [writeSingle, later _ _ _ stillFits, Waiting.chars, Waiting.chars, spaces_append_space]
      | breaks count => exact absurd rfl fits.2
    · by_cases lineFeed : c = '\n'
      · subst lineFeed
        have behind : rest.head? ≠ some ' ' := head?_ne_of_hasAdjacent noLeading
        cases waiting with
        | blanks inside count =>
          obtain rfl : count = 0 := Nat.eq_zero_of_not_pos fun positive => fits positive rfl
          rw [writeSingle]
          exact later _ _ (.breaks 1) ⟨Nat.one_pos, behind⟩
        | breaks count =>
          rw [writeSingle, later _ _ (.breaks (count + 1)) ⟨Nat.succ_pos _, behind⟩, Waiting.chars,
            Waiting.chars, List.append_cons, ← List.replicate_succ']
      · have shown : IsShown c := by
          have either := unescaped c List.mem_cons_self
          simpa [isUnescaped, IsShown, lineFeed] using either
        obtain ⟨behind, written⟩ :=
          writeSingle_other folding column waiting (fun same => absurd same space) lineFeed rest
        obtain ⟨gap, gathered, read⟩ := singleQuotedFrom_waiting text
          ((if c = '\'' then ['\'', '\''] else [c]) ++
            (writeSingle folding behind (.blanks true 0) rest ++ '\'' :: tail)) indented fits column
        have none : (Waiting.blanks true 0).Fits rest := fun positive => absurd positive (by simp)
        rw [written, List.append_assoc, List.append_assoc, read,
          singleQuotedFrom_written _ _ _ shown space, later _ _ _ none, gathered]
        simp [Waiting.chars, spaces]

end PodLaunch.Yaml
