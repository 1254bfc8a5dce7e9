import PodLaunch.Proofs.Yaml.DoubleQuotes
import PodLaunch.Proofs.Yaml.PlainLines
import PodLaunch.Proofs.Yaml.SingleQuotes

/-!
# Texts as scalars

Which characters a text is written with, whatever its style, and how its first character tells the
style apart.
-/

namespace PodLaunch.Yaml

open Text

variable (folding : Folding)

/-! ## The characters of a scalar -/

/-- A character may be written: it is shown, or it is a line feed and line feeds are needed. -/
def IsWritten (lineFeeds : Prop) (c : Char) : Prop :=
  IsShown c ∨ c = '\n' ∧ lineFeeds

/-- The characters of a new line may be written where lines may be folded. -/
theorem isWritten_newLine {lineFeeds : Prop} (h : lineFeeds) :
    ∀ c ∈ folding.newLine, IsWritten lineFeeds c := by
  intro c member
  rcases List.mem_cons.1 member with rfl | space
  · exact Or.inr ⟨rfl, h⟩
  · rw [List.eq_of_mem_replicate space]
    exact Or.inl (by decide)

/-- Spaces may be written. -/
theorem isWritten_spaces (lineFeeds : Prop) (count : Nat) :
    ∀ c ∈ spaces count, IsWritten lineFeeds c := by
  intro c member
  rw [List.eq_of_mem_replicate member]
  exact Or.inl (by decide)

/-- A text without quotes is written with the characters that may be written. -/
theorem isWritten_writePlain {lineFeeds : Prop} (folds : folding.allowed = true → lineFeeds)
    (s : List Char) (shown : ∀ c ∈ s, IsShown c) (column waiting : Nat) :
    ∀ c ∈ writePlain folding column waiting s, IsWritten lineFeeds c := by
  induction s generalizing column waiting with
  | nil => exact isWritten_spaces _ waiting
  | cons c rest ih =>
    have later := ih fun other member => shown other (List.mem_cons_of_mem _ member)
    have first : IsWritten lineFeeds c := Or.inl (shown c List.mem_cons_self)
    rw [writePlain]
    split
    · exact later _ _
    · split
      · rename_i folded
        simp only [Folding.foldsAt, Bool.and_eq_true] at folded
        simp only [List.forall_mem_append, List.forall_mem_cons]
        exact ⟨isWritten_newLine folding (folds folded.2.1), first, later _ _⟩
      · simp only [List.forall_mem_append, List.forall_mem_cons]
        exact ⟨isWritten_spaces _ _, first, later _ _⟩

/-- What waits is written with the characters that may be written. -/
theorem isWritten_waiting {lineFeeds : Prop} (folds : folding.allowed = true → lineFeeds)
    (waiting : Waiting) (breaks : ∀ count, waiting = .breaks count → lineFeeds) (column : Nat) :
    ∀ c ∈ (waiting.write folding column).1, IsWritten lineFeeds c := by
  cases waiting with
  | blanks inside count =>
    rw [Waiting.write]
    split
    · rename_i folded
      simp only [Folding.foldsAt, Bool.and_eq_true] at folded
      exact isWritten_newLine folding (folds folded.2.1)
    · exact isWritten_spaces _ _
  | breaks count =>
    rw [Waiting.write]
    simp only [List.forall_mem_append]
    refine ⟨fun c member => ?_, isWritten_newLine folding (breaks count rfl)⟩
    rw [List.eq_of_mem_replicate member]
    exact Or.inr ⟨rfl, breaks count rfl⟩

/-- A text between single quotes is written with the characters that may be written. -/
theorem isWritten_writeSingle {lineFeeds : Prop} (folds : folding.allowed = true → lineFeeds)
    (s : List Char) (written : ∀ c ∈ s, IsWritten lineFeeds c) (column : Nat) (waiting : Waiting)
    (breaks : ∀ count, waiting = .breaks count → lineFeeds) :
    ∀ c ∈ writeSingle folding column waiting s, IsWritten lineFeeds c := by
  induction s generalizing column waiting with
  | nil =>
    cases waiting with
    | blanks inside count => exact isWritten_spaces _ count
    | breaks count => exact isWritten_waiting folding folds _ breaks column
  | cons c rest ih =>
    have later := ih fun other member => written other (List.mem_cons_of_mem _ member)
    have first := written c List.mem_cons_self
    have apart (noBlank : c = ' ' → ∃ count, waiting = .breaks count) (noLineFeed : c ≠ '\n') :
        ∀ other ∈ writeSingle folding column waiting (c :: rest), IsWritten lineFeeds other := by
      obtain ⟨behind, equation⟩ :=
        writeSingle_other folding column waiting noBlank noLineFeed rest
      rw [equation]
      simp only [List.forall_mem_append]
      refine ⟨⟨isWritten_waiting folding folds waiting breaks column, ?_⟩, later _ _ (by simp)⟩
      split
      · rename_i quote
        rw [quote] at first
        simpa using first
      · simpa using first
    by_cases lineFeed : c = '\n'
    · have allowed : lineFeeds := by
        subst lineFeed
        rcases first with shown | ⟨_, allowed⟩
        · cases shown.isBreak_eq_false
        · exact allowed
      subst lineFeed
      cases waiting with
      | blanks inside count =>
        rw [writeSingle, List.forall_mem_append]
        exact ⟨isWritten_spaces _ _, later _ _ fun _ _ => allowed⟩
      | breaks count => exact later _ (.breaks (count + 1)) fun _ _ => allowed
    · cases waiting with
      | blanks inside count =>
        by_cases space : c = ' '
        · subst space
          exact later _ (.blanks inside (count + 1)) (by simp)
        · exact apart (fun same => absurd same space) lineFeed
      | breaks count => exact apart (fun _ => ⟨count, rfl⟩) lineFeed

/-- A letter behind a backslash is shown. -/
theorem isShown_escapeLetter {c letter : Char} (h : escapeLetter? c = some letter) :
    IsShown letter := by
  unfold escapeLetter? at h
  split at h
  all_goals first | (cases h; decide) | cases h

/-- A numeral is written with digits that are shown. -/
theorem isShown_upperHexNumeral (width n : Nat) : ∀ c ∈ upperHexNumeral width n, IsShown c := by
  have digits : ∀ digit : Fin 16, IsShown (hexDigits.getD digit.val '0').toUpper := by decide
  induction width generalizing n with
  | zero => exact fun _ member => absurd member List.not_mem_nil
  | succ width ih =>
    rw [upperHexNumeral, hexNumeral, List.map_append, List.forall_mem_append]
    refine ⟨ih (n / 16), fun c member => ?_⟩
    rw [List.map_singleton, List.mem_singleton] at member
    rw [member]
    exact digits ⟨n % 16, Nat.mod_lt n (by decide)⟩

/-- An escape is written with characters that are shown. -/
theorem isShown_escape {c : Char} {escape : List Char} (h : escape? c = some escape) :
    ∀ other ∈ escape, IsShown other := by
  have numeral (letter : Char) (shown : IsShown letter) (width : Nat) :
      ∀ other ∈ '\\' :: letter :: upperHexNumeral width c.toNat, IsShown other := by
    simp only [List.forall_mem_cons]
    exact ⟨by decide, shown, isShown_upperHexNumeral width c.toNat⟩
  unfold escape? at h
  split at h
  · rename_i letter found
    cases h
    simp only [List.forall_mem_cons]
    exact ⟨by decide, isShown_escapeLetter found, by simp⟩
  · split at h
    · cases h
    · split at h
      · cases h
        exact numeral 'x' (by decide) 2
      · split at h <;> cases h
        · exact numeral 'u' (by decide) 4
        · exact numeral 'U' (by decide) 8

/-- A fold between double quotes is written with the characters that may be written. -/
theorem isWritten_foldEscaped {lineFeeds : Prop} (h : lineFeeds) (rest : List Char) :
    ∀ c ∈ foldEscaped folding rest, IsWritten lineFeeds c := by
  rw [foldEscaped, List.forall_mem_append, List.forall_mem_cons]
  refine ⟨⟨Or.inl (by decide), isWritten_newLine folding h⟩, ?_⟩
  split
  · simp only [List.forall_mem_cons]
    exact ⟨Or.inl (by decide), by simp⟩
  · simp

/-- A text between double quotes is written with the characters that may be written. -/
theorem isWritten_writeDouble {lineFeeds : Prop} (folds : folding.allowed = true → lineFeeds)
    (s : List Char) (column : Nat) (first afterEscape : Bool) :
    ∀ c ∈ writeDouble folding column first afterEscape s, IsWritten lineFeeds c := by
  induction s generalizing column first afterEscape with
  | nil => exact fun _ member => absurd member List.not_mem_nil
  | cons c rest ih =>
    rw [writeDouble]
    split
    · rename_i escape needed
      have shown : ∀ other ∈ escape, IsWritten lineFeeds other :=
        fun other member => Or.inl (isShown_escape needed other member)
      dsimp only
      split
      · rename_i folded
        simp only [Folding.foldsAt, Bool.and_eq_true] at folded
        simp only [List.forall_mem_append]
        exact ⟨⟨shown, isWritten_foldEscaped folding (folds folded.2.1) rest⟩, ih _ _ _⟩
      · rw [List.forall_mem_append]
        exact ⟨shown, ih _ _ _⟩
    · rename_i unescaped
      have shown : IsWritten lineFeeds c := Or.inl (of_escape?_eq_none unescaped).1
      split
      · rename_i folded
        simp only [Folding.foldsAt, Bool.and_eq_true] at folded
        simp only [List.forall_mem_append, List.forall_mem_cons]
        exact ⟨isWritten_foldEscaped folding (folds folded.2.1) _, shown, ih _ _ _⟩
      · rw [List.forall_mem_cons]
        exact ⟨shown, ih _ _ _⟩

/-! ## The choice of a style -/

/-- A text can be written on one line without quotes: it has no characters that would mean anything
else. -/
structure IsPlainLine (s : List Char) : Prop where
  /-- All characters are shown. -/
  shown : ∀ c ∈ s, IsShown c
  /-- No space begins it. -/
  noFirst : s.head? ≠ some ' '
  /-- No space ends it. -/
  noLast : s.getLast? ≠ some ' '
  /-- It does not look like a marker. -/
  noMarker : beginsLikeMarker s = false
  /-- It has no punctuation. -/
  noIndicator : hasIndicator s = false

/-- Whether a text can be written on one line is decided as it should be. -/
theorem isPlainLine_iff (s : List Char) : isPlainLine s = true ↔ IsPlainLine s := by
  have shown : s.all (fun c => isUnescaped c && c ≠ '\n') = true ↔ ∀ c ∈ s, IsShown c := by
    rw [List.all_eq_true]
    refine forall₂_congr fun c _ => ?_
    have noLineFeed : IsShown c → c ≠ '\n' := by
      rintro shown rfl
      cases shown.isBreak_eq_false
    by_cases lineFeed : c = '\n'
    · simp [lineFeed, isUnescaped, IsShown]
    · simp [lineFeed, isUnescaped, IsShown]
  simp only [isPlainLine, Bool.and_eq_true, shown, decide_eq_true_eq, Bool.not_eq_true']
  constructor
  · rintro ⟨⟨⟨⟨all, noFirst⟩, noLast⟩, noMarker⟩, noIndicator⟩
    exact ⟨all, noFirst, noLast, noMarker, noIndicator⟩
  · rintro ⟨all, noFirst, noLast, noMarker, noIndicator⟩
    exact ⟨⟨⟨⟨all, noFirst⟩, noLast⟩, noMarker⟩, noIndicator⟩

/-- The plain style is chosen for lines that are understood as texts. -/
theorem Style.of_eq_plain_iff (s : List Char) :
    Style.of s = .plain ↔
      IsPlainLine s ∧ ScalarKind.ofPlain .profile (String.ofList s) = .text := by
  rw [Style.of, ← isPlainLine_iff]
  split
  · rename_i plain
    simp only [Bool.and_eq_true, decide_eq_true_eq] at plain
    simp [plain]
  · rename_i notPlain
    simp only [Bool.and_eq_true, decide_eq_true_eq] at notPlain
    split <;> simp [notPlain]

/-- Single quotes are chosen for texts that can be written between them. -/
theorem isSingleQuotable_of_style {s : List Char} (h : Style.of s = .single) :
    (∀ c ∈ s, isUnescaped c = true) ∧ hasAdjacent ' ' '\n' s = false ∧
      hasAdjacent '\n' ' ' s = false := by
  rw [Style.of] at h
  split at h
  · cases h
  · split at h
    · rename_i quotable
      simpa [isSingleQuotable, and_assoc] using quotable
    · cases h

/-- A text is written with the characters that may be written, whatever its style. -/
theorem isWritten_writeText {lineFeeds : Prop} (folds : folding.allowed = true → lineFeeds)
    (column : Nat) (s : List Char) (breaks : '\n' ∈ s → lineFeeds) :
    ∀ c ∈ writeText folding column s, IsWritten lineFeeds c := by
  rw [writeText]
  split
  · rename_i plain
    exact isWritten_writePlain folding folds s ((Style.of_eq_plain_iff s).1 plain).1.shown column 0
  · rename_i single
    have written : ∀ c ∈ s, IsWritten lineFeeds c := fun c member => by
      have either := (isSingleQuotable_of_style single).1 c member
      simp only [isUnescaped, Bool.or_eq_true, decide_eq_true_eq, Bool.and_eq_true] at either
      rcases either with rfl | shown
      · exact Or.inr ⟨rfl, breaks member⟩
      · exact Or.inl shown
    have inside := isWritten_writeSingle folding folds s written (column + 1) (.blanks false 0)
      (by simp)
    simp only [List.cons_append, List.forall_mem_cons, List.forall_mem_append]
    exact ⟨Or.inl (by decide), inside, Or.inl (by decide), by simp⟩
  · have inside := isWritten_writeDouble folding folds s (column + 1) true false
    simp only [List.cons_append, List.forall_mem_cons, List.forall_mem_append]
    exact ⟨Or.inl (by decide), inside, Or.inl (by decide), by simp⟩

end PodLaunch.Yaml
