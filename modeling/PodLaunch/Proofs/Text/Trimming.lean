import Mathlib.Data.List.TakeWhile
import PodLaunch.Text.Blank

/-!
# Trimmed texts

Trimming a text takes away the blanks around its core, which neither begins nor ends with one. The
core is determined by this, and so blanks that are added at either end do not change it.
-/

namespace PodLaunch.Text

/-- All characters of a text are blank. -/
def IsBlankText (s : List Char) : Prop :=
  ∀ c ∈ s, isBlank c = true

/-- A text neither begins nor ends with a blank. -/
structure IsTrimmed (s : List Char) : Prop where
  /-- It begins with no blank. -/
  first : ∀ c, s.head? = some c → isBlank c = false
  /-- It ends with no blank. -/
  last : ∀ c, s.getLast? = some c → isBlank c = false

/-- Two blank texts make a blank text. -/
theorem IsBlankText.append {left right : List Char} (leftBlank : IsBlankText left)
    (rightBlank : IsBlankText right) : IsBlankText (left ++ right) :=
  List.forall_mem_append.2 ⟨leftBlank, rightBlank⟩

/-- What a test takes from the front of a text passes the test, and what is left fails it. -/
theorem exists_dropWhile (test : Char → Bool) (s : List Char) :
    ∃ taken, (∀ c ∈ taken, test c = true) ∧ s = taken ++ s.dropWhile test ∧
      ∀ c, (s.dropWhile test).head? = some c → test c = false := by
  refine ⟨s.takeWhile test, fun c => List.mem_takeWhile_imp, List.takeWhile_append_dropWhile.symm,
    fun c first => ?_⟩
  have fails := List.head?_dropWhile_not test s
  rw [first] at fails
  exact fails

/-- Without the blanks at its end, a text ends with no blank. -/
theorem exists_trimRight (s : List Char) :
    ∃ right, IsBlankText right ∧ s = trimRight s ++ right ∧
      ∀ c, (trimRight s).getLast? = some c → isBlank c = false := by
  obtain ⟨taken, blank, split, fails⟩ := exists_dropWhile isBlank s.reverse
  refine ⟨taken.reverse, fun c member => blank c (List.mem_reverse.1 member), ?_, fun c last => ?_⟩
  · rw [trimRight, ← List.reverse_append, ← split, List.reverse_reverse]
  · rw [trimRight, List.getLast?_reverse] at last
    exact fails c last

/-- A text is its trimmed core with blanks around it. -/
theorem exists_trim (s : List Char) :
    ∃ left right, IsBlankText left ∧ IsBlankText right ∧ s = left ++ trim s ++ right ∧
      IsTrimmed (trim s) := by
  obtain ⟨left, leftBlank, leftSplit, first⟩ := exists_dropWhile isBlank s
  obtain ⟨right, rightBlank, rightSplit, last⟩ := exists_trimRight (trimLeft s)
  refine ⟨left, right, leftBlank, rightBlank, ?_, fun c begins => first c ?_, last⟩
  · rw [List.append_assoc, trim, ← rightSplit]
    exact leftSplit
  · change (trimLeft s).head? = some c
    rw [rightSplit, List.head?_append, ← trim, begins]
    rfl

/-- A trimmed text is all that is left of it when blanks around it are taken away. -/
theorem trim_append {left core right : List Char} (leftBlank : IsBlankText left)
    (rightBlank : IsBlankText right) (trimmed : IsTrimmed core) :
    trim (left ++ core ++ right) = core := by
  have kept (chars rest : List Char) (first : ∀ c, chars.head? = some c → isBlank c = false)
      (ne : chars ≠ []) : (chars ++ rest).dropWhile isBlank = chars ++ rest := by
    obtain ⟨c, others, rfl⟩ := List.exists_cons_of_ne_nil ne
    exact List.dropWhile_cons_of_neg (by simp [first c rfl])
  rw [trim, trimLeft, List.append_assoc, List.dropWhile_append_of_pos leftBlank]
  rcases eq_or_ne core [] with rfl | ne
  · rw [List.nil_append, List.dropWhile_eq_nil_iff.2 rightBlank]
    rfl
  · have reversed : IsBlankText right.reverse := fun c member =>
      rightBlank c (List.mem_reverse.1 member)
    rw [kept core right trimmed.first ne, trimRight, List.reverse_append,
      List.dropWhile_append_of_pos reversed, ← List.append_nil core.reverse,
      kept core.reverse [] (fun c begins => trimmed.last c (by rwa [List.head?_reverse] at begins))
        (List.reverse_ne_nil_iff.2 ne)]
    simp

/-- Trimming a text gives its core: what neither begins nor ends with a blank and has only blanks
around it. -/
theorem trim_eq_iff (s core : List Char) :
    trim s = core ↔ IsTrimmed core ∧
      ∃ left right, IsBlankText left ∧ IsBlankText right ∧ s = left ++ core ++ right := by
  constructor
  · rintro rfl
    obtain ⟨left, right, leftBlank, rightBlank, split, trimmed⟩ := exists_trim s
    exact ⟨trimmed, left, right, leftBlank, rightBlank, split⟩
  · rintro ⟨trimmed, left, right, leftBlank, rightBlank, rfl⟩
    exact trim_append leftBlank rightBlank trimmed

/-- Blanks that are added at either end of a text are taken away again. -/
theorem trim_pad {left right : List Char} (leftBlank : IsBlankText left)
    (rightBlank : IsBlankText right) (s : List Char) : trim (left ++ s ++ right) = trim s := by
  obtain ⟨before, after, beforeBlank, afterBlank, split, trimmed⟩ := exists_trim s
  rw [trim_eq_iff]
  refine ⟨trimmed, left ++ before, after ++ right, leftBlank.append beforeBlank,
    afterBlank.append rightBlank, ?_⟩
  calc
    left ++ s ++ right = left ++ (before ++ trim s ++ after) ++ right := by rw [← split]
    _ = left ++ before ++ trim s ++ (after ++ right) := by simp

end PodLaunch.Text
