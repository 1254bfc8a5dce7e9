import PodLaunch.Proofs.Yaml.Scalars
import PodLaunch.Yaml.Layout

/-!
# Steps between the tokens of a block

A profile is written in blocks: outside brackets and braces, what has to be remembered between two
tokens is the place, the pending tokens, the columns of the open blocks and the possible key. For
each way to begin a token it is shown what is passed in front of it and what is remembered behind.
-/

namespace PodLaunch.Yaml

/-! ## Places -/

/-- The place behind some characters of a profile. -/
def Place.after (place : Place) (passed : List Char) : Place :=
  passed.foldl (Place.step .profile) place

/-- Some characters and others are passed one after the other. -/
theorem Place.after_append (place : Place) (first second : List Char) :
    place.after (first ++ second) = (place.after first).after second := by
  simp [Place.after]

/-- Characters that are shown take a column each. -/
theorem Place.after_shown (place : Place) {passed : List Char} (shown : ∀ c ∈ passed, IsShown c) :
    place.after passed =
      ⟨place.offset + passed.length, place.line, place.column + passed.length⟩ := by
  induction passed generalizing place with
  | nil => rfl
  | cons c rest ih =>
    have first := shown c List.mem_cons_self
    have continues : restartsColumns .profile c = false := by
      have noLineFeed : c ≠ '\n' := by
        rintro rfl
        cases first.isBreak_eq_false
      simp [restartsColumns, first.isBreak_eq_false, noLineFeed]
    have step : place.step .profile c = ⟨place.offset + 1, place.line, place.column + 1⟩ := by
      rw [Place.step, columnBehind_shown place.column first, continues, if_neg Bool.false_ne_true]
    have rest := ih (place.step .profile c) fun other member =>
      shown other (List.mem_cons_of_mem _ member)
    rw [Place.after, List.foldl_cons, ← Place.after, rest, step]
    simp only [List.length_cons, Place.mk.injEq, true_and]
    omega

/-- Spaces take a column each. -/
theorem Place.after_spaces (place : Place) (count : Nat) :
    place.after (spaces count) = ⟨place.offset + count, place.line, place.column + count⟩ := by
  have shown : ∀ c ∈ spaces count, IsShown c := fun c member => by
    rw [List.eq_of_mem_replicate member]
    decide
  rw [place.after_shown shown, spaces, List.length_replicate]

/-- A line feed leads to the next line, where spaces lead to their column. -/
theorem Place.after_newLine (place : Place) (count : Nat) :
    place.after ('\n' :: spaces count) = ⟨place.offset + 1 + count, place.line + 1, count⟩ := by
  have step : place.step .profile '\n' = ⟨place.offset + 1, place.line + 1, 0⟩ := rfl
  rw [Place.after, List.foldl_cons, ← Place.after, step, Place.after_spaces, Nat.zero_add]

/-- No line comes before an earlier one. -/
theorem Place.line_le_after (place : Place) (passed : List Char) :
    place.line ≤ (place.after passed).line := by
  induction passed generalizing place with
  | nil => exact Nat.le_refl _
  | cons c rest ih =>
    have step : place.line ≤ (place.step .profile c).line := by
      rw [Place.step]
      dsimp only
      split <;> omega
    exact Nat.le_trans step (ih _)

/-! ## Layouts outside flow collections -/

namespace Layout

/-- What is remembered within the blocks of a profile. -/
abbrev block (rest : List Char) (place : Place) (settled : Nat) (pending : List Lexeme)
    (indents : List Nat) (keyAllowed : Bool) (key : Option PossibleKey) : Layout :=
  { dialect := .profile, rest, place, settled, pending, indents, keyAllowed, key }

variable (blank rest : List Char) (place : Place) (settled : Nat) (pending : List Lexeme)
  (indents : List Nat) (keyAllowed : Bool) (key : Option PossibleKey)

/-- Going on to a remainder passes the characters in front of it. -/
theorem advanceTo_append (layout : Layout) (isProfile : layout.dialect = .profile)
    (split : layout.rest = blank ++ rest) :
    layout.advanceTo rest = { layout with rest, place := layout.place.after blank } := by
  have passed : layout.rest.take (layout.rest.length - rest.length) = blank := by
    rw [split, List.length_append, Nat.add_sub_cancel]
    exact List.take_left
  simp only [advanceTo, passed, Place.after, isProfile]

/-- Going on within a block passes the characters in front of the remainder. -/
theorem advanceTo_block :
    (block (blank ++ rest) place settled pending indents keyAllowed key).advanceTo rest =
      block rest (place.after blank) settled pending indents keyAllowed key :=
  advanceTo_append blank rest _ rfl rfl

/-- Blocks that begin no deeper than a column stay open. -/
theorem closeDeeper_of_le (column : Nat) (h : ∀ indent ∈ indents.head?, indent ≤ column) :
    (block rest place settled pending indents keyAllowed key).closeDeeper (some column) =
      block rest place settled pending indents keyAllowed key := by
  cases indents with
  | nil => rfl
  | cons indent others =>
    have stays : ¬ column < indent := Nat.not_lt.2 (h indent rfl)
    simp [closeDeeper, inFlow, stays, closeBlocks]

/-- A possible key is kept as long as it is fresh. -/
theorem forgetStaleKeys_block {freshened : Option PossibleKey}
    (fresh : (block rest place settled pending indents keyAllowed key).freshKey key =
      .ok freshened) :
    (block rest place settled pending indents keyAllowed key).forgetStaleKeys =
      .ok (block rest place settled pending indents keyAllowed freshened) := by
  simp only [forgetStaleKeys, fresh]
  rfl

/-- Going on to the next token passes what is blank in front of it. -/
theorem toNextToken_block {broken : Bool}
    (skipped : skipBlank false false false (blank ++ rest) = (broken, rest))
    {freshened : Option PossibleKey}
    (fresh : (block rest (place.after blank) settled pending indents (keyAllowed || broken)
      key).freshKey key = .ok freshened) :
    (block (blank ++ rest) place settled pending indents keyAllowed key).toNextToken =
      .ok ((block rest (place.after blank) settled pending indents (keyAllowed || broken)
        freshened).closeDeeper (some (place.after blank).column)) := by
  have kept := forgetStaleKeys_block rest (place.after blank) settled pending indents
    (keyAllowed || broken) key fresh
  simp only [toNextToken, inFlow, List.isEmpty_nil, Bool.not_true, Bool.false_and, skipped,
    advanceTo_block, Bool.not_false, Bool.and_true]
  have reach : (block rest (place.after blank) settled pending indents keyAllowed
      key).checkReach = .ok () := rfl
  rw [reach]
  change (forgetStaleKeys (block rest (place.after blank) settled pending indents
    (keyAllowed || broken) key) >>= _) = _
  rw [kept]
  rfl

/-! ## One token -/

/-- A token is read, and then stale keys are forgotten. -/
theorem readSettled_eq {layout read kept : Layout} (noBarrier : layout.barrier = none) (c : Char)
    (others : List Char) (reads : layout.readToken c others = .ok read)
    (noBarrierRead : read.barrier = none) (keeps : read.forgetStaleKeys = .ok kept) :
    layout.readSettled c others = .ok kept := by
  have proceeds : (do
      let layout ← layout.readToken c others
      layout.checkReach
      layout.forgetStaleKeys) = .ok kept := by
    have reach : read.checkReach = .ok () := by
      rw [checkReach, noBarrierRead]
    rw [reads]
    change (read.checkReach >>= fun _ => read.forgetStaleKeys) = _
    rw [reach]
    exact keeps
  rw [readSettled, noBarrier]
  split <;> exact proceeds

/-- A token of a block is read, and then the possible key is kept as long as it is fresh. -/
theorem readSettled_block {layout : Layout} (noBarrier : layout.barrier = none) (c : Char)
    (others : List Char)
    (read : layout.readToken c others =
      .ok (block rest place settled pending indents keyAllowed key))
    {freshened : Option PossibleKey}
    (fresh : (block rest place settled pending indents keyAllowed key).freshKey key =
      .ok freshened) :
    layout.readSettled c others =
      .ok (block rest place settled pending indents keyAllowed freshened) :=
  readSettled_eq noBarrier c others read rfl
    (forgetStaleKeys_block rest place settled pending indents keyAllowed key fresh)

/-- A token that cannot be read leads no further. -/
theorem readSettled_error {layout : Layout} (noBarrier : layout.barrier = none) (c : Char)
    (others : List Char) {cause : Defect} (read : layout.readToken c others = .error cause) :
    layout.readSettled c others = .error cause := by
  have stops : (do
      let layout ← layout.readToken c others
      layout.checkReach
      layout.forgetStaleKeys) = .error cause := by
    rw [read]
    rfl
  rw [readSettled, noBarrier]
  split <;> exact stops

/-- A token leads no further if the possible key has to be one and is too far away behind it. -/
theorem readSettled_stale {layout : Layout} (noBarrier : layout.barrier = none) (c : Char)
    (others : List Char)
    (read : layout.readToken c others =
      .ok (block rest place settled pending indents keyAllowed key))
    {cause : Defect}
    (stale : (block rest place settled pending indents keyAllowed key).freshKey key =
      .error cause) :
    layout.readSettled c others = .error cause := by
  have stops : (do
      let layout ← layout.readToken c others
      layout.checkReach
      layout.forgetStaleKeys) = .error cause := by
    rw [read]
    change forgetStaleKeys (block rest place settled pending indents keyAllowed key) = _
    simp only [forgetStaleKeys, stale]
    rfl
  rw [readSettled, noBarrier]
  split <;> exact stops

/-- A token that is read is settled, or waits until it is. -/
theorem run_eq_append {layout next read : Layout} {c : Char} {others : List Char}
    (reached : layout.toNextToken = .ok next) (begins : next.rest = c :: others)
    (read_ : next.readSettled c others = .ok read)
    (shorter : read.rest.length < layout.rest.length) :
    layout.run = read.settle.1 ++ run read.settle.2 := by
  have shorter : read.settle.2.rest.length < layout.rest.length := shorter
  rw [run, reached]
  simp only [begins, read_, if_pos shorter]

/-- A token that cannot be read ends the tokens. -/
theorem run_eq_defect {layout next : Layout} {c : Char} {others : List Char}
    (reached : layout.toNextToken = .ok next) (begins : next.rest = c :: others)
    {cause : Defect} (failed : next.readSettled c others = .error cause) :
    layout.run = next.atDefect cause := by
  rw [run, reached]
  simp only [begins, failed]

/-- The end of the text ends the tokens. -/
theorem run_eq_finish {layout next : Layout} (reached : layout.toNextToken = .ok next)
    (ends : next.rest = []) : layout.run = next.finish := by
  rw [run, reached]
  simp only [ends]

end Layout

end PodLaunch.Yaml
