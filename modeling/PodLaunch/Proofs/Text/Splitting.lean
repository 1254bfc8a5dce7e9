import PodLaunch.Text.Lines

/-!
# Splitting and joining

A text is split at each occurrence of a separator, so that splitting goes part by part through a
text that is joined by it, and pieces without the separator are found again.
-/

namespace PodLaunch.Text

/-- The pieces of a text consist of its characters. -/
theorem mem_of_mem_splitOnChar {separator c : Char} {s piece : List Char}
    (isPiece : piece ∈ splitOnChar separator s) (inPiece : c ∈ piece) : c ∈ s := by
  induction s generalizing piece with
  | nil =>
    rw [splitOnChar, List.mem_singleton] at isPiece
    exact isPiece ▸ inPiece
  | cons first rest ih =>
    rw [splitOnChar] at isPiece
    split at isPiece
    · rcases List.mem_cons.1 isPiece with rfl | later
      · cases inPiece
      · exact List.mem_cons_of_mem _ (ih later inPiece)
    · split at isPiece
      · rw [List.mem_singleton.1 isPiece] at inPiece
        rw [List.mem_singleton.1 inPiece]
        exact List.mem_cons_self
      · rename_i here later pieces
        rcases List.mem_cons.1 isPiece with rfl | behind
        · rcases List.mem_cons.1 inPiece with rfl | inside
          · exact List.mem_cons_self
          · exact List.mem_cons_of_mem _ (ih (pieces ▸ List.mem_cons_self) inside)
        · exact List.mem_cons_of_mem _ (ih (pieces ▸ List.mem_cons_of_mem _ behind) inPiece)

/-- The pieces of a text do not have the separator. -/
theorem not_mem_of_mem_splitOnChar {separator : Char} {s piece : List Char}
    (isPiece : piece ∈ splitOnChar separator s) : separator ∉ piece := by
  induction s generalizing piece with
  | nil =>
    rw [splitOnChar, List.mem_singleton] at isPiece
    simp [isPiece]
  | cons c rest ih =>
    rw [splitOnChar] at isPiece
    split at isPiece
    · rcases List.mem_cons.1 isPiece with rfl | later
      · simp
      · exact ih later
    · rename_i different
      split at isPiece
      · simpa [List.mem_singleton.1 isPiece] using Ne.symm different
      · rename_i first others pieces
        rw [pieces] at ih
        rcases List.mem_cons.1 isPiece with rfl | later
        · exact List.not_mem_cons_of_ne_of_not_mem (Ne.symm different) (ih List.mem_cons_self)
        · exact ih (List.mem_cons_of_mem _ later)

/-- Splitting goes through the parts in front of a separator and behind it. -/
theorem splitOnChar_append_cons (separator : Char) (s t : List Char) :
    splitOnChar separator (s ++ separator :: t) =
      splitOnChar separator s ++ splitOnChar separator t := by
  induction s with
  | nil => simp [splitOnChar]
  | cons c rest ih =>
    rw [List.cons_append, splitOnChar, splitOnChar, ih]
    split
    · rfl
    · cases pieces : splitOnChar separator rest with
      | nil => exact absurd pieces (splitOnChar_ne_nil separator rest)
      | cons piece pieces => rfl

/-- A text without the separator is one piece. -/
theorem splitOnChar_of_not_mem {separator : Char} {s : List Char} (absent : separator ∉ s) :
    splitOnChar separator s = [s] := by
  induction s with
  | nil => rfl
  | cons c rest ih =>
    rw [List.mem_cons, not_or] at absent
    rw [splitOnChar, if_neg (Ne.symm absent.1), ih absent.2]

/-- Pieces are joined from the left. -/
theorem joinWithChar_cons_cons (separator : Char) (piece next : List Char)
    (others : List (List Char)) :
    joinWithChar separator (piece :: next :: others) =
      piece ++ separator :: joinWithChar separator (next :: others) :=
  rfl

/-- Splitting what was joined gives the pieces back. -/
theorem splitOnChar_joinWithChar {separator : Char} {pieces : List (List Char)}
    (some_ : pieces ≠ []) (absent : ∀ piece ∈ pieces, separator ∉ piece) :
    splitOnChar separator (joinWithChar separator pieces) = pieces := by
  induction pieces with
  | nil => exact absurd rfl some_
  | cons piece pieces ih =>
    obtain ⟨here, later⟩ := List.forall_mem_cons.1 absent
    cases pieces with
    | nil => exact splitOnChar_of_not_mem here
    | cons next others =>
      rw [joinWithChar_cons_cons, splitOnChar_append_cons, splitOnChar_of_not_mem here,
        ih (List.cons_ne_nil _ _) later, List.singleton_append]

end PodLaunch.Text
