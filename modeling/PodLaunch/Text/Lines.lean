/-!
# Lines of a text

A line ends with a line feed, a carriage return or the pair of them. A reader of texts sees every
line end as one line feed.
-/

namespace PodLaunch.Text

/-- A text with every line end written as a line feed. -/
def unifyLineEnds : List Char → List Char
  | '\r' :: '\n' :: rest => '\n' :: unifyLineEnds rest
  | '\r' :: rest => '\n' :: unifyLineEnds rest
  | c :: rest => c :: unifyLineEnds rest
  | [] => []

/-- The pieces of a text between the occurrences of a character. -/
def splitOnChar (separator : Char) : List Char → List (List Char)
  | [] => [[]]
  | c :: rest =>
    if c = separator then [] :: splitOnChar separator rest
    else
      match splitOnChar separator rest with
      | [] => [[c]]
      | piece :: pieces => (c :: piece) :: pieces

/-- Pieces joined by a character. -/
def joinWithChar (separator : Char) : List (List Char) → List Char
  | [] => []
  | [piece] => piece
  | piece :: pieces => piece ++ separator :: joinWithChar separator pieces

/-- A text is never split into nothing. -/
theorem splitOnChar_ne_nil (separator : Char) (s : List Char) : splitOnChar separator s ≠ [] := by
  cases s with
  | nil => simp [splitOnChar]
  | cons c rest =>
    simp only [splitOnChar]
    split
    · simp
    · split <;> simp

/-- Texts joined by a separator text. -/
def joinTexts (separator : String) (texts : List String) : String :=
  separator.intercalate texts

end PodLaunch.Text
