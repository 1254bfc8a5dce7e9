import PodLaunch.Yaml.Character

/-!
# Folding of lines

Within a scalar that runs over several lines, the blanks around a line break are dropped, a single
break becomes a space, and of several breaks all but the first are kept.
-/

namespace PodLaunch.Yaml

/-- What stands between two pieces of a scalar. -/
inductive Gap where
  /-- Nothing. -/
  | none
  /-- Blanks within a line, the last one first. -/
  | blanks (blanks : List Char)
  /-- A line break and further ones, the last one first. -/
  | lines (first : Char) (more : List Char)
  /-- An escaped line break, which joins two lines, and further breaks, the last one first. -/
  | joined (more : List Char)
  deriving DecidableEq, Repr

namespace Gap

/-- The gap with a blank behind it. Blanks at the beginning of a line are dropped. -/
def addBlank (c : Char) : Gap → Gap
  | .none => .blanks [c]
  | .blanks bs => .blanks (c :: bs)
  | .lines first more => .lines first more
  | .joined more => .joined more

/-- The gap with a line break behind it. Blanks at the end of a line are dropped. -/
def addBreak (c : Char) : Gap → Gap
  | .none => .lines (breakValue c) []
  | .blanks _ => .lines (breakValue c) []
  | .lines first more => .lines first (breakValue c :: more)
  | .joined more => .joined (breakValue c :: more)

/-- Whether there is a line break in the gap. -/
def hasBreak : Gap → Bool
  | .none => false
  | .blanks _ => false
  | .lines _ _ => true
  | .joined _ => true

/-- A text, last character first, with the gap behind it. -/
def appendTo (text : List Char) : Gap → List Char
  | .none => text
  | .blanks bs => bs ++ text
  | .lines '\n' [] => ' ' :: text
  | .lines '\n' more => more ++ text
  | .lines first more => more ++ first :: text
  | .joined more => more ++ text

end Gap

end PodLaunch.Yaml
