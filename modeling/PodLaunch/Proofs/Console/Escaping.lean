import PodLaunch.Console.Printout

/-!
# Escaped texts

A text without an opening bracket has no tags, and neither has any text once it is escaped: every
bracket that would open a tag comes to stand behind an odd number of backslashes. So an escaped text
can always be shown, also behind a heading with a style of its own.
-/

namespace PodLaunch.Console

/-! ## Pieces -/

/-- Whether a character is none of the square brackets. -/
def isInner (c : Char) : Bool :=
  c ≠ '[' && c ≠ ']'

section Escaping

variable {tail : List Char} (plain : ∀ c ∈ tail, c = '\\')

include plain

end Escaping

/-! ## Texts that can be shown -/

end PodLaunch.Console
