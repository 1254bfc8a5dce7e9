import PodLaunch.Validated

/-!
# Names

A name is a text that is not empty. Taints, volumes, bundles, nodes and architectures go by names;
two names are the same if their texts are.
-/

namespace PodLaunch

/-- A name. -/
structure Name where
  /-- The text of the name. -/
  text : String
  /-- It is not empty. -/
  text_ne : text ≠ ""
  deriving DecidableEq, Repr

namespace Name

/-- A name is determined by its text. -/
theorem eq_of_text_eq {left right : Name} (h : left.text = right.text) : left = right := by
  cases left
  cases right
  cases h
  rfl

/-- A text that has to be a name by some rule, as the value of a field. -/
def check (field : String) (rule : Rule) (text : Validated String) : Validated Name :=
  text.andThen fun s =>
    if h : s = "" then .invalid [⟨[.field field], .broken rule⟩] else .valid ⟨s, h⟩

end Name

end PodLaunch
