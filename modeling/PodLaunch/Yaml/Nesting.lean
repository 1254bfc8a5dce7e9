import PodLaunch.Yaml.Token

/-!
# Nested lists and mappings

A text is read by calls within each other, one for each list or mapping around a place, and there is
room for so many of them only. Where a token opens one more, reading ends with a defect of its own,
whatever comes behind that token. Room is counted by the tokens that open and close.
-/

namespace PodLaunch.Yaml

namespace Token

/-- Whether a token opens a list or a mapping. -/
def opens : Token → Bool
  | .blockListStart | .blockMappingStart | .flowListStart | .flowMappingStart => true
  | _ => false

/-- Whether a token closes a list or a mapping. -/
def closes : Token → Bool
  | .blockEnd | .flowListEnd | .flowMappingEnd => true
  | _ => false

/-- The room for lists and mappings behind a token, given the room in front of it. -/
def roomBehind? (token : Token) (room : Nat) : Option Nat :=
  if token.opens then (if room = 0 then none else some (room - 1))
  else if token.closes then some (room + 1)
  else some room

end Token

/-- Tokens up to the first one that opens a list or a mapping without any room for it. A defect
stands in its place. -/
def withinRoom : Nat → List Lexeme → List Lexeme
  | _, [] => []
  | room, lexeme :: rest =>
    match lexeme.token.roomBehind? room with
    | some room => lexeme :: withinRoom room rest
    | none => [{ lexeme with token := .defect .tooDeep }]

end PodLaunch.Yaml
