import PodLaunch.Text.Blank

/-!
# Arguments with placeholders

An argument of a command is text with tokens between double braces. Pieces are taken from the left
and are as short as possible: a token ends at the first pair of closing braces after the pair that
opens it, and opening braces that nothing closes are text.
-/

namespace PodLaunch.Argument

open Text

/-- A piece of an argument. -/
inductive Piece where
  /-- Text that stands for itself. -/
  | literal (text : List Char)
  /-- The inside of a pair of double braces. -/
  | token (text : List Char)
  deriving DecidableEq, Repr

/-- The text before and after the first doubled occurrence of a character. -/
def splitAtPair? (c : Char) : List Char → Option (List Char × List Char)
  | [] => none
  | [_] => none
  | first :: second :: rest =>
    if first = c ∧ second = c then some ([], rest)
    else (splitAtPair? c (second :: rest)).map fun (before, after) => (first :: before, after)

/-- A split leaves out exactly the pair. -/
theorem eq_of_splitAtPair? {c : Char} {s before after : List Char}
    (h : splitAtPair? c s = some (before, after)) : s = before ++ c :: c :: after := by
  fun_induction splitAtPair? c s generalizing before after with
  | case1 => simp at h
  | case2 => simp at h
  | case3 first second rest both =>
    obtain ⟨rfl, rfl⟩ := both
    simp only [Option.some.injEq, Prod.mk.injEq] at h
    simp [← h.1, ← h.2]
  | case4 first second rest _ ih =>
    simp only [Option.map_eq_some_iff, Prod.mk.injEq, Prod.exists] at h
    obtain ⟨inner, tail, split, rfl, rfl⟩ := h
    rw [ih split, List.cons_append]

/-- The pieces of an argument, in order. Every token has a literal before it, possibly empty, and
one literal comes last. -/
def pieces (s : List Char) : List Piece :=
  match _opening : splitAtPair? '\x7b' s with
  | none => [.literal s]
  | some (before, rest) =>
    match _closing : splitAtPair? '\x7d' rest with
    | none => [.literal s]
    | some (token, after) => .literal before :: .token token :: pieces after
termination_by s.length
decreasing_by
  have outer := congrArg List.length (eq_of_splitAtPair? _opening)
  have nested := congrArg List.length (eq_of_splitAtPair? _closing)
  simp only [List.length_append, List.length_cons] at outer nested
  omega

/-- The identifier that a token names. -/
def identifier (token : List Char) : String :=
  String.ofList (trim token)

/-- The identifiers of the placeholders of an argument, in order. -/
def placeholders (argument : String) : List String :=
  (pieces argument.toList).filterMap fun
    | .literal _ => none
    | .token text => some (identifier text)

/-- Fill pieces in with the values of identifiers; the first identifier without a value is
reported. -/
def fillPieces (value? : String → Option String) : List Piece → Except String (List Char)
  | [] => .ok []
  | .literal text :: rest => do
    let filled ← fillPieces value? rest
    return text ++ filled
  | .token text :: rest =>
    match value? (identifier text) with
    | none => .error (identifier text)
    | some value => do
      let filled ← fillPieces value? rest
      return value.toList ++ filled

/-- An argument with its placeholders filled in. -/
def fill (value? : String → Option String) (argument : String) : Except String String :=
  (fillPieces value? (pieces argument.toList)).map String.ofList

end PodLaunch.Argument
