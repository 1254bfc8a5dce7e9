import PodLaunch.Proofs.Yaml.Lexemes
import PodLaunch.Yaml.Nesting

/-!
# Tokens with enough room

A text stays as it is where there is room for its lists and mappings within each other. What room is
needed follows from the tokens: either from those that open and those that close, one after the
other, or from the number of those that open.
-/

namespace PodLaunch.Yaml

/-! ## Room behind tokens -/

/-- The room behind some tokens, if it is enough. -/
def roomBehind? : List Token → Nat → Option Nat
  | [], room => some room
  | token :: tokens, room => (token.roomBehind? room).bind (roomBehind? tokens)

/-- The room behind tokens and others is what is left of the room behind the first ones. -/
theorem roomBehind?_append (tokens others : List Token) (room : Nat) :
    roomBehind? (tokens ++ others) room = (roomBehind? tokens room).bind (roomBehind? others) := by
  induction tokens generalizing room with
  | nil => rfl
  | cons token tokens ih =>
    rw [List.cons_append, roomBehind?, roomBehind?, Option.bind_assoc]
    exact congrArg _ (funext ih)

/-- A token neither opens nor closes anything. -/
def Token.IsLevel (token : Token) : Prop :=
  token.opens = false ∧ token.closes = false

/-- Tokens that neither open nor close anything take no room. -/
theorem roomBehind?_of_isLevel {tokens : List Token} (level : ∀ token ∈ tokens, token.IsLevel)
    (room : Nat) : roomBehind? tokens room = some room := by
  induction tokens with
  | nil => rfl
  | cons token tokens ih =>
    obtain ⟨noOpening, noClosing⟩ := level token List.mem_cons_self
    have first : token.roomBehind? room = some room := by
      simp [Token.roomBehind?, noOpening, noClosing]
    rw [roomBehind?, first]
    exact ih fun other member => level other (List.mem_cons_of_mem _ member)

/-- Tokens that take at most one level leave all of it behind. -/
def KeepsRoom (tokens : List Token) : Prop :=
  ∀ room, roomBehind? tokens (room + 1) = some (room + 1)

/-- Tokens that take no room leave all of it. -/
theorem keepsRoom_of_isLevel {tokens : List Token} (level : ∀ token ∈ tokens, token.IsLevel) :
    KeepsRoom tokens :=
  fun room => roomBehind?_of_isLevel level (room + 1)

/-- Tokens behind others that leave all room leave all of it as well. -/
theorem KeepsRoom.append {tokens others : List Token} (first : KeepsRoom tokens)
    (second : KeepsRoom others) : KeepsRoom (tokens ++ others) := by
  intro room
  rw [roomBehind?_append, first room]
  exact second room

/-- Parts that leave all room leave all of it together. -/
theorem keepsRoom_flatMap {α : Type} {parts : List α} {tokensOf : α → List Token}
    (each : ∀ part ∈ parts, KeepsRoom (tokensOf part)) : KeepsRoom (parts.flatMap tokensOf) := by
  induction parts with
  | nil => exact fun _ => rfl
  | cons part parts ih =>
    rw [List.flatMap_cons]
    exact (each part List.mem_cons_self).append
      (ih fun other member => each other (List.mem_cons_of_mem _ member))

/-- A list or a mapping of parts that take no room takes one level and leaves it behind. -/
theorem keepsRoom_enclosed {opening closing : Token} {tokens : List Token}
    (opens : opening.opens = true) (closes : closing.opens = false ∧ closing.closes = true)
    (level : ∀ token ∈ tokens, token.IsLevel) : KeepsRoom (opening :: (tokens ++ [closing])) := by
  intro room
  have opened : opening.roomBehind? (room + 1) = some room := by
    simp [Token.roomBehind?, opens]
  have closed : closing.roomBehind? room = some (room + 1) := by
    simp [Token.roomBehind?, closes.1, closes.2]
  rw [roomBehind?, opened, Option.bind_some, roomBehind?_append, roomBehind?_of_isLevel level,
    Option.bind_some, roomBehind?, closed]
  rfl

/-! ## Texts with enough room -/

/-- Lexemes with enough room stay in front of what is left of the others. -/
theorem withinRoom_append {lexemes : List Lexeme} {tokens : List Token}
    (carries : Carries lexemes tokens) {room left : Nat}
    (enough : roomBehind? tokens room = some left) (others : List Lexeme) :
    withinRoom room (lexemes ++ others) = lexemes ++ withinRoom left others := by
  induction carries generalizing room with
  | nil =>
    cases enough
    rfl
  | cons one _ ih =>
    obtain ⟨between, first, rest⟩ := Option.bind_eq_some_iff.1 enough
    rw [List.cons_append, withinRoom, one.1, first]
    exact congrArg _ (ih rest)

/-- Lexemes stay as they are if there is room for as many lists and mappings as they open. -/
theorem withinRoom_of_countP_le {lexemes : List Lexeme} {room : Nat}
    (few : lexemes.countP (fun lexeme => lexeme.token.opens) ≤ room) :
    withinRoom room lexemes = lexemes := by
  induction lexemes generalizing room with
  | nil => rfl
  | cons lexeme lexemes ih =>
    rw [List.countP_cons] at few
    obtain ⟨left, behind, enough⟩ : ∃ left, lexeme.token.roomBehind? room = some left ∧
        lexemes.countP (fun lexeme => lexeme.token.opens) ≤ left := by
      unfold Token.roomBehind?
      cases opens : lexeme.token.opens with
      | true =>
        rw [opens, if_pos rfl] at few
        exact ⟨room - 1, by simp [show room ≠ 0 by omega], by omega⟩
      | false =>
        rw [opens] at few
        cases closes : lexeme.token.closes with
        | true => exact ⟨room + 1, rfl, by simp at few; omega⟩
        | false => exact ⟨room, rfl, by simpa using few⟩
    rw [withinRoom, behind]
    exact congrArg _ (ih enough)

/-! ## Lexemes that break off -/

/-- Lexemes of a profile are cut off, and they open not more than so many lists and mappings. -/
structure BreaksOff (count : Nat) (lexemes : List Lexeme) : Prop where
  /-- They break off before the end of the text. -/
  cutOff : CutOff lexemes
  /-- Few of them open a list or a mapping. -/
  opening : lexemes.countP (fun lexeme => lexeme.token.opens) ≤ count

/-- A larger bound on what is opened. -/
theorem BreaksOff.mono {count more : Nat} {lexemes : List Lexeme} (breaks : BreaksOff count lexemes)
    (larger : count ≤ more) : BreaksOff more lexemes :=
  ⟨breaks.cutOff, Nat.le_trans breaks.opening larger⟩

/-- Lexemes of tokens open as many lists and mappings as these. -/
theorem Carries.countP_opens {lexemes : List Lexeme} {tokens : List Token}
    (carries : Carries lexemes tokens) :
    lexemes.countP (fun lexeme => lexeme.token.opens) = tokens.countP Token.opens := by
  induction carries with
  | nil => rfl
  | cons one _ ih => rw [List.countP_cons, List.countP_cons, one.1, ih]

end PodLaunch.Yaml
