import PodLaunch.Proofs.Yaml.Lexemes
import PodLaunch.Proofs.Yaml.ScalarTokens

/-!
# Where keys begin

Between the entries of a block, a key may begin: at the beginning of a line, or behind a mark on the
same line. A scalar in front of it may still be pending as a possible key; whatever comes next
settles it.
-/

namespace PodLaunch.Yaml

/-! ## Blanks in front of a token -/

/-- A token begins at a column of a line. -/
structure LineBegins (column : Nat) (rest : List Char) : Prop where
  /-- There is nothing blank in front of it. -/
  noBlank : ∀ c, rest.head? = some c → c ≠ ' ' ∧ isBreak c = false ∧ c ≠ '#'
  /-- The line is no marker. -/
  noMarker : beginsWithMarker (spaces column ++ rest) = false

namespace Layout

variable {rest : List Char}

/-- Where a token begins, nothing is passed. -/
theorem skipBlank_token
    (noBlank : ∀ c, rest.head? = some c → c ≠ ' ' ∧ isBreak c = false ∧ c ≠ '#')
    (broken : Bool) : skipBlank false false broken rest = (broken, rest) := by
  cases rest with
  | nil => rfl
  | cons c others =>
    obtain ⟨noSpace, noBreak, noHash⟩ := noBlank c rfl
    simp [skipBlank, noSpace, noBreak, noHash]

/-- Spaces in front of a token are passed. -/
theorem skipBlank_spaces
    (noBlank : ∀ c, rest.head? = some c → c ≠ ' ' ∧ isBreak c = false ∧ c ≠ '#')
    (broken : Bool) (count : Nat) :
    skipBlank false false broken (spaces count ++ rest) = (broken, rest) := by
  induction count with
  | zero => exact skipBlank_token noBlank broken
  | succ count ih =>
    rw [spaces_succ, List.cons_append, skipBlank, if_neg (by decide)]
    exact ih

/-- A new line in front of a token is passed. -/
theorem skipBlank_newLine
    (noBlank : ∀ c, rest.head? = some c → c ≠ ' ' ∧ isBreak c = false ∧ c ≠ '#')
    (count : Nat) :
    skipBlank false false false ('\n' :: spaces count ++ rest) = (true, rest) := by
  rw [List.cons_append, skipBlank, if_pos (by decide), skipBlank_spaces noBlank]

/-! ## Where a key may begin -/

/-- What is blank in front of a key at a column ends a line, or else a key was allowed before. A
possible key in front of it has come too early to be one. -/
structure LeadsToKey (blank : List Char) (place : Place) (keyAllowed : Bool)
    (key : Option PossibleKey) (column : Nat) : Prop where
  /-- The key begins a line, or it stands behind a mark. -/
  allowed : blank = '\n' :: spaces column ∨
    keyAllowed = true ∧ ∃ count, blank = spaces count ∧ place.column + count = column
  /-- What was possible is no longer. -/
  early : ∀ possible ∈ key, possible.required = false ∧
    possible.place.line < (place.after blank).line

/-- A key may begin at a column, behind the tokens that are pending (the last one first). -/
def KeyStart (layout : Layout) (waiting : List Token) (indents : List Nat) (column : Nat)
    (rest : List Char) : Prop :=
  ∃ blank place settled pending keyAllowed key,
    layout = block (blank ++ rest) place settled pending indents keyAllowed key ∧
      pending.map Lexeme.token = waiting ∧ LeadsToKey blank place keyAllowed key column

variable {layout : Layout} {waiting : List Token} {indents : List Nat} {column : Nat}

/-- In front of a key, the reader goes on to it and forgets what was possible. -/
theorem LeadsToKey.toNextToken {blank : List Char} {place : Place} {keyAllowed : Bool}
    {key : Option PossibleKey} (leads : LeadsToKey blank place keyAllowed key column)
    (begins : LineBegins column rest) (settled : Nat) (pending : List Lexeme)
    (indents : List Nat) :
    (place.after blank).column = column ∧
      (block (blank ++ rest) place settled pending indents keyAllowed key).toNextToken =
        .ok ((block rest (place.after blank) settled pending indents true none).closeDeeper
          (some column)) := by
  have stale (allowed : Bool) : (block rest (place.after blank) settled pending indents allowed
      key).freshKey key = .ok none := by
    cases key with
    | none => rfl
    | some possible =>
      obtain ⟨notRequired, earlier⟩ := leads.early possible rfl
      have gone : (block rest (place.after blank) settled pending indents allowed
          (some possible)).isStale possible = true := by
        simp [isStale, Nat.ne_of_lt earlier]
      simp [freshKey, gone, notRequired]
  rcases leads.allowed with rfl | ⟨rfl, count, rfl, rfl⟩
  · have skipped := skipBlank_newLine begins.noBlank column
    have next := toNextToken_block _ rest place settled pending indents keyAllowed key skipped
      (stale _)
    rw [Bool.or_true] at next
    rw [Place.after_newLine] at next ⊢
    exact ⟨rfl, next⟩
  · have skipped := skipBlank_spaces begins.noBlank false count
    have next := toNextToken_block _ rest place settled pending indents true key skipped (stale _)
    rw [Bool.or_false] at next
    rw [Place.after_spaces] at next ⊢
    exact ⟨rfl, next⟩

/-- Where a key may begin in a block that is open or to be opened, the reader goes on to it. -/
theorem KeyStart.toNextToken (start : KeyStart layout waiting indents column rest)
    (begins : LineBegins column rest) (stays : ∀ indent ∈ indents.head?, indent ≤ column) :
    ∃ place settled pending, pending.map Lexeme.token = waiting ∧ place.column = column ∧
      rest.length ≤ layout.rest.length ∧
      layout.toNextToken = .ok (block rest place settled pending indents true none) := by
  obtain ⟨blank, place, settled, pending, keyAllowed, key, rfl, carried, leads⟩ := start
  obtain ⟨atColumn, next⟩ := leads.toNextToken begins settled pending indents
  rw [closeDeeper_of_le _ _ _ _ _ _ _ _ stays] at next
  exact ⟨_, settled, pending, carried, atColumn, by simp, next⟩

/-! ## Tokens that are settled -/

/-- From a layout to another one, tokens are read: those that were waiting and these are settled,
but for those that wait in the end. -/
def Leads (layout : Layout) (waiting tokens : List Token) (reached : Layout)
    (left : List Token) : Prop :=
  ∃ lexemes settled, layout.run = lexemes ++ reached.run ∧ Carries lexemes settled ∧
    settled ++ left.reverse = waiting.reverse ++ tokens

/-- No token is read on the spot. -/
theorem Leads.refl (layout : Layout) (waiting : List Token) :
    Leads layout waiting [] layout waiting :=
  ⟨[], [], rfl, List.Forall₂.nil, (List.append_nil _).symm⟩

/-- Tokens are read one after the other. -/
theorem Leads.trans {first second third : Layout} {waiting left last tokens others : List Token}
    (one : Leads first waiting tokens second left) (other : Leads second left others third last) :
    Leads first waiting (tokens ++ others) third last := by
  obtain ⟨lexemes, settled, run, carried, same⟩ := one
  obtain ⟨more, settledMore, runMore, carriedMore, sameMore⟩ := other
  refine ⟨lexemes ++ more, settled ++ settledMore, ?_, carried.append carriedMore, ?_⟩
  · rw [run, runMore, List.append_assoc]
  · rw [List.append_assoc, sameMore, ← List.append_assoc, same, List.append_assoc]

section Settling

variable (rest : List Char) (place : Place) (settled : Nat) (pending : List Lexeme)
  (indents : List Nat) (keyAllowed : Bool)

/-- Pending tokens are settled under the dialect of profiles. -/
theorem carries_settledTokens (key : Option PossibleKey) :
    Carries (block rest place settled pending indents keyAllowed key).settledTokens
      (pending.map Lexeme.token).reverse := by
  have each (lexemes : List Lexeme) :
      Carries (lexemes.map fun lexeme => { lexeme with dialect := .profile })
        (lexemes.map Lexeme.token) := by
    induction lexemes with
    | nil => exact List.Forall₂.nil
    | cons lexeme lexemes ih => exact List.Forall₂.cons ⟨rfl, rfl⟩ ih
  rw [← List.map_reverse]
  exact each pending.reverse

/-- Without a possible key, everything that is pending is settled. -/
theorem settle_none :
    (block rest place settled pending indents keyAllowed none).settle =
      ((block rest place settled pending indents keyAllowed none).settledTokens,
        block rest place (settled + pending.length) [] indents keyAllowed none) := by
  have all : (block rest place settled pending indents keyAllowed none).settledTokens.take
      pending.length =
      (block rest place settled pending indents keyAllowed none).settledTokens :=
    List.take_of_length_le (by simp [settledTokens])
  simp only [settle, firstKey?, List.map_nil, List.reverse_singleton, List.findSome?_cons, id,
    List.findSome?_nil, all, Nat.sub_self, List.take_zero]

/-- What is pending in front of a possible key is settled. -/
theorem settle_some (first : Lexeme) (key : PossibleKey)
    (index : key.index = settled + pending.length) :
    ∃ lexemes, Carries lexemes (pending.map Lexeme.token).reverse ∧
      (block rest place settled (first :: pending) indents keyAllowed (some key)).settle =
        (lexemes, block rest place (settled + pending.length) [first] indents keyAllowed
          (some key)) := by
  refine ⟨_, carries_settledTokens rest place settled pending indents keyAllowed none, ?_⟩
  have number : key.index - settled = pending.length := by omega
  simp only [settle, firstKey?, List.map_nil, List.reverse_singleton, List.findSome?_cons, id,
    number]
  have before : (block rest place settled (first :: pending) indents keyAllowed
      (some key)).settledTokens.take pending.length =
      (block rest place settled pending indents keyAllowed none).settledTokens := by
    have length : pending.length = (block rest place settled pending indents keyAllowed
        none).settledTokens.length := by simp [settledTokens]
    rw [length]
    simp only [settledTokens, List.reverse_cons, List.map_append]
    exact List.take_left
  have last : (first :: pending).take ((first :: pending).length - pending.length) = [first] := by
    rw [List.length_cons, Nat.add_sub_cancel_left]
    rfl
  rw [before, last]

end Settling

/-- A token behind which no key is possible is settled with all that is pending. -/
theorem leads_of_read {layout next : Layout} {c : Char} {others rest : List Char} {place : Place}
    {settled : Nat} {pending : List Lexeme} {indents : List Nat} {keyAllowed : Bool}
    {waiting tokens : List Token} (reached : layout.toNextToken = .ok next)
    (begins : next.rest = c :: others)
    (read : next.readSettled c others =
      .ok (block rest place settled pending indents keyAllowed none))
    (shorter : rest.length < layout.rest.length)
    (carried : pending.map Lexeme.token = tokens.reverse ++ waiting) :
    Leads layout waiting tokens
      (block rest place (settled + pending.length) [] indents keyAllowed none) [] := by
  refine ⟨_, _, ?_, carries_settledTokens rest place settled pending indents keyAllowed none, ?_⟩
  · rw [run_eq_append reached begins read shorter, settle_none]
  · rw [carried, List.reverse_append, List.reverse_reverse]
    exact List.append_nil _

end Layout

end PodLaunch.Yaml
