import PodLaunch.Proofs.Yaml.BlockMarks

/-!
# Scalars within blocks

A scalar is followed by the end of its line. Where a key may begin, it is pending as a possible key
until the next line begins. Behind the colon of a key that is not marked, no key may begin.
-/

namespace PodLaunch.Yaml.Layout

variable {layout : Layout} {rest : List Char} {waiting opening : List Token}
  {indents outer : List Nat} {column : Nat}

/-! ## Scalars at the end of a line -/

/-- The end of a line ends a scalar, if the next line belongs to an outer block. -/
theorem scalarEnd_newLine {indent count : Nat} (shallow : count < indent)
    (begins : LineBegins count rest) :
    ScalarEnd indent ('\n' :: spaces count ++ rest) ('\n' :: spaces count) rest true where
  split := rfl
  ends text column :=
    plainFrom_lineEnd text column rest shallow
      (fun c head => ⟨(begins.noBlank c head).1, (begins.noBlank c head).2.1⟩) begins.noMarker
  noQuote := by simp

/-- Behind a scalar at the end of a line, the next line begins, be the end of the line passed or
not. -/
theorem leadsToKey_behindScalar {count : Nat} {blank remaining : List Char} {allowed : Bool}
    (behind : blank = '\n' :: spaces count ∧ remaining = rest ∧ allowed = true ∨
      blank = [] ∧ remaining = '\n' :: spaces count ++ rest ∧ allowed = false)
    (place : Place) (w : List Char) (key : Option PossibleKey)
    (early : ∀ possible ∈ key, possible.required = false ∧ possible.place.line ≤ place.line) :
    ∃ others, remaining = others ++ rest ∧
      LeadsToKey others (place.after (w ++ blank)) allowed key count := by
  have later := place.line_le_after w
  rcases behind with ⟨rfl, rfl, rfl⟩ | ⟨rfl, rfl, rfl⟩
  · refine ⟨[], rfl, Or.inr ⟨rfl, 0, rfl, ?_⟩, fun possible member => ?_⟩
    · rw [Place.after_append, Place.after_newLine, Nat.add_zero]
    · obtain ⟨notRequired, before⟩ := early possible member
      refine ⟨notRequired, ?_⟩
      change possible.place.line < (place.after (w ++ '\n' :: spaces count)).line
      rw [Place.after_append, Place.after_newLine]
      dsimp only
      omega
  · refine ⟨_, rfl, Or.inl rfl, fun possible member => ?_⟩
    obtain ⟨notRequired, before⟩ := early possible member
    rw [List.append_nil, Place.after_newLine]
    exact ⟨notRequired, by dsimp only; omega⟩

/-- What leads to a key is where one may begin. -/
theorem LeadsToKey.keyStart {blank remaining : List Char} {place : Place} {keyAllowed : Bool}
    {key : Option PossibleKey} (leads : LeadsToKey blank place keyAllowed key column)
    (remains : remaining = blank ++ rest) (settled : Nat) (pending : List Lexeme) :
    KeyStart (block remaining place settled pending indents keyAllowed key)
      (pending.map Lexeme.token) indents column rest :=
  ⟨blank, place, settled, pending, keyAllowed, key, by rw [remains], rfl, leads⟩

/-- The value of a key that is not marked begins behind the colon: no key may begin there. -/
def ValueStart (layout : Layout) (column : Nat) (outer : List Nat) (rest : List Char) : Prop :=
  ∃ place settled, layout = block rest place settled [] (column :: outer) false none ∧
    column < place.column

/-- A scalar that is the value of a key is settled, and the next line begins. -/
theorem ValueStart.scalar {w : List Char} {token : Token} {count : Nat}
    (start : ValueStart layout column outer (' ' :: (w ++ ('\n' :: spaces count ++ rest))))
    (text : ScalarText (column + 1) w token) (shallow : count ≤ column)
    (begins : LineBegins count rest) :
    ∃ reached, KeyStart reached [] (column :: outer) count rest ∧
      Leads layout [] [token] reached [] := by
  obtain ⟨place, settled, rfl, inside⟩ := start
  obtain ⟨c, others, blank, remaining, allowed, equal, behind, read⟩ :=
    readToken_scalar (w ++ ('\n' :: spaces count ++ rest)) (place.after [' ']) settled []
      (column :: outer) false text (scalarEnd_newLine (Nat.lt_succ_of_le shallow) begins) rfl
      (Nat.le_of_lt (Nat.succ_lt_succ (Nat.lt_succ_of_lt inside)))
      (fun margin => absurd margin (Nat.succ_ne_zero _))
  have next := toNextToken_block [' '] (w ++ ('\n' :: spaces count ++ rest)) place settled []
    (column :: outer) false none (skipBlank_spaces (text.head?_append _) false 1) rfl
  have stays : ∀ indent ∈ (column :: outer).head?, indent ≤ (place.after [' ']).column := by
    intro indent head
    cases head
    exact Nat.le_of_lt (Nat.lt_succ_of_lt inside)
  rw [closeDeeper_of_le _ _ _ _ _ _ _ _ stays] at next
  have settles := readSettled_block _ _ _ _ _ _ _ rfl c others read rfl
  obtain ⟨others, remains, leads⟩ := leadsToKey_behindScalar behind (place.after [' ']) w none
    (by simp)
  refine ⟨_, leads.keyStart remains _ [], leads_of_read next equal settles ?_ rfl⟩
  rcases behind with ⟨_, rfl, _⟩ | ⟨_, rfl, _⟩ <;>
    simp only [List.length_cons, List.length_append] <;> omega

/-- A possible key that does not have to be one is kept or forgotten. -/
theorem freshKey_of_not_required (layout : Layout) (key : PossibleKey)
    (notRequired : key.required = false) :
    layout.freshKey (some key) = .ok none ∨ layout.freshKey (some key) = .ok (some key) := by
  unfold freshKey
  dsimp only
  split
  · exact Or.inr rfl
  · rw [notRequired]
    exact Or.inl rfl

/-- A scalar deeper than its block, where a key may begin, is a possible key until the next line
begins. -/
theorem KeyStart.scalar {top : Nat} {w : List Char} {token : Token} {count : Nat}
    (start : KeyStart layout waiting (top :: outer) column (w ++ ('\n' :: spaces count ++ rest)))
    (deeper : top < column) (text : ScalarText (top + 1) w token) (shallow : count ≤ top)
    (begins : LineBegins count rest) :
    ∃ reached left, KeyStart reached left (top :: outer) count rest ∧
      Leads layout waiting [token] reached left := by
  have here : LineBegins column (w ++ ('\n' :: spaces count ++ rest)) :=
    ⟨text.head?_append _, beginsWithMarker_spaces (Nat.lt_of_le_of_lt (Nat.zero_le _) deeper) _⟩
  obtain ⟨place, settled, pending, carried, rfl, shorter, next⟩ :=
    start.toNextToken here (by simpa using Nat.le_of_lt deeper)
  obtain ⟨c, others, blank, remaining, allowed, equal, behind, read⟩ :=
    readToken_scalar (w ++ ('\n' :: spaces count ++ rest)) place settled pending
      (top :: outer) true text (scalarEnd_newLine (Nat.lt_succ_of_le shallow) begins) rfl
      (Nat.succ_le_succ (Nat.le_of_lt deeper))
      (fun margin => absurd margin (Nat.ne_of_gt (Nat.lt_of_le_of_lt (Nat.zero_le _) deeper)))
  have possible : possibleKey place settled pending (top :: outer) true =
      some ⟨settled + pending.length, false, place⟩ := by
    simp [possibleKey, Nat.ne_of_lt deeper]
  rw [possible] at read
  have smaller : remaining.length < layout.rest.length := by
    have notEmpty := text.length_pos
    rcases behind with ⟨_, rfl, _⟩ | ⟨_, rfl, _⟩ <;>
      simp only [List.length_cons, List.length_append] at shorter ⊢ <;> omega
  rcases freshKey_of_not_required (block remaining (place.after (w ++ blank)) settled
    (⟨token, place.line, .profile⟩ :: pending) (top :: outer) allowed
    (some ⟨settled + pending.length, false, place⟩)) ⟨settled + pending.length, false, place⟩ rfl
    with forgotten | kept
  · obtain ⟨others, remains, leads⟩ := leadsToKey_behindScalar behind place w none (by simp)
    have settles := readSettled_block _ _ _ _ _ _ _ rfl c _ read forgotten
    refine ⟨_, _, leads.keyStart remains _ [], leads_of_read next equal settles smaller ?_⟩
    rw [List.map_cons, carried]
    rfl
  · obtain ⟨others, remains, leads⟩ := leadsToKey_behindScalar behind place w
      (some ⟨settled + pending.length, false, place⟩) (by simp)
    have settles := readSettled_block _ _ _ _ _ _ _ rfl c _ read kept
    obtain ⟨lexemes, carries, settle⟩ := settle_some remaining (place.after (w ++ blank)) settled
      pending (top :: outer) allowed ⟨token, place.line, .profile⟩
      ⟨settled + pending.length, false, place⟩ rfl
    refine ⟨_, _, leads.keyStart remains (settled + pending.length)
      [⟨token, place.line, .profile⟩], lexemes, _, ?_, carries, ?_⟩
    · rw [run_eq_append next equal settles smaller, settle]
    · rw [carried]
      rfl

end PodLaunch.Yaml.Layout
