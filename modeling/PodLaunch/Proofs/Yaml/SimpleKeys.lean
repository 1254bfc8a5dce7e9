import PodLaunch.Proofs.Yaml.BlockScalars
import PodLaunch.Proofs.Yaml.Nesting

/-!
# Keys that are not marked

A key that is not marked turns out to be one at its colon, unless the colon is too far away. Then
the text cannot be read any further.
-/

namespace PodLaunch.Yaml.Layout

variable {layout : Layout} {rest : List Char} {waiting opening : List Token}
  {indents outer : List Nat} {column : Nat}

/-! ## Keys that are not marked -/

/-- A colon at the end of a word ends a scalar. -/
theorem scalarEnd_colon (indent : Nat) (wordEnds : endsWord rest.head? = true) :
    ScalarEnd indent (':' :: rest) [] (':' :: rest) false where
  split := rfl
  ends text column := plainFrom_colon text column rest wordEnds
  noQuote := by simp

/-- Tokens are inserted in front of the last one, where the key begins. -/
theorem insertAt_block (key : PossibleKey) (rest : List Char) (place : Place) (lexeme : Lexeme)
    (indents : List Nat) (tokens : List Token) :
    (block rest place key.index [lexeme] indents false none).insertAt key tokens =
      block rest place key.index
        (lexeme :: (tokens.map fun token => ⟨token, key.place.line, .profile⟩).reverse) indents
        false none := by
  have after : (block rest place key.index [lexeme] indents false none).count - key.index = 1 :=
    Nat.add_sub_cancel_left key.index 1
  rw [insertAt, after]
  exact congrArg (block rest place key.index · indents false none) (List.append_nil _)

/-- A colon makes the last token a key, and opens a block for it if need be. -/
theorem readColonAfter_block {key : PossibleKey}
    (opens : Opens .blockMappingStart indents key.place.column outer opening) (place : Place)
    (lexeme : Lexeme) :
    (block (':' :: rest) place key.index [lexeme] indents false (some key)).readColonAfter key
        rest =
      block rest (place.after [':']) key.index
        (⟨.value, place.line, .profile⟩ :: lexeme :: ⟨.key, key.place.line, .profile⟩ ::
          opening.map fun token => ⟨token, key.place.line, .profile⟩)
        (key.place.column :: outer) false none := by
  have opened := openAt_block opens (':' :: rest) place key.index [lexeme] false none
  rw [← advanceTo_block [':'], readColonAfter]
  simp only [inFlow, List.isEmpty_nil, Bool.not_true, Bool.false_eq_true, ↓reduceIte, opened]
  have valued {before after : Layout} (same : before = after) :
      (before.emit .value).advanceTo rest = (after.emit .value).advanceTo rest := by
    rw [same]
  cases opens with
  | inside =>
    exact valued (insertAt_block key (':' :: rest) place lexeme _ [.key])
  | new =>
    exact valued (insertAt_block key (':' :: rest) place lexeme _ [.blockMappingStart, .key])

/-- Where a colon comes next, nothing is passed. -/
theorem toNextToken_colon (rest : List Char) (place : Place) (settled : Nat)
    (pending : List Lexeme)
    (key : Option PossibleKey) (stays : ∀ indent ∈ indents.head?, indent ≤ place.column)
    (fresh : (block (':' :: rest) place settled pending indents false key).freshKey key =
      .ok key) :
    (block (':' :: rest) place settled pending indents false key).toNextToken =
      .ok (block (':' :: rest) place settled pending indents false key) := by
  have skipped : skipBlank false false false ([] ++ ':' :: rest) = (false, ':' :: rest) := rfl
  have next := toNextToken_block [] (':' :: rest) place settled pending indents false key skipped
    fresh
  have staysHere : ∀ indent ∈ indents.head?, indent ≤ (place.after []).column := stays
  rw [closeDeeper_of_le _ _ _ _ _ _ _ _ staysHere] at next
  exact next

/-- The column from which lines belong to the innermost of some blocks. -/
def innerOf : List Nat → Nat
  | [] => 0
  | indent :: _ => indent + 1

/-- Lines that belong to the innermost block begin no more than one column behind its keys. -/
theorem Opens.innerOf_le {token : Token} (opens : Opens token indents column outer opening) :
    innerOf indents ≤ column + 1 := by
  have head := opens.head?_le
  cases indents with
  | nil => exact Nat.zero_le _
  | cons indent others => exact Nat.succ_le_succ (head indent rfl)

/-- A key that may be longer than it should is read as a scalar, and its colon comes next. It is
still a possible key if it is short enough. -/
theorem KeyStart.keyScalar {w : List Char} {token : Token}
    (start : KeyStart layout waiting indents column (w ++ ':' :: rest))
    (opens : Opens .blockMappingStart indents column outer opening)
    (text : ScalarText (innerOf indents) w token) (shown : ∀ c ∈ w, IsShown c)
    (wordEnds : endsWord rest.head? = true)
    (noMarker : beginsWithMarker (spaces column ++ (w ++ ':' :: rest)) = false) :
    ∃ place settled pending next c others, pending.map Lexeme.token = waiting ∧
      place.column = column ∧ layout.toNextToken = .ok next ∧ next.rest = c :: others ∧
      (':' :: rest).length < layout.rest.length ∧ next.barrier = none ∧
      next.dialect = .profile ∧
      next.readToken c others =
        .ok (block (':' :: rest)
          ⟨place.offset + w.length, place.line, place.column + w.length⟩ settled
          (⟨token, place.line, .profile⟩ :: pending) indents false
          (some ⟨settled + pending.length, decide (indents.head? = some column), place⟩)) := by
  obtain ⟨place, settled, pending, carried, rfl, shorter, next⟩ :=
    start.toNextToken ⟨text.head?_append _, noMarker⟩ opens.head?_le
  have inner : (block (w ++ ':' :: rest) place settled pending indents true none).innerColumn =
      innerOf indents := by
    cases indents <;> rfl
  have atMargin (margin : place.column = 0) : beginsWithMarker (w ++ ':' :: rest) = false := by
    rw [margin] at noMarker
    exact noMarker
  have behindColon := scalarEnd_colon (innerOf indents) wordEnds
  rw [← inner] at text behindColon
  obtain ⟨c, others, blank, remaining, allowed, equal, behind, read⟩ :=
    readToken_scalar (w ++ ':' :: rest) place settled pending indents true text behindColon rfl
      (by rw [inner]; exact opens.innerOf_le) atMargin
  obtain ⟨rfl, rfl, rfl⟩ : blank = [] ∧ remaining = ':' :: rest ∧ allowed = false := by
    rcases behind with all | all <;> exact all
  rw [List.append_nil, Place.after_shown place shown] at read
  have notEmpty := text.length_pos
  refine ⟨place, settled, pending, _, c, others, carried, rfl, next, equal, ?_, rfl, rfl, read⟩
  simp only [List.length_append, List.length_cons] at shorter ⊢
  omega

/-- A key that is short enough is read with its colon, and opens a block if need be. -/
theorem KeyStart.simpleKey {w : List Char} {token : Token}
    (start : KeyStart layout waiting indents column (w ++ ':' :: rest))
    (opens : Opens .blockMappingStart indents column outer opening)
    (text : ScalarText (innerOf indents) w token) (shown : ∀ c ∈ w, IsShown c)
    (short : w.length ≤ 1024) (wordEnds : endsWord rest.head? = true)
    (noMarker : beginsWithMarker (spaces column ++ (w ++ ':' :: rest)) = false) :
    ∃ reached, ValueStart reached column outer rest ∧
      Leads layout waiting (opening ++ [.key, token, .value]) reached [] := by
  obtain ⟨place, settled, pending, next, c, others, carried, rfl, reached, equal, shorter,
    noBarrier, _, read⟩ := start.keyScalar opens text shown wordEnds noMarker
  let key : PossibleKey :=
    ⟨settled + pending.length, decide (indents.head? = some place.column), place⟩
  let behind : Place := ⟨place.offset + w.length, place.line, place.column + w.length⟩
  have notEmpty := text.length_pos
  have fresh (settled : Nat) (pending : List Lexeme) :
      (block (':' :: rest) behind settled pending indents false (some key)).freshKey (some key) =
        .ok (some key) := by
    have notStale : (block (':' :: rest) behind settled pending indents false
        (some key)).isStale key = false := by
      simp [isStale, key, behind, short]
    simp [freshKey, notStale]
  have first : Leads layout waiting []
      (block (':' :: rest) behind key.index [⟨token, place.line, .profile⟩] indents false
        (some key)) [] := by
    obtain ⟨lexemes, carries, settle⟩ := settle_some (':' :: rest) behind settled
      pending indents false ⟨token, place.line, .profile⟩ key rfl
    have settles := readSettled_block _ _ _ _ _ _ _ noBarrier c others read (fresh _ _)
    refine ⟨lexemes, _, ?_, carries, ?_⟩
    · rw [run_eq_append reached equal settles shorter, settle]
    · rw [carried]
      rfl
  have stays : ∀ indent ∈ indents.head?, indent ≤ behind.column :=
    fun indent head => Nat.le_trans (opens.head?_le indent head) (Nat.le_add_right _ _)
  have nextColon := toNextToken_colon rest behind key.index [⟨token, place.line, .profile⟩]
    (some key) stays (fresh _ _)
  have readColon : (block (':' :: rest) behind key.index [⟨token, place.line, .profile⟩] indents
      false (some key)).readToken ':' rest = .ok (block rest (behind.after [':']) key.index
        (⟨.value, behind.line, .profile⟩ :: ⟨token, place.line, .profile⟩ ::
          ⟨.key, place.line, .profile⟩ ::
          opening.map fun token => ⟨token, place.line, .profile⟩)
        (place.column :: outer) false none) := by
    rw [readToken_colon rest rfl wordEnds]
    exact congrArg Except.ok (readColonAfter_block opens behind ⟨token, place.line, .profile⟩)
  have settles := readSettled_block _ _ _ _ _ _ _ rfl ':' rest readColon rfl
  have second : Leads (block (':' :: rest) behind key.index [⟨token, place.line, .profile⟩] indents
      false (some key)) [] (opening ++ [.key, token, .value]) _ [] :=
    leads_of_read nextColon rfl settles (Nat.lt_succ_self _) (by
      simp [opens.reverse_eq, Function.comp_def])
  refine ⟨_, ⟨behind.after [':'], _, rfl, ?_⟩, first.trans second⟩
  change place.column < place.column + w.length + 1
  omega

/-! ## Keys that are too long -/

/-- What leads to lexemes that are cut off is cut off with them. -/
theorem Leads.cutOff {reached : Layout} {tokens left : List Token}
    (leads : Leads layout waiting tokens reached left)
    (inner : ∀ token ∈ waiting ++ tokens, token.IsInner) (cut : CutOff reached.run) :
    CutOff layout.run := by
  obtain ⟨lexemes, settled, run, carries, same⟩ := leads
  have each : ∀ token ∈ settled, token.IsInner := by
    intro token member
    have among : token ∈ waiting.reverse ++ tokens := by
      rw [← same]
      exact List.mem_append_left _ member
    exact inner token (by simpa using among)
  rw [run]
  intro lexeme member
  rcases List.mem_append.1 member with first | later
  · obtain ⟨isProfile, among⟩ := carries.mem first
    exact ⟨isProfile, each _ among⟩
  · exact cut lexeme later

/-- What leads to lexemes that break off breaks off with them. -/
theorem Leads.breaksOff {reached : Layout} {tokens left : List Token}
    (leads : Leads layout waiting tokens reached left)
    (inner : ∀ token ∈ waiting ++ tokens, token.IsInner)
    (breaks : BreaksOff (left.countP Token.opens) reached.run) :
    BreaksOff ((waiting ++ tokens).countP Token.opens) layout.run := by
  refine ⟨leads.cutOff inner breaks.cutOff, ?_⟩
  obtain ⟨lexemes, settled, run, carries, same⟩ := leads
  have counted : settled.countP Token.opens + left.countP Token.opens =
      (waiting ++ tokens).countP Token.opens := by
    have counts := congrArg (List.countP Token.opens) same
    simpa only [List.countP_append, List.countP_reverse] using counts
  rw [run, List.countP_append, carries.countP_opens, ← counted]
  exact Nat.add_le_add_left breaks.opening _

/-- What waits behind tokens is among them or has waited before. -/
theorem Leads.mem_left {reached : Layout} {tokens left : List Token}
    (leads : Leads layout waiting tokens reached left) {token : Token} (member : token ∈ left) :
    token ∈ waiting ++ tokens := by
  obtain ⟨lexemes, settled, run, carries, same⟩ := leads
  have among : token ∈ waiting.reverse ++ tokens := by
    rw [← same]
    exact List.mem_append_right _ (List.mem_reverse.2 member)
  simpa using among

/-- A place where the text is malformed is where the lexemes break off. -/
theorem breaksOff_atDefect {next : Layout} (isProfile : next.dialect = .profile) (count : Nat) :
    BreaksOff count (next.atDefect .malformed) := by
  constructor
  · intro found member
    rw [List.mem_singleton.1 member]
    exact ⟨isProfile, by simp [lexeme, Token.IsInner]⟩
  · exact Nat.zero_le count

/-- A token that cannot be read is where the lexemes break off. -/
theorem breaksOff_of_read {next : Layout} {c : Char} {others : List Char}
    (reached : layout.toNextToken = .ok next) (begins : next.rest = c :: others)
    (isProfile : next.dialect = .profile) (failed : next.readSettled c others = .error .malformed)
    (count : Nat) : BreaksOff count layout.run := by
  rw [run_eq_defect reached begins failed]
  exact breaksOff_atDefect isProfile count

/-- A key that is too long is no longer possible where its colon comes. -/
theorem KeyStart.longKey {w : List Char} {token : Token}
    (start : KeyStart layout waiting indents column (w ++ ':' :: rest))
    (opens : Opens .blockMappingStart indents column outer opening)
    (text : ScalarText (innerOf indents) w token) (shown : ∀ c ∈ w, IsShown c)
    (long : 1024 < w.length) (wordEnds : endsWord rest.head? = true)
    (noMarker : beginsWithMarker (spaces column ++ (w ++ ':' :: rest)) = false)
    (inner : ∀ token ∈ waiting, token.IsInner) (tokenInner : token.IsInner)
    (level : token.opens = false) : BreaksOff (waiting.countP Token.opens) layout.run := by
  obtain ⟨place, settled, pending, next, c, others, carried, rfl, reached, equal, shorter,
    noBarrier, isProfile, read⟩ := start.keyScalar opens text shown wordEnds noMarker
  let key : PossibleKey :=
    ⟨settled + pending.length, decide (indents.head? = some place.column), place⟩
  let behind : Place := ⟨place.offset + w.length, place.line, place.column + w.length⟩
  have stale : (block (':' :: rest) behind settled (⟨token, place.line, .profile⟩ :: pending)
      indents false (some key)).isStale key = true := by
    simp [isStale, key, behind, long]
  cases required : key.required with
  | true =>
    have failed : (block (':' :: rest) behind settled (⟨token, place.line, .profile⟩ :: pending)
        indents false (some key)).freshKey (some key) = .error .malformed := by
      simp [freshKey, stale, required]
    exact breaksOff_of_read reached equal isProfile
      (readSettled_stale _ _ _ _ _ _ _ noBarrier c others read failed) _
  | false =>
    have forgotten : (block (':' :: rest) behind settled
        (⟨token, place.line, .profile⟩ :: pending) indents false (some key)).freshKey (some key) =
        .ok none := by
      simp [freshKey, stale, required]
    have settles := readSettled_block _ _ _ _ _ _ _ noBarrier c others read forgotten
    have first : Leads layout waiting [token] _ [] :=
      leads_of_read reached equal settles shorter (by rw [List.map_cons, carried]; rfl)
    have counted : (waiting ++ [token]).countP Token.opens = waiting.countP Token.opens := by
      simp [level]
    rw [← counted]
    refine first.breaksOff (by simpa [or_imp, forall_and] using ⟨inner, tokenInner⟩) ?_
    have stays : ∀ indent ∈ indents.head?, indent ≤ behind.column :=
      fun indent head => Nat.le_trans (opens.head?_le indent head) (Nat.le_add_right _ _)
    have nextColon := toNextToken_colon rest behind
      (settled + (⟨token, place.line, .profile⟩ :: pending : List Lexeme).length) [] none stays rfl
    refine breaksOff_of_read nextColon rfl rfl (readSettled_error rfl ':' rest ?_) _
    rw [readToken_colon rest rfl wordEnds]
    rfl

end PodLaunch.Yaml.Layout
