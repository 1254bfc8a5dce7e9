import Mathlib.Data.List.Chain
import PodLaunch.Proofs.Resolution
import PodLaunch.Proofs.Text.Trimming

/-!
# The layout of an argument

An argument is laid out in exactly one way as literals with tokens between double braces, such that
each token begins and ends as early as it can. Its placeholders are the trimmed tokens, and it is
resolved by putting the root of the configuration in their places, where nothing else is changed and
blanks within the braces are of no account.
-/

namespace PodLaunch.Argument

open Text

/-! ## Pairs of a character -/

/-- A character stands twice in a row in a text. -/
def HasPair (c : Char) (s : List Char) : Prop :=
  ∃ before after, s = before ++ c :: c :: after

/-- A text can stand in front of the first pair of a character: there is no pair in it, nor one that
begins with its last character. -/
structure PrecedesPair (c : Char) (s : List Char) : Prop where
  /-- No pair stands in it. -/
  noPair : ¬ HasPair c s
  /-- It does not end with the character. -/
  noLast : s.getLast? ≠ some c

/-- A text has no pair exactly if no two neighbours in it are the character. -/
theorem not_hasPair_iff_isChain (c : Char) (s : List Char) :
    ¬ HasPair c s ↔ s.IsChain fun left right => ¬ (left = c ∧ right = c) := by
  rw [List.isChain_iff_forall_rel_of_append_cons_cons]
  constructor
  · rintro none left right before after split ⟨rfl, rfl⟩
    exact none ⟨before, after, split⟩
  · rintro apart ⟨before, after, split⟩
    exact apart split ⟨rfl, rfl⟩

/-- What can stand in front of the first pair still can with other characters added at its ends. -/
theorem precedesPair_pad {c : Char} {left s right : List Char} (leftFree : c ∉ left)
    (rightFree : c ∉ right) (precedes : PrecedesPair c s) : PrecedesPair c (left ++ s ++ right) := by
  have free {chars : List Char} (free : c ∉ chars) :
      chars.IsChain fun left right => ¬ (left = c ∧ right = c) := by
    rw [← not_hasPair_iff_isChain]
    rintro ⟨before, after, rfl⟩
    simp at free
  have chain := (not_hasPair_iff_isChain c s).1 precedes.noPair
  constructor
  · rw [not_hasPair_iff_isChain, List.isChain_append, List.isChain_append]
    refine ⟨⟨free leftFree, chain, ?_⟩, free rightFree, ?_⟩
    · rintro first last - - ⟨rfl, -⟩
      exact leftFree (List.mem_of_getLast? last)
    · rintro - - first begins ⟨-, rfl⟩
      exact rightFree (List.mem_of_head? begins)
  · intro last
    rw [List.getLast?_append, List.getLast?_append, Option.or_eq_some_iff,
      Option.or_eq_some_iff] at last
    rcases last with ends | ⟨-, ends | ⟨-, ends⟩⟩
    · exact rightFree (List.mem_of_getLast? ends)
    · exact precedes.noLast ends
    · exact leftFree (List.mem_of_getLast? ends)

/-- No pair begins within what can stand in front of the first one. -/
theorem exists_gap {c : Char} {first rest before after : List Char}
    (precedes : PrecedesPair c first)
    (same : before ++ c :: c :: after = first ++ rest) :
    ∃ gap, before = first ++ gap ∧ rest = gap ++ c :: c :: after := by
  rcases List.append_eq_append_iff.1 same with ⟨gap, rfl, behind⟩ | ⟨gap, rfl, behind⟩
  · -- A pair that begins within the first part stands in it, or begins with its last character.
    match gap with
    | [] => exact ⟨[], by simp, by simpa using behind.symm⟩
    | [last] =>
      cases behind
      exact absurd (by simp) precedes.noLast
    | _ :: _ :: gap =>
      cases behind
      exact absurd ⟨before, gap, rfl⟩ precedes.noPair
  · exact ⟨gap, rfl, behind⟩

/-- There is one first pair only. -/
theorem eq_of_precedesPair {c : Char} {first rest other behind : List Char}
    (precedes : PrecedesPair c first) (otherPrecedes : PrecedesPair c other)
    (same : first ++ c :: c :: rest = other ++ c :: c :: behind) : first = other ∧ rest = behind := by
  obtain ⟨gap, longer, -⟩ := exists_gap otherPrecedes same
  obtain ⟨back, shorter, -⟩ := exists_gap precedes same.symm
  have none : gap = [] := by
    have lengths := congrArg List.length (shorter.trans (by rw [longer]))
    simp only [List.length_append] at lengths
    exact List.length_eq_zero_iff.1 (by omega)
  rw [none, List.append_nil] at longer
  subst longer
  simpa using same

/-- A text is not split exactly if it has no pair. -/
theorem splitAtPair?_eq_none_iff (c : Char) (s : List Char) :
    splitAtPair? c s = none ↔ ¬ HasPair c s := by
  constructor
  · intro unsplit
    rw [not_hasPair_iff_isChain]
    fun_induction splitAtPair? c s with
    | case1 => exact .nil
    | case2 => exact .singleton _
    | case3 => cases unsplit
    | case4 first second rest apart ih =>
      exact List.isChain_cons_cons.2 ⟨apart, ih (Option.map_eq_none_iff.1 unsplit)⟩
  · intro none
    cases split : splitAtPair? c s with
    | none => rfl
    | some parts => exact absurd ⟨_, _, eq_of_splitAtPair? split⟩ none

/-- A text is split at its first pair. -/
theorem splitAtPair?_eq_some_iff (c : Char) (s before after : List Char) :
    splitAtPair? c s = some (before, after) ↔
      s = before ++ c :: c :: after ∧ PrecedesPair c before := by
  have precedes {s before after : List Char} (split : splitAtPair? c s = some (before, after)) :
      PrecedesPair c before := by
    fun_induction splitAtPair? c s generalizing before with
    | case1 => cases split
    | case2 => cases split
    | case3 =>
      cases split
      exact ⟨by simp [HasPair], by simp⟩
    | case4 first second rest apart ih =>
      simp only [Option.map_eq_some_iff, Prod.mk.injEq, Prod.exists] at split
      obtain ⟨inner, tail, split, rfl, rfl⟩ := split
      obtain ⟨noPair, noLast⟩ := ih split
      have whole := eq_of_splitAtPair? split
      cases inner with
      | nil =>
        cases whole
        have other : first ≠ c := fun same => apart ⟨same, rfl⟩
        exact ⟨by rw [not_hasPair_iff_isChain]; exact .singleton _, by simpa using other⟩
      | cons next inner =>
        cases whole
        rw [not_hasPair_iff_isChain] at noPair
        refine ⟨?_, by rwa [List.getLast?_cons_cons]⟩
        rw [not_hasPair_iff_isChain]
        exact List.isChain_cons_cons.2 ⟨apart, noPair⟩
  constructor
  · exact fun split => ⟨eq_of_splitAtPair? split, precedes split⟩
  · rintro ⟨rfl, isFirst⟩
    cases split : splitAtPair? c (before ++ c :: c :: after) with
    | none => exact absurd ⟨before, after, rfl⟩ ((splitAtPair?_eq_none_iff _ _).1 split)
    | some parts =>
      obtain ⟨other, behind⟩ := parts
      obtain ⟨rfl, rfl⟩ :=
        eq_of_precedesPair isFirst (precedes split) (eq_of_splitAtPair? split)
      rfl

/-! ## Pieces -/

/-- A text has a token: double braces that open one, and behind them double braces that close it. -/
def HasToken (s : List Char) : Prop :=
  ∃ before token after, s = before ++ '\x7b' :: '\x7b' :: (token ++ '\x7d' :: '\x7d' :: after)

/-- A text without a token is a literal. -/
theorem pieces_of_no_token {s : List Char} (none : ¬ HasToken s) : pieces s = [.literal s] := by
  rw [pieces]
  split
  · rfl
  · rename_i before rest opening
    split
    · rfl
    · rename_i token after closing
      have opens := eq_of_splitAtPair? opening
      rw [eq_of_splitAtPair? closing] at opens
      exact absurd ⟨before, token, after, opens⟩ none

/-- A text begins with a literal and a token if these end at the first double braces. -/
theorem pieces_append {literal token : List Char} (opens : PrecedesPair '\x7b' literal)
    (closes : PrecedesPair '\x7d' token) (rest : List Char) :
    pieces (literal ++ '\x7b' :: '\x7b' :: (token ++ '\x7d' :: '\x7d' :: rest)) =
      .literal literal :: .token token :: pieces rest := by
  have opening := (splitAtPair?_eq_some_iff '\x7b' _ literal
    (token ++ '\x7d' :: '\x7d' :: rest)).2 ⟨rfl, opens⟩
  have closing := (splitAtPair?_eq_some_iff '\x7d' _ token rest).2 ⟨rfl, closes⟩
  rw [pieces]
  split
  · rename_i unsplit
    rw [opening] at unsplit
    cases unsplit
  · rename_i before behind split
    rw [opening] at split
    cases split
    split
    · rename_i unsplit
      rw [closing] at unsplit
      cases unsplit
    · rename_i inner after split
      rw [closing] at split
      cases split
      rfl

/-! ## Layouts -/

/-- A literal with the token behind it. -/
structure Segment where
  /-- The literal. -/
  literal : List Char
  /-- The token, without its braces. -/
  token : List Char
  deriving DecidableEq

/-- Segments, and the literal that comes last. -/
structure Layout where
  /-- The segments, in order. -/
  segments : List Segment
  /-- The last literal. -/
  last : List Char
  deriving DecidableEq

namespace Layout

/-- The text with a layout: each token stands between double braces. -/
def chars (layout : Layout) : List Char :=
  layout.segments.foldr (fun segment rest =>
    segment.literal ++ '\x7b' :: '\x7b' :: (segment.token ++ '\x7d' :: '\x7d' :: rest)) layout.last

/-- The text with a value in the place of each token and its braces. -/
def filled (value : List Char) (layout : Layout) : List Char :=
  layout.segments.foldr (fun segment rest => segment.literal ++ (value ++ rest)) layout.last

/-- The trimmed tokens. -/
def identifiers (layout : Layout) : List String :=
  layout.segments.map fun segment => identifier segment.token

/-- The literals and tokens of a layout as pieces. -/
def pieces (layout : Layout) : List Piece :=
  layout.segments.foldr (fun segment rest => .literal segment.literal :: .token segment.token ::
    rest) [.literal layout.last]

/-- Tokens begin and end as early as they can, and there are as many as there can be. -/
structure IsShortest (layout : Layout) : Prop where
  /-- In front of a token there are no double braces that open an earlier one. -/
  literal : ∀ segment ∈ layout.segments, PrecedesPair '\x7b' segment.literal
  /-- A token has no double braces that close it earlier. -/
  token : ∀ segment ∈ layout.segments, PrecedesPair '\x7d' segment.token
  /-- Behind the last token there is none. -/
  last : ¬ HasToken layout.last

/-- A layout differs from another one by blanks within the braces of tokens only. -/
structure Pads (padded layout : Layout) : Prop where
  /-- The literals in front of tokens are the same, and the tokens are so but for blanks at their
  ends. -/
  segments : List.Forall₂ (fun segment other : Segment => other.literal = segment.literal ∧
    ∃ left right, IsBlankText left ∧ IsBlankText right ∧
      other.token = left ++ segment.token ++ right) layout.segments padded.segments
  /-- The last literal is the same. -/
  last : padded.last = layout.last

variable {layout padded : Layout}

/-- A layout whose tokens are taken from the left and are as short as possible is that of the pieces
of its text. -/
theorem pieces_chars (shortest : layout.IsShortest) :
    Argument.pieces layout.chars = layout.pieces := by
  obtain ⟨segments, last⟩ := layout
  obtain ⟨literals, tokens, noToken⟩ := shortest
  induction segments with
  | nil => exact pieces_of_no_token noToken
  | cons segment segments ih =>
    obtain ⟨literal, literals⟩ := List.forall_mem_cons.1 literals
    obtain ⟨token, tokens⟩ := List.forall_mem_cons.1 tokens
    let rest : Layout := ⟨segments, last⟩
    calc
      Argument.pieces (segment.literal ++ '\x7b' :: '\x7b' ::
          (segment.token ++ '\x7d' :: '\x7d' :: rest.chars)) =
          .literal segment.literal :: .token segment.token :: Argument.pieces rest.chars :=
        pieces_append literal token rest.chars
      _ = .literal segment.literal :: .token segment.token :: rest.pieces := by
        rw [ih literals tokens noToken]

/-- The pieces of a layout determine it. -/
theorem pieces_injective : Function.Injective pieces := by
  rintro ⟨segments, last⟩ ⟨others, otherLast⟩ same
  induction segments generalizing others with
  | nil =>
    cases others with
    | nil =>
      cases same
      rfl
    | cons => cases same
  | cons segment segments ih =>
    cases others with
    | nil => cases same
    | cons other others =>
      obtain ⟨literal, token⟩ := segment
      obtain ⟨otherLiteral, otherToken⟩ := other
      simp only [pieces, List.foldr_cons, List.cons.injEq, Piece.literal.injEq,
        Piece.token.injEq] at same
      obtain ⟨rfl, rfl, rest⟩ := same
      cases ih others rest
      rfl

/-- Every text has a layout whose tokens are taken from the left and are as short as possible. -/
theorem exists_isShortest (s : List Char) :
    ∃ layout : Layout, layout.IsShortest ∧ layout.chars = s := by
  have untouched (s : List Char) (noToken : ¬ HasToken s) :
      ∃ layout : Layout, layout.IsShortest ∧ layout.chars = s :=
    ⟨⟨[], s⟩, ⟨nofun, nofun, noToken⟩, rfl⟩
  fun_induction Argument.pieces s with
  | case1 s opening =>
    refine untouched s fun ⟨before, token, after, split⟩ => ?_
    exact (splitAtPair?_eq_none_iff _ _).1 opening ⟨before, _, split⟩
  | case2 s first rest opening closing =>
    obtain ⟨rfl, precedes⟩ := (splitAtPair?_eq_some_iff _ _ _ _).1 opening
    -- Braces that close a token would stand behind the first ones that open one.
    refine untouched _ fun ⟨before, token, after, split⟩ => ?_
    obtain ⟨gap, -, behind⟩ := exists_gap precedes split.symm
    refine (splitAtPair?_eq_none_iff _ _).1 closing ?_
    match gap with
    | [] =>
      cases behind
      exact ⟨token, after, rfl⟩
    | [_] =>
      cases behind
      exact ⟨'\x7b' :: token, after, rfl⟩
    | _ :: _ :: gap =>
      cases behind
      exact ⟨gap ++ '\x7b' :: '\x7b' :: token, after, by simp⟩
  | case3 s literal rest opening token after closing ih =>
    obtain ⟨rfl, literalShort⟩ := (splitAtPair?_eq_some_iff _ _ _ _).1 opening
    obtain ⟨rfl, tokenShort⟩ := (splitAtPair?_eq_some_iff _ _ _ _).1 closing
    obtain ⟨⟨segments, last⟩, ⟨literals, tokens, noToken⟩, rfl⟩ := ih
    exact ⟨⟨⟨literal, token⟩ :: segments, last⟩, ⟨List.forall_mem_cons.2 ⟨literalShort, literals⟩,
      List.forall_mem_cons.2 ⟨tokenShort, tokens⟩, noToken⟩, rfl⟩

/-- Every text has exactly one such layout. -/
theorem existsUnique_isShortest (s : List Char) :
    ∃! layout : Layout, layout.IsShortest ∧ layout.chars = s := by
  obtain ⟨layout, shortest, spells⟩ := exists_isShortest s
  refine ⟨layout, ⟨shortest, spells⟩, ?_⟩
  rintro other ⟨otherShortest, otherSpells⟩
  apply pieces_injective
  rw [← pieces_chars shortest, ← pieces_chars otherShortest, spells, otherSpells]

/-! ## Placeholders and values -/

/-- The placeholders of an argument are the identifiers of its layout. -/
theorem placeholders_chars (shortest : layout.IsShortest) :
    placeholders (String.ofList layout.chars) = layout.identifiers := by
  rw [placeholders_eq, String.toList_ofList, pieces_chars shortest]
  obtain ⟨segments, last⟩ := layout
  clear shortest
  induction segments with
  | nil => rfl
  | cons segment segments ih => exact congrArg (identifier segment.token :: ·) ih

/-- Blanks within braces do not change the identifiers. -/
theorem Pads.identifiers_eq (pads : padded.Pads layout) :
    padded.identifiers = layout.identifiers := by
  symm
  rw [identifiers, identifiers, ← List.forall₂_eq_eq_eq, List.forall₂_map_left_iff,
    List.forall₂_map_right_iff]
  refine pads.segments.imp fun segment other same => ?_
  obtain ⟨-, left, right, leftBlank, rightBlank, token⟩ := same
  rw [identifier, identifier, token, trim_pad leftBlank rightBlank]

/-- Blanks within braces do not let a token begin or end earlier. -/
theorem Pads.isShortest (pads : padded.Pads layout) (shortest : layout.IsShortest) :
    padded.IsShortest := by
  obtain ⟨segments, last⟩ := layout
  obtain ⟨others, otherLast⟩ := padded
  obtain ⟨same, rfl⟩ := pads
  obtain ⟨literals, tokens, noToken⟩ := shortest
  have free {chars : List Char} (blank : IsBlankText chars) : '\x7d' ∉ chars := fun member => by
    have isBlank := blank _ member
    revert isBlank
    decide
  refine ⟨fun other member => ?_, fun other member => ?_, noToken⟩
  all_goals
    obtain ⟨segment, isSegment, literal, left, right, leftBlank, rightBlank, token⟩ :=
      exists_mem_of_forall₂ same member
  · exact literal ▸ literals segment isSegment
  · rw [token]
    exact precedesPair_pad (free leftBlank) (free rightBlank) (tokens segment isSegment)

/-- A layout whose identifiers all have the same value is filled in with it. -/
theorem fillPieces_pieces {value? : String → Option String} {value : String}
    (known : ∀ name ∈ layout.identifiers, value? name = some value) :
    fillPieces value? layout.pieces = .ok (layout.filled value.toList) := by
  obtain ⟨segments, last⟩ := layout
  induction segments with
  | nil => simp [pieces, filled, fillPieces, bind, Except.bind, pure, Except.pure]
  | cons segment segments ih =>
    obtain ⟨first, others⟩ := List.forall_mem_cons.1 known
    simp only [pieces, filled, List.foldr_cons, fillPieces, first] at ih ⊢
    rw [ih others]
    simp [bind, Except.bind, pure, Except.pure]

/-- Blanks within braces do not change what pieces are filled in with, or which one is reported. -/
theorem Pads.fillPieces_eq (pads : padded.Pads layout) (value? : String → Option String) :
    fillPieces value? padded.pieces = fillPieces value? layout.pieces := by
  obtain ⟨segments, last⟩ := layout
  obtain ⟨others, otherLast⟩ := padded
  obtain ⟨same, rfl⟩ := pads
  dsimp only at same
  induction same with
  | nil => rfl
  | @cons segment other _ _ one _ ih =>
    obtain ⟨literal, left, right, leftBlank, rightBlank, token⟩ := one
    have name : identifier other.token = identifier segment.token := by
      rw [identifier, identifier, token, trim_pad leftBlank rightBlank]
    simp only [pieces, List.foldr_cons, fillPieces, literal, name] at ih ⊢
    rw [ih]

/-- An argument whose identifiers all name the root of the configuration is resolved to its layout
with the root filled in. -/
theorem resolveArgument_chars (shortest : layout.IsShortest) (root : String)
    (named : ∀ name ∈ layout.identifiers, name = configRootName) :
    resolveArgument (some root) (String.ofList layout.chars) =
      .ok (String.ofList (layout.filled root.toList)) := by
  have known (name : String) (member : name ∈ layout.identifiers) :
      placeholderValue? (some root) name = some root := by
    rw [placeholderValue?, if_pos (named name member)]
  rw [resolveArgument_eq_ok_iff, fill, String.toList_ofList, pieces_chars shortest,
    fillPieces_pieces known]
  rfl

/-- Blanks within braces do not change what an argument is resolved to. -/
theorem Pads.resolveArgument_eq (pads : padded.Pads layout) (shortest : layout.IsShortest)
    (root : Option String) :
    resolveArgument root (String.ofList padded.chars) =
      resolveArgument root (String.ofList layout.chars) := by
  simp only [resolveArgument, fill, String.toList_ofList, pieces_chars shortest,
    pieces_chars (pads.isShortest shortest), pads.fillPieces_eq]

end Layout

/-! ## Arguments within a command -/

section Commands

variable {volumes : List ConfigVolume} {mounts : List VolumeMount} {before after : List String}

/-- Arguments that are always resolved alike stand for each other in a command. -/
theorem resolve_congr {argument other : String}
    (same : ∀ root, resolveArgument root argument = resolveArgument root other) :
    resolve volumes mounts (before ++ argument :: after) =
      resolve volumes mounts (before ++ other :: after) := by
  cases bound : bindMounts volumes mounts with
  | error error => rw [resolve_of_bindMounts_error bound, resolve_of_bindMounts_error bound]
  | ok bindings =>
    rw [resolve_of_bindMounts bound, resolve_of_bindMounts bound, List.mapM_append,
      List.mapM_append, List.mapM_cons, List.mapM_cons, same]

/-- What an argument of a command is resolved to stands in its place. -/
theorem resolve_getElem? {argument resolved root : String} {container : ResolvedContainer}
    (resolves : resolve volumes mounts (before ++ argument :: after) = .ok container)
    (isRoot : IsConfigRoot volumes mounts root)
    (one : resolveArgument (some root) argument = .ok resolved) :
    container.command[before.length]? = some resolved := by
  cases bound : bindMounts volumes mounts with
  | error error =>
    rw [resolve_of_bindMounts_error bound] at resolves
    cases resolves
  | ok bindings =>
    have found : configRoot? volumes bindings = some root :=
      (configRoot?_eq_some_iff (forall₂_binds_of_bindMounts bound) root).2 isRoot
    rw [resolve_of_bindMounts bound, found] at resolves
    cases steps : (before ++ argument :: after).mapM (resolveArgument (some root)) with
    | error error =>
      rw [steps] at resolves
      cases resolves
    | ok results =>
      rw [steps] at resolves
      cases resolves
      have all := (mapM_eq_ok_iff _ _ _).1 steps
      have inside : before.length < (before ++ argument :: after).length := by simp
      have here := all.get inside (all.length_eq ▸ inside)
      simp only [List.get_eq_getElem, List.getElem_append_right (Nat.le_refl _), Nat.sub_self,
        List.getElem_cons_zero, one, Except.ok.injEq] at here
      rw [List.getElem?_eq_getElem (all.length_eq ▸ inside), here]

end Commands

/-- An argument has exactly one layout with tokens taken from the left that are as short as
possible. Its placeholders are the identifiers of that layout. If all of them name the root of the
configuration, the argument is resolved to the layout with the root in the place of each token, by
itself and within a command. Blanks that are added within the braces of tokens change neither the
placeholders nor the outcome for any command. -/
theorem argument_decomposes (argument : String) :
    (∃! layout : Layout, layout.IsShortest ∧ layout.chars = argument.toList) ∧
    ∀ layout : Layout, layout.IsShortest → layout.chars = argument.toList →
      placeholders argument = layout.identifiers ∧
      ((∀ name ∈ layout.identifiers, name = "configroot") →
        ∀ root, resolveArgument (some root) argument =
            .ok (String.ofList (layout.filled root.toList)) ∧
          ∀ volumes mounts before after container,
            resolve volumes mounts (before ++ argument :: after) = .ok container →
            IsConfigRoot volumes mounts root →
            container.command[before.length]? =
              some (String.ofList (layout.filled root.toList))) ∧
      ∀ padded : Layout, padded.Pads layout →
        placeholders (String.ofList padded.chars) = placeholders argument ∧
        ∀ volumes mounts before after,
          resolve volumes mounts (before ++ String.ofList padded.chars :: after) =
            resolve volumes mounts (before ++ argument :: after) := by
  refine ⟨Layout.existsUnique_isShortest argument.toList, fun layout shortest spells => ?_⟩
  obtain rfl : argument = String.ofList layout.chars := by rw [spells, String.ofList_toList]
  have identifiers := Layout.placeholders_chars shortest
  refine ⟨identifiers, fun named root => ?_, fun padded pads => ⟨?_, ?_⟩⟩
  · have resolved := Layout.resolveArgument_chars shortest root named
    exact ⟨resolved, fun volumes mounts before after container resolves isRoot =>
      resolve_getElem? resolves isRoot resolved⟩
  · rw [Layout.placeholders_chars (pads.isShortest shortest), pads.identifiers_eq, identifiers]
  · intro volumes mounts before after
    exact resolve_congr (pads.resolveArgument_eq shortest)

/-- A layout with blanks around its tokens, with a closing brace between them and with opening
braces behind them. -/
def crowdedLayout : Layout where
  segments := [⟨"x=".toList, " configroot\n".toList⟩, ⟨['\x7d'], "\u3000configroot".toList⟩]
  last := "\x7b\x7b \x7d".toList

/-- That layout without blanks in its tokens. -/
def compactLayout : Layout :=
  { crowdedLayout with
    segments := [⟨"x=".toList, "configroot".toList⟩, ⟨['\x7d'], "configroot".toList⟩] }

/-- The compact layout names the root of the configuration twice. It is resolved to the same for the
crowded one, and a root with a backslash and braces is put in as it is. -/
theorem argument_decomposes_compactLayout :
    compactLayout.IsShortest ∧ crowdedLayout.Pads compactLayout ∧
    placeholders (String.ofList compactLayout.chars) = ["configroot", "configroot"] ∧
    resolveArgument (some "/\\1\x7b\x7bb\x7d\x7d") (String.ofList compactLayout.chars) =
      .ok "x=/\\1\x7b\x7bb\x7d\x7d\x7d/\\1\x7b\x7bb\x7d\x7d\x7b\x7b \x7d" ∧
    placeholders (String.ofList crowdedLayout.chars) = ["configroot", "configroot"] := by
  have noPair {c : Char} {s : List Char}
      (apart : s.IsChain fun left right => ¬ (left = c ∧ right = c)) : ¬ HasPair c s :=
    (not_hasPair_iff_isChain c s).2 apart
  have shortest : compactLayout.IsShortest := by
    refine ⟨?_, ?_, ?_⟩
    · exact List.forall_mem_cons.2 ⟨⟨noPair (by decide), by decide⟩,
        List.forall_mem_singleton.2 ⟨noPair (by decide), by decide⟩⟩
    · exact List.forall_mem_cons.2 ⟨⟨noPair (by decide), by decide⟩,
        List.forall_mem_singleton.2 ⟨noPair (by decide), by decide⟩⟩
    · rintro ⟨before, token, after, split⟩
      refine noPair (c := '\x7d') (s := compactLayout.last) (by decide)
        ⟨before ++ '\x7b' :: '\x7b' :: token, after, ?_⟩
      simp [split]
  have pads : crowdedLayout.Pads compactLayout := by
    have blank (s : List Char) (all : s.all isBlank = true) : IsBlankText s :=
      List.all_eq_true.1 all
    refine ⟨.cons ⟨rfl, [' '], ['\n'], blank _ (by decide), blank _ (by decide), rfl⟩ (.cons
      ⟨rfl, ['\u3000'], [], blank _ (by decide), blank _ (by decide), rfl⟩ .nil), rfl⟩
  have ⟨names, resolved, padded⟩ := (argument_decomposes (String.ofList compactLayout.chars)).2
    compactLayout shortest (by rw [String.toList_ofList])
  have identifiers : compactLayout.identifiers = ["configroot", "configroot"] := by decide
  have named : ∀ name ∈ compactLayout.identifiers, name = "configroot" := by simp [identifiers]
  have ⟨same, _⟩ := padded crowdedLayout pads
  exact ⟨shortest, pads, names.trans identifiers, (resolved named _).1,
    same.trans (names.trans identifiers)⟩

end PodLaunch.Argument
