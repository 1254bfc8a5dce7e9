import PodLaunch.Proofs.ArgumentLayout

/-!
# Tokens that are left in a command

The root of the configuration is put in as it is and not read again, so that braces in its path may
open tokens in the resolved command. No other braces do. A command in which none is left resolves to
itself, and only such a command does.
-/

namespace PodLaunch

namespace Argument

open Text

/-- An argument has no placeholders exactly if it has no token. -/
theorem placeholders_eq_nil_iff (argument : String) :
    placeholders argument = [] ↔ ¬ HasToken argument.toList := by
  constructor
  · intro none
    obtain ⟨⟨segments, last⟩, shortest, spells⟩ := Layout.exists_isShortest argument.toList
    have identifiers := Layout.placeholders_chars shortest
    rw [spells, String.ofList_toList, none] at identifiers
    have literal : segments = [] := List.map_eq_nil_iff.1 identifiers.symm
    subst literal
    rw [← spells]
    exact shortest.last
  · intro noToken
    rw [placeholders_eq, pieces_of_no_token noToken]
    rfl

namespace Layout

variable {layout : Layout} {value front token behind : List Char}

/-- The part of a filled layout in front of some place ends within a copy of the value, where an
opening brace of the value follows. -/
def EndsWithinValue (value : List Char) (layout : Layout) (front : List Char) : Prop :=
  ∃ before segment after head tail, layout.segments = before ++ segment :: after ∧
    value = head ++ '\x7b' :: tail ∧
    front = (Layout.mk before segment.literal).filled value ++ head

/-- A filled layout goes on with the value behind each of its literals. -/
theorem filled_append_cons (value : List Char) (before : List Segment) (segment : Segment)
    (after : List Segment) (last : List Char) :
    (Layout.mk (before ++ segment :: after) last).filled value =
      (Layout.mk before segment.literal).filled value ++
        (value ++ (Layout.mk after last).filled value) := by
  simp only [filled, List.foldr_append, List.foldr_cons]
  induction before with
  | nil => simp
  | cons first before ih => simp [ih]

/-- Every token of a filled layout begins with a brace of the value. -/
theorem endsWithinValue_of_token (shortest : layout.IsShortest)
    (found : layout.filled value =
      front ++ '\x7b' :: '\x7b' :: (token ++ '\x7d' :: '\x7d' :: behind)) :
    layout.EndsWithinValue value front := by
  obtain ⟨segments, last⟩ := layout
  obtain ⟨literals, tokens, noToken⟩ := shortest
  induction segments generalizing front with
  | nil => exact absurd ⟨front, token, behind, found⟩ noToken
  | cons segment segments ih =>
    obtain ⟨literal, literals⟩ := List.forall_mem_cons.1 literals
    obtain ⟨-, tokens⟩ := List.forall_mem_cons.1 tokens
    -- The braces do not begin within the literal, since a token follows it.
    obtain ⟨gap, rfl, inside⟩ := exists_gap literal found.symm
    have later (gap : List Char)
        (found : (Layout.mk segments last).filled value =
          gap ++ '\x7b' :: '\x7b' :: (token ++ '\x7d' :: '\x7d' :: behind)) :
        (Layout.mk (segment :: segments) last).EndsWithinValue value
          (segment.literal ++ (value ++ gap)) := by
      obtain ⟨before, other, after, head, tail, split, spells, rfl⟩ :=
        ih found literals tokens noToken
      refine ⟨segment :: before, other, after, head, tail, congrArg (segment :: ·) split,
        spells, ?_⟩
      simp [filled]
    clear found
    rcases List.append_eq_append_iff.1 inside with ⟨rest, rfl, remains⟩ | ⟨tail, spells, remains⟩
    · exact later rest remains
    · cases tail with
      | nil =>
        rw [List.append_nil] at spells
        subst spells
        simpa using later [] remains.symm
      | cons c tail =>
        rw [List.cons_append, List.cons.injEq] at remains
        obtain ⟨rfl, -⟩ := remains
        exact ⟨[], segment, segments, gap, tail, rfl, spells, rfl⟩

/-- The literals that stand directly behind a token. -/
def literalsBehind (layout : Layout) : List (List Char) :=
  (layout.segments.map Segment.literal ++ [layout.last]).tail

/-- The braces of a value open no token in a layout: the value has no double opening braces, nor
does one at its end stand in front of another one. -/
structure KeepsApart (value : List Char) (layout : Layout) : Prop where
  /-- There are no double opening braces in the value. -/
  noPair : ¬ HasPair '\x7b' value
  /-- If the value ends with an opening brace, no literal behind a token begins with one. -/
  noSeam : value.getLast? = some '\x7b' →
    ∀ literal ∈ layout.literalsBehind, literal.head? ≠ some '\x7b'

/-- A value without opening braces opens no token. -/
theorem keepsApart_of_not_mem (absent : '\x7b' ∉ value) (layout : Layout) :
    layout.KeepsApart value := by
  constructor
  · rintro ⟨before, after, rfl⟩
    simp at absent
  · exact fun last => absurd (List.mem_of_getLast? last) absent

/-- What follows a token in a layout that is filled with a path begins with an opening brace only if
the literal behind the token does. -/
theorem exists_literal_of_head? (starts : value.head? = some '/') {before after : List Segment}
    {segment : Segment} {last : List Char}
    (opens : ((Layout.mk after last).filled value).head? = some '\x7b') :
    ∃ literal ∈ (Layout.mk (before ++ segment :: after) last).literalsBehind,
      literal.head? = some '\x7b' := by
  have isBehind {literal : List Char} (member : literal ∈ after.map Segment.literal ++ [last]) :
      literal ∈ (Layout.mk (before ++ segment :: after) last).literalsBehind := by
    cases before with
    | nil => exact member
    | cons first before => simpa [literalsBehind] using .inr (.inr (by simpa using member))
  cases after with
  | nil => exact ⟨last, isBehind List.mem_cons_self, opens⟩
  | cons next after =>
    refine ⟨next.literal, isBehind List.mem_cons_self, ?_⟩
    cases literal : next.literal with
    | nil =>
      have path : ((Layout.mk (next :: after) last).filled value).head? = some '/' := by
        simp [filled, literal, starts]
      rw [path] at opens
      cases opens
    | cons c rest =>
      simpa [filled, literal] using opens

/-- A value from the root that keeps its braces apart leaves no token in a layout. -/
theorem not_hasToken_filled (shortest : layout.IsShortest) (starts : value.head? = some '/')
    (apart : layout.KeepsApart value) : ¬ HasToken (layout.filled value) := by
  rintro ⟨front, token, behind, found⟩
  obtain ⟨before, segment, after, head, tail, split, rfl, rfl⟩ :=
    endsWithinValue_of_token shortest found
  obtain ⟨segments, last⟩ := layout
  dsimp only at split
  subst split
  -- Behind the brace that begins the token stands the second one.
  have next : tail ++ (Layout.mk after last).filled (head ++ '\x7b' :: tail) =
      '\x7b' :: (token ++ '\x7d' :: '\x7d' :: behind) := by
    simpa only [filled_append_cons, List.append_assoc, List.append_cancel_left_eq,
      List.cons_append, List.cons.injEq, true_and] using found
  cases tail with
  | cons c tail =>
    rw [List.cons_append, List.cons.injEq] at next
    exact apart.noPair ⟨head, tail, by rw [next.1]⟩
  | nil =>
    have opens : ((Layout.mk after last).filled (head ++ ['\x7b'])).head? = some '\x7b' := by
      rw [← List.nil_append (filled _ _), next]
      rfl
    obtain ⟨literal, isBehind, begins⟩ := exists_literal_of_head? starts opens
    exact apart.noSeam (by simp) literal isBehind begins

/-- A layout with a token is not what a path is filled in to. -/
theorem filled_ne_chars (starts : value.head? = some '/') (some_ : layout.segments ≠ []) :
    layout.filled value ≠ layout.chars := by
  obtain ⟨segments, last⟩ := layout
  cases segments with
  | nil => exact absurd rfl some_
  | cons segment segments =>
    intro same
    obtain ⟨rest, rfl⟩ := List.head?_eq_some_iff.1 starts
    have behind := @List.append_cancel_left _ segment.literal _ _ same
    rw [List.cons_append, List.cons.injEq] at behind
    exact absurd behind.1 (by decide)

/-- Whether a layout is that of an argument: its text, with tokens taken from the left that are as
short as possible. -/
structure IsOf (argument : String) (layout : Layout) : Prop where
  /-- Its tokens are taken from the left and are as short as possible. -/
  shortest : layout.IsShortest
  /-- It has the text of the argument. -/
  chars : layout.chars = argument.toList

/-- The placeholders of an argument are the identifiers of its layout. -/
theorem IsOf.placeholders_eq {argument : String} (isOf : layout.IsOf argument) :
    placeholders argument = layout.identifiers := by
  rw [← placeholders_chars isOf.shortest, isOf.chars, String.ofList_toList]

/-- What an argument is resolved to is its layout with the root filled in, if it has any token, and
the argument itself otherwise. -/
theorem IsOf.resolved {argument resolved : String} {root : Option String}
    (isOf : layout.IsOf argument) (resolves : resolveArgument root argument = .ok resolved) :
    placeholders argument = [] ∧ resolved = argument ∨
      layout.segments ≠ [] ∧ ∃ path, root = some path ∧
        resolved.toList = layout.filled path.toList := by
  have named := (exists_resolveArgument_iff root argument).1 ⟨resolved, resolves⟩
  rw [isOf.placeholders_eq] at named
  cases segments : layout.segments with
  | nil =>
    have none : placeholders argument = [] := by
      rw [isOf.placeholders_eq, identifiers, segments, List.map_nil]
    rw [resolveArgument_eq_ok_iff, fill_of_no_placeholder _ _ none, Except.ok.injEq] at resolves
    exact .inl ⟨none, resolves.symm⟩
  | cons segment others =>
    have first : identifier segment.token ∈ layout.identifiers := by simp [identifiers, segments]
    obtain ⟨path, rfl⟩ := Option.isSome_iff_exists.1 (named _ first).2
    have filled := resolveArgument_chars isOf.shortest path fun name member => (named name member).1
    rw [isOf.chars, String.ofList_toList, resolves, Except.ok.injEq] at filled
    exact .inr ⟨List.cons_ne_nil _ _, path, rfl, by rw [filled, String.toList_ofList]⟩

/-- Every token of what an argument is resolved to begins with a brace of the root. -/
theorem IsOf.endsWithinValue_of_token {argument resolved : String} {root : Option String}
    (isOf : layout.IsOf argument) (resolves : resolveArgument root argument = .ok resolved)
    (found : resolved.toList =
      front ++ '\x7b' :: '\x7b' :: (token ++ '\x7d' :: '\x7d' :: behind)) :
    ∃ path, root = some path ∧ layout.EndsWithinValue path.toList front := by
  rcases isOf.resolved resolves with ⟨none, rfl⟩ | ⟨-, path, isRoot, filled⟩
  · exact absurd ⟨front, token, behind, found⟩ ((placeholders_eq_nil_iff _).1 none)
  · exact ⟨path, isRoot, Layout.endsWithinValue_of_token isOf.shortest (filled.symm.trans found)⟩

/-- A root that keeps its braces apart leaves no placeholder in what an argument is resolved to. -/
theorem IsOf.placeholders_resolved {argument resolved : String} {root : Option String}
    (isOf : layout.IsOf argument) (resolves : resolveArgument root argument = .ok resolved)
    (starts : ∀ path, root = some path → path.toList.head? = some '/')
    (apart : ∀ path, root = some path → layout.KeepsApart path.toList) :
    placeholders resolved = [] := by
  rcases isOf.resolved resolves with ⟨none, rfl⟩ | ⟨-, path, isRoot, filled⟩
  · exact none
  · rw [placeholders_eq_nil_iff, filled]
    exact not_hasToken_filled isOf.shortest (starts path isRoot) (apart path isRoot)

end Layout

/-- An argument resolves to itself exactly if it has no placeholder, where the root is a path. -/
theorem resolveArgument_eq_self_iff {root : Option String}
    (starts : ∀ path, root = some path → path.toList.head? = some '/') (argument : String) :
    resolveArgument root argument = .ok argument ↔ placeholders argument = [] := by
  constructor
  · intro resolves
    obtain ⟨layout, shortest, chars⟩ := Layout.exists_isShortest argument.toList
    have isOf : layout.IsOf argument := ⟨shortest, chars⟩
    rcases isOf.resolved resolves with ⟨none, -⟩ | ⟨some_, path, isRoot, filled⟩
    · exact none
    · exact absurd (filled.symm.trans chars.symm)
        (Layout.filled_ne_chars (starts path isRoot) some_)
  · intro none
    rw [resolveArgument_eq_ok_iff, fill_of_no_placeholder _ _ none]

end Argument

open Argument

/-- The root of the configuration is a path from the root. -/
theorem IsConfigRoot.head? {volumes : List ConfigVolume} {mounts : List VolumeMount} {path : String}
    (isRoot : IsConfigRoot volumes mounts path) : path.toList.head? = some '/' := by
  obtain ⟨-, -, -, -, -, -, mount, -, -, -, -, rfl⟩ := isRoot
  exact beq_iff_eq.1 mount.absolute

/-- Whether nothing is left to resolve in a container: no argument has a placeholder, and its
command resolves to the container again. -/
structure ResolvedContainer.IsSettled (volumes : List ConfigVolume) (mounts : List VolumeMount)
    (container : ResolvedContainer) : Prop where
  /-- No argument has a placeholder. -/
  noPlaceholder : ∀ argument ∈ container.command, placeholders argument = []
  /-- Its command resolves to it again. -/
  again : resolve volumes mounts container.command = .ok container

section Commands

variable {volumes : List ConfigVolume} {mounts : List VolumeMount} {command : List String}
  {container : ResolvedContainer} (resolves : resolve volumes mounts command = .ok container)

include resolves

/-- A resolved command resolves to itself exactly if no placeholder is left in it. -/
theorem resolve_again_iff :
    resolve volumes mounts container.command = .ok container ↔
      ∀ argument ∈ container.command, placeholders argument = [] := by
  have bound := ((resolve_eq_ok_iff _ _ _ _).1 resolves).1
  have starts (path : String) (found : configRoot? volumes container.mountPlan = some path) :
      path.toList.head? = some '/' :=
    ((configRoot?_eq_some_iff (forall₂_binds_of_bindMounts bound) path).1 found).head?
  rw [resolve_eq_ok_iff, List.forall₂_same]
  simp only [bound, true_and, resolveArgument_eq_self_iff starts]

/-- Nothing is left to resolve if the root keeps its braces apart in every argument. -/
theorem isSettled_of_keepsApart (apart : ∀ root, IsConfigRoot volumes mounts root →
      ∀ argument ∈ command, ∀ layout : Layout, layout.IsOf argument →
        layout.KeepsApart root.toList) :
    container.IsSettled volumes mounts := by
  obtain ⟨bound, steps⟩ := (resolve_eq_ok_iff _ _ _ _).1 resolves
  have isRoot := configRoot?_eq_some_iff (forall₂_binds_of_bindMounts bound)
  have none : ∀ resolved ∈ container.command, placeholders resolved = [] := by
    intro resolved member
    obtain ⟨argument, isArgument, step⟩ := exists_mem_of_forall₂ steps member
    obtain ⟨layout, shortest, chars⟩ := Layout.exists_isShortest argument.toList
    have isOf : layout.IsOf argument := ⟨shortest, chars⟩
    exact isOf.placeholders_resolved step (fun root given => ((isRoot root).1 given).head?)
      fun root given => apart root ((isRoot root).1 given) argument isArgument layout isOf
  exact ⟨none, (resolve_again_iff resolves).2 none⟩

end Commands

/-- Every token that is left in a resolved command begins with a brace of the root of the
configuration. So nothing is left to resolve if the root keeps its braces apart in every argument,
or has no opening braces at all. In any case, a resolved command resolves to itself exactly if no
placeholder is left in it. -/
theorem tokens_left {volumes : List ConfigVolume} {mounts : List VolumeMount}
    {command : List String} {container : ResolvedContainer}
    (resolves : resolve volumes mounts command = .ok container) :
    List.Forall₂ (fun argument resolved => ∀ layout : Layout, layout.IsOf argument →
      ∀ front token behind, resolved.toList =
        front ++ '\x7b' :: '\x7b' :: (token ++ '\x7d' :: '\x7d' :: behind) →
        ∃ root, IsConfigRoot volumes mounts root ∧ layout.EndsWithinValue root.toList front)
      command container.command ∧
    ((∀ root, IsConfigRoot volumes mounts root → ∀ argument ∈ command,
        ∀ layout : Layout, layout.IsOf argument → layout.KeepsApart root.toList) →
      container.IsSettled volumes mounts) ∧
    ((∀ root, IsConfigRoot volumes mounts root → '\x7b' ∉ root.toList) →
      container.IsSettled volumes mounts) ∧
    (resolve volumes mounts container.command = .ok container ↔
      ∀ argument ∈ container.command, placeholders argument = []) := by
  obtain ⟨bound, steps⟩ := (resolve_eq_ok_iff _ _ _ _).1 resolves
  have isRoot := configRoot?_eq_some_iff (forall₂_binds_of_bindMounts bound)
  refine ⟨steps.imp fun argument resolved step layout isOf front token behind found => ?_,
    isSettled_of_keepsApart resolves, fun absent => isSettled_of_keepsApart resolves ?_,
    resolve_again_iff resolves⟩
  · obtain ⟨root, given, ends⟩ := isOf.endsWithinValue_of_token step found
    exact ⟨root, (isRoot root).1 given, ends⟩
  · exact fun root given _ _ layout _ => Layout.keepsApart_of_not_mem (absent root given) layout

/-- A volume with the configuration of a service. -/
def serviceVolume : ConfigVolume :=
  ⟨⟨"cfg", by decide⟩, ⟨"zookeeper-prod-1", by decide⟩⟩

/-- The mount of that volume at a path. -/
def serviceMount (path : String) (absolute : MountPath.isAbsolute path = true) : VolumeMount :=
  ⟨"cfg", path, absolute⟩

/-- What a command comes to for that mount. -/
def serviceContainer (path : String) (command : List String) : ResolvedContainer :=
  ⟨[⟨"cfg", path, "zookeeper-prod-1"⟩], command⟩

/-- A path with a single opening brace and two closing ones. -/
def bracedPath : String :=
  "/a\x7bb\x7d\x7d"

/-- A command with tokens next to each other, a closing brace behind them and opening braces that
nothing closes. -/
def bracedCommand : List String :=
  ["x=\x7b\x7b configroot \x7d\x7d\x7b\x7bconfigroot\x7d\x7d\x7d", "\x7b\x7b"]

/-- What that command comes to with that path. -/
def bracedContainer : ResolvedContainer :=
  serviceContainer bracedPath ["x=/a\x7bb\x7d\x7d/a\x7bb\x7d\x7d\x7d", "\x7b\x7b"]

/-- A single opening brace in the root is kept apart, so that nothing is left to resolve. -/
theorem tokens_left_bracedCommand :
    resolve [serviceVolume] [serviceMount bracedPath (by decide)] bracedCommand =
      .ok bracedContainer ∧
    bracedContainer.IsSettled [serviceVolume] [serviceMount bracedPath (by decide)] := by
  have resolves : resolve [serviceVolume] [serviceMount bracedPath (by decide)] bracedCommand =
      .ok bracedContainer := by
    decide +kernel
  refine ⟨resolves, (tokens_left resolves).2.1 ?_⟩
  rintro root ⟨-, -, -, -, -, earlier, mount, later, mounts, -, -, rfl⟩ argument - layout -
  have only : mount ∈ [serviceMount bracedPath (by decide)] := mounts ▸ List.mem_append_cons_self
  rw [List.mem_singleton.1 only]
  constructor
  · exact (not_hasPair_iff_isChain _ _).2 (by decide)
  · exact fun last => absurd last (by decide)

/-- Double braces in the path of a mount, and an opening brace at its end in front of another one,
open tokens in what a command is resolved to. Such a command does not resolve, or to another one. -/
theorem not_isSettled_bracedMounts :
    (resolve [serviceVolume] [serviceMount "/a\x7b\x7bb\x7d\x7d" (by decide)]
        ["\x7b\x7bconfigroot\x7d\x7d"] =
        .ok (serviceContainer "/a\x7b\x7bb\x7d\x7d" ["/a\x7b\x7bb\x7d\x7d"]) ∧
      placeholders "/a\x7b\x7bb\x7d\x7d" = ["b"] ∧
      resolve [serviceVolume] [serviceMount "/a\x7b\x7bb\x7d\x7d" (by decide)]
        ["/a\x7b\x7bb\x7d\x7d"] = .error (.unresolvedPlaceholder "b" ["configroot"])) ∧
    resolve [serviceVolume] [serviceMount "/a\x7b" (by decide)]
        ["\x7b\x7bconfigroot\x7d\x7d\x7bconfigroot\x7d\x7d"] =
        .ok (serviceContainer "/a\x7b" ["/a\x7b\x7bconfigroot\x7d\x7d"]) ∧
      placeholders "/a\x7b\x7bconfigroot\x7d\x7d" = ["configroot"] ∧
      resolve [serviceVolume] [serviceMount "/a\x7b" (by decide)]
        ["/a\x7b\x7bconfigroot\x7d\x7d"] = .ok (serviceContainer "/a\x7b" ["/a/a\x7b"]) := by
  decide +kernel

end PodLaunch
