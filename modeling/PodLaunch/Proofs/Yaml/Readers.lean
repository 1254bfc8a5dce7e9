import PodLaunch.Yaml.Stream

/-!
# What readers leave behind

The readers of tokens pass some of them and leave the others behind. So what is true of all tokens
is true of those that are left, and the defects that readers find are those of tokens, those of
scalars without a meaning, and that the text is malformed.
-/

namespace PodLaunch.Yaml

/-- An outcome is a value with a property, or a defect that is allowed. -/
def Yields {α : Type} (allowed : Defect → Prop) (P : α → Prop) : Except Defect α → Prop
  | .ok value => P value
  | .error cause => allowed cause

variable {allowed : Defect → Prop}

/-- A value with a property is such an outcome. -/
theorem yields_pure {α : Type} {P : α → Prop} {value : α} (holds : P value) :
    Yields allowed P (pure value) :=
  holds

/-- A result is used where it has a property. -/
theorem Yields.bind {α β : Type} {P : α → Prop} {Q : β → Prop} {result : Except Defect α}
    {use : α → Except Defect β} (yields : Yields allowed P result)
    (later : ∀ value, P value → Yields allowed Q (use value)) :
    Yields allowed Q (result >>= use) := by
  match result, yields with
  | .ok value, found => exact later value found
  | .error _, isAllowed => exact isAllowed

/-- An outcome fails for a cause that is allowed. -/
theorem Yields.allowed_of_eq_error {α : Type} {P : α → Prop} {result : Except Defect α}
    {cause : Defect} (yields : Yields allowed P result) (fails : result = .error cause) :
    allowed cause := by
  rw [fails] at yields
  exact yields

/-- A property that follows from another one. -/
theorem Yields.imp {α : Type} {P Q : α → Prop} {result : Except Defect α}
    (yields : Yields allowed P result) (follows : ∀ value, P value → Q value) :
    Yields allowed Q result := by
  match result, yields with
  | .ok value, found => exact follows value found
  | .error _, isAllowed => exact isAllowed

/-- A value is made of another one. -/
theorem Yields.map {α β : Type} {P : α → Prop} {result : Except Defect α}
    (yields : Yields allowed P result) (make : α → β) :
    Yields allowed (fun _ => True) (result.map make) := by
  match result, yields with
  | .ok _, _ => exact trivial
  | .error _, isAllowed => exact isAllowed

/-- Whichever of two outcomes there is. -/
theorem yields_ite {α : Type} {P : α → Prop} {condition : Prop} [Decidable condition]
    {first second : Except Defect α} (yes : Yields allowed P first)
    (no : Yields allowed P second) : Yields allowed P (if condition then first else second) := by
  split
  · exact yes
  · exact no

/-- Without a value, the text is malformed. -/
theorem yields_orMalformed {α : Type} (malformed : allowed .malformed) (found : Option α) :
    Yields allowed (fun _ => True) (orMalformed found) := by
  cases found with
  | none => exact malformed
  | some value => exact trivial

/-- A list is worked through, with the defects of its elements. -/
theorem yields_mapM {α β : Type} {step : α → Except Defect β}
    (each : ∀ value, Yields allowed (fun _ => True) (step value)) (values : List α) :
    Yields allowed (fun _ => True) (values.mapM step) := by
  induction values with
  | nil => exact trivial
  | cons value values ih =>
    rw [List.mapM_cons]
    exact (each value).bind fun _ _ => ih.bind fun _ _ => trivial

/-- Defects that tokens of a sort account for: that the text is malformed, those that they stand
for, and that a plain scalar has no meaning among them. -/
structure AccountsFor (good : Lexeme → Prop) (allowed : Defect → Prop) : Prop where
  /-- The text may be malformed. -/
  malformed : allowed .malformed
  /-- A token may stand for a defect. -/
  defect : ∀ lexeme, good lexeme → ∀ cause, lexeme.token = .defect cause → allowed cause
  /-- A plain scalar may have no meaning. -/
  meaning : ∀ lexeme, good lexeme → ∀ isPlain text,
    Yields allowed (fun _ => True) (Meaning.ofUntagged lexeme.dialect isPlain text)

/-- All lexemes are of a sort. -/
abbrev AllOf (good : Lexeme → Prop) (lexemes : List Lexeme) : Prop :=
  ∀ lexeme ∈ lexemes, good lexeme

variable {good : Lexeme → Prop}

/-- Lexemes are of a sort from any one on. -/
theorem AllOf.drop {lexemes : List Lexeme} (all : AllOf good lexemes) (count : Nat) :
    AllOf good (lexemes.drop count) :=
  fun lexeme member => all lexeme (List.mem_of_mem_drop member)

/-- A reader leaves lexemes of a sort behind. -/
abbrev Leaves {α : Type} (allowed : Defect → Prop) (good : Lexeme → Prop)
    (result : Except Defect (α × Reading)) : Prop :=
  Yields allowed (fun found => AllOf good found.2.lexemes) result

namespace Reading

variable {handles : Handles} {reading : Reading} (accounts : AccountsFor good allowed)

include accounts

/-! ## Small steps -/

/-- The next token is of the sort. -/
theorem next_yields (all : AllOf good reading.lexemes) : Yields allowed good reading.next := by
  rw [next]
  match found : reading.lexemes with
  | [] => exact accounts.malformed
  | lexeme :: rest =>
    have is : good lexeme := all lexeme (by rw [found]; exact List.mem_cons_self)
    dsimp only
    split
    · rename_i cause isDefect
      exact accounts.defect lexeme is cause isDefect
    · exact is

/-- Noting an anchor passes no token. -/
theorem note_yields (all : AllOf good reading.lexemes) (dialect : Dialect)
    (anchor : Option String) (node : Node) :
    Yields allowed (fun noted : Reading => AllOf good noted.lexemes)
      (reading.note dialect anchor node) := by
  unfold note
  split
  · exact all
  · split
    · exact accounts.malformed
    · exact all

/-- Opening a collection passes no token. -/
theorem leaves_openCollection (all : AllOf good reading.lexemes) (dialect : Dialect)
    (anchor : Option String) (meaning : Meaning) :
    Leaves allowed good (reading.openCollection dialect anchor meaning) :=
  (note_yields accounts all dialect anchor _).bind fun _ all => all

/-- The empty scalar passes no token. -/
theorem leaves_missing (all : AllOf good reading.lexemes) :
    Leaves allowed good reading.missing := by
  refine (next_yields accounts all).bind fun lexeme is => ?_
  exact (accounts.meaning lexeme is true "").bind fun _ _ => all

/-- A scalar has a meaning, whatever its properties, or else it has none without a tag. -/
theorem scalarMeaning_yields (properties : Properties) {lexeme : Lexeme} (is : good lexeme)
    (isPlain : Bool) (text : String) :
    Yields allowed (fun _ => True) (properties.scalarMeaning lexeme.dialect isPlain text) := by
  unfold Properties.scalarMeaning
  split
  · exact trivial
  · exact accounts.meaning lexeme is _ text

/-- The properties of a node are followed by tokens of the sort. -/
theorem leaves_readProperties (all : AllOf good reading.lexemes) :
    Leaves allowed good (reading.readProperties handles) := by
  have anchor {reading : Reading} (all : AllOf good reading.lexemes) :
      Leaves allowed good reading.readAnchor := by
    refine (next_yields accounts all).bind fun lexeme _ => ?_
    split
    · exact all.drop 1
    · exact all
  have tag {reading : Reading} (all : AllOf good reading.lexemes) :
      Leaves allowed good reading.readTag := by
    refine (next_yields accounts all).bind fun lexeme _ => ?_
    split
    · exact all.drop 1
    · exact all
  refine (anchor all).bind fun ⟨before, _⟩ all => ?_
  refine (tag all).bind fun ⟨found, _⟩ all => ?_
  cases found with
  | none =>
    dsimp only
    split
    · exact (anchor all).bind fun ⟨behind, _⟩ all => all
    · exact all
  | some found =>
    dsimp only
    split
    · exact (anchor all).bind fun ⟨behind, _⟩ all =>
        (yields_orMalformed accounts.malformed _).bind fun _ _ => all
    · exact (yields_orMalformed accounts.malformed _).bind fun _ _ => all

/-- An entry of a flow collection is preceded by a comma, unless it is the first one. -/
theorem toFlowEntry_yields (all : AllOf good reading.lexemes) (first : Bool) (ending : Token) :
    Yields allowed (fun entry : Reading => AllOf good entry.lexemes)
      (reading.toFlowEntry first ending) := by
  refine (next_yields accounts all).bind fun lexeme _ => ?_
  split
  · exact all
  · split
    · exact all.drop 1
    · exact accounts.malformed

/-! ## Readers -/

omit accounts

/-- With a bound on the number of steps, all readers leave tokens of a sort behind. -/
structure ReadersLeave (allowed : Defect → Prop) (good : Lexeme → Prop) (handles : Handles)
    (steps : Nat) : Prop where
  /-- A node. -/
  node : ∀ position (reading : Reading), AllOf good reading.lexemes →
    Leaves allowed good (readNode handles steps position reading)
  /-- The content of a node. -/
  content : ∀ position properties (reading : Reading), AllOf good reading.lexemes →
    Leaves allowed good (readContent handles steps position properties reading)
  /-- A node that may be missing. -/
  optional : ∀ ends position (reading : Reading), AllOf good reading.lexemes →
    Leaves allowed good (readOptional handles steps ends position reading)
  /-- The elements behind dashes. -/
  dashes : ∀ ends items (reading : Reading), AllOf good reading.lexemes →
    Leaves allowed good (readDashes handles steps ends items reading)
  /-- A value. -/
  value : ∀ ends position (reading : Reading), AllOf good reading.lexemes →
    Leaves allowed good (readValue handles steps ends position reading)
  /-- The entries of a block mapping. -/
  blockMapping : ∀ entries (reading : Reading), AllOf good reading.lexemes →
    Leaves allowed good (readBlockMapping handles steps entries reading)
  /-- An entry within a flow collection. -/
  flowEntry : ∀ ends (reading : Reading), AllOf good reading.lexemes →
    Leaves allowed good (readFlowEntry handles steps ends reading)
  /-- The elements of a flow list. -/
  flowList : ∀ first items (reading : Reading), AllOf good reading.lexemes →
    Leaves allowed good (readFlowList handles steps first items reading)
  /-- The entries of a flow mapping. -/
  flowMapping : ∀ first entries (reading : Reading), AllOf good reading.lexemes →
    Leaves allowed good (readFlowMapping handles steps first entries reading)

include accounts

variable {steps : Nat} (leave : ReadersLeave allowed good handles steps)

include leave

/-- A node leaves tokens of the sort behind if its content does. -/
theorem leaves_readNode (position : Position) (all : AllOf good reading.lexemes) :
    Leaves allowed good (readNode handles (steps + 1) position reading) := by
  rw [readNode]
  refine (next_yields accounts all).bind fun lexeme _ => ?_
  split
  · exact (yields_orMalformed accounts.malformed _).bind fun _ _ => all.drop 1
  · exact (leaves_readProperties accounts all).bind fun ⟨properties, reading⟩ all =>
      leave.content position properties reading all

/-- The content of a node leaves tokens of the sort behind if what it holds does. -/
theorem leaves_readContent (position : Position) (properties : Properties)
    (all : AllOf good reading.lexemes) :
    Leaves allowed good (readContent handles (steps + 1) position properties reading) := by
  rw [readContent]
  refine (next_yields accounts all).bind fun lexeme is => ?_
  have scalar (isPlain : Bool) (text : String) {reading : Reading}
      (all : AllOf good reading.lexemes) :
      Leaves allowed good (do
        let node := Node.scalar (← properties.scalarMeaning lexeme.dialect isPlain text) text
        return (node, ← reading.note lexeme.dialect properties.anchor node)) :=
    (scalarMeaning_yields accounts properties is isPlain text).bind fun _ _ =>
      (note_yields accounts all _ _ _).bind fun _ all => all
  dsimp only
  split
  · refine (leaves_openCollection accounts all _ _ _).bind fun ⟨number, _⟩ all => ?_
    exact (leave.dashes _ _ _ all).bind fun ⟨items, _⟩ all => all
  · exact scalar _ _ (all.drop 1)
  · refine (leaves_openCollection accounts (all.drop 1) _ _ _).bind fun ⟨number, _⟩ all => ?_
    exact (leave.flowList _ _ _ all).bind fun ⟨items, _⟩ all => all
  · refine (leaves_openCollection accounts (all.drop 1) _ _ _).bind fun ⟨number, _⟩ all => ?_
    exact (leave.flowMapping _ _ _ all).bind fun ⟨entries, _⟩ all => all
  · refine (leaves_openCollection accounts (all.drop 1) _ _ _).bind fun ⟨number, _⟩ all => ?_
    refine (leave.dashes _ _ _ all).bind fun ⟨items, _⟩ all => ?_
    refine (next_yields accounts all).bind fun ending _ => ?_
    split
    · exact accounts.malformed
    · exact all.drop 1
  · refine (leaves_openCollection accounts (all.drop 1) _ _ _).bind fun ⟨number, _⟩ all => ?_
    exact (leave.blockMapping _ _ all).bind fun ⟨entries, _⟩ all => all
  · split
    · exact accounts.malformed
    · exact scalar _ _ all

/-- A node that may be missing leaves tokens of the sort behind if nodes do. -/
theorem leaves_readOptional (ends : Token → Bool) (position : Position)
    (all : AllOf good reading.lexemes) :
    Leaves allowed good (readOptional handles (steps + 1) ends position reading) := by
  rw [readOptional]
  refine (next_yields accounts all).bind fun lexeme _ => ?_
  split
  · exact leaves_missing accounts all
  · exact leave.node position reading all

/-- The elements behind dashes leave tokens of the sort behind if nodes do. -/
theorem leaves_readDashes (ends : Token → Bool) (items : List Node)
    (all : AllOf good reading.lexemes) :
    Leaves allowed good (readDashes handles (steps + 1) ends items reading) := by
  rw [readDashes]
  refine (next_yields accounts all).bind fun lexeme _ => ?_
  split
  · exact (leave.optional _ _ _ (all.drop 1)).bind fun ⟨item, _⟩ all => leave.dashes _ _ _ all
  · exact all

/-- A value leaves tokens of the sort behind if nodes do. -/
theorem leaves_readValue (ends : Token → Bool) (position : Position)
    (all : AllOf good reading.lexemes) :
    Leaves allowed good (readValue handles (steps + 1) ends position reading) := by
  rw [readValue]
  refine (next_yields accounts all).bind fun lexeme _ => ?_
  split
  · exact leave.optional _ _ _ (all.drop 1)
  · exact leaves_missing accounts all

/-- The entries of a block mapping leave tokens of the sort behind if their keys and values do. -/
theorem leaves_readBlockMapping (entries : List (Node × Node))
    (all : AllOf good reading.lexemes) :
    Leaves allowed good (readBlockMapping handles (steps + 1) entries reading) := by
  rw [readBlockMapping]
  refine (next_yields accounts all).bind fun lexeme _ => ?_
  split
  · refine (leave.optional _ _ _ (all.drop 1)).bind fun ⟨key, _⟩ all => ?_
    exact (leave.value _ _ _ all).bind fun ⟨value, _⟩ all => leave.blockMapping _ _ all
  · split
    · exact accounts.malformed
    · refine (leaves_missing accounts all).bind fun ⟨key, _⟩ all => ?_
      exact (leave.value _ _ _ all).bind fun ⟨value, _⟩ all => leave.blockMapping _ _ all
  · exact all.drop 1
  · exact accounts.malformed

omit accounts

/-- An entry within a flow collection leaves tokens of the sort behind if its key and its value do.
-/
theorem leaves_readFlowEntry (ends : Token → Bool) (all : AllOf good reading.lexemes) :
    Leaves allowed good (readFlowEntry handles (steps + 1) ends reading) := by
  rw [readFlowEntry]
  refine (leave.optional _ _ _ all).bind fun ⟨key, _⟩ all => ?_
  exact (leave.value _ _ _ all).bind fun ⟨value, _⟩ all => all

include accounts

/-- The elements of a flow list leave tokens of the sort behind if nodes and entries do. -/
theorem leaves_readFlowList (first : Bool) (items : List Node)
    (all : AllOf good reading.lexemes) :
    Leaves allowed good (readFlowList handles (steps + 1) first items reading) := by
  rw [readFlowList]
  refine (toFlowEntry_yields accounts all _ _).bind fun entry all => ?_
  refine (next_yields accounts all).bind fun lexeme _ => ?_
  split
  · exact all.drop 1
  · refine (leaves_openCollection accounts (all.drop 1) _ _ _).bind fun ⟨number, _⟩ all => ?_
    exact (leave.flowEntry _ _ all).bind fun ⟨entry, _⟩ all => leave.flowList _ _ _ all
  · exact (leave.node _ _ all).bind fun ⟨item, _⟩ all => leave.flowList _ _ _ all

/-- The entries of a flow mapping leave tokens of the sort behind if their keys and values do. -/
theorem leaves_readFlowMapping (first : Bool) (entries : List (Node × Node))
    (all : AllOf good reading.lexemes) :
    Leaves allowed good (readFlowMapping handles (steps + 1) first entries reading) := by
  rw [readFlowMapping]
  refine (toFlowEntry_yields accounts all _ _).bind fun entry all => ?_
  refine (next_yields accounts all).bind fun lexeme _ => ?_
  split
  · exact all.drop 1
  · exact (leave.flowEntry _ _ (all.drop 1)).bind fun ⟨entry, _⟩ all =>
      leave.flowMapping _ _ _ all
  · split
    · exact accounts.malformed
    · refine (leaves_missing accounts all).bind fun ⟨key, _⟩ all => ?_
      exact (leave.value _ _ _ all).bind fun ⟨value, _⟩ all => leave.flowMapping _ _ _ all
  · refine (leave.node _ _ all).bind fun ⟨key, _⟩ all => ?_
    exact (leaves_missing accounts all).bind fun ⟨value, _⟩ all => leave.flowMapping _ _ _ all

omit leave

/-- All readers leave tokens of the sort behind, whatever the bound on the number of steps. -/
theorem readersLeave (handles : Handles) (steps : Nat) :
    ReadersLeave allowed good handles steps := by
  induction steps with
  | zero => constructor <;> intros <;> exact accounts.malformed
  | succ steps leave =>
    exact
      { node := fun position _ all => leaves_readNode accounts leave position all
        content := fun position properties _ all =>
          leaves_readContent accounts leave position properties all
        optional := fun ends position _ all => leaves_readOptional accounts leave ends position all
        dashes := fun ends items _ all => leaves_readDashes accounts leave ends items all
        value := fun ends position _ all => leaves_readValue accounts leave ends position all
        blockMapping := fun entries _ all => leaves_readBlockMapping accounts leave entries all
        flowEntry := fun ends _ all => leaves_readFlowEntry leave ends all
        flowList := fun first items _ all => leaves_readFlowList accounts leave first items all
        flowMapping := fun first entries _ all =>
          leaves_readFlowMapping accounts leave first entries all }

end Reading

/-! ## Documents -/

/-- A document leaves tokens of a sort behind, and its dialect is that of such a token. -/
structure Section.IsLeaving (good : Lexeme → Prop) (found : Section) : Prop where
  /-- The tokens behind it are of the sort. -/
  rest : AllOf good found.rest
  /-- Its dialect is that of a token of the sort. -/
  dialect : ∃ lexeme, good lexeme ∧ found.dialect = lexeme.dialect

variable {lexemes : List Lexeme} (accounts : AccountsFor good allowed)

include accounts

/-- The first token is of the sort. -/
theorem headLexeme_yields (all : AllOf good lexemes) :
    Yields allowed good (headLexeme lexemes) := by
  rw [headLexeme]
  exact Reading.next_yields accounts all

/-- A document leaves tokens of the sort behind. -/
theorem readSection_yields (all : AllOf good lexemes) (handles : Handles) (mayBeEmpty : Bool) :
    Yields allowed (Section.IsLeaving good) (readSection handles mayBeEmpty lexemes) := by
  -- Whether the root is missing or read, what is left to do is the same.
  have either {ends : Bool} {use : Node × Reading → Except Defect Section}
      (later : ∀ found, AllOf good found.2.lexemes →
        Yields allowed (Section.IsLeaving good) (use found)) :
      Yields allowed (Section.IsLeaving good)
        (if ends then ({ lexemes } : Reading).missing >>= use
        else readRoot handles lexemes >>= use) := by
    split
    · exact (Reading.leaves_missing accounts all).bind later
    · exact ((Reading.readersLeave accounts _ _).node _ _ all).bind later
  rw [readSection]
  refine (headLexeme_yields accounts all).bind fun _ _ => either fun found all => ?_
  obtain ⟨root, reading⟩ := found
  refine (Reading.next_yields accounts all).bind fun behind is => ?_
  dsimp only
  split
  · exact ⟨all, behind, is, rfl⟩
  · split
    · exact ⟨all.drop 1, behind, is, rfl⟩
    · refine (headLexeme_yields accounts (all.drop 1)).bind fun after isAfter => ?_
      split
      · exact accounts.malformed
      · exact ⟨all.drop 1, after, isAfter, rfl⟩

/-- Directives leave tokens of the sort behind. -/
theorem readPreamble_yields (all : AllOf good lexemes) (preamble : Preamble) :
    Yields allowed (fun found => AllOf good found.2) (readPreamble preamble lexemes) := by
  induction lexemes generalizing preamble with
  | nil => exact accounts.malformed
  | cons lexeme rest ih =>
    have is : good lexeme := all lexeme List.mem_cons_self
    rw [readPreamble]
    split
    · rename_i directive _
      have added : Yields allowed (fun _ => True) (preamble.add directive) := by
        unfold Preamble.add
        repeat' split
        all_goals first | exact accounts.malformed | exact trivial
      exact added.bind fun found _ => ih (all.drop 1) found
    · rename_i cause isDefect
      exact accounts.defect lexeme is cause isDefect
    · exact all

omit accounts

/-- Markers at the end of documents are followed by tokens of the sort. -/
theorem skipEnds_all (all : AllOf good lexemes) : AllOf good (skipEnds lexemes) :=
  fun lexeme member => all lexeme ((List.dropWhile_sublist _).subset member)

end PodLaunch.Yaml
