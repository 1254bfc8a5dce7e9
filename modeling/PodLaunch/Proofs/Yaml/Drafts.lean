import Mathlib.Data.List.Forall2
import PodLaunch.Yaml.Denotation

/-!
# The drafts of lists and mappings

What a list or a mapping of a profile turns into can be said before anything is built: it depends on
what is written alone. This covers lists and mappings whose keys are different texts. It is shown
that filling them yields what is said, and that nothing else is filled or begun in the end.
-/

namespace PodLaunch.Yaml

open Building

/-- A node denotes a part: a scalar is complete, a list or a mapping is built under its number. -/
inductive IsPart (collections : Collections) : Node → Part → Prop where
  /-- A scalar. -/
  | scalar {kind : ScalarKind} {text : String} {document : Document}
    (value : scalarDocument .profile kind text = .ok document) :
    IsPart collections (.scalar (.scalar kind) text) (.done document)
  /-- A list or a mapping. -/
  | collection {number : Nat}
    (meant : (Node.collection number).meaning collections = .list ∨
      (Node.collection number).meaning collections = .mapping) :
    IsPart collections (.collection number) (.collection number)

/-- An entry with a text as its key denotes the text and a part. -/
def IsEntry (collections : Collections) (entry : Node × Node) (found : Document × Part) : Prop :=
  ∃ key, entry.1 = .scalar (.scalar .text) key ∧ found.1 = .text key ∧
    IsPart collections entry.2 found.2

/-- What a list or a mapping is filled with. -/
inductive IsDraft (collections : Collections) (number : Nat) : Draft → Prop where
  /-- The elements of a list. -/
  | list {items : List Node} {parts : List Part}
    (written : collections[number]? = some ⟨.list, .items items⟩)
    (each : List.Forall₂ (IsPart collections) items parts) :
    IsDraft collections number (.list parts)
  /-- The entries of a mapping, under different keys. -/
  | mapping {entries : List (Node × Node)} {found : List (Document × Part)}
    (written : collections[number]? = some ⟨.mapping, .entries entries false⟩)
    (each : List.Forall₂ (IsEntry collections) entries found)
    (distinct : (found.map Prod.fst).Nodup) :
    IsDraft collections number (.mapping found)

/-- The parts of a draft. -/
def Draft.parts : Draft → List Part
  | .list parts => parts
  | .mapping entries | .ordered entries => entries.map Prod.snd
  | .set _ => []
  | .pairs found => found.flatMap fun pair => [pair.1, pair.2]

variable {collections : Collections} {number : Nat}

/-- A node denotes one part. -/
theorem rightUnique_isPart : Relator.RightUnique (IsPart collections) := by
  intro node one other first second
  cases first with
  | scalar value =>
    cases second with
    | scalar same =>
      rw [value] at same
      cases same
      rfl
  | collection => cases second with | collection => rfl

/-- An entry denotes one text and one part. -/
theorem rightUnique_isEntry : Relator.RightUnique (IsEntry collections) := by
  rintro ⟨keyNode, value⟩ ⟨_, onePart⟩ ⟨_, otherPart⟩ ⟨key, isText, rfl, first⟩
    ⟨sameKey, same, rfl, second⟩
  dsimp only at isText same
  rw [isText] at same
  cases same
  exact congrArg (Prod.mk _) (rightUnique_isPart first second)

/-- A list or a mapping is filled in one way. -/
theorem IsDraft.unique {one other : Draft} (first : IsDraft collections number one)
    (second : IsDraft collections number other) : one = other := by
  cases first with
  | list written each =>
    cases second with
    | list same eachOther =>
      rw [written] at same
      cases same
      rw [List.right_unique_forall₂' rightUnique_isPart each eachOther]
    | mapping same =>
      rw [written] at same
      cases same
  | mapping written each =>
    cases second with
    | list same =>
      rw [written] at same
      cases same
    | mapping same eachOther =>
      rw [written] at same
      cases same
      rw [List.right_unique_forall₂' rightUnique_isEntry each eachOther]

/-! ## Merge keys -/

/-- No entry of a mapping whose keys are texts has a merge key. -/
theorem splitAtMerge?_eq_none {entries : List (Node × Node)} {found : List (Document × Part)}
    (each : List.Forall₂ (IsEntry collections) entries found) :
    splitAtMerge? collections entries = none ∧ entries.map withTextKey = entries := by
  induction each with
  | nil => exact ⟨rfl, rfl⟩
  | cons one _ ih =>
    obtain ⟨key, isText, _⟩ := one
    rename_i entry _ _ _ _ _
    obtain ⟨keyNode, value⟩ := entry
    dsimp only at isText
    subst isText
    refine ⟨?_, ?_⟩
    · rw [splitAtMerge?, ih.1]
      rfl
    · rw [List.map_cons, ih.2]
      rfl

/-- Setting a collection to itself changes nothing. -/
theorem modify_self {collection : Collection} (written : collections[number]? = some collection)
    (change : Collection → Collection) (same : change collection = collection) :
    collections.modify number change = collections := by
  apply Array.ext_getElem?
  intro index
  rw [Array.getElem?_modify]
  split
  · rename_i here
    rw [← here, written, Option.map_some, same]
  · rfl

/-- A mapping whose keys are texts stays as it is when merge keys are taken away. -/
theorem withoutMergeKeys_eq {entries : List (Node × Node)} {found : List (Document × Part)}
    (written : collections[number]? = some ⟨.mapping, .entries entries false⟩)
    (each : List.Forall₂ (IsEntry collections) entries found) (dialect : Dialect) :
    withoutMergeKeys dialect number collections = .ok collections := by
  obtain ⟨noMerge, textKeys⟩ := splitAtMerge?_eq_none each
  have content :
      Node.content? collections (.collection number) = some (.entries entries false) := by
    rw [Node.content?, written]
    rfl
  rw [withoutMergeKeys, takeMerged, content]
  dsimp only
  rw [noMerge]
  dsimp only
  rw [textKeys, List.nil_append, setEntries]
  exact congrArg Except.ok (modify_self written _ rfl)

end PodLaunch.Yaml
