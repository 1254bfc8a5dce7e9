import PodLaunch.Proofs.Yaml.Drafts

/-!
# Filling what waits

Lists and mappings are begun where they are met and filled when their turn comes. Whatever has been
begun waits, is being filled at this time, or is filled with what is written; and there is less to
be filled after each turn.
-/

namespace PodLaunch.Yaml.Building

/-- What is being built agrees with what is written, apart from lists and mappings that are being
filled. -/
structure Agrees (collections : Collections) (busy : List Nat) (building : Building) : Prop where
  /-- The dialect is that of profiles. -/
  isProfile : building.dialect = .profile
  /-- What is written has not changed. -/
  sameCollections : building.collections = collections
  /-- Each list or mapping has a place for its draft. -/
  size : building.drafts.size = collections.size
  /-- What waits is a list or a mapping. -/
  waits : ∀ node ∈ building.waiting, ∃ number, node = .collection number ∧
    number < collections.size
  /-- What has been begun and does not wait is filled, and all its parts have been begun. -/
  filled : ∀ number draft, building.draft? number = some draft →
    number ∈ busy ∨ .collection number ∈ building.waiting ∨
      IsDraft collections number draft ∧
        ∀ inner, .collection inner ∈ draft.parts → (building.draft? inner).isSome

/-- The number of lists and mappings that are still to be filled. -/
def toFill (building : Building) : Nat :=
  building.drafts.toList.countP Option.isNone + building.waiting.length

/-- What has been begun stays begun, and there is not more to be filled. -/
structure Continues (earlier later : Building) : Prop where
  /-- Nothing that has been begun is given up. -/
  begun : ∀ number, (earlier.draft? number).isSome → (later.draft? number).isSome
  /-- There is not more to be filled. -/
  work : later.toFill ≤ earlier.toFill

/-- A building continues itself. -/
theorem Continues.refl (building : Building) : Continues building building :=
  ⟨fun _ begun => begun, Nat.le_refl _⟩

/-- What continues a continuation continues the beginning. -/
theorem Continues.trans {first second third : Building} (one : Continues first second)
    (other : Continues second third) : Continues first third :=
  ⟨fun number begun => other.begun number (one.begun number begun),
    Nat.le_trans other.work one.work⟩

variable {collections : Collections} {busy : List Nat} {building : Building} {number : Nat}

/-! ## Drafts -/

/-- The draft that is set is found, and the others stay. -/
theorem draft?_setDraft (inside : number < building.drafts.size) (draft : Draft) (other : Nat) :
    (building.setDraft number draft).draft? other =
      if number = other then some draft else building.draft? other := by
  rw [draft?, setDraft, draft?, Array.getElem?_setIfInBounds]
  split
  · rfl
  · rfl

/-- Setting a draft begins it. -/
theorem isSome_draft?_setDraft (inside : number < building.drafts.size) (draft : Draft)
    (other : Nat) (begun : (building.draft? other).isSome) :
    ((building.setDraft number draft).draft? other).isSome := by
  rw [draft?_setDraft inside]
  split
  · rfl
  · exact begun

/-- A draft that is set no longer counts as missing. -/
theorem countP_setDraft (inside : number < building.drafts.size) (draft : Draft) :
    (building.setDraft number draft).drafts.toList.countP Option.isNone =
      building.drafts.toList.countP Option.isNone -
        (if (building.draft? number).isNone then 1 else 0) := by
  have found : building.draft? number = building.drafts.toList[number] := by
    rw [draft?, Array.getElem?_eq_getElem inside]
    rfl
  rw [setDraft, Array.toList_setIfInBounds, List.countP_set inside, found]
  simp

/-- What is missing is counted. -/
theorem countP_pos (inside : number < building.drafts.size)
    (missing : building.draft? number = none) :
    0 < building.drafts.toList.countP Option.isNone := by
  rw [List.countP_pos_iff]
  refine ⟨building.drafts[number], Array.getElem_mem_toList inside, ?_⟩
  rw [draft?, Array.getElem?_eq_getElem inside] at missing
  rw [show building.drafts[number] = none from missing]
  rfl

/-! ## Beginning -/

/-- A list or a mapping is within what is written. -/
theorem lt_size_of_meaning
    (meant : (Node.collection number).meaning collections = .list ∨
      (Node.collection number).meaning collections = .mapping) : number < collections.size := by
  rcases Nat.lt_or_ge number collections.size with inside | outside
  · exact inside
  · have nothing : (Node.collection number).meaning collections = .unknown := by
      rw [Node.meaning, Array.getElem?_eq_none outside]
      rfl
    rw [nothing] at meant
    rcases meant with list | mapping <;> contradiction

/-- A list or a mapping that has not been begun is begun, and waits. -/
theorem later_missing (agrees : Agrees collections busy building)
    (meant : (Node.collection number).meaning collections = .list ∨
      (Node.collection number).meaning collections = .mapping)
    (missing : building.draft? number = none) :
    ∃ empty, later (.collection number) building =
      .ok (.collection number, { building.setDraft number empty with
        waiting := building.waiting ++ [.collection number] }) := by
  rw [← agrees.sameCollections] at meant
  rcases meant with list | mapping
  · refine ⟨.list [], ?_⟩
    simp only [later, begin, missing, list]
    rfl
  · refine ⟨.mapping [], ?_⟩
    simp only [later, begin, missing, mapping]
    rfl

/-- A list or a mapping that has been begun is taken as it is. -/
theorem later_begun {draft : Draft} (begun : building.draft? number = some draft) :
    later (.collection number) building = .ok (.collection number, building) := by
  simp only [later, begin, begun]
  rfl

/-- What has not been begun is begun in agreement with what is written. -/
theorem Agrees.waitFor (agrees : Agrees collections busy building)
    (inside : number < collections.size) (missing : building.draft? number = none)
    (empty : Draft) :
    Agrees collections busy { building.setDraft number empty with
        waiting := building.waiting ++ [.collection number] } ∧
      Continues building { building.setDraft number empty with
        waiting := building.waiting ++ [.collection number] } := by
  have room : number < building.drafts.size := by rw [agrees.size]; exact inside
  have found (other : Nat) : ({ building.setDraft number empty with
      waiting := building.waiting ++ [.collection number] } : Building).draft? other =
      if number = other then some empty else building.draft? other :=
    draft?_setDraft room empty other
  refine ⟨⟨agrees.isProfile, agrees.sameCollections, ?_, ?_, ?_⟩, ?_, ?_⟩
  · exact Array.size_setIfInBounds.trans agrees.size
  · intro node member
    rcases List.mem_append.1 member with earlier | last
    · exact agrees.waits node earlier
    · exact ⟨number, List.mem_singleton.1 last, inside⟩
  · intro other draft begun
    rw [found] at begun
    split at begun
    · rename_i here
      rw [← here]
      exact Or.inr (Or.inl (List.mem_append_right _ List.mem_cons_self))
    · rcases agrees.filled other draft begun with still | waits | ⟨isDraft, inner⟩
      · exact Or.inl still
      · exact Or.inr (Or.inl (List.mem_append_left _ waits))
      · exact Or.inr (Or.inr ⟨isDraft, fun part member =>
          isSome_draft?_setDraft room empty part (inner part member)⟩)
  · exact isSome_draft?_setDraft room empty
  · have counted := countP_setDraft room empty
    have positive := countP_pos room missing
    rw [missing] at counted
    simp only [Option.isNone_none, ↓reduceIte] at counted
    simp only [toFill, counted, List.length_append, List.length_singleton]
    omega

/-- A node is built as its part: it is complete, or it has been begun. -/
theorem later_isPart {node : Node} {part : Part} (agrees : Agrees collections busy building)
    (isPart : IsPart collections node part) :
    ∃ built, later node building = .ok (part, built) ∧ Agrees collections busy built ∧
      Continues building built ∧
      ∀ inner, part = .collection inner → (built.draft? inner).isSome := by
  cases isPart with
  | @scalar kind text document value =>
    refine ⟨building, ?_, agrees, .refl building, by simp⟩
    have scalar : building.scalar kind (.scalar (.scalar kind) text) = .ok document := by
      rw [← value, ← agrees.isProfile]
      cases kind <;> rfl
    simp only [later, begin, Node.meaning, scalar]
    rfl
  | @collection number meant =>
    cases begun : building.draft? number with
    | some draft =>
      refine ⟨building, later_begun begun, agrees, .refl building, fun inner same => ?_⟩
      cases same
      rw [begun]
      rfl
    | none =>
      obtain ⟨empty, built⟩ := later_missing agrees meant begun
      have inside := lt_size_of_meaning meant
      obtain ⟨stillAgrees, continues⟩ := agrees.waitFor inside begun empty
      refine ⟨_, built, stillAgrees, continues, fun inner same => ?_⟩
      cases same
      have found := draft?_setDraft (show number < building.drafts.size by
        rw [agrees.size]; exact inside) empty number
      rw [if_pos rfl] at found
      exact Option.isSome_of_eq_some found

/-! ## Elements and entries -/

/-- Nodes are built as their parts, one after the other. -/
theorem parts_isPart {items : List Node} {found : List Part}
    (each : List.Forall₂ (IsPart collections) items found)
    (agrees : Agrees collections busy building) :
    ∃ built, parts later items building = .ok (found, built) ∧ Agrees collections busy built ∧
      Continues building built ∧
      ∀ inner, .collection inner ∈ found → (built.draft? inner).isSome := by
  induction each generalizing building with
  | nil => exact ⟨building, rfl, agrees, .refl building, by simp⟩
  | @cons node part items found isPart _ ih =>
    obtain ⟨between, first, agreesBetween, continuesFirst, begunFirst⟩ := later_isPart agrees isPart
    obtain ⟨built, rest, agreesBuilt, continuesRest, begunRest⟩ := ih agreesBetween
    refine ⟨built, ?_, agreesBuilt, continuesFirst.trans continuesRest, ?_⟩
    · simp only [parts, first]
      change (parts later items between >>= _) = _
      rw [rest]
      rfl
    · intro inner member
      rcases List.mem_cons.1 member with here | later
      · exact continuesRest.begun inner (begunFirst inner here.symm)
      · exact begunRest inner later

/-- An entry under a new key comes last. -/
theorem addEntry_eq_append {earlier : List (Document × Part)} {key : Document}
    (new : ∀ entry ∈ earlier, entry.1.sameKey key = false) (value : Part) :
    addEntry earlier key value = earlier ++ [(key, value)] := by
  induction earlier with
  | nil => rfl
  | cons entry earlier ih =>
    rw [addEntry, new entry List.mem_cons_self, if_neg Bool.false_ne_true,
      ih fun other member => new other (List.mem_cons_of_mem _ member)]
    rfl

/-- Different texts are different keys. -/
theorem sameKey_text_eq_false {entry : Document} {key : String} (isText : ∃ s, entry = .text s)
    (different : entry ≠ .text key) : entry.sameKey (.text key) = false := by
  obtain ⟨s, rfl⟩ := isText
  have other : s ≠ key := fun same => different (congrArg Document.text same)
  rw [Document.sameKey]
  exact beq_eq_false_iff_ne.2 other

/-- A key of a profile that is a text is complete. -/
theorem keyPart_text (isProfile : building.dialect = .profile) (key : String) :
    keyPart (.scalar (.scalar .text) key) building = .ok (.done (.text key), building) := by
  rw [keyPart, isProfile]
  rfl

/-- Entries are built as their texts and parts, behind earlier ones. -/
theorem entries_isEntry {own : List (Node × Node)} {found earlier : List (Document × Part)}
    (each : List.Forall₂ (IsEntry collections) own found)
    (agrees : Agrees collections busy building)
    (texts : ∀ entry ∈ earlier, ∃ s, entry.1 = .text s)
    (distinct : ((earlier ++ found).map Prod.fst).Nodup) :
    ∃ built, entries keyPart later false earlier own building = .ok (earlier ++ found, built) ∧
      Agrees collections busy built ∧ Continues building built ∧
      ∀ inner, .collection inner ∈ found.map Prod.snd → (built.draft? inner).isSome := by
  induction each generalizing building earlier with
  | nil =>
    rw [List.append_nil]
    exact ⟨building, rfl, agrees, .refl building, by simp⟩
  | @cons entry one own found isEntry _ ih =>
    obtain ⟨keyNode, valueNode⟩ := entry
    obtain ⟨document, part⟩ := one
    obtain ⟨key, isText, rfl, isPart⟩ := isEntry
    dsimp only at isText isPart
    subst isText
    obtain ⟨between, first, agreesBetween, continuesFirst, begunFirst⟩ := later_isPart agrees isPart
    have new : ∀ entry ∈ earlier, entry.1.sameKey (.text key) = false := by
      intro entry member
      refine sameKey_text_eq_false (texts entry member) fun same => ?_
      rw [List.map_append, List.map_cons] at distinct
      exact (List.nodup_append.1 distinct).2.2 _ (List.mem_map_of_mem member) _ List.mem_cons_self
        same
    have rest := @ih between (earlier ++ [(.text key, part)]) agreesBetween
      (by simpa [or_imp, forall_and] using texts) (by simpa using distinct)
    obtain ⟨built, restBuilt, agreesBuilt, continuesRest, begunRest⟩ := rest
    refine ⟨built, ?_, agreesBuilt, continuesFirst.trans continuesRest, ?_⟩
    · rw [entries, keyPart_text agrees.isProfile]
      change (later valueNode building >>= _) = _
      rw [first]
      change (if (!between.dialect.isProfile && !false) = true then _ else _) = _
      rw [agreesBetween.isProfile, if_neg (by decide)]
      rw [addEntry_eq_append new, restBuilt, List.append_assoc]
      rfl
    · intro inner member
      rcases List.mem_cons.1 member with here | later
      · exact continuesRest.begun inner (begunFirst inner here.symm)
      · exact begunRest inner later

/-! ## Turns -/

/-- A list or a mapping whose turn has come is being filled. -/
theorem Agrees.takeTurn {waiting : List Node} (agrees : Agrees collections [] building)
    (turn : building.waiting = .collection number :: waiting) :
    Agrees collections [number] { building with waiting } := by
  refine ⟨agrees.isProfile, agrees.sameCollections, agrees.size, fun node member => ?_,
    fun other draft begun => ?_⟩
  · exact agrees.waits node (by rw [turn]; exact List.mem_cons_of_mem _ member)
  · rcases agrees.filled other draft begun with still | waits | filled
    · cases still
    · rw [turn] at waits
      rcases List.mem_cons.1 waits with here | later
      · cases here
        exact Or.inl List.mem_cons_self
      · exact Or.inr (Or.inl later)
    · exact Or.inr (Or.inr filled)

/-- A list or a mapping that has been filled agrees with what is written. -/
theorem Agrees.fillDraft {draft : Draft} (agrees : Agrees collections [number] building)
    (isDraft : IsDraft collections number draft) (inside : number < collections.size)
    (begun : ∀ inner, .collection inner ∈ draft.parts → (building.draft? inner).isSome) :
    Agrees collections [] (building.setDraft number draft) ∧
      Continues building (building.setDraft number draft) := by
  have room : number < building.drafts.size := by rw [agrees.size]; exact inside
  refine ⟨⟨agrees.isProfile, agrees.sameCollections, ?_, agrees.waits, ?_⟩,
    isSome_draft?_setDraft room draft, ?_⟩
  · exact Array.size_setIfInBounds.trans agrees.size
  · intro other found isFound
    rw [draft?_setDraft room] at isFound
    split at isFound
    · rename_i here
      cases isFound
      rw [← here]
      exact Or.inr (Or.inr ⟨isDraft, fun inner member =>
        isSome_draft?_setDraft room draft inner (begun inner member)⟩)
    · rename_i elsewhere
      rcases agrees.filled other found isFound with still | waits | ⟨isFilled, inner⟩
      · exact absurd (List.mem_singleton.1 still).symm elsewhere
      · exact Or.inr (Or.inl waits)
      · exact Or.inr (Or.inr ⟨isFilled, fun part member =>
          isSome_draft?_setDraft room draft part (inner part member)⟩)
  · have counted := countP_setDraft room draft
    have waits : (building.setDraft number draft).waiting = building.waiting := rfl
    simp only [toFill, counted, waits]
    omega

/-- A list or a mapping is filled as what it is meant to be. -/
theorem fill_eq {meaning : Meaning} {content : Content} {empty : Draft}
    {keyPart part : Node → Building → Except Defect (Part × Building)}
    (written : building.collections[number]? = some ⟨meaning, content⟩)
    (meant : meaning.draft? building.dialect = some empty) :
    fill keyPart part (.collection number) building =
      (filled keyPart part number empty content building).map fun found =>
        found.2.setDraft number found.1 := by
  simp only [fill, Node.meaning, Node.content?, written, Option.map_some, Option.getD_some, meant,
    orMalformed, bind, Except.bind]
  cases filled keyPart part number empty content building <;> rfl

/-- What is written can be filled at its turn. -/
theorem fill_isDraft {draft : Draft} (agrees : Agrees collections [number] building)
    (isDraft : IsDraft collections number draft) :
    ∃ built, fill keyPart later (.collection number) building = .ok built ∧
      Agrees collections [] built ∧ Continues building built := by
  have same := agrees.sameCollections
  cases isDraft with
  | @list items found written each =>
    have inside : number < collections.size := (Array.getElem?_eq_some_iff.1 written).1
    obtain ⟨between, built, agreesBetween, continues, begun⟩ := parts_isPart each agrees
    obtain ⟨agreesFilled, continuesFilled⟩ :=
      agreesBetween.fillDraft (.list written each) inside begun
    refine ⟨_, ?_, agreesFilled, continues.trans continuesFilled⟩
    rw [fill_eq (by rw [same, written]) rfl, filled, built]
    rfl
  | @mapping own found written each distinct =>
    have inside : number < collections.size := (Array.getElem?_eq_some_iff.1 written).1
    obtain ⟨between, built, agreesBetween, continues, begun⟩ :=
      @entries_isEntry collections [number] building own found [] each agrees
        (List.forall_mem_nil _) distinct
    obtain ⟨agreesFilled, continuesFilled⟩ :=
      agreesBetween.fillDraft (.mapping written each distinct) inside begun
    refine ⟨_, ?_, agreesFilled, continues.trans continuesFilled⟩
    have unmerged := withoutMergeKeys_eq written each building.dialect
    have unchanged : { building with collections } = building := by rw [← same]
    have entriesBuilt : ownEntries keyPart later number building = .ok ([] ++ found, between) := by
      simp only [ownEntries, same, unmerged, bind, Except.bind, Node.content?, written,
        Option.map_some, unchanged, built]
    rw [fill_eq (by rw [same, written]) rfl, filled, entriesBuilt]
    rfl

/-- Whatever waits is filled in the end. -/
theorem fillWaiting_agrees {steps : Nat} (all : ∀ number < collections.size,
      ∃ draft, IsDraft collections number draft)
    (agrees : Agrees collections [] building) (enough : building.toFill < steps) :
    ∃ built, fillWaiting steps building = .ok built ∧ built.waiting = [] ∧
      Agrees collections [] built ∧
      ∀ number, (building.draft? number).isSome → (built.draft? number).isSome := by
  induction steps generalizing building with
  | zero => cases enough
  | succ steps ih =>
    cases turn : building.waiting with
    | nil =>
      refine ⟨building, ?_, turn, agrees, fun _ begun => begun⟩
      rw [fillWaiting, turn]
    | cons node waiting =>
      obtain ⟨number, rfl, inside⟩ := agrees.waits node (by rw [turn]; exact List.mem_cons_self)
      obtain ⟨draft, isDraft⟩ := all number inside
      obtain ⟨between, filled, agreesBetween, continues⟩ :=
        fill_isDraft (agrees.takeTurn turn) isDraft
      have less : between.toFill < steps := by
        have work := continues.work
        simp only [toFill, turn, List.length_cons] at work enough ⊢
        omega
      obtain ⟨built, rest, done, agreesBuilt, begun⟩ := ih agreesBetween less
      refine ⟨built, ?_, done, agreesBuilt, fun other before =>
        begun other (continues.begun other before)⟩
      rw [fillWaiting, turn]
      change (fill keyPart later (.collection number) { building with waiting } >>= _) = _
      rw [filled]
      exact rest

end PodLaunch.Yaml.Building
