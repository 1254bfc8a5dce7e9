import PodLaunch.Proofs.Yaml.Filling

/-!
# Documents that are put together

A document follows from what is written if every list or mapping comes in front of those that it
holds. This is the document that a profile denotes.
-/

namespace PodLaunch.Yaml

/-- A part stands for a document. -/
inductive IsDocument (collections : Collections) : Part → Document → Prop where
  /-- A document that is complete. -/
  | done (document : Document) : IsDocument collections (.done document) document
  /-- A list in front of what it holds. -/
  | list {number : Nat} {parts : List Part} {documents : List Document}
    (isDraft : IsDraft collections number (.list parts))
    (behind : ∀ inner, .collection inner ∈ parts → number < inner)
    (each : List.Forall₂ (IsDocument collections) parts documents) :
    IsDocument collections (.collection number) (.list documents)
  /-- A mapping in front of what it holds. -/
  | mapping {number : Nat} {entries : List (Document × Part)} {documents : List Document}
    (isDraft : IsDraft collections number (.mapping entries))
    (behind : ∀ inner, .collection inner ∈ entries.map Prod.snd → number < inner)
    (each : List.Forall₂ (IsDocument collections) (entries.map Prod.snd) documents) :
    IsDocument collections (.collection number) (.mapping ((entries.map Prod.fst).zip documents))

namespace Building

variable {collections : Collections} {building : Building}

/-- Documents that are put together without marks. -/
theorem map_eq_of_forall₂ {parts : List Part} {documents : List Document}
    {assemble : Part → Document × Marks}
    (each : List.Forall₂ (fun part document => assemble part = (document, [])) parts documents) :
    (parts.map assemble).map (·.1) = documents ∧ (parts.map assemble).flatMap (·.2) = [] := by
  induction each with
  | nil => exact ⟨rfl, rfl⟩
  | cons one _ ih =>
    simp only [List.map_cons, List.flatMap_cons, one, ih.1, ih.2, List.append_nil, and_self]

/-- A draft that has been begun is what is written, once nothing waits. -/
theorem Agrees.draft?_eq (agrees : Agrees collections [] building) (done : building.waiting = [])
    {number : Nat} {draft : Draft} (isDraft : IsDraft collections number draft)
    (begun : (building.draft? number).isSome) :
    building.draft? number = some draft ∧
      ∀ inner, .collection inner ∈ draft.parts → (building.draft? inner).isSome := by
  obtain ⟨found, isFound⟩ := Option.isSome_iff_exists.1 begun
  rcases agrees.filled number found isFound with busy | waits | ⟨isFilled, inner⟩
  · cases busy
  · rw [done] at waits
    cases waits
  · rw [isDraft.unique isFilled]
    exact ⟨isFound, inner⟩

/-- What has been begun is within what is written. -/
theorem Agrees.lt_size (agrees : Agrees collections [] building) {number : Nat}
    (begun : (building.draft? number).isSome) : number < collections.size := by
  rcases Nat.lt_or_ge number collections.size with inside | outside
  · exact inside
  · rw [← agrees.size] at outside
    rw [draft?, Array.getElem?_eq_none outside] at begun
    cases begun

/-- What has been filled is put together to its document. -/
theorem assemble_isDocument (agrees : Agrees collections [] building)
    (done : building.waiting = []) {part : Part} {document : Document}
    (isDocument : IsDocument collections part document) {steps : Nat} {around : Marks}
    (begun : ∀ number, part = .collection number → (building.draft? number).isSome ∧
      collections.size < number + steps ∧ ∀ mark ∈ around, mark < number) :
    building.assemble steps around part = (document, []) := by
  induction steps generalizing part document around with
  | zero =>
    cases part with
    | done found =>
      cases isDocument
      rfl
    | collection number =>
      obtain ⟨isBegun, far, _⟩ := begun number rfl
      exact absurd (agrees.lt_size isBegun) (Nat.not_lt_of_gt far)
  | succ steps ih =>
    have outside {number : Nat} (far : ∀ mark ∈ around, mark < number) :
        around.contains number = false := by
      rw [← Bool.not_eq_true, List.contains_iff_mem]
      exact fun member => Nat.lt_irrefl number (far number member)
    have inner {number : Nat} (far : collections.size < number + (steps + 1))
        (front : ∀ mark ∈ around, mark < number) {parts : List Part} {documents : List Document}
        (behind : ∀ inner, .collection inner ∈ parts → number < inner)
        (begunParts : ∀ inner, .collection inner ∈ parts → (building.draft? inner).isSome)
        (each : List.Forall₂ (IsDocument collections) parts documents) :
        List.Forall₂ (fun part document =>
          building.assemble steps (number :: around) part = (document, [])) parts documents := by
      induction each with
      | nil => exact .nil
      | @cons part document parts documents isDocument _ ihParts =>
        refine .cons (ih isDocument fun inner here => ?_) (ihParts
          (fun inner member => behind inner (List.mem_cons_of_mem _ member))
          (fun inner member => begunParts inner (List.mem_cons_of_mem _ member)))
        subst here
        have deeper := behind inner List.mem_cons_self
        refine ⟨begunParts inner List.mem_cons_self, by omega, fun mark member => ?_⟩
        rcases List.mem_cons.1 member with rfl | outer
        · exact deeper
        · exact Nat.lt_trans (front mark outer) deeper
    cases isDocument with
    | done => rfl
    | @list number parts documents isDraft behind each =>
      obtain ⟨isBegun, far, front⟩ := begun number rfl
      obtain ⟨draft, begunParts⟩ := agrees.draft?_eq done isDraft isBegun
      have assembled := map_eq_of_forall₂ (inner far front behind begunParts each)
      rw [assemble, outside front, draft]
      simp only [Bool.false_eq_true, ↓reduceIte, assembled.1, assembled.2]
      rfl
    | @mapping number entries documents isDraft behind each =>
      obtain ⟨isBegun, far, front⟩ := begun number rfl
      obtain ⟨draft, begunParts⟩ := agrees.draft?_eq done isDraft isBegun
      have assembled := map_eq_of_forall₂ (inner far front behind begunParts each)
      have values : (entries.map fun entry =>
          building.assemble steps (number :: around) entry.2) =
          (entries.map Prod.snd).map (building.assemble steps (number :: around)) := by
        rw [List.map_map]
        rfl
      rw [assemble, outside front, draft]
      simp only [Bool.false_eq_true, ↓reduceIte, values, assembled.1, assembled.2]
      rfl

end Building

/-- A root denotes the document that follows from what is written. -/
theorem denote_isDocument {collections : Collections} {root : Node} {part : Part}
    {document : Document}
    (all : ∀ number < collections.size, ∃ draft, IsDraft collections number draft)
    (isPart : IsPart collections root part) (isDocument : IsDocument collections part document) :
    Node.denote .profile collections root = .ok document := by
  let start : Building :=
    { dialect := .profile, collections, drafts := collections.map fun _ => none }
  have nothing (number : Nat) : start.draft? number = none := by
    simp only [Building.draft?, start, Array.getElem?_map]
    cases collections[number]? <;> rfl
  have agrees : Building.Agrees collections [] start :=
    ⟨rfl, rfl, Array.size_map, List.forall_mem_nil _, fun number draft begun => by
      rw [nothing] at begun
      cases begun⟩
  obtain ⟨begun, later, agreesBegun, continues, rootBegun⟩ :=
    Building.later_isPart agrees isPart
  have work : begun.toFill < collections.size + 2 := by
    have atMost : start.drafts.toList.countP Option.isNone ≤ collections.size :=
      Nat.le_trans List.countP_le_length (by simp [start])
    have less := continues.work
    simp only [Building.toFill, start, List.length_nil] at less atMost ⊢
    omega
  obtain ⟨built, filled, done, agreesBuilt, stays⟩ :=
    Building.fillWaiting_agrees all agreesBegun work
  have assembled := @Building.assemble_isDocument collections built agreesBuilt done part document
    isDocument (built.drafts.size + 1) [] (fun number here =>
      ⟨stays number (rootBegun number here), by rw [agreesBuilt.size]; omega,
        List.forall_mem_nil _⟩)
  change (Building.later root start >>= _) = _
  rw [later]
  change (Building.fillWaiting (collections.size + 2) begun >>= _) = _
  rw [filled]
  exact congrArg (fun pair => Except.ok (Prod.fst pair)) assembled

end PodLaunch.Yaml
