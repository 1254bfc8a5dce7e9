import Mathlib.Data.List.Nodup
import PodLaunch.Proofs.NodeProfile.Nodes
import PodLaunch.Proofs.Yaml.Documents

/-!
# The document of a profile

The nodes of a profile denote the document that the profile is as a mapping.
-/

namespace PodLaunch.Yaml

/-- A value as a document. -/
def WrittenValue.document : WrittenValue → Document
  | .text s => .text (String.ofList s)
  | .word s =>
    (scalarDocument .profile (.ofPlain .profile (String.ofList s)) (String.ofList s)).toOption.getD
      .null

/-- A value has a meaning: a word stands for a document. -/
def WrittenValue.IsMeant : WrittenValue → Prop
  | .text _ => True
  | .word s =>
    ∃ document,
      scalarDocument .profile (.ofPlain .profile (String.ofList s)) (String.ofList s) = .ok document

/-- An entry as one of a document. -/
def entryDocument (entry : List Char × WrittenValue) : Document × Document :=
  (.text (String.ofList entry.1), entry.2.document)

/-- An entry as one of a draft: it is complete. -/
def entryPart (entry : List Char × WrittenValue) : Document × Part :=
  (.text (String.ofList entry.1), .done entry.2.document)

variable {collections : Collections} {number : Nat} {entries : List (List Char × WrittenValue)}

/-- The node of a value that has a meaning denotes its document. -/
theorem isPart_node {value : WrittenValue} (meant : value.IsMeant) :
    IsPart collections value.node (.done value.document) := by
  cases value with
  | text s => exact .scalar rfl
  | word s =>
    obtain ⟨document, same⟩ := meant
    refine .scalar ?_
    rw [WrittenValue.document, same]
    rfl

/-- The nodes of entries denote them. -/
theorem forall₂_isEntry (meant : ∀ entry ∈ entries, entry.2.IsMeant) :
    List.Forall₂ (IsEntry collections) (entries.map entryNodes) (entries.map entryPart) := by
  rw [List.forall₂_map_left_iff, List.forall₂_map_right_iff, List.forall₂_same]
  exact fun entry member => ⟨_, rfl, rfl, isPart_node (meant entry member)⟩

/-- The parts of entries stand for their documents. -/
theorem forall₂_isDocument (entries : List (List Char × WrittenValue)) :
    List.Forall₂ (IsDocument collections) ((entries.map entryPart).map Prod.snd)
      (entries.map fun entry => entry.2.document) := by
  rw [List.map_map, List.forall₂_map_left_iff, List.forall₂_map_right_iff, List.forall₂_same]
  exact fun entry _ => .done _

/-- A mapping of scalars is filled with them. -/
theorem isDraft_mappingOf (written : collections[number]? = some (Reading.mappingOf entries))
    (meant : ∀ entry ∈ entries, entry.2.IsMeant)
    (distinct : (entries.map fun entry => String.ofList entry.1).Nodup) :
    IsDraft collections number (.mapping (entries.map entryPart)) := by
  refine .mapping written (forall₂_isEntry meant) ?_
  rw [List.map_map]
  have texts := List.Nodup.map (fun _ _ => Document.text.inj) distinct
  rwa [List.map_map] at texts

/-- A mapping of scalars stands for them. -/
theorem isDocument_mappingOf (written : collections[number]? = some (Reading.mappingOf entries))
    (meant : ∀ entry ∈ entries, entry.2.IsMeant)
    (distinct : (entries.map fun entry => String.ofList entry.1).Nodup) :
    IsDocument collections (.collection number) (.mapping (entries.map entryDocument)) := by
  have stands := IsDocument.mapping (isDraft_mappingOf written meant distinct)
    (by simp [entryPart]) (forall₂_isDocument entries)
  rw [List.map_map, List.zip_map'] at stands
  exact stands

end PodLaunch.Yaml

namespace PodLaunch.NodeProfile

open Yaml Reading

/-! ## Taints and labels -/

/-- The entries of a taint have a meaning. -/
theorem isMeant_taintEntries (taint : Taint) : ∀ entry ∈ taintEntries taint, entry.2.IsMeant := by
  intro entry member
  simp only [taintEntries, List.mem_cons, List.not_mem_nil, or_false] at member
  rcases member with rfl | rfl | rfl
  · trivial
  · cases taint.value with
    | none => exact ⟨.null, rfl⟩
    | some value => trivial
  · trivial

/-- The keys of a taint are different. -/
theorem nodup_taintEntries (taint : Taint) :
    ((taintEntries taint).map fun entry => String.ofList entry.1).Nodup := by
  simp [taintEntries]

/-- The entries of a taint are those of its document. -/
theorem toDocument_taint (taint : Taint) :
    taint.toDocument = .mapping ((taintEntries taint).map entryDocument) := by
  have text (s : String) : (WrittenValue.text s.toList).document = .text s :=
    congrArg Document.text String.ofList_toList
  have null : (WrittenValue.word "null".toList).document = .null := rfl
  cases value : taint.value with
  | none =>
    simp only [Taint.toDocument, taintEntries, entryDocument, value, text, null, List.map_cons,
      List.map_nil, String.ofList_toList, Option.map_none, Option.getD_none]
  | some value =>
    simp only [Taint.toDocument, taintEntries, entryDocument, value, text, List.map_cons,
      List.map_nil, String.ofList_toList, Option.map_some, Option.getD_some]

/-- The entries of labels have a meaning. -/
theorem isMeant_labelEntries (labels : Labels) :
    ∀ entry ∈ labelEntries labels, entry.2.IsMeant := by
  intro entry member
  obtain ⟨label, _, rfl⟩ := List.mem_map.1 member
  trivial

/-- The keys of labels are different. -/
theorem nodup_labelEntries (labels : Labels) :
    ((labelEntries labels).map fun entry => String.ofList entry.1).Nodup := by
  have keys : (labelEntries labels).map (fun entry => String.ofList entry.1) =
      labels.entries.map Prod.fst := by
    simp [labelEntries, Function.comp_def]
  rw [keys]
  exact labels.distinct

/-- The entries of labels are those of their document. -/
theorem toDocument_labels (labels : Labels) :
    labels.toDocument = .mapping ((labelEntries labels).map entryDocument) := by
  simp [Labels.toDocument, labelEntries, entryDocument, WrittenValue.document, Function.comp_def]

/-! ## The collections of a profile -/

variable (profile : NodeProfile)

/-- The collections of a profile in order. -/
theorem toList_profileCollections :
    (profileCollections profile).toList = ⟨.mapping, .entries (fieldNodes profile) false⟩ ::
      ⟨.list, .items (collectionsFrom 2 profile.extraTaints.length)⟩ ::
        (profile.extraTaints.map (fun taint => mappingOf (taintEntries taint)) ++
          [mappingOf (labelEntries profile.labels)]) := by
  simp [profileCollections, taintsCollections]

/-- The number of collections of a profile. -/
theorem size_profileCollections :
    (profileCollections profile).size = profile.extraTaints.length + 3 := by
  rw [← Array.length_toList, toList_profileCollections]
  simp

/-- The first collection of a profile is the profile. -/
theorem profileCollections_root :
    (profileCollections profile)[0]? = some ⟨.mapping, .entries (fieldNodes profile) false⟩ := by
  rw [← Array.getElem?_toList, toList_profileCollections]
  rfl

/-- The next collection of a profile is the list of its taints. -/
theorem profileCollections_list :
    (profileCollections profile)[1]? =
      some ⟨.list, .items (collectionsFrom 2 profile.extraTaints.length)⟩ := by
  rw [← Array.getElem?_toList, toList_profileCollections]
  rfl

/-- Behind the list, the collections of a profile are its taints. -/
theorem profileCollections_taint {index : Nat} (inside : index < profile.extraTaints.length) :
    (profileCollections profile)[index + 2]? =
      some (mappingOf (taintEntries profile.extraTaints[index])) := by
  rw [← Array.getElem?_toList, toList_profileCollections, List.getElem?_cons_succ,
    List.getElem?_cons_succ, List.getElem?_append_left (by rwa [List.length_map]),
    List.getElem?_map, List.getElem?_eq_getElem inside]
  rfl

/-- The last collection of a profile are its labels. -/
theorem profileCollections_labels :
    (profileCollections profile)[profile.extraTaints.length + 2]? =
      some (mappingOf (labelEntries profile.labels)) := by
  rw [← Array.getElem?_toList, toList_profileCollections]
  simp

/-! ## The profile -/

/-- The parts of the fields of a profile. -/
def fieldParts : List (Document × Part) :=
  (scalarEntries profile).map entryPart ++
    [(.text "extra_taints", .collection 1),
      (.text "labels", .collection (profile.extraTaints.length + 2))]

/-- The scalars of a profile have a meaning. -/
theorem isMeant_scalarEntries : ∀ entry ∈ scalarEntries profile, entry.2.IsMeant := by
  intro entry member
  simp only [scalarEntries, List.mem_cons, List.not_mem_nil, or_false] at member
  rcases member with rfl | rfl | rfl
  · trivial
  · trivial
  · cases profile.taintArchitecture
    · exact ⟨.bool false, rfl⟩
    · exact ⟨.bool true, rfl⟩

/-- A profile is filled with its fields. -/
theorem isDraft_root : IsDraft (profileCollections profile) 0 (.mapping (fieldParts profile)) := by
  have list : IsPart (profileCollections profile) (.collection 1) (.collection 1) := by
    refine .collection (Or.inl ?_)
    rw [Yaml.Node.meaning, profileCollections_list]
    rfl
  have labels : IsPart (profileCollections profile)
      (.collection (profile.extraTaints.length + 2))
      (.collection (profile.extraTaints.length + 2)) := by
    refine .collection (Or.inr ?_)
    rw [Yaml.Node.meaning, profileCollections_labels]
    rfl
  refine .mapping (profileCollections_root profile) ?_ ?_
  · exact List.rel_append (forall₂_isEntry (isMeant_scalarEntries profile))
      (.cons ⟨_, rfl, by rw [String.ofList_toList], list⟩
        (.cons ⟨_, rfl, by rw [String.ofList_toList], labels⟩ .nil))
  · simp [fieldParts, scalarEntries, entryPart]

/-- Collections of taints denote them, one after the other. -/
theorem forall₂_taints {collections : Collections} {taints : List Taint} {first : Nat}
    (written : ∀ index (inside : index < taints.length),
      collections[first + index]? = some (mappingOf (taintEntries taints[index]))) :
    List.Forall₂ (IsPart collections) (collectionsFrom first taints.length)
        ((List.range' first taints.length).map Part.collection) ∧
      List.Forall₂ (IsDocument collections)
        ((List.range' first taints.length).map Part.collection) (taints.map Taint.toDocument) := by
  induction taints generalizing first with
  | nil => exact ⟨.nil, .nil⟩
  | cons taint taints ih =>
    have here : collections[first]? = some (mappingOf (taintEntries taint)) :=
      written 0 (Nat.zero_lt_succ _)
    obtain ⟨parts, documents⟩ := @ih (first + 1) fun index inside => by
      rw [Nat.add_assoc, Nat.add_comm 1]
      exact written (index + 1) (Nat.succ_lt_succ inside)
    rw [List.length_cons, collectionsFrom_succ, List.range'_succ, List.map_cons, List.map_cons]
    refine ⟨.cons (.collection (Or.inr ?_)) parts, .cons ?_ documents⟩
    · rw [Yaml.Node.meaning, here]
      rfl
    · rw [toDocument_taint]
      exact isDocument_mappingOf here (isMeant_taintEntries taint) (nodup_taintEntries taint)

/-- The list of the taints of a profile is filled with them. -/
theorem isDraft_list : IsDraft (profileCollections profile) 1
    (.list ((List.range' 2 profile.extraTaints.length).map Part.collection)) :=
  .list (profileCollections_list profile)
    (forall₂_taints fun index inside => by
      rw [Nat.add_comm]
      exact profileCollections_taint profile inside).1

/-- Every collection of a profile can be filled. -/
theorem exists_isDraft {number : Nat} (inside : number < (profileCollections profile).size) :
    ∃ draft, IsDraft (profileCollections profile) number draft := by
  rw [size_profileCollections] at inside
  match number with
  | 0 => exact ⟨_, isDraft_root profile⟩
  | 1 => exact ⟨_, isDraft_list profile⟩
  | index + 2 =>
    rcases Nat.lt_or_ge index profile.extraTaints.length with taint | last
    · exact ⟨_, isDraft_mappingOf (profileCollections_taint profile taint)
        (isMeant_taintEntries _) (nodup_taintEntries _)⟩
    · obtain rfl : index = profile.extraTaints.length := by omega
      exact ⟨_, isDraft_mappingOf (profileCollections_labels profile)
        (isMeant_labelEntries _) (nodup_labelEntries _)⟩

/-- The first collection of a profile stands for its document. -/
theorem isDocument_root :
    IsDocument (profileCollections profile) (.collection 0) profile.toDocument := by
  have taints : IsDocument (profileCollections profile) (.collection 1)
      (.list (profile.extraTaints.map Taint.toDocument)) := by
    refine .list (isDraft_list profile) ?_ (forall₂_taints fun index inside => by
      rw [Nat.add_comm]
      exact profileCollections_taint profile inside).2
    intro inner member
    obtain ⟨number, among, same⟩ := List.mem_map.1 member
    cases same
    exact (List.mem_range'_1.1 among).1
  have labels : IsDocument (profileCollections profile)
      (.collection (profile.extraTaints.length + 2)) profile.labels.toDocument := by
    rw [toDocument_labels]
    exact isDocument_mappingOf (profileCollections_labels profile) (isMeant_labelEntries _)
      (nodup_labelEntries _)
  have fields : List.Forall₂ (IsDocument (profileCollections profile))
      ((fieldParts profile).map Prod.snd)
      (((scalarEntries profile).map fun entry => entry.2.document) ++
        [.list (profile.extraTaints.map Taint.toDocument), profile.labels.toDocument]) := by
    rw [fieldParts, List.map_append]
    exact List.rel_append (forall₂_isDocument _) (.cons taints (.cons labels .nil))
  have root := IsDocument.mapping (isDraft_root profile) (by simp [fieldParts, entryPart]) fields
  have text (s : String) : (WrittenValue.text s.toList).document = .text s :=
    congrArg Document.text String.ofList_toList
  have word (b : Bool) :
      (WrittenValue.word (if b then "true" else "false").toList).document = .bool b := by
    cases b <;> rfl
  simp only [fieldParts, scalarEntries, entryPart, text, word, List.map_cons, List.map_nil,
    List.cons_append, List.nil_append, String.ofList_toList, List.zip_cons_cons,
    List.zip_nil_left] at root
  exact root

/-- The nodes of a profile denote its document. -/
theorem denote_profile :
    Yaml.Node.denote .profile (profileCollections profile) (.collection 0) =
      .ok profile.toDocument := by
  refine denote_isDocument (fun number inside => exists_isDraft profile inside)
    (.collection (Or.inr ?_)) (isDocument_root profile)
  rw [Yaml.Node.meaning, profileCollections_root]
  rfl

/-- The tokens of a profile denote its document. -/
theorem profileDocument_of_carries {text : Text.Decoded} {room : Nat}
    (carries : Carries (withinRoom room (tokensOf .profile text)) (profileTokens profile)) :
    profileDocument room text = .ok profile.toDocument := by
  obtain ⟨found, next, only, denotes⟩ := nextSection_profile carries
  rw [profileDocument, next]
  change (checkOnly found >>= fun _ => found.denote) = _
  rw [only, denotes, denote_profile]
  rfl

end PodLaunch.NodeProfile
