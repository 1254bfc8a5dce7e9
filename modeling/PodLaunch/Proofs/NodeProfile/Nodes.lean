import PodLaunch.Proofs.NodeProfile.Tokens
import PodLaunch.Proofs.Yaml.Nodes

/-!
# The nodes of a profile

The tokens of a profile are read as a mapping of its fields. The list of its taints comes next among
the lists and mappings, then the taints, and the labels are the last ones.
-/

namespace PodLaunch.NodeProfile

open Yaml Reading

variable {handles : Handles} {before : Collections} {others : List Token} {steps : Nat}

/-- The collections of the taints of a profile behind other ones: the list, and the taints. -/
def taintsCollections (first : Nat) (taints : List Taint) : List Collection :=
  ⟨.list, .items (collectionsFrom (first + 1) taints.length)⟩ ::
    taints.map fun taint => mappingOf (taintEntries taint)

/-- The nodes of the entries of a profile. -/
def fieldNodes (profile : NodeProfile) : List (Yaml.Node × Yaml.Node) :=
  (scalarEntries profile).map entryNodes ++
    [(textNode "extra_taints".toList, .collection 1),
      (textNode "labels".toList, .collection (profile.extraTaints.length + 2))]

/-- The collections of a profile. -/
def profileCollections (profile : NodeProfile) : Collections :=
  (#[] : Collections).push ⟨.mapping, .entries (fieldNodes profile) false⟩ ++
    (taintsCollections 1 profile.extraTaints ++ [mappingOf (labelEntries profile.labels)])

/-- The taints of a profile are read as a list, in front of the next key. -/
theorem takes_taints (taints : List Taint) (room : taints.length + 15 ≤ steps) :
    Takes (readValue handles steps endsBlockNode .entry) before (.value :: taintsTokens taints)
      (.key :: others) (.collection before.size)
      (before ++ taintsCollections before.size taints) := by
  obtain ⟨more, rfl⟩ := Nat.exists_eq_add_of_le' room
  cases taints with
  | nil =>
    have taken := ((@takes_emptyList handles before (.key :: others) (more + 10) .entry).optional
      endsBlockNode rfl (by simp)).value
    simpa [taintsCollections, collectionsFrom, taintsTokens] using taken
  | cons taint taints =>
    have taken := @takes_list handles before others ((taint :: taints).map taintEntries)
      (more + ((taint :: taints).length + 13)) 10 (by simp) (by simp [taintEntries])
      (by simp only [List.length_map]; omega)
    rw [List.flatMap_map, List.length_map, List.map_map] at taken
    have read := (Takes.optional taken endsBlockNode rfl (by simp)).value
    rw [taintsCollections, Array.appendList_cons]
    exact read

/-- The labels of a profile are read as a mapping. -/
theorem takes_labels (labels : Labels) (room : labels.entries.length + 8 ≤ steps) :
    Takes (readValue handles steps endsBlockNode .entry) before (.value :: labelsTokens labels)
      others (.collection before.size) (before.push (mappingOf (labelEntries labels))) := by
  obtain ⟨more, rfl⟩ := Nat.exists_eq_add_of_le' room
  rw [labelsTokens]
  split
  · rename_i empty
    have noEntries : labelEntries labels = [] := by
      rw [labelEntries, List.isEmpty_iff.1 empty, List.map_nil]
    rw [noEntries]
    exact ((takes_emptyMapping (more + (labels.entries.length + 3)) .entry).optional
      endsBlockNode rfl (by simp)).value
  · have taken := @takes_mapping handles before others (more + (labels.entries.length + 6))
      (labelEntries labels) .entry rfl (by simp only [labelEntries, List.length_map]; omega)
    exact (taken.optional endsBlockNode rfl (by simp)).value

/-- The tokens of a profile are read as its nodes. -/
theorem takes_profile (profile : NodeProfile)
    (room : profile.extraTaints.length + profile.labels.entries.length + 30 ≤ steps) :
    Takes (readNode handles steps .element) #[]
      (tokensBeforeLabels profile ++ labelsTokens profile.labels ++ [.blockEnd]) [.textEnd]
      (.collection 0) (profileCollections profile) := by
  obtain ⟨more, rfl, large⟩ : ∃ more, steps = 3 + (more + 1 + 4) + 2 ∧
      profile.extraTaints.length + profile.labels.entries.length + 20 ≤ more :=
    ⟨steps - 10, by omega, by omega⟩
  let opened : Collections := #[].push ⟨.mapping, .items []⟩
  let behindTaints : Collections := opened ++ taintsCollections opened.size profile.extraTaints
  let scalars := ((scalarEntries profile).map entryNodes).reverse ++ []
  let taintsEntry : Yaml.Node × Yaml.Node :=
    (textNode "extra_taints".toList, .collection opened.size)
  let labelsEntry : Yaml.Node × Yaml.Node :=
    (textNode "labels".toList, .collection behindTaints.size)
  have labels : Takes (readBlockMapping handles (more + 4) (taintsEntry :: scalars)) behindTaints
      (.key :: [textToken "labels".toList] ++ (.value :: labelsTokens profile.labels) ++
        [.blockEnd]) [.textEnd] (labelsEntry :: taintsEntry :: scalars).reverse
      (behindTaints.push (mappingOf (labelEntries profile.labels))) :=
    Takes.entry (takes_key more _) (takes_labels profile.labels (by omega))
      (takes_blockEnd (more + 2) _)
  have taints := Takes.entry (takes_key (more + 1) "extra_taints".toList)
    (takes_taints profile.extraTaints (by omega)) labels
  have fields := Takes.behindEntries (more + 1) [] taints
  have found : (labelsEntry :: taintsEntry :: scalars).reverse = fieldNodes profile := by
    simp [fieldNodes, labelsEntry, taintsEntry, scalars, behindTaints, opened, taintsCollections]
  have collections : behindTaints.push (mappingOf (labelEntries profile.labels)) =
      opened ++ (taintsCollections 1 profile.extraTaints ++
        [mappingOf (labelEntries profile.labels)]) := by
    simp [behindTaints, opened]
  rw [found, collections] at fields
  have taken := @Takes.mapping handles #[] [.textEnd] _ _ _ _ .element rfl fields
  have tokens : tokensBeforeLabels profile ++ labelsTokens profile.labels ++ [.blockEnd] =
      .blockMappingStart :: (entriesTokens (scalarEntries profile) ++
        (.key :: [textToken "extra_taints".toList] ++ .value :: taintsTokens profile.extraTaints ++
          (.key :: [textToken "labels".toList] ++ .value :: labelsTokens profile.labels ++
            [.blockEnd]))) := by
    simp [tokensBeforeLabels]
  rw [tokens]
  exact taken

/-! ## The only document -/

/-- Every taint has a token. -/
theorem length_le_taintsTokens (taints : List Taint) :
    taints.length ≤ (taintsTokens taints).length := by
  cases taints with
  | nil => exact Nat.zero_le _
  | cons taint taints =>
    have each (others : List Taint) : others.length ≤ (others.flatMap taintTokens).length := by
      induction others with
      | nil => exact Nat.le_refl 0
      | cons other others ih =>
        simp only [List.flatMap_cons, List.length_append, List.length_cons, taintTokens]
        omega
    exact each (taint :: taints)

/-- Every label has a token. -/
theorem length_le_labelsTokens (labels : Labels) :
    labels.entries.length ≤ (labelsTokens labels).length := by
  have each (entries : List (List Char × WrittenValue)) :
      entries.length ≤ (entriesTokens entries).length := by
    induction entries with
    | nil => exact Nat.le_refl 0
    | cons entry entries ih =>
      simp only [entriesTokens, entryTokens, List.flatMap_cons, List.length_append,
        List.length_cons] at ih ⊢
      omega
  have all := each (labelEntries labels)
  rw [labelEntries, List.length_map] at all
  rw [labelsTokens]
  split
  · rename_i empty
    rw [List.isEmpty_iff.1 empty]
    exact Nat.zero_le _
  · simp only [List.length_append, List.length_cons, labelEntries]
    omega

/-- The only document of the text of a profile has its nodes. -/
theorem nextSection_profile {profile : NodeProfile} {lexemes : List Lexeme}
    (carries : Carries lexemes (profileTokens profile)) :
    ∃ found, nextSection true lexemes = .ok (some found) ∧ checkOnly found = .ok () ∧
      found.denote = Yaml.Node.denote .profile (profileCollections profile) (.collection 0) := by
  have length : lexemes.length = (profileTokens profile).length := carries.length_eq
  have taints := length_le_taintsTokens profile.extraTaints
  have labels := length_le_labelsTokens profile.labels
  simp only [profileTokens, tokensBeforeLabels, List.length_append, List.length_cons] at length
  have split : profileTokens profile = tokensBeforeLabels profile ++ labelsTokens profile.labels ++
      [.blockEnd] ++ [.textEnd] := by
    simp [profileTokens]
  rw [split] at carries
  obtain ⟨rest, carried, root⟩ := @takes_profile defaultHandles _ profile
    (show _ ≤ 6 * lexemes.length + 6 by omega) lexemes carries
  obtain ⟨line, nothing, rfl, _⟩ := carried.cons_inv
  have begins : ∃ first, headLexeme lexemes = .ok first ∧ beginsUnmarked first.token = true := by
    obtain ⟨line, behind, rfl, _⟩ := carries.cons_inv
    exact ⟨_, rfl, rfl⟩
  obtain ⟨first, head, unmarked⟩ := begins
  refine ⟨⟨.collection 0, profileCollections profile, .profile, false,
    ⟨.textEnd, line, .profile⟩ :: nothing⟩, ?_, rfl, rfl⟩
  have section_ : readSection defaultHandles false lexemes = .ok ⟨.collection 0,
      profileCollections profile, .profile, false, ⟨.textEnd, line, .profile⟩ :: nothing⟩ := by
    rw [readSection, head]
    change (readRoot defaultHandles lexemes >>= _) = _
    rw [readRoot, root]
    rfl
  rw [nextSection, head]
  change (if (true && beginsUnmarked first.token) = true then _ else _) = _
  rw [unmarked, section_]
  rfl

end PodLaunch.NodeProfile
