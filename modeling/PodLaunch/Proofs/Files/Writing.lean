import PodLaunch.Files.Tree

/-!
# Files that are written

A file that is written takes the place of what was there, and nothing else changes. So all
directories stay, the file is read as it was written, and writing it again changes nothing.
-/

namespace PodLaunch.Files.Tree

variable {tree made written : Tree} {place : List String} {path : Path} {content : List UInt8}

/-! ## One place -/

/-- What is put at a place is found there, and everything else stays. -/
theorem find?_put (tree : Tree) (place : List String) (entry : Entry) (other : List String) :
    (tree.put place entry).entries.find? (fun old => old.1 == other) =
      if other = place then some (place, entry)
      else tree.entries.find? fun old => old.1 == other := by
  unfold put
  split
  · rename_i present
    have samePlace : (fun old : List String × Entry => old.1 == other) ∘
        (fun old => if old.1 == place then (place, entry) else old) =
          fun old => old.1 == other := by
      funext old
      by_cases here : old.1 = place <;> simp [here]
    rw [List.find?_map, samePlace]
    split
    · rename_i same
      subst same
      obtain ⟨old, found⟩ :=
        Option.isSome_iff_exists.1 (List.find?_isSome.2 (List.any_eq_true.1 present))
      rw [found, Option.map_some, if_pos (List.find?_some found)]
    · rename_i different
      cases found : tree.entries.find? fun old => old.1 == other with
      | none => rfl
      | some old =>
        have isOther : old.1 = other := by simpa using List.find?_some found
        rw [Option.map_some, isOther, if_neg (by simpa using different)]
  · rename_i absent
    rw [List.find?_append]
    split
    · rename_i same
      subst same
      have nothing : tree.entries.find? (fun old => old.1 == other) = none := by
        rw [List.find?_eq_none]
        exact fun old member here => absent (List.any_eq_true.2 ⟨old, member, here⟩)
      rw [nothing]
      simp
    · rename_i different
      simp [Ne.symm different]

/-- Putting something at a place does not move the home directory. -/
theorem home_put (tree : Tree) (place : List String) (entry : Entry) :
    (tree.put place entry).home = tree.home := by
  unfold put
  split <;> rfl

/-- What is put at a place that is no directory is there, and everything else stays. -/
theorem at?_put (free : tree.at? place ≠ some .directory) (entry : Entry) (other : List String) :
    (tree.put place entry).at? other = if other = place then some entry else tree.at? other := by
  unfold at?
  rw [home_put, find?_put]
  by_cases same : other = place
  · subst same
    have notAround : ¬ other.isPrefixOf tree.home = true := fun around =>
      free (by rw [at?, if_pos around])
    rw [if_neg notAround, if_pos rfl, if_pos rfl]
    rfl
  · rw [if_neg same, if_neg same]

/-- Nothing but what is put at a place is there. -/
theorem eq_of_mem_put {old : List String × Entry} {entry : Entry}
    (member : old ∈ (tree.put place entry).entries) (here : old.1 = place) :
    old = (place, entry) := by
  unfold put at member
  split at member
  · obtain ⟨before, _, rfl⟩ := List.mem_map.1 member
    by_cases replaced : before.1 = place
    · rw [if_pos (beq_iff_eq.2 replaced)]
    · rw [if_neg (by simpa using replaced)] at here
      exact absurd here replaced
  · rename_i absent
    rcases List.mem_append.1 member with earlier | last
    · have present : (tree.entries.any fun old => old.1 == place) = true :=
        List.any_eq_true.2 ⟨old, earlier, by simpa using here⟩
      exact absurd present absent
    · exact List.mem_singleton.1 last

/-- Putting something at a place twice is putting it there once. -/
theorem put_put (tree : Tree) (place : List String) (entry : Entry) :
    (tree.put place entry).put place entry = tree.put place entry := by
  have present : ((tree.put place entry).entries.any fun old => old.1 == place) = true := by
    have found := find?_put tree place entry place
    rw [if_pos rfl] at found
    exact List.any_eq_true.2 ⟨_, List.mem_of_find?_eq_some found, by simp⟩
  have each : ∀ old ∈ (tree.put place entry).entries,
      (if old.1 == place then (place, entry) else old) = id old := by
    intro old member
    split
    · rename_i here
      exact (eq_of_mem_put member (beq_iff_eq.1 here)).symm
    · rfl
  rw [put, if_pos present, List.map_congr_left each, List.map_id]

/-- A way that has been found stays when something is put in a place that is no directory. -/
theorem walk_put (free : tree.at? place ≠ some .directory) (entry : Entry)
    {start found names : List String} (way : tree.walk start names = .ok found) :
    (tree.put place entry).walk start names = .ok found := by
  induction names generalizing start with
  | nil => exact way
  | cons name names ih =>
    rw [walk] at way ⊢
    rw [at?_put free]
    cases here : tree.at? start with
    | none =>
      rw [here] at way
      cases way
    | some passed =>
      rw [here] at way
      cases passed with
      | file _ => cases way
      | directory =>
        have elsewhere : start ≠ place := fun same => free (same ▸ here)
        rw [if_neg elsewhere]
        dsimp only at way ⊢
        split
        · rename_i up
          rw [if_pos up] at way
          exact ih way
        · rename_i down
          rw [if_neg down] at way
          split
          · rename_i long
            rw [if_pos long] at way
            cases way
          · rename_i short
            rw [if_neg short] at way
            exact ih way

/-! ## Paths -/

/-- A text can be that of a path: it has no null character and is not too long. -/
def IsPathText (text : String) : Prop :=
  text.toList.contains '\x00' = false ∧ text.utf8ByteSize ≤ longestPath

/-- A path leads to a place if its text is one of a path and there is a way to the place. -/
theorem locate_eq_ok_iff (tree : Tree) (path : Path) (place : List String) :
    tree.locate path = .ok place ↔ IsPathText path.toText ∧
      tree.walk (if path.start = .home then tree.home else []) path.names = .ok place := by
  rw [locate, IsPathText]
  split
  · rename_i null
    rw [null]
    simp
  · rename_i noNull
    rw [Bool.eq_false_iff.2 noNull]
    split
    · rename_i long
      simp [Nat.not_le.2 long]
    · rename_i short
      simp [Nat.not_lt.1 short]

/-- A path whose text is none of a path leads nowhere, whatever the files are. -/
theorem locate_of_not_isPathText (tree : Tree) (noPath : ¬ IsPathText path.toText) :
    '\x00' ∈ path.toText.toList ∧ tree.locate path = .error .nullCharacter ∨
      tree.locate path = .error .tooLong := by
  rw [locate]
  by_cases null : path.toText.toList.contains '\x00' = true
  · exact .inl ⟨List.contains_iff_mem.1 null, if_pos null⟩
  · by_cases long : longestPath < path.toText.utf8ByteSize
    · exact .inr ((if_neg null).trans (if_pos long))
    · exact absurd ⟨Bool.eq_false_iff.2 null, Nat.not_lt.1 long⟩ noPath

/-- A path leads where it led before something was put in a place that is no directory. -/
theorem locate_put (free : tree.at? place ≠ some .directory) (entry : Entry) {found : List String}
    (way : tree.locate path = .ok found) : (tree.put place entry).locate path = .ok found := by
  rw [locate_eq_ok_iff] at way ⊢
  rw [home_put]
  exact ⟨way.1, walk_put free entry way.2⟩

/-- A file that can be opened is at the place where its path leads, which is no directory. -/
theorem openAt_eq_ok {old : List UInt8} (opened : tree.openAt path = .ok (place, old)) :
    tree.locate path = .ok place ∧ tree.at? place ≠ some .directory := by
  unfold openAt at opened
  cases way : tree.locate path with
  | error refusal =>
    rw [way] at opened
    cases opened
  | ok found =>
    simp only [way, bind, Except.bind] at opened
    split at opened
    · rename_i present
      cases opened
      exact ⟨rfl, by simp [present]⟩
    · cases opened
    · rename_i absent
      split at opened
      · cases opened
        exact ⟨rfl, by simp [absent]⟩
      · cases opened
      · cases opened

/-- What is written is put where the path leads, which is no directory. -/
theorem write_eq_ok (wrote : tree.write path content = .ok written) :
    ∃ place, tree.locate path = .ok place ∧ tree.at? place ≠ some .directory ∧
      written = tree.put place (.file content) := by
  unfold write at wrote
  cases opened : tree.openAt path with
  | error refusal =>
    rw [opened] at wrote
    cases wrote
  | ok found =>
    obtain ⟨place, old⟩ := found
    rw [opened] at wrote
    cases wrote
    obtain ⟨way, free⟩ := openAt_eq_ok opened
    exact ⟨place, way, free, rfl⟩

/-- What is written is found where it is written. -/
theorem find_of_write (wrote : tree.write path content = .ok written) :
    written.find path = .ok (.file content) := by
  obtain ⟨place, way, free, rfl⟩ := write_eq_ok wrote
  have found := at?_put free (.file content) place
  rw [if_pos rfl] at found
  rw [find, locate_put free (.file content) way]
  simp only [bind, Except.bind, found]

/-- What is written is read. -/
theorem read_of_write (wrote : tree.write path content = .ok written) :
    written.hasAny path = .ok true ∧ written.read path = .ok content := by
  have found := find_of_write wrote
  rw [hasAny, read, found]
  exact ⟨rfl, rfl⟩

/-- Writing the same content again changes nothing. -/
theorem write_of_write (wrote : tree.write path content = .ok written) :
    written.write path content = .ok written := by
  obtain ⟨place, way, free, rfl⟩ := write_eq_ok wrote
  have found := at?_put free (.file content) place
  rw [if_pos rfl] at found
  have opened : (tree.put place (.file content)).openAt path = .ok (place, content) := by
    rw [openAt, locate_put free (.file content) way]
    simp only [bind, Except.bind, found]
  rw [write, opened]
  exact congrArg Except.ok (put_put tree place (.file content))

/-! ## Directories around a file -/

/-- A path leads to a directory if it leads to a place where one is. -/
theorem hasDirectory_iff (tree : Tree) (path : Path) :
    tree.hasDirectory path = true ↔
      ∃ place, tree.locate path = .ok place ∧ tree.at? place = some .directory := by
  rw [hasDirectory, find]
  cases tree.locate path with
  | error refusal => simp [bind, Except.bind]
  | ok place =>
    dsimp only [bind, Except.bind]
    cases found : tree.at? place with
    | none => simp [found]
    | some entry => cases entry <;> simp [found]

/-- A directory that is there is not made. -/
theorem makeUnlessThere_of_hasDirectory (there : tree.hasDirectory path = true) :
    tree.makeUnlessThere path = .ok tree := by
  obtain ⟨place, way, found⟩ := (hasDirectory_iff tree path).1 there
  have refused : tree.makeOne path = .error .exists := by
    rw [makeOne, way]
    simp only [bind, Except.bind, found]
  rw [makeUnlessThere, refused, there]
  rfl

/-- A directory that has been made, or was there, is made with what is around it. -/
theorem make_of_makeUnlessThere (there : tree.makeUnlessThere path = .ok made) :
    tree.make path = (made, .ok ()) := by
  obtain ⟨start, names⟩ := path
  have named : ∀ reversed, reversed.reverse = names →
      makeNamed start tree reversed = (made, .ok ()) := by
    rintro reversed rfl
    cases reversed with
    | nil =>
      rw [List.reverse_nil] at there
      rw [makeNamed, there]
    | cons name reversed => rw [makeNamed, there]
  exact named names.reverse (List.reverse_reverse names)

/-- A directory that is there is not made, and neither is anything around it. -/
theorem make_of_hasDirectory (there : tree.hasDirectory path = true) :
    tree.make path = (tree, .ok ()) :=
  make_of_makeUnlessThere (makeUnlessThere_of_hasDirectory there)

/-- A single directory is made where the path leads, where nothing is but a directory around it. -/
theorem makeOne_eq_ok_iff (tree : Tree) (path : Path) (made : Tree) :
    tree.makeOne path = .ok made ↔ ∃ place, tree.locate path = .ok place ∧
      tree.at? place = none ∧ tree.at? place.dropLast = some .directory ∧
      made = tree.put place .directory := by
  rw [makeOne]
  cases tree.locate path with
  | error refusal => simp [bind, Except.bind]
  | ok place =>
    dsimp only [bind, Except.bind]
    cases found : tree.at? place with
    | some entry => simp [found]
    | none =>
      cases around : tree.at? place.dropLast with
      | none => simp [found, around]
      | some entry => cases entry <;> simp [found, around, eq_comm]

/-- A directory that is made, or was there: it is put where nothing was, or nothing changes. -/
theorem makeUnlessThere_eq_ok (there : tree.makeUnlessThere path = .ok made) :
    made.hasDirectory path = true ∧
      (made = tree ∨ ∃ place, tree.locate path = .ok place ∧ tree.at? place = none ∧
        made = tree.put place .directory) := by
  unfold makeUnlessThere at there
  split at there
  · rename_i found makes
    cases there
    obtain ⟨place, way, free, _, rfl⟩ := (makeOne_eq_ok_iff tree path made).1 makes
    have occupied : tree.at? place ≠ some .directory := by simp [free]
    have found := at?_put occupied .directory place
    rw [if_pos rfl] at found
    exact ⟨(hasDirectory_iff _ _).2 ⟨place, locate_put occupied .directory way, found⟩,
      .inr ⟨place, way, free, rfl⟩⟩
  · split at there
    · rename_i isThere
      cases there
      rw [Bool.and_eq_true] at isThere
      exact ⟨isThere.2, .inl rfl⟩
    · cases there

/-- A directory that has been made with those around it is there. -/
theorem hasDirectory_of_makeNamed {start : Start} {reversed : List String}
    (makes : makeNamed start tree reversed = (made, .ok ())) :
    made.hasDirectory ⟨start, reversed.reverse⟩ = true := by
  cases reversed with
  | nil =>
    rw [makeNamed] at makes
    split at makes
    · rename_i there
      cases makes
      exact (makeUnlessThere_eq_ok there).1
    · cases makes
  | cons name reversed =>
    rw [makeNamed] at makes
    split at makes
    · rename_i there
      cases makes
      exact (makeUnlessThere_eq_ok there).1
    · split at makes
      · cases makes
      · split at makes
        · cases makes
        · split at makes
          · rename_i there
            cases makes
            exact (makeUnlessThere_eq_ok there).1
          · cases makes

/-- A directory that has been made with those around it is there. -/
theorem hasDirectory_of_make (makes : tree.make path = (made, .ok ())) :
    made.hasDirectory path = true := by
  have there := hasDirectory_of_makeNamed makes
  rwa [List.reverse_reverse] at there

/-- The text of a directory that has been made with those around it is one of a path. -/
theorem isPathText_of_make (makes : tree.make path = (made, .ok ())) : IsPathText path.toText := by
  obtain ⟨place, way, _⟩ := (hasDirectory_iff made path).1 (hasDirectory_of_make makes)
  exact ((locate_eq_ok_iff made path place).1 way).1

/-- A way along names goes along the first of them, and from there along the others. -/
theorem walk_append (tree : Tree) (start names more : List String) :
    tree.walk start (names ++ more) =
      (tree.walk start names).bind fun around => tree.walk around more := by
  induction names generalizing start with
  | nil => rfl
  | cons name names ih =>
    rw [List.cons_append, walk, walk]
    cases tree.at? start with
    | none => rfl
    | some passed =>
      cases passed with
      | file _ => rfl
      | directory =>
        dsimp only
        split
        · exact ih _
        · split
          · rfl
          · exact ih _

/-- A way to a name goes by way of the directory around it. -/
theorem walk_append_singleton {start : List String} {names : List String} {name : String}
    (way : tree.walk start (names ++ [name]) = .ok place) :
    ∃ around, tree.walk start names = .ok around ∧ tree.at? around = some .directory := by
  rw [walk_append] at way
  cases first : tree.walk start names with
  | error refusal =>
    rw [first] at way
    cases way
  | ok around =>
    rw [first, Except.bind, walk] at way
    refine ⟨around, rfl, ?_⟩
    split at way
    · cases way
    · cases way
    · assumption

/-- Where a path begins, there is a directory. -/
theorem at?_start (tree : Tree) (path : Path) :
    tree.at? (if path.start = .home then tree.home else []) = some .directory := by
  have around : (if path.start = .home then tree.home else []).isPrefixOf tree.home = true := by
    split
    · exact List.isPrefixOf_iff_prefix.2 (List.prefix_refl _)
    · rfl
  rw [at?, if_pos around]

/-- A path that leads to anything but a directory leads through the directory around it. -/
theorem exists_walk_parent (way : tree.locate path = .ok place)
    (free : tree.at? place ≠ some .directory) :
    ∃ around, tree.walk (if path.start = .home then tree.home else []) path.parent.names =
      .ok around ∧ tree.at? around = some .directory := by
  have steps := ((locate_eq_ok_iff tree path place).1 way).2
  rcases List.eq_nil_or_concat path.names with none | ⟨names, name, split⟩
  · rw [none] at steps
    cases steps
    exact absurd (at?_start tree path) free
  · rw [split, List.concat_eq_append] at steps
    rw [Path.parent, split, List.concat_eq_append, List.dropLast_concat]
    exact walk_append_singleton steps

/-- Around a file that has been written, all directories are there. -/
theorem make_parent_of_write (isPath : IsPathText path.parent.toText)
    (wrote : tree.write path content = .ok written) :
    written.make path.parent = (written, .ok ()) := by
  obtain ⟨place, way, free, rfl⟩ := write_eq_ok wrote
  obtain ⟨around, steps, isDirectory⟩ := exists_walk_parent way free
  have elsewhere : around ≠ place := fun same => free (same ▸ isDirectory)
  have found := at?_put free (.file content) around
  rw [if_neg elsewhere, isDirectory] at found
  have located : (tree.put place (.file content)).locate path.parent = .ok around := by
    rw [locate_eq_ok_iff, home_put]
    exact ⟨isPath, walk_put free _ steps⟩
  exact make_of_hasDirectory ((hasDirectory_iff _ _).2 ⟨around, located, found⟩)

end PodLaunch.Files.Tree
