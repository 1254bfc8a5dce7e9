import PodLaunch.Proofs.Command.Checking
import PodLaunch.Proofs.Files.Making
import PodLaunch.Proofs.NodeProfile.Saving
import PodLaunch.Proofs.Text.Splitting

/-!
# How a profile is initialized

A command line that asks for a new profile either writes it, or leaves the files as they are and
says so by its status, but for three ways to do it by halves. The profile may be written although
what is printed about it breaks the command off; directories may be made for a file that cannot be
written; and a path that leads to nothing may lead to a file once directories have been made.
-/

namespace PodLaunch

open Console Files Text

/-! ## Bare profiles -/

namespace NodeProfile

open Validated

/-- A profile has a name and an architecture and nothing else. -/
structure IsBare (profile : NodeProfile) (name architecture : String) : Prop where
  /-- The node has the name. -/
  nodeName : profile.nodeName.text = name
  /-- It has the architecture. -/
  architecture : profile.architecture.text = architecture
  /-- It is tainted for its architecture. -/
  taintArchitecture : profile.taintArchitecture = true
  /-- There are no further taints. -/
  extraTaints : profile.extraTaints = []
  /-- There are no labels. -/
  labels : profile.labels = .empty

variable {profile : NodeProfile} {name architecture : String}

/-- The labels of a bare profile fit. -/
theorem IsBare.labelsFit (bare : profile.IsBare name architecture) : profile.LabelsFit := by
  intro label member
  rw [bare.labels] at member
  cases member

end NodeProfile

/-! ## Texts of paths -/

/-- The text of a path has no characters but those of the text that names it, slashes and dots. -/
theorem Files.Path.not_mem_toText_ofText {c : Char} {file : String} (noSlash : c ≠ '/')
    (noDot : c ≠ '.') (absent : c ∉ file.toList) : c ∉ (Path.ofText file).toText.toList := by
  have names : ∀ name ∈ (Path.ofText file).names, c ∉ name.toList := by
    intro name isName inName
    obtain ⟨isText, -⟩ := List.mem_filter.1 isName
    obtain ⟨piece, isPiece, rfl⟩ := List.mem_map.1 isText
    rw [String.toList_ofList] at inName
    exact absent (mem_of_mem_splitOnChar isPiece inName)
  have begins : c ∉ (Path.ofText file).start.toText.toList := by
    cases (Path.ofText file).start <;> simp [Start.toText, noSlash]
  rw [toText]
  split
  · simpa using noDot
  · rw [String.toList_append, List.mem_append, not_or]
    exact ⟨begins, Command.not_mem_joinTexts (by simpa using noSlash) names⟩

/-! ## What is printed about a profile -/

namespace Command

variable {profile : NodeProfile} {file name architecture : String}

/-- A profile is saved with some result: nothing is in the way, or writing is forced, and the profile
has the name and the architecture and nothing else. -/
structure Attempts (tree : Files.Tree) (file name architecture : String) (force : Bool)
    (profile : NodeProfile) (saved : Files.Tree × Except FileError Unit) : Prop where
  /-- Nothing is where the path leads, or writing is forced. -/
  free : ∃ isThere, tree.hasAny (.ofText file) = .ok isThere ∧ (isThere = true → force = true)
  /-- The profile has the name and the architecture and nothing else. -/
  bare : profile.IsBare name architecture
  /-- Saving it leads to these files, or fails. -/
  saves : (profile.save tree file).result = saved

variable {tree made : Files.Tree} {force : Bool} {saved : Files.Tree × Except FileError Unit}

/-- A profile has been written: it can be loaded, and nothing else has changed, except that there may
be more directories. -/
structure Writes (tree : Files.Tree) (file name architecture : String) (outcome : Outcome) :
    Prop where
  /-- The status says so. -/
  status : outcome.status = 0
  /-- What is loaded is the bare profile with the name and the architecture. -/
  loads : ∃ profile, (NodeProfile.load (.ofTree outcome.tree) file).result = .ok profile ∧
    profile.IsBare name architecture
  /-- What is at any other place than that of the file stays there. -/
  others : ∃ target, outcome.tree.locate (.ofText file) = .ok target ∧
    ∀ place, place ≠ target → outcome.tree.at? place = tree.at? place ∨
      tree.at? place = none ∧ outcome.tree.at? place = some .directory

/-- The ways in which an initialization ends. -/
inductive EndsBy (tree : Files.Tree) (file name architecture : String) (force : Bool)
    (outcome : Outcome) : Prop where
  /-- No profile is saved. -/
  | untouched (status : outcome.status = failed) (same : outcome.tree = tree) :
    EndsBy tree file name architecture force outcome
  /-- The profile cannot be saved. -/
  | unsaved {profile : NodeProfile} {made : Files.Tree} {error : FileError}
    (attempts : Attempts tree file name architecture force profile (made, .error error))
    (status : outcome.status = failed) (leaves : outcome.tree = made) :
    EndsBy tree file name architecture force outcome
  /-- The profile is saved, and what is printed about it is shown. -/
  | shown {profile : NodeProfile} {written : Files.Tree}
    (attempts : Attempts tree file name architecture force profile (written, .ok ()))
    (status : outcome.status = 0) (leaves : outcome.tree = written) :
    EndsBy tree file name architecture force outcome
  /-- The profile is saved, but what is printed about it breaks the command off. -/
  | broken {profile : NodeProfile} {written : Files.Tree} {error : MarkupError}
    (attempts : Attempts tree file name architecture force profile (written, .ok ()))
    (breaks : ¬ ∀ printout ∈ writtenPrintouts (.ofText file) profile, printout.IsShown)
    (crash : outcome.crash = some (.markup error)) (status : outcome.status = failed)
    (leaves : outcome.tree = written) : EndsBy tree file name architecture force outcome

variable {errors : String} {written : Files.Tree} {error : FileError} {outcome : Outcome}

/-- A status that says so is not that of a failure. -/
theorem ne_failed_of_success (success : outcome.status = 0) : outcome.status ≠ failed := by
  rw [success]
  decide

/-- A profile that has been saved is written if the status says so. -/
theorem Attempts.writes
    (attempts : Attempts tree file name architecture force profile (written, .ok ()))
    (status : outcome.status = 0) (leaves : outcome.tree = written) :
    Writes tree file name architecture outcome := by
  obtain ⟨made, makes, wrote⟩ := NodeProfile.write_of_save attempts.saves
  have grows := Files.Tree.grows_make tree (Files.Path.ofText file).parent
  rw [makes] at grows
  obtain ⟨target, way, -, others⟩ := Files.Tree.at?_of_write grows wrote
  have loads := NodeProfile.load_of_write_of_labelsFit attempts.bare.labelsFit wrote
  subst leaves
  exact ⟨status, ⟨profile, loads, attempts.bare⟩, target, way, others⟩

/-- If the status says so, the profile has been written. -/
theorem EndsBy.writes (ends : EndsBy tree file name architecture force outcome)
    (success : outcome.status = 0) : Writes tree file name architecture outcome := by
  have notFailed := ne_failed_of_success success
  cases ends with
  | untouched status same => exact absurd status notFailed
  | unsaved attempts status leaves => exact absurd status notFailed
  | shown attempts status leaves => exact attempts.writes status leaves
  | broken attempts breaks crash status leaves => exact absurd status notFailed

/-- Unless the profile has been written, or the command has broken off, at most directories are
added. -/
theorem EndsBy.grows (ends : EndsBy tree file name architecture force outcome)
    (fails : outcome.status ≠ 0) (unbroken : ∀ error, outcome.crash ≠ some (.markup error)) :
    Files.Tree.Grows tree outcome.tree := by
  cases ends with
  | untouched status same =>
    rw [same]
    exact .refl tree
  | unsaved attempts status leaves =>
    obtain ⟨result, makes, -⟩ := NodeProfile.make_of_save attempts.saves
    have grows := Files.Tree.grows_make tree (Files.Path.ofText file).parent
    rw [makes] at grows
    rw [leaves]
    exact grows
  | shown attempts status leaves => exact absurd status fails
  | broken attempts breaks crash status leaves => exact absurd crash (unbroken _)

/-- A file can be written without making directories in vain. -/
inductive HasRoom (tree : Files.Tree) (file : String) : Prop where
  /-- The directory around the file is there. -/
  | around (there : tree.hasDirectory (Files.Path.ofText file).parent = true) : HasRoom tree file
  /-- The path only leads down, with names that are not too long. -/
  | down (rooted : tree.IsRooted) (noNull : '\x00' ∉ file.toList)
    (down : ∀ name ∈ (Files.Path.ofText file).names, Files.Tree.LeadsDown name) : HasRoom tree file

/-- A path without a null character can be that of a profile that is going to be saved. -/
theorem Attempts.isPathText
    (attempts : Attempts tree file name architecture force profile saved)
    (noNull : '\x00' ∉ file.toList) :
    Files.Tree.IsPathText (Files.Path.ofText file).toText := by
  obtain ⟨isThere, asked, -⟩ := attempts.free
  have shown := Files.Path.not_mem_toText_ofText (by decide) (by decide) noNull
  exact Files.Tree.isPathText_of_hasAny asked shown

/-- Where there is room, a file that is written takes the place of nothing but what its path led
to. -/
theorem HasRoom.kept (room : HasRoom tree file)
    (attempts : Attempts tree file name architecture false profile (written, .ok ()))
    {place : List String} {entry : Entry} (there : tree.at? place = some entry) :
    written.at? place = some entry := by
  obtain ⟨isThere, asked, forced⟩ := attempts.free
  have nothing : isThere = false := by simpa using forced
  subst nothing
  have free {place : List String} (way : tree.locate (.ofText file) = .ok place) :
      tree.at? place = none := Files.Tree.free_of_hasAny asked way
  obtain ⟨made, makes, wrote⟩ := NodeProfile.write_of_save attempts.saves
  have grows := Files.Tree.grows_make tree (Files.Path.ofText file).parent
  rw [makes] at grows
  obtain ⟨target, -, way, others⟩ := Files.Tree.at?_of_write grows wrote
  have vacant : tree.at? target = none := by
    cases room with
    | around around =>
      rw [Files.Tree.make_of_hasDirectory around] at makes
      cases makes
      exact free way
    | down rooted noNull down =>
      have isPath := attempts.isPathText noNull
      rw [Files.Tree.locate_of_leadsDown down way, grows.origin_eq]
      exact Files.Tree.at?_eq_none_of_isRooted rooted isPath down fun _ => free
  have elsewhere : place ≠ target := by
    rintro rfl
    rw [there] at vacant
    cases vacant
  rcases others place elsewhere with same | ⟨absent, -⟩
  · rw [same, there]
  · rw [there] at absent
    cases absent

end Command

end PodLaunch
