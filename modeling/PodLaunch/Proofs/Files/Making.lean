import Mathlib.Data.List.Induction
import PodLaunch.Proofs.Files.Writing

/-!
# Directories that are made

Making a directory with all directories around it adds directories and changes nothing that is
there, whether it comes to its end or not. Along names that only lead down it comes to its end or
adds nothing, and then a file can be written behind them. Behind a pair of dots, or with a name that
is too long, it may end with some of the directories made.
-/

namespace PodLaunch.Files.Tree

variable {tree made : Tree} {place : List String} {path : Path} {entry : Entry}
  {result : Except FileError Unit}

/-! ## Growing -/

/-- Everything stays where it is, and some directories may be added. -/
structure Grows (tree made : Tree) : Prop where
  /-- The home directory does not move. -/
  home : made.home = tree.home
  /-- What is at a place stays there; where nothing is, there may be a directory afterwards. -/
  at? : ∀ place, made.at? place = tree.at? place ∨
    tree.at? place = none ∧ made.at? place = some .directory

/-- Files grow if nothing happens to them. -/
theorem Grows.refl (tree : Tree) : Grows tree tree :=
  ⟨rfl, fun _ => .inl rfl⟩

/-- Files that grow twice grow. -/
theorem Grows.trans {between : Tree} (first : Grows tree between) (second : Grows between made) :
    Grows tree made := by
  refine ⟨second.home.trans first.home, fun place => ?_⟩
  rcases second.at? place with same | ⟨free, directory⟩
  · rw [same]
    exact first.at? place
  · rcases first.at? place with same | ⟨_, occupied⟩
    · exact .inr ⟨same ▸ free, directory⟩
    · rw [free] at occupied
      cases occupied

/-- A directory put where nothing is makes files grow. -/
theorem grows_put (free : tree.at? place = none) : Grows tree (tree.put place .directory) := by
  refine ⟨home_put tree place .directory, fun other => ?_⟩
  rw [at?_put (by simp [free])]
  split
  · rename_i same
    exact .inr ⟨same ▸ free, rfl⟩
  · exact .inl rfl

/-! ## One directory -/

/-- Making a single directory makes files grow. -/
theorem grows_of_makeUnlessThere (there : tree.makeUnlessThere path = .ok made) :
    Grows tree made := by
  rcases (makeUnlessThere_eq_ok there).2 with rfl | ⟨place, _, free, rfl⟩
  · exact .refl made
  · exact grows_put free

/-- Making directories makes files grow, whether all of them are made or not. -/
theorem grows_makeNamed (start : Start) (tree : Tree) (reversed : List String) :
    Grows tree (makeNamed start tree reversed).1 := by
  induction reversed with
  | nil =>
    rw [makeNamed]
    split
    · rename_i there
      exact grows_of_makeUnlessThere there
    · exact .refl tree
  | cons name reversed ih =>
    rw [makeNamed]
    split
    · rename_i there
      exact grows_of_makeUnlessThere there
    · split
      · exact .refl tree
      · split
        · rename_i around error makes
          rw [makes] at ih
          exact ih
        · rename_i around _ makes
          rw [makes] at ih
          split
          · rename_i there
            exact ih.trans (grows_of_makeUnlessThere there)
          · exact ih

/-- Making a directory with those around it makes files grow. -/
theorem grows_make (tree : Tree) (path : Path) : Grows tree (tree.make path).1 :=
  grows_makeNamed path.start tree path.names.reverse

/-! ## Ways that lead down -/

/-- Where a path begins. -/
def origin (tree : Tree) (start : Start) : List String :=
  if start = .home then tree.home else []

/-- A name leads down to what has that name in a directory. -/
def LeadsDown (name : String) : Prop :=
  name ≠ ".." ∧ name.utf8ByteSize ≤ longestName

instance (name : String) : Decidable (LeadsDown name) :=
  inferInstanceAs (Decidable (name ≠ ".." ∧ name.utf8ByteSize ≤ longestName))

/-- Around everything there is a directory. -/
def IsRooted (tree : Tree) : Prop :=
  ∀ place name entry, tree.at? (place ++ [name]) = some entry → tree.at? place = some .directory

/-- A single name leads down. -/
theorem walk_singleton {name : String} (isDirectory : tree.at? place = some .directory)
    (down : LeadsDown name) : tree.walk place [name] = .ok (place ++ [name]) := by
  rw [walk, isDirectory]
  dsimp only
  rw [if_neg down.1, if_neg (Nat.not_lt.2 down.2), walk]

/-- Names that lead down lead to the place with these names. -/
theorem eq_append_of_walk {start names : List String} (down : ∀ name ∈ names, LeadsDown name)
    (way : tree.walk start names = .ok place) : place = start ++ names := by
  induction names generalizing start with
  | nil =>
    cases way
    rw [List.append_nil]
  | cons name names ih =>
    obtain ⟨first, rest⟩ := List.forall_mem_cons.1 down
    rw [walk] at way
    split at way
    · cases way
    · cases way
    · rw [if_neg first.1, if_neg (Nat.not_lt.2 first.2)] at way
      rw [ih rest way, List.append_assoc]
      rfl

/-- If there is a directory around everything, names lead down to whatever is there. -/
theorem walk_of_isRooted (rooted : tree.IsRooted) {start names : List String}
    (down : ∀ name ∈ names, LeadsDown name) (there : tree.at? (start ++ names) = some entry) :
    tree.walk start names = .ok (start ++ names) := by
  induction names using List.reverseRecOn generalizing entry with
  | nil => rw [walk, List.append_nil]
  | append_singleton names name ih =>
    rw [← List.append_assoc] at there ⊢
    have isDirectory := rooted _ _ _ there
    have way := ih (fun name member => down name (List.mem_append_left _ member)) isDirectory
    rw [walk_append, way]
    exact walk_singleton isDirectory (down name (by simp))

/-- A path that leads down leads to a single place at most. -/
theorem locate_of_leadsDown (down : ∀ name ∈ path.names, LeadsDown name)
    (way : tree.locate path = .ok place) : place = tree.origin path.start ++ path.names :=
  eq_append_of_walk down ((locate_eq_ok_iff tree path place).1 way).2

/-- Files that grow have the same places to begin at. -/
theorem Grows.origin_eq (grows : Grows tree made) (start : Start) :
    made.origin start = tree.origin start := by
  rw [origin, origin, grows.home]

/-- If there is a directory around everything, nothing is where a path that leads down leads to
nothing. -/
theorem at?_eq_none_of_isRooted (rooted : tree.IsRooted) (isPath : IsPathText path.toText)
    (down : ∀ name ∈ path.names, LeadsDown name)
    (free : ∀ place, tree.locate path = .ok place → tree.at? place = none) :
    tree.at? (tree.origin path.start ++ path.names) = none := by
  cases occupied : tree.at? (tree.origin path.start ++ path.names) with
  | none => rfl
  | some entry =>
    have way := walk_of_isRooted rooted down occupied
    rw [← occupied]
    exact free _ ((locate_eq_ok_iff tree _ _).2 ⟨isPath, way⟩)

section Behind

variable {start : Start} {names : List String} {name : String}
  (down : ∀ step ∈ names ++ [name], LeadsDown step)
  (isPath : IsPathText (Path.mk start (names ++ [name])).toText)

include down isPath

end Behind

/-- A path that leads to nothing leads to no place where anything is. -/
theorem free_of_hasAny (nothing : tree.hasAny path = .ok false) (way : tree.locate path = .ok place) :
    tree.at? place = none := by
  cases found : tree.at? place with
  | none => rfl
  | some entry =>
    rw [hasAny, find, way] at nothing
    simp only [bind, Except.bind, found] at nothing
    cases nothing

/-- The text of a path is one of a path if it can be asked whether the path leads to anything. -/
theorem isPathText_of_hasAny {isThere : Bool} (asked : tree.hasAny path = .ok isThere)
    (noNull : '\x00' ∉ path.toText.toList) : IsPathText path.toText := by
  by_contra noPath
  rcases locate_of_not_isPathText tree noPath with ⟨null, -⟩ | long
  · exact noNull null
  · rw [hasAny, find, long] at asked
    cases asked

/-- A file that is written once directories have been made takes the place of what was where it
is, and nothing else that was there changes. -/
theorem at?_of_write (grows : Grows tree made) {written : Tree} {content : List UInt8}
    (wrote : made.write path content = .ok written) :
    ∃ target, written.locate path = .ok target ∧ made.locate path = .ok target ∧
      ∀ other, other ≠ target → written.at? other = tree.at? other ∨
        tree.at? other = none ∧ written.at? other = some .directory := by
  obtain ⟨target, way, free, rfl⟩ := write_eq_ok wrote
  refine ⟨target, locate_put free _ way, way, fun other elsewhere => ?_⟩
  rw [at?_put free, if_neg elsewhere]
  exact grows.at? other

end PodLaunch.Files.Tree
