import PodLaunch.MountPath
import PodLaunch.Proofs.Text.Splitting

/-!
# Canonical mount paths

The place that a path leads to is a stack of directories, and its canonical path names them from the
root. So a canonical path is its own canonical path, a path is continued from its canonical path as
it is from itself, and two paths have one canonical path exactly if they lead to the same place. The
canonical path is also what the general rule for collapsing paths makes of a path from the root.
-/

namespace PodLaunch.MountPath

open Text

/-! ## Steps -/

/-- Whether a component of a path is the name of a directory below, and not an empty step, a step to
the same directory or a step back. -/
structure IsName (component : List Char) : Prop where
  /-- It is not empty. -/
  nonempty : component ≠ []
  /-- It does not stay in the directory. -/
  notSame : component ≠ ['.']
  /-- It does not go back. -/
  notBack : component ≠ ['.', '.']

/-- A name leads one directory down. -/
theorem step_of_isName {component : List Char} (name : IsName component)
    (place : List (List Char)) : step place component = component :: place := by
  rw [step, if_neg (not_or.2 ⟨name.nonempty, name.notSame⟩), if_neg name.notBack]

/-- A step leads to a directory that was passed or is named by it. -/
theorem mem_step {place : List (List Char)} {component name : List Char}
    (member : name ∈ step place component) :
    name ∈ place ∨ name = component ∧ IsName component := by
  rw [step] at member
  split at member
  · exact .inl member
  · rename_i moves
    split at member
    · exact .inl (List.mem_of_mem_tail member)
    · rename_i forward
      rw [not_or] at moves
      rcases List.mem_cons.1 member with rfl | passed
      · exact .inr ⟨rfl, moves.1, moves.2, forward⟩
      · exact .inl passed

/-- Names lead down from a place, one after the other. -/
theorem foldl_step_of_isName {names : List (List Char)} (each : ∀ name ∈ names, IsName name)
    (place : List (List Char)) : names.foldl step place = names.reverse ++ place := by
  induction names generalizing place with
  | nil => rfl
  | cons name names ih =>
    obtain ⟨first, others⟩ := List.forall_mem_cons.1 each
    rw [List.foldl_cons, step_of_isName first, ih others, List.reverse_cons, List.append_assoc,
      List.singleton_append]

/-- Steps lead through directories that were passed or that they name. -/
theorem mem_foldl_step {components place : List (List Char)} {name : List Char}
    (member : name ∈ components.foldl step place) :
    name ∈ place ∨ name ∈ components ∧ IsName name := by
  induction components generalizing place with
  | nil => exact .inl member
  | cons component components ih =>
    rcases ih member with earlier | ⟨later, isName⟩
    · rcases mem_step earlier with passed | ⟨rfl, isName⟩
      · exact .inl passed
      · exact .inr ⟨List.mem_cons_self, isName⟩
    · exact .inr ⟨List.mem_cons_of_mem _ later, isName⟩

/-! ## Places -/

/-- A path leads through directories that it names, and names have no slash. -/
theorem isName_of_mem_directories {path name : List Char} (member : name ∈ directories path) :
    IsName name ∧ '/' ∉ name := by
  rcases mem_foldl_step (List.mem_reverse.1 member) with none | ⟨piece, isName⟩
  · cases none
  · exact ⟨isName, not_mem_of_mem_splitOnChar piece⟩

/-- Behind a slash, a path is continued from the place before it. -/
theorem directories_append_cons (path rest : List Char) :
    directories (path ++ '/' :: rest) =
      ((splitOnChar '/' rest).foldl step (directories path).reverse).reverse := by
  rw [directories, splitOnChar_append_cons, List.foldl_append, directories, List.reverse_reverse]

/-- A slash at the beginning of a path leads nowhere. -/
theorem directories_cons_slash (path : List Char) :
    directories ('/' :: path) = directories path := by
  rw [← List.nil_append ('/' :: path), directories_append_cons]
  rfl

/-- The path of names leads through the directories with these names. -/
theorem directories_ofDirectories {names : List (List Char)}
    (each : ∀ name ∈ names, IsName name ∧ '/' ∉ name) :
    directories (ofDirectories names) = names := by
  rw [ofDirectories, directories_cons_slash, directories]
  by_cases none : names = []
  · subst none
    rfl
  · rw [splitOnChar_joinWithChar none fun name member => (each name member).2,
      foldl_step_of_isName fun name member => (each name member).1, List.append_nil,
      List.reverse_reverse]

/-- The canonical path leads to the same place. -/
theorem directories_normalize (path : String) :
    directories (normalize path).toList = directories path.toList := by
  rw [normalize, String.toList_ofList]
  exact directories_ofDirectories fun name => isName_of_mem_directories

/-- Two paths have one canonical path exactly if they lead through the same directories. -/
theorem normalize_eq_iff (path other : String) :
    normalize path = normalize other ↔ directories path.toList = directories other.toList := by
  constructor
  · intro same
    rw [← directories_normalize, same, directories_normalize]
  · intro same
    rw [normalize, same, normalize]

/-! ## Canonical paths -/

/-- Whether a path is canonical: it begins with one slash and leads from name to name. -/
structure IsCanonical (path : List Char) : Prop where
  /-- It begins with a slash. -/
  slash : path.head? = some '/'
  /-- It does not begin with two of them. -/
  single : path.tail.head? ≠ some '/'
  /-- It ends with a slash only if it is the path of the root. -/
  last : path.getLast? = some '/' → path = ['/']
  /-- Behind the slash there are names between slashes, unless it is the path of the root. -/
  names : path = ['/'] ∨ ∀ component ∈ splitOnChar '/' path.tail, IsName component

/-- A slash at either end of a text makes a piece of it empty. -/
theorem nil_mem_splitOnChar {text : List Char} (slash : text.head? = some '/' ∨
    text.getLast? = some '/') : [] ∈ splitOnChar '/' text := by
  rcases slash with begins | ends
  · obtain ⟨rest, rfl⟩ := List.head?_eq_some_iff.1 begins
    rw [← List.nil_append ('/' :: rest), splitOnChar_append_cons]
    exact List.mem_append_left _ List.mem_cons_self
  · obtain ⟨front, rfl⟩ := List.getLast?_eq_some_iff.1 ends
    rw [splitOnChar_append_cons]
    exact List.mem_append_right _ List.mem_cons_self

/-- The path of names is canonical. -/
theorem isCanonical_ofDirectories {names : List (List Char)}
    (each : ∀ name ∈ names, IsName name ∧ '/' ∉ name) : IsCanonical (ofDirectories names) := by
  rw [ofDirectories]
  by_cases none : names = []
  · subst none
    exact ⟨rfl, nofun, fun _ => rfl, .inl rfl⟩
  · have pieces : ∀ component ∈ splitOnChar '/' (joinWithChar '/' names), IsName component := by
      rw [splitOnChar_joinWithChar none fun name member => (each name member).2]
      exact fun name member => (each name member).1
    have noSlash : ¬ ((joinWithChar '/' names).head? = some '/' ∨
        (joinWithChar '/' names).getLast? = some '/') :=
      fun slash => (pieces [] (nil_mem_splitOnChar slash)).nonempty rfl
    rw [not_or] at noSlash
    refine ⟨rfl, noSlash.1, fun ends => ?_, .inr pieces⟩
    rw [List.getLast?_cons, Option.some.injEq] at ends
    cases last : (joinWithChar '/' names).getLast? with
    | none => rw [List.getLast?_eq_none_iff.1 last]
    | some c =>
      rw [last] at ends
      exact absurd (last.trans (congrArg some ends)) noSlash.2

/-- The canonical path of a path is canonical. -/
theorem isCanonical_normalize (path : String) : IsCanonical (normalize path).toList := by
  rw [normalize, String.toList_ofList]
  exact isCanonical_ofDirectories fun name => isName_of_mem_directories

/-! ## The rule for paths of any kind

A path of any kind may begin with no slash, with one, or with exactly two, which mean another root
than one does. Steps back stay in a path without a root where there is nothing to go back from.
-/

/-- The slashes that a path keeps at its beginning: none and two are kept, any others count as
one. -/
def leadingSlashes (path : List Char) : Nat :=
  match (path.takeWhile (· == '/')).length with
  | 0 => 0
  | 2 => 2
  | _ => 1

/-- Take one step of a path with some slashes at its beginning. -/
def collapseStep (slashes : Nat) (place : List (List Char)) (component : List Char) :
    List (List Char) :=
  if component = [] ∨ component = ['.'] then place
  else if component ≠ ['.', '.'] ∨ slashes = 0 ∧ place = [] ∨ place.head? = some ['.', '.'] then
    component :: place
  else place.tail

/-- A path of any kind without redundant steps. -/
def collapse (path : List Char) : List Char :=
  let slashes := leadingSlashes path
  let place := ((splitOnChar '/' path).foldl (collapseStep slashes) []).reverse
  let collapsed := List.replicate slashes '/' ++ joinWithChar '/' place
  if collapsed = [] then ['.'] else collapsed

example : [collapse "//a/../../b".toList, collapse "///a/./b/".toList, collapse "../a/..".toList] =
    ["//b".toList, "/a/b".toList, "..".toList] := by
  decide

/-- From a root, steps back never stay. -/
theorem foldl_collapseStep {slashes : Nat} (rooted : slashes ≠ 0) {place : List (List Char)}
    (down : ['.', '.'] ∉ place) (components : List (List Char)) :
    components.foldl (collapseStep slashes) place = components.foldl step place := by
  induction components generalizing place with
  | nil => rfl
  | cons component components ih =>
    have same : collapseStep slashes place component = step place component := by
      have top : place.head? ≠ some ['.', '.'] := fun first => down (List.mem_of_head? first)
      by_cases back : component = ['.', '.'] <;> simp [collapseStep, step, rooted, top, back]
    have staysDown : ['.', '.'] ∉ step place component := by
      intro member
      rcases mem_step member with passed | ⟨rfl, isName⟩
      · exact down passed
      · exact isName.notBack rfl
    rw [List.foldl_cons, List.foldl_cons, same, ih staysDown]

/-- Slashes at the beginning of a path lead nowhere. -/
theorem directories_dropWhile (path : List Char) :
    directories (path.dropWhile (· == '/')) = directories path := by
  induction path with
  | nil => rfl
  | cons c rest ih =>
    by_cases slash : c = '/'
    · subst slash
      rw [List.dropWhile_cons_of_pos (by simp), ih, directories_cons_slash]
    · rw [List.dropWhile_cons_of_neg (by simpa using slash)]

/-- Behind a slash and a text without the slashes at its beginning, one slash is kept. -/
theorem leadingSlashes_cons_dropWhile (path : List Char) :
    leadingSlashes ('/' :: path.dropWhile (· == '/')) = 1 := by
  have stopped : (path.dropWhile (· == '/')).takeWhile (· == '/') = [] := by
    cases behind : path.dropWhile (· == '/') with
    | nil => rfl
    | cons c rest =>
      have notSlash := List.head?_dropWhile_not (· == '/') path
      rw [behind] at notSlash
      exact List.takeWhile_cons_of_neg (by simpa using notSlash)
  rw [leadingSlashes, List.takeWhile_cons_of_pos (by simp), stopped]
  rfl

/-- The canonical path of a path is what is left of its steps behind a single slash. -/
theorem toList_normalize (path : String) :
    (normalize path).toList = collapse ('/' :: path.toList.dropWhile (· == '/')) := by
  have place : (splitOnChar '/' ('/' :: path.toList.dropWhile (· == '/'))).foldl
      (collapseStep 1) [] = (directories path.toList).reverse := by
    rw [foldl_collapseStep (by decide) List.not_mem_nil, ← directories_dropWhile,
      ← directories_cons_slash, directories, List.reverse_reverse]
  simp only [normalize, String.toList_ofList, collapse, leadingSlashes_cons_dropWhile, place,
    List.reverse_reverse, List.replicate_one, List.singleton_append]
  exact (if_neg (List.cons_ne_nil _ _)).symm

/-! ## The laws of canonical paths -/

/-- The canonical path of a path is canonical, and it is what the rule for paths of any kind makes
of the path behind a single slash. It is its own canonical path, a path is continued from it as it
is from the path itself, and two paths have the same one exactly if their steps lead through the
same directories. -/
theorem normalize_laws (path : String) :
    IsCanonical (normalize path).toList ∧
    (normalize path).toList = collapse ('/' :: path.toList.dropWhile (· == '/')) ∧
    normalize (normalize path) = normalize path ∧
    (∀ rest, normalize (path ++ "/" ++ rest) = normalize (normalize path ++ "/" ++ rest)) ∧
    ∀ other, normalize path = normalize other ↔
      directories path.toList = directories other.toList := by
  refine ⟨isCanonical_normalize path, toList_normalize path, ?_, fun rest => ?_,
    normalize_eq_iff path⟩
  · rw [normalize_eq_iff, directories_normalize]
  · have behind (front : String) :
        (front ++ "/" ++ rest).toList = front.toList ++ '/' :: rest.toList := by
      simp
    rw [normalize_eq_iff, behind, behind, directories_append_cons, directories_append_cons,
      directories_normalize]

end PodLaunch.MountPath
