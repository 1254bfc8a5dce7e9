import PodLaunch.Files.Path
import PodLaunch.Text.Quoted

/-!
# Files

Files and directories, and the few operations on them that are needed: look something up, make a
directory with all directories around it, and write a file. Paths are counted from the root or from
a home directory.
-/

namespace PodLaunch.Files

open Text

/-- Something with a name in a directory. -/
inductive Entry where
  /-- A file with its content. -/
  | file (content : List UInt8)
  /-- A directory. -/
  | directory
  deriving DecidableEq, Repr

/-- Why an operation on a file fails. -/
inductive Refusal where
  /-- There is nothing at the path. -/
  | absent
  /-- There is something at the path already. -/
  | exists
  /-- Something on the path is no directory. -/
  | notDirectory
  /-- There is a directory at the path. -/
  | isDirectory
  /-- A name on the path, or the path as a whole, is too long. -/
  | tooLong
  /-- The path has a null character, and so cannot be the path of anything. -/
  | nullCharacter
  deriving DecidableEq, Repr

/-- The number and the name of a refusal. One for a null character has no number. -/
def Refusal.text : Refusal → String
  | .absent => "[Errno 2] No such file or directory"
  | .exists => "[Errno 17] File exists"
  | .notDirectory => "[Errno 20] Not a directory"
  | .isDirectory => "[Errno 21] Is a directory"
  | .tooLong => "[Errno 36] File name too long"
  | .nullCharacter => "embedded null byte"

/-- A refusal at a path. -/
structure FileError where
  /-- Why the operation fails. -/
  refusal : Refusal
  /-- The path, as the operation was given it. -/
  path : String
  deriving DecidableEq, Repr

/-- The report of a refusal. One for a null character does not name the path. -/
def FileError.message (error : FileError) : String :=
  match error.refusal with
  | .nullCharacter => error.refusal.text
  | refusal => refusal.text ++ ": " ++ quoted error.path

/-- The number of bytes that a name must not exceed. -/
def longestName : Nat := 255

/-- The number of bytes that a path must not exceed. -/
def longestPath : Nat := 4095

/-- Files and directories. A place is given by the names on the way from the root. -/
structure Tree where
  /-- The place of the home directory. It is there, and so is everything on the way. -/
  home : List String := []
  /-- What is at other places, each place at most once. -/
  entries : List (List String × Entry) := []
  deriving DecidableEq, Repr

namespace Tree

/-- What is at a place. -/
def at? (tree : Tree) (place : List String) : Option Entry :=
  if place.isPrefixOf tree.home then some .directory
  else (tree.entries.find? fun entry => entry.1 == place).map (·.2)

/-- Put something at a place. -/
def put (tree : Tree) (place : List String) (entry : Entry) : Tree :=
  if (tree.entries.any fun old => old.1 == place) then
    { tree with
      entries := tree.entries.map fun old => if old.1 == place then (place, entry) else old }
  else { tree with entries := tree.entries ++ [(place, entry)] }

/-- The place that names lead to from a place, if all of them but the last are those of directories.
A name is looked at once the directory around it is found. The root is its own parent. -/
def walk (tree : Tree) (place : List String) : List String → Except Refusal (List String)
  | [] => .ok place
  | name :: names =>
    match tree.at? place with
    | none => .error .absent
    | some (.file _) => .error .notDirectory
    | some .directory =>
      if name = ".." then walk tree place.dropLast names
      else if longestName < name.utf8ByteSize then .error .tooLong
      else walk tree (place ++ [name]) names

/-- The place that a path leads to. -/
def locate (tree : Tree) (path : Path) : Except Refusal (List String) :=
  let text := path.toText
  if text.toList.contains '\x00' then .error .nullCharacter
  else if longestPath < text.utf8ByteSize then .error .tooLong
  else tree.walk (if path.start = .home then tree.home else []) path.names

/-- What a path leads to. -/
def find (tree : Tree) (path : Path) : Except Refusal Entry := do
  match tree.at? (← tree.locate path) with
  | some entry => .ok entry
  | none => .error .absent

/-- Whether a path leads to anything. A path that is too long leads nowhere, but the question is
refused. -/
def hasAny (tree : Tree) (path : Path) : Except Refusal Bool :=
  match tree.find path with
  | .ok _ => .ok true
  | .error .tooLong => .error .tooLong
  | .error _ => .ok false

/-- Whether a path leads to a directory. -/
def hasDirectory (tree : Tree) (path : Path) : Bool :=
  match tree.find path with
  | .ok .directory => true
  | _ => false

/-- The content of the file that a path leads to. -/
def read (tree : Tree) (path : Path) : Except Refusal (List UInt8) := do
  match ← tree.find path with
  | .file content => .ok content
  | .directory => .error .isDirectory

/-- Make a directory at a path that leads to nothing. -/
def makeOne (tree : Tree) (path : Path) : Except Refusal Tree := do
  let place ← tree.locate path
  match tree.at? place with
  | some _ => .error .exists
  | none =>
    match tree.at? place.dropLast with
    | some .directory => .ok (tree.put place .directory)
    | some (.file _) => .error .notDirectory
    | none => .error .absent

/-- Make a directory at a path, unless there is one. -/
def makeUnlessThere (tree : Tree) (path : Path) : Except FileError Tree :=
  match tree.makeOne path with
  | .ok made => .ok made
  | .error refusal =>
    if refusal ≠ .absent && tree.hasDirectory path then .ok tree
    else .error ⟨refusal, path.toText⟩

/-- Make a directory at a path given by its names, last one first, and before that the directories
around it, where they are missing. Also gives the files as they are when the path is refused. -/
def makeNamed (start : Start) (tree : Tree) : List String → Tree × Except FileError Unit
  | [] =>
    match tree.makeUnlessThere ⟨start, []⟩ with
    | .ok made => (made, .ok ())
    | .error error => (tree, .error error)
  | name :: names =>
    let path : Path := ⟨start, (name :: names).reverse⟩
    match tree.makeUnlessThere path with
    | .ok made => (made, .ok ())
    | .error error =>
      if error.refusal ≠ .absent then (tree, .error error)
      else
        match makeNamed start tree names with
        | (around, .error error) => (around, .error error)
        | (around, .ok _) =>
          match around.makeUnlessThere path with
          | .ok made => (made, .ok ())
          | .error error => (around, .error error)

/-- Make a directory at a path, and before that the directories around it, where they are missing.
Also gives the files as they are when the path is refused. -/
def make (tree : Tree) (path : Path) : Tree × Except FileError Unit :=
  makeNamed path.start tree path.names.reverse

/-- Whether a file can be opened for writing at a path; its place and its content so far. -/
def openAt (tree : Tree) (path : Path) : Except Refusal (List String × List UInt8) := do
  let place ← tree.locate path
  match tree.at? place with
  | some (.file content) => .ok (place, content)
  | some .directory => .error .isDirectory
  | none =>
    match tree.at? place.dropLast with
    | some .directory => .ok (place, [])
    | some (.file _) => .error .notDirectory
    | none => .error .absent

/-- Write a file, in the place of an old one. -/
def write (tree : Tree) (path : Path) (content : List UInt8) : Except Refusal Tree := do
  let (place, _) ← tree.openAt path
  return tree.put place (.file content)

/-- Write at the end of a file, which is made if need be. -/
def append (tree : Tree) (path : Path) (content : List UInt8) : Except Refusal Tree := do
  let (place, old) ← tree.openAt path
  return tree.put place (.file (old ++ content))

end Tree

end PodLaunch.Files
