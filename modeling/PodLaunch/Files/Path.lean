import PodLaunch.Text.Lines

/-!
# Paths

A path is a sequence of names, counted from the home directory or from the root. Empty names and
single dots are dropped when a path is read; a pair of dots stays, since what it leads to depends on
the files.
-/

namespace PodLaunch.Files

open Text

/-- Where a path begins. -/
inductive Start where
  /-- At the home directory. -/
  | home
  /-- At the root. -/
  | root
  /-- At the root, which is written with two slashes. -/
  | doubleRoot
  deriving DecidableEq, Repr

namespace Start

/-- The start of the path that a text names: exactly two slashes in front are kept. -/
def ofText (s : String) : Start :=
  match (s.toList.takeWhile (· = '/')).length with
  | 0 => .home
  | 2 => .doubleRoot
  | _ => .root

/-- The text of a start. -/
def toText : Start → String
  | .home => ""
  | .root => "/"
  | .doubleRoot => "//"

end Start

/-- A path. -/
structure Path where
  /-- Where the path begins. -/
  start : Start
  /-- The names on the path. -/
  names : List String
  deriving DecidableEq, Repr

namespace Path

/-- The names in a text, between its slashes. -/
def namesOf (s : String) : List String :=
  ((splitOnChar '/' s.toList).map String.ofList).filter fun name => name ≠ "" ∧ name ≠ "."

/-- The path that a text names. -/
def ofText (s : String) : Path :=
  ⟨.ofText s, namesOf s⟩

/-- The text of a path. -/
def toText (path : Path) : String :=
  let text := path.start.toText ++ joinTexts "/" path.names
  if text = "" then "." else text

/-- The path without its last name. -/
def parent (path : Path) : Path :=
  { path with names := path.names.dropLast }

/-- Names with each pair of dots taken together with the name before it; behind names that have been
taken over (last one first). -/
def cancelDots (before : List String) : List String → List String
  | [] => before.reverse
  | name :: names =>
    if name = ".." then cancelDots (before.drop 1) names else cancelDots (name :: before) names

/-- The path counted from the root, given the names on the way to the home directory. -/
def absolute (home : List String) (path : Path) : Path :=
  if path.start = .home then ⟨.root, home ++ path.names⟩ else path

/-- The path counted from the root, with every pair of dots cancelled against the name before it. -/
def canonical (home : List String) (path : Path) : Path :=
  let path := path.absolute home
  { path with names := cancelDots [] path.names }

end Path

end PodLaunch.Files
