import Std.Time.DateTime.Timestamp
import PodLaunch.Command.Run

/-!
# The program

Looks at the files that the arguments may name, carries out the command line on them, and writes
back what has changed. All decisions are made by `Command.run`.
-/

namespace PodLaunch.Program

open Command Files

/-- The texts in an argument that may name a file: the argument itself, what follows an equals sign,
and what follows the letter of an option. -/
def possibleNames (argument : String) : List String :=
  let chars := argument.toList
  [argument, String.ofList ((chars.dropWhile (· ≠ '=')).drop 1), String.ofList (chars.drop 2)]

/-- The places that a path leads through, from a place on. -/
def placesOn (place : List String) : List String → List (List String)
  | [] => [place]
  | name :: names =>
    place :: placesOn (if name = ".." then place.dropLast else place ++ [name]) names

/-- The places of everything that a path leads through. -/
def placesOf (home : List String) (path : Files.Path) : List (List String) :=
  placesOn (if path.start = .home then home else []) path.names

/-- The text of a place. -/
def placeText (place : List String) : String :=
  (Files.Path.mk .root place).toText

/-- What is at a place. -/
def look (place : List String) : IO (Option Entry) := do
  let path := (← IO.currentDir) / placeText place
  if ← path.isDir then
    return some .directory
  else if ← path.pathExists then
    return some (.file (← IO.FS.readBinFile path).toList)
  else
    return none

/-- The files that arguments may name. -/
def snapshot (arguments : List String) : IO Files.Tree := do
  let home := (Files.Path.ofText (← IO.currentDir).toString).names
  let paths := (arguments.flatMap possibleNames).map Files.Path.ofText
  let mut tree : Files.Tree := { home }
  for place in paths.flatMap (placesOf home) do
    if (tree.at? place).isNone then
      match ← look place with
      | some entry => tree := tree.put place entry
      | none => pure ()
  return tree

/-- Write what has changed, directories before what they hold. -/
def writeBack (before after : Files.Tree) : IO Unit := do
  for (place, entry) in after.entries do
    if before.at? place ≠ some entry then
      match entry with
      | .directory => IO.FS.createDirAll (placeText place)
      | .file content => IO.FS.writeBinFile (placeText place) ⟨content.toArray⟩

/-- The present time in universal time. -/
def timeText : IO String := do
  let seconds := (← Std.Time.Timestamp.now).toSecondsSinceUnixEpoch.val
  let epoch : Moment := ⟨⟨1970, 1, 1⟩, 0, 0, 0, 0, none⟩
  match epoch.later seconds with
  | .ok moment => return moment.sentence
  | .error _ => return epoch.sentence

/-- The text of a crash. -/
def crashText : Crash → String
  | .accident accident => accident.message
  | .markup error => error.message
  | .noPath => "no path is given"

end PodLaunch.Program

open PodLaunch Program

/-- Carry out the command line that the arguments form. -/
def main (arguments : List String) : IO UInt32 := do
  let before ← snapshot arguments
  let outcome := Command.run before (← timeText) arguments
  for line in outcome.output do
    IO.println line.line
  IO.eprint outcome.errors
  match outcome.crash with
  | some crash => IO.eprintln (crashText crash)
  | none => pure ()
  writeBack before outcome.tree
  return UInt32.ofNat outcome.status
