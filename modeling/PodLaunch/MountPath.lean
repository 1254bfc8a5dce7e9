import PodLaunch.Text.Lines

/-!
# Mount paths

Two mount paths are the same place if they lead through the same directories once empty steps, steps
to the same directory and steps back are carried out. A step back from the root stays there.
-/

namespace PodLaunch.MountPath

/-- Take one step from a place, which is given by the directories that lead to it, the last one
first. -/
def step (place : List (List Char)) (component : List Char) : List (List Char) :=
  if component = [] ∨ component = ['.'] then place
  else if component = ['.', '.'] then place.tail
  else component :: place

/-- The directories that a path leads through, the first one first. -/
def directories (path : List Char) : List (List Char) :=
  ((Text.splitOnChar '/' path).foldl step []).reverse

/-- The path of a place: a slash, and the directories with a slash between them. -/
def ofDirectories (place : List (List Char)) : List Char :=
  '/' :: Text.joinWithChar '/' place

/-- The canonical path to the place that a path leads to from the root. -/
def normalize (path : String) : String :=
  String.ofList (ofDirectories (directories path.toList))

/-- Whether a path starts at the root. -/
def isAbsolute (path : String) : Bool :=
  path.toList.head? == some '/'

end PodLaunch.MountPath
