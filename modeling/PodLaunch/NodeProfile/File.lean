import PodLaunch.Loading
import PodLaunch.Logging
import PodLaunch.NodeProfile.Text

/-!
# Profile files

A profile is kept in a file of its own. Loading it reports what is wrong with the file; saving it
makes the directories around the file.
-/

namespace PodLaunch.NodeProfile

open Files Text

/-- Whether all keys of a mapping are texts. -/
def hasTextKeys (entries : Entries) : Bool :=
  entries.all fun entry =>
    match entry.1 with
    | .text _ => true
    | _ => false

/-- The profile that the document of a file at a path denotes. -/
def ofDocument (path : String) (d : Document) : Except LoadError NodeProfile :=
  match d.entries? with
  | none =>
    .error (.failure ⟨.configuration, "Node profile " ++ path ++ " must contain a mapping", none⟩)
  | some entries =>
    if !hasTextKeys entries then .error (.accident .keyNotText)
    else
      match validate (.mapping entries) with
      | .valid profile => .ok profile
      | .invalid problems =>
        .error (.failure ⟨.configuration, "Invalid node profile " ++ path,
          some (problemLines problems)⟩)
      | .unmatchable key => .error (.failure (Toleration.unmatchableFailure key))

/-- The profile in the text of a file at a path. -/
def ofText (library : Yaml.Library) (path : String) (text : Decoded) :
    Except LoadError NodeProfile :=
  match library.profileDocument text with
  | .ok d => ofDocument path d
  | .error .malformed =>
    .error (.failure ⟨.configuration, "Failed to parse node profile " ++ path,
      some Yaml.Defect.malformed.message⟩)
  | .error defect => .error (.accident (.noValue defect))

/-- The profile in the file at a path. -/
def loadAt (library : Yaml.Library) (tree : Files.Tree) (path : Files.Path) :
    Except LoadError NodeProfile :=
  match tree.hasAny path with
  | .error refusal => .error (.accident (.refused ⟨refusal, path.toText⟩))
  | .ok false =>
    .error (.failure ⟨.configuration, "Node profile not found: " ++ path.toText,
      some "Create one with: pod-placement init-node <path>"⟩)
  | .ok true =>
    match tree.read path with
    | .error refusal => .error (.accident (.refused ⟨refusal, path.toText⟩))
    | .ok content => ofText library path.toText (decodeFile content)

/-- The profile in the file that a text names. The file is looked for once it has been recorded that
it is going to be loaded. -/
def load (files : LoggedFiles) (name : String) : Recorded (Except LoadError NodeProfile) :=
  let path := Files.Path.ofText name
  (Recorded.note .debug profileSource ("Loading node profile from " ++ path.toText)).andThenWith
    fun records _ => pure (loadAt files.library (files.treeAfter records) path)

/-- Save a profile in the file that a text names. Gives the files as they are afterwards, whether
the file could be written or not. -/
def save (tree : Files.Tree) (name : String) (profile : NodeProfile) :
    Recorded (Files.Tree × Except FileError Unit) := do
  let path := Files.Path.ofText name
  match tree.make path.parent with
  | (made, .error error) => return (made, .error error)
  | (made, .ok _) =>
    match made.write path (encodeUtf8 (String.ofList profile.toText)) with
    | .error refusal => return (made, .error ⟨refusal, path.toText⟩)
    | .ok written =>
      Recorded.note .info profileSource
        ("Wrote node profile '" ++ profile.nodeName.text ++ "' to " ++ path.toText)
      return (written, .ok ())

end PodLaunch.NodeProfile
