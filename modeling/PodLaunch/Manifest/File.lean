import PodLaunch.Loading
import PodLaunch.Logging
import PodLaunch.Manifest.Document

/-!
# Manifest files

A manifest file holds any number of documents. Pods and nodes are collected from them; documents of
other kinds are passed over. Where a single pod or node is asked for, it is the first one, but all
documents of its kind have to be sound.
-/

namespace PodLaunch.Manifest

open Files Text

/-- The documents of a text that hold anything. -/
def presentDocuments (library : Yaml.Library) (text : Decoded) :
    Except Yaml.Defect (List Document) :=
  (library.manifestDocuments text).map fun documents =>
    documents.filter fun document =>
      match document with
      | .null => false
      | _ => true

/-- The failure for a file that is not there. -/
def notFound (home : List String) (path : Files.Path) : Failure :=
  ⟨.manifest, "Manifest file not found: " ++ path.toText,
    some ("Expected location: " ++ (path.absolute home).toText)⟩

/-- The failure for a file that cannot be read. -/
def unreadable (path : Files.Path) (reason : String) : Failure :=
  ⟨.manifest, "Failed to read manifest file: " ++ path.toText,
    some ("The file may have invalid YAML syntax: " ++ reason)⟩

/-- The failure for a document that is no mapping. -/
def notMappings (path : Files.Path) : Failure :=
  ⟨.manifest, "Manifest file " ++ path.toText ++ " contains a non-mapping document", none⟩

/-- Record that a file cannot be read. -/
def refuse {α : Type} (path : Files.Path) (reason : String) : Recorded (Except LoadError α) := do
  Recorded.note .error manifestSource ("Failed to read manifest file: " ++ reason)
  return .error (.failure (unreadable path reason))

/-- The documents of a file that hold anything, before their shape is looked at. -/
def readPresent (library : Yaml.Library) (tree : Files.Tree) (path : Files.Path) :
    Recorded (Except LoadError (List Document)) :=
  match tree.read path with
  | .error refusal => refuse path (FileError.message ⟨refusal, path.toText⟩)
  | .ok content =>
    match presentDocuments library (decodeFile content) with
    | .ok documents => return .ok documents
    | .error .malformed => refuse path Yaml.Defect.malformed.message
    | .error defect => return .error (.accident (.noValue defect))

/-- The documents of a file that is there, all of which have to be mappings. -/
def readExisting (library : Yaml.Library) (tree : Files.Tree) (path : Files.Path) :
    Recorded (Except LoadError (List Document)) := do
  match ← readPresent library tree path with
  | .error error => return .error error
  | .ok documents =>
    if documents.all fun document => document.entries?.isSome then
      Recorded.note .debug manifestSource
        ("Read " ++ toString documents.length ++ " documents from " ++ path.toText)
      return .ok documents
    else return .error (.failure (notMappings path))

/-- The documents of the file at a path. -/
def readAt (library : Yaml.Library) (tree : Files.Tree) (path : Files.Path) :
    Recorded (Except LoadError (List Document)) := do
  match tree.hasAny path with
  | .ok true => readExisting library tree path
  | .ok false =>
    Recorded.note .error manifestSource ("Manifest file not found: " ++ path.toText)
    return .error (.failure (notFound tree.home path))
  | .error refusal => return .error (.accident (.refused ⟨refusal, path.toText⟩))

/-- The documents of the file that a text names. The file is looked for once it has been recorded
that it is going to be read. -/
def readDocuments (files : LoggedFiles) (name : String) :
    Recorded (Except LoadError (List Document)) :=
  let path := Files.Path.ofText name
  (Recorded.note .debug manifestSource ("Reading manifest file: " ++ path.toText)).andThenWith
    fun records _ => readAt files.library (files.treeAfter records) path

/-- The entries of the documents of a file. -/
def read (files : LoggedFiles) (name : String) : Recorded (Except LoadError (List Entries)) := do
  return (← readDocuments files name).map fun documents => documents.filterMap Document.entries?

/-- The documents of a file as values on one line, if all of them can be shown. -/
def readShown (files : LoggedFiles) (name : String) :
    Recorded (Except LoadError (List String)) := do
  match ← readDocuments files name with
  | .error error => return .error error
  | .ok documents =>
    if documents.all Document.isShown then return .ok (documents.map Document.display)
    else return .error (.accident .unshown)

/-! ## Pods and nodes among documents -/

/-- The pods that documents declare, in order. -/
def podsOf (documents : List Entries) : Except DocumentError (List Pod) :=
  (documents.filter (isKind "Pod")).mapM parsePod

/-- The nodes that documents declare, in order. -/
def nodesOf (documents : List Entries) : Except DocumentError (List Node) :=
  (documents.filter (isKind "Node")).mapM parseNode

/-- An outcome for documents as an outcome for their file. A report that cannot be made is an
accident. -/
def ofDocuments {α : Type} (outcome : Except DocumentError α) : Except LoadError α :=
  outcome.mapError fun error =>
    if error.canReport then .failure error.failure else .accident .unshown

/-- The pods and nodes that documents declare, each in order. Documents of other kinds are recorded.
-/
def declarationsOf : List Entries → Recorded (Except LoadError (List Pod × List Node))
  | [] => return .ok ([], [])
  | document :: documents => do
    if isKind "Pod" document then
      match ofDocuments (parsePod document) with
      | .error error => return .error error
      | .ok pod =>
        return (← declarationsOf documents).map fun found => (pod :: found.1, found.2)
    else if isKind "Node" document then
      match ofDocuments (parseNode document) with
      | .error error => return .error error
      | .ok node =>
        return (← declarationsOf documents).map fun found => (found.1, node :: found.2)
    else if canDescribe document then
      Recorded.note .debug manifestSource ("Skipping unsupported document " ++ describe document)
      declarationsOf documents
    else return .error (.accident .unshown)

/-! ## Loading from files -/

/-- Something that is computed from the documents of a file. -/
def load {α : Type} (files : LoggedFiles) (name : String)
    (collect : List Entries → Recorded (Except LoadError α)) :
    Recorded (Except LoadError α) := do
  match ← read files name with
  | .error error => return .error error
  | .ok documents => collect documents

/-- The pods of a file. -/
def loadPods (files : LoggedFiles) (name : String) : Recorded (Except LoadError (List Pod)) :=
  load files name fun documents => pure (ofDocuments (podsOf documents))

/-- The nodes of a file. -/
def loadNodes (files : LoggedFiles) (name : String) :
    Recorded (Except LoadError (List Node)) :=
  load files name fun documents => pure (ofDocuments (nodesOf documents))

/-- The pods and nodes of a file. -/
def loadAll (files : LoggedFiles) (name : String) :
    Recorded (Except LoadError (List Pod × List Node)) :=
  load files name declarationsOf

/-- The failure for a file without a document of a kind. -/
def noneFound (kind name : String) : Failure :=
  ⟨.manifest, "No " ++ kind ++ " document found in " ++ name, none⟩

/-- The first pod of a file. It is recorded if there are more. -/
def loadPod (files : LoggedFiles) (name : String) : Recorded (Except LoadError Pod) := do
  match ← loadPods files name with
  | .error error => return .error error
  | .ok [] => return .error (.failure (noneFound "Pod" name))
  | .ok [pod] => return .ok pod
  | .ok (pod :: pods) =>
    Recorded.note .warning manifestSource
      (name ++ " holds " ++ toString (pods.length + 1) ++ " pods, using '" ++ pod.name ++ "'")
    return .ok pod

/-- The first node of a file. -/
def loadNode (files : LoggedFiles) (name : String) : Recorded (Except LoadError Node) := do
  match ← loadNodes files name with
  | .error error => return .error error
  | .ok [] => return .error (.failure (noneFound "Node" name))
  | .ok (node :: _) => return .ok node

end PodLaunch.Manifest
