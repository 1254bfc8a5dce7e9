import PodLaunch.Files.Tree
import PodLaunch.Log
import PodLaunch.Text.Utf8
import PodLaunch.Yaml.Library

/-!
# Where records go

Records go to the console, and to a file if one is named. Unless everything is asked for, records
for finding defects are dropped, and only warnings and errors appear on the console. A file that
cannot be opened leads to a warning, and work goes on without it.
-/

namespace PodLaunch

open Files Text

/-- Where records go. -/
structure Logging where
  /-- The least level of a record. -/
  level : LogLevel
  /-- The least level of a record on the console. -/
  consoleLevel : LogLevel
  /-- The file. -/
  file : Option Files.Path
  deriving DecidableEq, Repr

namespace Logging

/-- A record as a line, with the time at which it is written. -/
def line (time : String) (record : LogRecord) : String :=
  time ++ " - " ++ record.source ++ " - " ++ record.level.name ++ " - " ++ record.text ++ "\n"

/-- The lines of records from a level on. -/
def linesFrom (level : LogLevel) (time : String) (records : List LogRecord) : String :=
  joinTexts "" ((records.filter (·.level.reaches level)).map (line time))

/-- The lines of records that go to the console. -/
def onConsole (logging : Logging) (time : String) (records : List LogRecord) : String :=
  linesFrom logging.consoleLevel time (records.filter (·.level.reaches logging.level))

/-- The files after records have been added to the file. -/
def addTo (logging : Logging) (tree : Files.Tree) (time : String) (records : List LogRecord) :
    Files.Tree :=
  match logging.file with
  | none => tree
  | some path =>
    match tree.append path (encodeUtf8 (linesFrom logging.level time records)) with
    | .ok tree => tree
    | .error _ => tree

/-- Logging without a file. -/
def withoutFile (verbose : Bool) : Logging :=
  if verbose then ⟨.debug, .debug, none⟩ else ⟨.info, .warning, none⟩

/-- Make a file for records ready at a path, and the directories around it. Gives the files as they
are afterwards. -/
def openFile (tree : Files.Tree) (path : Files.Path) : Files.Tree × Except FileError Files.Path :=
  match tree.make path.parent with
  | (made, .error error) => (made, .error error)
  | (made, .ok _) =>
    let canonical := path.canonical tree.home
    match made.append canonical [] with
    | .ok opened => (opened, .ok canonical)
    | .error refusal => (made, .error ⟨refusal, canonical.toText⟩)

/-- Set logging up, with a file if one is named. Gives the files as they are afterwards. A name with
a null character is no cause for a warning; it breaks the work off. -/
def setUp (tree : Files.Tree) (verbose : Bool) (file : Option String) :
    Recorded (Files.Tree × Except FileError Logging) := do
  let logging := withoutFile verbose
  match file with
  | none => return (tree, .ok logging)
  | some name =>
    match openFile tree (.ofText name) with
    | (tree, .ok path) => return (tree, .ok { logging with file := some path })
    | (tree, .error error) =>
      if error.refusal = .nullCharacter then return (tree, .error error)
      else
        Recorded.note .warning rootSource ("Failed to create log file handler: " ++ error.message)
        return (tree, .ok logging)

end Logging

/-- Files to which the records of what is done with them are added. -/
structure LoggedFiles where
  /-- The files before anything is done. -/
  tree : Files.Tree
  /-- Where records go. -/
  logging : Logging
  /-- The time of the records. -/
  time : String
  /-- How the texts of the files are read. -/
  library : Yaml.Library

namespace LoggedFiles

/-- Files to which no records are added. -/
def ofTree (tree : Files.Tree) : LoggedFiles :=
  ⟨tree, Logging.withoutFile false, "", Yaml.library Yaml.usualRoom⟩

/-- The files once some records have been added. -/
def treeAfter (files : LoggedFiles) (records : List LogRecord) : Files.Tree :=
  files.logging.addTo files.tree files.time records

/-- The files from the time on when some records have been added. -/
def after (files : LoggedFiles) (records : List LogRecord) : LoggedFiles :=
  { files with tree := files.treeAfter records }

end LoggedFiles

end PodLaunch
