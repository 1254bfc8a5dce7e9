import PodLaunch.Failure
import PodLaunch.Files.Tree
import PodLaunch.Log
import PodLaunch.Yaml.Defect

/-!
# Reading files

What reading a file can end with besides its value: a failure that has been reported in words, or an
accident that no report covers.
-/

namespace PodLaunch

open Files

/-- Something that goes wrong without a report. -/
inductive Accident where
  /-- A file is refused. -/
  | refused (error : FileError)
  /-- The text of a file denotes nothing, and is not malformed. -/
  | noValue (defect : Yaml.Defect)
  /-- The key of a profile is not a text. -/
  | keyNotText
  /-- A value that has to be shown has an integer with too many digits. -/
  | unshown
  deriving DecidableEq, Repr

/-- The text of an accident. -/
def Accident.message : Accident → String
  | .refused error => error.message
  | .noValue defect => defect.message
  | .keyNotText => "keywords must be strings"
  | .unshown => Yaml.digitLimitMessage ""

/-- Why a file is not loaded. -/
inductive LoadError where
  /-- The failure has been reported. -/
  | failure (failure : Failure)
  /-- An accident has happened. -/
  | accident (accident : Accident)
  deriving DecidableEq, Repr

end PodLaunch
