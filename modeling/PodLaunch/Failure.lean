/-!
# Failures

A failure names what went wrong by its category, the subject that it concerns, and details that help
to mend it. The categories form a small hierarchy, so that a caller may handle every failure of the
resolution of a container alike.
-/

namespace PodLaunch

/-- The kinds of failure. -/
inductive FailureCategory where
  /-- Any failure. -/
  | general
  /-- A toleration whose operator and value contradict each other. -/
  | invalidToleration
  /-- The mounts or the command of a container cannot be resolved. -/
  | resolution
  /-- A mount names a volume that its pod does not declare. -/
  | unknownVolume
  /-- Two mounts of a container have the same path. -/
  | duplicateMountPath
  /-- A placeholder of a command has no value. -/
  | unresolvedPlaceholder
  /-- A manifest cannot be read or is malformed. -/
  | manifest
  /-- A node profile cannot be read or is malformed. -/
  | configuration
  deriving DecidableEq, Repr

namespace FailureCategory

/-- The wider categories of a category, the nearest one first. -/
def ancestors : FailureCategory → List FailureCategory
  | .general => []
  | .invalidToleration | .resolution | .manifest | .configuration => [.general]
  | .unknownVolume | .duplicateMountPath | .unresolvedPlaceholder => [.resolution, .general]

end FailureCategory

/-- A failure. -/
structure Failure where
  /-- What kind of failure it is. -/
  category : FailureCategory
  /-- The offending name, path or identifier; for the wide categories, the whole message. -/
  subject : String
  /-- Further information or advice. -/
  details : Option String := none
  deriving DecidableEq, Repr

namespace Failure

/-- The message of a failure. -/
def message (failure : Failure) : String :=
  match failure.category with
  | .unknownVolume => "Volume mount references unknown volume '" ++ failure.subject ++ "'"
  | .duplicateMountPath => "Mount path '" ++ failure.subject ++ "' is used by more than one mount"
  | .unresolvedPlaceholder =>
    "Placeholder '\x7b\x7b " ++ failure.subject ++ " \x7d\x7d' cannot be resolved"
  | _ => failure.subject

/-- The message with the details, if there are any. -/
def fullText (failure : Failure) : String :=
  match failure.details with
  | some details =>
    if details = "" then failure.message else failure.message ++ "\n\nDetails: " ++ details
  | none => failure.message

end Failure

end PodLaunch
