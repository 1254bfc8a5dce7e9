import PodLaunch.Argument
import PodLaunch.Pod

/-!
# Resolution of a container

The mounts of a container are joined with the volumes of its pod by name, and the placeholders of
its command are filled in. Only names and paths are compared; nothing is looked up outside the pod.
-/

namespace PodLaunch

open Text

/-- Why a container cannot be resolved. -/
inductive ResolutionError where
  /-- A mount names a volume that is not among the declared ones. -/
  | unknownVolume (name : String) (declared : List String)
  /-- A mount has the path of an earlier one. -/
  | duplicateMountPath (path : String)
  /-- A placeholder is not among those with a value. -/
  | unresolvedPlaceholder (identifier : String) (known : List String)
  /-- A pod has no container with a name. -/
  | unknownContainer (pod container : String) (containers : List String)
  deriving DecidableEq, Repr

/-- Texts in order and without repetitions, as an enumeration. -/
def enumerationOrNone : List String → String
  | [] => "none"
  | names => joinTexts ", " names

/-- The failure that reports a cause. -/
def ResolutionError.failure : ResolutionError → Failure
  | .unknownVolume name declared =>
    ⟨.unknownVolume, name, some ("Declared volumes: " ++ enumerationOrNone declared)⟩
  | .duplicateMountPath path => ⟨.duplicateMountPath, path, none⟩
  | .unresolvedPlaceholder identifier known =>
    ⟨.unresolvedPlaceholder, identifier, some ("Known placeholders: " ++ enumerationOrNone known)⟩
  | .unknownContainer pod container containers =>
    ⟨.resolution, "Pod '" ++ pod ++ "' has no container named '" ++ container ++ "'",
      some ("Containers: " ++ joinTexts ", " containers)⟩

/-- Put a text into its place among texts in order, unless it is there already. -/
def insertText (name : String) : List String → List String
  | [] => [name]
  | first :: rest =>
    match compare name first with
    | .lt => name :: first :: rest
    | .eq => first :: rest
    | .gt => first :: insertText name rest

/-- The names of volumes, each once and in order. -/
def declaredNames (volumes : List ConfigVolume) : List String :=
  (volumeNames volumes).foldr insertText []

/-- The bundle behind a name: that of the last volume declared under it. -/
def bundle? (volumes : List ConfigVolume) (name : String) : Option String :=
  (volumes.reverse.find? fun volume => volume.name.text == name).map fun volume =>
    volume.bundle.text

/-- Bind mounts whose paths differ from canonical paths seen before and from each other. -/
def bindMountsFrom (volumes : List ConfigVolume) (seen : List String) :
    List VolumeMount → Except ResolutionError (List MountBinding)
  | [] => .ok []
  | mount :: mounts =>
    match bundle? volumes mount.name with
    | none => .error (.unknownVolume mount.name (declaredNames volumes))
    | some bundle =>
      let path := MountPath.normalize mount.path
      if path ∈ seen then .error (.duplicateMountPath mount.path)
      else do
        let bindings ← bindMountsFrom volumes (path :: seen) mounts
        return ⟨mount.name, mount.path, bundle⟩ :: bindings

/-- One binding for each mount, in order; or the fault of the first mount that has one. -/
def bindMounts (volumes : List ConfigVolume) (mounts : List VolumeMount) :
    Except ResolutionError (List MountBinding) :=
  bindMountsFrom volumes [] mounts

/-- The path of the first binding of a volume. -/
def firstPath? (bindings : List MountBinding) (volume : ConfigVolume) : Option String :=
  (bindings.find? fun binding => binding.volume == volume.name.text).map MountBinding.path

/-- The root of the configuration: the first path of the first volume that is bound at all. -/
def configRoot? (volumes : List ConfigVolume) (bindings : List MountBinding) : Option String :=
  volumes.findSome? (firstPath? bindings)

/-- The placeholder for the root of the configuration. -/
def configRootName : String := "configroot"

/-- The value of a placeholder, given the root of the configuration. -/
def placeholderValue? (root : Option String) (identifier : String) : Option String :=
  if identifier = configRootName then root else none

/-- The placeholders that have a value, given the root of the configuration. -/
def knownPlaceholders (root : Option String) : List String :=
  if root.isSome then [configRootName] else []

/-- One argument of a command with its placeholders filled in. -/
def resolveArgument (root : Option String) (argument : String) : Except ResolutionError String :=
  match Argument.fill (placeholderValue? root) argument with
  | .ok filled => .ok filled
  | .error identifier => .error (.unresolvedPlaceholder identifier (knownPlaceholders root))

/-- The mount plan and the command line for some volumes, mounts and arguments. -/
def resolve (volumes : List ConfigVolume) (mounts : List VolumeMount) (command : List String) :
    Except ResolutionError ResolvedContainer := do
  let bindings ← bindMounts volumes mounts
  let arguments ← command.mapM (resolveArgument (configRoot? volumes bindings))
  return ⟨bindings, arguments⟩

/-- The mount plan and the command line of a container of a pod, given by its name or else the
first. -/
def resolveContainer (pod : Pod) (name : Option String) :
    Except ResolutionError ResolvedContainer :=
  match pod.container? name with
  | some container => resolve pod.volumes container.mounts container.command
  | none =>
    .error (.unknownContainer pod.name (name.getD "None") (pod.containers.map Container.name))

end PodLaunch
