import PodLaunch.Failure
import PodLaunch.MountPath
import PodLaunch.Name

/-!
# Volumes, mounts and resolved containers

A pod declares volumes that are backed by configuration bundles; its containers mount them by name.
A binding says which bundle ends up at which path.
-/

namespace PodLaunch

/-- A volume that a configuration bundle backs. -/
structure ConfigVolume where
  /-- The name by which mounts refer to the volume. -/
  name : Name
  /-- The name of the bundle. -/
  bundle : Name
  deriving DecidableEq, Repr

namespace ConfigVolume

/-- The volume that a document denotes. -/
def validate (d : Document) : Validated ConfigVolume :=
  (checkModel "ConfigVolume" d).andThen fun entries =>
    ((Name.check "name" .volumeNames (required entries "name" checkText)).zip
      (Name.check "configMapRef" .volumeNames
        (requiredAs entries "configMapRef" "config_map_ref" checkText))).map
      fun (name, bundle) => ⟨name, bundle⟩

/-- A volume as a mapping. -/
def toDocument (volume : ConfigVolume) : Document :=
  .mapping
    [(.text "name", .text volume.name.text), (.text "config_map_ref", .text volume.bundle.text)]

instance : Model ConfigVolume where
  name := "ConfigVolume"
  validate := validate
  toDocument := toDocument

end ConfigVolume

/-- The names of volumes, in order. -/
def volumeNames (volumes : List ConfigVolume) : List String :=
  volumes.map fun volume => volume.name.text

/-- The mount of a volume in a container. -/
structure VolumeMount where
  /-- The name of the volume. -/
  name : String
  /-- Where it is mounted. -/
  path : String
  /-- The path starts at the root. -/
  absolute : MountPath.isAbsolute path = true
  deriving DecidableEq, Repr

namespace VolumeMount

/-- A path that has to be absolute, as the field of a mount. -/
def checkPath (path : Validated String) :
    Validated { path : String // MountPath.isAbsolute path = true } :=
  path.andThen fun path =>
    if h : MountPath.isAbsolute path = true then .valid ⟨path, h⟩
    else .invalid [⟨[.field "mountPath"], .broken (.absolutePath path)⟩]

/-- The mount that a document denotes. -/
def validate (d : Document) : Validated VolumeMount :=
  (checkModel "VolumeMount" d).andThen fun entries =>
    ((required entries "name" checkText).zip
      (checkPath (requiredAs entries "mountPath" "mount_path" checkText))).map
      fun (name, path) => ⟨name, path.val, path.property⟩

/-- A mount as a mapping. -/
def toDocument (mount : VolumeMount) : Document :=
  .mapping [(.text "name", .text mount.name), (.text "mount_path", .text mount.path)]

instance : Model VolumeMount where
  name := "VolumeMount"
  validate := validate
  toDocument := toDocument

end VolumeMount

/-- One entry of a mount plan. -/
structure MountBinding where
  /-- The name of the volume. -/
  volume : String
  /-- Where it is mounted. -/
  path : String
  /-- The name of the bundle that backs it. -/
  bundle : String
  deriving DecidableEq, Repr

namespace MountBinding

/-- The binding that a document denotes. -/
def validate (d : Document) : Validated MountBinding :=
  (checkModel "MountBinding" d).andThen fun entries =>
    (((required entries "volume_name" checkText).zip
      (required entries "mount_path" checkText)).zip
      (required entries "source_bundle_name" checkText)).map
      fun ((volume, path), bundle) => ⟨volume, path, bundle⟩

/-- A binding as a mapping. -/
def toDocument (binding : MountBinding) : Document :=
  .mapping
    [(.text "volume_name", .text binding.volume), (.text "mount_path", .text binding.path),
      (.text "source_bundle_name", .text binding.bundle)]

instance : Model MountBinding where
  name := "MountBinding"
  validate := validate
  toDocument := toDocument

/-- A binding as an entry of the plan that starts a container. -/
def toPlanEntry (binding : MountBinding) : Document :=
  .mapping
    [(.text "mountPath", .text binding.path), (.text "sourceBundleName", .text binding.bundle)]

end MountBinding

/-- The mount plan and the command line of a container. -/
structure ResolvedContainer where
  /-- One binding for each mount. -/
  mountPlan : List MountBinding
  /-- The command with all placeholders filled. -/
  command : List String
  deriving DecidableEq, Repr

namespace ResolvedContainer

/-- The resolved container that a document denotes. -/
def validate (d : Document) : Validated ResolvedContainer :=
  (checkModel "ResolvedContainer" d).andThen fun entries =>
    ((optional entries "mount_plan" [] (checkTuple MountBinding.validate)).zip
      (optional entries "resolved_command" [] (checkTuple checkText))).map
      fun (mountPlan, command) => ⟨mountPlan, command⟩

/-- A resolved container as a mapping. -/
def toDocument (container : ResolvedContainer) : Document :=
  .mapping
    [(.text "mount_plan", .list (container.mountPlan.map MountBinding.toDocument)),
      (.text "resolved_command", .list (container.command.map Document.text))]

instance : Model ResolvedContainer where
  name := "ResolvedContainer"
  validate := validate
  toDocument := toDocument

/-- What is needed to start the container. -/
def toPlan (container : ResolvedContainer) : Document :=
  .mapping
    [(.text "mountPlan", .list (container.mountPlan.map MountBinding.toPlanEntry)),
      (.text "resolvedCommand", .list (container.command.map Document.text))]

end ResolvedContainer

end PodLaunch
