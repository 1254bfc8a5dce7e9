import PodLaunch.Manifest.Document
import PodLaunch.Proofs.Labels

/-!
# The shape of a pod document

What a document has to look like to declare a pod, and which pod it then declares. A section may be
left out or hold the absent value; some fields of a container and the labels give way to a default
for any empty value. What no field below names is of no account.
-/

namespace PodLaunch.Manifest

/-! ## Values that may be left out -/

/-- A value is left out, or it is the absent value. -/
def IsAbsent (value : Option Document) : Prop :=
  value = none ∨ value = some .null

/-- A value is left out or empty: the absent value, falsehood, zero, or an empty text, list or
mapping. -/
inductive IsEmptyValue : Option Document → Prop where
  /-- No value. -/
  | leftOut : IsEmptyValue none
  /-- The absent value. -/
  | null : IsEmptyValue (some .null)
  /-- Falsehood. -/
  | falsehood : IsEmptyValue (some (.bool false))
  /-- The integer zero. -/
  | zero : IsEmptyValue (some (.int 0))
  /-- A zero of the floating-point numbers. -/
  | floatZero (value : Number.Binary64) (isZero : value.isZero = true) :
    IsEmptyValue (some (.float value))
  /-- The empty text. -/
  | text : IsEmptyValue (some (.text ""))
  /-- The empty list. -/
  | list : IsEmptyValue (some (.list []))
  /-- The empty mapping. -/
  | mapping : IsEmptyValue (some (.mapping []))

/-- A section holds entries: those of its mapping, or none. -/
def IsSection (value : Option Document) (entries : Entries) : Prop :=
  IsAbsent value ∧ entries = [] ∨ value = some (.mapping entries)

/-- A section holds a list of mappings, or none. -/
def IsEntryList (value : Option Document) (entries : List Entries) : Prop :=
  IsAbsent value ∧ entries = [] ∨ value = some (.list (entries.map .mapping))

/-- A field holds a text, or the empty one if it is left out. -/
def IsName (value : Option Document) (name : String) : Prop :=
  value = none ∧ name = "" ∨ value = some (.text name)

/-- A field holds a text, or none if it is absent. -/
def IsOptionalText (value : Option Document) (text : Option String) : Prop :=
  IsAbsent value ∧ text = none ∨ ∃ given, value = some (.text given) ∧ text = some given

/-- A field holds the elements of a list, or none if it is empty. -/
def IsItems (value : Option Document) (items : List Document) : Prop :=
  IsEmptyValue value ∧ items = [] ∨ value = some (.list items)

/-- A field holds settings of texts to texts, or none if it is empty. -/
def IsSettings (value : Option Document) (settings : List (String × String)) : Prop :=
  IsEmptyValue value ∧ settings = [] ∨ value = some (.mapping (settingEntries settings))

/-- The path of a mount stands under its outer name, or else under its inner name. -/
def IsMountPath (mount : Entries) (path : String) : Prop :=
  mount.get? "mountPath" = some (.text path) ∨
    mount.get? "mountPath" = none ∧ mount.get? "mount_path" = some (.text path)

/-! ## Documents that declare a pod -/

/-- A mount has a name and an absolute path. -/
structure MountShape (mount : Entries) : Prop where
  /-- Its name is a text. -/
  name : ∃ name, mount.get? "name" = some (.text name)
  /-- Its path is a text that begins with a slash. -/
  path : ∃ path, IsMountPath mount path ∧ ∃ steps, path.toList = '/' :: steps

/-- A container has the fields of a container, or leaves them out. -/
structure ContainerShape (container : Entries) : Prop where
  /-- Its name is a text, unless it is left out. -/
  name : ∃ name, IsName (container.get? "name") name
  /-- Its image is a text, unless it is absent. -/
  image : ∃ image, IsOptionalText (container.get? "image") image
  /-- Its command is a list of texts, unless it is empty. -/
  command : ∃ arguments : List String, IsItems (container.get? "command") (arguments.map .text)
  /-- Its mounts are a list of mappings with the shape of mounts, unless it is empty. -/
  mounts : ∃ mounts : List Entries,
    IsItems (container.get? "volumeMounts") (mounts.map .mapping) ∧
      ∀ mount ∈ mounts, MountShape mount

/-- A volume has a name, and a source with the name of a bundle. -/
structure VolumeShape (volume : Entries) : Prop where
  /-- Its name is a text that is not empty. -/
  name : ∃ name, name ≠ "" ∧ volume.get? "name" = some (.text name)
  /-- Its source is a mapping with a name that is not empty. -/
  bundle : ∃ source : Entries, volume.get? "configMap" = some (.mapping source) ∧
    ∃ name, name ≠ "" ∧ source.get? "name" = some (.text name)

/-- The metadata of a pod. -/
structure MetadataShape (metadata : Entries) : Prop where
  /-- The name is a text, unless it is left out. -/
  name : ∃ name, IsName (metadata.get? "name") name
  /-- The labels are a mapping from texts to texts, unless they are empty. -/
  labels : ∃ settings, IsSettings (metadata.get? "labels") settings

/-- The specification of a pod. -/
structure SpecShape (spec : Entries) : Prop where
  /-- The volumes are a list of mappings with the shape of volumes and with distinct names. -/
  volumes : ∃ volumes, IsEntryList (spec.get? "volumes") volumes ∧
    (∀ volume ∈ volumes, VolumeShape volume) ∧
      (volumes.map fun volume => volume.get? "name").Nodup
  /-- The tolerations are a list of mappings that are valid tolerations. -/
  tolerations : ∃ tolerations, IsEntryList (spec.get? "tolerations") tolerations ∧
    ∀ entry ∈ tolerations, ∃ toleration,
      Toleration.validate (.mapping entry) = .valid toleration
  /-- The containers are a list of mappings with the shape of containers, and there is one. -/
  containers : ∃ containers, IsEntryList (spec.get? "containers") containers ∧
    containers ≠ [] ∧ ∀ container ∈ containers, ContainerShape container

/-- A document declares a pod: it is of that kind, and so are its metadata and specification. -/
structure PodShape (document : Entries) : Prop where
  /-- The kind. -/
  kind : document.get? "kind" = some (.text "Pod")
  /-- The metadata. -/
  metadata : ∃ metadata, IsSection (document.get? "metadata") metadata ∧ MetadataShape metadata
  /-- The specification. -/
  spec : ∃ spec, IsSection (document.get? "spec") spec ∧ SpecShape spec

/-! ## What a document declares -/

/-- A mount as it is declared. -/
structure MountHolds (entry : Entries) (mount : VolumeMount) : Prop where
  /-- Its name. -/
  name : entry.get? "name" = some (.text mount.name)
  /-- Its path. -/
  path : IsMountPath entry mount.path

/-- A container as it is declared. -/
structure ContainerHolds (entry : Entries) (container : Container) : Prop where
  /-- Its name. -/
  name : IsName (entry.get? "name") container.name
  /-- Its image. -/
  image : IsOptionalText (entry.get? "image") container.image
  /-- Its command. -/
  command : IsItems (entry.get? "command") (container.command.map .text)
  /-- Its mounts, in order. -/
  mounts : ∃ mounts : List Entries,
    IsItems (entry.get? "volumeMounts") (mounts.map .mapping) ∧
      List.Forall₂ MountHolds mounts container.mounts

/-- A volume as it is declared. -/
structure VolumeHolds (entry : Entries) (volume : ConfigVolume) : Prop where
  /-- Its name. -/
  name : entry.get? "name" = some (.text volume.name.text)
  /-- Its bundle. -/
  bundle : ∃ source : Entries, entry.get? "configMap" = some (.mapping source) ∧
    source.get? "name" = some (.text volume.bundle.text)

/-- A pod as its document declares it. -/
structure PodHolds (document : Entries) (pod : Pod) : Prop where
  /-- Its name and labels. -/
  metadata : ∃ metadata, IsSection (document.get? "metadata") metadata ∧
    IsName (metadata.get? "name") pod.name ∧
    IsSettings (metadata.get? "labels") pod.labels.entries
  /-- Its volumes, tolerations and containers, in order. -/
  spec : ∃ spec, IsSection (document.get? "spec") spec ∧
    (∃ volumes, IsEntryList (spec.get? "volumes") volumes ∧
      List.Forall₂ VolumeHolds volumes pod.volumes) ∧
    (∃ tolerations, IsEntryList (spec.get? "tolerations") tolerations ∧
      List.Forall₂ (fun entry toleration =>
        Toleration.validate (.mapping entry) = .valid toleration) tolerations pod.tolerations) ∧
    ∃ containers, IsEntryList (spec.get? "containers") containers ∧
      List.Forall₂ ContainerHolds containers pod.containers

end PodLaunch.Manifest
