import PodLaunch.Proofs.Manifest.Pod

/-!
# The pods among the documents

A document with the shape of a pod declares some pod, and one that declares a pod has that shape.
The shape is enough because a value that is left out stands for one that a pod can have.
-/

namespace PodLaunch.Manifest

/-! ## Texts that are names or paths -/

/-- A text names something exactly if it is not empty. -/
theorem exists_name_iff (value : Option Document) :
    (∃ name : Name, value = some (.text name.text)) ↔
      ∃ name, name ≠ "" ∧ value = some (.text name) := by
  constructor
  · rintro ⟨name, found⟩
    exact ⟨name.text, name.text_ne, found⟩
  · rintro ⟨name, notEmpty, found⟩
    exact ⟨⟨name, notEmpty⟩, found⟩

/-- A path is absolute exactly if it begins with a slash. -/
theorem isAbsolute_iff (path : String) :
    MountPath.isAbsolute path = true ↔ ∃ steps, path.toList = '/' :: steps := by
  unfold MountPath.isAbsolute
  cases path.toList with
  | nil => simp
  | cons first rest => simp

/-! ## Parts of a pod -/

/-- A mapping declares a mount exactly if it has the shape of one. -/
theorem exists_mountHolds_iff (entry : Entries) :
    (∃ mount, MountHolds entry mount) ↔ MountShape entry := by
  constructor
  · rintro ⟨mount, named, atPath⟩
    exact ⟨⟨mount.name, named⟩, mount.path, atPath, (isAbsolute_iff mount.path).1 mount.absolute⟩
  · rintro ⟨⟨name, named⟩, path, atPath, absolute⟩
    exact ⟨⟨name, path, (isAbsolute_iff path).2 absolute⟩, named, atPath⟩

/-- A mapping declares a container exactly if it has the shape of one. -/
theorem exists_containerHolds_iff (entry : Entries) :
    (∃ container, ContainerHolds entry container) ↔ ContainerShape entry := by
  constructor
  · rintro ⟨container, named, pictured, commanded, mounts, listed, all⟩
    refine ⟨⟨_, named⟩, ⟨_, pictured⟩, ⟨_, commanded⟩, mounts, listed, fun mount member => ?_⟩
    rw [← exists_mountHolds_iff]
    exact (exists_forall₂_iff MountHolds mounts).1 ⟨_, all⟩ mount member
  · rintro ⟨⟨name, named⟩, ⟨image, pictured⟩, ⟨command, commanded⟩, entries, listed, each⟩
    obtain ⟨mounts, all⟩ := (exists_forall₂_iff MountHolds entries).2 fun mount member =>
      (exists_mountHolds_iff mount).2 (each mount member)
    exact ⟨⟨name, image, command, mounts⟩, named, pictured, commanded, entries, listed, all⟩

/-- A mapping declares a volume exactly if it has the shape of one. -/
theorem exists_volumeHolds_iff (entry : Entries) :
    (∃ volume, VolumeHolds entry volume) ↔ VolumeShape entry := by
  constructor
  · rintro ⟨volume, named, source, found, backed⟩
    exact ⟨(exists_name_iff _).1 ⟨_, named⟩, source, found, (exists_name_iff _).1 ⟨_, backed⟩⟩
  · rintro ⟨isNamed, source, found, isBacked⟩
    obtain ⟨name, named⟩ := (exists_name_iff _).2 isNamed
    obtain ⟨bundle, backed⟩ := (exists_name_iff _).2 isBacked
    exact ⟨⟨name, bundle⟩, named, source, found, backed⟩

/-- Volumes have the names that are declared for them. -/
theorem volumeNames_of_forall₂_volumeHolds {entries : List Entries} {volumes : List ConfigVolume}
    (all : List.Forall₂ VolumeHolds entries volumes) :
    entries.map (fun volume => volume.get? "name") =
      (volumeNames volumes).map fun name => some (.text name) := by
  induction all with
  | nil => rfl
  | @cons entry volume _ _ one _ ih =>
    simp only [volumeNames, List.map_cons, List.map_map] at ih ⊢
    rw [one.name, ih]

/-- Names are distinct exactly if they are as texts of a document. -/
theorem nodup_map_text_iff (names : List String) :
    (names.map fun name => some (Document.text name)).Nodup ↔ names.Nodup :=
  List.nodup_map_iff fun _ _ same => Document.text.inj (Option.some.inj same)

/-! ## Pods -/

/-- What declares a pod has the shape of one. -/
theorem PodHolds.podShape {document : Entries} {pod : Pod}
    (kind : document.get? "kind" = some (.text "Pod")) (holds : PodHolds document pod) :
    PodShape document := by
  obtain ⟨⟨metadata, isMetadata, named, labelled⟩, spec, isSpec,
    ⟨volumes, listedVolumes, allVolumes⟩, ⟨tolerations, listedTolerations, allTolerations⟩,
    containers, listedContainers, allContainers⟩ := holds
  have eachVolume := (exists_forall₂_iff VolumeHolds volumes).1 ⟨_, allVolumes⟩
  have eachToleration := (exists_forall₂_iff _ tolerations).1 ⟨_, allTolerations⟩
  have eachContainer := (exists_forall₂_iff ContainerHolds containers).1 ⟨_, allContainers⟩
  have distinct : (volumes.map fun volume => volume.get? "name").Nodup := by
    rw [volumeNames_of_forall₂_volumeHolds allVolumes, nodup_map_text_iff]
    exact pod.distinct_volumes
  have notEmpty : containers ≠ [] := by
    rintro rfl
    exact pod.containers_ne (List.forall₂_nil_left_iff.1 allContainers)
  refine ⟨kind, ⟨metadata, isMetadata, ⟨_, named⟩, _, labelled⟩, spec, isSpec, ?_, ?_, ?_⟩
  · exact ⟨volumes, listedVolumes,
      fun volume member => (exists_volumeHolds_iff volume).1 (eachVolume volume member), distinct⟩
  · exact ⟨tolerations, listedTolerations, eachToleration⟩
  · exact ⟨containers, listedContainers, notEmpty, fun container member =>
      (exists_containerHolds_iff container).1 (eachContainer container member)⟩

/-- Settings that a field of an interchange document holds have distinct keys. -/
theorem IsSettings.nodup {entries : Entries} {key : String} {settings : List (String × String)}
    (h : (Document.mapping entries).IsInterchange)
    (held : IsSettings (entries.get? key) settings) : (settings.map Prod.fst).Nodup := by
  rcases held with ⟨_, rfl⟩ | found
  · exact List.nodup_nil
  · cases h.of_get? found with
    | mapping _ _ distinct _ => exact nodup_keys_of_settingEntries distinct

/-- What has the shape of a pod declares one. -/
theorem PodShape.exists_podHolds {document : Entries}
    (h : (Document.mapping document).IsInterchange) (shape : PodShape document) :
    ∃ pod, PodHolds document pod := by
  obtain ⟨_, ⟨metadata, isMetadata, ⟨name, named⟩, settings, labelled⟩, spec, isSpec,
    ⟨volumeEntries, listedVolumes, eachVolume, distinct⟩,
    ⟨tolerationEntries, listedTolerations, eachToleration⟩,
    containerEntries, listedContainers, notEmpty, eachContainer⟩ := shape
  obtain ⟨volumes, allVolumes⟩ := (exists_forall₂_iff VolumeHolds volumeEntries).2
    fun volume member => (exists_volumeHolds_iff volume).2 (eachVolume volume member)
  obtain ⟨tolerations, allTolerations⟩ := (exists_forall₂_iff _ tolerationEntries).2
    eachToleration
  obtain ⟨containers, allContainers⟩ := (exists_forall₂_iff ContainerHolds containerEntries).2
    fun container member => (exists_containerHolds_iff container).2 (eachContainer container member)
  have distinctNames : (volumeNames volumes).Nodup := by
    rwa [volumeNames_of_forall₂_volumeHolds allVolumes, nodup_map_text_iff] at distinct
  have someContainer : containers ≠ [] := by
    rintro rfl
    exact notEmpty (List.forall₂_nil_right_iff.1 allContainers)
  have labels : (settings.map Prod.fst).Nodup := labelled.nodup (isMetadata.isInterchange h)
  exact ⟨⟨name, ⟨settings, labels⟩, tolerations, volumes, containers, distinctNames,
    someContainer⟩, ⟨metadata, isMetadata, named, labelled⟩, spec, isSpec,
    ⟨volumeEntries, listedVolumes, allVolumes⟩,
    ⟨tolerationEntries, listedTolerations, allTolerations⟩,
    containerEntries, listedContainers, allContainers⟩

/-- An interchange document declares a pod exactly if it has the shape of one, and the pod that it
declares is the one that it holds. -/
theorem parsePod_outcome {document : Entries} (h : (Document.mapping document).IsInterchange) :
    ((∃ pod, parsePod document = .ok pod) ↔ PodShape document) ∧
      ∀ pod, parsePod document = .ok pod ↔
        document.get? "kind" = some (.text "Pod") ∧ PodHolds document pod := by
  refine ⟨⟨?_, fun shape => ?_⟩, parsePod_eq_ok_iff h⟩
  · rintro ⟨pod, parsed⟩
    obtain ⟨kind, holds⟩ := (parsePod_eq_ok_iff h pod).1 parsed
    exact holds.podShape kind
  · obtain ⟨pod, holds⟩ := shape.exists_podHolds h
    exact ⟨pod, (parsePod_eq_ok_iff h pod).2 ⟨shape.kind, holds⟩⟩

/-- The document of a pod that mounts a bundle. -/
def servicePodDocument : Entries :=
  [(.text "kind", .text "Pod"),
    (.text "metadata", .mapping [(.text "name", .text "service")]),
    (.text "spec", .mapping
      [(.text "volumes", .list [.mapping [(.text "name", .text "settings"),
          (.text "configMap", .mapping [(.text "name", .text "bundle")])]]),
        (.text "containers", .list [.mapping [(.text "command", .list [.text "run"]),
          (.text "volumeMounts", .list [.mapping [(.text "name", .text "settings"),
            (.text "mount_path", .text "/etc/service")]])]])])]

/-- The pod of that document. -/
def servicePod : Pod :=
  { name := "service"
    labels := .empty
    tolerations := []
    volumes := [⟨⟨"settings", by decide⟩, ⟨"bundle", by decide⟩⟩]
    containers := [⟨"", none, ["run"], [⟨"settings", "/etc/service", by decide⟩]⟩]
    distinct_volumes := by decide
    containers_ne := by simp }

/-- The document has the shape of a pod and declares that one. -/
theorem servicePodDocument_declares :
    PodShape servicePodDocument ∧ PodHolds servicePodDocument servicePod := by
  have interchange : (Document.mapping servicePodDocument).IsInterchange := by
    simp [servicePodDocument]
  have parsed : parsePod servicePodDocument = .ok servicePod := by rfl
  have outcome := parsePod_outcome interchange
  exact ⟨outcome.1.1 ⟨_, parsed⟩, ((outcome.2 _).1 parsed).2⟩

end PodLaunch.Manifest
