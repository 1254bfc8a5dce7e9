import PodLaunch.Mount
import PodLaunch.Toleration

/-!
# Pods and nodes

A pod has tolerations, volumes with distinct names and at least one container. A node has an
architecture, labels and taints.
-/

namespace PodLaunch

/-- A container of a pod. -/
structure Container where
  /-- The name of the container. -/
  name : String
  /-- The image that it runs. -/
  image : Option String
  /-- The arguments of its command, possibly with placeholders. -/
  command : List String
  /-- The volumes that it mounts. -/
  mounts : List VolumeMount
  deriving DecidableEq, Repr

namespace Container

/-- The container that a document denotes. -/
def validate (d : Document) : Validated Container :=
  (checkModel "ContainerSpec" d).andThen fun entries =>
    ((((required entries "name" checkText).zip
      (optional entries "image" none checkOptionalText)).zip
      (optional entries "command" [] (checkTuple checkText))).zip
      (optionalAs entries "volumeMounts" "volume_mounts" []
        (checkTuple VolumeMount.validate))).map
      fun (((name, image), command), mounts) => ⟨name, image, command, mounts⟩

/-- A container as a mapping. -/
def toDocument (container : Container) : Document :=
  .mapping
    [(.text "name", .text container.name),
      (.text "image", (container.image.map Document.text).getD .null),
      (.text "command", .list (container.command.map Document.text)),
      (.text "volume_mounts", .list (container.mounts.map VolumeMount.toDocument))]

instance : Model Container where
  name := "ContainerSpec"
  validate := validate
  toDocument := toDocument

end Container

/-- A pod. -/
structure Pod where
  /-- The name of the pod. -/
  name : String
  /-- Its labels. -/
  labels : Labels
  /-- Its tolerations. -/
  tolerations : List Toleration
  /-- The volumes that it declares. -/
  volumes : List ConfigVolume
  /-- Its containers. -/
  containers : List Container
  /-- No two volumes have the same name. -/
  distinct_volumes : (volumeNames volumes).Nodup
  /-- There is a container. -/
  containers_ne : containers ≠ []
  deriving DecidableEq, Repr

/-- The first text of a list that occurred before it. -/
def firstRepeated? (seen : List String) : List String → Option String
  | [] => none
  | name :: names => if name ∈ seen then some name else firstRepeated? (name :: seen) names

/-- No text is repeated exactly if the texts are distinct and none was seen before. -/
theorem firstRepeated?_eq_none_iff (seen names : List String) :
    firstRepeated? seen names = none ↔ names.Nodup ∧ ∀ name ∈ names, name ∉ seen := by
  induction names generalizing seen with
  | nil => simp [firstRepeated?]
  | cons name names ih =>
    by_cases h : name ∈ seen
    · simp [firstRepeated?, h]
    · simp only [firstRepeated?, if_neg h, ih, List.nodup_cons, List.mem_cons, forall_eq_or_imp]
      constructor
      · rintro ⟨distinct, fresh⟩
        exact ⟨⟨fun member => fresh name member (Or.inl rfl), distinct⟩, h,
          fun other member => fun old => fresh other member (Or.inr old)⟩
      · rintro ⟨⟨new, distinct⟩, _, fresh⟩
        refine ⟨distinct, fun other member => ?_⟩
        rintro (rfl | old)
        · exact new member
        · exact fresh other member old

/-- The volumes of a pod: their names have to be distinct. -/
def checkVolumes (volumes : Validated (List ConfigVolume)) :
    Validated { volumes : List ConfigVolume // (volumeNames volumes).Nodup } :=
  volumes.andThen fun volumes =>
    match h : firstRepeated? [] (volumeNames volumes) with
    | none => .valid ⟨volumes, ((firstRepeated?_eq_none_iff [] _).1 h).1⟩
    | some name => .invalid [⟨[.field "volumes"], .broken (.distinctVolumes name)⟩]

/-- The containers of a pod: there has to be one. -/
def checkContainers (containers : Validated (List Container)) :
    Validated { containers : List Container // containers ≠ [] } :=
  containers.andThen fun containers =>
    if h : containers = [] then .invalid [⟨[.field "containers"], .broken .someContainer⟩]
    else .valid ⟨containers, h⟩

namespace Pod

/-- A pod from its parts. -/
def ofParts (name : Validated String) (labels : Validated Labels)
    (tolerations : Validated (List Toleration)) (volumes : Validated (List ConfigVolume))
    (containers : Validated (List Container)) : Validated Pod :=
  ((((name.zip labels).zip tolerations).zip (checkVolumes volumes)).zip
    (checkContainers containers)).map
    fun ((((name, labels), tolerations), volumes), containers) =>
      ⟨name, labels, tolerations, volumes.val, containers.val, volumes.property,
        containers.property⟩

/-- The pod that a document denotes. -/
def validate (d : Document) : Validated Pod :=
  (checkModel "PodSpec" d).andThen fun entries =>
    ofParts (required entries "name" checkText) (optional entries "labels" .empty checkLabels)
      (optional entries "tolerations" [] (checkTuple Toleration.validate))
      (optional entries "volumes" [] (checkTuple ConfigVolume.validate))
      (required entries "containers" (checkTuple Container.validate))

/-- A pod as a mapping. -/
def toDocument (pod : Pod) : Document :=
  .mapping
    [(.text "name", .text pod.name), (.text "labels", pod.labels.toDocument),
      (.text "tolerations", .list (pod.tolerations.map Toleration.toDocument)),
      (.text "volumes", .list (pod.volumes.map ConfigVolume.toDocument)),
      (.text "containers", .list (pod.containers.map Container.toDocument))]

instance : Model Pod where
  name := "PodSpec"
  validate := validate
  toDocument := toDocument

/-- The first container with a name, or the first one of all if no name is given. -/
def container? (pod : Pod) : Option String → Option Container
  | none => pod.containers.head?
  | some name => pod.containers.find? fun container => container.name == name

end Pod

/-- A node. -/
structure Node where
  /-- The name of the node. -/
  name : String
  /-- The architecture of its processors, if known. -/
  architecture : Option String
  /-- Its labels. -/
  labels : Labels
  /-- Its taints. -/
  taints : List Taint
  deriving DecidableEq, Repr

namespace Node

/-- A node from its parts. -/
def ofParts (name : Validated String) (architecture : Validated (Option String))
    (labels : Validated Labels) (taints : Validated (List Taint)) : Validated Node :=
  (((name.zip architecture).zip labels).zip taints).map
    fun (((name, architecture), labels), taints) => ⟨name, architecture, labels, taints⟩

/-- The node that a document denotes. -/
def validate (d : Document) : Validated Node :=
  (checkModel "NodeSpec" d).andThen fun entries =>
    ofParts (required entries "name" checkText)
      (optional entries "architecture" none checkOptionalText)
      (optional entries "labels" .empty checkLabels)
      (optional entries "taints" [] (checkTuple Taint.validate))

/-- A node as a mapping. -/
def toDocument (node : Node) : Document :=
  .mapping
    [(.text "name", .text node.name),
      (.text "architecture", (node.architecture.map Document.text).getD .null),
      (.text "labels", node.labels.toDocument),
      (.text "taints", .list (node.taints.map Taint.toDocument))]

instance : Model Node where
  name := "NodeSpec"
  validate := validate
  toDocument := toDocument

end Node

end PodLaunch
