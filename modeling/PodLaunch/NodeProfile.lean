import PodLaunch.Manifest.Document

/-!
# Node profiles

A profile describes the node that a provider registers: its name and architecture, and the taints
and labels that it carries of its own. Unless the profile says otherwise, two taints keep pods for
other architectures away.
-/

namespace PodLaunch

/-- The architecture of a node whose profile names none. -/
def defaultArchitecture : String := "stackable-linux"

/-- A node profile. -/
structure NodeProfile where
  /-- The name of the node. -/
  nodeName : Name
  /-- Its architecture. -/
  architecture : Name
  /-- Whether the node is tainted for its architecture. -/
  taintArchitecture : Bool
  /-- Further taints. -/
  extraTaints : List Taint
  /-- The labels of the node, other than that for its architecture. -/
  labels : Labels
  deriving DecidableEq, Repr

namespace NodeProfile

/-- The profile that a document denotes. -/
def validate (d : Document) : Validated NodeProfile :=
  (checkModel "NodeConfig" d).andThen fun entries =>
    (((((Name.check "node_name" .nodeName (required entries "node_name" checkText)).zip
      (Name.check "architecture" .architecture
        (optional entries "architecture" defaultArchitecture checkText))).zip
      (optional entries "taint_architecture" true checkBool)).zip
      (optional entries "extra_taints" [] (checkItems .notList Taint.validate))).zip
      (optional entries "labels" .empty checkLabels)).map
      fun ((((nodeName, architecture), taintArchitecture), extraTaints), labels) =>
        ⟨nodeName, architecture, taintArchitecture, extraTaints, labels⟩

/-- A profile as a mapping. -/
def toDocument (profile : NodeProfile) : Document :=
  .mapping
    [(.text "node_name", .text profile.nodeName.text),
      (.text "architecture", .text profile.architecture.text),
      (.text "taint_architecture", .bool profile.taintArchitecture),
      (.text "extra_taints", .list (profile.extraTaints.map Taint.toDocument)),
      (.text "labels", profile.labels.toDocument)]

instance : Model NodeProfile where
  name := "NodeConfig"
  validate := validate
  toDocument := toDocument

/-- The taint of an architecture with an effect. -/
def architectureTaint (profile : NodeProfile) (effect : TaintEffect) : Taint :=
  ⟨⟨architectureLabel, by decide⟩, some profile.architecture.text, effect⟩

/-- The taints that keep pods for other architectures away. -/
def architectureTaints (profile : NodeProfile) : List Taint :=
  if profile.taintArchitecture then
    [profile.architectureTaint .noSchedule, profile.architectureTaint .noExecute]
  else []

/-- The node that a profile describes. -/
def toNode (profile : NodeProfile) : Node where
  name := profile.nodeName.text
  architecture := some profile.architecture.text
  labels := profile.labels.set architectureLabel profile.architecture.text
  taints := profile.architectureTaints ++ profile.extraTaints

end NodeProfile

end PodLaunch
