import PodLaunch.NodeProfile
import PodLaunch.Yaml.Style

/-!
# The text of a node profile

A profile is written with one entry on a line, in the order of its fields. Its taints are a list
whose dashes stand at the margin, and its labels are indented by two columns.
-/

namespace PodLaunch.NodeProfile

open Yaml

/-- A mapping whose keys stand at a column. -/
def writeMapping (indent : Nat) (entries : List (List Char × WrittenValue)) : List Char :=
  entries.flatMap fun entry => spaces indent ++ writeEntry indent entry.1 entry.2

/-- The entries of a taint. -/
def taintEntries (taint : Taint) : List (List Char × WrittenValue) :=
  [("key".toList, .text taint.key.text.toList),
    ("value".toList,
      match taint.value with
      | some value => .text value.toList
      | none => .word "null".toList),
    ("effect".toList, .text taint.effect.name.toList)]

/-- A taint as an element of a list: a dash takes the place of the first indentation. -/
def writeTaint (taint : Taint) : List Char :=
  '-' :: (writeMapping 2 (taintEntries taint)).drop 1

/-- The taints of a profile behind their key. -/
def writeTaints : List Taint → List Char
  | [] => " []\n".toList
  | taints => '\n' :: taints.flatMap writeTaint

/-- The entries of labels. -/
def labelEntries (labels : Labels) : List (List Char × WrittenValue) :=
  labels.entries.map fun label => (label.1.toList, .text label.2.toList)

/-- The labels of a profile behind their key. -/
def writeLabels (labels : Labels) : List Char :=
  if labels.entries.isEmpty then " \x7b\x7d\n".toList
  else '\n' :: writeMapping 2 (labelEntries labels)

/-- The text of a profile. -/
def toText (profile : NodeProfile) : List Char :=
  writeMapping 0
      [("node_name".toList, .text profile.nodeName.text.toList),
        ("architecture".toList, .text profile.architecture.text.toList),
        ("taint_architecture".toList,
          .word (if profile.taintArchitecture then "true" else "false").toList)] ++
    "extra_taints:".toList ++ writeTaints profile.extraTaints ++
    "labels:".toList ++ writeLabels profile.labels

end PodLaunch.NodeProfile
