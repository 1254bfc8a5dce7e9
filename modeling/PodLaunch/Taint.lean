import PodLaunch.Labels
import PodLaunch.Name

/-!
# Taints

A taint keeps pods away from the node that carries it. Its effect says how strictly: whether new
pods avoid the node, may not be placed there, or are removed from it.
-/

namespace PodLaunch

/-- How strictly a taint keeps pods away. -/
inductive TaintEffect where
  /-- No new pod is placed on the node. -/
  | noSchedule
  /-- New pods are placed elsewhere if possible. -/
  | preferNoSchedule
  /-- No new pod is placed on the node, and running ones are removed. -/
  | noExecute
  deriving DecidableEq, Repr

namespace TaintEffect

/-- The name of an effect. -/
def name : TaintEffect → String
  | .noSchedule => "NoSchedule"
  | .preferNoSchedule => "PreferNoSchedule"
  | .noExecute => "NoExecute"

/-- The effects by their names. -/
def choices : List (String × TaintEffect) :=
  [.noSchedule, .preferNoSchedule, .noExecute].map fun effect => (effect.name, effect)

/-- The rank of an effect; the hardest one has the highest. -/
def severity : TaintEffect → Nat
  | .noExecute => 2
  | .noSchedule => 1
  | .preferNoSchedule => 0

/-- Whether an untolerated taint with this effect rules a placement out. -/
def isHard : TaintEffect → Bool
  | .preferNoSchedule => false
  | _ => true

end TaintEffect

/-- A taint of a node. -/
structure Taint where
  /-- What the taint is about. -/
  key : Name
  /-- A value that tolerations may ask for. -/
  value : Option String
  /-- How strictly it keeps pods away. -/
  effect : TaintEffect
  deriving DecidableEq, Repr

namespace Taint

/-- The value, the empty text if there is none. -/
def valueText (taint : Taint) : String :=
  taint.value.getD ""

/-- A taint on one line. -/
def text (taint : Taint) : String :=
  taint.key.text ++ "=" ++ taint.valueText ++ ":" ++ taint.effect.name

/-- A taint from its parts, if it has a key. -/
def ofParts (key : Validated String) (value : Validated (Option String))
    (effect : Validated TaintEffect) : Validated Taint :=
  (((Name.check "key" .taintKey key).zip value).zip effect).map
    fun ((key, value), effect) => ⟨key, value, effect⟩

/-- The taint that a document denotes. -/
def validate (d : Document) : Validated Taint :=
  (checkModel "Taint" d).andThen fun entries =>
    ofParts (required entries "key" checkText)
      (optional entries "value" none checkOptionalText)
      (required entries "effect" (checkChoice TaintEffect.choices))

/-- A taint as a mapping. -/
def toDocument (taint : Taint) : Document :=
  .mapping
    [(.text "key", .text taint.key.text),
      (.text "value", (taint.value.map Document.text).getD .null),
      (.text "effect", .text taint.effect.name)]

instance : Model Taint where
  name := "Taint"
  validate := validate
  toDocument := toDocument

end Taint

end PodLaunch
