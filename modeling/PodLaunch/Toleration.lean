import PodLaunch.Taint
import PodLaunch.Failure

/-!
# Tolerations

A toleration lets a pod onto nodes with matching taints. An empty key matches every key and an
absent effect every effect. A toleration either asks for the existence of a taint or for its value;
one that asks for a value has one.
-/

namespace PodLaunch

/-- What a toleration asks of a taint. -/
inductive TolerationOperator where
  /-- That it exists, with any value. -/
  | exists
  /-- That it has the same value. -/
  | equal
  deriving DecidableEq, Repr

namespace TolerationOperator

/-- The name of an operator. -/
def name : TolerationOperator → String
  | .exists => "Exists"
  | .equal => "Equal"

/-- The operators by their names. -/
def choices : List (String × TolerationOperator) :=
  [.exists, .equal].map fun operator => (operator.name, operator)

end TolerationOperator

/-- A toleration of a pod. -/
structure Toleration where
  /-- The key of the taints it matches; the empty one matches every key. -/
  key : String
  /-- What it asks of a taint. -/
  operator : TolerationOperator
  /-- The value that a taint must have; of no account if only existence is asked for. -/
  value : String
  /-- The effect of the taints it matches; every effect, if absent. -/
  effect : Option TaintEffect
  /-- A value is there to compare with. -/
  equal_value : operator = .equal → value ≠ ""
  deriving DecidableEq, Repr

namespace Toleration

/-- The key in reports. -/
def keyText (key : String) : String :=
  if key = "" then "*" else key

/-- A toleration on one line. -/
def text (toleration : Toleration) : String :=
  let effect := (toleration.effect.map TaintEffect.name).getD "*"
  match toleration.operator with
  | .exists => keyText toleration.key ++ " Exists:" ++ effect
  | .equal => keyText toleration.key ++ "=" ++ toleration.value ++ ":" ++ effect

/-- Whether a toleration tolerates a taint. -/
def tolerates (toleration : Toleration) (taint : Taint) : Bool :=
  (toleration.key == "" || toleration.key == taint.key.text) &&
    (toleration.effect == none || toleration.effect == some taint.effect) &&
    (toleration.operator == .exists || toleration.value == taint.valueText)

/-- A text, or the empty one for the absent value. -/
def checkTextOrNull : Document → Validated String
  | .null => .valid ""
  | other => checkText other

/-- An effect; the absent value and the empty text stand for every effect. -/
def checkEffect : Document → Validated (Option TaintEffect)
  | .null => .valid none
  | .text "" => .valid none
  | other => (checkChoice TaintEffect.choices other).map some

/-- A toleration from well-typed parts, if it could match a taint. -/
def ofParts (key : String) (operator : TolerationOperator) (value : String)
    (effect : Option TaintEffect) : Validated Toleration :=
  if h : operator = .equal → value ≠ "" then .valid ⟨key, operator, value, effect, h⟩
  else .unmatchable key

/-- The toleration that a document denotes. -/
def validate (d : Document) : Validated Toleration :=
  (checkModel "Toleration" d).andThen fun entries =>
    ((((optional entries "key" "" checkTextOrNull).zip
      (optional entries "operator" .equal (checkChoice TolerationOperator.choices))).zip
      (optional entries "value" "" checkTextOrNull)).zip
      (optional entries "effect" none checkEffect)).andThen
      fun (((key, operator), value), effect) => ofParts key operator value effect

/-- A toleration as a mapping. -/
def toDocument (toleration : Toleration) : Document :=
  .mapping
    [(.text "key", .text toleration.key),
      (.text "operator", .text toleration.operator.name),
      (.text "value", .text toleration.value),
      (.text "effect", (toleration.effect.map fun effect => Document.text effect.name).getD .null)]

instance : Model Toleration where
  name := "Toleration"
  validate := validate
  toDocument := toDocument

/-- The failure of a toleration that could match no taint. -/
def unmatchableFailure (key : String) : Failure where
  category := .invalidToleration
  subject := "Toleration for key '" ++ keyText key ++ "' uses operator Equal without a value"
  details := some "Set a value to compare against, or use operator Exists to match any value"

end Toleration

end PodLaunch
