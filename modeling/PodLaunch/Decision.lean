import PodLaunch.Toleration

/-!
# Placement decisions

A pod may be placed on a node if its tolerations tolerate every hard taint of the node. Untolerated
soft taints leave the placement open to a better node. The decision alone stops at the first hard
violation; the report lists every violation once, in an order that does not depend on the order of
the tolerations or taints.
-/

namespace PodLaunch

/-- The outcome of matching tolerations against taints. -/
inductive Decision where
  /-- Every taint is tolerated. -/
  | schedulable
  /-- Only soft taints are not tolerated. -/
  | schedulableEvictable
  /-- A hard taint is not tolerated. -/
  | rejected
  deriving DecidableEq, Repr

namespace Decision

/-- The name of a decision. -/
def name : Decision → String
  | .schedulable => "Schedulable"
  | .schedulableEvictable => "SchedulableEvictable"
  | .rejected => "Rejected"

/-- The decisions by their names. -/
def choices : List (String × Decision) :=
  [.schedulable, .schedulableEvictable, .rejected].map fun decision => (decision.name, decision)

end Decision

/-- Whether some toleration tolerates a taint. -/
def isTolerated (tolerations : List Toleration) (taint : Taint) : Bool :=
  tolerations.any fun toleration => toleration.tolerates taint

/-- The decision if the taints still to be seen follow others that led to a decision short of
rejection. -/
def evaluateFrom (tolerations : List Toleration) : Decision → List Taint → Decision
  | decision, [] => decision
  | decision, taint :: taints =>
    if isTolerated tolerations taint then evaluateFrom tolerations decision taints
    else if taint.effect.isHard then .rejected
    else evaluateFrom tolerations .schedulableEvictable taints

/-- Whether a pod with some tolerations may be placed on a node with some taints. -/
def evaluate (tolerations : List Toleration) (taints : List Taint) : Decision :=
  evaluateFrom tolerations .schedulable taints

/-- Whether a pod that runs on the node has to be removed from it. -/
def requiresEviction (tolerations : List Toleration) (taints : List Taint) : Bool :=
  taints.any fun taint => taint.effect == .noExecute && !isTolerated tolerations taint

/-! ## The order of violations -/

namespace Taint

/-- The order of values: an absent one comes just before the empty text. -/
def compareValues (left right : Taint) : Ordering :=
  (compare left.valueText right.valueText).then
    (compare left.value.isSome.toNat right.value.isSome.toNat)

/-- The order of violations: the hardest effect first, then by key and value. -/
def compareViolations (left right : Taint) : Ordering :=
  ((compare right.effect.severity left.effect.severity).then
    (compare left.key.text right.key.text)).then (compareValues left right)

end Taint

/-- Put a violation into its place among violations in order, unless it is there already. -/
def insertViolation (taint : Taint) : List Taint → List Taint
  | [] => [taint]
  | first :: rest =>
    match taint.compareViolations first with
    | .lt => taint :: first :: rest
    | .eq => first :: rest
    | .gt => first :: insertViolation taint rest

/-- The taints that no toleration tolerates, each once and in order. -/
def untoleratedTaints (tolerations : List Toleration) (taints : List Taint) : List Taint :=
  (taints.filter fun taint => !isTolerated tolerations taint).foldr insertViolation []

/-! ## Reports -/

/-- A decision with the violations that led to it. -/
structure PlacementReport where
  /-- The decision. -/
  decision : Decision
  /-- Every violation. -/
  violations : List Taint
  /-- Whether a running pod has to be removed. -/
  evict : Bool
  deriving DecidableEq, Repr

namespace PlacementReport

/-- Whether the pod may be placed at all. -/
def schedulable (report : PlacementReport) : Bool :=
  report.decision != .rejected

/-- The report that a document denotes. -/
def validate (d : Document) : Validated PlacementReport :=
  (checkModel "PlacementReport" d).andThen fun entries =>
    (((required entries "decision" (checkChoice Decision.choices)).zip
      (optional entries "violations" [] (checkTuple Taint.validate))).zip
      (optional entries "evict" false checkBool)).map
      fun ((decision, violations), evict) => ⟨decision, violations, evict⟩

/-- A report as a mapping. -/
def toDocument (report : PlacementReport) : Document :=
  .mapping
    [(.text "decision", .text report.decision.name),
      (.text "violations", .list (report.violations.map Taint.toDocument)),
      (.text "evict", .bool report.evict)]

instance : Model PlacementReport where
  name := "PlacementReport"
  validate := validate
  toDocument := toDocument

end PlacementReport

/-- The report on the placement of a pod with some tolerations on a node with some taints. -/
def diagnose (tolerations : List Toleration) (taints : List Taint) : PlacementReport :=
  let violations := untoleratedTaints tolerations taints
  let decision : Decision :=
    if violations.any fun taint => taint.effect.isHard then .rejected
    else if violations.isEmpty then .schedulable
    else .schedulableEvictable
  ⟨decision, violations, violations.any fun taint => taint.effect == .noExecute⟩

end PodLaunch
