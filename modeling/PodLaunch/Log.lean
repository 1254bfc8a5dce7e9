import PodLaunch.Text.Lines

/-!
# Records of what is done

Work leaves records behind, each with a level and the name of its source. They are collected beside
the result, in the order in which they arise.
-/

namespace PodLaunch

/-- How important a record is. -/
inductive LogLevel where
  /-- Of interest for finding defects. -/
  | debug
  /-- Of interest. -/
  | info
  /-- Worth attention. -/
  | warning
  /-- The report of an error. -/
  | error
  /-- The report of an error after which work cannot go on. -/
  | critical
  deriving DecidableEq, Repr

namespace LogLevel

/-- The name of a level. -/
def name : LogLevel → String
  | .debug => "DEBUG"
  | .info => "INFO"
  | .warning => "WARNING"
  | .error => "ERROR"
  | .critical => "CRITICAL"

/-- The rank of a level. -/
def rank : LogLevel → Nat
  | .debug => 10
  | .info => 20
  | .warning => 30
  | .error => 40
  | .critical => 50

/-- Whether a level is at least as important as another one. -/
def reaches (level threshold : LogLevel) : Bool :=
  threshold.rank ≤ level.rank

end LogLevel

/-- A record. -/
structure LogRecord where
  /-- Its level. -/
  level : LogLevel
  /-- The name of its source. -/
  source : String
  /-- Its text. -/
  text : String
  deriving DecidableEq, Repr

/-- The name of the source of records on manifests. -/
def manifestSource : String := "pod_placement.manifest"

/-- The name of the source of records on node profiles. -/
def profileSource : String := "pod_placement.node_config"

/-- The name of the source of records on commands. -/
def commandSource : String := "pod_placement.cli"

/-- The name of the source of records that name no other. -/
def rootSource : String := "root"

/-- The source with a name. -/
def sourceNamed (name : String) : String :=
  if name = "" then rootSource else name

/-- A result with the records that led to it. -/
structure Recorded (α : Type) where
  /-- The records, in order. -/
  records : List LogRecord
  /-- The result. -/
  result : α
  deriving Repr

namespace Recorded

variable {α β : Type}

/-- A result without records. -/
def silent (result : α) : Recorded α :=
  ⟨[], result⟩

/-- Go on with the result and with the records so far. -/
def andThenWith (first : Recorded α) (next : List LogRecord → α → Recorded β) : Recorded β :=
  let second := next first.records first.result
  ⟨first.records ++ second.records, second.result⟩

/-- Go on with the result. -/
def andThen (first : Recorded α) (next : α → Recorded β) : Recorded β :=
  first.andThenWith fun _ => next

instance : Monad Recorded where
  pure := silent
  bind := andThen

/-- A single record. -/
def note (level : LogLevel) (source text : String) : Recorded Unit :=
  ⟨[⟨level, source, text⟩], ()⟩

/-- Apply a function to the result. -/
def mapResult (f : α → β) (recorded : Recorded α) : Recorded β :=
  ⟨recorded.records, f recorded.result⟩

end Recorded

end PodLaunch
