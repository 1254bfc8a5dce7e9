import PodLaunch.Command.Arguments
import PodLaunch.Console.Printout
import PodLaunch.Document.Interchange
import PodLaunch.Logging
import PodLaunch.Manifest.File
import PodLaunch.NodeProfile.File
import PodLaunch.Resolution

/-!
# Carrying out commands

A command reads the files that it needs, prints what it finds, and ends with a status: zero if all
is well, one if something cannot be loaded or written, and two if a pod is rejected or the arguments
do not fit. Names from files stand in printouts as markup; faulty markup breaks the command off.
-/

namespace PodLaunch.Command

open Console Files Text

/-- The version of the program. -/
def programVersion : String := "0.1.0"

/-- Why a command breaks off. -/
inductive Crash where
  /-- Reading a file has gone wrong without a report. -/
  | accident (accident : Accident)
  /-- A printout has faulty markup. -/
  | markup (error : MarkupError)
  /-- A node is asked for without naming its file. -/
  | noPath
  deriving DecidableEq, Repr

/-- What a command prints, and how it ends. -/
structure Ending where
  /-- What is printed. -/
  printouts : List Printout
  /-- The status. -/
  status : Nat
  /-- Why the command breaks off after printing, if it does. -/
  crash : Option Crash := none
  deriving DecidableEq, Repr

/-- The status of a command that has failed. -/
def failed : Nat := 1

/-- The status of a rejected pod, and of arguments that do not fit. -/
def rejected : Nat := 2

namespace Ending

/-- A command that is carried out. -/
def success (printouts : List Printout) : Ending :=
  ⟨printouts, 0, none⟩

/-- A command that breaks off. -/
def broken (crash : Crash) : Ending :=
  ⟨[], failed, some crash⟩

end Ending

/-- The report of a failure, under a heading. -/
def reportFailure (heading : String) (failure : Failure) : Recorded Ending := do
  Recorded.note .error commandSource (heading ++ ": " ++ failure.message)
  let message := .marked ("[red]" ++ heading ++ ":[/red] " ++ escape failure.message)
  let details :=
    match failure.details with
    | some details => if details = "" then [] else [.marked ("\n" ++ escape details)]
    | none => []
  return ⟨message :: details, failed, none⟩

/-- The end of a command that could not load a file. -/
def loadFailure : LoadError → Recorded Ending
  | .failure failure => reportFailure "Input Error" failure
  | .accident accident => return .broken (.accident accident)

/-! ## Checking a pod against a node -/

/-- The style of a decision. -/
def decisionStyle : Decision → String
  | .schedulable => "green"
  | .schedulableEvictable => "yellow"
  | .rejected => "red"

/-- What tolerates a taint, as a cell. -/
def toleratedBy (tolerations : List Toleration) (taint : Taint) : String :=
  match tolerations.filter (·.tolerates taint) with
  | [] => "[red]✗ nothing[/red]"
  | matching => joinTexts ", " (matching.map Toleration.text)

/-- The taints of a node with what tolerates them. -/
def taintTable (pod : Pod) (node : Node) : Table where
  title := "Taints on node '" ++ node.name ++ "'"
  headings := ["Key", "Value", "Effect", "Tolerated by"]
  rows := node.taints.map fun taint =>
    [taint.key.text, taint.value.getD "", taint.effect.name, toleratedBy pod.tolerations taint]

/-- The taints of a node, if there are any. -/
def taintPrintout (pod : Pod) (node : Node) : Printout :=
  if node.taints.isEmpty then .marked ("Node '" ++ node.name ++ "' has no taints")
  else .table (taintTable pod node)

/-- The end of the check of a pod against a node. -/
def checkEnding (pod : Pod) (node : Node) : Ending :=
  let report := diagnose pod.tolerations node.taints
  let style := decisionStyle report.decision
  let decision :=
    "\n[bold]Decision:[/bold] [" ++ style ++ "]" ++ report.decision.name ++ "[/" ++ style ++ "]"
  let eviction :=
    if report.evict then
      [.marked "[red]A running instance of this pod would be evicted (NoExecute)[/red]"]
    else []
  ⟨[taintPrintout pod node, .marked decision] ++ eviction,
    if report.decision = .rejected then rejected else 0, none⟩

/-- How the node of a check is given. -/
inductive NodeSource where
  /-- In a manifest. -/
  | manifest (name : String)
  /-- By a profile. -/
  | profile (name : String)
  /-- By an empty name. -/
  | unnamed
  deriving DecidableEq, Repr

/-- How the node is given by two options, if exactly one of them is used. An empty name of a
manifest counts as given, but names nothing. -/
def NodeSource.of? : Option String → Option String → Option NodeSource
  | some name, none => some (if name = "" then .unnamed else .manifest name)
  | none, some name => some (.profile name)
  | _, _ => none

/-- Check a pod against a node that has been loaded, or could not be. -/
def checkLoaded (pod : Pod) : Except LoadError Node → Recorded Ending
  | .error error => loadFailure error
  | .ok node => do
    Recorded.note .info commandSource
      ("Checking pod '" ++ pod.name ++ "' against node '" ++ node.name ++ "'")
    return checkEnding pod node

/-- Check a pod against a node that is still to be loaded. -/
def checkAgainst (files : LoggedFiles) (source : NodeSource) (pod : Pod) : Recorded Ending := do
  match source with
  | .manifest name => checkLoaded pod (← Manifest.loadNode files name)
  | .profile name => checkLoaded pod ((← NodeProfile.load files name).map NodeProfile.toNode)
  | .unnamed => return .broken .noPath

/-- Check a pod against a node. -/
def check (files : LoggedFiles) (podFile : String) (node profile : Option String) :
    Recorded Ending :=
  match NodeSource.of? node profile with
  | none =>
    return ⟨[.marked "[red]Error:[/red] Specify exactly one of --node or --node-config"], failed,
      none⟩
  | some source =>
    (Manifest.loadPod files podFile).andThenWith fun records loaded =>
      match loaded with
      | .error error => loadFailure error
      | .ok pod => checkAgainst (files.after records) source pod

/-! ## Resolving a container -/

/-- The mount plan of a container as a table. -/
def planTable (pod : Pod) (resolved : ResolvedContainer) : Table where
  title := "Mount plan for pod '" ++ pod.name ++ "'"
  headings := ["Volume", "Mount Path", "Source Bundle"]
  rows := resolved.mountPlan.map fun binding => [binding.volume, binding.path, binding.bundle]

/-- What is printed for a container that has been resolved. -/
def planPrintouts (pod : Pod) (resolved : ResolvedContainer) (asJson : Bool) : List Printout :=
  if asJson then [.verbatim (resolved.toPlan.interchange 0)]
  else
    [.table (planTable pod resolved), .marked "\n[bold]Command:[/bold]"] ++
      resolved.command.map fun argument => .literal ("  " ++ argument)

/-- Resolve a container of a pod. -/
def resolveIn (files : LoggedFiles) (podFile : String) (container : Option String)
    (asJson : Bool) : Recorded Ending := do
  match ← Manifest.loadPod files podFile with
  | .error error => loadFailure error
  | .ok pod =>
    match resolveContainer pod container with
    | .error error => reportFailure "Resolution Error" error.failure
    | .ok resolved => return .success (planPrintouts pod resolved asJson)

/-! ## Writing a profile -/

/-- The report of problems of a profile. What stands in square brackets is taken for markup. -/
def problemText (problems : List Problem) : String :=
  let count := toString problems.length
  let heading :=
    count ++ " validation error" ++ (if problems.length = 1 then "" else "s") ++ " for NodeConfig"
  joinTexts "\n" (heading :: problems.flatMap fun problem =>
    [joinTexts "." (problem.place.map PlaceStep.text), "  " ++ problem.fault.message])

/-- What is printed for a profile that has been written. -/
def writtenPrintouts (path : Files.Path) (profile : NodeProfile) : List Printout :=
  .marked ("[green]✓[/green] Wrote node profile '" ++ profile.nodeName.text ++ "' to " ++
      path.toText) ::
    profile.toNode.taints.map fun taint => .marked ("  Taint: " ++ taint.text)

/-- The profile with a name and an architecture and nothing else, as a document. -/
def plainProfile (name architecture : String) : Document :=
  .mapping [(.text "node_name", .text name), (.text "architecture", .text architecture)]

/-- The end of a command that could not write a profile. -/
def saveFailure (path : Files.Path) (error : FileError) : Ending :=
  let heading :=
    match error.refusal with
    | .nullCharacter => "[red]Validation Error:[/red] "
    | _ => "[red]Error:[/red] Failed to write " ++ path.toText ++ ": "
  ⟨[.marked (heading ++ error.message)], failed, none⟩

/-- Write a profile with a name and an architecture. Gives the files as they are afterwards. -/
def writeProfile (tree : Files.Tree) (file name architecture : String) :
    Recorded (Files.Tree × Ending) := do
  let path := Files.Path.ofText file
  match NodeProfile.validate (plainProfile name architecture) with
  | .valid profile =>
    match ← profile.save tree file with
    | (tree, .ok _) => return (tree, .success (writtenPrintouts path profile))
    | (tree, .error error) => return (tree, saveFailure path error)
  | .invalid problems =>
    return (tree, ⟨[.marked ("[red]Validation Error:[/red] " ++ problemText problems)], failed,
      none⟩)
  | .unmatchable key =>
    return (tree, ← reportFailure "Input Error" (Toleration.unmatchableFailure key))

/-- Write a profile, unless there is something already. -/
def initNode (tree : Files.Tree) (file name architecture : String) (force : Bool) :
    Recorded (Files.Tree × Ending) :=
  let path := Files.Path.ofText file
  match tree.hasAny path with
  | .error refusal =>
    return (tree, .broken (.accident (.refused ⟨refusal, path.toText⟩)))
  | .ok isThere =>
    if isThere && !force then
      return (tree, ⟨[.marked ("[red]Error:[/red] File already exists: " ++ path.toText),
        .marked "Use --force to overwrite it"], failed, none⟩)
    else writeProfile tree file name architecture

/-! ## Carrying out a command line -/

/-- Carry out a request. Gives the files as they are afterwards, but for the records. -/
def carryOut (files : LoggedFiles) : Request → Recorded (Files.Tree × Ending)
  | .version =>
    return (files.tree, .success [.verbatim ("pod-placement version " ++ programVersion)])
  | .check pod node profile =>
    (check files pod node profile).mapResult fun ending => (files.tree, ending)
  | .resolve pod container asJson =>
    (resolveIn files pod container asJson).mapResult fun ending => (files.tree, ending)
  | .initNode path name architecture force =>
    initNode files.tree path name architecture force

/-- What a command line leaves behind. -/
structure Outcome where
  /-- The status. -/
  status : Nat
  /-- The lines on the console. -/
  output : List OutputLine
  /-- The lines of records on the console. -/
  errors : String
  /-- Why the command broke off, if it did. -/
  crash : Option Crash
  /-- The files afterwards. -/
  tree : Files.Tree

namespace Outcome

/-- A command line that leaves nothing behind but its status. -/
def silent (tree : Files.Tree) (status : Nat) : Outcome :=
  ⟨status, [], "", none, tree⟩

/-- The outcome of a command that has ended: its printouts are shown, and faulty markup breaks it
off. -/
def ofEnding (tree : Files.Tree) (errors : String) (ending : Ending) : Outcome :=
  match showAll ending.printouts with
  | (output, some error) => ⟨failed, output, errors, some (.markup error), tree⟩
  | (output, none) => ⟨ending.status, output, errors, ending.crash, tree⟩

end Outcome

/-- The status of a command that is not carried out. -/
def Refusal.status : Refusal → Nat
  | .help => 0
  | .misuse => rejected

/-- Carry out a request, or refuse it, once logging is set up. -/
def runLogged (files : LoggedFiles) (errors : String) : Except Refusal Request → Outcome
  | .error refusal => { Outcome.silent files.tree refusal.status with errors }
  | .ok request =>
    let done := carryOut files request
    let (tree, ending) := done.result
    Outcome.ofEnding (files.logging.addTo tree files.time done.records)
      (errors ++ files.logging.onConsole files.time done.records) ending

/-- Carry out a command line at some time. -/
def run (tree : Files.Tree) (time : String) (arguments : List String) : Outcome :=
  match Invocation.ofArguments arguments with
  | .error refusal => .silent tree refusal.status
  | .ok invocation =>
    let setUp := Logging.setUp tree invocation.verbose invocation.logFile
    match setUp.result with
    | (tree, .error error) => .ofEnding tree "" (.broken (.accident (.refused error)))
    | (tree, .ok logging) =>
      let first := setUp.records ++ [⟨.debug, commandSource, "Logging initialized"⟩]
      let library := Yaml.library Yaml.usualRoom
      let files : LoggedFiles := ⟨logging.addTo tree time first, logging, time, library⟩
      runLogged files (logging.onConsole time first) invocation.request

end PodLaunch.Command
