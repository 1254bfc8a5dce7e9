import PodLaunch.NodeProfile
import PodLaunch.Text.Lines

/-!
# Arguments of the command line

General options stand in front of the name of a command, and options and the argument of the command
behind it, in any order. Options have a long name behind two dashes, and some of them a letter
behind one dash; letters can be put together. The value of an option follows it, or an equals sign.
Behind two dashes alone there are no options.
-/

namespace PodLaunch.Command

open Text

/-- An option. -/
structure OptionName where
  /-- The letter behind one dash, if there is one. -/
  letter : Option Char
  /-- The name behind two dashes. -/
  name : String
  /-- Whether a value follows. -/
  takesValue : Bool
  deriving DecidableEq, Repr

/-- An option that has been given, with its value if it takes one. -/
structure Setting where
  /-- The long name of the option. -/
  name : String
  /-- Its value. -/
  value : Option String
  deriving DecidableEq, Repr

/-- What an argument with options stands for. -/
inductive OptionArgument where
  /-- Options that are complete. -/
  | complete (settings : List Setting)
  /-- Options, the last of which takes the next argument as its value. -/
  | awaiting (settings : List Setting) (name : String)
  /-- Something that is not understood. -/
  | unknown
  deriving DecidableEq, Repr

/-- The options behind one dash, by their letters. What follows the letter of an option with a value
is its value. -/
def letterOptions (names : List OptionName) (settings : List Setting) : List Char → OptionArgument
  | [] => .complete settings.reverse
  | letter :: rest =>
    match names.find? fun option => option.letter == some letter with
    | none => .unknown
    | some option =>
      if !option.takesValue then letterOptions names (⟨option.name, none⟩ :: settings) rest
      else if rest.isEmpty then .awaiting settings.reverse option.name
      else .complete (⟨option.name, some (String.ofList rest)⟩ :: settings).reverse

/-- The option behind two dashes. -/
def longOption (names : List OptionName) (text : List Char) : OptionArgument :=
  let name := String.ofList (text.takeWhile (· ≠ '='))
  let value? :=
    match text.dropWhile (· ≠ '=') with
    | [] => none
    | _ :: value => some (String.ofList value)
  match names.find? fun option => option.name == name with
  | none => .unknown
  | some option =>
    match option.takesValue, value? with
    | true, none => .awaiting [] name
    | true, some value => .complete [⟨name, some value⟩]
    | false, none => .complete [⟨name, none⟩]
    | false, some _ => .unknown

/-- What the argument behind a first dash stands for. -/
def optionArgument (names : List OptionName) : List Char → OptionArgument
  | '-' :: text => longOption names text
  | letters => letterOptions names [] letters

/-- Arguments sorted into options and others. -/
structure Sorted where
  /-- The options, in order. -/
  settings : List Setting := []
  /-- The other arguments, in order. -/
  others : List String := []
  deriving DecidableEq, Repr

namespace Sorted

/-- Put options in front. -/
def addSettings (settings : List Setting) (sorted : Sorted) : Sorted :=
  { sorted with settings := settings ++ sorted.settings }

/-- Put another argument in front. -/
def addOther (argument : String) (sorted : Sorted) : Sorted :=
  { sorted with others := argument :: sorted.others }

/-- Whether an option has been given. -/
def has (sorted : Sorted) (name : String) : Bool :=
  sorted.settings.any fun setting => setting.name == name

/-- The last value of an option. -/
def value? (sorted : Sorted) (name : String) : Option String :=
  (sorted.settings.reverse.find? fun setting => setting.name == name).bind Setting.value

end Sorted

/-- Sort arguments. Options may be mixed with other arguments, or end at the first other one. -/
def sort (names : List OptionName) (mixed : Bool) : List String → Option Sorted
  | [] => some {}
  | argument :: rest =>
    match argument.toList with
    | ['-', '-'] => some ⟨[], rest⟩
    | '-' :: c :: text =>
      match optionArgument names (c :: text) with
      | .unknown => none
      | .complete settings => (sort names mixed rest).map (·.addSettings settings)
      | .awaiting settings name =>
        match rest with
        | [] => none
        | value :: rest =>
          (sort names mixed rest).map (·.addSettings (settings ++ [⟨name, some value⟩]))
    | _ =>
      if mixed then (sort names mixed rest).map (·.addOther argument)
      else some ⟨[], argument :: rest⟩

/-! ## Commands -/

/-- What is to be done. -/
inductive Request where
  /-- Print the version. -/
  | version
  /-- Check whether a pod may be placed on a node, given by a manifest or a profile. -/
  | check (pod : String) (node profile : Option String)
  /-- Resolve a container of a pod. -/
  | resolve (pod : String) (container : Option String) (asJson : Bool)
  /-- Write a node profile. -/
  | initNode (path name architecture : String) (force : Bool)
  deriving DecidableEq, Repr

/-- Why a command is not carried out. -/
inductive Refusal where
  /-- Help is asked for. -/
  | help
  /-- The arguments do not fit. -/
  | misuse
  deriving DecidableEq, Repr

/-- The option that asks for help. -/
def helpOption : OptionName := ⟨none, "help", false⟩

/-- The general options. -/
def generalOptions : List OptionName :=
  [⟨some 'v', "verbose", false⟩, ⟨none, "log-file", true⟩, helpOption]

/-- The commands with their options. -/
def commandOptions : List (String × List OptionName) :=
  [("version", [helpOption]),
    ("check", [⟨some 'n', "node", true⟩, ⟨some 'c', "node-config", true⟩, helpOption]),
    ("resolve", [⟨none, "container", true⟩, ⟨none, "json", false⟩, helpOption]),
    ("init-node", [⟨none, "name", true⟩, ⟨none, "arch", true⟩, ⟨some 'f', "force", false⟩,
      helpOption])]

/-- The name of a node whose profile is written without naming it. -/
def defaultNodeName : String := "stackable-node"

/-- The request that the sorted arguments of a command make. -/
def requestOf (command : String) (sorted : Sorted) : Except Refusal Request :=
  if sorted.has "help" then .error .help
  else
    match command, sorted.others with
    | "version", [] => .ok .version
    | "check", [pod] => .ok (.check pod (sorted.value? "node") (sorted.value? "node-config"))
    | "resolve", [pod] => .ok (.resolve pod (sorted.value? "container") (sorted.has "json"))
    | "init-node", [path] =>
      .ok (.initNode path ((sorted.value? "name").getD defaultNodeName)
        ((sorted.value? "arch").getD defaultArchitecture) (sorted.has "force"))
    | _, _ => .error .misuse

/-- What a command line asks for. -/
structure Invocation where
  /-- Whether all records are asked for. -/
  verbose : Bool
  /-- The file for records. -/
  logFile : Option String
  /-- What is to be done, or why nothing is done. -/
  request : Except Refusal Request

/-- What arguments ask for. The general options take effect even if the command does not. -/
def Invocation.ofArguments (arguments : List String) : Except Refusal Invocation :=
  match sort generalOptions false arguments with
  | none => .error .misuse
  | some general =>
    if general.has "help" then .error .help
    else
      match general.others with
      | [] => .error .misuse
      | command :: rest =>
        match commandOptions.find? fun entry => entry.1 == command with
        | none => .error .misuse
        | some (_, names) =>
          .ok
            { verbose := general.has "verbose"
              logFile := (general.value? "log-file").filter (· ≠ "")
              request :=
                match sort names true rest with
                | none => .error .misuse
                | some sorted => requestOf command sorted }

end PodLaunch.Command
