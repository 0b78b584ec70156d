/-
The commands and what they are given.

* `Command` — a command with its options;
* `Command.parse` — the command of a command line, and the settings it replaces.
-/
import GatewayProbe.Command.Usage
import GatewayProbe.Inventory.Basic
import GatewayProbe.Run.Provider
import GatewayProbe.Settings.Layers

namespace GatewayProbe

/-- How the models of backends are chosen. -/
structure SelectionChoice where
  source : ListSource := .status
  random : Bool := false
  seed : Option Nat := none
  deriving DecidableEq, Repr

/-- A shell that can complete command lines. -/
inductive Shell where
  | bash
  | elvish
  | fish
  | powershell
  | zsh
  deriving DecidableEq, Repr

/-- The shells by their names. -/
def Shell.names : List (String × Shell) :=
  [("bash", .bash), ("elvish", .elvish), ("fish", .fish), ("powershell", .powershell),
   ("zsh", .zsh)]

/-- The sources of models by their names. -/
def ListSource.names : List (String × ListSource) :=
  [("status", .status), ("unified", .unified)]

/-- A command with its options. -/
inductive Command where
  | discover (json includeEmpty : Bool) (selection : SelectionChoice)
  | passthrough (json skipStreaming skipEdgeCases : Bool) (selection : SelectionChoice)
  | streaming (model : Option String) (quick : Bool) (source : ListSource) (json : Bool)
  | latency (model : Option String) (questions : String) (count : Nat) (seed : Option Nat)
      (source : ListSource) (json : Bool)
  | integration (skipStreaming skipAnthropic skipProviders : Bool) (seed : Option Nat)
      (json : Bool)
  | providers (providers : List Provider) (all json : Bool)
  | providerStreaming (providers : List Provider) (models : List String)
      (sample analyze : Bool) (maxTime : Nat) (json : Bool)
  | configInit (output : String) (force : Bool)
  | completions (shell : Shell)
  deriving DecidableEq, Repr

/-- A command line that was read. -/
structure Invocation where
  command : Command
  overrides : Overrides := {}
  noColour : Bool := false
  deriving DecidableEq, Repr

namespace Command

/-- A path must not be empty. -/
def pathFault? (s : String) : Option UsageError := if s = "" then some .unknownValue else none

/-- A number of 64 bits. -/
def numberFault? (s : String) : Option UsageError :=
  if (Decimal.natural? Decimal.word64 s).isSome then none else some .malformedValue

/-- One of some names. -/
def nameFault? {α : Type} (names : List (String × α)) (s : String) : Option UsageError :=
  if (names.lookup s).isSome then none else some .unknownValue

/-- An option that takes nothing. -/
def flag (name : String) (short : Option Char := none) : Opt := { name, short }

/-- An option that takes a value. -/
def valued (name : String) (fault? : String → Option UsageError := fun _ => none)
    (short : Option Char := none) : Opt :=
  { name, short, takes := .value, fault? }

/-- The options that every level knows. -/
def globalOptions : List Opt :=
  [valued "config" pathFault? (some 'c'), valued "url" (fun _ => none) (some 'u'),
   valued "timeout" numberFault? (some 't'), valued "log-level" (fun _ => none) (some 'l'),
   flag "no-color", ⟨"help", some 'h', .answer .help, fun _ => none⟩]

/-- The option for the source of models. -/
def sourceOption : Opt := valued "source" (nameFault? ListSource.names)

/-- The option for a seed. -/
def seedOption : Opt := valued "seed" numberFault?

/-- The option for a model. -/
def modelOption : Opt := valued "model" (fun _ => none) (some 'm')

/-- The option for providers. -/
def providerOption : Opt :=
  { name := "provider", short := some 'p', takes := .values, fault? := nameFault? Provider.names }

/-- The options of each command. -/
def optionsOf : String → List Opt
  | "discover" => [flag "json", flag "include-empty", sourceOption, flag "random", seedOption]
  | "passthrough" =>
    [flag "json", flag "skip-streaming", flag "skip-edge-cases", sourceOption, flag "random",
     seedOption]
  | "streaming" => [modelOption, flag "quick" (some 'q'), sourceOption, flag "json"]
  | "latency" =>
    [modelOption, valued "questions" pathFault?, valued "count" numberFault? (some 'n'),
     seedOption, sourceOption, flag "json"]
  | "integration" =>
    [flag "skip-streaming", flag "skip-anthropic", flag "skip-providers", seedOption, flag "json"]
  | "providers" => [providerOption, flag "all", flag "json"]
  | "provider-streaming" =>
    [providerOption, { modelOption with takes := .values }, flag "sample", flag "analyze",
     valued "max-time" numberFault?, flag "json"]
  | "init" => [valued "output" pathFault? (some 'o'), flag "force" (some 'f')]
  | _ => []

/-- The level that a path of commands opens. -/
def scopeOf : List String → Scope
  | [] =>
    { options := globalOptions ++ [⟨"version", some 'V', .answer .version, fun _ => none⟩]
      commands := ["discover", "passthrough", "streaming", "latency", "integration", "providers",
        "provider-streaming", "config", "completions", helpCommand] }
  | ["config"] => { options := globalOptions, commands := ["init", helpCommand] }
  | ["completions"] =>
    { options := globalOptions
      positional := some (valued "shell" (nameFault? Shell.names)) }
  | path => { options := optionsOf (path.getLastD "") ++ globalOptions }

/-- Checks what was found on a level: a command where one is needed, options that exclude each
other, and options and arguments that are needed. -/
def checkLevel (path : List String) (hasCommand : Bool) (found : Given) :
    Except UsageError Unit :=
  let has (name : String) : Bool := found.any fun entry => entry.1 = name
  if !hasCommand && (path = [] || path = ["config"]) then
    .error (if found.isEmpty then .helpOnMissing else .missingCommand)
  else if path = ["provider-streaming"] && has "sample" && has "model" then
    .error .conflict
  else if (path = ["discover"] || path = ["passthrough"]) && has "seed" && !has "random" then
    .error .missingArgument
  else if path = ["completions"] && !has "shell" then .error .missingArgument
  else .ok ()

section Values

variable (found : Given)

/-- The option occurred. -/
def isSet (name : String) : Bool := found.any fun entry => entry.1 = name

/-- The values of an option. -/
def valuesOf (name : String) : List String := (found.lookup name).getD []

/-- The value of an option. -/
def valueOf? (name : String) : Option String := (valuesOf found name).getLast?

/-- The number that an option was given. -/
def numberOf? (name : String) : Option Nat :=
  (valueOf? found name).bind (Decimal.natural? Decimal.word64)

/-- The source of models. -/
def sourceOf (default : ListSource) : ListSource :=
  ((valueOf? found "source").bind fun name => ListSource.names.lookup name).getD default

/-- How the models of backends are chosen. -/
def selectionOf : SelectionChoice :=
  ⟨sourceOf found .status, isSet found "random", numberOf? found "seed"⟩

/-- The providers that were named. -/
def providersOf : List Provider :=
  (valuesOf found "provider").filterMap fun name => Provider.names.lookup name

/-- The command of a path with its options. -/
def ofFound? : List String → Option Command
  | ["discover"] =>
    some (.discover (isSet found "json") (isSet found "include-empty") (selectionOf found))
  | ["passthrough"] =>
    some (.passthrough (isSet found "json") (isSet found "skip-streaming")
      (isSet found "skip-edge-cases") (selectionOf found))
  | ["streaming"] =>
    some (.streaming (valueOf? found "model") (isSet found "quick") (sourceOf found .unified)
      (isSet found "json"))
  | ["latency"] =>
    some (.latency (valueOf? found "model") ((valueOf? found "questions").getD "questions.txt")
      ((numberOf? found "count").getD 5) (numberOf? found "seed") (sourceOf found .unified)
      (isSet found "json"))
  | ["integration"] =>
    some (.integration (isSet found "skip-streaming") (isSet found "skip-anthropic")
      (isSet found "skip-providers") (numberOf? found "seed") (isSet found "json"))
  | ["providers"] =>
    some (.providers (providersOf found) (isSet found "all") (isSet found "json"))
  | ["provider-streaming"] =>
    some (.providerStreaming (providersOf found) (valuesOf found "model") (isSet found "sample")
      (isSet found "analyze") ((numberOf? found "max-time").getD 30) (isSet found "json"))
  | ["config", "init"] =>
    some (.configInit ((valueOf? found "output").getD "probe.toml") (isSet found "force"))
  | ["completions"] =>
    ((valueOf? found "shell").bind fun name => Shell.names.lookup name).map .completions
  | _ => none

end Values

/-- The value of an option that every level knows: the innermost level that has it counts. -/
def innermost? (levels : List Given) (name : String) : Option String :=
  levels.reverse.findSome? fun found => valueOf? found name

/-- The settings that the levels of a command line replace. -/
def overridesOf (levels : List Given) : Overrides where
  config := (innermost? levels "config").getD "probe.toml"
  url := innermost? levels "url"
  timeout := (innermost? levels "timeout").bind (Decimal.natural? Decimal.word64)
  logLevel := innermost? levels "log-level"

/-- Reads a command line, without the name of the program. -/
def parse (args : List String) : Except UsageError Invocation := do
  let (path, levels) ← scanLevel scopeOf checkLevel [] {} args
  match ofFound? (levels.getLastD []) path with
  | some command =>
    return ⟨command, overridesOf levels, levels.any fun found => isSet found "no-color"⟩
  | none => .error .missingCommand

end Command
end GatewayProbe
