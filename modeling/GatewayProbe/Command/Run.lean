/-
What each command does.

* `World` — what a command finds around it;
* `Result`, `Failure` — what it shows and writes, or why it does neither;
* `Command.setup` — the settings in force while it runs;
* `Command.run` — a command as a session with the gateway.
-/
import GatewayProbe.Command.Basic
import GatewayProbe.Command.Example
import GatewayProbe.View.Documents
import GatewayProbe.View.Pages

namespace GatewayProbe

/-- What a command finds around it. -/
structure World where
  files : Files
  environment : Variables
  /-- Words to choose by where no seed is given: those of the first choice, and of each after it. -/
  chance : Nat → Draws
  ink : Ink := {}

/-- What a command shows. -/
inductive Page where
  | text (s : String)
  | json (value : Json)

/-- The text of a page. -/
def Page.shown : Page → String
  | .text s => s
  | .json value => value.pretty

/-- What a command shows and writes. -/
structure Result where
  page : Page
  success : Bool := true
  /-- A file to write: its path and its text. -/
  written : Option (String × String) := none

/-- Why a command shows nothing. -/
inductive Failure where
  | settings (e : SettingsError)
  | halted (h : Halt)
  | questions (path : String) (fault : QuestionFault)
  | existing (path : String)
  | file (fault : FileFault)
  deriving DecidableEq, Repr

/-- The wording of a failure. -/
def Failure.message : Failure → String
  | .settings e => e.message
  | .halted h => h.message
  | .questions path fault => "reading questions from " ++ path ++ ": " ++ fault.message
  | .existing path => "File already exists: " ++ path ++ ". Use --force to overwrite."
  | .file fault => fault.message

/-- The exit code of a failure. An abort has one of its own. -/
def Failure.exitCode : Failure → UInt32
  | .halted .overflow => 101
  | _ => 1

/-- The words of a seed, or those of chance, for one of the choices of a command. With a seed each
of them is made by the same words. -/
def World.draws (world : World) (seed : Option Nat) (choice : Nat := 0) : Draws :=
  match seed with
  | some n => Draws.seeded n.toUInt64
  | none => world.chance choice

/-- How backends' models are chosen. -/
def SelectionChoice.options (world : World) (s : SelectionChoice) (includeEmpty : Bool) :
    AssignOptions where
  includeEmpty := includeEmpty
  selection := if s.random then .random (world.draws s.seed) else .first

namespace Command

/-- Shows what a run found out, as a document or as text. There may be no text, where counts cannot
be added up. -/
def shownUnless {α : Type} (json : Bool) (document : α → Json) (text? : α → Option String)
    (success : α → Bool) (outcome : Except Halt α) : Except Failure Result := do
  let o ← outcome.mapError .halted
  let page ← if json then .ok (.json (document o))
    else (unlessOverflow ((text? o).map Page.text)).mapError .halted
  return { page, success := success o }

/-- Shows what a run found out that adds no counts up. -/
def shown {α : Type} (json : Bool) (document : α → Json) (text : α → String) (success : α → Bool)
    (outcome : Outcome α) : Except Failure Result :=
  shownUnless json document (fun o => some (text o)) success (outcome.mapError .gateway)

/-- The providers named, each once and in their order, or all. -/
def chosenProviders (named : List Provider) : List Provider :=
  if named.isEmpty then Provider.all else Provider.all.filter named.contains

/-- Finds out whether the gateway is there, and goes on if so. -/
def afterHealth {α : Type} (setup : Setup) (next : Session (Outcome α)) : Session (Outcome α) := do
  match ← setup.client.requireHealth with
  | .error e => return .error e
  | .ok () => next

/-- Selects a model, and goes on with it. -/
def withModel {α : Type} (setup : Setup) (source : ListSource) (requested : Option String)
    (next : String → Session α) : Session (Outcome α) :=
  afterHealth setup do
    match ← setup.chooseModel source requested with
    | .error e => return .error e
    | .ok model => return .ok (← next model)

/-- Puts questions from a file. -/
def askFrom (world : World) (setup : Setup) (model : Option String) (path : String) (count : Nat)
    (seed : Option Nat) (source : ListSource) (json : Bool) : Session (Except Failure Result) :=
  match questionsAt world.files path with
  | .error fault => return .error (.questions path fault)
  | .ok questions => do
    let outcome ← withModel setup source model fun id =>
      answerRun setup id { count, questions, draws := world.draws seed }
    return shown json AnswerOutcome.json world.ink.answers (·.report.noneFailed) outcome

/-- Writes the example settings to a file. -/
def writeExample (files : Files) (path : String) (force : Bool) : Except Failure Result :=
  if files.contains path && !force then .error (.existing path)
  else match files.writeFault? path with
    | some fault => .error (.file fault)
    | none =>
      .ok { page := .text ("✓ Configuration file created: " ++ path ++
              "\n  Edit this file to point the probe at your gateway.")
            written := some (path, exampleSettings) }

/-- What a command starts from, given the settings of all layers. A command for streamed stories
brings a wait of its own. -/
def setup (settings : Settings) : Command → Setup
  | .providerStreaming _ _ _ _ maxTime _ =>
    ⟨{ settings with access := { settings.access with timeout := maxTime } }⟩
  | _ => ⟨settings⟩

/-- Carries out a command that needs the gateway. -/
def probe (world : World) (setup : Setup) : Command → Session (Except Failure Result)
  | .discover json includeEmpty selection => do
    let outcome ← afterHealth setup
      (setup.survey selection.source (selection.options world includeEmpty))
    return shown json (fun o => discoveryJson o.1 o.2) (fun o => world.ink.plans o.1 o.2)
      (fun o => !o.2.ready.isEmpty) outcome
  | .passthrough json skipStreaming skipEdgeCases selection => do
    let outcome ← modeRun setup
      ⟨selection.source, selection.options world false, skipStreaming, skipEdgeCases⟩
    return shownUnless json ModeOutcome.json
      (fun o => world.ink.modes o.matrix o.counters o.report) (·.report.noneFailed) outcome
  | .streaming model quick source json => do
    let outcome ← withModel setup source model fun id => detectionRun setup id quick
    return shown json DetectionOutcome.json world.ink.detection (·.report.noneFailed) outcome
  | .latency model questions count seed source json =>
    askFrom world setup model questions count seed source json
  | .integration skipStreaming skipAnthropic skipProviders seed json => do
    let outcome ← surfaceRun setup
      { skipStreaming, skipAnthropic, skipProviders
        planDraws := world.draws seed
        draws := world.draws seed 1 }
    return shownUnless json SurfaceOutcome.json
      (fun o => some (world.ink.surface o.selectedModel o.passthrough o.translated o.report))
      (·.report.noneFailed) outcome
  | .providers named all json => do
    let outcome ← providerRun setup ⟨chosenProviders named, if all then none else some 3⟩
    return shown json ProviderOutcome.json world.ink.providers (·.report.noneFailed) outcome
  | .providerStreaming named models sample analyze _ json => do
    let choice : StoryModels := if !models.isEmpty then .explicit models
      else if sample then .sample else .preferred
    let outcome ← storyRun setup ⟨chosenProviders named, choice⟩
    return shown json StoryOutcome.json (world.ink.stories · analyze)
      (·.report.noneFailed) outcome
  | .configInit output force => return writeExample world.files output force
  -- The script for the shell is made outside this library, and nothing stands in its place.
  | .completions _ => return .ok { page := .text "" }

/-- The paths that a command looks at, besides that of the settings. -/
def paths : Command → List String
  | .latency _ questions .. => [questions]
  | .configInit output _ => [output, Files.parent output]
  | _ => []

/-- The command needs the gateway. -/
def needsGateway : Command → Bool
  | .configInit .. | .completions _ => false
  | _ => true

/-- Carries out a command. -/
def run (world : World) (i : Invocation) : Session (Except Failure Result) :=
  if i.command.needsGateway then
    match Settings.layered world.files world.environment i.overrides with
    | .error e => return .error (.settings e)
    | .ok settings => i.command.probe world (i.command.setup settings)
  else i.command.probe world ⟨{}⟩

end Command
end GatewayProbe
