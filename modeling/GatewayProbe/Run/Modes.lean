/-
Does the gateway translate exactly where it should?

Every backend is asked for a message, whole and streamed, and for a chat completion, which is never
translated. Edge cases follow, and at the end the gateway's own counters are compared with what the
responses showed. Where they cannot be added up the run is aborted, and nothing it recorded is kept.

* `BackendRow`, `ModeOutcome` — what the run found out;
* `checkWhole`, `checkStreamed` — one backend, whole and streamed;
* `modeRun` — the run.
-/
import GatewayProbe.Conformance.Counters
import GatewayProbe.Conformance.Response
import GatewayProbe.Events.Body
import GatewayProbe.Run.Basic
import GatewayProbe.Run.Requests

namespace GatewayProbe

/-- What a run for all backends may leave out, and how it chooses models. -/
structure ModeOptions where
  source : ListSource := .status
  assign : AssignOptions := {}
  skipStreaming : Bool := false
  skipEdgeCases : Bool := false

/-- What came of one backend. -/
structure BackendRow where
  backend : String
  type : String
  model : Option String
  mode : Mode
  nonStreaming : Status := .skip
  /-- Absent where streams were left out. -/
  streaming : Option Status := none
  deriving DecidableEq, Repr

/-- The status of a backend as a whole. -/
def BackendRow.status (r : BackendRow) : Status :=
  match r.nonStreaming, r.streaming with
  | .fail, _ | _, some .fail => .fail
  | .skip, _ => .skip
  | .pass, _ => .pass

/-- Which modes the gateway showed. A successful response without the mode header was translated,
whatever was expected. -/
structure ShownModes where
  passthrough : Bool := false
  translated : Bool := false
  deriving DecidableEq, Repr

namespace ShownModes

/-- What one response shows. -/
def ofHead (head : Head) : ShownModes where
  passthrough := head.succeeded && head.tellsPassthrough
  translated := head.succeeded && !head.tellsPassthrough

/-- What is shown by one or the other. -/
def merge (a b : ShownModes) : ShownModes where
  passthrough := a.passthrough || b.passthrough
  translated := a.translated || b.translated

end ShownModes

/-- The result of checks as a record; an error is a failure. -/
def recordOf (name : String) : Outcome Finding → Record
  | .ok v => ⟨name, v.status, v.detail⟩
  | .error e => ⟨name, .fail, e.message⟩

/-- Adds notes on who answered. -/
def Finding.withAdvice (v : Finding) (plan : Plan) (head : Head) : Finding :=
  { v with notes := v.notes ++ routingNotes plan head }

/-- Checks the reply to a request for a whole message. -/
def judgeMessage (budget : Nat) (plan : Plan) (reply : Reply) : Outcome Finding :=
  let head := reply.head
  if !head.succeeded then .ok (.fail s!"HTTP {head.status}")
  else match reply.json budget with
    | .ok body => .ok ((Finding.ofResponse plan.mode head (.message body)).withAdvice plan head)
    | .error (.invalidResponse _) =>
      .ok ((Finding.ofMode plan.mode head).and (.fail "invalid JSON response"))
    | .error e => .error e

/-- Checks the reply to a request for a streamed message. -/
def judgeStream (budget : Nat) (plan : Plan) (reply : Reply) : Outcome Finding :=
  let head := reply.head
  if !head.succeeded then .ok (.fail s!"HTTP {head.status}")
  else match reply.capture budget .anthropic with
    | .ok capture =>
      let v := Finding.ofResponse plan.mode head (.stream capture)
      .ok ((v.noteIf v.notes.isEmpty s!"{capture.events.length - 1} events").withAdvice plan head)
    | .error e => .error e

/-- Asks a backend for a message and checks the reply. Also gives the mode the reply shows. -/
def askMessage (setup : Setup) (plan : Plan) (model : String) (stream : Bool) :
    Session (Outcome Finding × ShownModes) := do
  let client := setup.client
  match ← client.postMessage (Body.message model stream none none) with
  | .error e => return (.error e, {})
  | .ok reply =>
    let judged := if stream then judgeStream client.budget plan reply
      else judgeMessage client.budget plan reply
    return (judged, .ofHead reply.head)

/-- Asks for a whole message. -/
def checkWhole (setup : Setup) (plan : Plan) (model name : String) :
    Session (Record × ShownModes) := do
  let (judged, observed) ← askMessage setup plan model false
  return (recordOf name judged, observed)

/-- Asks for a streamed message. -/
def checkStreamed (setup : Setup) (plan : Plan) (model name : String) :
    Session (Record × ShownModes) := do
  let (judged, observed) ← askMessage setup plan model true
  return (recordOf name judged, observed)

/-- The record of a chat completion in the form that backends have of their own. -/
def judgeBaseline (plan : Plan) (name : String) (reply : Reply) : Record :=
  let head := reply.head
  let status := if head.status = 200 then [] else [s!"HTTP {head.status}"]
  let routed := ((head.endpoint.filter (· ≠ plan.name)).map fun endpoint =>
    "routed to " ++ endpoint ++ " (expected " ++ plan.name ++ ")").toList
  ⟨name, .ofBool (head.status = 200), "; ".intercalate (status ++ routed)⟩

/-- Asks for a chat completion in the form that backends have of their own. -/
def checkBaseline (setup : Setup) (plan : Plan) (model : String) : Session Record := do
  let name := plan.name ++ "/openai-baseline"
  match ← setup.client.postValue Route.sharedChat (Body.shortChat model Body.greetingPrompt 10) with
  | .error e => return ⟨name, .fail, e.message⟩
  | .ok reply => return judgeBaseline plan name reply

/-- What the checks of one backend give. -/
structure BackendResult where
  row : BackendRow
  records : List Record
  observed : ShownModes := {}

/-- Why a backend is left out, or the model it is tested with. -/
def Plan.testModel (plan : Plan) : Except String String :=
  match plan.selected with
  | none => .error "no model bound to backend"
  | some model =>
    if plan.mode.isKnown then .ok model
    else .error ("backend type '" ++ plan.type ++ "' is in neither mode table")

/-- Checks one backend. -/
def checkBackend (setup : Setup) (skipStreaming : Bool) (plan : Plan) :
    Session BackendResult := do
  let row : BackendRow := ⟨plan.name, plan.type, plan.selected, plan.mode, .skip, none⟩
  let wholeName := plan.name ++ "/anthropic-nonstream"
  match plan.testModel with
  | .error reason => return { row, records := [⟨wholeName, .skip, reason⟩] }
  | .ok model =>
    let (whole, seen) ← checkWhole setup plan model wholeName
    if skipStreaming then
      let baseline ← checkBaseline setup plan model
      return ⟨{ row with nonStreaming := whole.status }, [whole, baseline], seen⟩
    else
      let (streamed, seenStreamed) ←
        checkStreamed setup plan model (plan.name ++ "/anthropic-stream")
      let baseline ← checkBaseline setup plan model
      return ⟨{ row with nonStreaming := whole.status, streaming := some streamed.status },
        [whole, streamed, baseline], seen.merge seenStreamed⟩

/-- A model that no backend should serve. -/
def unservedModel : String := "nonexistent-model-xyz-999"

/-- Sends a request for a message and judges the status alone. -/
def judgeByStatus (setup : Setup) (name : String) (body : Json) (accept : Nat → Bool) :
    Session Record := do
  match ← setup.client.postMessage body with
  | .error e => return ⟨name, .fail, e.message⟩
  | .ok reply =>
    let v : Finding := if accept reply.status then .pass else .fail "unexpected status"
    return recordOf name (.ok (v.note s!"HTTP {reply.status}"))

/-- The first backend that should get messages unchanged. -/
def edgePlan? (r : Assignment) : Option Plan :=
  r.ready.find? fun plan => plan.mode = .passthrough

/-- Checks the edge cases. Where the backend to check them on had no model, only the first of them
would be recorded. -/
def checkEdgeCases (setup : Setup) (r : Assignment) : Session (List Record) := do
  let missing ← judgeByStatus setup "edge/nonexistent-model"
    (Body.message unservedModel false none none) fun status => 400 ≤ status && status < 500
  match edgePlan? r with
  | none =>
    return [missing, ⟨"edge/system-param", .skip, "no passthrough backends"⟩,
      ⟨"edge/multiturn", .skip, "no passthrough backends"⟩]
  | some plan => match plan.selected with
    | none => return [missing]
    | some model =>
      let system ← judgeByStatus setup ("edge/system-param (" ++ plan.name ++ ")")
        (Body.message model false (some "You are a pirate") (some [Body.user "Say hello"]))
        (· = 200)
      let turns := [Body.user "My name is Test.", Body.turn "assistant" "Hello, Test!",
        Body.user "What is my name?"]
      let multiturn ← judgeByStatus setup ("edge/multiturn (" ++ plan.name ++ ")")
        ((Body.message model false none (some turns)).set "max_tokens" (.ofNat 20)) (· = 200)
      return [missing, system, multiturn]

/-- Reads the page of counters. -/
def readCounters (body : String) : Outcome CounterPage :=
  match CounterPage.parse? body with
  | some page => .ok page
  | none => .error (.invalidResponse "not a page of counters")

/-- The record of the counters, for the modes that responses showed and the page, if its counts can
be added up. -/
def counterRecord? (name : String) (observed : ShownModes) : Outcome CounterPage → Option Record
  | .ok page => (Finding.ofCounters? page observed.passthrough observed.translated).map fun v =>
    ⟨name, v.status, v.detail⟩
  | .error e => some ⟨name, .skip, "could not fetch translator stats: " ++ e.message⟩

/-- Compares the gateway's counters with what responses showed. -/
def checkCounters (setup : Setup) (observed : ShownModes) (name : String) :
    Session (Option (Record × Option CounterPage)) := do
  let page := (← setup.client.getPage Route.counters).bind readCounters
  return (counterRecord? name observed page).map fun record => (record, page.toOption)

/-- What a run for all backends found out. -/
structure ModeOutcome where
  inventory : Inventory
  assignment : Assignment
  matrix : List BackendRow
  counters : Option CounterPage
  report : Report

/-- The run for given plans, which has no outcome where the counters cannot be added up. -/
def checkBackends (setup : Setup) (options : ModeOptions) (inventory : Inventory)
    (r : Assignment) : Session (Option ModeOutcome) := do
  let results ← r.backends.mapM (checkBackend setup options.skipStreaming)
  let edges ← (if options.skipEdgeCases then pure [] else checkEdgeCases setup r)
  let observed := (results.map BackendResult.observed).foldl ShownModes.merge {}
  return (← checkCounters setup observed "stats/translator-counters").map
    fun (counted, counters) => {
      inventory, assignment := r, counters
      matrix := results.map BackendResult.row
      report := ⟨"passthrough", results.flatMap BackendResult.records ++ edges ++ [counted]⟩ }

/-- Runs the checks for all backends. -/
def modeRun (setup : Setup) (options : ModeOptions) : Session (Except Halt ModeOutcome) :=
  setup.surveyed options.source options.assign (checkBackends setup options)

end GatewayProbe
