/-
The whole public surface of a gateway, in phases.

Each phase checks one family of routes and leaves records named after it. Phases may be left out;
those that run always leave at least one record. The phase for modes looks at the gateway's counters
at last, and where they cannot be added up the run is aborted there.

* `phases` — the phases in their order;
* `judgeUsage`, `ChatLines.ofBody` — the token counts of a response, and the lines of a stream;
* `SurfaceOptions.choice` — what a run draws for itself;
* `surfaceRun` — the run;
* `phaseCounts` — the records of each phase, counted.
-/
import GatewayProbe.Run.Fetch
import GatewayProbe.Run.Modes

namespace GatewayProbe

/-- The phases in their order. -/
def phases : List String :=
  ["internal", "models", "proxy", "anthropic", "passthrough", "providers", "headers", "errors"]

/-- What a run may leave out, and how it chooses. -/
structure SurfaceOptions where
  skipStreaming : Bool := false
  skipAnthropic : Bool := false
  skipProviders : Bool := false
  /-- The words that the models of plans are drawn by. -/
  planDraws : Draws
  /-- The words that the run draws by itself. With a seed these are the same. -/
  draws : Draws

/-- A backend that represents a mode. -/
structure Representative where
  backend : String
  type : String
  model : String
  deriving DecidableEq, Repr

/-- What a run found out. -/
structure SurfaceOutcome where
  inventory : Inventory
  selectedModel : Option String
  passthrough : Option Representative
  translated : Option Representative
  report : Report

/-- The records of one phase, counted. -/
structure PhaseCount where
  phase : String
  passed : Nat
  failed : Nat
  skipped : Nat
  deriving DecidableEq, Repr

/-- The records of each phase that has any, counted. -/
def phaseCounts (report : Report) : List PhaseCount :=
  phases.filterMap fun phase =>
    let own := report.records.filter fun r => r.group = phase
    let count (status : Status) : Nat := own.countP fun r => r.status = status
    if own.isEmpty then none else some ⟨phase, count .pass, count .fail, count .skip⟩

/-- A record of what a page holds, or of why there is none. -/
def pageRecord (name : String) (page : Except FetchFault Json) (judge : Json → Status × String) :
    Record :=
  match page with
  | .ok page => ⟨name, (judge page).1, (judge page).2⟩
  | .error fault => ⟨name, .fail, fault.message⟩

/-- The internal pages: their names, their routes and the keys they must have. -/
def internalPages : List (String × String × List String) :=
  [("health", Route.health, ["status"]),
   ("status", Route.status, []),
   ("status-endpoints", Route.endpointList, ["endpoints"]),
   ("status-models", Route.recentModels, []),
   ("model-stats", Route.modelCounts, []),
   ("translator-stats", Route.counters, []),
   ("process", Route.process, []),
   ("version", Route.version, [])]

/-- Checks one internal page. -/
def checkInternalPage (setup : Setup) : String × String × List String → Session Record
  | (label, path, keys) => do
    let page ← fetchPage setup.client path
    return pageRecord ("internal/" ++ label) page fun body =>
      let missing := keys.filter fun key => (body.get? key).isNone
      if missing.isEmpty then (.pass, path)
      else (.fail, "missing keys: " ++ ", ".intercalate missing)

/-- Checks the internal pages. -/
def internalPhase (setup : Setup) : Session (List Record) :=
  internalPages.mapM (checkInternalPage setup)

/-- Checks the list of models. -/
def judgeModelList (page : Json) : Status × String :=
  match listedLength? page with
  | some n => (.pass, s!"{n} models")
  | none => (.fail, "unexpected response structure")

/-- Checks the list of models and the page of one of them. -/
def modelsPhase (setup : Setup) (model : Option String) : Session (List Record) := do
  let list ← fetchPage setup.client Route.modelList
  let listed := pageRecord "models/list" list judgeModelList
  match model with
  | none => return [listed, ⟨"models/lookup", .skip, "no model available"⟩]
  | some id =>
    let page ← fetchPage setup.client (Route.modelPage id)
    return [listed, pageRecord "models/lookup" page fun _ => (.pass, "found " ++ id)]

/-- A field of the block of token counts, as it is written. -/
def shownField (block : Json) (name : String) : String :=
  ((block.get? name).getD (.text "?")).compact

/-- Checks a block of token counts: prompt and total must be positive. -/
def judgeUsage (block : Option Json) : Status × String :=
  match block.filter Json.isObject with
  | none => (.fail, "no usage block in response")
  | some usage =>
    let count (name : String) : Option Int := (usage.get? name).bind Json.asInt64?
    let wanted := [("prompt_tokens", (count "prompt_tokens").any (· > 0)),
      ("completion_tokens", (count "completion_tokens").any (· ≥ 0)),
      ("total_tokens", (count "total_tokens").any (· > 0))]
    let missing := (wanted.filter fun field => !field.2).map Prod.fst
    if missing.isEmpty then
      (.pass, ", ".intercalate (wanted.map fun field =>
        field.1 ++ "=" ++ toString ((count field.1).getD 0)))
    else (.fail, "missing or invalid: " ++ ", ".intercalate missing ++ ", usage=" ++ usage.compact)

/-- The records of a chat completion that is not streamed. -/
def judgeChat (page : Except FetchFault Json) : List Record :=
  match page with
  | .error fault => [⟨"proxy/chat-nonstream", .fail, fault.message⟩]
  | .ok body =>
    let block := (body.get? "usage").filter Json.isObject
    let detail := match block with
      | some u => "prompt=" ++ shownField u "prompt_tokens" ++ ", completion=" ++
          shownField u "completion_tokens" ++ ", total=" ++ shownField u "total_tokens"
      | none => "no usage block in response"
    let (status, counts) := judgeUsage block
    [⟨"proxy/chat-nonstream", .pass, detail⟩, ⟨"proxy/token-usage-nonstream", status, counts⟩]

/-- What the lines of a streamed chat completion show. -/
structure ChatLines where
  dataLines : Nat := 0
  sawDone : Bool := false
  /-- The last block of token counts. -/
  usage : Option Json := none

/-- The payload of a data line with any blanks around it. -/
def looseData? (line : String) : Option String :=
  (EventLine.after? "data:" (Text.trimChars line.toList)).map String.ofList

/-- The block of token counts in the payload of a data line. -/
def usageOf? (payload : String) : Option Json :=
  (Json.parse? (Text.trim payload)).bind fun chunk => (chunk.get? "usage").filter Json.isObject

/-- Reads the lines of a streamed chat completion. -/
def ChatLines.ofBody (body : String) : ChatLines :=
  let lines := Text.lines body
  let payloads := lines.filterMap looseData?
  let capture := Capture.ofLines .openAi (lines.map fun line => (0, line))
  { dataLines := payloads.length
    sawDone := capture.ending? = some "[DONE]"
    usage := (payloads.filterMap usageOf?).getLast? }

/-- The records of a streamed chat completion whose text arrived. -/
def judgeProxyStream (body : String) : List Record :=
  let scan := ChatLines.ofBody body
  let stream : Record :=
    if scan.dataLines = 0 then ⟨"proxy/chat-stream", .fail, "no data: lines in SSE stream"⟩
    else if !scan.sawDone then
      ⟨"proxy/chat-stream", .pass, "stream completed (no [DONE] marker)"⟩
    else ⟨"proxy/chat-stream", .pass, s!"{scan.dataLines} data lines"⟩
  let (status, detail) := match scan.usage with
    | some block => judgeUsage (some block)
    | none => (.fail, "no usage block in streaming response " ++
        "(stream_options.include_usage may not be supported)")
  [stream, ⟨"proxy/token-usage-stream", status, detail⟩]

/-- The request for a streamed chat completion with token counts. -/
def streamedChat (model : String) : Json :=
  ((Body.shortChat model Body.greetingPrompt 10).set "stream" (.bool true)).set "stream_options"
    (.ofFields [("include_usage", .bool true)])

/-- Checks a streamed chat completion. -/
def askStreamedChat (setup : Setup) (model : String) : Session (List Record) := do
  match ← setup.client.postValue Route.sharedChat (streamedChat model) with
  | .error e => return [⟨"proxy/chat-stream", .fail, e.message⟩]
  | .ok reply =>
    if reply.status ≠ 200 then return [⟨"proxy/chat-stream", .fail, s!"HTTP {reply.status}"⟩]
    else match reply.text setup.client.budget with
      | .error e => return [⟨"proxy/chat-stream", .fail, e.message⟩]
      | .ok text => return judgeProxyStream text

/-- Checks the routing headers of a reply. -/
def judgeHeaders (reply : Outcome Reply) : Record :=
  match reply with
  | .error e => ⟨"proxy/headers", .fail, e.message⟩
  | .ok r =>
    let missing := r.head.missing
    if r.status ≠ 200 then ⟨"proxy/headers", .fail, s!"HTTP {r.status}"⟩
    else if missing.isEmpty then ⟨"proxy/headers", .pass, "all 4 headers present"⟩
    else ⟨"proxy/headers", .fail, "missing headers: " ++ ", ".intercalate missing⟩

/-- Checks the proxy routes. -/
def proxyPhase (setup : Setup) (model : Option String) (skipStreaming : Bool) :
    Session (List Record) := do
  let client := setup.client
  let list ← fetchPage client Route.sharedModels
  let listed := pageRecord "proxy/models" list fun page =>
    (.pass, s!"{(listedLength? page).getD 0} models")
  match model with
  | none => return [listed, ⟨"proxy/chat-nonstream", .skip, "no model available"⟩]
  | some id =>
    let chat ← client.postValue Route.sharedChat (Body.shortChat id Body.greetingPrompt 10)
    let streamed ← (if skipStreaming then pure [] else askStreamedChat setup id)
    let last ← client.postValue Route.sharedChat (Body.shortChat id "Hi" 5)
    return listed :: judgeChat (judgePage client.budget chat) ++ streamed ++ [judgeHeaders last]

/-- The records of a request for a whole message. -/
def judgeMessages (budget : Nat) (reply : Outcome Reply) : List Record :=
  let name := "anthropic/messages-nonstream"
  match reply with
  | .error e => [⟨name, .fail, e.message⟩]
  | .ok r =>
    if r.status ≠ 200 then [⟨name, .fail, s!"HTTP {r.status}"⟩]
    else match r.json budget with
      | .error _ => [⟨name, .fail, "invalid JSON"⟩]
      | .ok _ =>
        let shown := match r.head.mode with
          | some mode => ("mode=" ++ mode, "X-Olla-Mode=" ++ mode)
          | none => ("", "no X-Olla-Mode (translation mode)")
        [⟨name, .pass, shown.1⟩, ⟨"anthropic/passthrough-check", .pass, shown.2⟩]

/-- The record of a request for a streamed message: its data lines are counted. -/
def judgeMessageStream (budget : Nat) (reply : Outcome Reply) : Record :=
  let name := "anthropic/messages-stream"
  match reply with
  | .error e => ⟨name, .fail, e.message⟩
  | .ok r =>
    if r.status ≠ 200 then ⟨name, .fail, s!"HTTP {r.status}"⟩
    else if !r.head.announcesEvents then
      ⟨name, .fail, "unexpected content-type: " ++ r.head.contentType.getD "none"⟩
    else match r.text budget with
      | .error e => ⟨name, .fail, e.message⟩
      | .ok text =>
        let count := (Text.lines text).countP fun line =>
          (EventLine.after? "data:" (line.toList.dropWhile Text.isBlank)).isSome
        if count > 0 then ⟨name, .pass, s!"{count} SSE events"⟩
        else ⟨name, .fail, "no SSE data events"⟩

/-- The record of a request to count tokens. -/
def judgeTokenCount (budget : Nat) (reply : Outcome Reply) : Record :=
  let name := "anthropic/count-tokens"
  match reply with
  | .error e => ⟨name, .fail, e.message⟩
  | .ok r =>
    if r.status = 200 then match r.json budget with
      | .ok body => ⟨name, .pass, "input_tokens=" ++ shownField body "input_tokens"⟩
      | .error _ => ⟨name, .fail, "invalid JSON"⟩
    else if r.status = 404 then ⟨name, .pass, "not implemented (404), acceptable"⟩
    else ⟨name, .fail, s!"HTTP {r.status}"⟩

/-- Checks requests for messages of one model. -/
def messageChecks (setup : Setup) (model : String) (skipStreaming : Bool) :
    Session (List Record) := do
  let client := setup.client
  let whole ← client.postMessage (Body.message model false none none)
  let streamed ← (if skipStreaming then pure [] else do
    let reply ← client.postMessage (Body.message model true none none)
    pure [judgeMessageStream client.budget reply])
  let tokens ← client.postKeyed Route.tokenCount
    (.ofFields [("model", .text model),
      ("messages", .array [Body.user "Count these tokens please"])])
  return judgeMessages client.budget whole ++ streamed ++ [judgeTokenCount client.budget tokens]

/-- Checks requests for messages once the models are recorded. -/
def messagesAfter (setup : Setup) (model : Option String) (skipStreaming : Bool)
    (models : Record) : Session (List Record) := do
  match model with
  | none => return [models, ⟨"anthropic/messages-nonstream", .skip, "no model available"⟩]
  | some id => return models :: (← messageChecks setup id skipStreaming)

/-- Checks the routes for messages. Where they are not there the rest of the phase is left out. -/
def anthropicPhase (setup : Setup) (model : Option String) (skipStreaming : Bool) :
    Session (List Record) := do
  let after := messagesAfter setup model skipStreaming
  match ← fetchPage setup.client Route.messageModels with
  | .ok _ => after ⟨"anthropic/models", .pass, ""⟩
  | .error (.status 404) =>
    return [⟨"anthropic/models", .skip, "endpoint not configured (404), skipping phase"⟩]
  | .error fault => after ⟨"anthropic/models", .fail, fault.message⟩

/-- Checks one backend for its mode. -/
def modeChecks (setup : Setup) (skipStreaming : Bool) (plan : Plan) (model : String) :
    Session (List Record × ShownModes) := do
  let name := "passthrough/" ++ plan.mode.name
  let (whole, seen) ← checkWhole setup plan model (name ++ "-nonstream")
  if skipStreaming then return ([whole], seen)
  else
    let (streamed, seenStreamed) ← checkStreamed setup plan model (name ++ "-stream")
    return ([whole, streamed], seen.merge seenStreamed)

/-- The plans of the backends that represent the modes, with the models to check them by. -/
def chosenPlans (r : Assignment) (candidates : List Representative) : List (Plan × String) :=
  candidates.filterMap fun c =>
    (r.backends.find? (·.name = c.backend)).map fun plan => (plan, c.model)

/-- Checks the backends that represent the modes, then the gateway's counters, if these can be added
up. -/
def modesPhase (setup : Setup) (r : Assignment) (candidates : List Representative)
    (skipStreaming : Bool) : Session (Option (List Record)) := do
  if candidates.isEmpty then
    return some [⟨"passthrough/modes", .skip,
      "no passthrough or translation backends with models"⟩]
  else
    let results ← (chosenPlans r candidates).mapM fun c => modeChecks setup skipStreaming c.1 c.2
    let observed := (results.map Prod.snd).foldl ShownModes.merge {}
    return (← checkCounters setup observed "passthrough/stats").map fun (counted, _) =>
      results.flatMap Prod.fst ++ [counted]

/-- Checks the model list of one backend type. -/
def checkProviderRoute (setup : Setup) (type : String) : Session Record := do
  let name := "providers/" ++ type
  let routeName := (⟨type, type, none, "", 0⟩ : Endpoint).routeName
  match ← fetchPage setup.client (Route.under routeName "/v1/models") with
  | .error (.status 404) => return ⟨name, .pass, "no dedicated route (404), acceptable"⟩
  | page => return pageRecord name page fun body =>
      (.pass, s!"{(listedLength? body).getD 0} models")

/-- Checks the model list of each backend type. -/
def providersPhase (setup : Setup) (inventory : Inventory) : Session (List Record) :=
  match Text.ordered (inventory.endpoints.map Endpoint.type) with
  | [] => return [⟨"providers/routes", .skip, "no providers discovered"⟩]
  | types => types.mapM (checkProviderRoute setup)

/-- The page of the version names a version or a commit. -/
def judgeVersion (page : Json) : Status × String :=
  if ["version", "Version", "commit", "Commit"].any fun key => (page.get? key).isSome then
    (.pass, "version and commit fields present")
  else (.fail, "missing version/commit fields, keys: " ++ ", ".intercalate page.keys)

/-- Checks the tracking headers of a reply. -/
def judgeTracking (reply : Outcome Reply) : Record :=
  let name := "headers/tracking"
  match reply with
  | .error e => ⟨name, .fail, e.message⟩
  | .ok r =>
    if r.status ≠ 200 then ⟨name, .fail, s!"HTTP {r.status}"⟩
    else match r.head.requestId with
      | none => ⟨name, .fail, "missing tracking headers"⟩
      | some id =>
        let time := match r.head.responseTime with
          | some time => ", response-time=" ++ time
          | none => ""
        ⟨name, .pass, "request-id=" ++ id ++ time⟩

/-- Checks version and tracking. -/
def headersPhase (setup : Setup) (model : Option String) : Session (List Record) := do
  match model with
  | none => return [⟨"headers/version-fields", .skip, "no model available"⟩]
  | some id =>
    let page ← fetchPage setup.client Route.version
    let reply ← setup.client.postValue Route.sharedChat (Body.shortChat id "Hi" 5)
    return [pageRecord "headers/version-fields" page judgeVersion, judgeTracking reply]

/-- Judges the status of a reply alone. -/
def judgeStatus (name : String) (accept : Nat → Bool) : Outcome Reply → Record
  | .ok r => ⟨name, .ofBool (accept r.status), s!"HTTP {r.status}"⟩
  | .error e => ⟨name, .fail, e.message⟩

/-- A status that tells of an error. -/
def isErrorStatus (status : Nat) : Bool := 400 ≤ status && status < 600

/-- A status that is no fault of the gateway itself. A backend may fill in a model of its own. -/
def isAnsweredStatus (status : Nat) : Bool := status < 500 || status = 502 || status = 503

/-- Checks requests that should be refused. -/
def errorsPhase (setup : Setup) : Session (List Record) := do
  let client := setup.client
  let fields := [("messages", Json.array [Body.user "Hello"]), ("max_tokens", .ofNat 5)]
  let unknown ← client.postValue Route.sharedChat
    (.ofFields (("model", .text unservedModel) :: fields))
  let invalid ← client.post Route.sharedChat "this is not json"
  let missing ← client.postValue Route.sharedChat (.ofFields fields)
  return [judgeStatus "errors/nonexistent-model" isErrorStatus unknown,
    judgeStatus "errors/invalid-body" isErrorStatus invalid,
    judgeStatus "errors/missing-model" isAnsweredStatus missing]

/-- Draws a backend that represents a mode. -/
def drawRepresentative (r : Assignment) (mode : Mode) (draws : Draws) :
    Option Representative × Draws :=
  let (plan, draws) := draws.choose? (r.ready.filter fun p => p.mode = mode)
  (plan.bind fun p => p.selected.map fun model => ⟨p.name, p.type, model⟩, draws)

/-- What a run draws for itself before its first phase. -/
structure SurfaceChoice where
  model : Option String
  passthrough : Option Representative
  translated : Option Representative

/-- The backends that represent the modes. -/
def SurfaceChoice.candidates (choice : SurfaceChoice) : List Representative :=
  choice.passthrough.toList ++ choice.translated.toList

/-- Draws a model and the backends that represent the modes, one after the other. -/
def SurfaceOptions.choice (options : SurfaceOptions) (inventory : Inventory) (r : Assignment) :
    SurfaceChoice :=
  let (model, draws) := options.draws.choose? inventory.generativeIds
  let (passthrough, draws) := drawRepresentative r .passthrough draws
  let (translated, _) := drawRepresentative r .translated draws
  ⟨model, passthrough, translated⟩

/-- The phases before that for modes. -/
def phasesBefore (setup : Setup) (options : SurfaceOptions) (model : Option String) :
    Session (List Record) := do
  let internal ← internalPhase setup
  let models ← modelsPhase setup model
  let proxy ← proxyPhase setup model options.skipStreaming
  let messages ← (if options.skipAnthropic then pure [] else
    anthropicPhase setup model options.skipStreaming)
  return internal ++ models ++ proxy ++ messages

/-- The phases after that for modes. -/
def phasesAfter (setup : Setup) (options : SurfaceOptions) (inventory : Inventory)
    (model : Option String) : Session (List Record) := do
  let providers ← (if options.skipProviders then pure [] else providersPhase setup inventory)
  let headers ← headersPhase setup model
  let errors ← errorsPhase setup
  return providers ++ headers ++ errors

/-- The phases of a run for given plans. Nothing follows where the counters cannot be added up. -/
def surfacePhases (setup : Setup) (options : SurfaceOptions) (inventory : Inventory)
    (r : Assignment) : Session (Option SurfaceOutcome) := do
  let choice := options.choice inventory r
  let before ← phasesBefore setup options choice.model
  match ← (if options.skipAnthropic then pure (some []) else
    modesPhase setup r choice.candidates options.skipStreaming) with
  | none => return none
  | some modes =>
    let after ← phasesAfter setup options inventory choice.model
    return some {
      inventory, selectedModel := choice.model, passthrough := choice.passthrough
      translated := choice.translated
      report := ⟨"integration", before ++ modes ++ after⟩ }

/-- Runs all phases that are not left out. -/
def surfaceRun (setup : Setup) (options : SurfaceOptions) :
    Session (Except Halt SurfaceOutcome) :=
  setup.surveyed .unified ⟨false, .random options.planDraws⟩ (surfacePhases setup options)

end GatewayProbe
