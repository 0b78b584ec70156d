/-
What runs found out, as JSON.

Each type of the library that a document shows has one function `json` that writes it. Absent values
are written as null.
-/
import GatewayProbe.Run.Answers
import GatewayProbe.Run.Detection
import GatewayProbe.Run.Stories
import GatewayProbe.Run.Surface

namespace GatewayProbe

/-- An optional value, or null. -/
def Json.ofOption {α : Type} (write : α → Json) : Option α → Json
  | some x => write x
  | none => .null

/-- A list of values. -/
def Json.ofList {α : Type} (write : α → Json) (xs : List α) : Json := .array (xs.map write)

/-- An endpoint. -/
def Endpoint.json (e : Endpoint) : Json :=
  .ofFields [("name", .text e.name), ("type", .text e.type), ("url", .ofText? e.url),
    ("status", .text e.status), ("model_count", .ofNat e.modelCount)]

/-- A reference to an endpoint. -/
def ModelRef.json (r : ModelRef) : Json :=
  .ofFields [("endpoint", .text r.endpoint), ("state", .ofText? r.state)]

/-- A model. -/
def Model.json (m : Model) : Json :=
  .ofFields [("id", .text m.id), ("availability", .ofList ModelRef.json m.refs),
    ("type_hint", .ofText? m.typeHint)]

/-- Both lists. -/
def Inventory.json (s : Inventory) : Json :=
  .ofFields [("endpoints", .ofList Endpoint.json s.endpoints),
    ("models", .ofList Model.json s.models)]

/-- Status and headers of a response. -/
def Head.json (h : Head) : Json :=
  .ofFields [("status", .ofNat h.status), ("mode", .ofText? h.mode),
    ("endpoint", .ofText? h.endpoint), ("model", .ofText? h.model),
    ("backend_type", .ofText? h.backendType), ("request_id", .ofText? h.requestId),
    ("response_time", .ofText? h.responseTime), ("content_type", .ofText? h.contentType)]

/-- The name of how a binding was found. -/
def Basis.label : Basis → String
  | .url => "url"
  | .name => "name"
  | .typeHint => "type_fallback"

/-- A binding. -/
def Binding.json (b : Binding) : Json :=
  .ofFields [("endpoint", .text b.endpoint), ("model", .text b.model),
    ("source", .text b.source.label)]

/-- A plan. -/
def Plan.json (p : Plan) : Json :=
  .ofFields [("name", .text p.name), ("type", .text p.type), ("url", .ofText? p.url),
    ("status", .text p.status), ("models", .ofTexts p.models), ("mode", .text p.mode.name),
    ("approximate", .ofTexts p.approximate), ("selected_model", .ofText? p.selected)]

/-- Plans, endpoints left out and bindings. -/
def Assignment.json (r : Assignment) : Json :=
  .ofFields [("backends", .ofList Plan.json r.backends), ("dropped", .ofTexts r.dropped),
    ("bindings", .ofList Binding.json r.bindings)]

/-- The document of a discovery. -/
def discoveryJson (s : Inventory) (r : Assignment) : Json :=
  .ofFields [("endpoints", .ofList Endpoint.json s.endpoints), ("models", .ofNat s.models.length),
    ("backends", .ofList Plan.json r.backends), ("dropped", .ofTexts r.dropped),
    ("bindings", .ofList Binding.json r.bindings)]

/-- Numbers of a delivery. -/
def Evidence.json (e : Evidence) : Json :=
  .ofFields [("first_event_time", .ofOption .ofFloat e.first), ("count", .ofNat e.count),
    ("avg_delay", .ofFloat e.avgDelay), ("max_delay", .ofFloat e.maxDelay),
    ("min_delay", .ofFloat e.minDelay)]

/-- A delivery with its numbers. -/
def Delivery.json (v : Delivery) : Json :=
  .ofFields [("mode", .text v.form.name), ("quality", .text v.quality.name),
    ("evidence", v.evidence.json)]

/-- A record. -/
def Record.json (r : Record) : Json :=
  .ofFields [("name", .text r.name), ("status", .text r.status.name), ("detail", .text r.detail)]

/-- A report. -/
def Report.json (r : Report) : Json :=
  .ofFields [("title", .text r.title), ("records", .ofList Record.json r.records)]

/-- A rate. -/
def Rate.json : Rate → Json
  | .number value => .ofFloat value
  | .text written => .text written

/-- The counts of one translator. -/
def Counters.json (c : Counters) : Json :=
  .ofFields [("translator_name", .text c.translator), ("total_requests", .ofNat c.total),
    ("passthrough_requests", .ofNat c.passthrough), ("translation_requests", .ofNat c.translated),
    ("passthrough_rate", .ofOption Rate.json c.passthroughRate),
    ("streaming_requests", .ofNat c.streaming), ("non_streaming_requests", .ofNat c.nonStreaming),
    ("fallback_no_compatible_endpoints", .ofNat c.noCompatible),
    ("fallback_translator_does_not_support_passthrough", .ofNat c.noSupport),
    ("fallback_cannot_passthrough", .ofNat c.cannotPass)]

/-- The page of counters. -/
def CounterPage.json (p : CounterPage) : Json :=
  .ofFields [("translators", .ofList Counters.json p.translators),
    ("summary", .ofFields [
      ("overall_passthrough_rate", .ofOption Rate.json p.passthroughRate),
      ("overall_success_rate", .ofOption Rate.json p.overallSuccess)])]

/-- A row of the matrix. -/
def BackendRow.json (r : BackendRow) : Json :=
  .ofFields [("backend", .text r.backend), ("backend_type", .text r.type),
    ("model", .ofText? r.model), ("mode", .text r.mode.name),
    ("non_streaming", .text r.nonStreaming.name),
    ("streaming", .ofText? (r.streaming.map Status.name))]

/-- The document of a run for all backends. -/
def ModeOutcome.json (o : ModeOutcome) : Json :=
  .ofFields [("snapshot", o.inventory.json), ("reconciliation", o.assignment.json),
    ("matrix", .ofList BackendRow.json o.matrix), ("stats", .ofOption CounterPage.json o.counters),
    ("report", o.report.json)]

/-- A watched delivery. -/
def DetectionResult.json (r : DetectionResult) : Json :=
  .ofFields [("name", .text r.name), ("expected", .text r.expected.name),
    ("verdict", .ofOption Delivery.json r.delivery), ("endpoint", .ofText? r.endpoint),
    ("total_time", .ofOption .ofFloat r.totalTime), ("error", .ofText? r.error)]

/-- The document of a run that watches deliveries. -/
def DetectionOutcome.json (o : DetectionOutcome) : Json :=
  .ofFields [("model", .text o.model), ("results", .ofList DetectionResult.json o.results),
    ("report", o.report.json)]

/-- The numbers of one answer. -/
def AnswerSample.json (s : AnswerSample) : Json :=
  .ofFields [("question", .text s.question), ("endpoint", .ofText? s.endpoint),
    ("chunks", .ofNat s.chunks), ("chars", .ofNat s.chars),
    ("ttft", .ofOption .ofFloat s.firstToken), ("total_time", .ofFloat s.totalTime),
    ("evidence", s.evidence.json), ("quality", .text s.quality.name), ("error", .ofText? s.error)]

/-- The numbers of all answers. -/
def AnswerSummary.json (s : AnswerSummary) : Json :=
  .ofFields [("total", .ofNat s.total), ("successful", .ofNat s.successful),
    ("ttft_min", .ofOption .ofFloat s.firstTokenMin),
    ("ttft_avg", .ofOption .ofFloat s.firstTokenAvg),
    ("ttft_max", .ofOption .ofFloat s.firstTokenMax),
    ("quality", .ofFields (s.quality.map fun band => (band.1.name, .ofNat band.2)))]

/-- The document of a run that puts questions. -/
def AnswerOutcome.json (o : AnswerOutcome) : Json :=
  .ofFields [("model", .text o.model), ("samples", .ofList AnswerSample.json o.samples),
    ("summary", o.summary.json), ("report", o.report.json)]

/-- A backend that represents a mode. -/
def Representative.json (c : Representative) : Json :=
  .ofFields [("backend", .text c.backend), ("backend_type", .text c.type),
    ("model", .text c.model)]

/-- The document of a run in phases. -/
def SurfaceOutcome.json (o : SurfaceOutcome) : Json :=
  .ofFields [("snapshot", o.inventory.json), ("selected_model", .ofText? o.selectedModel),
    ("passthrough", .ofOption Representative.json o.passthrough),
    ("translation", .ofOption Representative.json o.translated), ("report", o.report.json)]

/-- Requests counted by endpoint. -/
def ServedTally.json (tally : ServedTally) : Json :=
  .ofFields (tally.map fun (endpoint, u) => (endpoint, .ofFields [("total", .ofNat u.total),
    ("success", .ofNat u.success), ("failure", .ofNat u.failure)]))

/-- The document of a run through the prefixes of providers. -/
def ProviderOutcome.json (o : ProviderOutcome) : Json :=
  .ofFields [
    ("provider_models", .ofFields (o.listing.map fun entry => (entry.1.name, .ofTexts entry.2))),
    ("usage", ServedTally.json o.usage), ("report", o.report.json)]

/-- A stream through a provider. -/
def StoryResult.json (r : StoryResult) : Json :=
  .ofFields [("provider", .text r.provider.name), ("model", .text r.model),
    ("endpoint", .ofText? r.endpoint), ("chunks", .ofNat r.chunks),
    ("ttft", .ofOption .ofFloat r.firstToken), ("total_time", .ofOption .ofFloat r.totalTime),
    ("chars", .ofNat r.chars), ("tokens_per_second", .ofFloat r.tokensPerSecond),
    ("evidence", r.evidence.json), ("quality", .ofText? (r.quality.map Smoothness.name)),
    ("error", .ofText? r.error)]

/-- The document of a run that streams through providers. -/
def StoryOutcome.json (o : StoryOutcome) : Json :=
  .ofFields [("results", .ofList StoryResult.json o.results), ("report", o.report.json)]

end GatewayProbe
