/-
What runs found out, as text.

* `Ink.records`, `Ink.summary` — one line a record under headers of groups, and the counts;
* `Ink.plans`, `Ink.matrix`, `Ink.counters` — plans, backends and the gateway's counters;
* one page for each run.
-/
import GatewayProbe.Run.Answers
import GatewayProbe.Run.Detection
import GatewayProbe.Run.Stories
import GatewayProbe.Run.Surface
import GatewayProbe.View.Labels
import GatewayProbe.View.Table

namespace GatewayProbe.Ink

/-- The line of a record. -/
def recordLine (ink : Ink) (r : Record) : String :=
  "  " ++ r.status.icon ++ " [" ++ ink.status r.status ++ "] " ++ r.name ++
    (if r.detail = "" then "" else "  " ++ ink.paint .dimmed r.detail) ++ "\n"

/-- The lines of records after a record of the given group. A new group has a header. -/
def recordLines (ink : Ink) (group : String) : List Record → List String
  | [] => []
  | r :: rest =>
    let header := if r.group = group then "" else "\n" ++ ink.paint .bold r.group ++ "\n"
    (header ++ ink.recordLine r) :: ink.recordLines r.group rest

/-- The lines of a report. -/
def records (ink : Ink) (r : Report) : String := String.join (ink.recordLines "" r.records)

/-- The counts of a report. -/
def summary (ink : Ink) (r : Report) : String :=
  let counts := s!": {r.passed} passed, {r.failed} failed, {r.skipped} skipped"
  let line := r.title ++ counts ++ s!" ({r.records.length} total)"
  ink.paint (if r.noneFailed then .boldGreen else .boldRed) line

/-- The model shown for a plan. -/
def planModel (ink : Ink) (p : Plan) : String :=
  match p.selected with
  | none => "-"
  | some model =>
    if p.isGuessed then ink.paint .yellow (model ++ " (approx)") else model

/-- The plans as a table. -/
def plans (ink : Ink) (s : Inventory) (r : Assignment) : String :=
  let table : Table :=
    { header := ["Backend", "Type", "Status", "Models", "Mode", "Test Model"]
      rows := r.backends.map fun p =>
        [p.name, p.type, p.status, toString p.models.length, ink.mode p.mode, ink.planModel p] }
  let counts := s!"\n{s.endpoints.length} endpoints, {s.models.length} models, " ++
    s!"{r.backends.length} backends"
  let dropped := if r.dropped.isEmpty then "" else
    "\nSkipped (unhealthy): " ++ ", ".intercalate r.dropped
  let approximate := r.guessedBindings.length
  let warning := if approximate = 0 then "" else
    "\n" ++ ink.paint .yellow s!"{approximate} model(s) bound by backend type only"
  table.render ++ counts ++ dropped ++ warning

/-- The backends of a run as a table. -/
def matrix (ink : Ink) (rows : List BackendRow) : String :=
  Table.render
    { header := ["Backend", "Type", "Model", "Mode", "Non-Stream", "Stream", "Result"]
      rows := rows.map fun r =>
        [r.backend, r.type, r.model.getD "-", ink.mode r.mode, ink.status r.nonStreaming,
          (r.streaming.map ink.status).getD "-", ink.status r.status] }

/-- The line of a translator. -/
def counterLine (ink : Ink) (c : Counters) : String :=
  let requests := s!": {c.total} requests ({c.passthrough} passthrough, " ++
    s!"{c.translated} translation, {c.streaming} streaming)"
  let rate := match c.passthroughRate with
    | some rate => ", passthrough rate " ++ rate.shown
    | none => ""
  ink.paint .bold c.translator ++ requests ++ rate

/-- The line on fallbacks below that of a translator. -/
def fallbackLine (c : Counters) : String :=
  s!"\n  fallbacks: no compatible endpoints {c.noCompatible}, unsupported {c.noSupport}" ++
    s!", cannot passthrough {c.cannotPass}"

/-- The gateway's counters for Anthropic messages, if they can be added up. -/
def counters (ink : Ink) (page : CounterPage) : Option String :=
  match page.anthropic? with
  | none => some "No Anthropic translator stats reported"
  | some c => c.fallbacks?.map fun fallbacks =>
    ink.counterLine c ++ if fallbacks > 0 then fallbackLine c else ""

/-- The page of a run for all backends, if its counters can be added up. -/
def modes (ink : Ink) (rows : List BackendRow) (page : Option CounterPage) (report : Report) :
    Option String := do
  let counted ← match page with
    | some page => (ink.counters page).map fun text => "\n" ++ text ++ "\n"
    | none => some ""
  return ink.matrix rows ++ "\n" ++ ink.records report ++ counted ++ "\n" ++ ink.summary report

/-- The first line of a page about one model. -/
def modelLine (ink : Ink) (model : String) : String := "Model: " ++ ink.paint .bold model ++ "\n"

/-- The row of a watched delivery. -/
def detectionRow (ink : Ink) (r : DetectionResult) : List String :=
  let measured := match r.delivery with
    | some v => [ink.delivery v.form, toString v.evidence.count, shownTime v.evidence.first,
        Delivery.time v.evidence.maxDelay]
    | none => [ink.paint .red (r.error.getD ""), "-", "-", "-"]
  [r.name, r.expected.name] ++ measured ++ [shownTime r.totalTime, ink.status r.status]

/-- The page of a run that watches deliveries. -/
def detection (ink : Ink) (o : DetectionOutcome) : String :=
  let table : Table :=
    { header := ["Probe", "Expected", "Detected", "Chunks", "First", "Max Gap", "Total", "Result"]
      rows := o.results.map ink.detectionRow }
  let share := match o.streamedShare with
    | some percent => "\nStreaming working for " ++ Decimal.fixed 0 percent ++
        "% of streamed probes"
    | none => ""
  ink.modelLine o.model ++ table.render ++ share ++ "\n\n" ++ ink.summary o.report

/-- The row of an answer. -/
def sampleRow (ink : Ink) (n : Nat) (s : AnswerSample) : List String :=
  let quality := match s.error with
    | some e => ink.paint .red e
    | none => ink.quality s.quality
  [toString n, s.question, s.endpoint.getD "-", shownTime s.firstToken, toString s.chunks,
    Delivery.time s.evidence.avgDelay, Delivery.time s.evidence.maxDelay, quality]

/-- The rows of answers, the first of them of a given number. -/
def sampleRows (ink : Ink) : Nat → List AnswerSample → List (List String)
  | _, [] => []
  | n, s :: rest => ink.sampleRow n s :: ink.sampleRows (n + 1) rest

/-- The numbers of all answers. -/
def answerSummary (s : AnswerSummary) : String :=
  let rate := "\nSuccess rate: " ++ Decimal.fixed 0 s.successShare ++
    s!"% ({s.successful}/{s.total})"
  let times := if s.firstTokenAvg.isNone then "" else
    "\nTTFT min " ++ shownTime s.firstTokenMin ++ " / avg " ++ shownTime s.firstTokenAvg ++
      " / max " ++ shownTime s.firstTokenMax
  let bands := if s.quality.isEmpty then "" else
    "\nQuality: " ++ ", ".intercalate (s.quality.map fun band => s!"{band.1.name} {band.2}")
  rate ++ times ++ bands

/-- The page of a run that puts questions. -/
def answers (ink : Ink) (o : AnswerOutcome) : String :=
  let table : Table :=
    { header := ["#", "Question", "Endpoint", "TTFT", "Chunks", "Avg Gap", "Max Gap", "Quality"]
      rows := ink.sampleRows 1 o.samples }
  ink.modelLine o.model ++ table.render ++ answerSummary o.summary ++ "\n\n" ++
    ink.summary o.report

/-- The line of a backend that represents a mode. -/
def representativeLine (label : String) : Option Representative → String
  | some c => label ++ ": " ++ c.model ++ " (" ++ c.backend ++ ", " ++ c.type ++ ")\n"
  | none => ""

/-- The page of a run in phases. -/
def surface (ink : Ink) (model : Option String) (passthrough translated : Option Representative)
    (report : Report) : String :=
  let table : Table :=
    { header := ["Phase", "Passed", "Failed", "Skipped"]
      rows := (phaseCounts report).map fun c =>
        [c.phase, toString c.passed, toString c.failed, toString c.skipped] }
  (model.map ink.modelLine).getD "" ++ representativeLine "Passthrough" passthrough ++
    representativeLine "Translation" translated ++ ink.records report ++ "\n" ++ table.render ++
    "\n\n" ++ ink.summary report

/-- The requests that endpoints served, as a table. -/
def usage (ink : Ink) (tally : ServedTally) : String :=
  Table.render
    { header := ["Endpoint", "Total", "Success", "Failed"]
      rows := tally.map fun (endpoint, u) =>
        [endpoint, toString u.total, toString u.success,
          ink.paint (if u.failure = 0 then .dimmed else .red) (toString u.failure)] }

/-- The page of a run through the prefixes of providers. -/
def providers (ink : Ink) (o : ProviderOutcome) : String :=
  let listed := o.listing.map fun (p, models) =>
    ink.paint .bold p.name ++ s!": {models.length} models\n"
  let used := if o.usage.isEmpty then "" else "\n" ++ ink.usage o.usage
  let rate := match o.report.passedShare? with
    | some rate => s!"\nSuccess rate: {rate}%"
    | none => ""
  String.join listed ++ ink.records o.report ++ used ++ rate ++ "\n\n" ++ ink.summary o.report

/-- The row of a stream through a provider. -/
def streamRow (ink : Ink) (analyze : Bool) (r : StoryResult) : List String :=
  let result := match r.error with
    | some e => ink.paint .red e
    | none => ink.status r.status
  let pattern := if analyze then
      [Delivery.time r.evidence.avgDelay, Delivery.time r.evidence.maxDelay,
        (r.quality.map ink.quality).getD "-"]
    else []
  [r.provider.name, r.model, toString r.chunks, shownTime r.firstToken, shownTime r.totalTime,
    Decimal.fixed 1 r.tokensPerSecond, result] ++ pattern

/-- The warnings about a stream. -/
def streamWarnings (ink : Ink) (r : StoryResult) : String :=
  String.join (r.warnings.map fun warning =>
    "\n" ++ ink.paint .yellow "!" ++ " " ++ r.provider.name ++ "/" ++ r.model ++ ": " ++ warning)

/-- The page of a run that streams through providers. -/
def stories (ink : Ink) (o : StoryOutcome) (analyze : Bool) : String :=
  let table : Table :=
    { header := ["Provider", "Model", "Chunks", "TTFT", "Total", "Tok/s", "Result"] ++
        (if analyze then ["Avg Gap", "Max Gap", "Quality"] else [])
      rows := o.results.map (ink.streamRow analyze) }
  let warnings := o.results.map ink.streamWarnings
  let providers := o.byProvider.map fun (p, passed, total) =>
    "\n" ++ p.name ++ s!": {passed}/{total} streaming"
  let first := match o.meanFirstToken with
    | some time => "\nAvg time to first token: " ++ Delivery.time time
    | none => ""
  let speed := match o.meanSpeed with
    | some speed => "\nAvg tokens/sec: ~" ++ Decimal.fixed 1 speed
    | none => ""
  table.render ++ String.join warnings ++ String.join providers ++ first ++ speed ++ "\n\n" ++
    ink.summary o.report

end GatewayProbe.Ink
