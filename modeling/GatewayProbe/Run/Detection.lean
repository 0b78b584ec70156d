/-
Does the gateway stream, and only when asked to?

Prompts are sent that ask for a stream, in two dialects, and one that does not. The pattern in which
the answers arrive tells whether they were streamed.

* `Detection`, `detections` — the requests;
* `DetectionResult.status` — what is expected of each;
* `detectionRun` — the run.
-/
import GatewayProbe.Delivery.Basic
import GatewayProbe.Events.Body
import GatewayProbe.Run.Basic
import GatewayProbe.Run.Requests

namespace GatewayProbe

/-- A request whose delivery is watched. -/
structure Detection where
  name : String
  prompt : String
  /-- The dialect of the stream that is asked for, if one is. -/
  dialect : Option Dialect

namespace Detection

/-- How the answer should be delivered. -/
def expected (d : Detection) : DeliveryForm :=
  if d.dialect.isSome then .streaming else .standard

/-- The route of the request. -/
def route (d : Detection) : String :=
  if d.dialect = some .ollama then Route.generate else Route.chat

/-- The body of the request. -/
def body (d : Detection) (model : String) : Json :=
  match d.dialect with
  | some .ollama => Body.generate model d.prompt
  | some _ => Body.chat model d.prompt true
  | none => Body.chat model d.prompt false

end Detection

/-- The requests of a run, in their order. -/
def detections : List Detection :=
  [⟨"long_response", "Count from 1 to 20, saying each number slowly", some .openAi⟩,
   ⟨"quick_response", "Say hello", some .openAi⟩,
   ⟨"ollama_format", "Count from 1 to 10", some .ollama⟩,
   ⟨"stream_false", "Count from 1 to 5", none⟩]

/-- What came of one request. -/
structure DetectionResult where
  name : String
  expected : DeliveryForm
  delivery : Option Delivery := none
  endpoint : Option String := none
  /-- Seconds until the whole answer was there. -/
  totalTime : Option Float := none
  error : Option String := none

namespace DetectionResult

/-- A stream must be streamed, and what should not be must not. -/
def status (r : DetectionResult) : Status :=
  match r.delivery with
  | none => .fail
  | some v => .ofBool (if r.expected = .streaming then v.form = .streaming else v.form ≠ .streaming)

/-- What is shown of a result. -/
def detail (r : DetectionResult) : String :=
  match r.delivery with
  | some v => v.text ++ " (expected " ++ r.expected.name ++ ")"
  | none => r.error.getD ""

end DetectionResult

/-- What a run found out. -/
structure DetectionOutcome where
  model : String
  results : List DetectionResult
  report : Report

/-- The share of the measured streams that were streamed, in percent. -/
def DetectionOutcome.streamedShare (o : DetectionOutcome) : Option Float :=
  let streamed := o.results.filter fun r => r.expected = .streaming && r.delivery.isSome
  if streamed.isEmpty then none
  else
    let good := streamed.countP fun r => r.status = .pass
    some (Float.ofNat good * 100.0 / Float.ofNat streamed.length)

/-- Measures a reply that should be a stream. -/
def measureStreamed (setup : Setup) (dialect : Dialect) (reply : Reply) (r : DetectionResult) :
    DetectionResult :=
  match reply.capture setup.client.budget dialect with
  | .error e => { r with error := some e.message }
  | .ok capture =>
    let r := { r with totalTime := some (seconds capture.total) }
    if capture.pieceCount = 0 then
      { r with error := some (GatewayError.invalidResponse "no chunks received").message }
    else { r with delivery := some (.ofEvents setup.settings.timing capture.events) }

/-- Measures a reply that should not be a stream: the whole body is one delivery. -/
def measureWhole (setup : Setup) (reply : Reply) (r : DetectionResult) : DetectionResult :=
  match reply.json setup.client.budget with
  | .error e => { r with error := some e.message }
  | .ok _ =>
    let elapsed := seconds reply.endOffset
    { r with
      totalTime := some elapsed
      delivery := some (.ofArrivals setup.settings.timing [elapsed]) }

/-- Measures a reply. -/
def measureReply (setup : Setup) (d : Detection) (reply : Reply) : DetectionResult :=
  let r : DetectionResult :=
    { name := d.name, expected := d.expected, endpoint := reply.head.endpoint }
  if !reply.head.succeeded then { r with error := some (statusError reply).message }
  else match d.dialect with
    | none => measureWhole setup reply r
    | some dialect => measureStreamed setup dialect reply r

/-- Sends one request and measures the reply. -/
def detect (setup : Setup) (model : String) (d : Detection) : Session DetectionResult := do
  match ← setup.client.postValue d.route (d.body model) with
  | .error e => return { name := d.name, expected := d.expected, error := some e.message }
  | .ok reply => return measureReply setup d reply

/-- The record of a result. -/
def DetectionResult.record (r : DetectionResult) : Record :=
  ⟨"streaming/" ++ r.name, r.status, r.detail⟩

/-- Sends the requests with one model; a quick run sends only the first. -/
def detectionRun (setup : Setup) (model : String) (quick : Bool) : Session DetectionOutcome := do
  let results ← (if quick then detections.take 1 else detections).mapM (detect setup model)
  return { model, results, report := ⟨"streaming", results.map DetectionResult.record⟩ }

end GatewayProbe
