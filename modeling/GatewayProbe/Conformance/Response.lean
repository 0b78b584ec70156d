/-
Does a response keep the contract for its backend?

Only the status, the mode header and the public shape of the body decide. Headers that tell which
backend answered give notes and nothing more, for any healthy backend with the model may answer.

* `Finding.ofMode` — the mode header is there exactly where it should be;
* `Finding.ofMessage`, `Finding.ofEvents` — the shape of a whole message and of a stream;
* `Finding.ofResponse` — all of that;
* `routingNotes` — what is odd about who answered.
-/
import GatewayProbe.Conformance.Finding
import GatewayProbe.Events.Basic
import GatewayProbe.Exchange.Head
import GatewayProbe.Json.Basic
import GatewayProbe.Plan.Basic

namespace GatewayProbe

/-- Checks the mode header against the expected mode. -/
def Finding.ofMode (expected : Mode) (head : Head) : Finding :=
  match expected with
  | .passthrough =>
    if head.tellsPassthrough then .pass
    else .fail ("expected X-Olla-Mode=passthrough, got '" ++ head.mode.getD "" ++ "'")
  | .translated =>
    if head.tellsPassthrough then
      .fail "unexpected X-Olla-Mode=passthrough for translation backend"
    else .pass
  | .untested => .skip "backend type is in neither mode table"

/-- The text of a field of an object. -/
def textField? (body : Json) (name : String) : Option String := (body.get? name).bind Json.asText?

/-- Checks that a field of a message holds a given text. -/
def requireField (body : Json) (name wanted : String) (v : Finding) : Finding :=
  let found := textField? body name
  let shown := match found with
    | some text => "\"" ++ text ++ "\""
    | none => "missing"
  v.failIf (found != some wanted)
    ("field '" ++ name ++ "' is " ++ shown ++ ", expected \"" ++ wanted ++ "\"")

/-- Checks that the content of a message is a list. -/
def requireContent (body : Json) (v : Finding) : Finding :=
  match body.get? "content" with
  | some (.array blocks) =>
    v.noteIf (!blocks.any fun block => textField? block "type" == some "text")
      "content has no text block"
  | some _ => v.addFault "field 'content' is not a list"
  | none => v.addFault "field 'content' is missing"

/-- Checks the shape of a whole message. -/
def Finding.ofMessage (body : Json) : Finding :=
  (requireContent body (requireField body "role" "assistant"
    (requireField body "type" "message" .pass))).noteIf (textField? body "model").isNone
      "field 'model' is missing"

/-- The event types that every stream of a message has. -/
def neededEvents : List String := ["message_start", "message_delta", "message_stop"]

/-- The event types that a stream from a backend with native messages has. -/
def usualEvents : List String :=
  ["message_start", "content_block_start", "content_block_delta", "content_block_stop",
   "message_delta", "message_stop"]

/-- The wanted event types that were not observed. -/
def absentEvents (observed wanted : List String) : List String :=
  wanted.filter fun event => !observed.contains event

/-- Checks the event types of a stream. At least one piece of text must have come. -/
def Finding.ofEvents (expected : Mode) (capture : Capture) : Finding :=
  if capture.events.all fun e => e.kind = .ending then .fail "no SSE events received"
  else if capture.pieceCount = 0 then .fail "no SSE data lines with content received"
  else
    let missing := absentEvents capture.markers neededEvents
    let absent := (absentEvents capture.markers usualEvents).filter fun event =>
      !neededEvents.contains event
    (Finding.pass.failIf (!missing.isEmpty)
      ("missing events: " ++ ", ".intercalate missing)).noteIf
        (expected = .passthrough && !absent.isEmpty)
        ("optional events absent: " ++ ", ".intercalate absent)

/-- A body as it was read. -/
inductive ReadBody where
  | message (value : Json)
  | stream (capture : Capture)

/-- Checks the shape of a body; a stream must also be announced as one. -/
def Finding.ofBody (expected : Mode) (head : Head) : ReadBody → Finding
  | .message value => Finding.ofMessage value
  | .stream capture =>
    (Finding.pass.failIf (!head.announcesEvents)
      ("content-type=" ++ head.contentType.getD "" ++ ", expected text/event-stream")).and
      (Finding.ofEvents expected capture)

/-- Checks one response. A status that tells of failure fails before anything else is looked at. -/
def Finding.ofResponse (expected : Mode) (head : Head) (body : ReadBody) : Finding :=
  if !expected.isKnown then Finding.ofMode expected head
  else if !head.succeeded then .fail s!"HTTP {head.status}"
  else (Finding.ofMode expected head).and (Finding.ofBody expected head body)

/-- What is odd about who answered. -/
def routingNotes (plan : Plan) (head : Head) : List String :=
  let endpoint := (head.endpoint.filter (· ≠ plan.name)).map fun endpoint =>
    "routed to " ++ endpoint ++ " (expected " ++ plan.name ++ ")"
  let type := (head.backendType.filter fun type => !Text.eqIgnoreCase type plan.type).map
    fun type => "backend-type=" ++ type ++ " (expected " ++ plan.type ++ ")"
  endpoint.toList ++ type.toList ++
    (if plan.isGuessed then ["model bound by backend type only"] else [])

end GatewayProbe
