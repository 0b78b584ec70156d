/-
The requests a run sends, and how it reads the answers.

* `Client.requireHealth` — the gateway is there; anything but status 200 ends the run;
* `Client.get`, `postKeyed`, `postValue`, `post` — one request, with the reply for any status;
* `Client.getPage` — the text of a page, where other than successful statuses are errors;
* `Reply.text`, `Reply.json` — a whole body.
-/
import GatewayProbe.Exchange.Fault
import GatewayProbe.Exchange.Route
import GatewayProbe.Exchange.Session
import GatewayProbe.Exchange.Target
import GatewayProbe.Json.Document
import GatewayProbe.Settings.Basic
import GatewayProbe.Text.Bytes
import GatewayProbe.Text.Excerpt

namespace GatewayProbe

/-- What comes of a request, or why nothing does. -/
abbrev Outcome (α : Type) := Except GatewayError α

namespace Reply

/-- What is read of status and headers. -/
def head (r : Reply) : Head := .ofHeaders r.status r.headers

/-- The bytes of the body that arrive. -/
def bytes (r : Reply) : List UInt8 := r.chunks.flatMap Chunk.bytes

/-- The text of the bytes that arrive. -/
def received (r : Reply) : String := Text.bodyText (r.headers.text? "content-type") r.bytes

/-- The text of the whole body, where a request may take `budget` seconds. -/
def text (budget : Nat) (r : Reply) : Outcome String :=
  match r.ending with
  | .complete => .ok r.received
  | .broken => .error (.invalidResponse "the body ended too early")
  | .stalled => .error (.timeout budget)

/-- The text of the whole body, or nothing where it does not arrive. -/
def textOrEmpty (r : Reply) : String :=
  match r.ending with
  | .complete => r.received
  | .broken | .stalled => ""

/-- The value of a body that is JSON. -/
def json (budget : Nat) (r : Reply) : Outcome Json := do
  let text ← r.text budget
  match Json.parse? text with
  | some value => return value
  | none => .error (.invalidResponse "the body is not JSON")

end Reply

/-- Requests to one gateway. -/
structure Client where
  access : Access

namespace Client

/-- The seconds a request may take. -/
def budget (c : Client) : Nat := c.access.timeout

/-- A text may be sent as the value of a header. -/
def isSendable (value : String) : Bool :=
  value.toList.all fun ch => ch = '\t' || (0x20 ≤ ch.toNat && ch.toNat ≠ 0x7F)

/-- Sends a request that may take `budget` seconds. An address or a header that cannot be sent
counts as a refused connection. -/
def sendWithin (c : Client) (budget : Nat) (method path : String)
    (headers : List (String × String)) (body : String) : Session Answer :=
  match target? (c.access.address ++ path) with
  | some target =>
    if headers.all fun header => isSendable header.2 then
      .ask ⟨method, target, headers, body, budget⟩ .done
    else .done .refused
  | none => .done .refused

/-- Sends a request. -/
def send (c : Client) (method path : String) (headers : List (String × String)) (body : String) :
    Session Answer :=
  c.sendWithin c.budget method path headers body

/-- The reply of an answer. -/
def received (c : Client) : Answer → Outcome Reply
  | .reply r => .ok r
  | .refused => .error (.network "no connection")
  | .closed => .error (.network "the connection was closed before an answer")
  | .silent => .error (.timeout c.budget)

/-- Gets a page; the reply is given for any status. -/
def get (c : Client) (path : String) : Session (Outcome Reply) := do
  return c.received (← c.send "GET" path [] "")

/-- Posts a text as JSON, whether it is or not. -/
def post (c : Client) (path body : String) : Session (Outcome Reply) := do
  return c.received (← c.send "POST" path [("content-type", "application/json")] body)

/-- Posts a value as JSON. -/
def postValue (c : Client) (path : String) (body : Json) : Session (Outcome Reply) :=
  c.post path body.compact

/-- Posts a value as JSON with the key and the version that Anthropic routes ask for. -/
def postKeyed (c : Client) (path : String) (body : Json) : Session (Outcome Reply) := do
  let headers := [("x-api-key", c.access.apiKey), ("anthropic-version", c.access.anthropicVersion),
    ("content-type", "application/json")]
  return c.received (← c.send "POST" path headers body.compact)

/-- Posts a request for a message. -/
def postMessage (c : Client) (body : Json) : Session (Outcome Reply) :=
  c.postKeyed Route.messages body

/-- The text of a reply, where other than successful statuses are errors. -/
def successText (c : Client) (r : Reply) : Outcome String := do
  let body ← r.text c.budget
  if r.head.succeeded then return body
  else .error (.badStatus r.status (Text.excerpt 200 body))

/-- Gets the text of a page. -/
def getPage (c : Client) (path : String) : Session (Outcome String) := do
  match ← c.get path with
  | .ok reply => return c.successText reply
  | .error e => return .error e

/-- Checks that the gateway is there and well. -/
def requireHealth (c : Client) : Session (Outcome Unit) := do
  let unreachable (reason : String) : Outcome Unit :=
    .error (.unreachable c.access.address reason)
  match ← c.sendWithin c.access.healthTimeout "GET" Route.health [] "" with
  | .reply r =>
    return if r.status = 200 then .ok ()
      else unreachable s!"health check returned HTTP {r.status}"
  | .refused => return unreachable "no connection"
  | .closed => return unreachable "the connection was closed before an answer"
  | .silent => return unreachable "no answer in time"

end Client
end GatewayProbe
