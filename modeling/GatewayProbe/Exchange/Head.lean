/-
Status and headers of a response, as far as a run reads them.

The gateway tells in headers how it served a request. Only the mode decides anything; the others
are advice. A header counts as absent when its value is empty after trimming, or holds a byte that
is no visible ASCII character, blank or tab.

* `Headers.value?` — the value of a header that counts;
* `Head`, `Head.ofHeaders` — what is read of status and headers;
* `Head.missing` — the names of routing headers that are absent.
-/
import GatewayProbe.Text.Ascii
import GatewayProbe.Text.Blank

namespace GatewayProbe

/-- Header names with the bytes of their values, in the order they were sent. -/
abbrev Headers := List (String × List UInt8)

namespace Headers

/-- The bytes of the first header of a name, up to the case of letters. -/
def first? (headers : Headers) (name : String) : Option (List UInt8) :=
  (headers.find? fun header => Text.eqIgnoreCase header.1 name).map Prod.snd

/-- A byte of a value that can be read as text. -/
def isVisible (b : UInt8) : Bool := b = 9 || (0x20 ≤ b.toNat && b.toNat ≤ 0x7E)

/-- The text of the first header of a name, if all its bytes can be read. -/
def text? (headers : Headers) (name : String) : Option String :=
  (headers.first? name).bind fun bytes =>
    if bytes.all isVisible then some (String.ofList (bytes.map fun b => Char.ofNat b.toNat))
    else none

/-- The trimmed value of the first header of a name, unless nothing is left of it. -/
def value? (headers : Headers) (name : String) : Option String :=
  (headers.text? name).bind Text.nonBlank?

end Headers

/-- Status and headers of a response. -/
structure Head where
  status : Nat
  mode : Option String := none
  endpoint : Option String := none
  model : Option String := none
  backendType : Option String := none
  requestId : Option String := none
  responseTime : Option String := none
  contentType : Option String := none
  deriving DecidableEq, Repr

namespace Head

/-- Reads the headers of a response. -/
def ofHeaders (status : Nat) (headers : Headers) : Head where
  status := status
  mode := headers.value? "x-olla-mode"
  endpoint := headers.value? "x-olla-endpoint"
  model := headers.value? "x-olla-model"
  backendType := headers.value? "x-olla-backend-type"
  requestId := headers.value? "x-olla-request-id"
  responseTime := headers.value? "x-olla-response-time"
  contentType := headers.value? "content-type"

/-- The gateway says that it passed the request on unchanged. -/
def tellsPassthrough (h : Head) : Bool := h.mode == some "passthrough"

/-- The body is a stream of events. -/
def announcesEvents (h : Head) : Bool :=
  match h.contentType with
  | some type => Text.contains type "text/event-stream"
  | none => false

/-- The status tells of success. -/
def succeeded (h : Head) : Bool := 200 ≤ h.status && h.status < 300

/-- The routing headers that every served request should show, under the names they are shown. -/
def routing (h : Head) : List (String × Option String) :=
  [("X-Olla-Endpoint", h.endpoint), ("X-Olla-Model", h.model),
   ("X-Olla-Backend-Type", h.backendType), ("X-Olla-Request-ID", h.requestId)]

/-- The names of the routing headers that are absent. -/
def missing (h : Head) : List String :=
  (h.routing.filter fun header => header.2.isNone).map Prod.fst

end Head
end GatewayProbe
