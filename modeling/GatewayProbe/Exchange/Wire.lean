/-
Requests and responses as bytes of a connection.

A response is read byte by byte. Its head ends at an empty line and tells how the body ends: after a
number of bytes, after an empty piece, or with the connection. Each batch of bytes that arrives
together makes one chunk of the body. When nothing more arrives, what was read so far and the reason
for it make the answer.

* `Request.wire` — the bytes of a request;
* `Reading`, `Reading.receive` — a response while it arrives;
* `Reading.answer` — what comes of a request when nothing more arrives.
-/
import GatewayProbe.Exchange.Session
import GatewayProbe.Text.Bytes
import GatewayProbe.Text.Excerpt

namespace GatewayProbe

/-- The bytes of a request for a host. The connection serves this request alone. -/
def Request.wire (host : String) (r : Request) : List UInt8 :=
  let body := Text.toUtf8 r.body
  let lines := [("host", host), ("accept", "*/*"), ("connection", "close")] ++ r.headers ++
    (if body.isEmpty then [] else [("content-length", s!"{body.length}")])
  let head := lines.map fun line => line.1 ++ ": " ++ line.2 ++ "\r\n"
  Text.toUtf8 (r.method ++ " " ++ r.target ++ " HTTP/1.1\r\n" ++ String.join head ++ "\r\n") ++ body

/-- What of a response comes next. -/
inductive Phase where
  /-- A line of the head. -/
  | head
  /-- A number of bytes of the body. -/
  | counted (left : Nat)
  /-- Bytes of the body, up to the end of the connection. -/
  | unbounded
  /-- The line that tells the size of a piece of the body. -/
  | size
  /-- A number of bytes of a piece. -/
  | piece (left : Nat)
  /-- The end of the line after a piece. -/
  | pieceEnd
  /-- A line after the last piece. -/
  | trailer
  /-- Nothing. -/
  | finished
  /-- Nothing that can be read. -/
  | faulty
  deriving DecidableEq, Repr

/-- A response while it arrives. Lists of bytes and lines hold the last one first. -/
structure Reading where
  phase : Phase := .head
  /-- The line that is being read. -/
  line : List UInt8 := []
  /-- The lines of the head before it. -/
  lines : List (List UInt8) := []
  status : Nat := 0
  headers : Headers := []
  headOffset : Nat := 0
  /-- Bytes of the body that arrived together. -/
  batch : List UInt8 := []
  chunks : List Chunk := []

namespace Reading

/-- A line feed. -/
def lineFeed : UInt8 := 10

/-- A blank or a tab. -/
def isPadding (b : UInt8) : Bool := b = 32 || b = 9

/-- The value of a decimal or hexadecimal digit. -/
def digit? (b : UInt8) : Option Nat :=
  let n := b.toNat
  if 48 ≤ n && n ≤ 57 then some (n - 48)
  else if 65 ≤ n && n ≤ 70 then some (n - 55)
  else if 97 ≤ n && n ≤ 102 then some (n - 87)
  else none

/-- The number at the start of some bytes; none if there is no digit. -/
def leadingNumber? (base : Nat) (bytes : List UInt8) : Option Nat :=
  let isDigit (b : UInt8) : Bool := match digit? b with
    | some d => d < base
    | none => false
  let digits := bytes.takeWhile isDigit
  if digits.isEmpty then none
  else some (digits.foldl (fun n b => n * base + (digit? b).getD 0) 0)

/-- Bytes without padding at their ends. -/
def trimmed (bytes : List UInt8) : List UInt8 :=
  ((bytes.dropWhile isPadding).reverse.dropWhile isPadding).reverse

/-- The name and the value of a line of the head. -/
def header? (line : List UInt8) : Option (String × List UInt8) :=
  match line.span (· ≠ 58) with
  | (name, _ :: value) =>
    some (String.ofList (name.map fun b => Char.ofNat b.toNat), trimmed value)
  | (_, []) => none

/-- The status in the first line of a head. -/
def status? (line : List UInt8) : Option Nat :=
  leadingNumber? 10 ((line.dropWhile (· ≠ 32)).dropWhile isPadding)

/-- How the body goes on after a head. -/
def bodyPhase (status : Nat) (headers : Headers) : Phase :=
  if status = 204 || status = 304 then .finished
  else if ((headers.text? "transfer-encoding").getD "").toLower.endsWith "chunked" then .size
  else match headers.first? "content-length" with
    | some bytes => match leadingNumber? 10 bytes with
      | some 0 => .finished
      | some n => .counted n
      | none => .faulty
    | none => .unbounded

/-- Ends the head. A head that only announces another one is passed over. -/
def endHead (offset : Nat) (r : Reading) : Reading :=
  match r.lines.reverse with
  | [] => r
  | first :: rest => match status? first with
    | none => { r with phase := .faulty }
    | some status =>
      if status < 200 then {}
      else
        let headers := rest.filterMap header?
        { r with
          phase := bodyPhase status headers
          lines := [], status, headers, headOffset := offset }

/-- Ends a line. -/
def endLine (offset : Nat) (r : Reading) : Reading :=
  let line := (match r.line with
    | 13 :: line => line
    | line => line).reverse
  let r := { r with line := [] }
  match r.phase with
  | .head => if line.isEmpty then r.endHead offset else { r with lines := line :: r.lines }
  | .size => match leadingNumber? 16 line with
    | some 0 => { r with phase := .trailer }
    | some n => { r with phase := .piece n }
    | none => { r with phase := .faulty }
  | .pieceEnd => { r with phase := .size }
  | .trailer => if line.isEmpty then { r with phase := .finished } else r
  | .counted _ | .unbounded | .piece _ | .finished | .faulty => r

/-- Takes one byte. -/
def take (offset : Nat) (r : Reading) (b : UInt8) : Reading :=
  match r.phase with
  | .counted left =>
    { r with batch := b :: r.batch, phase := if left ≤ 1 then .finished else .counted (left - 1) }
  | .piece left =>
    { r with batch := b :: r.batch, phase := if left ≤ 1 then .pieceEnd else .piece (left - 1) }
  | .unbounded => { r with batch := b :: r.batch }
  | .finished | .faulty => r
  | .head | .size | .pieceEnd | .trailer =>
    if b = lineFeed then r.endLine offset else { r with line := b :: r.line }

/-- Takes the bytes that arrive some nanoseconds after the request. -/
def receive (offset : Nat) (bytes : List UInt8) (r : Reading) : Reading :=
  let r := bytes.foldl (take offset) r
  if r.batch.isEmpty then r
  else { r with batch := [], chunks := r.chunks ++ [⟨offset, r.batch.reverse⟩] }

/-- Nothing more is to come. -/
def isOver (r : Reading) : Bool := r.phase == .finished || r.phase == .faulty

/-- What comes of the request when nothing more arrives, since the connection is closed or else
since there is no time left. -/
def answer (offset : Nat) (isClosed : Bool) (r : Reading) : Answer :=
  let reply (ending : Ending) : Answer :=
    .reply ⟨r.status, r.headers, r.chunks, ending, r.headOffset, offset⟩
  match r.phase with
  | .head => if isClosed then .closed else .silent
  | .finished => reply .complete
  | .unbounded => reply (if isClosed then .complete else .stalled)
  | .faulty => if r.status = 0 then .closed else reply .broken
  | .counted _ | .size | .piece _ | .pieceEnd | .trailer =>
    reply (if isClosed then .broken else .stalled)

end Reading
end GatewayProbe
