/-
Reading whole bodies.

A body is read a line at a time, and each event gets the time at which its line was complete.
Reading stops at the line that ends the stream. A connection that breaks, a body that stalls or a
line that is not UTF-8 before that line is an error, and nothing that was read before it counts.

* `Capture.ofLines` — lines that carry their times;
* `Reply.timedLines` — the lines of a body with their times;
* `Reply.capture` — the events of a body, or why it cannot be read.
-/
import GatewayProbe.Events.Lines
import GatewayProbe.Exchange.Client

namespace GatewayProbe

/-- Reads lines with their times from a state of the reader; the last time read is given on. The
end of the lines is the end of the body. -/
def framesFrom (d : LineReader) (last : Nat) : List (Nat × String) → List TimedFrame × Nat
  | [] => (d.close.1.toList.map (·.arriving last), last)
  | (offset, line) :: rest =>
    let (frames, d) := d.read line
    let events := frames.map (·.arriving offset)
    if d.isFinished then (events, offset)
    else
      let (more, total) := framesFrom d offset rest
      (events ++ more, total)

/-- Reads lines with their times. -/
def Capture.ofLines (dialect : Dialect) (lines : List (Nat × String)) : Capture :=
  let (events, total) := framesFrom ⟨dialect, false⟩ 0 lines
  ⟨dialect, events, total⟩

namespace Reply

/-- The lines of bytes with their times, where `current` holds the present line in reverse. A line
has the time of its line feed. Also gives what follows the last line feed. -/
def cutLines : List (Nat × UInt8) → List UInt8 → List (Nat × List UInt8) × List UInt8
  | [], current => ([], current.reverse)
  | (offset, b) :: rest, current =>
    if b = 10 then
      let (lines, tail) := cutLines rest []
      ((offset, Text.dropLast? 13 current.reverse) :: lines, tail)
    else cutLines rest (b :: current)

/-- The bytes of a body, each with its time. -/
def timedBytes (r : Reply) : List (Nat × UInt8) :=
  r.chunks.flatMap fun chunk => chunk.bytes.map fun b => (chunk.offset, b)

/-- The lines of a body with their times. What follows the last line feed is a line only where the
body is complete. -/
def timedLines (r : Reply) : List (Nat × List UInt8) :=
  let (lines, tail) := cutLines r.timedBytes []
  if r.ending = .complete && !tail.isEmpty then lines ++ [(r.endOffset, tail)] else lines

/-- Reads lines of a body up to the one that ends the stream. Gives the events, and the time of
that line if there is one. -/
def readLines (d : LineReader) :
    List (Nat × List UInt8) → Except BodyFault (List TimedFrame × Option Nat)
  | [] => .ok ([], none)
  | (offset, bytes) :: rest =>
    match Text.utf8? bytes with
    | none => .error .notText
    | some line =>
      let (frames, d) := d.read line
      let events := frames.map (·.arriving offset)
      if d.isFinished then .ok (events, some offset)
      else (readLines d rest).map fun (more, ending) => (events ++ more, ending)

/-- The wording of a fault met while a body is read. -/
def faultReason : BodyFault → String
  | .notText => "stream did not contain valid UTF-8"
  | .timedOut => "the body stalled"
  | .other => "the connection broke"

/-- The events of a body, or the fault that kept them from being read. -/
def captureFault (dialect : Dialect) (r : Reply) : Except BodyFault Capture :=
  match readLines ⟨dialect, false⟩ r.timedLines with
  | .error fault => .error fault
  | .ok (events, some total) => .ok ⟨dialect, events, total⟩
  | .ok (events, none) => match r.ending with
    | .complete =>
      .ok ⟨dialect, events ++ [(Frame.ending "eof").arriving r.endOffset], r.endOffset⟩
    | .broken => .error .other
    | .stalled => .error .timedOut

/-- The events of a body, where a request may take `budget` seconds. -/
def capture (budget : Nat) (dialect : Dialect) (r : Reply) : Outcome Capture :=
  (captureFault dialect r).mapError fun fault =>
    GatewayError.ofBodyFault budget (faultReason fault) fault

end Reply
end GatewayProbe
