/-
Events of a streamed response.

A response may arrive in one of three dialects: lines `data: …` that end with `[DONE]`, pairs of
lines `event: …` and `data: …` that end with the connection, and one JSON object a line that ends
with `"done": true`. All three are read as one sequence of events with their times.

* `Dialect`, `Frame`, `TimedFrame` — what is read from lines, without and with its time;
* `Capture` — a whole body, and what can be asked about it;
* `seconds` — a time as a double.
-/
import GatewayProbe.Text.Ordered

namespace GatewayProbe

/-- The form in which a response is streamed. -/
inductive Dialect where
  | openAi
  | anthropic
  | ollama
  deriving DecidableEq, Repr

/-- What an event is. -/
inductive FrameKind where
  /-- A piece of generated text. -/
  | content
  /-- The name of an event type. -/
  | marker
  /-- The end of the stream, announced or not. -/
  | ending
  deriving DecidableEq, Repr

/-- An event without its time. -/
structure Frame where
  kind : FrameKind
  payload : String
  deriving DecidableEq, Repr

/-- An event, and the nanoseconds from the request to its arrival. -/
structure TimedFrame extends Frame where
  offset : Nat
  deriving DecidableEq, Repr

/-- Gives a frame its time. -/
def Frame.arriving (f : Frame) (offset : Nat) : TimedFrame := { f with offset }

/-- Nanoseconds as seconds: whole seconds and the rest are made doubles before they are added. -/
def seconds (nanoseconds : Nat) : Float :=
  Float.ofNat (nanoseconds / 1000000000) + Float.ofNat (nanoseconds % 1000000000) / 1000000000.0

/-- A body that was read to its end. -/
structure Capture where
  dialect : Dialect
  events : List TimedFrame
  /-- The nanoseconds from the request to the end of the body. -/
  total : Nat
  deriving DecidableEq, Repr

namespace Capture

/-- The events that carry text. -/
def contents (c : Capture) : List TimedFrame := c.events.filter fun e => e.kind = .content

/-- How many events carry text. -/
def pieceCount (c : Capture) : Nat := c.contents.length

/-- The whole text. -/
def text (c : Capture) : String := String.join (c.contents.map fun e => e.payload)

/-- The distinct names of event types, in order. -/
def markers (c : Capture) : List String :=
  Text.ordered ((c.events.filter fun e => e.kind = .marker).map fun e => e.payload)

/-- The times at which text arrived, in seconds. -/
def arrivals (c : Capture) : List Float := c.contents.map fun e => seconds e.offset

/-- The time at which text first arrived. -/
def firstContent? (c : Capture) : Option Nat := c.contents.head?.map TimedFrame.offset

/-- How the stream ended. -/
def ending? (c : Capture) : Option String :=
  (c.events.reverse.find? fun e => e.kind = .ending).map fun e => e.payload

/-- The number of characters of the text. -/
def charCount (c : Capture) : Nat := c.text.length

end Capture
end GatewayProbe
