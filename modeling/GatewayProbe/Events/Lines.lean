/-
From lines to events.

A reader takes one line at a time, without its line break. Blank lines, lines of another form and
lines whose JSON is malformed give nothing. The first line that ends the stream ends it for good:
everything after it is passed over. Where no line does, the end of the body does.

* `Dialect.frames` — the frames of one line in a dialect;
* `LineReader.read`, `LineReader.close` — a line, and the end of the body.
-/
import GatewayProbe.Events.Basic
import GatewayProbe.Json.Document
import GatewayProbe.Text.Blank

namespace GatewayProbe

namespace Frame

/-- A piece of text. -/
def content (text : String) : Frame := ⟨.content, text⟩

/-- The name of an event type. -/
def marker (type : String) : Frame := ⟨.marker, type⟩

/-- The end of a stream. -/
def ending (payload : String) : Frame := ⟨.ending, payload⟩

end Frame

namespace EventLine

/-- What follows a word at the front of a line. -/
def after? (word : String) (line : List Char) : Option (List Char) :=
  if word.toList.isPrefixOf line then some (line.drop word.length) else none

theorem after?_eq_some_iff {word : String} {line rest : List Char} :
    after? word line = some rest ↔ line = word.toList ++ rest := by
  rw [after?, ← String.length_toList]
  constructor
  · intro h
    split at h
    · next hprefix =>
      obtain ⟨tail, rfl⟩ := List.isPrefixOf_iff_prefix.mp hprefix
      rw [List.drop_left, Option.some.injEq] at h
      rw [h]
    · cases h
  · rintro rfl
    rw [if_pos (List.isPrefixOf_iff_prefix.mpr (List.prefix_append _ _)), List.drop_left]

/-- The payload of a data line: what follows `data:`, trimmed. -/
def data? (line : List Char) : Option String :=
  (after? "data:" line).map fun rest => String.ofList (Text.trimChars rest)

/-- A text that is not empty. -/
def nonEmptyText? (value : Option Json) : Option String :=
  (value.bind Json.asText?).filter fun text => text ≠ ""

theorem nonEmptyText?_eq_some_iff {value : Option Json} {text : String} :
    nonEmptyText? value = some text ↔ value = some (.text text) ∧ text ≠ "" := by
  rw [nonEmptyText?, Option.filter_eq_some_iff, Json.bind_asText?_eq_some_iff, decide_eq_true_eq]

/-- The text in the first choice of a data line. -/
def openAiFrames (line : List Char) : List Frame :=
  match data? line with
  | none => []
  | some data =>
    if data = "[DONE]" then [.ending data]
    else
      let text := (Json.parse? data).bind fun value =>
        nonEmptyText? (value.at? ["choices", "0", "delta", "content"])
      (text.map Frame.content).toList

/-- The text in the change that a data line tells of. -/
def deltaText? (data : String) : Option String :=
  (Json.parse? data).bind fun value =>
    if (value.get? "type").bind Json.asText? = some "content_block_delta" then
      nonEmptyText? (value.at? ["delta", "text"])
    else none

theorem deltaText?_eq_some_iff {data text : String} :
    deltaText? data = some text ↔ ∃ value, Json.parse? data = some value ∧
      value.get? "type" = some (.text "content_block_delta") ∧
      value.at? ["delta", "text"] = some (.text text) ∧ text ≠ "" := by
  rw [deltaText?, Option.bind_eq_some_iff]
  refine exists_congr fun value => and_congr_right fun _ => ?_
  rw [Option.ite_none_right_eq_some, Json.bind_asText?_eq_some_iff, nonEmptyText?_eq_some_iff]

/-- The name in an event line, or the text in a data line. -/
def anthropicFrames (line : List Char) : List Frame :=
  match after? "event:" line with
  | some rest => ((Text.nonBlank? (String.ofList rest)).map Frame.marker).toList
  | none => (((data? line).bind deltaText?).map Frame.content).toList

/-- The text of an object, which may also be the last one. -/
def ollamaFrames (line : List Char) : List Frame :=
  match Json.parse? (String.ofList (Text.trimChars line)) with
  | none => []
  | some value =>
    let text := nonEmptyText? (value.get? "response") <|>
      nonEmptyText? (value.at? ["message", "content"])
    let isLast := (value.get? "done").bind Json.asBool? = some true
    (text.map Frame.content).toList ++ (if isLast then [.ending "done"] else [])

end EventLine

/-- The frames of a line that is not blank. -/
def Dialect.frames : Dialect → List Char → List Frame
  | .openAi => EventLine.openAiFrames
  | .anthropic => EventLine.anthropicFrames
  | .ollama => EventLine.ollamaFrames

/-- The state of reading one body. -/
structure LineReader where
  dialect : Dialect
  isFinished : Bool := false
  deriving DecidableEq, Repr

namespace LineReader

/-- Reads one line. -/
def read (d : LineReader) (line : String) : List Frame × LineReader :=
  let bare := Text.dropEndWhile (· = '\r') line.toList
  if d.isFinished || bare.all Text.isBlank then ([], d)
  else
    let frames := d.dialect.frames bare
    (frames, { d with isFinished := frames.any fun f => f.kind = .ending })

/-- Reads the end of the body. -/
def close (d : LineReader) : Option Frame × LineReader :=
  if d.isFinished then (none, d) else (some (.ending "eof"), { d with isFinished := true })

end LineReader
end GatewayProbe
