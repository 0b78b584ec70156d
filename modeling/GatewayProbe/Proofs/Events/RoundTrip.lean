/-
Decoding undoes encoding.

Texts are sent as chunks, one each, in the form of a dialect. On the way the lines may get carriage
returns at their ends and lines between them that carry nothing; the line that ends the stream may
have anything after it. Whatever of this happens, the texts are read back as they were sent.

* `Dialect.Carries`, `Dialect.Noise`, `Dialect.Closes` — lines that carry a text, carry nothing, end
  the stream;
* `Dialect.Streams` — all the lines of a body that sends given texts;
* `events_of_streams` — the events of such a body.
-/
import Mathlib
import GatewayProbe.Proofs.Events.Bodies
import GatewayProbe.Proofs.Events.Reader
import GatewayProbe.Proofs.Json.Printing

namespace GatewayProbe

/-! ### Bodies that send texts -/

namespace Dialect

/-- The frames of a text: itself, after the name of its event type where there are such names. -/
def textFrames (dialect : Dialect) (text : String) : List Frame :=
  match dialect with
  | .anthropic => [.marker "content_block_delta", .content text]
  | _ => [.content text]

/-- Lines that carry a text. -/
inductive Carries : Dialect → String → List String → Prop
  | openAi (text json : String) (value : Json) (written : value.WrittenAs json)
      (holds : value.at? ["choices", "0", "delta", "content"] = some (.text text)) :
      Carries .openAi text ["data: " ++ json]
  | anthropic (text json : String) (value : Json) (written : value.WrittenAs json)
      (type : value.get? "type" = some (.text "content_block_delta"))
      (holds : value.at? ["delta", "text"] = some (.text text)) :
      Carries .anthropic text ["event: content_block_delta", "data: " ++ json]
  | ollama (text json : String) (value : Json) (written : value.WrittenAs json)
      (holds : value.get? "response" = some (.text text))
      (going : value.get? "done" = some (.bool false)) : Carries .ollama text [json]

/-- Lines that carry nothing: blank lines, comments, and payloads that are not JSON. A payload is
what is left of its line when the blanks around it are removed. -/
inductive Noise : Dialect → String → Prop
  | blank (dialect : Dialect) (line : String) (blank : Text.isBlankText line = true) :
      Noise dialect line
  | comment (dialect : Dialect) (rest : String) (named : dialect ≠ .ollama) :
      Noise dialect (":" ++ rest)
  | data (dialect : Dialect) (rest : String) (named : dialect ≠ .ollama)
      (other : Text.trim rest ≠ "[DONE]") (malformed : Json.parse? (Text.trim rest) = none) :
      Noise dialect ("data:" ++ rest)
  | object (line : String) (malformed : Json.parse? (Text.trim line) = none) : Noise .ollama line

/-- A line with carriage returns at its end. -/
def withReturns (line : String) (count : Nat) : String :=
  line ++ String.ofList (List.replicate count '\r')

/-- Lines as they are sent and as they arrive: with carriage returns, and with noise between. -/
inductive Arrives (dialect : Dialect) : List String → List String → Prop
  | nil : Arrives dialect [] []
  | line (line : String) (count : Nat) {sent arrived : List String}
      (rest : Arrives dialect sent arrived) :
      Arrives dialect (line :: sent) (withReturns line count :: arrived)
  | noise (line : String) (count : Nat) {sent arrived : List String} (noise : Noise dialect line)
      (rest : Arrives dialect sent arrived) :
      Arrives dialect sent (withReturns line count :: arrived)

/-- The lines from the one that ends a stream on, and the text it may carry itself. One dialect has
no such line. -/
inductive Closes : Dialect → Option String → List String → Prop
  | openAi (count : Nat) (rest : List String) :
      Closes .openAi none (withReturns "data: [DONE]" count :: rest)
  | anthropic : Closes .anthropic none []
  | ollama (json : String) (value : Json) (count : Nat) (rest : List String)
      (written : value.WrittenAs json) (done : value.get? "done" = some (.bool true)) :
      Closes .ollama (EventLine.nonEmptyText? (value.get? "response") <|>
        EventLine.nonEmptyText? (value.at? ["message", "content"]))
        (withReturns json count :: rest)

/-- The lines of a body that sends the given texts, and perhaps a last one with its ending. -/
inductive Streams (dialect : Dialect) (texts : List String) (last : Option String)
    (lines : List String) : Prop
  | intro (chunks : List (List String)) (body tail : List String)
      (carries : List.Forall₂ dialect.Carries texts chunks)
      (arrives : dialect.Arrives chunks.flatten body) (closes : dialect.Closes last tail)
      (shape : lines = body ++ tail)

end Dialect

/-! ### JSON in a line -/

theorem Document.isBlank_of_isSpace {c : Char} (h : isSpace c = true) : Text.isBlank c = true := by
  simp only [isSpace, Bool.or_eq_true, decide_eq_true_eq] at h
  rcases h with ((rfl | rfl) | rfl) | rfl <;> decide

theorem Document.exists_fields {doc : Document} {value : Json} (kept : doc.keep? = some value)
    (h : value.isObject = true) : ∃ fields, doc = .object fields := by
  rw [keep?, maxDepth] at kept
  cases doc with
  | object fields => exact ⟨fields, rfl⟩
  | null | bool =>
    rw [keepWithin] at kept
    cases kept
    cases h
  | number | text | array =>
    rw [keepWithin, Option.map_eq_some_iff] at kept
    obtain ⟨content, -, rfl⟩ := kept
    cases h

namespace Json

/-- An object is read with or without blanks around it. -/
theorem WrittenAs.parse?_trim {value : Json} {text : String} (h : value.WrittenAs text)
    (object : value.isObject = true) : Json.parse? (Text.trim text) = some value := by
  obtain ⟨doc, before, cs, after, hbefore, written, hafter, kept, shape⟩ := h
  have htrim : Text.trimChars text.toList = cs := by
    rw [shape, Text.trimChars_blank_append fun c hc => Document.isBlank_of_isSpace (hbefore c hc),
      Text.trimChars_append_blank fun c hc => Document.isBlank_of_isSpace (hafter c hc)]
    obtain ⟨fields, rfl⟩ := Document.exists_fields kept object
    cases written with
    | emptyObject | object => exact Text.trimChars_between rfl rfl _
  refine WrittenAs.parse?_eq (.intro doc [] cs [] isSpaces_nil written isSpaces_nil kept ?_)
  rw [Text.trim, String.toList_ofList, htrim, List.append_nil, List.nil_append]

theorem isObject_of_get? {value found : Json} {key : String} (h : value.get? key = some found) :
    value.isObject = true := by
  cases value with
  | object fields => rfl
  | null | bool | number | text | array => cases h

theorem isObject_of_at? {value found : Json} {key : String} {path : List String}
    (hkey : key.toList.all Char.isDigit = false) (h : value.at? (key :: path) = some found) :
    value.isObject = true := by
  rw [at?, List.foldlM_cons] at h
  obtain ⟨next, hstep, -⟩ := Option.bind_eq_some_iff.mp h
  cases value with
  | object fields => rfl
  | array items =>
    rw [step?, hkey, Bool.false_and, if_neg Bool.false_ne_true] at hstep
    cases hstep
  | null | bool | number | text => cases hstep

end Json

/-! ### The frames of one line -/

namespace EventLine

theorem after?_self (word rest : String) :
    after? word (word ++ rest).toList = some rest.toList := by
  rw [after?_eq_some_iff, String.toList_append]

theorem data?_eq (rest : String) : data? ("data:" ++ rest).toList = some (Text.trim rest) := by
  rw [data?, after?_self, Option.map_some, Text.trim]

theorem openAiFrames_data {rest : String} (other : Text.trim rest ≠ "[DONE]") :
    openAiFrames ("data:" ++ rest).toList =
      (((Json.parse? (Text.trim rest)).bind fun value => nonEmptyText?
        (value.at? ["choices", "0", "delta", "content"])).map Frame.content).toList := by
  rw [openAiFrames, data?_eq]
  dsimp only
  rw [if_neg other]

theorem anthropicFrames_data (rest : String) : anthropicFrames ("data:" ++ rest).toList =
    ((deltaText? (Text.trim rest)).map Frame.content).toList := by
  have hevent : after? "event:" ("data:" ++ rest).toList = none := by
    rw [String.toList_append]
    rfl
  rw [anthropicFrames, hevent, data?_eq, Option.bind_some]

theorem nonEmptyText?_text {text : String} (filled : text ≠ "") :
    nonEmptyText? (some (.text text)) = some text :=
  nonEmptyText?_eq_some_iff.mpr ⟨rfl, filled⟩

end EventLine

namespace Dialect

theorem lineFrames_of_visible (dialect : Dialect) {word : String}
    (h : word.toList.all Text.isBlank = false) (rest : String) :
    dialect.lineFrames (word ++ rest).toList = dialect.frames (word ++ rest).toList := by
  rw [lineFrames, String.toList_append, List.all_append, h, Bool.false_and,
    if_neg Bool.false_ne_true]

theorem lineFrames_ollama (line : List Char) :
    Dialect.ollama.lineFrames line = EventLine.ollamaFrames line := by
  rw [lineFrames]
  split
  · next hblank =>
    -- Of a blank line nothing is left, which is not JSON either.
    rw [EventLine.ollamaFrames, Text.trimChars_eq_nil_iff.mpr (List.all_eq_true.mp hblank)]
    rfl
  · rfl

/-- Noise gives nothing. -/
theorem lineFrames_noise {dialect : Dialect} {line : String} (h : dialect.Noise line) :
    dialect.lineFrames line.toList = [] := by
  cases h with
  | blank _ _ blank =>
    rw [Text.isBlankText] at blank
    rw [lineFrames, if_pos blank]
  | comment _ rest named =>
    rw [dialect.lineFrames_of_visible rfl, String.toList_append]
    cases dialect with
    | openAi => rfl
    | anthropic => rfl
    | ollama => exact absurd rfl named
  | data _ rest named other malformed =>
    rw [dialect.lineFrames_of_visible rfl]
    cases dialect with
    | openAi =>
      rw [frames, EventLine.openAiFrames_data other, malformed]
      rfl
    | anthropic =>
      rw [frames, EventLine.anthropicFrames_data, EventLine.deltaText?, malformed]
      rfl
    | ollama => exact absurd rfl named
  | object _ malformed =>
    rw [Text.trim] at malformed
    rw [lineFrames_ollama, EventLine.ollamaFrames, malformed]

theorem data_append (json : String) : "data: " ++ json = "data:" ++ (" " ++ json) := by
  rw [← String.append_assoc]
  rfl

theorem trim_space (json : String) : Text.trim (" " ++ json) = Text.trim json := by
  rw [Text.trim, String.toList_append, Text.trimChars_blank_append (List.all_eq_true.mp rfl),
    Text.trim]

/-- The lines that carry a text give the frames of that text. -/
theorem lineFrames_carries {dialect : Dialect} {text : String} {lines : List String}
    (h : dialect.Carries text lines) (filled : text ≠ "") :
    lines.flatMap (fun line => dialect.lineFrames line.toList) = dialect.textFrames text := by
  cases h with
  | openAi _ json value written holds =>
    have hparse := written.parse?_trim (Json.isObject_of_at? rfl holds)
    -- The ending is not JSON, so no payload that is can be taken for it.
    have hother : Text.trim json ≠ "[DONE]" := by
      intro hdone
      rw [hdone] at hparse
      cases hparse
    rw [List.flatMap_singleton, data_append, lineFrames_of_visible _ rfl, frames,
      EventLine.openAiFrames_data (by rwa [trim_space]), trim_space, hparse, Option.bind_some,
      holds, EventLine.nonEmptyText?_text filled]
    rfl
  | anthropic _ json value written type holds =>
    have hparse := written.parse?_trim (Json.isObject_of_get? type)
    have hdelta : EventLine.deltaText? (Text.trim json) = some text := by
      rw [EventLine.deltaText?, hparse, Option.bind_some, type, holds,
        EventLine.nonEmptyText?_text filled]
      rfl
    rw [List.flatMap_cons, List.flatMap_singleton, data_append, lineFrames_of_visible _ rfl, frames,
      EventLine.anthropicFrames_data, trim_space, hdelta]
    rfl
  | ollama _ json value written holds going =>
    have hparse := written.parse?_trim (Json.isObject_of_get? holds)
    rw [Text.trim] at hparse
    rw [List.flatMap_singleton, lineFrames_ollama, EventLine.ollamaFrames, hparse]
    dsimp only
    rw [holds, EventLine.nonEmptyText?_text filled, going]
    rfl

theorem lineFrames_withReturns (dialect : Dialect) (line : String) (count : Nat) :
    dialect.lineFrames (withReturns line count).toList = dialect.lineFrames line.toList := by
  rw [withReturns, String.toList_append, String.toList_ofList]
  refine dialect.lineFrames_append fun c hc => ?_
  rw [List.eq_of_mem_replicate hc]
  rfl

/-! ### The frames of many lines -/

/-- Noise between lines and carriage returns after them change nothing. -/
theorem lineFrames_arrives {dialect : Dialect} {sent arrived : List String}
    (h : dialect.Arrives sent arrived) :
    arrived.flatMap (fun line => dialect.lineFrames line.toList) =
      sent.flatMap fun line => dialect.lineFrames line.toList := by
  induction h with
  | nil => rfl
  | line line count _ ih =>
    rw [List.flatMap_cons, List.flatMap_cons, lineFrames_withReturns, ih]
  | noise line count noise _ ih =>
    rw [List.flatMap_cons, lineFrames_withReturns, lineFrames_noise noise, ih, List.nil_append]

theorem lineFrames_chunks {dialect : Dialect} {texts : List String} {chunks : List (List String)}
    (h : List.Forall₂ dialect.Carries texts chunks) (filled : ∀ text ∈ texts, text ≠ "") :
    chunks.flatten.flatMap (fun line => dialect.lineFrames line.toList) =
      texts.flatMap dialect.textFrames := by
  induction h with
  | nil => rfl
  | cons carries _ ih =>
    rw [List.forall_mem_cons] at filled
    rw [List.flatten_cons, List.flatMap_append, lineFrames_carries carries filled.1, ih filled.2,
      List.flatMap_cons]

theorem textFrames_silent (dialect : Dialect) (texts : List String) :
    ∀ f ∈ texts.flatMap dialect.textFrames, f.kind ≠ .ending := by
  intro f hf
  obtain ⟨text, -, hf⟩ := List.mem_flatMap.mp hf
  cases dialect with
  | openAi | ollama =>
    obtain rfl := List.mem_singleton.mp hf
    exact FrameKind.noConfusion
  | anthropic =>
    rcases List.mem_pair.mp hf with rfl | rfl
    · exact FrameKind.noConfusion
    · exact FrameKind.noConfusion

end Dialect

/-! ### Reading a whole body -/

/-- The line that ends a stream is the last that is read. -/
theorem framesFrom_ending {dialect : Dialect} {line : String} {texts : List Frame} {word : String}
    (h : dialect.lineFrames line.toList = texts ++ [.ending word]) (offset : Nat)
    (rest : List (Nat × String)) (last : Nat) :
    (framesFrom ⟨dialect, false⟩ last ((offset, line) :: rest)).1.map TimedFrame.toFrame =
      texts ++ [.ending word] := by
  rw [framesFrom, LineReader.read_eq, h]
  dsimp only
  rw [if_pos (by simp [Frame.ending]), map_toFrame_arriving]

theorem framesFrom_closes {dialect : Dialect} {own : Option String} {lines : List (Nat × String)}
    (h : dialect.Closes own (lines.map Prod.snd)) (last : Nat) :
    (framesFrom ⟨dialect, false⟩ last lines).1.map TimedFrame.toFrame =
      own.toList.map Frame.content ++ [.ending (dialect.endWord?.getD "eof")] := by
  generalize htail : lines.map Prod.snd = tail at h
  -- The first line, if there is one, ends the stream; the end of the body does otherwise.
  cases h with
  | openAi count rest =>
    obtain ⟨⟨offset, line⟩, more, rfl, rfl, -⟩ := List.map_eq_cons_iff.mp htail
    refine framesFrom_ending ?_ offset more last
    rw [Dialect.lineFrames_withReturns]
    rfl
  | anthropic =>
    rw [List.map_eq_nil_iff.mp htail]
    rfl
  | ollama json value count rest written done =>
    obtain ⟨⟨offset, line⟩, more, rfl, rfl, -⟩ := List.map_eq_cons_iff.mp htail
    refine framesFrom_ending ?_ offset more last
    have hparse := written.parse?_trim (Json.isObject_of_get? done)
    rw [Text.trim] at hparse
    rw [Dialect.lineFrames_withReturns, Dialect.lineFrames_ollama, EventLine.ollamaFrames, hparse]
    dsimp only
    rw [done, Option.toList_map]
    rfl

/-! ### Bodies as they are usually sent -/

namespace Dialect

/-- The value that carries a text. -/
def chunkValue (dialect : Dialect) (text : String) : Json :=
  match dialect with
  | .openAi =>
    .object [("choices", .array [.object [("delta", .object [("content", .text text)])]])]
  | .anthropic =>
    .object [("delta", .object [("text", .text text)]), ("type", .text "content_block_delta")]
  | .ollama => .object [("done", .bool false), ("response", .text text)]

/-- The lines of one chunk. -/
def chunk (dialect : Dialect) (text : String) : List String :=
  match dialect with
  | .openAi => ["data: " ++ (chunkValue .openAi text).compact]
  | .anthropic =>
    ["event: content_block_delta", "data: " ++ (chunkValue .anthropic text).compact]
  | .ollama => [(chunkValue .ollama text).compact]

/-- The line that ends a stream, in the dialects that have one. -/
def sentinel : Dialect → List String
  | .openAi => ["data: [DONE]"]
  | .anthropic => []
  | .ollama => [(Json.object [("done", .bool true)]).compact]

/-- The lines that send texts, one chunk each. -/
def encode (dialect : Dialect) (texts : List String) : List String :=
  (texts.map dialect.chunk).flatten ++ dialect.sentinel

theorem done_lt_response : "done" < "response" := by
  show List.Lex (· < ·) "done".toList "response".toList
  exact .rel (by decide)

theorem delta_lt_type : "delta" < "type" := by
  show List.Lex (· < ·) "delta".toList "type".toList
  exact .rel (by decide)

theorem chunkValue_written (dialect : Dialect) (text : String) :
    (dialect.chunkValue text).WrittenAs (dialect.chunkValue text).compact := by
  refine Json.Plain.writtenAs_compact ?_
  cases dialect with
  | openAi => simp [chunkValue, Document.maxDepth, Json.Plain, Json.PlainFields, Json.PlainItems]
  | anthropic =>
    rw [chunkValue, Document.maxDepth, Json.Plain]
    exact ⟨by simp [Json.Plain, Json.PlainFields], List.pairwise_pair.mpr delta_lt_type⟩
  | ollama =>
    rw [chunkValue, Document.maxDepth, Json.Plain]
    exact ⟨by simp [Json.Plain, Json.PlainFields], List.pairwise_pair.mpr done_lt_response⟩

theorem carries_chunk (dialect : Dialect) (text : String) :
    dialect.Carries text (dialect.chunk text) := by
  have hwritten := dialect.chunkValue_written text
  cases dialect with
  | openAi =>
    refine .openAi text _ _ hwritten ?_
    have hzero : "0".toNat? = some 0 := by cbv
    have hlength : "0".length = 1 := by decide
    simp [chunkValue, Json.at?, Json.step?, hzero, hlength]
  | anthropic => exact .anthropic text _ _ hwritten rfl rfl
  | ollama => exact .ollama text _ _ hwritten rfl rfl

theorem withReturns_zero (line : String) : withReturns line 0 = line := by
  rw [withReturns, List.replicate_zero, String.ofList_nil, String.append_empty]

theorem arrives_self (dialect : Dialect) (lines : List String) : dialect.Arrives lines lines := by
  induction lines with
  | nil => exact .nil
  | cons line lines ih =>
    have harrives := Arrives.line line 0 ih
    rwa [withReturns_zero] at harrives

theorem closes_sentinel (dialect : Dialect) : dialect.Closes none dialect.sentinel := by
  cases dialect with
  | openAi =>
    have hcloses := Closes.openAi 0 []
    rwa [withReturns_zero] at hcloses
  | anthropic => exact .anthropic
  | ollama =>
    have hcloses := Closes.ollama (Json.object [("done", .bool true)]).compact _ 0 []
      (Json.Plain.writtenAs_compact (by simp [Json.Plain, Json.PlainFields, Document.maxDepth])) rfl
    rwa [withReturns_zero] at hcloses

theorem carries_chunks (dialect : Dialect) (texts : List String) :
    List.Forall₂ dialect.Carries texts (texts.map dialect.chunk) := by
  rw [List.forall₂_map_right_iff, List.forall₂_same]
  exact fun text _ => dialect.carries_chunk text

theorem streams_encode (dialect : Dialect) (texts : List String) :
    dialect.Streams texts none (dialect.encode texts) :=
  .intro _ _ _ (dialect.carries_chunks texts) (dialect.arrives_self _) dialect.closes_sentinel rfl

end Dialect

/-- **Decoding undoes encoding.** The usual lines that send given texts are a stream of them, and
every stream of texts that are not empty is read back as those texts in order, each after its marker
where there are markers, and one ending, whatever noise there is. Only an ending that is an object
may carry a text of its own, which then comes last. -/
theorem events_of_streams (dialect : Dialect) (texts : List String)
    (filled : ∀ text ∈ texts, text ≠ "") :
    dialect.Streams texts none (dialect.encode texts) ∧
    ∀ (own : Option String) (lines : List (Nat × String)),
      dialect.Streams texts own (lines.map Prod.snd) →
      (Capture.ofLines dialect lines).events.map TimedFrame.toFrame =
        texts.flatMap dialect.textFrames ++ own.toList.map Frame.content ++
          [.ending (dialect.endWord?.getD "eof")] := by
  refine ⟨dialect.streams_encode texts, fun own lines h => ?_⟩
  obtain ⟨chunks, body, tail, carries, arrives, closes, shape⟩ := h
  obtain ⟨body, tail, rfl, rfl, rfl⟩ := List.map_eq_append_iff.mp shape
  have hbody : body.flatMap (fun line => dialect.lineFrames line.2.toList) =
      texts.flatMap dialect.textFrames := by
    rw [← Dialect.lineFrames_chunks carries filled, ← Dialect.lineFrames_arrives arrives,
      List.flatMap_map]
  have silent := dialect.textFrames_silent texts
  rw [← hbody] at silent
  obtain ⟨last, hframes⟩ := framesFrom_append silent tail 0
  rw [Capture.ofLines]
  dsimp only
  rw [hframes, hbody, framesFrom_closes closes, List.append_assoc]

/-- Two texts, one of which reads like an ending, with noise between them and one more chunk after
their end. A line has as many carriage returns as its time says. -/
theorem events_of_streams_interrupted :
    let texts := ["[DONE]", " \"\n"]
    let lines := [(1, ": ping"), (2, "data: " ++ (Dialect.chunkValue .openAi "[DONE]").compact),
      (3, "data: oops"), (3, "\t "), (5, "data: " ++ (Dialect.chunkValue .openAi " \"\n").compact),
      (8, "data: [DONE]"), (9, "data: " ++ (Dialect.chunkValue .openAi "late").compact)].map
        fun line => (line.1, Dialect.withReturns line.2 line.1)
    (∀ text ∈ texts, text ≠ "") ∧ Dialect.openAi.Streams texts none (lines.map Prod.snd) ∧
      (Capture.ofLines .openAi lines).events.map TimedFrame.toFrame =
        [.content "[DONE]", .content " \"\n", .ending "[DONE]"] := by
  intro texts lines
  have filled : ∀ text ∈ texts, text ≠ "" := by decide
  have carries := Dialect.carries_chunks .openAi texts
  have arrives : Dialect.openAi.Arrives (texts.map (Dialect.chunk .openAi)).flatten _ :=
    .noise ": ping" 1 (.comment .openAi " ping" (by decide)) <|
    .line _ 2 <|
    .noise "data: oops" 3 (.data .openAi " oops" (by decide) (by decide) rfl) <|
    .noise "\t " 3 (.blank .openAi "\t " (by decide)) <|
    .line _ 5 .nil
  have streams : Dialect.openAi.Streams texts none (lines.map Prod.snd) :=
    .intro _ _ _ carries arrives (.openAi 8 _) rfl
  exact ⟨filled, streams, (events_of_streams .openAi texts filled).2 none lines streams⟩

/-- Neither the text of an ending nor the trimming of payloads can be left out. An object that ends
a stream may carry a text, and a line or a payload that is not JSON as it stands may still be read
once the blanks around it are removed, which may be blanks that JSON does not know. -/
theorem events_beyond_texts :
    (¬ ∀ (texts : List String) (own : Option String) (lines : List (Nat × String)),
      (∀ text ∈ texts, text ≠ "") → Dialect.ollama.Streams texts own (lines.map Prod.snd) →
      (Capture.ofLines .ollama lines).events.map TimedFrame.toFrame =
        texts.map Frame.content ++ [.ending "done"]) ∧
    (¬ ∀ line : String, Json.parse? line = none → Dialect.ollama.lineFrames line.toList = []) ∧
    ¬ ∀ payload : String, payload ≠ "[DONE]" → Json.parse? payload = none →
      Dialect.openAi.lineFrames ("data: " ++ payload).toList = [] := by
  refine ⟨fun h => ?_, fun h => ?_, fun h => ?_⟩
  · have written : (Json.object [("done", .bool true), ("response", .text "b")]).WrittenAs _ :=
      Json.Plain.writtenAs_compact
        ⟨by simp [Json.Plain, Json.PlainFields], List.pairwise_pair.mpr Dialect.done_lt_response⟩
    have carries := Dialect.carries_chunk .ollama "a"
    have streams := Dialect.Streams.intro [Dialect.chunk .ollama "a"] _ _
      (.cons carries .nil) (.line _ 0 .nil) (.ollama _ _ 0 [] written rfl) rfl
    have hevents := h ["a"] _ [(1, _), (2, _)] (by decide) streams
    revert hevents
    decide +kernel
  · have hframes := h "\u00a0\x7b\"response\":\"a\"\x7d" rfl
    revert hframes
    decide +kernel
  · have hframes := h " [DONE]" (by decide) rfl
    revert hframes
    decide +kernel

end GatewayProbe
