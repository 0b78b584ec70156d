/-
The events of a stream, from its lines to the verdict.

A stream of a message passes by what its lines say, whichever order they come in: some line must
name each needed event type, and some line must carry text. The lines are read one by one and none
of them ends the stream, so nothing is known of the verdict but which lines there are.

* `EventLine.Names`, `EventLine.Tells` — a line names an event type, or carries text;
* `mem_frames_ofLines` — the events of lines, without their order;
* `ofEvents_congr` — the verdict depends on which events there are, and on nothing else;
* `ofEvents_ofLines` — from lines to the verdict.
-/
import GatewayProbe.Proofs.Conformance.Verdict
import GatewayProbe.Proofs.Events.Bodies

namespace GatewayProbe

/-! ### What a line says -/

namespace EventLine

/-- A line without the carriage returns at its end. -/
def bare (line : String) : List Char := Text.dropEndWhile (· = '\r') line.toList

/-- A line names an event type. -/
def Names (line type : String) : Prop :=
  ∃ rest, bare line = "event:".toList ++ rest ∧ Text.trim (String.ofList rest) = type

/-- A line carries a piece of text: its JSON is a change to a block, with a text that is not
empty. -/
def Tells (line : String) : Prop :=
  ∃ rest value text, bare line = "data:".toList ++ rest ∧
    Json.parse? (Text.trim (String.ofList rest)) = some value ∧
    value.get? "type" = some (.text "content_block_delta") ∧
    value.at? ["delta", "text"] = some (.text text) ∧ text ≠ ""

theorem data?_eq_some_iff {line : List Char} {data : String} : data? line = some data ↔
    ∃ rest, line = "data:".toList ++ rest ∧ Text.trim (String.ofList rest) = data := by
  rw [data?, Option.map_eq_some_iff]
  simp only [after?_eq_some_iff, Text.trim, String.toList_ofList]

theorem after?_eq_none_of_blank {word : String} {line : List Char}
    (hword : word.toList.all Text.isBlank = false) (h : line.all Text.isBlank = true) :
    after? word line = none := by
  rw [Option.eq_none_iff_forall_ne_some]
  intro rest hrest
  rw [after?_eq_some_iff.mp hrest, List.all_append, hword] at h
  cases h

theorem lineFrames_anthropic (line : List Char) :
    Dialect.anthropic.lineFrames line = anthropicFrames line := by
  rw [Dialect.lineFrames]
  split
  · next hblank =>
    rw [anthropicFrames, data?, after?_eq_none_of_blank rfl hblank,
      after?_eq_none_of_blank rfl hblank]
    rfl
  · rfl

theorem lineFrames_eq (line : String) :
    Dialect.anthropic.lineFrames line.toList = anthropicFrames (bare line) := by
  rw [← Dialect.lineFrames_dropReturns, lineFrames_anthropic, bare]

/-- A line gives the name of an event type exactly where it names it. -/
theorem marker_mem_lineFrames {line type : String} :
    Frame.marker type ∈ Dialect.anthropic.lineFrames line.toList ↔ Names line type ∧ type ≠ "" := by
  simp only [Names, ← after?_eq_some_iff]
  rw [lineFrames_eq, anthropicFrames]
  cases after? "event:" (bare line) with
  | none =>
    refine iff_of_false (fun hmem => ?_) (by simp)
    obtain ⟨text, -, htext⟩ := Option.map_eq_some_iff.mp (Option.mem_toList.mp hmem)
    cases htext
  | some rest => simp [Frame.marker, Text.nonBlank?_eq_some_iff]

/-- A line gives text exactly where it carries it. -/
theorem exists_content_mem_lineFrames {line : String} :
    (∃ text, Frame.content text ∈ Dialect.anthropic.lineFrames line.toList) ↔ Tells line := by
  rw [lineFrames_eq, anthropicFrames, Tells]
  split
  · next rest hevent =>
    -- No line begins with both words.
    rw [after?_eq_some_iff.mp hevent]
    simp [Frame.marker, Frame.content]
  · simp only [Option.mem_toList, Option.map_eq_some_iff, Option.bind_eq_some_iff,
      data?_eq_some_iff, deltaText?_eq_some_iff, Frame.content, Frame.mk.injEq, true_and]
    constructor
    · rintro ⟨_, text, ⟨_, ⟨rest, hrest, rfl⟩, value, hvalue⟩, -⟩
      exact ⟨rest, value, text, hrest, hvalue⟩
    · rintro ⟨rest, value, text, hrest, hvalue⟩
      exact ⟨text, text, ⟨_, ⟨rest, hrest, rfl⟩, value, hvalue⟩, rfl⟩

/-- No line ends the stream. -/
theorem lineFrames_going (line : String) :
    ∀ f ∈ Dialect.anthropic.lineFrames line.toList, f.kind ≠ .ending := by
  rw [lineFrames_eq, anthropicFrames]
  split
  · cases Text.nonBlank? (String.ofList _) <;> simp [Frame.marker]
  · cases (data? (bare line)).bind deltaText? <;> simp [Frame.content]

end EventLine

/-! ### The events of lines -/

/-- Every line gives its events, and the end of the body one more. -/
theorem frames_ofLines (lines : List (Nat × String)) :
    (Capture.ofLines .anthropic lines).frames =
      lines.flatMap (fun line => Dialect.anthropic.lineFrames line.2.toList) ++
        [.ending "eof"] := by
  have silent : ∀ f ∈ lines.flatMap (fun line => Dialect.anthropic.lineFrames line.2.toList),
      f.kind ≠ .ending := by
    intro f hf
    obtain ⟨line, -, hf⟩ := List.mem_flatMap.mp hf
    exact EventLine.lineFrames_going line.2 f hf
  obtain ⟨last, hframes⟩ := framesFrom_append silent [] 0
  rw [List.append_nil] at hframes
  exact hframes

theorem mem_frames_ofLines {lines : List (Nat × String)} {f : Frame} :
    f ∈ (Capture.ofLines .anthropic lines).frames ↔
      (∃ text ∈ lines.map Prod.snd, f ∈ Dialect.anthropic.lineFrames text.toList) ∨
        f = .ending "eof" := by
  rw [frames_ofLines, List.mem_append, List.mem_singleton, List.mem_flatMap]
  simp only [List.mem_map, exists_exists_and_eq_and]

namespace Capture

theorem exists_marker_iff {c : Capture} {type : String} :
    (∃ e ∈ c.events, e.kind = .marker ∧ e.payload = type) ↔ Frame.marker type ∈ c.frames := by
  rw [frames, List.mem_map]
  refine exists_congr fun e => and_congr_right fun _ => ?_
  rw [Frame.marker, Frame.mk.injEq]

theorem exists_content_iff {c : Capture} :
    (∃ e ∈ c.events, e.kind = .content) ↔ ∃ text, Frame.content text ∈ c.frames := by
  constructor
  · rintro ⟨e, he, hkind⟩
    refine ⟨e.payload, List.mem_map.mpr ⟨e, he, ?_⟩⟩
    rw [Frame.content, ← hkind]
  · rintro ⟨text, htext⟩
    obtain ⟨e, he, hframe⟩ := List.mem_map.mp htext
    exact ⟨e, he, congrArg Frame.kind hframe⟩

end Capture

/-- The verdict depends on which events there are, and on neither their order nor their number. -/
theorem Finding.ofEvents_congr (expected : Mode) {c d : Capture}
    (same : ∀ f, f ∈ c.frames ↔ f ∈ d.frames) : ofEvents expected c = ofEvents expected d := by
  -- Three questions are asked of the events, each of them about membership alone.
  have hall : (c.events.all fun e => e.kind = .ending) =
      d.events.all fun e => e.kind = .ending := by
    have hframes (c : Capture) : (c.events.all fun e => e.kind = .ending) =
        c.frames.all fun f => f.kind = .ending := by
      rw [Capture.frames, List.all_map]
      rfl
    rw [hframes, hframes, Bool.eq_iff_iff, List.all_eq_true, List.all_eq_true]
    exact forall_congr' fun f => imp_congr_left (same f)
  have hcount : c.pieceCount = 0 ↔ d.pieceCount = 0 := by
    rw [pieceCount_eq_zero_iff, pieceCount_eq_zero_iff, Capture.exists_content_iff,
      Capture.exists_content_iff]
    simp only [same]
  have habsent (wanted : List String) :
      absentEvents c.markers wanted = absentEvents d.markers wanted := by
    refine List.filter_congr fun type _ => congrArg not ?_
    rw [Bool.eq_iff_iff, List.contains_iff_mem, List.contains_iff_mem, mem_markers, mem_markers,
      Capture.exists_marker_iff, Capture.exists_marker_iff, same]
  rw [ofEvents, ofEvents, hall, habsent, habsent]
  simp only [hcount]

/-! ### The verdict on lines -/

/-- A line has no part in the verdict: it neither names a needed event type nor carries text. -/
def EventLine.Unrelated (line : String) : Prop :=
  (∀ type ∈ ["message_start", "message_delta", "message_stop"], ¬Names line type) ∧ ¬Tells line

theorem marker_mem_ofLines {lines : List (Nat × String)} {type : String} (filled : type ≠ "") :
    Frame.marker type ∈ (Capture.ofLines .anthropic lines).frames ↔
      ∃ text ∈ lines.map Prod.snd, EventLine.Names text type := by
  rw [mem_frames_ofLines, or_iff_left (by simp [Frame.marker, Frame.ending])]
  refine exists_congr fun text => and_congr_right fun _ => ?_
  rw [EventLine.marker_mem_lineFrames, and_iff_left filled]

theorem exists_content_mem_ofLines {lines : List (Nat × String)} :
    (∃ text, Frame.content text ∈ (Capture.ofLines .anthropic lines).frames) ↔
      ∃ text ∈ lines.map Prod.snd, EventLine.Tells text := by
  simp only [← EventLine.exists_content_mem_lineFrames]
  constructor
  · rintro ⟨text, htext⟩
    rcases mem_frames_ofLines.mp htext with ⟨line, hline, hmem⟩ | hending
    · exact ⟨line, hline, text, hmem⟩
    · cases hending
  · rintro ⟨line, hline, text, hmem⟩
    exact ⟨text, mem_frames_ofLines.mpr (.inl ⟨line, hline, hmem⟩)⟩

/-- Each needed event type must be named, and text must be carried, by some line. -/
theorem ofEvents_ofLines_decides (expected : Mode) (lines : List (Nat × String)) :
    (Finding.ofEvents expected (Capture.ofLines .anthropic lines)).Decides
      ((∃ text ∈ lines.map Prod.snd, EventLine.Tells text) ∧
        ∀ type ∈ ["message_start", "message_delta", "message_stop"],
          ∃ text ∈ lines.map Prod.snd, EventLine.Names text type) := by
  have filled : ∀ type ∈ ["message_start", "message_delta", "message_stop"], type ≠ "" := by decide
  refine (Finding.ofEvents_decides expected _).congr (and_congr ?_ (forall₂_congr ?_))
  · rw [Capture.exists_content_iff, exists_content_mem_ofLines]
  · intro type htype
    rw [Capture.exists_marker_iff, marker_mem_ofLines (filled type htype)]

/-- Lines that the verdict has no part in may stand anywhere among the others. -/
theorem ofEvents_ofLines_unrelated (expected : Mode) {lines extra merged : List (Nat × String)}
    (unrelated : ∀ line ∈ extra, EventLine.Unrelated line.2)
    (mixed : merged.Perm (lines ++ extra)) :
    (Finding.ofEvents expected (Capture.ofLines .anthropic merged)).status =
      (Finding.ofEvents expected (Capture.ofLines .anthropic lines)).status := by
  have hkept {p : String → Prop} (other : ∀ line, EventLine.Unrelated line → ¬p line) :
      (∃ text ∈ merged.map Prod.snd, p text) ↔ ∃ text ∈ lines.map Prod.snd, p text := by
    have hmixed := mixed.map Prod.snd
    simp only [hmixed.mem_iff, List.map_append, List.mem_append, or_and_right, exists_or]
    refine or_iff_left ?_
    rintro ⟨text, htext, hp⟩
    obtain ⟨line, hline, rfl⟩ := List.mem_map.mp htext
    exact other _ (unrelated line hline) hp
  have hsame : ((∃ text ∈ merged.map Prod.snd, EventLine.Tells text) ∧
        ∀ type ∈ ["message_start", "message_delta", "message_stop"],
          ∃ text ∈ merged.map Prod.snd, EventLine.Names text type) ↔
      ((∃ text ∈ lines.map Prod.snd, EventLine.Tells text) ∧
        ∀ type ∈ ["message_start", "message_delta", "message_stop"],
          ∃ text ∈ lines.map Prod.snd, EventLine.Names text type) := by
    refine and_congr (hkept fun line h => h.2) (forall₂_congr fun type htype => ?_)
    exact hkept fun line h => h.1 type htype
  exact ((ofEvents_ofLines_decides expected merged).congr hsame).status_eq
    (ofEvents_ofLines_decides expected lines)

/-- **From lines to the verdict.** A stream passes exactly where each needed event type is named by
some line and some line carries text. Status and notes are the same for any lines that say the same,
in any order, at any times and any number of times. Lines that neither name a needed type nor carry
text may stand anywhere without changing the status, and a type counts as observed exactly where a
line names it, whatever the line after it holds. -/
theorem ofEvents_ofLines (expected : Mode) (lines : List (Nat × String)) :
    let verdict (lines : List (Nat × String)) :=
      Finding.ofEvents expected (Capture.ofLines .anthropic lines)
    ((verdict lines).status = .pass ↔
      (∀ type ∈ ["message_start", "message_delta", "message_stop"],
        ∃ line ∈ lines, EventLine.Names line.2 type) ∧
      ∃ line ∈ lines, EventLine.Tells line.2) ∧
    (∀ others : List (Nat × String),
      (∀ text, text ∈ others.map Prod.snd ↔ text ∈ lines.map Prod.snd) →
      verdict others = verdict lines) ∧
    (∀ extra merged : List (Nat × String), (∀ line ∈ extra, EventLine.Unrelated line.2) →
      merged.Perm (lines ++ extra) → (verdict merged).status = (verdict lines).status) ∧
    (∀ type ≠ "", type ∈ (Capture.ofLines .anthropic lines).markers ↔
      ∃ line ∈ lines, EventLine.Names line.2 type) := by
  have htexts {p : String → Prop} :
      (∃ text ∈ lines.map Prod.snd, p text) ↔ ∃ line ∈ lines, p line.2 := by
    simp only [List.mem_map, exists_exists_and_eq_and]
  refine ⟨?_, fun others same => ?_, fun extra merged unrelated mixed => ?_, fun type filled => ?_⟩
  · rw [(ofEvents_ofLines_decides expected lines).pass_iff, and_comm]
    simp only [htexts]
  · refine Finding.ofEvents_congr expected fun f => ?_
    rw [mem_frames_ofLines, mem_frames_ofLines]
    simp only [same]
  · exact ofEvents_ofLines_unrelated expected unrelated mixed
  · rw [Finding.mem_markers, Capture.exists_marker_iff, marker_mem_ofLines filled, htexts]

/-- Names out of order, one of them before data that is no JSON, and text under no name. -/
example :
    (Finding.ofEvents .translated (Capture.ofLines .anthropic
      [(1, "data: \x7b\"type\":\"content_block_delta\",\"delta\":\x7b\"text\":\"a\"\x7d\x7d\r"),
        (2, "event:message_stop"), (3, "event: message_start \r\r"), (4, "data: \x7b\"type\""),
        (5, "event: message_delta")])).status = .pass := by
  decide +kernel

end GatewayProbe
