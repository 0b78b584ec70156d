/-
The marker at the end of a streamed chat completion.

The text of a streamed completion is gone through twice. One pass counts data lines and removes the
blanks around each line first. The other reads events, and for it a data line begins with `data:` at
once. On a line that does not begin with a blank both see the same payload, so a marker that is
found was counted. A marker on an indented line is counted and not found:

* `IsMarker`, `StartsFlush` — the lines that are counted as a marker, and those without an indent;
* `data?_eq_some_iff` — what the reader sees of a line, in terms of what is counted;
* `goesOn_openAi_iff`, `ending?_ofLines_openAi` — the lines that end a stream, and how it ended;
* `sawDone_iff` — where the marker is found;
* `markers_found` — the whole account, and where both passes agree;
* `marker_missed` — a body on which they do not.
-/
import GatewayProbe.Proofs.Events.Offsets
import GatewayProbe.Proofs.Text.Ends
import GatewayProbe.Run.Surface

namespace GatewayProbe

namespace ChatLines

/-- A line that is counted and whose payload is the marker of the end. -/
def IsMarker (line : String) : Prop := (looseData? line).map Text.trim = some "[DONE]"

/-- The line does not begin with a blank. -/
def StartsFlush (line : String) : Prop := line.toList.head?.any Text.isBlank = false

instance (line : String) : Decidable (IsMarker line) := inferInstanceAs (Decidable (_ = _))

instance (line : String) : Decidable (StartsFlush line) := inferInstanceAs (Decidable (_ = _))

/-! ### One line -/

theorem startsFlush_of_data? {line payload : String}
    (h : EventLine.data? line.toList = some payload) : StartsFlush line := by
  obtain ⟨rest, hrest, -⟩ := Option.map_eq_some_iff.mp h
  rw [StartsFlush, EventLine.after?_eq_some_iff.mp hrest]
  rfl

/-- Both passes see the same payload of a line that does not begin with a blank. -/
theorem data?_of_startsFlush {line : String} (h : StartsFlush line) :
    EventLine.data? line.toList = (looseData? line).map Text.trim := by
  have hfront : line.toList.dropWhile Text.isBlank = line.toList := by
    cases hline : line.toList with
    | nil => rfl
    | cons c cs =>
      rw [StartsFlush, hline, List.head?_cons, Option.any_some] at h
      rw [List.dropWhile_cons_of_neg (by rw [h]; exact Bool.false_ne_true)]
  -- So trimming only takes blanks from the end, and those are trimmed from the payload anyway.
  obtain ⟨ws, hsplit, hws⟩ := Text.exists_dropEndWhile Text.isBlank line.toList
  have htrim : Text.trimChars line.toList = Text.dropEndWhile Text.isBlank line.toList := by
    rw [Text.trimChars, hfront]
  rw [hsplit, ← htrim, EventLine.data?_append hws, EventLine.data?, looseData?, Option.map_map]
  congr 1
  funext rest
  rw [Function.comp_apply, Text.trim, String.toList_ofList]

theorem data?_eq_some_iff {line payload : String} :
    EventLine.data? line.toList = some payload ↔
      StartsFlush line ∧ (looseData? line).map Text.trim = some payload := by
  constructor
  · intro h
    have hflush := startsFlush_of_data? h
    exact ⟨hflush, data?_of_startsFlush hflush ▸ h⟩
  · rintro ⟨hflush, h⟩
    exact (data?_of_startsFlush hflush).trans h

end ChatLines

/-! ### The reader -/

/-- A blank line is no data line. -/
theorem Dialect.lineFrames_openAi (line : List Char) :
    Dialect.openAi.lineFrames line = EventLine.openAiFrames line := by
  rw [lineFrames]
  split
  · next hblank =>
    have hnone : EventLine.data? line = none := by
      rw [EventLine.data?, Option.map_eq_none_iff, Option.eq_none_iff_forall_ne_some]
      intro rest hrest
      rw [EventLine.after?_eq_some_iff.mp hrest, List.all_append] at hblank
      cases hblank
    rw [EventLine.openAiFrames, hnone]
  · rfl

theorem stamped_openAi_of_done {line : Nat × String}
    (h : EventLine.data? line.2.toList = some "[DONE]") :
    Dialect.openAi.stamped line = [(Frame.ending "[DONE]").arriving line.1] := by
  rw [Dialect.stamped, LineReader.read_eq, Dialect.lineFrames_openAi, EventLine.openAiFrames, h]
  rfl

/-- A stream goes on after every line whose payload is not the marker. -/
theorem goesOn_openAi_iff {line : Nat × String} :
    Dialect.openAi.GoesOn line ↔ EventLine.data? line.2.toList ≠ some "[DONE]" := by
  constructor
  · intro going hdone
    rw [Dialect.GoesOn, stamped_openAi_of_done hdone] at going
    exact going _ List.mem_cons_self rfl
  · intro hother
    rw [Dialect.GoesOn, Dialect.stamped, LineReader.read_eq, Dialect.lineFrames_openAi,
      EventLine.openAiFrames]
    cases hdata : EventLine.data? line.2.toList with
    | none => simp
    | some payload =>
      rw [hdata] at hother
      dsimp only
      rw [if_neg fun hdone => hother (congrArg some hdone)]
      intro e he
      obtain ⟨f, hf, rfl⟩ := List.mem_map.mp he
      obtain ⟨text, -, rfl⟩ := Option.map_eq_some_iff.mp (Option.mem_toList.mp hf)
      simp [Frame.content, Frame.arriving]

theorem Capture.ending?_of_last {c : Capture} {texts : List TimedFrame} {word : String}
    {time : Nat} (h : c.events = texts ++ [(Frame.ending word).arriving time]) :
    c.ending? = some word := by
  rw [ending?, h, List.reverse_append, List.reverse_singleton, List.singleton_append,
    List.find?_cons_of_pos rfl]
  rfl

/-- A stream ended with the marker exactly where it is the payload of a line that the reader takes
for a data line. -/
theorem ending?_ofLines_openAi (lines : List (Nat × String)) :
    (Capture.ofLines .openAi lines).ending? = some "[DONE]" ↔
      ∃ line ∈ lines, EventLine.data? line.2.toList = some "[DONE]" := by
  -- Reading stops at the first line that ends the stream, and only a marker does.
  rcases exists_stopping_or_going .openAi lines with
    ⟨before, last, after, rfl, going, stopping⟩ | going
  · have hdone := not_not.mp (mt goesOn_openAi_iff.mpr stopping)
    have hending : (Capture.ofLines .openAi (before ++ last :: after)).ending? = some "[DONE]" := by
      have hevents : (Capture.ofLines .openAi (before ++ last :: after)).events =
          before.flatMap Dialect.openAi.stamped ++ [(Frame.ending "[DONE]").arriving last.1] := by
        rw [ofLines_ended going stopping, List.flatMap_append, List.flatMap_singleton,
          stamped_openAi_of_done hdone]
      exact Capture.ending?_of_last hevents
    exact iff_of_true hending ⟨last, List.mem_append_right _ List.mem_cons_self, hdone⟩
  · have hending : (Capture.ofLines .openAi lines).ending? = some "eof" :=
      Capture.ending?_of_last (by rw [ofLines_closed going])
    rw [hending]
    refine iff_of_false (by decide) ?_
    rintro ⟨line, hline, hdone⟩
    exact goesOn_openAi_iff.mp (going line hline) hdone

/-! ### Both passes over a body -/

namespace ChatLines

theorem dataLines_eq (body : String) :
    (ofBody body).dataLines = (Text.lines body).countP fun line => (looseData? line).isSome := by
  rw [ofBody, List.length_filterMap_eq_countP]

/-- The marker is found exactly where it is on a line that does not begin with a blank. -/
theorem sawDone_iff (body : String) :
    (ofBody body).sawDone = true ↔
      ∃ line ∈ Text.lines body, IsMarker line ∧ StartsFlush line := by
  have hdone (line : String) :
      EventLine.data? line.toList = some "[DONE]" ↔ IsMarker line ∧ StartsFlush line := by
    rw [data?_eq_some_iff, and_comm, IsMarker]
  rw [ofBody, decide_eq_true_eq, ending?_ofLines_openAi]
  simp only [List.mem_map, exists_exists_and_eq_and, hdone]

theorem dataLines_pos_of_isMarker {body line : String} (hline : line ∈ Text.lines body)
    (hmarker : IsMarker line) : 0 < (ofBody body).dataLines := by
  obtain ⟨payload, hpayload, -⟩ := Option.map_eq_some_iff.mp hmarker
  rw [dataLines_eq, List.countP_pos_iff]
  exact ⟨line, hline, Option.isSome_of_eq_some hpayload⟩

/-- The record says that there is no marker exactly where lines are counted and none is found. -/
theorem judgeProxyStream_unmarked_iff (body : String) :
    (judgeProxyStream body).head? =
        some ⟨"proxy/chat-stream", .pass, "stream completed (no [DONE] marker)"⟩ ↔
      0 < (ofBody body).dataLines ∧ ¬(ofBody body).sawDone = true := by
  rw [judgeProxyStream]
  dsimp only [List.head?_cons]
  rw [Option.some_inj]
  by_cases hnone : (ofBody body).dataLines = 0
  · rw [if_pos hnone]
    exact iff_of_false (by simp) fun h => absurd hnone h.1.ne'
  · rw [if_neg hnone]
    cases hdone : (ofBody body).sawDone with
    | false => exact iff_of_true rfl ⟨Nat.pos_of_ne_zero hnone, Bool.false_ne_true⟩
    | true =>
      -- The number of lines is told by a text with another end.
      refine iff_of_false (fun h => ?_) fun h => h.2 rfl
      have hdetail := congrArg Record.detail h
      have hapart : Text.Apart " data lines" " marker)" := by decide
      exact hapart.ne (Text.suffix_append _ _) (Text.suffix_append "stream completed (no [DONE]" _)
        hdetail

end ChatLines

open ChatLines (IsMarker StartsFlush)

/-- **The marker of the end, counted and found.** The marker is found exactly where a line that is
counted has it as its payload and does not begin with a blank. So a marker that is found was
counted. Both passes over the body agree unless some line counts as the marker and each such line is
indented. The record says that there is no marker exactly where lines are counted and each of them
that has it is indented. -/
theorem markers_found (body : String) :
    let scan := ChatLines.ofBody body
    let lines := Text.lines body
    scan.dataLines = lines.countP (fun line => (looseData? line).isSome) ∧
    (scan.sawDone = true ↔ ∃ line ∈ lines, IsMarker line ∧ StartsFlush line) ∧
    (scan.sawDone = true → 0 < scan.dataLines) ∧
    ((scan.sawDone = true ↔ ∃ line ∈ lines, IsMarker line) ↔
      ¬((∃ line ∈ lines, IsMarker line) ∧ ∀ line ∈ lines, IsMarker line → ¬StartsFlush line)) ∧
    ((judgeProxyStream body).head? =
        some ⟨"proxy/chat-stream", .pass, "stream completed (no [DONE] marker)"⟩ ↔
      0 < scan.dataLines ∧ ∀ line ∈ lines, IsMarker line → ¬StartsFlush line) := by
  intro scan lines
  have hfound : scan.sawDone = true ↔ ∃ line ∈ lines, IsMarker line ∧ StartsFlush line :=
    ChatLines.sawDone_iff body
  have hmissed : ¬scan.sawDone = true ↔ ∀ line ∈ lines, IsMarker line → ¬StartsFlush line := by
    rw [hfound]
    push Not
    exact Iff.rfl
  have hmarked : scan.sawDone = true → ∃ line ∈ lines, IsMarker line := fun h =>
    (hfound.mp h).imp fun line hline => ⟨hline.1, hline.2.1⟩
  refine ⟨ChatLines.dataLines_eq body, hfound, fun h => ?_, ?_, ?_⟩
  · obtain ⟨line, hline, hmarker⟩ := hmarked h
    exact ChatLines.dataLines_pos_of_isMarker hline hmarker
  · rw [← hmissed, not_and, not_not]
    exact ⟨fun h => h.mpr, fun h => ⟨hmarked, h⟩⟩
  · rw [ChatLines.judgeProxyStream_unmarked_iff, ← hmissed]

/-- Of two markers the second one is not indented, and it is found. -/
theorem markers_found_later :
    let scan := ChatLines.ofBody " data: [DONE]\ndata:[DONE] \r\n"
    IsMarker "data:[DONE] " ∧ scan.sawDone = true ∧ 0 < scan.dataLines := by
  intro scan
  have hmarker : IsMarker "data:[DONE] " := by decide +kernel
  obtain ⟨-, hfound, hcounted, -⟩ := markers_found " data: [DONE]\ndata:[DONE] \r\n"
  have hdone : scan.sawDone = true :=
    hfound.mpr ⟨"data:[DONE] ", by decide +kernel, hmarker, by decide +kernel⟩
  exact ⟨hmarker, hdone, hcounted hdone⟩

/-- The one line is counted, its payload is the marker, and the marker is not found. -/
theorem marker_missed :
    Text.lines " data: [DONE]\n" = [" data: [DONE]"] ∧ IsMarker " data: [DONE]" ∧
      (ChatLines.ofBody " data: [DONE]\n").dataLines = 1 ∧
      (ChatLines.ofBody " data: [DONE]\n").sawDone = false ∧
      (judgeProxyStream " data: [DONE]\n").head? =
        some ⟨"proxy/chat-stream", .pass, "stream completed (no [DONE] marker)"⟩ := by
  decide +kernel

end GatewayProbe
