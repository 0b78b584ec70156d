/-
A reader ends a stream once, whatever is asked of it and in whatever order.

A reader is given lines and told of the end of the body. Its callers need not stop at the line that
ends the stream and may close a body twice, so the contract ranges over all lists of calls:

* `Dialect.gives_frames` — what one line can give, in each dialect;
* `LineReader.step_answer` — what one call can do to a reader that has not finished;
* `LineReader.concludes_answers`, `LineReader.allows_answers` — the same for all calls, as a whole
  and frame by frame;
* `answers_end_once` — the contract.
-/
import GatewayProbe.Events.Lines
import GatewayProbe.Proofs.Text.Trimming

namespace GatewayProbe

/-- The word with which a dialect announces the end of a stream, if it has one. -/
def Dialect.endWord? : Dialect → Option String
  | .openAi => some "[DONE]"
  | .anthropic => none
  | .ollama => some "done"

/-! ### Lines -/

/-- What one line can give in a dialect. -/
inductive Dialect.Gives (dialect : Dialect) : List Frame → Prop
  | nothing : dialect.Gives []
  | text (text : String) (filled : text ≠ "") : dialect.Gives [.content text]
  | marker (type : String) (filled : type ≠ "") (sole : dialect = .anthropic) :
      dialect.Gives [.marker type]
  | ending (word : String) (own : dialect.endWord? = some word) : dialect.Gives [.ending word]
  | last (text word : String) (filled : text ≠ "") (own : dialect.endWord? = some word) :
      dialect.Gives [.content text, .ending word]

theorem EventLine.nonEmptyText?_ne_empty {value : Option Json} {text : String}
    (h : EventLine.nonEmptyText? value = some text) : text ≠ "" :=
  (EventLine.nonEmptyText?_eq_some_iff.mp h).2

theorem Dialect.gives_text? (dialect : Dialect) {text : Option String}
    (filled : ∀ t, text = some t → t ≠ "") : dialect.Gives (text.map Frame.content).toList := by
  cases text with
  | none => exact .nothing
  | some t => exact .text t (filled t rfl)

/-- A line gives one of the forms of its dialect. -/
theorem Dialect.gives_frames (dialect : Dialect) (line : List Char) :
    dialect.Gives (dialect.frames line) := by
  cases dialect with
  | openAi =>
    rw [Dialect.frames, EventLine.openAiFrames]
    split
    · exact .nothing
    · next data _ =>
      split
      · next hdone => exact .ending data (by rw [hdone]; rfl)
      · refine gives_text? _ fun t ht => ?_
        obtain ⟨value, -, hvalue⟩ := Option.bind_eq_some_iff.mp ht
        exact EventLine.nonEmptyText?_ne_empty hvalue
  | anthropic =>
    rw [Dialect.frames, EventLine.anthropicFrames]
    split
    · next rest _ =>
      cases htype : Text.nonBlank? (String.ofList rest) with
      | none => exact .nothing
      | some type => exact .marker type (Text.nonBlank?_ne_empty htype) rfl
    · refine gives_text? _ fun t ht => ?_
      obtain ⟨data, -, hdata⟩ := Option.bind_eq_some_iff.mp ht
      obtain ⟨value, -, hvalue⟩ := Option.bind_eq_some_iff.mp hdata
      split at hvalue
      · exact EventLine.nonEmptyText?_ne_empty hvalue
      · cases hvalue
  | ollama =>
    rw [Dialect.frames, EventLine.ollamaFrames]
    split
    · exact .nothing
    · next value _ =>
      have filled : ∀ t, (EventLine.nonEmptyText? (value.get? "response") <|>
          EventLine.nonEmptyText? (value.at? ["message", "content"])) = some t → t ≠ "" := by
        intro t ht
        rw [Option.orElse_eq_orElse, Option.orElse_eq_or, Option.or_eq_some_iff] at ht
        rcases ht with h | ⟨-, h⟩
        · exact EventLine.nonEmptyText?_ne_empty h
        · exact EventLine.nonEmptyText?_ne_empty h
      dsimp only
      generalize (EventLine.nonEmptyText? (value.get? "response") <|>
        EventLine.nonEmptyText? (value.at? ["message", "content"])) = text at filled
      split
      · cases text with
        | none => exact .ending "done" rfl
        | some t => exact .last t "done" (filled t rfl) rfl
      · rw [List.append_nil]
        exact gives_text? _ filled

/-! ### One call -/

/-- A call made to a reader: a line, or the end of the body. -/
inductive ReaderCall where
  | line (text : String)
  | close
  deriving DecidableEq

namespace LineReader

/-- The frames a call gives, and the reader after it. -/
def answer (d : LineReader) : ReaderCall → List Frame × LineReader
  | .line text => d.read text
  | .close => (d.close.1.toList, d.close.2)

/-- What a call does to a reader that has not finished. A line gives what its dialect allows, and
the end of the body an ending of its own; with an ending the reader has finished. -/
inductive Step (d : LineReader) : ReaderCall → List Frame → LineReader → Prop
  | line (text : String) (frames : List Frame) (gives : d.dialect.Gives frames) :
      Step d (.line text) frames
        { d with isFinished := frames.any fun f => f.kind = .ending }
  | close : Step d .close [.ending "eof"] { d with isFinished := true }

theorem step_answer {d : LineReader} (h : d.isFinished = false) (c : ReaderCall) :
    d.Step c (d.answer c).1 (d.answer c).2 := by
  obtain ⟨dialect, isFinished⟩ := d
  cases h
  cases c with
  | line text =>
    rw [answer, read]
    dsimp only
    split
    · exact .line text [] .nothing
    · exact .line text _ (dialect.gives_frames _)
  | close => exact .close

theorem answer_of_finished {d : LineReader} (h : d.isFinished = true) (c : ReaderCall) :
    d.answer c = ([], d) := by
  cases c with
  | line text => simp [answer, read, h]
  | close => simp [answer, close, h]

theorem Step.dialect_eq {d d' : LineReader} {c : ReaderCall} {frames : List Frame}
    (h : d.Step c frames d') : d'.dialect = d.dialect := by
  cases h <;> rfl

/-- Frames without an ending from a reader that goes on, or with one ending, the last of them, from
a reader that has finished. -/
inductive Concludes (frames : List Frame) (isFinished : Bool) : Prop
  | running (going : isFinished = false) (silent : ∀ f ∈ frames, f.kind ≠ .ending)
  | finished (done : isFinished = true) (texts : List Frame) (word : String)
      (shape : frames = texts ++ [.ending word]) (silent : ∀ f ∈ texts, f.kind ≠ .ending)

theorem Step.concludes {d d' : LineReader} {c : ReaderCall} {frames : List Frame}
    (h : d.Step c frames d') : Concludes frames d'.isFinished := by
  cases h with
  | close => exact .finished rfl [] "eof" rfl (by simp)
  | line text _ gives =>
    cases gives with
    | nothing => exact .running rfl (by simp)
    | text text => exact .running rfl (by simp [Frame.content])
    | marker type => exact .running rfl (by simp [Frame.marker])
    | ending word => exact .finished rfl [] word rfl (by simp)
    | last text word => exact .finished rfl [.content text] word rfl (by simp [Frame.content])

/-- What a single frame can be, in a dialect and as part of the answer to a call. -/
inductive Allows (dialect : Dialect) (c : ReaderCall) : Frame → Prop
  | content (text : String) (filled : text ≠ "") : Allows dialect c (.content text)
  | marker (type : String) (filled : type ≠ "") (sole : dialect = .anthropic) :
      Allows dialect c (.marker type)
  | sentinel (word : String) (own : dialect.endWord? = some word) :
      Allows dialect c (.ending word)
  | eof (closing : c = .close) : Allows dialect c (.ending "eof")

theorem Step.allows {d d' : LineReader} {c : ReaderCall} {frames : List Frame}
    (h : d.Step c frames d') : ∀ f ∈ frames, Allows d.dialect c f := by
  cases h with
  | close => exact List.forall_mem_singleton.mpr (.eof rfl)
  | line text _ gives =>
    cases gives with
    | nothing => simp
    | text text filled => exact List.forall_mem_singleton.mpr (.content text filled)
    | marker type filled sole => exact List.forall_mem_singleton.mpr (.marker type filled sole)
    | ending word own => exact List.forall_mem_singleton.mpr (.sentinel word own)
    | last text word filled own =>
      exact List.forall_mem_cons.mpr
        ⟨.content text filled, List.forall_mem_singleton.mpr (.sentinel word own)⟩

/-! ### Any number of calls -/

/-- The frames given to each of a list of calls. -/
def answers (d : LineReader) : List ReaderCall → List (List Frame)
  | [] => []
  | c :: calls => (d.answer c).1 :: (d.answer c).2.answers calls

/-- The reader after a list of calls. -/
def after (d : LineReader) (calls : List ReaderCall) : LineReader :=
  calls.foldl (fun d c => (d.answer c).2) d

theorem answers_of_finished {d : LineReader} (h : d.isFinished = true)
    (calls : List ReaderCall) : (d.answers calls).flatten = [] ∧ d.after calls = d := by
  induction calls with
  | nil => exact ⟨rfl, rfl⟩
  | cons c calls ih => simpa [answers, after, answer_of_finished h] using ih

theorem Concludes.append {frames more : List Frame} {isFinished : Bool}
    (silent : ∀ f ∈ frames, f.kind ≠ .ending) (h : Concludes more isFinished) :
    Concludes (frames ++ more) isFinished := by
  have both : ∀ rest : List Frame, (∀ f ∈ rest, f.kind ≠ .ending) →
      ∀ f ∈ frames ++ rest, f.kind ≠ .ending := fun rest hrest f hf =>
    (List.mem_append.mp hf).elim (silent f) (hrest f)
  cases h with
  | running going hmore => exact .running going (both _ hmore)
  | finished done texts word shape htexts =>
    rw [shape, ← List.append_assoc]
    exact .finished done _ word rfl (both _ htexts)

/-- Any calls give at most one ending, as the last of all frames, and the reader has finished
exactly if they did. -/
theorem concludes_answers {d : LineReader} (h : d.isFinished = false)
    (calls : List ReaderCall) :
    Concludes (d.answers calls).flatten (d.after calls).isFinished := by
  induction calls generalizing d with
  | nil => exact .running h (by simp [answers])
  | cons c calls ih =>
    have hstep := (step_answer h c).concludes
    rw [answers, List.flatten_cons, after, List.foldl_cons, ← after]
    cases hfinished : (d.answer c).2.isFinished with
    | true =>
      -- Nothing is given after the ending, so it stays the last frame.
      obtain ⟨hnil, hafter⟩ := answers_of_finished hfinished calls
      rw [hnil, hafter, List.append_nil]
      exact hstep
    | false =>
      rw [hfinished] at hstep
      cases hstep with
      | running _ silent => exact .append silent (ih hfinished)
      | finished done => cases done

theorem allows_answers {d : LineReader} (calls : List ReaderCall) :
    ∀ p ∈ calls.zip (d.answers calls), ∀ f ∈ p.2, Allows d.dialect p.1 f := by
  induction calls generalizing d with
  | nil => simp
  | cons c calls ih =>
    rw [answers, List.zip_cons_cons, List.forall_mem_cons]
    cases h : d.isFinished with
    | true =>
      rw [answer_of_finished h]
      exact ⟨by simp, ih⟩
    | false =>
      have hstep := step_answer h c
      refine ⟨hstep.allows, ?_⟩
      rw [← hstep.dialect_eq]
      exact ih

theorem length_answers (d : LineReader) (calls : List ReaderCall) :
    (d.answers calls).length = calls.length := by
  induction calls generalizing d with
  | nil => rfl
  | cons c calls ih => rw [answers, List.length_cons, List.length_cons, ih]

/-- Every frame is part of the answer to one of the calls. -/
theorem exists_allows {d : LineReader} {calls : List ReaderCall} {f : Frame}
    (hf : f ∈ (d.answers calls).flatten) : ∃ c, Allows d.dialect c f := by
  obtain ⟨frames, hframes, hf⟩ := List.mem_flatten.mp hf
  rw [← List.map_snd_zip (length_answers d calls).le] at hframes
  obtain ⟨p, hp, rfl⟩ := List.mem_map.mp hframes
  exact ⟨p.1, allows_answers calls p hp f hf⟩

theorem isFinished_of_close {d : LineReader} {calls : List ReaderCall} (h : .close ∈ calls) :
    (d.after calls).isFinished = true := by
  induction calls generalizing d with
  | nil => cases h
  | cons c calls ih =>
    rw [after, List.foldl_cons, ← after]
    rcases List.mem_cons.mp h with rfl | h
    · have hclosed : (d.answer .close).2.isFinished = true := by
        cases hd : d.isFinished <;> simp [answer, close, hd]
      rw [(answers_of_finished hclosed calls).2, hclosed]
    · exact ih h

theorem Concludes.countP_eq {frames : List Frame} {isFinished : Bool}
    (h : Concludes frames isFinished) :
    frames.countP (·.kind = .ending) = isFinished.toNat := by
  have countP_silent : ∀ rest : List Frame, (∀ f ∈ rest, f.kind ≠ .ending) →
      rest.countP (·.kind = .ending) = 0 := by
    intro rest silent
    rw [List.countP_eq_zero]
    simpa using silent
  cases h with
  | running going silent => rw [countP_silent _ silent, going, Bool.toNat_false]
  | finished done texts word shape silent =>
    rw [shape, List.countP_append, countP_silent _ silent, done]
    rfl

theorem Concludes.isFinished_iff {frames : List Frame} {isFinished : Bool}
    (h : Concludes frames isFinished) :
    isFinished = true ↔ ∃ f ∈ frames, f.kind = .ending := by
  have hpos : 0 < frames.countP (·.kind = .ending) ↔ ∃ f ∈ frames, f.kind = .ending := by
    simp [List.countP_pos_iff]
  rw [← hpos, h.countP_eq]
  cases isFinished <;> simp

theorem Concludes.eq_nil {frames before rest : List Frame} {f : Frame} {isFinished : Bool}
    (h : Concludes frames isFinished) (split : frames = before ++ f :: rest)
    (hf : f.kind = .ending) : rest = [] := by
  cases h with
  | running _ silent => exact absurd hf (silent f (by simp [split]))
  | finished _ texts word shape silent =>
    rcases rest.eq_nil_or_concat' with hnil | ⟨rest, g, rfl⟩
    · exact hnil
    · rw [shape, ← List.cons_append, ← List.append_assoc] at split
      obtain ⟨rfl, -⟩ := List.append_inj' split rfl
      exact absurd hf (silent f (by simp))

end LineReader

/-- **A stream ends once.** Whatever lines a fresh reader is given and however often it is closed:
its frames hold at most one ending, after which there are none, and it has finished exactly from
that frame on; a reader that was closed gave its ending. Texts and names of event types are never
empty, and only one dialect has such names. An ending carries the word of the dialect, if it has
one, or `eof`, and that only as the answer to the end of the body. -/
theorem answers_end_once (dialect : Dialect) (calls : List ReaderCall) :
    let reader : LineReader := ⟨dialect, false⟩
    let frames := (reader.answers calls).flatten
    frames.countP (·.kind = .ending) ≤ 1 ∧
    (∀ before f rest, frames = before ++ f :: rest → f.kind = .ending → rest = []) ∧
    ((reader.after calls).isFinished = true ↔ ∃ f ∈ frames, f.kind = .ending) ∧
    (.close ∈ calls → frames.countP (·.kind = .ending) = 1) ∧
    (∀ f ∈ frames, f.kind ≠ .ending → f.payload ≠ "") ∧
    (∀ f ∈ frames, f.kind = .marker → dialect = .anthropic) ∧
    (∀ f ∈ frames, f.kind = .ending → f.payload = "eof" ∨ dialect.endWord? = some f.payload) ∧
    (∀ p ∈ calls.zip (reader.answers calls), ∀ f ∈ p.2, f = .ending "eof" → p.1 = .close) := by
  intro reader frames
  have concludes : LineReader.Concludes frames (reader.after calls).isFinished :=
    LineReader.concludes_answers rfl calls
  have allowed : ∀ f ∈ frames, ∃ c, LineReader.Allows dialect c f :=
    fun f hf => LineReader.exists_allows hf
  refine ⟨?_, fun before f rest => concludes.eq_nil, concludes.isFinished_iff, fun hclose => ?_,
    fun f hf hkind => ?_, fun f hf hkind => ?_, fun f hf hkind => ?_, fun p hp f hf heof => ?_⟩
  · rw [concludes.countP_eq]
    exact Bool.toNat_le _
  · rw [concludes.countP_eq, LineReader.isFinished_of_close hclose, Bool.toNat_true]
  · obtain ⟨c, h⟩ := allowed f hf
    cases h with
    | content _ filled => exact filled
    | marker _ filled => exact filled
    | sentinel => exact absurd rfl hkind
    | eof => exact absurd rfl hkind
  · obtain ⟨c, h⟩ := allowed f hf
    cases h with
    | marker _ _ sole => exact sole
    | content => cases hkind
    | sentinel => cases hkind
    | eof => cases hkind
  · obtain ⟨c, h⟩ := allowed f hf
    cases h with
    | sentinel word own => exact .inr own
    | eof => exact .inl rfl
    | content => cases hkind
    | marker => cases hkind
  · cases LineReader.allows_answers calls p hp f hf with
    | eof closing => exact closing
    | content => cases heof
    | marker => cases heof
    | sentinel word own =>
      -- No dialect announces its end with the word for a body that just stops.
      obtain rfl : word = "eof" := congrArg Frame.payload heof
      cases dialect <;> simp [reader, Dialect.endWord?] at own

end GatewayProbe
