/-
When the events of a stream arrive.

Lines carry the times at which they were complete, and the events of a line have the time of that
line. Reading stops with the first line that ends the stream, or else closes the body at the time of
the last line, so the ending is last and the whole takes as long as it takes for the ending to
arrive:

* `Dialect.stamped`, `Dialect.GoesOn` — the events of one line, and the lines that do not end a
  stream;
* `ofLines_ended`, `ofLines_closed` — what is read of lines with an ending, and of lines without;
* `exists_read` — in both cases, which lines the events are from and how long they took;
* `pairwise_stamped`, `offset_le_lastOffset` — lines in the order of their times;
* `ofLines_offsets` — the whole account.
-/
import GatewayProbe.Events.Body
import GatewayProbe.Proofs.Events.LineEnds
import GatewayProbe.Proofs.Events.Reader

namespace GatewayProbe

/-! ### The events of one line -/

/-- What a line gives to a reader that has not finished, at the time of the line. -/
def Dialect.stamped (dialect : Dialect) (line : Nat × String) : List TimedFrame :=
  (LineReader.read ⟨dialect, false⟩ line.2).1.map (·.arriving line.1)

/-- The stream goes on after a line: none of its events is an ending. -/
def Dialect.GoesOn (dialect : Dialect) (line : Nat × String) : Prop :=
  ∀ e ∈ dialect.stamped line, e.kind ≠ .ending

/-- The time of the last line, or zero where there is none. -/
def lastOffset (lines : List (Nat × String)) : Nat := (lines.getLast?.map Prod.fst).getD 0

section Lines

variable {dialect : Dialect} {line : Nat × String}

theorem offset_of_mem_stamped {e : TimedFrame} (h : e ∈ dialect.stamped line) :
    e.offset = line.1 := by
  obtain ⟨f, -, rfl⟩ := List.mem_map.mp h
  rfl

/-- The stream goes on after a line exactly if the reader has not finished with it. -/
theorem goesOn_iff : dialect.GoesOn line ↔
    (LineReader.read ⟨dialect, false⟩ line.2).2 = ⟨dialect, false⟩ := by
  rw [Dialect.GoesOn, Dialect.stamped, LineReader.read_eq, List.forall_mem_map]
  simp [Frame.arriving]

theorem framesFrom_of_goesOn (h : dialect.GoesOn line) (start : Nat) (rest : List (Nat × String)) :
    framesFrom ⟨dialect, false⟩ start (line :: rest) =
      (dialect.stamped line ++ (framesFrom ⟨dialect, false⟩ line.1 rest).1,
        (framesFrom ⟨dialect, false⟩ line.1 rest).2) := by
  rw [framesFrom]
  dsimp only
  rw [goesOn_iff.mp h]
  rfl

/-- The frames of a line that ends the stream have the ending as their last, and no other. -/
theorem concludes_of_not_goesOn (h : ¬ dialect.GoesOn line) :
    (LineReader.read ⟨dialect, false⟩ line.2).2.isFinished = true ∧
      ∃ texts word, (LineReader.read ⟨dialect, false⟩ line.2).1 = texts ++ [.ending word] ∧
        ∀ f ∈ texts, f.kind ≠ .ending := by
  have hstep := LineReader.step_answer (d := ⟨dialect, false⟩) rfl (.line line.2)
  cases hstep.concludes with
  | running going silent =>
    refine absurd (fun e he => ?_) h
    obtain ⟨f, hf, rfl⟩ := List.mem_map.mp he
    exact silent f hf
  | finished done texts word shape silent => exact ⟨done, texts, word, shape, silent⟩

theorem framesFrom_of_not_goesOn (h : ¬ dialect.GoesOn line) (start : Nat)
    (rest : List (Nat × String)) :
    framesFrom ⟨dialect, false⟩ start (line :: rest) = (dialect.stamped line, line.1) := by
  rw [framesFrom]
  dsimp only
  rw [(concludes_of_not_goesOn h).1, if_pos rfl]
  rfl

end Lines

/-! ### All lines -/

section Reading

variable {dialect : Dialect} {lines before after : List (Nat × String)} {last : Nat × String}

theorem framesFrom_ended (going : ∀ line ∈ before, dialect.GoesOn line)
    (stopping : ¬ dialect.GoesOn last) (start : Nat) (after : List (Nat × String)) :
    framesFrom ⟨dialect, false⟩ start (before ++ last :: after) =
      ((before ++ [last]).flatMap dialect.stamped, last.1) := by
  induction before generalizing start with
  | nil =>
    rw [List.nil_append, framesFrom_of_not_goesOn stopping, List.nil_append, List.flatMap_singleton]
  | cons line before ih =>
    obtain ⟨hline, hbefore⟩ := List.forall_mem_cons.mp going
    rw [List.cons_append, framesFrom_of_goesOn hline, ih hbefore, List.cons_append,
      List.flatMap_cons]

/-- Lines up to one that ends the stream are read, and those after it are not. -/
theorem ofLines_ended (going : ∀ line ∈ before, dialect.GoesOn line)
    (stopping : ¬ dialect.GoesOn last) (after : List (Nat × String)) :
    Capture.ofLines dialect (before ++ last :: after) =
      ⟨dialect, (before ++ [last]).flatMap dialect.stamped, last.1⟩ := by
  rw [Capture.ofLines, framesFrom_ended going stopping]

theorem framesFrom_closed (going : ∀ line ∈ lines, dialect.GoesOn line) (start : Nat) :
    framesFrom ⟨dialect, false⟩ start lines =
      (lines.flatMap dialect.stamped ++
        [(Frame.ending "eof").arriving ((lines.getLast?.map Prod.fst).getD start)],
        (lines.getLast?.map Prod.fst).getD start) := by
  -- Each line hands its own time on, so the statement is about every time that may come before.
  induction lines generalizing start with
  | nil => rfl
  | cons line lines ih =>
    obtain ⟨hline, hlines⟩ := List.forall_mem_cons.mp going
    have hlast : ((line :: lines).getLast?.map Prod.fst).getD start =
        (lines.getLast?.map Prod.fst).getD line.1 := by
      rw [List.getLast?_cons, Option.map_some, Option.getD_some, Option.getD_map]
    rw [framesFrom_of_goesOn hline, ih hlines, hlast, List.flatMap_cons, List.append_assoc]

/-- Lines that do not end the stream are all read, and the body is closed after them. -/
theorem ofLines_closed (going : ∀ line ∈ lines, dialect.GoesOn line) :
    Capture.ofLines dialect lines = ⟨dialect, lines.flatMap dialect.stamped ++
      [(Frame.ending "eof").arriving (lastOffset lines)], lastOffset lines⟩ := by
  rw [Capture.ofLines, framesFrom_closed going]
  rfl

theorem exists_stopping_or_going (dialect : Dialect) (lines : List (Nat × String)) :
    (∃ before last after, lines = before ++ last :: after ∧
      (∀ line ∈ before, dialect.GoesOn line) ∧ ¬ dialect.GoesOn last) ∨
    ∀ line ∈ lines, dialect.GoesOn line := by
  induction lines with
  | nil => exact .inr fun line h => by cases h
  | cons line lines ih =>
    by_cases hline : dialect.GoesOn line
    · rcases ih with ⟨before, last, after, rfl, hbefore, hlast⟩ | hlines
      · exact .inl ⟨line :: before, last, after, rfl, List.forall_mem_cons.mpr ⟨hline, hbefore⟩,
          hlast⟩
      · exact .inr (List.forall_mem_cons.mpr ⟨hline, hlines⟩)
    · exact .inl ⟨[], line, lines, rfl, by simp, hline⟩

theorem lastOffset_append (before : List (Nat × String)) (last : Nat × String) :
    lastOffset (before ++ [last]) = last.1 := by
  rw [lastOffset, List.getLast?_append, List.getLast?_singleton]
  rfl

/-- The events are those of the lines that were read, and an ending after them where none of the
lines has one. -/
theorem exists_read (dialect : Dialect) (lines : List (Nat × String)) :
    ∃ read tail, read <+: lines ∧
      Capture.ofLines dialect lines =
        ⟨dialect, read.flatMap dialect.stamped ++ tail, lastOffset read⟩ ∧
      ∀ e ∈ tail, e.offset = lastOffset read := by
  rcases exists_stopping_or_going dialect lines with
    ⟨before, last, after, rfl, going, stopping⟩ | going
  · refine ⟨before ++ [last], [], ⟨after, ?_⟩, ?_, by simp⟩
    · rw [List.append_assoc, List.singleton_append]
    · rw [ofLines_ended going stopping, List.append_nil, lastOffset_append]
  · refine ⟨lines, _, List.prefix_refl lines, ofLines_closed going, ?_⟩
    exact List.forall_mem_singleton.mpr rfl

end Reading

/-! ### Lines in the order of their times -/

section Ordered

variable {dialect : Dialect} {lines : List (Nat × String)}

theorem pairwise_stamped (sorted : lines.Pairwise fun a b => a.1 ≤ b.1) :
    (lines.flatMap dialect.stamped).Pairwise fun e f => e.offset ≤ f.offset := by
  refine List.pairwise_flatMap.mpr ⟨fun line _ => ?_, sorted.imp fun hle e he f hf => ?_⟩
  · refine List.pairwise_of_forall_mem_list fun e he f hf => ?_
    rw [offset_of_mem_stamped he, offset_of_mem_stamped hf]
  · rwa [offset_of_mem_stamped he, offset_of_mem_stamped hf]

theorem le_lastOffset (sorted : lines.Pairwise fun a b => a.1 ≤ b.1) {line : Nat × String}
    (h : line ∈ lines) : line.1 ≤ lastOffset lines := by
  rcases lines.eq_nil_or_concat' with rfl | ⟨before, last, rfl⟩
  · cases h
  · rw [lastOffset_append]
    rcases List.mem_append.mp h with h | h
    · exact (List.pairwise_append.mp sorted).2.2 line h last (List.mem_singleton_self last)
    · rw [List.mem_singleton.mp h]

theorem offset_le_lastOffset (sorted : lines.Pairwise fun a b => a.1 ≤ b.1) {e : TimedFrame}
    (h : e ∈ lines.flatMap dialect.stamped) : e.offset ≤ lastOffset lines := by
  obtain ⟨line, hline, he⟩ := List.mem_flatMap.mp h
  rw [offset_of_mem_stamped he]
  exact le_lastOffset sorted hline

theorem head?_eq_min? {xs : List Nat} (sorted : xs.Pairwise (· ≤ ·)) : xs.head? = xs.min? := by
  cases xs with
  | nil => rfl
  | cons x xs =>
    refine (List.min?_eq_some_iff.mpr ⟨List.mem_cons_self, fun y hy => ?_⟩).symm
    rcases List.mem_cons.mp hy with rfl | hy
    · exact le_refl y
    · exact (List.pairwise_cons.mp sorted).1 y hy

end Ordered

/-- The events end with an ending, at the time that is the time of the whole, and it is the only
one. -/
theorem ofLines_ending (dialect : Dialect) (lines : List (Nat × String)) :
    ∃ texts word, (Capture.ofLines dialect lines).events =
        texts ++ [(Frame.ending word).arriving (Capture.ofLines dialect lines).total] ∧
      ∀ e ∈ texts, e.kind ≠ .ending := by
  have silent {lines : List (Nat × String)} (going : ∀ line ∈ lines, dialect.GoesOn line) :
      ∀ e ∈ lines.flatMap dialect.stamped, e.kind ≠ .ending := by
    intro e he
    obtain ⟨line, hline, he⟩ := List.mem_flatMap.mp he
    exact going line hline e he
  rcases exists_stopping_or_going dialect lines with
    ⟨before, last, after, rfl, going, stopping⟩ | going
  · obtain ⟨-, texts, word, shape, htexts⟩ := concludes_of_not_goesOn stopping
    refine ⟨before.flatMap dialect.stamped ++ texts.map (·.arriving last.1), word, ?_, ?_⟩
    · rw [ofLines_ended going stopping, List.flatMap_append, List.flatMap_singleton,
        Dialect.stamped.eq_1 dialect last, shape, List.map_append, List.append_assoc]
      rfl
    · intro e he
      rcases List.mem_append.mp he with he | he
      · exact silent going e he
      · obtain ⟨f, hf, rfl⟩ := List.mem_map.mp he
        exact htexts f hf
  · exact ⟨_, "eof", by rw [ofLines_closed going], silent going⟩

/-- **Events have the times of their lines.** What is read is the events of all lines up to the
first that ends the stream, each at the time of its line, and lines after that one do not count.
Where there is none, an ending is added at the time of the last line. Either way the one ending is
the last event, and its time is that of the whole. Lines in the order of their times give events in
the order of theirs, none of them later than the ending, and the first text is the earliest. -/
theorem ofLines_offsets (dialect : Dialect) (lines : List (Nat × String)) :
    let c := Capture.ofLines dialect lines
    (∀ before last after, lines = before ++ last :: after →
      (∀ line ∈ before, dialect.GoesOn line) → ¬ dialect.GoesOn last →
      c.events = (before ++ [last]).flatMap dialect.stamped ∧ c.total = last.1 ∧
        ∀ others, Capture.ofLines dialect (before ++ last :: others) = c) ∧
    ((∀ line ∈ lines, dialect.GoesOn line) →
      c.events = lines.flatMap dialect.stamped ++ [(Frame.ending "eof").arriving c.total] ∧
        c.total = lastOffset lines) ∧
    (∃ texts word, c.events = texts ++ [(Frame.ending word).arriving c.total] ∧
      ∀ e ∈ texts, e.kind ≠ .ending) ∧
    (lines.Pairwise (fun a b => a.1 ≤ b.1) →
      c.events.Pairwise (fun e f => e.offset ≤ f.offset) ∧
        (∀ e ∈ c.events, e.offset ≤ c.total) ∧
        c.firstContent? = (c.contents.map TimedFrame.offset).min?) := by
  intro c
  refine ⟨?_, fun going => ?_, ofLines_ending dialect lines, fun sorted => ?_⟩
  · rintro before last after rfl going stopping
    have hc : c = _ := ofLines_ended going stopping after
    refine ⟨by rw [hc], by rw [hc], fun others => ?_⟩
    rw [hc, ofLines_ended going stopping others]
  · have hc : c = _ := ofLines_closed going
    rw [hc]
    exact ⟨rfl, rfl⟩
  · obtain ⟨read, tail, hprefix, hc, htail⟩ := exists_read dialect lines
    have hc : c = _ := hc
    have hread : read.Pairwise fun a b => a.1 ≤ b.1 := sorted.sublist hprefix.sublist
    have hbound : ∀ e ∈ c.events, e.offset ≤ c.total := by
      rw [hc]
      intro e he
      rcases List.mem_append.mp he with he | he
      · exact offset_le_lastOffset hread he
      · exact (htail e he).le
    have hevents : c.events.Pairwise fun e f => e.offset ≤ f.offset := by
      rw [hc]
      refine List.pairwise_append.mpr ⟨pairwise_stamped hread, ?_, fun e he f hf => ?_⟩
      · refine List.pairwise_of_forall_mem_list fun e he f hf => ?_
        rw [htail e he, htail f hf]
      · rw [htail f hf]
        exact offset_le_lastOffset hread he
    refine ⟨hevents, hbound, ?_⟩
    rw [Capture.firstContent?, ← List.head?_map]
    exact head?_eq_min? (List.pairwise_map.mpr (hevents.sublist List.filter_sublist))

end GatewayProbe
