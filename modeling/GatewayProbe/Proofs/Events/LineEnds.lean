/-
The ends of lines do not matter.

A line arrives with the carriage returns before its line feed, and a sender may leave blanks after
a payload. Every dialect trims what it reads, so a line and the same line with blanks after it give
the same frames; in particular the carriage returns that a reader drops first are never missed.

* `Dialect.lineFrames` — the frames of a line, blank or not;
* `Dialect.lineFrames_append` — blanks after a line change nothing;
* `LineReader.read_eq` — what a reader that has not finished does with a line.
-/
import GatewayProbe.Events.Lines
import GatewayProbe.Proofs.Text.Trimming

namespace GatewayProbe

/-- The frames of a line. A blank line has none. -/
def Dialect.lineFrames (dialect : Dialect) (line : List Char) : List Frame :=
  if line.all Text.isBlank then [] else dialect.frames line

namespace EventLine

variable {line ws : List Char}

/-- A word without blanks at the front of a line is there before the blanks at its end. -/
theorem isPrefix_append_iff {word : List Char} (hword : ∀ c ∈ word, ¬ Text.isBlank c = true)
    (h : ∀ c ∈ ws, Text.isBlank c = true) : word <+: line ++ ws ↔ word <+: line := by
  refine ⟨fun hprefix => ?_, fun hprefix => hprefix.trans (List.prefix_append _ _)⟩
  rcases List.prefix_or_prefix_of_prefix hprefix (List.prefix_append line ws) with hle | ⟨rest, rfl⟩
  · exact hle
  · cases rest with
    | nil => simp
    | cons c rest =>
      -- The word would go on into the blanks.
      obtain ⟨tail, htail⟩ := (List.prefix_append_right_inj line).mp hprefix
      exact absurd (h c (by rw [← htail]; simp)) (hword c (by simp))

theorem after?_append {word : String} (hword : ∀ c ∈ word.toList, ¬ Text.isBlank c = true)
    (h : ∀ c ∈ ws, Text.isBlank c = true) :
    after? word (line ++ ws) = (after? word line).map (· ++ ws) := by
  rw [after?, after?]
  by_cases hprefix : word.toList <+: line
  · have hlength : word.length ≤ line.length := by
      rw [← String.length_toList]
      exact hprefix.length_le
    rw [if_pos (List.isPrefixOf_iff_prefix.mpr ((isPrefix_append_iff hword h).mpr hprefix)),
      if_pos (List.isPrefixOf_iff_prefix.mpr hprefix), Option.map_some,
      List.drop_append_of_le_length hlength]
  · have hprefix' : ¬ word.toList <+: line ++ ws := fun h' =>
      hprefix ((isPrefix_append_iff hword h).mp h')
    rw [if_neg (fun h' => hprefix' (List.isPrefixOf_iff_prefix.mp h')),
      if_neg (fun h' => hprefix (List.isPrefixOf_iff_prefix.mp h')), Option.map_none]

theorem data?_append (h : ∀ c ∈ ws, Text.isBlank c = true) : data? (line ++ ws) = data? line := by
  rw [data?, after?_append (List.any_eq_false.mp rfl) h, Option.map_map, data?]
  congr 1
  funext rest
  exact congrArg String.ofList (Text.trimChars_append_blank h)

end EventLine

/-- Blanks after a line that is not blank change nothing. -/
theorem Dialect.frames_append (dialect : Dialect) {line ws : List Char}
    (h : ∀ c ∈ ws, Text.isBlank c = true) : dialect.frames (line ++ ws) = dialect.frames line := by
  cases dialect with
  | openAi => rw [frames, EventLine.openAiFrames, EventLine.data?_append h, EventLine.openAiFrames]
  | anthropic =>
    rw [frames, EventLine.anthropicFrames, EventLine.data?_append h,
      EventLine.after?_append (List.any_eq_false.mp rfl) h, EventLine.anthropicFrames]
    cases EventLine.after? "event:" line with
    | none => rfl
    | some rest =>
      rw [Option.map_some]
      dsimp only
      rw [Text.nonBlank?_append h]
  | ollama =>
    rw [frames, EventLine.ollamaFrames, Text.trimChars_append_blank h, EventLine.ollamaFrames]

/-- Blanks after a line change nothing. -/
theorem Dialect.lineFrames_append (dialect : Dialect) {line ws : List Char}
    (h : ∀ c ∈ ws, Text.isBlank c = true) :
    dialect.lineFrames (line ++ ws) = dialect.lineFrames line := by
  rw [lineFrames, Text.all_isBlank_append h, dialect.frames_append h, lineFrames]

theorem Text.isBlank_of_return {c : Char} (h : decide (c = '\r') = true) :
    Text.isBlank c = true := by
  rw [of_decide_eq_true h]
  rfl

/-- The carriage returns at the end of a line do not count. -/
theorem Dialect.lineFrames_dropReturns (dialect : Dialect) (line : List Char) :
    dialect.lineFrames (Text.dropEndWhile (· = '\r') line) = dialect.lineFrames line := by
  obtain ⟨ws, hline, hws⟩ := Text.exists_dropEndWhile (· = '\r') line
  conv_rhs => rw [hline]
  exact (dialect.lineFrames_append fun c hc => Text.isBlank_of_return (hws c hc)).symm

/-- A reader that has not finished gives the frames of a line, and has finished if one of them is an
ending. -/
theorem LineReader.read_eq (dialect : Dialect) (line : String) :
    LineReader.read ⟨dialect, false⟩ line = (dialect.lineFrames line.toList,
      ⟨dialect, (dialect.lineFrames line.toList).any fun f => f.kind = .ending⟩) := by
  rw [← dialect.lineFrames_dropReturns, LineReader.read, Dialect.lineFrames]
  dsimp only
  split
  · next hblank =>
    rw [Bool.false_or] at hblank
    rw [if_pos hblank]
    rfl
  · next hblank =>
    rw [Bool.false_or] at hblank
    rw [if_neg hblank]

end GatewayProbe
