/-
A body is read whole or not at all.

A body arrives in chunks, is cut into lines while it arrives and may break off anywhere. Whether it
can be read depends on its bytes alone, up to the first line that ends the stream: with such a line
nothing after it counts, and without one everything must arrive and be text. Where a body can be
read, the events are those that reading its lines at leisure gives.

* `bodyLines`, `map_snd_timedLines` — the lines of the bytes, however they are cut into chunks;
* `framesFrom_texts`, `readLines_texts` — lines that do not end the stream are read one after the
  other, at leisure and as they arrive;
* `readLines_ending` — both readings agree up to the line that ends the stream;
* `capture_whole_or_not` — the whole account.
-/
import Mathlib.Data.List.DropRight
import GatewayProbe.Events.Body
import GatewayProbe.Proofs.Events.LineEnds
import GatewayProbe.Proofs.Text.Encoding

namespace GatewayProbe

/-! ### The lines of a body -/

namespace Reply

/-- The lines of the bytes of a body. What follows the last line feed is a line only where the body
is complete. -/
def bodyLines (ending : Ending) (bytes : List UInt8) : List (List UInt8) :=
  Text.splitLines 10 13 (if ending = .complete then bytes else bytes.rdropWhile (· ≠ 10))

/-- Bytes cut with their times give the lines that the bytes alone give. -/
theorem splitLinesFrom_eq (units : List (Nat × UInt8)) (current : List UInt8) :
    Text.splitLinesFrom 10 13 (units.map Prod.snd) current =
      (cutLines units current).1.map Prod.snd ++
        if (cutLines units current).2.isEmpty then [] else [(cutLines units current).2] := by
  induction units generalizing current with
  | nil =>
    rw [List.map_nil, Text.splitLinesFrom, cutLines, List.isEmpty_reverse, List.map_nil,
      List.nil_append]
  | cons unit units ih =>
    obtain ⟨offset, b⟩ := unit
    rw [List.map_cons, Text.splitLinesFrom, cutLines]
    by_cases hb : b = 10
    · rw [if_pos hb, if_pos hb, ih, List.map_cons, List.cons_append]
    · rw [if_neg hb, if_neg hb, ih]

/-- A byte at the end is a line feed, after which nothing follows, or only adds to what follows the
last one. -/
theorem cutLines_concat (units : List (Nat × UInt8)) (offset : Nat) (b : UInt8)
    (current : List UInt8) :
    (b = 10 → (cutLines (units ++ [(offset, b)]) current).2 = []) ∧
      (b ≠ 10 → (cutLines (units ++ [(offset, b)]) current).1 = (cutLines units current).1) := by
  induction units generalizing current with
  | nil =>
    rw [List.nil_append]
    constructor
    · intro hb
      rw [cutLines, if_pos hb]
      rfl
    · intro hb
      rw [cutLines, cutLines, if_neg hb, cutLines]
  | cons unit units ih =>
    obtain ⟨offset', b'⟩ := unit
    rw [List.cons_append, cutLines, cutLines]
    by_cases hb' : b' = 10
    · rw [if_pos hb', if_pos hb']
      exact ⟨(ih []).1, fun hb => congrArg (_ :: ·) ((ih []).2 hb)⟩
    · rw [if_neg hb', if_neg hb']
      exact ih _

/-- The bytes up to the last line feed give the lines that end with one. -/
theorem splitLines_rdropWhile (units : List (Nat × UInt8)) :
    Text.splitLines 10 13 ((units.map Prod.snd).rdropWhile (· ≠ 10)) =
      (cutLines units []).1.map Prod.snd := by
  -- The end decides what is dropped, so the induction takes bytes away from there.
  induction units using List.reverseRecOn with
  | nil => rfl
  | append_singleton units unit ih =>
    obtain ⟨offset, b⟩ := unit
    obtain ⟨closed, opened⟩ := cutLines_concat units offset b []
    by_cases hb : b = 10
    · rw [List.map_append, List.map_singleton, List.rdropWhile_concat_neg _ _ _ (by simp [hb]),
        Text.splitLines, ← List.map_singleton, ← List.map_append, splitLinesFrom_eq, closed hb]
      exact List.append_nil _
    · rw [List.map_append, List.map_singleton, List.rdropWhile_concat_pos _ _ _ (by simp [hb]), ih,
        opened hb]

theorem map_snd_timedBytes (r : Reply) : r.timedBytes.map Prod.snd = r.bytes := by
  simp [timedBytes, bytes, List.map_flatMap, Function.comp_def]

/-- The lines of a body are those of its bytes, whatever chunks they came in. -/
theorem map_snd_timedLines (r : Reply) :
    r.timedLines.map Prod.snd = bodyLines r.ending r.bytes := by
  rw [timedLines, bodyLines, ← map_snd_timedBytes]
  dsimp only
  cases r.ending with
  | complete =>
    rw [if_pos rfl, Text.splitLines, splitLinesFrom_eq]
    cases htail : (cutLines r.timedBytes []).2 <;> simp
  | broken | stalled => exact (splitLines_rdropWhile _).symm

end Reply

/-! ### Lines up to one that ends the stream -/

/-- A line ends the stream. -/
def Dialect.endsStream (dialect : Dialect) (line : String) : Bool :=
  (dialect.lineFrames line.toList).any fun f => f.kind = .ending

theorem Dialect.endsStream_eq_false_iff (dialect : Dialect) {line : String} :
    dialect.endsStream line = false ↔ ∀ f ∈ dialect.lineFrames line.toList, f.kind ≠ .ending := by
  rw [endsStream, List.any_eq_false]
  simp

theorem map_toFrame_arriving (frames : List Frame) (offset : Nat) :
    (frames.map (·.arriving offset)).map TimedFrame.toFrame = frames := by
  rw [List.map_map]
  exact List.map_id frames

section Reading

variable {dialect : Dialect}

theorem framesFrom_cons (last offset : Nat) (line : String) (rest : List (Nat × String)) :
    (framesFrom ⟨dialect, false⟩ last ((offset, line) :: rest)).1.map TimedFrame.toFrame =
      dialect.lineFrames line.toList ++
        if dialect.endsStream line then []
        else (framesFrom ⟨dialect, false⟩ offset rest).1.map TimedFrame.toFrame := by
  rw [framesFrom, LineReader.read_eq]
  dsimp only
  rw [← Dialect.endsStream]
  cases hends : dialect.endsStream line with
  | true => rw [if_pos rfl, if_pos rfl, map_toFrame_arriving, List.append_nil]
  | false =>
    rw [if_neg Bool.false_ne_true, if_neg Bool.false_ne_true, List.map_append,
      map_toFrame_arriving]

/-- A line that is text is read as it arrives just as it is at leisure. -/
theorem readLines_cons (dialect : Dialect) (offset : Nat) (line : String)
    (rest : List (Nat × List UInt8)) :
    ∃ events, events.map TimedFrame.toFrame = dialect.lineFrames line.toList ∧
      Reply.readLines ⟨dialect, false⟩ ((offset, Text.toUtf8 line) :: rest) =
        if dialect.endsStream line then .ok (events, some offset)
        else (Reply.readLines ⟨dialect, false⟩ rest).map fun (more, ending) =>
          (events ++ more, ending) := by
  refine ⟨_, map_toFrame_arriving _ offset, ?_⟩
  rw [Reply.readLines, Text.utf8?_toUtf8]
  dsimp only
  rw [LineReader.read_eq]
  dsimp only
  rw [← Dialect.endsStream]
  cases hends : dialect.endsStream line with
  | true => rw [if_pos rfl, if_pos rfl]
  | false => rfl

/-- Lines without an ending are read one after the other. -/
theorem framesFrom_append {body : List (Nat × String)}
    (silent : ∀ f ∈ body.flatMap (fun line => dialect.lineFrames line.2.toList), f.kind ≠ .ending)
    (rest : List (Nat × String)) (last : Nat) : ∃ last',
    (framesFrom ⟨dialect, false⟩ last (body ++ rest)).1.map TimedFrame.toFrame =
      body.flatMap (fun line => dialect.lineFrames line.2.toList) ++
        (framesFrom ⟨dialect, false⟩ last' rest).1.map TimedFrame.toFrame := by
  -- Each line gives its own time on, so the statement is about every time that may come before.
  induction body generalizing last with
  | nil => exact ⟨last, rfl⟩
  | cons line body ih =>
    obtain ⟨offset, line⟩ := line
    rw [List.flatMap_cons] at silent
    obtain ⟨last', hrest⟩ := ih (fun f hf => silent f (List.mem_append_right _ hf)) offset
    have hgoing : dialect.endsStream line = false :=
      dialect.endsStream_eq_false_iff.mpr fun f hf => silent f (List.mem_append_left _ hf)
    refine ⟨last', ?_⟩
    rw [List.cons_append, framesFrom_cons, hgoing, if_neg Bool.false_ne_true, hrest,
      List.flatMap_cons, List.append_assoc]

theorem framesFrom_texts {texts : List String}
    (going : ∀ text ∈ texts, dialect.endsStream text = false) {rest : List String}
    {offline : List (Nat × String)} (shape : offline.map Prod.snd = texts ++ rest) (start : Nat) :
    ∃ last left, left.map Prod.snd = rest ∧
      (framesFrom ⟨dialect, false⟩ start offline).1.map TimedFrame.toFrame =
        texts.flatMap (fun text => dialect.lineFrames text.toList) ++
          (framesFrom ⟨dialect, false⟩ last left).1.map TimedFrame.toFrame := by
  obtain ⟨body, left, rfl, rfl, rfl⟩ := List.map_eq_append_iff.mp shape
  have silent : ∀ f ∈ body.flatMap (fun line => dialect.lineFrames line.2.toList),
      f.kind ≠ .ending := by
    intro f hf
    obtain ⟨line, hline, hf⟩ := List.mem_flatMap.mp hf
    exact dialect.endsStream_eq_false_iff.mp (going _ (List.mem_map_of_mem hline)) f hf
  obtain ⟨last, hframes⟩ := framesFrom_append silent left start
  rw [List.flatMap_map]
  exact ⟨last, left, rfl, hframes⟩

/-- Lines of text that do not end the stream are read one after the other as they arrive. -/
theorem readLines_texts {texts : List String}
    (going : ∀ text ∈ texts, dialect.endsStream text = false) {rest : List (List UInt8)}
    {lines : List (Nat × List UInt8)}
    (shape : lines.map Prod.snd = texts.map Text.toUtf8 ++ rest) :
    ∃ events left, left.map Prod.snd = rest ∧
      events.map TimedFrame.toFrame =
        texts.flatMap (fun text => dialect.lineFrames text.toList) ∧
      Reply.readLines ⟨dialect, false⟩ lines =
        (Reply.readLines ⟨dialect, false⟩ left).map fun (more, ending) =>
          (events ++ more, ending) := by
  induction texts generalizing lines with
  | nil =>
    refine ⟨[], lines, shape, rfl, ?_⟩
    cases Reply.readLines ⟨dialect, false⟩ lines <;> rfl
  | cons text texts ih =>
    rw [List.forall_mem_cons] at going
    obtain ⟨⟨offset, bytes⟩, lines, rfl, rfl, htail⟩ := List.map_eq_cons_iff.mp shape
    obtain ⟨first, hfirst, hread⟩ := readLines_cons dialect offset text lines
    obtain ⟨events, left, hleft, hevents, hrest⟩ := ih going.2 htail
    refine ⟨first ++ events, left, hleft, ?_, ?_⟩
    · rw [List.map_append, hfirst, hevents, List.flatMap_cons]
    · rw [hread, going.1, if_neg Bool.false_ne_true, hrest]
      cases Reply.readLines ⟨dialect, false⟩ left with
      | error fault => rfl
      | ok result => simp only [Except.map, List.append_assoc]

/-- Of the lines up to one that ends the stream, the first that does. -/
theorem exists_first_ending (texts : List String) {last : String}
    (ends : dialect.endsStream last = true) :
    ∃ before line after, texts ++ [last] = before ++ line :: after ∧
      (∀ text ∈ before, dialect.endsStream text = false) ∧ dialect.endsStream line = true := by
  have hfound : ((texts ++ [last]).find? dialect.endsStream).isSome := by
    rw [List.find?_isSome]
    exact ⟨last, List.mem_append_right _ (List.mem_singleton_self last), ends⟩
  obtain ⟨line, hline⟩ := Option.isSome_iff_exists.mp hfound
  obtain ⟨hends, before, after, hsplit, hbefore⟩ := List.find?_eq_some_iff_append.mp hline
  exact ⟨before, line, after, hsplit, fun text htext => by simpa using hbefore text htext, hends⟩

/-- Both ways of reading stop at the first line that ends the stream, with the same frames. -/
theorem readLines_ending {texts : List String} {last : String}
    (ends : dialect.endsStream last = true) {after : List (List UInt8)}
    {lines : List (Nat × List UInt8)}
    (shape : lines.map Prod.snd = (texts ++ [last]).map Text.toUtf8 ++ after) :
    ∃ events total, Reply.readLines ⟨dialect, false⟩ lines = .ok (events, some total) ∧
      ∀ (start : Nat) (offline : List (Nat × String)),
        texts ++ [last] <+: offline.map Prod.snd →
        (framesFrom ⟨dialect, false⟩ start offline).1.map TimedFrame.toFrame =
          events.map TimedFrame.toFrame := by
  obtain ⟨before, line, more, hfirst, going, hends⟩ := exists_first_ending texts ends
  rw [hfirst, List.map_append, List.append_assoc, List.map_cons] at shape
  obtain ⟨events, left, hleft, hevents, hread⟩ := readLines_texts going shape
  obtain ⟨⟨offset, bytes⟩, left, rfl, rfl, -⟩ := List.map_eq_cons_iff.mp hleft
  obtain ⟨own, hown, hline⟩ := readLines_cons dialect offset line left
  rw [hline, hends, if_pos rfl] at hread
  refine ⟨events ++ own, offset, hread, fun start offline hstart => ?_⟩
  obtain ⟨rest, hrest⟩ := hstart
  rw [hfirst, List.append_assoc] at hrest
  obtain ⟨last', left', hleft', hframes⟩ := framesFrom_texts going hrest.symm start
  obtain ⟨⟨offset', line'⟩, left', rfl, rfl, -⟩ := List.map_eq_cons_iff.mp hleft'
  rw [hframes, framesFrom_cons, hends, if_pos rfl, List.append_nil, List.map_append, hevents, hown]

end Reading

/-! ### The fate of a body -/

/-- The events without their times. -/
def Capture.frames (c : Capture) : List Frame := c.events.map TimedFrame.toFrame

namespace Reply

variable (budget : Nat) {dialect : Dialect} {r : Reply} {texts : List String}

/-- A body with a line that ends the stream is read, whatever comes after that line. -/
theorem capture_ending {last : String} {after : List (List UInt8)}
    (shape : bodyLines r.ending r.bytes = (texts ++ [last]).map Text.toUtf8 ++ after)
    (ends : dialect.endsStream last = true) :
    ∃ c, r.capture budget dialect = .ok c ∧ ∀ offline : List (Nat × String),
      texts ++ [last] <+: offline.map Prod.snd →
      c.frames = (Capture.ofLines dialect offline).frames := by
  rw [← map_snd_timedLines] at shape
  obtain ⟨events, total, hread, hagree⟩ := readLines_ending ends shape
  refine ⟨⟨dialect, events, total⟩, ?_, fun offline hstart => ?_⟩
  · rw [capture, captureFault, hread]
    rfl
  · exact (hagree 0 offline hstart).symm

/-- A body is refused for a line that is not text and comes before any ending. -/
theorem capture_notText {bad : List UInt8} {after : List (List UInt8)}
    (shape : bodyLines r.ending r.bytes = texts.map Text.toUtf8 ++ bad :: after)
    (going : ∀ text ∈ texts, dialect.endsStream text = false)
    (other : ∀ text, bad ≠ Text.toUtf8 text) :
    ∃ reason, r.capture budget dialect = .error (.invalidResponse reason) := by
  rw [← map_snd_timedLines] at shape
  obtain ⟨events, left, hleft, -, hread⟩ := readLines_texts going shape
  obtain ⟨⟨offset, bytes⟩, left, rfl, rfl, -⟩ := List.map_eq_cons_iff.mp hleft
  have hbad : readLines ⟨dialect, false⟩ ((offset, bytes) :: left) = .error .notText := by
    rw [readLines, Text.utf8?_eq_none other]
  refine ⟨faultReason .notText, ?_⟩
  rw [capture, captureFault, hread, hbad]
  rfl

/-- Where no line ends the stream, how the body ends decides. -/
theorem capture_going (shape : bodyLines r.ending r.bytes = texts.map Text.toUtf8)
    (going : ∀ text ∈ texts, dialect.endsStream text = false) :
    match r.ending with
    | .complete => ∃ c, r.capture budget dialect = .ok c ∧
      (∃ frames, c.frames = frames ++ [.ending "eof"]) ∧
      ∀ offline : List (Nat × String), offline.map Prod.snd = texts →
        c.frames = (Capture.ofLines dialect offline).frames
    | .broken => ∃ reason, r.capture budget dialect = .error (.network reason)
    | .stalled => r.capture budget dialect = .error (.timeout budget) := by
  rw [← map_snd_timedLines, ← List.append_nil (texts.map Text.toUtf8)] at shape
  obtain ⟨events, left, hleft, hevents, hread⟩ := readLines_texts going shape
  obtain rfl := List.map_eq_nil_iff.mp hleft
  cases hending : r.ending with
  | complete =>
    have hframes : (events ++ [(Frame.ending "eof").arriving r.endOffset]).map
        TimedFrame.toFrame = texts.flatMap (fun text => dialect.lineFrames text.toList) ++
          [.ending "eof"] := by
      rw [List.map_append, hevents]
      rfl
    refine ⟨⟨dialect, events ++ [(Frame.ending "eof").arriving r.endOffset], r.endOffset⟩, ?_,
      ⟨_, hframes⟩, fun offline hoffline => ?_⟩
    · rw [capture, captureFault, hread, hending]
      simp [readLines, Except.map, Except.mapError]
    · rw [← List.append_nil texts] at hoffline
      obtain ⟨last, left, hleft, hagree⟩ := framesFrom_texts going hoffline 0
      obtain rfl := List.map_eq_nil_iff.mp hleft
      exact hframes.trans hagree.symm
  | broken =>
    refine ⟨faultReason .other, ?_⟩
    rw [capture, captureFault, hread, hending]
    rfl
  | stalled =>
    rw [capture, captureFault, hread, hending]
    rfl

/-- Lines are text up to one that ends the stream, or up to one that is not text, or to the end. -/
theorem lines_cases (dialect : Dialect) (lines : List (List UInt8)) :
    (∃ (texts : List String) (last : String) (after : List (List UInt8)),
      lines = (texts ++ [last]).map Text.toUtf8 ++ after ∧ dialect.endsStream last = true) ∨
    (∃ texts : List String, (∀ text ∈ texts, dialect.endsStream text = false) ∧
      (lines = texts.map Text.toUtf8 ∨ ∃ bad after,
        lines = texts.map Text.toUtf8 ++ bad :: after ∧ ∀ text, bad ≠ Text.toUtf8 text)) := by
  induction lines with
  | nil => exact .inr ⟨[], by simp, .inl rfl⟩
  | cons line lines ih =>
    by_cases hline : ∃ text, line = Text.toUtf8 text
    · obtain ⟨text, rfl⟩ := hline
      cases hends : dialect.endsStream text with
      | true => exact .inl ⟨[], text, lines, rfl, hends⟩
      | false =>
        rcases ih with ⟨texts, last, after, rfl, hlast⟩ | ⟨texts, going, hrest⟩
        · exact .inl ⟨text :: texts, last, after, rfl, hlast⟩
        · refine .inr ⟨text :: texts, List.forall_mem_cons.mpr ⟨hends, going⟩, ?_⟩
          rcases hrest with rfl | ⟨bad, after, rfl, other⟩
          · exact .inl rfl
          · exact .inr ⟨bad, after, rfl, other⟩
    · exact .inr ⟨[], by simp, .inr ⟨line, lines, rfl, fun text h => hline ⟨text, h⟩⟩⟩

/-- Exactly those bodies are read that end the stream before any fault, or are complete and all
text. -/
theorem exists_capture_iff : (∃ c, r.capture budget dialect = .ok c) ↔
    (∃ (texts : List String) (last : String) (after : List (List UInt8)),
      bodyLines r.ending r.bytes = (texts ++ [last]).map Text.toUtf8 ++ after ∧
        dialect.endsStream last = true) ∨
    (r.ending = .complete ∧
      ∃ texts : List String, bodyLines r.ending r.bytes = texts.map Text.toUtf8) := by
  constructor
  · rintro ⟨c, hc⟩
    rcases lines_cases dialect (bodyLines r.ending r.bytes) with
      hends | ⟨texts, going, hall | ⟨bad, after, hbad, other⟩⟩
    · exact .inl hends
    · have hgoing := capture_going budget hall going
      cases hending : r.ending with
      | complete => exact .inr ⟨rfl, texts, hending ▸ hall⟩
      | broken =>
        rw [hending] at hgoing
        obtain ⟨reason, herror⟩ := hgoing
        rw [hc] at herror
        cases herror
      | stalled =>
        rw [hending, hc] at hgoing
        cases hgoing
    · obtain ⟨reason, herror⟩ := capture_notText budget hbad going other
      rw [hc] at herror
      cases herror
  · rintro (⟨texts, last, after, shape, ends⟩ | ⟨hcomplete, texts, hall⟩)
    · obtain ⟨c, hc, -⟩ := capture_ending budget shape ends
      exact ⟨c, hc⟩
    · by_cases hends : ∃ last ∈ texts, dialect.endsStream last = true
      · obtain ⟨last, hlast, ends⟩ := hends
        obtain ⟨before, after, rfl⟩ := List.append_of_mem hlast
        have shape : bodyLines r.ending r.bytes =
            (before ++ [last]).map Text.toUtf8 ++ after.map Text.toUtf8 := by
          rw [hall, ← List.map_append, List.append_assoc, List.singleton_append]
        obtain ⟨c, hc, -⟩ := capture_ending budget shape ends
        exact ⟨c, hc⟩
      · have hgoing := capture_going budget hall
          fun text htext => Bool.eq_false_iff.mpr fun h => hends ⟨text, htext, h⟩
        rw [hcomplete] at hgoing
        obtain ⟨c, hc, -⟩ := hgoing
        exact ⟨c, hc⟩

/-- **A body is read whole or not at all.** Its lines are those of its bytes, however they are cut
into chunks. Where lines of text lead up to one that ends the stream, the events are those of the
lines read at leisure, whatever comes after. Where no such line comes first, a line that is not text
is an invalid response, and a body that breaks off or stalls is an error of its own; one that is
complete is read, with an ending of its own. -/
theorem capture_whole_or_not (budget : Nat) (dialect : Dialect) (r : Reply) :
    let lines := bodyLines r.ending r.bytes
    (∀ (texts : List String) (last : String) (after : List (List UInt8)),
      lines = (texts ++ [last]).map Text.toUtf8 ++ after → dialect.endsStream last = true →
      ∃ c, r.capture budget dialect = .ok c ∧ ∀ offline : List (Nat × String),
        texts ++ [last] <+: offline.map Prod.snd →
        c.frames = (Capture.ofLines dialect offline).frames) ∧
    (∀ (texts : List String) (bad : List UInt8) (after : List (List UInt8)),
      lines = texts.map Text.toUtf8 ++ bad :: after →
      (∀ text ∈ texts, dialect.endsStream text = false) → (∀ text, bad ≠ Text.toUtf8 text) →
      ∃ reason, r.capture budget dialect = .error (.invalidResponse reason)) ∧
    (∀ texts : List String, lines = texts.map Text.toUtf8 →
      (∀ text ∈ texts, dialect.endsStream text = false) →
      match r.ending with
      | .complete => ∃ c, r.capture budget dialect = .ok c ∧
        (∃ frames, c.frames = frames ++ [.ending "eof"]) ∧
        ∀ offline : List (Nat × String), offline.map Prod.snd = texts →
          c.frames = (Capture.ofLines dialect offline).frames
      | .broken => ∃ reason, r.capture budget dialect = .error (.network reason)
      | .stalled => r.capture budget dialect = .error (.timeout budget)) ∧
    ((∃ c, r.capture budget dialect = .ok c) ↔
      (∃ (texts : List String) (last : String) (after : List (List UInt8)),
        lines = (texts ++ [last]).map Text.toUtf8 ++ after ∧ dialect.endsStream last = true) ∨
      (r.ending = .complete ∧ ∃ texts : List String, lines = texts.map Text.toUtf8)) := by
  refine ⟨fun texts last after shape ends => capture_ending budget shape ends,
    fun texts bad after shape going other => capture_notText budget shape going other,
    fun texts shape going => capture_going budget shape going, exists_capture_iff budget⟩

/-- A connection that breaks after bytes that are not text, just behind a line that ends the stream
and just before its line feed. -/
example :
    let reply (bytes : List UInt8) : Reply :=
      ⟨200, [], [⟨1, Text.toUtf8 "data: [DO"⟩, ⟨2, Text.toUtf8 "NE]"⟩, ⟨3, bytes⟩], .broken, 0, 4⟩
    (reply [13, 10, 0xFF]).capture 5 .openAi = .ok ⟨.openAi, [⟨.ending "[DONE]", 3⟩], 3⟩ ∧
      (reply [13, 0xFF]).capture 5 .openAi = .error (.network "the connection broke") := by
  decide +kernel

end Reply

end GatewayProbe
