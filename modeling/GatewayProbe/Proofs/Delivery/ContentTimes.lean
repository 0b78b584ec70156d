/-
A delivery is told by the times of its texts.

Runs come to their verdicts in different ways: some hand all events on, one takes the arrivals first
and draws the smoothness from them. All of them look at the times of the texts and at nothing else.
So the ways agree on every capture, and events that carry no text may come and go, and texts may be
others, without another verdict:

* `contentOffsets`, `Delivery.ofEvents_eq` — what a verdict is drawn from;
* `Retouch`, `Retouch.contentOffsets_eq` — one change that leaves it alone;
* `Evidence.form_eq_singleChunk_iff`, `Evidence.smoothness_eq_singleChunk_iff` — both answers say of
  the same deliveries that they are too few pieces, whatever the other numbers are;
* `measureAnswer_captured` — what a run over questions makes of a capture;
* `deliveries_agree` — the ways agree.
-/
import Mathlib.Logic.Relation
import GatewayProbe.Proofs.Delivery.Few
import GatewayProbe.Run.Answers

namespace GatewayProbe

/-! ### The times of texts -/

/-- The times at which text arrived, among some events. -/
def contentOffsets (events : List TimedFrame) : List Nat :=
  (events.filter fun e => e.kind = .content).map TimedFrame.offset

@[simp] theorem contentOffsets_append (es fs : List TimedFrame) :
    contentOffsets (es ++ fs) = contentOffsets es ++ contentOffsets fs := by
  rw [contentOffsets, List.filter_append, List.map_append]
  rfl

theorem contentOffsets_mute {e : TimedFrame} (mute : e.kind ≠ .content) (es : List TimedFrame) :
    contentOffsets (e :: es) = contentOffsets es := by
  rw [contentOffsets, List.filter_cons_of_neg (by simpa using mute)]
  rfl

theorem contentOffsets_reworded (e : TimedFrame) (payload : String) (es : List TimedFrame) :
    contentOffsets ({ e with payload } :: es) = contentOffsets (e :: es) := by
  rw [contentOffsets, contentOffsets, List.filter_cons, List.filter_cons]
  split <;> rfl

theorem Delivery.ofEvents_eq (t : Thresholds) (events : List TimedFrame) :
    ofEvents t events = ofArrivals t ((contentOffsets events).map seconds) := by
  rw [ofEvents, contentOffsets, List.map_map]
  rfl

/-! ### Changes that do not count -/

/-- One change to a list of events: an event that carries no text is put in, taken out or moved to
another place, or the payload of any event is replaced. -/
inductive Retouch : List TimedFrame → List TimedFrame → Prop
  | insert (before after : List TimedFrame) (e : TimedFrame) (mute : e.kind ≠ .content) :
      Retouch (before ++ after) (before ++ e :: after)
  | remove (before after : List TimedFrame) (e : TimedFrame) (mute : e.kind ≠ .content) :
      Retouch (before ++ e :: after) (before ++ after)
  | move (before after before' after' : List TimedFrame) (e : TimedFrame)
      (mute : e.kind ≠ .content) (others : before ++ after = before' ++ after') :
      Retouch (before ++ e :: after) (before' ++ e :: after')
  | reword (before after : List TimedFrame) (e : TimedFrame) (payload : String) :
      Retouch (before ++ e :: after) (before ++ { e with payload } :: after)

theorem Retouch.contentOffsets_eq {es fs : List TimedFrame} (h : Retouch es fs) :
    contentOffsets es = contentOffsets fs := by
  cases h with
  | insert before after e mute =>
    rw [contentOffsets_append, contentOffsets_append, contentOffsets_mute mute]
  | remove before after e mute =>
    rw [contentOffsets_append, contentOffsets_append, contentOffsets_mute mute]
  | move before after before' after' e mute others =>
    rw [contentOffsets_append, contentOffsets_append, contentOffsets_mute mute,
      contentOffsets_mute mute, ← contentOffsets_append, others, contentOffsets_append]
  | reword before after e payload =>
    rw [contentOffsets_append, contentOffsets_append, contentOffsets_reworded e payload]

/-- Any number of changes leave the times of the texts as they are. -/
theorem contentOffsets_retouched {es fs : List TimedFrame}
    (h : Relation.ReflTransGen Retouch es fs) : contentOffsets es = contentOffsets fs := by
  induction h with
  | refl => rfl
  | tail _ hlast ih => exact ih.trans hlast.contentOffsets_eq

/-! ### Too few pieces -/

namespace Evidence

theorem form_eq_singleChunk_iff (e : Evidence) (t : Thresholds) :
    e.form t = .singleChunk ↔ e.count < t.minChunks := by
  by_cases hfew : e.count < t.minChunks
  · rw [form, if_pos hfew]
    exact iff_of_true rfl hfew
  · -- No other branch gives this answer, however the delays compare.
    rw [form, if_neg hfew]
    refine iff_of_false ?_ hfew
    repeat' split
    all_goals decide

theorem smoothness_eq_singleChunk_iff (e : Evidence) (t : Thresholds) :
    e.smoothness t = .singleChunk ↔ e.count < t.minChunks := by
  by_cases hfew : e.count < t.minChunks
  · rw [smoothness, if_pos hfew]
    exact iff_of_true rfl hfew
  · rw [smoothness, if_neg hfew]
    refine iff_of_false ?_ hfew
    repeat' split
    all_goals decide

end Evidence

/-! ### A run over questions -/

/-- What a run over questions makes of a capture. -/
theorem measureAnswer_captured {setup : Setup} {reply : Reply} {c : Capture}
    (succeeded : reply.head.succeeded = true)
    (captured : reply.capture setup.client.budget .openAi = .ok c) (question : String) :
    let s := measureAnswer setup question reply
    s.evidence = .ofArrivals c.arrivals ∧
      s.quality = (Evidence.ofArrivals c.arrivals).smoothness setup.settings.timing ∧
      s.chunks = c.pieceCount := by
  rw [measureAnswer, captured, if_neg (by simp [succeeded])]
  exact ⟨rfl, rfl, rfl⟩

/-- **The ways to tell a delivery agree.** All events and the arrivals alone give one verdict; its
numbers and its smoothness are those that a run over questions finds in the same capture, and its
count is that of the pieces of text. Events without text, wherever they stand, and the payloads of
all events do not count. Both answers say of the same deliveries that there are too few pieces, and
the count alone decides that, whatever the times are. -/
theorem deliveries_agree (t : Thresholds) (c : Capture) :
    let v := Delivery.ofEvents t c.events
    v = Delivery.ofArrivals t c.arrivals ∧
    v.evidence = Evidence.ofArrivals c.arrivals ∧
    v.quality = (Evidence.ofArrivals c.arrivals).smoothness t ∧
    (∀ (setup : Setup) (question : String) (reply : Reply), setup.settings.timing = t →
      reply.head.succeeded = true → reply.capture setup.client.budget .openAi = .ok c →
      let s := measureAnswer setup question reply
      s.evidence = v.evidence ∧ s.quality = v.quality ∧ s.chunks = v.evidence.count) ∧
    v.evidence.count = c.pieceCount ∧
    (∀ events, Relation.ReflTransGen Retouch c.events events → Delivery.ofEvents t events = v) ∧
    ∀ e : Evidence, (e.form t = .singleChunk ↔ e.smoothness t = .singleChunk) ∧
      (e.smoothness t = .singleChunk ↔ e.count < t.minChunks) := by
  intro v
  have harrivals : v = Delivery.ofArrivals t c.arrivals := rfl
  have hcount : v.evidence.count = c.pieceCount := by
    show (Evidence.ofArrivals c.arrivals).count = _
    rw [Evidence.count_ofArrivals, Capture.arrivals, List.length_map, Capture.pieceCount]
  refine ⟨harrivals, rfl, rfl, ?_, hcount, fun events h => ?_, fun e => ?_⟩
  · rintro setup question reply rfl succeeded captured
    obtain ⟨hevidence, hquality, hchunks⟩ := measureAnswer_captured succeeded captured question
    exact ⟨hevidence, hquality, hchunks.trans hcount.symm⟩
  · rw [Delivery.ofEvents_eq, ← contentOffsets_retouched h, ← Delivery.ofEvents_eq]
  · exact ⟨(e.form_eq_singleChunk_iff t).trans (e.smoothness_eq_singleChunk_iff t).symm,
      e.smoothness_eq_singleChunk_iff t⟩

end GatewayProbe
