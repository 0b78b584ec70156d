/-
The verdict on a response, rule by rule.

A check is put together from rules that may add a failure and from notes that may not change
anything. Each way of putting checks together is followed once for the condition that the whole
decides; the verdict on a response is then read off the way it is put together.

* `Finding.Decides` — a check passes where a condition holds, and fails where it does not;
* `Finding.Decides.failIf`, `noteIf`, `and` — one more rule, one more note, two checks in one;
* `Finding.ofMessage_decides`, `Finding.ofEvents_decides` — the shape of a message and of a stream;
* `status_ofResponse` — the whole verdict.
-/
import Mathlib.Logic.Basic
import Mathlib.Tactic.ByContra
import GatewayProbe.Conformance.Response

namespace GatewayProbe

namespace Finding

/-- A check passes where a condition holds, and fails where it does not. -/
structure Decides (v : Finding) (p : Prop) : Prop where
  passes : p → v.status = .pass
  fails : ¬p → v.status = .fail

namespace Decides

variable {v w : Finding} {p q : Prop}

theorem pass_iff (h : v.Decides p) : v.status = .pass ↔ p := by
  refine ⟨fun hpass => ?_, h.passes⟩
  by_contra hp
  rw [h.fails hp] at hpass
  cases hpass

theorem fail_iff (h : v.Decides p) : v.status = .fail ↔ ¬p := by
  refine ⟨fun hfail hp => ?_, h.fails⟩
  rw [h.passes hp] at hfail
  cases hfail

theorem not_skip (h : v.Decides p) : v.status ≠ .skip := by
  intro hskip
  by_cases hp : p
  · rw [h.passes hp] at hskip
    cases hskip
  · rw [h.fails hp] at hskip
    cases hskip

theorem status_eq (hv : v.Decides p) (hw : w.Decides p) : v.status = w.status := by
  by_cases hp : p
  · rw [hv.passes hp, hw.passes hp]
  · rw [hv.fails hp, hw.fails hp]

theorem congr (h : v.Decides p) (hpq : p ↔ q) : v.Decides q :=
  ⟨fun hq => h.passes (hpq.mpr hq), fun hq => h.fails fun hp => hq (hpq.mp hp)⟩

theorem pass : Finding.pass.Decides True := ⟨fun _ => rfl, fun h => absurd trivial h⟩

theorem fail (note : String) : (Finding.fail note).Decides False := ⟨False.elim, fun _ => rfl⟩

/-- A note decides nothing. -/
theorem noteIf (h : v.Decides p) (condition : Bool) (text : String) :
    (v.noteIf condition text).Decides p := by
  cases condition with
  | true => exact ⟨h.passes, h.fails⟩
  | false => exact h

/-- A failed rule is never lost. -/
theorem addFault (h : v.Decides p) (text : String) : (v.addFault text).Decides False := by
  refine ⟨False.elim, fun _ => ?_⟩
  rw [Finding.addFault, if_neg h.not_skip]

theorem failIf (h : v.Decides p) {condition : Bool} (rule : condition = false ↔ q) (text : String) :
    (v.failIf condition text).Decides (p ∧ q) := by
  cases condition with
  | true => exact (h.addFault text).congr ⟨False.elim, fun hpq => Bool.noConfusion (rule.mpr hpq.2)⟩
  | false => exact h.congr (and_iff_left (rule.mp rfl)).symm

theorem and (hv : v.Decides p) (hw : w.Decides q) : (v.and w).Decides (p ∧ q) := by
  refine ⟨fun hpq => ?_, fun hpq => ?_⟩
  · rw [Finding.and, hv.passes hpq.1, hw.passes hpq.2]
    rfl
  · rw [Finding.and]
    by_cases hp : p
    · have hq : ¬q := fun hq => hpq ⟨hp, hq⟩
      rw [hv.passes hp, hw.fails hq]
      rfl
    · rw [hv.fails hp]
      rfl

end Decides

/-! ### The mode header -/

theorem ofMode_decides {expected : Mode} (known : expected ≠ .untested) (head : Head) :
    (ofMode expected head).Decides (head.mode = some "passthrough" ↔ expected = .passthrough) := by
  have htells : head.tellsPassthrough = true ↔ head.mode = some "passthrough" := beq_iff_eq
  cases expected with
  | untested => exact absurd rfl known
  | passthrough =>
    rw [← htells, ofMode]
    cases head.tellsPassthrough with
    | true => exact Decides.pass.congr (by decide)
    | false => exact (Decides.fail _).congr (by decide)
  | translated =>
    rw [← htells, ofMode]
    cases head.tellsPassthrough with
    | true => exact (Decides.fail _).congr (by decide)
    | false => exact Decides.pass.congr (by decide)

/-! ### The shape of a message -/

theorem textField?_eq_some_iff {body : Json} {name wanted : String} :
    textField? body name = some wanted ↔ body.get? name = some (.text wanted) := by
  rw [textField?, Json.bind_asText?_eq_some_iff]

theorem requireField_decides {v : Finding} {p : Prop} (h : v.Decides p) (body : Json)
    (name wanted : String) :
    (requireField body name wanted v).Decides (p ∧ body.get? name = some (.text wanted)) := by
  refine h.failIf ?_ _
  rw [bne_eq_false_iff_eq, textField?_eq_some_iff]

theorem requireContent_decides {v : Finding} {p : Prop} (h : v.Decides p) (body : Json) :
    (requireContent body v).Decides (p ∧ ∃ blocks, body.get? "content" = some (.array blocks)) := by
  rw [requireContent]
  split
  · next blocks hblocks =>
    exact (h.noteIf _ _).congr (and_iff_left ⟨blocks, hblocks⟩).symm
  · next value hother hvalue =>
    refine (h.addFault _).congr ⟨False.elim, fun ⟨_, blocks, hblocks⟩ => ?_⟩
    exact hother blocks (Option.some.inj (hvalue.symm.trans hblocks))
  · next hnone =>
    refine (h.addFault _).congr ⟨False.elim, fun ⟨_, blocks, hblocks⟩ => ?_⟩
    rw [hnone] at hblocks
    cases hblocks

/-- The shape of a message, and nothing else of it, decides. -/
theorem ofMessage_decides (body : Json) :
    (ofMessage body).Decides (body.get? "type" = some (.text "message") ∧
      body.get? "role" = some (.text "assistant") ∧
      ∃ blocks, body.get? "content" = some (.array blocks)) := by
  have htype := requireField_decides Decides.pass body "type" "message"
  have hrole := requireField_decides htype body "role" "assistant"
  refine ((requireContent_decides hrole body).noteIf _ _).congr ?_
  rw [true_and, and_assoc]

/-! ### The shape of a stream -/

theorem mem_markers {c : Capture} {type : String} :
    type ∈ c.markers ↔ ∃ e ∈ c.events, e.kind = .marker ∧ e.payload = type := by
  rw [Capture.markers, Text.mem_ordered, List.mem_map]
  simp only [List.mem_filter, decide_eq_true_eq, and_assoc]

theorem pieceCount_eq_zero_iff {c : Capture} :
    c.pieceCount = 0 ↔ ¬∃ e ∈ c.events, e.kind = .content := by
  rw [Capture.pieceCount, List.length_eq_zero_iff, Capture.contents, List.filter_eq_nil_iff]
  simp

theorem absentEvents_eq_nil_iff {observed wanted : List String} :
    absentEvents observed wanted = [] ↔ ∀ type ∈ wanted, type ∈ observed := by
  rw [absentEvents, List.filter_eq_nil_iff]
  simp

/-- Text and the events that every stream has, and nothing else of it, decide. -/
theorem ofEvents_decides (expected : Mode) (c : Capture) :
    (ofEvents expected c).Decides ((∃ e ∈ c.events, e.kind = .content) ∧
      ∀ type ∈ neededEvents, ∃ e ∈ c.events, e.kind = .marker ∧ e.payload = type) := by
  rw [ofEvents]
  split
  · next hends =>
    refine (Decides.fail _).congr ⟨False.elim, fun ⟨⟨e, he, hcontent⟩, _⟩ => ?_⟩
    have hending : e.kind = .ending := of_decide_eq_true (List.all_eq_true.mp hends e he)
    rw [hcontent] at hending
    cases hending
  · split
    · next hnone =>
      exact (Decides.fail _).congr ⟨False.elim, fun h => pieceCount_eq_zero_iff.mp hnone h.1⟩
    · next hsome =>
      have hcontent := not_not.mp fun h => hsome (pieceCount_eq_zero_iff.mpr h)
      have hrule : (!(absentEvents c.markers neededEvents).isEmpty) = false ↔
          ∀ type ∈ neededEvents, ∃ e ∈ c.events, e.kind = .marker ∧ e.payload = type := by
        rw [Bool.not_eq_false', List.isEmpty_iff, absentEvents_eq_nil_iff]
        simp only [mem_markers]
      refine ((Decides.pass.failIf hrule _).noteIf _ _).congr ?_
      rw [true_and, and_iff_right hcontent]

end Finding

/-! ### The whole verdict -/

/-- A body has the shape of a message, or of a stream of one that is announced as a stream. -/
def ReadBody.IsShaped (head : Head) : ReadBody → Prop
  | .message value =>
    value.get? "type" = some (.text "message") ∧ value.get? "role" = some (.text "assistant") ∧
      ∃ blocks, value.get? "content" = some (.array blocks)
  | .stream capture =>
    (∃ type, head.contentType = some type ∧ "text/event-stream".toList <:+: type.toList) ∧
      (∃ e ∈ capture.events, e.kind = .content) ∧
      ∀ type ∈ ["message_start", "message_delta", "message_stop"],
        ∃ e ∈ capture.events, e.kind = .marker ∧ e.payload = type

/-- A response tells of success and has the right shape. -/
structure Conforms (head : Head) (body : ReadBody) : Prop where
  succeeded : 200 ≤ head.status ∧ head.status ≤ 299
  shaped : body.IsShaped head

theorem succeeded_iff {head : Head} :
    head.succeeded = true ↔ 200 ≤ head.status ∧ head.status ≤ 299 := by
  rw [Head.succeeded, Bool.and_eq_true, decide_eq_true_eq, decide_eq_true_eq, Nat.lt_succ_iff]

theorem announcesEvents_iff {head : Head} : head.announcesEvents = true ↔
    ∃ type, head.contentType = some type ∧ "text/event-stream".toList <:+: type.toList := by
  rw [Head.announcesEvents]
  cases head.contentType with
  | none => simp
  | some type => simp [Text.contains_iff]

theorem Finding.ofBody_decides (expected : Mode) (head : Head) (body : ReadBody) :
    (ofBody expected head body).Decides (body.IsShaped head) := by
  cases body with
  | message value => exact ofMessage_decides value
  | stream capture =>
    have hrule : (!head.announcesEvents) = false ↔
        ∃ type, head.contentType = some type ∧ "text/event-stream".toList <:+: type.toList := by
      rw [Bool.not_eq_false', announcesEvents_iff]
    refine ((Decides.pass.failIf hrule _).and (ofEvents_decides expected capture)).congr ?_
    rw [true_and]
    rfl

/-- Where the mode is known, success, the mode header and the shape decide. -/
theorem Finding.ofResponse_decides {expected : Mode} (known : expected ≠ .untested) (head : Head)
    (body : ReadBody) : (ofResponse expected head body).Decides
      (Conforms head body ∧ (head.mode = some "passthrough" ↔ expected = .passthrough)) := by
  have hknown : expected.isKnown = true := by
    cases expected with
    | untested => exact absurd rfl known
    | passthrough | translated => rfl
  rw [ofResponse, if_neg (by rw [hknown]; decide)]
  -- A status of failure hides the mode header and the shape, which may be right or wrong.
  cases hsucceeded : head.succeeded with
  | false =>
    refine (Decides.fail _).congr ⟨False.elim, fun ⟨good, _⟩ => ?_⟩
    rw [succeeded_iff.mpr good.succeeded] at hsucceeded
    cases hsucceeded
  | true =>
    refine ((ofMode_decides known head).and (ofBody_decides expected head body)).congr ?_
    constructor
    · exact fun ⟨hmode, hshaped⟩ => ⟨⟨succeeded_iff.mp hsucceeded, hshaped⟩, hmode⟩
    · exact fun ⟨good, hmode⟩ => ⟨hmode, good.shaped⟩

/-- **The verdict on a response.** It is left out exactly where the mode is not known. Elsewhere it
passes exactly where the status tells of success, the mode header is there just where it should be
and the shape is right, and fails in all other cases. So a good response passes for exactly one of
the two modes, and any other for neither. -/
theorem status_ofResponse (expected : Mode) (head : Head) (body : ReadBody) :
    ((Finding.ofResponse expected head body).status = .skip ↔ expected = .untested) ∧
    ((Finding.ofResponse expected head body).status = .pass ↔ expected ≠ .untested ∧
      Conforms head body ∧ (head.mode = some "passthrough" ↔ expected = .passthrough)) ∧
    ((Finding.ofResponse expected head body).status = .fail ↔ expected ≠ .untested ∧
      ¬(Conforms head body ∧ (head.mode = some "passthrough" ↔ expected = .passthrough))) ∧
    (Conforms head body →
      Xor ((Finding.ofResponse .passthrough head body).status = .pass)
        ((Finding.ofResponse .translated head body).status = .pass)) ∧
    (¬Conforms head body →
      (Finding.ofResponse .passthrough head body).status = .fail ∧
        (Finding.ofResponse .translated head body).status = .fail) := by
  have hpassthrough : (Finding.ofResponse .passthrough head body).Decides _ :=
    Finding.ofResponse_decides (by decide) head body
  have htranslated : (Finding.ofResponse .translated head body).Decides _ :=
    Finding.ofResponse_decides (by decide) head body
  refine ⟨?_, ?_, ?_, fun good => ?_, fun bad => ?_⟩
  · constructor
    · intro hskip
      by_contra known
      exact (Finding.ofResponse_decides known head body).not_skip hskip
    · rintro rfl
      rfl
  · by_cases known : expected = .untested
    · subst known
      exact iff_of_false (by intro h; cases h) fun h => h.1 rfl
    · rw [(Finding.ofResponse_decides known head body).pass_iff, and_iff_right known]
  · by_cases known : expected = .untested
    · subst known
      exact iff_of_false (by intro h; cases h) fun h => h.1 rfl
    · rw [(Finding.ofResponse_decides known head body).fail_iff, and_iff_right known]
  · rw [hpassthrough.pass_iff, htranslated.pass_iff, and_iff_right good, and_iff_right good]
    by_cases hmode : head.mode = some "passthrough"
    · exact .inl ⟨iff_of_true hmode rfl, fun h => absurd (h.mp hmode) (by decide)⟩
    · exact .inr ⟨iff_of_false hmode (by decide), fun h => absurd (h.mpr rfl) hmode⟩
  · exact ⟨hpassthrough.fails fun h => bad h.1, htranslated.fails fun h => bad h.1⟩

end GatewayProbe
