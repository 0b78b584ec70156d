/-
Why a stream cannot be read.

A request for a stream fails in few ways. It is not answered; it is answered with a status that
tells of failure; or its body meets a fault before any line ends the stream: a line that is not
text, a connection that breaks, a body that stalls. In every other case there is a stream to read.

* `Reply.Meets` — the fault that a body meets, told by its lines;
* `Reply.captureFault_eq_error_iff` — these are the faults that keep a body from being read;
* `streamIn` — the stream in the outcome of a request;
* `StreamFails`, `streamIn_eq_error_iff` — the ways in which there is none, with their errors.
-/
import GatewayProbe.Proofs.Conformance.Verdict
import GatewayProbe.Proofs.Events.Bodies
import GatewayProbe.Run.Basic

namespace GatewayProbe

namespace Reply

/-- A body meets a fault before any of its lines ends the stream. -/
inductive Meets (dialect : Dialect) (r : Reply) : BodyFault → Prop
  | notText (texts : List String) (bad : List UInt8) (after : List (List UInt8))
      (shape : bodyLines r.ending r.bytes = texts.map Text.toUtf8 ++ bad :: after)
      (going : ∀ text ∈ texts, dialect.endsStream text = false)
      (other : ∀ text, bad ≠ Text.toUtf8 text) : Meets dialect r .notText
  | broken (texts : List String) (shape : bodyLines r.ending r.bytes = texts.map Text.toUtf8)
      (going : ∀ text ∈ texts, dialect.endsStream text = false) (ending : r.ending = .broken) :
      Meets dialect r .other
  | stalled (texts : List String) (shape : bodyLines r.ending r.bytes = texts.map Text.toUtf8)
      (going : ∀ text ∈ texts, dialect.endsStream text = false) (ending : r.ending = .stalled) :
      Meets dialect r .timedOut

variable {dialect : Dialect} {r : Reply} {fault : BodyFault}

theorem capture_eq_error_iff {budget : Nat} {e : GatewayError} :
    r.capture budget dialect = .error e ↔ ∃ fault, captureFault dialect r = .error fault ∧
      e = GatewayError.ofBodyFault budget (faultReason fault) fault := by
  rw [capture]
  constructor
  · intro h
    cases hfault : captureFault dialect r with
    | ok c =>
      rw [hfault] at h
      cases h
    | error fault =>
      rw [hfault] at h
      exact ⟨fault, rfl, (Except.error.inj h).symm⟩
  · rintro ⟨fault, hfault, rfl⟩
    rw [hfault]
    rfl

theorem captureFault_of_meets (h : r.Meets dialect fault) :
    captureFault dialect r = .error fault := by
  -- The three errors of a body tell the three faults apart.
  cases h with
  | notText texts bad after shape going other =>
    obtain ⟨reason, herror⟩ := capture_notText 0 shape going other
    obtain ⟨fault, hfault, he⟩ := capture_eq_error_iff.mp herror
    cases fault with
    | notText => exact hfault
    | timedOut | other => cases he
  | broken texts shape going ending =>
    have hgoing := capture_going 0 shape going
    rw [ending] at hgoing
    obtain ⟨reason, herror⟩ := hgoing
    obtain ⟨fault, hfault, he⟩ := capture_eq_error_iff.mp herror
    cases fault with
    | other => exact hfault
    | timedOut | notText => cases he
  | stalled texts shape going ending =>
    have hgoing := capture_going 0 shape going
    rw [ending] at hgoing
    obtain ⟨fault, hfault, he⟩ := capture_eq_error_iff.mp hgoing
    cases fault with
    | timedOut => exact hfault
    | other | notText => cases he

/-- Exactly the faults that a body meets keep it from being read. -/
theorem captureFault_eq_error_iff :
    captureFault dialect r = .error fault ↔ r.Meets dialect fault := by
  refine ⟨fun h => ?_, captureFault_of_meets⟩
  have hsame {fault' : BodyFault} (hmeets : r.Meets dialect fault') : r.Meets dialect fault := by
    have hfault := captureFault_of_meets hmeets
    rw [h] at hfault
    cases hfault
    exact hmeets
  have hread {c : Capture} (hc : r.capture 0 dialect = .ok c) : r.Meets dialect fault := by
    rw [capture, h] at hc
    cases hc
  rcases lines_cases dialect (bodyLines r.ending r.bytes) with
    ⟨texts, last, after, shape, ends⟩ | ⟨texts, going, shape | ⟨bad, after, shape, other⟩⟩
  · obtain ⟨c, hc, -⟩ := capture_ending 0 shape ends
    exact hread hc
  · cases hending : r.ending with
    | complete =>
      have hgoing := capture_going 0 shape going
      rw [hending] at hgoing
      obtain ⟨c, hc, -⟩ := hgoing
      exact hread hc
    | broken => exact hsame (.broken texts shape going hending)
    | stalled => exact hsame (.stalled texts shape going hending)
  · exact hsame (.notText texts bad after shape going other)

end Reply

theorem Reply.succeeded_iff {r : Reply} :
    r.head.succeeded = true ↔ 200 ≤ r.status ∧ r.status ≤ 299 :=
  GatewayProbe.succeeded_iff

/-! ### The stream in an outcome -/

/-- The stream in the outcome of a request that may take `budget` seconds, or why there is none. -/
def streamIn (budget : Nat) (dialect : Dialect) : Outcome Reply → Outcome Capture
  | .error e => .error e
  | .ok r => if r.head.succeeded then r.capture budget dialect else .error (statusError r)

section

variable {budget : Nat} {dialect : Dialect} {r : Reply}

theorem streamIn_succeeded (h : r.head.succeeded = true) :
    streamIn budget dialect (.ok r) = r.capture budget dialect :=
  if_pos h

theorem streamIn_failed (h : ¬r.head.succeeded = true) :
    streamIn budget dialect (.ok r) = .error (statusError r) :=
  if_neg h

end

/-- The ways in which there is no stream, with their errors. -/
inductive StreamFails (budget : Nat) (dialect : Dialect) : Outcome Reply → GatewayError → Prop
  | unanswered (e : GatewayError) : StreamFails budget dialect (.error e) e
  | badStatus (r : Reply) (failed : ¬(200 ≤ r.status ∧ r.status ≤ 299)) :
      StreamFails budget dialect (.ok r) (.badStatus r.status (Text.excerpt 100 r.textOrEmpty))
  | unread (r : Reply) (succeeded : 200 ≤ r.status ∧ r.status ≤ 299) (fault : BodyFault)
      (meets : r.Meets dialect fault) :
      StreamFails budget dialect (.ok r) (.ofBodyFault budget (Reply.faultReason fault) fault)

theorem streamIn_eq_error_iff {budget : Nat} {dialect : Dialect} {outcome : Outcome Reply}
    {e : GatewayError} :
    streamIn budget dialect outcome = .error e ↔ StreamFails budget dialect outcome e := by
  constructor
  · intro h
    cases outcome with
    | error e' =>
      cases h
      exact .unanswered e
    | ok r =>
      by_cases hsucceeded : r.head.succeeded = true
      · rw [streamIn_succeeded hsucceeded] at h
        obtain ⟨fault, hfault, rfl⟩ := Reply.capture_eq_error_iff.mp h
        have hmeets := Reply.captureFault_eq_error_iff.mp hfault
        exact .unread r (Reply.succeeded_iff.mp hsucceeded) fault hmeets
      · rw [streamIn_failed hsucceeded] at h
        cases h
        exact .badStatus r (mt Reply.succeeded_iff.mpr hsucceeded)
  · intro h
    cases h with
    | unanswered e => rfl
    | badStatus r failed => exact streamIn_failed (mt Reply.succeeded_iff.mp failed)
    | unread r succeeded fault meets =>
      rw [streamIn_succeeded (Reply.succeeded_iff.mpr succeeded)]
      exact Reply.capture_eq_error_iff.mpr ⟨fault, Reply.captureFault_of_meets meets, rfl⟩

end GatewayProbe
