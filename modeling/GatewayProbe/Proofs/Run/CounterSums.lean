/-
Counters that are added up.

The three counters of fallbacks are added in 64 bits, one after the other. There is a sum exactly
where the sum of all three fits, and it is exact. What looks at the sum of a page has no result for
a page whose sum does not fit: the check of the page, and so the record made of it.

* `Counters.fallbackSum`, `Counters.fallbacks?_eq` — the fallbacks there are, and when they add up;
* `CounterPage.Overflows`, `Finding.ofCounters?_eq_none_iff` — pages whose fallbacks do not fit;
* `Overflowing`, `counterRecord?_eq_none_iff` — the same of a page that was asked for;
* `checkCounters_run`, `checkCounters_eq_none_iff` — what comes of asking for it.
-/
import GatewayProbe.Proofs.Exchange.Steady
import GatewayProbe.Run.Modes

namespace GatewayProbe

open Decimal

/-! ### The sum -/

namespace Counters

/-- The requests that could not be passed on unchanged, however many. -/
def fallbackSum (c : Counters) : Nat := c.noCompatible + c.noSupport + c.cannotPass

/-- A sum that fits has no part that does not. -/
theorem fallbacks?_eq (c : Counters) :
    c.fallbacks? = if c.fallbackSum < word64 then some c.fallbackSum else none := by
  rw [fallbacks?, Option.bind_eq_bind, add64?, fallbackSum]
  by_cases hfirst : c.noCompatible + c.noSupport < word64
  · rw [if_pos hfirst]
    rfl
  -- Where the first two do not fit, nothing is added to them, and all three do not fit either.
  · have hall : ¬c.noCompatible + c.noSupport + c.cannotPass < word64 := fun h =>
      hfirst (Nat.lt_of_le_of_lt (Nat.le_add_right _ _) h)
    rw [if_neg hfirst, if_neg hall]
    rfl

theorem fallbacks?_of_lt {c : Counters} (h : c.fallbackSum < word64) :
    c.fallbacks? = some c.fallbackSum := by
  rw [fallbacks?_eq, if_pos h]

theorem fallbacks?_eq_none_iff {c : Counters} : c.fallbacks? = none ↔ word64 ≤ c.fallbackSum := by
  rw [fallbacks?_eq, ← Nat.not_lt]
  split
  · next h => exact iff_of_false (Option.some_ne_none _) (not_not.mpr h)
  · next h => exact iff_of_true rfl h

end Counters

/-! ### Pages -/

/-- The fallbacks of the translator for Anthropic messages do not fit 64 bits. -/
def CounterPage.Overflows (page : CounterPage) : Prop :=
  ∃ c ∈ page.anthropic?, word64 ≤ c.fallbackSum

instance : DecidablePred CounterPage.Overflows := fun page =>
  inferInstanceAs (Decidable (∃ c ∈ page.anthropic?, _))

/-- The check of a page has no result exactly where fallbacks do not fit. -/
theorem Finding.ofCounters?_eq_none_iff {page : CounterPage} {p t : Bool} :
    Finding.ofCounters? page p t = none ↔ page.Overflows := by
  rw [ofCounters?, CounterPage.Overflows]
  cases page.anthropic? with
  | none => simp
  | some c => simp [Counters.fallbacks?_eq_none_iff]

/-- A page was asked for and read, and its fallbacks do not fit. -/
def Overflowing (page : Outcome CounterPage) : Prop := ∃ read ∈ page.toOption, read.Overflows

instance : DecidablePred Overflowing := fun page =>
  inferInstanceAs (Decidable (∃ read ∈ page.toOption, _))

section Record

variable {name : String} {shown : ShownModes} {page : Outcome CounterPage}

theorem counterRecord?_eq_none_iff : counterRecord? name shown page = none ↔ Overflowing page := by
  rw [Overflowing]
  cases page with
  | error e => simp [counterRecord?, Except.toOption]
  | ok read => simp [counterRecord?, Except.toOption, Finding.ofCounters?_eq_none_iff]

theorem exists_counterRecord? (h : ¬Overflowing page) :
    ∃ record, counterRecord? name shown page = some record :=
  Option.ne_none_iff_exists'.mp (mt counterRecord?_eq_none_iff.mp h)

theorem name_of_counterRecord? {record : Record}
    (h : counterRecord? name shown page = some record) : record.name = name := by
  cases page with
  | error e =>
    cases h
    rfl
  | ok read =>
    obtain ⟨v, -, rfl⟩ := Option.map_eq_some_iff.mp h
    rfl

end Record

/-! ### The page that is asked for -/

section Check

variable (setup : Setup) (gateway : Gateway) (seen : List Request) (shown : ShownModes)
  (name : String)

/-- The page of counters that a gateway gives. -/
def countersPage : Outcome CounterPage :=
  ((setup.client.getPage Route.counters).run gateway seen).1.bind readCounters

theorem checkCounters_run :
    ((checkCounters setup shown name).run gateway seen).1 =
      (counterRecord? name shown (countersPage setup gateway seen)).map fun record =>
        (record, (countersPage setup gateway seen).toOption) := by
  rw [checkCounters, Session.run_bind, Session.run_pure, countersPage]

theorem checkCounters_eq_none_iff :
    ((checkCounters setup shown name).run gateway seen).1 = none ↔
      Overflowing (countersPage setup gateway seen) := by
  rw [checkCounters_run, Option.map_eq_none_iff, counterRecord?_eq_none_iff]

theorem checkCounters_always :
    (checkCounters setup shown name).Always fun out => ∀ found ∈ out, found.1.name = name := by
  intro gateway seen found hfound
  rw [checkCounters_run] at hfound
  obtain ⟨record, hrecord, rfl⟩ := Option.map_eq_some_iff.mp hfound
  exact name_of_counterRecord? hrecord

/-- The page of counters, where each request is answered by itself. -/
def givenPage (answer : Request → Answer) : Outcome CounterPage :=
  ((setup.client.getPage Route.counters).given answer).bind readCounters

theorem countersPage_steady (answer : Request → Answer) :
    countersPage setup (.steady answer) seen = givenPage setup answer := by
  rw [countersPage, Session.run_steady, givenPage]

theorem given_checkCounters (answer : Request → Answer) :
    (checkCounters setup shown name).given answer =
      (counterRecord? name shown (givenPage setup answer)).map fun record =>
        (record, (givenPage setup answer).toOption) := by
  rw [checkCounters, Session.given_bind, Session.given_pure, givenPage]

end Check

/-- The fallbacks of this page add up to the first number that does not fit 64 bits. -/
def lostPage : String :=
  "\x7b\"translators\":[\x7b\"translator_name\":\"anthropic\"," ++
    "\"fallback_no_compatible_endpoints\":9223372036854775808," ++
    "\"fallback_cannot_passthrough\":9223372036854775808\x7d]\x7d"

end GatewayProbe
