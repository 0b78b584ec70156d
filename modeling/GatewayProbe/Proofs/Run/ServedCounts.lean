/-
Requests counted by endpoint, and by what came of them.

A response is counted for the endpoint that it names; a response without a name, or none at all, is
counted for no endpoint. Counted together these are all requests, good and bad apart:

* `ServedTally.IsBalanced` — the total of each endpoint is the sum of its successes and failures;
* `ServedTally.sum_count` — all endpoints together count what was served;
* `Answer.isGood`, `Answer.served`, `Answer.isUnnamed`, `Answer.isMissing` — what is told of an
  answer;
* `countP_isGood`, `countP_not_isGood` — good and bad answers, named, unnamed and missing;
* `Report.passedShare?_eq_none_iff`, `Report.of_passedShare?` — the share of passed checks.
-/
import Mathlib.Algebra.GroupWithZero.Nat
import GatewayProbe.Run.ProviderRoutes

namespace GatewayProbe

/-! ### Endpoints -/

namespace ServedTally

/-- Each endpoint was counted once for a success or a failure. -/
def IsBalanced (tally : ServedTally) : Prop := ∀ u ∈ tally, u.2.total = u.2.success + u.2.failure

variable {tally : ServedTally}

theorem count_balanced {u : Served} (h : u.total = u.success + u.failure) (good : Bool) :
    (u.count good).total = (u.count good).success + (u.count good).failure := by
  show u.total + 1 = u.success + good.toNat + (u.failure + (!good).toNat)
  have hone : good.toNat + (!good).toNat = 1 := by cases good <;> rfl
  omega

theorem IsBalanced.insert (h : IsBalanced tally) (endpoint : String) (good : Bool) :
    IsBalanced (tally.insert endpoint good) := by
  induction tally with
  | nil => exact List.forall_mem_singleton.mpr (count_balanced rfl good)
  | cons first rest ih =>
    obtain ⟨name, usage⟩ := first
    obtain ⟨hfirst, hrest⟩ := List.forall_mem_cons.mp h
    rw [ServedTally.insert]
    split
    · exact List.forall_mem_cons.mpr ⟨count_balanced hfirst good, hrest⟩
    · split
      · exact List.forall_mem_cons.mpr ⟨count_balanced rfl good, h⟩
      · exact List.forall_mem_cons.mpr ⟨hfirst, ih hrest⟩

section Sum

variable {column : Served → Nat} {p : Bool → Bool}
  (hnone : column {} = 0) (hcount : ∀ u good, column (u.count good) = column u + (p good).toNat)

include hnone hcount

theorem sum_insert (endpoint : String) (good : Bool) :
    ((tally.insert endpoint good).map fun u => column u.2).sum =
      (tally.map fun u => column u.2).sum + (p good).toNat := by
  induction tally with
  | nil =>
    rw [ServedTally.insert, List.map_singleton, List.sum_singleton, hcount, hnone]
    rfl
  | cons first rest ih =>
    obtain ⟨name, usage⟩ := first
    rw [ServedTally.insert]
    split
    · rw [List.map_cons, List.map_cons, List.sum_cons, List.sum_cons, hcount]
      exact Nat.add_right_comm ..
    · split
      · rw [List.map_cons, List.sum_cons, hcount, hnone, Nat.zero_add]
        exact Nat.add_comm ..
      · rw [List.map_cons, List.map_cons, List.sum_cons, List.sum_cons, ih, Nat.add_assoc]

/-- A column of all endpoints together counts what was served. -/
theorem sum_count (served : List (String × Bool)) (tally : ServedTally) :
    ((served.foldl (fun tally s => tally.observe (some s.1) s.2) tally).map
      fun u => column u.2).sum =
      (tally.map fun u => column u.2).sum + served.countP fun s => p s.2 := by
  induction served generalizing tally with
  | nil => rfl
  | cons s served ih =>
    have hgain : (p s.2).toNat = if p s.2 = true then 1 else 0 := by cases p s.2 <;> rfl
    rw [List.foldl_cons, ih, observe, sum_insert hnone hcount, List.countP_cons, hgain]
    omega

end Sum

theorem IsBalanced.foldl (served : List (String × Bool)) (h : IsBalanced tally) :
    IsBalanced (served.foldl (fun tally s => tally.observe (some s.1) s.2) tally) := by
  induction served generalizing tally with
  | nil => exact h
  | cons s served ih => exact ih (h.insert s.1 s.2)

end ServedTally

/-! ### Answers -/

namespace Answer

/-- A response of status 200. -/
def isGood : Answer → Bool
  | .reply r => r.status = 200
  | .refused | .closed | .silent => false

/-- The endpoint that a response names, and whether it is of status 200. -/
def served : Answer → Option (String × Bool)
  | .reply r => r.head.endpoint.map fun endpoint => (endpoint, decide (r.status = 200))
  | .refused | .closed | .silent => none

/-- A response that names no endpoint. -/
def isUnnamed : Answer → Bool
  | .reply r => r.head.endpoint.isNone
  | .refused | .closed | .silent => false

/-- There is no response. -/
def isMissing : Answer → Bool
  | .reply _ => false
  | .refused | .closed | .silent => true

variable (r : Reply)

@[simp] theorem isGood_reply : (reply r).isGood = decide (r.status = 200) := rfl

@[simp] theorem served_reply : (reply r).served =
    r.head.endpoint.map fun endpoint => (endpoint, decide (r.status = 200)) := rfl

@[simp] theorem isUnnamed_reply : (reply r).isUnnamed = r.head.endpoint.isNone := rfl

@[simp] theorem isMissing_reply : (reply r).isMissing = false := rfl

end Answer

theorem countP_isGood (answers : List Answer) :
    answers.countP Answer.isGood = (answers.filterMap Answer.served).countP (·.2) +
      answers.countP fun a => a.isUnnamed && a.isGood := by
  induction answers with
  | nil => rfl
  | cons a answers ih =>
    cases a with
    | reply r =>
      by_cases hgood : r.status = 200 <;> cases hendpoint : r.head.endpoint <;>
        simp [hgood, hendpoint, ih] <;> omega
    | refused | closed | silent => exact ih

theorem countP_not_isGood (answers : List Answer) :
    answers.countP (fun a => !a.isGood) = (answers.filterMap Answer.served).countP (fun s => !s.2) +
      answers.countP (fun a => a.isUnnamed && !a.isGood) + answers.countP Answer.isMissing := by
  induction answers with
  | nil => rfl
  | cons a answers ih =>
    cases a with
    | reply r =>
      by_cases hgood : r.status = 200 <;> cases hendpoint : r.head.endpoint <;>
        simp [hgood, hendpoint, ih] <;> omega
    | refused | closed | silent =>
      rw [List.countP_cons, List.countP_cons, List.countP_cons, ih]
      rfl

/-! ### The share of passed checks -/

namespace Report

variable {r : Report} {share : Nat}

theorem passedShare?_eq_none_iff : r.passedShare? = none ↔ r.passed + r.failed = 0 := by
  rw [passedShare?]
  split <;> simp <;> omega

/-- A share in whole percent, rounded down, is full only where no check failed. -/
theorem of_passedShare? (h : r.passedShare? = some share) :
    share ≤ 100 ∧ (share = 100 ↔ r.failed = 0) := by
  rw [passedShare?] at h
  split at h
  · next hsome =>
    cases h
    have hpassed : r.passed * 100 ≤ 100 * (r.passed + r.failed) := by omega
    have hfull : r.passed * 100 / (r.passed + r.failed) ≤ 100 :=
      Nat.div_le_of_le_mul (by omega)
    refine ⟨hfull, ?_⟩
    have hleast : 100 ≤ r.passed * 100 / (r.passed + r.failed) ↔
        100 * (r.passed + r.failed) ≤ r.passed * 100 := Nat.le_div_iff_mul_le hsome
    omega
  · cases h

end Report
end GatewayProbe
