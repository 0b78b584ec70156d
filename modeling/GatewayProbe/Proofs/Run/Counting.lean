/-
Counting items by a key, and records by their status.

A summary counts the items of one key after the other, and leaves out keys without items. Where every
item has one of the keys, each is counted once:

* `sum_countP_key` — items counted key by key;
* `sum_of_nonzero`, `sum_filterMap` — keys that are left out count nothing;
* `countP_executed` — what passed or failed, counted among what did not apply;
* `Report.count_of_statuses` — records counted by their statuses.
-/
import Mathlib.Algebra.BigOperators.Group.List.Basic
import Mathlib.Algebra.GroupWithZero.Nat
import Mathlib.Data.List.Nodup
import GatewayProbe.Records

namespace GatewayProbe

section Count

variable {α κ : Type}

/-- Items counted key by key are counted once each, where no key is missing. -/
theorem sum_countP_key [DecidableEq κ] {keys : List κ} (distinct : keys.Nodup) {key : α → κ}
    {items : List α} (known : ∀ a ∈ items, key a ∈ keys) :
    (keys.map fun k => items.countP (key · = k)).sum = items.length := by
  induction items with
  | nil => simp
  | cons a items ih =>
    obtain ⟨hmem, hrest⟩ := List.forall_mem_cons.mp known
    -- One more item counts for its own key alone, which occurs once.
    have hone : (keys.map fun k => if key a = k then 1 else 0).sum = 1 := by
      rw [List.sum_map_eq_nsmul_single (key a) _ fun k hk _ => if_neg (Ne.symm hk),
        List.count_eq_one_of_mem distinct hmem, if_pos rfl]
      rfl
    simp only [List.countP_cons, decide_eq_true_eq, List.sum_map_add, ih hrest, hone,
      List.length_cons]

theorem sum_of_nonzero (counts : List (κ × Nat)) :
    ((counts.filter (·.2 ≠ 0)).map Prod.snd).sum = (counts.map Prod.snd).sum := by
  induction counts with
  | nil => rfl
  | cons c counts ih =>
    by_cases hzero : c.2 = 0
    · rw [List.filter_cons_of_neg (by simpa using hzero), ih, List.map_cons, List.sum_cons, hzero,
        Nat.zero_add]
    · rw [List.filter_cons_of_pos (by simpa using hzero), List.map_cons, List.map_cons,
        List.sum_cons, List.sum_cons, ih]

theorem sum_filterMap {β : Type} {keys : List κ} {row? : κ → Option β} {column : β → Nat}
    {count : κ → Nat} (h : ∀ k, ((row? k).map column).getD 0 = count k) :
    ((keys.filterMap row?).map column).sum = (keys.map count).sum := by
  induction keys with
  | nil => rfl
  | cons k keys ih =>
    rw [List.map_cons, List.sum_cons, ← ih, ← h k]
    cases hk : row? k with
    | none => rw [List.filterMap_cons_none hk, Option.map_none, Option.getD_none, Nat.zero_add]
    | some row =>
      rw [List.filterMap_cons_some hk, List.map_cons, List.sum_cons, Option.map_some,
        Option.getD_some]

end Count

/-! ### Statuses -/

theorem Status.ofBool_ne_skip (passed : Bool) : ofBool passed ≠ .skip := by
  cases passed <;> exact fun h => nomatch h

/-- What did not apply neither passed nor failed. -/
theorem countP_executed {α : Type} (items : List α) (statusOf : α → Status) {status : Status}
    (hs : status ≠ .skip) :
    (items.filter fun a => statusOf a ≠ .skip).countP (fun a => statusOf a = status) =
      items.countP fun a => statusOf a = status := by
  rw [List.countP_filter]
  refine List.countP_congr fun a _ => ?_
  by_cases ha : statusOf a = status <;> simp [ha, hs]

theorem Report.count_of_statuses {r : Report} {statuses : List Status} (status : Status)
    (h : r.records.map Record.status = statuses) : r.count status = statuses.count status := by
  rw [← h, List.count, List.countP_map]
  rfl

end GatewayProbe
