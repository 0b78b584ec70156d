/-
Draws give a candidate.

A word is below two to the power 32, so its share of `n` positions is one of them, and a draw among
some candidates always comes to one.

* `Draws.position_lt` — a position that is drawn is there;
* `Draws.choose?_eq_some`, `Draws.mem_of_choose?` — a draw gives a candidate, if there is one;
* `Selection.pick?_eq_none_iff`, `Selection.mem_of_pick?` — and so does each way to choose.
-/
import GatewayProbe.Plan.Choice

namespace GatewayProbe.Draws

theorem position_lt {n : Nat} (hn : 0 < n) (word : Nat → UInt32) (fuel used : Nat) :
    (position word n fuel used).1 < n := by
  induction fuel generalizing used with
  | zero => exact hn
  | succ fuel ih =>
    rw [position]
    split
    -- The word is less than two to the power 32, so what is left of the product is less than `n`.
    · have hword : (word used).toNat < Decimal.word32 := (word used).toNat_lt
      show (word used).toNat * n / Decimal.word32 < n
      rw [Nat.div_lt_iff_lt_mul (by decide), Nat.mul_comm n]
      exact Nat.mul_lt_mul_of_pos_right hword hn
    · exact ih (used + 1)

variable {α : Type} {draws : Draws} {candidates : List α}

theorem mem_of_choose? {a : α} (h : (draws.choose? candidates).1 = some a) : a ∈ candidates := by
  rw [choose?] at h
  split at h
  · cases h
  · exact List.mem_of_getElem? h

theorem choose?_eq_some (draws : Draws) (h : candidates ≠ []) :
    ∃ a, (draws.choose? candidates).1 = some a := by
  have hlength : 0 < candidates.length := List.length_pos_iff.mpr h
  have hposition := position_lt hlength draws.word 4096 draws.used
  rw [choose?, if_neg (mt List.isEmpty_iff.mp h)]
  exact ⟨_, List.getElem?_eq_getElem hposition⟩

end GatewayProbe.Draws

namespace GatewayProbe.Selection

variable {α : Type} {selection : Selection} {candidates : List α}

theorem pick?_eq_none_iff : (selection.pick? candidates).1 = none ↔ candidates = [] := by
  cases selection with
  | first => exact List.head?_eq_none_iff
  | random draws =>
    constructor
    · intro hnone
      cases candidates with
      | nil => rfl
      | cons c rest =>
        obtain ⟨a, ha⟩ := Draws.choose?_eq_some draws (List.cons_ne_nil c rest)
        have hchosen : (draws.choose? (c :: rest)).1 = none := hnone
        rw [hchosen] at ha
        cases ha
    · rintro rfl
      rfl

theorem mem_of_pick? {a : α} (h : (selection.pick? candidates).1 = some a) : a ∈ candidates := by
  cases selection with
  | first => exact List.mem_of_head? h
  | random draws => exact Draws.mem_of_choose? h

end GatewayProbe.Selection
