/-
Valid settings, part by part.

The parts of settings are checked one after the other, and the first fault is told. Valid settings
are therefore those of which every part is valid by itself:

* `bind_eq_ok_iff`, `mapError_eq_ok_iff` — a step of a check, and a fault told in other words;
* `Settings.check_eq_ok_iff` — all parts are valid.
-/
import GatewayProbe.Settings.Basic

namespace GatewayProbe

theorem bind_eq_ok_iff {ε α β : Type} {x : Except ε α} {f : α → Except ε β} {b : β} :
    x >>= f = .ok b ↔ ∃ a, x = .ok a ∧ f a = .ok b := by
  cases x <;> simp [bind, Except.bind]

theorem mapError_eq_ok_iff {ε ε' α : Type} {x : Except ε α} {f : ε → ε'} {a : α} :
    x.mapError f = .ok a ↔ x = .ok a := by
  cases x with
  | error e => exact iff_of_false (fun h => nomatch h) fun h => nomatch h
  | ok b => exact ⟨fun h => by cases h; rfl, fun h => by cases h; rfl⟩

theorem Settings.check_eq_ok_iff {s : Settings} :
    s.check = .ok () ↔ s.access.check = .ok () ∧ s.modes.check = .ok () ∧ s.timing.check = .ok () := by
  rw [check, bind_eq_ok_iff]
  constructor
  · rintro ⟨_, haccess, hrest⟩
    obtain ⟨_, hmodes, htiming⟩ := bind_eq_ok_iff.mp hrest
    exact ⟨haccess, mapError_eq_ok_iff.mp hmodes, mapError_eq_ok_iff.mp htiming⟩
  · rintro ⟨haccess, hmodes, htiming⟩
    refine ⟨(), haccess, bind_eq_ok_iff.mpr ⟨(), mapError_eq_ok_iff.mpr hmodes, ?_⟩⟩
    exact mapError_eq_ok_iff.mpr htiming

end GatewayProbe
