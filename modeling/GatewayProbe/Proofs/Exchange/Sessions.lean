/-
What holds of a session whatever it is answered.

Running a session follows the way it is put together: one part is run to its value, and the next
part goes on against the same gateway, which has then seen more. So what always holds of the value
of a session is found part by part, without a look at requests and answers.

* `Session.run_pure`, `Session.run_bind` — running a session part by part;
* `Session.Always` — a condition on the value, for every gateway and everything it may have seen;
* `Session.Always.bind`, `Session.Always.mapM` — the condition for parts one after the other, and
  for one part for each item of a list.
-/
import Mathlib.Data.List.Forall2
import GatewayProbe.Exchange.Session

namespace GatewayProbe

namespace Session

variable {α β γ : Type}

theorem andThen_done (s : Session α) : s.andThen .done = s := by
  induction s with
  | done value => rfl
  | ask request next ih =>
    rw [andThen]
    exact congrArg (ask request) (funext ih)

theorem andThen_assoc (s : Session α) (f : α → Session β) (g : β → Session γ) :
    (s.andThen f).andThen g = s.andThen fun a => (f a).andThen g := by
  induction s with
  | done value => rfl
  | ask request next ih =>
    rw [andThen, andThen, andThen]
    exact congrArg (ask request) (funext ih)

instance : LawfulMonad Session :=
  LawfulMonad.mk' Session andThen_done (fun _ _ => rfl) andThen_assoc

variable {gateway : Gateway} {seen : List Request}

@[simp] theorem run_pure (value : α) : (pure value : Session α).run gateway seen = (value, seen) :=
  rfl

/-- A session goes on with what its first part gave and with what the gateway has seen by then. -/
@[simp] theorem run_bind (s : Session α) (f : α → Session β) :
    (s >>= f).run gateway seen =
      (f (s.run gateway seen).1).run gateway (s.run gateway seen).2 := by
  induction s generalizing seen with
  | done value => rfl
  | ask request next ih => exact ih _

/-! ### Conditions on the value -/

/-- A condition holds of the value of a session, whatever the gateway. -/
def Always (P : α → Prop) (s : Session α) : Prop :=
  ∀ (gateway : Gateway) (seen : List Request), P (s.run gateway seen).1

namespace Always

variable {P : α → Prop} {Q : β → Prop} {s : Session α} {f : α → Session β}

theorem any (s : Session α) : s.Always fun _ => True := fun _ _ => trivial

theorem pure {value : α} (h : P value) : (Pure.pure value : Session α).Always P := fun _ _ => h

theorem bind (hs : s.Always P) (hf : ∀ value, P value → (f value).Always Q) :
    (s >>= f).Always Q := by
  intro gateway seen
  rw [run_bind]
  exact hf _ (hs gateway seen) _ _

/-- A part that may be left out for a value that is as good. -/
theorem skippable {skip : Bool} {value : α} (hvalue : P value) (hs : s.Always P) :
    (if skip then Pure.pure value else s).Always P := by
  split
  · exact pure hvalue
  · exact hs

/-- What each item of a list always gives, a list of them gives item by item. -/
theorem mapM {R : α → β → Prop} (h : ∀ a, (f a).Always (R a)) (as : List α) :
    (as.mapM f).Always (List.Forall₂ R as) := by
  induction as with
  | nil =>
    rw [List.mapM_nil]
    exact pure .nil
  | cons a as ih =>
    rw [List.mapM_cons]
    refine (h a).bind fun b hb => ?_
    refine ih.bind fun bs hbs => ?_
    exact pure (.cons hb hbs)

end Always
end Session
end GatewayProbe
