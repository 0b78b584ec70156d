/-
Gateways whose answers depend on the request alone.

What such a gateway has seen makes no difference, so a part of a run gives the same wherever it
stands, and whether another part comes before it or is left out. What a session gives can then be
told without a word of what was asked:

* `Gateway.steady` — a gateway that answers each request by itself;
* `Session.given` — the value of a session that is answered so;
* `Session.run_steady` — it is the value of a run against that gateway;
* `Session.given_bind`, `Session.given_mapM` — part by part.
-/
import GatewayProbe.Proofs.Exchange.Sessions

namespace GatewayProbe

/-- A gateway that answers each request by itself. -/
def Gateway.steady (answer : Request → Answer) : Gateway := fun _ request => answer request

namespace Session

variable {α β : Type} (answer : Request → Answer)

/-- The value of a session each of whose requests is answered by itself. -/
def given : Session α → α
  | .done value => value
  | .ask request next => (next (answer request)).given

@[simp] theorem given_pure (value : α) : (pure value : Session α).given answer = value := rfl

@[simp] theorem given_bind (s : Session α) (f : α → Session β) :
    (s >>= f).given answer = (f (s.given answer)).given answer := by
  induction s with
  | done value => rfl
  | ask request next ih => exact ih _

/-- What is given for each item of a list is given for it alone. -/
theorem given_mapM (f : α → Session β) (as : List α) :
    (as.mapM f).given answer = as.map fun a => (f a).given answer := by
  induction as with
  | nil =>
    rw [List.mapM_nil]
    rfl
  | cons a as ih => rw [List.mapM_cons, given_bind, given_bind, given_pure, ih, List.map_cons]

/-- A part that may be left out. -/
theorem given_skippable (skip : Bool) (value : α) (s : Session α) :
    (if skip then pure value else s).given answer = if skip then value else s.given answer := by
  cases skip <;> rfl

theorem run_steady (s : Session α) (seen : List Request) :
    (s.run (.steady answer) seen).1 = s.given answer := by
  induction s generalizing seen with
  | done value => rfl
  | ask request next ih => exact ih _ _

theorem Always.given {P : α → Prop} {s : Session α} (h : s.Always P)
    (answer : Request → Answer) : P (s.given answer) := by
  rw [← run_steady answer s []]
  exact h _ _

end Session
end GatewayProbe
