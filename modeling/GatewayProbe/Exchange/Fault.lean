/-
What can go wrong between a run and the gateway.

An unreachable gateway and a failed discovery end a run. Every other error belongs to one test case
and becomes the diagnostic of a failed record. One thing ends a run that is no error: a sum that
does not fit its word, where the program is aborted.

* `GatewayError`, `GatewayError.message` — the errors and their wording;
* `Halt`, `Halt.message` — why a run comes to no outcome;
* `unlessOverflow` — an outcome that needs sums to fit;
* `BodyFault`, `GatewayError.ofBodyFault` — faults while a body is read line by line.
-/

namespace GatewayProbe

/-- An error in talking to the gateway. -/
inductive GatewayError where
  | unreachable (url reason : String)
  | discovery (reason : String)
  /-- A request took longer than its budget in seconds. -/
  | timeout (seconds : Nat)
  | network (reason : String)
  /-- The gateway answered with a status that tells of failure. -/
  | badStatus (status : Nat) (reason : String)
  | invalidResponse (reason : String)
  deriving DecidableEq, Repr

namespace GatewayError

/-- The wording of an error. -/
def message : GatewayError → String
  | .unreachable url reason => "cannot reach gateway at " ++ url ++ ": " ++ reason
  | .discovery reason => "discovery failed: " ++ reason
  | .timeout seconds => s!"request timeout after {seconds}s"
  | .network reason => "connection failed: " ++ reason
  | .badStatus status reason => s!"HTTP {status}: " ++ reason
  | .invalidResponse reason => "invalid response: " ++ reason

end GatewayError

/-- Why a run comes to no outcome. -/
inductive Halt where
  /-- The run ends with an error. -/
  | gateway (e : GatewayError)
  /-- The program is aborted where a sum does not fit 64 bits. -/
  | overflow
  deriving DecidableEq, Repr

/-- What is told where a run comes to no outcome. -/
def Halt.message : Halt → String
  | .gateway e => e.message
  | .overflow => "attempt to add with overflow"

/-- An outcome that is absent where a sum does not fit. -/
def unlessOverflow {α : Type} : Option α → Except Halt α
  | some outcome => .ok outcome
  | none => .error .overflow

theorem map_unlessOverflow {α β : Type} (f : α → β) (outcome : Option α) :
    (unlessOverflow outcome).map f = unlessOverflow (outcome.map f) := by
  cases outcome <;> rfl

/-- A fault met while a body is read line by line. -/
inductive BodyFault where
  /-- A line is not UTF-8. -/
  | notText
  | timedOut
  | other
  deriving DecidableEq, Repr

/-- The error of a fault with the given wording, where a request may take `budget` seconds. -/
def GatewayError.ofBodyFault (budget : Nat) (reason : String) : BodyFault → GatewayError
  | .notText => .invalidResponse reason
  | .timedOut => .timeout budget
  | .other => .network reason

end GatewayProbe
