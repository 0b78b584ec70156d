/-
The result of checks, with notes.

A note may explain a failure or only tell of something odd; the status alone decides.

* `Finding` — a status and notes;
* `Finding.addFault`, `note`, `and` — one more failed rule, one more note, two results in one.
-/
import GatewayProbe.Records

namespace GatewayProbe

/-- A status and notes. -/
structure Finding where
  status : Status := .pass
  notes : List String := []
  deriving DecidableEq, Repr

namespace Finding

/-- Nothing wrong. -/
def pass : Finding := ⟨.pass, []⟩

/-- One rule failed. -/
def fail (note : String) : Finding := ⟨.fail, [note]⟩

/-- The checks do not apply. -/
def skip (note : String) : Finding := ⟨.skip, [note]⟩

/-- The checks passed. -/
def passed (v : Finding) : Bool := v.status = .pass

/-- Adds a note. -/
def note (v : Finding) (text : String) : Finding := { v with notes := v.notes ++ [text] }

/-- Adds a note where there is one. -/
def noteIf (v : Finding) (condition : Bool) (text : String) : Finding :=
  if condition then v.note text else v

/-- Adds a failed rule. Checks that do not apply stay so. -/
def addFault (v : Finding) (text : String) : Finding :=
  ⟨if v.status = .skip then .skip else .fail, v.notes ++ [text]⟩

/-- Adds a failed rule under a condition. -/
def failIf (v : Finding) (condition : Bool) (text : String) : Finding :=
  if condition then v.addFault text else v

/-- The status of two results together: a failure fails, and what does not apply wins over what
passed. -/
def join : Status → Status → Status
  | .fail, _ | _, .fail => .fail
  | .skip, _ | _, .skip => .skip
  | .pass, .pass => .pass

/-- Two results in one. -/
def and (v w : Finding) : Finding := ⟨join v.status w.status, v.notes ++ w.notes⟩

/-- The notes on one line. -/
def detail (v : Finding) : String := "; ".intercalate v.notes

end Finding
end GatewayProbe
