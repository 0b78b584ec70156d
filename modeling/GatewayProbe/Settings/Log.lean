/-
Settings of the log.

* `LogForm` — the two forms of a log, and their names;
* `Logging.directives` — level of the log, then the levels of single components.
-/
import GatewayProbe.Text.Ascii

namespace GatewayProbe

/-- The form of log lines. -/
inductive LogForm where
  | pretty
  | json
  deriving DecidableEq, Repr

/-- The name of a form. -/
def LogForm.name : LogForm → String
  | .pretty => "pretty"
  | .json => "json"

/-- The form with exactly this name. -/
def LogForm.ofName? : String → Option LogForm
  | "pretty" => some .pretty
  | "json" => some .json
  | _ => none

/-- The form with this name, up to the case of letters. The names hold no letter that another than
an ASCII letter becomes when made small. -/
def LogForm.parse? (s : String) : Option LogForm := ofName? (Text.lowerAscii s)

/-- Settings of the log. -/
structure Logging where
  level : String := "warn"
  format : LogForm := .pretty
  /-- Levels of components, in ascending order of their names. -/
  componentLevels : Option (List (String × String)) := none
  deriving DecidableEq, Repr

/-- The text that sets all levels. -/
def Logging.directives (l : Logging) : String :=
  String.join (l.level :: (l.componentLevels.getD []).map fun (component, level) =>
    ",probe::" ++ component ++ "=" ++ level)

end GatewayProbe
