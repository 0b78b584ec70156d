/-
The report of a run.

Each check leaves one record. Records are only ever added, in the order of the checks; a record is
named `group/check`, and a run passes when no record fails.

* `Status`, `Record`, `Report` — the records;
* `Report.add`, `Report.merge` — one more record, and those of another report;
* `Report.passed`, `failed`, `skipped` — the counts.
-/
import GatewayProbe.Text.Lines

namespace GatewayProbe

/-- What came of a check. -/
inductive Status where
  | pass
  | fail
  /-- The check does not apply. -/
  | skip
  deriving DecidableEq, Repr

namespace Status

/-- The name of a status in documents. -/
def name : Status → String
  | .pass => "pass"
  | .fail => "fail"
  | .skip => "skip"

/-- The name of a status in texts. -/
def label : Status → String
  | .pass => "PASS"
  | .fail => "FAIL"
  | .skip => "SKIP"

/-- Passed or failed. -/
def ofBool (passed : Bool) : Status := if passed then .pass else .fail

end Status

/-- One check and what came of it. -/
structure Record where
  name : String
  status : Status
  detail : String := ""
  deriving DecidableEq, Repr

/-- The group of a record: its name up to the first slash. -/
def Record.group (r : Record) : String := (Text.splitAtChar '/' r.name).headD r.name

/-- The records of a run. -/
structure Report where
  title : String
  records : List Record := []
  deriving DecidableEq, Repr

namespace Report

/-- Adds a record. -/
def add (r : Report) (record : Record) : Report := { r with records := r.records ++ [record] }

/-- Adds the records of another report. -/
def merge (r other : Report) : Report := { r with records := r.records ++ other.records }

/-- The first record of a name. -/
def get? (r : Report) (name : String) : Option Record := r.records.find? (·.name = name)

/-- How many records have a status. -/
def count (r : Report) (status : Status) : Nat := r.records.countP (·.status = status)

/-- How many checks passed. -/
def passed (r : Report) : Nat := r.count .pass

/-- How many checks failed. -/
def failed (r : Report) : Nat := r.count .fail

/-- How many checks did not apply. -/
def skipped (r : Report) : Nat := r.count .skip

/-- No check failed. -/
def noneFailed (r : Report) : Bool := r.failed = 0

end Report
end GatewayProbe
