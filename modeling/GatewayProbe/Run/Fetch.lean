/-
Fetching JSON pages.

* `FetchFault` — why there is no page, and its wording;
* `judgePage`, `fetchPage` — the page in a reply, and at a path;
* `listedLength?` — how many models a listing holds.
-/
import GatewayProbe.Exchange.Client

namespace GatewayProbe

/-- Why there is no JSON page. -/
inductive FetchFault where
  | status (code : Nat)
  | notJson
  | request (e : GatewayError)
  deriving DecidableEq, Repr

/-- The wording of a fault. -/
def FetchFault.message : FetchFault → String
  | .status code => s!"HTTP {code}"
  | .notJson => "invalid JSON"
  | .request e => e.message

/-- The page in a reply. Only status 200 counts. -/
def judgePage (budget : Nat) (reply : Outcome Reply) : Except FetchFault Json :=
  match reply with
  | .error e => .error (.request e)
  | .ok r =>
    if r.status ≠ 200 then .error (.status r.status)
    else match r.json budget with
      | .ok page => .ok page
      | .error (.invalidResponse _) => .error .notJson
      | .error e => .error (.request e)

/-- The page at a path. -/
def fetchPage (client : Client) (path : String) : Session (Except FetchFault Json) := do
  return judgePage client.budget (← client.get path)

/-- The length of the list of models of a listing. -/
def listedLength? (page : Json) : Option Nat :=
  ((page.get? "data" <|> page.get? "models").bind Json.asItems?).map List.length

end GatewayProbe
