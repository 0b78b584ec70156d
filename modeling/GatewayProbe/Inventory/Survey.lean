/-
Asking a gateway what it has.

* `askEndpoints`, `askModels` — one list each; any failure is a failure of discovery;
* `askFormat` — the models in the format of one provider;
* `askInventory` — both lists, neither of them empty.
-/
import GatewayProbe.Exchange.Client
import GatewayProbe.Inventory.Listing

namespace GatewayProbe

/-- An error met while a list was fetched, as a failure of discovery. -/
def discoveryError (list : String) (e : GatewayError) : GatewayError :=
  .discovery (list ++ ": " ++ e.message)

/-- Fetches and reads one list. -/
def fetchList {α : Type} (client : Client) (list path : String)
    (parse : String → Except GatewayError α) : Session (Outcome α) := do
  let body ← client.getPage path
  return (body.bind parse).mapError (discoveryError list)

/-- Fetches the endpoints. -/
def askEndpoints (client : Client) : Session (Outcome (List Endpoint)) :=
  fetchList client "endpoint list" Route.endpointList readEndpoints

/-- Fetches the models. -/
def askModels (client : Client) (source : ListSource) : Session (Outcome (List Model)) :=
  fetchList client "model list" source.route (parseModels source)

/-- Fetches the models in the format of one provider. -/
def askFormat (client : Client) (format : String) : Session (Outcome (List Model)) := do
  let body ← client.getPage (Route.modelListAs format)
  return body.bind readUnifiedPage

/-- Fetches both lists. A list that is empty is a failure of discovery. -/
def askInventory (client : Client) (source : ListSource) : Session (Outcome Inventory) := do
  match ← askEndpoints client with
  | .error e => return .error e
  | .ok [] => return .error (.discovery "gateway reported no endpoints")
  | .ok endpoints =>
    match ← askModels client source with
    | .error e => return .error e
    | .ok [] => return .error (.discovery "gateway reported no models")
    | .ok models => return .ok ⟨endpoints, models⟩

end GatewayProbe
