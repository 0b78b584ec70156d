/-
The endpoints and models a gateway reports.

* `Endpoint`, `ModelRef`, `Model` — the records of both lists;
* `Model.embeds` — the models that cannot chat;
* `Inventory` — both lists, taken once at the start of a run.
-/
import GatewayProbe.Exchange.Route
import GatewayProbe.Text.Ascii

namespace GatewayProbe

/-- A backend of the gateway. -/
structure Endpoint where
  name : String
  type : String
  url : Option String := none
  status : String := "healthy"
  modelCount : Nat := 0
  deriving DecidableEq, Repr

namespace Endpoint

/-- The name of the route that serves this type of backend. -/
def routeName (e : Endpoint) : String :=
  if e.type = "openai-compatible" then "openai" else e.type

/-- The gateway reports the backend as healthy. -/
def isUp (e : Endpoint) : Bool := e.status = "healthy"

end Endpoint

/-- A reference from a model to an endpoint that serves it, by address or by name. -/
structure ModelRef where
  endpoint : String
  state : Option String := none
  deriving DecidableEq, Repr

/-- The reference is an address. -/
def ModelRef.isAddress (r : ModelRef) : Bool := Text.contains r.endpoint "://"

/-- A model the gateway knows. -/
structure Model where
  id : String
  refs : List ModelRef := []
  /-- A backend type, asked only where no reference leads to an endpoint. -/
  typeHint : Option String := none
  deriving DecidableEq, Repr

/-- An id names a model for embeddings, which cannot chat. -/
def isEmbeddingId (id : String) : Bool := Text.contains (Text.lowerAscii id) "embed"

/-- The model is one for embeddings. -/
def Model.embeds (m : Model) : Bool := isEmbeddingId m.id

/-- Which of the gateway's two lists of models is read. -/
inductive ListSource where
  /-- The list that refers to endpoints by address. -/
  | status
  /-- The list that refers to endpoints by name. -/
  | unified
  deriving DecidableEq, Repr

/-- The route of a list. -/
def ListSource.route : ListSource → String
  | .status => Route.recentModels
  | .unified => Route.modelList

/-- The endpoints and models at the start of a run. -/
structure Inventory where
  endpoints : List Endpoint
  models : List Model
  deriving DecidableEq, Repr

/-- The ids of the models that can chat, in their order. -/
def Inventory.generativeIds (s : Inventory) : List String :=
  (s.models.filter fun m => !m.embeds).map Model.id

end GatewayProbe
