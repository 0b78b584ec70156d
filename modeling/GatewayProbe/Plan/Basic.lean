/-
What is tested on each backend.

A healthy endpoint becomes a plan: the models it serves, the mode it is expected to be served in,
and one representative model to test with. A model that is bound only approximately represents a
backend only where there is no other.

* `Plan`, `Assignment` — the plans, the endpoints left out and all bindings;
* `Plan.make` — the plan of one endpoint, with the model that represents it;
* `assign` — the plans for two lists.
-/
import GatewayProbe.Plan.Binding
import GatewayProbe.Plan.Choice
import GatewayProbe.Settings.ModeTables

namespace GatewayProbe

/-- Checks can be made in this mode. -/
def Mode.isKnown : Mode → Bool
  | .untested => false
  | .passthrough | .translated => true

/-- An endpoint and a model it serves. -/
structure Binding where
  endpoint : String
  model : String
  source : Basis
  deriving DecidableEq, Repr

/-- What is known about a healthy backend. -/
structure Plan where
  name : String
  type : String
  url : Option String := none
  status : String := "healthy"
  /-- The ids of the models it serves. -/
  models : List String := []
  mode : Mode
  /-- Those of them that were bound through a type hint only. -/
  approximate : List String := []
  selected : Option String := none
  deriving DecidableEq, Repr

namespace Plan

/-- The representative model was bound through a type hint only. -/
def isGuessed (p : Plan) : Bool := p.selected.any p.approximate.contains

/-- There is a mode to expect and a model to test with. -/
def isReady (p : Plan) : Bool := p.mode.isKnown && p.selected.isSome

end Plan

/-- The plans for two lists. -/
structure Assignment where
  /-- Healthy backends, in the order of their endpoints. -/
  backends : List Plan
  /-- The names of the endpoints that are not healthy. -/
  dropped : List String
  bindings : List Binding
  deriving DecidableEq, Repr

namespace Assignment

/-- The backends that can be tested. -/
def ready (r : Assignment) : List Plan := r.backends.filter (·.isReady)

/-- The bindings through a type hint only. -/
def guessedBindings (r : Assignment) : List Binding :=
  r.bindings.filter (·.source.isGuess)

end Assignment

/-- The candidates for the representative model: the models that are bound precisely, or all where
there are none. -/
def candidates (bonds : List Bond) : List String :=
  let precise := bonds.filter fun b => !b.source.isGuess
  (if precise.isEmpty then bonds else precise).map Bond.model

/-- The plan of an endpoint with its bonds, and how the next choice is made. -/
def Plan.make (modes : ModeTables) (selection : Selection) (e : Endpoint)
    (bonds : List Bond) : Plan × Selection :=
  let (selected, selection) := selection.pick? (candidates bonds)
  ({ name := e.name, type := e.type, url := e.url, status := e.status
     models := bonds.map Bond.model
     mode := modes.modeOf e.type
     approximate := (bonds.filter (·.source.isGuess)).map Bond.model
     selected }, selection)

/-- The plans of endpoints, the first of them at a position. Of endpoints with one name only the
first gets a plan. -/
def planFrom (modes : ModeTables) (includeEmpty : Bool) (bonds : List Bond) :
    Nat → List String → Selection → List Endpoint → List Plan
  | _, _, _, [] => []
  | i, seen, selection, e :: rest =>
    let own := bonds.filter fun b => b.position = i
    if seen.contains e.name || !e.isUp || (own.isEmpty && !includeEmpty) then
      planFrom modes includeEmpty bonds (i + 1) (e.name :: seen) selection rest
    else
      let (plan, selection) := Plan.make modes selection e own
      plan :: planFrom modes includeEmpty bonds (i + 1) (e.name :: seen) selection rest

/-- The names of the endpoints that are not healthy. Of endpoints with one name only the first
counts. -/
def droppedFrom (seen : List String) : List Endpoint → List String
  | [] => []
  | e :: rest =>
    if seen.contains e.name || e.isUp then droppedFrom (e.name :: seen) rest
    else e.name :: droppedFrom (e.name :: seen) rest

/-- A bond under the name of its endpoint. -/
def Bond.named? (endpoints : List Endpoint) (b : Bond) : Option Binding :=
  (endpoints[b.position]?).map fun e => ⟨e.name, b.model, b.source⟩

/-- How endpoints and models are joined. -/
structure AssignOptions where
  /-- Keep healthy endpoints that serve no model. -/
  includeEmpty : Bool := false
  selection : Selection := .first

/-- Joins endpoints and models into plans. -/
def assign (endpoints : List Endpoint) (models : List Model) (modes : ModeTables)
    (options : AssignOptions) : Assignment :=
  let bonds := bonds endpoints models
  { backends := planFrom modes options.includeEmpty bonds 0 [] options.selection endpoints
    dropped := droppedFrom [] endpoints
    bindings := bonds.filterMap (Bond.named? endpoints) }

end GatewayProbe
