/-
What all runs share.

Each run starts from settings, checks that the gateway is there, and then sends one request at a
time. An unreachable gateway and a failed discovery end a run; any other error becomes a failed
record, and the run goes on.

* `Setup` — the settings of a run and the client made from them;
* `Setup.survey` — both lists and the plans made from them;
* `Setup.surveyed` — a run that goes on with them;
* `chosenModel` — the model of a run that needs only one.
-/
import GatewayProbe.Inventory.Survey
import GatewayProbe.Plan.Basic
import GatewayProbe.Records
import GatewayProbe.Text.Ordered

namespace GatewayProbe

/-- Models that are preferred where a run needs only one, the first of them most. -/
def favourites : List String := ["phi4:latest", "phi3.5:latest", "phi3:latest"]

/-- The ids a run with one model may choose from, in order: those of models that can chat, or all
where there are none. -/
def candidateIds (models : List Model) : List String :=
  let generative := models.filter fun m => !m.embeds
  Text.ordered ((if generative.isEmpty then models else generative).map Model.id)

/-- The model of a run that needs only one: the requested one if it is listed, or else the most
preferred, or else the first. -/
def chosenModel (models : List Model) (requested : Option String) : Outcome String :=
  if models.isEmpty then .error (.discovery "no models available")
  else
    let ids := candidateIds models
    match requested with
    | some id =>
      if ids.contains id then .ok id
      else .error (.discovery ("model '" ++ id ++ "' not found in available models"))
    | none =>
      match favourites.find? ids.contains <|> ids.head? with
      | some id => .ok id
      | none => .error (.discovery "no models available")

/-- What a run starts from. -/
structure Setup where
  settings : Settings

namespace Setup

/-- The client of a run. -/
def client (s : Setup) : Client := ⟨s.settings.access⟩

/-- Fetches both lists and joins them into plans. -/
def survey (s : Setup) (source : ListSource) (options : AssignOptions) :
    Session (Outcome (Inventory × Assignment)) := do
  match ← askInventory s.client source with
  | .error e => return .error e
  | .ok inventory =>
    return .ok (inventory, assign inventory.endpoints inventory.models s.settings.modes options)

/-- Asks for health and lists, and goes on with what they give. -/
def surveyed {α : Type} (s : Setup) (source : ListSource) (options : AssignOptions)
    (rest : Inventory → Assignment → Session (Option α)) : Session (Except Halt α) := do
  match ← s.client.requireHealth with
  | .error e => return .error (.gateway e)
  | .ok () =>
    match ← s.survey source options with
    | .error e => return .error (.gateway e)
    | .ok (inventory, r) => return unlessOverflow (← rest inventory r)

/-- Fetches the models and selects one. -/
def chooseModel (s : Setup) (source : ListSource) (requested : Option String) :
    Session (Outcome String) := do
  return (← askModels s.client source).bind (chosenModel · requested)

end Setup

/-- The error of a reply whose status tells of failure. -/
def statusError (reply : Reply) : GatewayError :=
  .badStatus reply.status (Text.excerpt 100 reply.textOrEmpty)

end GatewayProbe
