/-
Which endpoint serves which model.

Endpoints and models are listed apart and refer to each other loosely. A reference with an address
leads to the first endpoint of the same address up to blanks and slashes around it; any other
reference is the name of an endpoint. Only a model none of whose references leads anywhere is bound
through its type hint, to every endpoint of that type, and such bindings are approximate.

* `addressKey` — the address without what does not count;
* `locate?`, `servers` — the endpoints of a reference and of a model;
* `offers` — the bonds a model asks for;
* `bonds` — all pairs of a healthy endpoint and a model it serves, each once.
-/
import GatewayProbe.Inventory.Basic
import GatewayProbe.Text.Blank

namespace GatewayProbe

/-- How a binding was found. -/
inductive Basis where
  | url
  | name
  /-- Through the type hint of the model only. -/
  | typeHint
  deriving DecidableEq, Repr

/-- The binding may be wrong. -/
def Basis.isGuess : Basis → Bool
  | .typeHint => true
  | .url | .name => false

/-- An address without blanks around it and without slashes at its end. -/
def addressKey (url : String) : String :=
  String.ofList (Text.dropEndWhile (· = '/') (Text.trimChars url.toList))

/-- The endpoint has an address that is the same as a normalised one. -/
def Endpoint.hasUrl (e : Endpoint) (normal : String) : Bool :=
  (e.url.map addressKey) == some normal

/-- The position of the endpoint that a reference leads to. -/
def locate? (endpoints : List Endpoint) (r : ModelRef) : Option (Nat × Basis) :=
  if r.isAddress then
    (endpoints.findIdx? (·.hasUrl (addressKey r.endpoint))).map fun i => (i, .url)
  else (endpoints.findIdx? (·.name = Text.trim r.endpoint)).map fun i => (i, .name)

/-- Keeps the first pair of each position. -/
def firstOfPosition : List Nat → List (Nat × Basis) → List (Nat × Basis)
  | _, [] => []
  | seen, (i, source) :: rest =>
    if seen.contains i then firstOfPosition seen rest
    else (i, source) :: firstOfPosition (i :: seen) rest

/-- The positions of the endpoints of a type, up to the case of ASCII letters. -/
def positionsOfType (endpoints : List Endpoint) (type : String) : List Nat :=
  (List.range endpoints.length).filter fun i =>
    (endpoints[i]?).any fun e => Text.eqIgnoreCase e.type type

/-- The positions of the endpoints that serve a model, and how each was found. -/
def servers (endpoints : List Endpoint) (m : Model) : List (Nat × Basis) :=
  match firstOfPosition [] (m.refs.filterMap (locate? endpoints)) with
  | [] => match m.typeHint with
    | some type => (positionsOfType endpoints type).map fun i => (i, .typeHint)
    | none => []
  | found => found

/-- A model is served by the endpoint at a position. -/
structure Bond where
  position : Nat
  model : String
  source : Basis
  deriving DecidableEq, Repr

/-- The endpoint and the model of a bond. -/
def Bond.ends (b : Bond) : Nat × String := (b.position, b.model)

/-- The bonds of a model to all endpoints that serve it. -/
def offers (endpoints : List Endpoint) (m : Model) : List Bond :=
  (servers endpoints m).map fun (i, source) => ⟨i, m.id, source⟩

/-- The endpoint at a position is healthy. -/
def isUpAt (endpoints : List Endpoint) (i : Nat) : Bool := (endpoints[i]?).any (·.isUp)

/-- Adds a bond. An endpoint that is not healthy gets none, and no endpoint gets two to the same
id. -/
def addBond (endpoints : List Endpoint) (bonds : List Bond) (b : Bond) : List Bond :=
  if isUpAt endpoints b.position && !bonds.any (fun c => c.ends = b.ends) then bonds ++ [b]
  else bonds

/-- The bonds of all models that can chat, in their order. -/
def bonds (endpoints : List Endpoint) (models : List Model) : List Bond :=
  ((models.filter fun m => !m.embeds).flatMap (offers endpoints)).foldl (addBond endpoints) []

end GatewayProbe
