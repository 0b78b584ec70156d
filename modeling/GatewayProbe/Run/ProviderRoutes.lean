/-
Requests under the prefixes of providers.

Each provider's models are listed in its own format, and its own kinds of requests are sent through
its prefix. The gateway tells which endpoint served each, and these are counted.

* `Served`, `ServedTally` — requests counted by endpoint;
* `ProviderOutcome`, `providerRun` — what a run found out, and the run.
-/
import GatewayProbe.Delivery.Basic
import GatewayProbe.Run.Basic
import GatewayProbe.Run.Provider

namespace GatewayProbe

/-- The requests that one endpoint served. -/
structure Served where
  total : Nat := 0
  success : Nat := 0
  failure : Nat := 0
  deriving DecidableEq, Repr

/-- Counts one request. -/
def Served.count (u : Served) (success : Bool) : Served :=
  ⟨u.total + 1, u.success + success.toNat, u.failure + (!success).toNat⟩

/-- The requests that endpoints served, in ascending order of the endpoints' names. -/
abbrev ServedTally := List (String × Served)

namespace ServedTally

/-- Counts a request of an endpoint. -/
def insert (endpoint : String) (success : Bool) : ServedTally → ServedTally
  | [] => [(endpoint, Served.count {} success)]
  | (name, usage) :: rest =>
    if endpoint = name then (name, usage.count success) :: rest
    else if endpoint < name then (endpoint, Served.count {} success) :: (name, usage) :: rest
    else (name, usage) :: insert endpoint success rest

/-- Counts a response; one that names no endpoint is not counted. -/
def observe (tally : ServedTally) (endpoint : Option String) (success : Bool) : ServedTally :=
  match endpoint with
  | some name => tally.insert name success
  | none => tally

end ServedTally

/-- Which providers are tested, and with how many models each. -/
structure ProviderOptions where
  providers : List Provider := Provider.all
  /-- No limit where absent. -/
  maxModels : Option Nat := some 3

/-- What a run found out. -/
structure ProviderOutcome where
  listing : ProviderListing String
  usage : ServedTally
  report : Report

/-- The share of passed checks in whole percent, if any were made. -/
def Report.passedShare? (r : Report) : Option Nat :=
  let executed := r.passed + r.failed
  if executed > 0 then some (r.passed * 100 / executed) else none

/-- Fetches the models of one provider; none where they cannot be fetched. -/
def fetchListed (setup : Setup) (p : Provider) : Session (List Model) := do
  match ← askFormat setup.client p.name with
  | .ok models => return models
  | .error _ => return []

/-- Fetches the models of providers, in the order they are given. -/
def fetchListing (setup : Setup) (providers : List Provider) :
    Session (ProviderListing Model) :=
  providers.foldlM (fun listing p => do
    return ProviderListing.insert listing p (← fetchListed setup p)) []

/-- A listing with at least one model. -/
def requireModels (listing : ProviderListing Model) : Outcome (ProviderListing Model) :=
  if listing.all fun entry => entry.2.isEmpty then
    .error (.discovery "no models listed in any provider format")
  else .ok listing

/-- One request of a run: what it is called, its route, and its body if it has one. -/
structure RoutedRequest where
  name : String
  path : String
  body : Option Json

/-- The requests that list a provider's models. -/
def listRequests (p : Provider) : List RoutedRequest :=
  p.listRoutes.map fun route =>
    ⟨p.name ++ "/models " ++ route, Route.under p.routeName route, none⟩

/-- The requests for one model. -/
def modelRequests (p : Provider) (m : Model) : List RoutedRequest :=
  (p.requests m.id m.embeds).map fun r =>
    ⟨p.name ++ "/" ++ r.label ++ " (" ++ m.id ++ ")", Route.under p.routeName r.route, some r.body⟩

/-- What one request leaves: a record, and the endpoint that served it if one is named. -/
structure Routed where
  record : Record
  served : Option (String × Bool) := none

/-- Judges the reply to a request: only status 200 is a success. -/
def judgeRouted (name : String) (reply : Outcome Reply) : Routed :=
  match reply with
  | .error e => { record := ⟨name, .fail, e.message⟩ }
  | .ok r =>
    let good : Bool := r.status = 200
    let taken := if good then Delivery.time (seconds r.headOffset) else s!"HTTP {r.status}"
    let routed := match r.head.endpoint with
      | some endpoint => ", routed to " ++ endpoint
      | none => ""
    { record := ⟨name, .ofBool good, taken ++ routed⟩
      served := r.head.endpoint.map fun endpoint => (endpoint, good) }

/-- Sends one request. -/
def sendRouted (setup : Setup) (r : RoutedRequest) : Session Routed := do
  let reply ← match r.body with
    | some body => setup.client.postValue r.path body
    | none => setup.client.get r.path
  return judgeRouted r.name reply

/-- Sends the requests for the models of one provider. -/
def routeProvider (setup : Setup) (listing : ProviderListing Model) (limit : Option Nat)
    (p : Provider) : Session (List Routed) :=
  let models := listing.models p
  if models.isEmpty then
    return [{ record := ⟨p.name ++ "/routing", .skip, "no models in this format"⟩ }]
  else
    let tested := match limit with
      | some n => models.take n
      | none => models
    (tested.flatMap (modelRequests p)).mapM (sendRouted setup)

/-- The requests served, counted. -/
def tallyOf (routed : List Routed) : ServedTally :=
  (routed.filterMap Routed.served).foldl (fun tally s => tally.observe (some s.1) s.2) []

/-- The requests of a run for given models. -/
def providerChecks (setup : Setup) (options : ProviderOptions) (listing : ProviderListing Model) :
    Session ProviderOutcome := do
  let listed ← (options.providers.flatMap listRequests).mapM (sendRouted setup)
  let routed ← options.providers.mapM (routeProvider setup listing options.maxModels)
  let all := listed ++ routed.flatten
  return {
    listing := listing.sorted.map fun entry => (entry.1, entry.2.map Model.id)
    usage := tallyOf all
    report := ⟨"provider-routing", all.map Routed.record⟩ }

/-- Sends each provider's requests through its prefix. -/
def providerRun (setup : Setup) (options : ProviderOptions) :
    Session (Outcome ProviderOutcome) := do
  match ← setup.client.requireHealth with
  | .error e => return .error e
  | .ok () =>
    match requireModels (← fetchListing setup options.providers) with
    | .error e => return .error e
    | .ok listing => return .ok (← providerChecks setup options listing)

end GatewayProbe
