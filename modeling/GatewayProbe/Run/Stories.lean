/-
Streams through the prefixes of providers.

A story is asked of models through the prefix of each provider that lists them, and the delivery is
measured.

* `StoryModels`, `planStories` — which models are asked through which providers;
* `StoryResult`, `StoryOutcome` — what came of it;
* `storyRun` — the run.
-/
import GatewayProbe.Run.Answers
import GatewayProbe.Run.ProviderRoutes

namespace GatewayProbe

/-- Which models are asked. -/
inductive StoryModels where
  /-- These, through every provider that lists them. -/
  | explicit (ids : List String)
  /-- The first few of each provider, each through the first provider that lists it. -/
  | sample
  /-- The preferred models that are listed, or all where there are none. -/
  | preferred
  deriving DecidableEq, Repr

/-- Which providers and models a run covers. -/
structure StoryOptions where
  providers : List Provider := Provider.all
  models : StoryModels := .preferred

/-- How many models of each provider are a sample. -/
def sampleCount : Nat := 3

/-- The models that a choice covers. -/
def plannedModels (listing : ProviderListing String) (providers : List Provider) :
    StoryModels → List String
  | .explicit ids => ids
  | .sample => Text.ordered (providers.flatMap fun p => (listing.models p).take sampleCount)
  | .preferred =>
    let all := Text.ordered (providers.flatMap listing.models)
    let preferred := favourites.filter all.contains
    if preferred.isEmpty then all else preferred

/-- The providers through which a model is asked. -/
def servingProviders (listing : ProviderListing String) (providers : List Provider)
    (choice : StoryModels) (id : String) : List Provider :=
  let serving := providers.filter fun p => (listing.models p).contains id
  if choice = .sample then serving.take 1 else serving

/-- The models of a run with the providers through which each is asked. -/
def planStories (listing : ProviderListing String) (providers : List Provider)
    (choice : StoryModels) : List (String × List Provider) :=
  (plannedModels listing providers choice).map fun id =>
    (id, servingProviders listing providers choice id)

/-- What came of one stream. -/
structure StoryResult where
  provider : Provider
  model : String
  endpoint : Option String := none
  chunks : Nat := 0
  firstToken : Option Float := none
  totalTime : Option Float := none
  chars : Nat := 0
  /-- An estimate: four characters are a token. -/
  tokensPerSecond : Float := 0
  evidence : Evidence := {}
  quality : Option Smoothness := none
  error : Option String := none

namespace StoryResult

/-- More than one piece of text is needed to call it a stream. -/
def status (r : StoryResult) : Status := .ofBool (r.error.isNone && r.chunks > 1)

/-- What is odd about a stream that did not fail. -/
def warnings (r : StoryResult) : List String :=
  if r.error.isSome then []
  else if r.chunks ≤ 1 then [s!"no streaming detected (only {r.chunks} chunk)"]
  else if r.chunks < 5 then ["low chunk count, may not be true streaming"]
  else if r.firstToken.any (· > 5.0) then ["slow time to first token"]
  else []

/-- What is shown of a result. -/
def detail (r : StoryResult) : String :=
  match r.error with
  | some e => e
  | none => s!"{r.chunks} chunks, ttft " ++ (r.firstToken.map Delivery.time).getD "-" ++ ", ~" ++
      Decimal.fixed 1 r.tokensPerSecond ++ " tok/s"

/-- The record of a result. -/
def record (r : StoryResult) : Record :=
  ⟨r.provider.name ++ "/stream (" ++ r.model ++ ")", r.status, r.detail⟩

end StoryResult

/-- What a run found out. -/
structure StoryOutcome where
  results : List StoryResult
  report : Report

namespace StoryOutcome

/-- The results that passed. -/
def passing (o : StoryOutcome) : List StoryResult :=
  o.results.filter fun r => r.status = .pass

/-- The mean time to the first text. -/
def meanFirstToken (o : StoryOutcome) : Option Float :=
  mean? (o.passing.filterMap StoryResult.firstToken)

/-- The mean speed. -/
def meanSpeed (o : StoryOutcome) : Option Float :=
  mean? (o.passing.map StoryResult.tokensPerSecond)

/-- The results of each provider that has any: how many passed, and how many there are. -/
def byProvider (o : StoryOutcome) : List (Provider × Nat × Nat) :=
  Provider.all.filterMap fun p =>
    let own := o.results.filter fun r => r.provider = p
    if own.isEmpty then none
    else some (p, own.countP (fun r => r.status = .pass), own.length)

end StoryOutcome

/-- Measures a reply. -/
def measureStory (setup : Setup) (dialect : Dialect) (reply : Reply)
    (r : StoryResult) : StoryResult :=
  let r := { r with endpoint := reply.head.endpoint }
  if !reply.head.succeeded then { r with error := some (statusError reply).message }
  else match reply.capture setup.client.budget dialect with
    | .error e => { r with error := some e.message }
    | .ok capture =>
      let total := seconds capture.total
      let delivery := Delivery.ofEvents setup.settings.timing capture.events
      let chars := capture.charCount
      { r with
        chunks := capture.pieceCount
        firstToken := capture.firstContent?.map seconds
        totalTime := some total
        chars
        tokensPerSecond := if total > 0 then Float.ofNat (chars / 4) / total else 0
        evidence := delivery.evidence
        quality := some delivery.quality }

/-- Asks a model for a story through a provider. -/
def tellStory (setup : Setup) (model : String) (p : Provider) :
    Session StoryResult := do
  let (request, dialect) := p.storyRequest model
  let r : StoryResult := { provider := p, model }
  match ← setup.client.postValue (Route.under p.routeName request.route) request.body with
  | .error e => return { r with error := some e.message }
  | .ok reply => return measureStory setup dialect reply r

/-- Asks one model through its providers; a model without any is left out with a record. -/
def tellStories (setup : Setup) : String × List Provider →
    Session (List StoryResult × List Record)
  | (model, []) =>
    return ([], [⟨"streaming/" ++ model, .skip, "not listed by any selected provider"⟩])
  | (model, providers) => do
    let results ← providers.mapM (tellStory setup model)
    return (results, results.map StoryResult.record)

/-- The models of a listing that can chat. -/
def generativeListing (listing : ProviderListing Model) : ProviderListing Model :=
  listing.map fun entry => (entry.1, entry.2.filter fun m => !m.embeds)

/-- The ids of the models of a listing. -/
def idListing (listing : ProviderListing Model) : ProviderListing String :=
  listing.map fun entry => (entry.1, entry.2.map Model.id)

/-- Streams a story from each planned model. -/
def storyChecks (setup : Setup) (plan : List (String × List Provider)) :
    Session StoryOutcome := do
  let parts ← plan.mapM (tellStories setup)
  return { results := parts.flatMap Prod.fst
           report := ⟨"provider-streaming", parts.flatMap Prod.snd⟩ }

/-- Streams through the prefixes of providers. -/
def storyRun (setup : Setup) (options : StoryOptions) :
    Session (Outcome StoryOutcome) := do
  match ← setup.client.requireHealth with
  | .error e => return .error e
  | .ok () =>
    let listing := generativeListing (← fetchListing setup options.providers)
    match requireModels listing with
    | .error e => return .error e
    | .ok models =>
      return .ok (← storyChecks setup
        (planStories (idListing models) options.providers options.models))

end GatewayProbe
