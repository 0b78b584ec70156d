/-
How long the requests of a run may take.

A client sends every request under the wait of its settings, except the one for the health of the
gateway. No part of a run sends anything but through its client, so this holds of every run:

* `Client.Allows` — the requests under that wait, and the one for health;
* `Client.send_allows`, `Client.requireHealth_allows` — what the client sends is of these;
* `survey_allows`, `modeRun_allows`, `surfaceRun_allows`, `providerRun_allows`, `storyRun_allows`,
  `detectionRun_allows`, `answerRun_allows` — and so is what the runs send.
-/
import GatewayProbe.Proofs.Exchange.Requests
import GatewayProbe.Run.Detection
import GatewayProbe.Run.Stories
import GatewayProbe.Run.Surface

namespace GatewayProbe

/-- The request may take the seconds of the settings, or it asks for the health of the gateway. -/
def Client.Allows (c : Client) (q : Request) : Prop :=
  q.budget = c.budget ∨ c.requestWithin? c.access.healthTimeout "GET" Route.health [] "" = some q

/-! ### The client -/

namespace Client

variable (c : Client)

theorem send_allows (method path : String) (headers : List (String × String)) (body : String) :
    (c.send method path headers body).OnlyAsks c.Allows := by
  unfold send sendWithin
  cases target? (c.access.address ++ path) with
  | none => exact .pure _
  | some target =>
    dsimp only
    split
    · exact .ask (Or.inl rfl) fun _ => .done _
    · exact .pure _

theorem get_allows (path : String) : (c.get path).OnlyAsks c.Allows :=
  (c.send_allows "GET" path [] "").bind fun _ => .pure _

theorem post_allows (path body : String) : (c.post path body).OnlyAsks c.Allows :=
  (c.send_allows "POST" path _ body).bind fun _ => .pure _

theorem postValue_allows (path : String) (body : Json) :
    (c.postValue path body).OnlyAsks c.Allows :=
  c.post_allows path body.compact

theorem postKeyed_allows (path : String) (body : Json) :
    (c.postKeyed path body).OnlyAsks c.Allows :=
  (c.send_allows "POST" path _ _).bind fun _ => .pure _

theorem postMessage_allows (body : Json) : (c.postMessage body).OnlyAsks c.Allows :=
  c.postKeyed_allows Route.messages body

theorem getPage_allows (path : String) : (c.getPage path).OnlyAsks c.Allows := by
  refine (c.get_allows path).bind fun reply => ?_
  cases reply <;> exact .pure _

theorem fetchPage_allows (path : String) : (fetchPage c path).OnlyAsks c.Allows :=
  (c.get_allows path).bind fun _ => .pure _

theorem requireHealth_allows : c.requireHealth.OnlyAsks c.Allows := by
  have hhealth : (c.sendWithin c.access.healthTimeout "GET" Route.health [] "").OnlyAsks
      c.Allows := by
    unfold sendWithin
    cases htarget : target? (c.access.address ++ Route.health) with
    | none => exact .pure _
    | some target =>
      dsimp only
      split
      · next hsend =>
        refine .ask (Or.inr ?_) fun _ => .done _
        rw [requestWithin?, if_pos hsend, htarget, Option.map_some]
      · exact .pure _
  refine hhealth.bind fun answer => ?_
  cases answer <;> exact .pure _

/-! ### The lists -/

theorem fetchList_allows {α : Type} (list path : String)
    (parse : String → Except GatewayError α) : (fetchList c list path parse).OnlyAsks c.Allows :=
  (c.getPage_allows path).bind fun _ => .pure _

theorem askFormat_allows (format : String) : (askFormat c format).OnlyAsks c.Allows :=
  (c.getPage_allows _).bind fun _ => .pure _

theorem askInventory_allows (source : ListSource) : (askInventory c source).OnlyAsks c.Allows := by
  refine (c.fetchList_allows _ _ _).bind fun endpoints => ?_
  split
  · exact .pure _
  · exact .pure _
  · refine (c.fetchList_allows _ _ _).bind fun models => ?_
    split <;> exact .pure _

end Client

section Runs

variable (setup : Setup)

theorem survey_allows (source : ListSource) (options : AssignOptions) :
    (setup.survey source options).OnlyAsks setup.client.Allows := by
  refine (setup.client.askInventory_allows source).bind fun inventory => ?_
  cases inventory <;> exact .pure _

theorem chooseModel_allows (source : ListSource) (requested : Option String) :
    (setup.chooseModel source requested).OnlyAsks setup.client.Allows :=
  (setup.client.fetchList_allows _ _ _).bind fun _ => .pure _

theorem surveyed_allows {α : Type} {rest : Inventory → Assignment → Session (Option α)}
    (hrest : ∀ inventory r, (rest inventory r).OnlyAsks setup.client.Allows)
    (source : ListSource) (options : AssignOptions) :
    (setup.surveyed source options rest).OnlyAsks setup.client.Allows := by
  refine setup.client.requireHealth_allows.bind fun health => ?_
  cases health with
  | error e => exact .pure _
  | ok _ =>
    refine (survey_allows setup source options).bind fun found => ?_
    cases found with
    | error e => exact .pure _
    | ok found => exact (hrest _ _).bind fun _ => .pure _

/-! ### All backends -/

theorem askMessage_allows (plan : Plan) (model : String) (stream : Bool) :
    (askMessage setup plan model stream).OnlyAsks setup.client.Allows := by
  refine (setup.client.postMessage_allows _).bind fun reply => ?_
  cases reply <;> exact .pure _

theorem checkWhole_allows (plan : Plan) (model name : String) :
    (checkWhole setup plan model name).OnlyAsks setup.client.Allows :=
  (askMessage_allows setup plan model false).bind fun _ => .pure _

theorem checkStreamed_allows (plan : Plan) (model name : String) :
    (checkStreamed setup plan model name).OnlyAsks setup.client.Allows :=
  (askMessage_allows setup plan model true).bind fun _ => .pure _

theorem checkBaseline_allows (plan : Plan) (model : String) :
    (checkBaseline setup plan model).OnlyAsks setup.client.Allows := by
  refine (setup.client.postValue_allows _ _).bind fun reply => ?_
  cases reply <;> exact .pure _

theorem checkBackend_allows (skipStreaming : Bool) (plan : Plan) :
    (checkBackend setup skipStreaming plan).OnlyAsks setup.client.Allows := by
  rw [checkBackend]
  cases plan.testModel with
  | error reason => exact .pure _
  | ok model =>
    refine (checkWhole_allows setup plan model _).bind fun whole => ?_
    cases skipStreaming with
    | true => exact (checkBaseline_allows setup plan model).bind fun _ => .pure _
    | false =>
      refine (checkStreamed_allows setup plan model _).bind fun streamed => ?_
      exact (checkBaseline_allows setup plan model).bind fun _ => .pure _

theorem judgeByStatus_allows (name : String) (body : Json) (accept : Nat → Bool) :
    (judgeByStatus setup name body accept).OnlyAsks setup.client.Allows := by
  refine (setup.client.postMessage_allows _).bind fun reply => ?_
  cases reply <;> exact .pure _

theorem checkEdgeCases_allows (r : Assignment) :
    (checkEdgeCases setup r).OnlyAsks setup.client.Allows := by
  refine (judgeByStatus_allows setup _ _ _).bind fun missing => ?_
  split
  · exact .pure _
  · split
    · exact .pure _
    · refine (judgeByStatus_allows setup _ _ _).bind fun system => ?_
      exact (judgeByStatus_allows setup _ _ _).bind fun _ => .pure _

theorem checkCounters_allows (observed : ShownModes) (name : String) :
    (checkCounters setup observed name).OnlyAsks setup.client.Allows :=
  (setup.client.getPage_allows _).bind fun _ => .pure _

theorem checkBackends_allows (options : ModeOptions) (inventory : Inventory) (r : Assignment) :
    (checkBackends setup options inventory r).OnlyAsks setup.client.Allows := by
  refine (Session.OnlyAsks.mapM (checkBackend_allows setup _) _).bind fun results => ?_
  refine (checkEdgeCases_allows setup r).skippable.bind fun edges => ?_
  exact (checkCounters_allows setup _ _).bind fun _ => .pure _

theorem modeRun_allows (options : ModeOptions) :
    (modeRun setup options).OnlyAsks setup.client.Allows :=
  surveyed_allows setup (checkBackends_allows setup options) _ _

/-! ### The whole surface -/

theorem internalPhase_allows : (internalPhase setup).OnlyAsks setup.client.Allows :=
  .mapM (fun _ => (setup.client.fetchPage_allows _).bind fun _ => .pure _) internalPages

theorem modelsPhase_allows (model : Option String) :
    (modelsPhase setup model).OnlyAsks setup.client.Allows := by
  refine (setup.client.fetchPage_allows _).bind fun list => ?_
  cases model with
  | none => exact .pure _
  | some id => exact (setup.client.fetchPage_allows _).bind fun _ => .pure _

theorem askStreamedChat_allows (model : String) :
    (askStreamedChat setup model).OnlyAsks setup.client.Allows := by
  refine (setup.client.postValue_allows _ _).bind fun reply => ?_
  cases reply with
  | error e => exact .pure _
  | ok reply =>
    dsimp only
    split
    · exact .pure _
    · split <;> exact .pure _

theorem proxyPhase_allows (model : Option String) (skipStreaming : Bool) :
    (proxyPhase setup model skipStreaming).OnlyAsks setup.client.Allows := by
  refine (setup.client.fetchPage_allows _).bind fun list => ?_
  cases model with
  | none => exact .pure _
  | some id =>
    refine (setup.client.postValue_allows _ _).bind fun chat => ?_
    refine (askStreamedChat_allows setup id).skippable.bind fun streamed => ?_
    exact (setup.client.postValue_allows _ _).bind fun _ => .pure _

theorem messageChecks_allows (model : String) (skipStreaming : Bool) :
    (messageChecks setup model skipStreaming).OnlyAsks setup.client.Allows := by
  have hstreamed : (do
      let reply ← setup.client.postMessage (Body.message model true none none)
      pure [judgeMessageStream setup.client.budget reply] : Session (List Record)).OnlyAsks
        setup.client.Allows :=
    (setup.client.postMessage_allows _).bind fun _ => .pure _
  refine (setup.client.postMessage_allows _).bind fun whole => ?_
  refine hstreamed.skippable.bind fun streamed => ?_
  exact (setup.client.postKeyed_allows _ _).bind fun _ => .pure _

theorem messagesAfter_allows (model : Option String) (skipStreaming : Bool) (models : Record) :
    (messagesAfter setup model skipStreaming models).OnlyAsks setup.client.Allows := by
  cases model with
  | none => exact .pure _
  | some id => exact (messageChecks_allows setup id skipStreaming).bind fun _ => .pure _

theorem anthropicPhase_allows (model : Option String) (skipStreaming : Bool) :
    (anthropicPhase setup model skipStreaming).OnlyAsks setup.client.Allows := by
  refine (setup.client.fetchPage_allows _).bind fun page => ?_
  split
  · exact messagesAfter_allows setup model skipStreaming _
  · exact .pure _
  · exact messagesAfter_allows setup model skipStreaming _

theorem modeChecks_allows (skipStreaming : Bool) (plan : Plan) (model : String) :
    (modeChecks setup skipStreaming plan model).OnlyAsks setup.client.Allows := by
  refine (checkWhole_allows setup plan model _).bind fun whole => ?_
  dsimp only
  split
  · exact .pure _
  · exact (checkStreamed_allows setup plan model _).bind fun _ => .pure _

theorem modesPhase_allows (r : Assignment) (candidates : List Representative)
    (skipStreaming : Bool) :
    (modesPhase setup r candidates skipStreaming).OnlyAsks setup.client.Allows := by
  rw [modesPhase]
  split
  · exact .pure _
  · have hcheck (c : Plan × String) :
        (modeChecks setup skipStreaming c.1 c.2).OnlyAsks setup.client.Allows :=
      modeChecks_allows setup skipStreaming c.1 c.2
    refine (Session.OnlyAsks.mapM hcheck _).bind fun results => ?_
    exact (checkCounters_allows setup _ _).bind fun _ => .pure _

theorem providersPhase_allows (inventory : Inventory) :
    (providersPhase setup inventory).OnlyAsks setup.client.Allows := by
  have hroute (type : String) : (checkProviderRoute setup type).OnlyAsks setup.client.Allows := by
    refine (setup.client.fetchPage_allows _).bind fun page => ?_
    split <;> exact .pure _
  rw [providersPhase]
  split
  · exact .pure _
  · exact .mapM hroute _

theorem headersPhase_allows (model : Option String) :
    (headersPhase setup model).OnlyAsks setup.client.Allows := by
  cases model with
  | none => exact .pure _
  | some id =>
    refine (setup.client.fetchPage_allows _).bind fun page => ?_
    exact (setup.client.postValue_allows _ _).bind fun _ => .pure _

theorem errorsPhase_allows : (errorsPhase setup).OnlyAsks setup.client.Allows := by
  refine (setup.client.postValue_allows _ _).bind fun unknown => ?_
  refine (setup.client.post_allows _ _).bind fun invalid => ?_
  exact (setup.client.postValue_allows _ _).bind fun _ => .pure _

theorem phasesBefore_allows (options : SurfaceOptions) (model : Option String) :
    (phasesBefore setup options model).OnlyAsks setup.client.Allows := by
  refine (internalPhase_allows setup).bind fun internal => ?_
  refine (modelsPhase_allows setup _).bind fun models => ?_
  refine (proxyPhase_allows setup _ _).bind fun proxy => ?_
  exact (anthropicPhase_allows setup _ _).skippable.bind fun _ => .pure _

theorem phasesAfter_allows (options : SurfaceOptions) (inventory : Inventory)
    (model : Option String) :
    (phasesAfter setup options inventory model).OnlyAsks setup.client.Allows := by
  refine (providersPhase_allows setup _).skippable.bind fun providers => ?_
  refine (headersPhase_allows setup _).bind fun headers => ?_
  exact (errorsPhase_allows setup).bind fun _ => .pure _

theorem surfacePhases_allows (options : SurfaceOptions) (inventory : Inventory)
    (r : Assignment) :
    (surfacePhases setup options inventory r).OnlyAsks setup.client.Allows := by
  refine (phasesBefore_allows setup options _).bind fun before => ?_
  refine (modesPhase_allows setup r _ _).skippable.bind fun modes => ?_
  cases modes with
  | none => exact .pure _
  | some modes => exact (phasesAfter_allows setup options inventory _).bind fun _ => .pure _

theorem surfaceRun_allows (options : SurfaceOptions) :
    (surfaceRun setup options).OnlyAsks setup.client.Allows :=
  surveyed_allows setup (surfacePhases_allows setup options) _ _

/-! ### Providers -/

theorem fetchListing_allows (providers : List Provider) :
    (fetchListing setup providers).OnlyAsks setup.client.Allows := by
  refine .foldlM (fun listing p => ?_) providers []
  have hlisted : (fetchListed setup p).OnlyAsks setup.client.Allows := by
    refine (setup.client.askFormat_allows _).bind fun models => ?_
    cases models <;> exact .pure _
  exact hlisted.bind fun _ => .pure _

theorem sendRouted_allows (r : RoutedRequest) :
    (sendRouted setup r).OnlyAsks setup.client.Allows := by
  obtain ⟨name, path, body⟩ := r
  cases body with
  | some body => exact (setup.client.postValue_allows path body).bind fun _ => .pure _
  | none => exact (setup.client.get_allows path).bind fun _ => .pure _

theorem routeProvider_allows (listing : ProviderListing Model) (limit : Option Nat)
    (p : Provider) : (routeProvider setup listing limit p).OnlyAsks setup.client.Allows := by
  unfold routeProvider
  dsimp only
  split
  · exact .pure _
  · exact .mapM (sendRouted_allows setup) _

theorem providerRun_allows (options : ProviderOptions) :
    (providerRun setup options).OnlyAsks setup.client.Allows := by
  refine setup.client.requireHealth_allows.bind fun health => ?_
  cases health with
  | error e => exact .pure _
  | ok _ =>
    refine (fetchListing_allows setup _).bind fun listing => ?_
    cases requireModels listing with
    | error e => exact .pure _
    | ok listing =>
      have hchecks : (providerChecks setup options listing).OnlyAsks setup.client.Allows := by
        refine (Session.OnlyAsks.mapM (sendRouted_allows setup) _).bind fun listed => ?_
        exact (Session.OnlyAsks.mapM (routeProvider_allows setup listing _) _).bind
          fun _ => .pure _
      exact hchecks.bind fun _ => .pure _

theorem tellStories_allows (planned : String × List Provider) :
    (tellStories setup planned).OnlyAsks setup.client.Allows := by
  obtain ⟨model, providers⟩ := planned
  have htell (p : Provider) : (tellStory setup model p).OnlyAsks setup.client.Allows := by
    refine (setup.client.postValue_allows _ _).bind fun reply => ?_
    cases reply <;> exact .pure _
  cases providers with
  | nil => exact .pure _
  | cons p providers => exact (Session.OnlyAsks.mapM htell _).bind fun _ => .pure _

theorem storyRun_allows (options : StoryOptions) :
    (storyRun setup options).OnlyAsks setup.client.Allows := by
  refine setup.client.requireHealth_allows.bind fun health => ?_
  cases health with
  | error e => exact .pure _
  | ok _ =>
    refine (fetchListing_allows setup _).bind fun listing => ?_
    dsimp only
    split
    · exact .pure _
    · have hchecks (plan : List (String × List Provider)) :
          (storyChecks setup plan).OnlyAsks setup.client.Allows :=
        (Session.OnlyAsks.mapM (tellStories_allows setup) plan).bind fun _ => .pure _
      exact (hchecks _).bind fun _ => .pure _

/-! ### One model -/

theorem detectionRun_allows (model : String) (quick : Bool) :
    (detectionRun setup model quick).OnlyAsks setup.client.Allows := by
  have hdetect (d : Detection) : (detect setup model d).OnlyAsks setup.client.Allows := by
    refine (setup.client.postValue_allows _ _).bind fun reply => ?_
    cases reply <;> exact .pure _
  exact (Session.OnlyAsks.mapM hdetect _).bind fun _ => .pure _

theorem askQuestions_allows (model : String) (options : AnswerOptions) (count : Nat)
    (draws : Draws) : (askQuestions setup model options count draws).OnlyAsks
      setup.client.Allows := by
  have hask (question : String) : (askQuestion setup model options question).OnlyAsks
      setup.client.Allows := by
    refine (setup.client.postValue_allows _ _).bind fun reply => ?_
    cases reply <;> exact .pure _
  induction count generalizing draws with
  | zero => exact .pure _
  | succ count ih =>
    rw [askQuestions]
    split
    · exact .pure _
    · exact (hask _).bind fun _ => (ih _).bind fun _ => .pure _

theorem answerRun_allows (model : String) (options : AnswerOptions) :
    (answerRun setup model options).OnlyAsks setup.client.Allows :=
  (askQuestions_allows setup model options _ _).bind fun _ => .pure _

end Runs
end GatewayProbe
