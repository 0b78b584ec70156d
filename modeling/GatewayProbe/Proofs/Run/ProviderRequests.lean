/-
The requests a run sends under the prefixes of providers.

Once the models are listed nothing that is answered changes what is asked: for every provider in
turn, and for each of its models up to the limit, the requests of that provider are posted. What a
model is asked for depends on its id, but not with every provider:

* `HoldsEmbed`, `embeds_iff` — the models for embeddings;
* `ProviderRequest.Suits` — embeddings of these alone, and text of the rest alone;
* `suits_iff` — the one provider whose requests do not all suit;
* `ProviderOptions.tested` — the models that are tested, with their providers;
* `providerChecks_asks` — what is asked once the models are listed;
* `providerRun_posts` — what the whole run posts, and where it suits;
* `providerRun_posts_unsuited` — a run that asks a model for embeddings for text.
-/
import GatewayProbe.Proofs.Exchange.Requests
import GatewayProbe.Proofs.Run.Start
import GatewayProbe.Run.ProviderRoutes

namespace GatewayProbe

/-! ### Models for embeddings, and routes for them -/

/-- The id holds the word, in whatever capitals. -/
def HoldsEmbed (id : String) : Prop :=
  ∃ part, part <:+: id.toList ∧ part.map Char.toLower = "embed".toList

theorem embeds_iff {m : Model} : m.embeds = true ↔ HoldsEmbed m.id := by
  have hlower : (Text.lowerAscii m.id).toList = m.id.toList.map Char.toLower :=
    String.toList_ofList
  rw [Model.embeds, isEmbeddingId, Text.contains_iff, hlower]
  constructor
  · rintro ⟨before, after, h⟩
    obtain ⟨front, last, hid, hfront, rfl⟩ := List.map_eq_append_iff.mp h.symm
    obtain ⟨first, part, rfl, rfl, hpart⟩ := List.map_eq_append_iff.mp hfront
    exact ⟨part, ⟨first, last, hid.symm⟩, hpart⟩
  · rintro ⟨part, ⟨before, after, h⟩, hpart⟩
    refine ⟨before.map Char.toLower, after.map Char.toLower, ?_⟩
    rw [← hpart, ← h, List.map_append, List.map_append]

/-- The routes that give embeddings. -/
def embeddingRoutes : List String := ["/v1/embeddings", "/api/embeddings"]

/-- The routes that give text. -/
def generativeRoutes : List String :=
  ["/v1/chat/completions", "/api/v1/chat/completions", "/v1/completions", "/api/generate",
   "/api/chat"]

theorem not_generative : ∀ route ∈ embeddingRoutes, route ∉ generativeRoutes := by decide

theorem not_embedding : ∀ route ∈ generativeRoutes, route ∉ embeddingRoutes := by decide

/-- The request suits the model of an id: a model for embeddings is asked for those alone, and
another one for text alone. -/
def ProviderRequest.Suits (r : ProviderRequest) (id : String) : Prop :=
  (HoldsEmbed id → r.route ∈ embeddingRoutes ∧ r.route ∉ generativeRoutes) ∧
  (¬HoldsEmbed id → r.route ∈ generativeRoutes ∧ r.route ∉ embeddingRoutes)

section Requests

variable {p : Provider} {id : String} {r : ProviderRequest}

/-- Every request names the model it is for. -/
theorem model_of_mem_requests {embedding : Bool} (h : r ∈ p.requests id embedding) :
    r.body.get? "model" = some (.text id) := by
  revert r
  cases p <;> cases embedding <;>
    simp only [Provider.requests, Provider.embeddingRequest, Provider.chatBody,
      Bool.false_eq_true, if_false, if_true, List.forall_mem_cons, List.not_mem_nil,
      false_implies, implies_true, and_true]
  all_goals
    repeat' apply And.intro
    all_goals exact Json.get?_ofFields (by simp)

theorem generative_of_text (h : r ∈ p.requests id false) : r.route ∈ generativeRoutes := by
  revert r
  cases p <;> simp [Provider.requests, generativeRoutes]

theorem embedding_of_embedding (h : r ∈ p.requests id true) (hp : p ≠ .lmStudio) :
    r.route ∈ embeddingRoutes := by
  revert r
  cases p <;> simp_all [Provider.requests, Provider.embeddingRequest, embeddingRoutes]

theorem generative_of_lmStudio {embedding : Bool}
    (h : r ∈ Provider.lmStudio.requests id embedding) : r.route ∈ generativeRoutes := by
  revert r
  simp [Provider.requests, generativeRoutes]

theorem requests_ne_nil {embedding : Bool} : p.requests id embedding ≠ [] := by
  cases p <;> cases embedding <;> exact List.cons_ne_nil _ _

end Requests

/-- All requests for a model suit it, unless it is one for embeddings and the provider is the one
that has no request for those. -/
theorem suits_iff {p : Provider} {m : Model} :
    (∀ r ∈ p.requests m.id m.embeds, r.Suits m.id) ↔ ¬(p = .lmStudio ∧ HoldsEmbed m.id) := by
  constructor
  · rintro hall ⟨rfl, hembed⟩
    obtain ⟨r, hr⟩ := List.exists_mem_of_ne_nil _ (requests_ne_nil (p := .lmStudio))
    exact ((hall r hr).1 hembed).2 (generative_of_lmStudio hr)
  · intro hno r hr
    refine ⟨fun hembed => ?_, fun htext => ?_⟩
    · rw [embeds_iff.mpr hembed] at hr
      have hroute := embedding_of_embedding hr fun hp => hno ⟨hp, hembed⟩
      exact ⟨hroute, not_generative _ hroute⟩
    · rw [Bool.eq_false_iff.mpr (mt embeds_iff.mp htext)] at hr
      have hroute := generative_of_text hr
      exact ⟨hroute, not_embedding _ hroute⟩

/-! ### What is asked once the models are listed -/

/-- The models of one provider that are tested. -/
def ProviderOptions.testedOf (options : ProviderOptions) (listing : ProviderListing Model)
    (p : Provider) : List Model :=
  match options.maxModels with
  | some n => (listing.models p).take n
  | none => listing.models p

theorem ProviderOptions.testedOf_of_none (options : ProviderOptions)
    {listing : ProviderListing Model} {p : Provider} (h : listing.models p = []) :
    options.testedOf listing p = [] := by
  rw [testedOf, h]
  split
  · exact List.take_nil
  · rfl

/-- The models that are tested, with their providers. -/
def ProviderOptions.tested (options : ProviderOptions) (listing : ProviderListing Model) :
    List (Provider × Model) :=
  options.providers.flatMap fun p => (options.testedOf listing p).map fun m => (p, m)

theorem ProviderOptions.flatMap_tested {β : Type} (options : ProviderOptions)
    {listing : ProviderListing Model} (f : Provider → Model → List β) :
    ((options.tested listing).flatMap fun t => f t.1 t.2) =
      options.providers.flatMap fun p => (options.testedOf listing p).flatMap (f p) := by
  rw [tested, List.flatMap_assoc]
  simp only [List.flatMap_map]

section Asked

variable (setup : Setup)

/-- The request that a run sends, if it can be sent. -/
def RoutedRequest.request? (r : RoutedRequest) : Option Request :=
  match r.body with
  | some body => setup.client.postRequest? r.path body
  | none => setup.client.getRequest? r.path

/-- The requests that list models under the prefix of a provider. -/
def Setup.listsFor (p : Provider) : List Request :=
  (listRequests p).filterMap (RoutedRequest.request? setup)

/-- The requests that are posted for a model under the prefix of a provider. -/
def Setup.postsFor (p : Provider) (m : Model) : List Request :=
  (p.requests m.id m.embeds).filterMap fun r =>
    setup.client.postRequest? (Route.under p.routeName r.route) r.body

theorem sendRouted_asks (r : RoutedRequest) :
    (sendRouted setup r).Asks (r.request? setup).toList := by
  obtain ⟨name, path, body⟩ := r
  cases body with
  | some body => exact (setup.client.postValue_asks path body).map
  | none => exact (setup.client.get_asks path).map

theorem mapM_sendRouted_asks (rs : List RoutedRequest) :
    (rs.mapM (sendRouted setup)).Asks (rs.filterMap (RoutedRequest.request? setup)) := by
  rw [List.filterMap_eq_flatMap_toList]
  exact .mapM (sendRouted_asks setup) rs

theorem filterMap_modelRequests (p : Provider) (m : Model) :
    (modelRequests p m).filterMap (RoutedRequest.request? setup) = setup.postsFor p m := by
  rw [modelRequests, List.filterMap_map, Setup.postsFor]
  exact List.filterMap_congr fun r _ => by rw [Function.comp_apply, RoutedRequest.request?]

theorem routeProvider_eq (options : ProviderOptions) (listing : ProviderListing Model)
    (p : Provider) :
    routeProvider setup listing options.maxModels p =
      if (listing.models p).isEmpty then
        pure [{ record := ⟨p.name ++ "/routing", .skip, "no models in this format"⟩ }]
      else ((options.testedOf listing p).flatMap (modelRequests p)).mapM (sendRouted setup) := by
  rw [ProviderOptions.testedOf]
  cases options.maxModels <;> rfl

theorem routeProvider_asks (options : ProviderOptions) (listing : ProviderListing Model)
    (p : Provider) :
    (routeProvider setup listing options.maxModels p).Asks
      ((options.testedOf listing p).flatMap (setup.postsFor p)) := by
  rw [routeProvider_eq]
  split
  · next hnone =>
    rw [options.testedOf_of_none (List.isEmpty_iff.mp hnone)]
    exact .pure _
  · have h := mapM_sendRouted_asks setup ((options.testedOf listing p).flatMap (modelRequests p))
    rw [List.filterMap_flatMap, funext (filterMap_modelRequests setup p)] at h
    exact h

theorem providerChecks_asks (options : ProviderOptions) (listing : ProviderListing Model) :
    (providerChecks setup options listing).Asks (options.providers.flatMap setup.listsFor ++
      (options.tested listing).flatMap fun t => setup.postsFor t.1 t.2) := by
  have hlists := mapM_sendRouted_asks setup (options.providers.flatMap listRequests)
  have hposts := Session.Asks.mapM (routeProvider_asks setup options listing) options.providers
  rw [List.filterMap_flatMap] at hlists
  rw [options.flatMap_tested setup.postsFor]
  exact hlists.bind fun listed => hposts.map

theorem fetchListing_asks (providers : List Provider) :
    (fetchListing setup providers).Asks
      (providers.filterMap fun p => setup.client.getRequest? (Route.modelListAs p.name)) := by
  have hlisted (p : Provider) : (fetchListed setup p).Asks
      (setup.client.getRequest? (Route.modelListAs p.name)).toList := by
    intro gateway seen
    have hformat := (setup.client.getPage_asks (Route.modelListAs p.name)).map
      (g := fun body => body.bind readUnifiedPage)
    rw [fetchListed, Session.asked_bind, askFormat, hformat gateway seen]
    split <;> rw [Session.asked_pure, List.append_nil]
  rw [List.filterMap_eq_flatMap_toList]
  exact .foldlM (fun listing p => (hlisted p).map) providers []

end Asked

/-! ### The whole run -/

theorem method_of_mem_postsFor {setup : Setup} {p : Provider} {m : Model} {q : Request}
    (h : q ∈ setup.postsFor p m) : q.method = "POST" := by
  obtain ⟨r, -, hr⟩ := List.mem_filterMap.mp h
  exact Client.method_of_requestWithin? hr

theorem method_of_mem_listsFor {setup : Setup} {p : Provider} {q : Request}
    (h : q ∈ setup.listsFor p) : q.method = "GET" := by
  rw [Setup.listsFor, listRequests, List.filterMap_map] at h
  obtain ⟨route, -, hr⟩ := List.mem_filterMap.mp h
  rw [Function.comp_apply, RoutedRequest.request?] at hr
  exact Client.method_of_requestWithin? hr

/-- Lists without a model have none to test. -/
theorem tested_of_none {options : ProviderOptions} {listing : ProviderListing Model}
    (h : ∀ entry ∈ listing, entry.2 = []) : options.tested listing = [] := by
  have hmodels (p : Provider) : listing.models p = [] := by
    rw [ProviderListing.models]
    cases hlookup : listing.lookup p with
    | none => rfl
    | some models =>
      obtain ⟨before, after, rfl, -⟩ := List.lookup_eq_some_iff.mp hlookup
      exact h (p, models) (by simp)
  have htested (p : Provider) : options.testedOf listing p = [] := by
    rw [ProviderOptions.testedOf, hmodels]
    split <;> simp
  simp [ProviderOptions.tested, htested]

section Run

variable (setup : Setup) (options : ProviderOptions) {gateway : Gateway} {seen : List Request}

/-- A run that is not over goes on to the models that were listed. -/
theorem asked_providerRun_well (well : (setup.client.askHealth.run gateway seen).1.IsWell)
    {listing : ProviderListing Model}
    (hlisting : ((fetchListing setup options.providers).run gateway
      (setup.client.askHealth.run gateway seen).2).1 = listing) :
    ∃ gets : List Request, (∀ q ∈ gets, q.method = "GET") ∧
      (providerRun setup options).asked gateway seen =
        gets ++ (options.tested listing).flatMap fun t => setup.postsFor t.1 t.2 := by
  have hstart : ∀ q ∈ (setup.client.requestWithin? setup.client.access.healthTimeout "GET"
      Route.health [] "").toList, q.method = "GET" :=
    fun q hq => Client.method_of_requestWithin? (Option.mem_toList.mp hq)
  have hlisted : ∀ q ∈ options.providers.filterMap fun p =>
      setup.client.getRequest? (Route.modelListAs p.name), q.method = "GET" := by
    intro q hq
    obtain ⟨p, -, hp⟩ := List.mem_filterMap.mp hq
    exact Client.method_of_requestWithin? hp
  have hlists : ∀ q ∈ options.providers.flatMap setup.listsFor, q.method = "GET" := by
    intro q hq
    obtain ⟨p, -, hp⟩ := List.mem_flatMap.mp hq
    exact method_of_mem_listsFor hp
  rw [providerRun, Session.asked_bind, Client.requireHealth_well setup.client well,
    Client.requireHealth_asks]
  dsimp only
  rw [Session.asked_bind, fetchListing_asks, hlisting, requireModels]
  by_cases hnone : (List.all listing fun entry => entry.2.isEmpty) = true
  · have hnothing : options.tested listing = [] :=
      tested_of_none fun entry hentry =>
        List.isEmpty_iff.mp (List.all_eq_true.mp hnone entry hentry)
    rw [if_pos hnone]
    refine ⟨_, ?_, by rw [hnothing, List.flatMap_nil, List.append_nil]⟩
    dsimp only
    rw [Session.asked_pure, List.append_nil]
    exact List.forall_mem_append.mpr ⟨hstart, hlisted⟩
  · rw [if_neg hnone]
    dsimp only
    rw [Session.asked_bind, Session.asked_pure, List.append_nil, providerChecks_asks,
      ← List.append_assoc, ← List.append_assoc]
    refine ⟨_, ?_, rfl⟩
    exact List.forall_mem_append.mpr ⟨List.forall_mem_append.mpr ⟨hstart, hlisted⟩, hlists⟩

theorem asked_providerRun_unwell (unwell : ¬(setup.client.askHealth.run gateway seen).1.IsWell) :
    ∀ q ∈ (providerRun setup options).asked gateway seen, q.method = "GET" := by
  obtain ⟨reason, hrun⟩ := Client.requireHealth_unwell setup.client unwell
  intro q hq
  rw [providerRun, Session.asked_bind, hrun] at hq
  dsimp only at hq
  rw [Session.asked_pure, List.append_nil, Client.requireHealth_asks] at hq
  exact Client.method_of_requestWithin? (Option.mem_toList.mp hq)

end Run

/-- **What a run under the prefixes of providers posts.** Nothing to a gateway that is not well;
otherwise the requests for the models that are tested, in their order, and nothing else that is not
a page to get. Every request names its model, and all requests for a model suit it, unless it is a
model for embeddings tested with the one provider that has no request for those. -/
theorem providerRun_posts (setup : Setup) (options : ProviderOptions) (gateway : Gateway)
    (seen : List Request) :
    let health := setup.client.askHealth.run gateway seen
    let listing := ((fetchListing setup options.providers).run gateway health.2).1
    let asked := (providerRun setup options).asked gateway seen
    let posts := asked.filter fun q => q.method ≠ "GET"
    (¬health.1.IsWell → posts = []) ∧
    (health.1.IsWell →
      posts = (options.tested listing).flatMap fun t => setup.postsFor t.1 t.2) ∧
    (∃ sent, ((providerRun setup options).run gateway seen).2 = seen ++ sent ∧
      sent.Sublist asked) ∧
    ∀ t ∈ options.tested listing,
      (∀ r ∈ t.1.requests t.2.id t.2.embeds, r.body.get? "model" = some (.text t.2.id)) ∧
      ((∀ r ∈ t.1.requests t.2.id t.2.embeds, r.Suits t.2.id) ↔
        ¬(t.1 = .lmStudio ∧ HoldsEmbed t.2.id)) := by
  intro health listing asked posts
  refine ⟨fun unwell => ?_, fun well => ?_, Session.seen_of_asked _, fun t _ =>
    ⟨fun r hr => model_of_mem_requests hr, suits_iff⟩⟩
  · refine List.filter_eq_nil_iff.mpr fun q hq => ?_
    simpa using asked_providerRun_unwell setup options unwell q hq
  · obtain ⟨gets, hgets, hasked⟩ := asked_providerRun_well setup options well rfl
    have hnone : gets.filter (fun q => q.method ≠ "GET") = [] :=
      List.filter_eq_nil_iff.mpr fun q hq => by simpa using hgets q hq
    have hall : (((options.tested listing).flatMap fun t => setup.postsFor t.1 t.2).filter
        fun q => q.method ≠ "GET") =
          (options.tested listing).flatMap fun t => setup.postsFor t.1 t.2 := by
      refine List.filter_eq_self.mpr fun q hq => ?_
      obtain ⟨t, -, hq⟩ := List.mem_flatMap.mp hq
      simp [method_of_mem_postsFor hq]
    show asked.filter _ = _
    rw [show asked = _ from hasked, List.filter_append, hnone, List.nil_append]
    exact hall

/-- A gateway that is well and lists one model, for embeddings. -/
def embedderGateway : Gateway := fun _ q =>
  .reply { status := 200, headers := [], chunks := [⟨0, Text.toUtf8
    (if q.target = Route.health then ""
      else "\x7b\"data\":[\x7b\"id\":\"nomic-embed-text\"\x7d]\x7d")⟩] }

/-- A model for embeddings is asked to chat. -/
theorem providerRun_posts_unsuited :
    HoldsEmbed "nomic-embed-text" ∧ "/v1/chat/completions" ∉ embeddingRoutes ∧
    ∃ q ∈ ((providerRun ⟨{}⟩ { providers := [.lmStudio] }).run embedderGateway []).2,
      q.method = "POST" ∧ q.target = Route.under "lm-studio" "/v1/chat/completions" ∧
      q.body = (Provider.chatBody "nomic-embed-text").compact := by
  have hembed : Model.embeds { id := "nomic-embed-text" } = true := by decide
  exact ⟨embeds_iff.mp hembed, by decide, by decide +kernel⟩

end GatewayProbe
