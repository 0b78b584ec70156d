/-
Nothing is lost in a run under the prefixes of providers.

The run keeps two accounts of its requests. Each leaves a record, and each response that names an
endpoint is counted for it. A gateway whose health was asked for can be sent all other requests too,
so the records are as many as the requests, and the two accounts differ by the responses that name
no endpoint and by the requests without a response:

* `isPlain_listRequests`, `isPlain_modelRequests` — the routes of all requests can be reached;
* `RoutedFrom`, `providerChecks_tried` — what the requests leave, and the trials of a run;
* `ProviderOutcome.Conserves`, `providerChecks_conserves` — both accounts are those of the exchanges;
* `providerRun_conserves` — the whole run.
-/
import GatewayProbe.Proofs.Exchange.Reach
import GatewayProbe.Proofs.Exchange.Trials
import GatewayProbe.Proofs.Run.Counting
import GatewayProbe.Proofs.Run.Listings
import GatewayProbe.Proofs.Run.ProviderRequests
import GatewayProbe.Proofs.Run.ServedCounts

namespace GatewayProbe

/-! ### All requests can be sent -/

theorem visible_routeName (p : Provider) :
    p.routeName.toList.all WebAddress.isVisible = true := by
  cases p <;> decide

theorem isPlain_listRequests {p : Provider} {r : RoutedRequest} (h : r ∈ listRequests p) :
    Route.IsPlain r.path := by
  obtain ⟨route, hroute, rfl⟩ := List.mem_map.mp h
  have hvisible : ∀ route ∈ p.listRoutes, route.toList.all WebAddress.isVisible = true := by
    cases p <;> decide
  exact Route.isPlain_under (visible_routeName p) (hvisible route hroute)

theorem isPlain_modelRequests {p : Provider} {m : Model} {r : RoutedRequest}
    (h : r ∈ modelRequests p m) : Route.IsPlain r.path := by
  obtain ⟨request, hrequest, rfl⟩ := List.mem_map.mp h
  have hknown : request.route ∈ embeddingRoutes ++ generativeRoutes := by
    refine List.mem_append.mpr ?_
    cases hembeds : m.embeds with
    | false =>
      rw [hembeds] at hrequest
      exact .inr (generative_of_text hrequest)
    | true =>
      rw [hembeds] at hrequest
      by_cases hp : p = .lmStudio
      · subst hp
        exact .inr (generative_of_lmStudio hrequest)
      · exact .inl (embedding_of_embedding hrequest hp)
  have hvisible : ∀ route ∈ embeddingRoutes ++ generativeRoutes,
      route.toList.all WebAddress.isVisible = true := by decide
  exact Route.isPlain_under (visible_routeName p) (hvisible _ hknown)

section Trials

variable (setup : Setup)

theorem RoutedRequest.isSome_request? {r : RoutedRequest} (plain : Route.IsPlain r.path)
    (h : (setup.client.requestWithin? setup.client.access.healthTimeout "GET" Route.health []
      "").isSome = true) : (r.request? setup).isSome = true := by
  rw [request?]
  cases r.body with
  | some body => exact Client.isSome_requestWithin? Route.isPlain_health plain (by decide) h
  | none => exact Client.isSome_requestWithin? Route.isPlain_health plain rfl h

/-! ### The trials -/

/-- What one trial leaves. -/
def routedBy (t : Trial RoutedRequest) : Routed := judgeRouted t.item.name t.reply

theorem sendRouted_tried (r : RoutedRequest) :
    (sendRouted setup r).Logs fun log routed => ∃ reply,
      setup.client.Tries (r.request? setup) log reply ∧ routed = routedBy ⟨r, log, reply⟩ := by
  obtain ⟨name, path, body⟩ := r
  cases body with
  | some body => exact (setup.client.postValue_tries path body).judged fun _ _ => rfl
  | none => exact (setup.client.get_tries path).judged fun _ _ => rfl

theorem status_judgeRouted (name : String) (answer : Answer) :
    (judgeRouted name (setup.client.received answer)).record.status = .ofBool answer.isGood := by
  cases answer <;> rfl

theorem served_judgeRouted (name : String) (answer : Answer) :
    (judgeRouted name (setup.client.received answer)).served = answer.served := by
  cases answer <;> rfl

theorem executed_routedBy (trials : List (Trial RoutedRequest)) :
    (trials.map routedBy).filter (·.record.status ≠ .skip) = trials.map routedBy := by
  refine List.filter_eq_self.mpr fun r hr => ?_
  obtain ⟨t, -, rfl⟩ := List.mem_map.mp hr
  refine decide_eq_true ?_
  show (judgeRouted t.item.name t.reply).record.status ≠ .skip
  cases t.reply with
  | error e => exact fun h => nomatch h
  | ok reply => exact Status.ofBool_ne_skip _

/-- Trials leave these, and beside them are only records of what was left out. -/
structure RoutedFrom (routed : List Routed) (trials : List (Trial RoutedRequest)) : Prop where
  executed : routed.filter (·.record.status ≠ .skip) = trials.map routedBy
  skipped : ∀ r ∈ routed, r.record.status = .skip → r.served = none

namespace RoutedFrom

variable {routed more : List Routed} {trials moreTrials : List (Trial RoutedRequest)}

theorem of_trials (trials : List (Trial RoutedRequest)) :
    RoutedFrom (trials.map routedBy) trials := by
  refine ⟨executed_routedBy trials, fun r hr hskip => ?_⟩
  have hexecuted := List.filter_eq_self.mp (executed_routedBy trials) r hr
  exact absurd hskip (of_decide_eq_true hexecuted)

theorem append (h : RoutedFrom routed trials) (hmore : RoutedFrom more moreTrials) :
    RoutedFrom (routed ++ more) (trials ++ moreTrials) := by
  refine ⟨?_, List.forall_mem_append.mpr ⟨h.skipped, hmore.skipped⟩⟩
  rw [List.filter_append, h.executed, hmore.executed, List.map_append]

theorem countP_eq (h : RoutedFrom routed trials) {status : Status} (hs : status ≠ .skip) :
    routed.countP (fun r => r.record.status = status) =
      (trials.map routedBy).countP fun r => r.record.status = status := by
  rw [← h.executed, countP_executed routed (fun r => r.record.status) hs]

theorem filterMap_served (h : RoutedFrom routed trials) :
    routed.filterMap Routed.served = (trials.map routedBy).filterMap Routed.served := by
  rw [← h.executed, List.filterMap_filter]
  refine List.filterMap_congr fun r hr => ?_
  split
  · rfl
  · next hskip =>
    exact h.skipped r hr (Classical.not_not.mp fun hne => hskip (decide_eq_true hne))

end RoutedFrom

theorem routeProvider_tried (options : ProviderOptions) (listing : ProviderListing Model)
    (p : Provider) :
    (routeProvider setup listing options.maxModels p).Logs fun log routed => ∃ trials,
      setup.client.TriedAll (RoutedRequest.request? setup)
          ((options.testedOf listing p).flatMap (modelRequests p)) log trials ∧
        ∀ {_ps : List Provider} {rest more}, RoutedFrom rest.flatten more →
          RoutedFrom (routed :: rest).flatten (trials ++ more) := by
  rw [routeProvider_eq]
  split
  · next hnone =>
    rw [options.testedOf_of_none (List.isEmpty_iff.mp hnone)]
    refine .pure ⟨[], .nil, fun hrest => RoutedFrom.append ⟨rfl, ?_⟩ hrest⟩
    exact List.forall_mem_singleton.mpr fun _ => rfl
  · refine (Session.Logs.mapM_tried (sendRouted_tried setup) _).mono ?_
    rintro log _ ⟨trials, htried, rfl⟩
    exact ⟨trials, htried, fun hrest => (RoutedFrom.of_trials trials).append hrest⟩

/-- A run tries all requests for the lists and for the models that are tested. -/
theorem providerChecks_tried (options : ProviderOptions) (listing : ProviderListing Model) :
    (providerChecks setup options listing).Logs fun log out => ∃ trials routed,
      setup.client.TriedAll (RoutedRequest.request? setup)
          (options.providers.flatMap listRequests ++ options.providers.flatMap fun p =>
            (options.testedOf listing p).flatMap (modelRequests p)) log trials ∧
        RoutedFrom routed trials ∧ out.usage = tallyOf routed ∧
        out.report.records = routed.map Routed.record := by
  have hlists := Session.Logs.mapM_tried (sendRouted_tried setup)
    (options.providers.flatMap listRequests)
  have hmodels := Session.Logs.mapM_triedAll
    (S := fun _ routed trials => RoutedFrom routed.flatten trials) (.of_trials [])
    (routeProvider_tried setup options listing) options.providers
  refine hlists.bind ?_
  rintro log _ ⟨trials, htried, rfl⟩
  refine hmodels.bind ?_
  rintro more routed ⟨moreTrials, hmore, hrouted⟩
  refine .pure ⟨trials ++ moreTrials, _, ?_, (RoutedFrom.of_trials trials).append hrouted, rfl, rfl⟩
  rw [List.append_nil]
  exact htried.append hmore

end Trials

/-! ### Both accounts -/

/-- The records and the counts of endpoints are accounts of the same exchanges. -/
structure ProviderOutcome.Conserves (log : List Exchange) (o : ProviderOutcome) : Prop where
  executed : o.report.passed + o.report.failed = log.length
  balanced : ServedTally.IsBalanced o.usage
  successes : (o.usage.map fun u => u.2.success).sum +
    log.countP (fun e => e.2.isUnnamed && e.2.isGood) = o.report.passed
  failures : (o.usage.map fun u => u.2.failure).sum +
    log.countP (fun e => e.2.isUnnamed && !e.2.isGood) + log.countP (fun e => e.2.isMissing) =
      o.report.failed
  nothing : o.report.passedShare? = none ↔ o.report.passed + o.report.failed = 0
  share : ∀ share, o.report.passedShare? = some share →
    share ≤ 100 ∧ (share = 100 ↔ o.report.failed = 0)

theorem conserves_of_routed {setup : Setup} {log : List Exchange} {items : List RoutedRequest}
    {trials : List (Trial RoutedRequest)} {routed : List Routed} {o : ProviderOutcome}
    (tried : setup.client.TriedAll (RoutedRequest.request? setup) items log trials)
    (sent : ∀ r ∈ items, (r.request? setup).isSome = true) (from_ : RoutedFrom routed trials)
    (usage : o.usage = tallyOf routed) (records : o.report.records = routed.map Routed.record) :
    o.Conserves log := by
  -- What is counted of a trial, its status and its endpoint, is told by its exchange alone.
  have hjudged : log.map (fun e => (Status.ofBool e.2.isGood, e.2.served)) =
      trials.map fun t => ((routedBy t).record.status, (routedBy t).served) := by
    refine tried.map_log sent fun t _ q answer hreply => ?_
    rw [routedBy, hreply, status_judgeRouted, served_judgeRouted]
  have hcount (status : Status) (hs : status ≠ .skip) :
      o.report.count status = log.countP fun e => Status.ofBool e.2.isGood = status :=
    calc o.report.count status
        = routed.countP fun r => r.record.status = status := by
          rw [Report.count, records, List.countP_map]
          rfl
      _ = (trials.map routedBy).countP fun r => r.record.status = status := from_.countP_eq hs
      _ = (trials.map fun t => ((routedBy t).record.status, (routedBy t).served)).countP
            fun told => told.1 = status := by
          rw [List.countP_map, List.countP_map]
          rfl
      _ = log.countP fun e => Status.ofBool e.2.isGood = status := by
          rw [← hjudged, List.countP_map]
          rfl
  have hpassed : o.report.passed = (log.map Prod.snd).countP Answer.isGood := by
    rw [Report.passed, hcount .pass (by decide), List.countP_map]
    refine List.countP_congr fun e _ => ?_
    cases hgood : e.2.isGood <;> simp [hgood, Status.ofBool]
  have hfailed : o.report.failed = (log.map Prod.snd).countP fun answer => !answer.isGood := by
    rw [Report.failed, hcount .fail (by decide), List.countP_map]
    refine List.countP_congr fun e _ => ?_
    cases hgood : e.2.isGood <;> simp [hgood, Status.ofBool]
  have hserved : routed.filterMap Routed.served = (log.map Prod.snd).filterMap Answer.served :=
    calc routed.filterMap Routed.served
        = (trials.map fun t => ((routedBy t).record.status, (routedBy t).served)).filterMap
            Prod.snd := by
          rw [from_.filterMap_served, List.filterMap_map, List.filterMap_map]
          rfl
      _ = (log.map Prod.snd).filterMap Answer.served := by
          rw [← hjudged, List.filterMap_map, List.filterMap_map]
          rfl
  -- Both accounts are now counts of the same answers.
  refine ⟨?_, ?_, ?_, ?_, Report.passedShare?_eq_none_iff, fun _ => Report.of_passedShare?⟩
  · have hlength : log.length = (log.map Prod.snd).length := (List.length_map _).symm
    rw [hpassed, hfailed, hlength, List.length_eq_countP_add_countP Answer.isGood]
    simp only [Bool.not_eq_true, Bool.decide_eq_false]
  · rw [usage]
    exact .foldl _ (List.forall_mem_nil _)
  · rw [hpassed, countP_isGood, usage, tallyOf, hserved,
      ServedTally.sum_count (p := fun good => good) rfl fun _ _ => rfl, List.map_nil, List.sum_nil,
      Nat.zero_add, List.countP_map]
    rfl
  · rw [hfailed, countP_not_isGood, usage, tallyOf, hserved,
      ServedTally.sum_count (p := fun good => !good) rfl fun _ _ => rfl, List.map_nil,
      List.sum_nil, Nat.zero_add, List.countP_map, List.countP_map]
    rfl

/-! ### The whole run -/

section Run

variable (setup : Setup) (options : ProviderOptions) {gateway : Gateway} {seen : List Request}

theorem providerChecks_conserves (listing : ProviderListing Model)
    (sent : (setup.client.requestWithin? setup.client.access.healthTimeout "GET" Route.health []
      "").isSome = true) :
    (providerChecks setup options listing).Logs fun log out =>
      log.length = ((options.providers.flatMap listRequests) ++
        (options.tested listing).flatMap fun t => modelRequests t.1 t.2).length ∧
      out.Conserves log := by
  refine (providerChecks_tried setup options listing).mono fun log out => ?_
  rintro ⟨trials, routed, htried, hrouted, husage, hrecords⟩
  rw [← options.flatMap_tested modelRequests] at htried
  have hsent : ∀ r ∈ (options.providers.flatMap listRequests) ++
      (options.tested listing).flatMap fun t => modelRequests t.1 t.2,
      (r.request? setup).isSome = true := by
    intro r hr
    refine RoutedRequest.isSome_request? setup ?_ sent
    rcases List.mem_append.mp hr with hr | hr
    · obtain ⟨p, -, hr⟩ := List.mem_flatMap.mp hr
      exact isPlain_listRequests hr
    · obtain ⟨t, -, hr⟩ := List.mem_flatMap.mp hr
      exact isPlain_modelRequests hr
  exact ⟨htried.length_log hsent, conserves_of_routed htried hsent hrouted husage hrecords⟩

/-- **Nothing is lost in a run under the prefixes of providers.** A run that comes to something sent
all requests for lists and for the models that are tested, and these are its exchanges after those
that list the models. As many checks passed or failed as requests were sent. The successes of all
endpoints, with the responses of status 200 that name none, are the checks that passed; their
failures, with the other responses that name none and the requests without a response, are those
that failed. The total of each endpoint is the sum of both. The share of passed checks is there if
anything was sent, is at most a hundred, and is a hundred only if no check failed. -/
theorem providerRun_conserves {out : ProviderOutcome}
    (h : ((providerRun setup options).run gateway seen).1 = .ok out) :
    let health := setup.client.askHealth.run gateway seen
    let fetched := (fetchListing setup options.providers).run gateway health.2
    ∃ log, (providerRun setup options).exchanges gateway seen =
        setup.client.askHealth.exchanges gateway seen ++
          (fetchListing setup options.providers).exchanges gateway health.2 ++ log ∧
      log.map Prod.fst = options.providers.flatMap setup.listsFor ++
        (options.tested fetched.1).flatMap (fun t => setup.postsFor t.1 t.2) ∧
      log.length = ((options.providers.flatMap listRequests) ++
        (options.tested fetched.1).flatMap fun t => modelRequests t.1 t.2).length ∧
      out.Conserves log := by
  intro health fetched
  rw [providerRun_eq] at h
  obtain ⟨well, listed⟩ := setup.listed_of_ok _ _ _ h
  obtain ⟨-, -, hrest⟩ := setup.listed_cases gateway seen options.providers id
    (providerChecks setup options)
  obtain ⟨hout, hlog⟩ := hrest well listed
  rw [h] at hout
  cases hout
  have hsent : (setup.client.requestWithin? setup.client.access.healthTimeout "GET" Route.health []
      "").isSome = true := by
    obtain ⟨r, hr, -⟩ := well
    exact Client.isSome_of_reply hr
  obtain ⟨hlength, hconserves⟩ :=
    providerChecks_conserves setup options fetched.1 hsent gateway fetched.2
  refine ⟨_, hlog, ?_, hlength, hconserves⟩
  rw [Session.map_fst_exchanges]
  exact providerChecks_asks setup options _ _ _

end Run

/-- A gateway that answers what is listed, and of the rest only some, and that not well. -/
def partialGateway : Gateway := fun _ q =>
  if q.method = "GET" then
    .reply { status := 200, headers := [("x-olla-endpoint", Text.toUtf8 "north")], chunks :=
      [⟨0, Text.toUtf8 "\x7b\"data\":[\x7b\"id\":\"phi4\"\x7d]\x7d"⟩] }
  else if q.target = Route.under "openai" "/v1/completions" then .closed
  else .reply { status := 500, headers := [], chunks := [] }

/-- One request of three is served by an endpoint, one is answered without a name, and one is not
answered. -/
theorem providerRun_conserves_partial :
    ∃ out log, ((providerRun ⟨{}⟩ { providers := [.openAi] }).run partialGateway []).1 = .ok out ∧
      out.Conserves log ∧ log.length = 3 ∧
      out.usage = [("north", ⟨1, 1, 0⟩)] ∧ out.report.failed = 2 ∧
      out.report.passedShare? = some 33 := by
  have hrun : ((providerRun ⟨{}⟩ { providers := [.openAi] }).run
      partialGateway []).1.toOption.map (fun o =>
        (o.usage, o.report.passed, o.report.failed, o.report.passedShare?)) =
      some ([("north", ⟨1, 1, 0⟩)], 1, 2, some 33) := by decide +kernel
  cases hout : ((providerRun ⟨{}⟩ { providers := [.openAi] }).run partialGateway []).1 with
  | error e =>
    rw [hout] at hrun
    cases hrun
  | ok out =>
    rw [hout] at hrun
    simp only [Except.toOption, Option.map_some, Option.some.injEq, Prod.mk.injEq] at hrun
    obtain ⟨husage, hpassed, hfailed, hshare⟩ := hrun
    obtain ⟨log, -, -, -, hconserves⟩ := providerRun_conserves ⟨{}⟩ { providers := [.openAi] } hout
    refine ⟨out, log, rfl, hconserves, ?_, husage, hfailed, hshare⟩
    rw [← hconserves.executed, hpassed, hfailed]

end GatewayProbe
