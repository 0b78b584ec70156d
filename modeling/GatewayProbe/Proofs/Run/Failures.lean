/-
What is left of a stream that fails.

A stream may fail before, in or after its first pieces. Whatever had arrived by then, its result
holds the error and nothing that was measured, and its record tells the error in the same words. The
run goes on with what comes next:

* `AnswerSample.Failed`, `StoryResult.Failed`, `DetectionResult.Failed` — results that hold an error
  and no measurement;
* `Setup.sampled_failed`, `Setup.told_failed`, `Setup.detected_failed` — the results of streams that
  fail;
* `AnswerOutcome.Forgets`, `StoryOutcome.Forgets`, `DetectionOutcome.Forgets` — runs that try
  everything and keep nothing of what fails;
* `runs_forget` — all three kinds of runs.
-/
import GatewayProbe.Proofs.Run.Detections
import GatewayProbe.Proofs.Run.StoryRecords

namespace GatewayProbe

/-! ### Results without a measurement -/

/-- The sample holds an error and no measurement. -/
structure AnswerSample.Failed (e : GatewayError) (s : AnswerSample) : Prop where
  error : s.error = some e.message
  chunks : s.chunks = 0
  chars : s.chars = 0
  firstToken : s.firstToken = none
  evidence : s.evidence = {}
  quality : s.quality = .singleChunk

/-- The result holds an error and no measurement. -/
structure StoryResult.Failed (e : GatewayError) (r : StoryResult) : Prop where
  error : r.error = some e.message
  chunks : r.chunks = 0
  chars : r.chars = 0
  firstToken : r.firstToken = none
  totalTime : r.totalTime = none
  tokensPerSecond : r.tokensPerSecond = 0
  evidence : r.evidence = {}
  quality : r.quality = none

/-- The result holds an error and no delivery. -/
structure DetectionResult.Failed (e : GatewayError) (r : DetectionResult) : Prop where
  error : r.error = some e.message
  delivery : r.delivery = none

theorem AnswerSample.Failed.record_eq {e : GatewayError} {s : AnswerSample} (h : s.Failed e)
    (name : String) : s.record name = ⟨name, .fail, e.message⟩ := by
  rw [record, h.error]

theorem StoryResult.Failed.record_eq {e : GatewayError} {r : StoryResult} (h : r.Failed e) :
    r.record = ⟨r.provider.name ++ "/stream (" ++ r.model ++ ")", .fail, e.message⟩ := by
  rw [record, status, detail, h.error]
  rfl

theorem DetectionResult.Failed.record_eq {e : GatewayError} {r : DetectionResult}
    (h : r.Failed e) : r.record = ⟨"streaming/" ++ r.name, .fail, e.message⟩ := by
  rw [record, status, detail, h.delivery, h.error]
  rfl

theorem DetectionResult.Tells.failed {d : Detection} {e : GatewayError} {r : DetectionResult}
    (h : Tells d (.error e) r) : r.Failed e := by
  cases h
  exact ⟨rfl, rfl⟩

section Trials

variable (setup : Setup) {e : GatewayError}

theorem Setup.sampled_failed {t : Trial String}
    (h : StreamFails setup.client.budget .openAi t.reply e) : (setup.sampled t).Failed e := by
  rw [← streamIn_eq_error_iff] at h
  rw [sampled]
  -- Only a whole capture is measured, so the error meets a sample that is still empty.
  cases hreply : t.reply with
  | error e' =>
    rw [hreply] at h
    cases h
    exact ⟨rfl, rfl, rfl, rfl, rfl, rfl⟩
  | ok reply =>
    rw [hreply] at h
    dsimp only
    rw [measureAnswer]
    by_cases hsucceeded : reply.head.succeeded = true
    · rw [streamIn_succeeded hsucceeded] at h
      rw [hsucceeded, h]
      exact ⟨rfl, rfl, rfl, rfl, rfl, rfl⟩
    · rw [streamIn_failed hsucceeded] at h
      cases h
      rw [Bool.eq_false_iff.mpr hsucceeded]
      exact ⟨rfl, rfl, rfl, rfl, rfl, rfl⟩

theorem Setup.told_failed {t : Trial (String × Provider)}
    (h : StreamFails setup.client.budget (t.item.2.storyRequest t.item.1).2 t.reply e) :
    (setup.told t).Failed e := by
  rw [← streamIn_eq_error_iff] at h
  rw [told]
  cases hreply : t.reply with
  | error e' =>
    rw [hreply] at h
    cases h
    exact ⟨rfl, rfl, rfl, rfl, rfl, rfl, rfl, rfl⟩
  | ok reply =>
    rw [hreply] at h
    dsimp only
    rw [measureStory]
    by_cases hsucceeded : reply.head.succeeded = true
    · rw [streamIn_succeeded hsucceeded] at h
      rw [hsucceeded, h]
      exact ⟨rfl, rfl, rfl, rfl, rfl, rfl, rfl, rfl⟩
    · rw [streamIn_failed hsucceeded] at h
      cases h
      rw [Bool.eq_false_iff.mpr hsucceeded]
      exact ⟨rfl, rfl, rfl, rfl, rfl, rfl, rfl, rfl⟩

theorem Setup.detected_failed {t : Trial Detection} {dialect : Dialect}
    (hdialect : t.item.dialect = some dialect)
    (h : StreamFails setup.client.budget dialect t.reply e) : (setup.detected t).Failed e := by
  have hmeasured : setup.measured t = .error e := by
    rw [measured, hdialect]
    dsimp only
    rw [streamIn_eq_error_iff.mpr h]
    rfl
  have htells := setup.detected_tells t
  rw [hmeasured] at htells
  exact htells.failed

end Trials

/-! ### Runs -/

/-- A run over questions tries all that are drawn, and keeps nothing of a stream that fails. -/
structure AnswerOutcome.Forgets (setup : Setup) (model : String) (options : AnswerOptions)
    (log : List Exchange) (trials : List (Trial String)) (o : AnswerOutcome) : Prop where
  tried : setup.client.TriedAll (options.request? setup model)
    (drawnQuestions options.questions options.count options.draws) log trials
  samples : o.samples = trials.map setup.sampled
  records : o.report.records.length = trials.length
  failed : ∀ (i : Nat) (t : Trial String) (e : GatewayError), trials[i]? = some t →
    StreamFails setup.client.budget .openAi t.reply e → (setup.sampled t).Failed e ∧
      o.report.records[i]? = some ⟨s!"latency/q{1 + i}", .fail, e.message⟩

/-- A run through providers tries all pairs of its plan, and keeps nothing of a stream that
fails. -/
structure StoryOutcome.Forgets (setup : Setup) (plan : List (String × List Provider))
    (log : List Exchange) (trials : List (Trial (String × Provider))) (o : StoryOutcome) :
    Prop where
  tried : setup.client.TriedAll (storyRequest? setup) (storyPairs plan) log trials
  results : o.results = trials.map setup.told
  records : o.report.records.filter (·.status ≠ .skip) =
    trials.map fun t => (setup.told t).record
  failed : ∀ t ∈ trials, ∀ e,
    StreamFails setup.client.budget (t.item.2.storyRequest t.item.1).2 t.reply e →
    (setup.told t).Failed e ∧ (setup.told t).record =
      ⟨t.item.2.name ++ "/stream (" ++ t.item.1 ++ ")", .fail, e.message⟩

/-- A run over deliveries tries all its detections, and keeps nothing of a stream that fails. -/
structure DetectionOutcome.Forgets (setup : Setup) (model : String) (quick : Bool)
    (log : List Exchange) (trials : List (Trial Detection)) (o : DetectionOutcome) : Prop where
  tried : setup.client.TriedAll (Detection.request? setup model) (detectionsOf quick) log trials
  results : o.results = trials.map setup.detected
  records : o.report.records = trials.map fun t => (setup.detected t).record
  failed : ∀ t ∈ trials, ∀ dialect e, t.item.dialect = some dialect →
    StreamFails setup.client.budget dialect t.reply e →
    (setup.detected t).Failed e ∧
      (setup.detected t).record = ⟨"streaming/" ++ t.item.name, .fail, e.message⟩

section Runs

variable (setup : Setup)

theorem answerRun_forgets (model : String) (options : AnswerOptions) :
    (answerRun setup model options).Logs fun log out =>
      ∃ trials, out.Forgets setup model options log trials := by
  refine (answerRun_tried setup model options).mono fun log out => ?_
  rintro ⟨trials, htried, hsamples, -, hrecords⟩
  refine ⟨trials, htried, hsamples, ?_, fun i t e ht hfails => ?_⟩
  · have hlength := congrArg List.length (status_sampleRecords 1 out.samples)
    rw [List.length_map, List.length_map] at hlength
    rw [hrecords, hlength, hsamples, List.length_map]
  · have hfailed := setup.sampled_failed hfails
    refine ⟨hfailed, ?_⟩
    rw [hrecords, getElem?_sampleRecords, hsamples, List.getElem?_map, ht]
    exact congrArg some (hfailed.record_eq _)

theorem storyChecks_forgets (plan : List (String × List Provider)) :
    (storyChecks setup plan).Logs fun log out => ∃ trials, out.Forgets setup plan log trials := by
  refine (storyChecks_tried setup plan).mono fun log out => ?_
  rintro ⟨trials, htried, hresults, htold⟩
  refine ⟨trials, htried, hresults, ?_, fun t _ e hfails => ?_⟩
  · rw [htold.others_eq, hresults, List.map_map]
    rfl
  · have hfailed := setup.told_failed hfails
    have hpair := setup.pair_told t
    refine ⟨hfailed, ?_⟩
    rw [hfailed.record_eq, ← hpair]

theorem detectionRun_forgets (model : String) (quick : Bool) :
    (detectionRun setup model quick).Logs fun log out =>
      ∃ trials, out.Forgets setup model quick log trials := by
  refine (detectionRun_tried setup model quick).mono fun log out => ?_
  rintro ⟨trials, htried, hresults, hrecords⟩
  refine ⟨trials, htried, hresults, hrecords, fun t _ dialect e hdialect hfails => ?_⟩
  have hfailed := setup.detected_failed hdialect hfails
  refine ⟨hfailed, ?_⟩
  rw [hfailed.record_eq, (setup.detected_tells t).name_eq]

end Runs

/-- **Nothing is kept of a stream that fails.** However the stream of a question, of a model with a
provider or of a detection fails, its result holds the error and no measurement, its record fails
and tells the error in the same words, and the run goes on: everything is tried, in order. A run
through providers comes so far if the gateway is well and lists a model that can chat. -/
theorem runs_forget (setup : Setup) (gateway : Gateway) (seen : List Request) :
    (∀ (model : String) (options : AnswerOptions),
      let run := answerRun setup model options
      ∃ trials, (run.run gateway seen).1.Forgets setup model options
        (run.exchanges gateway seen) trials) ∧
    (∀ options : StoryOptions,
      let health := setup.client.askHealth.run gateway seen
      let listing := generativeListing
        ((fetchListing setup options.providers).run gateway health.2).1
      let plan := planStories (idListing listing) options.providers options.models
      let run := storyRun setup options
      health.1.IsWell → (∃ entry ∈ listing, entry.2 ≠ []) →
        ∃ out earlier log trials, (run.run gateway seen).1 = .ok out ∧
          run.exchanges gateway seen = earlier ++ log ∧ out.Forgets setup plan log trials) ∧
    ∀ (model : String) (quick : Bool),
      let run := detectionRun setup model quick
      ∃ trials, (run.run gateway seen).1.Forgets setup model quick
        (run.exchanges gateway seen) trials := by
  refine ⟨fun model options => ?_, fun options => ?_, fun model quick => ?_⟩
  · exact answerRun_forgets setup model options gateway seen
  · intro health listing plan run well listed
    obtain ⟨-, -, hrest⟩ := storyRun_cases setup options gateway seen
    obtain ⟨hout, hlog⟩ := hrest well listed
    obtain ⟨trials, hforgets⟩ := storyChecks_forgets setup plan gateway
      ((fetchListing setup options.providers).run gateway health.2).2
    exact ⟨_, _, _, trials, hout, hlog, hforgets⟩
  · exact detectionRun_forgets setup model quick gateway seen

/-- A gateway that lists one model everywhere and breaks off each stream after its first piece. -/
def breakingGateway : Gateway := fun seen q =>
  match chatterGateway seen q with
  | .reply r => .reply (if q.method = "GET" then r else { r with ending := .broken })
  | answer => answer

/-- The piece that did arrive is not counted. -/
theorem runs_forget_broken :
    ∃ out log trials,
      ((storyRun ⟨{}⟩ { providers := [.ollama] }).run breakingGateway []).1 = .ok out ∧
      out.Forgets ⟨{}⟩ [("phi4", [.ollama])] log trials ∧
      out.results.map (fun r => (r.chunks, r.error)) =
        [(0, some "connection failed: the connection broke")] := by
  obtain ⟨-, hstories, -⟩ := runs_forget ⟨{}⟩ breakingGateway []
  obtain ⟨out, -, log, trials, hout, -, hforgets⟩ :=
    hstories { providers := [.ollama] } ⟨_, rfl, rfl⟩ (by decide +kernel)
  have hplan : planStories (idListing (generativeListing
      ((fetchListing ⟨{}⟩ [.ollama]).run breakingGateway [⟨"GET", Route.health, [], "", 5⟩]).1))
      [.ollama] .preferred = [("phi4", [.ollama])] := by decide +kernel
  have hresults : ((storyRun ⟨{}⟩ { providers := [.ollama] }).run
      breakingGateway []).1.toOption.map (fun o => o.results.map fun r => (r.chunks, r.error)) =
      some [(0, some "connection failed: the connection broke")] := by decide +kernel
  rw [hout] at hresults
  exact ⟨out, log, trials, hout, hplan ▸ hforgets, Option.some.inj hresults⟩

end GatewayProbe
