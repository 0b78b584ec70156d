/-
What a run through the prefixes of providers records.

Each model of the plan is asked through its providers in turn, and each of these streams leaves a
result and a record. A model without a provider leaves a record alone, which says so. The records
and the columns of the providers count the same results:

* `storyPairs` — the models of a plan, each with one of its providers;
* `Setup.told`, `storyChecks_tried` — the result of one trial, and the trials of a run;
* `StoriesTold` — results and records, model by model;
* `StoryOutcome.Agrees`, `storyChecks_agrees` — records and columns tell the same;
* `reports_agree` — both kinds of runs.
-/
import GatewayProbe.Proofs.Run.AnswerRecords
import GatewayProbe.Proofs.Run.Listings

namespace GatewayProbe

/-! ### The trials -/

/-- The models of a plan, each with one of its providers, in the order they are asked. -/
def storyPairs (plan : List (String × List Provider)) : List (String × Provider) :=
  plan.flatMap fun m => m.2.map fun p => (m.1, p)

/-- The record of a model that no provider lists. -/
def storySkip (model : String) : Record :=
  ⟨"streaming/" ++ model, .skip, "not listed by any selected provider"⟩

section Trials

variable (setup : Setup)

/-- The result of a trial. -/
def Setup.told (t : Trial (String × Provider)) : StoryResult :=
  let r : StoryResult := { provider := t.item.2, model := t.item.1 }
  match t.reply with
  | .error e => { r with error := some e.message }
  | .ok reply => measureStory setup (t.item.2.storyRequest t.item.1).2 reply r

/-- The request for a story, if it can be sent. -/
def storyRequest? (pair : String × Provider) : Option Request :=
  let request := (pair.2.storyRequest pair.1).1
  setup.client.postRequest? (Route.under pair.2.routeName request.route) request.body

/-- A result is of the pair that was tried. -/
theorem Setup.pair_told (t : Trial (String × Provider)) :
    ((setup.told t).model, (setup.told t).provider) = t.item := by
  rw [told]
  cases t.reply with
  | error e => rfl
  | ok reply =>
    dsimp only [measureStory]
    by_cases hsucceeded : reply.head.succeeded = true
    · rw [hsucceeded]
      cases reply.capture setup.client.budget (t.item.2.storyRequest t.item.1).2 <;> rfl
    · rw [Bool.eq_false_iff.mpr hsucceeded]
      rfl

theorem tellStory_tried (pair : String × Provider) :
    (tellStory setup pair.1 pair.2).Logs fun log r => ∃ reply,
      setup.client.Tries (storyRequest? setup pair) log reply ∧
        r = setup.told ⟨pair, log, reply⟩ := by
  exact (setup.client.postValue_tries _ _).judged fun _ reply => by cases reply <;> rfl

/-- Results and records of a plan, model by model. -/
inductive StoriesTold : List (String × List Provider) → List StoryResult → List Record → Prop
  | nil : StoriesTold [] [] []
  | skipped {plan results records} (model : String) (rest : StoriesTold plan results records) :
      StoriesTold ((model, []) :: plan) results (storySkip model :: records)
  | told {plan results records} (model : String) {providers : List Provider}
      (listed : providers ≠ []) {own : List StoryResult}
      (pairs : own.map (fun r => (r.model, r.provider)) = providers.map fun p => (model, p))
      (rest : StoriesTold plan results records) :
      StoriesTold ((model, providers) :: plan) (own ++ results)
        (own.map StoryResult.record ++ records)

/-- What the models of a plan leave, one after the other, and the trials it comes from. -/
structure StoryParts (plan : List (String × List Provider))
    (parts : List (List StoryResult × List Record)) (trials : List (Trial (String × Provider))) :
    Prop where
  results : parts.flatMap Prod.fst = trials.map setup.told
  told : StoriesTold plan (parts.flatMap Prod.fst) (parts.flatMap Prod.snd)

theorem tellStories_tried (m : String × List Provider) :
    (tellStories setup m).Logs fun log part => ∃ trials,
      setup.client.TriedAll (storyRequest? setup) (m.2.map fun p => (m.1, p)) log trials ∧
        ∀ {plan parts more}, StoryParts setup plan parts more →
          StoryParts setup (m :: plan) (part :: parts) (trials ++ more) := by
  obtain ⟨model, providers⟩ := m
  cases providers with
  | nil => exact .pure ⟨[], .nil, fun rest => ⟨rest.results, .skipped model rest.told⟩⟩
  | cons p providers =>
    have hall := Session.Logs.mapM_tried (tellStory_tried setup)
      ((p :: providers).map fun p => (model, p))
    rw [List.mapM_map] at hall
    refine hall.bind ?_
    rintro log _ ⟨trials, htried, rfl⟩
    refine .pure ⟨trials, ?_, fun rest => ⟨?_, .told model (List.cons_ne_nil _ _) ?_ rest.told⟩⟩
    · rwa [List.append_nil]
    · rw [List.flatMap_cons, rest.results, List.map_append]
    · rw [List.map_map, ← htried.items]
      exact List.map_congr_left fun t _ => setup.pair_told t

/-- A run tries all pairs of its plan, whatever comes of each. -/
theorem storyChecks_tried (plan : List (String × List Provider)) :
    (storyChecks setup plan).Logs fun log out => ∃ trials,
      setup.client.TriedAll (storyRequest? setup) (storyPairs plan) log trials ∧
        out.results = trials.map setup.told ∧
        StoriesTold plan out.results out.report.records := by
  have hparts := Session.Logs.mapM_triedAll ⟨rfl, .nil⟩ (tellStories_tried setup) plan
  refine hparts.bind ?_
  rintro log parts ⟨trials, htried, hparts⟩
  refine .pure ⟨trials, ?_, hparts.results, hparts.told⟩
  rwa [List.append_nil]

end Trials

/-! ### Records and columns -/

namespace StoryResult

theorem status_ne_skip (r : StoryResult) : r.status ≠ .skip := Status.ofBool_ne_skip _

theorem filter_skip_record (results : List StoryResult) :
    (results.map record).filter (·.status = .skip) = [] := by
  refine List.filter_eq_nil_iff.mpr fun r hr hskip => ?_
  obtain ⟨r, -, rfl⟩ := List.mem_map.mp hr
  exact r.status_ne_skip (of_decide_eq_true hskip)

theorem filter_record (results : List StoryResult) :
    (results.map record).filter (·.status ≠ .skip) = results.map record := by
  refine List.filter_eq_self.mpr fun r hr => ?_
  obtain ⟨r, -, rfl⟩ := List.mem_map.mp hr
  exact decide_eq_true r.status_ne_skip

theorem countP_pass_add_fail (results : List StoryResult) :
    results.countP (·.status = .pass) + results.countP (·.status = .fail) = results.length := by
  rw [List.length_eq_countP_add_countP (fun r => decide (r.status = .pass))]
  congr 1
  refine List.countP_congr fun r _ => ?_
  have hskip := r.status_ne_skip
  cases hstatus : r.status <;> simp_all

end StoryResult

namespace StoriesTold

variable {plan : List (String × List Provider)} {results : List StoryResult}
  {records : List Record}

theorem pairs_eq (h : StoriesTold plan results records) :
    results.map (fun r => (r.model, r.provider)) = storyPairs plan := by
  induction h with
  | nil => rfl
  | skipped model rest ih => exact ih
  | told model listed pairs rest ih =>
    rw [List.map_append, pairs, ih]
    rfl

theorem skips_eq (h : StoriesTold plan results records) :
    records.filter (·.status = .skip) =
      (plan.filter (·.2.isEmpty)).map fun m => storySkip m.1 := by
  induction h with
  | nil => rfl
  | skipped model rest ih => exact congrArg (storySkip model :: ·) ih
  | told model listed pairs rest ih =>
    rw [List.filter_append, StoryResult.filter_skip_record, ih,
      List.filter_cons_of_neg (by simpa using listed)]
    rfl

theorem others_eq (h : StoriesTold plan results records) :
    records.filter (·.status ≠ .skip) = results.map StoryResult.record := by
  induction h with
  | nil => rfl
  | skipped model rest ih => exact ih
  | told model listed pairs rest ih =>
    rw [List.filter_append, StoryResult.filter_record, ih, List.map_append]

theorem countP_eq (h : StoriesTold plan results records) {status : Status} (hs : status ≠ .skip) :
    records.countP (·.status = status) = results.countP (·.status = status) := by
  calc records.countP (·.status = status)
      = (records.filter (·.status ≠ .skip)).countP (·.status = status) := by
        rw [countP_executed records Record.status hs]
    _ = (results.map StoryResult.record).countP (·.status = status) := by rw [h.others_eq]
    _ = results.countP (·.status = status) := List.countP_map ..

end StoriesTold

section Columns

theorem Provider.mem_all (p : Provider) : p ∈ all := by
  cases p <;> decide

namespace StoryOutcome

variable (o : StoryOutcome)

/-- The results of all providers are all results. -/
theorem sum_of_provider (p : StoryResult → Bool) :
    (Provider.all.map fun provider =>
      (o.results.filter fun r => r.provider = provider).countP p).sum = o.results.countP p := by
  -- The provider is the key of a result, and no provider is missing among all.
  have hall : ∀ r ∈ o.results.filter p, r.provider ∈ Provider.all := fun r _ => Provider.mem_all _
  rw [List.countP_eq_length_filter, ← sum_countP_key (by decide) hall]
  simp only [List.countP_filter, Bool.and_comm]

/-- A column sums up to what it counts of each provider's results. -/
theorem sum_column {column : Provider × Nat × Nat → Nat} {p : StoryResult → Bool}
    (h : ∀ (provider : Provider) (own : List StoryResult),
      column (provider, own.countP (·.status = .pass), own.length) = own.countP p) :
    (o.byProvider.map column).sum = o.results.countP p := by
  rw [← sum_of_provider, byProvider]
  refine sum_filterMap fun provider => ?_
  dsimp only
  by_cases hnone : (o.results.filter fun r => r.provider = provider).isEmpty = true
  · rw [if_pos hnone, List.isEmpty_iff.mp hnone]
    rfl
  · rw [if_neg hnone]
    exact h _ _

theorem sum_passed : (o.byProvider.map fun row => row.2.1).sum =
    o.results.countP (·.status = .pass) :=
  o.sum_column fun _ _ => rfl

theorem sum_executed : (o.byProvider.map fun row => row.2.2).sum = o.results.length := by
  rw [← List.countP_true]
  exact o.sum_column fun _ own => (congrFun List.countP_true own).symm

/-- Results, records and columns of a run tell the same. -/
structure Agrees (plan : List (String × List Provider)) : Prop where
  pairs : o.results.map (fun r => (r.model, r.provider)) = storyPairs plan
  records : o.report.records.filter (·.status ≠ .skip) = o.results.map StoryResult.record
  skips : o.report.records.filter (·.status = .skip) =
    (plan.filter (·.2.isEmpty)).map fun m => storySkip m.1
  passed : (o.byProvider.map fun row => row.2.1).sum = o.report.passed
  executed : (o.byProvider.map fun row => row.2.2).sum = o.report.passed + o.report.failed
  results : o.report.passed + o.report.failed = o.results.length

end StoryOutcome

/-- A run tells the same of each stream in all places. -/
theorem storyChecks_agrees (setup : Setup) (plan : List (String × List Provider)) :
    (storyChecks setup plan).Always fun out => out.Agrees plan := by
  intro gateway seen
  obtain ⟨trials, -, -, htold⟩ := storyChecks_tried setup plan gateway seen
  generalize ((storyChecks setup plan).run gateway seen).1 = out at *
  have hpassed : out.report.passed = out.results.countP (·.status = .pass) :=
    htold.countP_eq (by decide)
  have hfailed : out.report.failed = out.results.countP (·.status = .fail) :=
    htold.countP_eq (by decide)
  have hall := StoryResult.countP_pass_add_fail out.results
  refine ⟨htold.pairs_eq, htold.others_eq, htold.skips_eq, ?_, ?_, ?_⟩
  · rw [out.sum_passed, hpassed]
  · rw [out.sum_executed, hpassed, hfailed, hall]
  · rw [hpassed, hfailed, hall]

end Columns

/-! ### The whole run -/

theorem servingProviders_eq_nil_iff {listing : ProviderListing String} {providers : List Provider}
    {choice : StoryModels} {id : String} :
    servingProviders listing providers choice id = [] ↔
      ∀ p ∈ providers, id ∉ listing.models p := by
  rw [servingProviders]
  have hnone : (providers.filter fun p => (listing.models p).contains id) = [] ↔
      ∀ p ∈ providers, id ∉ listing.models p := by
    simp [List.filter_eq_nil_iff]
  split
  · rw [List.take_eq_nil_iff, hnone]
    simp
  · exact hnone

/-- **Reports agree with what was measured.** A run over questions that were read puts as many as it
should; its samples, its records and its summary tell the same of each. A run through providers goes
on with a plan if the gateway is well and lists a model that can chat, and then its results, its
records and the columns of the providers tell the same of each model with each of its providers. The
models that are left out are those that no selected provider lists. -/
theorem reports_agree (setup : Setup) (gateway : Gateway) (seen : List Request) :
    (∀ (model : String) (files : Files) (path : String) (options : AnswerOptions),
      questionsAt files path = .ok options.questions →
      ((answerRun setup model options).run gateway seen).1.Agrees options.count) ∧
    (∀ plan, ((storyChecks setup plan).run gateway seen).1.Agrees plan) ∧
    ∀ options : StoryOptions,
      let health := setup.client.askHealth.run gateway seen
      let listing := generativeListing
        ((fetchListing setup options.providers).run gateway health.2).1
      let plan := planStories (idListing listing) options.providers options.models
      let result := ((storyRun setup options).run gateway seen).1
      (¬health.1.IsWell →
        ∃ reason, result = .error (.unreachable setup.client.access.address reason)) ∧
      (health.1.IsWell → (∀ entry ∈ listing, entry.2 = []) →
        ∃ reason, result = .error (.discovery reason)) ∧
      (health.1.IsWell → (∃ entry ∈ listing, entry.2 ≠ []) →
        ∃ out, result = .ok out ∧ out.Agrees plan) ∧
      ∀ m ∈ plan, m.2 = [] ↔ ∀ p ∈ options.providers, m.1 ∉ (idListing listing).models p := by
  refine ⟨fun model files path options hread => ?_, fun plan => ?_, fun options => ?_⟩
  · exact answerRun_agrees setup model (questionsAt_ne_nil hread) gateway seen
  · exact storyChecks_agrees setup plan gateway seen
  intro health listing plan result
  obtain ⟨hunwell, hnone, hsome⟩ := storyRun_cases setup options gateway seen
  refine ⟨hunwell, hnone, fun well listed => ⟨_, (hsome well listed).1, ?_⟩, fun m hm => ?_⟩
  · exact storyChecks_agrees setup plan gateway _
  · obtain ⟨id, -, rfl⟩ := List.mem_map.mp hm
    exact servingProviders_eq_nil_iff

/-- A gateway that lists one model everywhere and streams in one dialect. -/
def chatterGateway : Gateway := fun _ q =>
  .reply { status := 200, headers := [], chunks := [⟨0, Text.toUtf8
    (if q.method = "GET" then "\x7b\"data\":[\x7b\"id\":\"phi4\"\x7d]\x7d"
      else "\x7b\"response\":\"Once\"\x7d\n\x7b\"response\":\" upon\"\x7d")⟩] }

/-- Where one of two providers streams, all counts tell so. -/
theorem reports_agree_chatter :
    questionsAt (fun _ => .absent .missing) "questions.txt" = .ok usualQuestions ∧
    ((answerRun ⟨{}⟩ "phi4" { count := 3, draws := .seeded 7 }).run chatterGateway []).1.Agrees 3 ∧
    ∃ out, ((storyRun ⟨{}⟩ { providers := [.ollama, .vllm] }).run chatterGateway []).1 = .ok out ∧
      (out.byProvider.map fun row => row.2.1).sum = out.report.passed ∧
      out.report.passed + out.report.failed = out.results.length ∧ out.report.passed = 1 := by
  obtain ⟨hanswers, -, hstories⟩ := reports_agree ⟨{}⟩ chatterGateway []
  obtain ⟨-, -, hsome, -⟩ := hstories { providers := [.ollama, .vllm] }
  obtain ⟨out, hout, hagrees⟩ := hsome ⟨_, rfl, rfl⟩ (by decide +kernel)
  have hpassed : ((storyRun ⟨{}⟩ { providers := [.ollama, .vllm] }).run
      chatterGateway []).1.toOption.map (fun o => o.report.passed) = some 1 := by decide +kernel
  rw [hout] at hpassed
  refine ⟨rfl, ?_, out, hout, hagrees.passed, hagrees.results, Option.some.inj hpassed⟩
  exact hanswers "phi4" (fun _ => .absent .missing) "questions.txt"
    { count := 3, draws := .seeded 7 } rfl

end GatewayProbe
