/-
What the records of runs quote.

Requests through the prefixes of providers, streamed stories, watched deliveries and answers leave
records that quote ids and the errors of failed replies. A story may also quote an id that was asked
for and never listed.

* `providerRun_hears`, `storyRun_hears`, `detectionRun_hears`, `answerRun_hears` — the records of
  each run;
* `modeRun_hears`, `surfaceRun_hears` — those of the runs that survey the gateway first;
* `ReportingRun`, `ReportingRun.session_hears` — any run that leaves a report.
-/
import GatewayProbe.Proofs.Run.AnswerRecords
import GatewayProbe.Proofs.Run.Listings
import GatewayProbe.Proofs.Run.SurfaceQuotations
import GatewayProbe.Proofs.Settings.Checks

namespace GatewayProbe

variable {T : String → Prop} (setup : Setup)

theorem modeRun_hears (options : ModeOptions) :
    (modeRun setup options).Hears T fun found => ∀ outcome, found = .ok outcome →
      ∀ record ∈ outcome.report.records, record.QuotesOnly T :=
  surveyed_hears setup fun inventory h => checkBackends_hears setup options inventory h.plans

theorem surfaceRun_hears (options : SurfaceOptions) :
    (surfaceRun setup options).Hears T fun found => ∀ outcome, found = .ok outcome →
      ∀ record ∈ outcome.report.records, record.QuotesOnly T :=
  surveyed_hears setup fun _ h => surfacePhases_hears setup options h h.plans

/-! ### Listings -/

namespace ProviderListing

variable {α : Type} {P : α → Prop} {listing : ProviderListing α}

/-- All models of a listing have a property. -/
def All (P : α → Prop) (listing : ProviderListing α) : Prop :=
  ∀ entry ∈ listing, ∀ m ∈ entry.2, P m

theorem All.models (h : listing.All P) (p : Provider) : ∀ m ∈ listing.models p, P m := by
  rw [ProviderListing.models]
  cases hlookup : listing.lookup p with
  | none => exact fun m hm => absurd hm List.not_mem_nil
  | some models =>
    obtain ⟨before, after, rfl, -⟩ := List.lookup_eq_some_iff.mp hlookup
    exact h (p, models) (List.mem_append_right _ List.mem_cons_self)

theorem All.insert (h : listing.All P) (p : Provider) {models : List α}
    (hmodels : ∀ m ∈ models, P m) : (listing.insert p models).All P :=
  List.forall_mem_append.mpr ⟨fun entry hentry => h entry (List.mem_of_mem_filter hentry),
    List.forall_mem_singleton.mpr hmodels⟩

end ProviderListing

/-- The ids of a listing are texts of a kind. -/
def ListingSaysOnly (T : String → Prop) (listing : ProviderListing Model) : Prop :=
  listing.All fun m => T m.id

theorem fetchListed_hears (p : Provider) :
    (fetchListed setup p).Hears T fun models => ∀ m ∈ models, T m.id := by
  refine (setup.client.askFormat_hears p.name).bind fun found hfound => ?_
  cases found with
  | ok models => exact .pure (hfound models rfl)
  | error e => exact .pure fun m hm => absurd hm List.not_mem_nil

theorem fetchListing_hears (providers : List Provider) :
    (fetchListing setup providers).Hears T (ListingSaysOnly T) := by
  refine .foldlM (fun listing p hlisting => ?_) fun entry h => absurd h List.not_mem_nil
  exact (fetchListed_hears setup p).bind fun models hmodels => .pure (hlisting.insert p hmodels)

/-- What follows a listing goes on with what was said in it. -/
theorem listed_hears {α : Type} {P : α → Prop} {providers : List Provider}
    {select : ProviderListing Model → ProviderListing Model}
    {rest : ProviderListing Model → Session α}
    (hselect : ∀ listing, ListingSaysOnly T listing → ListingSaysOnly T (select listing))
    (hrest : ∀ listing, ListingSaysOnly T listing → (rest listing).Hears T P) :
    (setup.listed providers select rest).Hears T fun found =>
      ∀ value, found = .ok value → P value := by
  refine setup.client.requireHealth_hears.bind fun health _ => ?_
  cases health with
  | error e => exact .pure fun value h => by cases h
  | ok _ =>
    refine (fetchListing_hears setup providers).bind fun listing hlisting => ?_
    dsimp only
    cases hmodels : requireModels (select listing) with
    | error e => exact .pure fun value h => by cases h
    | ok listed =>
      -- What is required of a listing does not change it.
      obtain ⟨rfl, -⟩ := requireModels_eq_ok_iff.mp hmodels
      refine (hrest _ (hselect listing hlisting)).bind fun value hvalue => .pure ?_
      rintro _ ⟨⟩
      exact hvalue

/-! ### Providers -/

namespace Provider

theorem oneLine_name (p : Provider) : OneLine p.name := by cases p <;> decide

theorem oneLine_listRoutes (p : Provider) : ∀ route ∈ p.listRoutes, OneLine route := by
  cases p <;> decide

theorem oneLine_label {p : Provider} {id : String} {embedding : Bool} {r : ProviderRequest}
    (h : r ∈ p.requests id embedding) : OneLine r.label := by
  have hlabels : ∀ label ∈ ["embeddings", "chat", "completions", "generate", "api-chat"],
      OneLine label := by
    decide
  refine hlabels _ ?_
  revert r
  cases p <;> cases embedding <;> simp [requests, embeddingRequest]

end Provider

theorem judgeRouted_quotes {name : String} (hname : Quotes T name) {reply : Outcome Reply}
    (h : Outcome.Told T (Reply.SaysOnly T) reply) :
    (judgeRouted name reply).record.QuotesOnly T := by
  cases reply with
  | error e => exact ⟨hname, h⟩
  | ok r =>
    refine ⟨hname, .append ?_ ?_⟩
    · split
      · exact .plain (Delivery.oneLine_time _)
      · exact .plain (oneLine_status _)
    · split
      · next endpoint hendpoint =>
        have hplain := r.isPlain_head.endpoint endpoint hendpoint
        exact .plain (oneLine_append.mpr ⟨by decide, hplain⟩)
      · exact .plain (by decide)

theorem sendRouted_hears {r : RoutedRequest} (hname : Quotes T r.name) :
    (sendRouted setup r).Hears T fun routed => routed.record.QuotesOnly T := by
  rw [sendRouted]
  split
  · refine (setup.client.post_hears _ _).bind fun reply hreply => .pure ?_
    exact judgeRouted_quotes hname hreply
  · refine (setup.client.get_hears _).bind fun reply hreply => .pure ?_
    exact judgeRouted_quotes hname hreply

theorem listRequests_quotes (p : Provider) : ∀ r ∈ listRequests p, Quotes T r.name := by
  intro r hr
  obtain ⟨route, hroute, rfl⟩ := List.mem_map.mp hr
  exact .append (.append (.plain p.oneLine_name) (.plain (by decide)))
    (.plain (p.oneLine_listRoutes route hroute))

theorem modelRequests_quotes (p : Provider) {m : Model} (hm : T m.id) :
    ∀ r ∈ modelRequests p m, Quotes T r.name := by
  intro r hr
  obtain ⟨request, hrequest, rfl⟩ := List.mem_map.mp hr
  have hlabel : Quotes T (p.name ++ "/" ++ request.label) :=
    .append (.append (.plain p.oneLine_name) (.plain (by decide)))
      (.plain (Provider.oneLine_label hrequest))
  exact .append (.append (.append hlabel (.plain (by decide))) (.quoted hm)) (.plain (by decide))

theorem routeProvider_hears {listing : ProviderListing Model} (h : ListingSaysOnly T listing)
    (limit : Option Nat) (p : Provider) :
    (routeProvider setup listing limit p).Hears T fun routed =>
      ∀ one ∈ routed, one.record.QuotesOnly T := by
  unfold routeProvider
  dsimp only
  split
  · have hname : Quotes T (p.name ++ "/routing") :=
      .append (.plain p.oneLine_name) (.plain (by decide))
    exact .pure (List.forall_mem_singleton.mpr
      ⟨hname, .plain (show OneLine "no models in this format" by decide)⟩)
  · refine Session.Hears.mapM fun r hr => sendRouted_hears setup ?_
    obtain ⟨m, hm, hr⟩ := List.mem_flatMap.mp hr
    refine modelRequests_quotes p (h.models p m ?_) r hr
    cases limit with
    | none => exact hm
    | some n => exact List.mem_of_mem_take hm

theorem providerRun_hears (options : ProviderOptions) :
    (providerRun setup options).Hears T fun found => ∀ outcome, found = .ok outcome →
      ∀ record ∈ outcome.report.records, record.QuotesOnly T := by
  rw [providerRun_eq]
  refine listed_hears setup (fun _ h => h) fun listing hlisting => ?_
  have hlists : ∀ r ∈ options.providers.flatMap listRequests, Quotes T r.name := by
    intro r hr
    obtain ⟨p, -, hr⟩ := List.mem_flatMap.mp hr
    exact listRequests_quotes p r hr
  refine (Session.Hears.mapM fun r hr => sendRouted_hears setup (hlists r hr)).bind
    fun listed h₁ => ?_
  refine (Session.Hears.mapM fun p _ =>
    routeProvider_hears setup hlisting options.maxModels p).bind fun routed h₂ => .pure ?_
  refine List.forall_mem_map.mpr (List.forall_mem_append.mpr ⟨h₁, fun one hone => ?_⟩)
  obtain ⟨part, hpart, hone⟩ := List.mem_flatten.mp hone
  exact h₂ part hpart one hone

/-- The error of a result, where it has one. -/
theorem quotes_some {s : String} (h : Quotes T s) : ∀ e, some s = some e → Quotes T e := by
  rintro _ ⟨⟩
  exact h

/-! ### Stories -/

section Stories

variable {N : String → Prop} {model : String} (hmodel : N model)
include hmodel

theorem StoryResult.record_quotes {r : StoryResult} (hr : r.model = model)
    (herror : ∀ e, r.error = some e → Quotes T e) : r.record.Quoting N T := by
  subst hr
  constructor
  · have hprovider : Quotes N (r.provider.name ++ "/stream (") :=
      .append (.plain r.provider.oneLine_name) (.plain (by decide))
    exact .append (.append hprovider (.quoted hmodel)) (.plain (by decide))
  · show Quotes T r.detail
    rw [StoryResult.detail]
    split
    · next e he => exact herror e he
    · have hcount : Quotes T s!"{r.chunks} chunks, ttft " := quotes_count _ (by decide)
      have hfirst : Quotes T ((r.firstToken.map Delivery.time).getD "-") :=
        .plain (Delivery.oneLine_shownTime _)
      have hspeed : Quotes T (Decimal.fixed 1 r.tokensPerSecond) :=
        .plain (Decimal.oneLine_fixed _ _)
      exact .append (.append (.append (.append hcount hfirst) (.plain (by decide))) hspeed)
        (.plain (by decide))

theorem measureStory_quotes (dialect : Dialect) (p : Provider) {reply : Reply}
    (hreply : reply.SaysOnly T) :
    (measureStory setup dialect reply { provider := p, model }).record.Quoting N T := by
  have hcapture := reply.capture_told (T := T) setup.client.budget dialect
  rw [measureStory]
  dsimp only
  split
  · next hfailed =>
    exact StoryResult.record_quotes hmodel rfl (quotes_some (hreply.statusError hfailed))
  · split
    · next e he =>
      exact StoryResult.record_quotes hmodel rfl (quotes_some (hcapture.of_error he))
    · exact StoryResult.record_quotes hmodel rfl fun e he => by cases he

theorem tellStory_hears (p : Provider) :
    (tellStory setup model p).Hears T fun result => result.record.Quoting N T := by
  refine (setup.client.post_hears _ _).bind fun reply hreply => ?_
  cases reply with
  | error e =>
    exact .pure (StoryResult.record_quotes hmodel rfl (quotes_some hreply))
  | ok reply => exact .pure (measureStory_quotes setup hmodel _ p hreply)

theorem tellStories_hears (providers : List Provider) :
    (tellStories setup (model, providers)).Hears T fun out =>
      ∀ record ∈ out.2, record.Quoting N T := by
  cases providers with
  | nil =>
    have hname : Quotes N ("streaming/" ++ model) := .append (.plain (by decide)) (.quoted hmodel)
    exact .pure (List.forall_mem_singleton.mpr
      ⟨hname, .plain (show OneLine "not listed by any selected provider" by decide)⟩)
  | cons p rest =>
    exact (Session.Hears.mapM fun p _ => tellStory_hears setup hmodel p).bind fun results h =>
      .pure (List.forall_mem_map.mpr h)

end Stories

/-- The ids that the user gave. -/
def StoryModels.given : StoryModels → List String
  | .explicit ids => ids
  | .sample | .preferred => []

section Planned

variable {N : String → Prop}

theorem plannedModels_says {listing : ProviderListing String} (h : listing.All N)
    (providers : List Provider) {choice : StoryModels} (hgiven : ∀ id ∈ choice.given, N id) :
    ∀ id ∈ plannedModels listing providers choice, N id := by
  intro id hid
  cases choice with
  | explicit ids => exact hgiven id hid
  | sample =>
    obtain ⟨p, -, hid⟩ := List.mem_flatMap.mp (Text.mem_ordered.mp hid)
    exact h.models p id (List.mem_of_mem_take hid)
  | preferred =>
    have hall : ∀ id ∈ Text.ordered (providers.flatMap listing.models), N id := by
      intro id hid
      obtain ⟨p, -, hid⟩ := List.mem_flatMap.mp (Text.mem_ordered.mp hid)
      exact h.models p id hid
    rw [plannedModels] at hid
    split at hid
    · exact hall id hid
    · exact hall id (List.contains_iff_mem.mp (List.of_mem_filter hid))

/-- The names of stories quote the ids that were listed, and those that the user gave; what is shown
of them quotes neither. -/
theorem storyRun_hears (hsaid : ∀ text, T text → N text) {options : StoryOptions}
    (hgiven : ∀ id ∈ options.models.given, N id) :
    (storyRun setup options).Hears T fun found => ∀ outcome, found = .ok outcome →
      ∀ record ∈ outcome.report.records, record.Quoting N T := by
  rw [storyRun_eq]
  refine listed_hears setup (fun listing h => ?_) fun listing hlisting => ?_
  · refine List.forall_mem_map.mpr fun entry hentry m hm => ?_
    exact h entry hentry m (List.mem_of_mem_filter hm)
  · have hids : (idListing listing).All N :=
      List.forall_mem_map.mpr fun entry hentry => List.forall_mem_map.mpr fun m hm =>
        hsaid _ (hlisting entry hentry m hm)
    have hplanned := plannedModels_says hids options.providers hgiven
    have hplan : ∀ m ∈ planStories (idListing listing) options.providers options.models, N m.1 :=
      List.forall_mem_map.mpr hplanned
    refine (Session.Hears.mapM fun m hm =>
      tellStories_hears setup (hplan m hm) m.2).bind fun parts hparts => .pure ?_
    intro record hrecord
    obtain ⟨part, hpart, hrecord⟩ := List.mem_flatMap.mp hrecord
    exact hparts part hpart record hrecord

end Planned

/-! ### Deliveries and answers -/

theorem DetectionResult.record_quotes {r : DetectionResult} (hname : OneLine r.name)
    (herror : ∀ e, r.error = some e → Quotes T e) : r.record.QuotesOnly T := by
  refine ⟨.append (.plain (by decide)) (.plain hname), ?_⟩
  show Quotes T r.detail
  rw [DetectionResult.detail]
  split
  · next v _ =>
    have hform : OneLine r.expected.name := by cases r.expected <;> decide
    exact .append (.append (.append (.plain v.oneLine_text) (.plain (by decide))) (.plain hform))
      (.plain (by decide))
  · cases hshown : r.error with
    | none => exact .plain (by decide)
    | some e => exact herror e hshown

/-- A result quotes no more than the error of a failed reply. -/
theorem measureReply_quotes {d : Detection} (hname : OneLine d.name) {reply : Reply}
    (hreply : reply.SaysOnly T) : (measureReply setup d reply).record.QuotesOnly T := by
  rw [measureReply]
  dsimp only
  split
  · next hfailed =>
    exact DetectionResult.record_quotes hname (quotes_some (hreply.statusError hfailed))
  · split
    · have hjson := Reply.json_told (T := T) reply setup.client.budget
      rw [measureWhole]
      split
      · next e he =>
        exact DetectionResult.record_quotes hname (quotes_some (hjson.of_error he))
      · exact DetectionResult.record_quotes hname fun e he => by cases he
    · next dialect _ =>
      have hcapture := reply.capture_told (T := T) setup.client.budget dialect
      rw [measureStreamed]
      split
      · next e he =>
        exact DetectionResult.record_quotes hname (quotes_some (hcapture.of_error he))
      · dsimp only
        split
        · exact DetectionResult.record_quotes hname
            (quotes_some (quotes_invalidResponse (by decide)))
        · exact DetectionResult.record_quotes hname fun e he => by cases he

theorem oneLine_detections : ∀ d ∈ detections, OneLine d.name := by decide

theorem detectionRun_hears (model : String) (quick : Bool) :
    (detectionRun setup model quick).Hears T fun outcome =>
      ∀ record ∈ outcome.report.records, record.QuotesOnly T := by
  have hnames : ∀ d ∈ if quick then detections.take 1 else detections, OneLine d.name := by
    intro d hd
    split at hd
    · exact oneLine_detections d (List.mem_of_mem_take hd)
    · exact oneLine_detections d hd
  have hdetect (d : Detection) (hname : OneLine d.name) :
      (detect setup model d).Hears T fun result => result.record.QuotesOnly T := by
    refine (setup.client.post_hears _ _).bind fun reply hreply => ?_
    cases reply with
    | error e =>
      exact .pure (DetectionResult.record_quotes hname (quotes_some hreply))
    | ok reply => exact .pure (measureReply_quotes setup hname hreply)
  exact (Session.Hears.mapM fun d hd => hdetect d (hnames d hd)).bind fun results h =>
    .pure (List.forall_mem_map.mpr h)

theorem AnswerSample.record_quotes {s : AnswerSample} (herror : ∀ e, s.error = some e → Quotes T e)
    {name : String} (hname : OneLine name) : (s.record name).QuotesOnly T := by
  rw [AnswerSample.record]
  split
  · next e he => exact Record.quotes hname (herror e he)
  · split
    · exact Record.quotes hname (.plain (by decide))
    · have hfirst : Quotes T ("TTFT " ++ Delivery.time (s.firstToken.getD 0)) :=
        .append (.plain (by decide)) (.plain (Delivery.oneLine_time _))
      have hquality : OneLine s.quality.name := by cases s.quality <;> decide
      have hcount : Quotes T s!", {s.chunks} chunks, {s.quality.name}" :=
        .append (.append (.plain (oneLine_append.mpr ⟨by decide, oneLine_repr _⟩))
          (.plain (by decide))) (.plain hquality)
      exact Record.quotes hname (.append hfirst hcount)

theorem sampleRecords_quotes {samples : List AnswerSample}
    (h : ∀ s ∈ samples, ∀ e, s.error = some e → Quotes T e) (n : Nat) :
    ∀ record ∈ sampleRecords n samples, record.QuotesOnly T := by
  induction samples generalizing n with
  | nil => exact fun _ h => absurd h List.not_mem_nil
  | cons s rest ih =>
    obtain ⟨hfirst, hrest⟩ := List.forall_mem_cons.mp h
    have hname : OneLine s!"latency/q{n}" := oneLine_append.mpr ⟨by decide, oneLine_repr n⟩
    exact List.forall_mem_cons.mpr ⟨s.record_quotes hfirst hname, ih hrest (n + 1)⟩

theorem measureAnswer_quotes (question : String) {reply : Reply} (hreply : reply.SaysOnly T) :
    ∀ e, (measureAnswer setup question reply).error = some e → Quotes T e := by
  have hcapture := reply.capture_told (T := T) setup.client.budget .openAi
  rw [measureAnswer]
  dsimp only
  split
  · next hfailed =>
    exact quotes_some (hreply.statusError hfailed)
  · split
    · next e he => exact quotes_some (hcapture.of_error he)
    · exact fun e he => by cases he

theorem answerRun_hears (model : String) (options : AnswerOptions) :
    (answerRun setup model options).Hears T fun outcome =>
      ∀ record ∈ outcome.report.records, record.QuotesOnly T := by
  have hask (question : String) : (askQuestion setup model options question).Hears T fun s =>
      ∀ e, s.error = some e → Quotes T e := by
    refine (setup.client.post_hears _ _).bind fun reply hreply => ?_
    cases reply with
    | error e =>
      exact .pure (quotes_some hreply)
    | ok reply => exact .pure (measureAnswer_quotes setup _ hreply)
  -- Questions are drawn beforehand, so the run is one loop over them.
  unfold answerRun
  rw [askQuestions_eq]
  exact (Session.Hears.mapM fun question _ => hask question).bind fun samples h =>
    .pure (sampleRecords_quotes h 1)

/-! ### All runs -/

/-- A run that leaves a report. -/
inductive ReportingRun where
  | backends (options : ModeOptions)
  | deliveries (model : String) (quick : Bool)
  | answers (model : String) (options : AnswerOptions)
  | surface (options : SurfaceOptions)
  | providers (options : ProviderOptions)
  | stories (options : StoryOptions)

namespace ReportingRun

/-- A run that nothing aborts: if it has no outcome, it ended with an error. -/
def unaborted {α : Type} (s : Session (Outcome α)) : Session (Except Halt α) := do
  return (← s).mapError .gateway

/-- The report of a run, or why there is none. -/
def session : ReportingRun → Session (Except Halt Report)
  | .backends options => do return (← modeRun setup options).map ModeOutcome.report
  | .deliveries model quick => do return .ok (← detectionRun setup model quick).report
  | .answers model options => do return .ok (← answerRun setup model options).report
  | .surface options => do return (← surfaceRun setup options).map SurfaceOutcome.report
  | .providers options => do
    return (← unaborted (providerRun setup options)).map ProviderOutcome.report
  | .stories options => do return (← unaborted (storyRun setup options)).map StoryOutcome.report

/-- The ids that the user gave and that stand in names of records. -/
def given : ReportingRun → List String
  | .stories options => options.models.given
  | _ => []

section

variable {N : String → Prop}

theorem unaborted_hears {α : Type} {P : α → Prop} {s : Session (Outcome α)}
    (h : s.Hears T fun found => ∀ outcome, found = .ok outcome → P outcome) :
    (unaborted s).Hears T fun found => ∀ outcome, found = .ok outcome → P outcome := by
  refine h.bind fun found hfound => .pure fun outcome houtcome => ?_
  -- Ending with an error is told in other words, and nothing else is changed.
  exact hfound outcome (mapError_eq_ok_iff.mp houtcome)

/-- The report of a run is that of its outcome. Names may then quote texts of a wider kind. -/
theorem reported_hears {M : String → Prop} (hnames : ∀ text, M text → N text) {α : Type}
    {reportOf : α → Report} {s : Session (Except Halt α)}
    (h : s.Hears T fun found => ∀ outcome, found = .ok outcome →
      ∀ record ∈ (reportOf outcome).records, record.Quoting M T) :
    (do return (← s).map reportOf : Session (Except Halt Report)).Hears T fun found =>
      ∀ report, found = .ok report → ∀ record ∈ report.records, record.Quoting N T := by
  refine h.bind fun found hfound => .pure fun report hreport record hrecord => ?_
  cases found with
  | error e => cases hreport
  | ok outcome =>
    cases hreport
    exact (hfound outcome rfl record hrecord).mono hnames

theorem session_hears (hsaid : ∀ text, T text → N text) {run : ReportingRun}
    (hgiven : ∀ id ∈ run.given, N id) :
    (run.session setup).Hears T fun found =>
      ∀ report, found = .ok report → ∀ record ∈ report.records, record.Quoting N T := by
  cases run with
  | backends options => exact reported_hears hsaid (modeRun_hears setup options)
  | deliveries model quick =>
    refine (detectionRun_hears setup model quick).bind fun outcome h => .pure ?_
    rintro _ ⟨⟩ record hrecord
    exact (h record hrecord).mono hsaid
  | answers model options =>
    refine (answerRun_hears setup model options).bind fun outcome h => .pure ?_
    rintro _ ⟨⟩ record hrecord
    exact (h record hrecord).mono hsaid
  | surface options => exact reported_hears hsaid (surfaceRun_hears setup options)
  | providers options =>
    exact reported_hears hsaid (unaborted_hears (providerRun_hears setup options))
  | stories options =>
    -- Ids that the user gave stand in names here, so names have a kind of their own.
    exact reported_hears (fun _ h => h) (unaborted_hears (storyRun_hears setup hsaid hgiven))

end

end ReportingRun
end GatewayProbe
