/-
What the records of a whole surface quote.

The phases quote counts, headers and JSON values, which are one line each, and of what the gateway
says they quote ids, types of backends and the keys of a page.

* `FetchTold`, `fetchPage_hears` — what a fetched page tells;
* `judgeUsage_quotes`, `judgeVersion_quotes`, … — the judgements of one reply;
* `surfacePhases_hears` — the records of all phases.
-/
import GatewayProbe.Proofs.Plan.Draws
import GatewayProbe.Proofs.Run.Quotations

namespace GatewayProbe

variable {T : String → Prop}

/-! ### Pages -/

/-- What a fetched page tells: its keys are texts of a kind, and so is what a fault quotes. -/
def FetchTold (T : String → Prop) : Except FetchFault Json → Prop
  | .ok page => ∀ key ∈ page.keys, T key
  | .error fault => Quotes T fault.message

theorem judgePage_told {budget : Nat} {reply : Outcome Reply}
    (h : Outcome.Told T (Reply.SaysOnly T) reply) : FetchTold T (judgePage budget reply) := by
  cases reply with
  | error e => exact h
  | ok r =>
    have hjson := Reply.json_told (T := T) r budget
    rw [judgePage]
    split
    · exact .plain (oneLine_status _)
    · split
      · next page hpage =>
        exact fun key hkey => h _ (.page (.key (hjson.of_ok hpage) hkey))
      · exact .plain (show OneLine "invalid JSON" by decide)
      · next e _ he => exact hjson.of_error he

theorem fetchPage_hears (c : Client) (path : String) : (fetchPage c path).Hears T (FetchTold T) :=
  (c.get_hears path).bind fun _ h => .pure (judgePage_told h)

theorem pageRecord_quotes {name : String} (hname : Quotes T name)
    {page : Except FetchFault Json} (hpage : FetchTold T page) {judge : Json → Status × String}
    (hjudge : ∀ value : Json, (∀ key ∈ value.keys, T key) → Quotes T (judge value).2) :
    (pageRecord name page judge).QuotesOnly T := by
  cases page with
  | ok value => exact ⟨hname, hjudge value hpage⟩
  | error fault => exact ⟨hname, hpage⟩

theorem quotes_count (n : Nat) {unit : String} (h : OneLine unit) :
    Quotes T (toString n ++ unit) :=
  .plain (oneLine_append.mpr ⟨oneLine_repr n, h⟩)

/-- A record of a fixed name. -/
theorem Record.quotes {name detail : String} {status : Status} (hname : OneLine name)
    (hdetail : Quotes T detail) : (⟨name, status, detail⟩ : Record).QuotesOnly T :=
  ⟨.plain hname, hdetail⟩

/-! ### The whole surface -/

theorem oneLine_internalPages : ∀ page ∈ internalPages,
    OneLine page.1 ∧ OneLine page.2.1 ∧ ∀ key ∈ page.2.2, OneLine key := by
  decide

theorem judgeModelList_quotes (page : Json) : Quotes T (judgeModelList page).2 := by
  rw [judgeModelList]
  split
  · exact quotes_count _ (by decide)
  · exact .plain (by decide)

theorem quotes_shownField (block : Json) (name : String) : Quotes T (shownField block name) :=
  .plain (Json.oneLine_compact _)

/-- Token counts are quoted as numbers, and a faulty block as JSON. -/
theorem judgeUsage_quotes (block : Option Json) : Quotes T (judgeUsage block).2 := by
  have hwanted (a b c : Bool) : ∀ field ∈ [("prompt_tokens", a), ("completion_tokens", b),
      ("total_tokens", c)], Quotes T field.1 := by
    simp only [List.forall_mem_cons]
    exact ⟨.plain (by decide), .plain (by decide), .plain (by decide), fun _ h => nomatch h⟩
  rw [judgeUsage]
  split
  · exact .plain (by decide)
  · next usage _ =>
    dsimp only
    split
    -- The names are fixed, so only the counts could bring in something else, and they are numbers.
    · dsimp only
      refine .intercalate (by decide) fun part hpart => ?_
      obtain ⟨field, hfield, rfl⟩ := List.mem_map.mp hpart
      have hname : Quotes T (field.1 ++ "=") :=
        .append (hwanted _ _ _ field hfield) (.plain (by decide))
      exact .append hname (.plain (oneLine_int _))
    · refine .append (.append (.append (.plain (by decide)) ?_) (.plain (by decide)))
        (.plain (Json.oneLine_compact usage))
      refine .intercalate (by decide) fun part hpart => ?_
      obtain ⟨field, hfield, rfl⟩ := List.mem_map.mp hpart
      exact hwanted _ _ _ field (List.mem_of_mem_filter hfield)

theorem judgeChat_quotes {page : Except FetchFault Json} (hpage : FetchTold T page) :
    ∀ record ∈ judgeChat page, record.QuotesOnly T := by
  cases page with
  | error fault => exact List.forall_mem_singleton.mpr (Record.quotes (by decide) hpage)
  | ok body =>
    refine List.forall_mem_cons.mpr ⟨Record.quotes (by decide) ?_,
      List.forall_mem_singleton.mpr (Record.quotes (by decide) (judgeUsage_quotes _))⟩
    split
    · next usage _ =>
      have hprompt := quotes_shownField (T := T) usage "prompt_tokens"
      have hcompletion := quotes_shownField (T := T) usage "completion_tokens"
      have htotal := quotes_shownField (T := T) usage "total_tokens"
      exact .append (.append (.append (.append (.append (.plain (by decide)) hprompt)
        (.plain (by decide))) hcompletion) (.plain (by decide))) htotal
    · exact .plain (by decide)

/-- What is shown of a stream are the number of its lines and its token counts. -/
theorem judgeProxyStream_quotes (body : String) :
    ∀ record ∈ judgeProxyStream body, record.QuotesOnly T := by
  refine List.forall_mem_cons.mpr ⟨?_, List.forall_mem_singleton.mpr
    (Record.quotes (by decide) ?_)⟩
  · split
    · exact Record.quotes (by decide) (.plain (by decide))
    · split
      · exact Record.quotes (by decide) (.plain (by decide))
      · exact Record.quotes (by decide) (quotes_count _ (by decide))
  · split
    · exact judgeUsage_quotes _
    · exact .plain (by decide)

theorem Head.oneLine_missing (h : Head) : ∀ name ∈ h.missing, OneLine name := by
  intro name hname
  obtain ⟨header, hheader, rfl⟩ := List.mem_map.mp hname
  have hnames : ∀ name ∈ ["X-Olla-Endpoint", "X-Olla-Model", "X-Olla-Backend-Type",
      "X-Olla-Request-ID"], OneLine name := by
    decide
  exact hnames _ (List.mem_map_of_mem (f := Prod.fst) (List.mem_of_mem_filter hheader))

theorem judgeHeaders_quotes {reply : Outcome Reply}
    (h : Outcome.Told T (Reply.SaysOnly T) reply) : (judgeHeaders reply).QuotesOnly T := by
  cases reply with
  | error e => exact Record.quotes (by decide) h
  | ok r =>
    rw [judgeHeaders]
    split
    · exact Record.quotes (by decide) (.plain (oneLine_status _))
    · split
      · exact Record.quotes (by decide) (.plain (by decide))
      · have hmissing : Quotes T (", ".intercalate r.head.missing) :=
          .intercalate (by decide) fun name hname => .plain (r.head.oneLine_missing name hname)
        exact Record.quotes (by decide) (.append (.plain (by decide)) hmissing)

theorem judgeMessages_quotes (budget : Nat) {reply : Outcome Reply}
    (h : Outcome.Told T (Reply.SaysOnly T) reply) :
    ∀ record ∈ judgeMessages budget reply, record.QuotesOnly T := by
  cases reply with
  | error e => exact List.forall_mem_singleton.mpr (Record.quotes (by decide) h)
  | ok r =>
    rw [judgeMessages]
    split
    · exact List.forall_mem_singleton.mpr
        (Record.quotes (by decide) (.plain (oneLine_status _)))
    · split
      · exact List.forall_mem_singleton.mpr (Record.quotes (by decide) (.plain (by decide)))
      · refine List.forall_mem_cons.mpr ⟨Record.quotes (by decide) ?_,
          List.forall_mem_singleton.mpr (Record.quotes (by decide) ?_)⟩
        all_goals
          split
          · next mode hmode =>
            have hplain := r.isPlain_head.mode mode hmode
            exact .plain (oneLine_append.mpr ⟨by decide, hplain⟩)
          · exact .plain (by decide)

theorem judgeMessageStream_quotes (budget : Nat) {reply : Outcome Reply}
    (h : Outcome.Told T (Reply.SaysOnly T) reply) :
    (judgeMessageStream budget reply).QuotesOnly T := by
  cases reply with
  | error e => exact Record.quotes (by decide) h
  | ok r =>
    have htext := Reply.text_told (T := T) r budget
    rw [judgeMessageStream]
    dsimp only
    split
    · exact Record.quotes (by decide) (.plain (oneLine_status _))
    · split
      · have hshown := oneLine_getD r.isPlain_head.contentType (by decide : OneLine "none")
        exact Record.quotes (by decide) (.plain (oneLine_append.mpr ⟨by decide, hshown⟩))
      · split
        · next e he =>
          exact Record.quotes (by decide) (htext.of_error he)
        · split
          · exact Record.quotes (by decide) (quotes_count _ (by decide))
          · exact Record.quotes (by decide) (.plain (by decide))

theorem judgeTokenCount_quotes (budget : Nat) {reply : Outcome Reply}
    (h : Outcome.Told T (Reply.SaysOnly T) reply) :
    (judgeTokenCount budget reply).QuotesOnly T := by
  cases reply with
  | error e => exact Record.quotes (by decide) h
  | ok r =>
    rw [judgeTokenCount]
    split
    · split
      · exact Record.quotes (by decide) (.append (.plain (by decide)) (quotes_shownField _ _))
      · exact Record.quotes (by decide) (.plain (by decide))
    · split
      · exact Record.quotes (by decide) (.plain (by decide))
      · exact Record.quotes (by decide) (.plain (oneLine_status _))

/-- Of the version's page the keys are quoted. -/
theorem judgeVersion_quotes {page : Json} (hkeys : ∀ key ∈ page.keys, T key) :
    Quotes T (judgeVersion page).2 := by
  rw [judgeVersion]
  split
  · exact .plain (by decide)
  · exact .append (.plain (by decide))
      (.intercalate (by decide) fun key hkey => .quoted (hkeys key hkey))

theorem judgeTracking_quotes {reply : Outcome Reply}
    (h : Outcome.Told T (Reply.SaysOnly T) reply) : (judgeTracking reply).QuotesOnly T := by
  cases reply with
  | error e => exact Record.quotes (by decide) h
  | ok r =>
    rw [judgeTracking]
    dsimp only
    split
    · exact Record.quotes (by decide) (.plain (oneLine_status _))
    · split
      · exact Record.quotes (by decide) (.plain (by decide))
      · next id hid =>
        refine Record.quotes (by decide) (.append (.append (.plain (by decide))
          (.plain (r.isPlain_head.requestId id hid))) ?_)
        split
        · next time htime =>
          have hplain := r.isPlain_head.responseTime time htime
          exact .plain (oneLine_append.mpr ⟨by decide, hplain⟩)
        · exact .plain (by decide)

theorem judgeStatus_quotes {name : String} (hname : OneLine name) (accept : Nat → Bool)
    {reply : Outcome Reply} (h : Outcome.Told T (Reply.SaysOnly T) reply) :
    (judgeStatus name accept reply).QuotesOnly T := by
  cases reply with
  | error e => exact Record.quotes hname h
  | ok r => exact Record.quotes hname (.plain (oneLine_status _))

section Phases

variable (setup : Setup)

theorem internalPhase_hears :
    (internalPhase setup).Hears T fun records => ∀ record ∈ records, record.QuotesOnly T := by
  refine Session.Hears.mapM fun (label, path, keys) hpage => ?_
  obtain ⟨hlabel, hpath, hkeys⟩ := oneLine_internalPages _ hpage
  refine (fetchPage_hears setup.client path).bind fun page hpage => .pure ?_
  refine pageRecord_quotes (.append (.plain (by decide)) (.plain hlabel)) hpage fun body _ => ?_
  dsimp only
  split
  · exact .plain hpath
  · exact .append (.plain (by decide)) (.intercalate (by decide) fun key hkey =>
      .plain (hkeys key (List.mem_of_mem_filter hkey)))

variable {model : Option String}

theorem modelsPhase_hears (hmodel : ∀ id, model = some id → T id) :
    (modelsPhase setup model).Hears T fun records => ∀ record ∈ records, record.QuotesOnly T := by
  refine (fetchPage_hears setup.client _).bind fun list hlist => ?_
  have hlisted := pageRecord_quotes (T := T) (.plain (show OneLine "models/list" by decide)) hlist
    fun page _ => judgeModelList_quotes page
  cases model with
  | none =>
    exact .pure (List.forall_mem_cons.mpr ⟨hlisted, List.forall_mem_singleton.mpr
      (Record.quotes (by decide) (.plain (by decide)))⟩)
  | some id =>
    -- The page of the model is not quoted: what is shown is the id that was looked up.
    refine (fetchPage_hears setup.client _).bind fun page hpage => .pure ?_
    refine List.forall_mem_cons.mpr ⟨hlisted, List.forall_mem_singleton.mpr
      (pageRecord_quotes (.plain (by decide)) hpage fun _ _ => ?_)⟩
    exact .append (.plain (by decide)) (.quoted (hmodel id rfl))

theorem askStreamedChat_hears (id : String) :
    (askStreamedChat setup id).Hears T fun records =>
      ∀ record ∈ records, record.QuotesOnly T := by
  refine (setup.client.post_hears _ _).bind fun reply hreply => ?_
  cases reply with
  | error e => exact .pure (List.forall_mem_singleton.mpr (Record.quotes (by decide) hreply))
  | ok reply =>
    have htext := Reply.text_told (T := T) reply setup.client.budget
    dsimp only
    split
    · exact .pure (List.forall_mem_singleton.mpr
        (Record.quotes (by decide) (.plain (oneLine_status _))))
    · split
      · next e he =>
        exact .pure (List.forall_mem_singleton.mpr
          (Record.quotes (by decide) (htext.of_error he)))
      · exact .pure (judgeProxyStream_quotes _)

theorem proxyPhase_hears (skipStreaming : Bool) :
    (proxyPhase setup model skipStreaming).Hears T fun records =>
      ∀ record ∈ records, record.QuotesOnly T := by
  refine (fetchPage_hears setup.client _).bind fun list hlist => ?_
  have hcount (page : Json) : Quotes T s!"{(listedLength? page).getD 0} models" :=
    quotes_count _ (by decide)
  have hlisted (judge : Json → Status × String) (hjudge : ∀ page, Quotes T (judge page).2) :
      (pageRecord "proxy/models" list judge).QuotesOnly T :=
    pageRecord_quotes (.plain (by decide)) hlist fun page _ => hjudge page
  cases model with
  | none =>
    exact .pure (List.forall_mem_cons.mpr ⟨hlisted _ hcount, List.forall_mem_singleton.mpr
      (Record.quotes (by decide) (.plain (by decide)))⟩)
  | some id =>
    refine (setup.client.post_hears _ _).bind fun chat hchat => ?_
    refine (Session.Hears.skippable (askStreamedChat_hears setup id)).bind
      fun streamed hstreamed => ?_
    refine (setup.client.post_hears _ _).bind fun last hlast => .pure ?_
    refine List.forall_mem_append.mpr ⟨List.forall_mem_append.mpr ⟨List.forall_mem_cons.mpr
      ⟨hlisted _ hcount, judgeChat_quotes (judgePage_told hchat)⟩, hstreamed⟩, ?_⟩
    exact List.forall_mem_singleton.mpr (judgeHeaders_quotes hlast)

theorem messageChecks_hears (id : String) (skipStreaming : Bool) :
    (messageChecks setup id skipStreaming).Hears T fun records =>
      ∀ record ∈ records, record.QuotesOnly T := by
  have hstreamed : (do
      let reply ← setup.client.postMessage (Body.message id true none none)
      pure [judgeMessageStream setup.client.budget reply] : Session (List Record)).Hears T
        fun records => ∀ record ∈ records, record.QuotesOnly T :=
    (setup.client.postKeyed_hears _ _).bind fun _ h =>
      .pure (List.forall_mem_singleton.mpr (judgeMessageStream_quotes _ h))
  refine (setup.client.postKeyed_hears _ _).bind fun whole hwhole => ?_
  refine (Session.Hears.skippable hstreamed).bind fun streamed hstreamed => ?_
  refine (setup.client.postKeyed_hears _ _).bind fun tokens htokens => .pure ?_
  exact List.forall_mem_append.mpr ⟨List.forall_mem_append.mpr
    ⟨judgeMessages_quotes _ hwhole, hstreamed⟩,
    List.forall_mem_singleton.mpr (judgeTokenCount_quotes _ htokens)⟩

theorem anthropicPhase_hears (skipStreaming : Bool) :
    (anthropicPhase setup model skipStreaming).Hears T fun records =>
      ∀ record ∈ records, record.QuotesOnly T := by
  have hafter {models : Record} (h : models.QuotesOnly T) :
      (messagesAfter setup model skipStreaming models).Hears T fun records =>
        ∀ record ∈ records, record.QuotesOnly T := by
    cases model with
    | none =>
      exact .pure (List.forall_mem_cons.mpr ⟨h, List.forall_mem_singleton.mpr
        (Record.quotes (by decide) (.plain (by decide)))⟩)
    | some id =>
      exact (messageChecks_hears setup id skipStreaming).bind fun _ hchecks =>
        .pure (List.forall_mem_cons.mpr ⟨h, hchecks⟩)
  refine (fetchPage_hears setup.client _).bind fun page hpage => ?_
  split
  · exact hafter (Record.quotes (by decide) (.plain (by decide)))
  · exact .pure (List.forall_mem_singleton.mpr
      (Record.quotes (by decide) (.plain (by decide))))
  · exact hafter (Record.quotes (by decide) hpage)

theorem headersPhase_hears :
    (headersPhase setup model).Hears T fun records => ∀ record ∈ records, record.QuotesOnly T := by
  cases model with
  | none =>
    exact .pure (List.forall_mem_singleton.mpr
      (Record.quotes (by decide) (.plain (by decide))))
  | some id =>
    refine (fetchPage_hears setup.client _).bind fun page hpage => ?_
    refine (setup.client.post_hears _ _).bind fun reply hreply => .pure ?_
    exact List.forall_mem_cons.mpr
      ⟨pageRecord_quotes (.plain (by decide)) hpage fun _ hkeys => judgeVersion_quotes hkeys,
        List.forall_mem_singleton.mpr (judgeTracking_quotes hreply)⟩

theorem modeChecks_hears {plan : Plan} (hplan : plan.SaysOnly T) (skipStreaming : Bool)
    (model : String) :
    (modeChecks setup skipStreaming plan model).Hears T fun out =>
      ∀ record ∈ out.1, record.QuotesOnly T := by
  have hname (suffix : String) (hsuffix : OneLine suffix) :
      Quotes T ("passthrough/" ++ plan.mode.name ++ suffix) := by
    have hmode : OneLine plan.mode.name := by cases plan.mode <;> decide
    exact .append (.append (.plain (by decide)) (.plain hmode)) (.plain hsuffix)
  refine (checkWhole_hears setup hplan model (hname _ (by decide))).bind fun whole hwhole => ?_
  dsimp only
  split
  · exact .pure (List.forall_mem_singleton.mpr hwhole)
  · exact (checkStreamed_hears setup hplan model (hname _ (by decide))).bind fun _ hstreamed =>
      .pure (List.forall_mem_cons.mpr ⟨hwhole, List.forall_mem_singleton.mpr hstreamed⟩)

theorem modesPhase_hears {r : Assignment} (hr : ∀ plan ∈ r.backends, plan.SaysOnly T)
    (candidates : List Representative) (skipStreaming : Bool) :
    (modesPhase setup r candidates skipStreaming).Hears T fun found =>
      ∀ records ∈ found, ∀ record ∈ records, record.QuotesOnly T := by
  rw [modesPhase]
  split
  · refine .pure fun records hrecords => ?_
    cases hrecords
    exact List.forall_mem_singleton.mpr (Record.quotes (by decide) (.plain (by decide)))
  · have hchosen : ∀ c ∈ chosenPlans r candidates, c.1.SaysOnly T := by
      intro c hc
      obtain ⟨candidate, -, hfound⟩ := List.mem_filterMap.mp hc
      obtain ⟨plan, hplan, rfl⟩ := Option.map_eq_some_iff.mp hfound
      exact hr plan (List.mem_of_find?_eq_some hplan)
    refine (Session.Hears.mapM fun c hc =>
      modeChecks_hears setup (hchosen c hc) skipStreaming c.2).bind fun results hresults => ?_
    refine (checkCounters_hears setup _ (by decide)).bind fun found hfound =>
      .pure fun records hrecords => ?_
    obtain ⟨counted, hcounted, rfl⟩ := Option.map_eq_some_iff.mp hrecords
    refine List.forall_mem_append.mpr ⟨fun record hrecord => ?_,
      List.forall_mem_singleton.mpr (hfound counted hcounted)⟩
    obtain ⟨result, hresult, hrecord⟩ := List.mem_flatMap.mp hrecord
    exact hresults result hresult record hrecord

theorem checkProviderRoute_hears {type : String} (htype : T type) :
    (checkProviderRoute setup type).Hears T (Record.QuotesOnly T) := by
  have hname : Quotes T ("providers/" ++ type) := .append (.plain (by decide)) (.quoted htype)
  refine (fetchPage_hears setup.client _).bind fun page hpage => ?_
  split
  · exact .pure ⟨hname, .plain (show OneLine "no dedicated route (404), acceptable" by decide)⟩
  · exact .pure (pageRecord_quotes hname hpage fun _ _ => quotes_count _ (by decide))

theorem providersPhase_hears {inventory : Inventory} (h : inventory.SaysOnly T) :
    (providersPhase setup inventory).Hears T fun records =>
      ∀ record ∈ records, record.QuotesOnly T := by
  rw [providersPhase]
  split
  · exact .pure (List.forall_mem_singleton.mpr
      (Record.quotes (by decide) (.plain (by decide))))
  · refine Session.Hears.mapM fun type htype => checkProviderRoute_hears setup ?_
    obtain ⟨e, he, rfl⟩ := List.mem_map.mp (Text.mem_ordered.mp htype)
    exact h.type e he

theorem errorsPhase_hears :
    (errorsPhase setup).Hears T fun records => ∀ record ∈ records, record.QuotesOnly T := by
  refine (setup.client.post_hears _ _).bind fun unknown hunknown => ?_
  refine (setup.client.post_hears _ _).bind fun invalid hinvalid => ?_
  refine (setup.client.post_hears _ _).bind fun missing hmissing => .pure ?_
  exact List.forall_mem_cons.mpr ⟨judgeStatus_quotes (by decide) _ hunknown,
    List.forall_mem_cons.mpr ⟨judgeStatus_quotes (by decide) _ hinvalid,
      List.forall_mem_singleton.mpr (judgeStatus_quotes (by decide) _ hmissing)⟩⟩

theorem phasesBefore_hears (options : SurfaceOptions) (hmodel : ∀ id, model = some id → T id) :
    (phasesBefore setup options model).Hears T fun records =>
      ∀ record ∈ records, record.QuotesOnly T := by
  refine (internalPhase_hears setup).bind fun internal h₁ => ?_
  refine (modelsPhase_hears setup hmodel).bind fun models h₂ => ?_
  refine (proxyPhase_hears setup _).bind fun proxy h₃ => ?_
  refine (Session.Hears.skippable (anthropicPhase_hears setup _)).bind fun messages h₄ => .pure ?_
  simp only [List.forall_mem_append]
  exact ⟨⟨⟨h₁, h₂⟩, h₃⟩, h₄⟩

theorem phasesAfter_hears (options : SurfaceOptions) {inventory : Inventory}
    (h : inventory.SaysOnly T) :
    (phasesAfter setup options inventory model).Hears T fun records =>
      ∀ record ∈ records, record.QuotesOnly T := by
  refine (Session.Hears.skippable (providersPhase_hears setup h)).bind fun providers h₁ => ?_
  refine (headersPhase_hears setup).bind fun headers h₂ => ?_
  refine (errorsPhase_hears setup).bind fun errors h₃ => .pure ?_
  simp only [List.forall_mem_append]
  exact ⟨⟨h₁, h₂⟩, h₃⟩

theorem surfacePhases_hears (options : SurfaceOptions) {inventory : Inventory} {r : Assignment}
    (h : inventory.SaysOnly T) (hr : ∀ plan ∈ r.backends, plan.SaysOnly T) :
    (surfacePhases setup options inventory r).Hears T fun found =>
      ∀ outcome ∈ found, ∀ record ∈ outcome.report.records, record.QuotesOnly T := by
  -- The model is drawn from the list, so its id was said.
  have hmodel : ∀ id, (options.choice inventory r).model = some id → T id := by
    intro id hid
    obtain ⟨m, hm, rfl⟩ := List.mem_map.mp (Draws.mem_of_choose? hid)
    exact h.id m (List.mem_of_mem_filter hm)
  have hmodes : (if options.skipAnthropic then pure (some []) else
      modesPhase setup r (options.choice inventory r).candidates options.skipStreaming :
        Session (Option (List Record))).Hears T fun found =>
      ∀ records ∈ found, ∀ record ∈ records, record.QuotesOnly T := by
    split
    · refine .pure fun records hrecords => ?_
      cases hrecords
      exact List.forall_mem_nil _
    · exact modesPhase_hears setup hr _ _
  refine (phasesBefore_hears setup options hmodel).bind fun before h₁ => ?_
  refine hmodes.bind fun found h₂ => ?_
  cases found with
  | none => exact .pure fun outcome hout => by cases hout
  | some modes =>
    refine (phasesAfter_hears setup options h).bind fun after h₃ => .pure fun outcome hout => ?_
    cases hout
    simp only [List.forall_mem_append]
    exact ⟨⟨h₁, h₂ modes rfl⟩, h₃⟩

end Phases
end GatewayProbe
