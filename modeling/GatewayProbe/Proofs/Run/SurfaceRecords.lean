/-
What a run over the whole surface records.

A phase may end early in many ways, but never without a record, and never with a name that another
record has. The labels of a phase are known beforehand, except where backend types are checked:
there the labels are the types themselves, whatever the gateway calls them. Only the phase for modes
may keep the run from its end, where the counters it looks at cannot be added up.

* `NamedFrom` — records whose labels are some of these, in their order;
* `internalPhase_always`, ..., `errorsPhase_always` — what each phase leaves;
* `SurfaceOptions.keeps` — the phases that are not left out;
* `surfacePhases_always` — what the phases leave together;
* `SurfaceOverflows`, `surfacePhases_eq_none_iff` — the counters that a run depends on;
* `surfaceRun_phased` — the whole run.
-/
import Mathlib.Data.List.Flatten
import GatewayProbe.Proofs.Plan.Draws
import GatewayProbe.Proofs.Run.ModeRecords
import GatewayProbe.Proofs.Run.Phases

namespace GatewayProbe

/-! ### Records under known labels -/

/-- Records of a phase whose labels are some of these, in their order. -/
def NamedFrom (phase : String) (labels : List String) (part : List Record) : Prop :=
  (part.map Record.name).Sublist (labels.map fun label => phase ++ "/" ++ label)

namespace NamedFrom

variable {phase : String} {labels more : List String} {part rest : List Record}

theorem nil : NamedFrom phase labels [] := List.nil_sublist _

theorem of_names (names : List String) (h : part.map Record.name = names)
    (known : names.Sublist (labels.map fun label => phase ++ "/" ++ label)) :
    NamedFrom phase labels part := by
  rw [NamedFrom, h]
  exact known

theorem append (h : NamedFrom phase labels part) (hrest : NamedFrom phase more rest) :
    NamedFrom phase (labels ++ more) (part ++ rest) := by
  rw [NamedFrom, List.map_append, List.map_append]
  exact List.Sublist.append h hrest

theorem mono (h : NamedFrom phase labels part) (hlabels : labels.Sublist more) :
    NamedFrom phase more part :=
  List.Sublist.trans h (hlabels.map _)

theorem phaseRecords (h : NamedFrom phase labels part) (distinct : labels.Nodup)
    (nonempty : part ≠ []) : PhaseRecords phase part := by
  obtain ⟨own, hown, hnames⟩ := List.sublist_map_iff.mp h
  exact ⟨nonempty, own, distinct.sublist hown, hnames⟩

theorem flatMap {α β : Type} {own : α → List String} {records : β → List Record} {items : List α}
    {results : List β}
    (h : List.Forall₂ (fun a result => NamedFrom phase (own a) (records result)) items results) :
    NamedFrom phase (items.flatMap own) (results.flatMap records) := by
  induction h with
  | nil => exact nil
  | cons first _ ih =>
    rw [List.flatMap_cons, List.flatMap_cons]
    exact first.append ih

end NamedFrom

namespace PhaseRecords

variable {phase : String} {part : List Record}

theorem of_labels (labels : List String)
    (h : part.map Record.name = labels.map fun label => phase ++ "/" ++ label)
    (distinct : labels.Nodup) (nonempty : labels ≠ []) : PhaseRecords phase part := by
  refine ⟨?_, labels, distinct, h⟩
  rintro rfl
  exact nonempty (List.map_eq_nil_iff.mp h.symm)

/-- One record for each of some items, under a label of its own. -/
theorem of_forall₂ {α : Type} {label : α → String} {items : List α}
    (h : List.Forall₂ (fun a r => r.name = phase ++ "/" ++ label a) items part)
    (distinct : (items.map label).Nodup) (nonempty : items ≠ []) : PhaseRecords phase part := by
  refine of_labels (items.map label) ?_ distinct (by simpa using nonempty)
  rw [List.map_map, ← List.forall₂_eq_eq_eq, List.forall₂_map_left_iff,
    List.forall₂_map_right_iff]
  exact h.flip

end PhaseRecords

/-! ### The names of single records -/

theorem pageRecord_name (name : String) (page : Except FetchFault Json)
    (judge : Json → Status × String) : (pageRecord name page judge).name = name := by
  cases page <;> rfl

theorem judgeHeaders_name (reply : Outcome Reply) :
    (judgeHeaders reply).name = "proxy/headers" := by
  cases reply with
  | error e => rfl
  | ok r =>
    rw [judgeHeaders]
    split_ifs <;> rfl

theorem judgeMessageStream_name (budget : Nat) (reply : Outcome Reply) :
    (judgeMessageStream budget reply).name = "anthropic/messages-stream" := by
  cases reply with
  | error e => rfl
  | ok r =>
    rw [judgeMessageStream]
    dsimp only
    split_ifs
    · rfl
    · rfl
    · cases r.text budget with
      | error e => rfl
      | ok text =>
        dsimp only
        split_ifs <;> rfl

theorem judgeTokenCount_name (budget : Nat) (reply : Outcome Reply) :
    (judgeTokenCount budget reply).name = "anthropic/count-tokens" := by
  cases reply with
  | error e => rfl
  | ok r =>
    rw [judgeTokenCount]
    split_ifs
    · cases r.json budget <;> rfl
    · rfl
    · rfl

theorem judgeTracking_name (reply : Outcome Reply) :
    (judgeTracking reply).name = "headers/tracking" := by
  cases reply with
  | error e => rfl
  | ok r =>
    rw [judgeTracking]
    dsimp only
    split_ifs
    · rfl
    · cases r.head.requestId <;> rfl

theorem judgeStatus_name (name : String) (accept : Nat → Bool) (reply : Outcome Reply) :
    (judgeStatus name accept reply).name = name := by
  cases reply <;> rfl

/-! ### Phases whose labels are known -/

section Phases

variable (setup : Setup)

theorem internalPhase_always : (internalPhase setup).Always (PhaseRecords "internal") := by
  have hpage : ∀ page, (checkInternalPage setup page).Always fun r =>
      r.name = "internal" ++ "/" ++ page.1 := by
    rintro ⟨label, path, keys⟩
    exact (Session.Always.any _).bind fun _ _ => .pure (pageRecord_name _ _ _)
  intro gateway seen
  exact .of_forall₂ (Session.Always.mapM hpage internalPages gateway seen) (by decide)
    (List.cons_ne_nil _ _)

theorem modelsPhase_always (model : Option String) :
    (modelsPhase setup model).Always (PhaseRecords "models") := by
  refine (Session.Always.any _).bind fun list _ => ?_
  cases model with
  | none =>
    refine .pure (.of_labels ["list", "lookup"] ?_ (by decide) (List.cons_ne_nil _ _))
    simp [pageRecord_name]
  | some id =>
    refine (Session.Always.any _).bind fun page _ => ?_
    refine .pure (.of_labels ["list", "lookup"] ?_ (by decide) (List.cons_ne_nil _ _))
    simp [pageRecord_name]

theorem judgeChat_named (page : Except FetchFault Json) :
    NamedFrom "proxy" ["chat-nonstream", "token-usage-nonstream"] (judgeChat page) := by
  cases page with
  | error fault => exact .of_names ["proxy/chat-nonstream"] rfl (by decide)
  | ok body =>
    exact .of_names ["proxy/chat-nonstream", "proxy/token-usage-nonstream"] rfl (by decide)

theorem askStreamedChat_always (model : String) :
    (askStreamedChat setup model).Always
      (NamedFrom "proxy" ["chat-stream", "token-usage-stream"]) := by
  have hfail (detail : String) : NamedFrom "proxy" ["chat-stream", "token-usage-stream"]
      [⟨"proxy/chat-stream", .fail, detail⟩] :=
    .of_names ["proxy/chat-stream"] rfl (by decide)
  refine (Session.Always.any _).bind fun outcome _ => ?_
  cases outcome with
  | error e => exact .pure (hfail _)
  | ok reply =>
    dsimp only
    split
    · exact .pure (hfail _)
    · cases reply.text setup.client.budget with
      | error e => exact .pure (hfail _)
      | ok text =>
        refine .pure (.of_names ["proxy/chat-stream", "proxy/token-usage-stream"] ?_ (by decide))
        rw [judgeProxyStream]
        dsimp only
        split_ifs <;> rfl

theorem proxyPhase_always (model : Option String) (skipStreaming : Bool) :
    (proxyPhase setup model skipStreaming).Always (PhaseRecords "proxy") := by
  refine (Session.Always.any _).bind fun list _ => ?_
  cases model with
  | none =>
    refine .pure (.of_labels ["models", "chat-nonstream"] ?_ (by decide) (List.cons_ne_nil _ _))
    simp [pageRecord_name]
  | some id =>
    refine (Session.Always.any _).bind fun chat _ => ?_
    refine (Session.Always.skippable .nil (askStreamedChat_always setup id)).bind
      fun streamed hstreamed => ?_
    refine (Session.Always.any _).bind fun last _ => ?_
    have hlist (judge : Json → Status × String) :
        NamedFrom "proxy" ["models"] [pageRecord "proxy/models" list judge] :=
      .of_names ["proxy/models"] (by rw [List.map_singleton, pageRecord_name]) (by decide)
    have hchat := judgeChat_named (judgePage setup.client.budget chat)
    have hlast : NamedFrom "proxy" ["headers"] [judgeHeaders last] :=
      .of_names ["proxy/headers"] (by rw [List.map_singleton, judgeHeaders_name]) (by decide)
    exact .pure (((((hlist _).append hchat).append hstreamed).append hlast).phaseRecords
      (by decide) (List.cons_ne_nil _ _))

theorem judgeMessages_named (budget : Nat) (reply : Outcome Reply) :
    NamedFrom "anthropic" ["messages-nonstream", "passthrough-check"]
      (judgeMessages budget reply) := by
  have hone (status : Status) (detail : String) :
      NamedFrom "anthropic" ["messages-nonstream", "passthrough-check"]
        [⟨"anthropic/messages-nonstream", status, detail⟩] :=
    .of_names ["anthropic/messages-nonstream"] rfl (by decide)
  cases reply with
  | error e => exact hone _ _
  | ok r =>
    rw [judgeMessages]
    split
    · exact hone _ _
    · cases r.json budget with
      | error e => exact hone _ _
      | ok page =>
        exact .of_names ["anthropic/messages-nonstream", "anthropic/passthrough-check"] rfl
          (by decide)

theorem messageChecks_always (model : String) (skipStreaming : Bool) :
    (messageChecks setup model skipStreaming).Always (NamedFrom "anthropic"
      (["messages-nonstream", "passthrough-check"] ++ ["messages-stream"] ++
        ["count-tokens"])) := by
  have hstream (reply : Outcome Reply) : NamedFrom "anthropic" ["messages-stream"]
      [judgeMessageStream setup.client.budget reply] :=
    .of_names ["anthropic/messages-stream"]
      (by rw [List.map_singleton, judgeMessageStream_name]) (by decide)
  have hstreamed := (Session.Always.any (setup.client.postMessage
    (Body.message model true none none))).bind fun reply _ => .pure (hstream reply)
  refine (Session.Always.any _).bind fun whole _ => ?_
  refine (Session.Always.skippable .nil hstreamed).bind fun streamed hstreamed => ?_
  refine (Session.Always.any _).bind fun tokens _ => ?_
  have htokens : NamedFrom "anthropic" ["count-tokens"]
      [judgeTokenCount setup.client.budget tokens] :=
    .of_names ["anthropic/count-tokens"]
      (by rw [List.map_singleton, judgeTokenCount_name]) (by decide)
  exact .pure (((judgeMessages_named _ _).append hstreamed).append htokens)

theorem messagesAfter_always (model : Option String) (skipStreaming : Bool) (status : Status)
    (detail : String) :
    (messagesAfter setup model skipStreaming ⟨"anthropic/models", status, detail⟩).Always
      (PhaseRecords "anthropic") := by
  cases model with
  | none =>
    exact .pure (.of_labels ["models", "messages-nonstream"] rfl (by decide)
      (List.cons_ne_nil _ _))
  | some id =>
    refine (messageChecks_always setup id skipStreaming).bind fun records hrecords => ?_
    have hfirst : NamedFrom "anthropic" ["models"] [⟨"anthropic/models", status, detail⟩] :=
      .of_names ["anthropic/models"] rfl (by decide)
    exact .pure ((hfirst.append hrecords).phaseRecords (by decide) (List.cons_ne_nil _ _))

theorem anthropicPhase_always (model : Option String) (skipStreaming : Bool) :
    (anthropicPhase setup model skipStreaming).Always (PhaseRecords "anthropic") := by
  refine (Session.Always.any _).bind fun page _ => ?_
  -- Unless the routes are not there the phase goes on, whatever became of the first page.
  split
  · exact messagesAfter_always setup model skipStreaming _ _
  · exact .pure (.of_labels ["models"] rfl (by decide) (List.cons_ne_nil _ _))
  · exact messagesAfter_always setup model skipStreaming _ _

theorem headersPhase_always (model : Option String) :
    (headersPhase setup model).Always (PhaseRecords "headers") := by
  cases model with
  | none => exact .pure (.of_labels ["version-fields"] rfl (by decide) (List.cons_ne_nil _ _))
  | some id =>
    refine (Session.Always.any _).bind fun page _ => ?_
    refine (Session.Always.any _).bind fun reply _ => ?_
    refine .pure (.of_labels ["version-fields", "tracking"] ?_ (by decide)
      (List.cons_ne_nil _ _))
    simp [pageRecord_name, judgeTracking_name]

theorem errorsPhase_always : (errorsPhase setup).Always (PhaseRecords "errors") := by
  refine (Session.Always.any _).bind fun unknown _ => ?_
  refine (Session.Always.any _).bind fun invalid _ => ?_
  refine (Session.Always.any _).bind fun missing _ => ?_
  refine .pure (.of_labels ["nonexistent-model", "invalid-body", "missing-model"] ?_ (by decide)
    (List.cons_ne_nil _ _))
  simp [judgeStatus_name]

/-! ### Backend types and modes -/

theorem providersPhase_always (inventory : Inventory) :
    (providersPhase setup inventory).Always (PhaseRecords "providers") := by
  have hroute (type : String) : (checkProviderRoute setup type).Always fun r =>
      r.name = "providers" ++ "/" ++ type := by
    refine (Session.Always.any _).bind fun page _ => ?_
    split
    · exact .pure rfl
    · exact .pure (pageRecord_name _ _ _)
  rw [providersPhase]
  split
  · exact .pure (.of_labels ["routes"] rfl (by decide) (List.cons_ne_nil _ _))
  · next types hnonempty =>
    intro gateway seen
    have distinct := Text.nodup_ordered (inventory.endpoints.map Endpoint.type)
    exact PhaseRecords.of_forall₂ (Session.Always.mapM hroute _ gateway seen)
      (by simpa using distinct) hnonempty

/-- The labels of the checks of a backend that represents a mode. -/
def modeLabels (mode : Mode) : List String := [mode.name ++ "-nonstream", mode.name ++ "-stream"]

theorem modeChecks_always (skipStreaming : Bool) (plan : Plan) (model : String) :
    (modeChecks setup skipStreaming plan model).Always fun out =>
      NamedFrom "passthrough" (modeLabels plan.mode) out.1 := by
  have hname (last : String) : "passthrough/" ++ plan.mode.name ++ last =
      "passthrough" ++ "/" ++ (plan.mode.name ++ last) := String.append_assoc ..
  refine (checkWhole_always setup plan model _).bind ?_
  rintro ⟨⟨_, whole, d₁⟩, seen⟩ rfl
  cases skipStreaming with
  | true =>
    refine .pure (.of_names ["passthrough/" ++ plan.mode.name ++ "-nonstream"] rfl ?_)
    rw [hname, modeLabels]
    exact (List.nil_sublist _).cons_cons _
  | false =>
    refine (checkStreamed_always setup plan model _).bind ?_
    rintro ⟨⟨_, streamed, d₂⟩, seenStreamed⟩ rfl
    refine .pure (.of_names ["passthrough/" ++ plan.mode.name ++ "-nonstream",
      "passthrough/" ++ plan.mode.name ++ "-stream"] rfl ?_)
    rw [hname, hname, modeLabels]
    exact List.Sublist.refl _

/-- A backend drawn for a mode is found again under its name. -/
theorem mode_of_drawn {r : Assignment} (distinct : (r.backends.map Plan.name).Nodup) {mode : Mode}
    {draws : Draws} {c : Representative} (hdrawn : (drawRepresentative r mode draws).1 = some c)
    {plan : Plan} (hplan : r.backends.find? (·.name = c.backend) = some plan) :
    plan.mode = mode := by
  obtain ⟨p, hp, hmodel⟩ := Option.bind_eq_some_iff.mp hdrawn
  obtain ⟨model, -, rfl⟩ := Option.map_eq_some_iff.mp hmodel
  obtain ⟨hready, hmode⟩ := List.mem_filter.mp (Draws.mem_of_choose? hp)
  have hname : plan.name = p.name := by simpa using List.find?_some hplan
  -- Two plans of one name are one plan.
  have hsame := List.inj_on_of_nodup_map distinct (List.mem_of_find?_eq_some hplan)
    (List.mem_filter.mp hready).1 hname
  rw [hsame]
  exact of_decide_eq_true hmode

theorem modes_chosenPlans {r : Assignment} (distinct : (r.backends.map Plan.name).Nodup)
    (mode : Mode) (draws : Draws) :
    ((chosenPlans r (drawRepresentative r mode draws).1.toList).map fun c => c.1.mode).Sublist
      [mode] := by
  cases hdrawn : (drawRepresentative r mode draws).1 with
  | none => exact List.nil_sublist _
  | some c =>
    rw [Option.toList_some, chosenPlans]
    cases hplan : r.backends.find? (·.name = c.backend) with
    | none => simp [hplan]
    | some plan => simp [hplan, mode_of_drawn distinct hdrawn hplan]

/-- Each mode is drawn for once. -/
theorem modes_candidates {r : Assignment} (distinct : (r.backends.map Plan.name).Nodup)
    (options : SurfaceOptions) (inventory : Inventory) :
    ((chosenPlans r (options.choice inventory r).candidates).map fun c => c.1.mode).Sublist
      [.passthrough, .translated] := by
  rw [SurfaceChoice.candidates, chosenPlans, List.filterMap_append, List.map_append]
  exact (modes_chosenPlans distinct .passthrough _).append
    (modes_chosenPlans distinct .translated _)

theorem modesPhase_always {r : Assignment} {candidates : List Representative}
    (hmodes : ((chosenPlans r candidates).map fun c => c.1.mode).Sublist
      [.passthrough, .translated]) (skipStreaming : Bool) :
    (modesPhase setup r candidates skipStreaming).Always fun found => ∀ records ∈ found,
      PhaseRecords "passthrough" records := by
  -- No label is used for two backends, as no mode is.
  have hlabels := hmodes.flatMap modeLabels
  rw [List.flatMap_map] at hlabels
  have hcheck : ∀ c : Plan × String, (modeChecks setup skipStreaming c.1 c.2).Always fun out =>
      NamedFrom "passthrough" (modeLabels c.1.mode) out.1 :=
    fun c => modeChecks_always setup skipStreaming c.1 c.2
  rw [modesPhase]
  split
  · refine .pure fun records hrecords => ?_
    cases hrecords
    exact .of_labels ["modes"] rfl (by decide) (List.cons_ne_nil _ _)
  · refine (Session.Always.mapM hcheck (chosenPlans r candidates)).bind fun results hresults => ?_
    refine (checkCounters_always setup _ "passthrough/stats").bind fun counters hcounters => ?_
    refine .pure fun records hrecords => ?_
    obtain ⟨⟨counted, page⟩, hcounted, rfl⟩ := Option.map_eq_some_iff.mp hrecords
    have hstats : NamedFrom "passthrough" ["stats"] [counted] :=
      .of_names ["passthrough/stats"] (congrArg (fun name => [name]) (hcounters _ hcounted))
        (by decide)
    exact (((NamedFrom.flatMap hresults).mono hlabels).append hstats).phaseRecords (by decide)
      (by simp)

/-- The page of counters that the phase for modes asks for, if it has backends to check. -/
def modesPage (r : Assignment) (candidates : List Representative) (skipStreaming : Bool)
    (gateway : Gateway) (seen : List Request) : Outcome CounterPage :=
  let checks := (chosenPlans r candidates).mapM fun c => modeChecks setup skipStreaming c.1 c.2
  countersPage setup gateway (checks.run gateway seen).2

theorem modesPhase_eq_none_iff (r : Assignment) (candidates : List Representative)
    (skipStreaming : Bool) (gateway : Gateway) (seen : List Request) :
    ((modesPhase setup r candidates skipStreaming).run gateway seen).1 = none ↔
      candidates ≠ [] ∧ Overflowing (modesPage setup r candidates skipStreaming gateway seen) := by
  rw [modesPhase]
  cases candidates with
  | nil => exact iff_of_false (Option.some_ne_none _) fun h => h.1 rfl
  | cons c rest =>
    rw [List.isEmpty_cons, if_neg Bool.false_ne_true, Session.run_bind, Session.run_bind]
    dsimp only
    rw [Session.run_pure, Option.map_eq_none_iff, checkCounters_eq_none_iff, modesPage]
    exact (and_iff_right (List.cons_ne_nil _ _)).symm

/-! ### All phases -/

/-- The phases that are not left out. -/
def SurfaceOptions.keeps (options : SurfaceOptions) : String → Bool
  | "anthropic" | "passthrough" => !options.skipAnthropic
  | "providers" => !options.skipProviders
  | _ => true

theorem always_kept (keep : String → Bool) {phase : String} {s : Session (List Record)}
    (h : s.Always (PhaseRecords phase)) (hkeep : keep phase = true) :
    s.Always (KeptRecords keep phase) := by
  intro gateway seen
  rw [KeptRecords, if_pos hkeep]
  exact h gateway seen

theorem always_optional (keep : String → Bool) {phase : String} {skip : Bool}
    {s : Session (List Record)} (h : s.Always (PhaseRecords phase)) (hkeep : keep phase = !skip) :
    (if skip then pure [] else s).Always (KeptRecords keep phase) := by
  cases skip with
  | true =>
    have hnone : KeptRecords keep phase [] := by
      rw [KeptRecords, hkeep, if_neg (by decide)]
    exact .pure hnone
  | false => exact always_kept keep h hkeep

/-- Records that the given phases leave, one after the other. -/
def LeftBy (keep : String → Bool) (given : List String) (records : List Record) : Prop :=
  ∃ parts, List.Forall₂ (KeptRecords keep) given parts ∧ records = parts.flatten

theorem LeftBy.append {keep : String → Bool} {given more : List String} {part rest : List Record}
    (h : LeftBy keep given part) (hrest : LeftBy keep more rest) :
    LeftBy keep (given ++ more) (part ++ rest) := by
  obtain ⟨parts, hparts, rfl⟩ := h
  obtain ⟨others, hothers, rfl⟩ := hrest
  exact ⟨parts ++ others, List.rel_append hparts hothers, List.flatten_append.symm⟩

section Parts

variable (options : SurfaceOptions) (inventory : Inventory)

theorem phasesBefore_always (model : Option String) :
    (phasesBefore setup options model).Always
      (LeftBy options.keeps ["internal", "models", "proxy", "anthropic"]) := by
  refine (always_kept options.keeps (internalPhase_always setup) rfl).bind
    fun internal hinternal => ?_
  refine (always_kept options.keeps (modelsPhase_always setup _) rfl).bind fun models hmodels => ?_
  refine (always_kept options.keeps (proxyPhase_always setup _ _) rfl).bind fun proxy hproxy => ?_
  refine (always_optional options.keeps (anthropicPhase_always setup _ _) rfl).bind
    fun messages hmessages => .pure ?_
  exact ⟨[internal, models, proxy, messages],
    .cons hinternal (.cons hmodels (.cons hproxy (.cons hmessages .nil))), by simp⟩

theorem phasesAfter_always (model : Option String) :
    (phasesAfter setup options inventory model).Always
      (LeftBy options.keeps ["providers", "headers", "errors"]) := by
  refine (always_optional options.keeps (providersPhase_always setup _) rfl).bind
    fun providers hproviders => ?_
  refine (always_kept options.keeps (headersPhase_always setup _) rfl).bind
    fun headers hheaders => ?_
  refine (always_kept options.keeps (errorsPhase_always setup) rfl).bind
    fun errors herrors => .pure ?_
  exact ⟨[providers, headers, errors], .cons hproviders (.cons hheaders (.cons herrors .nil)),
    by simp⟩

/-- The phase for modes, or what stands for it where it is left out. -/
theorem optionalModes_always {r : Assignment} (distinct : (r.backends.map Plan.name).Nodup) :
    (if options.skipAnthropic then pure (some []) else
      modesPhase setup r (options.choice inventory r).candidates options.skipStreaming :
        Session (Option (List Record))).Always fun found => ∀ records ∈ found,
      LeftBy options.keeps ["passthrough"] records := by
  have hleft {records : List Record} (h : KeptRecords options.keeps "passthrough" records) :
      LeftBy options.keeps ["passthrough"] records :=
    ⟨[records], .cons h .nil, List.flatten_singleton.symm⟩
  have hkeep : options.keeps "passthrough" = !options.skipAnthropic := rfl
  cases hskip : options.skipAnthropic with
  | true =>
    refine .pure fun records hrecords => hleft ?_
    cases hrecords
    rw [KeptRecords, hkeep, hskip, if_neg (by decide)]
  | false =>
    intro gateway seen records hrecords
    refine hleft ?_
    rw [KeptRecords, hkeep, hskip, if_pos (by decide)]
    exact modesPhase_always setup (modes_candidates distinct options inventory)
      options.skipStreaming gateway seen records hrecords

/-- Whatever is answered, the phases that are kept leave a report in phases, if the run comes to
its end. -/
theorem surfacePhases_always {r : Assignment} (distinct : (r.backends.map Plan.name).Nodup) :
    (surfacePhases setup options inventory r).Always fun found => ∀ out ∈ found,
      out.inventory = inventory ∧ out.report.Phased (phases.filter options.keeps) := by
  refine (phasesBefore_always setup options _).bind fun before hbefore => ?_
  refine (optionalModes_always setup options inventory distinct).bind fun modes hmodes => ?_
  cases modes with
  | none => exact .pure fun out hout => nomatch hout
  | some modes =>
    refine (phasesAfter_always setup options inventory _).bind fun after hafter => ?_
    refine .pure fun out hout => ?_
    cases hout
    obtain ⟨parts, hparts, hrecords⟩ := (hbefore.append (hmodes modes rfl)).append hafter
    refine ⟨rfl, ?_⟩
    dsimp only
    rw [hrecords]
    exact Report.phased_of_parts hparts "integration"

/-- The run comes to the counters of the gateway, and these cannot be added up. -/
def SurfaceOverflows (r : Assignment) (gateway : Gateway) (seen : List Request) : Prop :=
  let choice := options.choice inventory r
  let before := (phasesBefore setup options choice.model).run gateway seen
  options.skipAnthropic = false ∧ choice.candidates ≠ [] ∧
    Overflowing (modesPage setup r choice.candidates options.skipStreaming gateway before.2)

/-- A run for given plans comes to nothing exactly where its counters cannot be added up. -/
theorem surfacePhases_eq_none_iff (r : Assignment) (gateway : Gateway) (seen : List Request) :
    ((surfacePhases setup options inventory r).run gateway seen).1 = none ↔
      SurfaceOverflows setup options inventory r gateway seen := by
  rw [surfacePhases, Session.run_bind, Session.run_bind, SurfaceOverflows, ← modesPhase_eq_none_iff]
  -- What follows the phase for modes has an outcome, whatever is answered.
  cases options.skipAnthropic with
  | true =>
    rw [if_pos rfl, Session.run_pure]
    dsimp only
    rw [Session.run_bind, Session.run_pure]
    exact iff_of_false (Option.some_ne_none _) fun h => nomatch h.1
  | false =>
    rw [if_neg Bool.false_ne_true]
    refine Iff.trans ?_ (and_iff_right rfl).symm
    cases ((modesPhase setup r _ options.skipStreaming).run gateway _).1 with
    | none => exact iff_of_true rfl rfl
    | some modes =>
      dsimp only
      rw [Session.run_bind, Session.run_pure]
      exact iff_of_false (Option.some_ne_none _) (Option.some_ne_none _)

end Parts
end Phases

/-- **What a run over the whole surface records.** A gateway that is not well is unreachable, and
lists that are not there are a failure of discovery. One thing else ends a run: where the counters
that the phase for modes asks for cannot be added up the program is aborted. The records of any
other run stand in the phases that are not left out, in their order and under distinct names, each
phase has some, and the counts of the phases are those of the whole report, phase by phase. -/
theorem surfaceRun_phased (setup : Setup) (options : SurfaceOptions) (gateway : Gateway)
    (seen : List Request) :
    let health := setup.client.askHealth.run gateway seen
    let endpoints := (setup.client.getPage Route.endpointList).run gateway health.2
    let models := (setup.client.getPage ListSource.unified.route).run gateway endpoints.2
    let result := ((surfaceRun setup options).run gateway seen).1
    (¬health.1.IsWell →
      ∃ reason, result = .error (.gateway (.unreachable setup.client.access.address reason))) ∧
    (health.1.IsWell →
      (¬∃ inventory : Inventory, inventory.IsListed .unified endpoints.1 models.1) →
      ∃ reason, result = .error (.gateway (.discovery reason))) ∧
    (health.1.IsWell → ∀ inventory : Inventory,
      inventory.IsListed .unified endpoints.1 models.1 →
      let r := assign inventory.endpoints inventory.models setup.settings.modes
        ⟨false, .random options.planDraws⟩
      let overflows := SurfaceOverflows setup options inventory r gateway models.2
      (overflows → result = .error .overflow) ∧
      (¬overflows → ∃ out, result = .ok out ∧ out.inventory = inventory ∧
        out.report.Phased (phases.filter options.keeps))) := by
  intro health endpoints models result
  obtain ⟨hunwell, hunlisted, hlisted⟩ := setup.surveyed_cases .unified
    ⟨false, .random options.planDraws⟩ (surfacePhases setup options) gateway seen
  refine ⟨hunwell, hunlisted, ?_⟩
  intro well inventory listed r overflows
  have hresult : result = unlessOverflow _ := hlisted well inventory listed
  -- The phases come to nothing over counters alone, and to a report in phases otherwise.
  obtain ⟨haborted, hended⟩ := unlessOverflow_cases
    (surfacePhases_eq_none_iff setup options inventory r gateway models.2)
  rw [hresult]
  refine ⟨haborted, fun hfits => ?_⟩
  obtain ⟨out, hout, hok⟩ := hended hfits
  have hphased := surfacePhases_always setup options inventory (nodup_backends _ _ _ _) gateway
    models.2 out hout
  exact ⟨out, hok, hphased⟩

/-- Nothing is left out, and each stream of words is one of its own. -/
def chanceOptions : SurfaceOptions where
  planDraws := { word := fun _ => 0 }
  draws := { word := fun n => n.toUInt32 }

/-- A backend of this gateway is drawn for its mode. -/
theorem counting_drawn :
    let r := assign countingInventory.endpoints countingInventory.models .standard
      ⟨false, .random chanceOptions.planDraws⟩
    (chanceOptions.choice countingInventory r).candidates ≠ [] := by
  decide +kernel

/-- With counters that add up the run comes to its end. -/
theorem surfaceRun_phased_counting :
    ∃ out, ((surfaceRun ⟨{}⟩ chanceOptions).run (.steady (countingAnswer countingPage)) []).1 =
        .ok out ∧ out.inventory = countingInventory ∧ out.report.Phased phases := by
  obtain ⟨well, listed⟩ := counting_listed List.mem_cons_self .unified
  obtain ⟨-, -, hlisted⟩ := surfaceRun_phased ⟨{}⟩ chanceOptions
    (.steady (countingAnswer countingPage)) []
  obtain ⟨-, hphased⟩ := hlisted well countingInventory listed
  refine hphased ?_
  rintro ⟨-, -, hoverflows⟩
  rw [modesPage, countersPage_steady] at hoverflows
  exact counting_fits hoverflows

/-- With counters that cannot be added up the run comes to no records, and to no error of the
gateway either. -/
theorem surfaceRun_aborted :
    ((surfaceRun ⟨{}⟩ chanceOptions).run (.steady (countingAnswer lostPage)) []).1 =
      .error .overflow ∧
    ¬∀ (setup : Setup) (options : SurfaceOptions) (gateway : Gateway) (seen : List Request),
      let result := ((surfaceRun setup options).run gateway seen).1
      (∃ e, result = .error (.gateway e)) ∨ ∃ out, result = .ok out := by
  obtain ⟨well, listed⟩ := counting_listed (List.mem_cons_of_mem countingPage
    (List.mem_singleton_self lostPage)) .unified
  obtain ⟨-, -, hlisted⟩ := Setup.surveyed_cases ⟨{}⟩ .unified
    ⟨false, .random chanceOptions.planDraws⟩ (surfacePhases ⟨{}⟩ chanceOptions)
    (.steady (countingAnswer lostPage)) []
  have hrun : ((surfaceRun ⟨{}⟩ chanceOptions).run (.steady (countingAnswer lostPage)) []).1 =
      .error .overflow := by
    refine (hlisted well countingInventory listed).trans
      ((unlessOverflow_cases (surfacePhases_eq_none_iff ..)).1 ⟨rfl, counting_drawn, ?_⟩)
    rw [modesPage, countersPage_steady]
    exact counting_overflows
  refine ⟨hrun, fun hall => ?_⟩
  rcases hall _ _ _ _ with ⟨e, herror⟩ | ⟨out, hok⟩
  · cases hrun.symm.trans herror
  · cases hrun.symm.trans hok

end GatewayProbe
