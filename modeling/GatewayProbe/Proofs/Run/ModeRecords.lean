/-
What a run for all backends records.

Whatever the gateway answers, a run that has its lists goes on to the page of counters: every
request ends in one record, and no error is passed on. Which records there are and in which order is
decided by the plans and the options alone, and no two records have one name, whatever the gateway
calls its backends. Only counters that cannot be added up keep the run from its end.

* `Checked`, `CheckedAll` — the row and the records of one backend, and of all;
* `EdgesChecked` — the records of the edge cases, three of them;
* `checkBackend_always`, `checkEdgeCases_always` — the checks leave these records;
* `nodup_names` — the names are distinct;
* `modePage`, `checkBackends_eq_none_iff` — the counters that a run depends on;
* `modeRun_records` — the whole run.
-/
import Mathlib.Data.List.Nodup
import GatewayProbe.Exchange.Script
import GatewayProbe.Proofs.Plan.Agreement
import GatewayProbe.Proofs.Run.CounterSums
import GatewayProbe.Proofs.Run.Start
import GatewayProbe.Proofs.Text.Ends
import GatewayProbe.Run.Modes

namespace GatewayProbe

/-! ### The records of one backend -/

/-- The row and the records of one backend. -/
inductive Checked (skipStreaming : Bool) (plan : Plan) : BackendRow → List Record → Prop
  | leftOut (unfit : plan.selected = none ∨ plan.mode = .untested) (reason : String) :
      Checked skipStreaming plan ⟨plan.name, plan.type, plan.selected, plan.mode, .skip, none⟩
        [⟨plan.name ++ "/anthropic-nonstream", .skip, reason⟩]
  | whole (fit : plan.selected ≠ none ∧ plan.mode ≠ .untested) (skipped : skipStreaming = true)
      (whole baseline : Status) (d₁ d₂ : String) :
      Checked skipStreaming plan ⟨plan.name, plan.type, plan.selected, plan.mode, whole, none⟩
        [⟨plan.name ++ "/anthropic-nonstream", whole, d₁⟩,
          ⟨plan.name ++ "/openai-baseline", baseline, d₂⟩]
  | streamed (fit : plan.selected ≠ none ∧ plan.mode ≠ .untested) (kept : skipStreaming = false)
      (whole streamed baseline : Status) (d₁ d₂ d₃ : String) :
      Checked skipStreaming plan
        ⟨plan.name, plan.type, plan.selected, plan.mode, whole, some streamed⟩
        [⟨plan.name ++ "/anthropic-nonstream", whole, d₁⟩,
          ⟨plan.name ++ "/anthropic-stream", streamed, d₂⟩,
          ⟨plan.name ++ "/openai-baseline", baseline, d₃⟩]

/-- The rows and the records of backends, in their order. -/
inductive CheckedAll (skipStreaming : Bool) : List Plan → List BackendRow → List Record → Prop
  | nil : CheckedAll skipStreaming [] [] []
  | cons {plan : Plan} {row : BackendRow} {own : List Record} {plans : List Plan}
      {rows : List BackendRow} {records : List Record} (first : Checked skipStreaming plan row own)
      (rest : CheckedAll skipStreaming plans rows records) :
      CheckedAll skipStreaming (plan :: plans) (row :: rows) (own ++ records)

theorem recordOf_name (name : String) (judged : Outcome Finding) :
    (recordOf name judged).name = name := by
  cases judged <;> rfl

section Checks

variable (setup : Setup) (plan : Plan)

theorem checkWhole_always (model name : String) :
    (checkWhole setup plan model name).Always fun out => out.1.name = name :=
  (Session.Always.any _).bind fun _ _ => .pure (recordOf_name name _)

theorem checkStreamed_always (model name : String) :
    (checkStreamed setup plan model name).Always fun out => out.1.name = name :=
  (Session.Always.any _).bind fun _ _ => .pure (recordOf_name name _)

theorem checkBaseline_always (model : String) :
    (checkBaseline setup plan model).Always fun record =>
      record.name = plan.name ++ "/openai-baseline" := by
  refine (Session.Always.any _).bind fun outcome _ => ?_
  cases outcome with
  | error e => exact .pure rfl
  | ok reply => exact .pure rfl

theorem testModel_error {reason : String} (h : plan.testModel = .error reason) :
    plan.selected = none ∨ plan.mode = .untested := by
  rw [Plan.testModel] at h
  split at h
  · next hnone => exact .inl hnone
  · cases hmode : plan.mode with
    | untested => exact .inr rfl
    | passthrough | translated =>
      rw [hmode, Mode.isKnown, if_pos rfl] at h
      cases h

theorem testModel_ok {model : String} (h : plan.testModel = .ok model) :
    plan.selected ≠ none ∧ plan.mode ≠ .untested := by
  rw [Plan.testModel] at h
  split at h
  · cases h
  · next hsome =>
    refine ⟨by rw [hsome]; exact Option.some_ne_none _, fun hmode => ?_⟩
    rw [hmode, Mode.isKnown, if_neg Bool.false_ne_true] at h
    cases h

/-- Whatever is answered, one backend leaves its records. -/
theorem checkBackend_always (skipStreaming : Bool) :
    (checkBackend setup skipStreaming plan).Always fun result =>
      Checked skipStreaming plan result.row result.records := by
  rw [checkBackend]
  cases htest : plan.testModel with
  | error reason => exact .pure (.leftOut (testModel_error plan htest) reason)
  | ok model =>
    have fit := testModel_ok plan htest
    -- A record keeps the name it was asked under; its status and detail may be any.
    refine (checkWhole_always setup plan model _).bind ?_
    rintro ⟨⟨_, whole, d₁⟩, seen⟩ rfl
    cases hskip : skipStreaming with
    | true =>
      refine (checkBaseline_always setup plan model).bind ?_
      rintro ⟨_, baseline, d₂⟩ rfl
      exact .pure (.whole fit rfl whole baseline d₁ d₂)
    | false =>
      refine (checkStreamed_always setup plan model _).bind ?_
      rintro ⟨⟨_, streamed, d₂⟩, seenStreamed⟩ rfl
      refine (checkBaseline_always setup plan model).bind ?_
      rintro ⟨_, baseline, d₃⟩ rfl
      exact .pure (.streamed fit rfl whole streamed baseline d₁ d₂ d₃)

end Checks

theorem CheckedAll.of_forall₂ {skipStreaming : Bool} {plans : List Plan}
    {results : List BackendResult}
    (h : List.Forall₂ (fun plan result => Checked skipStreaming plan result.row result.records)
      plans results) :
    CheckedAll skipStreaming plans (results.map BackendResult.row)
      (results.flatMap BackendResult.records) := by
  induction h with
  | nil => exact .nil
  | cons first _ ih => exact .cons first ih

/-! ### The edge cases -/

/-- The records of the edge cases. Two of them are made on a backend, if there is one for them. -/
inductive EdgesChecked (r : Assignment) : List Record → Prop
  | without (absent : ∀ plan ∈ r.ready, plan.mode ≠ .passthrough) (missing : Status)
      (d₁ d₂ d₃ : String) :
      EdgesChecked r [⟨"edge/nonexistent-model", missing, d₁⟩, ⟨"edge/system-param", .skip, d₂⟩,
        ⟨"edge/multiturn", .skip, d₃⟩]
  | on (plan : Plan) (listed : plan ∈ r.ready) (fit : plan.mode = .passthrough)
      (missing system multiturn : Status) (d₁ d₂ d₃ : String) :
      EdgesChecked r [⟨"edge/nonexistent-model", missing, d₁⟩,
        ⟨"edge/system-param (" ++ plan.name ++ ")", system, d₂⟩,
        ⟨"edge/multiturn (" ++ plan.name ++ ")", multiturn, d₃⟩]

theorem judgeByStatus_always (setup : Setup) (name : String) (body : Json) (accept : Nat → Bool) :
    (judgeByStatus setup name body accept).Always fun record => record.name = name := by
  refine (Session.Always.any _).bind fun outcome _ => ?_
  cases outcome with
  | error e => exact .pure rfl
  | ok reply => exact .pure (recordOf_name name _)

/-- A backend that can be tested has a model, so the edge cases are never left after the first. -/
theorem selected_of_ready {r : Assignment} {plan : Plan} (h : plan ∈ r.ready) :
    plan.selected ≠ none := by
  have hready : plan.isReady = true := (List.mem_filter.mp h).2
  rw [Plan.isReady, Bool.and_eq_true] at hready
  exact Option.isSome_iff_ne_none.mp hready.2

/-- Whatever is answered, the edge cases leave three records. -/
theorem checkEdgeCases_always (setup : Setup) (r : Assignment) :
    (checkEdgeCases setup r).Always (EdgesChecked r) := by
  refine (judgeByStatus_always setup "edge/nonexistent-model" _ _).bind ?_
  rintro ⟨_, missing, d₁⟩ rfl
  cases hplan : edgePlan? r with
  | none =>
    have absent : ∀ plan ∈ r.ready, plan.mode ≠ .passthrough := by
      simpa using List.find?_eq_none.mp hplan
    exact .pure (.without absent missing d₁ _ _)
  | some plan =>
    have listed : plan ∈ r.ready := List.mem_of_find?_eq_some hplan
    have fit : plan.mode = .passthrough := by
      rw [edgePlan?] at hplan
      simpa using List.find?_some hplan
    dsimp only
    cases hmodel : plan.selected with
    | none =>
      -- The backend was taken from those that can be tested.
      exact absurd hmodel (selected_of_ready listed)
    | some model =>
      refine (judgeByStatus_always setup _ _ _).bind ?_
      rintro ⟨_, system, d₂⟩ rfl
      refine (judgeByStatus_always setup _ _ _).bind ?_
      rintro ⟨_, multiturn, d₃⟩ rfl
      exact .pure (.on plan listed fit missing system multiturn d₁ d₂ d₃)

/-! ### The names of records -/

/-- The ends of the names of records of backends. -/
def backendEnds : List String := ["/anthropic-nonstream", "/anthropic-stream", "/openai-baseline"]

/-- The ends of the names of the edge cases. -/
def edgeEnds : List String := ["-model", "-param", "turn", ")"]

theorem backendEnds_apart : ∀ s ∈ backendEnds, ∀ t ∈ backendEnds, s = t ∨ Text.Apart s t := by
  decide

theorem Checked.names {skipStreaming : Bool} {plan : Plan} {row : BackendRow} {own : List Record}
    (h : Checked skipStreaming plan row own) :
    ∃ ends : List String, ends.Sublist backendEnds ∧
      own.map Record.name = ends.map (plan.name ++ ·) := by
  cases h with
  | leftOut unfit reason => exact ⟨["/anthropic-nonstream"], by decide, rfl⟩
  | whole => exact ⟨["/anthropic-nonstream", "/openai-baseline"], by decide, rfl⟩
  | streamed => exact ⟨backendEnds, List.Sublist.refl _, rfl⟩

theorem CheckedAll.exists_end {skipStreaming : Bool} {plans : List Plan} {rows : List BackendRow}
    {own : List Record} (h : CheckedAll skipStreaming plans rows own) :
    ∀ name ∈ own.map Record.name, ∃ plan ∈ plans, ∃ last ∈ backendEnds,
      name = plan.name ++ last := by
  induction h with
  | nil => simp
  | cons first rest ih =>
    intro name hname
    rw [List.map_append, List.mem_append] at hname
    rcases hname with hname | hname
    · obtain ⟨ends, hends, hnames⟩ := first.names
      rw [hnames] at hname
      obtain ⟨last, hlast, rfl⟩ := List.mem_map.mp hname
      exact ⟨_, List.mem_cons_self, last, hends.subset hlast, rfl⟩
    · obtain ⟨plan, hplan, hlast⟩ := ih name hname
      exact ⟨plan, List.mem_cons_of_mem _ hplan, hlast⟩

/-- Where backends have distinct names, so have their records. -/
theorem CheckedAll.nodup {skipStreaming : Bool} {plans : List Plan} {rows : List BackendRow}
    {own : List Record} (h : CheckedAll skipStreaming plans rows own)
    (distinct : (plans.map Plan.name).Nodup) : (own.map Record.name).Nodup := by
  induction h with
  | nil => exact List.nodup_nil
  | @cons plan row own plans rows records first rest ih =>
    rw [List.map_cons, List.nodup_cons] at distinct
    obtain ⟨ends, hends, hnames⟩ := first.names
    rw [List.map_append, List.nodup_append]
    refine ⟨?_, ih distinct.2, fun x hx y hy => ?_⟩
    · have hnodup : ends.Nodup := List.Nodup.sublist hends (by decide)
      rw [hnames]
      exact hnodup.map fun s t h => (String.append_right_inj plan.name).mp h
    · rw [hnames] at hx
      obtain ⟨s, hs, rfl⟩ := List.mem_map.mp hx
      obtain ⟨other, hother, t, ht, rfl⟩ := rest.exists_end y hy
      rcases backendEnds_apart s (hends.subset hs) t ht with rfl | hapart
      · -- With one end the names of the backends would be the same.
        intro heq
        rw [(String.append_left_inj s).mp heq] at distinct
        exact distinct.1 (List.mem_map_of_mem hother)
      · exact hapart.ne (Text.suffix_append _ _) (Text.suffix_append _ _)

theorem EdgesChecked.exists_end {r : Assignment} {edges : List Record} (h : EdgesChecked r edges) :
    ∀ name ∈ edges.map Record.name, ∃ last ∈ edgeEnds, last.toList <:+ name.toList := by
  cases h with
  | without absent missing d₁ d₂ d₃ =>
    show ∀ name ∈ ["edge/nonexistent-model", "edge/system-param", "edge/multiturn"], _
    decide
  | on plan listed fit missing system multiturn d₁ d₂ d₃ =>
    intro name hname
    simp only [List.map_cons, List.map_nil, List.mem_cons, List.not_mem_nil, or_false] at hname
    rcases hname with rfl | rfl | rfl
    · decide
    · exact ⟨")", by decide, Text.suffix_append _ _⟩
    · exact ⟨")", by decide, Text.suffix_append _ _⟩

theorem EdgesChecked.nodup {r : Assignment} {edges : List Record} (h : EdgesChecked r edges) :
    (edges.map Record.name).Nodup := by
  cases h with
  | without absent missing d₁ d₂ d₃ =>
    show ["edge/nonexistent-model", "edge/system-param", "edge/multiturn"].Nodup
    decide
  | on plan listed fit missing system multiturn d₁ d₂ d₃ =>
    have hmissing (front : String) : "edge/nonexistent-model" ≠ front ++ ")" :=
      Text.Apart.ne (by decide : Text.Apart "-model" ")") (by decide) (Text.suffix_append _ _)
    have hfront : "edge/system-param (" ++ plan.name ++ ")" ≠
        "edge/multiturn (" ++ plan.name ++ ")" := by
      rw [Ne, String.append_left_inj, String.append_left_inj]
      decide
    simp [hmissing, hfront]

/-! ### The whole run -/

/-- The records of a run over given plans: those of the backends, those of the edge cases unless
they are left out, and one for the counters, all of them under distinct names. -/
structure ModeOutcome.Recorded (options : ModeOptions) (r : Assignment) (out : ModeOutcome) :
    Prop where
  records : ∃ own edges counted, CheckedAll options.skipStreaming r.backends out.matrix own ∧
    (if options.skipEdgeCases then edges = [] else EdgesChecked r edges) ∧
    counted.name = "stats/translator-counters" ∧ out.report.records = own ++ edges ++ [counted]
  distinct : (out.report.records.map Record.name).Nodup

/-- All records have distinct names. -/
theorem nodup_names {options : ModeOptions} {r : Assignment} {rows : List BackendRow}
    {own edges : List Record} {counted : Record} (distinct : (r.backends.map Plan.name).Nodup)
    (hown : CheckedAll options.skipStreaming r.backends rows own)
    (hedges : if options.skipEdgeCases then edges = [] else EdgesChecked r edges)
    (hcounted : counted.name = "stats/translator-counters") :
    ((own ++ edges ++ [counted]).map Record.name).Nodup := by
  have hchecked : (edges.map Record.name).Nodup ∧
      ∀ name ∈ edges.map Record.name, ∃ last ∈ edgeEnds, last.toList <:+ name.toList := by
    split at hedges
    · rw [hedges]
      exact ⟨List.nodup_nil, by simp⟩
    · exact ⟨hedges.nodup, hedges.exists_end⟩
  obtain ⟨hnodup, hends⟩ := hchecked
  have hbackends : ∀ name ∈ own.map Record.name, ∃ last ∈ backendEnds,
      last.toList <:+ name.toList := by
    intro name hname
    obtain ⟨plan, -, last, hlast, rfl⟩ := hown.exists_end name hname
    exact ⟨last, hlast, Text.suffix_append _ _⟩
  have hcounters : ∀ name ∈ [counted.name], ∃ last ∈ ["-counters"],
      last.toList <:+ name.toList := by
    rw [hcounted]
    decide
  have hlast : (edges.map Record.name ++ [counted.name]).Nodup :=
    Text.nodup_append_of_apart (by decide) hnodup (List.nodup_singleton _) hends hcounters
  have hends : ∀ name ∈ edges.map Record.name ++ [counted.name],
      ∃ last ∈ edgeEnds ++ ["-counters"], last.toList <:+ name.toList := by
    intro name hname
    rcases List.mem_append.mp hname with hname | hname
    · obtain ⟨last, hlast, hsuffix⟩ := hends name hname
      exact ⟨last, List.mem_append_left _ hlast, hsuffix⟩
    · obtain ⟨last, hlast, hsuffix⟩ := hcounters name hname
      exact ⟨last, List.mem_append_right _ hlast, hsuffix⟩
  rw [List.map_append, List.map_append, List.map_singleton, List.append_assoc]
  exact Text.nodup_append_of_apart (by decide) (hown.nodup distinct) hlast hbackends hends

/-- What a run for given plans comes to, if it comes to anything. -/
theorem checkBackends_always (setup : Setup) (options : ModeOptions) (inventory : Inventory)
    (r : Assignment) (distinct : (r.backends.map Plan.name).Nodup) :
    (checkBackends setup options inventory r).Always fun found => ∀ out ∈ found,
      out.inventory = inventory ∧ out.assignment = r ∧ out.Recorded options r := by
  have hedges : (if options.skipEdgeCases then pure [] else checkEdgeCases setup r).Always
      fun edges => if options.skipEdgeCases then edges = [] else EdgesChecked r edges := by
    split
    · exact .pure rfl
    · exact checkEdgeCases_always setup r
  refine (Session.Always.mapM (fun plan =>
    checkBackend_always setup plan options.skipStreaming) r.backends).bind ?_
  intro results hresults
  refine hedges.bind ?_
  intro edges hedges
  refine (checkCounters_always setup _ _).bind fun counters hcounters => .pure fun out hout => ?_
  obtain ⟨⟨counted, page⟩, hcounted, rfl⟩ := Option.map_eq_some_iff.mp hout
  have hown := CheckedAll.of_forall₂ hresults
  have hname := hcounters _ hcounted
  exact ⟨rfl, rfl, ⟨_, edges, counted, hown, hedges, hname, rfl⟩,
    nodup_names distinct hown hedges hname⟩

section Counters

variable (setup : Setup) (options : ModeOptions) (gateway : Gateway) (seen : List Request)

/-- The page of counters that a run for given plans asks for at its end. -/
def modePage (r : Assignment) : Outcome CounterPage :=
  let matrix := r.backends.mapM (checkBackend setup options.skipStreaming)
  let edges := if options.skipEdgeCases then pure [] else checkEdgeCases setup r
  countersPage setup gateway (edges.run gateway (matrix.run gateway seen).2).2

/-- A run for given plans comes to nothing exactly where its counters cannot be added up. -/
theorem checkBackends_eq_none_iff (inventory : Inventory) (r : Assignment) :
    ((checkBackends setup options inventory r).run gateway seen).1 = none ↔
      Overflowing (modePage setup options gateway seen r) := by
  rw [checkBackends, Session.run_bind, Session.run_bind, Session.run_bind]
  dsimp only
  rw [Session.run_pure, Option.map_eq_none_iff, checkCounters_eq_none_iff, modePage]

end Counters

/-- **What a run for all backends records.** A gateway that is not well is unreachable, and lists
that are not there are a failure of discovery. One thing else ends a run: where the counters that it
asks for at last cannot be added up the program is aborted. Any other run has, for each backend, in
order, a row and the records of that backend; then the records of the edge cases, unless they are
left out, and one record for the counters. The statuses of a row are those of its records, and no
two records have one name. -/
theorem modeRun_records (setup : Setup) (options : ModeOptions) (gateway : Gateway)
    (seen : List Request) :
    let health := setup.client.askHealth.run gateway seen
    let endpoints := (setup.client.getPage Route.endpointList).run gateway health.2
    let models := (setup.client.getPage options.source.route).run gateway endpoints.2
    let result := ((modeRun setup options).run gateway seen).1
    (¬health.1.IsWell →
      ∃ reason, result = .error (.gateway (.unreachable setup.client.access.address reason))) ∧
    (health.1.IsWell →
      (¬∃ inventory : Inventory, inventory.IsListed options.source endpoints.1 models.1) →
      ∃ reason, result = .error (.gateway (.discovery reason))) ∧
    (health.1.IsWell → ∀ inventory : Inventory,
      inventory.IsListed options.source endpoints.1 models.1 →
      let r := assign inventory.endpoints inventory.models setup.settings.modes options.assign
      let page := modePage setup options gateway models.2 r
      (Overflowing page → result = .error .overflow) ∧
      (¬Overflowing page → ∃ out, result = .ok out ∧ out.inventory = inventory ∧
        out.assignment = r ∧ out.Recorded options r)) := by
  intro health endpoints models result
  obtain ⟨hunwell, hunlisted, hlisted⟩ := setup.surveyed_cases options.source options.assign
    (checkBackends setup options) gateway seen
  refine ⟨hunwell, hunlisted, ?_⟩
  intro well inventory listed r page
  have hresult : result = unlessOverflow _ := hlisted well inventory listed
  -- The checks come to nothing over counters alone, and leave their records otherwise.
  obtain ⟨haborted, hended⟩ := unlessOverflow_cases
    (checkBackends_eq_none_iff setup options gateway models.2 inventory r)
  rw [hresult]
  refine ⟨haborted, fun hfits => ?_⟩
  obtain ⟨out, hout, hok⟩ := hended hfits
  have hrecorded := checkBackends_always setup options inventory r (nodup_backends _ _ _ _) gateway
    models.2 out hout
  exact ⟨out, hok, hrecorded⟩

/-- A gateway with one backend, which passes messages on, and with this page of counters. -/
def countingRules (counters : String) : List Rule :=
  let page (path body : String) : Rule := { method := "GET", path, body := Text.toUtf8 body }
  [page Route.health "",
   page Route.endpointList
    "\x7b\"endpoints\":[\x7b\"name\":\"a\",\"type\":\"vllm\",\"status\":\"healthy\"\x7d]\x7d",
   page Route.recentModels
    "\x7b\"recent_models\":[\x7b\"name\":\"m\",\"endpoints\":[\"a\"]\x7d]\x7d",
   page Route.modelList
    "\x7b\"data\":[\x7b\"id\":\"m\",\"olla\":\x7b\"availability\":[\x7b\"endpoint\":\"a\"\x7d]\x7d\x7d]\x7d",
   page Route.counters counters,
   { method := "POST", path := Route.messages,
     headers := [("X-Olla-Mode", Text.toUtf8 "passthrough")] }]

/-- The answers of this gateway, each of them to a request by itself. -/
def countingAnswer (counters : String) : Request → Answer := Script.respond (countingRules counters)

/-- One of each was counted, and no fallback. -/
def countingPage : String :=
  "\x7b\"translators\":[\x7b\"translator_name\":\"Anthropic\"," ++
    "\"total_requests\":1,\"passthrough_requests\":1,\"translation_requests\":1\x7d]\x7d"

/-- What this gateway lists. -/
def countingInventory : Inventory :=
  ⟨[⟨"a", "vllm", none, "healthy", 0⟩], [⟨"m", [⟨"a", none⟩], none⟩]⟩

theorem counting_pages : ∀ counters ∈ [countingPage, lostPage],
    let client := (⟨{}⟩ : Setup).client
    client.askHealth.given (countingAnswer counters) = .reply (Script.reply 200 [] [] .complete) ∧
    ((client.getPage Route.endpointList).given (countingAnswer counters)).bind readEndpoints =
      .ok countingInventory.endpoints ∧
    ∀ source ∈ [ListSource.status, .unified],
      ((client.getPage source.route).given (countingAnswer counters)).bind (parseModels source) =
        .ok countingInventory.models := by
  decide +kernel

/-- Whatever it counted, the gateway is well and lists its backend. -/
theorem counting_listed {counters : String} (h : counters ∈ [countingPage, lostPage])
    (source : ListSource) :
    let gateway := Gateway.steady (countingAnswer counters)
    let client := (⟨{}⟩ : Setup).client
    let health := client.askHealth.run gateway []
    let endpoints := (client.getPage Route.endpointList).run gateway health.2
    let models := (client.getPage source.route).run gateway endpoints.2
    health.1.IsWell ∧ countingInventory.IsListed source endpoints.1 models.1 := by
  intro gateway client health endpoints models
  have hsource : source ∈ [ListSource.status, .unified] := by cases source <;> decide
  obtain ⟨hwell, hendpoints, hmodels⟩ := counting_pages counters h
  refine ⟨⟨_, (Session.run_steady _ _ _).trans hwell, rfl⟩, ?_, ?_, List.cons_ne_nil _ _,
    List.cons_ne_nil _ _⟩
  · rw [Session.run_steady, hendpoints]
  · rw [Session.run_steady, hmodels source hsource]

/-- What this gateway counted can be added up, or not. -/
theorem counting_fits : ¬Overflowing (givenPage ⟨{}⟩ (countingAnswer countingPage)) := by
  decide +kernel

theorem counting_overflows : Overflowing (givenPage ⟨{}⟩ (countingAnswer lostPage)) := by
  decide +kernel

/-- With counters that add up the run comes to its end. -/
theorem modeRun_records_counting :
    ∃ out, ((modeRun ⟨{}⟩ {}).run (.steady (countingAnswer countingPage)) []).1 = .ok out ∧
      out.inventory = countingInventory ∧ out.Recorded {} out.assignment := by
  obtain ⟨well, listed⟩ := counting_listed List.mem_cons_self .status
  obtain ⟨-, -, hlisted⟩ := modeRun_records ⟨{}⟩ {} (.steady (countingAnswer countingPage)) []
  obtain ⟨-, hrecorded⟩ := hlisted well countingInventory listed
  obtain ⟨out, hrun, hinventory, hassignment, hrecorded⟩ := hrecorded (by
    rw [modePage, countersPage_steady]
    exact counting_fits)
  exact ⟨out, hrun, hinventory, hassignment ▸ hrecorded⟩

/-- With counters that cannot be added up the run comes to no records, and to no error of the
gateway either. -/
theorem modeRun_aborted :
    ((modeRun ⟨{}⟩ {}).run (.steady (countingAnswer lostPage)) []).1 = .error .overflow ∧
    ¬∀ (setup : Setup) (options : ModeOptions) (gateway : Gateway) (seen : List Request),
      let result := ((modeRun setup options).run gateway seen).1
      (∃ e, result = .error (.gateway e)) ∨ ∃ out, result = .ok out := by
  obtain ⟨well, listed⟩ := counting_listed (List.mem_cons_of_mem countingPage
    (List.mem_singleton_self lostPage)) .status
  obtain ⟨-, -, hlisted⟩ := Setup.surveyed_cases ⟨{}⟩ .status {} (checkBackends ⟨{}⟩ {})
    (.steady (countingAnswer lostPage)) []
  have hrun : ((modeRun ⟨{}⟩ {}).run (.steady (countingAnswer lostPage)) []).1 =
      .error .overflow := by
    refine (hlisted well countingInventory listed).trans
      ((unlessOverflow_cases (checkBackends_eq_none_iff ..)).1 ?_)
    rw [modePage, countersPage_steady]
    exact counting_overflows
  refine ⟨hrun, fun hall => ?_⟩
  rcases hall _ _ _ _ with ⟨e, herror⟩ | ⟨out, hok⟩
  · cases hrun.symm.trans herror
  · cases hrun.symm.trans hok

end GatewayProbe
