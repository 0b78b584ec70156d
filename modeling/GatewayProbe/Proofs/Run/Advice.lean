/-
Advice decides nothing in a run for all backends.

Who answered a request is told in headers that may be wrong, missing or made up. They end in notes,
and a note changes no status, no later request and nothing of what the run has seen so far. So two
gateways that differ in such headers only get the same verdicts:

* `status_judgeMessage_plain`, `status_judgeStream_plain` — the status of a response without advice;
* `BackendResult.Alike`, `checkBackend_matched` — the checks of one backend;
* `ModeOutcome.AgreesWith`, `checkBackends_matched` — the checks of all;
* `modeRun_alike` — the whole run.
-/
import GatewayProbe.Exchange.Script
import GatewayProbe.Proofs.Exchange.Lockstep
import GatewayProbe.Run.Modes

namespace GatewayProbe

open Session (Matched)

/-! ### One response -/

theorem Reply.tellsPassthrough_plain (r : Reply) :
    r.plain.head.tellsPassthrough = r.head.tellsPassthrough :=
  congrArg (· == some "passthrough") r.head_mode_plain

theorem Finding.ofMode_plain (expected : Mode) (r : Reply) :
    ofMode expected r.plain.head = ofMode expected r.head := by
  cases expected <;> simp only [ofMode, r.tellsPassthrough_plain, r.head_mode_plain]

theorem Finding.ofResponse_plain (expected : Mode) (r : Reply) (body : ReadBody) :
    ofResponse expected r.plain.head body = ofResponse expected r.head body := by
  have hbody : ofBody expected r.plain.head body = ofBody expected r.head body := by
    cases body with
    | message value => rfl
    | stream capture => simp only [ofBody, Head.announcesEvents, r.head_contentType_plain]
  rw [ofResponse, ofMode_plain, hbody]
  rfl

theorem ShownModes.ofHead_plain (r : Reply) : ofHead r.plain.head = ofHead r.head := by
  rw [ofHead, r.tellsPassthrough_plain]
  rfl

section Responses

variable (budget : Nat) (plan : Plan) (r : Reply)

/-- Advice adds notes, and a note decides nothing. -/
theorem status_judgeMessage_plain : (judgeMessage budget plan r.plain).map Finding.status =
    (judgeMessage budget plan r).map Finding.status := by
  rw [judgeMessage, judgeMessage, r.json_plain, Finding.ofMode_plain]
  simp only [Finding.ofResponse_plain]
  cases hsucceeded : r.head.succeeded with
  | false =>
    have hplain : r.plain.head.succeeded = false := hsucceeded
    rw [hplain]
    rfl
  | true =>
    have hplain : r.plain.head.succeeded = true := hsucceeded
    rw [hplain]
    cases r.json budget with
    | ok body => rfl
    | error e => cases e <;> rfl

theorem status_judgeStream_plain : (judgeStream budget plan r.plain).map Finding.status =
    (judgeStream budget plan r).map Finding.status := by
  rw [judgeStream, judgeStream, r.capture_plain]
  simp only [Finding.ofResponse_plain]
  cases hsucceeded : r.head.succeeded with
  | false =>
    have hplain : r.plain.head.succeeded = false := hsucceeded
    rw [hplain]
    rfl
  | true =>
    have hplain : r.plain.head.succeeded = true := hsucceeded
    rw [hplain]
    cases r.capture budget .anthropic <;> rfl

end Responses

/-! ### One backend -/

/-- What a record says without its detail. -/
def Record.verdict (r : Record) : String × Status := (r.name, r.status)

theorem verdict_recordOf (name : String) {judged judged' : Outcome Finding}
    (h : judged.map Finding.status = judged'.map Finding.status) :
    (recordOf name judged).verdict = (recordOf name judged').verdict := by
  have hverdict (judged : Outcome Finding) : (recordOf name judged).verdict =
      (name, match judged.map Finding.status with | .ok status => status | .error _ => .fail) := by
    cases judged <;> rfl
  rw [hverdict, hverdict, h]

section Checks

variable (setup : Setup) (plan : Plan)

theorem askMessage_matched (model : String) (stream : Bool) :
    Matched Answer.Alike
      (fun x y => x.1.map Finding.status = y.1.map Finding.status ∧ x.2 = y.2)
      (askMessage setup plan model stream) (askMessage setup plan model stream) := by
  refine (setup.client.postMessage_matched _).bind ?_
  rintro _ _ (e | h)
  · exact .pure ⟨rfl, rfl⟩
  · have hobserved := Reply.eq_of_plain (f := fun r => ShownModes.ofHead r.head) h
      ShownModes.ofHead_plain
    refine .pure ⟨?_, hobserved⟩
    cases stream with
    | false =>
      exact Reply.eq_of_plain
        (f := fun r => (judgeMessage setup.client.budget plan r).map Finding.status) h
        (status_judgeMessage_plain setup.client.budget plan)
    | true =>
      exact Reply.eq_of_plain
        (f := fun r => (judgeStream setup.client.budget plan r).map Finding.status) h
        (status_judgeStream_plain setup.client.budget plan)

theorem checkWhole_matched (model name : String) :
    Matched Answer.Alike (fun x y => x.1.verdict = y.1.verdict ∧ x.2 = y.2)
      (checkWhole setup plan model name) (checkWhole setup plan model name) :=
  (askMessage_matched setup plan model false).bind fun _ _ h =>
    .pure ⟨verdict_recordOf name h.1, h.2⟩

theorem checkStreamed_matched (model name : String) :
    Matched Answer.Alike (fun x y => x.1.verdict = y.1.verdict ∧ x.2 = y.2)
      (checkStreamed setup plan model name) (checkStreamed setup plan model name) :=
  (askMessage_matched setup plan model true).bind fun _ _ h =>
    .pure ⟨verdict_recordOf name h.1, h.2⟩

theorem checkBaseline_matched (model : String) :
    Matched Answer.Alike (fun x y => x.verdict = y.verdict)
      (checkBaseline setup plan model) (checkBaseline setup plan model) := by
  refine (setup.client.postValue_matched _ _).bind ?_
  rintro _ _ (e | h)
  · exact .pure rfl
  · -- Where the request was routed is told in the detail only.
    exact .pure (Reply.eq_of_plain
      (f := fun r => (judgeBaseline plan (plan.name ++ "/openai-baseline") r).verdict) h
      fun _ => rfl)

/-- Two results of the checks of one backend that differ in details at most. -/
structure BackendResult.Alike (b b' : BackendResult) : Prop where
  row : b.row = b'.row
  verdicts : b.records.map Record.verdict = b'.records.map Record.verdict
  observed : b.observed = b'.observed

theorem checkBackend_matched (skipStreaming : Bool) :
    Matched Answer.Alike BackendResult.Alike (checkBackend setup skipStreaming plan)
      (checkBackend setup skipStreaming plan) := by
  rw [checkBackend]
  cases plan.testModel with
  | error reason => exact .pure ⟨rfl, rfl, rfl⟩
  | ok model =>
    refine (checkWhole_matched setup plan model _).bind ?_
    rintro ⟨whole, seen⟩ ⟨whole', seen'⟩ ⟨hwhole, rfl⟩
    have hwholeStatus : whole.status = whole'.status := congrArg Prod.snd hwhole
    cases skipStreaming with
    | true =>
      refine (checkBaseline_matched setup plan model).bind fun baseline baseline' hbaseline => ?_
      refine .pure ⟨?_, ?_, rfl⟩
      · simp only [hwholeStatus]
      · simp only [List.map_cons, List.map_nil, hwhole, hbaseline]
    | false =>
      refine (checkStreamed_matched setup plan model _).bind ?_
      rintro ⟨streamed, more⟩ ⟨streamed', more'⟩ ⟨hstreamed, rfl⟩
      have hstreamedStatus : streamed.status = streamed'.status := congrArg Prod.snd hstreamed
      refine (checkBaseline_matched setup plan model).bind fun baseline baseline' hbaseline => ?_
      refine .pure ⟨?_, ?_, rfl⟩
      · simp only [hwholeStatus, hstreamedStatus]
      · simp only [List.map_cons, List.map_nil, hwhole, hstreamed, hbaseline]

end Checks

/-! ### The edge cases and the counters -/

section Rest

variable (setup : Setup)

theorem judgeByStatus_matched (name : String) (body : Json) (accept : Nat → Bool) :
    Matched Answer.Alike Eq (judgeByStatus setup name body accept)
      (judgeByStatus setup name body accept) := by
  refine (setup.client.postMessage_matched _).bind ?_
  rintro _ _ (e | h)
  · exact .pure rfl
  · have hstatus := Reply.eq_of_plain (f := Reply.status) h fun _ => rfl
    dsimp only
    rw [hstatus]
    exact .pure rfl

theorem checkEdgeCases_matched (r : Assignment) :
    Matched Answer.Alike Eq (checkEdgeCases setup r) (checkEdgeCases setup r) := by
  refine (judgeByStatus_matched setup _ _ _).bind ?_
  rintro missing _ rfl
  dsimp only
  split
  · exact .pure rfl
  · split
    · exact .pure rfl
    · refine (judgeByStatus_matched setup _ _ _).bind ?_
      rintro system _ rfl
      refine (judgeByStatus_matched setup _ _ _).bind ?_
      rintro multiturn _ rfl
      exact .pure rfl

theorem checkCounters_matched (observed : ShownModes) (name : String) :
    Matched Answer.Alike Eq (checkCounters setup observed name)
      (checkCounters setup observed name) := by
  refine (setup.client.getPage_matched _).bind ?_
  rintro page _ rfl
  exact .pure rfl

/-! ### The whole run -/

theorem map_eq_of_forall₂ {α β : Type} {R : α → α → Prop} {f : α → β} {as bs : List α}
    (h : List.Forall₂ R as bs) (hf : ∀ a b, R a b → f a = f b) : as.map f = bs.map f := by
  rw [← List.forall₂_eq_eq_eq, List.forall₂_map_left_iff, List.forall₂_map_right_iff]
  exact h.imp hf

/-- Two outcomes that differ in the details of records at most. -/
structure ModeOutcome.AgreesWith (out out' : ModeOutcome) : Prop where
  inventory : out.inventory = out'.inventory
  assignment : out.assignment = out'.assignment
  verdicts : out.report.records.map Record.verdict = out'.report.records.map Record.verdict
  matrix : out.matrix = out'.matrix
  counters : out.counters = out'.counters
  noneFailed : out.report.noneFailed = out'.report.noneFailed

theorem noneFailed_congr {report report' : Report}
    (h : report.records.map Record.verdict = report'.records.map Record.verdict) :
    report.noneFailed = report'.noneFailed := by
  have hfailed (report : Report) :
      report.failed = (report.records.map Record.verdict).countP (·.2 = .fail) := by
    rw [List.countP_map]
    rfl
  rw [Report.noneFailed, Report.noneFailed, hfailed, hfailed, h]

theorem checkBackends_matched (options : ModeOptions) (inventory : Inventory) (r : Assignment) :
    Matched Answer.Alike (Option.Rel ModeOutcome.AgreesWith)
      (checkBackends setup options inventory r) (checkBackends setup options inventory r) := by
  refine (Matched.mapM (fun plan => checkBackend_matched setup plan options.skipStreaming)
    r.backends).bind fun results results' hresults => ?_
  have hrows : results.map BackendResult.row = results'.map BackendResult.row :=
    map_eq_of_forall₂ hresults fun _ _ h => h.row
  have hobserved : results.map BackendResult.observed = results'.map BackendResult.observed :=
    map_eq_of_forall₂ hresults fun _ _ h => h.observed
  have hverdicts : (results.flatMap BackendResult.records).map Record.verdict =
      (results'.flatMap BackendResult.records).map Record.verdict := by
    have heach : results.map (fun b => b.records.map Record.verdict) =
        results'.map fun b => b.records.map Record.verdict :=
      map_eq_of_forall₂ hresults fun _ _ h => h.verdicts
    rw [List.map_flatMap, List.map_flatMap, List.flatMap_def, List.flatMap_def, heach]
  refine (Matched.skippable rfl (checkEdgeCases_matched setup r)).bind ?_
  rintro edges _ rfl
  rw [hobserved]
  refine (checkCounters_matched setup _ _).bind ?_
  rintro (_ | ⟨counted, counters⟩) _ rfl
  · exact .pure .none
  have hrecords : (results.flatMap BackendResult.records ++ edges ++ [counted]).map
      Record.verdict = (results'.flatMap BackendResult.records ++ edges ++ [counted]).map
        Record.verdict := by
    simp only [List.map_append, hverdicts]
  exact .pure (.some ⟨rfl, rfl, hrecords, hrows, rfl, noneFailed_congr hrecords⟩)

theorem survey_matched (source : ListSource) (options : AssignOptions) :
    Matched Answer.Alike Eq (setup.survey source options) (setup.survey source options) := by
  have hlist {α : Type} (list path : String) (parse : String → Except GatewayError α) :
      Matched Answer.Alike Eq (fetchList setup.client list path parse)
        (fetchList setup.client list path parse) := by
    refine (setup.client.getPage_matched path).bind ?_
    rintro page _ rfl
    exact .pure rfl
  have hinventory : Matched Answer.Alike Eq (askInventory setup.client source)
      (askInventory setup.client source) := by
    refine (hlist _ _ _).bind ?_
    rintro endpoints _ rfl
    split
    · exact .pure rfl
    · exact .pure rfl
    · refine (hlist _ _ _).bind ?_
      rintro models _ rfl
      split <;> exact .pure rfl
  refine hinventory.bind ?_
  rintro inventory _ rfl
  cases inventory <;> exact .pure rfl

end Rest

/-- **Advice decides nothing.** Against two gateways whose answers differ in advisory headers at
most, a run for all backends sends the same requests and comes to the same end: the same error, the
same abort, or records of the same names and statuses in the same order, the same rows, the same
counters, and the same verdict on the whole. -/
theorem modeRun_alike (setup : Setup) (options : ModeOptions) (gateway gateway' : Gateway)
    (seen : List Request)
    (alike : ∀ seen q, (gateway seen q).Alike (gateway' seen q)) :
    let run := (modeRun setup options).run gateway seen
    let run' := (modeRun setup options).run gateway' seen
    run.2 = run'.2 ∧
    ((∃ e, run.1 = .error e ∧ run'.1 = .error e) ∨
      ∃ out out', run.1 = .ok out ∧ run'.1 = .ok out' ∧ out.AgreesWith out') := by
  have hmatched : Matched Answer.Alike
      (fun x y => (∃ e, x = .error e ∧ y = .error e) ∨
        ∃ out out', x = .ok out ∧ y = .ok out' ∧ out.AgreesWith out')
      (modeRun setup options) (modeRun setup options) := by
    refine setup.client.requireHealth_matched.bind ?_
    rintro health _ rfl
    cases health with
    | error e => exact .pure (.inl ⟨.gateway e, rfl, rfl⟩)
    | ok _ =>
      refine (survey_matched setup options.source options.assign).bind ?_
      rintro found _ rfl
      cases found with
      | error e => exact .pure (.inl ⟨.gateway e, rfl, rfl⟩)
      | ok found =>
        refine (checkBackends_matched setup options found.1 found.2).bind fun _ _ h => .pure ?_
        cases h with
        | none => exact .inl ⟨.overflow, rfl, rfl⟩
        | some h => exact .inr ⟨_, _, rfl, rfl, h⟩
  obtain ⟨hvalue, hseen⟩ := hmatched.run alike (fun _ _ h => h.refused_iff) seen
  exact ⟨hseen, hvalue⟩

/-- A gateway with one backend, which names another one in every answer. -/
def misnamingRules : List Rule :=
  let page (path body : String) : Rule := { method := "GET", path, body := Text.toUtf8 body }
  let post (path : String) (mode : List UInt8) : Rule :=
    { method := "POST", path, headers := [("X-Olla-Endpoint", [98]), ("x-olla-mode", mode)] }
  [page Route.health "",
   page Route.endpointList
    "\x7b\"endpoints\":[\x7b\"name\":\"a\",\"type\":\"vllm\",\"status\":\"healthy\"\x7d]\x7d",
   page Route.recentModels
    "\x7b\"recent_models\":[\x7b\"name\":\"m\",\"endpoints\":[\"a\"]\x7d]\x7d",
   post Route.messages (Text.toUtf8 "passthrough"), post Route.sharedChat []]

/-- With and without the wrong name the run comes to the same end, while the details differ. -/
theorem modeRun_alike_misnaming :
    let gateway := Script.gateway misnamingRules
    let gateway' : Gateway := fun seen q => (gateway seen q).plain
    let run := (modeRun ⟨{}⟩ {}).run gateway []
    let run' := (modeRun ⟨{}⟩ {}).run gateway' []
    (∀ seen q, (gateway seen q).Alike (gateway' seen q)) ∧ run.2 = run'.2 ∧
    ∃ out out', run.1 = .ok out ∧ run'.1 = .ok out' ∧ out.AgreesWith out' ∧
      out.report.records.map Record.detail ≠ out'.report.records.map Record.detail := by
  intro gateway gateway' run run'
  have halike : ∀ seen q, (gateway seen q).Alike (gateway' seen q) :=
    fun seen q => (gateway seen q).alike_plain
  have hdiffer : run.1.toOption.map (fun out => out.report.records.map Record.detail) ≠
      run'.1.toOption.map fun out => out.report.records.map Record.detail := by
    decide +kernel
  obtain ⟨hseen, ⟨e, hrun, hrun'⟩ | ⟨out, out', hrun, hrun', hagrees⟩⟩ :=
    modeRun_alike ⟨{}⟩ {} gateway gateway' [] halike
  all_goals rw [show run.1 = _ from hrun, show run'.1 = _ from hrun'] at hdiffer
  · exact absurd rfl hdiffer
  · exact ⟨halike, hseen, out, out', hrun, hrun', hagrees,
      fun hsame => hdiffer (congrArg some hsame)⟩

end GatewayProbe
