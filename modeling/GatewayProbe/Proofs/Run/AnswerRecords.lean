/-
What a run over questions records.

A run draws its questions beforehand, so to speak: which are put does not depend on the answers. A
list of questions that was read is never empty, so each draw comes to a question, and each question
leaves a sample and a record. The record and the summary judge the sample apart from each other, and
judge it alike:

* `drawnQuestions` — the questions that are put;
* `Setup.sampled`, `answerRun_tried` — the sample of one trial, and the trials of a run;
* `AnswerOutcome.Agrees`, `answerRun_agrees` — samples, records and summary tell the same.
-/
import GatewayProbe.Proofs.Exchange.Trials
import GatewayProbe.Proofs.Plan.Draws
import GatewayProbe.Proofs.Run.Counting
import GatewayProbe.Proofs.Run.StreamFaults
import GatewayProbe.Run.Answers

namespace GatewayProbe

/-! ### The questions -/

theorem questionsAt_ne_nil {files : Files} {path : String} {questions : List String}
    (h : questionsAt files path = .ok questions) : questions ≠ [] := by
  rw [questionsAt] at h
  split at h
  · cases h
    exact List.cons_ne_nil _ _
  · cases htext : files.readText path with
    | error fault =>
      rw [htext] at h
      cases h
    | ok text =>
      rw [htext] at h
      dsimp only at h
      split at h
      · cases h
      · next hsome =>
        cases h
        exact fun hnone => hsome (List.isEmpty_iff.mpr hnone)

/-- Questions drawn one after the other. -/
def drawnQuestions (questions : List String) : Nat → Draws → List String
  | 0, _ => []
  | count + 1, draws =>
    match draws.choose? questions with
    | (none, _) => []
    | (some question, draws) => question :: drawnQuestions questions count draws

theorem length_drawnQuestions {questions : List String} (h : questions ≠ []) (count : Nat)
    (draws : Draws) : (drawnQuestions questions count draws).length = count := by
  induction count generalizing draws with
  | zero => rfl
  | succ count ih =>
    obtain ⟨question, hquestion⟩ := draws.choose?_eq_some h
    rw [drawnQuestions, ← Prod.eta (draws.choose? questions), hquestion]
    exact congrArg (· + 1) (ih _)

theorem askQuestions_eq (setup : Setup) (model : String) (options : AnswerOptions) (count : Nat)
    (draws : Draws) : askQuestions setup model options count draws =
      (drawnQuestions options.questions count draws).mapM (askQuestion setup model options) := by
  induction count generalizing draws with
  | zero => rw [askQuestions, drawnQuestions, List.mapM_nil]
  | succ count ih =>
    rw [askQuestions, drawnQuestions]
    cases hdrawn : draws.choose? options.questions with
    | mk question draws =>
      cases question with
      | none => exact List.mapM_nil.symm
      | some question =>
        dsimp only
        -- The sample is not looked at before the next question is drawn.
        rw [List.mapM_cons]
        exact bind_congr fun sample => by rw [ih]

/-! ### The trials -/

/-- The sample of a trial. -/
def Setup.sampled (setup : Setup) (t : Trial String) : AnswerSample :=
  match t.reply with
  | .error e => { question := Text.excerpt 50 t.item, error := some e.message }
  | .ok reply => measureAnswer setup (Text.excerpt 50 t.item) reply

/-- The request for an answer, if it can be sent. -/
def AnswerOptions.request? (o : AnswerOptions) (setup : Setup) (model question : String) :
    Option Request :=
  setup.client.postRequest? Route.chat (o.body model question)

theorem askQuestion_tried (setup : Setup) (model : String) (options : AnswerOptions)
    (question : String) :
    (askQuestion setup model options question).Logs fun log s => ∃ reply,
      setup.client.Tries (options.request? setup model question) log reply ∧
        s = setup.sampled ⟨question, log, reply⟩ := by
  exact (setup.client.postValue_tries _ _).judged fun _ reply => by cases reply <;> rfl

/-- A run tries all questions that are drawn, whatever comes of each. -/
theorem answerRun_tried (setup : Setup) (model : String) (options : AnswerOptions) :
    (answerRun setup model options).Logs fun log out => ∃ trials,
      setup.client.TriedAll (options.request? setup model)
          (drawnQuestions options.questions options.count options.draws) log trials ∧
        out.samples = trials.map setup.sampled ∧ out.summary = .ofSamples out.samples ∧
        out.report.records = sampleRecords 1 out.samples := by
  unfold answerRun
  rw [askQuestions_eq]
  refine (Session.Logs.mapM_tried (askQuestion_tried setup model options) _).bind ?_
  rintro log _ ⟨trials, htried, rfl⟩
  refine .pure ⟨trials, ?_, rfl, rfl, rfl⟩
  rwa [List.append_nil]

/-! ### Records and summary -/

namespace AnswerSample

theorem record_name (s : AnswerSample) (name : String) : (s.record name).name = name := by
  rw [record]
  cases s.error with
  | some e => rfl
  | none =>
    dsimp only
    split <;> rfl

theorem record_status (s : AnswerSample) (name : String) :
    (s.record name).status = .ofBool s.success := by
  rw [record, success]
  cases s.error with
  | some e => rfl
  | none =>
    by_cases hnone : s.chunks = 0
    · simp [hnone, Status.ofBool]
    · simp [hnone, Status.ofBool, Nat.pos_of_ne_zero hnone]

end AnswerSample

theorem name_sampleRecords (n : Nat) (samples : List AnswerSample) :
    (sampleRecords n samples).map Record.name =
      (List.range' n samples.length).map fun i => s!"latency/q{i}" := by
  induction samples generalizing n with
  | nil => rfl
  | cons s samples ih =>
    rw [sampleRecords, List.map_cons, ih, AnswerSample.record_name, List.length_cons,
      List.range'_succ, List.map_cons]

theorem status_sampleRecords (n : Nat) (samples : List AnswerSample) :
    (sampleRecords n samples).map Record.status = samples.map fun s => .ofBool s.success := by
  induction samples generalizing n with
  | nil => rfl
  | cons s samples ih =>
    rw [sampleRecords, List.map_cons, List.map_cons, ih, AnswerSample.record_status]

theorem getElem?_sampleRecords (n i : Nat) (samples : List AnswerSample) :
    (sampleRecords n samples)[i]? = samples[i]?.map fun s => s.record s!"latency/q{n + i}" := by
  induction samples generalizing n i with
  | nil => rfl
  | cons s samples ih =>
    cases i with
    | zero => rfl
    | succ i =>
      rw [sampleRecords, List.getElem?_cons_succ, List.getElem?_cons_succ, ih,
        Nat.add_right_comm n 1 i]
      rfl

/-- The qualities that a summary counts are those of the samples that succeeded. -/
theorem AnswerSummary.sum_quality (samples : List AnswerSample) :
    ((ofSamples samples).quality.map Prod.snd).sum = (ofSamples samples).successful := by
  rw [ofSamples]
  dsimp only
  rw [sum_of_nonzero, List.map_map]
  exact sum_countP_key (by decide) fun s _ => by cases s.quality <;> decide

/-- Samples, records and summary of a run tell the same. -/
structure AnswerOutcome.Agrees (count : Nat) (o : AnswerOutcome) : Prop where
  samples : o.samples.length = count
  names : o.report.records.map Record.name = (List.range' 1 count).map fun i => s!"latency/q{i}"
  statuses : o.report.records.map Record.status = o.samples.map fun s => .ofBool s.success
  total : o.summary.total = count
  successful : o.summary.successful = o.report.passed
  qualities : (o.summary.quality.map Prod.snd).sum = o.summary.successful

/-- A run puts as many questions as it should, and tells the same of each in all places. -/
theorem answerRun_agrees (setup : Setup) (model : String) {options : AnswerOptions}
    (hquestions : options.questions ≠ []) :
    (answerRun setup model options).Always (AnswerOutcome.Agrees options.count) := by
  intro gateway seen
  obtain ⟨trials, htried, hsamples, hsummary, hrecords⟩ :=
    answerRun_tried setup model options gateway seen
  generalize ((answerRun setup model options).run gateway seen).1 = out at *
  have hlength : out.samples.length = options.count := by
    rw [hsamples, List.length_map, htried.length_eq, length_drawnQuestions hquestions]
  have hstatuses : out.report.records.map Record.status =
      out.samples.map fun s => .ofBool s.success := by
    rw [hrecords, status_sampleRecords]
  refine ⟨hlength, ?_, hstatuses, ?_, ?_, ?_⟩
  · rw [hrecords, name_sampleRecords, hlength]
  · rw [hsummary, ← hlength]
    rfl
  -- The record goes by error and pieces, the summary by `success`; both are `success` by now.
  · rw [Report.passed, Report.count_of_statuses .pass hstatuses, List.count, List.countP_map,
      hsummary, AnswerSummary.ofSamples, ← List.countP_eq_length_filter]
    exact List.countP_congr fun s _ => by cases hs : s.success <;> simp [Status.ofBool, hs]
  · rw [hsummary]
    exact AnswerSummary.sum_quality _

end GatewayProbe
