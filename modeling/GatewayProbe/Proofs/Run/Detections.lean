/-
What a run over deliveries finds.

Each detection sends one request. What comes of it is measured: a delivery is told, or an error is
worded, and never both. A request that asks for a stream fails unless a stream comes of it, with
enough pieces to tell that it is one. The request that asks for none fails by an error alone: its
whole body is one arrival, and valid limits take one arrival for no stream, whenever it comes.

* `Setup.measured`, `Setup.detected` — what is measured in one trial, and its result;
* `DetectionResult.Tells`, `Setup.detected_tells` — a result tells a delivery or an error, and not
  both;
* `status_unasked`, `status_asked` — what fails where no stream is asked for, and where one is;
* `detectionRun_tried` — a run tries all its detections;
* `detectionRun_results` — the whole run.
-/
import GatewayProbe.Exchange.Script
import GatewayProbe.Proofs.Delivery.Few
import GatewayProbe.Proofs.Exchange.Trials
import GatewayProbe.Proofs.Run.StreamFaults
import GatewayProbe.Proofs.Settings.Checks
import GatewayProbe.Run.Detection

namespace GatewayProbe

/-! ### One trial -/

/-- A result tells what was measured in a detection: a delivery, or the wording of an error. -/
inductive DetectionResult.Tells (d : Detection) : Outcome Delivery → DetectionResult → Prop
  | delivery (v : Delivery) (endpoint : Option String) (totalTime : Option Float) :
      Tells d (.ok v)
        { name := d.name, expected := d.expected, delivery := some v, endpoint, totalTime }
  | error (e : GatewayError) (endpoint : Option String) (totalTime : Option Float) :
      Tells d (.error e)
        { name := d.name, expected := d.expected, endpoint, totalTime, error := some e.message }

namespace DetectionResult.Tells

variable {d : Detection} {measured : Outcome Delivery} {r : DetectionResult}

/-- There is a delivery or an error, and not both. -/
theorem isSome_iff (h : Tells d measured r) : r.delivery.isSome = true ↔ r.error = none := by
  cases h <;> simp

theorem name_eq (h : Tells d measured r) : r.name = d.name := by
  cases h <;> rfl

theorem error_eq_none_iff (h : Tells d measured r) :
    r.error = none ↔ ∃ v, measured = .ok v := by
  cases h <;> simp

theorem status_of_error {e : GatewayError} (h : Tells d (.error e) r) : r.status = .fail := by
  cases h
  rfl

theorem status_of_delivery {v : Delivery} (h : Tells d (.ok v) r) :
    r.status = .ofBool
      (if d.expected = .streaming then v.form = .streaming else v.form ≠ .streaming) := by
  cases h
  rfl

end DetectionResult.Tells

section Trials

variable (setup : Setup)

/-- The delivery that a trial measures, or why there is none. -/
def Setup.measured (t : Trial Detection) : Outcome Delivery :=
  match t.item.dialect with
  | some dialect => (streamIn setup.client.budget dialect t.reply).bind fun capture =>
    if capture.pieceCount = 0 then .error (.invalidResponse "no chunks received")
    else .ok (.ofEvents setup.settings.timing capture.events)
  | none => t.reply.bind fun reply =>
    if reply.head.succeeded then
      (reply.json setup.client.budget).map fun _ =>
        .ofArrivals setup.settings.timing [seconds reply.endOffset]
    else .error (statusError reply)

/-- The result of a trial. -/
def Setup.detected (t : Trial Detection) : DetectionResult :=
  match t.reply with
  | .error e => { name := t.item.name, expected := t.item.expected, error := some e.message }
  | .ok reply => measureReply setup t.item reply

theorem measureWhole_tells (d : Detection) (reply : Reply) (endpoint : Option String) :
    DetectionResult.Tells d
      ((reply.json setup.client.budget).map fun _ =>
        .ofArrivals setup.settings.timing [seconds reply.endOffset])
      (measureWhole setup reply { name := d.name, expected := d.expected, endpoint }) := by
  rw [measureWhole]
  cases reply.json setup.client.budget with
  | error e => exact .error e _ none
  | ok value => exact .delivery _ _ _

theorem measureStreamed_tells (d : Detection) (dialect : Dialect) (reply : Reply)
    (endpoint : Option String) :
    DetectionResult.Tells d
      ((reply.capture setup.client.budget dialect).bind fun capture =>
        if capture.pieceCount = 0 then .error (.invalidResponse "no chunks received")
        else .ok (.ofEvents setup.settings.timing capture.events))
      (measureStreamed setup dialect reply
        { name := d.name, expected := d.expected, endpoint }) := by
  rw [measureStreamed]
  cases reply.capture setup.client.budget dialect with
  | error e => exact .error e _ none
  | ok capture =>
    dsimp only [Except.bind]
    by_cases hnone : capture.pieceCount = 0
    · rw [if_pos hnone, if_pos hnone]
      exact .error _ _ _
    · rw [if_neg hnone, if_neg hnone]
      exact .delivery _ _ _

/-- Whatever comes of a request, its result tells what was measured. -/
theorem Setup.detected_tells (t : Trial Detection) :
    DetectionResult.Tells t.item (setup.measured t) (setup.detected t) := by
  obtain ⟨d, log, reply⟩ := t
  rw [measured, detected]
  cases reply with
  | error e => cases d.dialect <;> exact .error e none none
  | ok reply =>
    dsimp only [measureReply, Except.bind]
    by_cases hsucceeded : reply.head.succeeded = true
    · cases d.dialect with
      | none =>
        simp only [hsucceeded, if_true, Bool.not_true, Bool.false_eq_true, if_false]
        exact measureWhole_tells setup d reply _
      | some dialect =>
        simp only [streamIn_succeeded hsucceeded, hsucceeded, Bool.not_true, Bool.false_eq_true,
          if_false]
        exact measureStreamed_tells setup d dialect reply _
    · cases d.dialect with
      | none =>
        simp only [hsucceeded, Bool.not_false, if_true]
        exact .error _ _ _
      | some dialect =>
        simp only [streamIn_failed hsucceeded, hsucceeded, Bool.not_false, if_true]
        exact .error _ _ _

end Trials

/-! ### What fails -/

theorem Reply.json_eq_ok_iff {budget : Nat} {r : Reply} {value : Json} :
    r.json budget = .ok value ↔ r.ending = .complete ∧ Json.parse? r.received = some value := by
  rw [json, bind_eq_ok_iff]
  constructor
  · rintro ⟨text, htext, hparsed⟩
    rw [Reply.text] at htext
    cases hending : r.ending with
    | complete =>
      rw [hending] at htext
      cases htext
      cases hvalue : Json.parse? r.received with
      | none =>
        rw [hvalue] at hparsed
        cases hparsed
      | some other =>
        rw [hvalue] at hparsed
        cases hparsed
        exact ⟨rfl, rfl⟩
    | broken | stalled =>
      rw [hending] at htext
      cases htext
  · rintro ⟨hending, hvalue⟩
    refine ⟨r.received, ?_, ?_⟩
    · rw [Reply.text, hending]
    · rw [hvalue]
      rfl

section Fails

variable {setup : Setup} {t : Trial Detection} {v : Delivery}

/-- A body that is not streamed is measured where it is there whole, after a status that tells of
success, and is JSON. Its end is the only arrival. -/
theorem measured_unasked_iff (h : t.item.dialect = none) :
    setup.measured t = .ok v ↔ ∃ reply value, t.reply = .ok reply ∧
      (200 ≤ reply.status ∧ reply.status ≤ 299) ∧ reply.ending = .complete ∧
      Json.parse? reply.received = some value ∧
      v = .ofArrivals setup.settings.timing [seconds reply.endOffset] := by
  rw [Setup.measured, h]
  dsimp only
  constructor
  · intro hv
    cases hreply : t.reply with
    | error e =>
      rw [hreply] at hv
      cases hv
    | ok reply =>
      rw [hreply] at hv
      dsimp only [Except.bind] at hv
      split at hv
      · next hsucceeded =>
        cases hjson : reply.json setup.client.budget with
        | error e =>
          rw [hjson] at hv
          cases hv
        | ok value =>
          rw [hjson] at hv
          obtain ⟨hending, hvalue⟩ := Reply.json_eq_ok_iff.mp hjson
          exact ⟨reply, value, rfl, Reply.succeeded_iff.mp hsucceeded, hending, hvalue,
            (Except.ok.inj hv).symm⟩
      · cases hv
  · rintro ⟨reply, value, hreply, hsucceeded, hending, hvalue, rfl⟩
    rw [hreply]
    dsimp only [Except.bind]
    rw [if_pos (Reply.succeeded_iff.mpr hsucceeded),
      Reply.json_eq_ok_iff.mpr ⟨hending, hvalue⟩]
    rfl

/-- Where no stream is asked for, nothing but an error fails. -/
theorem status_unasked (few : 2 ≤ setup.settings.timing.minChunks) (h : t.item.dialect = none) :
    (setup.detected t).status = .fail ↔ (setup.detected t).error ≠ none := by
  have htells := setup.detected_tells t
  rw [Ne, htells.error_eq_none_iff]
  cases hmeasured : setup.measured t with
  | error e =>
    rw [hmeasured] at htells
    exact iff_of_true htells.status_of_error fun ⟨_, h⟩ => nomatch h
  | ok v =>
    rw [hmeasured] at htells
    obtain ⟨reply, value, -, -, -, -, rfl⟩ := (measured_unasked_iff h).mp hmeasured
    -- The end of the body is the only arrival, and at least two are asked for.
    have hone : [seconds reply.endOffset].length < setup.settings.timing.minChunks := few
    have hform := (Delivery.ofArrivals_few hone).1
    have hstandard : t.item.expected = .standard := by
      rw [Detection.expected, h]
      rfl
    have hpass : (setup.detected t).status = .pass := by
      rw [htells.status_of_delivery, hstandard, hform]
      rfl
    rw [hpass]
    exact iff_of_false (fun h => nomatch h) (fun h => h ⟨_, rfl⟩)

/-- Where a stream is asked for, it fails unless it is there with enough pieces. -/
theorem status_asked {dialect : Dialect} (h : t.item.dialect = some dialect)
    (hfails : (∃ e, StreamFails setup.client.budget dialect t.reply e) ∨
      ∃ capture, streamIn setup.client.budget dialect t.reply = .ok capture ∧
        (capture.pieceCount = 0 ∨ capture.pieceCount < setup.settings.timing.minChunks)) :
    (setup.detected t).status = .fail := by
  have htells := setup.detected_tells t
  rw [Setup.measured, h] at htells
  dsimp only at htells
  rcases hfails with ⟨e, hfails⟩ | ⟨capture, hstream, hfew⟩
  · rw [streamIn_eq_error_iff.mpr hfails] at htells
    exact htells.status_of_error
  · rw [hstream] at htells
    dsimp only [Except.bind] at htells
    by_cases hnone : capture.pieceCount = 0
    · rw [if_pos hnone] at htells
      exact htells.status_of_error
    · rw [if_neg hnone] at htells
      have hform := Delivery.ofEvents_few (hfew.resolve_left hnone)
      have hstreaming : t.item.expected = .streaming := by
        rw [Detection.expected, h]
        rfl
      rw [htells.status_of_delivery, hstreaming, hform]
      rfl

end Fails

/-! ### The whole run -/

/-- The detections of a run; a quick one has only the first. -/
def detectionsOf (quick : Bool) : List Detection :=
  if quick then detections.take 1 else detections

/-- The request of a detection, if it can be sent. -/
def Detection.request? (setup : Setup) (model : String) (d : Detection) : Option Request :=
  setup.client.postRequest? d.route (d.body model)

theorem detect_tried (setup : Setup) (model : String) (d : Detection) :
    (detect setup model d).Logs fun log r => ∃ reply,
      setup.client.Tries (d.request? setup model) log reply ∧
        r = setup.detected ⟨d, log, reply⟩ := by
  exact (setup.client.postValue_tries _ _).judged fun _ reply => by cases reply <;> rfl

/-- A run tries all its detections, whatever comes of each. -/
theorem detectionRun_tried (setup : Setup) (model : String) (quick : Bool) :
    (detectionRun setup model quick).Logs fun log out => ∃ trials,
      setup.client.TriedAll (Detection.request? setup model) (detectionsOf quick) log trials ∧
        out.results = trials.map setup.detected ∧
        out.report.records = trials.map fun t => (setup.detected t).record := by
  refine (Session.Logs.mapM_tried (detect_tried setup model) (detectionsOf quick)).bind ?_
  rintro log _ ⟨trials, htried, rfl⟩
  refine .pure ⟨trials, ?_, rfl, List.map_map⟩
  rwa [List.append_nil]

/-- **What a run over deliveries finds.** Every detection has a result and a record, in their order,
and the record has the status of the result. A result holds a delivery or an error, never both.
Where no stream is asked for, nothing but an error fails, and there is none exactly where a whole
body of JSON comes with a status of success: with valid limits fewer than two arrivals are no
stream, whenever they come. Where a stream is asked for, it fails if none comes, or one without
text, or with fewer pieces than the limits ask for. -/
theorem detectionRun_results (setup : Setup) (valid : setup.settings.check = .ok ())
    (model : String) (quick : Bool) (gateway : Gateway) (seen : List Request) :
    let out := ((detectionRun setup model quick).run gateway seen).1
    let log := (detectionRun setup model quick).exchanges gateway seen
    let limits := setup.settings.timing
    (∀ arrivals : List Float, arrivals.length < 2 →
      (Delivery.ofArrivals limits arrivals).form = .singleChunk) ∧
    ∃ trials, setup.client.TriedAll (Detection.request? setup model) (detectionsOf quick) log trials ∧
      out.results = trials.map setup.detected ∧
      out.report.records.map (fun r => (r.name, r.status)) =
        out.results.map (fun r => ("streaming/" ++ r.name, r.status)) ∧
      ∀ t ∈ trials,
        let r := setup.detected t
        r.name = t.item.name ∧ (t.item.dialect = none ↔ r.name = "stream_false") ∧
        (r.delivery.isSome = true ↔ r.error = none) ∧
        (t.item.dialect = none →
          (r.status = .fail ↔ r.error ≠ none) ∧
          (r.error = none ↔ ∃ reply value, t.reply = .ok reply ∧
            (200 ≤ reply.status ∧ reply.status ≤ 299) ∧ reply.ending = .complete ∧
            Json.parse? reply.received = some value)) ∧
        ∀ dialect, t.item.dialect = some dialect →
          ((∃ e, StreamFails setup.client.budget dialect t.reply e) ∨
            ∃ capture, streamIn setup.client.budget dialect t.reply = .ok capture ∧
              (capture.pieceCount = 0 ∨ capture.pieceCount < limits.minChunks)) →
          r.status = .fail := by
  intro out log limits
  have htwo := Thresholds.two_le_minChunks (Settings.check_eq_ok_iff.mp valid).2.2
  have hnames : ∀ d ∈ detections, d.dialect = none ↔ d.name = "stream_false" := by decide
  refine ⟨fun arrivals hfew => (Delivery.ofArrivals_few (Nat.lt_of_lt_of_le hfew htwo)).1, ?_⟩
  obtain ⟨trials, htried, hresults, hrecords⟩ := detectionRun_tried setup model quick gateway seen
  refine ⟨trials, htried, hresults, ?_, fun t ht => ?_⟩
  · show out.report.records.map _ = out.results.map _
    rw [show out.report.records = _ from hrecords, show out.results = _ from hresults,
      List.map_map, List.map_map]
    rfl
  · have htells := setup.detected_tells t
    have hitem : t.item ∈ detections := by
      have hitems : t.item ∈ detectionsOf quick := htried.items ▸ List.mem_map_of_mem ht
      rw [detectionsOf] at hitems
      split at hitems
      · exact List.mem_of_mem_take hitems
      · exact hitems
    refine ⟨htells.name_eq, ?_, htells.isSome_iff, fun hnone => ⟨status_unasked htwo hnone, ?_⟩,
      fun dialect hsome => status_asked hsome⟩
    · rw [htells.name_eq]
      exact hnames _ hitem
    · rw [htells.error_eq_none_iff]
      constructor
      · rintro ⟨v, hv⟩
        obtain ⟨reply, value, hreply, hsucceeded, hending, hvalue, -⟩ :=
          (measured_unasked_iff hnone).mp hv
        exact ⟨reply, value, hreply, hsucceeded, hending, hvalue⟩
      · rintro ⟨reply, value, hreply, hsucceeded, hending, hvalue⟩
        exact ⟨_, (measured_unasked_iff hnone).mpr
          ⟨reply, value, hreply, hsucceeded, hending, hvalue, rfl⟩⟩

/-- A gateway that knows nothing of streams: it answers with JSON, as one piece. -/
def wholeGateway : Gateway := fun _ _ =>
  .reply { status := 200, headers := [], chunks := [⟨0, Text.toUtf8 "[]"⟩] }

/-- Only the detection that asks for no stream passes where none is sent. -/
theorem detectionRun_results_unstreamed :
    ({} : Settings).check = .ok () ∧
    let out := ((detectionRun ⟨{}⟩ "phi4" false).run wholeGateway []).1
    out.results.map DetectionResult.status = [.fail, .fail, .fail, .pass] ∧
    ∀ r ∈ out.results, r.delivery.isSome = true ↔ r.error = none := by
  refine ⟨rfl, by decide +kernel, fun r hr => ?_⟩
  obtain ⟨-, trials, -, hresults, -, hall⟩ :=
    detectionRun_results ⟨{}⟩ rfl "phi4" false wholeGateway []
  rw [hresults] at hr
  obtain ⟨t, ht, rfl⟩ := List.mem_map.mp hr
  exact (hall t ht).2.2.1

end GatewayProbe
