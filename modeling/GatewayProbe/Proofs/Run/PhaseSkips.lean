/-
What is left out of a run over the whole surface.

Phases may be left out, and streams within them. What is drawn at random is drawn before anything is
asked, and no phase looks at what another one found, so each phase that is kept leaves what it
leaves in the full run.

Only the phase for modes looks at the gateway's counters, so the full run may be aborted over them
where a run without that phase is not. This is why such a run is also compared with the run that
leaves out nothing but the phases for messages and modes.

* `Record.IsStreamed`, `SurfaceOptions.retains` — the records that options retain;
* `SurfaceOptions.full`, `SurfaceOptions.widened` — the runs that others are compared with;
* `proxyPhase_streams`, ..., `modesPhase_streams` — a phase without its streams;
* `records_surfacePhases`, `modes_retained`, `surfacePhases_retained` — all phases;
* `runs_retained` — both kinds of run.
-/
import GatewayProbe.Proofs.Run.Skips
import GatewayProbe.Proofs.Run.SurfaceRecords

namespace GatewayProbe

open Session (given given_bind given_pure given_mapM given_skippable)

/-! ### Streamed checks -/

/-- The names of streamed checks other than those of modes. -/
def streamedNames : List String :=
  ["proxy/chat-stream", "proxy/token-usage-stream", "anthropic/messages-stream"]

/-- The phases that stream nothing. -/
def plainPhases : List String := ["internal", "models", "providers", "headers", "errors"]

theorem mem_phases_of_plain : ∀ phase ∈ plainPhases, phase ∈ phases := by decide

/-- The record is that of a streamed check. -/
def Record.IsStreamed (r : Record) : Prop :=
  r.name ∈ streamedNames ∨ r.group = "passthrough" ∧ "-stream".toList <:+ r.name.toList

instance : DecidablePred Record.IsStreamed := fun _ => inferInstanceAs (Decidable (_ ∨ _ ∧ _))

/-- The record is left where streams are left out or not. -/
def unlessStreamed (skipStreaming : Bool) (r : Record) : Bool := !(skipStreaming && r.IsStreamed)

namespace SurfaceOptions

/-- The records that options retain. -/
def retains (options : SurfaceOptions) (r : Record) : Bool :=
  options.keeps r.group && unlessStreamed options.skipStreaming r

/-- The options that leave nothing out. -/
def full (options : SurfaceOptions) : SurfaceOptions :=
  { options with skipStreaming := false, skipAnthropic := false, skipProviders := false }

/-- The options that leave out no more than the phases for messages and modes, or nothing. -/
def widened (options : SurfaceOptions) (skipAnthropic : Bool) : SurfaceOptions :=
  { options.full with skipAnthropic }

end SurfaceOptions

namespace NamedFrom

variable {phase : String} {labels : List String} {part : List Record}

theorem filter_plain (h : NamedFrom phase labels part) (skipStreaming : Bool)
    (plain : ∀ label ∈ labels, ¬Record.IsStreamed ⟨phase ++ "/" ++ label, .pass, ""⟩) :
    part.filter (unlessStreamed skipStreaming) = part := by
  refine List.filter_eq_self.mpr fun r hr => ?_
  obtain ⟨label, hlabel, hname⟩ := List.mem_map.mp (h.subset (List.mem_map_of_mem hr))
  have hplain : ¬r.IsStreamed := by
    rw [Record.IsStreamed, Record.group, ← hname]
    exact plain label hlabel
  simp [unlessStreamed, hplain]

theorem filter_streamed (h : NamedFrom phase labels part) (skipStreaming : Bool)
    (streamed : ∀ label ∈ labels, Record.IsStreamed ⟨phase ++ "/" ++ label, .pass, ""⟩) :
    part.filter (unlessStreamed skipStreaming) = if skipStreaming then [] else part := by
  have hstreamed : ∀ r ∈ part, unlessStreamed skipStreaming r = !skipStreaming := by
    intro r hr
    obtain ⟨label, hlabel, hname⟩ := List.mem_map.mp (h.subset (List.mem_map_of_mem hr))
    have hr : r.IsStreamed := by
      rw [Record.IsStreamed, Record.group, ← hname]
      exact streamed label hlabel
    simp [unlessStreamed, hr]
  cases skipStreaming with
  | true => exact List.filter_eq_nil_iff.mpr fun r hr => by simp [hstreamed r hr]
  | false => exact List.filter_eq_self.mpr fun r hr => by simp [hstreamed r hr]

end NamedFrom

/-! ### Phases without their streams -/

section Surface

variable (setup : Setup) (options : SurfaceOptions) (answer : Request → Answer)

theorem proxyPhase_streams (model : Option String) (skipStreaming : Bool) :
    (proxyPhase setup model skipStreaming).given answer =
      ((proxyPhase setup model false).given answer).filter (unlessStreamed skipStreaming) := by
  have hlisted (page : Except FetchFault Json) (judge : Json → Status × String) :
      NamedFrom "proxy" ["models"] [pageRecord "proxy/models" page judge] :=
    .of_names ["proxy/models"] (by rw [List.map_singleton, pageRecord_name]) (by decide)
  cases model with
  | none =>
    have hasked (skipStreaming : Bool) : (proxyPhase setup none skipStreaming).given answer =
        [pageRecord "proxy/models" ((fetchPage setup.client Route.sharedModels).given answer)
            fun page => (.pass, s!"{(listedLength? page).getD 0} models")] ++
          [⟨"proxy/chat-nonstream", .skip, "no model available"⟩] := by
      simp only [proxyPhase, given_bind, given_pure, List.singleton_append]
    have hskipped : NamedFrom "proxy" ["chat-nonstream"]
        [⟨"proxy/chat-nonstream", .skip, "no model available"⟩] :=
      .of_names ["proxy/chat-nonstream"] rfl (by decide)
    rw [hasked, hasked, ((hlisted _ _).append hskipped).filter_plain _ (by decide)]
  | some id =>
    have hasked (skipStreaming : Bool) : (proxyPhase setup (some id) skipStreaming).given answer =
        [pageRecord "proxy/models" ((fetchPage setup.client Route.sharedModels).given answer)
            fun page => (.pass, s!"{(listedLength? page).getD 0} models")] ++
          judgeChat (judgePage setup.client.budget ((setup.client.postValue Route.sharedChat
            (Body.shortChat id Body.greetingPrompt 10)).given answer)) ++
          (if skipStreaming then [] else (askStreamedChat setup id).given answer) ++
          [judgeHeaders ((setup.client.postValue Route.sharedChat
            (Body.shortChat id "Hi" 5)).given answer)] := by
      simp only [proxyPhase, given_bind, given_pure, given_skippable, List.singleton_append]
    have hlast (reply : Outcome Reply) : NamedFrom "proxy" ["headers"] [judgeHeaders reply] :=
      .of_names ["proxy/headers"] (by rw [List.map_singleton, judgeHeaders_name]) (by decide)
    have hstreamed := (askStreamedChat_always setup id).given answer
    -- Each block is kept as it is, but for the stream.
    rw [hasked, hasked, if_neg Bool.false_ne_true, List.filter_append, List.filter_append,
      List.filter_append, (hlisted _ _).filter_plain _ (by decide),
      (judgeChat_named _).filter_plain _ (by decide), hstreamed.filter_streamed _ (by decide),
      (hlast _).filter_plain _ (by decide)]

theorem messageChecks_streams (model : String) (skipStreaming : Bool) :
    (messageChecks setup model skipStreaming).given answer =
      ((messageChecks setup model false).given answer).filter (unlessStreamed skipStreaming) := by
  have hasked (skipStreaming : Bool) : (messageChecks setup model skipStreaming).given answer =
      judgeMessages setup.client.budget ((setup.client.postMessage
        (Body.message model false none none)).given answer) ++
      (if skipStreaming then [] else [judgeMessageStream setup.client.budget
        ((setup.client.postMessage (Body.message model true none none)).given answer)]) ++
      [judgeTokenCount setup.client.budget ((setup.client.postKeyed Route.tokenCount
        (.ofFields [("model", .text model),
          ("messages", .array [Body.user "Count these tokens please"])])).given answer)] := by
    simp only [messageChecks, given_bind, given_pure, given_skippable]
  have hstream (reply : Outcome Reply) : NamedFrom "anthropic" ["messages-stream"]
      [judgeMessageStream setup.client.budget reply] :=
    .of_names ["anthropic/messages-stream"]
      (by rw [List.map_singleton, judgeMessageStream_name]) (by decide)
  have htokens (reply : Outcome Reply) : NamedFrom "anthropic" ["count-tokens"]
      [judgeTokenCount setup.client.budget reply] :=
    .of_names ["anthropic/count-tokens"]
      (by rw [List.map_singleton, judgeTokenCount_name]) (by decide)
  rw [hasked, hasked, if_neg Bool.false_ne_true, List.filter_append, List.filter_append,
    (judgeMessages_named _ _).filter_plain _ (by decide),
    (hstream _).filter_streamed _ (by decide), (htokens _).filter_plain _ (by decide)]

theorem messagesAfter_streams (model : Option String) (skipStreaming : Bool) (status : Status)
    (detail : String) :
    (messagesAfter setup model skipStreaming ⟨"anthropic/models", status, detail⟩).given answer =
      ((messagesAfter setup model false ⟨"anthropic/models", status, detail⟩).given answer).filter
        (unlessStreamed skipStreaming) := by
  have hfirst : NamedFrom "anthropic" ["models"] [⟨"anthropic/models", status, detail⟩] :=
    .of_names ["anthropic/models"] rfl (by decide)
  cases model with
  | none =>
    have hskipped : NamedFrom "anthropic" ["messages-nonstream"]
        [⟨"anthropic/messages-nonstream", .skip, "no model available"⟩] :=
      .of_names ["anthropic/messages-nonstream"] rfl (by decide)
    have hboth := (hfirst.append hskipped).filter_plain skipStreaming (by decide)
    exact hboth.symm
  | some id =>
    have hasked (skipStreaming : Bool) :
        (messagesAfter setup (some id) skipStreaming ⟨"anthropic/models", status, detail⟩).given
          answer = [⟨"anthropic/models", status, detail⟩] ++
            (messageChecks setup id skipStreaming).given answer := by
      simp only [messagesAfter, given_bind, given_pure, List.singleton_append]
    rw [hasked, hasked, List.filter_append, hfirst.filter_plain _ (by decide),
      messageChecks_streams]

theorem anthropicPhase_streams (model : Option String) (skipStreaming : Bool) :
    (anthropicPhase setup model skipStreaming).given answer =
      ((anthropicPhase setup model false).given answer).filter (unlessStreamed skipStreaming) := by
  rw [anthropicPhase, anthropicPhase, given_bind, given_bind]
  split
  · exact messagesAfter_streams setup answer model skipStreaming _ _
  -- Where the routes are not there nothing is streamed in the full run either.
  · have habsent : NamedFrom "anthropic" ["models"] [⟨"anthropic/models", .skip,
        "endpoint not configured (404), skipping phase"⟩] :=
      .of_names ["anthropic/models"] rfl (by decide)
    exact (habsent.filter_plain skipStreaming (by decide)).symm
  · exact messagesAfter_streams setup answer model skipStreaming _ _

theorem modeChecks_streams (skipStreaming : Bool) (plan : Plan) (model : String) :
    ((modeChecks setup skipStreaming plan model).given answer).1 =
      ((modeChecks setup false plan model).given answer).1.filter
        (unlessStreamed skipStreaming) := by
  have hasked (skipStreaming : Bool) :
      ((modeChecks setup skipStreaming plan model).given answer).1 =
        [((checkWhole setup plan model
          ("passthrough/" ++ plan.mode.name ++ "-nonstream")).given answer).1] ++
        (if skipStreaming then [] else [((checkStreamed setup plan model
          ("passthrough/" ++ plan.mode.name ++ "-stream")).given answer).1]) := by
    rw [modeChecks, given_bind]
    obtain ⟨whole, seen⟩ := (checkWhole setup plan model _).given answer
    cases skipStreaming with
    | true => rfl
    | false =>
      dsimp only
      rw [if_neg Bool.false_ne_true, if_neg Bool.false_ne_true, given_bind]
      rfl
  have hname (last : String) : "passthrough/" ++ plan.mode.name ++ last =
      "passthrough" ++ "/" ++ (plan.mode.name ++ last) := String.append_assoc ..
  have hnamed (last : String) {r : Record} (h : r.name = "passthrough/" ++ plan.mode.name ++ last) :
      NamedFrom "passthrough" [plan.mode.name ++ last] [r] :=
    .of_names [r.name] rfl (by rw [h, hname]; exact List.Sublist.refl _)
  have hwhole := hnamed "-nonstream" ((checkWhole_always setup plan model _).given answer)
  have hstreamed := hnamed "-stream" ((checkStreamed_always setup plan model _).given answer)
  rw [hasked, hasked, if_neg Bool.false_ne_true, List.filter_append,
    hwhole.filter_plain _ (by cases plan.mode <;> decide),
    hstreamed.filter_streamed _ (by cases plan.mode <;> decide)]

/-- What the phase for modes records, where each request is answered by itself. -/
theorem given_modesPhase (r : Assignment) (candidates : List Representative)
    (skipStreaming : Bool) :
    (modesPhase setup r candidates skipStreaming).given answer =
      if candidates.isEmpty then some [⟨"passthrough/modes", .skip,
        "no passthrough or translation backends with models"⟩]
      else
        let results := (chosenPlans r candidates).map fun c =>
          (modeChecks setup skipStreaming c.1 c.2).given answer
        (counterRecord? "passthrough/stats" ((results.map Prod.snd).foldl ShownModes.merge {})
          (givenPage setup answer)).map fun counted => results.flatMap Prod.fst ++ [counted] := by
  rw [modesPhase]
  split
  · rfl
  · rw [given_bind, given_mapM, given_bind, given_checkCounters, given_pure, Option.map_map]
    rfl

theorem modesPhase_streams (r : Assignment) (candidates : List Representative)
    (skipStreaming : Bool) :
    Option.Rel (Retained "passthrough/stats" (unlessStreamed skipStreaming))
      ((modesPhase setup r candidates false).given answer)
      ((modesPhase setup r candidates skipStreaming).given answer) := by
  rw [given_modesPhase, given_modesPhase]
  split
  · have hnone (detail : String) :
        NamedFrom "passthrough" ["modes"] [⟨"passthrough/modes", .skip, detail⟩] :=
      .of_names ["passthrough/modes"] rfl (by decide)
    exact .some (.of_eq ((hnone _).filter_plain skipStreaming (by decide)).symm)
  · refine Retained.counted fun counted counted' hname hname' => .append (.of_eq ?_) ?_
    · rw [List.flatMap_map, List.flatMap_map, List.filter_flatMap]
      refine List.flatMap_congr fun c _ => ?_
      exact modeChecks_streams setup answer skipStreaming c.1 c.2
    · refine .of_counters hname hname' fun r hname => ?_
      have hplain : ¬r.IsStreamed := by
        rw [Record.IsStreamed, Record.group, hname]
        decide
      simp [unlessStreamed, hplain]

/-! ### All phases -/

section Kept

variable {phase : String} {full : List Record} (hfull : PhaseRecords phase full)

include hfull

/-- A phase that streams nothing. -/
theorem retained_plain (hphase : phase ∈ plainPhases) (skipStreaming : Bool) :
    Retained "passthrough/stats" (unlessStreamed skipStreaming) full full := by
  have hgroups : ∀ name ∈ streamedNames,
      Record.group ⟨name, .pass, ""⟩ ∈ ["proxy", "anthropic"] := by decide
  have hothers : ∀ phase ∈ plainPhases, phase ∉ ["passthrough", "proxy", "anthropic"] := by
    decide
  have hgrouped := hfull.grouped (slash_not_mem phase (mem_phases_of_plain _ hphase))
  refine .of_eq (List.filter_eq_self.mpr fun r hr => ?_).symm
  have hgroup : r.group = phase := hgrouped.2 r hr
  have hplain : ¬r.IsStreamed := by
    rintro (hname | ⟨hmodes, -⟩)
    · exact hothers phase hphase (List.mem_cons_of_mem _ (hgroup ▸ hgroups r.name hname))
    · exact hothers phase hphase (hgroup.symm.trans hmodes ▸ List.mem_cons_self)
  simp [unlessStreamed, hplain]

variable {part : List Record}

theorem retained_kept (hphase : phase ∈ phases) (hkeep : options.keeps phase = true)
    (h : Retained "passthrough/stats" (unlessStreamed options.skipStreaming) full part) :
    Retained "passthrough/stats" options.retains full part := by
  have hretains : ∀ r ∈ full, options.retains r = unlessStreamed options.skipStreaming r := by
    intro r hr
    rw [SurfaceOptions.retains, (hfull.grouped (slash_not_mem phase hphase)).2 r hr, hkeep,
      Bool.true_and]
  rw [Retained, List.filter_congr hretains]
  exact h

theorem retained_leftOut (hphase : phase ∈ phases) (hleft : options.keeps phase = false) :
    Retained "passthrough/stats" options.retains full [] := by
  refine .of_eq (List.filter_eq_nil_iff.mpr fun r hr => ?_).symm
  rw [SurfaceOptions.retains, (hfull.grouped (slash_not_mem phase hphase)).2 r hr, hleft]
  exact Bool.false_ne_true

/-- A phase that one run may leave out, and the other as well then. -/
theorem retained_optional {skipFull skip : Bool} (hskip : skipFull = true → skip = true)
    (hphase : phase ∈ phases) (hkeep : options.keeps phase = !skip)
    (h : Retained "passthrough/stats" (unlessStreamed options.skipStreaming) full part) :
    Retained "passthrough/stats" options.retains (if skipFull then [] else full)
      (if skip then [] else part) := by
  cases skip with
  | false =>
    have hkept : ¬skipFull = true := fun h => Bool.false_ne_true (hskip h)
    rw [if_neg hkept]
    exact retained_kept options hfull hphase hkeep h
  | true =>
    cases skipFull with
    | true => exact .of_eq rfl
    | false => exact retained_leftOut options hfull hphase hkeep

end Kept

variable {skip : Bool} (hskip : skip = true → options.skipAnthropic = true)
  (inventory : Inventory)

include hskip

theorem phasesBefore_retained (model : Option String) :
    Retained "passthrough/stats" options.retains
      ((phasesBefore setup (options.widened skip) model).given answer)
      ((phasesBefore setup options model).given answer) := by
  simp only [phasesBefore, given_bind, given_pure, given_skippable]
  have hkept {phase : String} {full : List Record} (h : PhaseRecords phase full)
      (hphase : phase ∈ plainPhases) (hkeep : options.keeps phase = true) :
      Retained "passthrough/stats" options.retains full full :=
    retained_kept options h (mem_phases_of_plain phase hphase) hkeep
      (retained_plain h hphase options.skipStreaming)
  have hinternal := hkept ((internalPhase_always setup).given answer) (by decide) rfl
  have hmodels := hkept ((modelsPhase_always setup model).given answer) (by decide) rfl
  have hproxy := retained_kept options ((proxyPhase_always setup model false).given answer)
    (by decide) rfl (.of_eq (proxyPhase_streams setup answer model options.skipStreaming))
  have hmessages := retained_optional options ((anthropicPhase_always setup model false).given
    answer) hskip (by decide) rfl
    (.of_eq (anthropicPhase_streams setup answer model options.skipStreaming))
  exact .append (.append (.append hinternal hmodels) hproxy) hmessages

omit hskip in
theorem phasesAfter_retained (model : Option String) :
    Retained "passthrough/stats" options.retains
      ((phasesAfter setup (options.widened skip) inventory model).given answer)
      ((phasesAfter setup options inventory model).given answer) := by
  simp only [phasesAfter, given_bind, given_pure, given_skippable]
  have hproviders := (providersPhase_always setup inventory).given answer
  have hheaders := (headersPhase_always setup model).given answer
  have herrors := (errorsPhase_always setup).given answer
  refine .append (.append ?_ ?_) ?_
  · exact retained_optional options hproviders (absurd · Bool.false_ne_true) (by decide) rfl
      (retained_plain hproviders (by decide) options.skipStreaming)
  · exact retained_kept options hheaders (by decide) rfl
      (retained_plain hheaders (by decide) options.skipStreaming)
  · exact retained_kept options herrors (by decide) rfl
      (retained_plain herrors (by decide) options.skipStreaming)

omit hskip in
/-- The records of the phases, where each request is answered by itself. -/
theorem records_surfacePhases (r : Assignment) :
    ((surfacePhases setup options inventory r).given answer).map (fun out => out.report.records) =
      let choice := options.choice inventory r
      (if options.skipAnthropic then some [] else
        (modesPhase setup r choice.candidates options.skipStreaming).given answer).map fun modes =>
          (phasesBefore setup options choice.model).given answer ++ modes ++
            (phasesAfter setup options inventory choice.model).given answer := by
  rw [surfacePhases, given_bind, given_bind, given_skippable]
  dsimp only
  cases (if options.skipAnthropic then some [] else (modesPhase setup r
    (options.choice inventory r).candidates options.skipStreaming).given answer) with
  | none => rfl
  | some modes =>
    dsimp only
    rw [given_bind]
    rfl

/-- What is retained of the phase for modes. Without it there is no need for counters that can be
added up. -/
theorem modes_retained {r : Assignment} {candidates : List Representative}
    (hmodes : ((chosenPlans r candidates).map fun c => c.1.mode).Sublist
      [.passthrough, .translated]) :
    let full := if skip then some [] else (modesPhase setup r candidates false).given answer
    let part := if options.skipAnthropic then some [] else
      (modesPhase setup r candidates options.skipStreaming).given answer
    Option.Rel (Retained "passthrough/stats" options.retains) full part ∨
      full = none ∧ skip = false ∧ options.skipAnthropic = true := by
  have hphase := (modesPhase_always setup hmodes false).given answer
  have hkeep : options.keeps "passthrough" = !options.skipAnthropic := rfl
  have hstreams := modesPhase_streams setup answer r candidates options.skipStreaming
  dsimp only
  generalize (modesPhase setup r candidates false).given answer = full at hphase hstreams ⊢
  generalize (modesPhase setup r candidates options.skipStreaming).given answer = part at hstreams ⊢
  -- The run with more looks at the counters unless both leave the phase out.
  cases hpart : options.skipAnthropic with
  | false =>
    have hfull : skip = false := Bool.eq_false_iff.mpr fun h => by
      rw [hskip h] at hpart
      cases hpart
    rw [hpart] at hkeep
    rw [hfull, if_neg Bool.false_ne_true, if_neg Bool.false_ne_true]
    cases hstreams with
    | none => exact .inl .none
    | some h =>
      exact .inl (.some (retained_kept options (hphase _ rfl) (by decide) hkeep h))
  | true =>
    rw [hpart] at hkeep
    cases skip with
    | true => exact .inl (.some (.of_eq rfl))
    | false =>
      cases full with
      | none => exact .inr ⟨rfl, rfl, rfl⟩
      | some full =>
        exact .inl (.some (retained_leftOut options (hphase _ rfl) (by decide) hkeep))

/-- All phases retain their records, unless the run with more of them comes to counters that cannot
be added up and the other one does not look at them. -/
theorem surfacePhases_retained {r : Assignment} (distinct : (r.backends.map Plan.name).Nodup) :
    let records (options : SurfaceOptions) :=
      ((surfacePhases setup options inventory r).given answer).map fun out => out.report.records
    Option.Rel (Retained "passthrough/stats" options.retains) (records (options.widened skip))
        (records options) ∨
      records (options.widened skip) = none ∧ skip = false ∧ options.skipAnthropic = true := by
  intro records
  have hbefore := phasesBefore_retained setup options answer hskip
    (options.choice inventory r).model
  have hmodes := modes_retained setup options answer hskip
    (modes_candidates distinct options inventory)
  dsimp only [records]
  -- What is drawn does not depend on what is left out.
  have hchoice : (options.widened skip).choice inventory r = options.choice inventory r := rfl
  rw [records_surfacePhases, records_surfacePhases, hchoice]
  rcases hmodes with hmodes | ⟨hnone, hskips⟩
  · exact .inl (hbefore.around (phasesAfter_retained setup options answer inventory _) hmodes)
  · exact .inr ⟨Option.map_eq_none_iff.mpr hnone, hskips⟩

theorem surfaceRun_retained :
    let records (options : SurfaceOptions) : Except Halt (List Record) :=
      ((surfaceRun setup options).given answer).map fun out => out.report.records
    RetainedOutcome "passthrough/stats" options.retains (records (options.widened skip))
        (records options) ∨
      records (options.widened skip) = .error .overflow ∧ skip = false ∧
        options.skipAnthropic = true := by
  refine surveyed_part answer (fun out : SurfaceOutcome => out.report.records)
    (fun full part => RetainedOutcome "passthrough/stats" options.retains full part ∨
      full = .error .overflow ∧ skip = false ∧ options.skipAnthropic = true) setup .unified
    ⟨false, .random options.planDraws⟩ (fun e => .inl (.ended _)) fun inventory => ?_
  rcases surfacePhases_retained setup options answer hskip inventory (nodup_backends _ _ _ _) with
    hphases | ⟨hnone, hskips⟩
  · exact .inl (.of_rel hphases)
  · exact .inr ⟨congrArg unlessOverflow hnone, hskips⟩

end Surface

/-- **What is left out is all that is missing.** Against a gateway that answers each request by
itself, a run that leaves something out comes to the same error as the full run, or to the records
of the full run that its options retain: the same names, statuses and details in the same order,
with the record of the counters compared by its name. Only a run without the phase for modes may
come to records where the full run is aborted over the counters; these are then the records that are
retained of the full run without that phase. -/
theorem runs_retained (setup : Setup) (answer : Request → Answer) (seen : List Request) :
    (∀ options : ModeOptions,
      let records (options : ModeOptions) : Except Halt (List Record) :=
        ((modeRun setup options).run (.steady answer) seen).1.map fun out => out.report.records
      RetainedOutcome "stats/translator-counters" options.retains (records options.full)
        (records options)) ∧
    (∀ options : SurfaceOptions,
      let records (options : SurfaceOptions) : Except Halt (List Record) :=
        ((surfaceRun setup options).run (.steady answer) seen).1.map fun out => out.report.records
      let retained (full : SurfaceOptions) : Prop :=
        RetainedOutcome "passthrough/stats" options.retains (records full) (records options)
      retained (options.widened options.skipAnthropic) ∧
      (retained options.full ∨
        records options.full = .error .overflow ∧ options.skipAnthropic = true)) := by
  refine ⟨fun options => ?_, fun options => ?_⟩
  · dsimp only
    rw [Session.run_steady, Session.run_steady]
    exact surveyed_part answer (fun out : ModeOutcome => out.report.records)
      (RetainedOutcome "stats/translator-counters" options.retains) setup options.source
      options.assign (fun e => .ended _) fun inventory =>
        .of_rel (checkBackends_retained setup options answer inventory _)
  · dsimp only
    rw [Session.run_steady, Session.run_steady, Session.run_steady]
    refine ⟨?_, ?_⟩
    · rcases surfaceRun_retained setup options answer id with hsame | ⟨-, hkept, hleft⟩
      · exact hsame
      · rw [hkept] at hleft
        cases hleft
    · have hfull : false = true → options.skipAnthropic = true := fun h => nomatch h
      rcases surfaceRun_retained setup options answer hfull with hsame | ⟨hfull, -, hleft⟩
      · exact .inl hsame
      · exact .inr ⟨hfull, hleft⟩

end GatewayProbe
