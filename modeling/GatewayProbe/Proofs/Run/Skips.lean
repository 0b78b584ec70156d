/-
What is left out of a run for all backends.

A run may leave out streams, edge cases or whole phases. Against a gateway that answers each request
by itself this changes nothing else: the records of what is left out are missing, and the others are
those of the full run, in their order. Only the counters are compared with fewer responses, so of
their record no more than the name is sure. Counters that cannot be added up abort both runs.

* `Retained`, `RetainedOutcome` — the records of a run beside those of the full run;
* `surveyed_part` — runs that ask for health and lists first;
* `ModeOptions.retains` — the records that options retain;
* `checkBackends_retained` — the checks of all backends.
-/
import GatewayProbe.Proofs.Exchange.Steady
import GatewayProbe.Proofs.Run.ModeRecords

namespace GatewayProbe

open Session (given given_bind given_pure given_mapM given_skippable)

/-! ### Records that are retained -/

/-- The same record, or two records of the counters. -/
def SameBut (counters : String) (r s : Record) : Prop :=
  r = s ∨ r.name = counters ∧ s.name = counters

/-- Of the full records those that are retained, one by one. -/
def Retained (counters : String) (retains : Record → Bool) (full part : List Record) : Prop :=
  List.Forall₂ (SameBut counters) part (full.filter retains)

namespace Retained

variable {counters : String} {retains : Record → Bool} {full part moreFull morePart : List Record}

theorem of_eq (h : part = full.filter retains) : Retained counters retains full part := by
  rw [Retained, h]
  exact List.forall₂_same.mpr fun _ _ => .inl rfl

theorem append (h : Retained counters retains full part)
    (hmore : Retained counters retains moreFull morePart) :
    Retained counters retains (full ++ moreFull) (part ++ morePart) := by
  rw [Retained, List.filter_append]
  exact List.rel_append h hmore

/-- Of the record of the counters no more than the name is compared. -/
theorem of_counters {r s : Record} (hfull : r.name = counters) (hpart : s.name = counters)
    (h : ∀ r : Record, r.name = counters → retains r = true) :
    Retained counters retains [r] [s] := by
  rw [Retained, List.filter_singleton, h r hfull]
  exact .cons (.inr ⟨hpart, hfull⟩) .nil

end Retained

/-- Records around others that are retained, if there are any. -/
theorem Retained.around {counters : String} {retains : Record → Bool}
    {full part fullAfter partAfter : List Record} {modes modes' : Option (List Record)}
    (hbefore : Retained counters retains full part)
    (hafter : Retained counters retains fullAfter partAfter)
    (h : Option.Rel (Retained counters retains) modes modes') :
    Option.Rel (Retained counters retains) (modes.map fun own => full ++ own ++ fullAfter)
      (modes'.map fun own => part ++ own ++ partAfter) := by
  cases h with
  | none => exact .none
  | some h => exact .some (.append (.append hbefore h) hafter)

/-- What becomes of a run and of the full run: both end for the same reason, or the records are
retained. -/
inductive RetainedOutcome (counters : String) (retains : Record → Bool) :
    Except Halt (List Record) → Except Halt (List Record) → Prop
  | ended (h : Halt) : RetainedOutcome counters retains (.error h) (.error h)
  | ran {full part : List Record} (h : Retained counters retains full part) :
      RetainedOutcome counters retains (.ok full) (.ok part)

theorem RetainedOutcome.of_rel {counters : String} {retains : Record → Bool}
    {full part : Option (List Record)} (h : Option.Rel (Retained counters retains) full part) :
    RetainedOutcome counters retains (unlessOverflow full) (unlessOverflow part) := by
  cases h with
  | none => exact .ended .overflow
  | some h => exact .ran h

/-- Two runs read the same page, so its counters can be added up in both or in neither. -/
theorem Retained.counted {counters name : String} {retains : Record → Bool}
    {full part : List Record} {page : Outcome CounterPage} {shown shown' : ShownModes}
    (h : ∀ counted counted', counted.name = name → counted'.name = name →
      Retained counters retains (full ++ [counted]) (part ++ [counted'])) :
    Option.Rel (Retained counters retains)
      ((counterRecord? name shown page).map fun counted => full ++ [counted])
      ((counterRecord? name shown' page).map fun counted => part ++ [counted]) := by
  -- Whether there is a record depends on the page alone, not on the modes that were shown.
  by_cases hoverflow : Overflowing page
  · rw [counterRecord?_eq_none_iff.mpr hoverflow, counterRecord?_eq_none_iff.mpr hoverflow]
    exact .none
  · obtain ⟨counted, hcounted⟩ : ∃ counted, counterRecord? name shown page = some counted :=
      exists_counterRecord? hoverflow
    obtain ⟨counted', hcounted'⟩ : ∃ counted', counterRecord? name shown' page = some counted' :=
      exists_counterRecord? hoverflow
    rw [hcounted, hcounted']
    exact .some (h _ _ (name_of_counterRecord? hcounted) (name_of_counterRecord? hcounted'))

/-- Health and lists are asked for alike, so two runs part only after them. -/
theorem surveyed_part (answer : Request → Answer) {α β : Type} (found : α → β)
    (P : Except Halt β → Except Halt β → Prop) {full part : Inventory → Assignment →
      Session (Option α)} (setup : Setup) (source : ListSource) (options : AssignOptions)
    (failed : ∀ e, P (.error (.gateway e)) (.error (.gateway e)))
    (listed : ∀ inventory : Inventory,
      let r := assign inventory.endpoints inventory.models setup.settings.modes options
      P (unlessOverflow (((full inventory r).given answer).map found))
        (unlessOverflow (((part inventory r).given answer).map found))) :
    P (((setup.surveyed source options full).given answer).map found)
      (((setup.surveyed source options part).given answer).map found) := by
  rw [Setup.surveyed, Setup.surveyed, given_bind, given_bind]
  cases setup.client.requireHealth.given answer with
  | error e => exact failed e
  | ok _ =>
    dsimp only
    rw [given_bind, given_bind, Setup.survey, given_bind]
    cases (askInventory setup.client source).given answer with
    | error e => exact failed e
    | ok inventory =>
      dsimp only
      rw [given_pure]
      dsimp only
      rw [given_bind, given_bind, given_pure, given_pure, map_unlessOverflow, map_unlessOverflow]
      exact listed inventory

/-! ### All backends -/

/-- The names of the edge cases. -/
def edgeNames : List String := ["edge/nonexistent-model", "edge/system-param", "edge/multiturn"]

/-- An edge case has one of the names, and maybe the backend it was checked on in brackets. -/
def IsEdgeName (name : String) : Prop :=
  ∃ edge ∈ edgeNames, name = edge ∨
    (edge ++ " (").toList <+: name.toList ∧ ")".toList <:+ name.toList

instance : DecidablePred IsEdgeName := fun name =>
  inferInstanceAs (Decidable (∃ edge ∈ edgeNames, name = edge ∨
    (edge ++ " (").toList <+: name.toList ∧ ")".toList <:+ name.toList))

/-- The name is that of a streamed message. -/
def IsStreamName (name : String) : Prop := "/anthropic-stream".toList <:+ name.toList

instance : DecidablePred IsStreamName := fun _ => inferInstanceAs (Decidable (_ <:+ _))

namespace ModeOptions

/-- The records that options retain. -/
def retains (options : ModeOptions) (r : Record) : Bool :=
  !(options.skipStreaming && IsStreamName r.name) && !(options.skipEdgeCases && IsEdgeName r.name)

/-- The options that leave nothing out. -/
def full (options : ModeOptions) : ModeOptions :=
  { options with skipStreaming := false, skipEdgeCases := false }

end ModeOptions

theorem not_isEdgeName {name last : String} (hlast : last ∈ backendEnds)
    (h : last.toList <:+ name.toList) : ¬IsEdgeName name := by
  have hends : ∀ edge ∈ edgeNames, ∃ t ∈ edgeEnds, t.toList <:+ edge.toList := by decide
  have hapart : ∀ s ∈ backendEnds, ∀ t ∈ edgeEnds, Text.Apart s t := by decide
  rintro ⟨edge, hedge, rfl | ⟨-, hclosed⟩⟩
  · obtain ⟨t, ht, hsuffix⟩ := hends name hedge
    exact (hapart last hlast t ht).ne h hsuffix rfl
  · exact (hapart last hlast ")" (by decide)).ne h hclosed rfl

theorem not_isStreamName {name last : String} (hapart : Text.Apart last "/anthropic-stream")
    (h : last.toList <:+ name.toList) : ¬IsStreamName name :=
  fun hstream => hapart.ne h hstream rfl

theorem EdgesChecked.isEdgeName {r : Assignment} {edges : List Record}
    (h : EdgesChecked r edges) : ∀ name ∈ edges.map Record.name, IsEdgeName name := by
  cases h with
  | without absent missing d₁ d₂ d₃ =>
    show ∀ name ∈ edgeNames, IsEdgeName name
    decide
  | on plan listed fit missing system multiturn d₁ d₂ d₃ =>
    have hon (edge : String) (hedge : edge ∈ edgeNames) :
        IsEdgeName (edge ++ " (" ++ plan.name ++ ")") := by
      refine ⟨edge, hedge, .inr ⟨?_, Text.suffix_append _ _⟩⟩
      rw [String.append_assoc, String.toList_append (t := plan.name ++ ")")]
      exact List.prefix_append _ _
    intro name hname
    simp only [List.map_cons, List.map_nil, List.mem_cons, List.not_mem_nil, or_false] at hname
    rcases hname with rfl | rfl | rfl
    · decide
    · exact hon "edge/system-param" (by decide)
    · exact hon "edge/multiturn" (by decide)

section Modes

variable (setup : Setup) (options : ModeOptions) (answer : Request → Answer)

/-- What is recorded of a backend, where each request is answered by itself. -/
theorem records_checkBackend (skipStreaming : Bool) (plan : Plan) :
    ((checkBackend setup skipStreaming plan).given answer).records =
      match plan.testModel with
      | .error reason => [⟨plan.name ++ "/anthropic-nonstream", .skip, reason⟩]
      | .ok model =>
        let asked (name : String) (check : String → Session (Record × ShownModes)) : Record :=
          ((check (plan.name ++ name)).given answer).1
        [asked "/anthropic-nonstream" (checkWhole setup plan model)] ++
          (if skipStreaming then [] else
            [asked "/anthropic-stream" (checkStreamed setup plan model)]) ++
          [(checkBaseline setup plan model).given answer] := by
  rw [checkBackend]
  cases plan.testModel with
  | error reason => rfl
  | ok model =>
    dsimp only
    rw [given_bind]
    cases skipStreaming with
    | true =>
      rw [if_pos rfl, given_bind, given_pure]
      rfl
    | false =>
      rw [if_neg Bool.false_ne_true, given_bind, given_bind, given_pure]
      rfl

/-- The checks of one backend without streams are the others of its checks. -/
theorem checkBackend_retained (plan : Plan) :
    ((checkBackend setup options.skipStreaming plan).given answer).records =
      ((checkBackend setup false plan).given answer).records.filter options.retains := by
  have hends {r : Record} (last : String) (hlast : last ∈ backendEnds)
      (hapart : Text.Apart last "/anthropic-stream") (hname : r.name = plan.name ++ last) :
      options.retains r = true := by
    have hsuffix := Text.suffix_append plan.name last
    rw [← hname] at hsuffix
    simp [ModeOptions.retains, not_isEdgeName hlast hsuffix, not_isStreamName hapart hsuffix]
  have hstream {r : Record} (hname : r.name = plan.name ++ "/anthropic-stream") :
      options.retains r = !options.skipStreaming := by
    have hsuffix : IsStreamName r.name := hname ▸ Text.suffix_append plan.name "/anthropic-stream"
    simp [ModeOptions.retains, not_isEdgeName (by decide) hsuffix, hsuffix]
  rw [records_checkBackend, records_checkBackend]
  cases plan.testModel with
  | error reason =>
    have hleftOut := hends (r := ⟨plan.name ++ "/anthropic-nonstream", .skip, reason⟩)
      "/anthropic-nonstream" (by decide) (by decide) rfl
    dsimp only
    rw [List.filter_singleton, hleftOut]
    rfl
  | ok model =>
    have hwhole := hends "/anthropic-nonstream" (by decide) (by decide)
      ((checkWhole_always setup plan model _).given answer)
    have hbaseline := hends "/openai-baseline" (by decide) (by decide)
      ((checkBaseline_always setup plan model).given answer)
    have hstreamed := hstream ((checkStreamed_always setup plan model _).given answer)
    dsimp only
    rw [List.filter_append, List.filter_append, List.filter_singleton, List.filter_singleton]
    cases hskip : options.skipStreaming <;> simp [hwhole, hbaseline, hstreamed, hskip]

/-- Edge cases are left out all together, and none of them is a stream. -/
theorem edges_retained (r : Assignment) :
    (if options.skipEdgeCases then [] else (checkEdgeCases setup r).given answer) =
      ((checkEdgeCases setup r).given answer).filter options.retains := by
  have hedges := (checkEdgeCases_always setup r).given answer
  have hnames : ∀ e ∈ (checkEdgeCases setup r).given answer,
      IsEdgeName e.name ∧ ¬IsStreamName e.name := by
    intro e he
    obtain ⟨last, hlast, hsuffix⟩ := hedges.exists_end e.name (List.mem_map_of_mem he)
    have hapart : ∀ last ∈ edgeEnds, Text.Apart last "/anthropic-stream" := by decide
    exact ⟨hedges.isEdgeName e.name (List.mem_map_of_mem he),
      not_isStreamName (hapart last hlast) hsuffix⟩
  have hretains : ∀ e ∈ (checkEdgeCases setup r).given answer,
      options.retains e = !options.skipEdgeCases := by
    intro e he
    simp [ModeOptions.retains, hnames e he]
  cases hskip : options.skipEdgeCases with
  | true => exact (List.filter_eq_nil_iff.mpr fun e he => by simp [hretains e he, hskip]).symm
  | false => exact (List.filter_eq_self.mpr fun e he => by simp [hretains e he, hskip]).symm

/-- The modes that backends show, where each request is answered by itself. -/
def givenModes (r : Assignment) : ShownModes :=
  (r.backends.map fun plan => ((checkBackend setup options.skipStreaming plan).given
    answer).observed).foldl ShownModes.merge {}

theorem records_checkBackends (inventory : Inventory) (r : Assignment) :
    ((checkBackends setup options inventory r).given answer).map (fun out => out.report.records) =
      (counterRecord? "stats/translator-counters" (givenModes setup options answer r)
        (givenPage setup answer)).map fun counted =>
        (r.backends.flatMap fun plan =>
          ((checkBackend setup options.skipStreaming plan).given answer).records) ++
        (if options.skipEdgeCases then [] else (checkEdgeCases setup r).given answer) ++
        [counted] := by
  rw [checkBackends, given_bind, given_mapM, given_bind, given_skippable]
  simp only [given_bind, given_pure, given_checkCounters, Option.map_map, List.flatMap_map,
    List.map_map, givenModes]
  rfl

theorem checkBackends_retained (inventory : Inventory) (r : Assignment) :
    Option.Rel (Retained "stats/translator-counters" options.retains)
      (((checkBackends setup options.full inventory r).given answer).map
        fun out => out.report.records)
      (((checkBackends setup options inventory r).given answer).map
        fun out => out.report.records) := by
  rw [records_checkBackends, records_checkBackends]
  refine Retained.counted fun counted counted' hname hname' => ?_
  refine .append (.append (.of_eq ?_) (.of_eq (edges_retained setup options answer r))) ?_
  · -- No record depends on another backend, so the filter goes into each of them.
    rw [List.filter_flatMap]
    exact congrArg r.backends.flatMap (funext (checkBackend_retained setup options answer))
  · refine .of_counters hname hname' fun r hname => ?_
    have hplain : ¬IsStreamName r.name ∧ ¬IsEdgeName r.name := hname ▸ by decide
    simp [ModeOptions.retains, hplain]

end Modes

end GatewayProbe
