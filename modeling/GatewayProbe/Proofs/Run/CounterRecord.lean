/-
What decides the record of the gateway's counters.

Every successful response to a request for a message shows a mode, whatever its body is worth. The
gateway's counters are read at the end and compared with the modes shown, so the record of the
counters follows from what the checks of all backends exchanged with the gateway, in any order, and
from the page of counters:

* `Client.Showed` — some response to a request for a message succeeded and showed such a mode;
* `CountersRule` — the rule for the status of the record;
* `CounterPage.FirstAnthropic`, `Counters.Lacking` — the counters it looks at, and when they lack;
* `CounterBasis` — what the record depends on in a run;
* `counterRecord_decided` — the rule holds of every run, higher counters do no harm, and the order
  of backends does not matter.
-/
import GatewayProbe.Proofs.Conformance.Verdict
import GatewayProbe.Proofs.Exchange.Exchanges
import GatewayProbe.Proofs.Run.ModeRecords

namespace GatewayProbe

open Session (Logs OnlyAsks)

/-! ### Modes shown -/

/-- Some response to a request for a message succeeded, with a mode header such as this. -/
def Client.Showed (c : Client) (log : List Exchange) (mode : Option String → Prop) : Prop :=
  ∃ q r, (q, Answer.reply r) ∈ log ∧ c.IsMessageRequest q ∧ 200 ≤ r.status ∧ r.status ≤ 299 ∧
    mode r.head.mode

/-- The modes are those shown in the exchanges. -/
structure Client.Shows (c : Client) (log : List Exchange) (shown : ShownModes) : Prop where
  passthrough : shown.passthrough = true ↔ c.Showed log (· = some "passthrough")
  translated : shown.translated = true ↔ c.Showed log (· ≠ some "passthrough")

section Showing

variable {c : Client} {log more : List Exchange} {mode : Option String → Prop}

theorem Client.showed_append :
    c.Showed (log ++ more) mode ↔ c.Showed log mode ∨ c.Showed more mode := by
  constructor
  · rintro ⟨q, r, hmem, hshowed⟩
    rcases List.mem_append.mp hmem with hmem | hmem
    · exact .inl ⟨q, r, hmem, hshowed⟩
    · exact .inr ⟨q, r, hmem, hshowed⟩
  · rintro (⟨q, r, hmem, hshowed⟩ | ⟨q, r, hmem, hshowed⟩)
    · exact ⟨q, r, List.mem_append_left _ hmem, hshowed⟩
    · exact ⟨q, r, List.mem_append_right _ hmem, hshowed⟩

/-- What was shown does not depend on the order of the exchanges. -/
theorem Client.Showed.of_perm (h : c.Showed log mode) (perm : log.Perm more) :
    c.Showed more mode := by
  obtain ⟨q, r, hmem, hshowed⟩ := h
  exact ⟨q, r, perm.mem_iff.mp hmem, hshowed⟩

namespace Client.Shows

variable {shown shown' : ShownModes}

theorem append (h : c.Shows log shown) (hmore : c.Shows more shown') :
    c.Shows (log ++ more) (shown.merge shown') := by
  constructor
  · rw [showed_append, ← h.passthrough, ← hmore.passthrough]
    exact Bool.or_eq_true_iff
  · rw [showed_append, ← h.translated, ← hmore.translated]
    exact Bool.or_eq_true_iff

/-- Where no request for a message is answered no mode is shown. -/
theorem none (h : ∀ q r, (q, Answer.reply r) ∈ log → ¬c.IsMessageRequest q) : c.Shows log {} := by
  have hnone (mode : Option String → Prop) : ¬c.Showed log mode :=
    fun ⟨q, r, hmem, hmessage, _⟩ => h q r hmem hmessage
  exact ⟨iff_of_false Bool.false_ne_true (hnone _), iff_of_false Bool.false_ne_true (hnone _)⟩

theorem nil : c.Shows [] {} := none fun _ _ hmem => absurd hmem List.not_mem_nil

/-- A response to a request for a message shows what its head tells. -/
theorem reply {q : Request} (hq : c.IsMessageRequest q) (r : Reply) :
    c.Shows [(q, .reply r)] (.ofHead r.head) := by
  have hone (mode : Option String → Prop) : c.Showed [(q, .reply r)] mode ↔
      r.head.succeeded = true ∧ mode r.head.mode := by
    rw [succeeded_iff]
    constructor
    · rintro ⟨q', r', hmem, -, hfrom, hto, hmode⟩
      obtain ⟨rfl, hreply⟩ := Prod.mk.inj (List.mem_singleton.mp hmem)
      cases hreply
      exact ⟨⟨hfrom, hto⟩, hmode⟩
    · rintro ⟨⟨hfrom, hto⟩, hmode⟩
      exact ⟨q, r, List.mem_cons_self, hq, hfrom, hto, hmode⟩
  have htells : r.head.tellsPassthrough = true ↔ r.head.mode = some "passthrough" := beq_iff_eq
  constructor
  · rw [hone, ← htells]
    exact Bool.and_eq_true_iff
  · rw [hone, Ne, ← htells, ShownModes.ofHead]
    cases r.head.succeeded <;> cases r.head.tellsPassthrough <;> decide

/-- One list of exchanges cannot show different modes. -/
theorem eq_of_perm (h : c.Shows log shown) (hmore : c.Shows more shown') (perm : log.Perm more) :
    shown = shown' := by
  have hsame (mode : Option String → Prop) : c.Showed log mode ↔ c.Showed more mode :=
    ⟨fun h => h.of_perm perm, fun h => h.of_perm perm.symm⟩
  have hpassthrough : shown.passthrough = shown'.passthrough :=
    Bool.eq_iff_iff.mpr (h.passthrough.trans ((hsame _).trans hmore.passthrough.symm))
  have htranslated : shown.translated = shown'.translated :=
    Bool.eq_iff_iff.mpr (h.translated.trans ((hsame _).trans hmore.translated.symm))
  cases shown
  cases shown'
  exact congrArg₂ ShownModes.mk hpassthrough htranslated

/-- Results are merged one by one, as their exchanges follow each other. -/
theorem flatten {logs : List (List Exchange)} {results : List BackendResult}
    (h : List.Forall₂ (fun log (b : BackendResult) => c.Shows log b.observed) logs results)
    (hlog : c.Shows log shown) :
    c.Shows (log ++ logs.flatten) ((results.map BackendResult.observed).foldl ShownModes.merge
      shown) := by
  -- What was shown before the first of them is carried along, as the fold does.
  induction h generalizing log shown with
  | nil => rwa [List.flatten_nil, List.append_nil]
  | cons first _ ih =>
    rw [List.flatten_cons, ← List.append_assoc]
    exact ih (hlog.append first)

end Client.Shows
end Showing

/-! ### The checks of backends -/

section Checks

variable (setup : Setup) (plan : Plan)

theorem askMessage_shows (model : String) (stream : Bool) :
    (askMessage setup plan model stream).Logs fun log out => setup.client.Shows log out.2 := by
  refine (setup.client.postMessage_logs _).bind ?_
  rintro log outcome (⟨q, answer, hq, rfl, rfl⟩ | ⟨rfl, rfl⟩)
  · cases answer with
    | reply r => exact .pure (Client.Shows.reply hq r)
    | refused | closed | silent =>
      refine .pure (.none fun q' r hmem => ?_)
      cases (Prod.mk.inj (List.mem_singleton.mp hmem)).2
  · exact .pure .nil

theorem checkBackend_shows (skipStreaming : Bool) :
    (checkBackend setup skipStreaming plan).Logs fun log b =>
      setup.client.Shows log b.observed := by
  have hbaseline {log : List Exchange} {shown : ShownModes} (hshown : setup.client.Shows log shown)
      (model : String) : (checkBaseline setup plan model).Logs fun more _ =>
        setup.client.Shows (log ++ more) shown := by
    refine (setup.client.postValue_logs _ _).bind fun more reply hplain => ?_
    -- A chat completion shows no mode, whatever is answered.
    have hsame := hshown.append (.none fun q r hmem => hplain _ hmem)
    cases reply with
    | error e => exact .pure (by simpa [ShownModes.merge] using hsame)
    | ok reply => exact .pure (by simpa [ShownModes.merge] using hsame)
  rw [checkBackend]
  cases plan.testModel with
  | error reason => exact .pure .nil
  | ok model =>
    have hwhole (name : String) : (checkWhole setup plan model name).Logs fun log out =>
        setup.client.Shows log out.2 :=
      (askMessage_shows setup plan model false).bind fun log out hout => .pure (by simpa using hout)
    have hstreamed (name : String) : (checkStreamed setup plan model name).Logs fun log out =>
        setup.client.Shows log out.2 :=
      (askMessage_shows setup plan model true).bind fun log out hout => .pure (by simpa using hout)
    refine (hwhole _).bind fun log whole hlog => ?_
    dsimp only
    split
    · refine (hbaseline hlog model).bind fun more baseline hmore => ?_
      exact .pure (by simpa using hmore)
    · refine (hstreamed _).bind fun streamLog streamed hstream => ?_
      refine (hbaseline (hlog.append hstream) model).bind fun more baseline hmore => ?_
      exact .pure (by simpa using hmore)

/-- What the checks of all backends show together. -/
def shownBy (results : List BackendResult) : ShownModes :=
  (results.map BackendResult.observed).foldl ShownModes.merge {}

theorem matrix_shows (plans : List Plan) (skipStreaming : Bool) :
    (plans.mapM (checkBackend setup skipStreaming)).Logs fun log results =>
      setup.client.Shows log (shownBy results) := by
  refine (Logs.mapM (fun plan => checkBackend_shows setup plan skipStreaming) plans).mono ?_
  rintro _ results ⟨logs, rfl, hlogs⟩
  exact Client.Shows.flatten hlogs .nil

theorem askMessage_only (model : String) (stream : Bool) :
    (askMessage setup plan model stream).OnlyAsks fun q => q.method = "POST" := by
  refine (setup.client.postMessage_only _).bind fun reply => ?_
  cases reply <;> exact .pure _

theorem checkBackend_only (skipStreaming : Bool) :
    (checkBackend setup skipStreaming plan).OnlyAsks fun q => q.method = "POST" := by
  have hbaseline (model : String) :
      (checkBaseline setup plan model).OnlyAsks fun q => q.method = "POST" := by
    refine (setup.client.postValue_only _ _).bind fun reply => ?_
    cases reply <;> exact .pure _
  rw [checkBackend]
  cases plan.testModel with
  | error reason => exact .pure _
  | ok model =>
    refine ((askMessage_only setup plan model false).bind fun _ => .pure _).bind fun whole => ?_
    dsimp only
    split
    · exact (hbaseline model).bind fun _ => .pure _
    · refine ((askMessage_only setup plan model true).bind fun _ => .pure _).bind
        fun streamed => ?_
      exact (hbaseline model).bind fun _ => .pure _

end Checks

/-! ### The rule -/

/-- The translator is one for Anthropic messages, by its name. -/
def Counters.IsAnthropic (c : Counters) : Prop :=
  "anthropic".toList <:+: (Text.lowerAscii c.translator).toList

/-- The first translator of a page for Anthropic messages. -/
def CounterPage.FirstAnthropic (page : CounterPage) (c : Counters) : Prop :=
  ∃ before after, page.translators = before ++ c :: after ∧ c.IsAnthropic ∧
    ∀ other ∈ before, ¬other.IsAnthropic

/-- Passed (`p`) or translated (`t`) responses were seen that the counters know nothing of. -/
def Counters.Lacking (c : Counters) (p t : Prop) : Prop :=
  (p ∨ t) ∧ c.total = 0 ∨ p ∧ c.passthrough = 0 ∨ t ∧ c.translated = 0

/-- How the record of the counters is decided, where passed (`p`) or translated (`t`) responses were
seen: by the page, or by its absence. -/
structure CountersRule (p t : Prop) (page : Outcome CounterPage) (status : Status) : Prop where
  unread : ∀ e, page = .error e → status = .skip
  unnamed : ∀ counted, page = .ok counted → (∀ c ∈ counted.translators, ¬c.IsAnthropic) →
    (status = .fail ↔ p ∨ t) ∧ (status = .skip ↔ ¬(p ∨ t))
  named : ∀ counted c, page = .ok counted → counted.FirstAnthropic c →
    (status = .fail ↔ c.Lacking p t) ∧ (status = .pass ↔ ¬c.Lacking p t)

theorem isAnthropic_iff {c : Counters} :
    Text.contains (Text.lowerAscii c.translator) "anthropic" = true ↔ c.IsAnthropic :=
  Text.contains_iff

theorem anthropic?_eq_some_iff {page : CounterPage} {c : Counters} :
    page.anthropic? = some c ↔ page.FirstAnthropic c := by
  rw [CounterPage.anthropic?, List.find?_eq_some_iff_append]
  constructor
  · rintro ⟨hc, before, after, hpage, hbefore⟩
    refine ⟨before, after, hpage, isAnthropic_iff.mp hc, fun other hother hnamed => ?_⟩
    have hnot := hbefore other hother
    rw [isAnthropic_iff.mpr hnamed] at hnot
    cases hnot
  · rintro ⟨before, after, hpage, hc, hbefore⟩
    refine ⟨isAnthropic_iff.mpr hc, before, after, hpage, fun other hother => ?_⟩
    rw [Bool.not_eq_true', ← Bool.not_eq_true, isAnthropic_iff]
    exact hbefore other hother

theorem anthropic?_eq_none_iff {page : CounterPage} :
    page.anthropic? = none ↔ ∀ c ∈ page.translators, ¬c.IsAnthropic := by
  rw [CounterPage.anthropic?, List.find?_eq_none]
  exact forall₂_congr fun c _ => not_congr isAnthropic_iff

theorem ofCounters?_unnamed {page : CounterPage} (h : page.anthropic? = none) (p t : Bool) :
    (Finding.ofCounters? page p t).map Finding.status = some (if p || t then .fail else .skip) := by
  rw [Finding.ofCounters?, h]
  cases p || t <;> rfl

/-- Three rules decide; what became of single requests is a note. -/
theorem ofCounters?_decides {page : CounterPage} {c : Counters} (h : page.anthropic? = some c)
    {p t : Bool} {v : Finding} (hv : Finding.ofCounters? page p t = some v) :
    v.Decides (¬c.Lacking (p = true) (t = true)) := by
  have hrule (seen : Bool) (n : Nat) :
      (seen && decide (n = 0)) = false ↔ ¬(seen = true ∧ n = 0) := by
    rw [← Bool.not_eq_true, Bool.and_eq_true, decide_eq_true_eq]
  rw [Finding.ofCounters?, h] at hv
  obtain ⟨fallbacks, -, rfl⟩ := Option.map_eq_some_iff.mp hv
  have hrules : (c.compare p t).Decides _ :=
    .failIf (.failIf (.failIf .pass (hrule (p || t) c.total) _) (hrule p c.passthrough) _)
      (hrule t c.translated) _
  refine (hrules.noteIf _ _).congr ?_
  rw [Counters.Lacking, Bool.or_eq_true]
  tauto

theorem Counters.Lacking.of_le {c c' : Counters} {p t : Prop} (h : c'.Lacking p t)
    (total : c.total ≤ c'.total) (passthrough : c.passthrough ≤ c'.passthrough)
    (translated : c.translated ≤ c'.translated) : c.Lacking p t := by
  rcases h with ⟨hseen, hzero⟩ | ⟨hp, hzero⟩ | ⟨ht, hzero⟩
  · exact .inl ⟨hseen, Nat.le_zero.mp (hzero ▸ total)⟩
  · exact .inr (.inl ⟨hp, Nat.le_zero.mp (hzero ▸ passthrough)⟩)
  · exact .inr (.inr ⟨ht, Nat.le_zero.mp (hzero ▸ translated)⟩)

theorem countersRule_of_shows {c : Client} {log : List Exchange} {shown : ShownModes}
    (h : c.Shows log shown) {name : String} {page : Outcome CounterPage} {record : Record}
    (hrecord : counterRecord? name shown page = some record) :
    CountersRule (c.Showed log (· = some "passthrough")) (c.Showed log (· ≠ some "passthrough"))
      page record.status := by
  rw [← h.passthrough, ← h.translated]
  constructor
  · rintro e rfl
    cases hrecord
    rfl
  · rintro counted rfl hunnamed
    obtain ⟨v, hv, rfl⟩ := Option.map_eq_some_iff.mp hrecord
    have hstatus := ofCounters?_unnamed (anthropic?_eq_none_iff.mpr hunnamed) shown.passthrough
      shown.translated
    rw [hv, Option.map_some, Option.some_inj] at hstatus
    dsimp only
    rw [hstatus, ← Bool.or_eq_true]
    cases shown.passthrough || shown.translated <;> decide
  · rintro counted a rfl hfirst
    obtain ⟨v, hv, rfl⟩ := Option.map_eq_some_iff.mp hrecord
    have hdecides := ofCounters?_decides (anthropic?_eq_some_iff.mpr hfirst) hv
    exact ⟨hdecides.fail_iff.trans not_not, hdecides.pass_iff⟩

theorem overflowing_iff_of_first {page : CounterPage} {c : Counters} (h : page.FirstAnthropic c) :
    Overflowing (.ok page) ↔ Decimal.word64 ≤ c.fallbackSum := by
  simp [Overflowing, CounterPage.Overflows, Except.toOption, anthropic?_eq_some_iff.mpr h]

/-! ### The record of a run -/

/-- What the record of the counters depends on in a run: what the checks of all backends exchange
with the gateway, and the page of counters that is read after them and the edge cases. -/
structure CounterBasis where
  log : List Exchange
  page : Outcome CounterPage

section Run

variable (setup : Setup) (options : ModeOptions) (gateway : Gateway) (seen : List Request)

/-- What the record depends on in a run for given plans. -/
def counterBasis (r : Assignment) : CounterBasis where
  log := (r.backends.mapM (checkBackend setup options.skipStreaming)).exchanges gateway seen
  page := modePage setup options gateway seen r

theorem page_counterBasis (r : Assignment) : (counterBasis setup options gateway seen r).page =
    modePage setup options gateway seen r := by
  rw [counterBasis]

/-- The last record of a run for given plans. -/
def counted? (inventory : Inventory) (r : Assignment) : Option Record :=
  ((checkBackends setup options inventory r).run gateway seen).1.bind fun out =>
    out.report.records.getLast?

theorem counted?_eq (inventory : Inventory) (r : Assignment) :
    ∃ shown, setup.client.Shows (counterBasis setup options gateway seen r).log shown ∧
      counted? setup options gateway seen inventory r =
        counterRecord? "stats/translator-counters" shown
          (counterBasis setup options gateway seen r).page := by
  refine ⟨_, matrix_shows setup r.backends options.skipStreaming gateway seen, ?_⟩
  rw [counted?, checkBackends, Session.run_bind, Session.run_bind, Session.run_bind]
  dsimp only
  rw [Session.run_pure, checkCounters_run, Option.map_map, Option.bind_map]
  dsimp only [Function.comp_def]
  simp only [List.getLast?_concat]
  rw [Option.bind_fun_some, shownBy, counterBasis, modePage]

/-- Where its counters can be added up, a run ends with a record that is decided by the rule. -/
theorem counted_of_fits {inventory : Inventory} {r : Assignment} {out : ModeOutcome}
    (hfits : ¬Overflowing (counterBasis setup options gateway seen r).page)
    (hout : ((checkBackends setup options inventory r).run gateway seen).1 = some out) :
    let basis := counterBasis setup options gateway seen r
    ∃ counted, out.report.records.getLast? = some counted ∧
      counted.name = "stats/translator-counters" ∧
      CountersRule (setup.client.Showed basis.log (· = some "passthrough"))
        (setup.client.Showed basis.log (· ≠ some "passthrough")) basis.page counted.status := by
  intro basis
  obtain ⟨shown, hshown, hcounted⟩ := counted?_eq setup options gateway seen inventory r
  obtain ⟨counted, hrecord⟩ := exists_counterRecord? hfits
  rw [counted?, hout, Option.bind_some] at hcounted
  exact ⟨counted, hcounted.trans hrecord, name_of_counterRecord? hrecord,
    countersRule_of_shows hshown hrecord⟩

/-- Gateways that differ in pages only are asked the same about backends. -/
theorem log_counterBasis_congr {gateway' : Gateway}
    (alike : ∀ seen q, q.method = "POST" → gateway seen q = gateway' seen q) (r : Assignment) :
    (counterBasis setup options gateway seen r).log =
      (counterBasis setup options gateway' seen r).log := by
  have honly : (r.backends.mapM (checkBackend setup options.skipStreaming)).OnlyAsks
      fun q => q.method = "POST" :=
    .mapM (fun plan => checkBackend_only setup plan options.skipStreaming) r.backends
  exact honly.exchanges_congr alike seen

end Run

section Raised

variable (setup : Setup) (options : ModeOptions) (inventory : Inventory) (r : Assignment)
  {gateway gateway' : Gateway} {page page' : CounterPage} {c c' : Counters}

/-- Higher counters turn no pass into a failure. -/
theorem counted?_raised (seen : List Request)
    (alike : ∀ seen q, q.method = "POST" → gateway seen q = gateway' seen q)
    (hpage : (counterBasis setup options gateway seen r).page = .ok page)
    (hpage' : (counterBasis setup options gateway' seen r).page = .ok page')
    (first : page.FirstAnthropic c) (first' : page'.FirstAnthropic c')
    (total : c.total ≤ c'.total) (passthrough : c.passthrough ≤ c'.passthrough)
    (translated : c.translated ≤ c'.translated)
    (passed : (counted? setup options gateway seen inventory r).map Record.status = some .pass) :
    (counted? setup options gateway' seen inventory r).map Record.status =
      if c'.fallbackSum < Decimal.word64 then some .pass else none := by
  obtain ⟨shown, hshown, hcounted⟩ := counted?_eq setup options gateway seen inventory r
  obtain ⟨shown', hshown', hcounted'⟩ := counted?_eq setup options gateway' seen inventory r
  -- The same is asked and answered about backends, so the same modes are shown.
  have hlog := log_counterBasis_congr setup options gateway seen alike r
  have hsame : shown = shown' := hshown.eq_of_perm hshown' (List.Perm.of_eq hlog)
  rw [hcounted, hpage] at passed
  rw [hcounted', hpage', ← hsame]
  obtain ⟨record, hrecord, hpass⟩ := Option.map_eq_some_iff.mp passed
  have hrule := countersRule_of_shows hshown hrecord
  have hcovered := (hrule.named page c rfl first).2.mp hpass
  have hoverflow := overflowing_iff_of_first first'
  split
  · next hfits =>
    have hnot : ¬Overflowing (.ok page') := fun h => Nat.not_lt.mpr (hoverflow.mp h) hfits
    obtain ⟨record', hrecord'⟩ := exists_counterRecord? hnot
    have hrule' := countersRule_of_shows hshown hrecord'
    rw [hrecord', Option.map_some, Option.some_inj]
    refine (hrule'.named page' c' rfl first').2.mpr fun hlacking => hcovered ?_
    exact hlacking.of_le total passthrough translated
  · next hlost =>
    rw [counterRecord?_eq_none_iff.mpr (hoverflow.mpr (Nat.not_lt.mp hlost)), Option.map_none]

end Raised

/-! ### The order of backends -/

section Order

variable (setup : Setup) (options : ModeOptions) {r r' : Assignment}

/-- The record depends on what was exchanged, not on the order. -/
theorem counted?_of_perm {gateway gateway' : Gateway} {seen seen' : List Request}
    (inventory inventory' : Inventory)
    (perm : (counterBasis setup options gateway seen r).log.Perm
      (counterBasis setup options gateway' seen' r').log)
    (page : (counterBasis setup options gateway seen r).page =
      (counterBasis setup options gateway' seen' r').page) :
    counted? setup options gateway seen inventory r =
      counted? setup options gateway' seen' inventory' r' := by
  obtain ⟨shown, hshown, hcounted⟩ := counted?_eq setup options gateway seen inventory r
  obtain ⟨shown', hshown', hcounted'⟩ := counted?_eq setup options gateway' seen' inventory' r'
  rw [hcounted, hcounted', hshown.eq_of_perm hshown' perm, page]

/-- Where each request is answered by itself, backends in another order exchange the same, in
another order. -/
theorem counted?_reordered (answer : Request → Answer) (seen seen' : List Request)
    (inventory inventory' : Inventory) (perm : r.backends.Perm r'.backends) :
    counted? setup options (.steady answer) seen inventory r =
      counted? setup options (.steady answer) seen' inventory' r' := by
  refine counted?_of_perm setup options inventory inventory' ?_ ?_
  · rw [counterBasis, counterBasis]
    dsimp only
    rw [Session.exchanges_mapM_steady, Session.exchanges_mapM_steady]
    exact perm.flatMap_right _
  · rw [counterBasis, counterBasis]
    dsimp only
    rw [modePage, modePage, countersPage_steady, countersPage_steady]

end Order

/-- **What decides the record of the counters.** A run that has its lists ends with the record of
the gateway's counters, unless these cannot be added up, and the rule decides it: by the modes that
successful responses to requests for messages showed while the backends were checked, and by the
page of counters read afterwards. Where only pages differ, a page with higher counters turns no pass
into a failure, as long as its fallbacks can be added up. Exchanges in another order lead to the
same record, and so do backends in another order where each request is answered by itself. -/
theorem counterRecord_decided (setup : Setup) (options : ModeOptions) :
    (∀ (gateway : Gateway) (seen : List Request),
      let health := setup.client.askHealth.run gateway seen
      let endpoints := (setup.client.getPage Route.endpointList).run gateway health.2
      let models := (setup.client.getPage options.source.route).run gateway endpoints.2
      let result := ((modeRun setup options).run gateway seen).1
      health.1.IsWell → ∀ inventory : Inventory,
      inventory.IsListed options.source endpoints.1 models.1 →
      let basis := counterBasis setup options gateway models.2
        (assign inventory.endpoints inventory.models setup.settings.modes options.assign)
      (Overflowing basis.page → result = .error .overflow) ∧
      (¬Overflowing basis.page → ∃ out counted, result = .ok out ∧
        out.report.records.getLast? = some counted ∧
        counted.name = "stats/translator-counters" ∧
        CountersRule (setup.client.Showed basis.log (· = some "passthrough"))
          (setup.client.Showed basis.log (· ≠ some "passthrough")) basis.page counted.status)) ∧
    (∀ (inventory : Inventory) (r : Assignment) (gateway gateway' : Gateway) (seen : List Request)
      (page page' : CounterPage) (c c' : Counters),
      (∀ seen q, q.method = "POST" → gateway seen q = gateway' seen q) →
      (counterBasis setup options gateway seen r).page = .ok page →
      (counterBasis setup options gateway' seen r).page = .ok page' →
      page.FirstAnthropic c → page'.FirstAnthropic c' →
      c.total ≤ c'.total → c.passthrough ≤ c'.passthrough → c.translated ≤ c'.translated →
      (counted? setup options gateway seen inventory r).map Record.status = some .pass →
      (counted? setup options gateway' seen inventory r).map Record.status =
        if c'.fallbackSum < Decimal.word64 then some .pass else none) ∧
    (∀ (inventory inventory' : Inventory) (r r' : Assignment) (gateway gateway' : Gateway)
      (seen seen' : List Request),
      (counterBasis setup options gateway seen r).log.Perm
        (counterBasis setup options gateway' seen' r').log →
      (counterBasis setup options gateway seen r).page =
        (counterBasis setup options gateway' seen' r').page →
      counted? setup options gateway seen inventory r =
        counted? setup options gateway' seen' inventory' r') ∧
    (∀ (answer : Request → Answer) (inventory inventory' : Inventory) (r r' : Assignment)
      (seen seen' : List Request), r.backends.Perm r'.backends →
      counted? setup options (.steady answer) seen inventory r =
        counted? setup options (.steady answer) seen' inventory' r') := by
  refine ⟨fun gateway seen => ?_, ?_, ?_, ?_⟩
  · intro health endpoints models result well inventory listed basis
    obtain ⟨-, -, hrun⟩ := setup.surveyed_cases options.source options.assign
      (checkBackends setup options) gateway seen
    have hresult : result = unlessOverflow _ := hrun well inventory listed
    have hcases := unlessOverflow_cases (checkBackends_eq_none_iff setup options gateway models.2
      inventory (assign inventory.endpoints inventory.models setup.settings.modes options.assign))
    rw [← hresult, ← page_counterBasis] at hcases
    refine ⟨hcases.1, fun hfits => ?_⟩
    obtain ⟨out, hout, hok⟩ := hcases.2 hfits
    obtain ⟨counted, hcounted⟩ := counted_of_fits setup options gateway models.2 hfits hout
    exact ⟨out, counted, hok, hcounted⟩
  · intro inventory r gateway gateway' seen page page' c c' alike hpage hpage' first first' total
      passthrough translated passed
    exact counted?_raised setup options inventory r seen alike hpage hpage' first first' total
      passthrough translated passed
  · intro inventory inventory' r r' gateway gateway' seen seen' perm page
    exact counted?_of_perm setup options inventory inventory' perm page
  · intro answer inventory inventory' r r' seen seen' perm
    exact counted?_reordered setup options answer seen seen' inventory inventory' perm

/-- Where one of each was counted the rule is met, whatever else the responses hold. -/
theorem counterRecord_decided_counting :
    ∃ out counted,
      ((modeRun ⟨{}⟩ {}).run (.steady (countingAnswer countingPage)) []).1 = .ok out ∧
      out.report.records.getLast? = some counted ∧ counted.name = "stats/translator-counters" ∧
      counted.status = .pass := by
  obtain ⟨well, listed⟩ := counting_listed List.mem_cons_self .status
  have hcounts : ((givenPage ⟨{}⟩ (countingAnswer countingPage)).toOption.bind
      CounterPage.anthropic?).map (fun c => (c.total, c.passthrough, c.translated)) =
        some (1, 1, 1) := by
    decide +kernel
  obtain ⟨c, hc, hcounted⟩ := Option.map_eq_some_iff.mp hcounts
  obtain ⟨page, hpage, hfirst⟩ := Option.bind_eq_some_iff.mp hc
  obtain ⟨-, hdecided⟩ := (counterRecord_decided ⟨{}⟩ {}).1 _ [] well countingInventory listed
  rw [counterBasis, modePage, countersPage_steady] at hdecided
  obtain ⟨out, counted, hrun, hlast, hname, hrule⟩ := hdecided counting_fits
  refine ⟨out, counted, hrun, hlast, hname, ?_⟩
  have hread : givenPage ⟨{}⟩ (countingAnswer countingPage) = .ok page := by
    cases hgiven : givenPage ⟨{}⟩ (countingAnswer countingPage) with
    | error e => rw [hgiven] at hpage; cases hpage
    | ok read => rw [hgiven] at hpage; exact congrArg Except.ok (Option.some.inj hpage)
  refine (hrule.named page c hread (anthropic?_eq_some_iff.mp hfirst)).2.mpr ?_
  obtain ⟨htotal, hrest⟩ := Prod.mk.inj hcounted
  obtain ⟨hpassthrough, htranslated⟩ := Prod.mk.inj hrest
  simp [Counters.Lacking, htotal, hpassthrough, htranslated]

end GatewayProbe
