/-
What the records of a run quote.

Names and details of records are put together of wordings, numbers and headers, which are one line
each, and of texts that the gateway says. This is found part by part, from the lists to the checks
of all backends:

* `Record.Quoting`, `Record.QuotesOnly` — what a record is put together of;
* `Inventory.SaysOnly`, `surveyed_hears` — the lists, and what follows them;
* `Finding.QuotesOnly`, `judgeMessage_told`, `judgeStream_told` — the checks of one reply;
* `checkBackends_hears` — the records of all backends.
-/
import GatewayProbe.Proofs.Exchange.Hearing
import GatewayProbe.Proofs.Plan.Agreement
import GatewayProbe.Run.Detection
import GatewayProbe.Run.Stories
import GatewayProbe.Run.Surface

namespace GatewayProbe

variable {T : String → Prop}

/-- The name of the record is put together of one-line texts and of texts of one kind, and its
detail of one-line texts and of texts of another kind. -/
structure Record.Quoting (N T : String → Prop) (r : Record) : Prop where
  name : Quotes N r.name
  detail : Quotes T r.detail

theorem Record.Quoting.mono {N M T : String → Prop} {r : Record} (h : r.Quoting N T)
    (hM : ∀ text, N text → M text) : r.Quoting M T :=
  ⟨h.name.mono hM, h.detail⟩

/-- Name and detail of the record are put together of one-line texts and of texts of a kind. -/
abbrev Record.QuotesOnly (T : String → Prop) (r : Record) : Prop := r.Quoting T T

/-! ### Lists and plans -/

/-- All names and types of endpoints and all ids are texts of a kind. -/
structure Inventory.SaysOnly (T : String → Prop) (s : Inventory) : Prop where
  name : ∀ e ∈ s.endpoints, T e.name
  type : ∀ e ∈ s.endpoints, T e.type
  id : ∀ m ∈ s.models, T m.id

/-- Name and type of the plan are texts of a kind. -/
structure Plan.SaysOnly (T : String → Prop) (p : Plan) : Prop where
  name : T p.name
  type : T p.type

theorem Inventory.SaysOnly.plans {s : Inventory} (h : s.SaysOnly T) {modes : ModeTables}
    {options : AssignOptions} :
    ∀ plan ∈ (assign s.endpoints s.models modes options).backends, plan.SaysOnly T := by
  intro plan hplan
  obtain ⟨e, he, _, _, rfl, -⟩ := exists_make_of_mem_planFrom hplan
  exact ⟨h.name e he, h.type e he⟩

namespace Client

variable (c : Client)

theorem fetchList_hears {α : Type} (list path : String)
    (parse : String → Except GatewayError α) :
    (fetchList c list path parse).Hears T fun found =>
      ∀ value, found = .ok value → ∃ body, PageSaysOnly T body ∧ parse body = .ok value := by
  refine (c.getPage_hears path).bind fun page hpage => .pure fun value hvalue => ?_
  cases page with
  | error e => cases hvalue
  | ok body =>
    refine ⟨body, hpage, ?_⟩
    cases hparse : parse body with
    | error e =>
      rw [show Except.bind (.ok body) parse = parse body from rfl, hparse] at hvalue
      cases hvalue
    | ok read =>
      rw [show Except.bind (.ok body) parse = parse body from rfl, hparse] at hvalue
      cases hvalue
      rfl

theorem askFormat_hears (format : String) :
    (askFormat c format).Hears T fun found =>
      ∀ models, found = .ok models → ∀ m ∈ models, T m.id := by
  refine (c.getPage_hears _).bind fun page hpage => .pure fun models hmodels m hm => ?_
  cases page with
  | error e => cases hmodels
  | ok body =>
    have hread : parseModels .unified body = .ok models := hmodels
    exact hpage _ (.model hread hm)

theorem askInventory_hears (source : ListSource) :
    (askInventory c source).Hears T fun found =>
      ∀ inventory, found = .ok inventory → inventory.SaysOnly T := by
  refine (c.fetchList_hears _ _ _).bind fun endpoints hendpoints => ?_
  split
  · exact .pure fun inventory h => by cases h
  · exact .pure fun inventory h => by cases h
  · next listed _ =>
    obtain ⟨page, hpage, hread⟩ := hendpoints listed rfl
    refine (c.fetchList_hears _ _ _).bind fun models hmodels => ?_
    split
    · exact .pure fun inventory h => by cases h
    · exact .pure fun inventory h => by cases h
    · next known _ =>
      obtain ⟨body, hbody, hknown⟩ := hmodels known rfl
      refine .pure fun inventory h => ?_
      cases h
      exact ⟨fun e he => hpage _ (.endpointName hread he),
        fun e he => hpage _ (.endpointType hread he), fun m hm => hbody _ (.model hknown hm)⟩

theorem requireHealth_hears : c.requireHealth.Hears T fun _ => True := by
  refine (c.sendWithin_hears _ _ _ _ _).bind fun answer _ => ?_
  cases answer <;> exact .pure trivial

end Client

section Runs

variable (setup : Setup)

/-- What follows the lists goes on with what was said in them. -/
theorem surveyed_hears {α : Type} {P : α → Prop} {source : ListSource} {options : AssignOptions}
    {rest : Inventory → Assignment → Session (Option α)}
    (hrest : ∀ inventory : Inventory, inventory.SaysOnly T →
      (rest inventory (assign inventory.endpoints inventory.models setup.settings.modes
        options)).Hears T fun found => ∀ value ∈ found, P value) :
    (setup.surveyed source options rest).Hears T fun found =>
      ∀ value, found = .ok value → P value := by
  refine setup.client.requireHealth_hears.bind fun health _ => ?_
  cases health with
  | error e => exact .pure fun value h => by cases h
  | ok _ =>
    dsimp only
    rw [Setup.survey, bind_assoc]
    refine (setup.client.askInventory_hears source).bind fun found hfound => ?_
    cases found with
    | error e => exact .pure fun value h => by cases h
    | ok inventory =>
      refine (hrest inventory (hfound inventory rfl)).bind fun found hvalues => .pure ?_
      cases found with
      | none => exact fun value h => by cases h
      | some value =>
        rintro _ ⟨⟩
        exact hvalues value rfl

end Runs

/-! ### The checks of one reply -/

/-- All notes are put together of one-line texts and of texts of a kind. -/
def Finding.QuotesOnly (T : String → Prop) (v : Finding) : Prop := ∀ note ∈ v.notes, Quotes T note

namespace Finding

variable {v w : Finding} {text : String}

theorem quotes_pass : Finding.pass.QuotesOnly T := fun _ h => absurd h List.not_mem_nil

theorem quotes_fail (h : Quotes T text) : (Finding.fail text).QuotesOnly T :=
  List.forall_mem_singleton.mpr h

theorem quotes_skip (h : Quotes T text) : (Finding.skip text).QuotesOnly T :=
  List.forall_mem_singleton.mpr h

namespace QuotesOnly

theorem detail (h : v.QuotesOnly T) : Quotes T v.detail := .intercalate (by decide) h

theorem note (h : v.QuotesOnly T) (htext : Quotes T text) : (v.note text).QuotesOnly T :=
  List.forall_mem_append.mpr ⟨h, List.forall_mem_singleton.mpr htext⟩

theorem noteIf (h : v.QuotesOnly T) (condition : Bool) (htext : Quotes T text) :
    (v.noteIf condition text).QuotesOnly T := by
  rw [Finding.noteIf]
  split
  · exact h.note htext
  · exact h

theorem addFault (h : v.QuotesOnly T) (htext : Quotes T text) : (v.addFault text).QuotesOnly T :=
  List.forall_mem_append.mpr ⟨h, List.forall_mem_singleton.mpr htext⟩

theorem failIf (h : v.QuotesOnly T) (condition : Bool) (htext : Quotes T text) :
    (v.failIf condition text).QuotesOnly T := by
  rw [Finding.failIf]
  split
  · exact h.addFault htext
  · exact h

theorem and (h : v.QuotesOnly T) (hw : w.QuotesOnly T) : (v.and w).QuotesOnly T :=
  List.forall_mem_append.mpr ⟨h, hw⟩

end QuotesOnly
end Finding

/-- What is read of the headers is one line each. -/
structure Head.IsPlain (h : Head) : Prop where
  mode : ∀ s, h.mode = some s → OneLine s
  endpoint : ∀ s, h.endpoint = some s → OneLine s
  backendType : ∀ s, h.backendType = some s → OneLine s
  requestId : ∀ s, h.requestId = some s → OneLine s
  responseTime : ∀ s, h.responseTime = some s → OneLine s
  contentType : ∀ s, h.contentType = some s → OneLine s

theorem Reply.isPlain_head (r : Reply) : r.head.IsPlain where
  mode _ h := Headers.oneLine_value? h
  endpoint _ h := Headers.oneLine_value? h
  backendType _ h := Headers.oneLine_value? h
  requestId _ h := Headers.oneLine_value? h
  responseTime _ h := Headers.oneLine_value? h
  contentType _ h := Headers.oneLine_value? h

theorem oneLine_getD {s : Option String} {default : String} (h : ∀ t, s = some t → OneLine t)
    (hdefault : OneLine default) : OneLine (s.getD default) := by
  cases s with
  | none => exact hdefault
  | some t => exact h t rfl

namespace Finding

variable {expected : Mode} {head : Head}

theorem ofMode_quotes (plain : head.IsPlain) : (ofMode expected head).QuotesOnly T := by
  rw [ofMode.eq_def]
  split
  · split
    · exact quotes_pass
    · refine quotes_fail (.plain ?_)
      simp only [oneLine_append]
      exact ⟨⟨by decide, oneLine_getD plain.mode (by decide)⟩, by decide⟩
  · split
    · exact quotes_fail (.plain (by decide))
    · exact quotes_pass
  · exact quotes_skip (.plain (by decide))

/-- A field of a message is quoted where it holds another text than it should. -/
theorem requireField_quotes {body : Json} {v : Finding} (hv : v.QuotesOnly T)
    (name wanted : String) (hname : OneLine name) (hwanted : OneLine wanted)
    (hT : ∀ s, body.get? name = some (.text s) → T s) :
    (requireField body name wanted v).QuotesOnly T := by
  refine hv.failIf _ ?_
  have hfront : Quotes T ("field '" ++ name ++ "' is ") :=
    .plain (oneLine_append.mpr ⟨oneLine_append.mpr ⟨by decide, hname⟩, by decide⟩)
  have hback : Quotes T wanted := .plain hwanted
  refine .append (.append (.append (.append hfront ?_) (.plain (by decide))) hback)
    (.plain (by decide))
  split
  · next s hs =>
    have hheld := Json.bind_asText?_eq_some_iff.mp hs
    exact .append (.append (.plain (by decide)) (.quoted (hT s hheld))) (.plain (by decide))
  · exact .plain (by decide)

theorem ofMessage_quotes {text : String} {body : Json} (hT : PageSaysOnly T text)
    (read : Json.parse? text = some body) : (ofMessage body).QuotesOnly T := by
  have htype : (requireField body "type" "message" .pass).QuotesOnly T :=
    requireField_quotes quotes_pass _ _ (by decide) (by decide) fun s hs => hT s (.type read hs)
  have hrole := requireField_quotes htype "role" "assistant" (by decide) (by decide) fun s hs =>
    hT s (.role read hs)
  refine QuotesOnly.noteIf ?_ _ (.plain (by decide))
  rw [requireContent]
  split
  · exact hrole.noteIf _ (.plain (by decide))
  · exact hrole.addFault (.plain (by decide))
  · exact hrole.addFault (.plain (by decide))

/-- Event types of a list are one line, whichever of them are missing. -/
theorem quotes_events {wanted missing : List String} (h : ∀ e ∈ wanted, OneLine e)
    (hmissing : ∀ e ∈ missing, e ∈ wanted) : Quotes T (", ".intercalate missing) :=
  .intercalate (by decide) fun e he => .plain (h e (hmissing e he))

theorem ofEvents_quotes {capture : Capture} : (ofEvents expected capture).QuotesOnly T := by
  rw [ofEvents]
  split
  · exact quotes_fail (.plain (by decide))
  · split
    · exact quotes_fail (.plain (by decide))
    · have hmissing : Quotes T (", ".intercalate (absentEvents capture.markers neededEvents)) :=
        quotes_events (by decide) fun e he => List.mem_of_mem_filter he
      have habsent : Quotes T (", ".intercalate ((absentEvents capture.markers usualEvents).filter
          fun event => !neededEvents.contains event)) :=
        quotes_events (by decide) fun e he => List.mem_of_mem_filter (List.mem_of_mem_filter he)
      exact (quotes_pass.failIf _ (.append (.plain (by decide)) hmissing)).noteIf _
        (.append (.plain (by decide)) habsent)

/-- The shape of a body quotes its two fields; a stream and the headers are not quoted. -/
theorem ofBody_quotes (plain : head.IsPlain) {body : ReadBody}
    (hbody : ∀ value, body = .message value → (ofMessage value).QuotesOnly T) :
    (ofBody expected head body).QuotesOnly T := by
  cases body with
  | message value => exact hbody value rfl
  | stream capture =>
    refine QuotesOnly.and (quotes_pass.failIf _ (.plain ?_)) ofEvents_quotes
    simp only [oneLine_append]
    exact ⟨⟨by decide, oneLine_getD plain.contentType (by decide)⟩, by decide⟩

theorem ofResponse_quotes (plain : head.IsPlain) {body : ReadBody}
    (hbody : ∀ value, body = .message value → (ofMessage value).QuotesOnly T) :
    (ofResponse expected head body).QuotesOnly T := by
  rw [ofResponse]
  split
  · exact ofMode_quotes plain
  · split
    · exact quotes_fail (.plain (oneLine_status _))
    · exact (ofMode_quotes plain).and (ofBody_quotes plain hbody)

end Finding

/-- Notes on who answered quote the name and the type of the plan. -/
theorem routingNotes_quotes {plan : Plan} {head : Head} (hplan : plan.SaysOnly T)
    (plain : head.IsPlain) : ∀ note ∈ routingNotes plan head, Quotes T note := by
  intro note hnote
  simp only [routingNotes, List.mem_append, Option.mem_toList,
    Option.map_eq_some_iff, Option.filter_eq_some_iff] at hnote
  rcases hnote with (⟨endpoint, ⟨hendpoint, -⟩, rfl⟩ | ⟨type, ⟨htype, -⟩, rfl⟩) | hguess
  · have hshown : Quotes T ("routed to " ++ endpoint) :=
      .plain (oneLine_append.mpr ⟨by decide, plain.endpoint _ hendpoint⟩)
    exact .append (.append (.append hshown (.plain (by decide))) (.quoted hplan.name))
      (.plain (by decide))
  · have hshown : Quotes T ("backend-type=" ++ type) :=
      .plain (oneLine_append.mpr ⟨by decide, plain.backendType _ htype⟩)
    exact .append (.append (.append hshown (.plain (by decide))) (.quoted hplan.type))
      (.plain (by decide))
  · split at hguess
    · rw [List.mem_singleton.mp hguess]
      exact .plain (by decide)
    · cases hguess

theorem Finding.QuotesOnly.withAdvice {v : Finding} (h : v.QuotesOnly T) {plan : Plan}
    {head : Head} (hplan : plan.SaysOnly T) (plain : head.IsPlain) :
    (v.withAdvice plan head).QuotesOnly T :=
  List.forall_mem_append.mpr ⟨h, routingNotes_quotes hplan plain⟩

/-- A body that cannot be read line by line gives an error of a fixed wording. -/
theorem Reply.capture_told (r : Reply) (budget : Nat) (dialect : Dialect) :
    Outcome.Told T (fun _ => True) (r.capture budget dialect) := by
  rw [capture]
  cases captureFault dialect r with
  | ok capture => exact trivial
  | error fault =>
    cases fault with
    | notText => exact quotes_invalidResponse (by decide)
    | timedOut => exact quotes_timeout budget
    | other => exact quotes_network (by decide)

section Judged

variable {plan : Plan} {reply : Reply} (hplan : plan.SaysOnly T) (budget : Nat)
include hplan

theorem judgeStream_told :
    Outcome.Told T (Finding.QuotesOnly T) (judgeStream budget plan reply) := by
  have plain := reply.isPlain_head
  have hcapture := reply.capture_told (T := T) budget .anthropic
  rw [judgeStream]
  dsimp only
  split
  · exact Finding.quotes_fail (.plain (oneLine_status _))
  · split
    · refine Finding.QuotesOnly.withAdvice (.noteIf (Finding.ofResponse_quotes plain ?_) _ ?_)
        hplan plain
      · rintro _ ⟨⟩
      · exact .plain (oneLine_append.mpr ⟨oneLine_repr _, by decide⟩)
    · next e he => exact hcapture.of_error he

theorem judgeMessage_told (hreply : reply.SaysOnly T) :
    Outcome.Told T (Finding.QuotesOnly T) (judgeMessage budget plan reply) := by
  have plain := reply.isPlain_head
  have hjson := Reply.json_told (T := T) reply budget
  rw [judgeMessage]
  split
  · exact Finding.quotes_fail (.plain (oneLine_status _))
  · split
    · next body hbody =>
      refine Finding.QuotesOnly.withAdvice (Finding.ofResponse_quotes plain ?_) hplan plain
      rintro _ ⟨⟩
      exact Finding.ofMessage_quotes (fun s hs => hreply s (.page hs)) (hjson.of_ok hbody)
    · exact (Finding.ofMode_quotes plain).and (Finding.quotes_fail (.plain (by decide)))
    · next e _ he => exact hjson.of_error he

end Judged

theorem recordOf_quotes {judged : Outcome Finding} {name : String} (hname : Quotes T name)
    (h : Outcome.Told T (Finding.QuotesOnly T) judged) : (recordOf name judged).QuotesOnly T := by
  cases judged with
  | ok v => exact ⟨hname, Finding.QuotesOnly.detail h⟩
  | error e => exact ⟨hname, h⟩

/-! ### All backends -/

section Backends

variable (setup : Setup) {plan : Plan} (hplan : plan.SaysOnly T)

section Checks
include hplan

theorem askMessage_hears (model : String) (stream : Bool) :
    (askMessage setup plan model stream).Hears T fun out =>
      Outcome.Told T (Finding.QuotesOnly T) out.1 := by
  refine (setup.client.postKeyed_hears _ _).bind fun reply hreply => ?_
  cases reply with
  | error e => exact .pure hreply
  | ok reply =>
    refine .pure ?_
    dsimp only
    split
    · exact judgeStream_told hplan _
    · exact judgeMessage_told hplan _ hreply

theorem checkWhole_hears (model : String) {name : String} (hname : Quotes T name) :
    (checkWhole setup plan model name).Hears T fun out => out.1.QuotesOnly T :=
  (askMessage_hears setup hplan model false).bind fun _ h => .pure (recordOf_quotes hname h)

theorem checkStreamed_hears (model : String) {name : String} (hname : Quotes T name) :
    (checkStreamed setup plan model name).Hears T fun out => out.1.QuotesOnly T :=
  (askMessage_hears setup hplan model true).bind fun _ h => .pure (recordOf_quotes hname h)

theorem Plan.SaysOnly.named (suffix : String) (hsuffix : OneLine suffix) :
    Quotes T (plan.name ++ suffix) :=
  .append (.quoted hplan.name) (.plain hsuffix)

theorem judgeBaseline_quotes {name : String} (hname : Quotes T name) (reply : Reply) :
    (judgeBaseline plan name reply).QuotesOnly T := by
  refine ⟨hname, .intercalate (by decide) (List.forall_mem_append.mpr ⟨?_, ?_⟩)⟩
  · split
    · exact fun s hs => absurd hs List.not_mem_nil
    · exact List.forall_mem_singleton.mpr (.plain (oneLine_status _))
  · intro note hnote
    obtain ⟨endpoint, hendpoint, rfl⟩ := Option.map_eq_some_iff.mp (Option.mem_toList.mp hnote)
    have hheader := (Option.filter_eq_some_iff.mp hendpoint).1
    have hshown : Quotes T ("routed to " ++ endpoint) :=
      .plain (oneLine_append.mpr ⟨by decide, reply.isPlain_head.endpoint _ hheader⟩)
    exact .append (.append (.append hshown (.plain (by decide))) (.quoted hplan.name))
      (.plain (by decide))

theorem checkBaseline_hears (model : String) :
    (checkBaseline setup plan model).Hears T (Record.QuotesOnly T) := by
  have hname := hplan.named "/openai-baseline" (by decide)
  refine (setup.client.post_hears _ _).bind fun reply hreply => ?_
  cases reply with
  | error e => exact .pure ⟨hname, hreply⟩
  | ok reply => exact .pure (judgeBaseline_quotes hplan hname reply)

/-- A backend that is left out quotes its type. -/
theorem testModel_quotes {reason : String} (h : plan.testModel = .error reason) :
    Quotes T reason := by
  rw [Plan.testModel] at h
  split at h
  · cases h
    exact .plain (by decide)
  · split at h
    · cases h
    · cases h
      exact .append (.append (.plain (by decide)) (.quoted hplan.type)) (.plain (by decide))

theorem checkBackend_hears (skipStreaming : Bool) :
    (checkBackend setup skipStreaming plan).Hears T fun result =>
      ∀ r ∈ result.records, r.QuotesOnly T := by
  have hwhole := hplan.named "/anthropic-nonstream" (by decide)
  have hstream := hplan.named "/anthropic-stream" (by decide)
  rw [checkBackend]
  cases htest : plan.testModel with
  | error reason =>
    exact .pure (List.forall_mem_singleton.mpr ⟨hwhole, testModel_quotes hplan htest⟩)
  | ok model =>
    refine (checkWhole_hears setup hplan model hwhole).bind fun whole h₁ => ?_
    cases skipStreaming with
    | true =>
      refine (checkBaseline_hears setup hplan model).bind fun baseline h₂ => .pure ?_
      exact List.forall_mem_cons.mpr ⟨h₁, List.forall_mem_singleton.mpr h₂⟩
    | false =>
      refine (checkStreamed_hears setup hplan model hstream).bind fun streamed h₂ => ?_
      refine (checkBaseline_hears setup hplan model).bind fun baseline h₃ => .pure ?_
      exact List.forall_mem_cons.mpr ⟨h₁, List.forall_mem_cons.mpr
        ⟨h₂, List.forall_mem_singleton.mpr h₃⟩⟩

end Checks

theorem judgeByStatus_hears {name : String} (hname : Quotes T name) (body : Json)
    (accept : Nat → Bool) :
    (judgeByStatus setup name body accept).Hears T (Record.QuotesOnly T) := by
  refine (setup.client.postKeyed_hears _ _).bind fun reply hreply => ?_
  cases reply with
  | error e => exact .pure ⟨hname, hreply⟩
  | ok reply =>
    refine .pure (recordOf_quotes hname (Finding.QuotesOnly.note ?_ (.plain (oneLine_status _))))
    split
    · exact Finding.quotes_pass
    · exact Finding.quotes_fail (.plain (by decide))

theorem checkEdgeCases_hears {r : Assignment} (hr : ∀ plan ∈ r.backends, plan.SaysOnly T) :
    (checkEdgeCases setup r).Hears T fun records => ∀ record ∈ records, record.QuotesOnly T := by
  have hskipped (name : String) (hname : OneLine name) :
      (⟨name, .skip, "no passthrough backends"⟩ : Record).QuotesOnly T :=
    ⟨.plain hname, .plain (show OneLine "no passthrough backends" by decide)⟩
  refine (judgeByStatus_hears setup (.plain (by decide)) _ _).bind fun missing h₁ => ?_
  split
  · exact .pure (List.forall_mem_cons.mpr ⟨h₁, List.forall_mem_cons.mpr
      ⟨hskipped _ (by decide), List.forall_mem_singleton.mpr (hskipped _ (by decide))⟩⟩)
  · next plan hedge =>
    -- The edge cases are named after the backend that they are checked on.
    have hplan := hr plan (List.mem_of_mem_filter (List.mem_of_find?_eq_some hedge))
    have hname (front : String) (hfront : OneLine front) :
        Quotes T (front ++ plan.name ++ ")") :=
      .append (.append (.plain hfront) (.quoted hplan.name)) (.plain (by decide))
    split
    · exact .pure (List.forall_mem_singleton.mpr h₁)
    · refine (judgeByStatus_hears setup (hname _ (by decide)) _ _).bind fun system h₂ => ?_
      refine (judgeByStatus_hears setup (hname _ (by decide)) _ _).bind fun turns h₃ => .pure ?_
      exact List.forall_mem_cons.mpr ⟨h₁, List.forall_mem_cons.mpr
        ⟨h₂, List.forall_mem_singleton.mpr h₃⟩⟩

theorem oneLine_fallbackNote (c : Counters) : OneLine c.fallbackNote := by
  unfold Counters.fallbackNote
  simp only [oneLine_append]
  exact ⟨⟨⟨⟨by decide, oneLine_repr _⟩, by decide⟩, oneLine_repr _⟩, ⟨by decide, oneLine_repr _⟩⟩

theorem compare_quotes (c : Counters) (sawPassthrough sawTranslated : Bool) :
    (c.compare sawPassthrough sawTranslated).QuotesOnly T := by
  rw [Counters.compare]
  exact ((Finding.quotes_pass.failIf _ (.plain (by decide))).failIf _
    (.plain (by decide))).failIf _ (.plain (by decide))

/-- Of a page only counts are shown. -/
theorem ofCounters?_quotes (page : CounterPage) (sawPassthrough sawTranslated : Bool) :
    ∀ v ∈ Finding.ofCounters? page sawPassthrough sawTranslated, v.QuotesOnly T := by
  intro v hv
  rw [Finding.ofCounters?] at hv
  cases hfirst : page.anthropic? with
  | none =>
    rw [hfirst] at hv
    cases hv
    split
    · exact Finding.quotes_fail (.plain (by decide))
    · exact Finding.quotes_skip (.plain (by decide))
  | some c =>
    rw [hfirst] at hv
    obtain ⟨fallbacks, -, rfl⟩ := Option.map_eq_some_iff.mp hv
    exact (compare_quotes c _ _).noteIf _ (.plain (oneLine_fallbackNote c))

theorem checkCounters_hears (observed : ShownModes) {name : String} (hname : OneLine name) :
    (checkCounters setup observed name).Hears T fun found =>
      ∀ out ∈ found, out.1.QuotesOnly T := by
  refine (setup.client.getPage_hears _).bind fun page hpage => .pure fun out hout => ?_
  obtain ⟨record, hrecord, rfl⟩ := Option.map_eq_some_iff.mp hout
  have hfailed {e : GatewayError} (he : Quotes T e.message) :
      (⟨name, .skip, "could not fetch translator stats: " ++ e.message⟩ : Record).QuotesOnly T :=
    ⟨.plain hname, .append (.plain (by decide)) he⟩
  cases page with
  | error e =>
    cases hrecord
    exact hfailed hpage
  | ok body =>
    have hread : (Except.ok body : Outcome String).bind readCounters = readCounters body := rfl
    rw [hread, readCounters] at hrecord
    cases hparse : CounterPage.parse? body with
    | none =>
      rw [hparse] at hrecord
      cases hrecord
      exact hfailed (quotes_invalidResponse (by decide))
    | some page =>
      rw [hparse] at hrecord
      obtain ⟨v, hv, rfl⟩ := Option.map_eq_some_iff.mp hrecord
      exact ⟨.plain hname, (ofCounters?_quotes page _ _ v hv).detail⟩

theorem checkBackends_hears (options : ModeOptions) (inventory : Inventory) {r : Assignment}
    (hr : ∀ plan ∈ r.backends, plan.SaysOnly T) :
    (checkBackends setup options inventory r).Hears T fun found =>
      ∀ outcome ∈ found, ∀ record ∈ outcome.report.records, record.QuotesOnly T := by
  refine (Session.Hears.mapM fun plan hplan =>
    checkBackend_hears setup (hr plan hplan) options.skipStreaming).bind fun results h₁ => ?_
  refine (Session.Hears.skippable (checkEdgeCases_hears setup hr)).bind fun edges h₂ => ?_
  refine (checkCounters_hears setup _ (by decide)).bind fun found h₃ => .pure fun outcome hout => ?_
  obtain ⟨counted, hcounted, rfl⟩ := Option.map_eq_some_iff.mp hout
  refine List.forall_mem_append.mpr ⟨List.forall_mem_append.mpr ⟨fun record hrecord => ?_, h₂⟩,
    List.forall_mem_singleton.mpr (h₃ counted hcounted)⟩
  obtain ⟨result, hresult, hrecord⟩ := List.mem_flatMap.mp hrecord
  exact h₁ result hresult record hrecord

end Backends

end GatewayProbe
