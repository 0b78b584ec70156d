/-
Models for embeddings are invisible to a run for generated text.

They are left out before anything is joined, so the plans are those for the lists without them,
draws included. And the models that a run names in its requests come from the plans, from the ids of
models that can chat, or are not served by anyone:

* `bonds_eq_erased` — the bonds are those of the other models;
* `Request.Names`, `names_iff` — the model in the body of a request;
* `Assignment.SelectsOnly`, `selects_generative` — the models that represent backends;
* `checkBackends_names`, `surfacePhases_names` — the models named by what follows the lists;
* `embeddings_invisible` — plans and requests know nothing of models for embeddings.
-/
import GatewayProbe.Proofs.Json.Objects
import GatewayProbe.Proofs.Plan.Agreement
import GatewayProbe.Proofs.Plan.Draws
import GatewayProbe.Proofs.Run.ProviderRequests
import GatewayProbe.Run.Surface

namespace GatewayProbe

instance (id : String) : Decidable (HoldsEmbed id) :=
  decidable_of_iff ((⟨id, [], none⟩ : Model).embeds = true) embeds_iff

theorem embeds_eq (m : Model) : m.embeds = decide (HoldsEmbed m.id) := by
  rw [Bool.eq_iff_iff, decide_eq_true_iff, embeds_iff]

/-! ### Plans -/

section Plans

variable {endpoints : List Endpoint} {models : List Model} {modes : ModeTables}
  {options : AssignOptions}

/-- Leaving models for embeddings out once more changes nothing. -/
theorem bonds_eq_erased (endpoints : List Endpoint) (models : List Model) :
    bonds endpoints (models.filter fun m => ¬HoldsEmbed m.id) = bonds endpoints models := by
  have hagain : (models.filter fun m => ¬HoldsEmbed m.id).filter (fun m => !m.embeds) =
      models.filter fun m => !m.embeds := by
    rw [List.filter_filter]
    exact List.filter_congr fun m _ => by rw [embeds_eq, decide_not, Bool.and_self]
  rw [bonds, bonds, hagain]

theorem not_holdsEmbed_of_mem_bonds {b : Bond} (h : b ∈ bonds endpoints models) :
    ¬HoldsEmbed b.model := by
  obtain ⟨-, m, -, hid, hchat, -⟩ := mem_bonds_iff.mp ⟨b, h, rfl⟩
  rw [← hid, ← embeds_iff, hchat]
  exact Bool.false_ne_true

/-- The model that represents a backend is bound. -/
theorem exists_bond_of_selected {includeEmpty : Bool} {bonds : List Bond} {i : Nat}
    {seen : List String} {selection : Selection} {plan : Plan} {id : String}
    (hplan : plan ∈ planFrom modes includeEmpty bonds i seen selection endpoints)
    (hid : plan.selected = some id) : ∃ b ∈ bonds, b.model = id := by
  obtain ⟨e, -, j, left, rfl, -⟩ := exists_make_of_mem_planFrom hplan
  obtain ⟨b, hb, hmodel⟩ := exists_bond_of_mem_candidates (Selection.mem_of_pick? hid)
  exact ⟨b, List.mem_of_mem_filter hb, hmodel⟩

/-- The models that represent backends are of a kind. -/
def Assignment.SelectsOnly (P : String → Prop) (r : Assignment) : Prop :=
  ∀ plan ∈ r.backends, ∀ id, plan.selected = some id → P id

theorem selects_generative :
    (assign endpoints models modes options).SelectsOnly fun id => ¬HoldsEmbed id := by
  intro plan hplan id hid
  obtain ⟨b, hb, rfl⟩ := exists_bond_of_selected hplan hid
  exact not_holdsEmbed_of_mem_bonds hb

theorem generative_of_mem_generativeIds {inventory : Inventory} {id : String}
    (h : id ∈ inventory.generativeIds) : ¬HoldsEmbed id := by
  obtain ⟨m, hm, rfl⟩ := List.mem_map.mp h
  have hchat := List.of_mem_filter hm
  rw [embeds_eq] at hchat
  simpa using hchat

end Plans

/-! ### The model of a request -/

/-- The body of the request names a model. -/
def Request.Names (q : Request) (id : String) : Prop :=
  ∃ body, Json.parse? q.body = some body ∧ body.get? "model" = some (.text id)

/-- A posted value names the model of its field. -/
theorem names_iff {q : Request} {body : Json} (plain : body.Plain Document.maxDepth)
    (h : q.body = body.compact) {id : String} :
    q.Names id ↔ body.get? "model" = some (.text id) := by
  constructor
  · rintro ⟨other, hread, hmodel⟩
    rw [h, plain.parse?_compact] at hread
    cases hread
    exact hmodel
  · exact fun hmodel => ⟨body, h ▸ plain.parse?_compact, hmodel⟩

/-- All models that the request names are of a kind. -/
def Request.NamesOnly (P : String → Prop) (q : Request) : Prop := ∀ id, q.Names id → P id

/-- A value that is read back as it was sent, and names no model but those of a kind. -/
structure Json.NamesOnly (P : String → Prop) (body : Json) : Prop where
  plain : body.Plain Document.maxDepth
  named : ∀ id, body.get? "model" = some (.text id) → P id

namespace Body

variable {P : String → Prop} {d : Nat}

theorem plain_turn (role content : String) : (turn role content).Plain (d + 1) :=
  Json.plain_ofFields (by simp [Json.plain_text])

theorem namesOnly_of_get? {body : Json} {id : String} (plain : body.Plain Document.maxDepth)
    (h : body.get? "model" = some (.text id)) (hid : P id) : body.NamesOnly P := by
  refine ⟨plain, fun other hother => ?_⟩
  rw [h] at hother
  cases hother
  exact hid

theorem plain_message (model : String) (stream : Bool) (system : Option String)
    {turns : Option (List Json)} (hturns : ∀ t ∈ turns.getD [], t.Plain (d + 1)) :
    (message model stream system turns).Plain (d + 3) := by
  have hshown : ∀ t ∈ turns.getD [user greetingPrompt], t.Plain (d + 1) := by
    cases turns with
    | none => exact List.forall_mem_singleton.mpr (plain_turn _ _)
    | some turns => exact hturns
  refine Json.plain_ofFields fun field hfield => ?_
  simp only [List.mem_append, List.mem_cons, List.not_mem_nil, or_false] at hfield
  rcases hfield with ((rfl | rfl | rfl) | hstream) | hsystem
  · exact Json.plain_text model
  · exact Json.plain_array hshown
  · exact Json.plain_ofNat (by decide)
  · cases stream with
    | false => cases hstream
    | true =>
      obtain rfl := List.mem_singleton.mp hstream
      exact Json.plain_bool true
  · cases system with
    | none => cases hsystem
    | some text =>
      obtain rfl := List.mem_singleton.mp hsystem
      exact Json.plain_text text

theorem get?_message (model : String) (stream : Bool) (system : Option String)
    (turns : Option (List Json)) :
    (message model stream system turns).get? "model" = some (.text model) := by
  refine Json.get?_ofFields fun field hfield => ?_
  cases stream <;> cases system <;> revert field <;> simp

theorem message_namesOnly {model : String} (hmodel : P model) {stream : Bool}
    {system : Option String} {turns : Option (List Json)}
    (hturns : ∀ t ∈ turns.getD [], t.Plain 125) :
    (message model stream system turns).NamesOnly P :=
  namesOnly_of_get? (plain_message model stream system hturns)
    (get?_message model stream system turns) hmodel

theorem plain_chat (model prompt : String) (stream : Bool) :
    (chat model prompt stream).Plain (d + 3) := by
  have hturn : ∀ t ∈ [user prompt], t.Plain (d + 1) :=
    List.forall_mem_singleton.mpr (plain_turn _ _)
  exact Json.plain_ofFields
    (by simp [Json.plain_text, Json.plain_bool, Json.plain_array hturn])

theorem plain_shortChat (model prompt : String) {maxTokens : Nat}
    (hmax : maxTokens < Decimal.word64) : (shortChat model prompt maxTokens).Plain (d + 3) :=
  (plain_chat model prompt false).set (Json.plain_ofNat hmax)

theorem get?_shortChat (model prompt : String) (maxTokens : Nat) :
    (shortChat model prompt maxTokens).get? "model" = some (.text model) := by
  rw [shortChat, Json.get?_set_of_ne (by decide)]
  exact Json.get?_ofFields (by simp)

theorem shortChat_namesOnly {model : String} (hmodel : P model) (prompt : String)
    {maxTokens : Nat} (hmax : maxTokens < Decimal.word64) :
    (shortChat model prompt maxTokens).NamesOnly P :=
  namesOnly_of_get? (plain_shortChat model prompt hmax) (get?_shortChat model prompt maxTokens)
    hmodel

end Body

theorem streamedChat_namesOnly {P : String → Prop} {model : String} (hmodel : P model) :
    (streamedChat model).NamesOnly P := by
  have hshort := Body.plain_shortChat (d := 124) model Body.greetingPrompt
    (show 10 < Decimal.word64 by decide)
  have hoptions : (Json.ofFields [("include_usage", .bool true)]).Plain 126 :=
    Json.plain_ofFields (by simp [Json.plain_bool])
  refine Body.namesOnly_of_get? ((hshort.set (Json.plain_bool true)).set hoptions) ?_ hmodel
  rw [streamedChat, Json.get?_set_of_ne (by decide), Json.get?_set_of_ne (by decide)]
  exact Body.get?_shortChat model _ _

/-! ### What a client sends -/

namespace Client

variable {P : String → Prop} (c : Client)

theorem sendWithin_names {budget : Nat} {method path : String}
    {headers : List (String × String)} {body : String}
    (h : ∀ q : Request, q.body = body → q.NamesOnly P) :
    (c.sendWithin budget method path headers body).OnlyAsks (Request.NamesOnly P) := by
  unfold sendWithin
  cases target? (c.access.address ++ path) with
  | none => exact .pure _
  | some target =>
    dsimp only
    split
    · exact .ask (h _ rfl) fun _ => .done _
    · exact .pure _

/-- A request whose body is not JSON names nothing. -/
theorem namesOnly_of_unread {body : String} (unread : Json.parse? body = none) (q : Request)
    (h : q.body = body) : q.NamesOnly P := by
  rintro id ⟨value, hread, -⟩
  rw [h, unread] at hread
  cases hread

theorem parse?_empty : Json.parse? "" = none := by decide +kernel

theorem get_names (path : String) : (c.get path).OnlyAsks (Request.NamesOnly P) :=
  (c.sendWithin_names (namesOnly_of_unread parse?_empty)).bind fun _ => .pure _

theorem getPage_names (path : String) : (c.getPage path).OnlyAsks (Request.NamesOnly P) := by
  refine (c.get_names path).bind fun reply => ?_
  cases reply <;> exact .pure _

theorem fetchPage_names (path : String) :
    (fetchPage c path).OnlyAsks (Request.NamesOnly P) :=
  (c.get_names path).bind fun _ => .pure _

theorem requireHealth_names : c.requireHealth.OnlyAsks (Request.NamesOnly P) := by
  refine (c.sendWithin_names (namesOnly_of_unread parse?_empty)).bind fun answer => ?_
  cases answer <;> exact .pure _

theorem fetchList_names {α : Type} (list path : String)
    (parse : String → Except GatewayError α) :
    (fetchList c list path parse).OnlyAsks (Request.NamesOnly P) :=
  (c.getPage_names path).bind fun _ => .pure _

theorem askInventory_names (source : ListSource) :
    (askInventory c source).OnlyAsks (Request.NamesOnly P) := by
  refine (c.fetchList_names _ _ _).bind fun endpoints => ?_
  split
  · exact .pure _
  · exact .pure _
  · refine (c.fetchList_names _ _ _).bind fun models => ?_
    split <;> exact .pure _

variable {body : Json}

theorem sendValue_names (h : body.NamesOnly P) {method path : String}
    {headers : List (String × String)} :
    (c.send method path headers body.compact).OnlyAsks (Request.NamesOnly P) :=
  c.sendWithin_names fun _ hq id hid => h.named id ((names_iff h.plain hq).mp hid)

theorem postValue_names (h : body.NamesOnly P) (path : String) :
    (c.postValue path body).OnlyAsks (Request.NamesOnly P) :=
  (c.sendValue_names h).bind fun _ => .pure _

theorem postKeyed_names (h : body.NamesOnly P) (path : String) :
    (c.postKeyed path body).OnlyAsks (Request.NamesOnly P) :=
  (c.sendValue_names h).bind fun _ => .pure _

theorem postMessage_names (h : body.NamesOnly P) :
    (c.postMessage body).OnlyAsks (Request.NamesOnly P) :=
  c.postKeyed_names h Route.messages

end Client

section Runs

variable {P : String → Prop} (setup : Setup)

/-- What follows the lists goes on with plans that are made from them. -/
theorem surveyed_names {α : Type} {source : ListSource} {options : AssignOptions}
    {rest : Inventory → Assignment → Session (Option α)}
    (hrest : ∀ inventory : Inventory, (rest inventory (assign inventory.endpoints
      inventory.models setup.settings.modes options)).OnlyAsks (Request.NamesOnly P)) :
    (setup.surveyed source options rest).OnlyAsks (Request.NamesOnly P) := by
  refine setup.client.requireHealth_names.bind fun health => ?_
  cases health with
  | error e => exact .pure _
  | ok _ =>
    dsimp only
    rw [Setup.survey, bind_assoc]
    refine (setup.client.askInventory_names source).bind fun found => ?_
    cases found with
    | error e => exact .pure _
    | ok inventory => exact (hrest inventory).bind fun _ => .pure _

/-! ### All backends -/

section Backends

variable {plan : Plan} {model : String}

theorem askMessage_names (hmodel : P model) (stream : Bool) :
    (askMessage setup plan model stream).OnlyAsks (Request.NamesOnly P) := by
  refine (setup.client.postMessage_names
    (Body.message_namesOnly hmodel (by simp))).bind fun reply => ?_
  cases reply <;> exact .pure _

theorem checkWhole_names (hmodel : P model) (name : String) :
    (checkWhole setup plan model name).OnlyAsks (Request.NamesOnly P) :=
  (askMessage_names setup hmodel false).bind fun _ => .pure _

theorem checkStreamed_names (hmodel : P model) (name : String) :
    (checkStreamed setup plan model name).OnlyAsks (Request.NamesOnly P) :=
  (askMessage_names setup hmodel true).bind fun _ => .pure _

theorem checkBaseline_names (hmodel : P model) :
    (checkBaseline setup plan model).OnlyAsks (Request.NamesOnly P) := by
  refine (setup.client.postValue_names
    (Body.shortChat_namesOnly hmodel _ (by decide)) _).bind fun reply => ?_
  cases reply <;> exact .pure _

theorem selected_of_testModel (h : plan.testModel = .ok model) : plan.selected = some model := by
  rw [Plan.testModel] at h
  split at h
  · cases h
  · next hselected =>
    split at h
    · cases h
      exact hselected
    · cases h

theorem checkBackend_names (skipStreaming : Bool)
    (hplan : ∀ id, plan.selected = some id → P id) :
    (checkBackend setup skipStreaming plan).OnlyAsks (Request.NamesOnly P) := by
  rw [checkBackend]
  cases htest : plan.testModel with
  | error reason => exact .pure _
  | ok model =>
    have hmodel := hplan model (selected_of_testModel htest)
    refine (checkWhole_names setup hmodel _).bind fun whole => ?_
    cases skipStreaming with
    | true => exact (checkBaseline_names setup hmodel).bind fun _ => .pure _
    | false =>
      refine (checkStreamed_names setup hmodel _).bind fun streamed => ?_
      exact (checkBaseline_names setup hmodel).bind fun _ => .pure _

end Backends

theorem judgeByStatus_names {body : Json} (h : body.NamesOnly P) (name : String)
    (accept : Nat → Bool) :
    (judgeByStatus setup name body accept).OnlyAsks (Request.NamesOnly P) := by
  refine (setup.client.postMessage_names h).bind fun reply => ?_
  cases reply <;> exact .pure _

theorem checkCounters_names (observed : ShownModes) (name : String) :
    (checkCounters setup observed name).OnlyAsks (Request.NamesOnly P) :=
  (setup.client.getPage_names _).bind fun _ => .pure _

section Assigned

variable {r : Assignment} (hselects : r.SelectsOnly P) (hunserved : P unservedModel)
include hselects hunserved

theorem checkEdgeCases_names :
    (checkEdgeCases setup r).OnlyAsks (Request.NamesOnly P) := by
  refine (judgeByStatus_names setup (Body.message_namesOnly hunserved (by simp)) _ _).bind
    fun missing => ?_
  split
  · exact .pure _
  · next plan hedge =>
    have hplan : plan ∈ r.backends :=
      List.mem_of_mem_filter (List.mem_of_find?_eq_some hedge)
    split
    · exact .pure _
    · next model hselected =>
      have hmodel := hselects plan hplan model hselected
      have hsystem : (Body.message model false (some "You are a pirate")
          (some [Body.user "Say hello"])).NamesOnly P :=
        Body.message_namesOnly hmodel (by simp [Body.user, Body.plain_turn])
      have hturns : ((Body.message model false none (some [Body.user "My name is Test.",
          Body.turn "assistant" "Hello, Test!", Body.user "What is my name?"])).set "max_tokens"
          (.ofNat 20)).NamesOnly P := by
        refine Body.namesOnly_of_get? (Json.Plain.set (Body.plain_message (d := 124) _ _ _ ?_)
          (Json.plain_ofNat (by decide))) ?_ hmodel
        · simp [Body.user, Body.plain_turn]
        · rw [Json.get?_set_of_ne (by decide), Body.get?_message]
      refine (judgeByStatus_names setup hsystem _ _).bind fun system => ?_
      exact (judgeByStatus_names setup hturns _ _).bind fun _ => .pure _

theorem checkBackends_names (options : ModeOptions) (inventory : Inventory) :
    (checkBackends setup options inventory r).OnlyAsks (Request.NamesOnly P) := by
  refine (Session.OnlyAsks.mapM_mem fun plan hplan =>
    checkBackend_names setup _ (hselects plan hplan)).bind fun results => ?_
  refine (checkEdgeCases_names setup hselects hunserved).skippable.bind fun edges => ?_
  exact (checkCounters_names setup _ _).bind fun _ => .pure _

end Assigned

/-! ### The whole surface -/

theorem internalPhase_names : (internalPhase setup).OnlyAsks (Request.NamesOnly P) :=
  .mapM (fun _ => (setup.client.fetchPage_names _).bind fun _ => .pure _) internalPages

theorem modelsPhase_names (model : Option String) :
    (modelsPhase setup model).OnlyAsks (Request.NamesOnly P) := by
  refine (setup.client.fetchPage_names _).bind fun list => ?_
  cases model with
  | none => exact .pure _
  | some id => exact (setup.client.fetchPage_names _).bind fun _ => .pure _

theorem providersPhase_names (inventory : Inventory) :
    (providersPhase setup inventory).OnlyAsks (Request.NamesOnly P) := by
  have hroute (type : String) :
      (checkProviderRoute setup type).OnlyAsks (Request.NamesOnly P) := by
    refine (setup.client.fetchPage_names _).bind fun page => ?_
    split <;> exact .pure _
  rw [providersPhase]
  split
  · exact .pure _
  · exact .mapM hroute _

theorem askStreamedChat_names {model : String} (hmodel : P model) :
    (askStreamedChat setup model).OnlyAsks (Request.NamesOnly P) := by
  refine (setup.client.postValue_names (streamedChat_namesOnly hmodel) _).bind fun reply => ?_
  cases reply with
  | error e => exact .pure _
  | ok reply =>
    dsimp only
    split
    · exact .pure _
    · split <;> exact .pure _

theorem messageChecks_names {id : String} (hid : P id) (skipStreaming : Bool) :
    (messageChecks setup id skipStreaming).OnlyAsks (Request.NamesOnly P) := by
  have hmessage (stream : Bool) : (Body.message id stream none none).NamesOnly P :=
    Body.message_namesOnly hid (by simp)
  have hstreamed : (do
      let reply ← setup.client.postMessage (Body.message id true none none)
      pure [judgeMessageStream setup.client.budget reply] : Session (List Record)).OnlyAsks
        (Request.NamesOnly P) :=
    (setup.client.postMessage_names (hmessage true)).bind fun _ => .pure _
  have htokens : (Json.ofFields [("model", .text id),
      ("messages", .array [Body.user "Count these tokens please"])]).NamesOnly P := by
    have hturn : ∀ t ∈ [Body.user "Count these tokens please"], t.Plain 125 :=
      List.forall_mem_singleton.mpr (Body.plain_turn _ _)
    exact Body.namesOnly_of_get?
      (Json.plain_ofFields (by simp [Json.plain_text, Json.plain_array hturn]))
      (Json.get?_ofFields (by simp)) hid
  refine (setup.client.postMessage_names (hmessage false)).bind fun whole => ?_
  refine hstreamed.skippable.bind fun streamed => ?_
  exact (setup.client.postKeyed_names htokens _).bind fun _ => .pure _

section Chosen

variable {model : Option String} (hmodel : ∀ id, model = some id → P id)
include hmodel

theorem proxyPhase_names (skipStreaming : Bool) :
    (proxyPhase setup model skipStreaming).OnlyAsks (Request.NamesOnly P) := by
  have hchat (id prompt : String) (hid : P id) (n : Nat) (hn : n < Decimal.word64) :
      (setup.client.postValue Route.sharedChat (Body.shortChat id prompt n)).OnlyAsks
        (Request.NamesOnly P) :=
    setup.client.postValue_names (Body.shortChat_namesOnly hid prompt hn) _
  refine (setup.client.fetchPage_names _).bind fun list => ?_
  cases model with
  | none => exact .pure _
  | some id =>
    have hid := hmodel id rfl
    refine (hchat id _ hid _ (by decide)).bind fun chat => ?_
    refine (askStreamedChat_names setup hid).skippable.bind fun streamed => ?_
    exact (hchat id _ hid _ (by decide)).bind fun _ => .pure _

theorem anthropicPhase_names (skipStreaming : Bool) :
    (anthropicPhase setup model skipStreaming).OnlyAsks (Request.NamesOnly P) := by
  have hafter (models : Record) :
      (messagesAfter setup model skipStreaming models).OnlyAsks (Request.NamesOnly P) := by
    cases model with
    | none => exact .pure _
    | some id =>
      exact (messageChecks_names setup (hmodel id rfl) skipStreaming).bind fun _ => .pure _
  refine (setup.client.fetchPage_names _).bind fun page => ?_
  split
  · exact hafter _
  · exact .pure _
  · exact hafter _

theorem headersPhase_names : (headersPhase setup model).OnlyAsks (Request.NamesOnly P) := by
  cases model with
  | none => exact .pure _
  | some id =>
    refine (setup.client.fetchPage_names _).bind fun page => ?_
    exact (setup.client.postValue_names
      (Body.shortChat_namesOnly (hmodel id rfl) _ (by decide)) _).bind fun _ => .pure _

end Chosen

theorem modeChecks_names {plan : Plan} {model : String} (hmodel : P model)
    (skipStreaming : Bool) :
    (modeChecks setup skipStreaming plan model).OnlyAsks (Request.NamesOnly P) := by
  refine (checkWhole_names setup hmodel _).bind fun whole => ?_
  dsimp only
  split
  · exact .pure _
  · exact (checkStreamed_names setup hmodel _).bind fun _ => .pure _

theorem modesPhase_names (r : Assignment) {candidates : List Representative}
    (hcandidates : ∀ c ∈ candidates, P c.model) (skipStreaming : Bool) :
    (modesPhase setup r candidates skipStreaming).OnlyAsks (Request.NamesOnly P) := by
  rw [modesPhase]
  split
  · exact .pure _
  · refine (Session.OnlyAsks.mapM_mem fun c hc => ?_).bind fun results => ?_
    · obtain ⟨candidate, hcandidate, hfound⟩ := List.mem_filterMap.mp hc
      obtain ⟨plan, -, rfl⟩ := Option.map_eq_some_iff.mp hfound
      exact modeChecks_names setup (hcandidates candidate hcandidate) skipStreaming
    · exact (checkCounters_names setup _ _).bind fun _ => .pure _

theorem drawRepresentative_selects {r : Assignment} (hselects : r.SelectsOnly P) {mode : Mode}
    {draws : Draws} : ∀ c ∈ (drawRepresentative r mode draws).1.toList, P c.model := by
  intro c hc
  obtain ⟨plan, hdrawn, hc⟩ := Option.bind_eq_some_iff.mp (Option.mem_toList.mp hc)
  obtain ⟨model, hselected, rfl⟩ := Option.map_eq_some_iff.mp hc
  have hready := List.mem_of_mem_filter (Draws.mem_of_choose? hdrawn)
  exact hselects plan (List.mem_of_mem_filter hready) model hselected

theorem errorsPhase_names (hunserved : P unservedModel) :
    (errorsPhase setup).OnlyAsks (Request.NamesOnly P) := by
  have hturn : ∀ t ∈ [Body.user "Hello"], t.Plain 125 :=
    List.forall_mem_singleton.mpr (Body.plain_turn _ _)
  have hfields : ∀ field ∈ [("messages", Json.array [Body.user "Hello"]),
      ("max_tokens", Json.ofNat 5)], field.2.Plain 126 := by
    simp [Json.plain_array hturn, Json.plain_ofNat (show 5 < Decimal.word64 by decide)]
  have hunknown := Body.namesOnly_of_get? (P := P)
    (Json.plain_ofFields (List.forall_mem_cons.mpr ⟨Json.plain_text unservedModel, hfields⟩))
    (Json.get?_ofFields (by simp)) hunserved
  have hmissing : (Json.ofFields [("messages", .array [Body.user "Hello"]),
      ("max_tokens", .ofNat 5)]).NamesOnly P := by
    refine ⟨Json.plain_ofFields hfields, fun id hid => ?_⟩
    rw [Json.get?_ofFields_of_ne (by simp)] at hid
    cases hid
  have hinvalid : (setup.client.post Route.sharedChat "this is not json").OnlyAsks
      (Request.NamesOnly P) :=
    (setup.client.sendWithin_names
      (Client.namesOnly_of_unread (by decide +kernel))).bind fun _ => .pure _
  refine (setup.client.postValue_names hunknown _).bind fun unknown => ?_
  refine hinvalid.bind fun invalid => ?_
  exact (setup.client.postValue_names hmissing _).bind fun _ => .pure _

theorem phasesBefore_names (options : SurfaceOptions) {model : Option String}
    (hmodel : ∀ id, model = some id → P id) :
    (phasesBefore setup options model).OnlyAsks (Request.NamesOnly P) := by
  refine (internalPhase_names setup).bind fun internal => ?_
  refine (modelsPhase_names setup _).bind fun models => ?_
  refine (proxyPhase_names setup hmodel _).bind fun proxy => ?_
  exact (anthropicPhase_names setup hmodel _).skippable.bind fun _ => .pure _

theorem phasesAfter_names (options : SurfaceOptions) (inventory : Inventory)
    {model : Option String} (hmodel : ∀ id, model = some id → P id)
    (hunserved : P unservedModel) :
    (phasesAfter setup options inventory model).OnlyAsks (Request.NamesOnly P) := by
  refine (providersPhase_names setup _).skippable.bind fun providers => ?_
  refine (headersPhase_names setup hmodel).bind fun headers => ?_
  exact (errorsPhase_names setup hunserved).bind fun _ => .pure _

theorem surfacePhases_names (options : SurfaceOptions) {inventory : Inventory} {r : Assignment}
    (hids : ∀ id ∈ inventory.generativeIds, P id) (hselects : r.SelectsOnly P)
    (hunserved : P unservedModel) :
    (surfacePhases setup options inventory r).OnlyAsks (Request.NamesOnly P) := by
  have hmodel : ∀ id, (options.choice inventory r).model = some id → P id :=
    fun id hid => hids id (Draws.mem_of_choose? hid)
  have hcandidates : ∀ c ∈ (options.choice inventory r).candidates, P c.model := by
    intro c hc
    rcases List.mem_append.mp hc with hc | hc
    · exact drawRepresentative_selects hselects c hc
    · exact drawRepresentative_selects hselects c hc
  refine (phasesBefore_names setup options hmodel).bind fun before => ?_
  refine (modesPhase_names setup r hcandidates _).skippable.bind fun modes => ?_
  cases modes with
  | none => exact .pure _
  | some modes =>
    exact (phasesAfter_names setup options inventory hmodel hunserved).bind fun _ => .pure _

end Runs

theorem unservedModel_generative : ¬HoldsEmbed unservedModel := by decide

/-- **Models for embeddings are invisible.** The plans for two lists are those for the lists without
such models, whatever is drawn; and whatever a gateway answers and whatever the run draws by itself,
no request of a run for all backends or for the whole surface names one. -/
theorem embeddings_invisible :
    (∀ (endpoints : List Endpoint) (models : List Model) (modes : ModeTables)
      (options : AssignOptions), assign endpoints models modes options =
        assign endpoints (models.filter fun m => ¬HoldsEmbed m.id) modes options) ∧
    ∀ (setup : Setup) (gateway : Gateway) (seen : List Request),
      (∀ options, ∀ q ∈ (modeRun setup options).asked gateway seen,
        ∀ id, q.Names id → ¬HoldsEmbed id) ∧
      (∀ options, ∀ q ∈ (surfaceRun setup options).asked gateway seen,
        ∀ id, q.Names id → ¬HoldsEmbed id) := by
  refine ⟨fun endpoints models modes options => ?_, fun setup gateway seen =>
    ⟨fun options => ?_, fun options => ?_⟩⟩
  · rw [assign, assign, bonds_eq_erased]
  · exact (surveyed_names setup fun inventory => checkBackends_names setup selects_generative
      unservedModel_generative options inventory).of_mem_asked
  · exact (surveyed_names setup fun inventory => surfacePhases_names setup options
      (fun _ => generative_of_mem_generativeIds) selects_generative
      unservedModel_generative).of_mem_asked

end GatewayProbe
