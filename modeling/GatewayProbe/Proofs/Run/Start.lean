/-
How a run starts.

A run asks for the health of the gateway, then for its endpoints, then for its models, and only then
for anything else. These are the requests whose answers may end it: a gateway that is not well is
unreachable, and lists that cannot be read or are empty are a failure of discovery.

* `Answer.IsWell`, `Inventory.IsListed` — the answers with which a run goes on;
* `Client.requireHealth_well`, `Client.requireHealth_unwell` — the gateway is well or unreachable;
* `Setup.survey_listed`, `Setup.survey_unlisted` — the lists are there, or discovery fails;
* `unlessOverflow_cases` — the rest of a run comes to an outcome or is aborted;
* `Setup.surveyed_cases` — a run is over before its rest, or comes to what the rest gives.
-/
import GatewayProbe.Proofs.Exchange.Sessions
import GatewayProbe.Run.Basic

namespace GatewayProbe

/-- The answer of a gateway that is well. -/
def Answer.IsWell (a : Answer) : Prop := ∃ r, a = .reply r ∧ r.status = 200

/-- The request for the health of the gateway. -/
def Client.askHealth (c : Client) : Session Answer :=
  c.sendWithin c.access.healthTimeout "GET" Route.health [] ""

/-- Two pages list these endpoints and models, and some of each. -/
structure Inventory.IsListed (source : ListSource) (endpointPage modelPage : Outcome String)
    (inventory : Inventory) : Prop where
  endpoints : endpointPage.bind readEndpoints = .ok inventory.endpoints
  models : modelPage.bind (parseModels source) = .ok inventory.models
  someEndpoint : inventory.endpoints ≠ []
  someModel : inventory.models ≠ []

section Start

variable {gateway : Gateway} {seen : List Request} (c : Client)

theorem Client.requireHealth_well (h : (c.askHealth.run gateway seen).1.IsWell) :
    c.requireHealth.run gateway seen = (.ok (), (c.askHealth.run gateway seen).2) := by
  obtain ⟨r, hr, hstatus⟩ := h
  rw [requireHealth, ← askHealth, Session.run_bind, hr]
  dsimp only
  rw [if_pos hstatus]
  rfl

theorem Client.requireHealth_unwell (h : ¬(c.askHealth.run gateway seen).1.IsWell) :
    ∃ reason, c.requireHealth.run gateway seen =
      (.error (.unreachable c.access.address reason), (c.askHealth.run gateway seen).2) := by
  rw [requireHealth, ← askHealth, Session.run_bind]
  cases hanswer : (c.askHealth.run gateway seen).1 with
  | reply r =>
    have hstatus : ¬r.status = 200 := fun hstatus => h ⟨r, hanswer, hstatus⟩
    dsimp only
    rw [if_neg hstatus]
    exact ⟨_, rfl⟩
  | refused => exact ⟨_, rfl⟩
  | closed => exact ⟨_, rfl⟩
  | silent => exact ⟨_, rfl⟩

/-! ### The lists -/

theorem fetchList_run {α : Type} {page : Outcome String} {after : List Request} {path : String}
    (hpage : (c.getPage path).run gateway seen = (page, after)) (list : String)
    (parse : String → Except GatewayError α) :
    (fetchList c list path parse).run gateway seen =
      ((page.bind parse).mapError (discoveryError list), after) := by
  rw [fetchList, Session.run_bind, Session.run_pure, hpage]

variable {source : ListSource} {endpointPage modelPage : Outcome String}
  {afterEndpoints afterModels : List Request}

theorem askInventory_listed
    (hendpoints : (c.getPage Route.endpointList).run gateway seen = (endpointPage, afterEndpoints))
    (hmodels : (c.getPage source.route).run gateway afterEndpoints = (modelPage, afterModels))
    {inventory : Inventory} (listed : inventory.IsListed source endpointPage modelPage) :
    (askInventory c source).run gateway seen = (.ok inventory, afterModels) := by
  obtain ⟨endpoints, models⟩ := inventory
  obtain ⟨hread, hparsed, someEndpoint, someModel⟩ := listed
  obtain ⟨e, es, rfl⟩ := List.exists_cons_of_ne_nil someEndpoint
  obtain ⟨m, ms, rfl⟩ := List.exists_cons_of_ne_nil someModel
  rw [askInventory, Session.run_bind, askEndpoints, fetchList_run c hendpoints, hread]
  dsimp only [Except.mapError]
  rw [Session.run_bind, askModels, fetchList_run c hmodels, hparsed]
  rfl

theorem askInventory_unlisted
    (hendpoints : (c.getPage Route.endpointList).run gateway seen = (endpointPage, afterEndpoints))
    (hmodels : (c.getPage source.route).run gateway afterEndpoints = (modelPage, afterModels))
    (unlisted : ¬∃ inventory : Inventory, inventory.IsListed source endpointPage modelPage) :
    ∃ reason, ((askInventory c source).run gateway seen).1 = .error (.discovery reason) := by
  rw [askInventory, Session.run_bind, askEndpoints, fetchList_run c hendpoints]
  -- Each list may be unreadable or empty; only where both are neither is there an inventory.
  cases hread : endpointPage.bind readEndpoints with
  | error e => exact ⟨_, rfl⟩
  | ok endpoints =>
    cases endpoints with
    | nil => exact ⟨_, rfl⟩
    | cons e es =>
      dsimp only [Except.mapError]
      rw [Session.run_bind, askModels, fetchList_run c hmodels]
      cases hparsed : modelPage.bind (parseModels source) with
      | error e => exact ⟨_, rfl⟩
      | ok models =>
        cases models with
        | nil => exact ⟨_, rfl⟩
        | cons m ms =>
          exact absurd ⟨⟨e :: es, m :: ms⟩, hread, hparsed, List.cons_ne_nil _ _,
            List.cons_ne_nil _ _⟩ unlisted

variable (setup : Setup) (options : AssignOptions)
  (hendpoints : (setup.client.getPage Route.endpointList).run gateway seen =
    (endpointPage, afterEndpoints))
  (hmodels : (setup.client.getPage source.route).run gateway afterEndpoints =
    (modelPage, afterModels))

include hendpoints hmodels

theorem Setup.survey_listed {inventory : Inventory}
    (listed : inventory.IsListed source endpointPage modelPage) :
    (setup.survey source options).run gateway seen =
      (.ok (inventory, assign inventory.endpoints inventory.models setup.settings.modes options),
        afterModels) := by
  rw [survey, Session.run_bind, askInventory_listed setup.client hendpoints hmodels listed]
  rfl

theorem Setup.survey_unlisted
    (unlisted : ¬∃ inventory : Inventory, inventory.IsListed source endpointPage modelPage) :
    ∃ reason, ((setup.survey source options).run gateway seen).1 = .error (.discovery reason) := by
  obtain ⟨reason, hrun⟩ := askInventory_unlisted setup.client hendpoints hmodels unlisted
  refine ⟨reason, ?_⟩
  rw [survey, Session.run_bind, hrun]
  rfl

end Start

/-! ### The rest of a run -/

/-- Where it is known when an outcome is absent, the run comes to it or is aborted. -/
theorem unlessOverflow_cases {α : Type} {outcome : Option α} {aborts : Prop}
    (h : outcome = none ↔ aborts) :
    (aborts → unlessOverflow outcome = .error .overflow) ∧
    (¬aborts → ∃ out, outcome = some out ∧ unlessOverflow outcome = .ok out) := by
  cases outcome with
  | none => exact ⟨fun _ => rfl, fun hnot => absurd (h.mp rfl) hnot⟩
  | some out =>
    exact ⟨fun haborts => absurd (h.mpr haborts) (Option.some_ne_none out),
      fun _ => ⟨out, rfl, rfl⟩⟩

theorem Setup.surveyed_cases {α : Type} (setup : Setup) (source : ListSource)
    (options : AssignOptions) (rest : Inventory → Assignment → Session (Option α))
    (gateway : Gateway) (seen : List Request) :
    let health := setup.client.askHealth.run gateway seen
    let endpoints := (setup.client.getPage Route.endpointList).run gateway health.2
    let models := (setup.client.getPage source.route).run gateway endpoints.2
    let result := ((setup.surveyed source options rest).run gateway seen).1
    (¬health.1.IsWell →
      ∃ reason, result = .error (.gateway (.unreachable setup.client.access.address reason))) ∧
    (health.1.IsWell →
      (¬∃ inventory : Inventory, inventory.IsListed source endpoints.1 models.1) →
      ∃ reason, result = .error (.gateway (.discovery reason))) ∧
    (health.1.IsWell → ∀ inventory : Inventory,
      inventory.IsListed source endpoints.1 models.1 →
      result = unlessOverflow ((rest inventory (assign inventory.endpoints inventory.models
        setup.settings.modes options)).run gateway models.2).1) := by
  intro health endpoints models result
  refine ⟨fun unwell => ?_, fun well unlisted => ?_, fun well inventory listed => ?_⟩
  · obtain ⟨reason, hrun⟩ := Client.requireHealth_unwell setup.client unwell
    refine ⟨reason, ?_⟩
    show ((setup.surveyed source options rest).run gateway seen).1 = _
    rw [surveyed, Session.run_bind, hrun]
    rfl
  · have hwell := Client.requireHealth_well setup.client well
    obtain ⟨reason, hrun⟩ := setup.survey_unlisted options (Prod.eta _).symm (Prod.eta _).symm
      unlisted
    refine ⟨reason, ?_⟩
    show ((setup.surveyed source options rest).run gateway seen).1 = _
    rw [surveyed, Session.run_bind, hwell]
    dsimp only
    rw [Session.run_bind, hrun]
    rfl
  · have hwell := Client.requireHealth_well setup.client well
    have hrun := setup.survey_listed options (Prod.eta _).symm (Prod.eta _).symm listed
    show ((setup.surveyed source options rest).run gateway seen).1 = _
    rw [surveyed, Session.run_bind, hwell]
    dsimp only
    rw [Session.run_bind, hrun]
    dsimp only
    rw [Session.run_bind, Session.run_pure]

end GatewayProbe
