/-
How a run through providers starts.

Such a run asks for the health of the gateway and for the models of each provider. It ends there if
the gateway is not well, or if no provider lists a model that the run is for. Otherwise it goes on
with the listing, and nothing ends it any more:

* `requireModels_eq_ok_iff` — the listings with which a run goes on;
* `Setup.listed` — health and models, then the rest of a run; `providerRun_eq` and `storyRun_eq` are
  the runs of this form;
* `Setup.listed_cases` — the run is over before the rest, or comes to what the rest gives;
* `Setup.listed_of_ok` — a run that comes to something came to the rest;
* `storyRun_cases` — the same for stories, with their plan.
-/
import GatewayProbe.Proofs.Exchange.Exchanges
import GatewayProbe.Proofs.Run.Start
import GatewayProbe.Run.Stories

namespace GatewayProbe

theorem requireModels_eq_ok_iff {listing listed : ProviderListing Model} :
    requireModels listing = .ok listed ↔ listed = listing ∧ ∃ entry ∈ listing, entry.2 ≠ [] := by
  rw [requireModels]
  by_cases hnone : (List.all listing fun entry => entry.2.isEmpty) = true
  · rw [if_pos hnone]
    refine iff_of_false (fun h => nomatch h) ?_
    rintro ⟨-, entry, hentry, hsome⟩
    exact hsome (List.isEmpty_iff.mp (List.all_eq_true.mp hnone entry hentry))
  · rw [if_neg hnone]
    obtain ⟨entry, hentry, hsome⟩ := List.all_eq_false.mp (Bool.eq_false_iff.mpr hnone)
    constructor
    · intro h
      cases h
      exact ⟨rfl, entry, hentry, mt List.isEmpty_iff.mpr hsome⟩
    · rintro ⟨rfl, -⟩
      rfl

theorem requireModels_eq_error {listing : ProviderListing Model}
    (h : ∀ entry ∈ listing, entry.2 = []) :
    ∃ reason, requireModels listing = .error (.discovery reason) := by
  refine ⟨_, if_pos (List.all_eq_true.mpr fun entry hentry => ?_)⟩
  exact List.isEmpty_iff.mpr (h entry hentry)

/-- Asks for health and models, and goes on with the models that are selected of them. -/
def Setup.listed {α : Type} (setup : Setup) (providers : List Provider)
    (select : ProviderListing Model → ProviderListing Model)
    (rest : ProviderListing Model → Session α) : Session (Outcome α) := do
  match ← setup.client.requireHealth with
  | .error e => return .error e
  | .ok () =>
    let listing := select (← fetchListing setup providers)
    match requireModels listing with
    | .error e => return .error e
    | .ok listing => return .ok (← rest listing)

theorem providerRun_eq (setup : Setup) (options : ProviderOptions) : providerRun setup options =
    setup.listed options.providers id (providerChecks setup options) := rfl

theorem storyRun_eq (setup : Setup) (options : StoryOptions) : storyRun setup options =
    setup.listed options.providers generativeListing fun models =>
      storyChecks setup (planStories (idListing models) options.providers options.models) := rfl

section

variable {gateway : Gateway} {seen : List Request}

theorem Client.requireHealth_exchanges (c : Client) :
    c.requireHealth.exchanges gateway seen = c.askHealth.exchanges gateway seen := by
  rw [requireHealth, ← askHealth, Session.exchanges_bind]
  cases (c.askHealth.run gateway seen).1 <;>
    exact List.append_nil _

variable {α : Type} (setup : Setup) (providers : List Provider)
  (select : ProviderListing Model → ProviderListing Model) (rest : ProviderListing Model → Session α)

variable (gateway seen) in
theorem Setup.listed_cases :
    let health := setup.client.askHealth.run gateway seen
    let fetched := (fetchListing setup providers).run gateway health.2
    let run := setup.listed providers select rest
    let result := (run.run gateway seen).1
    (¬health.1.IsWell →
      ∃ reason, result = .error (.unreachable setup.client.access.address reason)) ∧
    (health.1.IsWell → (∀ entry ∈ select fetched.1, entry.2 = []) →
      ∃ reason, result = .error (.discovery reason)) ∧
    (health.1.IsWell → (∃ entry ∈ select fetched.1, entry.2 ≠ []) →
      result = .ok ((rest (select fetched.1)).run gateway fetched.2).1 ∧
      run.exchanges gateway seen = setup.client.askHealth.exchanges gateway seen ++
        (fetchListing setup providers).exchanges gateway health.2 ++
        (rest (select fetched.1)).exchanges gateway fetched.2) := by
  intro health fetched run result
  refine ⟨fun unwell => ?_, fun well hnone => ?_, fun well hsome => ?_⟩
  · obtain ⟨reason, hrun⟩ := Client.requireHealth_unwell setup.client unwell
    refine ⟨reason, ?_⟩
    show ((setup.listed providers select rest).run gateway seen).1 = _
    rw [listed, Session.run_bind, hrun]
    rfl
  · have hwell := Client.requireHealth_well setup.client well
    obtain ⟨reason, hmodels⟩ := requireModels_eq_error hnone
    refine ⟨reason, ?_⟩
    show ((setup.listed providers select rest).run gateway seen).1 = _
    rw [listed, Session.run_bind, hwell]
    dsimp only
    rw [Session.run_bind, hmodels]
    rfl
  · have hwell := Client.requireHealth_well setup.client well
    have hmodels := requireModels_eq_ok_iff.mpr ⟨rfl, hsome⟩
    constructor
    · show ((setup.listed providers select rest).run gateway seen).1 = _
      rw [listed, Session.run_bind, hwell]
      dsimp only
      rw [Session.run_bind, hmodels]
      dsimp only
      rw [Session.run_bind, Session.run_pure]
    · show (setup.listed providers select rest).exchanges gateway seen = _
      rw [listed, Session.exchanges_bind, Client.requireHealth_exchanges, hwell]
      dsimp only
      rw [Session.exchanges_bind, hmodels]
      dsimp only
      rw [Session.exchanges_bind, Session.exchanges_pure, List.append_nil, List.append_assoc]

/-- A run that comes to something came to the rest. -/
theorem Setup.listed_of_ok {a : α}
    (h : ((setup.listed providers select rest).run gateway seen).1 = .ok a) :
    (setup.client.askHealth.run gateway seen).1.IsWell ∧
      ∃ entry ∈ select ((fetchListing setup providers).run gateway
        (setup.client.askHealth.run gateway seen).2).1, entry.2 ≠ [] := by
  obtain ⟨hunwell, hnone, -⟩ :=
    setup.listed_cases gateway seen providers select rest
  by_cases well : (setup.client.askHealth.run gateway seen).1.IsWell
  · refine ⟨well, Classical.byContradiction fun hno => ?_⟩
    obtain ⟨reason, herror⟩ := hnone well fun entry hentry =>
      Classical.byContradiction fun hsome => hno ⟨entry, hentry, hsome⟩
    rw [h] at herror
    cases herror
  · obtain ⟨reason, herror⟩ := hunwell well
    rw [h] at herror
    cases herror

end

/-- A run of stories is over, or comes to what its plan gives. -/
theorem storyRun_cases (setup : Setup) (options : StoryOptions) (gateway : Gateway)
    (seen : List Request) :
    let health := setup.client.askHealth.run gateway seen
    let fetched := (fetchListing setup options.providers).run gateway health.2
    let listing := generativeListing fetched.1
    let checks := storyChecks setup
      (planStories (idListing listing) options.providers options.models)
    let run := storyRun setup options
    let result := (run.run gateway seen).1
    (¬health.1.IsWell →
      ∃ reason, result = .error (.unreachable setup.client.access.address reason)) ∧
    (health.1.IsWell → (∀ entry ∈ listing, entry.2 = []) →
      ∃ reason, result = .error (.discovery reason)) ∧
    (health.1.IsWell → (∃ entry ∈ listing, entry.2 ≠ []) →
      result = .ok (checks.run gateway fetched.2).1 ∧
      run.exchanges gateway seen = setup.client.askHealth.exchanges gateway seen ++
        (fetchListing setup options.providers).exchanges gateway health.2 ++
        checks.exchanges gateway fetched.2) := by
  rw [storyRun_eq]
  exact setup.listed_cases gateway seen options.providers generativeListing _

end GatewayProbe
