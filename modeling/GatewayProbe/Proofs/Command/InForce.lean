/-
The settings in force while a command runs.

All layers together are checked once, before anything is sent. One command then replaces the wait
for a request by one of its own, and what it brings is not checked again:

* `Settings.check_of_layered` — settings that come of all layers are valid;
* `Settings.check_timeout` — what a new wait does to valid settings;
* `Command.probe_allows` — the wait in force is that of every request but the one for health;
* `run_inForce` — a command runs on settings that are valid, unless it brings a wait of zero;
* `inForce_noTimeout` — a command line that does.
-/
import GatewayProbe.Command.Run
import GatewayProbe.Proofs.Run.Budgets
import GatewayProbe.Proofs.Settings.Checks

namespace GatewayProbe

/-! ### Settings of all layers -/

/-- Another wait is all that is wrong with it, if it is zero. -/
theorem Access.check_timeout {a : Access} (h : a.check = .ok ()) (timeout : Nat) :
    ({ a with timeout } : Access).check =
      if timeout = 0 then .error .noTimeout else .ok () := by
  rw [check] at h ⊢
  split_ifs at h with hblank hhttp htimeout hconnect
  rw [if_neg hblank, if_neg hhttp, if_neg hconnect]

namespace Settings

theorem check_of_layered {files : Files} {environment : Variables} {o : Overrides} {s : Settings}
    (h : layered files environment o = .ok s) : s.check = .ok () := by
  rw [layered] at h
  obtain ⟨lowest, -, h⟩ := bind_eq_ok_iff.mp h
  obtain ⟨_, hcheck, h⟩ := bind_eq_ok_iff.mp h
  rw [← Except.ok.inj h]
  exact mapError_eq_ok_iff.mp hcheck

/-- Valid settings stay valid with another wait, unless it is zero. -/
theorem check_timeout {s : Settings} (h : s.check = .ok ()) (timeout : Nat) :
    ({ s with access := { s.access with timeout } } : Settings).check =
      if timeout = 0 then .error .noTimeout else .ok () := by
  obtain ⟨_, haccess, hrest⟩ := bind_eq_ok_iff.mp h
  rw [check, Access.check_timeout haccess]
  split
  · rfl
  · exact hrest

end Settings

namespace Command

/-- The wait that a command brings itself. -/
def maxTime? : Command → Option Nat
  | .providerStreaming _ _ _ _ maxTime _ => some maxTime
  | _ => none

theorem check_setup {s : Settings} (h : s.check = .ok ()) (command : Command) :
    (command.setup s).settings.check =
      if command.maxTime? = some 0 then .error .noTimeout else .ok () := by
  cases command with
  | providerStreaming named models sample analyze maxTime json =>
    rw [setup, Settings.check_timeout h, maxTime?]
    simp
  | _ => exact h

/-! ### What a command sends -/

section Sends

variable (world : World) (setup : Setup)

theorem afterHealth_allows {α : Type} {next : Session (Outcome α)}
    (hnext : next.OnlyAsks setup.client.Allows) :
    (afterHealth setup next).OnlyAsks setup.client.Allows := by
  refine setup.client.requireHealth_allows.bind fun health => ?_
  cases health with
  | error e => exact .pure _
  | ok _ => exact hnext

theorem withModel_allows {α : Type} {next : String → Session α}
    (hnext : ∀ model, (next model).OnlyAsks setup.client.Allows) (source : ListSource)
    (requested : Option String) :
    (withModel setup source requested next).OnlyAsks setup.client.Allows := by
  refine afterHealth_allows setup ?_
  refine (chooseModel_allows setup source requested).bind fun model => ?_
  cases model with
  | error e => exact .pure _
  | ok model => exact (hnext model).bind fun _ => .pure _

/-- Whatever a command sends may take the wait in force, except the request for health. -/
theorem probe_allows (command : Command) :
    (command.probe world setup).OnlyAsks setup.client.Allows := by
  cases command with
  | discover json includeEmpty selection =>
    exact (afterHealth_allows setup (survey_allows setup _ _)).bind fun _ => .pure _
  | passthrough json skipStreaming skipEdgeCases selection =>
    exact (modeRun_allows setup _).bind fun _ => .pure _
  | streaming model quick source json =>
    exact (withModel_allows setup (fun id => detectionRun_allows setup id quick) source model).bind
      fun _ => .pure _
  | latency model questions count seed source json =>
    rw [probe, askFrom]
    cases questionsAt world.files questions with
    | error fault => exact .pure _
    | ok questions =>
      exact (withModel_allows setup (fun id => answerRun_allows setup id _) source model).bind
        fun _ => .pure _
  | integration skipStreaming skipAnthropic skipProviders seed json =>
    exact (surfaceRun_allows setup _).bind fun _ => .pure _
  | providers named all json => exact (providerRun_allows setup _).bind fun _ => .pure _
  | providerStreaming named models sample analyze maxTime json =>
    exact (storyRun_allows setup _).bind fun _ => .pure _
  | configInit output force => exact .pure _
  | completions shell => exact .pure _

end Sends
end Command

/-- **The settings in force.** A command that needs the gateway fails before it sends anything, or
it runs on settings that are valid, and these bound every request it sends, except the one for
health. The settings are not valid in one case alone: the command brings a wait of its own, which
is zero. -/
theorem run_inForce (world : World) (i : Invocation) (h : i.command.needsGateway = true) :
    match Settings.layered world.files world.environment i.overrides with
    | .error e => Command.run world i = pure (.error (.settings e))
    | .ok settings =>
      let setup := i.command.setup settings
      Command.run world i = i.command.probe world setup ∧
      (∀ gateway seen, ∀ q ∈ (Command.run world i).asked gateway seen, setup.client.Allows q) ∧
      (setup.settings.check = .ok () ↔ i.command.maxTime? ≠ some 0) ∧
      (i.command.maxTime? = some 0 → setup.settings.check = .error .noTimeout) := by
  rw [Command.run, if_pos h]
  cases hlayered : Settings.layered world.files world.environment i.overrides with
  | error e => rfl
  | ok settings =>
    have hcheck := Command.check_setup (Settings.check_of_layered hlayered) i.command
    have hallows := Command.probe_allows world (i.command.setup settings) i.command
    refine ⟨rfl, fun gateway seen => hallows.of_mem_asked, ?_, fun hzero => ?_⟩
    · rw [hcheck]
      split
      · next hzero => exact ⟨fun herror => (nomatch herror), fun hne => absurd hzero hne⟩
      · next hne => exact ⟨fun _ => hne, fun _ => rfl⟩
    · rw [hcheck, if_pos hzero]

/-- Nothing but the command line. -/
def bareWorld : World where
  files _ := .absent .missing
  environment _ := none
  chance _ := { word := fun _ => 0 }

/-- A command that brings a wait of zero. -/
def hastyStories : Invocation := { command := .providerStreaming [] [] false false 0 false }

/-- The settings of all layers are the usual ones, and they are valid. -/
theorem layered_hastyStories :
    Settings.layered bareWorld.files bareWorld.environment hastyStories.overrides = .ok {} := by
  have hcheck : ({} : Settings).check = .ok () := rfl
  refine bind_eq_ok_iff.mpr ⟨{}, rfl, bind_eq_ok_iff.mpr ⟨(), ?_, rfl⟩⟩
  exact mapError_eq_ok_iff.mpr hcheck

theorem run_inForce_hasty :
    hastyStories.command.needsGateway = true ∧
    let setup := hastyStories.command.setup {}
    Command.run bareWorld hastyStories = hastyStories.command.probe bareWorld setup ∧
    setup.settings.check = .error .noTimeout := by
  have hrun := run_inForce bareWorld hastyStories rfl
  rw [layered_hastyStories] at hrun
  exact ⟨rfl, hrun.1, hrun.2.2.2 rfl⟩

/-- This command line gives that command. The settings of all layers are valid, those in force are
not. -/
theorem inForce_noTimeout :
    Command.parse ["provider-streaming", "--max-time", "0"] = .ok hastyStories ∧
    Settings.layered bareWorld.files bareWorld.environment hastyStories.overrides = .ok {} ∧
    (hastyStories.command.setup {}).settings.check = .error .noTimeout :=
  ⟨by decide +kernel, layered_hastyStories, rfl⟩

end GatewayProbe
