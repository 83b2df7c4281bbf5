import L7Proxy.Proxy.Routing
import L7Proxy.System.Components
import L7Proxy.System.Reload

/-!
# Loads move forward

A request may pair its configuration with the router of another one, but only with a newer
one, and no request loads a router older than one that was loaded before.
-/

set_option autoImplicit false

namespace L7Proxy

open Interaction

def routerLoaded : Instant × Happening → Option (Arc Router)
  | (_, .event _ ⟨.loadRouter, router⟩) => some router
  | _ => none

namespace System

variable {externals : Externals} {system after final : System} {actions : List Action}

/-- The routers loaded by all requests of a run, in order. -/
def routerLoads (externals : Externals) (start : System) (actions : List Action) : List (Arc Router) :=
  (timeline externals start actions).filterMap routerLoaded

theorem Logged.config_le (logged : system.Logged) :
    system.app.config.generation ≤ system.app.router.generation := by
  have reloader := logged.reloader
  unfold ReloaderConsistent at reloader
  split at reloader
  · exact reloader.1.ge
  · exact reloader.1.ge
  · exact reloader.1.symm ▸ Nat.le_succ _

/-- The configurations a task loaded are no newer than a generation, nor than any router
it loaded. -/
structure Forward (generation : Nat) (history : List ProxyEvent) : Prop where
  configs : ∀ config, ⟨.loadConfig, config⟩ ∈ history → config.generation ≤ generation
  pairs : ∀ config router, ⟨.loadConfig, config⟩ ∈ history → ⟨.loadRouter, router⟩ ∈ history →
    config.generation ≤ router.generation

theorem Forward.mono {history : List ProxyEvent} {generation later : Nat} (forward : Forward generation history)
    (newer : generation ≤ later) : Forward later history :=
  ⟨fun config member => (forward.configs config member).trans newer, forward.pairs⟩

/-- A configuration is loaded before the router. -/
theorem unloaded_of_pending {task : Task} (consistent : task.Consistent externals.parses)
    (pending : task.pending = some .loadConfig) (router : Arc Router) : ⟨.loadRouter, router⟩ ∉ task.history := by
  obtain ⟨_, next, rest⟩ := Task.pending_eq_some pending
  have steps := consistent.steps
  have routed := steps_routed steps
  rw [rest] at steps
  have allowed := ((proxyRequest_routes externals.parses task.request).steps steps).1
  cases loaded : (task.history.foldl (routeKeeper task.request).next .none).router with
  | none => exact routed.unloaded loaded router
  | some earlier =>
      simp only [routeKeeper] at loaded
      simp only [routeKeeper, loaded] at allowed
      split at allowed
      · cases allowed
      · rcases allowed with concerns | ⟨panics, _⟩
        · exact concerns.elim
        · cases panics

/-- The event a task performs next keeps its loads in order. -/
theorem Forward.event {index : Nat} {task : Task} {event : ProxyEvent} {input : Input} {app : AppState}
    (logged : system.Logged) (consistent : task.Consistent externals.parses)
    (aboutTo : system.AboutTo externals index task event input app)
    (forward : Forward system.app.router.generation task.history) :
    Forward system.app.router.generation (task.history ++ [event]) := by
  have performed := aboutTo.performed
  have pending := aboutTo.pending
  obtain ⟨effect, answer⟩ := event
  have others : (∀ config, (⟨.loadConfig, config⟩ : ProxyEvent) ≠ ⟨effect, answer⟩) →
      (∀ router, (⟨.loadRouter, router⟩ : ProxyEvent) ≠ ⟨effect, answer⟩) →
        Forward system.app.router.generation (task.history ++ [⟨effect, answer⟩]) := by
    intro noConfig noRouter
    have earlier : ∀ config, (⟨.loadConfig, config⟩ : ProxyEvent) ∈ task.history ++ [⟨effect, answer⟩] →
        ⟨.loadConfig, config⟩ ∈ task.history := fun config member =>
      (List.mem_append.mp member).resolve_right fun last => noConfig config (List.mem_singleton.mp last)
    refine ⟨fun config member => forward.configs config (earlier config member), fun config router first second =>
      forward.pairs config router (earlier config first) ?_⟩
    exact (List.mem_append.mp second).resolve_right fun last => noRouter router (List.mem_singleton.mp last)
  cases effect with
  | loadConfig =>
      have answered : answer = system.app.config := by
        cases input <;> cases performed
        rfl
      subst answered
      have unloaded := unloaded_of_pending consistent pending
      refine ⟨fun config member => ?_, fun config router _ second => ?_⟩
      · rcases List.mem_append.mp member with old | new
        · exact forward.configs config old
        · cases List.mem_singleton.mp new
          exact logged.config_le
      · rcases List.mem_append.mp second with old | new
        · exact absurd old (unloaded router)
        · cases List.mem_singleton.mp new
  | loadRouter =>
      have answered : answer = system.app.router := by
        cases input <;> cases performed
        rfl
      subst answered
      have earlier : ∀ config, (⟨.loadConfig, config⟩ : ProxyEvent) ∈
          task.history ++ [⟨.loadRouter, system.app.router⟩] → ⟨.loadConfig, config⟩ ∈ task.history := by
        intro config member
        rcases List.mem_append.mp member with old | new
        · exact old
        · cases List.mem_singleton.mp new
      refine ⟨fun config member => forward.configs config (earlier config member), fun config router first second => ?_⟩
      rcases List.mem_append.mp second with old | new
      · exact forward.pairs config router (earlier config first) old
      · cases List.mem_singleton.mp new
        exact forward.configs config (earlier config first)
  | _ =>
      apply others
      · intro config same
        cases same
      · intro router same
        cases same

/-- A step shows at most one load, of the router as it is stored. -/
theorem happens_routerLoaded {action : Action} (stepped : system.step externals action = some after) :
    (system.happens externals action).filterMap routerLoaded = [] ∨
      (system.happens externals action).filterMap routerLoaded = [system.app.router] := by
  cases step_cases stepped with
  | arrived | built | routerStored | configStored | probed | ticked => exact .inl rfl
  | @moved index task next action app stored moves =>
      cases moves with
      | timedOut | dropped => exact .inl rfl
      | @polled input effect later answer app live rest performed =>
          rw [happens, polledEvent_eq_some stored live rest performed]
          cases effect with
          | loadRouter =>
              have answered : answer = system.app.router := by
                cases input <;> cases performed
                rfl
              subst answered
              exact .inr rfl
          | _ => exact .inl rfl

/-- In every run no request loads a router older than one loaded before, and none pairs its
configuration with an older router. -/
theorem snapshots_move_forward {config : Config} {now : Instant}
    (executed : execute (step externals) (.initial externals config now) actions = some final) :
    (routerLoads externals (.initial externals config now) actions).Pairwise
        (fun earlier later => earlier.generation ≤ later.generation) ∧
      ∀ task ∈ final.tasks, ∀ config router, ⟨.loadConfig, config⟩ ∈ task.history →
        ⟨.loadRouter, router⟩ ∈ task.history → config.generation ≤ router.generation := by
  have ordered : (routerLoads externals (.initial externals config now) actions).Pairwise
        (fun earlier later => earlier.generation ≤ later.generation) ∧
      (∀ router ∈ routerLoads externals (.initial externals config now) actions,
        router.generation ≤ final.app.router.generation) ∧
      ∀ task ∈ final.tasks, Forward final.app.router.generation task.history := by
    induction actions using List.reverseRecOn generalizing final with
    | nil =>
        cases executed
        simp [routerLoads, timeline, initial]
    | append_singleton actions action ih =>
        obtain ⟨before, reached, single⟩ := execute_append.mp executed
        obtain ⟨after, stepped, finished⟩ := execute_cons.mp single
        cases finished
        obtain ⟨sorted, past, tasks⟩ := ih reached
        have logged := (execute_pointers (initial_logged config now) reached).1
        have newer : before.app.router.generation ≤ final.app.router.generation :=
          (logged.step stepped).router.symm ▸ Nat.le_add_right _ _
        have loads : routerLoads externals (.initial externals config now) (actions ++ [action]) =
            routerLoads externals (.initial externals config now) actions ++
              (before.happens externals action).filterMap routerLoaded := by
          rw [routerLoads, timeline, observations_concat reached stepped, List.filterMap_append]
          rfl
        refine ⟨?_, ?_, fun task member => ?_⟩
        · rcases happens_routerLoaded stepped with nothing | loaded
          · rw [loads, nothing, List.append_nil]
            exact sorted
          · rw [loads, loaded]
            exact List.pairwise_append.mpr ⟨sorted, List.pairwise_singleton _ _, fun router earlier latest here =>
              List.mem_singleton.mp here ▸ past router earlier⟩
        · intro router member
          rw [loads] at member
          rcases List.mem_append.mp member with old | new
          · exact (past router old).trans newer
          · rcases happens_routerLoaded stepped with nothing | loaded
            · rw [nothing] at new
              cases new
            · rw [loaded, List.mem_singleton] at new
              exact new ▸ newer
        · obtain ⟨index, stored⟩ := List.mem_iff_getElem?.mp member
          rcases step_history stepped stored with
            empty | ⟨earlier, found, same | ⟨event, input, app, _, aboutTo, grown⟩⟩
          · rw [empty]
            exact ⟨fun _ absent => absurd absent List.not_mem_nil, fun _ _ absent => absurd absent List.not_mem_nil⟩
          · rw [same]
            exact (tasks earlier (List.mem_of_getElem? found)).mono newer
          · have known := List.mem_of_getElem? found
            rw [grown]
            exact ((tasks earlier known).event logged (System.consistent reached earlier known) aboutTo).mono newer
  exact ⟨ordered.1, fun task member => (ordered.2.2 task member).pairs⟩

theorem snapshots_move_forward_mixed :
    ∃ final task, execute (step sampleExternals) (.initial sampleExternals firstConfig 0) reloadBetweenLoads =
        some final ∧ final.tasks[0]? = some task ∧
      ∀ config router, ⟨.loadConfig, config⟩ ∈ task.history → ⟨.loadRouter, router⟩ ∈ task.history →
        config.generation ≤ router.generation := by
  have run : ∃ final task, execute (step sampleExternals) (.initial sampleExternals firstConfig 0) reloadBetweenLoads =
      some final ∧ final.tasks[0]? = some task := ⟨_, _, rfl, rfl⟩
  obtain ⟨final, task, executed, stored⟩ := run
  exact ⟨final, task, executed, stored, (snapshots_move_forward executed).2 task (List.mem_of_getElem? stored)⟩

end System

end L7Proxy
