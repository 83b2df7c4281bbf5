import L7Proxy.Proxy.Answers
import L7Proxy.System.Accounting
import L7Proxy.System.Components
import L7Proxy.System.Fallback
import L7Proxy.System.Metrics

/-!
# The responses of a run

Every response delivered to a client is accounted for by the client's own request: the
limiter refused it, its overall timeout has passed, or it ended by itself.
-/

set_option autoImplicit false

namespace L7Proxy

open Interaction

/-- A request that timed out did so after the overall timeout. -/
def Task.Late (overallTimeout : Duration) (now : Instant) (task : Task) : Prop :=
  task.status = .timedOut → task.arrived + overallTimeout ≤ now

namespace System

variable {externals : Externals} {system after final : System} {actions : List Action}

theorem timeOut_late {index : Nat} {task : Task} (timedOut : system.timeOut index = some after)
    (stored : system.tasks[index]? = some task) : task.arrived + system.overallTimeout ≤ system.clock := by
  obtain ⟨found, here, timedOut⟩ := Option.bind_eq_some_iff.mp timedOut
  obtain ⟨effect, _, timedOut⟩ := Option.bind_eq_some_iff.mp timedOut
  rw [stored, Option.some.injEq] at here
  subst here
  split at timedOut
  · next condition => exact condition.2
  · cases timedOut

theorem step_overallTimeout {action : Action} (stepped : system.step externals action = some after) :
    after.overallTimeout = system.overallTimeout := by
  cases step_cases stepped <;> rfl

theorem timedOut_late {config : Config} {now : Instant}
    (executed : execute (step externals) (.initial externals config now) actions = some final) :
    ∀ task ∈ final.tasks, task.Late final.overallTimeout final.clock := by
  have none : ∀ task ∈ (initial externals config now).tasks,
      task.Late (initial externals config now).overallTimeout (initial externals config now).clock :=
    fun _ absent => absurd absent List.not_mem_nil
  refine execute_preserves (fun system => ∀ task ∈ system.tasks, task.Late system.overallTimeout system.clock) ?_ none
    executed
  intro system action after late stepped task member timedOut
  rw [step_overallTimeout stepped]
  have forward := step_clock stepped
  rcases step_member stepped member with old | ⟨req, status, started, rfl⟩ | ⟨index, earlier, app, found, moves⟩
  · exact (late task old timedOut).trans forward
  · rcases started with same | same
    · cases same.symm.trans timedOut
    · cases same.symm.trans timedOut
  · cases moves with
    | polled live => cases live.symm.trans timedOut
    | timedOut live rest awaits => exact (timeOut_late stepped found).trans forward
    | dropped => cases timedOut

/-- Every response delivered in a run is that of the rate limiter to a request that then did
nothing, that of the overall timeout once it had passed, or the result of the request, which
is the answer of its latest call, or tells of no route, an unreadable body or attempts that
all failed and why there were no more. -/
theorem responses_explained {config : Config} {now : Instant}
    (executed : execute (step externals) (.initial externals config now) actions = some final) {task : Task}
    (member : task ∈ final.tasks) {resp : Response} (delivered : task.response = some resp) :
    (task.status = .refused ∧ task.history = [] ∧ resp = rateLimitedResponse) ∨
      (task.status = .timedOut ∧ task.arrived + final.overallTimeout ≤ final.clock ∧ resp = timedOutResponse) ∨
      ∃ result, Explained task.request task.history result ∧ resp = proxyService result := by
  unfold Task.response at delivered
  cases status : task.status with
  | refused =>
      rw [status] at delivered
      exact .inl ⟨rfl, untouched executed task member status, (Option.some.inj delivered).symm⟩
  | timedOut =>
      rw [status] at delivered
      exact .inr (.inl ⟨rfl, timedOut_late executed task member status, (Option.some.inj delivered).symm⟩)
  | dropped =>
      rw [status] at delivered
      cases delivered
  | live =>
      rw [status] at delivered
      obtain ⟨result, finished, same⟩ := Option.map_eq_some_iff.mp delivered
      have run := (System.consistent executed task member).steps
      rw [Task.rest_of_result finished] at run
      exact .inr (.inr ⟨result, runs_explained run, same.symm⟩)

/-- The upstream answers one request, and refuses the connection of another. -/
theorem responses_explained_answered :
    (∃ final task,
      execute (step sampleExternals) (.initial sampleExternals twoUpstreamsConfig 0) answeredRequest = some final ∧
      final.tasks = [task] ∧ task.status = .live ∧
      ∃ result, Explained task.request task.history result ∧ ⟨.ok, [], []⟩ = proxyService result) ∧
    ∃ final task,
      execute (step sampleExternals) (.initial sampleExternals probedConfig 0) refusedConnection = some final ∧
      final.tasks = [task] ∧ task.status = .live ∧
      ∃ result, Explained task.request task.history result ∧
        .text .badGateway "Bad Gateway" = proxyService result := by
  have explains : ∀ {config actions final task resp},
      execute (step sampleExternals) (.initial sampleExternals config 0) actions = some final →
      final.tasks = [task] → task.status = .live → task.response = some resp →
      ∃ result, Explained task.request task.history result ∧ resp = proxyService result := by
    intro config actions final task resp executed only live delivered
    rcases responses_explained executed (only ▸ List.mem_singleton_self _) delivered with
      ⟨refused, _⟩ | ⟨timedOut, _⟩ | explained
    · cases live.symm.trans refused
    · cases live.symm.trans timedOut
    · exact explained
  have answered : ∃ final task,
      execute (step sampleExternals) (.initial sampleExternals twoUpstreamsConfig 0) answeredRequest = some final ∧
      final.tasks = [task] ∧ task.status = .live ∧ task.response = some ⟨.ok, [], []⟩ := ⟨_, _, rfl, rfl, rfl, rfl⟩
  have failed : ∃ final task,
      execute (step sampleExternals) (.initial sampleExternals probedConfig 0) refusedConnection = some final ∧
      final.tasks = [task] ∧ task.status = .live ∧
      task.response = some (.text .badGateway "Bad Gateway") := ⟨_, _, rfl, rfl, rfl, rfl⟩
  obtain ⟨final, task, executed, only, live, delivered⟩ := answered
  obtain ⟨failedFinal, failedTask, ran, alone, running, reported⟩ := failed
  exact ⟨⟨final, task, executed, only, live, explains executed only live delivered⟩,
    failedFinal, failedTask, ran, alone, running, explains ran alone running reported⟩

end System

end L7Proxy
