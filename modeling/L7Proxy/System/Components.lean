import L7Proxy.Health.History
import L7Proxy.Proxy.Accounts
import L7Proxy.Proxy.RetryLoop
import L7Proxy.RateLimiter.Concurrent
import L7Proxy.RetryBudget.Window
import L7Proxy.System.Tasks

/-!
# The shared components of a run

Requests, the health checker and the clients call the health tracker, the retry budget
and the rate limiter in any interleaving. What a run does to each of them is what the
calls it made do one after the other, in the order of their times.
-/

set_option autoImplicit false

namespace L7Proxy

open Interaction CircuitBreaker

/-!
## Calls
-/

/-- The call of the health tracker that an effect is. -/
def Effect.healthCall : Effect → Option (Call String)
  | .isHealthy upstream => some (.query upstream)
  | .recordFailure upstream => some (.failure upstream)
  | .recordSuccess upstream => some (.success upstream)
  | _ => none

/-- The call of the retry budget that an event is, with its answer. -/
def budgetEvent (time : Instant) (event : ProxyEvent) : Option BudgetEvent :=
  match event with
  | ⟨.recordRequest, _⟩ => some ⟨time, .recordRequest, true, false⟩
  | ⟨.allowRetry, granted⟩ => some ⟨time, .allowRetry, true, granted⟩
  | _ => none

/-- The report of the health checker for the outcome of one probe. -/
def probeCall (upstream : String) (status : Option StatusCode) : Call String :=
  if status.any fun code => decide (200 ≤ code.code ∧ code.code < 300) then .success upstream
  else .failure upstream

theorem probe_health (app : AppState) (upstream : String) (status : Option StatusCode) (now : Instant) :
    (app.probe upstream status now).health = app.health.call (now, probeCall upstream status) := by
  unfold AppState.probe probeCall
  cases status with
  | none => rfl
  | some code =>
      simp only [Option.any_some, decide_eq_true_eq]
      split <;> rfl

/-- What an effect does to the shared components: it makes its calls. -/
theorem perform_components {externals : Externals} {app changed : AppState} {now : Instant} {effect : Effect}
    {input : Input} {answer : Answer effect}
    (performed : app.perform externals now effect input = some (answer, changed)) :
    changed.rateLimiter = app.rateLimiter ∧
      changed.health = (effect.healthCall.map ((now, ·))).elim app.health app.health.call ∧
      respond RetryBudget.perform app.retryBudget
          ((budgetEvent now ⟨effect, answer⟩).map fun event => (event.time, event.call)).toList =
        ((budgetEvent now ⟨effect, answer⟩).toList, changed.retryBudget) := by
  unfold AppState.perform at performed
  split at performed
  case h_10 ref poolSize key =>
    obtain ⟨balancer, stored, performed⟩ := Option.bind_eq_some_iff.mp performed
    cases performed
    exact ⟨rfl, rfl, rfl⟩
  case h_11 ref index =>
    obtain ⟨balancer, stored, performed⟩ := Option.bind_eq_some_iff.mp performed
    cases performed
    exact ⟨rfl, rfl, rfl⟩
  case h_12 ref index =>
    obtain ⟨balancer, stored, performed⟩ := Option.bind_eq_some_iff.mp performed
    cases performed
    exact ⟨rfl, rfl, rfl⟩
  case h_16 =>
    obtain ⟨_, returned, same⟩ := Option.map_eq_some_iff.mp performed
    cases same
    exact ⟨rfl, rfl, by simp [budgetEvent, respond, RetryBudget.perform, returned]⟩
  case h_17 =>
    obtain ⟨_, returned, same⟩ := Option.map_eq_some_iff.mp performed
    cases same
    exact ⟨rfl, rfl, by simp [budgetEvent, respond, RetryBudget.perform, returned]⟩
  case h_18 greatest amount =>
    split at performed <;> cases performed
    exact ⟨rfl, rfl, rfl⟩
  case h_21 => cases performed
  all_goals
    cases performed
    exact ⟨rfl, rfl, rfl⟩

/-- An effect makes at most one call of the retry budget. -/
theorem perform_budget {externals : Externals} {app changed : AppState} {now : Instant} {effect : Effect}
    {input : Input} {answer : Answer effect}
    (performed : app.perform externals now effect input = some (answer, changed)) :
    changed.retryBudget = app.retryBudget ∨
      ∃ call, changed.retryBudget = (app.retryBudget.perform (now, call)).2 := by
  have budget := (perform_components performed).2.2
  unfold budgetEvent at budget
  split at budget
  · exact .inr ⟨.recordRequest, (congrArg Prod.snd budget).symm⟩
  · exact .inr ⟨.allowRetry, (congrArg Prod.snd budget).symm⟩
  · exact .inl (congrArg Prod.snd budget).symm

/-!
## The timeline of a run
-/

inductive Happening where
  | arrival (ip : IpAddr) (admitted : Bool)
  | event (task : Nat) (event : ProxyEvent)
  | probe (upstream : String) (status : Option StatusCode)

def healthSeen : Instant × Happening → Option HealthCall
  | (_, .arrival _ _) => none
  | (now, .event _ performed) => performed.effect.healthCall.map ((now, ·))
  | (now, .probe upstream status) => some (now, probeCall upstream status)

def budgetSeen : Instant × Happening → Option BudgetEvent
  | (now, .event _ performed) => budgetEvent now performed
  | _ => none

/-- The event of a task, if that is what happened. -/
def taskSeen (index : Nat) : Instant × Happening → Option ProxyEvent
  | (_, .event task performed) => if task = index then some performed else none
  | _ => none

theorem taskSeen_eq_some {index : Nat} {seen : Instant × Happening} {event : ProxyEvent}
    (found : taskSeen index seen = some event) : ∃ time, seen = (time, .event index event) := by
  unfold taskSeen at found
  split at found
  · next time task performed =>
      split at found <;> cases found
      next same => exact ⟨time, by rw [same]⟩
  · cases found

namespace System

/-- The event a poll of a task performs. -/
def polledEvent (externals : Externals) (system : System) (index : Nat) (input : Input) : Option ProxyEvent := do
  let task ← system.tasks[index]?
  let effect ← task.pending
  let performed ← system.app.perform externals system.clock effect input
  some ⟨effect, performed.1⟩

/-- What an action does that others can notice, at the reading of the clock. -/
def happens (externals : Externals) (system : System) : Action → List (Instant × Happening)
  | .arrive _ remoteIp =>
      [(system.clock, .arrival remoteIp (system.app.rateLimiter.check remoteIp system.clock).1)]
  | .poll index input =>
      ((system.polledEvent externals index input).map fun event => (system.clock, .event index event)).toList
  | .probe upstream status => [(system.clock, .probe upstream status)]
  | _ => []

def timeline (externals : Externals) (start : System) (actions : List Action) : List (Instant × Happening) :=
  observations (step externals) (happens externals) start actions

/-- The calls of the health tracker in a run, by its requests and by the checker. -/
def healthCalls (externals : Externals) (start : System) (actions : List Action) : List HealthCall :=
  (timeline externals start actions).filterMap healthSeen

/-- The calls of the retry budget in a run, with their answers. -/
def budgetEvents (externals : Externals) (start : System) (actions : List Action) : List BudgetEvent :=
  (timeline externals start actions).filterMap budgetSeen

variable {externals : Externals} {system after start final : System} {actions : List Action}

theorem step_clock {action : Action} (stepped : system.step externals action = some after) :
    system.clock ≤ after.clock := by
  cases action with
  | tick elapsed =>
      simp only [step] at stepped
      split at stepped <;> cases stepped
      next forward => exact le_add_of_nonneg_right forward
  | _ =>
      cases step_cases stepped <;> exact le_rfl

theorem timeline_sorted (executed : execute (step externals) start actions = some final) :
    (timeline externals start actions).Pairwise (fun left right => left.1 ≤ right.1) ∧
      ∀ seen ∈ timeline externals start actions, seen.1 ≤ final.clock := by
  refine observations_sorted (fun _ _ _ stepped => step_clock stepped) ?_ executed
  intro system action seen member
  cases action with
  | arrive | probe =>
      rw [happens, List.mem_singleton] at member
      rw [member]
  | poll index input =>
      rw [happens, Option.mem_toList, Option.map_eq_some_iff] at member
      obtain ⟨event, _, same⟩ := member
      rw [← same]
  | _ => simp [happens] at member

theorem polledEvent_eq_some {index : Nat} {input : Input} {task : Task} {effect : Effect}
    {next : Answer effect → Proxy ProxyResult} {answer : Answer effect} {app : AppState}
    (stored : system.tasks[index]? = some task) (live : task.status = .live) (rest : task.rest = .act effect next)
    (performed : system.app.perform externals system.clock effect input = some (answer, app)) :
    system.polledEvent externals index input = some ⟨effect, answer⟩ := by
  have pending : task.pending = some effect := by simp [Task.pending, live, rest]
  simp [polledEvent, stored, pending, performed]

/-- One step makes the calls it shows, and no others unless it poisons the lock of the retry
budget. -/
theorem step_components {action : Action} (stepped : system.step externals action = some after) :
    after.app.health =
        ((system.happens externals action).filterMap healthSeen).foldl HealthTracker.call system.app.health ∧
      (after.app.retryBudget.poisoned = false →
        respond RetryBudget.perform system.app.retryBudget
            (((system.happens externals action).filterMap budgetSeen).map fun event => (event.time, event.call)) =
          ((system.happens externals action).filterMap budgetSeen, after.app.retryBudget)) := by
  cases step_cases stepped with
  | arrived | built | routerStored | configStored | ticked => exact ⟨rfl, fun _ => rfl⟩
  | @moved index task next action app stored moves =>
      cases moves with
      | @polled input effect later answer app live rest performed =>
          obtain ⟨_, health, budget⟩ := perform_components performed
          rw [happens, polledEvent_eq_some stored live rest performed]
          constructor
          · rw [health]
            cases call : effect.healthCall <;> simp [healthSeen, call]
          · intro _
            simp only [Option.map_some, Option.toList_some, List.filterMap_cons, List.filterMap_nil, budgetSeen]
            cases event : budgetEvent system.clock ⟨effect, answer⟩ <;> simpa [event] using budget
      | timedOut => exact ⟨rfl, fun _ => rfl⟩
      | dropped live rest abandoned =>
          refine ⟨rfl, fun calm => ?_⟩
          rcases abandon_cases abandoned with ⟨same, _⟩ | ⟨poisoned, _⟩
          · rw [same]
            rfl
          · cases poisoned.symm.trans calm
  | @probed upstream status health reported =>
      have same := probe_health system.app upstream status system.clock
      rw [reported] at same
      exact ⟨same, fun _ => rfl⟩

/-- A poisoned lock stays poisoned. -/
theorem step_calm {action : Action} (stepped : system.step externals action = some after)
    (calm : after.app.retryBudget.poisoned = false) : system.app.retryBudget.poisoned = false := by
  have calls := (step_components stepped).2 calm
  rw [← Bool.not_eq_true]
  intro poisoned
  have kept := @respond_preserves _ _ _ RetryBudget.perform (fun budget => budget.poisoned = true)
    (fun _ _ before => RetryBudget.perform_poisoned_iff.mpr (.inl before)) _ poisoned
    (((system.happens externals action).filterMap budgetSeen).map fun event => (event.time, event.call))
  rw [calls, calm] at kept
  cases kept

theorem execute_health (executed : execute (step externals) start actions = some final) :
    final.app.health = (healthCalls externals start actions).foldl HealthTracker.call start.app.health := by
  refine observations_preserves (fun seen system =>
    system.app.health = (seen.filterMap healthSeen).foldl HealthTracker.call start.app.health) ?_ rfl executed
  intro seen system action after holds stepped
  rw [List.filterMap_append, List.foldl_append, ← holds]
  exact (step_components stepped).1

theorem execute_budget (executed : execute (step externals) start actions = some final)
    (calm : final.app.retryBudget.poisoned = false) :
    respond RetryBudget.perform start.app.retryBudget
        ((budgetEvents externals start actions).map fun event => (event.time, event.call)) =
      (budgetEvents externals start actions, final.app.retryBudget) := by
  refine observations_preserves (fun (seen : List (Instant × Happening)) system =>
    system.app.retryBudget.poisoned = false → respond RetryBudget.perform start.app.retryBudget
      ((seen.filterMap budgetSeen).map fun event => (event.time, event.call)) =
        (seen.filterMap budgetSeen, system.app.retryBudget)) ?_ (fun _ => rfl) executed calm
  intro seen system action after holds stepped calm
  rw [List.filterMap_append, List.map_append, respond_append, holds (step_calm stepped calm),
    (step_components stepped).2 calm]

/-- What a step adds to the history of a task is what it shows of the task. -/
theorem step_taskSeen {action : Action} (stepped : system.step externals action = some after) (index : Nat) :
    (after.tasks[index]?).elim [] Task.history =
      (system.tasks[index]?).elim [] Task.history ++
        (system.happens externals action).filterMap (taskSeen index) := by
  cases step_cases stepped with
  | arrived req remoteIp =>
      simp only [happens, List.filterMap_cons, taskSeen, List.filterMap_nil, List.append_nil, arrive]
      rcases Nat.lt_trichotomy index system.tasks.length with old | same | beyond
      · rw [List.getElem?_append_left old]
      · rw [same, List.getElem?_concat_length, List.getElem?_eq_none le_rfl]
        rfl
      · rw [List.getElem?_eq_none (by rw [List.length_append]; exact beyond), List.getElem?_eq_none beyond.le]
  | @moved position task next action app stored moves =>
      have inside := (List.getElem?_eq_some_iff.mp stored).1
      cases moves with
      | @polled input effect later answer app live rest performed =>
          rw [happens, polledEvent_eq_some stored live rest performed]
          by_cases here : position = index
          · subst here
            simp [List.getElem?_set_self inside, stored, taskSeen]
          · simp [List.getElem?_set_ne here, taskSeen, here]
      | timedOut | dropped =>
          by_cases here : position = index
          · subst here
            simp [List.getElem?_set_self inside, stored, happens]
          · simp [List.getElem?_set_ne here, happens]
  | built | routerStored | configStored | ticked => simp [happens]
  | probed => simp [happens, taskSeen]

/-- The events of a task on the timeline are its history. -/
theorem timeline_history {config : Config} {now : Instant}
    (executed : execute (step externals) (.initial externals config now) actions = some final) (index : Nat) :
    (timeline externals (.initial externals config now) actions).filterMap (taskSeen index) =
      (final.tasks[index]?).elim [] Task.history := by
  refine observations_preserves (fun (seen : List (Instant × Happening)) (system : System) =>
    seen.filterMap (taskSeen index) = (system.tasks[index]?).elim [] Task.history) ?_ rfl executed
  intro seen system action after holds stepped
  rw [List.filterMap_append, holds, step_taskSeen stepped]

/-!
## Health verdicts
-/

theorem initial_health (config : Config) (now : Instant)
    (executed : execute (step externals) (.initial externals config now) actions = some final) :
    final.app.health = HealthTracker.run config.server.failureThreshold config.server.healthCooldownSecs
      (healthCalls externals (.initial externals config now) actions) :=
  execute_health executed

/-- What is kept of a timeline with its times is in their order. -/
theorem timeline_kept {Kept : Type} {keep : Instant × Happening → Option Kept} {timeOf : Kept → Instant}
    (timed : ∀ seen kept, keep seen = some kept → timeOf kept = seen.1)
    (executed : execute (step externals) start actions = some final) :
    ((timeline externals start actions).filterMap keep).Pairwise (fun left right => timeOf left ≤ timeOf right) ∧
      ∀ kept ∈ (timeline externals start actions).filterMap keep, timeOf kept ≤ final.clock := by
  obtain ⟨sorted, past⟩ := timeline_sorted executed
  constructor
  · refine List.Pairwise.filterMap keep ?_ sorted
    intro left right ordered first firstFound second secondFound
    rw [timed left first firstFound, timed right second secondFound]
    exact ordered
  · intro kept member
    obtain ⟨seen, present, found⟩ := List.mem_filterMap.mp member
    rw [timed seen kept found]
    exact past seen present

theorem healthSeen_time (seen : Instant × Happening) (call : HealthCall) (found : healthSeen seen = some call) :
    call.1 = seen.1 := by
  obtain ⟨now, happening⟩ := seen
  cases happening with
  | arrival => cases found
  | event task performed =>
      obtain ⟨_, _, same⟩ := Option.map_eq_some_iff.mp found
      rw [← same]
  | probe upstream status =>
      cases found
      rfl

theorem perform_isHealthy {app changed : AppState} {now : Instant} {upstream : String} {input : Input}
    {healthy : Bool}
    (performed : app.perform externals now (.isHealthy upstream) input = some (healthy, changed)) :
    healthy = (app.health.isHealthy upstream now).1 := by
  cases input <;> cases performed
  rfl

/-- A request that asks for an upstream finds it unhealthy exactly when, among all the
reports of all requests and of the checker so far, the failures since the last reset
reach the threshold and the latest of them is within the cooldown. -/
theorem asks_by_all_reports {config : Config} {now : Instant} {before : System} {index : Nat} {input : Input}
    {task : Task} {upstream : String} (small : config.server.failureThreshold < u32Max)
    (executed : execute (step externals) (.initial externals config now) actions = some before)
    (stored : before.tasks[index]? = some task) (pending : task.pending = some (.isHealthy upstream))
    (polled : before.step externals (.poll index input) = some after) :
    ∃ healthy, (after.tasks[index]?).map Task.history = some (task.history ++ [⟨.isHealthy upstream, healthy⟩]) ∧
      (healthy = false ↔
        (HealthTracker.policy config.server.failureThreshold config.server.healthCooldownSecs).Tripped
          ((HealthTracker.policy config.server.failureThreshold config.server.healthCooldownSecs).failuresSince
            upstream (healthCalls externals (.initial externals config now) actions)) before.clock) := by
  cases step_cases polled with
  | @moved _ actor _ _ _ found moves =>
      cases moves with
      | @polled _ _ next healthy _ live rest performed =>
          rw [stored, Option.some.injEq] at found
          subst found
          rw [Task.pending, live, rest, Option.some.injEq] at pending
          subst pending
          have inside := (List.getElem?_eq_some_iff.mp stored).1
          refine ⟨healthy, by rw [List.getElem?_set_self inside]; rfl, ?_⟩
          obtain ⟨sorted, past⟩ := timeline_kept healthSeen_time executed
          rw [perform_isHealthy performed, initial_health config now executed]
          exact HealthTracker.run_isHealthy_eq_false_iff _ small sorted past upstream

/-- A request is about to ask for its first upstream. -/
def untilAsked : List Action :=
  [.arrive plainRequest plainClient, .poll 0 .none, .poll 0 (.uuid plainId), .poll 0 .none, .poll 0 .none,
    .poll 0 (.body (some [])), .poll 0 .none]

def failingConfig : Config :=
  { twoUpstreamsConfig with server := { twoUpstreamsConfig.server with healthCheck := some {} } }

/-- Three probes of the upstream fail before a request is about to ask for it. -/
def failedProbes : List Action :=
  [.probe "http://10.0.0.1:9001" none, .tick 10, .probe "http://10.0.0.1:9001" none, .tick 10,
    .probe "http://10.0.0.1:9001" none] ++ untilAsked

theorem asks_by_all_reports_first :
    ∃ before after task, execute (step sampleExternals) (.initial sampleExternals failingConfig 0) failedProbes =
        some before ∧ before.step sampleExternals (.poll 0 .none) = some after ∧ before.tasks[0]? = some task ∧
      (after.tasks[0]?).map Task.history =
        some (task.history ++ [⟨.isHealthy "http://10.0.0.1:9001", false⟩]) := by
  have run : ∃ before after task,
      execute (step sampleExternals) (.initial sampleExternals failingConfig 0) failedProbes = some before ∧
      before.step sampleExternals (.poll 0 .none) = some after ∧ before.tasks[0]? = some task ∧
      task.pending = some (.isHealthy "http://10.0.0.1:9001") ∧ before.clock = 0 + 10 + 10 :=
    ⟨_, _, _, rfl, rfl, rfl, rfl, rfl⟩
  obtain ⟨before, after, task, executed, polled, stored, pending, reached⟩ := run
  obtain ⟨healthy, history, told⟩ := asks_by_all_reports (by decide) executed stored pending polled
  have tripped : (HealthTracker.policy 3 (30 : Nat)).Tripped
      ((HealthTracker.policy 3 (30 : Nat)).failuresSince "http://10.0.0.1:9001"
        (healthCalls sampleExternals (.initial sampleExternals failingConfig 0) failedProbes)) (0 + 10 + 10) := by
    decide +kernel
  rw [told.mpr (reached ▸ tripped)] at history
  exact ⟨before, after, task, executed, polled, stored, history⟩

end System

/-!
## Retries within the budget
-/

namespace RetryBudget

theorem run_eq_respond (budget : RetryBudget) (calls : List (Instant × BudgetCall)) :
    budget.run calls = respond perform budget calls := by
  induction calls using List.reverseRecOn with
  | nil => rfl
  | append_singleton calls next ih =>
      rw [run_append, respond_append, ← ih]
      rfl

theorem perform_granted {budget : RetryBudget} {now : Instant} {granted : Bool}
    (returned : (budget.allowRetry now).1 = some granted) :
    (budget.perform (now, .allowRetry)).1 = ⟨now, .allowRetry, true, granted⟩ := by
  simp [perform, returned]

end RetryBudget

namespace System

variable {externals : Externals} {system after start final : System} {actions : List Action}

/-- Every request asks for its retries within the window after it was recorded. -/
def AsksInTime (window : Duration) (timeline : List (Instant × Happening)) : Prop :=
  ∀ task recorded asked granted, (recorded, .event task ⟨.recordRequest, ()⟩) ∈ timeline →
    (asked, .event task ⟨.allowRetry, granted⟩) ∈ timeline → asked < recorded + window

/-- A task that asks for a retry has been recorded before. -/
theorem recorded_before {config : Config} {now : Instant} {index : Nat} {task : Task}
    (executed : execute (step externals) (.initial externals config now) actions = some final)
    (stored : final.tasks[index]? = some task) (pending : task.pending = some .allowRetry) :
    ∃ time, (time, .event index ⟨.recordRequest, ()⟩) ∈
      timeline externals (.initial externals config now) actions := by
  obtain ⟨_, next, rest⟩ := Task.pending_eq_some pending
  have steps := (System.consistent executed task (List.mem_of_getElem? stored)).steps
  have balances := Account.history_balances steps
  rw [rest] at steps
  have recorded : (task.history.foldl Account.monitor.next .opened).recorded = true :=
    ((Account.proxyRequest_follows _ _).steps steps).1.2
  have counted := balances.records
  rw [recorded, if_pos rfl] at counted
  obtain ⟨event, member, records⟩ := List.countP_pos_iff.mp (counted.symm ▸ Nat.one_pos)
  have shown := timeline_history executed index
  rw [stored, Option.elim_some] at shown
  rw [← shown] at member
  obtain ⟨seen, present, found⟩ := List.mem_filterMap.mp member
  obtain ⟨time, rfl⟩ := taskSeen_eq_some found
  unfold Account.records at records
  split at records
  · exact ⟨time, present⟩
  · cases records

theorem mem_budgetEvents {time : Instant} {index : Nat}
    (recorded : (time, .event index ⟨.recordRequest, ()⟩) ∈ timeline externals start actions) :
    (time, .recordRequest) ∈
      (budgetEvents externals start actions).map fun event => (event.time, event.call) :=
  List.mem_map.mpr ⟨_, List.mem_filterMap.mpr ⟨_, recorded, rfl⟩, rfl⟩

theorem budgetEvent_cases {time : Instant} {event : ProxyEvent} {entry : BudgetEvent}
    (entered : budgetEvent time event = some entry) :
    entry = ⟨time, .recordRequest, true, false⟩ ∨
      ∃ granted, event = ⟨.allowRetry, granted⟩ ∧ entry = ⟨time, .allowRetry, true, granted⟩ := by
  unfold budgetEvent at entered
  split at entered
  · exact .inl (Option.some.inj entered).symm
  · next granted => exact .inr ⟨granted, rfl, (Option.some.inj entered).symm⟩
  · cases entered

theorem budgetSeen_time (seen : Instant × Happening) (entry : BudgetEvent)
    (found : budgetSeen seen = some entry) : entry.time = seen.1 := by
  unfold budgetSeen at found
  split at found
  · rcases budgetEvent_cases found with rfl | ⟨granted, _, rfl⟩ <;> rfl
  · cases found

theorem perform_allowRetry {app changed : AppState} {now : Instant} {input : Input} {granted : Bool}
    (performed : app.perform externals now .allowRetry input = some (granted, changed)) :
    (app.retryBudget.allowRetry now).1 = some granted := by
  cases input with
  | none =>
      obtain ⟨_, returned, same⟩ := Option.map_eq_some_iff.mp performed
      cases same
      exact returned
  | _ => cases performed

/-- A step shows at most one event of the budget, that of the task it polls. -/
theorem happens_budget {action : Action} (stepped : system.step externals action = some after) :
    (system.happens externals action).filterMap budgetSeen = [] ∨
      (system.happens externals action).filterMap budgetSeen = [⟨system.clock, .recordRequest, true, false⟩] ∨
      ∃ index task granted, system.tasks[index]? = some task ∧ task.pending = some .allowRetry ∧
        (system.app.retryBudget.allowRetry system.clock).1 = some granted ∧
        system.happens externals action = [(system.clock, .event index ⟨.allowRetry, granted⟩)] := by
  cases step_cases stepped with
  | arrived | built | routerStored | configStored | probed | ticked => exact .inl rfl
  | @moved index task next action app stored moves =>
      cases moves with
      | timedOut | dropped => exact .inl rfl
      | @polled input effect later answer app live rest performed =>
          have pending : task.pending = some effect := by simp [Task.pending, live, rest]
          rw [happens, polledEvent_eq_some stored live rest performed]
          simp only [Option.map_some, Option.toList_some, List.filterMap_cons, List.filterMap_nil, budgetSeen]
          cases entered : budgetEvent system.clock ⟨effect, answer⟩ with
          | none => exact .inl rfl
          | some entry =>
              rcases budgetEvent_cases entered with rfl | ⟨granted, same, rfl⟩
              · exact .inr (.inl rfl)
              · cases same
                exact .inr (.inr ⟨index, task, granted, stored, pending, perform_allowRetry performed, rfl⟩)

theorem AsksInTime.budget {config : Config} {now : Instant}
    (executed : execute (step externals) (.initial externals config now) actions = some final)
    (inTime : AsksInTime config.server.retryBudgetWindowSecs
      (timeline externals (.initial externals config now) actions)) :
    RetryBudget.KeepsBudget config.server.retryBudgetPercent config.server.retryBudgetWindowSecs
        (budgetEvents externals (.initial externals config now) actions) ∧
      RetryBudget.RequestsInWindow config.server.retryBudgetWindowSecs
        ((budgetEvents externals (.initial externals config now) actions).map
          fun event => (event.time, event.call)) := by
  induction actions using List.reverseRecOn generalizing final with
  | nil => exact ⟨RetryBudget.keepsBudget_nil _ _, RetryBudget.requestsInWindow_nil _⟩
  | append_singleton actions action ih =>
      obtain ⟨before, reached, single⟩ := execute_append.mp executed
      obtain ⟨after, stepped, finished⟩ := execute_cons.mp single
      cases finished
      have grown : timeline externals (.initial externals config now) (actions ++ [action]) =
          timeline externals (.initial externals config now) actions ++ before.happens externals action :=
        observations_concat reached stepped
      have earlier := ih reached fun task recorded asked granted entered query =>
        inTime task recorded asked granted (grown ▸ List.mem_append_left _ entered)
          (grown ▸ List.mem_append_left _ query)
      have sorted := timeline_kept budgetSeen_time reached
      have events : budgetEvents externals (.initial externals config now) (actions ++ [action]) =
          budgetEvents externals (.initial externals config now) actions ++
            (before.happens externals action).filterMap budgetSeen := by
        rw [budgetEvents, grown, List.filterMap_append]
        rfl
      rw [events]
      rcases happens_budget stepped with nothing | recorded | ⟨index, task, granted, stored, pending, answered, asked⟩
      · rw [nothing, List.append_nil]
        exact earlier
      · rw [recorded, RetryBudget.keepsBudget_append, List.map_append, List.map_singleton,
          RetryBudget.requestsInWindow_append]
        exact ⟨⟨earlier.1, nofun⟩, earlier.2, nofun⟩
      · obtain ⟨time, entered⟩ := recorded_before reached stored pending
        have prompt := inTime index time before.clock _ (grown ▸ List.mem_append_left _ entered)
          (grown ▸ List.mem_append_right _ (asked ▸ List.mem_singleton_self _))
        have inside : before.clock - config.server.retryBudgetWindowSecs < time := by linarith
        have past := sorted.2 _ (List.mem_filterMap.mpr ⟨_, entered, rfl⟩)
        have called := mem_budgetEvents entered
        have ordered : ((budgetEvents externals (.initial externals config now) actions).map
            fun event => (event.time, event.call)).Pairwise (·.1 ≤ ·.1) :=
          List.pairwise_map.mpr sorted.1
        have bounded : ∀ call ∈ (budgetEvents externals (.initial externals config now) actions).map
            fun event => (event.time, event.call), call.1 ≤ before.clock := by
          intro call member
          obtain ⟨event, present, rfl⟩ := List.mem_map.mp member
          exact sorted.2 event present
        have event := RetryBudget.perform_granted answered
        obtain ⟨calm, cutoff⟩ := RetryBudget.perform_returned_iff.mp (congrArg (·.returned) event)
        have run := execute_budget reached calm
        rw [← RetryBudget.run_eq_respond] at run
        change RetryBudget.run (.new config.server.retryBudgetPercent config.server.retryBudgetWindowSecs) _ = _ at run
        have settings := RetryBudget.run_settings
          (.new config.server.retryBudgetPercent config.server.retryBudgetWindowSecs)
          ((budgetEvents externals (.initial externals config now) actions).map fun event => (event.time, event.call))
        have cutoffs := (RetryBudget.run_calm_iff config.server.retryBudgetPercent
          config.server.retryBudgetWindowSecs _).mp ((congrArg (·.2.poisoned) run).trans calm)
        have fits : earliestInstant ≤ before.clock - config.server.retryBudgetWindowSecs := by
          have window : before.app.retryBudget.window = config.server.retryBudgetWindowSecs := by
            rw [run] at settings
            exact settings.2
          exact window ▸ cutoff rfl
        have kept := (RetryBudget.granted_iff_requested config.server.retryBudgetPercent
          config.server.retryBudgetWindowSecs ordered bounded earlier.2 cutoffs fits).mpr ⟨time, called, inside, past⟩
        rw [run, event] at kept
        rw [asked]
        refine ⟨RetryBudget.keepsBudget_append.mpr ⟨earlier.1, fun _ => ⟨rfl, kept⟩⟩, ?_⟩
        rw [List.map_append]
        exact RetryBudget.requestsInWindow_append.mpr ⟨earlier.2, fun _ => ⟨time, called, inside, past⟩⟩

/-- When every request asks for its retries within the window after it was recorded,
then over all requests together each call that returns grants a retry exactly while fewer
were granted in the window than the percentage of the requests recorded in it, rounded up. -/
theorem keepsBudget_of_asksInTime {config : Config} {now : Instant}
    (executed : execute (step externals) (.initial externals config now) actions = some final)
    (inTime : AsksInTime config.server.retryBudgetWindowSecs
      (timeline externals (.initial externals config now) actions)) :
    RetryBudget.KeepsBudget config.server.retryBudgetPercent config.server.retryBudgetWindowSecs
      (budgetEvents externals (.initial externals config now) actions) :=
  (inTime.budget executed).1

/-- The first call fails and the request asks for a retry. -/
def retryAsked : List Action :=
  untilAsked ++ [.poll 0 .none, .poll 0 .none, .poll 0 .none, .poll 0 .none, .poll 0 (.upstream .failed),
    .poll 0 .none, .poll 0 .none, .poll 0 .none, .poll 0 .none, .poll 0 .none]

theorem keepsBudget_of_asksInTime_retried :
    (budgetEvents sampleExternals (.initial sampleExternals twoUpstreamsConfig 0) retryAsked).length = 2 ∧
      RetryBudget.KeepsBudget 20 (10 : Nat)
        (budgetEvents sampleExternals (.initial sampleExternals twoUpstreamsConfig 0) retryAsked) := by
  have run : ∃ final,
      execute (step sampleExternals) (.initial sampleExternals twoUpstreamsConfig 0) retryAsked = some final :=
    Option.isSome_iff_exists.mp (by decide +kernel)
  obtain ⟨final, executed⟩ := run
  have times : ∀ seen ∈ timeline sampleExternals (.initial sampleExternals twoUpstreamsConfig 0) retryAsked,
      seen.1 = 0 := by
    have all : ((timeline sampleExternals (.initial sampleExternals twoUpstreamsConfig 0) retryAsked).all
        fun seen => decide (seen.1 = 0)) = true := by decide +kernel
    simpa using all
  refine ⟨by decide +kernel, keepsBudget_of_asksInTime executed ?_⟩
  intro task recorded asked granted entered query
  have early : recorded = 0 := times _ entered
  have late : asked = 0 := times _ query
  rw [early, late]
  decide +kernel

/-!
## Admitted clients
-/

/-- The requests of an address that arrived in an interval and were not refused. -/
def admittedTasks (system : System) (ip : IpAddr) (opens closes : Instant) : Nat :=
  system.tasks.countP fun task => decide (task.request.remoteAddr = some ip) && decide (task.status ≠ .refused) &&
    decide (opens ≤ task.arrived) && decide (task.arrived ≤ closes)

/-- The concurrent checks whose answers the tasks carry. -/
structure Shadows (system : System) (checks : Checks) : Prop where
  limiter : checks.limiter = system.app.rateLimiter
  enabled : checks.limiter.enabled = true
  past : checks.clock ≤ system.clock
  answers : checks.answers.map (fun answer => (some answer.1, answer.2)) =
    system.tasks.map fun task => (task.request.remoteAddr, task.arrived, decide (task.status ≠ .refused))

theorem map_set_same {α β : Type} {elements : List α} {index : Nat} {old new : α} (view : α → β)
    (stored : elements[index]? = some old) (same : view new = view old) :
    (elements.set index new).map view = elements.map view := by
  obtain ⟨inside, here⟩ := List.getElem?_eq_some_iff.mp stored
  have mapped : index < (elements.map view).length := by rwa [List.length_map]
  have viewed : view old = (elements.map view)[index] := by rw [List.getElem_map, here]
  rw [List.map_set, same, viewed, List.set_getElem_self mapped]

/-- Every run checks its clients as some run of concurrent checks does. -/
theorem shadowed {limiter : RateLimiter} (enabled : limiter.enabled = true)
    (limited : start.app.rateLimiter = limiter) (fresh : start.tasks = [])
    (executed : execute (step externals) start actions = some final) :
    ∃ steps checks, execute Checks.step (.initial limiter start.clock) steps = some checks ∧
      Shadows final checks := by
  have begun : ∃ steps checks, execute Checks.step (.initial limiter start.clock) steps = some checks ∧
      Shadows start checks :=
    ⟨[], _, rfl, limited.symm, enabled, le_rfl, by rw [fresh]; rfl⟩
  refine execute_preserves (fun system => ∃ steps checks,
    execute Checks.step (.initial limiter start.clock) steps = some checks ∧ Shadows system checks) ?_ begun executed
  intro system action after shadowed stepped
  obtain ⟨steps, checks, reached, shadows⟩ := shadowed
  have past := shadows.past.trans (step_clock stepped)
  cases step_cases stepped with
  | arrived req remoteIp =>
      obtain ⟨calls, checked⟩ := Checks.execute_alone shadows.enabled remoteIp shadows.past
      refine ⟨_, _, execute_append.mpr ⟨checks, reached, checked⟩, ?_, ?_, le_rfl, ?_⟩
      · rw [shadows.limiter]
        rfl
      · rw [RateLimiter.check_eq shadows.enabled]
        exact RateLimiter.swept_enabled.trans shadows.enabled
      · rw [List.map_append, shadows.answers, arrive, List.map_append, shadows.limiter]
        cases admitted : (system.app.rateLimiter.check remoteIp system.clock).1 <;>
          simp [injectAddr]
  | @moved index task next action app stored moves =>
      refine ⟨steps, checks, reached, ?_, shadows.enabled, past, ?_⟩
      · rw [shadows.limiter]
        cases moves with
        | polled live rest performed => exact (perform_components performed).1.symm
        | timedOut | dropped => rfl
      · rw [shadows.answers]
        refine (map_set_same _ stored ?_).symm
        cases moves with
        | polled => rfl
        | timedOut live | dropped live => simp [live]
  | built | routerStored | configStored | ticked | probed =>
      exact ⟨steps, checks, reached, shadows.limiter, shadows.enabled, past, shadows.answers⟩

theorem Shadows.admitted {system : System} {checks : Checks} (shadows : Shadows system checks) (ip : IpAddr)
    (opens closes : Instant) : system.admittedTasks ip opens closes = checks.admittedWithin ip opens closes := by
  have counted := congrArg (List.countP fun view : Option IpAddr × Instant × Bool =>
    decide (view.1 = some ip) && view.2.2 && decide (opens ≤ view.2.1) && decide (view.2.1 ≤ closes))
    shadows.answers
  rw [List.countP_map, List.countP_map] at counted
  refine counted.symm.trans (List.countP_congr fun answer _ => ?_)
  simp [Checks.admits]

/-- In every run an address gets into the proxy in any interval at most a burst and the
faster of the refill and a burst every 300 seconds. -/
theorem admittedTasks_bounded {config : Config} {limits : RateLimitConfig} {now : Instant}
    (limited : config.server.rateLimit = some limits) (refills : 0 ≤ limits.requestsPerSecond)
    (executed : execute (step externals) (.initial externals config now) actions = some final)
    (ip : IpAddr) {opens closes : Instant} (ordered : opens ≤ closes) :
    (final.admittedTasks ip opens closes : ℚ) ≤ limits.burstSize +
      max limits.requestsPerSecond (limits.burstSize / 300) * (closes - opens) := by
  have limiter : (initial externals config now).app.rateLimiter =
      .new limits.requestsPerSecond limits.burstSize := by
    simp only [initial, AppState.initial, limited]
  obtain ⟨steps, checks, reached, shadows⟩ := shadowed rfl limiter rfl executed
  rw [shadows.admitted]
  exact (Checks.execute_within refills reached ip ordered).2

def pacedConfig : Config :=
  { server := { requestTimeoutSecs := 1, maxRetries := 0, rateLimit := some ⟨1, 1⟩ }, routes := [] }

theorem admittedTasks_bounded_limited :
    ∃ final, execute (step sampleExternals) (.initial sampleExternals pacedConfig 0)
        [.arrive plainRequest plainClient, .arrive plainRequest plainClient, .tick 1] = some final ∧
      final.admittedTasks plainClient 0 1 ≤ 2 := by
  have run : ∃ final, execute (step sampleExternals) (.initial sampleExternals pacedConfig 0)
      [.arrive plainRequest plainClient, .arrive plainRequest plainClient, .tick 1] = some final :=
    Option.isSome_iff_exists.mp (by decide +kernel)
  obtain ⟨final, executed⟩ := run
  have bounded := admittedTasks_bounded (show pacedConfig.server.rateLimit = some ⟨1, 1⟩ from rfl)
    zero_le_one executed plainClient (show (0 : Instant) ≤ 1 from zero_le_one)
  norm_num at bounded
  exact ⟨final, executed, by exact_mod_cast bounded⟩

end System

end L7Proxy
