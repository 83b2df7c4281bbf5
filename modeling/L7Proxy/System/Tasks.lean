import L7Proxy.System.Basic

/-!
# Tasks in a run

What one step of the proxy does to its tasks, and the consistency of every task with
the program of its request.
-/

set_option autoImplicit false

namespace L7Proxy

open Interaction

/-!
## What an effect changes
-/

/-- The effects that touch neither a balancer nor the request counter. -/
def Effect.Quiet : Effect → Prop
  | .nextIndexForKey _ _ _ | .recordStart _ _ | .recordDone _ _ | .incRequestsTotal _ _ _ => False
  | _ => True

/-- What an effect does to the balancers and the request counter. -/
inductive Performed (externals : Externals) (app changed : AppState) : Effect → Prop where
  | quiet {effect : Effect} (kind : effect.Quiet) (balancers : changed.balancers = app.balancers)
      (requestsTotal : changed.metrics.requestsTotal = app.metrics.requestsTotal) :
      Performed externals app changed effect
  | counted (method route status : String) (balancers : changed.balancers = app.balancers)
      (requestsTotal : changed.metrics.requestsTotal =
        Metrics.inc app.metrics.requestsTotal (method, route, status)) :
      Performed externals app changed (.incRequestsTotal method route status)
  | selected {ref : BalancerRef} {balancer : Balancer} (poolSize : Nat) (key : String)
      (stored : app.balancers[ref]? = some balancer)
      (balancers : changed.balancers =
        app.balancers.set ref (balancer.nextIndexForKey externals.hashing poolSize key).2)
      (requestsTotal : changed.metrics.requestsTotal = app.metrics.requestsTotal) :
      Performed externals app changed (.nextIndexForKey ref poolSize key)
  | started {ref : BalancerRef} {balancer : Balancer} (index : Nat)
      (stored : app.balancers[ref]? = some balancer)
      (balancers : changed.balancers = app.balancers.set ref (balancer.recordStart index))
      (requestsTotal : changed.metrics.requestsTotal = app.metrics.requestsTotal) :
      Performed externals app changed (.recordStart ref index)
  | finished {ref : BalancerRef} {balancer : Balancer} (index : Nat)
      (stored : app.balancers[ref]? = some balancer)
      (balancers : changed.balancers = app.balancers.set ref (balancer.recordDone index))
      (requestsTotal : changed.metrics.requestsTotal = app.metrics.requestsTotal) :
      Performed externals app changed (.recordDone ref index)

theorem perform_cases {externals : Externals} {app changed : AppState} {now : Instant} {effect : Effect}
    {input : Input} {answer : Answer effect}
    (performed : app.perform externals now effect input = some (answer, changed)) :
    changed.config = app.config ∧ changed.router = app.router ∧
      Performed externals app changed effect := by
  unfold AppState.perform at performed
  split at performed
  case h_5 method route status =>
    cases performed
    exact ⟨rfl, rfl, .counted method route status rfl rfl⟩
  case h_10 ref poolSize key =>
    obtain ⟨balancer, stored, performed⟩ := Option.bind_eq_some_iff.mp performed
    cases performed
    exact ⟨rfl, rfl, .selected poolSize key stored rfl rfl⟩
  case h_11 ref index =>
    obtain ⟨balancer, stored, performed⟩ := Option.bind_eq_some_iff.mp performed
    cases performed
    exact ⟨rfl, rfl, .started index stored rfl rfl⟩
  case h_12 ref index =>
    obtain ⟨balancer, stored, performed⟩ := Option.bind_eq_some_iff.mp performed
    cases performed
    exact ⟨rfl, rfl, .finished index stored rfl rfl⟩
  case h_16 | h_17 =>
    obtain ⟨_, _, same⟩ := Option.map_eq_some_iff.mp performed
    cases same
    exact ⟨rfl, rfl, .quiet trivial rfl rfl⟩
  case h_18 greatest amount =>
    split at performed <;> cases performed
    exact ⟨rfl, rfl, .quiet trivial rfl rfl⟩
  case h_21 => cases performed
  all_goals
    cases performed
    exact ⟨rfl, rfl, .quiet trivial rfl rfl⟩

/-- What an effect does to the metrics. -/
def Effect.onMetrics : Effect → Metrics → Metrics
  | .incRequestsTotal method route status, metrics =>
      { metrics with requestsTotal := Metrics.inc metrics.requestsTotal (method, route, status) }
  | .observeRequestDuration method route elapsed, metrics =>
      { metrics with
        requestDurationSeconds := Metrics.observe metrics.requestDurationSeconds (method, route) elapsed }
  | .incRetriesTotal route, metrics => { metrics with retriesTotal := Metrics.inc metrics.retriesTotal route }
  | .incErrorsTotal route errorType, metrics =>
      { metrics with errorsTotal := Metrics.inc metrics.errorsTotal (route, errorType) }
  | _, metrics => metrics

theorem perform_metrics {externals : Externals} {app changed : AppState} {now : Instant} {effect : Effect}
    {input : Input} {answer : Answer effect}
    (performed : app.perform externals now effect input = some (answer, changed)) :
    changed.metrics = effect.onMetrics app.metrics := by
  unfold AppState.perform at performed
  split at performed
  case h_10 ref poolSize key =>
    obtain ⟨balancer, stored, performed⟩ := Option.bind_eq_some_iff.mp performed
    cases performed
    rfl
  case h_11 ref index =>
    obtain ⟨balancer, stored, performed⟩ := Option.bind_eq_some_iff.mp performed
    cases performed
    rfl
  case h_12 ref index =>
    obtain ⟨balancer, stored, performed⟩ := Option.bind_eq_some_iff.mp performed
    cases performed
    rfl
  case h_16 | h_17 =>
    obtain ⟨_, _, same⟩ := Option.map_eq_some_iff.mp performed
    cases same
    rfl
  case h_18 greatest amount =>
    split at performed <;> cases performed
    rfl
  case h_21 => cases performed
  all_goals
    cases performed
    rfl

/-- The effects at which a task may be abandoned: it awaits there, or it may panic. -/
def Effect.MayStop (effect : Effect) : Prop :=
  Proxy.awaits effect = true ∨ effect = .panicked ∨ effect = .recordRequest ∨ effect = .allowRetry

/-- A task is abandoned where it awaits or panics, and then changes the retry budget only by
poisoning its lock. -/
theorem abandon_cases {app : AppState} {now : Instant} {effect : Effect} {retryBudget : RetryBudget}
    (abandoned : app.abandon now effect = some retryBudget) :
    (retryBudget = app.retryBudget ∧ (Proxy.awaits effect = true ∨ effect = .panicked)) ∨
      (retryBudget.poisoned = true ∧ (effect = .recordRequest ∨ effect = .allowRetry)) := by
  unfold AppState.abandon at abandoned
  split at abandoned
  · cases abandoned
    exact .inl ⟨rfl, .inr rfl⟩
  · obtain ⟨panics, same⟩ := Option.ite_none_right_eq_some.mp abandoned
    cases same
    exact .inr ⟨RetryBudget.recordRequest_panics panics, .inl rfl⟩
  · obtain ⟨panics, same⟩ := Option.ite_none_right_eq_some.mp abandoned
    cases same
    exact .inr ⟨RetryBudget.allowRetry_panics panics, .inr rfl⟩
  · obtain ⟨awaits, same⟩ := Option.ite_none_right_eq_some.mp abandoned
    cases same
    exact .inl ⟨rfl, .inl awaits⟩

theorem abandon_mayStop {app : AppState} {now : Instant} {effect : Effect} {retryBudget : RetryBudget}
    (abandoned : app.abandon now effect = some retryBudget) : effect.MayStop := by
  rcases abandon_cases abandoned with ⟨_, awaits | panics⟩ | ⟨_, request | retry⟩
  · exact .inl awaits
  · exact .inr (.inl panics)
  · exact .inr (.inr (.inl request))
  · exact .inr (.inr (.inr retry))

namespace Task

theorem pending_eq_some {task : Task} {effect : Effect} (pending : task.pending = some effect) :
    task.status = .live ∧ ∃ next, task.rest = .act effect next := by
  unfold Task.pending at pending
  split at pending
  · next live rest =>
      cases pending
      exact ⟨live, _, rest⟩
  · cases pending

theorem rest_of_result {task : Task} {result : ProxyResult} (finished : task.result = some result) :
    task.rest = .done result := by
  unfold Task.result at finished
  split at finished
  · next live rest =>
      cases finished
      exact rest
  · cases finished

end Task

namespace System

variable {externals : Externals} {system after : System} {index : Nat}

/-- How a step moves the task at an index: it performs an effect, or it is abandoned
while it awaits. -/
inductive Moves (externals : Externals) (system : System) (index : Nat) (task : Task) :
    Action → Task → AppState → Prop where
  | polled {input : Input} {effect : Effect} {next : Answer effect → Proxy ProxyResult}
      {answer : Answer effect} {app : AppState} (live : task.status = .live)
      (rest : task.rest = .act effect next)
      (performed : system.app.perform externals system.clock effect input = some (answer, app)) :
      Moves externals system index task (.poll index input)
        { task with history := task.history ++ [⟨effect, answer⟩], rest := next answer } app
  | timedOut {effect : Effect} {next : Answer effect → Proxy ProxyResult} (live : task.status = .live)
      (rest : task.rest = .act effect next) (awaits : Proxy.awaits effect = true) :
      Moves externals system index task (.timeOut index) { task with status := .timedOut } system.app
  | dropped {effect : Effect} {next : Answer effect → Proxy ProxyResult} {retryBudget : RetryBudget}
      (live : task.status = .live) (rest : task.rest = .act effect next)
      (abandoned : system.app.abandon system.clock effect = some retryBudget) :
      Moves externals system index task (.drop index) { task with status := .dropped }
        { system.app with retryBudget := retryBudget }

inductive Stepped (externals : Externals) (system : System) : Action → System → Prop where
  | arrived (req : Request) (remoteIp : IpAddr) :
      Stepped externals system (.arrive req remoteIp) (system.arrive externals req remoteIp)
  | moved {index : Nat} {task next : Task} {action : Action} {app : AppState}
      (stored : system.tasks[index]? = some task)
      (moves : Moves externals system index task action next app) :
      Stepped externals system action { system with app := app, tasks := system.tasks.set index next }
  | built (config : Config) (idle : system.reloader = .idle) :
      Stepped externals system (.reload config)
        { system with
          app := { system.app with balancers := system.app.balancers ++ config.balancers externals.hashing }
          reloader := .built ⟨system.applied.length, config.router system.app.balancers.length⟩
            ⟨system.applied.length, config⟩
          applied := system.applied ++ [(config, system.app.balancers.length)] }
  | routerStored {router : Arc Router} {config : Arc Config}
      (built : system.reloader = .built router config) :
      Stepped externals system .storeRouter
        { system with app := system.app.storeRouter router, reloader := .routerStored config }
  | configStored {config : Arc Config} (stored : system.reloader = .routerStored config) :
      Stepped externals system .storeConfig
        { system with app := system.app.storeConfig config, reloader := .idle }
  | probed {upstream : String} {status : Option StatusCode} {health : HealthTracker}
      (reported : system.app.probe upstream status system.clock = { system.app with health := health }) :
      Stepped externals system (.probe upstream status)
        { system with app := { system.app with health := health } }
  | ticked (elapsed : Duration) :
      Stepped externals system (.tick elapsed) { system with clock := system.clock + elapsed }

theorem probe_eq (app : AppState) (upstream : String) (status : Option StatusCode) (now : Instant) :
    ∃ health, app.probe upstream status now = { app with health := health } := by
  unfold AppState.probe
  split
  · split <;> exact ⟨_, rfl⟩
  · exact ⟨_, rfl⟩

theorem poll_cases {input : Input} (polled : system.poll externals index input = some after) :
    Stepped externals system (.poll index input) after := by
  obtain ⟨task, stored, polled⟩ := Option.bind_eq_some_iff.mp polled
  split at polled
  · next live rest =>
      obtain ⟨_, performed, same⟩ := Option.bind_eq_some_iff.mp polled
      cases same
      exact .moved stored (.polled live rest performed)
  · cases polled

theorem timeOut_cases (timedOut : system.timeOut index = some after) :
    Stepped externals system (.timeOut index) after := by
  obtain ⟨task, stored, timedOut⟩ := Option.bind_eq_some_iff.mp timedOut
  obtain ⟨effect, pending, timedOut⟩ := Option.bind_eq_some_iff.mp timedOut
  obtain ⟨live, next, rest⟩ := Task.pending_eq_some pending
  split at timedOut
  · next condition =>
      cases timedOut
      exact .moved stored (.timedOut live rest condition.1)
  · cases timedOut

theorem drop_cases (dropped : system.drop index = some after) :
    Stepped externals system (.drop index) after := by
  obtain ⟨task, stored, dropped⟩ := Option.bind_eq_some_iff.mp dropped
  obtain ⟨effect, pending, dropped⟩ := Option.bind_eq_some_iff.mp dropped
  obtain ⟨retryBudget, abandoned, dropped⟩ := Option.bind_eq_some_iff.mp dropped
  obtain ⟨live, next, rest⟩ := Task.pending_eq_some pending
  cases dropped
  exact .moved stored (.dropped live rest abandoned)

theorem step_cases {action : Action} (stepped : system.step externals action = some after) :
    Stepped externals system action after := by
  cases action with
  | arrive req remoteIp =>
      cases stepped
      exact .arrived req remoteIp
  | poll index input => exact poll_cases stepped
  | timeOut index => exact timeOut_cases stepped
  | drop index => exact drop_cases stepped
  | reload config =>
      simp only [step, reload] at stepped
      split at stepped <;> cases stepped
      next idle => exact .built config idle
  | storeRouter =>
      simp only [step] at stepped
      split at stepped <;> cases stepped
      next built => exact .routerStored built
  | storeConfig =>
      simp only [step] at stepped
      split at stepped <;> cases stepped
      next stored => exact .configStored stored
  | probe upstream status =>
      simp only [step] at stepped
      split at stepped <;> cases stepped
      obtain ⟨health, reported⟩ := probe_eq system.app upstream status system.clock
      rw [reported]
      exact .probed reported
  | tick elapsed =>
      simp only [step] at stepped
      split at stepped <;> cases stepped
      exact .ticked elapsed

/-- In the state the task at the index performs the event next. -/
structure AboutTo (externals : Externals) (system : System) (index : Nat) (task : Task) (event : ProxyEvent)
    (input : Input) (app : AppState) : Prop where
  stored : system.tasks[index]? = some task
  pending : task.pending = some event.effect
  performed : system.app.perform externals system.clock event.effect input = some (event.answer, app)

theorem step_task {action : Action} (stepped : system.step externals action = some after) (index : Nat) :
    after.tasks[index]? = system.tasks[index]? ∨
      (system.tasks[index]? = none ∧ ∃ req status, (status = .live ∨ status = .refused) ∧
        after.tasks[index]? = some ⟨req, system.clock, [], proxyRequest externals.parses req, status⟩) ∨
      ∃ task next app, system.tasks[index]? = some task ∧ after.tasks[index]? = some next ∧
        Moves externals system index task action next app := by
  cases step_cases stepped with
  | arrived req remoteIp =>
      simp only [arrive]
      rcases Nat.lt_trichotomy index system.tasks.length with old | same | beyond
      · exact .inl (List.getElem?_append_left old)
      · refine .inr (.inl ⟨by simp [same], _, _, ?_, by rw [same, List.getElem?_concat_length]⟩)
        split
        · exact .inl rfl
        · exact .inr rfl
      · left
        rw [List.getElem?_append_right (Nat.le_of_lt beyond), List.getElem?_eq_none (Nat.le_of_lt beyond)]
        refine List.getElem?_eq_none ?_
        rw [List.length_singleton]
        exact Nat.sub_pos_of_lt beyond
  | @moved position task next action app stored moves =>
      by_cases here : position = index
      · subst here
        have inside := (List.getElem?_eq_some_iff.mp stored).1
        exact .inr (.inr ⟨task, next, app, stored, List.getElem?_set_self inside, moves⟩)
      · exact .inl (List.getElem?_set_ne here)
  | built | routerStored | configStored | probed | ticked => exact .inl rfl

/-- A task after a step was there before it, has just arrived, or is what another one moved to. -/
theorem step_member {action : Action} {task : Task} (stepped : system.step externals action = some after)
    (member : task ∈ after.tasks) :
    task ∈ system.tasks ∨
      (∃ req status, (status = .live ∨ status = .refused) ∧
        task = ⟨req, system.clock, [], proxyRequest externals.parses req, status⟩) ∨
      ∃ index earlier app, system.tasks[index]? = some earlier ∧
        Moves externals system index earlier action task app := by
  obtain ⟨index, stored⟩ := List.mem_iff_getElem?.mp member
  rcases step_task stepped index with same | ⟨_, req, status, started, arrived⟩ |
    ⟨earlier, next, app, found, reached, moves⟩
  · exact .inl (List.mem_of_getElem? (same ▸ stored))
  · cases stored.symm.trans arrived
    exact .inr (.inl ⟨req, status, started, rfl⟩)
  · cases stored.symm.trans reached
    exact .inr (.inr ⟨index, earlier, app, found, moves⟩)

/-- What new tasks satisfy and every move of a task keeps holds of all tasks of a run. -/
theorem tasks_invariant {invariant : Task → Prop}
    (arrives : ∀ req now status, status = .live ∨ status = .refused →
      invariant ⟨req, now, [], proxyRequest externals.parses req, status⟩)
    (moves : ∀ system index task action next app, Moves externals system index task action next app →
      invariant task → invariant next)
    {start final : System} {actions : List Action} (initial : ∀ task ∈ start.tasks, invariant task)
    (executed : execute (step externals) start actions = some final) :
    ∀ task ∈ final.tasks, invariant task := by
  refine execute_preserves (fun system => ∀ task ∈ system.tasks, invariant task) ?_ initial executed
  intro system action after holds stepped task member
  rcases step_member stepped member with old | ⟨req, status, started, rfl⟩ | ⟨index, earlier, app, found, moved⟩
  · exact holds task old
  · exact arrives _ _ _ started
  · exact moves _ _ _ _ _ _ moved (holds earlier (List.mem_of_getElem? found))

/-!
## Histories
-/

theorem Moves.history {task next : Task} {action : Action} {app : AppState}
    (moves : Moves externals system index task action next app) : task.history <+: next.history := by
  cases moves with
  | polled live rest performed => exact List.prefix_append _ _
  | timedOut | dropped => exact List.prefix_refl _

theorem step_history {action : Action} {task : Task} (stepped : system.step externals action = some after)
    (stored : after.tasks[index]? = some task) :
    task.history = [] ∨ ∃ earlier, system.tasks[index]? = some earlier ∧
      (task.history = earlier.history ∨ ∃ event input app, action = .poll index input ∧
        system.AboutTo externals index earlier event input app ∧ task.history = earlier.history ++ [event]) := by
  rcases step_task stepped index with same | ⟨_, req, status, _, arrived⟩ |
    ⟨earlier, next, app, found, reached, moves⟩
  · exact .inr ⟨task, same ▸ stored, .inl rfl⟩
  · rw [arrived, Option.some.injEq] at stored
    exact .inl (stored ▸ rfl)
  · rw [reached, Option.some.injEq] at stored
    subst stored
    refine .inr ⟨earlier, found, ?_⟩
    cases moves with
    | @polled input effect next answer app live rest performed =>
        have pending : earlier.pending = some effect := by simp [Task.pending, live, rest]
        exact .inr ⟨⟨effect, answer⟩, input, app, rfl, ⟨found, pending, performed⟩, rfl⟩
    | timedOut | dropped => exact .inl rfl

/-- Tasks stay where they are, and their histories only grow. -/
theorem history_grows {start final : System} {actions : List Action} {earlier : Task}
    (executed : execute (step externals) start actions = some final)
    (begun : start.tasks[index]? = some earlier) :
    ∃ task, final.tasks[index]? = some task ∧ earlier.history <+: task.history := by
  have initial : ∃ task, start.tasks[index]? = some task ∧ earlier.history <+: task.history :=
    ⟨earlier, begun, List.prefix_refl _⟩
  refine execute_preserves (fun state => ∃ task, state.tasks[index]? = some task ∧
    earlier.history <+: task.history) ?_ initial executed
  intro system action after grown stepped
  obtain ⟨middle, stored, grows⟩ := grown
  rcases step_task stepped index with same | ⟨missing, _⟩ | ⟨task, next, app, found, reached, moves⟩
  · exact ⟨middle, same.trans stored, grows⟩
  · rw [missing] at stored
    cases stored
  · rw [stored, Option.some.injEq] at found
    subst found
    exact ⟨next, reached, grows.trans moves.history⟩

/-- Every event of a history was performed in a step of the run. -/
theorem history_performed {config : Config} {now : Instant} {final : System} {actions : List Action}
    {task : Task} (executed : execute (step externals) (.initial externals config now) actions = some final)
    (stored : final.tasks[index]? = some task) {past future : List ProxyEvent} {event : ProxyEvent}
    (split : task.history = past ++ event :: future) :
    ∃ before input after earlier app,
      Performs (step externals) (.initial externals config now) actions before (.poll index input) after ∧
      before.AboutTo externals index earlier event input app ∧ earlier.history = past := by
  induction actions using List.reverseRecOn generalizing final task future with
  | nil =>
      cases executed
      simp [initial] at stored
  | append_singleton actions action ih =>
      obtain ⟨before, reached, single⟩ := execute_append.mp executed
      obtain ⟨after, stepped, finished⟩ := execute_cons.mp single
      cases finished
      rcases step_history stepped stored with
        empty | ⟨earlier, found, same | ⟨newest, input, app, polled, aboutTo, grown⟩⟩
      · simp [empty] at split
      · obtain ⟨state, input, next, actor, app, performed, rest⟩ := ih reached found (same.symm.trans split)
        exact ⟨state, input, next, actor, app, performed.append _, rest⟩
      · rw [grown] at split
        rcases List.eq_nil_or_concat future with last | ⟨future, ending, rfl⟩
        · subst last
          obtain ⟨history, same⟩ := List.append_inj' split rfl
          cases same
          subst polled
          exact ⟨before, input, final, earlier, app, ⟨actions, [], rfl, reached, stepped⟩, aboutTo, history⟩
        · have history : earlier.history = past ++ event :: future :=
            (List.append_inj' (split.trans (by simp : _ = (past ++ event :: future) ++ [ending])) rfl).1
          obtain ⟨state, input, next, actor, app, performed, rest⟩ := ih reached found history
          exact ⟨state, input, next, actor, app, performed.append _, rest⟩

theorem performed_history {start final before after : System} {actions : List Action} {input : Input}
    {earlier task : Task} {effect : Effect}
    (executed : execute (step externals) start actions = some final)
    (performed : Performs (step externals) start actions before (.poll index input) after)
    (stored : before.tasks[index]? = some earlier) (pending : earlier.pending = some effect)
    (found : final.tasks[index]? = some task) :
    ∃ answer app future, before.AboutTo externals index earlier ⟨effect, answer⟩ input app ∧
      task.history = earlier.history ++ ⟨effect, answer⟩ :: future := by
  obtain ⟨later, continued⟩ := performed.continues executed
  obtain ⟨_, _, _, _, polled⟩ := performed
  cases step_cases polled with
  | @moved _ actor _ _ app begun moves =>
      cases moves with
      | @polled _ _ next answer _ live rest performed =>
          rw [stored, Option.some.injEq] at begun
          subst begun
          rw [Task.pending, live, rest, Option.some.injEq] at pending
          subst pending
          have inside := (List.getElem?_eq_some_iff.mp stored).1
          obtain ⟨last, reached, future, history⟩ := history_grows continued (List.getElem?_set_self inside)
          rw [found, Option.some.injEq] at reached
          subst reached
          refine ⟨answer, app, future, ⟨stored, by simp [Task.pending, live, rest], performed⟩, ?_⟩
          rw [← history, List.append_assoc, List.singleton_append]

end System

/-!
## Consistent tasks
-/

/-- A task has performed its history on the way through the program of its request,
and was abandoned only where it awaited or may panic. -/
structure Task.Consistent (parses : UriParser) (task : Task) : Prop where
  steps : Program.Steps (proxyRequest parses task.request) task.history task.rest
  timedOut : task.status = .timedOut → ∃ effect next, task.rest = .act effect next ∧
    Proxy.awaits effect = true
  dropped : task.status = .dropped → ∃ effect next, task.rest = .act effect next ∧
    effect.MayStop

theorem System.Moves.consistent {externals : Externals} {system : System} {index : Nat} {task next : Task}
    {action : Action} {app : AppState} (moves : system.Moves externals index task action next app)
    (consistent : task.Consistent externals.parses) : next.Consistent externals.parses := by
  cases moves with
  | @polled _ effect later answer _ live rest performed =>
      have steps := consistent.steps
      rw [rest] at steps
      exact ⟨steps.snoc answer, by simp [live], by simp [live]⟩
  | @timedOut effect later live rest awaits =>
      exact ⟨consistent.steps, fun _ => ⟨effect, later, rest, awaits⟩, nofun⟩
  | @dropped effect later _ live rest abandoned =>
      exact ⟨consistent.steps, nofun, fun _ => ⟨effect, later, rest, abandon_mayStop abandoned⟩⟩

theorem System.consistent {externals : Externals} {config : Config} {now : Instant} {final : System}
    {actions : List Action}
    (executed : execute (System.step externals) (.initial externals config now) actions = some final) :
    ∀ task ∈ final.tasks, task.Consistent externals.parses := by
  refine System.tasks_invariant (fun req now status started => ⟨.refl _, ?_, ?_⟩)
    (fun _ _ _ _ _ _ moves => moves.consistent) (by simp [System.initial]) executed
  · intro timedOut
    have same : status = .timedOut := timedOut
    simp [same] at started
  · intro dropped
    have same : status = .dropped := dropped
    simp [same] at started

end L7Proxy
