import L7Proxy.Proxy.Effort
import L7Proxy.System.Balancers

/-!
# Progress

When the routes of all configurations select safely and the window of the retry budget does
not reach back before the earliest `Instant`, no request panics, and each request in progress
can always be brought to its result in a bounded number of steps.
-/

set_option autoImplicit false

namespace L7Proxy

open Interaction

namespace System

variable {externals : Externals} {system final : System} {actions : List Action}

/-- The routes of every configuration of the run select safely. -/
def Configured (system : System) : Prop :=
  ∀ built ∈ system.applied, ∀ route ∈ built.1.routes, route.HasSelection

/-- No selection of a run is left without an index. -/
theorem selection_answered {config : Config} {now : Instant} {index : Nat} {task : Task} {ref : BalancerRef}
    {poolSize : Nat} {key : String} {selected : Option Nat}
    (executed : execute (step externals) (.initial externals config now) actions = some final)
    (configured : final.Configured) (stored : final.tasks[index]? = some task)
    (member : ⟨.nextIndexForKey ref poolSize key, selected⟩ ∈ task.history) : selected ≠ none := by
  have uses : (balancerEvent ref ⟨.nextIndexForKey ref poolSize key, selected⟩).isSome := by simp [balancerEvent]
  obtain ⟨router, built, position, route, matched, rfl, sized⟩ := uses_own_route executed stored member uses
  obtain ⟨balancer, _, responded⟩ := execute_balancer executed matched.applied matched.route
  have safe := (configured built (List.mem_of_getElem? matched.applied) route
    (List.mem_of_getElem? matched.route)).selectsSafely externals.hashing
  have shown := timeline_history executed index
  rw [stored, Option.elim_some] at shown
  rw [← shown] at member
  obtain ⟨seen, present, found⟩ := List.mem_filterMap.mp member
  obtain ⟨time, rfl⟩ := taskSeen_eq_some found
  have called : (.nextIndexForKey key, selected) ∈
      balancerEvents externals (.initial externals config now) actions (built.2 + position) :=
    List.mem_filterMap.mpr ⟨_, present, if_pos rfl⟩
  refine Balancer.perform_answers (fun calls name => ?_) responded called
  obtain ⟨chosen, answered, _⟩ := safe calls name
  intro missing
  rw [answered] at missing
  cases missing

theorem never_panics {config : Config} {now : Instant} {index : Nat} {task : Task}
    (executed : execute (step externals) (.initial externals config now) actions = some final)
    (configured : final.Configured) (stored : final.tasks[index]? = some task) :
    task.pending ≠ some .panicked := by
  intro pending
  obtain ⟨_, next, rest⟩ := Task.pending_eq_some pending
  have steps := (System.consistent executed task (List.mem_of_getElem? stored)).steps
  have routed := steps_routed steps
  rw [rest] at steps
  have allowed := ((proxyRequest_routes externals.parses task.request).steps steps).1
  simp only [routeKeeper] at allowed
  split at allowed
  · exact allowed
  · split at allowed
    · cases allowed
    · rcases allowed with concerns | ⟨_, unselected⟩
      · exact concerns
      · obtain ⟨ref, poolSize, key, member⟩ := routed.unselected unselected
        exact selection_answered executed configured stored member rfl

/-- The effect about to be performed names a balancer that exists, if any. -/
theorem pending_balancer {config : Config} {now : Instant} {index : Nat} {task : Task} {effect : Effect}
    {ref : BalancerRef}
    (executed : execute (step externals) (.initial externals config now) actions = some final)
    (stored : final.tasks[index]? = some task) (pending : task.pending = some effect)
    (named : (∃ poolSize key, effect = .nextIndexForKey ref poolSize key) ∨
      (∃ position, effect = .recordStart ref position) ∨ ∃ position, effect = .recordDone ref position) :
    ∃ balancer, final.app.balancers[ref]? = some balancer := by
  obtain ⟨_, next, rest⟩ := Task.pending_eq_some pending
  have steps := (System.consistent executed task (List.mem_of_getElem? stored)).steps
  have routed := steps_routed steps
  rw [rest] at steps
  have allowed := ((proxyRequest_routes externals.parses task.request).steps steps).1
  simp only [routeKeeper] at allowed
  split at allowed
  · rcases named with ⟨poolSize, key, rfl⟩ | ⟨position, rfl⟩ | ⟨position, rfl⟩ <;> exact allowed.elim
  · next router loaded =>
      obtain ⟨built, applied, value⟩ := loaded_logged executed stored (routed.loaded router loaded)
      split at allowed
      · rcases named with ⟨poolSize, key, rfl⟩ | ⟨position, rfl⟩ | ⟨position, rfl⟩ <;> cases allowed
      · next route matched =>
          rw [value] at matched
          obtain ⟨place, configured, found, rfl⟩ := Config.router_routes.mp (Router.matchRoute_mem matched)
          obtain ⟨balancer, current, _⟩ := execute_balancer executed applied found
          have own : ref = built.2 + place := by
            rcases allowed with concerns | ⟨panics, _⟩
            · rcases named with ⟨poolSize, key, rfl⟩ | ⟨position, rfl⟩ | ⟨position, rfl⟩ <;> exact concerns.1
            · rcases named with ⟨poolSize, key, rfl⟩ | ⟨position, rfl⟩ | ⟨position, rfl⟩ <;> cases panics
          exact ⟨balancer, own ▸ current⟩

/-!
## The lock of the retry budget
-/

/-- The lock of the retry budget is not poisoned, and its window has a cutoff. -/
structure Calm (system : System) : Prop where
  calm : system.app.retryBudget.poisoned = false
  fits : earliestInstant ≤ system.clock - system.app.retryBudget.window

/-- Without a panic at hand a task is abandoned only where it awaits. -/
theorem Calm.abandon (holds : system.Calm) {effect : Effect} {retryBudget : RetryBudget}
    (abandoned : system.app.abandon system.clock effect = some retryBudget) :
    retryBudget = system.app.retryBudget ∧ (Proxy.awaits effect = true ∨ effect = .panicked) := by
  rcases abandon_cases abandoned with same | ⟨_, rfl | rfl⟩
  · exact same
  · have panics := (Option.ite_none_right_eq_some.mp abandoned).1
    rw [Option.isNone_iff_eq_none] at panics
    have returns := @RetryBudget.recordRequest_returns _ system.clock holds.calm
    rw [panics] at returns
    cases returns
  · have panics := (Option.ite_none_right_eq_some.mp abandoned).1
    rw [Option.isNone_iff_eq_none] at panics
    have returns := RetryBudget.allowRetry_returns holds.calm holds.fits
    rw [panics] at returns
    cases returns

theorem Calm.step {action : Action} {after : System} (holds : system.Calm)
    (stepped : system.step externals action = some after) : after.Calm := by
  have forward := step_clock stepped
  cases step_cases stepped with
  | arrived | built | routerStored | configStored | probed => exact ⟨holds.calm, holds.fits⟩
  | ticked => exact ⟨holds.calm, holds.fits.trans (sub_le_sub_right forward _)⟩
  | moved stored moves =>
      cases moves with
      | polled live rest performed =>
          rcases perform_budget performed with same | ⟨call, called⟩
          · exact ⟨same ▸ holds.calm, same ▸ holds.fits⟩
          · have cutoff : RetryBudget.HasCutoff system.app.retryBudget.window (system.clock, call) := fun _ => holds.fits
            refine ⟨?_, ?_⟩
            · rw [called, ← Bool.not_eq_true, RetryBudget.perform_poisoned_iff, holds.calm]
              simp [cutoff]
            · rw [called, (RetryBudget.perform_settings _ _).2]
              exact holds.fits
      | timedOut => exact ⟨holds.calm, holds.fits⟩
      | dropped live rest abandoned =>
          obtain ⟨same, _⟩ := holds.abandon abandoned
          subst same
          exact ⟨holds.calm, holds.fits⟩

theorem execute_calm {config : Config} {now : Instant}
    (fits : earliestInstant ≤ now - config.server.retryBudgetWindowSecs)
    (executed : execute (step externals) (.initial externals config now) actions = some final) : final.Calm := by
  have initial : (System.initial externals config now).Calm := ⟨rfl, fits⟩
  exact execute_preserves Calm (fun _ _ _ holds stepped => holds.step stepped) initial executed

/-!
## Results
-/

/-- Every effect about to be performed receives an answer. -/
theorem pending_performs {config : Config} {now : Instant} {index : Nat} {task : Task} {effect : Effect}
    (executed : execute (step externals) (.initial externals config now) actions = some final)
    (configured : final.Configured) (calm : final.Calm) (stored : final.tasks[index]? = some task)
    (pending : task.pending = some effect) :
    ∃ input answer app, final.app.perform externals final.clock effect input = some (answer, app) := by
  cases effect with
  | panicked => exact absurd pending (never_panics executed configured stored)
  | nextIndexForKey ref poolSize key =>
      obtain ⟨balancer, current⟩ := pending_balancer executed stored pending (.inl ⟨_, _, rfl⟩)
      exact ⟨.none, _, _, Option.bind_eq_some_iff.mpr ⟨balancer, current, rfl⟩⟩
  | recordStart ref position =>
      obtain ⟨balancer, current⟩ := pending_balancer executed stored pending (.inr (.inl ⟨_, rfl⟩))
      exact ⟨.none, _, _, Option.bind_eq_some_iff.mpr ⟨balancer, current, rfl⟩⟩
  | recordDone ref position =>
      obtain ⟨balancer, current⟩ := pending_balancer executed stored pending (.inr (.inr ⟨_, rfl⟩))
      exact ⟨.none, _, _, Option.bind_eq_some_iff.mpr ⟨balancer, current, rfl⟩⟩
  | recordRequest =>
      obtain ⟨_, returned⟩ := Option.isSome_iff_exists.mp
        (@RetryBudget.recordRequest_returns _ final.clock calm.calm)
      exact ⟨.none, _, _, Option.map_eq_some_iff.mpr ⟨_, returned, rfl⟩⟩
  | allowRetry =>
      obtain ⟨_, returned⟩ := Option.isSome_iff_exists.mp (RetryBudget.allowRetry_returns calm.calm calm.fits)
      exact ⟨.none, _, _, Option.map_eq_some_iff.mpr ⟨_, returned, rfl⟩⟩
  | newV4 => exact ⟨.uuid plainId, _, _, rfl⟩
  | toBytes => exact ⟨.body none, _, _, rfl⟩
  | randomRange greatest => exact ⟨.jitter 0, ⟨0, Nat.succ_pos _⟩, final.app, by simp [AppState.perform]⟩
  | clientRequest sent timeout => exact ⟨.upstream .failed, _, _, rfl⟩
  | _ => exact ⟨.none, _, _, rfl⟩

theorem poll_of_performs {index : Nat} {input : Input} {task : Task} {effect : Effect}
    {next : Answer effect → Proxy ProxyResult} {answer : Answer effect} {app : AppState}
    (stored : system.tasks[index]? = some task) (live : task.status = .live) (rest : task.rest = .act effect next)
    (performed : system.app.perform externals system.clock effect input = some (answer, app)) :
    system.step externals (.poll index input) = some { system with
      app := app
      tasks := system.tasks.set index
        { task with history := task.history ++ [⟨effect, answer⟩], rest := next answer } } := by
  refine Option.bind_eq_some_iff.mpr ⟨task, stored, ?_⟩
  obtain ⟨request, arrived, history, program, status⟩ := task
  subst live
  subst rest
  exact Option.bind_eq_some_iff.mpr ⟨_, performed, rfl⟩

theorem brought_to_result {config : Config} {now : Instant} {index : Nat} {task : Task}
    (fits : earliestInstant ≤ now - config.server.retryBudgetWindowSecs)
    (executed : execute (step externals) (.initial externals config now) actions = some final)
    (configured : final.Configured) (stored : final.tasks[index]? = some task) (live : task.status = .live) :
    ∃ (inputs : List Input) (after : System) (done : Task),
      execute (step externals) final (inputs.map (.poll index ·)) = some after ∧
        after.tasks[index]? = some done ∧ done.result.isSome := by
  obtain ⟨program, program_eq⟩ : ∃ program, task.rest = program := ⟨_, rfl⟩
  induction program generalizing final task actions with
  | done result =>
      exact ⟨[], final, task, rfl, stored, by simp [Task.result, live, program_eq]⟩
  | act effect next ih =>
      have pending : task.pending = some effect := by simp [Task.pending, live, program_eq]
      obtain ⟨input, answer, app, performed⟩ :=
        pending_performs executed configured (execute_calm fits executed) stored pending
      have polled := poll_of_performs stored live program_eq performed
      have inside := (List.getElem?_eq_some_iff.mp stored).1
      have reached : execute (step externals) (.initial externals config now) (actions ++ [.poll index input]) =
          some _ := execute_append.mpr ⟨final, executed, execute_cons.mpr ⟨_, polled, rfl⟩⟩
      obtain ⟨inputs, after, done, continued, found, result⟩ :=
        ih answer reached configured (List.getElem?_set_self inside) live rfl
      exact ⟨input :: inputs, after, done, execute_cons.mpr ⟨_, polled, continued⟩, found, result⟩

/-- With safe configurations and a budget window that has a cutoff no request of a run
panics, and from every state each request in progress can be brought to its result by its own
steps alone. -/
theorem requests_can_finish {config : Config} {now : Instant} {index : Nat} {task : Task}
    (fits : earliestInstant ≤ now - config.server.retryBudgetWindowSecs)
    (executed : execute (step externals) (.initial externals config now) actions = some final)
    (configured : final.Configured) (stored : final.tasks[index]? = some task) (live : task.status = .live) :
    (∀ effect retryBudget, task.pending = some effect →
        final.app.abandon final.clock effect = some retryBudget → Proxy.awaits effect = true) ∧
      ∃ (inputs : List Input) (after : System) (done : Task),
        execute (step externals) final (inputs.map (.poll index ·)) = some after ∧
          after.tasks[index]? = some done ∧ done.result.isSome := by
  refine ⟨fun effect retryBudget pending abandoned => ?_, brought_to_result fits executed configured stored live⟩
  obtain ⟨_, awaits | panics⟩ := (execute_calm fits executed).abandon abandoned
  · exact awaits
  · exact absurd (panics ▸ pending) (never_panics executed configured stored)

theorem requests_can_finish_asked :
    ∃ final, execute (step sampleExternals) (.initial sampleExternals twoUpstreamsConfig 0) untilAsked = some final ∧
      ∃ (inputs : List Input) (after : System) (done : Task),
        execute (step sampleExternals) final (inputs.map (.poll 0 ·)) = some after ∧
          after.tasks[0]? = some done ∧ done.result.isSome := by
  have run : ∃ final task,
      execute (step sampleExternals) (.initial sampleExternals twoUpstreamsConfig 0) untilAsked = some final ∧
      final.applied = [(twoUpstreamsConfig, 0)] ∧ final.tasks[0]? = some task ∧ task.status = .live :=
    ⟨_, _, rfl, rfl, rfl, rfl⟩
  obtain ⟨final, task, executed, applied, stored, live⟩ := run
  have configured : final.Configured := by
    intro built member route listed
    rw [applied, List.mem_singleton] at member
    subst member
    have only : route = ⟨"/", twoUpstreams.upstreams, .roundRobin, none⟩ := List.mem_singleton.mp listed
    subst only
    exact Nat.succ_pos 1
  exact ⟨final, executed, (requests_can_finish (by decide +kernel) executed configured stored live).2⟩

/-- No configuration, health or outcome makes a request of a run perform more effects than
eleven for each upstream of the largest pool and ten. -/
theorem effort_bounded {config : Config} {now : Instant} {pool : Nat}
    (executed : execute (step externals) (.initial externals config now) actions = some final)
    (pools : ∀ built ∈ final.applied, ∀ route ∈ built.1.routes, route.upstream.length ≤ pool)
    {index : Nat} {task : Task} (stored : final.tasks[index]? = some task) :
    task.history.length ≤ 11 * pool + 10 := by
  have steps := (System.consistent executed task (List.mem_of_getElem? stored)).steps
  rcases proxyRequest_effort steps with few | ⟨router, loaded, bounded⟩
  · exact few.trans (Nat.le_add_left_of_le (by decide))
  · obtain ⟨built, applied, value⟩ := loaded_logged executed stored loaded
    have effort : router.value.effort task.request.uri.path ≤ 11 * pool + 6 := by
      unfold Router.effort
      cases matched : router.value.matchRoute task.request.uri.path with
      | none => exact Nat.le_add_left_of_le (by decide)
      | some route =>
          have listed := Router.matchRoute_mem matched
          rw [value] at listed
          obtain ⟨position, configured, found, rfl⟩ := Config.router_routes.mp listed
          have size := pools built (List.mem_of_getElem? applied) configured (List.mem_of_getElem? found)
          exact Nat.add_le_add_right (Nat.mul_le_mul_left 11 size) 6
    exact bounded.trans (Nat.add_le_add_right effort 4)

theorem effort_bounded_asked :
    ∃ final task,
      execute (step sampleExternals) (.initial sampleExternals twoUpstreamsConfig 0) untilAsked = some final ∧
      final.tasks[0]? = some task ∧ task.history.length ≤ 32 := by
  have run : ∃ final task,
      execute (step sampleExternals) (.initial sampleExternals twoUpstreamsConfig 0) untilAsked = some final ∧
      final.applied = [(twoUpstreamsConfig, 0)] ∧ final.tasks[0]? = some task := ⟨_, _, rfl, rfl, rfl⟩
  obtain ⟨final, task, executed, applied, stored⟩ := run
  have pools : ∀ built ∈ final.applied, ∀ route ∈ built.1.routes, route.upstream.length ≤ 2 := by
    intro built member route listed
    rw [applied, List.mem_singleton] at member
    subst member
    have only : route = ⟨"/", twoUpstreams.upstreams, .roundRobin, none⟩ := List.mem_singleton.mp listed
    subst only
    exact le_rfl
  exact ⟨final, task, executed, stored, effort_bounded executed pools stored⟩

end System

end L7Proxy
