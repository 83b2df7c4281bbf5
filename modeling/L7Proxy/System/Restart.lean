import L7Proxy.Proxy.Relocation
import L7Proxy.System.Reload
import Mathlib.Data.Finset.Dedup

/-!
# Reload and restart

`apply_config` replaces the router and the configuration and nothing else: the health
tracker, the retry budget, the rate limiter, the overall timeout and the upstreams of
the health checker stay those of the startup. A proxy after a reload runs as one
started with the new configuration around the old ones of these.
-/

set_option autoImplicit false

namespace L7Proxy

open Interaction

/-!
## What a run shows
-/

inductive Decision where
  | isHealthy (upstream : String) (healthy : Bool)
  | allowRetry (allowed : Bool)
  | clientRequest (request : OutgoingRequest) (timeout : Duration)
  deriving DecidableEq

def decision : ProxyEvent → Option Decision
  | ⟨.isHealthy upstream, healthy⟩ => some (.isHealthy upstream healthy)
  | ⟨.allowRetry, allowed⟩ => some (.allowRetry allowed)
  | ⟨.clientRequest request timeout, _⟩ => some (.clientRequest request timeout)
  | _ => none

structure ObservedTask where
  status : TaskStatus
  response : Option Response
  decisions : List Decision
  overdue : Bool
  deriving DecidableEq

/-- What tells two runs apart: the response to each request, what was decided about it
on the way, and the upstreams probed in each round. -/
structure Observation where
  tasks : List ObservedTask
  probed : Finset String
  deriving DecidableEq

namespace System

def observe (system : System) : Observation where
  tasks := system.tasks.map fun task =>
    { status := task.status
      response := task.response
      decisions := task.history.filterMap decision
      overdue := task.arrived + system.overallTimeout ≤ system.clock }
  probed := system.probed.toFinset

end System

/-!
## Relocated states
-/

section

variable (places : Nat)

structure AppState.Relocates (app other : AppState) : Prop where
  router : app.router.value = other.router.value.relocate places
  config : app.config.value = other.config.value
  health : app.health = other.health
  retryBudget : app.retryBudget = other.retryBudget
  metrics : app.metrics = other.metrics
  rateLimiter : app.rateLimiter = other.rateLimiter
  balancers : ∃ earlier : List Balancer, earlier.length = places ∧
    app.balancers = earlier ++ other.balancers

inductive Reloader.Relocates : Reloader → Reloader → Prop where
  | idle : Relocates .idle .idle
  | built {router other : Arc Router} {config otherConfig : Arc Config}
      (routers : router.value = other.value.relocate places) (configs : config.value = otherConfig.value) :
      Relocates (.built router config) (.built other otherConfig)
  | routerStored {config otherConfig : Arc Config} (configs : config.value = otherConfig.value) :
      Relocates (.routerStored config) (.routerStored otherConfig)

structure Task.Relocates (task other : Task) : Prop where
  request : task.request = other.request
  arrived : task.arrived = other.arrived
  history : List.Forall₂ (Relocated places) task.history other.history
  rest : RunsAlike places task.rest other.rest
  status : task.status = other.status

/-- The states differ in where the balancers stand and in what nothing reads. -/
structure System.Relocates (system other : System) : Prop where
  app : system.app.Relocates places other.app
  clock : system.clock = other.clock
  tasks : List.Forall₂ (Task.Relocates places) system.tasks other.tasks
  reloader : system.reloader.Relocates places other.reloader
  probed : ∀ upstream, upstream ∈ system.probed ↔ upstream ∈ other.probed
  overallTimeout : system.overallTimeout = other.overallTimeout

end

theorem Config.router_relocate (config : Config) (places first : Nat) :
    config.router (places + first) = (config.router first).relocate places := by
  unfold Config.router Router.relocate
  rw [← List.map_snd_add_zipIdx_eq_zipIdx, List.map_map, List.map_map]
  congr 2
  funext entry
  simp [Route.relocate, Nat.add_comm]

theorem Relocated.decision_eq {places : Nat} {event other : ProxyEvent}
    (relocated : Relocated places event other) : decision event = decision other := by
  cases relocated with
  | loadConfig | loadRouter | nextIndexForKey | recordStart | recordDone | fixed => rfl

section

variable {places : Nat}

theorem Task.Relocates.pending {task other : Task} (relocates : task.Relocates places other) :
    task.pending = other.pending.map (Effect.relocate places) := by
  unfold Task.pending
  rw [relocates.status]
  rcases relocates.rest.cases with ⟨_, _, first, second, _⟩ | ⟨_, _, _, _, first, second, effects, _⟩
  · rw [first, second]
    cases other.status <;> rfl
  · rw [first, second]
    cases effects
    cases other.status <;> rfl

theorem Task.Relocates.response {task other : Task} (relocates : task.Relocates places other) :
    task.response = other.response := by
  unfold Task.response Task.result
  rw [relocates.status]
  rcases relocates.rest.cases with ⟨_, _, first, second, values⟩ | ⟨_, _, _, _, first, second, _⟩
  · rw [first, second, values]
  · rw [first, second]
    cases other.status <;> rfl

theorem System.Relocates.observe {system other : System} (relocates : system.Relocates places other) :
    system.observe = other.observe := by
  unfold System.observe
  congr 1
  · apply forall₂_map relocates.tasks
    intro task otherTask same
    rw [same.status, same.response, same.arrived, relocates.clock, relocates.overallTimeout,
      forall₂_filterMap same.history fun _ _ => Relocated.decision_eq]
  · ext upstream
    simp only [List.mem_toFinset, relocates.probed]

/-!
## One step
-/

namespace AppState.Relocates

variable {app other : AppState} (relocates : app.Relocates places other) (ref : BalancerRef)

include relocates

theorem balancer : Option.Rel Eq app.balancers[places + ref]? other.balancers[ref]? := by
  obtain ⟨earlier, length, balancers⟩ := relocates.balancers
  subst length
  rw [balancers, List.getElem?_append_right (Nat.le_add_right _ _), Nat.add_sub_cancel_left]
  cases other.balancers[ref]? with
  | none => exact .none
  | some balancer => exact .some rfl

theorem setBalancer (balancer : Balancer) :
    { app with balancers := app.balancers.set (places + ref) balancer : AppState }.Relocates places
      { other with balancers := other.balancers.set ref balancer } := by
  obtain ⟨earlier, length, balancers⟩ := relocates.balancers
  subst length
  refine ⟨relocates.router, relocates.config, relocates.health, relocates.retryBudget, relocates.metrics,
    relocates.rateLimiter, earlier, rfl, ?_⟩
  rw [balancers, List.set_append_right _ _ (Nat.le_add_right _ _), Nat.add_sub_cancel_left]

end AppState.Relocates

variable {externals : Externals}

/-- The effect finds the same answer wherever its balancer stands. -/
theorem perform_relocates {app other : AppState} (relocates : app.Relocates places other) (now : Instant)
    (effect : Effect) (input : Input) :
    Option.Rel (fun performed otherPerformed =>
        Relocated places ⟨effect.relocate places, performed.1⟩ ⟨effect, otherPerformed.1⟩ ∧
          performed.2.Relocates places otherPerformed.2)
      (app.perform externals now (effect.relocate places) input)
      (other.perform externals now effect input) := by
  cases effect with
  | nextIndexForKey ref poolSize key =>
      cases input with
      | none =>
          apply related_bind (relocates.balancer ref)
          intro balancer otherBalancer same
          cases same
          exact .some ⟨.nextIndexForKey _ _ _ _, relocates.setBalancer ref _⟩
      | _ => exact .none
  | recordStart ref index =>
      cases input with
      | none =>
          apply related_bind (relocates.balancer ref)
          intro balancer otherBalancer same
          cases same
          exact .some ⟨.recordStart _ _, relocates.setBalancer ref _⟩
      | _ => exact .none
  | recordDone ref index =>
      cases input with
      | none =>
          apply related_bind (relocates.balancer ref)
          intro balancer otherBalancer same
          cases same
          exact .some ⟨.recordDone _ _, relocates.setBalancer ref _⟩
      | _ => exact .none
  | loadConfig =>
      cases input with
      | none =>
          obtain ⟨⟨generation, router⟩, ⟨configGeneration, config⟩, _⟩ := app
          obtain ⟨⟨otherGeneration, otherRouter⟩, ⟨otherConfigGeneration, otherConfig⟩, _⟩ := other
          have same : config = otherConfig := relocates.config
          cases same
          exact .some ⟨.loadConfig _ _ _, relocates⟩
      | _ => exact .none
  | loadRouter =>
      cases input with
      | none =>
          obtain ⟨⟨generation, router⟩, _⟩ := app
          obtain ⟨⟨otherGeneration, otherRouter⟩, _⟩ := other
          have same : router = otherRouter.relocate places := relocates.router
          cases same
          exact .some ⟨.loadRouter _ _ _, relocates⟩
      | _ => exact .none
  | randomRange greatest =>
      cases input with
      | jitter amount =>
          simp only [Effect.relocate, AppState.perform]
          split
          · exact .some ⟨.fixed _ trivial, relocates⟩
          · exact .none
      | _ => exact .none
  | recordRequest =>
      cases input with
      | none =>
          simp only [Effect.relocate, AppState.perform, relocates.retryBudget]
          cases (other.retryBudget.recordRequest now).1 with
          | none => exact .none
          | some returned => exact .some ⟨.fixed _ trivial, { relocates with retryBudget := rfl }⟩
      | _ => exact .none
  | allowRetry =>
      cases input with
      | none =>
          simp only [Effect.relocate, AppState.perform, relocates.retryBudget]
          cases (other.retryBudget.allowRetry now).1 with
          | none => exact .none
          | some granted => exact .some ⟨.fixed _ trivial, { relocates with retryBudget := rfl }⟩
      | _ => exact .none
  | _ =>
      obtain ⟨router, config, health, retryBudget, metrics, rateLimiter, balancers⟩ := app
      obtain ⟨otherRouter, otherConfig, otherHealth, otherBudget, otherMetrics, otherLimiter, otherBalancers⟩ := other
      obtain ⟨routers, configs, rfl, rfl, rfl, rfl, moved⟩ := relocates
      cases input <;>
        first | exact .none | exact .some ⟨.fixed _ trivial, routers, configs, rfl, rfl, rfl, rfl, moved⟩

theorem abandon_relocates {app other : AppState} (relocates : app.Relocates places other) (now : Instant)
    (effect : Effect) : app.abandon now (effect.relocate places) = other.abandon now effect := by
  cases effect <;> simp [Effect.relocate, AppState.abandon, Proxy.awaits, relocates.retryBudget]

namespace System.Relocates

variable {system other : System} (relocates : system.Relocates places other)

include relocates

theorem setTask (index : Nat) {task otherTask : Task} (same : task.Relocates places otherTask) :
    (system.setTask index task).Relocates places (other.setTask index otherTask) :=
  { relocates with tasks := forall₂_set relocates.tasks index same }

theorem arrive (req : Request) (remoteIp : IpAddr) :
    (system.arrive externals req remoteIp).Relocates places (other.arrive externals req remoteIp) := by
  have checks : system.app.rateLimiter.check remoteIp system.clock =
      other.app.rateLimiter.check remoteIp other.clock := by
    rw [relocates.app.rateLimiter, relocates.clock]
  refine { relocates with app := { relocates.app with rateLimiter := congrArg Prod.snd checks }, tasks := ?_ }
  refine List.rel_append relocates.tasks (.cons ?_ .nil)
  refine ⟨rfl, relocates.clock, .nil, runsAlike_proxyRequest places _ _, ?_⟩
  simp only [checks]

theorem poll (index : Nat) (input : Input) :
    Option.Rel (System.Relocates places) (system.poll externals index input)
      (other.poll externals index input) := by
  apply related_bind (forall₂_getElem? relocates.tasks index)
  intro task otherTask same
  rw [same.status]
  rcases same.rest.cases with ⟨_, _, first, second, _⟩ | ⟨effect, next, otherEffect, otherNext, first, second, rfl, later⟩
  · rw [first, second]
    cases otherTask.status <;> exact .none
  · rw [first, second, relocates.clock]
    cases otherTask.status with
    | live =>
        apply related_bind (perform_relocates relocates.app other.clock otherEffect input)
        intro performed otherPerformed matched
        refine .some { relocates with
          app := matched.2
          clock := rfl
          tasks := forall₂_set relocates.tasks index ?_ }
        exact { same with
          history := List.rel_append same.history (.cons matched.1 .nil)
          rest := later _ _ matched.1
          status := rfl }
    | refused | timedOut | dropped => exact .none

theorem timeOut (index : Nat) :
    Option.Rel (System.Relocates places) (system.timeOut index) (other.timeOut index) := by
  apply related_bind (forall₂_getElem? relocates.tasks index)
  intro task otherTask same
  rw [same.pending]
  cases otherTask.pending with
  | none => exact .none
  | some effect =>
      simp only [Option.map_some, Option.bind_eq_bind, Option.bind_some, Effect.awaits_relocate, same.arrived,
        relocates.overallTimeout, relocates.clock]
      split
      · exact .some (relocates.setTask index { same with arrived := rfl, status := rfl })
      · exact .none

theorem drop (index : Nat) :
    Option.Rel (System.Relocates places) (system.drop index) (other.drop index) := by
  apply related_bind (forall₂_getElem? relocates.tasks index)
  intro task otherTask same
  rw [same.pending]
  cases otherTask.pending with
  | none => exact .none
  | some effect =>
      simp only [Option.map_some, Option.bind_eq_bind, Option.bind_some, abandon_relocates relocates.app,
        relocates.clock]
      cases other.app.abandon other.clock effect with
      | none => exact .none
      | some retryBudget =>
          exact .some { relocates with
            app := { relocates.app with retryBudget := rfl }
            clock := rfl
            tasks := forall₂_set relocates.tasks index { same with status := rfl } }

theorem reload (config : Config) :
    Option.Rel (System.Relocates places) (system.reload externals config) (other.reload externals config) := by
  have reloaders := relocates.reloader
  unfold System.reload
  generalize system.reloader = reloader, other.reloader = otherReloader at reloaders ⊢
  cases reloaders with
  | idle =>
      obtain ⟨earlier, length, balancers⟩ := relocates.app.balancers
      have built : system.app.balancers.length = places + other.app.balancers.length := by
        rw [balancers, List.length_append, length]
      refine .some { relocates with
        app := { relocates.app with balancers := ⟨earlier, length, ?_⟩ }
        reloader := .built ?_ rfl }
      · rw [AppState.buildRouter, AppState.buildRouter, balancers, List.append_assoc]
      · rw [AppState.buildRouter, AppState.buildRouter, built, Config.router_relocate]
  | built | routerStored => exact .none

theorem probe (upstream : String) (status : Option StatusCode) :
    (system.app.probe upstream status system.clock).Relocates places
      (other.app.probe upstream status other.clock) := by
  unfold AppState.probe
  rw [relocates.app.health, relocates.clock]
  cases status with
  | none => exact { relocates.app with health := rfl }
  | some code =>
      dsimp only
      split
      · exact { relocates.app with health := rfl }
      · exact { relocates.app with health := rfl }

/-- Relocated systems refuse the same actions and stay relocated under the others. -/
theorem step (action : Action) :
    Option.Rel (System.Relocates places) (system.step externals action) (other.step externals action) := by
  cases action with
  | arrive req remoteIp => exact .some (relocates.arrive req remoteIp)
  | poll index input => exact relocates.poll index input
  | timeOut index => exact relocates.timeOut index
  | drop index => exact relocates.drop index
  | reload config => exact relocates.reload config
  | storeRouter =>
      have reloaders := relocates.reloader
      unfold System.step
      generalize system.reloader = reloader, other.reloader = otherReloader at reloaders ⊢
      cases reloaders with
      | built routers configs =>
          exact .some { relocates with
            app := { relocates.app with router := routers }
            reloader := .routerStored configs }
      | idle | routerStored => exact .none
  | storeConfig =>
      have reloaders := relocates.reloader
      unfold System.step
      generalize system.reloader = reloader, other.reloader = otherReloader at reloaders ⊢
      cases reloaders with
      | routerStored configs =>
          exact .some { relocates with app := { relocates.app with config := configs }, reloader := .idle }
      | idle | built => exact .none
  | probe upstream status =>
      unfold System.step
      simp only [relocates.probed]
      split
      · exact .some { relocates with app := relocates.probe upstream status }
      · exact .none
  | tick elapsed =>
      unfold System.step
      dsimp only
      split
      · exact .some { relocates with clock := congrArg (· + elapsed) relocates.clock }
      · exact .none

/-- Runs from relocated systems show the same. -/
theorem observe_execute (actions : List Action) :
    (execute (System.step externals) system actions).map System.observe =
      (execute (System.step externals) other actions).map System.observe :=
  map_eq_of_related (fun _ _ together => together.observe)
    (execute_related (fun _ _ action together => together.step action) relocates actions)

end System.Relocates

end

/-!
## The startup and the reload
-/

/-- The upstreams the health checker probes: it is spawned for the configuration of the
startup, and its task collects the upstreams of the configuration it finds. -/
def checkedUpstreams (spawned found : Config) : List String :=
  match spawned.server.healthCheck with
  | some _ => (found.routes.flatMap (·.upstream)).dedup
  | none => []

/-- The configurations that `start_server` and the health checker's task find when they
first run, be it before or after a reload. -/
structure StartupReads where
  server : Config
  checker : Config

namespace System

def started (externals : Externals) (config : Config) (reads : StartupReads) (now : Instant) : System :=
  { initial externals config now with
    probed := checkedUpstreams config reads.checker
    overallTimeout := reads.server.server.overallTimeoutSecs }

/-- A proxy started with the configuration around what a reload leaves of an earlier startup. -/
def startedAround (externals : Externals) (startup config : Config) (reads : StartupReads) (now : Instant) :
    System :=
  let earlier := started externals startup reads now
  let system := initial externals config now
  { system with
    app := { system.app with
      health := earlier.app.health
      retryBudget := earlier.app.retryBudget
      rateLimiter := earlier.app.rateLimiter }
    probed := earlier.probed
    overallTimeout := earlier.overallTimeout }

def applyConfig (config : Config) : List Action := [.reload config, .storeRouter, .storeConfig]

theorem started_self (externals : Externals) (config : Config) (now : Instant) :
    started externals config ⟨config, config⟩ now = initial externals config now := by
  unfold started checkedUpstreams initial Config.probedUpstreams
  cases config.server.healthCheck <;> rfl

section

variable (externals : Externals) (first second : Config) (reads : StartupReads) (now : Instant)

theorem started_tick {waited : Duration} (forward : 0 ≤ waited) :
    (started externals first reads now).step externals (.tick waited) =
      some (started externals first reads (now + waited)) :=
  if_pos forward

theorem applyConfig_relocates :
    ∃ reloaded, execute (step externals) (started externals first reads now) (applyConfig second) =
        some reloaded ∧
      reloaded.Relocates first.routes.length (startedAround externals first second reads now) := by
  refine ⟨_, rfl, ?_⟩
  have length : (first.balancers externals.hashing).length = first.routes.length := List.length_map _
  refine ⟨⟨?_, rfl, rfl, rfl, rfl, rfl, _, length, rfl⟩, rfl, .nil, .idle, fun _ => Iff.rfl, rfl⟩
  rw [← length]
  exact second.router_relocate _ 0

/-- Whatever the two configurations, a proxy runs after a reload as one started with the
new configuration around the earlier startup. -/
theorem reload_runs_around {waited : Duration} (forward : 0 ≤ waited) (actions : List Action) :
    (execute (step externals) (started externals first reads now)
        (.tick waited :: applyConfig second ++ actions)).map observe =
      (execute (step externals) (startedAround externals first second reads (now + waited)) actions).map
        observe := by
  obtain ⟨reloaded, applied, relocates⟩ := applyConfig_relocates externals first second reads (now + waited)
  have prepared : execute (step externals) (started externals first reads now)
      (.tick waited :: applyConfig second) = some reloaded :=
    execute_cons.mpr ⟨_, started_tick externals first reads now forward, applied⟩
  rw [execute_after prepared]
  exact relocates.observe_execute actions

end

/-- The configurations agree on all that a reload leaves as the startup made it. -/
structure SameStartup (first second : Config) (reads : StartupReads) : Prop where
  failureThreshold : first.server.failureThreshold = second.server.failureThreshold
  healthCooldownSecs : first.server.healthCooldownSecs = second.server.healthCooldownSecs
  retryBudgetPercent : first.server.retryBudgetPercent = second.server.retryBudgetPercent
  retryBudgetWindowSecs : first.server.retryBudgetWindowSecs = second.server.retryBudgetWindowSecs
  rateLimit : first.server.rateLimit = second.server.rateLimit
  overallTimeoutSecs : reads.server.server.overallTimeoutSecs = second.server.overallTimeoutSecs
  probed : ∀ upstream, upstream ∈ checkedUpstreams first reads.checker ↔ upstream ∈ second.probedUpstreams

section

variable {externals : Externals} {first second : Config} {reads : StartupReads} {now : Instant}

/-- A proxy started around an agreeing startup is one started afresh. -/
theorem SameStartup.relocates (same : SameStartup first second reads) :
    (startedAround externals first second reads now).Relocates 0 (initial externals second now) where
  app := {
    router := second.router_relocate 0 0
    config := rfl
    health := by
      simp only [startedAround, started, initial, AppState.initial, same.failureThreshold,
        same.healthCooldownSecs]
    retryBudget := by
      simp only [startedAround, started, initial, AppState.initial, same.retryBudgetPercent,
        same.retryBudgetWindowSecs]
    metrics := rfl
    rateLimiter := by simp only [startedAround, started, initial, AppState.initial, same.rateLimit]
    balancers := ⟨[], rfl, rfl⟩ }
  clock := rfl
  tasks := .nil
  reloader := .idle
  probed := same.probed
  overallTimeout := congrArg (fun seconds : Nat => (seconds : ℚ)) same.overallTimeoutSecs

/-- When the configurations agree at startup, a reload before any traffic is a restart:
every later run shows the same. -/
theorem reload_is_restart (same : SameStartup first second reads) {waited : Duration} (forward : 0 ≤ waited)
    (actions : List Action) :
    (execute (step externals) (started externals first reads now)
        (.tick waited :: applyConfig second ++ actions)).map observe =
      (execute (step externals) (initial externals second (now + waited)) actions).map observe := by
  rw [reload_runs_around externals first second reads now forward]
  exact same.relocates.observe_execute actions

end

def twoArrivals : List Action := [.arrive plainRequest plainClient, .arrive plainRequest plainClient]

/-- The two configurations differ in a route and in settings that requests load. -/
theorem reload_is_restart_upstreams :
    (execute (step sampleExternals) (initial sampleExternals firstConfig 0)
        (.tick 5 :: applyConfig secondConfig ++ twoArrivals)).map observe =
      (execute (step sampleExternals) (initial sampleExternals secondConfig (0 + 5)) twoArrivals).map
        observe := by
  have same : SameStartup firstConfig secondConfig ⟨firstConfig, firstConfig⟩ :=
    ⟨rfl, rfl, rfl, rfl, rfl, rfl, fun _ => Iff.rfl⟩
  rw [← started_self sampleExternals firstConfig]
  exact reload_is_restart same (by decide) twoArrivals

/-- A rate limit that comes with a reload refuses nobody. -/
def limitedConfig : Config :=
  { firstConfig with
    server := { firstConfig.server with rateLimit := some { requestsPerSecond := 1, burstSize := 1 } } }

theorem reload_sets_no_rate_limit :
    (execute (step sampleExternals) (initial sampleExternals firstConfig 0)
        (applyConfig limitedConfig ++ twoArrivals)).map observe ≠
      (execute (step sampleExternals) (initial sampleExternals limitedConfig 0) twoArrivals).map observe := by
  intro same
  have statuses := congrArg (Option.map fun shown => shown.tasks.map ObservedTask.status) same
  revert statuses
  decide +kernel

end System

end L7Proxy
