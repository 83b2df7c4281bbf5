import L7Proxy.ConfigReloader
import L7Proxy.Library.Execution
import L7Proxy.Middleware

/-!
# The running proxy

Requests are tasks that perform their effects one at a time on the shared state, in
any interleaving with each other, with the reloader, with the health checker and with
the passing of time. A task that awaits may be dropped from outside.
-/

set_option autoImplicit false

namespace L7Proxy

open Interaction

inductive TaskStatus where
  | live
  | refused
  | timedOut
  | dropped
  deriving DecidableEq

/-- A request in the proxy, with what it has done and what it has still to do. -/
structure Task where
  request : Request
  arrived : Instant
  history : List ProxyEvent
  rest : Proxy ProxyResult
  status : TaskStatus

namespace Task

def pending (task : Task) : Option Effect :=
  match task.status, task.rest with
  | .live, .act effect _ => some effect
  | _, _ => none

def result (task : Task) : Option ProxyResult :=
  match task.status, task.rest with
  | .live, .done result => some result
  | _, _ => none

/-- The response delivered to the client. -/
def response (task : Task) : Option Response :=
  match task.status with
  | .live => task.result.map proxyService
  | .refused => some rateLimitedResponse
  | .timedOut => some timedOutResponse
  | .dropped => none

end Task

/-- What the environment supplies to an effect that reads more than the shared state. -/
inductive Input where
  | none
  | uuid (id : Uuid)
  | body (bytes : Option Bytes)
  | jitter (amount : Nat)
  | upstream (outcome : UpstreamOutcome)
  deriving DecidableEq

structure Externals where
  parses : UriParser
  hashing : Hashing

/-- Every URI parses, and all keys have the same hash. -/
def sampleExternals : Externals := ⟨fun _ => true, ⟨fun _ => 0, .leftmost⟩⟩

structure System where
  app : AppState
  clock : Instant
  tasks : List Task
  reloader : Reloader
  /-- The configurations built so far, each with the place of its first balancer. -/
  applied : List (Config × BalancerRef)
  probed : List String
  overallTimeout : Duration

inductive Action where
  | arrive (req : Request) (remoteIp : IpAddr)
  | poll (task : Nat) (input : Input)
  | timeOut (task : Nat)
  | drop (task : Nat)
  | reload (config : Config)
  | storeRouter
  | storeConfig
  | probe (upstream : String) (status : Option StatusCode)
  | tick (elapsed : Duration)
  deriving DecidableEq

def AppState.perform (externals : Externals) (app : AppState) (now : Instant) :
    (effect : Effect) → Input → Option (Answer effect × AppState)
  | .instantNow, .none => some (now, app)
  | .newV4, .uuid id => some (id, app)
  | .loadConfig, .none => some (app.config, app)
  | .loadRouter, .none => some (app.router, app)
  | .incRequestsTotal method route status, .none =>
      some ((), app.withMetrics fun metrics =>
        { metrics with requestsTotal := Metrics.inc metrics.requestsTotal (method, route, status) })
  | .observeRequestDuration method route elapsed, .none =>
      some ((), app.withMetrics fun metrics =>
        { metrics with requestDurationSeconds :=
            Metrics.observe metrics.requestDurationSeconds (method, route) elapsed })
  | .incRetriesTotal route, .none =>
      some ((), app.withMetrics fun metrics =>
        { metrics with retriesTotal := Metrics.inc metrics.retriesTotal route })
  | .incErrorsTotal route errorType, .none =>
      some ((), app.withMetrics fun metrics =>
        { metrics with errorsTotal := Metrics.inc metrics.errorsTotal (route, errorType) })
  | .toBytes, .body bytes => some (bytes, app)
  -- the scan of least connections is one step here; `Picks` has it load by load
  | .nextIndexForKey ref poolSize key, .none => do
      let balancer ← app.balancers[ref]?
      let selected := balancer.nextIndexForKey externals.hashing poolSize key
      some (selected.1, { app with balancers := app.balancers.set ref selected.2 })
  | .recordStart ref index, .none => do
      let balancer ← app.balancers[ref]?
      some ((), { app with balancers := app.balancers.set ref (balancer.recordStart index) })
  | .recordDone ref index, .none => do
      let balancer ← app.balancers[ref]?
      some ((), { app with balancers := app.balancers.set ref (balancer.recordDone index) })
  | .isHealthy upstream, .none =>
      let verdict := app.health.isHealthy upstream now
      some (verdict.1, { app with health := verdict.2 })
  | .recordFailure upstream, .none =>
      some ((), { app with health := app.health.recordFailure upstream now })
  | .recordSuccess upstream, .none =>
      some ((), { app with health := app.health.recordSuccess upstream })
  | .recordRequest, .none =>
      let call := app.retryBudget.recordRequest now
      call.1.map fun returned => (returned, { app with retryBudget := call.2 })
  | .allowRetry, .none =>
      let call := app.retryBudget.allowRetry now
      call.1.map fun granted => (granted, { app with retryBudget := call.2 })
  | .randomRange greatest, .jitter amount =>
      if within : amount < greatest + 1 then some (⟨amount, within⟩, app) else none
  | .sleep _, .none => some ((), app)
  | .clientRequest _ _, .upstream outcome => some (outcome, app)
  | _, _ => none

/-- The retry budget as a task leaves it that is abandoned at an effect, while it awaits or
as it panics. -/
def AppState.abandon (app : AppState) (now : Instant) (effect : Effect) : Option RetryBudget :=
  match effect with
  | .panicked => some app.retryBudget
  | .recordRequest =>
      let call := app.retryBudget.recordRequest now
      if call.1.isNone then some call.2 else none
  | .allowRetry =>
      let call := app.retryBudget.allowRetry now
      if call.1.isNone then some call.2 else none
  | _ => if Proxy.awaits effect then some app.retryBudget else none

/-- What the health checker reports for the outcome of one probe. -/
def AppState.probe (app : AppState) (upstream : String) (status : Option StatusCode) (now : Instant) :
    AppState :=
  match status with
  | some code =>
      if 200 ≤ code.code ∧ code.code < 300 then
        { app with health := app.health.recordSuccess upstream }
      else { app with health := app.health.recordFailure upstream now }
  | none => { app with health := app.health.recordFailure upstream now }

namespace System

def initial (externals : Externals) (config : Config) (now : Instant) : System where
  app := .initial externals.hashing config
  clock := now
  tasks := []
  reloader := .idle
  applied := [(config, 0)]
  probed := config.probedUpstreams
  overallTimeout := config.server.overallTimeoutSecs

def setTask (system : System) (index : Nat) (task : Task) : System :=
  { system with tasks := system.tasks.set index task }

/-- A request passes the rate limiter and becomes a task, or is refused. -/
def arrive (externals : Externals) (system : System) (req : Request) (remoteIp : IpAddr) : System :=
  let req := injectAddr remoteIp req
  let verdict := system.app.rateLimiter.check remoteIp system.clock
  let task : Task :=
    ⟨req, system.clock, [], proxyRequest externals.parses req, if verdict.1 then .live else .refused⟩
  { system with
    app := { system.app with rateLimiter := verdict.2 }
    tasks := system.tasks ++ [task] }

/-- An arrival is refused exactly when the rate limiting layer answers it. -/
theorem arrive_rateLimit (externals : Externals) (system : System) (req : Request) (remoteIp : IpAddr) :
    system.arrive externals req remoteIp =
      { system with
        app := { system.app with
          rateLimiter := (rateLimit system.app.rateLimiter (injectAddr remoteIp req) system.clock).2 }
        tasks := system.tasks ++ [⟨injectAddr remoteIp req, system.clock, [],
          proxyRequest externals.parses (injectAddr remoteIp req),
          if (rateLimit system.app.rateLimiter (injectAddr remoteIp req) system.clock).1 = none then .live
          else .refused⟩] } := by
  by_cases admitted : (system.app.rateLimiter.check remoteIp system.clock).1 = true <;>
    simp [arrive, rateLimit, injectAddr, admitted]

def poll (externals : Externals) (system : System) (index : Nat) (input : Input) : Option System := do
  let task ← system.tasks[index]?
  match task.status, task.rest with
  | .live, .act effect next =>
      let (answer, app) ← system.app.perform externals system.clock effect input
      some { system with
        app := app
        tasks := system.tasks.set index
          { task with history := task.history ++ [⟨effect, answer⟩], rest := next answer } }
  | _, _ => none

/-- The overall timeout answers for a task that awaits past its deadline. -/
def timeOut (system : System) (index : Nat) : Option System := do
  let task ← system.tasks[index]?
  let effect ← task.pending
  if Proxy.awaits effect ∧ task.arrived + system.overallTimeout ≤ system.clock then
    some (system.setTask index { task with status := .timedOut })
  else none

/-- The client disconnects from a task that awaits, or a panic unwinds it. -/
def drop (system : System) (index : Nat) : Option System := do
  let task ← system.tasks[index]?
  let effect ← task.pending
  let retryBudget ← system.app.abandon system.clock effect
  some { system with
    app := { system.app with retryBudget := retryBudget }
    tasks := system.tasks.set index { task with status := .dropped } }

def reload (externals : Externals) (system : System) (config : Config) : Option System :=
  match system.reloader with
  | .idle =>
      let generation := system.applied.length
      let built := system.app.buildRouter externals.hashing config
      some { system with
        app := built.2
        reloader := .built ⟨generation, built.1⟩ ⟨generation, config⟩
        applied := system.applied ++ [(config, system.app.balancers.length)] }
  | _ => none

def step (externals : Externals) (system : System) : Action → Option System
  | .arrive req remoteIp => some (system.arrive externals req remoteIp)
  | .poll index input => system.poll externals index input
  | .timeOut index => system.timeOut index
  | .drop index => system.drop index
  | .reload config => system.reload externals config
  | .storeRouter =>
      match system.reloader with
      | .built router config =>
          some { system with app := system.app.storeRouter router, reloader := .routerStored config }
      | _ => none
  | .storeConfig =>
      match system.reloader with
      | .routerStored config => some { system with app := system.app.storeConfig config, reloader := .idle }
      | _ => none
  | .probe upstream status =>
      if upstream ∈ system.probed then
        some { system with app := system.app.probe upstream status system.clock }
      else none
  | .tick elapsed =>
      if 0 ≤ elapsed then some { system with clock := system.clock + elapsed } else none

end System

end L7Proxy
