import L7Proxy.State

/-!
# Configuration reload

The router a configuration is built into, the initial state of the proxy, and the
steps of `apply_config`: the new router and configuration are stored one after the
other.
-/

set_option autoImplicit false

namespace L7Proxy

def Config.balancers (hashing : Hashing) (config : Config) : List Balancer :=
  config.routes.map fun r => createBalancer hashing.hashKey r.strategy r.upstream.length r.weights

/-- The router of a configuration whose balancers are stored from the given place on. -/
def Config.router (config : Config) (first : BalancerRef) : Router :=
  ⟨(config.routes.zipIdx first).map fun (r, ref) => ⟨r.routePrefix, r.upstream, ref⟩⟩

def AppState.initial (hashing : Hashing) (config : Config) : AppState where
  router := ⟨0, config.router 0⟩
  config := ⟨0, config⟩
  health := .new config.server.failureThreshold config.server.healthCooldownSecs
  retryBudget := .new config.server.retryBudgetPercent config.server.retryBudgetWindowSecs
  metrics := .new
  rateLimiter := match config.server.rateLimit with
    | some rl => .new rl.requestsPerSecond rl.burstSize
    | none => .disabled
  balancers := config.balancers hashing

inductive Reloader where
  | idle
  | built (router : Arc Router) (config : Arc Config)
  | routerStored (config : Arc Config)
  deriving DecidableEq

namespace AppState

/-- Build the router of a new configuration: its balancers are allocated. -/
def buildRouter (hashing : Hashing) (state : AppState) (config : Config) : Router × AppState :=
  (config.router state.balancers.length,
    { state with balancers := state.balancers ++ config.balancers hashing })

def storeRouter (state : AppState) (router : Arc Router) : AppState := { state with router := router }

def storeConfig (state : AppState) (config : Arc Config) : AppState := { state with config := config }

end AppState

/-- All unique upstreams across all routes, probed when health checks are configured. -/
def Config.probedUpstreams (config : Config) : List String :=
  match config.server.healthCheck with
  | some _ => (config.routes.flatMap (·.upstream)).dedup
  | none => []

end L7Proxy
