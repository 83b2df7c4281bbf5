import L7Proxy.Balancer.Basic
import L7Proxy.Config
import L7Proxy.Health.Basic
import L7Proxy.RateLimiter.Basic
import L7Proxy.RetryBudget.Basic
import L7Proxy.Router

/-!
# Application state

The state all requests share: the two atomically swapped pointers, the balancers
of every router built so far, and the trackers, counters and limiters.
-/

set_option autoImplicit false

namespace L7Proxy

/-- A shared pointer; the generation tells which configuration it was made from. -/
structure Arc (α : Type) where
  generation : Nat
  value : α
  deriving DecidableEq

structure Metrics where
  requestsTotal : String × String × String → Nat
  requestDurationSeconds : String × String → List Duration
  retriesTotal : String → Nat
  errorsTotal : String × String → Nat

namespace Metrics

def new : Metrics := ⟨fun _ => 0, fun _ => [], fun _ => 0, fun _ => 0⟩

def inc {Labels : Type} [DecidableEq Labels] (counter : Labels → Nat) (labels : Labels) : Labels → Nat :=
  Function.update counter labels (counter labels + 1)

def observe {Labels : Type} [DecidableEq Labels] (histogram : Labels → List Duration) (labels : Labels)
    (elapsed : Duration) : Labels → List Duration :=
  Function.update histogram labels (histogram labels ++ [elapsed])

end Metrics

structure AppState where
  router : Arc Router
  config : Arc Config
  health : HealthTracker
  retryBudget : RetryBudget
  metrics : Metrics
  rateLimiter : RateLimiter
  balancers : List Balancer

namespace AppState

def withMetrics (state : AppState) (change : Metrics → Metrics) : AppState :=
  { state with metrics := change state.metrics }

end AppState

end L7Proxy
