import L7Proxy.Primitives

/-!
# Configuration

The deserialized configuration. Field defaults are those the deserializer fills
in; settings that no modelled function reads are left out. Floating-point
settings are read as exact rationals.
-/

set_option autoImplicit false

namespace L7Proxy

structure RateLimitConfig where
  requestsPerSecond : ℚ
  burstSize : Nat
  deriving DecidableEq

structure HealthCheckConfig where
  path : String := "/health"
  intervalSecs : Nat := 10
  timeoutSecs : Nat := 3
  deriving DecidableEq

structure ServerConfig where
  requestTimeoutSecs : Nat
  maxRetries : Nat
  failureThreshold : Nat := 3
  healthCooldownSecs : Nat := 30
  healthCheck : Option HealthCheckConfig := none
  retryBackoffMs : Nat := 100
  retryBudgetPercent : ℚ := 20
  retryBudgetWindowSecs : Nat := 10
  overallTimeoutSecs : Nat := 30
  rateLimit : Option RateLimitConfig := none
  deriving DecidableEq

inductive BalancerStrategy where
  | roundRobin
  | leastConnections
  | weightedRoundRobin
  | consistentHash
  deriving DecidableEq

structure RouteConfig where
  routePrefix : String
  upstream : List String
  strategy : BalancerStrategy := .roundRobin
  weights : Option (List Nat) := none
  deriving DecidableEq

structure Config where
  server : ServerConfig
  routes : List RouteConfig
  deriving DecidableEq

end L7Proxy
