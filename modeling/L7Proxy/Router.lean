import L7Proxy.Primitives

/-!
# Router

Longest-prefix matching over the configured routes.
-/

set_option autoImplicit false

namespace L7Proxy

/-- The place of a route's balancer, whose state all requests share. -/
abbrev BalancerRef := Nat

structure Route where
  routePrefix : String
  upstreams : List String
  balancer : BalancerRef
  deriving DecidableEq

structure Router where
  routes : List Route
  deriving DecidableEq

namespace Router

def matchRoute (router : Router) (path : String) : Option Route :=
  maxByKey (·.routePrefix.utf8ByteSize)
    (router.routes.filter fun route => startsWith path route.routePrefix)

variable {router : Router} {path : String} {route : Route}

theorem matchRoute_startsWith (matched : router.matchRoute path = some route) :
    startsWith path route.routePrefix = true := by
  simpa using (List.mem_filter.mp (maxByKey_mem matched)).2

end Router

end L7Proxy
