import L7Proxy.Http

/-!
# Proxy errors

The errors a request can end in and the responses they become.
-/

set_option autoImplicit false

namespace L7Proxy

inductive ProxyError where
  | upstreamFailure
  | upstreamTimeout
  | noRoute
  | upstreamFailed
  | invalidUri
  | noUpstream
  deriving DecidableEq

namespace ProxyError

def intoResponse : ProxyError → Response
  | .upstreamFailure => .text .badGateway "Bad Gateway"
  | .upstreamTimeout => .text .gatewayTimeout "Gateway Timeout"
  | .noRoute => .text .notFound "No route found"
  | .upstreamFailed => .text .badGateway "Upstream request failed"
  | .invalidUri => .text .badRequest "Invalid URI"
  | .noUpstream => .text .serviceUnavailable "No upstream available"

/-- The label under which the failure exit of a request counts the error. -/
def statusLabel : ProxyError → String
  | .upstreamTimeout => "504"
  | _ => "502"

def FromUpstream (error : ProxyError) : Prop := error = .upstreamFailure ∨ error = .upstreamTimeout

/-- For the errors of an attempt the label is the status of the response. -/
theorem statusLabel_eq {error : ProxyError} (attempted : error.FromUpstream) :
    error.statusLabel = error.intoResponse.status.asString := by
  cases attempted with
  | inl failure =>
      subst failure
      exact (by decide : "502" = toString 502)
  | inr timeout =>
      subst timeout
      exact (by decide : "504" = toString 504)

end ProxyError

end L7Proxy
