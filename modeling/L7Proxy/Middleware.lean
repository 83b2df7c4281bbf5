import L7Proxy.Proxy.Request

/-!
# Middleware

What the layers around the proxy service answer, and the request they hand on.
-/

set_option autoImplicit false

namespace L7Proxy

def injectAddr (remoteIp : IpAddr) (req : Request) : Request := { req with remoteAddr := some remoteIp }

def proxyService : ProxyResult → Response
  | .ok resp => resp
  | .error e => e.intoResponse

/-- The response of `RequestTimeoutMiddleware` once the overall timeout is exceeded. -/
def timedOutResponse : Response := .text .gatewayTimeout "Request timed out"

/-- The response of `RateLimitMiddleware` to a client over its rate. -/
def rateLimitedResponse : Response :=
  { Response.text .tooManyRequests "Rate limit exceeded" with
    headers := (HeaderValue.fromStr "1").toList.map (("retry-after", ·)) }

/-- `RateLimitMiddleware::call`: the response of a refused request, or the request is
handed on. A request without an address is not checked. -/
def rateLimit (limiter : RateLimiter) (req : Request) (now : Instant) : Option Response × RateLimiter :=
  match req.remoteAddr with
  | some remote =>
      let (admitted, limiter) := limiter.check remote now
      (if admitted then none else some rateLimitedResponse, limiter)
  | none => (none, limiter)

end L7Proxy
