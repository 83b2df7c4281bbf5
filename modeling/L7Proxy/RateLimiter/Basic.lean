import L7Proxy.Http

/-!
# Rate limiter

One token bucket per client address, with stale buckets dropped every thousand
checks. Floating-point levels are read as exact rationals.
-/

set_option autoImplicit false

namespace L7Proxy

structure TokenBucket where
  tokens : ℚ
  capacity : ℚ
  refillRate : ℚ
  lastRefill : Instant
  deriving DecidableEq

namespace TokenBucket

def new (capacity refillRate : ℚ) (now : Instant) : TokenBucket :=
  ⟨capacity, capacity, refillRate, now⟩

def refill (bucket : TokenBucket) (now : Instant) : TokenBucket :=
  let elapsed := durationSince now bucket.lastRefill
  { bucket with
    tokens := min (bucket.tokens + elapsed * bucket.refillRate) bucket.capacity
    lastRefill := now }

def tryAcquire (bucket : TokenBucket) (now : Instant) : Bool × TokenBucket :=
  let bucket := bucket.refill now
  if 1 ≤ bucket.tokens then (true, { bucket with tokens := bucket.tokens - 1 })
  else (false, bucket)

end TokenBucket

structure RateLimiter where
  buckets : Table IpAddr TokenBucket
  capacity : ℚ
  refillRate : ℚ
  enabled : Bool
  cleanupCounter : Nat

namespace RateLimiter

def new (requestsPerSecond : ℚ) (burstSize : Nat) : RateLimiter :=
  ⟨Table.empty, burstSize, requestsPerSecond, true, 0⟩

def disabled : RateLimiter := ⟨Table.empty, 0, 0, false, 0⟩

/-- Drops the buckets that have not been asked for 300 seconds. -/
def cleanup (limiter : RateLimiter) (now : Instant) : RateLimiter :=
  let cutoff := now - 300
  { limiter with buckets := limiter.buckets.retain (cutoff < ·.lastRefill) }

/-- Whether the address may make a request; periodically clean up stale entries
(every 1000 checks). -/
def check (limiter : RateLimiter) (ip : IpAddr) (now : Instant) : Bool × RateLimiter :=
  if !limiter.enabled then (true, limiter)
  else
    let count := limiter.cleanupCounter
    let limiter := { limiter with cleanupCounter := wrappingAdd count 1 }
    let limiter := if count % 1000 = 0 then limiter.cleanup now else limiter
    let bucket := (limiter.buckets ip).getD (.new limiter.capacity limiter.refillRate now)
    let (admitted, bucket) := bucket.tryAcquire now
    (admitted, { limiter with buckets := Function.update limiter.buckets ip (some bucket) })

end RateLimiter

end L7Proxy
