import L7Proxy.Middleware
import L7Proxy.RateLimiter.Contract
import L7Proxy.RateLimiter.Table

/-!
# The advice of a rate-limited response

A refused client is told to come back after one second, whatever the refill rate. The
bucket has a token by then when it refills at least one a second.
-/

set_option autoImplicit false

namespace L7Proxy

/-- What a response gives as its `Retry-After`. -/
def retryAfter (response : Response) : Option String :=
  (response.headers.get "retry-after").bind HeaderValue.toStr

theorem rateLimitedResponse_advice :
    rateLimitedResponse.status = .tooManyRequests ∧ retryAfter rateLimitedResponse = some "1" := by
  decide

theorem rateLimit_eq_none_iff {limiter : RateLimiter} {req : Request} {ip : IpAddr} {now : Instant}
    (client : req.remoteAddr = some ip) :
    (rateLimit limiter req now).1 = none ↔ (limiter.check ip now).1 = true := by
  simp only [rateLimit, client]
  cases (limiter.check ip now).1 <;> simp

namespace RateLimiter

variable {capacity refillRate : ℚ} {now next : Instant} {limiter : RateLimiter}

/-- An enabled limiter of the given parameters with well-formed buckets. -/
structure Limits (capacity refillRate : ℚ) (now : Instant) (limiter : RateLimiter) : Prop where
  enabled : limiter.enabled = true
  capacity_eq : limiter.capacity = capacity
  refillRate_eq : limiter.refillRate = refillRate
  wellFormed : ∀ ip bucket, limiter.buckets ip = some bucket → bucket.WellFormed capacity refillRate now

namespace Limits

theorem new (requestsPerSecond : ℚ) (burstSize : Nat) (now : Instant) :
    Limits burstSize requestsPerSecond now (.new requestsPerSecond burstSize) :=
  ⟨rfl, rfl, rfl, by simp [RateLimiter.new]⟩

theorem later (limits : Limits capacity refillRate now limiter) (ordered : now ≤ next) :
    Limits capacity refillRate next limiter :=
  { limits with wellFormed := fun ip bucket stored => (limits.wellFormed ip bucket stored).later ordered }

theorem swept_buckets (limiter : RateLimiter) (now : Instant) (ip : IpAddr) :
    (limiter.swept now).buckets ip = limiter.buckets ip ∨ (limiter.swept now).buckets ip = none := by
  rw [swept]
  split
  · cases stored : limiter.buckets ip with
    | none => simp [cleanup, stored]
    | some bucket =>
        by_cases recent : now - 300 < bucket.lastRefill
        · simp [cleanup, stored, recent]
        · simp [cleanup, stored, not_lt.mp recent]
  · exact .inl rfl

theorem swept (limits : Limits capacity refillRate now limiter) :
    Limits capacity refillRate now (limiter.swept now) := by
  refine ⟨swept_enabled.trans limits.enabled, swept_capacity.trans limits.capacity_eq,
    swept_refillRate.trans limits.refillRate_eq, ?_⟩
  intro ip bucket stored
  rcases swept_buckets limiter now ip with kept | dropped
  · exact limits.wellFormed ip bucket (kept ▸ stored)
  · rw [dropped] at stored
    cases stored

/-- The bucket that a check uses. -/
theorem used (limits : Limits capacity refillRate now limiter) (full : 0 ≤ capacity) (ip : IpAddr) :
    ((limiter.buckets ip).getD (.new limiter.capacity limiter.refillRate now)).WellFormed
      capacity refillRate now := by
  rw [limits.capacity_eq, limits.refillRate_eq]
  cases stored : limiter.buckets ip with
  | none => exact TokenBucket.new_wellFormed refillRate now full
  | some bucket => exact limits.wellFormed ip bucket stored

theorem check (limits : Limits capacity refillRate now limiter) (full : 0 ≤ capacity)
    (refills : 0 ≤ refillRate) (ip : IpAddr) :
    Limits capacity refillRate now (limiter.check ip now).2 := by
  have swept := limits.swept
  rw [check_eq limits.enabled]
  refine ⟨swept.enabled, swept.capacity_eq, swept.refillRate_eq, ?_⟩
  intro other bucket stored
  by_cases here : other = ip
  · simp only [here, Function.update_self, Option.some.injEq] at stored
    rw [← stored]
    exact TokenBucket.tryAcquire_wellFormed full refills (swept.used full ip)
  · simp only [Function.update_of_ne here] at stored
    exact swept.wellFormed other bucket stored

end Limits

theorem after_limits {requestsPerSecond : ℚ} (refills : 0 ≤ requestsPerSecond) (burstSize : Nat)
    {checks : List Check} (sorted : (checks.map (·.1)).Pairwise (· ≤ ·))
    (past : ∀ check ∈ checks, check.1 ≤ now) :
    Limits burstSize requestsPerSecond now ((new requestsPerSecond burstSize).after checks) := by
  induction checks using List.reverseRecOn generalizing now with
  | nil => exact .new requestsPerSecond burstSize now
  | append_singleton checks check ih =>
      have earlier : ∀ other ∈ checks, other.1 ≤ check.1 := fun _ member => le_last_of_sorted sorted member
      rw [List.map_append, List.pairwise_append] at sorted
      have reached := (ih sorted.1 earlier).check burstSize.cast_nonneg refills check.2
      rw [after_append_singleton]
      exact reached.later (past check (by simp))

/-- The checks of other addresses leave a bucket alone or drop it. -/
theorem after_elsewhere {ip : IpAddr} {checks : List Check} (enabled : limiter.enabled = true)
    (elsewhere : ∀ check ∈ checks, check.2 ≠ ip) :
    (limiter.after checks).enabled = true ∧
      ((limiter.after checks).buckets ip = limiter.buckets ip ∨ (limiter.after checks).buckets ip = none) := by
  induction checks using List.reverseRecOn with
  | nil => exact ⟨enabled, .inl rfl⟩
  | append_singleton checks check ih =>
      obtain ⟨stillEnabled, kept⟩ := ih fun other member => elsewhere other (List.mem_append_left _ member)
      have different : ip ≠ check.2 := (elsewhere check (by simp)).symm
      rw [after_append_singleton, check_eq stillEnabled]
      refine ⟨swept_enabled.trans stillEnabled, ?_⟩
      simp only [Function.update_of_ne different]
      rcases Limits.swept_buckets (limiter.after checks) check.1 ip with same | dropped
      · rw [same]
        exact kept
      · exact .inr dropped

/-!
## Coming back
-/

/-- A check is granted when the stored bucket, if there is one, has gained a token. -/
theorem Limits.check_granted (limits : Limits capacity refillRate now limiter) (holds : 1 ≤ capacity)
    {ip : IpAddr} (gained : ∀ bucket, limiter.buckets ip = some bucket →
      1 ≤ bucket.tokens + (now - bucket.lastRefill) * refillRate) :
    (limiter.check ip now).1 = true := by
  have full : 0 ≤ capacity := zero_le_one.trans holds
  have used := limits.swept.used full ip
  rw [check_eq limits.enabled, TokenBucket.tryAcquire_fst, TokenBucket.refill_eq used]
  simp only [decide_eq_true_eq]
  apply le_min _ holds
  cases stored : (limiter.swept now).buckets ip with
  | none => simpa [TokenBucket.new, limits.swept.capacity_eq] using holds
  | some bucket =>
      rw [Option.getD_some]
      apply gained bucket
      rcases swept_buckets limiter now ip with kept | dropped
      · rw [← kept]
        exact stored
      · rw [dropped] at stored
        cases stored

/-- A check that finds its bucket empty, too recent for any sweep and without a whole
token to gain is refused. -/
theorem check_empty {elapsed : ℚ} (enabled : limiter.enabled = true) {ip : IpAddr}
    (stored : limiter.buckets ip = some ⟨0, capacity, refillRate, now⟩) (passed : 0 ≤ elapsed)
    (recent : elapsed < 300) (short : elapsed * refillRate < 1) :
    (limiter.check ip (now + elapsed)).1 = false ∧
      (limiter.check ip (now + elapsed)).2.buckets ip =
        some ⟨min (elapsed * refillRate) capacity, capacity, refillRate, now + elapsed⟩ := by
  have used : now + elapsed - 300 < now := by linarith
  have kept : (limiter.swept (now + elapsed)).buckets ip = some ⟨0, capacity, refillRate, now⟩ := by
    rw [RateLimiter.swept]
    split
    · simp [cleanup, stored, used]
    · exact stored
  have since : durationSince (now + elapsed) now = elapsed := by
    rw [durationSince_of_le (by linarith), add_sub_cancel_left]
  have below : ¬ 1 ≤ min (elapsed * refillRate) capacity := not_le.mpr (min_lt_of_left_lt short)
  rw [check_eq enabled]
  simp only [kept, Option.getD_some, Function.update_self, TokenBucket.tryAcquire, TokenBucket.refill,
    since, zero_add, if_neg below, and_self]

/-- Whenever a request is refused, a request of the same client that comes no sooner
than the advice says, with none in between, is handed on. -/
def RetryAfterSound (requestsPerSecond : ℚ) (burstSize : Nat) : Prop :=
  ∀ (history others : List Check) (ip : IpAddr) (req later : Request) (time back : Instant)
    (response : Response),
    ((history ++ (time, ip) :: others ++ [(back, ip)]).map (·.1)).Pairwise (· ≤ ·) →
    req.remoteAddr = some ip → later.remoteAddr = some ip → (∀ check ∈ others, check.2 ≠ ip) →
    (rateLimit ((new requestsPerSecond burstSize).after history) req time).1 = some response →
    response.status = .tooManyRequests → retryAfter response = some "1" → time + 1 ≤ back →
      (rateLimit ((new requestsPerSecond burstSize).after (history ++ (time, ip) :: others)) later back).1 = none

def firstClientRequest : Request := ⟨"GET", ⟨some "/"⟩, [], some firstClient⟩

section

variable {requestsPerSecond : ℚ} {burstSize : Nat}

theorem retryAfterSound_of_refills (refills : 1 ≤ requestsPerSecond) (bursts : 1 ≤ burstSize) :
    RetryAfterSound requestsPerSecond burstSize := by
  intro history others ip req later time back response sorted client laterClient elsewhere _ _ _ waited
  have positive : 0 ≤ requestsPerSecond := zero_le_one.trans refills
  have past : ∀ check ∈ history ++ (time, ip) :: others, check.1 ≤ back :=
    fun _ member => le_last_of_sorted sorted member
  rw [List.map_append, List.pairwise_append] at sorted
  have sortedBefore := sorted.1
  have limits := after_limits positive burstSize sortedBefore past
  rw [rateLimit_eq_none_iff laterClient]
  apply limits.check_granted (by exact_mod_cast bursts)
  intro bucket stored
  have joined : history ++ (time, ip) :: others = (history ++ [(time, ip)]) ++ others := by simp
  rw [joined, List.map_append, List.pairwise_append] at sortedBefore
  rw [joined, after_append] at stored
  have enabled := after_enabled requestsPerSecond burstSize (history ++ [(time, ip)])
  rcases (after_elsewhere enabled elsewhere).2 with same | dropped
  · rw [same] at stored
    have used : bucket.lastRefill = time := by
      rw [after_append_singleton] at stored
      have use := @check_lastUse _ time (after_enabled requestsPerSecond burstSize history) ip ip
      rw [if_pos rfl, lastUse, stored, Option.map_some, Option.some.injEq] at use
      exact use
    have before : ∀ check ∈ history ++ [(time, ip)], check.1 ≤ time := by
      intro check member
      rcases List.mem_append.mp member with earlier | last
      · exact le_last_of_sorted sortedBefore.1 earlier
      · rw [List.mem_singleton.mp last]
    have refused := after_limits positive burstSize sortedBefore.1 before
    have nonneg := (refused.wellFormed ip bucket stored).nonneg
    rw [used]
    have gained : 1 ≤ (back - time) * requestsPerSecond := one_le_mul_of_one_le_of_one_le (by linarith) refills
    linarith
  · rw [dropped] at stored
    cases stored

theorem after_burst (requestsPerSecond : ℚ) (bursts : 1 ≤ burstSize) (ip : IpAddr) :
    ((new requestsPerSecond burstSize).after (List.replicate burstSize (0, ip))).buckets ip =
      some ⟨0, burstSize, requestsPerSecond, 0⟩ := by
  have unused : (ReferenceLimiter.new requestsPerSecond burstSize).buckets ip = none := rfl
  have spent := (ReferenceLimiter.holds_missing 0 unused).drained (Nat.pos_iff_ne_zero.mp bursts) le_rfl rfl
  have together : ∀ check ∈ List.replicate burstSize ((0 : Instant), ip), check.1 = 0 := by
    intro check member
    rw [(List.mem_replicate.mp member).2]
  have same := ((new_fresh requestsPerSecond burstSize 0).answers together).2.1
  exact (congrFun (congrArg ReferenceLimiter.buckets same) ip).trans spent

theorem burst_sorted (count : Nat) (ip : IpAddr) :
    ((List.replicate count ((0 : Instant), ip) ++ [((0 : Instant), ip)] ++
      [((1 : Instant), ip)]).map (·.1)).Pairwise (· ≤ ·) := by
  rw [← List.replicate_succ', List.map_append, List.map_replicate, List.pairwise_append]
  refine ⟨List.pairwise_replicate.mpr (.inr le_rfl), List.pairwise_singleton _ _, ?_⟩
  intro earlier burst later last
  rw [List.eq_of_mem_replicate burst, List.mem_singleton.mp last]
  exact zero_le_one

/-- A client spends its burst, is refused, and comes back a second later. -/
theorem refills_of_retryAfterSound (bursts : 1 ≤ burstSize)
    (sound : RetryAfterSound requestsPerSecond burstSize) : 1 ≤ requestsPerSecond := by
  by_contra slow
  let history : List Check := List.replicate burstSize (0, firstClient)
  have stored := after_burst requestsPerSecond bursts firstClient
  have first := check_empty (after_enabled requestsPerSecond burstSize history) stored le_rfl
    (by norm_num) (by norm_num)
  have full : (0 : ℚ) ≤ burstSize := burstSize.cast_nonneg
  rw [add_zero, zero_mul, min_eq_left full] at first
  have emptied : ((new requestsPerSecond burstSize).after (history ++ [(0, firstClient)])).buckets firstClient =
      some ⟨0, burstSize, requestsPerSecond, 0⟩ := by
    rw [after_append_singleton]
    exact first.2
  have second := (check_empty (after_enabled requestsPerSecond burstSize _) emptied zero_le_one
    (by norm_num) (by linarith)).1
  rw [zero_add] at second
  have refused : (rateLimit ((new requestsPerSecond burstSize).after history) firstClientRequest 0).1 =
      some rateLimitedResponse := by
    simp [rateLimit, firstClientRequest, first.1]
  have back := sound history [] firstClient firstClientRequest firstClientRequest 0 1 rateLimitedResponse
    (burst_sorted burstSize firstClient) rfl rfl (by simp) refused rateLimitedResponse_advice.1
    rateLimitedResponse_advice.2 (by norm_num)
  rw [rateLimit_eq_none_iff rfl, second] at back
  cases back

end

/-- With room for a token the advice is sound exactly when the rate is at least one
request a second. -/
theorem retryAfterSound_iff {requestsPerSecond : ℚ} {burstSize : Nat} (bursts : 1 ≤ burstSize) :
    RetryAfterSound requestsPerSecond burstSize ↔ 1 ≤ requestsPerSecond :=
  ⟨refills_of_retryAfterSound bursts, fun refills => retryAfterSound_of_refills refills bursts⟩

theorem retryAfterSound_iff_two : RetryAfterSound 2 1 ↔ 1 ≤ (2 : ℚ) :=
  retryAfterSound_iff le_rfl

/-- One request in two seconds: a client that is refused and follows the advice is
refused again. -/
theorem slow_refill_not_retryAfterSound : ¬ RetryAfterSound (1 / 2) 1 := by
  intro sound
  have refills := refills_of_retryAfterSound le_rfl sound
  norm_num at refills

end RateLimiter

end L7Proxy
