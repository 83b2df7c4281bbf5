import L7Proxy.RateLimiter.Basic
import L7Proxy.Library.Execution
import L7Proxy.Library.TokenBucket

/-!
# The rate limiter against never-evicted buckets

The reference limiter keeps one bucket per address for ever. The limiter with its
cleanup agrees with it when a bucket idle for the cleanup's 300 seconds is full.
-/

set_option autoImplicit false

namespace L7Proxy

open Interaction

abbrev Check := Instant × IpAddr

/-- One token bucket per address, created full at its first check and kept. -/
structure ReferenceLimiter where
  buckets : Table IpAddr TokenBucket
  capacity : ℚ
  refillRate : ℚ

def ReferenceLimiter.new (requestsPerSecond : ℚ) (burstSize : Nat) : ReferenceLimiter :=
  ⟨Table.empty, burstSize, requestsPerSecond⟩

def ReferenceLimiter.check (reference : ReferenceLimiter) (ip : IpAddr) (now : Instant) :
    Bool × ReferenceLimiter :=
  let bucket := (reference.buckets ip).getD (.new reference.capacity reference.refillRate now)
  let (admitted, bucket) := bucket.tryAcquire now
  (admitted, { reference with buckets := Function.update reference.buckets ip (some bucket) })

def ReferenceLimiter.answers (reference : ReferenceLimiter) (checks : List Check) : List Bool :=
  (respond (fun reference check => reference.check check.2 check.1) reference checks).1

def RateLimiter.answers (limiter : RateLimiter) (checks : List Check) : List Bool :=
  (respond (fun limiter check => limiter.check check.2 check.1) limiter checks).1

def answersTo (ip : IpAddr) (checks : List Check) (answers : List Bool) : List Bool :=
  ((checks.zip answers).filter (·.1.2 = ip)).map (·.2)

/-- The limiter once a check has counted itself and perhaps cleaned up. -/
def RateLimiter.swept (limiter : RateLimiter) (now : Instant) : RateLimiter :=
  let counted := { limiter with cleanupCounter := wrappingAdd limiter.cleanupCounter 1 }
  if limiter.cleanupCounter % 1000 = 0 then counted.cleanup now else counted

theorem RateLimiter.check_eq {limiter : RateLimiter} (enabled : limiter.enabled = true) (ip : IpAddr)
    (now : Instant) :
    limiter.check ip now =
      (((((limiter.swept now).buckets ip).getD
          (.new (limiter.swept now).capacity (limiter.swept now).refillRate now)).tryAcquire now).1,
        { limiter.swept now with
          buckets := Function.update (limiter.swept now).buckets ip
            (((limiter.swept now).buckets ip).getD
              (.new (limiter.swept now).capacity (limiter.swept now).refillRate now)
                |>.tryAcquire now).2 }) := by
  simp only [check, swept, enabled, Bool.not_true, Bool.false_eq_true, if_false]

/-!
## One bucket
-/

namespace TokenBucket

/-- A bucket of the given parameters with a level in its range, last refilled no
later than the given time. -/
structure WellFormed (capacity refillRate : ℚ) (now : Instant) (bucket : TokenBucket) : Prop where
  capacity_eq : bucket.capacity = capacity
  refillRate_eq : bucket.refillRate = refillRate
  nonneg : 0 ≤ bucket.tokens
  past : bucket.lastRefill ≤ now

variable {capacity refillRate : ℚ} {now next : Instant} {bucket : TokenBucket}

theorem WellFormed.later (wellFormed : WellFormed capacity refillRate now bucket)
    (ordered : now ≤ next) : WellFormed capacity refillRate next bucket :=
  { wellFormed with past := wellFormed.past.trans ordered }

theorem new_wellFormed (refillRate : ℚ) (now : Instant) (full : 0 ≤ capacity) :
    WellFormed capacity refillRate now (new capacity refillRate now) :=
  ⟨rfl, rfl, full, le_rfl⟩

theorem refill_eq (wellFormed : WellFormed capacity refillRate now bucket) :
    bucket.refill now =
      ⟨TokenLevel.refilled capacity refillRate bucket.tokens (now - bucket.lastRefill),
        capacity, refillRate, now⟩ := by
  rw [refill, durationSince_of_le wellFormed.past, wellFormed.capacity_eq, wellFormed.refillRate_eq]
  rfl

theorem tryAcquire_wellFormed (full : 0 ≤ capacity) (refills : 0 ≤ refillRate)
    (wellFormed : WellFormed capacity refillRate now bucket) :
    WellFormed capacity refillRate now (bucket.tryAcquire now).2 := by
  have holds := TokenLevel.refilled_nonneg full refills wellFormed.nonneg
    (sub_nonneg.mpr wellFormed.past)
  simp only [tryAcquire, refill_eq wellFormed]
  split
  · next enough => exact ⟨rfl, rfl, sub_nonneg.mpr enough, le_rfl⟩
  · exact ⟨rfl, rfl, holds, le_rfl⟩

/-- A bucket idle for long enough acts as a new one. -/
theorem tryAcquire_idle (wellFormed : WellFormed capacity refillRate now bucket)
    (full : 0 ≤ capacity) (idle : capacity ≤ (now - bucket.lastRefill) * refillRate) :
    bucket.tryAcquire now = (new capacity refillRate now).tryAcquire now := by
  have newFull := refill_eq (new_wellFormed refillRate now full)
  simp only [new, sub_self, TokenLevel.refilled_zero le_rfl] at newFull
  simp only [tryAcquire, new, newFull, refill_eq wellFormed,
    TokenLevel.refilled_eq_capacity wellFormed.nonneg idle]

end TokenBucket

/-!
## Agreement
-/

/-- Both limiters have the same parameters, and an address has the same bucket in
both unless the limiter dropped one that will be full at its next check. -/
structure Agrees (capacity refillRate : ℚ) (now : Instant) (limiter : RateLimiter)
    (reference : ReferenceLimiter) : Prop where
  enabled : limiter.enabled = true
  limiter_capacity : limiter.capacity = capacity
  limiter_refillRate : limiter.refillRate = refillRate
  reference_capacity : reference.capacity = capacity
  reference_refillRate : reference.refillRate = refillRate
  wellFormed : ∀ ip bucket, reference.buckets ip = some bucket →
    bucket.WellFormed capacity refillRate now
  same : ∀ ip, limiter.buckets ip = reference.buckets ip ∨
    limiter.buckets ip = none ∧ ∀ bucket, reference.buckets ip = some bucket →
      capacity ≤ (now - bucket.lastRefill) * refillRate

namespace Agrees

variable {capacity refillRate : ℚ} {now next : Instant} {limiter : RateLimiter}
  {reference : ReferenceLimiter}

theorem new (requestsPerSecond : ℚ) (burstSize : Nat) (now : Instant) :
    Agrees burstSize requestsPerSecond now (.new requestsPerSecond burstSize)
      (.new requestsPerSecond burstSize) :=
  ⟨rfl, rfl, rfl, rfl, rfl, by simp [ReferenceLimiter.new], fun _ => .inl rfl⟩

theorem later (agrees : Agrees capacity refillRate now limiter reference) (refills : 0 ≤ refillRate)
    (ordered : now ≤ next) : Agrees capacity refillRate next limiter reference where
  enabled := agrees.enabled
  limiter_capacity := agrees.limiter_capacity
  limiter_refillRate := agrees.limiter_refillRate
  reference_capacity := agrees.reference_capacity
  reference_refillRate := agrees.reference_refillRate
  wellFormed ip bucket stored := (agrees.wellFormed ip bucket stored).later ordered
  same ip := by
    rcases agrees.same ip with same | ⟨dropped, idle⟩
    · exact .inl same
    · refine .inr ⟨dropped, fun bucket stored => (idle bucket stored).trans ?_⟩
      exact mul_le_mul_of_nonneg_right (by linarith) refills

theorem cleanup (agrees : Agrees capacity refillRate now limiter reference) (refills : 0 ≤ refillRate)
    (recovers : capacity ≤ 300 * refillRate) :
    Agrees capacity refillRate now (limiter.cleanup now) reference where
  enabled := agrees.enabled
  limiter_capacity := agrees.limiter_capacity
  limiter_refillRate := agrees.limiter_refillRate
  reference_capacity := agrees.reference_capacity
  reference_refillRate := agrees.reference_refillRate
  wellFormed := agrees.wellFormed
  same ip := by
    rcases agrees.same ip with same | ⟨dropped, idle⟩
    · cases stored : reference.buckets ip with
      | none => exact .inl (by simp [RateLimiter.cleanup, same, stored])
      | some bucket =>
          by_cases kept : now - 300 < bucket.lastRefill
          · exact .inl (by simp [RateLimiter.cleanup, same, stored, kept])
          · refine .inr ⟨by simp [RateLimiter.cleanup, same, stored, not_lt.mp kept], ?_⟩
            rintro _ ⟨⟩
            exact recovers.trans (mul_le_mul_of_nonneg_right (by linarith) refills)
    · exact .inr ⟨by simp [RateLimiter.cleanup, dropped], idle⟩

theorem swept (agrees : Agrees capacity refillRate now limiter reference) (refills : 0 ≤ refillRate)
    (recovers : capacity ≤ 300 * refillRate) :
    Agrees capacity refillRate now (limiter.swept now) reference := by
  have counted : Agrees capacity refillRate now
      { limiter with cleanupCounter := wrappingAdd limiter.cleanupCounter 1 } reference :=
    { agrees with }
  rw [RateLimiter.swept]
  split
  · exact counted.cleanup refills recovers
  · exact counted

private theorem acquire (agrees : Agrees capacity refillRate now limiter reference) (full : 0 ≤ capacity)
    (ip : IpAddr) :
    ((limiter.buckets ip).getD (.new limiter.capacity limiter.refillRate now)).tryAcquire now =
      ((reference.buckets ip).getD (.new reference.capacity reference.refillRate now)).tryAcquire now := by
  rw [agrees.limiter_capacity, agrees.limiter_refillRate, agrees.reference_capacity,
    agrees.reference_refillRate]
  rcases agrees.same ip with same | ⟨dropped, idle⟩
  · rw [same]
  · cases stored : reference.buckets ip with
    | none => rw [dropped]
    | some bucket =>
        rw [dropped, Option.getD_none, Option.getD_some]
        exact (TokenBucket.tryAcquire_idle (agrees.wellFormed ip bucket stored) full
          (idle bucket stored)).symm

private theorem acquired_wellFormed (agrees : Agrees capacity refillRate now limiter reference)
    (full : 0 ≤ capacity) (refills : 0 ≤ refillRate) (ip : IpAddr) :
    (((reference.buckets ip).getD (.new reference.capacity reference.refillRate now)).tryAcquire
      now).2.WellFormed capacity refillRate now := by
  apply TokenBucket.tryAcquire_wellFormed full refills
  rw [agrees.reference_capacity, agrees.reference_refillRate]
  cases stored : reference.buckets ip with
  | none => exact TokenBucket.new_wellFormed refillRate now full
  | some bucket => exact agrees.wellFormed ip bucket stored

theorem check (agrees : Agrees capacity refillRate now limiter reference) (full : 0 ≤ capacity)
    (refills : 0 ≤ refillRate) (recovers : capacity ≤ 300 * refillRate) (ip : IpAddr) :
    (limiter.check ip now).1 = (reference.check ip now).1 ∧
      Agrees capacity refillRate now (limiter.check ip now).2 (reference.check ip now).2 := by
  have swept := agrees.swept refills recovers
  have acquired := swept.acquire full ip
  have stored := swept.acquired_wellFormed full refills ip
  rw [RateLimiter.check_eq agrees.enabled, ReferenceLimiter.check]
  simp only [acquired]
  refine ⟨trivial, swept.enabled, swept.limiter_capacity, swept.limiter_refillRate,
    swept.reference_capacity, swept.reference_refillRate, ?_, ?_⟩
  · intro other bucket found
    by_cases here : other = ip
    · subst here
      simp only [Function.update_self] at found
      cases found
      exact stored
    · simp only [Function.update_of_ne here] at found
      exact swept.wellFormed other bucket found
  · intro other
    by_cases here : other = ip
    · subst here
      simp only [Function.update_self, true_or]
    · simp only [Function.update_of_ne here]
      exact swept.same other

/-- The limiters agree on every sequence of checks at non-decreasing times. -/
theorem answers_eq {checks : List Check} (agrees : Agrees capacity refillRate now limiter reference)
    (full : 0 ≤ capacity) (refills : 0 ≤ refillRate) (recovers : capacity ≤ 300 * refillRate)
    (sorted : (checks.map (·.1)).Pairwise (· ≤ ·)) (started : ∀ check ∈ checks, now ≤ check.1) :
    limiter.answers checks = reference.answers checks := by
  induction checks generalizing now limiter reference with
  | nil => rfl
  | cons head checks ih =>
      rw [List.map_cons, List.pairwise_cons] at sorted
      have arrived := agrees.later refills (started head List.mem_cons_self)
      obtain ⟨answer, stepped⟩ := arrived.check full refills recovers head.2
      have rest := ih stepped sorted.2 fun check member =>
        sorted.1 check.1 (List.mem_map_of_mem member)
      simp only [RateLimiter.answers, ReferenceLimiter.answers, respond_cons] at rest ⊢
      rw [answer, rest]

end Agrees

/-!
## Independence of addresses
-/

namespace ReferenceLimiter

variable {reference other : ReferenceLimiter} {ip : IpAddr}

structure AgreeOn (ip : IpAddr) (reference other : ReferenceLimiter) : Prop where
  capacity : reference.capacity = other.capacity
  refillRate : reference.refillRate = other.refillRate
  bucket : reference.buckets ip = other.buckets ip

theorem AgreeOn.check_elsewhere (agree : AgreeOn ip reference other) {elsewhere : IpAddr}
    (different : elsewhere ≠ ip) (now : Instant) :
    AgreeOn ip (reference.check elsewhere now).2 other :=
  ⟨agree.capacity, agree.refillRate, (Function.update_of_ne different.symm _ _).trans agree.bucket⟩

theorem AgreeOn.check_here (agree : AgreeOn ip reference other) (now : Instant) :
    (reference.check ip now).1 = (other.check ip now).1 ∧
      AgreeOn ip (reference.check ip now).2 (other.check ip now).2 := by
  obtain ⟨capacity, refillRate, bucket⟩ := agree
  refine ⟨?_, capacity, refillRate, ?_⟩ <;> simp only [check, capacity, refillRate, bucket,
    Function.update_self]

theorem answersTo_eq {checks : List Check} (agree : AgreeOn ip reference other) :
    answersTo ip checks (reference.answers checks) = other.answers (checks.filter (·.2 = ip)) := by
  induction checks generalizing reference other with
  | nil => rfl
  | cons head checks ih =>
      by_cases here : head.2 = ip
      · obtain ⟨answer, stepped⟩ := agree.check_here head.1
        rw [List.filter_cons_of_pos (by simpa using here)]
        simpa [answersTo, answers, here, answer] using ih stepped
      · rw [List.filter_cons_of_neg (by simpa using here)]
        simpa [answersTo, answers, here] using ih (agree.check_elsewhere here head.1)

end ReferenceLimiter

/-!
## Exhausting a bucket
-/

namespace ReferenceLimiter

variable {reference : ReferenceLimiter} {ip : IpAddr} {now : Instant} {level : ℚ}

def after (reference : ReferenceLimiter) (checks : List Check) : ReferenceLimiter :=
  (respond (fun reference check => reference.check check.2 check.1) reference checks).2

theorem answers_append (before later : List Check) :
    reference.answers (before ++ later) =
      reference.answers before ++ (reference.after before).answers later := by
  rw [answers, respond_append]
  rfl

@[simp] theorem answers_length (checks : List Check) :
    (reference.answers checks).length = checks.length := by
  induction checks generalizing reference with
  | nil => rfl
  | cons head checks ih => simpa [answers] using ih

theorem after_append (before later : List Check) :
    reference.after (before ++ later) = (reference.after before).after later := by
  rw [after, respond_append]
  rfl

theorem check_capacity : (reference.check ip now).2.capacity = reference.capacity := rfl

theorem after_settings (checks : List Check) :
    (reference.after checks).capacity = reference.capacity ∧
      (reference.after checks).refillRate = reference.refillRate := by
  induction checks generalizing reference with
  | nil => exact ⟨rfl, rfl⟩
  | cons head checks ih => exact ih

/-- The bucket used for the address at this time would be refilled to the level. -/
def Holds (reference : ReferenceLimiter) (ip : IpAddr) (now : Instant) (level : ℚ) : Prop :=
  ((reference.buckets ip).getD (.new reference.capacity reference.refillRate now)).refill now =
    ⟨level, reference.capacity, reference.refillRate, now⟩

theorem holds_stored (elapsed : ℚ) (passed : 0 ≤ elapsed)
    (stored : reference.buckets ip = some ⟨level, reference.capacity, reference.refillRate, now⟩) :
    reference.Holds ip (now + elapsed)
      (TokenLevel.refilled reference.capacity reference.refillRate level elapsed) := by
  rw [Holds, stored, Option.getD_some, TokenBucket.refill,
    durationSince_of_le (by linarith), add_sub_cancel_left]
  rfl

theorem holds_missing (now : Instant) (missing : reference.buckets ip = none) :
    reference.Holds ip now reference.capacity := by
  rw [Holds, missing, Option.getD_none, TokenBucket.refill]
  simp [TokenBucket.new]

theorem Holds.check_granted (holds : reference.Holds ip now level) (enough : 1 ≤ level) :
    (reference.check ip now).1 = true ∧ (reference.check ip now).2.buckets ip =
      some ⟨level - 1, reference.capacity, reference.refillRate, now⟩ := by
  rw [Holds] at holds
  simp only [check, TokenBucket.tryAcquire, holds, if_pos enough, Function.update_self, and_self]

theorem Holds.check_denied (holds : reference.Holds ip now level) (short : level < 1) :
    (reference.check ip now).1 = false := by
  rw [Holds] at holds
  simp only [check, TokenBucket.tryAcquire, holds, if_neg (not_le.mpr short)]

theorem Holds.check (holds : reference.Holds ip now level) (enough : 1 ≤ level)
    (within : level ≤ reference.capacity) :
    (reference.check ip now).2.Holds ip now (level - 1) := by
  have stored := holds_stored 0 le_rfl (holds.check_granted enough).2
  rw [TokenLevel.refilled_zero (by rw [check_capacity]; linarith), add_zero] at stored
  exact stored

theorem Holds.all_granted_iff (holds : reference.Holds ip now level) (nonneg : 0 ≤ level)
    (within : level ≤ reference.capacity) (count : Nat) :
    reference.answers (List.replicate count (now, ip)) = List.replicate count true ↔
      (count : ℚ) ≤ level := by
  induction count generalizing reference level with
  | zero => simpa [answers] using nonneg
  | succ count ih =>
      simp only [answers, List.replicate_succ, respond_cons, List.cons.injEq] at ih ⊢
      cases le_or_gt 1 level with
      | inl enough =>
          have granted := (holds.check_granted enough).1
          have rest := ih (holds.check enough within) (by linarith)
            (by rw [check_capacity]; linarith)
          rw [granted, rest]
          push_cast
          constructor
          · intro both
            obtain ⟨-, remaining⟩ := both
            linarith
          · exact fun remaining => ⟨rfl, by linarith⟩
      | inr short =>
          have denied := holds.check_denied short
          have least : (0 : ℚ) ≤ count := count.cast_nonneg
          simp only [denied, Bool.false_eq_true, false_and, false_iff, not_le]
          push_cast
          linarith

theorem Holds.drained {count : Nat} (holds : reference.Holds ip now level) (positive : count ≠ 0)
    (within : level ≤ reference.capacity) (exact : (count : ℚ) = level) :
    (reference.after (List.replicate count (now, ip))).buckets ip =
      some ⟨0, reference.capacity, reference.refillRate, now⟩ := by
  induction count generalizing reference level with
  | zero => exact absurd rfl positive
  | succ count ih =>
      have least : (0 : ℚ) ≤ count := count.cast_nonneg
      have enough : 1 ≤ level := by
        push_cast at exact
        linarith
      simp only [after, List.replicate_succ, respond_cons] at ih ⊢
      cases Nat.eq_zero_or_pos count with
      | inl none =>
          subst none
          have stored := (holds.check_granted enough).2
          have empty : level - 1 = 0 := by
            push_cast at exact
            linarith
          rw [empty] at stored
          exact stored
      | inr some =>
          refine ih (holds.check enough within) (by omega) ?_ ?_
          · rw [check_capacity]
            linarith
          · push_cast at exact
            linarith

theorem after_elsewhere (reference : ReferenceLimiter) {checks : List Check}
    (elsewhere : ∀ check ∈ checks, check.2 ≠ ip) :
    AgreeOn ip (reference.after checks) reference := by
  suffices general : ∀ other, AgreeOn ip other reference → AgreeOn ip (other.after checks) reference from
    general reference ⟨rfl, rfl, rfl⟩
  induction checks with
  | nil => exact fun _ agree => agree
  | cons head checks ih =>
      intro other agree
      exact ih (fun check member => elsewhere check (List.mem_cons_of_mem _ member)) _
        (agree.check_elsewhere (elsewhere head List.mem_cons_self) head.1)

end ReferenceLimiter

/-!
## A limiter whose buckets are all fresh
-/

namespace RateLimiter

variable {limiter : RateLimiter} {now : Instant}

def after (limiter : RateLimiter) (checks : List Check) : RateLimiter :=
  (respond (fun limiter check => limiter.check check.2 check.1) limiter checks).2

theorem answers_append (before later : List Check) :
    limiter.answers (before ++ later) =
      limiter.answers before ++ (limiter.after before).answers later := by
  rw [answers, respond_append]
  rfl

@[simp] theorem answers_length (checks : List Check) :
    (limiter.answers checks).length = checks.length := by
  induction checks generalizing limiter with
  | nil => rfl
  | cons head checks ih => simpa [answers] using ih

/-- The same buckets, never evicted. -/
def evictionFree (limiter : RateLimiter) : ReferenceLimiter :=
  ⟨limiter.buckets, limiter.capacity, limiter.refillRate⟩

/-- The limiter is enabled and every bucket was used just now. -/
structure Fresh (now : Instant) (limiter : RateLimiter) : Prop where
  enabled : limiter.enabled = true
  counter : limiter.cleanupCounter < wordSize
  current : ∀ ip bucket, limiter.buckets ip = some bucket → bucket.lastRefill = now

theorem new_fresh (requestsPerSecond : ℚ) (burstSize : Nat) (now : Instant) :
    (new requestsPerSecond burstSize).Fresh now :=
  ⟨rfl, show 0 < wordSize by decide, by simp [new]⟩

theorem Fresh.swept_buckets (fresh : limiter.Fresh now) :
    (limiter.swept now).buckets = limiter.buckets := by
  have kept : (limiter.cleanup now).buckets = limiter.buckets := by
    funext ip
    cases stored : limiter.buckets ip with
    | none => simp [cleanup, stored]
    | some bucket => simp [cleanup, stored, fresh.current ip bucket stored]
  rw [swept]
  split
  · exact kept
  · rfl

theorem swept_capacity : (limiter.swept now).capacity = limiter.capacity := by
  rw [swept]
  split <;> rfl

theorem swept_refillRate : (limiter.swept now).refillRate = limiter.refillRate := by
  rw [swept]
  split <;> rfl

theorem swept_enabled : (limiter.swept now).enabled = limiter.enabled := by
  rw [swept]
  split <;> rfl

theorem swept_counter :
    (limiter.swept now).cleanupCounter = wrappingAdd limiter.cleanupCounter 1 := by
  rw [swept]
  split <;> rfl

theorem tryAcquire_lastRefill (bucket : TokenBucket) :
    (bucket.tryAcquire now).2.lastRefill = now := by
  simp only [TokenBucket.tryAcquire]
  split <;> rfl

theorem Fresh.check (fresh : limiter.Fresh now) (ip : IpAddr) :
    (limiter.check ip now).1 = (limiter.evictionFree.check ip now).1 ∧
      (limiter.check ip now).2.evictionFree = (limiter.evictionFree.check ip now).2 ∧
      (limiter.check ip now).2.cleanupCounter = wrappingAdd limiter.cleanupCounter 1 ∧
      (limiter.check ip now).2.Fresh now := by
  rw [check_eq fresh.enabled]
  simp only [fresh.swept_buckets, swept_capacity, swept_refillRate, swept_counter, evictionFree,
    ReferenceLimiter.check, true_and]
  refine ⟨swept_enabled.trans fresh.enabled, ?_, ?_⟩
  · exact Nat.mod_lt _ (by decide)
  · intro other bucket found
    by_cases here : other = ip
    · simp only [here, Function.update_self, Option.some.injEq] at found
      rw [← found]
      exact tryAcquire_lastRefill _
    · simp only [Function.update_of_ne here] at found
      exact fresh.current other bucket found

theorem Fresh.answers {checks : List Check} (fresh : limiter.Fresh now)
    (together : ∀ check ∈ checks, check.1 = now) :
    limiter.answers checks = limiter.evictionFree.answers checks ∧
      (limiter.after checks).evictionFree = limiter.evictionFree.after checks ∧
      (limiter.after checks).cleanupCounter =
        (limiter.cleanupCounter + checks.length) % wordSize ∧
      (limiter.after checks).Fresh now := by
  induction checks generalizing limiter with
  | nil => exact ⟨rfl, rfl, (Nat.mod_eq_of_lt fresh.counter).symm, fresh⟩
  | cons head checks ih =>
      obtain ⟨answer, same, counted, kept⟩ := fresh.check head.2
      obtain ⟨answers, final, counter, keptFresh⟩ :=
        ih kept fun check member => together check (List.mem_cons_of_mem _ member)
      have here : head.1 = now := together head List.mem_cons_self
      simp only [RateLimiter.answers, ReferenceLimiter.answers, RateLimiter.after,
        ReferenceLimiter.after, respond_cons, here, answer] at *
      rw [same] at answers final
      refine ⟨by rw [answers], final, ?_, keptFresh⟩
      rw [counter, counted, wrappingAdd, Nat.mod_add_mod, List.length_cons]
      congr 1
      omega

/-- A cleanup that finds only stale buckets leaves a limiter that acts as a new one. -/
theorem check_stale (enabled : limiter.enabled = true) (due : limiter.cleanupCounter % 1000 = 0)
    (stale : ∀ ip bucket, limiter.buckets ip = some bucket → bucket.lastRefill ≤ now - 300)
    (ip : IpAddr) :
    limiter.check ip now = { limiter with buckets := Table.empty }.check ip now := by
  have dropped : (limiter.cleanup now).buckets = Table.empty := by
    funext other
    cases stored : limiter.buckets other with
    | none => simp [cleanup, stored]
    | some bucket =>
        have old := stale other bucket stored
        simp [cleanup, stored]
        linarith
  have swept : limiter.swept now = { limiter with buckets := Table.empty }.swept now := by
    simp only [RateLimiter.swept, if_pos due, cleanup] at dropped ⊢
    rw [dropped]
    rfl
  have enabledEmpty : { limiter with buckets := Table.empty }.enabled = true := enabled
  rw [check_eq enabled, check_eq enabledEmpty, swept]

/-!
## The agreement theorem
-/

def firstClient : IpAddr := ⟨"10.0.0.1", by decide⟩

def secondClient : IpAddr := ⟨"10.0.0.2", by decide⟩

/-- One client spends its burst, another makes further checks, and 300 seconds later
the first client spends its burst again. -/
def evictionSchedule (burstSize fillers : Nat) : List Check × List Check :=
  (List.replicate burstSize (0, firstClient) ++ List.replicate fillers (0, secondClient),
    List.replicate burstSize (300, firstClient))

/-- Every sequence of checks at non-decreasing times is answered as by buckets
that are never evicted, and each client is answered as if it were alone. -/
def RefinesReference (requestsPerSecond : ℚ) (burstSize : Nat) : Prop :=
  ∀ checks : List Check, (checks.map (·.1)).Pairwise (· ≤ ·) →
    (new requestsPerSecond burstSize).answers checks =
        (ReferenceLimiter.new requestsPerSecond burstSize).answers checks ∧
      ∀ ip, answersTo ip checks ((new requestsPerSecond burstSize).answers checks) =
        (new requestsPerSecond burstSize).answers (checks.filter (·.2 = ip))

theorem refinesReference_of_recovers {requestsPerSecond : ℚ} {burstSize : Nat}
    (refills : 0 ≤ requestsPerSecond) (recovers : (burstSize : ℚ) ≤ 300 * requestsPerSecond) :
    RefinesReference requestsPerSecond burstSize := by
  have agreement : ∀ checks : List Check, (checks.map (·.1)).Pairwise (· ≤ ·) →
      (new requestsPerSecond burstSize).answers checks =
        (ReferenceLimiter.new requestsPerSecond burstSize).answers checks := by
    intro checks sorted
    cases checks with
    | nil => rfl
    | cons head checks =>
        have started := Agrees.new requestsPerSecond burstSize head.1
        refine started.answers_eq burstSize.cast_nonneg refills recovers sorted ?_
        rintro check (_ | ⟨_, member⟩)
        · exact le_rfl
        · exact (List.pairwise_cons.mp sorted).1 check.1 (List.mem_map_of_mem member)
  intro checks sorted
  refine ⟨agreement checks sorted, fun ip => ?_⟩
  have filtered : ((checks.filter (·.2 = ip)).map (·.1)).Pairwise (· ≤ ·) :=
    sorted.sublist (List.filter_sublist.map _)
  rw [agreement checks sorted, agreement _ filtered]
  exact ReferenceLimiter.answersTo_eq ⟨rfl, rfl, rfl⟩

theorem evictionSchedule_sorted (burstSize fillers : Nat) :
    (((evictionSchedule burstSize fillers).1 ++ (evictionSchedule burstSize fillers).2).map
      (·.1)).Pairwise (· ≤ ·) := by
  simp only [evictionSchedule, List.map_append, List.map_replicate, List.pairwise_append,
    List.pairwise_replicate, List.mem_append, List.mem_replicate]
  refine ⟨⟨by simp, by simp, ?_⟩, by simp, ?_⟩
  · rintro _ ⟨_, rfl⟩ _ ⟨_, rfl⟩
    norm_num
  · rintro _ (⟨_, rfl⟩ | ⟨_, rfl⟩) _ ⟨_, rfl⟩ <;> norm_num

theorem evictionSchedule_exhausts (requestsPerSecond : ℚ) {burstSize : Nat} (fillers : Nat)
    (positive : burstSize ≠ 0) :
    ((ReferenceLimiter.new requestsPerSecond burstSize).after
      (evictionSchedule burstSize fillers).1).buckets firstClient =
        some ⟨0, burstSize, requestsPerSecond, 0⟩ := by
  have unused : (ReferenceLimiter.new requestsPerSecond burstSize).buckets firstClient = none := rfl
  have spent := (ReferenceLimiter.holds_missing 0 unused).drained positive le_rfl rfl
  have elsewhere : ∀ check ∈ List.replicate fillers ((0 : Instant), secondClient),
      check.2 ≠ firstClient := by
    intro check member
    rw [List.eq_of_mem_replicate member]
    decide
  have others := ((ReferenceLimiter.new requestsPerSecond burstSize).after
    (List.replicate burstSize (0, firstClient))).after_elsewhere elsewhere
  rw [evictionSchedule, ReferenceLimiter.after_append, others.bucket]
  exact spent

theorem answers_stale {limiter : RateLimiter} {burstSize : Nat} (positive : burstSize ≠ 0)
    (fresh : limiter.Fresh 0) (due : limiter.cleanupCounter % 1000 = 0)
    (capacity : limiter.capacity = burstSize) :
    limiter.answers (List.replicate burstSize (300, firstClient)) = List.replicate burstSize true := by
  let emptied := { limiter with buckets := Table.empty }
  have emptiedFresh : emptied.Fresh 300 := ⟨fresh.enabled, fresh.counter, by simp [emptied]⟩
  have same : limiter.answers (List.replicate burstSize (300, firstClient)) =
      emptied.answers (List.replicate burstSize (300, firstClient)) := by
    obtain ⟨count, rfl⟩ := Nat.exists_eq_succ_of_ne_zero positive
    simp only [List.replicate_succ, answers, respond_cons]
    rw [check_stale fresh.enabled due fun ip bucket stored => by
      rw [fresh.current ip bucket stored]
      norm_num]
  have unused : emptied.evictionFree.buckets firstClient = none := rfl
  have full := ReferenceLimiter.holds_missing 300 unused
  have level : emptied.evictionFree.capacity = burstSize := capacity
  rw [level] at full
  rw [same, (emptiedFresh.answers fun check member => by
    rw [List.eq_of_mem_replicate member]).1]
  exact (full.all_granted_iff burstSize.cast_nonneg level.ge burstSize).mpr le_rfl

/-- A schedule that ends at a cleanup is answered differently when the burst takes
longer to recover than the cleanup waits. -/
theorem evictionSchedule_answers_ne {requestsPerSecond : ℚ} {burstSize fillers : Nat}
    (refills : 0 ≤ requestsPerSecond) (slow : 300 * requestsPerSecond < burstSize)
    (due : (burstSize + fillers) % wordSize % 1000 = 0) :
    (new requestsPerSecond burstSize).answers
        ((evictionSchedule burstSize fillers).1 ++ (evictionSchedule burstSize fillers).2) ≠
      (ReferenceLimiter.new requestsPerSecond burstSize).answers
        ((evictionSchedule burstSize fillers).1 ++ (evictionSchedule burstSize fillers).2) := by
  have positive : burstSize ≠ 0 := by
    rintro rfl
    rw [Nat.cast_zero] at slow
    linarith
  have together : ∀ check ∈ (evictionSchedule burstSize fillers).1, check.1 = 0 := by
    intro check member
    simp only [evictionSchedule, List.mem_append, List.mem_replicate] at member
    rcases member with ⟨_, rfl⟩ | ⟨_, rfl⟩ <;> rfl
  obtain ⟨_, final, counter, fresh⟩ := (new_fresh requestsPerSecond burstSize 0).answers together
  have counted : ((new requestsPerSecond burstSize).after
      (evictionSchedule burstSize fillers).1).cleanupCounter % 1000 = 0 := by
    rw [counter]
    simpa [evictionSchedule, new] using due
  have started : (new requestsPerSecond burstSize).evictionFree =
      ReferenceLimiter.new requestsPerSecond burstSize := rfl
  have settings := (ReferenceLimiter.new requestsPerSecond burstSize).after_settings
    (evictionSchedule burstSize fillers).1
  have empty := evictionSchedule_exhausts requestsPerSecond fillers positive
  rw [started] at final
  rw [answers_append, ReferenceLimiter.answers_append]
  rw [← final] at settings empty ⊢
  generalize (new requestsPerSecond burstSize).after (evictionSchedule burstSize fillers).1 = limiter
    at *
  have evicted := answers_stale positive fresh counted settings.1
  have level := ReferenceLimiter.holds_stored 300 (by norm_num) <| by
    rw [empty, settings.1, settings.2, ReferenceLimiter.new]
  have short : TokenLevel.refilled limiter.evictionFree.capacity limiter.evictionFree.refillRate 0 300 =
      300 * requestsPerSecond := by
    rw [settings.1, settings.2, TokenLevel.refilled, zero_add]
    exact min_eq_left slow.le
  rw [short, zero_add] at level
  intro answers
  have second := (List.append_inj answers (by simp)).2
  simp only [evictionSchedule, evicted] at second
  have recovered := (level.all_granted_iff (by linarith) (settings.1 ▸ slow.le) burstSize).mp
    second.symm
  linarith

/-- The limiter answers every sequence of checks as never-evicted independent
buckets do exactly when a burst recovers within the 300 seconds of the cleanup. -/
theorem refinesReference_iff_recovers (requestsPerSecond : ℚ) (burstSize : Nat)
    (refills : 0 ≤ requestsPerSecond) :
    RefinesReference requestsPerSecond burstSize ↔ (burstSize : ℚ) ≤ 300 * requestsPerSecond := by
  refine ⟨fun refines => ?_, refinesReference_of_recovers refills⟩
  by_contra slow
  -- The fillers make the number of earlier checks a multiple of the counter's size.
  have due : (burstSize + burstSize * (1000 * wordSize - 1)) % wordSize % 1000 = 0 := by
    have multiple : burstSize + burstSize * (1000 * wordSize - 1) = burstSize * 1000 * wordSize := by
      simp only [wordSize]
      omega
    rw [multiple, Nat.mul_mod_left, Nat.zero_mod]
  exact evictionSchedule_answers_ne refills (not_le.mp slow) due
    (refines _ (evictionSchedule_sorted _ _)).1

theorem refinesReference_iff_recovers_default : RefinesReference 10 20 :=
  (refinesReference_iff_recovers 10 20 (by norm_num)).mpr (by norm_num)

/-- One request an hour and a burst of one: a cleanup 300 seconds after the first
request gives the token back. -/
theorem slow_rate_not_refinesReference :
    (new (1 / 3600) 1).answers ((evictionSchedule 1 999).1 ++ (evictionSchedule 1 999).2) ≠
        (ReferenceLimiter.new (1 / 3600) 1).answers
          ((evictionSchedule 1 999).1 ++ (evictionSchedule 1 999).2) ∧
      ¬ RefinesReference (1 / 3600) 1 := by
  have slow : (300 : ℚ) * (1 / 3600) < (1 : Nat) := by norm_num
  have due : (1 + 999) % wordSize % 1000 = 0 := by decide
  have differ := evictionSchedule_answers_ne (by norm_num) slow due
  exact ⟨differ, fun refines => differ (refines _ (evictionSchedule_sorted 1 999)).1⟩

end RateLimiter

end L7Proxy
