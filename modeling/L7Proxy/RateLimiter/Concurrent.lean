import L7Proxy.RateLimiter.Contract
import L7Proxy.RateLimiter.Reference

/-!
# Concurrent checks

A check counts itself, sweeps the table after every thousandth count and locks the
table for its bucket, each one atomic step, in any interleaving with other checks.
The clock is read under the lock, so its readings follow the order of the locks.
-/

set_option autoImplicit false

namespace L7Proxy

open Interaction

/-- How far a call of `check` has come. -/
inductive CheckPhase where
  | entered
  /-- Its count was a multiple of 1000. -/
  | cleaning
  | acquiring
  | answered (admitted : Bool)
  deriving DecidableEq

structure CheckCall where
  ip : IpAddr
  phase : CheckPhase
  deriving DecidableEq

structure Checks where
  limiter : RateLimiter
  /-- The latest reading of the clock under the lock. -/
  clock : Instant
  calls : List CheckCall
  /-- What the buckets answered, in the order of the locks. -/
  answers : List (IpAddr × Instant × Bool)

inductive CheckStep where
  | enter (ip : IpAddr)
  | count (call : Nat)
  | cleanup (call : Nat) (now : Instant)
  | acquire (call : Nat) (created now : Instant)
  deriving DecidableEq

namespace Checks

def initial (limiter : RateLimiter) (now : Instant) : Checks := ⟨limiter, now, [], []⟩

def advance (checks : Checks) (index : Nat) (call : CheckCall) (phase : CheckPhase) : Checks :=
  { checks with calls := checks.calls.set index { call with phase := phase } }

def count (checks : Checks) (index : Nat) : Option Checks := do
  let call ← checks.calls[index]?
  if call.phase ≠ .entered then none
  else if !checks.limiter.enabled then some (checks.advance index call (.answered true))
  else
    let count := checks.limiter.cleanupCounter
    some { checks.advance index call (if count % 1000 = 0 then .cleaning else .acquiring) with
      limiter := { checks.limiter with cleanupCounter := wrappingAdd count 1 } }

def cleanup (checks : Checks) (index : Nat) (now : Instant) : Option Checks := do
  let call ← checks.calls[index]?
  if call.phase = .cleaning ∧ checks.clock ≤ now then
    some { checks.advance index call .acquiring with limiter := checks.limiter.cleanup now, clock := now }
  else none

/-- A missing bucket is created at an earlier reading of the clock than the one the
bucket is refilled at. -/
def acquire (checks : Checks) (index : Nat) (created now : Instant) : Option Checks := do
  let call ← checks.calls[index]?
  if call.phase = .acquiring ∧ checks.clock ≤ created ∧ created ≤ now then
    let bucket := (checks.limiter.buckets call.ip).getD
      (.new checks.limiter.capacity checks.limiter.refillRate created)
    let (admitted, bucket) := bucket.tryAcquire now
    some { checks.advance index call (.answered admitted) with
      limiter := { checks.limiter with
        buckets := Function.update checks.limiter.buckets call.ip (some bucket) }
      clock := now
      answers := checks.answers ++ [(call.ip, now, admitted)] }
  else none

def step (checks : Checks) : CheckStep → Option Checks
  | .enter ip => some { checks with calls := checks.calls ++ [⟨ip, .entered⟩] }
  | .count index => checks.count index
  | .cleanup index now => checks.cleanup index now
  | .acquire index created now => checks.acquire index created now

/-- The bucket a check of an address tries. -/
def bucketFor (checks : Checks) (ip : IpAddr) (created : Instant) : TokenBucket :=
  (checks.limiter.buckets ip).getD (.new checks.limiter.capacity checks.limiter.refillRate created)

/-- The state after the bucket of an address answered. -/
def answered (checks : Checks) (ip : IpAddr) (created now : Instant) (calls : List CheckCall) : Checks :=
  { checks with
    limiter := { checks.limiter with
      buckets := Function.update checks.limiter.buckets ip
        (some ((checks.bucketFor ip created).tryAcquire now).2) }
    clock := now
    calls := calls
    answers := checks.answers ++ [(ip, now, ((checks.bucketFor ip created).tryAcquire now).1)] }

/-- What a step does to the limiter, the clock and the answers. -/
inductive Stepped (checks : Checks) : CheckStep → Checks → Prop where
  | entered (ip : IpAddr) :
      Stepped checks (.enter ip) { checks with calls := checks.calls ++ [⟨ip, .entered⟩] }
  | passed {index : Nat} {call : CheckCall} (stored : checks.calls[index]? = some call)
      (phase : call.phase = .entered) (disabled : checks.limiter.enabled = false) :
      Stepped checks (.count index) (checks.advance index call (.answered true))
  | counted {index : Nat} {call : CheckCall} (stored : checks.calls[index]? = some call)
      (phase : call.phase = .entered) (enabled : checks.limiter.enabled = true) :
      Stepped checks (.count index)
        { checks.advance index call
            (if checks.limiter.cleanupCounter % 1000 = 0 then .cleaning else .acquiring) with
          limiter := { checks.limiter with
            cleanupCounter := wrappingAdd checks.limiter.cleanupCounter 1 } }
  | cleaned {index : Nat} {call : CheckCall} {now : Instant} (stored : checks.calls[index]? = some call)
      (phase : call.phase = .cleaning) (ordered : checks.clock ≤ now) :
      Stepped checks (.cleanup index now)
        { checks.advance index call .acquiring with
          limiter := checks.limiter.cleanup now
          clock := now }
  | acquired {index : Nat} {call : CheckCall} {created now : Instant}
      (stored : checks.calls[index]? = some call) (phase : call.phase = .acquiring)
      (ordered : checks.clock ≤ created) (later : created ≤ now) :
      Stepped checks (.acquire index created now)
        (checks.answered call.ip created now (checks.calls.set index
          { call with phase := .answered ((checks.bucketFor call.ip created).tryAcquire now).1 }))

theorem step_cases {checks after : Checks} {action : CheckStep} (stepped : checks.step action = some after) :
    checks.Stepped action after := by
  cases action with
  | enter ip =>
      cases stepped
      exact .entered ip
  | count index =>
      obtain ⟨call, stored, counted⟩ := Option.bind_eq_some_iff.mp stepped
      split at counted
      · cases counted
      · next entered =>
          have phase : call.phase = .entered := not_not.mp entered
          split at counted
          · next disabled =>
              cases counted
              exact .passed stored phase (by simpa using disabled)
          · next enabled =>
              cases counted
              exact .counted stored phase (by simpa using enabled)
  | cleanup index now =>
      obtain ⟨call, stored, cleaned⟩ := Option.bind_eq_some_iff.mp stepped
      split at cleaned
      · next condition =>
          cases cleaned
          exact .cleaned stored condition.1 condition.2
      · cases cleaned
  | acquire index created now =>
      obtain ⟨call, stored, acquired⟩ := Option.bind_eq_some_iff.mp stepped
      split at acquired
      · next condition =>
          cases acquired
          exact .acquired stored condition.1 condition.2.1 condition.2.2
      · cases acquired

/-!
## Admissions
-/

def admits (ip : IpAddr) (answer : IpAddr × Instant × Bool) : Bool := decide (answer.1 = ip) && answer.2.2

/-- The checks of an address that were admitted from a time on. -/
def admittedSince (checks : Checks) (ip : IpAddr) (opens : Instant) : Nat :=
  checks.answers.countP fun answer => admits ip answer && decide (opens ≤ answer.2.1)

/-- The checks of an address that were admitted in an interval. -/
def admittedWithin (checks : Checks) (ip : IpAddr) (opens closes : Instant) : Nat :=
  checks.answers.countP fun answer =>
    admits ip answer && decide (opens ≤ answer.2.1) && decide (answer.2.1 ≤ closes)

theorem admittedWithin_le (checks : Checks) (ip : IpAddr) (opens closes : Instant) :
    checks.admittedWithin ip opens closes ≤ checks.admittedSince ip opens :=
  List.countP_mono_left fun _ _ within => (Bool.and_eq_true_iff.mp within).1

end Checks

namespace TokenBucket

variable {capacity refillRate pace : ℚ} {now : Instant} {bucket : TokenBucket}

/-- A call takes its token from the refilled level. -/
theorem tryAcquire_tokens (wellFormed : bucket.WellFormed capacity refillRate now) :
    (bucket.tryAcquire now).2.tokens + (if (bucket.tryAcquire now).1 then 1 else 0) =
      TokenLevel.refilled capacity refillRate bucket.tokens (now - bucket.lastRefill) := by
  rw [tryAcquire_snd, refill_eq wellFormed]
  exact sub_add_cancel _ _

theorem tryAcquire_refilledAt (wellFormed : bucket.WellFormed capacity refillRate now) :
    (bucket.tryAcquire now).2.lastRefill = now := by
  rw [tryAcquire_snd, refill_eq wellFormed]

theorem refilled_le_paced (wellFormed : bucket.WellFormed capacity refillRate now) (paced : refillRate ≤ pace) :
    TokenLevel.refilled capacity refillRate bucket.tokens (now - bucket.lastRefill) ≤
      bucket.tokens + pace * (now - bucket.lastRefill) := by
  have gained := mul_le_mul_of_nonneg_right paced (sub_nonneg.mpr wellFormed.past)
  have level := min_le_left (bucket.tokens + (now - bucket.lastRefill) * refillRate) capacity
  unfold TokenLevel.refilled
  linarith

end TokenBucket

namespace Checks

/-!
A bucket that is dropped was idle for 300 seconds. In that time an address earns a
whole capacity at a pace of a 300th of it per second, so the full bucket made for its
next check is paid for.
-/

section

variable {capacity refillRate pace : ℚ} {ip : IpAddr} {opens closes : Instant} {checks after : Checks}

/-- The admissions since a time and the tokens left are covered by the capacity and the
pace since that time. -/
structure Covered (capacity refillRate pace : ℚ) (ip : IpAddr) (opens : Instant) (checks : Checks) : Prop where
  capacity_eq : checks.limiter.capacity = capacity
  refillRate_eq : checks.limiter.refillRate = refillRate
  wellFormed : ∀ other bucket, checks.limiter.buckets other = some bucket →
    bucket.WellFormed capacity refillRate checks.clock
  stored : ∀ bucket, checks.limiter.buckets ip = some bucket → checks.admittedSince ip opens = 0 ∨
    opens ≤ bucket.lastRefill ∧
      checks.admittedSince ip opens + bucket.tokens ≤ capacity + pace * (bucket.lastRefill - opens)
  missing : checks.limiter.buckets ip = none → checks.admittedSince ip opens = 0 ∨
    opens ≤ checks.clock ∧ checks.admittedSince ip opens ≤ pace * (checks.clock - opens)

theorem Covered.bucketFor {created now : Instant} (covered : Covered capacity refillRate pace ip opens checks)
    (full : 0 ≤ capacity) (ordered : checks.clock ≤ created) (later : created ≤ now) (other : IpAddr) :
    (checks.bucketFor other created).WellFormed capacity refillRate now := by
  unfold Checks.bucketFor
  cases found : checks.limiter.buckets other with
  | none =>
      rw [Option.getD_none, covered.capacity_eq, covered.refillRate_eq]
      exact (TokenBucket.new_wellFormed refillRate created full).later later
  | some bucket => exact (covered.wellFormed other bucket found).later (ordered.trans later)

/-- Before the interval opens nothing is admitted in it. -/
theorem Covered.unopened (covered : Covered capacity refillRate pace ip opens checks)
    (before : checks.clock < opens) : checks.admittedSince ip opens = 0 := by
  cases found : checks.limiter.buckets ip with
  | none =>
      rcases covered.missing found with none | ⟨opened, _⟩
      · exact none
      · exact absurd before (not_lt.mpr opened)
  | some bucket =>
      rcases covered.stored bucket found with none | ⟨opened, _⟩
      · exact none
      · have past := (covered.wellFormed ip bucket found).past
        exact absurd before (not_lt.mpr (opened.trans past))

/-- Before a check the admissions fit what its bucket will hold once refilled. -/
theorem Covered.refilled {created now : Instant} (covered : Covered capacity refillRate pace ip opens checks)
    (full : 0 ≤ capacity) (paced : refillRate ≤ pace) (earns : 0 ≤ pace)
    (ordered : checks.clock ≤ created) (later : created ≤ now) (opened : opens ≤ now) :
    checks.admittedSince ip opens + TokenLevel.refilled capacity refillRate
        (checks.bucketFor ip created).tokens (now - (checks.bucketFor ip created).lastRefill) ≤
      capacity + pace * (now - opens) := by
  have wellFormed := covered.bucketFor full ordered later ip
  have level : TokenLevel.refilled capacity refillRate (checks.bucketFor ip created).tokens
      (now - (checks.bucketFor ip created).lastRefill) ≤ capacity := min_le_right _ _
  have unspent : checks.admittedSince ip opens = 0 →
      checks.admittedSince ip opens + TokenLevel.refilled capacity refillRate
          (checks.bucketFor ip created).tokens (now - (checks.bucketFor ip created).lastRefill) ≤
        capacity + pace * (now - opens) := by
    intro none
    have gained := mul_nonneg earns (sub_nonneg.mpr opened)
    rw [none, Nat.cast_zero, zero_add]
    exact level.trans (le_add_of_nonneg_right gained)
  cases found : checks.limiter.buckets ip with
  | none =>
      rcases covered.missing found with none | ⟨_, spent⟩
      · exact unspent none
      · have earned := mul_le_mul_of_nonneg_left (sub_le_sub_right (ordered.trans later) opens) earns
        linarith
  | some bucket =>
      rcases covered.stored bucket found with none | ⟨_, spent⟩
      · exact unspent none
      · have same : checks.bucketFor ip created = bucket := by rw [Checks.bucketFor, found, Option.getD_some]
        rw [same] at wellFormed ⊢
        have refilled := bucket.refilled_le_paced wellFormed paced
        linarith

theorem Covered.congr (covered : Covered capacity refillRate pace ip opens checks)
    (buckets : after.limiter.buckets = checks.limiter.buckets)
    (sameCapacity : after.limiter.capacity = checks.limiter.capacity)
    (sameRate : after.limiter.refillRate = checks.limiter.refillRate) (clock : after.clock = checks.clock)
    (answers : after.answers = checks.answers) : Covered capacity refillRate pace ip opens after := by
  have since : after.admittedSince ip opens = checks.admittedSince ip opens := by
    rw [admittedSince, answers, admittedSince]
  refine ⟨sameCapacity.trans covered.capacity_eq, sameRate.trans covered.refillRate_eq, ?_, ?_, ?_⟩
  · rw [buckets, clock]
    exact covered.wellFormed
  · rw [buckets, since]
    exact covered.stored
  · rw [buckets, since, clock]
    exact covered.missing

theorem Covered.cleaned {now : Instant} (covered : Covered capacity refillRate pace ip opens checks)
    (recovers : capacity ≤ 300 * pace) (earns : 0 ≤ pace) (ordered : checks.clock ≤ now)
    (calls : List CheckCall) :
    Covered capacity refillRate pace ip opens
      { checks with limiter := checks.limiter.cleanup now, clock := now, calls := calls } := by
  refine ⟨covered.capacity_eq, covered.refillRate_eq, ?_, ?_, ?_⟩
  · intro other bucket found
    obtain ⟨kept, _⟩ := Option.filter_eq_some_iff.mp found
    exact (covered.wellFormed other bucket kept).later ordered
  · intro bucket found
    obtain ⟨kept, _⟩ := Option.filter_eq_some_iff.mp found
    exact covered.stored bucket kept
  · intro missing
    cases found : checks.limiter.buckets ip with
    | none =>
        rcases covered.missing found with none | ⟨opened, spent⟩
        · exact .inl none
        · have earned := mul_le_mul_of_nonneg_left (sub_le_sub_right ordered opens) earns
          exact .inr ⟨opened.trans ordered, spent.trans earned⟩
    | some bucket =>
        rcases covered.stored bucket found with none | ⟨opened, spent⟩
        · exact .inl none
        · have wellFormed := (covered.wellFormed ip bucket found).later ordered
          have dropped : (some bucket).filter (now - 300 < ·.lastRefill) = none := found ▸ missing
          have idle : bucket.lastRefill ≤ now - 300 := by simpa using dropped
          have earned := mul_le_mul_of_nonneg_left (sub_le_sub_right idle opens) earns
          have holds := wellFormed.nonneg
          refine .inr ⟨opened.trans wellFormed.past, ?_⟩
          change (checks.admittedSince ip opens : ℚ) ≤ pace * (now - opens)
          linarith

theorem answered_since {created now : Instant} (other : IpAddr) (calls : List CheckCall) :
    (checks.answered other created now calls).admittedSince ip opens =
      checks.admittedSince ip opens +
        if other = ip ∧ ((checks.bucketFor other created).tryAcquire now).1 = true ∧ opens ≤ now then 1
        else 0 := by
  simp [admittedSince, answered, admits, List.countP_append, List.countP_singleton, and_assoc]

/-- A check of the address moves one token from its bucket to the admissions. -/
theorem Covered.acquired {created now : Instant} (covered : Covered capacity refillRate pace ip opens checks)
    (full : 0 ≤ capacity) (refills : 0 ≤ refillRate) (paced : refillRate ≤ pace)
    (ordered : checks.clock ≤ created) (later : created ≤ now) (other : IpAddr) (calls : List CheckCall) :
    Covered capacity refillRate pace ip opens (checks.answered other created now calls) := by
  have earns : 0 ≤ pace := refills.trans paced
  have wellFormed := covered.bucketFor full ordered later other
  refine ⟨covered.capacity_eq, covered.refillRate_eq, ?_, ?_, ?_⟩
  · intro key bucket found
    by_cases here : key = other
    · subst here
      simp only [answered, Function.update_self, Option.some.injEq] at found
      subst found
      exact TokenBucket.tryAcquire_wellFormed full refills wellFormed
    · simp only [answered, Function.update_of_ne here] at found
      exact (covered.wellFormed key bucket found).later (ordered.trans later)
  · intro bucket found
    rw [answered_since]
    by_cases here : other = ip
    · subst here
      simp only [answered, Function.update_self, Option.some.injEq] at found
      subst found
      rw [TokenBucket.tryAcquire_refilledAt wellFormed]
      rcases le_or_gt opens now with opened | unopened
      · have taken := TokenBucket.tryAcquire_tokens wellFormed
        have spent := covered.refilled full paced earns ordered later opened
        refine .inr ⟨opened, ?_⟩
        rw [← taken] at spent
        simp only [true_and, opened, and_true]
        push_cast
        linarith
      · left
        rw [covered.unopened ((ordered.trans later).trans_lt unopened), if_neg]
        intro counted
        exact absurd counted.2.2 (not_le.mpr unopened)
    · simp only [answered, Function.update_of_ne (Ne.symm here)] at found
      simpa [here] using covered.stored bucket found
  · intro missing
    rw [answered_since]
    by_cases here : other = ip
    · subst here
      simp [answered] at missing
    · simp only [answered, Function.update_of_ne (Ne.symm here)] at missing
      rw [if_neg (fun counted => here counted.1), Nat.add_zero]
      rcases covered.missing missing with none | ⟨opened, spent⟩
      · exact .inl none
      · have earned := mul_le_mul_of_nonneg_left (sub_le_sub_right (ordered.trans later) opens) earns
        exact .inr ⟨opened.trans (ordered.trans later), spent.trans earned⟩

theorem Covered.step {action : CheckStep} (covered : Covered capacity refillRate pace ip opens checks)
    (full : 0 ≤ capacity) (refills : 0 ≤ refillRate) (paced : refillRate ≤ pace)
    (recovers : capacity ≤ 300 * pace) (stepped : checks.step action = some after) :
    Covered capacity refillRate pace ip opens after := by
  cases step_cases stepped with
  | entered | passed | counted => exact covered.congr rfl rfl rfl rfl rfl
  | cleaned stored phase ordered => exact covered.cleaned recovers (refills.trans paced) ordered _
  | acquired stored phase ordered later => exact covered.acquired full refills paced ordered later _ _

/-- The admissions of an interval grow only by a check inside it, which leaves its
bucket refilled at that time. -/
theorem within_step {action : CheckStep} (stepped : checks.step action = some after) :
    after.admittedWithin ip opens closes = checks.admittedWithin ip opens closes ∨
      opens ≤ after.clock ∧ after.clock ≤ closes ∧
        ∃ bucket, after.limiter.buckets ip = some bucket ∧ bucket.lastRefill = after.clock := by
  cases step_cases stepped with
  | entered | passed | counted | cleaned => exact .inl rfl
  | @acquired _ call created now stored phase ordered later =>
      by_cases counted : call.ip = ip ∧ opens ≤ now ∧ now ≤ closes
      · obtain ⟨here, opened, closed⟩ := counted
        refine .inr ⟨opened, closed, ((checks.bucketFor call.ip created).tryAcquire now).2, ?_, ?_⟩
        · rw [← here]
          exact Function.update_self ..
        · rw [TokenBucket.tryAcquire_snd]
          rfl
      · left
        simp only [admittedWithin, answered, admits, List.countP_append, List.countP_singleton]
        rw [if_neg, Nat.add_zero]
        intro admitted
        simp only [Bool.and_eq_true, decide_eq_true_eq] at admitted
        exact counted ⟨admitted.1.1.1, admitted.1.2, admitted.2⟩

theorem Covered.within (covered : Covered capacity refillRate pace ip opens checks) (full : 0 ≤ capacity)
    (earns : 0 ≤ pace) (opened : opens ≤ checks.clock) (closed : checks.clock ≤ closes)
    {bucket : TokenBucket} (stored : checks.limiter.buckets ip = some bucket)
    (refilled : bucket.lastRefill = checks.clock) :
    checks.admittedWithin ip opens closes ≤ capacity + pace * (closes - opens) := by
  have counted : (checks.admittedWithin ip opens closes : ℚ) ≤ checks.admittedSince ip opens := by
    exact_mod_cast checks.admittedWithin_le ip opens closes
  have earned := mul_le_mul_of_nonneg_left (sub_le_sub_right closed opens) earns
  have holds := (covered.wellFormed ip bucket stored).nonneg
  rcases covered.stored bucket stored with none | ⟨_, spent⟩
  · have gained := mul_nonneg earns (sub_nonneg.mpr (opened.trans closed))
    rw [none, Nat.cast_zero] at counted
    linarith
  · rw [refilled] at spent
    linarith

theorem initial_covered (requestsPerSecond : ℚ) (burstSize : Nat) (start : Instant) :
    Covered burstSize requestsPerSecond pace ip opens (initial (.new requestsPerSecond burstSize) start) :=
  ⟨rfl, rfl, by simp [initial, RateLimiter.new], by simp [initial, RateLimiter.new],
    fun _ => .inl rfl⟩

end

/-- The pace of an address: its refill, or a whole burst for every bucket dropped. -/
def pace (requestsPerSecond : ℚ) (burstSize : Nat) : ℚ := max requestsPerSecond (burstSize / 300)

theorem execute_within {requestsPerSecond : ℚ} {burstSize : Nat} (refills : 0 ≤ requestsPerSecond)
    {start : Instant} {steps : List CheckStep} {final : Checks}
    (executed : execute step (initial (.new requestsPerSecond burstSize) start) steps = some final)
    (ip : IpAddr) {opens closes : Instant} (ordered : opens ≤ closes) :
    Covered burstSize requestsPerSecond (pace requestsPerSecond burstSize) ip opens final ∧
      (final.admittedWithin ip opens closes : ℚ) ≤
        burstSize + pace requestsPerSecond burstSize * (closes - opens) := by
  have full : (0 : ℚ) ≤ burstSize := Nat.cast_nonneg burstSize
  have paced : requestsPerSecond ≤ pace requestsPerSecond burstSize := le_max_left _ _
  have earns := refills.trans paced
  have recovers : (burstSize : ℚ) ≤ 300 * pace requestsPerSecond burstSize := by
    have share : (burstSize / 300 : ℚ) ≤ pace requestsPerSecond burstSize := le_max_right _ _
    linarith
  have gained := mul_nonneg earns (sub_nonneg.mpr ordered)
  refine execute_preserves
    (fun checks => Covered burstSize requestsPerSecond (pace requestsPerSecond burstSize) ip opens checks ∧
      (checks.admittedWithin ip opens closes : ℚ) ≤
        burstSize + pace requestsPerSecond burstSize * (closes - opens))
    ?_ ⟨initial_covered requestsPerSecond burstSize start, ?_⟩ executed
  · intro checks action after holds stepped
    have covered := holds.1.step full refills paced recovers stepped
    refine ⟨covered, ?_⟩
    rcases within_step stepped with same | ⟨opened, closed, bucket, stored, refilled⟩
    · rw [same]
      exact holds.2
    · exact covered.within full earns opened closed stored refilled
  · have none : (initial (.new requestsPerSecond burstSize) start).admittedWithin ip opens closes = 0 := rfl
    rw [none, Nat.cast_zero]
    linarith

/-- However checks interleave and whenever their sweeps run, an address is admitted in
any interval at most a burst and the faster of the refill and a burst every 300
seconds. -/
theorem admittedWithin_bounded {requestsPerSecond : ℚ} {burstSize : Nat} (refills : 0 ≤ requestsPerSecond)
    {start : Instant} {steps : List CheckStep} {final : Checks}
    (executed : execute step (initial (.new requestsPerSecond burstSize) start) steps = some final)
    (ip : IpAddr) {opens closes : Instant} (ordered : opens ≤ closes) :
    (final.admittedWithin ip opens closes : ℚ) ≤
      burstSize + max requestsPerSecond (burstSize / 300) * (closes - opens) :=
  (execute_within refills executed ip ordered).2

/-- Two addresses check at once; the second is answered before the first, whose sweep
comes late. -/
def crossingChecks : List CheckStep :=
  [.enter RateLimiter.firstClient, .enter RateLimiter.secondClient, .count 0, .count 1, .acquire 1 1 1, .cleanup 0 400,
    .acquire 0 400 401]

theorem admittedWithin_bounded_crossing :
    ∃ final, execute step (initial (.new 1 2) 0) crossingChecks = some final ∧
      final.admittedWithin RateLimiter.firstClient 0 500 ≤ 502 := by
  have executed : ∃ final, execute step (initial (.new 1 2) 0) crossingChecks = some final :=
    Option.isSome_iff_exists.mp (by decide +kernel)
  obtain ⟨final, reached⟩ := executed
  have bounded := admittedWithin_bounded zero_le_one reached RateLimiter.firstClient (show (0 : Instant) ≤ 500 by norm_num)
  norm_num at bounded
  exact ⟨final, reached, by exact_mod_cast bounded⟩

/-!
## Sweeps
-/

def counts : CheckStep → Bool
  | .count _ => true
  | _ => false

def sweeps : CheckStep → Bool
  | .cleanup _ _ => true
  | _ => false

def cleans (call : CheckCall) : Bool := decide (call.phase = .cleaning)

/-- The calls that have still to sweep. -/
def pendingSweeps (checks : Checks) : Nat := checks.calls.countP cleans

/-- A step leaves one more call to sweep exactly after a count that is a multiple of
1000, and one less after a sweep. -/
theorem step_sweeps {checks after : Checks} {action : CheckStep} (enabled : checks.limiter.enabled = true)
    (stepped : checks.step action = some after) :
    after.limiter.enabled = true ∧
      after.limiter.cleanupCounter =
        (if counts action then wrappingAdd checks.limiter.cleanupCounter 1
        else checks.limiter.cleanupCounter) ∧
      after.pendingSweeps + (if sweeps action then 1 else 0) =
        checks.pendingSweeps +
          if counts action ∧ checks.limiter.cleanupCounter % 1000 = 0 then 1 else 0 := by
  cases step_cases stepped with
  | entered ip => exact ⟨enabled, rfl, by simp [pendingSweeps, sweeps, counts, cleans, List.countP_append]⟩
  | passed stored phase disabled =>
      rw [enabled] at disabled
      cases disabled
  | @counted _ call stored phase =>
      refine ⟨enabled, rfl, ?_⟩
      have changed := countP_set_add stored { call with
        phase := if checks.limiter.cleanupCounter % 1000 = 0 then .cleaning else .acquiring } cleans
      simp only [pendingSweeps, advance, sweeps, counts, true_and, Bool.false_eq_true, if_false]
      simp only [cleans, phase, decide_eq_true_eq, reduceCtorEq, if_false] at changed
      rw [Nat.add_zero, ← Nat.add_zero (List.countP _ _), changed]
      congr 1
      split <;> simp
  | @cleaned _ call _ stored phase =>
      refine ⟨enabled, rfl, ?_⟩
      have changed := countP_set_add stored { call with phase := .acquiring } cleans
      simpa [pendingSweeps, advance, sweeps, counts, cleans, phase] using changed
  | @acquired _ call created now stored phase =>
      refine ⟨enabled, rfl, ?_⟩
      have changed := countP_set_add stored
        { call with phase := .answered ((checks.bucketFor call.ip created).tryAcquire now).1 } cleans
      simpa [pendingSweeps, answered, sweeps, counts, cleans, phase] using changed

/-- Of the first checks exactly every thousandth sweeps, each once, however they
interleave: those that have not are about to. -/
theorem sweeps_every_thousandth {requestsPerSecond : ℚ} {burstSize : Nat} {start : Instant}
    {steps : List CheckStep} {final : Checks}
    (executed : execute step (initial (.new requestsPerSecond burstSize) start) steps = some final)
    (few : steps.countP counts ≤ wordSize) :
    steps.countP sweeps + final.pendingSweeps = (steps.countP counts + 999) / 1000 := by
  have kept : final.limiter.enabled = true ∧ final.limiter.cleanupCounter = steps.countP counts % wordSize ∧
      steps.countP sweeps + final.pendingSweeps = (steps.countP counts + 999) / 1000 := by
    induction steps using List.reverseRecOn generalizing final with
    | nil =>
        cases executed
        exact ⟨rfl, rfl, rfl⟩
    | append_singleton steps action ih =>
        obtain ⟨before, reached, single⟩ := execute_append.mp executed
        obtain ⟨after, stepped, finished⟩ := execute_cons.mp single
        cases finished
        rw [List.countP_append, List.countP_singleton] at few ⊢
        obtain ⟨enabled, counter, pending⟩ := ih reached (Nat.le_of_add_right_le few)
        obtain ⟨enabledAfter, counterAfter, change⟩ := step_sweeps enabled stepped
        refine ⟨enabledAfter, ?_, ?_⟩
        · rw [counterAfter, counter]
          split
          · rw [wrappingAdd, Nat.mod_add_mod]
          · rw [Nat.add_zero]
        · rw [List.countP_append, List.countP_singleton]
          cases counted : counts action with
          | false =>
              simp only [counted, Bool.false_eq_true, false_and, if_false] at change few ⊢
              omega
          | true =>
              simp only [counted, if_true, true_and] at change few ⊢
              rw [counter, Nat.mod_eq_of_lt few] at change
              by_cases thousandth : steps.countP counts % 1000 = 0
              · rw [if_pos thousandth] at change
                omega
              · rw [if_neg thousandth] at change
                omega
  exact kept.2.2

theorem sweeps_every_thousandth_crossing :
    ∃ final, execute step (initial (.new 1 2) 0) crossingChecks = some final ∧
      crossingChecks.countP sweeps + final.pendingSweeps = (crossingChecks.countP counts + 999) / 1000 := by
  have executed : ∃ final, execute step (initial (.new 1 2) 0) crossingChecks = some final :=
    Option.isSome_iff_exists.mp (by decide +kernel)
  obtain ⟨final, reached⟩ := executed
  exact ⟨final, reached, sweeps_every_thousandth reached (by decide)⟩

/-!
## A check alone
-/

/-- The steps of a check that nothing interrupts. -/
def alone (checks : Checks) (ip : IpAddr) (now : Instant) : List CheckStep :=
  let index := checks.calls.length
  .enter ip :: .count index ::
    ((if checks.limiter.cleanupCounter % 1000 = 0 then [.cleanup index now] else []) ++
      [.acquire index now now])

/-- An uninterrupted check answers and changes the limiter as `check` does. -/
theorem execute_alone {checks : Checks} (enabled : checks.limiter.enabled = true) (ip : IpAddr)
    {now : Instant} (ordered : checks.clock ≤ now) :
    ∃ calls, execute step checks (checks.alone ip now) = some
      ⟨(checks.limiter.check ip now).2, now, calls,
        checks.answers ++ [(ip, now, (checks.limiter.check ip now).1)]⟩ := by
  have replaced : ∀ first second : CheckCall,
      (checks.calls ++ [first]).set checks.calls.length second = checks.calls ++ [second] := by
    intro first second
    rw [List.set_append_right _ _ le_rfl, Nat.sub_self]
    rfl
  refine ⟨checks.calls ++ [⟨ip, .answered (checks.limiter.check ip now).1⟩], ?_⟩
  rw [RateLimiter.check_eq enabled]
  by_cases thousandth : checks.limiter.cleanupCounter % 1000 = 0
  · simp [alone, thousandth, execute, step, count, cleanup, acquire, advance, replaced, enabled, ordered,
      RateLimiter.swept, RateLimiter.cleanup]
  · simp [alone, thousandth, execute, step, count, acquire, advance, replaced, enabled, ordered,
      RateLimiter.swept]

end Checks

end L7Proxy
