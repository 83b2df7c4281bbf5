import L7Proxy.Health.Basic
import L7Proxy.Library.CircuitBreaker

/-!
# Health verdicts by failure history

The tracker's capped counter and mark represent, for each upstream, the failures
since its last reset: it implements one circuit breaker per upstream.
-/

set_option autoImplicit false

namespace L7Proxy

open CircuitBreaker

abbrev HealthCall := Instant × Call String

namespace HealthTracker

def call (tracker : HealthTracker) (next : HealthCall) : HealthTracker :=
  match next.2 with
  | .failure upstream => tracker.recordFailure upstream next.1
  | .success upstream => tracker.recordSuccess upstream
  | .query upstream => (tracker.isHealthy upstream next.1).2

def run (failureThreshold : Nat) (cooldown : Duration) (calls : List HealthCall) : HealthTracker :=
  calls.foldl call (new failureThreshold cooldown)

/-- A threshold of zero marks an upstream at its first failure, as one does. -/
def policy (failureThreshold : Nat) (cooldown : Duration) : Policy Instant :=
  ⟨max 1 failureThreshold, cooldown⟩

/-- An entry represents the failures since the last reset: their number capped at
the threshold, and the time of the latest once they reach the bound. -/
def Represents (failureThreshold : Nat) (entry : UpstreamHealth) (failures : List Instant) : Prop :=
  entry.consecutiveFailures = min failures.length failureThreshold ∧
    entry.markedUnhealthyAt = if max 1 failureThreshold ≤ failures.length then failures.head? else none

theorem represents_nil (failureThreshold : Nat) : Represents failureThreshold ⟨0, none⟩ [] := by
  simp [Represents]

/-- The cap leaves room for the increment, so the counter does not wrap around. -/
theorem Represents.count_lt {failureThreshold : Nat} {entry : UpstreamHealth}
    {failures : List Instant} (represents : Represents failureThreshold entry failures)
    (small : failureThreshold < u32Max) : entry.consecutiveFailures + 1 < u32Size := by
  have capped := represents.1
  simp only [u32Max, u32Size] at small ⊢
  omega

/-!
## One call
-/

private theorem recordFailure_represents {tracker : HealthTracker} {upstream : String}
    {failures : List Instant} (now : Instant) (small : tracker.failureThreshold < u32Max)
    (represents : Represents tracker.failureThreshold (tracker.entry upstream) failures) :
    Represents tracker.failureThreshold ((tracker.recordFailure upstream now).entry upstream)
      (now :: failures) := by
  have fits := represents.count_lt small
  have capped := represents.1
  simp only [recordFailure, Nat.mod_eq_of_lt fits]
  split
  · next reached =>
      simp only [entry, setEntry_state_self, Option.getD_some, Represents, List.length_cons,
        List.head?_cons]
      exact ⟨by omega, by rw [if_pos (by omega)]⟩
  · next below =>
      simp only [entry, setEntry_state_self, Option.getD_some, Represents, List.length_cons,
        List.head?_cons] at represents ⊢
      refine ⟨by simp only [entry] at capped below ⊢; omega, ?_⟩
      rw [represents.2, if_neg (by omega), if_neg (by simp only [entry] at capped below; omega)]

private theorem recordSuccess_represents (tracker : HealthTracker) (upstream : String) :
    Represents tracker.failureThreshold ((tracker.recordSuccess upstream).entry upstream) [] := by
  simp only [recordSuccess]
  split
  · simpa [entry] using represents_nil tracker.failureThreshold
  · next absent => simpa [entry, absent] using represents_nil tracker.failureThreshold

theorem isHealthy_represents (tracker : HealthTracker) (upstream : String)
    {failures : List Instant} {now : Instant}
    (represents : Represents tracker.failureThreshold (tracker.entry upstream) failures)
    (later : ∀ time ∈ failures, time ≤ now) :
    ((tracker.isHealthy upstream now).1 = false ↔
      (policy tracker.failureThreshold tracker.cooldown).Tripped failures now) ∧
    Represents tracker.failureThreshold ((tracker.isHealthy upstream now).2.entry upstream)
      (if (policy tracker.failureThreshold tracker.cooldown).Expired failures now then []
        else failures) := by
  have marked := represents.2
  by_cases reached : max 1 tracker.failureThreshold ≤ failures.length
  · rw [if_pos reached] at marked
    cases failures with
    | nil => simp at reached
    | cons latest earlier =>
        have stored : ∃ entry, tracker.state upstream = some entry ∧
            entry.markedUnhealthyAt = some latest := by
          cases found : tracker.state upstream with
          | none => simp [entry, found] at marked
          | some stored => exact ⟨stored, rfl, by simpa [entry, found] using marked⟩
        obtain ⟨stored, found, markedAt⟩ := stored
        have elapsed := durationSince_of_le (later latest List.mem_cons_self)
        simp only [isHealthy, found, markedAt, elapsed, Policy.Tripped, Policy.Expired, policy,
          reached, true_and, List.head?_cons, Option.mem_some_iff, exists_eq_left']
        by_cases lapsed : tracker.cooldown ≤ now - latest
        · simpa [lapsed, entry] using represents_nil tracker.failureThreshold
        · simpa [lapsed, entry, found, not_le.mp lapsed] using represents
  · rw [if_neg reached] at marked
    have unchanged : tracker.isHealthy upstream now = (true, tracker) := by
      cases found : tracker.state upstream with
      | none => simp [isHealthy, found]
      | some stored =>
          have unmarked : stored.markedUnhealthyAt = none := by simpa [entry, found] using marked
          simp [isHealthy, found, unmarked]
    simp only [unchanged, Policy.Tripped, Policy.Expired, policy, reached, false_and, if_false]
    exact ⟨by simp, represents⟩

theorem call_other {tracker : HealthTracker} {upstream : String} {next : HealthCall}
    (different : next.2.key ≠ upstream) : (tracker.call next).entry upstream = tracker.entry upstream := by
  obtain ⟨now, next⟩ := next
  cases next with
  | failure key =>
      have apart : upstream ≠ key := fun same => different same.symm
      simp only [call, recordFailure]
      split <;> simp [entry, apart]
  | success key =>
      have apart : upstream ≠ key := fun same => different same.symm
      simp only [call, recordSuccess]
      split <;> simp [entry, apart]
  | query key =>
      have apart : upstream ≠ key := fun same => different same.symm
      simp only [call, isHealthy]
      split
      · rfl
      · split
        · rfl
        · split <;> simp [entry, apart]

theorem call_settings (tracker : HealthTracker) (next : HealthCall) :
    (tracker.call next).failureThreshold = tracker.failureThreshold ∧
      (tracker.call next).cooldown = tracker.cooldown := by
  obtain ⟨now, next⟩ := next
  cases next with
  | failure key =>
      simp only [call, recordFailure]
      split <;> exact ⟨rfl, rfl⟩
  | success key =>
      simp only [call, recordSuccess]
      split <;> exact ⟨rfl, rfl⟩
  | query key =>
      simp only [call, isHealthy]
      split
      · exact ⟨rfl, rfl⟩
      · split
        · exact ⟨rfl, rfl⟩
        · split <;> exact ⟨rfl, rfl⟩

theorem call_represents (tracker : HealthTracker) (upstream : String) {failures : List Instant}
    {next : HealthCall} (small : tracker.failureThreshold < u32Max)
    (represents : Represents tracker.failureThreshold (tracker.entry upstream) failures)
    (later : ∀ time ∈ failures, time ≤ next.1) :
    Represents tracker.failureThreshold ((tracker.call next).entry upstream)
      ((policy tracker.failureThreshold tracker.cooldown).record upstream failures next) := by
  by_cases same : next.2.key = upstream
  · obtain ⟨now, next⟩ := next
    cases next with
    | failure key =>
        cases same
        simpa [Policy.record, CircuitBreaker.Call.key, call] using
          recordFailure_represents now small represents
    | success key =>
        cases same
        simpa [Policy.record, CircuitBreaker.Call.key, call] using
          recordSuccess_represents tracker key
    | query key =>
        cases same
        simpa [Policy.record, CircuitBreaker.Call.key, call] using
          (isHealthy_represents tracker key represents later).2
  · rw [call_other same, Policy.record, if_neg same]
    exact represents

/-!
## Whole runs
-/

theorem run_settings (failureThreshold : Nat) (cooldown : Duration) (calls : List HealthCall) :
    (run failureThreshold cooldown calls).failureThreshold = failureThreshold ∧
      (run failureThreshold cooldown calls).cooldown = cooldown := by
  induction calls using List.reverseRecOn with
  | nil => exact ⟨rfl, rfl⟩
  | append_singleton calls next ih =>
      simp only [run, List.foldl_append, List.foldl_cons, List.foldl_nil] at ih ⊢
      have settings := call_settings (calls.foldl call (new failureThreshold cooldown)) next
      exact ⟨settings.1.trans ih.1, settings.2.trans ih.2⟩

/-- After any calls at non-decreasing times, every entry represents the failures
since the last reset of its upstream. -/
theorem run_represents {failureThreshold : Nat} {cooldown : Duration} {calls : List HealthCall}
    (small : failureThreshold < u32Max) (sorted : calls.Pairwise (·.1 ≤ ·.1)) (upstream : String) :
    Represents failureThreshold ((run failureThreshold cooldown calls).entry upstream)
      ((policy failureThreshold cooldown).failuresSince upstream calls) := by
  induction calls using List.reverseRecOn with
  | nil => exact represents_nil failureThreshold
  | append_singleton calls next ih =>
      obtain ⟨sortedBefore, _, ordered⟩ := List.pairwise_append.mp sorted
      have settings := run_settings failureThreshold cooldown calls
      have step := call_represents (run failureThreshold cooldown calls) upstream
        (by rw [settings.1]; exact small) (by rw [settings.1]; exact ih sortedBefore)
        (failuresSince_le fun call member => ordered call member next (by simp))
      rw [settings.1, settings.2] at step
      rw [failuresSince_append]
      simpa only [run, List.foldl_append, List.foldl_cons, List.foldl_nil] using step

theorem run_isHealthy_eq_false_iff {failureThreshold : Nat} (cooldown : Duration)
    {calls : List HealthCall} {now : Instant} (small : failureThreshold < u32Max)
    (sorted : calls.Pairwise (·.1 ≤ ·.1)) (later : ∀ call ∈ calls, call.1 ≤ now) (upstream : String) :
    ((run failureThreshold cooldown calls).isHealthy upstream now).1 = false ↔
      (policy failureThreshold cooldown).Tripped
        ((policy failureThreshold cooldown).failuresSince upstream calls) now := by
  have settings := run_settings failureThreshold cooldown calls
  have answer := (isHealthy_represents (run failureThreshold cooldown calls) upstream
    (by rw [settings.1]; exact run_represents small sorted upstream) (failuresSince_le later)).1
  rwa [settings.1, settings.2] at answer

/-- A verdict is negative exactly while enough failures stand since the last reset
and the latest of them is younger than the cooldown; no counter can overflow at its
next increment; and calls on other upstreams do not change the verdict. -/
theorem isHealthy_eq_false_iff_history {failureThreshold : Nat} {cooldown : Duration}
    {calls : List HealthCall} {now : Instant} (small : failureThreshold < u32Max)
    (sorted : calls.Pairwise (·.1 ≤ ·.1)) (later : ∀ call ∈ calls, call.1 ≤ now) (upstream : String) :
    let tracker := run failureThreshold cooldown calls
    let failures := (policy failureThreshold cooldown).failuresSince upstream calls
    ((tracker.isHealthy upstream now).1 = false ↔
      max 1 failureThreshold ≤ failures.length ∧ ∃ latest ∈ failures.head?, now - latest < cooldown) ∧
    (tracker.entry upstream).consecutiveFailures + 1 < u32Size ∧
    (tracker.isHealthy upstream now).1 =
      ((run failureThreshold cooldown (calls.filter fun call => call.2.key = upstream)).isHealthy
        upstream now).1 := by
  have verdict := run_isHealthy_eq_false_iff cooldown small sorted later upstream
  refine ⟨verdict, (run_represents small sorted upstream).count_lt small, ?_⟩
  have filtered := run_isHealthy_eq_false_iff cooldown small
    (sorted.sublist (List.filter_sublist (p := fun call => call.2.key = upstream)))
    (fun call member => later call (List.mem_filter.mp member).1) upstream
  rw [failuresSince_filter, ← verdict] at filtered
  exact Bool.eq_iff_iff.mpr (not_iff_not.mp (by simpa using filtered.symm))

/-- Three failures within the cooldown, of which the proxy's default threshold is three. -/
theorem isHealthy_eq_false_iff_history_default :
    ((run 3 30 [(0, .failure "http://a"), (1, .failure "http://b"), (2, .failure "http://a"),
      (3, .failure "http://a")]).isHealthy "http://a" 20).1 = false := by
  refine (isHealthy_eq_false_iff_history (by decide) (by norm_num) (by norm_num) "http://a").1.mpr ?_
  have apart : "http://b" ≠ "http://a" := by decide
  norm_num [policy, Policy.failuresSince, Policy.record, CircuitBreaker.Call.key, apart]

end HealthTracker

end L7Proxy
