import L7Proxy.Health.History

/-!
# Queries between records

A query that finds the cooldown over resets its upstream. Later verdicts notice the
query only through a failure that is recorded while such a mark stands.
-/

set_option autoImplicit false

namespace L7Proxy

open CircuitBreaker

namespace HealthTracker

def isRecord (call : HealthCall) : Bool :=
  match call.2 with
  | .failure _ | .success _ => true
  | .query _ => false

/-- The recorded failures and successes of a trace, with their times. -/
def recordsOf (calls : List HealthCall) : List HealthCall := calls.filter isRecord

/-- The upstream bears a mark whose cooldown is over. -/
def Lapsed (tracker : HealthTracker) (upstream : String) (now : Instant) : Prop :=
  ∃ markedAt, (tracker.entry upstream).markedUnhealthyAt = some markedAt ∧
    tracker.cooldown ≤ durationSince now markedAt

/-- Traces with the same records, up to some point of the given ones, answer a query
alike, whatever other queries they make. -/
def PureAlong (failureThreshold : Nat) (cooldown : Duration) (recorded : List HealthCall) : Prop :=
  ∀ (calls others : List HealthCall) (upstream : String) (now : Instant),
    calls.Pairwise (·.1 ≤ ·.1) → (∀ call ∈ calls, call.1 ≤ now) →
    others.Pairwise (·.1 ≤ ·.1) → (∀ call ∈ others, call.1 ≤ now) →
    recordsOf calls <+: recorded → recordsOf others = recordsOf calls →
    ((run failureThreshold cooldown others).isHealthy upstream now).1 =
      ((run failureThreshold cooldown calls).isHealthy upstream now).1

/-- Some failure is recorded while, without any query, the upstream bears a mark
whose cooldown is over. -/
def FailsAfterLapse (failureThreshold : Nat) (cooldown : Duration) (recorded : List HealthCall) : Prop :=
  ∃ before after now upstream, recorded = before ++ (now, .failure upstream) :: after ∧
    (run failureThreshold cooldown before).Lapsed upstream now

/-!
## Entries
-/

variable {tracker plain : HealthTracker} {upstream : String} {now earlier : Instant}

theorem Lapsed.later (lapsed : plain.Lapsed upstream earlier) (ordered : earlier ≤ now) :
    plain.Lapsed upstream now := by
  obtain ⟨markedAt, marked, passed⟩ := lapsed
  exact ⟨markedAt, marked, passed.trans (max_le_max le_rfl (by linarith))⟩

theorem isHealthy_eq_true_iff :
    (tracker.isHealthy upstream now).1 = true ↔
      (tracker.entry upstream).markedUnhealthyAt = none ∨ tracker.Lapsed upstream now := by
  unfold isHealthy Lapsed entry
  cases tracker.state upstream with
  | none => simp
  | some entry =>
      cases marked : entry.markedUnhealthyAt with
      | none => simp [marked]
      | some markedAt =>
          by_cases passed : tracker.cooldown ≤ durationSince now markedAt <;> simp [marked, passed]

theorem isHealthy_of_lapsed (lapsed : tracker.Lapsed upstream now) :
    (tracker.isHealthy upstream now).2.entry upstream = ⟨0, none⟩ := by
  obtain ⟨markedAt, marked, passed⟩ := lapsed
  unfold entry at marked
  cases stored : tracker.state upstream with
  | none => simp [stored] at marked
  | some entry =>
      simp only [stored, Option.getD_some] at marked
      simp [isHealthy, stored, marked, passed, HealthTracker.entry]

theorem isHealthy_of_not_lapsed (standing : ¬ tracker.Lapsed upstream now) :
    (tracker.isHealthy upstream now).2 = tracker := by
  unfold Lapsed entry at standing
  unfold isHealthy
  cases stored : tracker.state upstream with
  | none => rfl
  | some entry =>
      simp only [stored, Option.getD_some] at standing
      cases marked : entry.markedUnhealthyAt with
      | none => simp [marked]
      | some markedAt =>
          have running : ¬ tracker.cooldown ≤ durationSince now markedAt :=
            fun passed => standing ⟨markedAt, marked, passed⟩
          simp [marked, running]

theorem setEntry_entry (tracker : HealthTracker) (upstream : String) (stored : UpstreamHealth) :
    (tracker.setEntry upstream stored).entry upstream = stored := by
  simp [entry]

theorem recordFailure_entry (tracker : HealthTracker) (upstream : String) (now : Instant) :
    (tracker.recordFailure upstream now).entry upstream =
      if tracker.failureThreshold ≤ ((tracker.entry upstream).consecutiveFailures + 1) % u32Size then
        ⟨tracker.failureThreshold, some now⟩
      else
        ⟨((tracker.entry upstream).consecutiveFailures + 1) % u32Size,
          (tracker.entry upstream).markedUnhealthyAt⟩ := by
  unfold recordFailure
  dsimp only
  split <;> rw [setEntry_entry]

theorem recordSuccess_entry (tracker : HealthTracker) (upstream : String) :
    (tracker.recordSuccess upstream).entry upstream = ⟨0, none⟩ := by
  unfold recordSuccess
  split
  · rw [setEntry_entry]
  · next absent => simp [entry, absent]

/-!
## Trackers that differ in queries
-/

/-- The tracker has been queried in addition: it may have reset an upstream whose mark
has lapsed in the plain one. -/
structure Shadows (tracker plain : HealthTracker) (now : Instant) : Prop where
  failureThreshold : tracker.failureThreshold = plain.failureThreshold
  cooldown : tracker.cooldown = plain.cooldown
  capped : ∀ upstream, (plain.entry upstream).consecutiveFailures ≤ plain.failureThreshold
  entries : ∀ upstream, tracker.entry upstream = plain.entry upstream ∨
    tracker.entry upstream = ⟨0, none⟩ ∧ plain.Lapsed upstream now

namespace Shadows

theorem new (failureThreshold : Nat) (cooldown : Duration) (now : Instant) :
    Shadows (new failureThreshold cooldown) (new failureThreshold cooldown) now :=
  ⟨rfl, rfl, by simp [entry, HealthTracker.new], fun _ => .inl rfl⟩

theorem later (shadows : Shadows tracker plain earlier) (ordered : earlier ≤ now) :
    Shadows tracker plain now where
  failureThreshold := shadows.failureThreshold
  cooldown := shadows.cooldown
  capped := shadows.capped
  entries upstream := (shadows.entries upstream).imp_right fun reset => ⟨reset.1, reset.2.later ordered⟩

theorem lapsed_of_same (shadows : Shadows tracker plain now)
    (same : tracker.entry upstream = plain.entry upstream) :
    tracker.Lapsed upstream now ↔ plain.Lapsed upstream now := by
  rw [Lapsed, Lapsed, same, shadows.cooldown]

theorem verdict (shadows : Shadows tracker plain now) (upstream : String) :
    (tracker.isHealthy upstream now).1 = (plain.isHealthy upstream now).1 := by
  rw [Bool.eq_iff_iff, isHealthy_eq_true_iff, isHealthy_eq_true_iff]
  rcases shadows.entries upstream with same | ⟨reset, lapsed⟩
  · rw [same, shadows.lapsed_of_same same]
  · exact ⟨fun _ => .inr lapsed, fun _ => .inl (by rw [reset])⟩

/-- A call on one upstream leaves the entries of the others as they are. -/
theorem call_elsewhere (shadows : Shadows tracker plain now) (next : HealthCall) {other : String}
    (elsewhere : next.2.key ≠ other) :
    (plain.call next).entry other = plain.entry other ∧
      ((tracker.call next).entry other = (plain.call next).entry other ∨
        (tracker.call next).entry other = ⟨0, none⟩ ∧ (plain.call next).Lapsed other now) := by
  have settings := call_settings plain next
  rw [Lapsed, call_other elsewhere, call_other elsewhere, settings.2]
  exact ⟨rfl, shadows.entries other⟩

theorem query (shadows : Shadows tracker plain now) (upstream : String) :
    Shadows (tracker.call (now, .query upstream)) plain now := by
  have settings := call_settings tracker (now, .query upstream)
  refine ⟨settings.1.trans shadows.failureThreshold, settings.2.trans shadows.cooldown, shadows.capped, ?_⟩
  intro other
  by_cases here : upstream = other
  · subst here
    by_cases lapsed : tracker.Lapsed upstream now
    · refine .inr ⟨isHealthy_of_lapsed lapsed, ?_⟩
      rcases shadows.entries upstream with same | ⟨_, plainLapsed⟩
      · exact (shadows.lapsed_of_same same).mp lapsed
      · exact plainLapsed
    · have untouched : tracker.call (now, .query upstream) = tracker := isHealthy_of_not_lapsed lapsed
      rw [untouched]
      exact shadows.entries upstream
  · have kept : (tracker.call (now, .query upstream)).entry other = tracker.entry other := call_other here
    rw [kept]
    exact shadows.entries other

/-- A record that leaves both with one entry for its upstream keeps them in step. -/
theorem record (shadows : Shadows tracker plain now) (next : HealthCall)
    (capped : ((plain.call next).entry next.2.key).consecutiveFailures ≤ plain.failureThreshold)
    (same : (tracker.call next).entry next.2.key = (plain.call next).entry next.2.key) :
    Shadows (tracker.call next) (plain.call next) now where
  failureThreshold := by
    rw [(call_settings tracker next).1, (call_settings plain next).1, shadows.failureThreshold]
  cooldown := by rw [(call_settings tracker next).2, (call_settings plain next).2, shadows.cooldown]
  capped other := by
    rw [(call_settings plain next).1]
    by_cases here : next.2.key = other
    · subst here
      exact capped
    · rw [(shadows.call_elsewhere next here).1]
      exact shadows.capped other
  entries other := by
    by_cases here : next.2.key = other
    · subst here
      exact .inl same
    · exact (shadows.call_elsewhere next here).2

theorem success (shadows : Shadows tracker plain now) (upstream : String) :
    Shadows (tracker.call (now, .success upstream)) (plain.call (now, .success upstream)) now := by
  have cleared : (plain.call (now, .success upstream)).entry upstream = ⟨0, none⟩ :=
    recordSuccess_entry plain upstream
  have trackerCleared : (tracker.call (now, .success upstream)).entry upstream = ⟨0, none⟩ :=
    recordSuccess_entry tracker upstream
  apply shadows.record
  · change ((plain.call (now, .success upstream)).entry upstream).consecutiveFailures ≤ _
    rw [cleared]
    exact Nat.zero_le _
  · exact trackerCleared.trans cleared.symm

/-- A failure is noticed alike unless it meets a mark that only the query has reset;
with a threshold of one it sets a new mark in any case. -/
theorem failure (shadows : Shadows tracker plain now) {upstream : String}
    (allowed : plain.failureThreshold ≤ 1 ∨ ¬ plain.Lapsed upstream now) :
    Shadows (tracker.call (now, .failure upstream)) (plain.call (now, .failure upstream)) now := by
  have counted := recordFailure_entry plain upstream now
  have trackerCounted := recordFailure_entry tracker upstream now
  apply shadows.record
  · change ((plain.recordFailure upstream now).entry upstream).consecutiveFailures ≤ _
    rw [counted]
    split
    · exact le_rfl
    · next below => exact (not_le.mp below).le
  · change (tracker.recordFailure upstream now).entry upstream = (plain.recordFailure upstream now).entry upstream
    rw [counted, trackerCounted, shadows.failureThreshold]
    rcases shadows.entries upstream with same | ⟨reset, lapsed⟩
    · rw [same]
    · have single := allowed.resolve_right (not_not_intro lapsed)
      have capped := shadows.capped upstream
      have fits : (plain.entry upstream).consecutiveFailures + 1 < u32Size := by
        simp only [u32Size]
        omega
      rw [reset, Nat.mod_eq_of_lt fits, if_pos (single.trans (by decide)), if_pos (by omega)]

end Shadows

/-!
## Whole traces
-/

theorem run_append (failureThreshold : Nat) (cooldown : Duration) (calls : List HealthCall)
    (next : HealthCall) :
    run failureThreshold cooldown (calls ++ [next]) = (run failureThreshold cooldown calls).call next := by
  simp [run]

theorem recordsOf_append (calls others : List HealthCall) :
    recordsOf (calls ++ others) = recordsOf calls ++ recordsOf others := List.filter_append ..

theorem FailsAfterLapse.mono {failureThreshold : Nat} {cooldown : Duration} {shorter longer : List HealthCall}
    (fails : FailsAfterLapse failureThreshold cooldown shorter) (extended : shorter <+: longer) :
    FailsAfterLapse failureThreshold cooldown longer := by
  obtain ⟨before, after, time, upstream, rfl, lapsed⟩ := fails
  obtain ⟨rest, rfl⟩ := extended
  exact ⟨before, after ++ rest, time, upstream, by simp, lapsed⟩

/-- A trace and its records alone lead to trackers that differ in nothing a query can
notice, as long as no failure meets a lapsed mark. -/
theorem run_shadows {failureThreshold : Nat} {cooldown : Duration} {calls : List HealthCall}
    (sorted : calls.Pairwise (·.1 ≤ ·.1)) (later : ∀ call ∈ calls, call.1 ≤ now)
    (allowed : failureThreshold ≤ 1 ∨ ¬ FailsAfterLapse failureThreshold cooldown (recordsOf calls)) :
    Shadows (run failureThreshold cooldown calls) (run failureThreshold cooldown (recordsOf calls)) now := by
  induction calls using List.reverseRecOn generalizing now with
  | nil => exact .new failureThreshold cooldown now
  | append_singleton calls next ih =>
      obtain ⟨sortedBefore, _, ordered⟩ := List.pairwise_append.mp sorted
      rw [recordsOf_append] at allowed ⊢
      have shadows : Shadows (run failureThreshold cooldown calls)
          (run failureThreshold cooldown (recordsOf calls)) next.1 :=
        ih sortedBefore (fun call member => ordered call member next (by simp))
          (allowed.imp_right fun never fails => never (fails.mono (List.prefix_append _ _)))
      refine .later ?_ (later next (by simp))
      obtain ⟨time, next⟩ := next
      cases next with
      | query upstream =>
          have dropped : recordsOf [(time, .query upstream)] = [] := rfl
          rw [dropped, List.append_nil, run_append]
          exact shadows.query upstream
      | success upstream =>
          have kept : recordsOf [(time, .success upstream)] = [(time, .success upstream)] := rfl
          rw [kept, run_append, run_append]
          exact shadows.success upstream
      | failure upstream =>
          have kept : recordsOf [(time, .failure upstream)] = [(time, .failure upstream)] := rfl
          rw [kept] at allowed ⊢
          rw [run_append, run_append]
          refine shadows.failure (allowed.imp ?_ fun never lapsed => ?_)
          · rw [(run_settings failureThreshold cooldown (recordsOf calls)).1]
            exact id
          · exact never ⟨recordsOf calls, [], time, upstream, rfl, lapsed⟩

/-- The threshold is one, there is no cooldown, or no failure meets a lapsed mark. -/
def QueriesUnnoticed (failureThreshold : Nat) (cooldown : Duration) (recorded : List HealthCall) : Prop :=
  failureThreshold ≤ 1 ∨ cooldown ≤ 0 ∨ ¬ FailsAfterLapse failureThreshold cooldown recorded

theorem isHealthy_without_cooldown (instant : tracker.cooldown ≤ 0) (upstream : String) (now : Instant) :
    (tracker.isHealthy upstream now).1 = true := by
  rw [isHealthy_eq_true_iff]
  cases marked : (tracker.entry upstream).markedUnhealthyAt with
  | none => exact .inl rfl
  | some markedAt => exact .inr ⟨markedAt, marked, instant.trans (le_max_left ..)⟩

theorem pureAlong_of_unnoticed {failureThreshold : Nat} {cooldown : Duration} {recorded : List HealthCall}
    (unnoticed : QueriesUnnoticed failureThreshold cooldown recorded) :
    PureAlong failureThreshold cooldown recorded := by
  intro calls others upstream now sorted later otherSorted otherLater upTo same
  by_cases instant : cooldown ≤ 0
  · rw [isHealthy_without_cooldown (by rwa [(run_settings failureThreshold cooldown others).2]),
      isHealthy_without_cooldown (by rwa [(run_settings failureThreshold cooldown calls).2])]
  · have allowed : failureThreshold ≤ 1 ∨
        ¬ FailsAfterLapse failureThreshold cooldown (recordsOf calls) :=
      unnoticed.imp_right fun rest fails => rest.resolve_left instant (fails.mono upTo)
    have shadows := run_shadows sorted later allowed
    have otherShadows := run_shadows otherSorted otherLater (same ▸ allowed)
    rw [shadows.verdict, otherShadows.verdict, same]

/-- Without a query the failure renews the lapsed mark. -/
private theorem failure_after_lapse {failureThreshold : Nat} {cooldown : Duration} {front : List HealthCall}
    (small : failureThreshold < u32Max) (lasting : 0 < cooldown) (sorted : front.Pairwise (·.1 ≤ ·.1))
    (lapsed : (run failureThreshold cooldown front).Lapsed upstream now) :
    ((run failureThreshold cooldown (front ++ [(now, .failure upstream)])).isHealthy upstream now).1 = false := by
  have settings := run_settings failureThreshold cooldown front
  have represents : Represents failureThreshold ((run failureThreshold cooldown front).entry upstream) _ :=
    run_represents small sorted upstream
  obtain ⟨markedAt, marked, _⟩ := lapsed
  have reached : max 1 failureThreshold ≤
      ((policy failureThreshold cooldown).failuresSince upstream front).length := by
    by_contra short
    rw [represents.2, if_neg short] at marked
    cases marked
  have fits := represents.count_lt small
  have renewed : (run failureThreshold cooldown (front ++ [(now, .failure upstream)])).entry upstream =
      ⟨failureThreshold, some now⟩ := by
    rw [run_append, call, recordFailure_entry, settings.1, Nat.mod_eq_of_lt fits, represents.1,
      if_pos (by omega)]
  rw [Bool.eq_false_iff, ne_eq, isHealthy_eq_true_iff]
  intro healthy
  rcases healthy with unmarked | ⟨newest, mark, passed⟩
  · rw [renewed] at unmarked
    cases unmarked
  · rw [renewed] at mark
    cases mark
    rw [durationSince_self, (run_settings failureThreshold cooldown _).2] at passed
    exact absurd passed (not_le.mpr lasting)

/-- After a query the same failure is the first of a new count. -/
private theorem failure_after_query {failureThreshold : Nat} {cooldown : Duration} {front : List HealthCall}
    (several : 1 < failureThreshold) (lapsed : (run failureThreshold cooldown front).Lapsed upstream now) :
    ((run failureThreshold cooldown
      (front ++ [(now, .query upstream), (now, .failure upstream)])).isHealthy upstream now).1 = true := by
  have settings := run_settings failureThreshold cooldown (front ++ [(now, .query upstream)])
  have cleared : (run failureThreshold cooldown (front ++ [(now, .query upstream)])).entry upstream =
      ⟨0, none⟩ := by
    rw [run_append]
    exact isHealthy_of_lapsed lapsed
  have split : front ++ [(now, .query upstream), (now, .failure upstream)] =
      (front ++ [(now, .query upstream)]) ++ [(now, .failure upstream)] := by simp
  rw [isHealthy_eq_true_iff, split, run_append, call, recordFailure_entry, cleared, settings.1,
    if_neg (show ¬ failureThreshold ≤ (0 + 1) % u32Size by simp only [u32Size]; omega)]
  exact .inl rfl

/-- Queries are pure along the records of a trace when the threshold is one, there is
no cooldown, or no failure meets a lapsed mark, and only then while the counter of
failures has room above the threshold. -/
theorem pureAlong_iff_unnoticed {failureThreshold : Nat} {cooldown : Duration} {recorded : List HealthCall}
    (sorted : recorded.Pairwise (·.1 ≤ ·.1)) (recordsOnly : recordsOf recorded = recorded) :
    (QueriesUnnoticed failureThreshold cooldown recorded → PureAlong failureThreshold cooldown recorded) ∧
      (failureThreshold < u32Max → PureAlong failureThreshold cooldown recorded →
        QueriesUnnoticed failureThreshold cooldown recorded) := by
  refine ⟨pureAlong_of_unnoticed, fun small pure => ?_⟩
  by_contra noticed
  simp only [QueriesUnnoticed, not_or, not_le, not_not] at noticed
  obtain ⟨several, lasting, front, back, now, upstream, rfl, lapsed⟩ := noticed
  obtain ⟨frontSorted, _, ordered⟩ := List.pairwise_append.mp sorted
  have later : ∀ call ∈ front, call.1 ≤ now := fun call member => ordered call member _ List.mem_cons_self
  have frontRecords : recordsOf front = front := by
    rw [recordsOf, List.filter_eq_self] at recordsOnly ⊢
    exact fun call member => recordsOnly call (List.mem_append_left _ member)
  have failureRecord : recordsOf [(now, .failure upstream)] = [(now, .failure upstream)] := rfl
  have same := pure (front ++ [(now, .failure upstream)])
    (front ++ [(now, .query upstream), (now, .failure upstream)]) upstream now
    (by simpa [List.pairwise_append, frontSorted] using later)
    (by simpa [or_imp, forall_and] using later)
    (by simpa [List.pairwise_append, frontSorted] using later)
    (by simpa [or_imp, forall_and] using later)
    ⟨back, by rw [recordsOf_append, frontRecords, failureRecord]; simp⟩
    (by simp [recordsOf, isRecord])
  rw [failure_after_lapse small lasting frontSorted lapsed, failure_after_query several lapsed] at same
  cases same

/-- With a threshold of one a failure marks the upstream whether or not somebody asked. -/
theorem pureAlong_iff_unnoticed_single :
    PureAlong 1 30 [(0, .failure "http://a"), (40, .failure "http://a")] :=
  (pureAlong_iff_unnoticed (by norm_num) rfl).1 (.inl le_rfl)

/-- Two failures mark the upstream for ten seconds; a third follows when they are over. -/
theorem query_changes_verdict :
    ((run 2 10 [(0, .failure "http://a"), (0, .failure "http://a"), (10, .failure "http://a")]).isHealthy
        "http://a" 10).1 = false ∧
      ((run 2 10 [(0, .failure "http://a"), (0, .failure "http://a"), (10, .query "http://a"),
        (10, .failure "http://a")]).isHealthy "http://a" 10).1 = true := by
  decide +kernel

end HealthTracker

end L7Proxy
