import L7Proxy.RetryBudget.Basic
import L7Proxy.Library.SlidingWindow

/-!
# The retry budget over whole histories

The stored logs answer questions about the window as the full history of calls
does, except for a grant made while no request is in the window: it is neither
counted against the budget nor recorded. A window that reaches back before the earliest
`Instant` makes `allow_retry` panic, and every call after it.
-/

set_option autoImplicit false

namespace L7Proxy

open SlidingWindow

inductive BudgetCall where
  | recordRequest
  | allowRetry
  deriving DecidableEq

/-- A call with its time, whether it returned, and the answer of an `allow_retry`. -/
structure BudgetEvent where
  time : Instant
  call : BudgetCall
  returned : Bool
  granted : Bool
  deriving DecidableEq

namespace RetryBudget

def perform (budget : RetryBudget) (next : Instant × BudgetCall) : BudgetEvent × RetryBudget :=
  match next.2 with
  | .recordRequest =>
      let (returned, budget) := budget.recordRequest next.1
      (⟨next.1, .recordRequest, returned.isSome, false⟩, budget)
  | .allowRetry =>
      let (granted, budget) := budget.allowRetry next.1
      (⟨next.1, .allowRetry, granted.isSome, granted.getD false⟩, budget)

def run (budget : RetryBudget) (calls : List (Instant × BudgetCall)) : List BudgetEvent × RetryBudget :=
  calls.foldl (fun (events, budget) next =>
    let (event, budget) := budget.perform next
    (events ++ [event], budget)) ([], budget)

def requestTimes (events : List BudgetEvent) : List Instant :=
  (events.filter (·.call = .recordRequest)).map (·.time)

def grantTimes (events : List BudgetEvent) : List Instant :=
  (events.filter fun event => event.call = .allowRetry ∧ event.granted).map (·.time)

/-- Fewer retries were granted in the window than the percentage of its requests,
rounded up. -/
def BelowBudget (budgetPercent : ℚ) (window : Duration) (earlier : List BudgetEvent) (now : Instant) :
    Prop :=
  (((grantTimes earlier).filter fun time => now - window < time ∧ time ≤ now).length : ℤ) <
    ⌈budgetPercent / 100 *
      ((requestTimes earlier).filter fun time => now - window < time ∧ time ≤ now).length⌉

/-- Every `allow_retry` of the history returns, and is granted exactly while below the
budget. -/
def KeepsBudget (budgetPercent : ℚ) (window : Duration) (events : List BudgetEvent) : Prop :=
  ∀ earlier event, earlier ++ [event] <+: events → event.call = .allowRetry →
    event.returned = true ∧ (event.granted = true ↔ BelowBudget budgetPercent window earlier event.time)

/-- Every `allow_retry` is made with some recorded request in its window. -/
def RequestsInWindow (window : Duration) (calls : List (Instant × BudgetCall)) : Prop :=
  ∀ earlier now, earlier ++ [(now, .allowRetry)] <+: calls →
    ∃ time, (time, .recordRequest) ∈ earlier ∧ now - window < time ∧ time ≤ now

/-- The call is no `allow_retry` with a cutoff before the earliest `Instant`. -/
def HasCutoff (window : Duration) (next : Instant × BudgetCall) : Prop :=
  next.2 = .allowRetry → earliestInstant ≤ next.1 - window

instance (window : Duration) (next : Instant × BudgetCall) : Decidable (HasCutoff window next) :=
  inferInstanceAs (Decidable (_ → _))

/-- No call computes a cutoff before the earliest `Instant`. -/
def HaveCutoffs (window : Duration) (calls : List (Instant × BudgetCall)) : Prop :=
  ∀ call ∈ calls, HasCutoff window call

/-!
## One call
-/

theorem allowSince_granted (budget : RetryBudget) (now : Instant) :
    (budget.allowSince (now - budget.window) now).1 = true ↔
      recent budget.window now budget.state.requests = [] ∨
        ((recent budget.window now budget.state.retries).length : ℤ) <
          ⌈budget.budgetPercent / 100 * (recent budget.window now budget.state.requests).length⌉ := by
  have rounded : ((recent budget.window now budget.state.requests).length : ℚ) *
      budget.budgetPercent / 100 =
        budget.budgetPercent / 100 * (recent budget.window now budget.state.requests).length := by
    ring
  simp only [recent] at rounded ⊢
  simp only [allowSince, rounded, List.length_eq_zero_iff]
  split
  · next empty => simp [empty]
  · next nonempty =>
      simp only [nonempty, false_or]
      split
      · next below => simpa using Int.lt_toNat.mp below
      · next reached => simpa using fun below => reached (Int.lt_toNat.mpr below)

theorem allowSince_state (budget : RetryBudget) (now : Instant) :
    (budget.allowSince (now - budget.window) now).2 = { budget with
      state := ⟨recent budget.window now budget.state.requests,
        recent budget.window now budget.state.retries ++
          if (budget.allowSince (now - budget.window) now).1 ∧ recent budget.window now budget.state.requests ≠ []
            then [now] else []⟩ } := by
  simp only [allowSince, List.length_eq_zero_iff, recent]
  split
  · next empty => simp [empty]
  · next nonempty => split <;> simp [nonempty]

theorem perform_event (budget : RetryBudget) (next : Instant × BudgetCall) :
    (budget.perform next).1.time = next.1 ∧ (budget.perform next).1.call = next.2 := by
  obtain ⟨now, next⟩ := next
  cases next <;> exact ⟨rfl, rfl⟩

section

variable {budget : RetryBudget} {now : Instant} {next : Instant × BudgetCall}

theorem perform_recordRequest (calm : budget.poisoned = false) :
    budget.perform (now, .recordRequest) =
      (⟨now, .recordRequest, true, false⟩, { budget with state.requests := budget.state.requests ++ [now] }) := by
  simp [perform, recordRequest, calm]

theorem perform_allowRetry (calm : budget.poisoned = false) (fits : earliestInstant ≤ now - budget.window) :
    budget.perform (now, .allowRetry) =
      (⟨now, .allowRetry, true, (budget.allowSince (now - budget.window) now).1⟩,
        (budget.allowSince (now - budget.window) now).2) := by
  simp [perform, allowRetry, calm, instantSub_of_le fits]

theorem perform_poisoned (poisoned : budget.poisoned = true) :
    budget.perform next = (⟨next.1, next.2, false, false⟩, budget) := by
  obtain ⟨now, call⟩ := next
  cases call <;> simp [perform, recordRequest, allowRetry, poisoned]

theorem perform_panics (calm : budget.poisoned = false) (cutoff : ¬ HasCutoff budget.window next) :
    budget.perform next = (⟨next.1, next.2, false, false⟩, { budget with poisoned := true }) := by
  obtain ⟨now, call⟩ := next
  obtain ⟨asked, before⟩ := Classical.not_imp.mp cutoff
  cases asked
  simp [perform, allowRetry, calm, instantSub_of_lt (not_le.mp before)]

/-- A call that panics leaves the lock poisoned, and only such a call. -/
theorem perform_returned_iff :
    (budget.perform next).1.returned = true ↔ budget.poisoned = false ∧ HasCutoff budget.window next := by
  by_cases poisoned : budget.poisoned = true
  · simp [perform_poisoned poisoned, poisoned]
  · have calm := Bool.eq_false_iff.mpr poisoned
    by_cases cutoff : HasCutoff budget.window next
    · obtain ⟨now, call⟩ := next
      cases call with
      | recordRequest => simp [perform_recordRequest calm, calm, cutoff]
      | allowRetry => simp [perform_allowRetry calm (cutoff rfl), calm, cutoff]
    · simp [perform_panics calm cutoff, cutoff]

theorem perform_poisoned_iff :
    (budget.perform next).2.poisoned = true ↔ budget.poisoned = true ∨ ¬ HasCutoff budget.window next := by
  by_cases poisoned : budget.poisoned = true
  · simp [perform_poisoned poisoned, poisoned]
  · have calm := Bool.eq_false_iff.mpr poisoned
    by_cases cutoff : HasCutoff budget.window next
    · obtain ⟨now, call⟩ := next
      cases call with
      | recordRequest => simp [perform_recordRequest calm, calm, cutoff]
      | allowRetry => simp [perform_allowRetry calm (cutoff rfl), allowSince_state, calm, cutoff]
    · simp [perform_panics calm cutoff, cutoff]

theorem perform_settings (budget : RetryBudget) (next : Instant × BudgetCall) :
    (budget.perform next).2.budgetPercent = budget.budgetPercent ∧
      (budget.perform next).2.window = budget.window := by
  by_cases poisoned : budget.poisoned = true
  · simp [perform_poisoned poisoned]
  · have calm := Bool.eq_false_iff.mpr poisoned
    by_cases cutoff : HasCutoff budget.window next
    · obtain ⟨now, call⟩ := next
      cases call with
      | recordRequest => simp [perform_recordRequest calm]
      | allowRetry => simp [perform_allowRetry calm (cutoff rfl), allowSince_state]
    · simp [perform_panics calm cutoff]

theorem perform_requests_retain {events : List BudgetEvent} {since : Instant} (calm : budget.poisoned = false)
    (cutoff : HasCutoff budget.window next) (ordered : since ≤ next.1)
    (retains : Retains budget.window since budget.state.requests (requestTimes events)) :
    Retains budget.window next.1 (budget.perform next).2.state.requests
      (requestTimes (events ++ [(budget.perform next).1])) := by
  obtain ⟨now, call⟩ := next
  cases call with
  | recordRequest => simpa [perform_recordRequest calm, requestTimes] using (retains.later ordered).push now
  | allowRetry =>
      simpa [perform_allowRetry calm (cutoff rfl), allowSince_state, requestTimes] using retains.prune ordered

theorem perform_retries_retain {events : List BudgetEvent} {since : Instant} (calm : budget.poisoned = false)
    (cutoff : HasCutoff budget.window next) (ordered : since ≤ next.1)
    (present : next.2 = .allowRetry → recent budget.window next.1 budget.state.requests ≠ [])
    (retains : Retains budget.window since budget.state.retries (grantTimes events)) :
    Retains budget.window next.1 (budget.perform next).2.state.retries
      (grantTimes (events ++ [(budget.perform next).1])) := by
  obtain ⟨now, call⟩ := next
  cases call with
  | recordRequest => simpa [perform_recordRequest calm, grantTimes] using retains.later ordered
  | allowRetry =>
      have pruned := retains.prune ordered
      have nonempty := present rfl
      simp only [perform_allowRetry calm (cutoff rfl), allowSince_state, grantTimes, List.filter_append,
        List.map_append] at pruned ⊢
      cases (budget.allowSince (now - budget.window) now).1 with
      | true => simpa [nonempty] using pruned.push now
      | false => simpa using pruned

end

/-!
## Runs
-/

@[simp] theorem run_nil (budget : RetryBudget) : budget.run [] = ([], budget) := rfl

@[simp] theorem run_append (budget : RetryBudget) (calls : List (Instant × BudgetCall))
    (next : Instant × BudgetCall) :
    budget.run (calls ++ [next]) =
      ((budget.run calls).1 ++ [((budget.run calls).2.perform next).1],
        ((budget.run calls).2.perform next).2) := by
  simp [run]

theorem run_settings (budget : RetryBudget) (calls : List (Instant × BudgetCall)) :
    (budget.run calls).2.budgetPercent = budget.budgetPercent ∧
      (budget.run calls).2.window = budget.window := by
  induction calls using List.reverseRecOn with
  | nil => exact ⟨rfl, rfl⟩
  | append_singleton calls next ih =>
      have settings := perform_settings (budget.run calls).2 next
      rw [run_append]
      exact ⟨settings.1.trans ih.1, settings.2.trans ih.2⟩

/-- The lock is poisoned exactly when some call panicked. -/
theorem run_calm_iff (budgetPercent : ℚ) (windowSecs : Nat) (calls : List (Instant × BudgetCall)) :
    ((new budgetPercent windowSecs).run calls).2.poisoned = false ↔ HaveCutoffs windowSecs calls := by
  induction calls using List.reverseRecOn with
  | nil => exact iff_of_true rfl (fun call member => absurd member List.not_mem_nil)
  | append_singleton calls next ih =>
      have window : ((new budgetPercent windowSecs).run calls).2.window = windowSecs :=
        (run_settings _ _).2
      have poisoned := @perform_poisoned_iff ((new budgetPercent windowSecs).run calls).2 next
      rw [window] at poisoned
      rw [run_append, ← Bool.not_eq_true, poisoned, not_or, not_not, Bool.not_eq_true, ih]
      simp [HaveCutoffs, or_imp, forall_and]

theorem run_events (budget : RetryBudget) (calls : List (Instant × BudgetCall)) :
    (budget.run calls).1.map (fun event => (event.time, event.call)) = calls := by
  induction calls using List.reverseRecOn with
  | nil => rfl
  | append_singleton calls next ih => simp [ih, perform_event]

theorem requestTimes_run (budget : RetryBudget) (calls : List (Instant × BudgetCall)) :
    requestTimes (budget.run calls).1 = (calls.filter (·.2 = .recordRequest)).map (·.1) := by
  conv_rhs => rw [← run_events budget calls, List.filter_map, List.map_map]
  rfl

/-- The events of the first calls are the first events. -/
theorem prefix_run_events (budget : RetryBudget) {earlier calls : List (Instant × BudgetCall)}
    (within : earlier <+: calls) : (budget.run earlier).1 <+: (budget.run calls).1 := by
  induction calls using List.reverseRecOn with
  | nil => exact List.prefix_nil.mp within ▸ List.prefix_refl _
  | append_singleton calls next ih =>
      cases List.prefix_concat_iff.mp within with
      | inl same => exact same ▸ List.prefix_refl _
      | inr inside =>
          rw [run_append]
          exact (ih inside).trans (List.prefix_append _ _)

theorem mem_requestTimes {budget : RetryBudget} {calls : List (Instant × BudgetCall)} {time : Instant} :
    time ∈ requestTimes (budget.run calls).1 ↔ (time, .recordRequest) ∈ calls := by
  simp [requestTimes_run]

theorem event_time_le {budget : RetryBudget} {calls : List (Instant × BudgetCall)} {now : Instant}
    (later : ∀ call ∈ calls, call.1 ≤ now) : ∀ event ∈ (budget.run calls).1, event.time ≤ now := by
  intro event member
  refine later (event.time, event.call) ?_
  rw [← run_events budget calls]
  exact List.mem_map.mpr ⟨event, member, rfl⟩

theorem run_requests_retain (budgetPercent : ℚ) (windowSecs : Nat)
    {calls : List (Instant × BudgetCall)} {now : Instant} (sorted : calls.Pairwise (·.1 ≤ ·.1))
    (later : ∀ call ∈ calls, call.1 ≤ now) (cutoffs : HaveCutoffs windowSecs calls) :
    Retains (windowSecs : Duration) now ((new budgetPercent windowSecs).run calls).2.state.requests
      (requestTimes ((new budgetPercent windowSecs).run calls).1) := by
  induction calls using List.reverseRecOn generalizing now with
  | nil => exact .refl _ _ _
  | append_singleton calls next ih =>
      obtain ⟨sortedBefore, _, ordered⟩ := List.pairwise_append.mp sorted
      have earlier : HaveCutoffs windowSecs calls := fun call member => cutoffs call (List.mem_append_left _ member)
      have cutoff : HasCutoff windowSecs next := cutoffs next (by simp)
      have before := ih sortedBefore (fun call member => ordered call member next (by simp)) earlier
      have calm := (run_calm_iff budgetPercent windowSecs calls).mpr earlier
      have window : ((new budgetPercent windowSecs).run calls).2.window = windowSecs :=
        (run_settings _ _).2
      rw [← window] at before cutoff ⊢
      rw [run_append]
      exact (perform_requests_retain calm cutoff le_rfl before).later (later next (by simp))

/-- While requests are in every window asked about, the stored retries retain the
window of all grants. -/
theorem run_retries_retain (budgetPercent : ℚ) {windowSecs : Nat}
    {calls : List (Instant × BudgetCall)} {now : Instant} (sorted : calls.Pairwise (·.1 ≤ ·.1))
    (later : ∀ call ∈ calls, call.1 ≤ now) (covered : RequestsInWindow windowSecs calls)
    (cutoffs : HaveCutoffs windowSecs calls) :
    Retains (windowSecs : Duration) now ((new budgetPercent windowSecs).run calls).2.state.retries
      (grantTimes ((new budgetPercent windowSecs).run calls).1) := by
  induction calls using List.reverseRecOn generalizing now with
  | nil => exact .refl _ _ _
  | append_singleton calls next ih =>
      obtain ⟨sortedBefore, _, ordered⟩ := List.pairwise_append.mp sorted
      have bounded : ∀ call ∈ calls, call.1 ≤ next.1 :=
        fun call member => ordered call member next (by simp)
      have earlier : HaveCutoffs windowSecs calls := fun call member => cutoffs call (List.mem_append_left _ member)
      have cutoff : HasCutoff windowSecs next := cutoffs next (by simp)
      have before := ih sortedBefore bounded
        (fun earlier time within => covered earlier time (within.trans (List.prefix_append ..))) earlier
      have requests := run_requests_retain budgetPercent windowSecs
        sortedBefore bounded earlier
      have calm := (run_calm_iff budgetPercent windowSecs calls).mpr earlier
      have window : ((new budgetPercent windowSecs).run calls).2.window = windowSecs :=
        (run_settings _ _).2
      have present : next.2 = .allowRetry → recent (windowSecs : Duration) next.1
          ((new budgetPercent windowSecs).run calls).2.state.requests ≠ [] := by
        intro asked
        obtain ⟨request, recorded, inside, _⟩ := covered calls next.1 (by simp [← asked])
        rw [requests next.1 le_rfl]
        exact List.ne_nil_of_mem (mem_recent.mpr ⟨mem_requestTimes.mpr recorded, inside⟩)
      rw [← window] at before present cutoff ⊢
      rw [run_append]
      exact (perform_retries_retain calm cutoff le_rfl present before).later (later next (by simp))

/-!
## The budget over a history
-/

/-- When nothing logged lies in the future, the half-open window is what is recent. -/
private theorem filter_window_eq_recent {window : Duration} {now : Instant} {log : List Instant}
    (later : ∀ time ∈ log, time ≤ now) :
    log.filter (fun time => now - window < time ∧ time ≤ now) = recent window now log := by
  refine List.filter_congr fun time member => ?_
  simp [later time member]

theorem belowBudget_iff {budgetPercent : ℚ} {window : Duration} {earlier : List BudgetEvent}
    {now : Instant} (later : ∀ event ∈ earlier, event.time ≤ now) :
    BelowBudget budgetPercent window earlier now ↔
      ((recent window now (grantTimes earlier)).length : ℤ) <
        ⌈budgetPercent / 100 * (recent window now (requestTimes earlier)).length⌉ := by
  have requests : ∀ time ∈ requestTimes earlier, time ≤ now := by
    intro time member
    obtain ⟨event, present, rfl⟩ := List.mem_map.mp member
    exact later event (List.mem_filter.mp present).1
  have grants : ∀ time ∈ grantTimes earlier, time ≤ now := by
    intro time member
    obtain ⟨event, present, rfl⟩ := List.mem_map.mp member
    exact later event (List.mem_filter.mp present).1
  rw [BelowBudget, filter_window_eq_recent requests, filter_window_eq_recent grants]

theorem keepsBudget_nil (budgetPercent : ℚ) (window : Duration) : KeepsBudget budgetPercent window [] := by
  intro earlier event within
  simp at within

theorem requestsInWindow_nil (window : Duration) : RequestsInWindow window [] := by
  intro earlier now within
  simp at within

theorem keepsBudget_append {budgetPercent : ℚ} {window : Duration} {events : List BudgetEvent}
    {event : BudgetEvent} :
    KeepsBudget budgetPercent window (events ++ [event]) ↔
      KeepsBudget budgetPercent window events ∧ (event.call = .allowRetry → event.returned = true ∧
        (event.granted = true ↔ BelowBudget budgetPercent window events event.time)) := by
  constructor
  · intro keeps
    exact ⟨fun earlier next within => keeps earlier next (within.trans (List.prefix_append ..)),
      keeps events event (List.prefix_refl _)⟩
  · intro both earlier next within
    obtain ⟨keeps, last⟩ := both
    cases List.prefix_concat_iff.mp within with
    | inl same =>
        obtain ⟨rfl, single⟩ := List.append_inj' same rfl
        cases single
        exact last
    | inr within => exact keeps earlier next within

theorem requestsInWindow_append {window : Duration} {calls : List (Instant × BudgetCall)}
    {next : Instant × BudgetCall} :
    RequestsInWindow window (calls ++ [next]) ↔
      RequestsInWindow window calls ∧ (next.2 = .allowRetry →
        ∃ time, (time, .recordRequest) ∈ calls ∧ next.1 - window < time ∧ time ≤ next.1) := by
  constructor
  · intro covered
    refine ⟨fun earlier now within => covered earlier now (within.trans (List.prefix_append ..)), ?_⟩
    rintro asked
    exact covered calls next.1 (by simp [← asked])
  · intro both earlier now within
    obtain ⟨covered, last⟩ := both
    cases List.prefix_concat_iff.mp within with
    | inl same =>
        obtain ⟨rfl, single⟩ := List.append_inj' same rfl
        cases single
        exact last rfl
    | inr within => exact covered earlier now within

theorem haveCutoffs_append {window : Duration} {calls : List (Instant × BudgetCall)} {next : Instant × BudgetCall} :
    HaveCutoffs window (calls ++ [next]) ↔ HaveCutoffs window calls ∧ HasCutoff window next := by
  simp [HaveCutoffs, or_imp, forall_and]

/-- While every call returns and the windows asked about hold requests, a retry is granted
exactly when that keeps the budget and its window holds a request. -/
theorem granted_iff_requested (budgetPercent : ℚ) (windowSecs : Nat) {calls : List (Instant × BudgetCall)}
    {now : Instant} (sorted : calls.Pairwise (·.1 ≤ ·.1)) (bounded : ∀ call ∈ calls, call.1 ≤ now)
    (covered : RequestsInWindow windowSecs calls) (cutoffs : HaveCutoffs windowSecs calls)
    (fits : earliestInstant ≤ now - windowSecs) :
    ((((new budgetPercent windowSecs).run calls).2.perform (now, .allowRetry)).1.granted = true ↔
        BelowBudget budgetPercent windowSecs ((new budgetPercent windowSecs).run calls).1 now) ↔
      ∃ time, (time, .recordRequest) ∈ calls ∧ now - windowSecs < time ∧ time ≤ now := by
  have requests := run_requests_retain budgetPercent windowSecs sorted bounded cutoffs now le_rfl
  have retries := run_retries_retain budgetPercent sorted bounded covered cutoffs now le_rfl
  have settings := run_settings (new budgetPercent windowSecs) calls
  have calm := (run_calm_iff budgetPercent windowSecs calls).mpr cutoffs
  have window : ((new budgetPercent windowSecs).run calls).2.window = windowSecs := settings.2
  rw [perform_allowRetry calm (window ▸ fits), allowSince_granted, belowBudget_iff (event_time_le bounded), settings.1,
    settings.2]
  simp only [new] at requests retries ⊢
  rw [requests, retries]
  constructor
  · intro exact
    by_contra absent
    have empty : recent (windowSecs : Duration) now (requestTimes ((new budgetPercent windowSecs).run calls).1) = [] := by
      refine List.eq_nil_iff_forall_not_mem.mpr fun time member => absent ⟨time, ?_⟩
      obtain ⟨logged, inside⟩ := mem_recent.mp member
      have recorded := mem_requestTimes.mp logged
      exact ⟨recorded, inside, bounded _ recorded⟩
    simp only [new] at empty
    have below := exact.mp (.inl empty)
    simp only [empty, List.length_nil, Nat.cast_zero, mul_zero, Int.ceil_zero] at below
    omega
  · intro requested
    obtain ⟨time, recorded, inside, _⟩ := requested
    have present : recent (windowSecs : Duration) now
        (requestTimes ((new budgetPercent windowSecs).run calls).1) ≠ [] :=
      List.ne_nil_of_mem (mem_recent.mpr ⟨mem_requestTimes.mpr recorded, inside⟩)
    simp only [new] at present
    simp [present]

/-- The budget bounds the grants of every window exactly in those histories that ask
for no retry while the window holds no request or reaches back before the earliest
`Instant`. -/
theorem keepsBudget_iff_requestsInWindow (budgetPercent : ℚ) (windowSecs : Nat)
    {calls : List (Instant × BudgetCall)} (sorted : calls.Pairwise (·.1 ≤ ·.1)) :
    KeepsBudget budgetPercent windowSecs ((new budgetPercent windowSecs).run calls).1 ↔
      RequestsInWindow windowSecs calls ∧ HaveCutoffs windowSecs calls := by
  induction calls using List.reverseRecOn with
  | nil =>
      have none : HaveCutoffs windowSecs [] := fun _ member => absurd member List.not_mem_nil
      exact iff_of_true (keepsBudget_nil _ _) ⟨requestsInWindow_nil _, none⟩
  | append_singleton calls next ih =>
      obtain ⟨sortedBefore, _, ordered⟩ := List.pairwise_append.mp sorted
      have bounded : ∀ call ∈ calls, call.1 ≤ next.1 :=
        fun call member => ordered call member next (by simp)
      rw [run_append, keepsBudget_append, requestsInWindow_append, haveCutoffs_append, and_and_and_comm,
        ih sortedBefore]
      refine and_congr_right fun earlier => ?_
      obtain ⟨covered, cutoffs⟩ := earlier
      have event := perform_event ((new budgetPercent windowSecs).run calls).2 next
      have calm := (run_calm_iff budgetPercent windowSecs calls).mpr cutoffs
      have window : ((new budgetPercent windowSecs).run calls).2.window = windowSecs := (run_settings _ _).2
      rw [event.1, event.2, perform_returned_iff, window]
      obtain ⟨now, call⟩ := next
      cases call with
      | recordRequest => exact iff_of_true nofun ⟨nofun, nofun⟩
      | allowRetry =>
          simp only [calm, HasCutoff, forall_const, true_and]
          rw [and_comm]
          refine and_congr_left fun fits => ?_
          exact granted_iff_requested budgetPercent windowSecs sortedBefore bounded covered cutoffs fits

theorem keepsBudget_iff_requestsInWindow_default :
    KeepsBudget 20 10 ((new 20 10).run [(0, .recordRequest), (1, .allowRetry)]).1 := by
  refine (keepsBudget_iff_requestsInWindow 20 10 (by norm_num)).mpr ⟨?_, ?_⟩
  · rw [← List.singleton_append, Nat.cast_ofNat, requestsInWindow_append, ← List.nil_append [_],
      requestsInWindow_append]
    exact ⟨⟨requestsInWindow_nil _, by simp⟩, fun _ => ⟨0, by simp, by norm_num, by norm_num⟩⟩
  · simp only [HaveCutoffs, List.forall_mem_cons, HasCutoff, earliestInstant]
    norm_num

/-- With a budget of zero, a request whose first attempt outlasts the window is
granted a retry. -/
theorem overdue_retry_exceeds_budget :
    ((new 0 10).run [(0, .recordRequest), (11, .allowRetry)]).1 =
        [⟨0, .recordRequest, true, false⟩, ⟨11, .allowRetry, true, true⟩] ∧
      ¬ KeepsBudget 0 10 ((new 0 10).run [(0, .recordRequest), (11, .allowRetry)]).1 := by
  have events : ((new 0 10).run [(0, .recordRequest), (11, .allowRetry)]).1 =
      [⟨0, .recordRequest, true, false⟩, ⟨11, .allowRetry, true, true⟩] := by decide +kernel
  refine ⟨events, fun keeps => ?_⟩
  rw [events] at keeps
  have granted := keeps [⟨0, .recordRequest, true, false⟩] ⟨11, .allowRetry, true, true⟩ (List.prefix_refl _) rfl
  have below := granted.2.mp rfl
  simp only [BelowBudget, zero_div, zero_mul, Int.ceil_zero] at below
  omega

-- a window of 2^64 - 1 seconds: the first retry asked for panics, and then every call
example : ((new 20 (2 ^ 64 - 1)).run [(0, .recordRequest), (1, .allowRetry), (2, .recordRequest)]).1 =
    [⟨0, .recordRequest, true, false⟩, ⟨1, .allowRetry, false, false⟩, ⟨2, .recordRequest, false, false⟩] := by
  decide +kernel

end RetryBudget

end L7Proxy
