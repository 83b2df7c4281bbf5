import L7Proxy.RetryBudget.Window

/-!
# What the retry budget stores

Only `allow_retry` drops what has left the window. A budget that is told about
requests and never asked keeps all of them.
-/

set_option autoImplicit false

namespace L7Proxy

open SlidingWindow

namespace RetryBudget

/-- A call on a budget that never drops anything. A retry is recorded when the window
has requests and is below their percentage. -/
def remember (budgetPercent : ℚ) (window : Duration) (log : BudgetState) (next : Instant × BudgetCall) :
    BudgetState :=
  match next.2 with
  | .recordRequest => { log with requests := log.requests ++ [next.1] }
  | .allowRetry =>
      if recent window next.1 log.requests ≠ [] ∧
          ((recent window next.1 log.retries).length : ℤ) <
            ⌈budgetPercent / 100 * (recent window next.1 log.requests).length⌉
        then { log with retries := log.retries ++ [next.1] }
        else log

/-- Every request and every retry recorded during the calls. -/
def memory (budgetPercent : ℚ) (window : Duration) (calls : List (Instant × BudgetCall)) : BudgetState :=
  calls.foldl (remember budgetPercent window) ⟨[], []⟩

def askTimes (calls : List (Instant × BudgetCall)) : List Instant :=
  (calls.filter (·.2 = .allowRetry)).map (·.1)

/-- The logs stored after the calls. -/
def stored (budgetPercent : ℚ) (windowSecs : Nat) (calls : List (Instant × BudgetCall)) : BudgetState :=
  ((new budgetPercent windowSecs).run calls).2.state

/-- The calls with their answers. -/
def answered (budgetPercent : ℚ) (windowSecs : Nat) (calls : List (Instant × BudgetCall)) :
    List BudgetEvent :=
  ((new budgetPercent windowSecs).run calls).1

/-- The logged times of the window that ends now. -/
def inWindow (windowSecs : Nat) (now : Instant) (log : List Instant) : List Instant :=
  log.filter fun time => now - windowSecs < time ∧ time ≤ now

/-- After each call everything stored is in the window, and no more is stored than the
requests and the granted retries of the window. -/
def StoresWindow (budgetPercent : ℚ) (windowSecs : Nat) (calls : List (Instant × BudgetCall)) : Prop :=
  ∀ earlier now call, earlier ++ [(now, call)] <+: calls →
    (∀ time, time ∈ (stored budgetPercent windowSecs (earlier ++ [(now, call)])).requests ∨
        time ∈ (stored budgetPercent windowSecs (earlier ++ [(now, call)])).retries →
      now - windowSecs < time ∧ time ≤ now) ∧
    (stored budgetPercent windowSecs (earlier ++ [(now, call)])).requests.length ≤
      (inWindow windowSecs now
        (requestTimes (answered budgetPercent windowSecs (earlier ++ [(now, call)])))).length ∧
    (stored budgetPercent windowSecs (earlier ++ [(now, call)])).retries.length ≤
      (inWindow windowSecs now
        (grantTimes (answered budgetPercent windowSecs (earlier ++ [(now, call)])))).length

/-- The calls before the first one that panics and leaves the lock poisoned. -/
def returning (window : Duration) (calls : List (Instant × BudgetCall)) : List (Instant × BudgetCall) :=
  calls.takeWhile fun call => decide (HasCutoff window call)

/-- At each call that drops nothing, as it records a request or panics, each earlier request
or recorded retry that has left the window had left it at some earlier `allow_retry` that
returned. -/
def DroppedBeforeRecording (budgetPercent : ℚ) (window : Duration) (calls : List (Instant × BudgetCall)) :
    Prop :=
  ∀ earlier next, earlier ++ [next] <+: calls → (next.2 = .allowRetry → ¬ HaveCutoffs window (earlier ++ [next])) →
    ∀ time, time ∈ (memory budgetPercent window (returning window earlier)).requests ∨
        time ∈ (memory budgetPercent window (returning window earlier)).retries → time ≤ next.1 - window →
      ∃ asked, (asked, .allowRetry) ∈ returning window earlier ∧ time ≤ asked - window

variable {budgetPercent : ℚ} {window : Duration} {windowSecs : Nat} {calls : List (Instant × BudgetCall)}
  {next : Instant × BudgetCall}

theorem memory_append (next : Instant × BudgetCall) :
    memory budgetPercent window (calls ++ [next]) =
      remember budgetPercent window (memory budgetPercent window calls) next := by
  simp [memory]

theorem mem_askTimes {time : Instant} : time ∈ askTimes calls ↔ (time, .allowRetry) ∈ calls := by
  simp [askTimes]

theorem askTimes_le {now : Instant} (past : ∀ call ∈ calls, call.1 ≤ now) :
    ∀ asked ∈ askTimes calls, asked ≤ now :=
  fun _ member => past _ (mem_askTimes.mp member)

/-!
## The stored logs
-/

/-- The budget stores what `allow_retry` calls at the given times left of the log. -/
def Stores (budget : RetryBudget) (asks : List Instant) (log : BudgetState) : Prop :=
  budget.state = ⟨pruned budget.window asks log.requests, pruned budget.window asks log.retries⟩

section

variable {budget : RetryBudget} {asks : List Instant} {log : BudgetState} {now : Instant}

theorem pruned_now (positive : 0 < window) (past : ∀ asked ∈ asks, asked ≤ now) :
    pruned window asks [now] = [now] := by
  apply pruned_eq_self
  intro time member asked asksMember
  rw [List.mem_singleton.mp member]
  linarith [past asked asksMember]

theorem Stores.recordRequest (stores : budget.Stores asks log) (calm : budget.poisoned = false)
    (positive : 0 < budget.window) (past : ∀ asked ∈ asks, asked ≤ now) :
    (budget.perform (now, .recordRequest)).2.Stores asks
      (remember budget.budgetPercent budget.window log (now, .recordRequest)) := by
  rw [Stores] at stores
  simp only [Stores, perform_recordRequest calm, remember, stores, pruned_append, pruned_now positive past]

/-- The stored logs decide a retry as the full ones do. -/
theorem Stores.granted_iff (stores : budget.Stores asks log) (past : ∀ asked ∈ asks, asked ≤ now) :
    (budget.allowSince (now - budget.window) now).1 = true ↔
      recent budget.window now log.requests = [] ∨
        ((recent budget.window now log.retries).length : ℤ) <
          ⌈budget.budgetPercent / 100 * (recent budget.window now log.requests).length⌉ := by
  rw [Stores] at stores
  rw [allowSince_granted, stores, recent_pruned past, recent_pruned past]

theorem Stores.allowRetry (stores : budget.Stores asks log) (calm : budget.poisoned = false)
    (fits : earliestInstant ≤ now - budget.window) (positive : 0 < budget.window)
    (past : ∀ asked ∈ asks, asked ≤ now) :
    (budget.perform (now, .allowRetry)).2.Stores (asks ++ [now])
      (remember budget.budgetPercent budget.window log (now, .allowRetry)) := by
  have granted := stores.granted_iff past
  have itself : recent budget.window now [now] = [now] := by
    simp [recent, positive]
  rw [Stores] at stores
  simp only [Stores, perform_allowRetry calm fits, allowSince_state, stores, recent_pruned past,
    pruned_append_singleton, remember]
  by_cases empty : recent budget.window now log.requests = []
  · simp [empty]
  · simp only [granted, empty, false_or, ne_eq, not_false_eq_true, and_true, true_and]
    split <;> simp [itself]

end

theorem run_stores (budgetPercent : ℚ) (positive : 0 < windowSecs) (sorted : calls.Pairwise (·.1 ≤ ·.1))
    (cutoffs : HaveCutoffs windowSecs calls) :
    ((new budgetPercent windowSecs).run calls).2.Stores (askTimes calls)
      (memory budgetPercent windowSecs calls) := by
  induction calls using List.reverseRecOn with
  | nil => rfl
  | append_singleton calls next ih =>
      obtain ⟨sortedBefore, _, ordered⟩ := List.pairwise_append.mp sorted
      obtain ⟨earlier, cutoff⟩ := haveCutoffs_append.mp cutoffs
      have asks : ∀ asked ∈ askTimes calls, asked ≤ next.1 :=
        askTimes_le fun call member => ordered call member next (by simp)
      have settings := run_settings (new budgetPercent windowSecs) calls
      have calm := (run_calm_iff budgetPercent windowSecs calls).mpr earlier
      have width : 0 < ((new budgetPercent windowSecs).run calls).2.window := by
        rw [settings.2]
        exact Nat.cast_pos.mpr positive
      rw [run_append, memory_append]
      obtain ⟨now, call⟩ := next
      cases call with
      | recordRequest =>
          have same : askTimes (calls ++ [(now, .recordRequest)]) = askTimes calls := by simp [askTimes]
          have recorded := (ih sortedBefore earlier).recordRequest calm width asks
          rw [settings.1, settings.2] at recorded
          rw [same]
          exact recorded
      | allowRetry =>
          have more : askTimes (calls ++ [(now, .allowRetry)]) = askTimes calls ++ [now] := by simp [askTimes]
          have fits : earliestInstant ≤ now - ((new budgetPercent windowSecs).run calls).2.window := by
            rw [settings.2]
            exact cutoff rfl
          have asked := (ih sortedBefore earlier).allowRetry calm fits width asks
          rw [settings.1, settings.2] at asked
          rw [more]
          exact asked

/-!
## Calls that panic
-/

theorem prefix_returning (window : Duration) (calls : List (Instant × BudgetCall)) :
    returning window calls <+: calls :=
  List.takeWhile_prefix _

theorem returning_cutoffs (window : Duration) (calls : List (Instant × BudgetCall)) :
    HaveCutoffs window (returning window calls) :=
  fun _ member => of_decide_eq_true (List.mem_takeWhile_imp (p := fun call => decide (HasCutoff window call)) member)

theorem returning_eq_self (cutoffs : HaveCutoffs window calls) : returning window calls = calls :=
  List.takeWhile_eq_self_iff.mpr fun call member => decide_eq_true (cutoffs call member)

/-- A call that panics adds nothing to those that return. -/
theorem returning_concat (panics : ¬ HaveCutoffs window (calls ++ [next])) :
    returning window (calls ++ [next]) = returning window calls := by
  unfold returning
  by_cases earlier : HaveCutoffs window calls
  · have cutoff : ¬ HasCutoff window next := fun cutoff => panics (haveCutoffs_append.mpr ⟨earlier, cutoff⟩)
    have kept := returning_eq_self earlier
    rw [returning] at kept
    rw [List.takeWhile_append_of_pos fun call member => decide_eq_true (earlier call member), kept]
    simp [cutoff]
  · rw [List.takeWhile_append, if_neg]
    intro whole
    have same := (prefix_returning window calls).eq_of_length whole
    exact earlier (same ▸ returning_cutoffs window calls)

theorem stored_concat_of_panics (panics : ¬ HaveCutoffs windowSecs (calls ++ [next])) :
    stored budgetPercent windowSecs (calls ++ [next]) = stored budgetPercent windowSecs calls := by
  unfold stored
  rw [run_append]
  by_cases poisoned : ((new budgetPercent windowSecs).run calls).2.poisoned = true
  · rw [perform_poisoned poisoned]
  · have calm := Bool.eq_false_iff.mpr poisoned
    have window : ((new budgetPercent windowSecs).run calls).2.window = windowSecs := (run_settings _ _).2
    have cutoff : ¬ HasCutoff ((new budgetPercent windowSecs).run calls).2.window next := by
      rw [window]
      exact fun cutoff => panics (haveCutoffs_append.mpr ⟨(run_calm_iff _ _ _).mp calm, cutoff⟩)
    rw [perform_panics calm cutoff]

/-- What is stored is what the calls that return stored. -/
theorem stored_returning (budgetPercent : ℚ) (windowSecs : Nat) (calls : List (Instant × BudgetCall)) :
    stored budgetPercent windowSecs calls = stored budgetPercent windowSecs (returning windowSecs calls) := by
  induction calls using List.reverseRecOn with
  | nil => rfl
  | append_singleton calls next ih =>
      by_cases cutoffs : HaveCutoffs windowSecs (calls ++ [next])
      · rw [returning_eq_self cutoffs]
      · rw [stored_concat_of_panics cutoffs, returning_concat cutoffs, ih]

/-!
## What is recorded
-/

theorem memory_requests :
    (memory budgetPercent window calls).requests = (calls.filter (·.2 = .recordRequest)).map (·.1) := by
  induction calls using List.reverseRecOn with
  | nil => rfl
  | append_singleton calls next ih =>
      obtain ⟨now, call⟩ := next
      rw [memory_append]
      cases call with
      | recordRequest => simp [remember, ih]
      | allowRetry =>
          have same : (remember budgetPercent window (memory budgetPercent window calls)
              (now, .allowRetry)).requests = (memory budgetPercent window calls).requests := by
            simp only [remember]
            split <;> rfl
          simp [same, ih]

/-- Every recorded retry was granted. -/
theorem memory_retries_sublist (budgetPercent : ℚ) (positive : 0 < windowSecs)
    (sorted : calls.Pairwise (·.1 ≤ ·.1)) (cutoffs : HaveCutoffs windowSecs calls) :
    (memory budgetPercent windowSecs calls).retries.Sublist
      (grantTimes ((new budgetPercent windowSecs).run calls).1) := by
  induction calls using List.reverseRecOn with
  | nil => exact .slnil
  | append_singleton calls next ih =>
      obtain ⟨sortedBefore, _, ordered⟩ := List.pairwise_append.mp sorted
      obtain ⟨before, cutoff⟩ := haveCutoffs_append.mp cutoffs
      have earlier := ih sortedBefore before
      have calm := (run_calm_iff budgetPercent windowSecs calls).mpr before
      obtain ⟨now, call⟩ := next
      rw [memory_append, run_append]
      cases call with
      | recordRequest => simpa [remember, perform_recordRequest calm, grantTimes] using earlier
      | allowRetry =>
          have settings := run_settings (new budgetPercent windowSecs) calls
          have fits : earliestInstant ≤ now - ((new budgetPercent windowSecs).run calls).2.window := by
            rw [settings.2]
            exact cutoff rfl
          have granted := (run_stores budgetPercent positive sortedBefore before).granted_iff
            (askTimes_le fun call member => ordered call member (now, .allowRetry) (by simp))
          rw [perform_allowRetry calm fits]
          generalize ((new budgetPercent windowSecs).run calls).2.allowSince _ now = answer at granted ⊢
          rw [settings.1, settings.2] at granted
          simp only [remember]
          split
          · next recorded =>
              have answered := granted.mpr (.inr recorded.2)
              simpa [grantTimes, answered] using earlier.append (List.Sublist.refl [now])
          · refine earlier.trans ?_
            simp [grantTimes]

theorem mem_memory_requests {time : Instant} :
    time ∈ (memory budgetPercent window calls).requests ↔ (time, .recordRequest) ∈ calls := by
  simp [memory_requests]

theorem mem_memory_retries {time : Instant} (member : time ∈ (memory budgetPercent window calls).retries) :
    (time, .allowRetry) ∈ calls := by
  induction calls using List.reverseRecOn with
  | nil => cases member
  | append_singleton calls next ih =>
      obtain ⟨now, call⟩ := next
      rw [memory_append] at member
      cases call with
      | recordRequest => exact List.mem_append_left _ (ih member)
      | allowRetry =>
          simp only [remember] at member
          split at member
          · rcases List.mem_append.mp member with old | new
            · exact List.mem_append_left _ (ih old)
            · rw [List.mem_singleton.mp new]
              simp
          · exact List.mem_append_left _ (ih member)

theorem memory_le {now time : Instant} (past : ∀ call ∈ calls, call.1 ≤ now)
    (member : time ∈ (memory budgetPercent window calls).requests ∨
      time ∈ (memory budgetPercent window calls).retries) : time ≤ now := by
  rcases member with request | retry
  · exact past _ (mem_memory_requests.mp request)
  · exact past _ (mem_memory_retries retry)

/-!
## What stays in the window
-/

theorem stored_eq (positive : 0 < windowSecs) (sorted : calls.Pairwise (·.1 ≤ ·.1))
    (cutoffs : HaveCutoffs windowSecs calls) :
    stored budgetPercent windowSecs calls =
      ⟨pruned (windowSecs : Duration) (askTimes calls) (memory budgetPercent windowSecs calls).requests,
        pruned (windowSecs : Duration) (askTimes calls) (memory budgetPercent windowSecs calls).retries⟩ := by
  have stores := run_stores budgetPercent positive sorted cutoffs
  rw [Stores, (run_settings (new budgetPercent windowSecs) calls).2] at stores
  exact stores

/-- What is stored is what was recorded and has not been found out of the window. -/
theorem mem_stored_iff (positive : 0 < windowSecs) (sorted : calls.Pairwise (·.1 ≤ ·.1)) {time : Instant} :
    (time ∈ (stored budgetPercent windowSecs calls).requests ∨
        time ∈ (stored budgetPercent windowSecs calls).retries) ↔
      (time ∈ (memory budgetPercent windowSecs (returning windowSecs calls)).requests ∨
        time ∈ (memory budgetPercent windowSecs (returning windowSecs calls)).retries) ∧
        ∀ asked, (asked, .allowRetry) ∈ returning windowSecs calls → asked - windowSecs < time := by
  have sortedReturning := sorted.sublist (prefix_returning (windowSecs : Duration) calls).sublist
  rw [stored_returning, stored_eq positive sortedReturning (returning_cutoffs _ _)]
  simp only [mem_pruned, mem_askTimes, or_and_right]

private theorem length_le_of_inside {windowSecs : Nat} {now : Instant} {kept full : List Instant}
    (sub : kept.Sublist full) (inside : ∀ time ∈ kept, now - windowSecs < time ∧ time ≤ now) :
    kept.length ≤ (inWindow windowSecs now full).length := by
  have same : inWindow windowSecs now kept = kept := by
    rw [inWindow, List.filter_eq_self]
    intro time member
    simpa using inside time member
  rw [← same]
  exact (sub.filter _).length_le

/-- Everything stored was requested, or granted as a retry. -/
theorem stored_sublist (positive : 0 < windowSecs) (sorted : calls.Pairwise (·.1 ≤ ·.1)) :
    (stored budgetPercent windowSecs calls).requests.Sublist (requestTimes (answered budgetPercent windowSecs calls)) ∧
      (stored budgetPercent windowSecs calls).retries.Sublist (grantTimes (answered budgetPercent windowSecs calls)) := by
  have within := prefix_returning (windowSecs : Duration) calls
  have sortedReturning := sorted.sublist within.sublist
  have cutoffs := returning_cutoffs (windowSecs : Duration) calls
  have events := (prefix_run_events (new budgetPercent windowSecs) within).sublist
  rw [stored_returning, stored_eq positive sortedReturning cutoffs, answered]
  constructor
  · refine pruned_sublist.trans ?_
    rw [memory_requests, requestTimes_run]
    exact (within.sublist.filter _).map _
  · refine pruned_sublist.trans ((memory_retries_sublist budgetPercent positive sortedReturning cutoffs).trans ?_)
    exact (events.filter _).map _

/-- What a call that drops nothing leaves in the window was in it or had been dropped. -/
theorem inside_iff_dropped (positive : 0 < windowSecs) {earlier : List (Instant × BudgetCall)}
    (sorted : (earlier ++ [next]).Pairwise (·.1 ≤ ·.1))
    (keeps : next.2 = .allowRetry → ¬ HaveCutoffs windowSecs (earlier ++ [next])) :
    (∀ time, time ∈ (stored budgetPercent windowSecs (earlier ++ [next])).requests ∨
        time ∈ (stored budgetPercent windowSecs (earlier ++ [next])).retries → next.1 - windowSecs < time) ↔
      ∀ time, time ∈ (memory budgetPercent windowSecs (returning windowSecs earlier)).requests ∨
          time ∈ (memory budgetPercent windowSecs (returning windowSecs earlier)).retries →
        time ≤ next.1 - windowSecs →
        ∃ asked, (asked, .allowRetry) ∈ returning windowSecs earlier ∧ time ≤ asked - windowSecs := by
  have sortedBefore := (List.pairwise_append.mp sorted).1
  have before : (∀ time, time ∈ (stored budgetPercent windowSecs earlier).requests ∨
      time ∈ (stored budgetPercent windowSecs earlier).retries → next.1 - windowSecs < time) ↔
      ∀ time, time ∈ (memory budgetPercent windowSecs (returning windowSecs earlier)).requests ∨
          time ∈ (memory budgetPercent windowSecs (returning windowSecs earlier)).retries →
        time ≤ next.1 - windowSecs →
        ∃ asked, (asked, .allowRetry) ∈ returning windowSecs earlier ∧ time ≤ asked - windowSecs := by
    refine forall_congr' fun time => ?_
    rw [mem_stored_iff positive sortedBefore, and_imp]
    refine imp_congr_right fun recorded => ?_
    rw [← not_imp_not, not_lt]
    simp
  rw [← before]
  by_cases cutoffs : HaveCutoffs windowSecs (earlier ++ [next])
  · obtain ⟨now, call⟩ := next
    cases call with
    | allowRetry => exact absurd cutoffs (keeps rfl)
    | recordRequest =>
        have calm := (run_calm_iff budgetPercent windowSecs earlier).mpr (haveCutoffs_append.mp cutoffs).1
        have width : (0 : ℚ) < windowSecs := Nat.cast_pos.mpr positive
        simp only [stored, run_append, perform_recordRequest calm, List.mem_append, List.mem_singleton]
        refine forall_congr' fun time => ?_
        constructor
        · intro inside member
          exact inside (member.imp_left .inl)
        · intro inside member
          rcases member with (request | same) | retry
          · exact inside (.inl request)
          · rw [same]
            exact sub_lt_self now width
          · exact inside (.inr retry)
  · rw [stored_concat_of_panics cutoffs]

/-- Everything stored stays in the window exactly when no call that drops nothing is made
while something that has left the window was not dropped. -/
theorem storesWindow_iff_dropped (budgetPercent : ℚ) (positive : 0 < windowSecs)
    (sorted : calls.Pairwise (·.1 ≤ ·.1)) :
    StoresWindow budgetPercent windowSecs calls ↔ DroppedBeforeRecording budgetPercent windowSecs calls := by
  constructor
  · intro keeps earlier next within drops
    refine (inside_iff_dropped positive (sorted.sublist within.sublist) drops).mp fun time member => ?_
    exact ((keeps earlier next.1 next.2 within).1 time member).1
  · intro dropped earlier now call within
    have sortedRun := sorted.sublist within.sublist
    have past : ∀ other ∈ earlier ++ [(now, call)], other.1 ≤ now := by
      intro other present
      rcases List.mem_append.mp present with old | new
      · exact (List.pairwise_append.mp sortedRun).2.2 other old (now, call) (by simp)
      · rw [List.mem_singleton.mp new]
    have stored_le : ∀ time, time ∈ (stored budgetPercent windowSecs (earlier ++ [(now, call)])).requests ∨
        time ∈ (stored budgetPercent windowSecs (earlier ++ [(now, call)])).retries → time ≤ now := by
      intro time member
      refine memory_le (fun other present => ?_) ((mem_stored_iff positive sortedRun).mp member).1
      exact past other ((prefix_returning _ _).subset present)
    have recent : ∀ time, time ∈ (stored budgetPercent windowSecs (earlier ++ [(now, call)])).requests ∨
        time ∈ (stored budgetPercent windowSecs (earlier ++ [(now, call)])).retries → now - windowSecs < time := by
      by_cases drops : call = .allowRetry ∧ HaveCutoffs windowSecs (earlier ++ [(now, call)])
      · intro time member
        have unpruned := ((mem_stored_iff positive sortedRun).mp member).2
        rw [returning_eq_self drops.2, drops.1] at unpruned
        exact unpruned now (by simp)
      · have keeps : call = .allowRetry → ¬ HaveCutoffs windowSecs (earlier ++ [(now, call)]) :=
          fun asked cutoffs => drops ⟨asked, cutoffs⟩
        exact (inside_iff_dropped positive sortedRun keeps).mpr (dropped earlier (now, call) within keeps)
    have inside := fun time member => And.intro (recent time member) (stored_le time member)
    obtain ⟨requests, retries⟩ := @stored_sublist budgetPercent _ _ positive sortedRun
    exact ⟨inside, length_le_of_inside requests fun time member => inside time (.inl member),
      length_le_of_inside retries fun time member => inside time (.inr member)⟩

theorem storesWindow_iff_dropped_default :
    StoresWindow 20 10 [(0, .recordRequest), (10, .allowRetry), (10, .recordRequest)] ↔
      DroppedBeforeRecording 20 (10 : Nat) [(0, .recordRequest), (10, .allowRetry), (10, .recordRequest)] :=
  storesWindow_iff_dropped 20 (by decide) (by norm_num)

/-- While no retry is asked for, the budget keeps every request it was ever told. -/
theorem stored_unasked (budgetPercent : ℚ) (windowSecs : Nat) (times : List Instant) :
    (stored budgetPercent windowSecs (times.map (·, .recordRequest))).requests = times := by
  induction times using List.reverseRecOn with
  | nil => rfl
  | append_singleton times time ih =>
      have cutoffs : HaveCutoffs windowSecs (times.map (·, .recordRequest)) := by simp [HaveCutoffs, HasCutoff]
      have calm := (run_calm_iff budgetPercent windowSecs _).mpr cutoffs
      rw [List.map_append, List.map_singleton, stored, run_append, perform_recordRequest calm]
      exact congrArg (· ++ [time]) ih

/-- Two requests a whole window apart: the first stays stored. -/
theorem old_request_stays_stored :
    stored 20 10 [(0, .recordRequest), (10, .recordRequest)] = ⟨[0, 10], []⟩ ∧
      ¬ StoresWindow 20 10 [(0, .recordRequest), (10, .recordRequest)] := by
  refine ⟨rfl, fun keeps => ?_⟩
  have inside := (keeps [(0, .recordRequest)] 10 .recordRequest (List.prefix_refl _)).1 0 (.inl (by
    exact List.mem_cons_self))
  norm_num at inside

end RetryBudget

end L7Proxy
