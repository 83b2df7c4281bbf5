import L7Proxy.Primitives
import Mathlib.Algebra.Order.Floor.Ring
import Mathlib.Data.Rat.Floor

/-!
# Retry budget

Tracks the ratio of retries to total requests within a sliding window. The
budget is read as an exact rational. A call that panics answers `none`.
-/

set_option autoImplicit false

namespace L7Proxy

structure BudgetState where
  requests : List Instant
  retries : List Instant
  deriving DecidableEq

/-- The state is behind a lock, which a panic under it poisons. -/
structure RetryBudget where
  state : BudgetState
  poisoned : Bool
  budgetPercent : ℚ
  window : Duration
  deriving DecidableEq

namespace RetryBudget

def new (budgetPercent : ℚ) (windowSecs : Nat) : RetryBudget :=
  ⟨⟨[], []⟩, false, budgetPercent, windowSecs⟩

def recordRequest (budget : RetryBudget) (now : Instant) : Option Unit × RetryBudget :=
  if budget.poisoned then (none, budget)
  else (some (), { budget with state.requests := budget.state.requests ++ [now] })

/-- What `allow_retry` decides from its cutoff. -/
def allowSince (budget : RetryBudget) (cutoff now : Instant) : Bool × RetryBudget :=
  let requests := budget.state.requests.filter (cutoff < ·)
  let retries := budget.state.retries.filter (cutoff < ·)
  let total := requests.length
  if total = 0 then (true, { budget with state := ⟨requests, retries⟩ })
  else
    let maxRetries := ⌈(total : ℚ) * budget.budgetPercent / 100⌉.toNat
    if retries.length < maxRetries then
      (true, { budget with state := ⟨requests, retries ++ [now]⟩ })
    else (false, { budget with state := ⟨requests, retries⟩ })

/-- Check if a retry is allowed, and if so, record it. -/
def allowRetry (budget : RetryBudget) (now : Instant) : Option Bool × RetryBudget :=
  if budget.poisoned then (none, budget)
  else
    match instantSub now budget.window with
    | none => (none, { budget with poisoned := true })
    | some cutoff =>
        let (granted, after) := budget.allowSince cutoff now
        (some granted, after)

section

variable {budget : RetryBudget} {now : Instant}

theorem recordRequest_returns (calm : budget.poisoned = false) : (budget.recordRequest now).1.isSome = true := by
  simp [recordRequest, calm]

theorem allowRetry_returns (calm : budget.poisoned = false) (fits : earliestInstant ≤ now - budget.window) :
    (budget.allowRetry now).1.isSome = true := by
  simp [allowRetry, calm, instantSub_of_le fits]

/-- A call that panics leaves the lock poisoned. -/
theorem recordRequest_panics (panics : (budget.recordRequest now).1.isNone = true) :
    (budget.recordRequest now).2.poisoned = true := by
  unfold recordRequest at panics ⊢
  split
  · next poisoned => exact poisoned
  · next calm => simp [calm] at panics

theorem allowRetry_panics (panics : (budget.allowRetry now).1.isNone = true) :
    (budget.allowRetry now).2.poisoned = true := by
  unfold allowRetry at panics ⊢
  split
  · next poisoned => exact poisoned
  · next calm =>
      split
      · rfl
      · next cutoff fits => simp [calm, fits] at panics

end

end RetryBudget

end L7Proxy
