import Mathlib.Algebra.Order.Group.Defs
import Mathlib.Data.List.Induction
import Mathlib.Order.Basic
import Mathlib.Tactic.Common

/-!
# Circuit breakers by failure history

A breaker per key trips when enough failures have been reported since its last
reset, stays tripped until a cooldown after the latest of them, and is reset by a
success or by the first query that finds the cooldown over. Here the whole list
of failures is kept, so this says what a counting implementation is for.
-/

set_option autoImplicit false

namespace CircuitBreaker

variable {Key Time : Type}

inductive Call (Key : Type) where
  | failure (key : Key)
  | success (key : Key)
  | query (key : Key)
  deriving DecidableEq

def Call.key : Call Key → Key
  | .failure key => key
  | .success key => key
  | .query key => key

structure Policy (Time : Type) where
  bound : Nat
  cooldown : Time

section

variable [LinearOrder Time] [Sub Time]

/-- Enough failures since the reset, and the cooldown after the latest is not over.
Failure times are listed latest first. -/
def Policy.Tripped (policy : Policy Time) (failures : List Time) (now : Time) : Prop :=
  policy.bound ≤ failures.length ∧ ∃ latest ∈ failures.head?, now - latest < policy.cooldown

/-- Enough failures since the reset, and the cooldown after the latest is over. -/
def Policy.Expired (policy : Policy Time) (failures : List Time) (now : Time) : Prop :=
  policy.bound ≤ failures.length ∧ ∃ latest ∈ failures.head?, policy.cooldown ≤ now - latest

instance (policy : Policy Time) (failures : List Time) (now : Time) :
    Decidable (policy.Tripped failures now) := by
  unfold Policy.Tripped; infer_instance

instance (policy : Policy Time) (failures : List Time) (now : Time) :
    Decidable (policy.Expired failures now) := by
  unfold Policy.Expired; infer_instance

def Policy.record [DecidableEq Key] (policy : Policy Time) (key : Key) (failures : List Time)
    (call : Time × Call Key) : List Time :=
  if call.2.key = key then
    match call.2 with
    | .failure _ => call.1 :: failures
    | .success _ => []
    | .query _ => if policy.Expired failures call.1 then [] else failures
  else failures

/-- The failures of a key since its last reset, latest first. -/
def Policy.failuresSince [DecidableEq Key] (policy : Policy Time) (key : Key)
    (calls : List (Time × Call Key)) : List Time :=
  calls.foldl (policy.record key) []

end

section

variable [LinearOrder Time] [Sub Time] [DecidableEq Key] {policy : Policy Time} {key : Key}

@[simp] theorem failuresSince_nil : policy.failuresSince key [] = [] := rfl

@[simp] theorem failuresSince_append (calls : List (Time × Call Key)) (call : Time × Call Key) :
    policy.failuresSince key (calls ++ [call]) =
      policy.record key (policy.failuresSince key calls) call := by
  simp [Policy.failuresSince]

theorem failuresSince_filter (calls : List (Time × Call Key)) :
    policy.failuresSince key (calls.filter fun call => call.2.key = key) =
      policy.failuresSince key calls := by
  induction calls using List.reverseRecOn with
  | nil => rfl
  | append_singleton calls call ih =>
      rw [List.filter_append, failuresSince_append]
      by_cases same : call.2.key = key
      · simp [same, ih]
      · simp [same, ih, Policy.record]

theorem failuresSince_subset (calls : List (Time × Call Key)) :
    ∀ time ∈ policy.failuresSince key calls, ∃ call ∈ calls, call.1 = time := by
  induction calls using List.reverseRecOn with
  | nil => simp
  | append_singleton calls call ih =>
      intro time member
      rw [failuresSince_append, Policy.record] at member
      have earlier : time ∈ policy.failuresSince key calls → ∃ call' ∈ calls ++ [call], call'.1 = time := by
        intro previous
        obtain ⟨call', present, same⟩ := ih time previous
        exact ⟨call', List.mem_append_left _ present, same⟩
      split at member
      · split at member
        · rcases List.mem_cons.mp member with rfl | previous
          · exact ⟨call, by simp, rfl⟩
          · exact earlier previous
        · simp at member
        · split at member
          · simp at member
          · exact earlier member
      · exact earlier member

theorem failuresSince_le {calls : List (Time × Call Key)} {now : Time}
    (later : ∀ call ∈ calls, call.1 ≤ now) : ∀ time ∈ policy.failuresSince key calls, time ≤ now := by
  intro time member
  obtain ⟨call, present, rfl⟩ := failuresSince_subset calls time member
  exact later call present

/-- The reports on a key are no later than the latest failure that counts. -/
theorem report_le_latest {calls : List (Time × Call Key)} (sorted : calls.Pairwise (·.1 ≤ ·.1)) {latest : Time}
    (counted : latest ∈ (policy.failuresSince key calls).head?) {report : Time × Call Key}
    (member : report ∈ calls) (about : report.2 = .failure key ∨ report.2 = .success key) : report.1 ≤ latest := by
  induction calls using List.reverseRecOn generalizing latest with
  | nil => cases member
  | append_singleton calls call ih =>
      obtain ⟨sortedBefore, _, ordered⟩ := List.pairwise_append.mp sorted
      have last : report ∈ calls → report.1 ≤ call.1 := fun present => ordered report present call (by simp)
      rw [failuresSince_append, Policy.record] at counted
      split at counted
      · next same =>
          split at counted
          · cases counted
            rcases List.mem_append.mp member with earlier | here
            · exact last earlier
            · rw [List.mem_singleton.mp here]
          · cases counted
          · next queried =>
              split at counted
              · cases counted
              · rcases List.mem_append.mp member with earlier | here
                · exact ih sortedBefore counted earlier
                · rw [List.mem_singleton.mp here, queried] at about
                  rcases about with about | about <;> cases about
      · next apart =>
          rcases List.mem_append.mp member with earlier | here
          · exact ih sortedBefore counted earlier
          · rw [← List.mem_singleton.mp here] at apart
            rcases about with about | about <;> exact absurd (by rw [about]; rfl) apart

/-!
## Without a cooldown
-/

omit [LinearOrder Time] [Sub Time] in
/-- The failures of a key since its last success, latest first. -/
def failuresInRow (key : Key) (calls : List (Time × Call Key)) : List Time :=
  calls.foldl (fun failures call =>
    match call.2 with
    | .failure name => if name = key then call.1 :: failures else failures
    | .success name => if name = key then [] else failures
    | .query _ => failures) []

/-- When no query finds the cooldown over, only a success resets the failures. -/
theorem failuresSince_concat_eq {calls : List (Time × Call Key)} {call : Time × Call Key}
    (same : policy.failuresSince key calls = failuresInRow key calls)
    (unexpired : call.2 = .query key → ¬ policy.Expired (policy.failuresSince key calls) call.1) :
    policy.failuresSince key (calls ++ [call]) = failuresInRow key (calls ++ [call]) := by
  rw [failuresSince_append, failuresInRow, List.foldl_append, ← failuresInRow, ← same, Policy.record]
  obtain ⟨time, call⟩ := call
  cases call with
  | failure name | success name => by_cases here : name = key <;> simp [Call.key, here]
  | query name =>
      by_cases here : name = key
      · subst here
        simp [Call.key, if_neg (unexpired rfl)]
      · simp [Call.key, here]

end

end CircuitBreaker
