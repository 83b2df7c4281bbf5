import Mathlib.Algebra.Order.Ring.Defs
import Mathlib.Algebra.Order.Ring.Basic
import Mathlib.Tactic.Linarith

/-!
# Levels of a token bucket

The level a bucket reaches when it refills at a constant rate and overflows at
its capacity, and the draws that such levels allow.
-/

set_option autoImplicit false

namespace TokenLevel

variable {K : Type} [CommRing K] [LinearOrder K]

/-- The level after some time, from a level at its start. -/
def refilled (capacity rate level elapsed : K) : K := min (level + elapsed * rate) capacity

variable {capacity rate level elapsed : K}

@[simp] theorem refilled_zero (within : level ≤ capacity) :
    refilled capacity rate level 0 = level := by
  simp [refilled, within]

variable [IsStrictOrderedRing K]

theorem refilled_nonneg (full : 0 ≤ capacity) (refills : 0 ≤ rate) (holds : 0 ≤ level)
    (passed : 0 ≤ elapsed) : 0 ≤ refilled capacity rate level elapsed :=
  le_min (add_nonneg holds (mul_nonneg passed refills)) full

/-- A bucket idle for long enough is full, whatever it held. -/
theorem refilled_eq_capacity (holds : 0 ≤ level) (idle : capacity ≤ elapsed * rate) :
    refilled capacity rate level elapsed = capacity :=
  min_eq_right (by linarith)

/-- Refilling in between changes nothing, even when it overflows. -/
theorem refilled_refilled {later : K} (refills : 0 ≤ rate) (passed : 0 ≤ later) :
    refilled capacity rate (refilled capacity rate level elapsed) later =
      refilled capacity rate level (elapsed + later) := by
  have gained := mul_nonneg passed refills
  unfold refilled
  rcases le_total (level + elapsed * rate) capacity with below | above
  · rw [min_eq_left below, add_mul, add_assoc]
  · rw [min_eq_right above, min_eq_right (by linarith), min_eq_right (by linarith)]

/-!
## Allowed draws
-/

/-- After draws at given times an amount fits the capacity, and together with all
draws from any of them on it fits the capacity and what has been refilled since. -/
def Allows (capacity rate : K) (draws : List (K × K)) (now amount : K) : Prop :=
  amount ≤ capacity ∧ ∀ i draw, draws[i]? = some draw →
    amount + ((draws.drop i).map (·.2)).sum ≤ capacity + rate * (now - draw.1)

variable {draws : List (K × K)} {now time drawn amount : K}

theorem allows_snoc :
    Allows capacity rate (draws ++ [(time, drawn)]) now amount ↔
      amount ≤ capacity ∧ Allows capacity rate draws time (amount + drawn - rate * (now - time)) := by
  unfold Allows
  refine and_congr_right fun _ => ?_
  constructor
  · intro allowed
    constructor
    · have last := allowed draws.length (time, drawn) (by simp)
      simp only [List.drop_left', List.map_cons, List.map_nil, List.sum_cons, List.sum_nil] at last
      linarith
    · intro i draw stored
      have inside := (List.getElem?_eq_some_iff.mp stored).1
      have since := allowed i draw (by rw [List.getElem?_append_left inside, stored])
      rw [List.drop_append_of_le_length inside.le] at since
      simp only [List.map_append, List.map_cons, List.map_nil, List.sum_append, List.sum_cons,
        List.sum_nil] at since
      linarith
  · intro allowed i draw stored
    rcases Nat.lt_or_ge i draws.length with inside | beyond
    · rw [List.getElem?_append_left inside] at stored
      have since := allowed.2 i draw stored
      rw [List.drop_append_of_le_length inside.le]
      simp only [List.map_append, List.map_cons, List.map_nil, List.sum_append, List.sum_cons,
        List.sum_nil]
      linarith
    · obtain rfl : i = draws.length := by
        have := (List.getElem?_eq_some_iff.mp stored).1
        simp only [List.length_append, List.length_singleton] at this
        omega
      simp only [List.getElem?_concat_length, Option.some.injEq] at stored
      subst stored
      have last := allowed.1
      simp only [List.drop_left', List.map_cons, List.map_nil, List.sum_cons, List.sum_nil]
      linarith

/-- A level that holds exactly what is allowed still does after one more draw and a
refill. -/
theorem le_refilled_iff_allows (holds : ∀ amount, amount ≤ level ↔ Allows capacity rate draws time amount) :
    amount ≤ refilled capacity rate (level - drawn) (now - time) ↔
      Allows capacity rate (draws ++ [(time, drawn)]) now amount := by
  rw [allows_snoc, ← holds, refilled, le_min_iff, and_comm]
  refine and_congr_right fun _ => ?_
  constructor <;> intro fits <;> linarith

end TokenLevel
