import Mathlib.Data.List.Count
import Mathlib.Data.List.Rotate

/-!
# Cyclic schedules

Reading a list over and over, from any place: as many consecutive reads as the list
is long give its entries in some rotation.
-/

set_option autoImplicit false

namespace CyclicSchedule

variable {α : Type}

/-- The reads at consecutive places of the endlessly repeated list. -/
def reads (schedule : List α) (start count : Nat) : List (Option α) :=
  (List.range count).map fun step => schedule[(start + step) % schedule.length]?

theorem reads_succ (schedule : List α) (start count : Nat) :
    reads schedule start (count + 1) =
      schedule[start % schedule.length]? :: reads schedule (start + 1) count := by
  simp only [reads, List.range_succ_eq_map, List.map_cons, List.map_map, Nat.add_zero]
  refine congrArg _ (List.map_congr_left fun step _ => ?_)
  simp only [Function.comp_apply, Nat.succ_eq_add_one, Nat.add_assoc, Nat.add_comm step 1]

theorem window_reads {schedule : List α} {start count first width : Nat} (inside : first + width ≤ count) :
    ((reads schedule start count).drop first).take width = reads schedule (start + first) width := by
  refine List.ext_getElem? fun step => ?_
  by_cases below : step < width
  · simp [reads, below, show first + step < count by omega, Nat.add_assoc]
  · have past := Nat.le_of_not_lt below
    rw [List.getElem?_eq_none ((List.length_take_le _ _).trans past), List.getElem?_eq_none]
    simpa [reads] using past

theorem reads_eq_rotate (schedule : List α) (start : Nat) :
    reads schedule start schedule.length = (schedule.rotate start).map some := by
  refine List.ext_getElem? fun step => ?_
  by_cases below : step < schedule.length
  · have turn := Nat.mod_lt (start + step) (Nat.zero_lt_of_lt below)
    simp [reads, below, Nat.add_comm step start, turn]
  · simp [reads, below]

variable [DecidableEq α]

/-- Over one round the entries are read as often as they occur. -/
theorem count_reads (schedule : List α) (start : Nat) (entry : α) :
    (reads schedule start schedule.length).count (some entry) = schedule.count entry := by
  rw [reads_eq_rotate, List.count_map_of_injective _ _ fun _ _ => Option.some.inj]
  exact (schedule.rotate_perm start).count_eq entry

end CyclicSchedule
