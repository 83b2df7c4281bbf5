import Mathlib.Algebra.Order.Group.Defs
import Mathlib.Tactic.Common

/-!
# Sliding windows over logs of times

The entries of a log that are younger than the window, and what it takes for a
pruned log to answer every later question about the window as the full log does.
-/

set_option autoImplicit false

namespace SlidingWindow

variable {Time : Type} [AddCommGroup Time] [LinearOrder Time]

/-- The logged times that are younger than the window at the given time. -/
def recent (window now : Time) (log : List Time) : List Time :=
  log.filter (now - window < ·)

/-- From some time on, the kept log has the window contents of the full log. -/
def Retains (window since : Time) (kept full : List Time) : Prop :=
  ∀ now, since ≤ now → recent window now kept = recent window now full

variable {window now earlier since : Time} {log kept full : List Time}

@[simp] theorem recent_append (left right : List Time) :
    recent window now (left ++ right) = recent window now left ++ recent window now right :=
  List.filter_append ..

theorem mem_recent {time : Time} :
    time ∈ recent window now log ↔ time ∈ log ∧ now - window < time := by
  simp [recent]

theorem Retains.refl (window since : Time) (log : List Time) : Retains window since log log :=
  fun _ _ => rfl

theorem Retains.later (retains : Retains window since kept full) (ordered : since ≤ now) :
    Retains window now kept full :=
  fun time after => retains time (ordered.trans after)

theorem Retains.push (retains : Retains window since kept full) (time : Time) :
    Retains window since (kept ++ [time]) (full ++ [time]) := by
  intro now after
  rw [recent_append, recent_append, retains now after]

/-!
## Logs pruned now and then
-/

/-- What is left of a log after all that is out of the window was dropped at the given
times. -/
def pruned (window : Time) (prunes log : List Time) : List Time :=
  log.filter fun time => ∀ prune ∈ prunes, prune - window < time

variable {prunes : List Time}

theorem mem_pruned {time : Time} :
    time ∈ pruned window prunes log ↔ time ∈ log ∧ ∀ prune ∈ prunes, prune - window < time := by
  simp [pruned]

@[simp] theorem pruned_append (left right : List Time) :
    pruned window prunes (left ++ right) = pruned window prunes left ++ pruned window prunes right :=
  List.filter_append ..

theorem pruned_sublist : (pruned window prunes log).Sublist log := List.filter_sublist

theorem pruned_append_singleton (now : Time) :
    pruned window (prunes ++ [now]) log = recent window now (pruned window prunes log) := by
  simp only [pruned, recent, List.filter_filter]
  refine List.filter_congr fun time _ => ?_
  simp [or_imp, forall_and, and_comm]

theorem pruned_eq_self (kept : ∀ time ∈ log, ∀ prune ∈ prunes, prune - window < time) :
    pruned window prunes log = log := by
  rw [pruned, List.filter_eq_self]
  intro time member
  simpa using kept time member

/-!
## Later questions
-/

variable [IsOrderedAddMonoid Time]

theorem recent_recent (ordered : earlier ≤ now) :
    recent window now (recent window earlier log) = recent window now log := by
  simp only [recent, List.filter_filter]
  refine List.filter_congr fun time _ => ?_
  have older : now - window < time → earlier - window < time :=
    lt_of_le_of_lt (sub_le_sub_right ordered window)
  simpa using older

/-- Dropping what is out of the window loses nothing a later question asks for. -/
theorem Retains.prune (retains : Retains window since kept full) (ordered : since ≤ now) :
    Retains window now (recent window now kept) full := by
  intro time after
  rw [recent_recent after, retains time (ordered.trans after)]

/-- Earlier pruning drops nothing that is still in the window. -/
theorem recent_pruned (past : ∀ prune ∈ prunes, prune ≤ now) :
    recent window now (pruned window prunes log) = recent window now log := by
  simp only [recent, pruned, List.filter_filter]
  refine List.filter_congr fun time _ => ?_
  have kept : now - window < time → ∀ prune ∈ prunes, prune - window < time := by
    intro young prune member
    exact lt_of_le_of_lt (sub_le_sub_right (past prune member) window) young
  simpa using kept

end SlidingWindow
