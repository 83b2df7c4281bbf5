import L7Proxy.Balancer.Selection
import L7Proxy.Library.Execution
import Mathlib.Algebra.Order.BigOperators.Group.List

/-!
# Least connections picks a least loaded upstream

The scan keeps the leftmost least count of the part it has read. Picks that only add
to a least count never let two counts differ by more than one.
-/

set_option autoImplicit false

namespace L7Proxy

open Interaction

/-- The index holds a least count, and every count before it is greater. -/
structure LeftmostLeast (counts : List Nat) (index count : Nat) : Prop where
  stored : counts[index]? = some count
  least : ∀ other ∈ counts, count ≤ other
  leftmost : ∀ earlier ∈ counts.take index, count < earlier

namespace LeftmostLeast

variable {counts : List Nat} {index count : Nat}

theorem lt_length (chosen : LeftmostLeast counts index count) : index < counts.length :=
  (List.getElem?_eq_some_iff.mp chosen.stored).1

theorem keep (chosen : LeftmostLeast counts index count) {next : Nat} (above : count ≤ next) :
    LeftmostLeast (counts ++ [next]) index count := by
  refine ⟨?_, ?_, ?_⟩
  · rw [List.getElem?_append_left chosen.lt_length]
    exact chosen.stored
  · intro other member
    rcases List.mem_append.mp member with old | new
    · exact chosen.least other old
    · rw [List.mem_singleton.mp new]
      exact above
  · rw [List.take_append_of_le_length chosen.lt_length.le]
    exact chosen.leftmost

theorem replace (chosen : LeftmostLeast counts index count) {next : Nat} (below : next < count) :
    LeftmostLeast (counts ++ [next]) counts.length next := by
  have less : ∀ other ∈ counts, next < other := by
    intro other member
    exact lt_of_lt_of_le below (chosen.least other member)
  refine ⟨by simp, ?_, ?_⟩
  · intro other member
    rcases List.mem_append.mp member with old | new
    · exact (less other old).le
    · exact (List.mem_singleton.mp new).ge
  · rw [List.take_left]
    exact less

end LeftmostLeast

namespace LeastConnections

/-- The scan goes on from the leftmost least count of what it has read. -/
theorem scan_leftmostLeast (rest : List Nat) {seen : List Nat} {minIdx minVal : Nat}
    (running : LeftmostLeast seen minIdx minVal) :
    ∃ count, LeftmostLeast (seen ++ rest) (scan rest seen.length minIdx minVal) count := by
  induction rest generalizing seen minIdx minVal with
  | nil => exact ⟨minVal, by simpa [scan] using running⟩
  | cons val rest ih =>
      have grown : (seen ++ [val]).length = seen.length + 1 := by simp
      have joined : seen ++ val :: rest = (seen ++ [val]) ++ rest := by simp
      rw [scan, joined, ← grown]
      split
      · next smaller => exact ih (running.replace smaller)
      · next greater => exact ih (running.keep (not_lt.mp greater))

theorem nextIndex_leftmostLeast {balancer : LeastConnections} {poolSize : Nat} (nonempty : 0 < poolSize)
    (sized : balancer.active.length = poolSize) :
    ∃ index count, balancer.nextIndex poolSize = some index ∧
      LeftmostLeast balancer.active index count := by
  obtain ⟨active⟩ := balancer
  cases active with
  | nil => simp at sized; omega
  | cons first rest =>
      have running : LeftmostLeast [first] 0 first := ⟨rfl, by simp, by simp⟩
      obtain ⟨count, chosen⟩ := scan_leftmostLeast rest running
      refine ⟨_, count, ?_, chosen⟩
      have whole : min poolSize (first :: rest).length = (first :: rest).length := by
        rw [← sized, min_self]
      simp only [nextIndex, whole, List.take_length, List.drop_one, List.tail_cons]
      rfl

/-!
## Runs
-/

/-- What happens to the counts: a request picks an upstream and starts on it, or a
request on some index is done. -/
inductive LoadChange where
  | pick
  | done (index : Nat)

def change (poolSize : Nat) (balancer : LeastConnections) : LoadChange → Option LeastConnections
  | .pick => (balancer.nextIndex poolSize).map balancer.recordStart
  | .done index => some (balancer.recordDone index)

section

variable {poolSize : Nat} {balancer after : LeastConnections} {next : LoadChange}

theorem length_recordStart (index : Nat) : (balancer.recordStart index).active.length = balancer.active.length := by
  unfold recordStart
  split <;> simp

theorem length_recordDone (index : Nat) : (balancer.recordDone index).active.length = balancer.active.length := by
  unfold recordDone
  split <;> simp

/-- No upstream is ahead of another by more than one request. -/
def Balanced (balancer : LeastConnections) : Prop :=
  ∀ left ∈ balancer.active, ∀ right ∈ balancer.active, left ≤ right + 1

theorem mem_recordStart {index count : Nat} (member : count ∈ (balancer.recordStart index).active) :
    count ∈ balancer.active ∨ ∃ before, balancer.active[index]? = some before ∧ count = before + 1 := by
  obtain ⟨position, stored⟩ := List.mem_iff_getElem?.mp member
  rw [recordStart_getElem?] at stored
  obtain ⟨before, found, same⟩ := Option.map_eq_some_iff.mp stored
  split at same
  · next here =>
      subst here
      exact .inr ⟨before, found, same.symm⟩
  · exact .inl (same ▸ List.mem_of_getElem? found)

theorem Balanced.pick {index count : Nat} (balanced : balancer.Balanced)
    (chosen : LeftmostLeast balancer.active index count) : (balancer.recordStart index).Balanced := by
  intro left leftMember right rightMember
  have stored := List.mem_of_getElem? chosen.stored
  rcases mem_recordStart leftMember with leftOld | ⟨before, found, rfl⟩
  · rcases mem_recordStart rightMember with rightOld | ⟨before, found, rfl⟩
    · exact balanced left leftOld right rightOld
    · have near := balanced left leftOld before (List.mem_of_getElem? found)
      omega
  · rw [chosen.stored, Option.some.injEq] at found
    subst found
    rcases mem_recordStart rightMember with rightOld | ⟨before, found, rfl⟩
    · have least := chosen.least right rightOld
      omega
    · rw [chosen.stored, Option.some.injEq] at found
      omega

end

end LeastConnections

end L7Proxy
