import L7Proxy.Balancer.Selection
import L7Proxy.Library.CyclicSchedule
import L7Proxy.Library.Execution

/-!
# Proportional weighted round robin

As many consecutive calls as the weights add up to select every index as often as its
weight says; with unit weights the calls are those of round robin.
-/

set_option autoImplicit false

namespace L7Proxy

open Interaction CyclicSchedule

/-- The indexes given to calls with these keys, in the order of their `fetch_add`. -/
def Balancer.selections (hashing : Hashing) (poolSize : Nat) (balancer : Balancer) (keys : List String) :
    List (Option Nat) :=
  (respond (fun balancer key => balancer.nextIndexForKey hashing poolSize key) balancer keys).1

namespace WeightedRoundRobin

/-!
## Schedules
-/

private theorem flatMap_replicate_count (weights : List Nat) (start index : Nat) :
    ((weights.zipIdx start).flatMap fun (w, i) => List.replicate w i).count index =
      if start ≤ index then weights.getD (index - start) 0 else 0 := by
  induction weights generalizing start with
  | nil => simp
  | cons weight weights ih =>
      simp only [List.zipIdx_cons, List.flatMap_cons, List.count_append, List.count_replicate, ih]
      rcases Nat.lt_trichotomy index start with before | here | after
      · simp [show ¬ start ≤ index by omega, show ¬ start + 1 ≤ index by omega, show start ≠ index by omega]
      · subst here
        simp [show ¬ index + 1 ≤ index by omega]
      · obtain ⟨gap, rfl⟩ : ∃ gap, index = start + 1 + gap := ⟨index - (start + 1), by omega⟩
        have shift : start + 1 + gap - start = gap + 1 := by omega
        have unshift : start + 1 + gap - (start + 1) = gap := by omega
        simp [shift, unshift, show start ≤ start + 1 + gap by omega, show start ≠ start + 1 + gap by omega]

theorem schedule_count (weights : List Nat) (index : Nat) :
    (new weights).schedule.count index = weights.getD index 0 := by
  simpa [new] using flatMap_replicate_count weights 0 index

theorem schedule_length (weights : List Nat) : (new weights).schedule.length = weights.sum := by
  simp [new, List.length_flatMap]

private theorem flatMap_replicate_unit (count start : Nat) :
    (((List.replicate count 1).zipIdx start).flatMap fun (w, i) => List.replicate w i) =
      List.range' start count := by
  induction count generalizing start with
  | zero => rfl
  | succ count ih =>
      rw [List.replicate_succ, List.zipIdx_cons, List.flatMap_cons, ih, List.range'_succ]
      rfl

theorem schedule_unit (count : Nat) : (new (List.replicate count 1)).schedule = List.range count := by
  rw [List.range_eq_range']
  exact flatMap_replicate_unit count 0

/-!
## Calls
-/

theorem nextIndex_eq (balancer : WeightedRoundRobin) (poolSize : Nat) :
    balancer.nextIndex poolSize =
      (balancer.schedule[balancer.counter % balancer.schedule.length]?,
        { balancer with counter := wrappingAdd balancer.counter 1 }) := by
  unfold nextIndex
  split
  · next empty => simp [List.length_eq_zero_iff.mp empty]
  · rfl

theorem selections_cons (hashing : Hashing) (poolSize : Nat) (balancer : WeightedRoundRobin) (key : String)
    (keys : List String) :
    Balancer.selections hashing poolSize (.weightedRoundRobin balancer) (key :: keys) =
      balancer.schedule[balancer.counter % balancer.schedule.length]? ::
        Balancer.selections hashing poolSize
          (.weightedRoundRobin { balancer with counter := wrappingAdd balancer.counter 1 }) keys := by
  simp only [Balancer.selections, respond_cons, Balancer.nextIndexForKey, nextIndex_eq]

/-- While the counter does not wrap around, the calls read the schedule from the
counter's place on. -/
theorem selections_eq_reads (hashing : Hashing) (poolSize : Nat) {balancer : WeightedRoundRobin}
    {keys : List String} (fits : balancer.counter + keys.length ≤ wordSize) :
    Balancer.selections hashing poolSize (.weightedRoundRobin balancer) keys =
      reads balancer.schedule balancer.counter keys.length := by
  induction keys generalizing balancer with
  | nil => rfl
  | cons key keys ih =>
      rw [List.length_cons] at fits
      rw [selections_cons, List.length_cons, reads_succ]
      cases keys with
      | nil => rfl
      | cons next keys =>
          rw [List.length_cons] at fits
          rw [wrappingAdd_of_lt (by omega), ih (by rw [List.length_cons]; dsimp only; omega)]

theorem selections_positive {weights : List Nat} (positive : 0 < weights.sum) {start count : Nat}
    {answer : Option Nat} (member : answer ∈ reads (new weights).schedule start count) :
    ∃ index weight, answer = some index ∧ weights[index]? = some weight ∧ 0 < weight := by
  obtain ⟨step, _, rfl⟩ := List.mem_map.mp member
  have turn := Nat.mod_lt (start + step) (show 0 < (new weights).schedule.length by
    rwa [schedule_length])
  have found := List.getElem?_eq_getElem turn
  obtain ⟨weight, stored, weightPositive, _⟩ := schedule_getElem?_some found
  exact ⟨_, weight, found, stored, weightPositive⟩

end WeightedRoundRobin

theorem RoundRobin.selections_cons (hashing : Hashing) (poolSize : Nat) (balancer : RoundRobin) (key : String)
    (keys : List String) :
    Balancer.selections hashing poolSize (.roundRobin balancer) (key :: keys) =
      (balancer.nextIndex poolSize).1 ::
        Balancer.selections hashing poolSize (.roundRobin (balancer.nextIndex poolSize).2) keys := rfl

/-- With the schedule `[0, …, poolSize - 1]` both strategies count alike. -/
theorem selections_unit_eq_roundRobin (hashing : Hashing) (poolSize counter : Nat) (keys : List String) :
    Balancer.selections hashing poolSize (.weightedRoundRobin ⟨counter, List.range poolSize⟩) keys =
      Balancer.selections hashing poolSize (.roundRobin ⟨counter⟩) keys := by
  induction keys generalizing counter with
  | nil => rfl
  | cons key keys ih =>
      rw [WeightedRoundRobin.selections_cons, RoundRobin.selections_cons, ih]
      refine congrArg (· :: _) ?_
      simp only [RoundRobin.nextIndex, List.length_range]
      split
      · next empty => simp [empty]
      · next nonempty => exact List.getElem?_range (Nat.mod_lt _ (Nat.pos_of_ne_zero nonempty))

/-- In every window of as many calls as the weights add up to, each index is selected
exactly as often as its weight, and no call selects an index of weight zero. Without
weights the calls are those of round robin. -/
theorem weightedRoundRobin_proportional (hashing : Hashing) (poolSize : Nat) {weights : List Nat}
    (positive : 0 < weights.sum) {counter first : Nat} {keys : List String}
    (fits : counter + keys.length ≤ wordSize) (inside : first + weights.sum ≤ keys.length) :
    let balancer : WeightedRoundRobin := { WeightedRoundRobin.new weights with counter := counter }
    let selected := Balancer.selections hashing poolSize (.weightedRoundRobin balancer) keys
    (∀ index, ((selected.drop first).take weights.sum).count (some index) = weights.getD index 0) ∧
      (∀ answer ∈ selected,
        ∃ index weight, answer = some index ∧ weights[index]? = some weight ∧ 0 < weight) ∧
      ∀ n names,
        Balancer.selections hashing n (createBalancer hashing.hashKey .weightedRoundRobin n none) names =
          Balancer.selections hashing n (createBalancer hashing.hashKey .roundRobin n none) names := by
  intro balancer selected
  have reading : selected = reads balancer.schedule balancer.counter keys.length :=
    WeightedRoundRobin.selections_eq_reads hashing poolSize fits
  refine ⟨fun index => ?_, fun answer member => ?_, fun n names => ?_⟩
  · have width := WeightedRoundRobin.schedule_length weights
    rw [reading, window_reads inside, ← width, count_reads, WeightedRoundRobin.schedule_count]
  · rw [reading] at member
    exact WeightedRoundRobin.selections_positive positive member
  · have schedule := WeightedRoundRobin.schedule_unit n
    have created : createBalancer hashing.hashKey .weightedRoundRobin n none =
        .weightedRoundRobin ⟨0, List.range n⟩ := by
      rw [← schedule]
      rfl
    rw [created]
    exact selections_unit_eq_roundRobin hashing n 0 names

/-- Six calls on weights `[3, 0, 1]`, the first in the middle of a round. -/
theorem weightedRoundRobin_proportional_unaligned :
    let balancer : WeightedRoundRobin := { WeightedRoundRobin.new [3, 0, 1] with counter := 2 }
    let selected := Balancer.selections ⟨fun _ => 0, .leftmost⟩ 3 (.weightedRoundRobin balancer)
      (List.replicate 6 "/")
    ((selected.drop 1).take 4).count (some 0) = 3 := by
  have proportional := weightedRoundRobin_proportional ⟨fun _ => 0, .leftmost⟩ 3
    (show 0 < [3, 0, 1].sum by decide) (show 2 + (List.replicate 6 "/").length ≤ wordSize by decide)
    (show 1 + [3, 0, 1].sum ≤ (List.replicate 6 "/").length by decide)
  exact proportional.1 0

end L7Proxy
