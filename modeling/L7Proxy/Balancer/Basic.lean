import L7Proxy.Config
import Mathlib.Data.List.Sort

/-!
# Load balancers

The four strategies with their shared atomic state. An operation returns the new
state; an index computation returns `none` where the source panics.
-/

set_option autoImplicit false

namespace L7Proxy

/-- The standard library's binary search by key, known only by its contract: on a
sorted slice it returns a matching position or the insertion point. -/
structure BinarySearch where
  search : List (Nat × Nat) → Nat → Except Nat Nat
  found : ∀ {ring : List (Nat × Nat)} {hash position : Nat},
    ring.Pairwise (·.1 ≤ ·.1) → search ring hash = .ok position →
      ∃ entry, ring[position]? = some entry ∧ entry.1 = hash
  missing : ∀ {ring : List (Nat × Nat)} {hash position : Nat},
    ring.Pairwise (·.1 ≤ ·.1) → search ring hash = .error position →
      position ≤ ring.length ∧ (∀ entry ∈ ring.take position, entry.1 < hash) ∧
        ∀ entry ∈ ring.drop position, hash < entry.1

def BinarySearch.leftmost : BinarySearch where
  search ring hash :=
    let position := (ring.takeWhile (·.1 < hash)).length
    if (ring[position]?).any (·.1 = hash) then .ok position else .error position
  found := by
    intro ring hash position _ result
    dsimp only at result
    split at result
    · next matched =>
        cases result
        obtain ⟨entry, stored, same⟩ := (Option.any_eq_true _ _).mp matched
        exact ⟨entry, stored, by simpa using same⟩
    · cases result
  missing := by
    intro ring hash position sorted result
    obtain ⟨before, rest, split, taken, below, least⟩ :=
      takeWhile_split (fun entry : Nat × Nat => decide (entry.1 < hash)) ring
    simp only [taken] at result
    simp only [decide_eq_true_eq, decide_eq_false_iff_not, not_lt] at below least
    subst split
    split at result
    · cases result
    · next unmatched =>
        cases result
        refine ⟨by simp, by simpa using below, ?_⟩
        cases rest with
        | nil => simp
        | cons head tail =>
            have notEqual : head.1 ≠ hash := by
              intro same
              exact unmatched (by simp [same])
            have notBelow := least head rfl
            rw [List.drop_left' rfl]
            intro entry member
            rcases List.mem_cons.mp member with rfl | member
            · omega
            · have := (List.pairwise_cons.mp (List.pairwise_append.mp sorted).2.1).1 entry member
              omega

/-!
## Round robin
-/

structure RoundRobin where
  counter : Nat
  deriving DecidableEq

namespace RoundRobin

def new : RoundRobin := ⟨0⟩

def nextIndex (balancer : RoundRobin) (poolSize : Nat) : Option Nat × RoundRobin :=
  let current := balancer.counter
  (if poolSize = 0 then none else some (current % poolSize), ⟨wrappingAdd current 1⟩)

end RoundRobin

/-!
## Least connections
-/

/-- The number of requests in flight on each upstream. The counts are unbounded:
`fetch_add` wraps only where as many requests are in flight as a `usize` can count, and each
of them is held in memory (`System.counts_fit`). -/
structure LeastConnections where
  active : List Nat
  deriving DecidableEq

namespace LeastConnections

def new (poolSize : Nat) : LeastConnections := ⟨List.replicate poolSize 0⟩

def scan : List Nat → Nat → Nat → Nat → Nat
  | [], _, minIdx, _ => minIdx
  | val :: rest, i, minIdx, minVal =>
      if val < minVal then scan rest (i + 1) i val else scan rest (i + 1) minIdx minVal

def nextIndex (balancer : LeastConnections) (poolSize : Nat) : Option Nat :=
  let len := min poolSize balancer.active.length
  match balancer.active with
  | [] => none
  | first :: _ => some (scan ((balancer.active.take len).drop 1) 1 0 first)

def recordStart (balancer : LeastConnections) (index : Nat) : LeastConnections :=
  if index < balancer.active.length then ⟨balancer.active.modify index (· + 1)⟩ else balancer

/-- `fetch_sub` below zero wraps around to `usize::MAX`. -/
def recordDone (balancer : LeastConnections) (index : Nat) : LeastConnections :=
  if index < balancer.active.length then
    ⟨balancer.active.modify index (fun count => if count = 0 then wordMax else count - 1)⟩
  else balancer

theorem recordStart_getElem? (balancer : LeastConnections) (index other : Nat) :
    (balancer.recordStart index).active[other]? =
      balancer.active[other]?.map fun count => if index = other then count + 1 else count := by
  unfold recordStart
  split
  · simp only [List.getElem?_modify]
    rfl
  · next outside =>
      by_cases same : index = other
      · subst same
        simp [not_lt.mp outside]
      · simp [same]

theorem recordDone_getElem? (balancer : LeastConnections) (index other : Nat) :
    (balancer.recordDone index).active[other]? =
      balancer.active[other]?.map fun count =>
        if index = other then if count = 0 then wordMax else count - 1 else count := by
  unfold recordDone
  split
  · simp only [List.getElem?_modify]
    rfl
  · next outside =>
      by_cases same : index = other
      · subst same
        simp [not_lt.mp outside]
      · simp [same]

end LeastConnections

/-!
## Weighted round robin
-/

/-- The schedule repeats each index as often as its weight: weights `[3, 1]` give
`[0, 0, 0, 1]`. -/
structure WeightedRoundRobin where
  counter : Nat
  schedule : List Nat
  deriving DecidableEq

namespace WeightedRoundRobin

def new (weights : List Nat) : WeightedRoundRobin where
  counter := 0
  schedule := weights.zipIdx.flatMap fun (w, i) => List.replicate w i

def nextIndex (balancer : WeightedRoundRobin) (_poolSize : Nat) : Option Nat × WeightedRoundRobin :=
  let current := balancer.counter
  (if balancer.schedule.length = 0 then none
    else balancer.schedule[current % balancer.schedule.length]?,
    { balancer with counter := wrappingAdd current 1 })

end WeightedRoundRobin

/-!
## Consistent hashing
-/

structure ConsistentHash where
  ring : List (Nat × Nat)
  deriving DecidableEq

namespace ConsistentHash

def vnodes (hashKey : String → Nat) (poolSize replicas : Nat) : List (Nat × Nat) :=
  (List.range poolSize).flatMap fun i =>
    (List.range replicas).map fun r => (hashKey s!"{i}:{r}", i)

def new (hashKey : String → Nat) (poolSize replicas : Nat) : ConsistentHash :=
  ⟨(vnodes hashKey poolSize replicas).insertionSort (fun left right => left.1 ≤ right.1)⟩

def nextIndexForKey (hashKey : String → Nat) (binarySearch : BinarySearch)
    (balancer : ConsistentHash) (_poolSize : Nat) (key : String) : Option Nat :=
  let entry := match binarySearch.search balancer.ring (hashKey key) with
    | .ok pos => balancer.ring[pos]?
    | .error pos =>
        if balancer.ring.length ≤ pos then balancer.ring[0]? else balancer.ring[pos]?
  entry.map (·.2)

end ConsistentHash

/-!
## The balancer of a route
-/

/-- The concrete type behind a route's boxed balancer. -/
inductive Balancer where
  | roundRobin (balancer : RoundRobin)
  | leastConnections (balancer : LeastConnections)
  | weightedRoundRobin (balancer : WeightedRoundRobin)
  | consistentHash (balancer : ConsistentHash)
  deriving DecidableEq

structure Hashing where
  hashKey : String → Nat
  binarySearch : BinarySearch

namespace Balancer

def nextIndexForKey (hashing : Hashing) (balancer : Balancer) (poolSize : Nat) (key : String) :
    Option Nat × Balancer :=
  match balancer with
  | .roundRobin inner =>
      let (index, inner) := inner.nextIndex poolSize
      (index, .roundRobin inner)
  | .leastConnections inner => (inner.nextIndex poolSize, .leastConnections inner)
  | .weightedRoundRobin inner =>
      let (index, inner) := inner.nextIndex poolSize
      (index, .weightedRoundRobin inner)
  | .consistentHash inner =>
      (inner.nextIndexForKey hashing.hashKey hashing.binarySearch poolSize key, .consistentHash inner)

/-- Only least connections overrides the default, which does nothing. -/
def recordStart (balancer : Balancer) (index : Nat) : Balancer :=
  match balancer with
  | .leastConnections inner => .leastConnections (inner.recordStart index)
  | other => other

def recordDone (balancer : Balancer) (index : Nat) : Balancer :=
  match balancer with
  | .leastConnections inner => .leastConnections (inner.recordDone index)
  | other => other

end Balancer

def createBalancer (hashKey : String → Nat) (strategy : BalancerStrategy) (poolSize : Nat)
    (weights : Option (List Nat)) : Balancer :=
  match strategy with
  | .roundRobin => .roundRobin .new
  | .leastConnections => .leastConnections (.new poolSize)
  | .weightedRoundRobin =>
      let defaultWeights := List.replicate poolSize 1
      .weightedRoundRobin (.new (weights.getD defaultWeights))
  | .consistentHash => .consistentHash (.new hashKey poolSize 150)

end L7Proxy
