import L7Proxy.Balancer.Basic

/-!
# Safe selection of the starting index

Which route configurations give a balancer whose selections neither panic nor
leave the pool, after any history of calls.
-/

set_option autoImplicit false

namespace L7Proxy

/-!
## Schedule and ring tables
-/

private theorem flatMap_replicate_getElem?_some {weights : List Nat} {start position index : Nat}
    (found : ((weights.zipIdx start).flatMap fun (w, i) => List.replicate w i)[position]? = some index) :
    start ≤ index ∧ ∃ weight, weights[index - start]? = some weight ∧ 0 < weight ∧
      (weights.take (index - start)).sum ≤ position := by
  induction weights generalizing start position with
  | nil => simp at found
  | cons weight weights ih =>
      simp only [List.zipIdx_cons, List.flatMap_cons, List.getElem?_append, List.length_replicate] at found
      split at found
      · next within =>
          rw [List.getElem?_replicate_of_lt within, Option.some.injEq] at found
          subst found
          exact ⟨le_rfl, weight, by simp, by omega, by simp⟩
      · next beyond =>
          obtain ⟨later, owner, ownerFound, positive, before⟩ := ih found
          obtain ⟨gap, rfl⟩ : ∃ gap, index = start + 1 + gap := ⟨index - (start + 1), by omega⟩
          have shift : start + 1 + gap - start = gap + 1 := by omega
          have unshift : start + 1 + gap - (start + 1) = gap := by omega
          rw [unshift] at ownerFound before
          refine ⟨by omega, owner, ?_, positive, ?_⟩
          · simpa [shift] using ownerFound
          · simp only [shift, List.take_succ_cons, List.sum_cons]
            omega

private theorem flatMap_replicate_getElem?_first {weights : List Nat} (start : Nat) {offset weight : Nat}
    (stored : weights[offset]? = some weight) (positive : 0 < weight) :
    ((weights.zipIdx start).flatMap fun (w, i) =>
      List.replicate w i)[(weights.take offset).sum]? = some (start + offset) := by
  induction weights generalizing start offset with
  | nil => simp at stored
  | cons head weights ih =>
      simp only [List.zipIdx_cons, List.flatMap_cons]
      cases offset with
      | zero =>
          simp only [List.getElem?_cons_zero, Option.some.injEq] at stored
          subst stored
          simp [positive]
      | succ offset =>
          have recursive := ih (start + 1) (by simpa using stored)
          simp only [List.take_succ_cons, List.sum_cons]
          rw [List.getElem?_append_right (by simp), List.length_replicate, Nat.add_sub_cancel_left,
            recursive]
          congr 1
          omega

namespace WeightedRoundRobin

theorem schedule_getElem?_some {weights : List Nat} {position index : Nat}
    (found : (new weights).schedule[position]? = some index) :
    ∃ weight, weights[index]? = some weight ∧ 0 < weight ∧ (weights.take index).sum ≤ position := by
  obtain ⟨_, weight, stored, positive, before⟩ := flatMap_replicate_getElem?_some found
  exact ⟨weight, by simpa using stored, positive, by simpa using before⟩

theorem schedule_getElem?_first {weights : List Nat} {index weight : Nat}
    (stored : weights[index]? = some weight) (positive : 0 < weight) :
    (new weights).schedule[(weights.take index).sum]? = some index := by
  have first := flatMap_replicate_getElem?_first 0 stored positive
  rwa [Nat.zero_add] at first

theorem schedule_eq_nil_iff {weights : List Nat} :
    (new weights).schedule = [] ↔ ∀ weight ∈ weights, weight = 0 := by
  constructor
  · intro empty weight member
    obtain ⟨index, stored⟩ := List.mem_iff_getElem?.mp member
    by_contra nonzero
    have first := schedule_getElem?_first stored (Nat.pos_of_ne_zero nonzero)
    simp [empty] at first
  · intro zero
    refine List.eq_nil_iff_forall_not_mem.mpr fun index member => ?_
    obtain ⟨position, found⟩ := List.mem_iff_getElem?.mp member
    obtain ⟨weight, stored, positive, _⟩ := schedule_getElem?_some found
    have := zero weight (List.mem_of_getElem? stored)
    omega

end WeightedRoundRobin

namespace ConsistentHash

theorem ring_sorted (hashKey : String → Nat) (poolSize replicas : Nat) :
    (new hashKey poolSize replicas).ring.Pairwise (·.1 ≤ ·.1) := by
  have total : Std.Total (fun left right : Nat × Nat => left.1 ≤ right.1) :=
    ⟨fun left right => le_total left.1 right.1⟩
  have transitive : IsTrans (Nat × Nat) (fun left right => left.1 ≤ right.1) :=
    ⟨fun _ _ _ => le_trans⟩
  exact List.pairwise_insertionSort _ _

theorem mem_ring {hashKey : String → Nat} {poolSize replicas : Nat} {entry : Nat × Nat} :
    entry ∈ (new hashKey poolSize replicas).ring ↔
      ∃ i < poolSize, ∃ r < replicas, entry = (hashKey s!"{i}:{r}", i) := by
  simp only [new, List.mem_insertionSort, vnodes, List.mem_flatMap, List.mem_map, List.mem_range]
  constructor
  · intro placed
    obtain ⟨i, below, r, replica, rfl⟩ := placed
    exact ⟨i, below, r, replica, rfl⟩
  · intro placed
    obtain ⟨i, below, r, replica, rfl⟩ := placed
    exact ⟨i, below, r, replica, rfl⟩

end ConsistentHash

/-!
## One selection
-/

namespace LeastConnections

private theorem scan_lt {values : List Nat} {i minIdx minVal : Nat} (before : minIdx < i + values.length) :
    scan values i minIdx minVal < i + values.length := by
  induction values generalizing i minIdx minVal with
  | nil => exact before
  | cons value values ih =>
      simp only [scan, List.length_cons] at before ⊢
      split
      · have := @ih (i + 1) i value (by omega)
        omega
      · have := @ih (i + 1) minIdx minVal (by omega)
        omega

theorem nextIndex_lt {balancer : LeastConnections} {poolSize : Nat} (nonempty : 0 < poolSize)
    (sized : balancer.active.length = poolSize) :
    ∃ index, balancer.nextIndex poolSize = some index ∧ index < poolSize := by
  obtain ⟨active⟩ := balancer
  cases active with
  | nil => simp at sized; omega
  | cons first rest =>
      refine ⟨_, rfl, ?_⟩
      have bound := @scan_lt (((first :: rest).take (min poolSize (rest.length + 1))).drop 1) 1 0 first (by omega)
      simp only [List.length_cons] at sized bound ⊢
      simp only [List.length_drop, List.length_take, List.length_cons] at bound
      omega

end LeastConnections

namespace ConsistentHash

theorem nextIndexForKey_lt (hashKey : String → Nat) (binarySearch : BinarySearch)
    {poolSize replicas : Nat} (nonempty : 0 < poolSize) (replicated : 0 < replicas)
    (size : Nat) (key : String) :
    ∃ index, (new hashKey poolSize replicas).nextIndexForKey hashKey binarySearch size key = some index ∧
      index < poolSize := by
  have sorted := ring_sorted hashKey poolSize replicas
  have stored : ∃ entry, entry ∈ (new hashKey poolSize replicas).ring :=
    ⟨_, mem_ring.mpr ⟨0, nonempty, 0, replicated, rfl⟩⟩
  have positive := List.length_pos_of_mem stored.choose_spec
  have inPool : ∀ {position : Nat} {entry : Nat × Nat},
      (new hashKey poolSize replicas).ring[position]? = some entry → entry.2 < poolSize := by
    intro position entry found
    obtain ⟨i, below, _, _, rfl⟩ := mem_ring.mp (List.mem_of_getElem? found)
    exact below
  have lookup : ∀ position, position < (new hashKey poolSize replicas).ring.length →
      ∃ index, ((new hashKey poolSize replicas).ring[position]?).map (·.2) = some index ∧
        index < poolSize := by
    intro position below
    have found := List.getElem?_eq_getElem below
    exact ⟨_, by rw [found]; rfl, inPool found⟩
  simp only [nextIndexForKey]
  cases result : binarySearch.search (new hashKey poolSize replicas).ring (hashKey key) with
  | ok position =>
      obtain ⟨entry, found, _⟩ := binarySearch.found sorted result
      exact lookup position (List.getElem?_eq_some_iff.mp found).1
  | error position =>
      dsimp only
      split
      · exact lookup 0 positive
      · exact lookup position (by omega)

end ConsistentHash

/-!
## Runs of a balancer
-/

inductive BalancerCall where
  | nextIndexForKey (key : String)
  | recordStart (index : Nat)
  | recordDone (index : Nat)

namespace Balancer

def call (hashing : Hashing) (poolSize : Nat) (balancer : Balancer) : BalancerCall → Balancer
  | .nextIndexForKey key => (balancer.nextIndexForKey hashing poolSize key).2
  | .recordStart index => balancer.recordStart index
  | .recordDone index => balancer.recordDone index

def tables : Balancer → Balancer
  | .roundRobin _ => .roundRobin .new
  | .leastConnections inner => .leastConnections (.new inner.active.length)
  | .weightedRoundRobin inner => .weightedRoundRobin { inner with counter := 0 }
  | .consistentHash inner => .consistentHash inner

def CounterFits : Balancer → Prop
  | .roundRobin inner => inner.counter < wordSize
  | .weightedRoundRobin inner => inner.counter < wordSize
  | _ => True

theorem call_tables (hashing : Hashing) (poolSize : Nat) (balancer : Balancer) (next : BalancerCall) :
    (balancer.call hashing poolSize next).tables = balancer.tables := by
  cases balancer with
  | roundRobin | weightedRoundRobin | consistentHash => cases next <;> rfl
  | leastConnections inner =>
      cases next with
      | nextIndexForKey => rfl
      | recordStart index =>
          simp only [call, recordStart, LeastConnections.recordStart]
          split <;> simp [tables]
      | recordDone index =>
          simp only [call, recordDone, LeastConnections.recordDone]
          split <;> simp [tables]

theorem call_counterFits (hashing : Hashing) (poolSize : Nat) {balancer : Balancer}
    (fits : balancer.CounterFits) (next : BalancerCall) :
    (balancer.call hashing poolSize next).CounterFits := by
  cases balancer with
  | roundRobin | weightedRoundRobin =>
      cases next with
      | nextIndexForKey => exact Nat.mod_lt _ (by decide)
      | recordStart | recordDone => exact fits
  | leastConnections | consistentHash => cases next <;> trivial

theorem calls_keep (hashing : Hashing) (poolSize : Nat) (calls : List BalancerCall)
    {balancer : Balancer} (fits : balancer.CounterFits) :
    (calls.foldl (call hashing poolSize) balancer).tables = balancer.tables ∧
      (calls.foldl (call hashing poolSize) balancer).CounterFits := by
  induction calls generalizing balancer with
  | nil => exact ⟨rfl, fits⟩
  | cons next calls ih =>
      obtain ⟨same, stillFits⟩ := ih (call_counterFits hashing poolSize fits next)
      exact ⟨same.trans (call_tables hashing poolSize balancer next), stillFits⟩

theorem weighted_selections (hashing : Hashing) (poolSize : Nat) (key : String)
    {balancer : WeightedRoundRobin} {count : Nat} (fits : balancer.counter + count < wordSize) :
    (List.replicate count (.nextIndexForKey key)).foldl (call hashing poolSize)
      (.weightedRoundRobin balancer) =
        .weightedRoundRobin { balancer with counter := balancer.counter + count } := by
  induction count generalizing balancer with
  | zero => rfl
  | succ count ih =>
      simp only [List.replicate_succ, List.foldl_cons, call, nextIndexForKey,
        WeightedRoundRobin.nextIndex]
      rw [wrappingAdd_of_lt (by omega), ih (by dsimp only; omega)]
      simp only [Balancer.weightedRoundRobin.injEq, WeightedRoundRobin.mk.injEq, and_true]
      omega

end Balancer

/-!
## Safe configurations
-/

def RouteConfig.effectiveWeights (route : RouteConfig) : List Nat :=
  route.weights.getD (List.replicate route.upstream.length 1)

def RouteConfig.createBalancer (hashKey : String → Nat) (route : RouteConfig) : Balancer :=
  L7Proxy.createBalancer hashKey route.strategy route.upstream.length route.weights

/-- After any calls, selecting by any key does not panic, and gives an index of
the upstream list when that list is not empty. -/
def RouteConfig.SelectsSafely (hashing : Hashing) (route : RouteConfig) : Prop :=
  ∀ (calls : List BalancerCall) (key : String),
    let poolSize := route.upstream.length
    let balancer := calls.foldl (Balancer.call hashing poolSize) (route.createBalancer hashing.hashKey)
    ∃ index, (balancer.nextIndexForKey hashing poolSize key).1 = some index ∧
      (0 < poolSize → index < poolSize)

/-- The pool is not empty; under weighted round robin it is the schedule that must
not be empty, and no index outside a nonempty pool may have a turn at a position
that the counter reaches. -/
def RouteConfig.HasSelection (route : RouteConfig) : Prop :=
  match route.strategy with
  | .weightedRoundRobin =>
      (∃ weight ∈ route.effectiveWeights, 0 < weight) ∧
        ∀ index weight, route.effectiveWeights[index]? = some weight → 0 < weight →
          (route.effectiveWeights.take index).sum < wordSize → 0 < route.upstream.length →
            index < route.upstream.length
  | _ => 0 < route.upstream.length

namespace RouteConfig

variable {hashing : Hashing} {route : RouteConfig}

private theorem reached (hashing : Hashing) (route : RouteConfig) (calls : List BalancerCall) :
    let balancer := calls.foldl (Balancer.call hashing route.upstream.length)
      (route.createBalancer hashing.hashKey)
    balancer.tables = (route.createBalancer hashing.hashKey).tables ∧ balancer.CounterFits := by
  apply Balancer.calls_keep
  unfold createBalancer L7Proxy.createBalancer
  cases route.strategy <;> simp [Balancer.CounterFits, RoundRobin.new, WeightedRoundRobin.new, wordSize]

private theorem roundRobin_iff (strategy : route.strategy = .roundRobin) :
    route.SelectsSafely hashing ↔ 0 < route.upstream.length := by
  constructor
  · intro safe
    obtain ⟨index, selected, _⟩ := safe [] ""
    by_contra empty
    simp [createBalancer, L7Proxy.createBalancer, strategy, Balancer.nextIndexForKey,
      RoundRobin.nextIndex, show route.upstream.length = 0 by omega] at selected
  · intro nonempty calls key
    have kept := (reached hashing route calls).1
    simp only [createBalancer, L7Proxy.createBalancer, strategy] at kept ⊢
    generalize calls.foldl _ _ = balancer at kept ⊢
    cases balancer with
    | roundRobin inner =>
        refine ⟨inner.counter % route.upstream.length, ?_, fun _ => Nat.mod_lt _ nonempty⟩
        simp [Balancer.nextIndexForKey, RoundRobin.nextIndex, Nat.pos_iff_ne_zero.mp nonempty]
    | leastConnections | weightedRoundRobin | consistentHash => simp [Balancer.tables] at kept

private theorem leastConnections_iff (strategy : route.strategy = .leastConnections) :
    route.SelectsSafely hashing ↔ 0 < route.upstream.length := by
  constructor
  · intro safe
    obtain ⟨index, selected, _⟩ := safe [] ""
    by_contra empty
    simp [createBalancer, L7Proxy.createBalancer, strategy, Balancer.nextIndexForKey,
      LeastConnections.nextIndex, LeastConnections.new,
      show route.upstream.length = 0 by omega] at selected
  · intro nonempty calls key
    have kept := (reached hashing route calls).1
    simp only [createBalancer, L7Proxy.createBalancer, strategy] at kept ⊢
    generalize calls.foldl _ _ = balancer at kept ⊢
    cases balancer with
    | leastConnections inner =>
        simp only [Balancer.tables, LeastConnections.new, Balancer.leastConnections.injEq,
          LeastConnections.mk.injEq] at kept
        have sized : inner.active.length = route.upstream.length := by
          simpa using congrArg List.length kept
        obtain ⟨index, selected, below⟩ := LeastConnections.nextIndex_lt nonempty sized
        exact ⟨index, selected, fun _ => below⟩
    | roundRobin | weightedRoundRobin | consistentHash => simp [Balancer.tables] at kept

private theorem consistentHash_iff (strategy : route.strategy = .consistentHash) :
    route.SelectsSafely hashing ↔ 0 < route.upstream.length := by
  constructor
  · intro safe
    obtain ⟨index, selected, _⟩ := safe [] ""
    by_contra empty
    have noRing : (ConsistentHash.new hashing.hashKey route.upstream.length 150).ring = [] := by
      simp [ConsistentHash.new, ConsistentHash.vnodes, show route.upstream.length = 0 by omega]
    simp only [createBalancer, L7Proxy.createBalancer, strategy, List.foldl_nil,
      Balancer.nextIndexForKey, ConsistentHash.nextIndexForKey, noRing] at selected
    split at selected <;> simp at selected
  · intro nonempty calls key
    have kept := (reached hashing route calls).1
    simp only [createBalancer, L7Proxy.createBalancer, strategy] at kept ⊢
    generalize calls.foldl _ _ = balancer at kept ⊢
    cases balancer with
    | consistentHash inner =>
        simp only [Balancer.tables, Balancer.consistentHash.injEq] at kept
        subst kept
        obtain ⟨index, selected, below⟩ := ConsistentHash.nextIndexForKey_lt hashing.hashKey
          hashing.binarySearch nonempty (show 0 < 150 by decide) route.upstream.length key
        exact ⟨index, selected, fun _ => below⟩
    | roundRobin | leastConnections | weightedRoundRobin => simp [Balancer.tables] at kept

private theorem weighted_safe (strategy : route.strategy = .weightedRoundRobin)
    (configured : route.HasSelection) : route.SelectsSafely hashing := by
  intro calls key
  obtain ⟨kept, fits⟩ := reached hashing route calls
  simp only [HasSelection, strategy, effectiveWeights] at configured
  simp only [createBalancer, L7Proxy.createBalancer, strategy] at kept fits ⊢
  generalize calls.foldl _ _ = balancer at kept fits ⊢
  cases balancer with
  | weightedRoundRobin inner =>
      obtain ⟨⟨weight, member, positive⟩, inside⟩ := configured
      have schedule : inner.schedule = (WeightedRoundRobin.new
          (route.weights.getD (List.replicate route.upstream.length 1))).schedule := by
        simp only [Balancer.tables, Balancer.weightedRoundRobin.injEq,
          WeightedRoundRobin.mk.injEq] at kept
        exact kept.2
      have nonempty : inner.schedule.length ≠ 0 := by
        intro zero
        rw [schedule, List.length_eq_zero_iff, WeightedRoundRobin.schedule_eq_nil_iff] at zero
        exact absurd (zero weight member) (by omega)
      have below := Nat.mod_lt inner.counter (Nat.pos_of_ne_zero nonempty)
      obtain ⟨index, found⟩ :
          ∃ index, inner.schedule[inner.counter % inner.schedule.length]? = some index :=
        ⟨_, List.getElem?_eq_getElem below⟩
      refine ⟨index, ?_, fun pool => ?_⟩
      · simp only [Balancer.nextIndexForKey, WeightedRoundRobin.nextIndex, if_neg nonempty, found]
      · have reachedTurn := Nat.mod_le inner.counter inner.schedule.length
        have counted : inner.counter < wordSize := fits
        generalize inner.counter % inner.schedule.length = turn at found reachedTurn
        rw [schedule] at found
        obtain ⟨owned, stored, ownedPositive, before⟩ := WeightedRoundRobin.schedule_getElem?_some found
        exact inside index owned stored ownedPositive (by omega) pool
  | roundRobin | leastConnections | consistentHash => simp [Balancer.tables] at kept

private theorem weighted_configured (strategy : route.strategy = .weightedRoundRobin)
    (safe : route.SelectsSafely hashing) : route.HasSelection := by
  simp only [HasSelection, strategy]
  have created : route.createBalancer hashing.hashKey =
      .weightedRoundRobin (.new route.effectiveWeights) := by
    simp [createBalancer, L7Proxy.createBalancer, strategy, effectiveWeights]
  constructor
  · obtain ⟨index, selected, _⟩ := safe [] ""
    by_contra none
    have empty : (WeightedRoundRobin.new route.effectiveWeights).schedule = [] := by
      refine WeightedRoundRobin.schedule_eq_nil_iff.mpr fun weight member => ?_
      by_contra nonzero
      exact none ⟨weight, member, Nat.pos_of_ne_zero nonzero⟩
    simp [created, Balancer.nextIndexForKey, WeightedRoundRobin.nextIndex, empty] at selected
  · intro index weight stored positive turn pool
    have first := WeightedRoundRobin.schedule_getElem?_first stored positive
    obtain ⟨selected, result, below⟩ :=
      safe (List.replicate (route.effectiveWeights.take index).sum (.nextIndexForKey "")) ""
    have within := (List.getElem?_eq_some_iff.mp first).1
    have counted : (WeightedRoundRobin.new route.effectiveWeights).counter +
        (route.effectiveWeights.take index).sum < wordSize := by
      simpa [WeightedRoundRobin.new] using turn
    have same : selected = index := by
      rw [created, Balancer.weighted_selections _ _ _ counted] at result
      have started : (WeightedRoundRobin.new route.effectiveWeights).counter = 0 := rfl
      simp only [Balancer.nextIndexForKey, WeightedRoundRobin.nextIndex, started, Nat.zero_add,
        Nat.mod_eq_of_lt within, first, show (WeightedRoundRobin.new
          route.effectiveWeights).schedule.length ≠ 0 by omega, if_false, Option.some.injEq] at result
      exact result.symm
    exact same ▸ below pool

theorem HasSelection.selectsSafely (configured : route.HasSelection) (hashing : Hashing) :
    route.SelectsSafely hashing := by
  cases strategy : route.strategy with
  | roundRobin => exact (roundRobin_iff strategy).mpr (by simpa only [HasSelection, strategy] using configured)
  | leastConnections =>
      exact (leastConnections_iff strategy).mpr (by simpa only [HasSelection, strategy] using configured)
  | weightedRoundRobin => exact weighted_safe strategy configured
  | consistentHash =>
      exact (consistentHash_iff strategy).mpr (by simpa only [HasSelection, strategy] using configured)

/-- Selection is safe for exactly the configurations with a nonempty pool, or a
nonempty schedule that stays inside the pool. -/
theorem selectsSafely_iff_hasSelection (hashing : Hashing) (route : RouteConfig) :
    route.SelectsSafely hashing ↔ route.HasSelection := by
  cases strategy : route.strategy with
  | roundRobin => simpa only [HasSelection, strategy] using roundRobin_iff strategy
  | leastConnections => simpa only [HasSelection, strategy] using leastConnections_iff strategy
  | weightedRoundRobin => exact ⟨weighted_configured strategy, weighted_safe strategy⟩
  | consistentHash => simpa only [HasSelection, strategy] using consistentHash_iff strategy

/-- An empty pool, all-zero weights, and a weight list longer than the pool. -/
theorem unchecked_routes_not_selectsSafely :
    ¬ ({ routePrefix := "/api", upstream := [] } : RouteConfig).SelectsSafely
        ⟨fun _ => 0, .leftmost⟩ ∧
      ¬ ({ routePrefix := "/api", upstream := ["http://a", "http://b"],
           strategy := .weightedRoundRobin, weights := some [0, 0] } : RouteConfig).SelectsSafely
        ⟨fun _ => 0, .leftmost⟩ ∧
      ¬ ({ routePrefix := "/api", upstream := ["http://a"],
           strategy := .weightedRoundRobin, weights := some [1, 1] } : RouteConfig).SelectsSafely
        ⟨fun _ => 0, .leftmost⟩ := by
  refine ⟨fun safe => ?_, fun safe => ?_, fun safe => ?_⟩
  · obtain ⟨index, selected, _⟩ := safe [] "/api"
    exact absurd selected (by simp [createBalancer, L7Proxy.createBalancer,
      Balancer.nextIndexForKey, RoundRobin.nextIndex])
  · obtain ⟨index, selected, _⟩ := safe [] "/api"
    exact absurd selected (by simp [createBalancer, L7Proxy.createBalancer,
      Balancer.nextIndexForKey, WeightedRoundRobin.nextIndex, WeightedRoundRobin.new])
  · obtain ⟨index, selected, below⟩ := safe [.nextIndexForKey "/api"] "/api"
    have second : index = 1 := by
      have : some 1 = some index := selected
      simpa using this.symm
    have := below (by decide)
    simp [second] at this

end RouteConfig

end L7Proxy
