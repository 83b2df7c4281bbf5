import L7Proxy.Balancer.Ring
import L7Proxy.ConfigReloader

/-!
# Consistent hashing across a removal

Virtual nodes are named by the position of their upstream in the pool, so a smaller
ring lacks the nodes of the last position, whichever upstream was removed. Which keys
keep their upstream is decided by the positions before and after.
-/

set_option autoImplicit false

namespace L7Proxy

open HashCircle

/-- The upstream of a request's first attempt once the configuration is applied: the
route's balancer gives an index into its pool. -/
def AppState.firstUpstream (hashing : Hashing) (app : AppState) (config : Config) (position : Nat)
    (path : String) : Option String := do
  let (router, app) := app.buildRouter hashing config
  let route ← router.routes[position]?
  let balancer ← app.balancers[route.balancer]?
  let startIndex ← (balancer.nextIndexForKey hashing route.upstreams.length path).1
  route.upstreams[startIndex % route.upstreams.length]?

/-- The index that the balancer built for a consistent-hash pool gives. -/
def ringIndex (hashing : Hashing) (upstreams : List String) (path : String) : Option Nat :=
  (ConsistentHash.new hashing.hashKey upstreams.length 150).nextIndexForKey hashing.hashKey
    hashing.binarySearch upstreams.length path

/-- The position owns the virtual node that follows the key on a circle of the
virtual nodes of a number of upstreams. -/
def Owns (hashKey : String → Nat) (poolSize : Nat) (key : String) (i : Nat) : Prop :=
  i < poolSize ∧ ∃ r < 150, Successor (ConsistentHash.vnodeHashes hashKey poolSize 150) (hashKey key)
    (hashKey s!"{i}:{r}")

/-- No two virtual nodes of the pool have the same hash. -/
def DistinctVnodes (hashKey : String → Nat) (poolSize : Nat) : Prop :=
  ∀ i < poolSize, ∀ r < 150, ∀ j < poolSize, ∀ s < 150,
    hashKey s!"{i}:{r}" = hashKey s!"{j}:{s}" → i = j ∧ r = s

/-- The removed position is the last one, the key's node belongs to an earlier
position, or it belongs to the last position and the next node that does not is of
the position before. -/
def SurvivesRemoval (hashKey : String → Nat) (poolSize removed : Nat) (key : String) : Prop :=
  removed + 1 = poolSize ∨ (∃ i < removed, Owns hashKey poolSize key i) ∨
    Owns hashKey poolSize key (poolSize - 1) ∧ Owns hashKey (poolSize - 1) key (poolSize - 2)

/-!
## Owners
-/

section Owners

variable {hashKey : String → Nat} {poolSize smaller : Nat} {key : String} {i j : Nat}

theorem DistinctVnodes.mono (distinct : DistinctVnodes hashKey poolSize) (fewer : smaller ≤ poolSize) :
    DistinctVnodes hashKey smaller :=
  fun i below r replica j otherBelow s otherReplica same =>
    distinct i (below.trans_le fewer) r replica j (otherBelow.trans_le fewer) s otherReplica same

theorem Owns.unique (distinct : DistinctVnodes hashKey poolSize) (first : Owns hashKey poolSize key i)
    (second : Owns hashKey poolSize key j) : i = j := by
  obtain ⟨below, r, replica, successor⟩ := first
  obtain ⟨otherBelow, s, otherReplica, otherSuccessor⟩ := second
  exact (distinct i below r replica j otherBelow s otherReplica (successor.unique otherSuccessor)).1

/-- An owner keeps the key when the positions after some bound leave the circle. -/
theorem Owns.keep (owns : Owns hashKey poolSize key i) (fewer : smaller ≤ poolSize) (remains : i < smaller) :
    Owns hashKey smaller key i := by
  obtain ⟨_, r, replica, successor⟩ := owns
  refine ⟨remains, r, replica, successor.keep ?_ ⟨i, remains, r, replica, rfl⟩⟩
  intro hash placed
  obtain ⟨j, below, s, otherReplica, same⟩ := placed
  exact ⟨j, below.trans_le fewer, s, otherReplica, same⟩

theorem ringIndex_owns (hashing : Hashing) {upstreams : List String} (nonempty : 0 < upstreams.length)
    (path : String) :
    ∃ i, ringIndex hashing upstreams path = some i ∧ Owns hashing.hashKey upstreams.length path i := by
  obtain ⟨entry, member, selected, successor⟩ := ConsistentHash.lookup_successor hashing.hashKey
    hashing.binarySearch nonempty (show 0 < 150 by decide) upstreams.length path
  obtain ⟨i, below, r, replica, rfl⟩ := ConsistentHash.mem_ring.mp member
  exact ⟨i, selected, below, r, replica, successor⟩

end Owners

/-!
## First upstreams
-/

theorem firstUpstream_eq (hashing : Hashing) (app : AppState) {config : Config} {position : Nat}
    {route : RouteConfig} (configured : config.routes[position]? = some route)
    (hashed : route.strategy = .consistentHash) (path : String) :
    app.firstUpstream hashing config position path =
      (ringIndex hashing route.upstream path).bind fun i => route.upstream[i % route.upstream.length]? := by
  have built : (config.router app.balancers.length).routes[position]? =
      some ⟨route.routePrefix, route.upstream, app.balancers.length + position⟩ := by
    simp [Config.router, List.getElem?_zipIdx, configured]
  have stored : (app.balancers ++ config.balancers hashing)[app.balancers.length + position]? =
      some (.consistentHash (.new hashing.hashKey route.upstream.length 150)) := by
    rw [List.getElem?_append_right (Nat.le_add_right ..), Nat.add_sub_cancel_left]
    simp [Config.balancers, configured, createBalancer, hashed]
  simp [AppState.firstUpstream, AppState.buildRouter, built, stored, Balancer.nextIndexForKey, ringIndex]

/-- The first upstream of a key is the one at the position that owns the key. -/
theorem firstUpstream_owner (hashing : Hashing) (app : AppState) {config : Config} {position : Nat}
    {route : RouteConfig} (configured : config.routes[position]? = some route)
    (hashed : route.strategy = .consistentHash) (nonempty : 0 < route.upstream.length) (path : String) :
    ∃ i, Owns hashing.hashKey route.upstream.length path i ∧
      app.firstUpstream hashing config position path = route.upstream[i]? := by
  obtain ⟨i, selected, owns⟩ := ringIndex_owns hashing nonempty path
  refine ⟨i, owns, ?_⟩
  rw [firstUpstream_eq hashing app configured hashed path, selected, Option.bind_some,
    Nat.mod_eq_of_lt owns.1]

theorem getElem?_eraseIdx_eq_iff {upstreams : List String} (distinct : upstreams.Nodup)
    {removed i j : Nat} (present : i < upstreams.length) :
    (upstreams.eraseIdx removed)[j]? = upstreams[i]? ↔ (if j < removed then j else j + 1) = i := by
  rw [List.getElem?_eraseIdx]
  split <;> rw [eq_comm, List.getElem?_inj present distinct, eq_comm]

/-- A removal moves no other position's keys exactly when the owner on the smaller
circle, counted past the removed position, is the owner on the larger one. -/
theorem survivesRemoval_iff {hashKey : String → Nat} {poolSize removed i j : Nat} {key : String}
    (distinct : DistinctVnodes hashKey poolSize) (several : 2 ≤ poolSize) (inside : removed < poolSize)
    (owns : Owns hashKey poolSize key i) (nextOwns : Owns hashKey (poolSize - 1) key j)
    (other : i ≠ removed) :
    (if j < removed then j else j + 1) = i ↔ SurvivesRemoval hashKey poolSize removed key := by
  have fewer : poolSize - 1 ≤ poolSize := Nat.sub_le ..
  have below := owns.1
  have nextBelow := nextOwns.1
  have stays : i < poolSize - 1 → j = i := fun remains =>
    nextOwns.unique (distinct.mono fewer) (owns.keep fewer remains)
  constructor
  · intro same
    by_cases lastRemoved : removed + 1 = poolSize
    · exact .inl lastRemoved
    · by_cases lastOwner : i = poolSize - 1
      · have nextOwner : j = poolSize - 2 := by
          split at same <;> omega
        exact .inr (.inr ⟨lastOwner ▸ owns, nextOwner ▸ nextOwns⟩)
      · have kept := stays (by omega)
        refine .inr (.inl ⟨i, ?_, owns⟩)
        split at same <;> omega
  · intro survives
    rcases survives with lastRemoved | ⟨owner, earlier, ownerOwns⟩ | ⟨lastOwns, nextLastOwns⟩
    · have kept := stays (by omega)
      rw [if_pos (by omega), kept]
    · have owner_eq := ownerOwns.unique distinct owns
      have kept := stays (by omega)
      rw [if_pos (by omega), kept]
    · have lastOwner := owns.unique distinct lastOwns
      have nextOwner := nextOwns.unique (distinct.mono fewer) nextLastOwns
      rw [if_neg (by omega)]
      omega

/-- A path whose first upstream was not removed keeps it exactly when the removal
shifts no position up to its owner, or shifts the owner along with its keys. -/
theorem firstUpstream_kept_iff {hashing : Hashing} (before after : AppState) {config reloaded : Config}
    {position newPosition removed : Nat} {route smaller : RouteConfig} {path : String}
    (configured : config.routes[position]? = some route) (hashed : route.strategy = .consistentHash)
    (several : 2 ≤ route.upstream.length) (distinctUrls : route.upstream.Nodup)
    (distinctVnodes : DistinctVnodes hashing.hashKey route.upstream.length)
    (inside : removed < route.upstream.length)
    (reconfigured : reloaded.routes[newPosition]? = some smaller)
    (stillHashed : smaller.strategy = .consistentHash)
    (shrunk : smaller.upstream = route.upstream.eraseIdx removed)
    (other : before.firstUpstream hashing config position path ≠ route.upstream[removed]?) :
    after.firstUpstream hashing reloaded newPosition path =
        before.firstUpstream hashing config position path ↔
      SurvivesRemoval hashing.hashKey route.upstream.length removed path := by
  have size : smaller.upstream.length = route.upstream.length - 1 := by
    rw [shrunk, List.length_eraseIdx_of_lt inside]
  obtain ⟨i, owns, first⟩ := firstUpstream_owner hashing before configured hashed (by omega) path
  obtain ⟨j, nextOwns, next⟩ := firstUpstream_owner hashing after reconfigured stillHashed (by omega) path
  rw [size] at nextOwns
  have elsewhere : i ≠ removed := by
    intro same
    exact other (by rw [first, same])
  rw [first, next, shrunk, getElem?_eraseIdx_eq_iff distinctUrls owns.1]
  exact survivesRemoval_iff distinctVnodes several inside owns nextOwns elsewhere

/-!
## Three upstreams
-/

def decimal (digits : List Char) : Nat :=
  digits.foldl (fun value digit => 10 * value + (digit.toNat - '0'.toNat)) 0

/-- A hash under which the virtual nodes follow one another by position. -/
def numberHash (key : String) : Nat :=
  let position := decimal (key.toList.takeWhile (· ≠ ':'))
  let replica := decimal ((key.toList.dropWhile (· ≠ ':')).drop 1)
  (1000 * position + replica) % wordSize

def hashedRoute (upstreams : List String) : RouteConfig :=
  { routePrefix := "/", upstream := upstreams, strategy := .consistentHash }

def hashedPool (upstreams : List String) : Config :=
  { server := { requestTimeoutSecs := 5, maxRetries := 1 }, routes := [hashedRoute upstreams] }

private theorem hashedPool_route (upstreams : List String) :
    (hashedPool upstreams).routes[0]? = some (hashedRoute upstreams) := rfl

private theorem numberHash_distinct : DistinctVnodes numberHash 3 := by
  have values : ∀ i < 3, ∀ r < 150, numberHash s!"{i}:{r}" = 1000 * i + r := by decide +kernel
  intro i below r replica j otherBelow s otherReplica same
  rw [values i below r replica, values j otherBelow s otherReplica] at same
  omega

private theorem numberHash_owns {poolSize : Nat} (several : 1 < poolSize) : Owns numberHash poolSize "/1" 1 := by
  have hit : numberHash s!"{1}:{0}" = numberHash "/1" := by decide +kernel
  refine ⟨several, 0, by decide, ?_⟩
  rw [hit]
  exact successor_self ⟨1, several, 0, by decide, hit⟩

private theorem hashedPool_first {upstreams : List String} (app : AppState) (several : 1 < upstreams.length)
    (few : upstreams.length ≤ 3) :
    app.firstUpstream ⟨numberHash, .leftmost⟩ (hashedPool upstreams) 0 "/1" = upstreams[1]? := by
  obtain ⟨i, owns, first⟩ := firstUpstream_owner ⟨numberHash, .leftmost⟩ app
    (hashedPool_route upstreams) rfl (Nat.zero_lt_of_lt several) "/1"
  rw [first, owns.unique (numberHash_distinct.mono few) (numberHash_owns several)]
  rfl

def threeUpstreams : List String := ["http://a", "http://b", "http://c"]

/-- Removing the last of three upstreams leaves the second one's keys in place. -/
theorem firstUpstream_kept_iff_last :
    let hashing : Hashing := ⟨numberHash, .leftmost⟩
    let app := AppState.initial hashing (hashedPool threeUpstreams)
    app.firstUpstream hashing (hashedPool (threeUpstreams.eraseIdx 2)) 0 "/1" =
      app.firstUpstream hashing (hashedPool threeUpstreams) 0 "/1" := by
  intro hashing app
  have selected := hashedPool_first app (show 1 < threeUpstreams.length by decide) (by decide)
  have other : app.firstUpstream hashing (hashedPool threeUpstreams) 0 "/1" ≠ threeUpstreams[2]? := by
    rw [selected]
    decide
  exact (firstUpstream_kept_iff app app (hashedPool_route threeUpstreams) rfl (by decide) (by decide)
    numberHash_distinct (by decide) (hashedPool_route (threeUpstreams.eraseIdx 2)) rfl rfl other).mpr
      (.inl rfl)

/-- Removing the first of three upstreams hands the second one's keys to the third. -/
theorem removal_moves_key :
    let hashing : Hashing := ⟨numberHash, .leftmost⟩
    let app := AppState.initial hashing (hashedPool threeUpstreams)
    DistinctVnodes numberHash threeUpstreams.length ∧ threeUpstreams.Nodup ∧
      app.firstUpstream hashing (hashedPool threeUpstreams) 0 "/1" = some "http://b" ∧
      app.firstUpstream hashing (hashedPool (threeUpstreams.eraseIdx 0)) 0 "/1" = some "http://c" := by
  intro hashing app
  exact ⟨numberHash_distinct, by decide, hashedPool_first app (by decide) (by decide),
    hashedPool_first app (by decide) (by decide)⟩

end L7Proxy
