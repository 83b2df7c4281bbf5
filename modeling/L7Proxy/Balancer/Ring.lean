import L7Proxy.Balancer.Selection
import L7Proxy.Library.HashCircle

/-!
# The consistent-hash ring

Looking a key up in the sorted ring finds its successor on the circle of all virtual
nodes, whatever the hashes are.
-/

set_option autoImplicit false

namespace L7Proxy

open HashCircle

namespace ConsistentHash

variable {hashKey : String → Nat} {poolSize replicas : Nat}

def vnodeHashes (hashKey : String → Nat) (poolSize replicas : Nat) : Set Nat :=
  {hash | ∃ i < poolSize, ∃ r < replicas, hashKey s!"{i}:{r}" = hash}

theorem mem_ring_hashes (hash : Nat) :
    hash ∈ (new hashKey poolSize replicas).ring.map (·.1) ↔ hash ∈ vnodeHashes hashKey poolSize replicas := by
  simp only [List.mem_map, mem_ring, vnodeHashes, Set.mem_ofPred_eq]
  constructor
  · intro placed
    obtain ⟨_, ⟨i, below, r, replica, rfl⟩, rfl⟩ := placed
    exact ⟨i, below, r, replica, rfl⟩
  · intro placed
    obtain ⟨i, below, r, replica, rfl⟩ := placed
    exact ⟨_, ⟨i, below, r, replica, rfl⟩, rfl⟩

/-- The entry at the insertion point of a key, or the first one past the end, is the
successor of the key among the hashes of a sorted ring. -/
private theorem successor_of_insertion {ring : List (Nat × Nat)} {hash position : Nat}
    (sorted : ring.Pairwise (·.1 ≤ ·.1)) (nonempty : ring ≠ [])
    (below : ∀ entry ∈ ring.take position, entry.1 < hash)
    (above : ∀ entry ∈ ring.drop position, hash < entry.1) :
    ∃ entry, (if ring.length ≤ position then ring[0]? else ring[position]?) = some entry ∧
      entry ∈ ring ∧ Successor {node | node ∈ ring.map (·.1)} hash entry.1 := by
  have hashesSorted : (ring.map (·.1)).Pairwise (· ≤ ·) := List.pairwise_map.mpr sorted
  by_cases past : ring.length ≤ position
  · rw [if_pos past]
    rw [List.take_of_length_le past] at below
    cases ring with
    | nil => exact absurd rfl nonempty
    | cons first rest =>
        refine ⟨first, rfl, List.mem_cons_self, successor_wraps hashesSorted ?_⟩
        intro node member
        rw [← List.map_cons] at member
        obtain ⟨entry, present, rfl⟩ := List.mem_map.mp member
        exact below entry present
  · rw [if_neg past]
    have inside := not_le.mp past
    refine ⟨ring[position], List.getElem?_eq_getElem inside, List.getElem_mem inside, ?_⟩
    have split : ring = ring.take position ++ ring[position] :: ring.drop (position + 1) := by
      rw [← List.drop_eq_getElem_cons inside, List.take_append_drop]
    have hashes : ring.map (·.1) = (ring.take position).map (·.1) ++
        ring[position].1 :: (ring.drop (position + 1)).map (·.1) := by
      conv_lhs => rw [split]
      rw [List.map_append, List.map_cons]
    rw [hashes] at hashesSorted ⊢
    refine successor_of_split hashesSorted ?_ ?_
    · intro node member
      obtain ⟨entry, present, rfl⟩ := List.mem_map.mp member
      exact below entry present
    · refine (above ring[position] ?_).le
      rw [List.drop_eq_getElem_cons inside]
      exact List.mem_cons_self

/-- The selected index comes from a ring entry whose hash is the successor of the key. -/
theorem lookup_successor (hashKey : String → Nat) (binarySearch : BinarySearch)
    {poolSize replicas : Nat} (nonempty : 0 < poolSize) (replicated : 0 < replicas)
    (size : Nat) (key : String) :
    ∃ entry ∈ (new hashKey poolSize replicas).ring,
      (new hashKey poolSize replicas).nextIndexForKey hashKey binarySearch size key = some entry.2 ∧
        Successor (vnodeHashes hashKey poolSize replicas) (hashKey key) entry.1 := by
  have sorted := ring_sorted hashKey poolSize replicas
  have hashes : {node | node ∈ (new hashKey poolSize replicas).ring.map (·.1)} =
      vnodeHashes hashKey poolSize replicas := Set.ext mem_ring_hashes
  simp only [nextIndexForKey]
  cases result : binarySearch.search (new hashKey poolSize replicas).ring (hashKey key) with
  | ok position =>
      obtain ⟨entry, stored, same⟩ := binarySearch.found sorted result
      have member := List.mem_of_getElem? stored
      refine ⟨entry, member, by simp only [stored, Option.map_some], ?_⟩
      rw [same]
      refine successor_self ?_
      rw [← hashes, ← same]
      exact List.mem_map_of_mem member
  | error position =>
      obtain ⟨_, below, above⟩ := binarySearch.missing sorted result
      have placed : (hashKey s!"{0}:{0}", 0) ∈ (new hashKey poolSize replicas).ring :=
        mem_ring.mpr ⟨0, nonempty, 0, replicated, rfl⟩
      obtain ⟨entry, stored, member, successor⟩ :=
        successor_of_insertion sorted (List.ne_nil_of_mem placed) below above
      rw [hashes] at successor
      exact ⟨entry, member, by simp only [stored, Option.map_some], successor⟩

/-- Lookup agrees with a scan of all virtual nodes: the selected index owns one with
the least hash not below the key's, or with the least hash of all when every hash is
below the key's. -/
theorem nextIndexForKey_agrees_with_scan (hashKey : String → Nat) (binarySearch : BinarySearch)
    {poolSize replicas : Nat} (nonempty : 0 < poolSize) (replicated : 0 < replicas)
    (size : Nat) (key : String) :
    ∃ i < poolSize, ∃ r < replicas,
      (new hashKey poolSize replicas).nextIndexForKey hashKey binarySearch size key = some i ∧
        (IsLeast {hash ∈ vnodeHashes hashKey poolSize replicas | hashKey key ≤ hash} (hashKey s!"{i}:{r}") ∨
          (∀ hash ∈ vnodeHashes hashKey poolSize replicas, hash < hashKey key) ∧
            IsLeast (vnodeHashes hashKey poolSize replicas) (hashKey s!"{i}:{r}")) := by
  obtain ⟨entry, member, selected, successor⟩ :=
    lookup_successor hashKey binarySearch nonempty replicated size key
  obtain ⟨i, below, r, replica, rfl⟩ := mem_ring.mp member
  exact ⟨i, below, r, replica, selected, successor⟩

/-- All keys of one length collide: of two upstreams with two virtual nodes each. -/
theorem nextIndexForKey_agrees_with_scan_lengths :
    ∃ i < 2, ∃ r < 2,
      (new String.length 2 2).nextIndexForKey String.length .leftmost 2 "/users" = some i ∧
        (IsLeast {hash ∈ vnodeHashes String.length 2 2 | "/users".length ≤ hash} s!"{i}:{r}".length ∨
          (∀ hash ∈ vnodeHashes String.length 2 2, hash < "/users".length) ∧
            IsLeast (vnodeHashes String.length 2 2) s!"{i}:{r}".length) :=
  nextIndexForKey_agrees_with_scan String.length .leftmost (by decide) (by decide) 2 "/users"

end ConsistentHash

end L7Proxy
