import Mathlib.Order.Bounds.Basic

/-!
# Hash circles

Nodes are placed on a circle by their hashes, and a key belongs to the first node at
or after its own hash, past the greatest node to the least one.
-/

set_option autoImplicit false

namespace HashCircle

variable {Hash : Type} [LinearOrder Hash] {nodes fewer : Set Hash} {key node other : Hash}

/-- The node is the least one not below the key, or the least of all when every node
is below the key. -/
def Successor (nodes : Set Hash) (key node : Hash) : Prop :=
  IsLeast {hash ∈ nodes | key ≤ hash} node ∨ (∀ hash ∈ nodes, hash < key) ∧ IsLeast nodes node

theorem Successor.unique (first : Successor nodes key node) (second : Successor nodes key other) :
    node = other := by
  rcases first with following | ⟨below, least⟩ <;> rcases second with otherFollows | ⟨otherBelow, otherLeast⟩
  · exact following.unique otherFollows
  · exact absurd (otherBelow node following.1.1) (not_lt.mpr following.1.2)
  · exact absurd (below other otherFollows.1.1) (not_lt.mpr otherFollows.1.2)
  · exact least.unique otherLeast

/-- A key keeps its node when other nodes leave the circle. -/
theorem Successor.keep (successor : Successor nodes key node) (subset : fewer ⊆ nodes)
    (remains : node ∈ fewer) : Successor fewer key node := by
  rcases successor with following | ⟨below, least⟩
  · exact .inl ⟨⟨remains, following.1.2⟩, fun hash present => following.2 ⟨subset present.1, present.2⟩⟩
  · exact .inr ⟨fun hash present => below hash (subset present),
      remains, fun hash present => least.2 (subset present)⟩

theorem successor_self (member : key ∈ nodes) : Successor nodes key key :=
  .inl ⟨⟨member, le_rfl⟩, fun _ present => present.2⟩

/-!
## Sorted lists of nodes
-/

variable {before after : List Hash} {first : Hash}

theorem successor_of_split (sorted : (before ++ first :: after).Pairwise (· ≤ ·))
    (below : ∀ hash ∈ before, hash < key) (reaches : key ≤ first) :
    Successor {hash | hash ∈ before ++ first :: after} key first := by
  refine .inl ⟨⟨by simp, reaches⟩, ?_⟩
  intro hash placed
  obtain ⟨member, notBelow⟩ := placed
  rcases List.mem_append.mp member with early | late
  · exact absurd (below hash early) (not_lt.mpr notBelow)
  · rcases List.mem_cons.mp late with rfl | later
    · exact le_rfl
    · exact (List.pairwise_cons.mp (List.pairwise_append.mp sorted).2.1).1 hash later

theorem successor_wraps (sorted : (first :: after).Pairwise (· ≤ ·))
    (below : ∀ hash ∈ first :: after, hash < key) :
    Successor {hash | hash ∈ first :: after} key first := by
  refine .inr ⟨below, List.mem_cons_self, ?_⟩
  intro hash member
  rcases List.mem_cons.mp member with rfl | later
  · exact le_rfl
  · exact (List.pairwise_cons.mp sorted).1 hash later

end HashCircle
