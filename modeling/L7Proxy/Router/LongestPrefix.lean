import L7Proxy.Http
import L7Proxy.Router
import Mathlib.Data.List.Nodup

/-!
# Longest-prefix routing

The route of a path has the longest of the prefixes that begin the path's bytes. The
order of the configuration matters only between routes of one prefix, of which the
last is taken.
-/

set_option autoImplicit false

namespace L7Proxy

/-!
## Byte prefixes
-/

theorem length_utf8Bytes (text : String) : (utf8Bytes text).length = text.utf8ByteSize := by
  rw [String.utf8ByteSize, ← toByteArray_utf8Bytes]
  simp

/-- No character's encoding begins another's, so a prefix of the bytes is one of the text. -/
theorem startsWith_iff_utf8Bytes {text start : String} :
    startsWith text start = true ↔ utf8Bytes start <+: utf8Bytes text := by
  constructor
  · intro started
    obtain ⟨rest, rfl⟩ := startsWith_iff.mp started
    exact ⟨utf8Bytes rest, by simp [utf8Bytes]⟩
  · intro prefixed
    obtain ⟨rest, split⟩ := prefixed
    have encoded : start.toList.utf8Encode ++ rest.toByteArray = text.toList.utf8Encode := by
      rw [utf8Encode_eq_utf8Bytes, utf8Encode_eq_utf8Bytes, ← split]
      exact List.toByteArray_append.symm
    rw [startsWith, List.isPrefixOf_iff_prefix]
    exact List.isPrefix_of_utf8Encode_append_eq_utf8Encode _ encoded

/-- Two beginnings of one text that are equally long are the same. -/
theorem startsWith_unique {text left right : String} (leftStarts : startsWith text left = true)
    (rightStarts : startsWith text right = true) (same : left.utf8ByteSize = right.utf8ByteSize) :
    left = right := by
  have ordered := List.prefix_of_prefix_length_le (startsWith_iff_utf8Bytes.mp leftStarts)
    (startsWith_iff_utf8Bytes.mp rightStarts) (by rw [length_utf8Bytes, length_utf8Bytes, same])
  obtain ⟨rest, split⟩ := startsWith_iff.mp (startsWith_iff_utf8Bytes.mpr ordered)
  have restSize : rest.utf8ByteSize = 0 := by
    rw [split, String.utf8ByteSize_append] at same
    omega
  rw [split, String.utf8ByteSize_eq_zero_iff.mp restSize, String.append_empty]

/-!
## The route chosen
-/

namespace Router

variable {router : Router} {path : String} {route : Route}

theorem matchRoute_eq_none_iff :
    router.matchRoute path = none ↔
      ∀ route ∈ router.routes, startsWith path route.routePrefix = false := by
  simp [matchRoute, maxByKey_eq_none_iff]

/-- Between the candidates the greatest length wins, and the last of those. -/
theorem matchRoute_splits (matched : router.matchRoute path = some route) :
    ∃ before after, router.routes = before ++ route :: after ∧
      (∀ other ∈ before, startsWith path other.routePrefix = true →
        other.routePrefix.utf8ByteSize ≤ route.routePrefix.utf8ByteSize) ∧
      ∀ other ∈ after, startsWith path other.routePrefix = true →
        other.routePrefix.utf8ByteSize < route.routePrefix.utf8ByteSize := by
  obtain ⟨early, late, split, least, less⟩ := maxByKey_splits matched
  obtain ⟨before, rest, routesSplit, beforeFilter, restFilter⟩ := List.filter_eq_append_iff.mp split
  obtain ⟨skipped, after, restSplit, refused, _, afterFilter⟩ := List.filter_eq_cons_iff.mp restFilter
  refine ⟨before ++ skipped, after, by simp [routesSplit, restSplit], ?_, ?_⟩
  · intro other member started
    rcases List.mem_append.mp member with old | new
    · apply least other
      rw [← beforeFilter]
      exact List.mem_filter.mpr ⟨old, started⟩
    · exact absurd started (refused other new)
  · intro other member started
    apply less other
    rw [← afterFilter]
    exact List.mem_filter.mpr ⟨member, started⟩

theorem matchRoute_mem (matched : router.matchRoute path = some route) : route ∈ router.routes := by
  obtain ⟨before, after, split, _⟩ := matchRoute_splits matched
  rw [split]
  exact List.mem_append_right _ List.mem_cons_self

theorem matchRoute_longest (matched : router.matchRoute path = some route) {other : Route}
    (configured : other ∈ router.routes) (started : startsWith path other.routePrefix = true) :
    other.routePrefix.utf8ByteSize ≤ route.routePrefix.utf8ByteSize := by
  obtain ⟨before, after, split, least, less⟩ := matchRoute_splits matched
  rw [split] at configured
  rcases List.mem_append.mp configured with early | late
  · exact least other early started
  · rcases List.mem_cons.mp late with same | later
    · rw [same]
    · exact (less other later started).le

/-- Routes of two tables with the same entries have the same prefix for a path. -/
theorem matchRoute_prefix_eq {permuted : List Route} (entries : router.routes.Perm permuted)
    {other : Route} (matched : router.matchRoute path = some route)
    (otherMatched : Router.matchRoute ⟨permuted⟩ path = some other) :
    other.routePrefix = route.routePrefix := by
  have started := matchRoute_startsWith matched
  have otherStarted := matchRoute_startsWith otherMatched
  have upper := matchRoute_longest matched (entries.mem_iff.mpr (matchRoute_mem otherMatched)) otherStarted
  have lower := matchRoute_longest otherMatched (entries.mem_iff.mp (matchRoute_mem matched)) started
  exact startsWith_unique otherStarted started (le_antisymm upper lower)

theorem matchRoute_perm {permuted : List Route} (entries : router.routes.Perm permuted)
    (distinct : (router.routes.map Route.routePrefix).Nodup) (path : String) :
    Router.matchRoute ⟨permuted⟩ path = router.matchRoute path := by
  cases matched : router.matchRoute path with
  | none =>
      rw [matchRoute_eq_none_iff] at matched ⊢
      intro other configured
      exact matched other (entries.mem_iff.mpr configured)
  | some route =>
      cases otherMatched : Router.matchRoute ⟨permuted⟩ path with
      | none =>
          have refused := matchRoute_eq_none_iff.mp otherMatched route
            (entries.mem_iff.mp (matchRoute_mem matched))
          rw [matchRoute_startsWith matched] at refused
          cases refused
      | some other =>
          have configured := entries.mem_iff.mpr (matchRoute_mem otherMatched)
          rw [List.inj_on_of_nodup_map distinct configured (matchRoute_mem matched)
            (matchRoute_prefix_eq entries matched otherMatched)]

/-- A route is found exactly when some configured prefix begins the bytes of the path,
and it is the last one configured with the longest such prefix. The order of the
configuration does not matter when the prefixes are distinct. -/
theorem matchRoute_longest_last (router : Router) (path : String) :
    ((router.matchRoute path).isSome = true ↔
        ∃ route ∈ router.routes, utf8Bytes route.routePrefix <+: utf8Bytes path) ∧
      (∀ route, router.matchRoute path = some route →
        utf8Bytes route.routePrefix <+: utf8Bytes path ∧
        (∀ other ∈ router.routes, utf8Bytes other.routePrefix <+: utf8Bytes path →
          (utf8Bytes other.routePrefix).length ≤ (utf8Bytes route.routePrefix).length) ∧
        ∃ before after, router.routes = before ++ route :: after ∧
          ∀ other ∈ after, other.routePrefix ≠ route.routePrefix) ∧
      ∀ permuted : List Route, router.routes.Perm permuted →
        (router.routes.map Route.routePrefix).Nodup →
          Router.matchRoute ⟨permuted⟩ path = router.matchRoute path := by
  refine ⟨?_, ?_, ?_⟩
  · simp only [← startsWith_iff_utf8Bytes]
    constructor
    · intro found
      obtain ⟨route, matched⟩ := Option.isSome_iff_exists.mp found
      exact ⟨route, matchRoute_mem matched, matchRoute_startsWith matched⟩
    · intro candidate
      obtain ⟨route, configured, started⟩ := candidate
      rw [Option.isSome_iff_ne_none]
      intro unmatched
      rw [matchRoute_eq_none_iff.mp unmatched route configured] at started
      cases started
  · intro route matched
    simp only [← startsWith_iff_utf8Bytes, length_utf8Bytes]
    have started := matchRoute_startsWith matched
    refine ⟨started, fun other configured => matchRoute_longest matched configured, ?_⟩
    obtain ⟨before, after, split, _, less⟩ := matchRoute_splits matched
    refine ⟨before, after, split, ?_⟩
    intro other later same
    have shorter := less other later (by rw [same]; exact started)
    rw [same] at shorter
    exact lt_irrefl _ shorter
  · intro permuted entries distinct
    exact matchRoute_perm entries distinct path

def nestedRoutes : List Route :=
  [⟨"/", ["http://10.0.0.1:9001"], 0⟩, ⟨"/api/v1", ["http://10.0.0.2:9002"], 1⟩, ⟨"/api", ["http://10.0.0.3:9003"], 2⟩]

/-- The longest of three prefixes is found in either order. -/
theorem matchRoute_longest_last_nested :
    Router.matchRoute ⟨nestedRoutes⟩ "/api/v1/users" = some ⟨"/api/v1", ["http://10.0.0.2:9002"], 1⟩ ∧
      Router.matchRoute ⟨nestedRoutes.reverse⟩ "/api/v1/users" =
        some ⟨"/api/v1", ["http://10.0.0.2:9002"], 1⟩ ∧
      ∀ other ∈ nestedRoutes, utf8Bytes other.routePrefix <+: utf8Bytes "/api/v1/users" →
        (utf8Bytes other.routePrefix).length ≤ (utf8Bytes "/api/v1").length := by
  obtain ⟨_, chosen, reordered⟩ := matchRoute_longest_last ⟨nestedRoutes⟩ "/api/v1/users"
  have matched : Router.matchRoute ⟨nestedRoutes⟩ "/api/v1/users" =
      some ⟨"/api/v1", ["http://10.0.0.2:9002"], 1⟩ := by decide
  have same := reordered nestedRoutes.reverse (List.reverse_perm nestedRoutes).symm (by decide)
  exact ⟨matched, same.trans matched, (chosen _ matched).2.1⟩

end Router

end L7Proxy
