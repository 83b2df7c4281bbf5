import L7Proxy.Proxy.PathRewriting

/-!
# What path rewriting keeps of a target

The prefix that matched the path is stripped from path and query together. The rest
keeps the query, and two targets of one route become the same only where a slash
stands in for an empty rest.
-/

set_option autoImplicit false

namespace L7Proxy

/-- A request target in origin form: an absolute path, then perhaps a query. -/
structure Target where
  path : String
  query : Option String
  rooted : startsWith path "/" = true
  plain : '?' ∉ path.toList

def queryText : Option String → String
  | none => ""
  | some query => "?" ++ query

/-- What follows the first `?` of a path and query. -/
def queryOf (pathAndQuery : String) : Option String :=
  match pathAndQuery.toList.dropWhile (· ≠ '?') with
  | [] => none
  | _ :: query => some (String.ofList query)

theorem queryOf_append {path : String} (query : Option String) (plain : '?' ∉ path.toList) :
    queryOf (path ++ queryText query) = query := by
  have skipped : path.toList.dropWhile (· ≠ '?') = [] := by
    rw [List.dropWhile_eq_nil_iff]
    intro char member
    simp only [ne_eq, decide_not, Bool.not_eq_eq_eq_not, Bool.not_true, decide_eq_false_iff_not]
    intro mark
    exact plain (mark ▸ member)
  rw [queryOf, String.toList_append, List.dropWhile_append, skipped]
  cases query with
  | none => rfl
  | some query => simp [queryText, String.toList_append]

namespace Target

def text (target : Target) : String := target.path ++ queryText target.query

variable (target : Target)

theorem pathOf_text : pathOf target.text = target.path := by
  have taken : target.text.toList.takeWhile (· ≠ '?') = target.path.toList := by
    rw [text, String.toList_append, List.takeWhile_append_of_pos]
    · cases target.query with
      | none => simp [queryText]
      | some query => simp [queryText, String.toList_append]
    · intro char member
      simp only [ne_eq, decide_not, Bool.not_eq_eq_eq_not, Bool.not_true, decide_eq_false_iff_not]
      intro mark
      exact target.plain (mark ▸ member)
  have nonempty : target.path.isEmpty = false := by
    obtain ⟨rest, split⟩ := startsWith_iff.mp target.rooted
    rw [split]
    simp
  simp only [pathOf, taken, String.ofList_toList, nonempty, Bool.false_eq_true, if_false]

/-- The prefix that matched the path leaves a rest of the path and the whole query. -/
theorem splits {router : Router} {route : Route} {uri : Uri} (shape : uri.pathAndQuery = some target.text)
    (matched : router.matchRoute uri.path = some route) :
    ∃ rest, '?' ∉ rest.toList ∧ target.text = route.routePrefix ++ (rest ++ queryText target.query) := by
  have path : uri.path = target.path := by
    simp [Uri.path, shape, pathOf_text]
  obtain ⟨rest, pathSplit⟩ := startsWith_iff.mp (Router.matchRoute_startsWith matched)
  rw [path] at pathSplit
  have plain := target.plain
  rw [pathSplit, String.toList_append, List.mem_append, not_or] at plain
  exact ⟨rest, plain.2, by rw [text, pathSplit, String.append_assoc]⟩

end Target

theorem queryOf_finalPath {routePrefix rest : String} (query : Option String) (plain : '?' ∉ rest.toList) :
    queryOf (finalPath (routePrefix ++ (rest ++ queryText query)) routePrefix) = query := by
  rw [finalPath_append]
  split
  · next empty =>
      rw [← queryOf_append query plain, empty]
      rfl
  · exact queryOf_append query plain

theorem finalPath_eq_iff (routePrefix left right : String) :
    finalPath (routePrefix ++ left) routePrefix = finalPath (routePrefix ++ right) routePrefix ↔
      left = right ∨ left = "" ∧ right = "/" ∨ left = "/" ∧ right = "" := by
  rw [finalPath_append, finalPath_append]
  by_cases leftEmpty : left = ""
  · by_cases rightEmpty : right = ""
    · simp [leftEmpty, rightEmpty]
    · rw [leftEmpty, if_pos rfl, if_neg rightEmpty]
      constructor
      · intro slash
        exact .inr (.inl ⟨rfl, slash.symm⟩)
      · intro same
        rcases same with empty | ⟨_, slash⟩ | ⟨_, empty⟩
        · exact absurd empty.symm rightEmpty
        · exact slash.symm
        · exact absurd empty rightEmpty
  · by_cases rightEmpty : right = ""
    · simp [leftEmpty, rightEmpty]
    · simp [leftEmpty, rightEmpty]

/-- The prefix of the matched route is always stripped, the query is passed on as it
came, and two targets of one route are rewritten alike exactly when they are the same
or are the prefix and the prefix with a slash. -/
theorem finalPath_loses_nothing {router : Router} {route : Route} {req otherReq : Request}
    {target other : Target} (shape : req.uri.pathAndQuery = some target.text)
    (otherShape : otherReq.uri.pathAndQuery = some other.text)
    (matched : router.matchRoute req.uri.path = some route)
    (otherMatched : router.matchRoute otherReq.uri.path = some route) :
    (stripPrefix target.text route.routePrefix).isSome = true ∧
      queryOf (finalPath target.text route.routePrefix) = target.query ∧
      (finalPath target.text route.routePrefix = finalPath other.text route.routePrefix ↔
        target.text = other.text ∨
          target.text = route.routePrefix ∧ other.text = route.routePrefix ++ "/" ∨
          target.text = route.routePrefix ++ "/" ∧ other.text = route.routePrefix) := by
  obtain ⟨rest, plain, split⟩ := target.splits shape matched
  obtain ⟨otherRest, otherPlain, otherSplit⟩ := other.splits otherShape otherMatched
  rw [split, otherSplit]
  refine ⟨by simp, queryOf_finalPath target.query plain, ?_⟩
  rw [finalPath_eq_iff]
  simp

/-- With the shipped configuration `/api?page=2` and `/api` are told apart, and `/api` and
`/api/` are not. -/
theorem finalPath_loses_nothing_shipped :
    finalPath "/api?page=2" "/api" ≠ finalPath "/api" "/api" ∧
      finalPath "/api" "/api" = finalPath "/api/" "/api" := by
  have matched : ∀ pathAndQuery ∈ ["/api", "/api/", "/api?page=2"],
      Router.matchRoute ⟨[⟨"/api", ["http://127.0.0.1:10001"], 0⟩]⟩ (Uri.path ⟨some pathAndQuery⟩) =
        some ⟨"/api", ["http://127.0.0.1:10001"], 0⟩ := by
    decide
  have rewrites := @finalPath_loses_nothing ⟨[⟨"/api", ["http://127.0.0.1:10001"], 0⟩]⟩
    ⟨"/api", ["http://127.0.0.1:10001"], 0⟩
  constructor
  · intro same
    have told := (@rewrites ⟨"GET", ⟨some "/api?page=2"⟩, [], none⟩ ⟨"GET", ⟨some "/api"⟩, [], none⟩
      ⟨"/api", some "page=2", by decide, by decide⟩ ⟨"/api", none, by decide, by decide⟩ rfl rfl
      (matched "/api?page=2" (by simp)) (matched "/api" (by simp))).2.2.mp same
    revert told
    decide
  · apply (@rewrites ⟨"GET", ⟨some "/api"⟩, [], none⟩ ⟨"GET", ⟨some "/api/"⟩, [], none⟩
      ⟨"/api", none, by decide, by decide⟩ ⟨"/api/", none, by decide, by decide⟩ rfl rfl
      (matched "/api" (by simp)) (matched "/api/" (by simp))).2.2.mpr
    exact .inr (.inl ⟨by decide, by decide⟩)

end L7Proxy
