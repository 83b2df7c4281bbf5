import L7Proxy.Proxy.RetryLoop

/-!
# Why a request is given up

A matched request ends without a response when its body cannot be read, or when the loop
over the upstreams is left: a retry was denied, the attempts were spent, or every
upstream was attempted or passed over as unhealthy.
-/

set_option autoImplicit false

namespace L7Proxy

open Interaction Program

/-- Why the loop over the upstreams was left. An upstream is passed over where the scan
before the loop found a healthy one. -/
inductive GaveUp (server : ServerConfig) (route : Route) : List ProxyEvent → Prop where
  | denied {history : List ProxyEvent} (denial : ⟨.allowRetry, false⟩ ∈ history) : GaveUp server route history
  | spent {history : List ProxyEvent} (all : attemptsIn history = wrappingAdd server.maxRetries 1) :
      GaveUp server route history
  | exhausted {scan visits : List ProxyEvent}
      (each : ∀ index upstream, route.upstreams[index]? = some upstream →
        ⟨.recordStart route.balancer index, ()⟩ ∈ visits ∨
          FindsHealthy scan ∧ ⟨.isHealthy upstream, false⟩ ∈ visits) :
      GaveUp server route (scan ++ ⟨.recordRequest, ()⟩ :: visits)

theorem GaveUp.after {server : ServerConfig} {route : Route} {before history : List ProxyEvent}
    (unstarted : attemptsIn before = 0) (gaveUp : GaveUp server route history) :
    GaveUp server route (before ++ history) := by
  cases gaveUp with
  | denied denial => exact .denied (List.mem_append_right _ denial)
  | spent all => exact .spent (by rw [attemptsIn_append, unstarted, Nat.zero_add, all])
  | exhausted each =>
      rw [← List.append_assoc]
      refine .exhausted fun index upstream stored => (each index upstream stored).imp_right fun passed => ?_
      obtain ⟨⟨other, found⟩, unhealthy⟩ := passed
      exact ⟨⟨other, List.mem_append_right _ found⟩, unhealthy⟩

section

variable {ctx : RequestContext} {healthyExists : Bool} {loop : LoopState} {turns : List Turn}
  {result : ProxyResult}

theorem Unfolds.skipped_healthy (unfolds : Unfolds ctx healthyExists loop turns result)
    (skipped : .skipped ∈ turns) : healthyExists = true := by
  induction unfolds with
  | exit loop => cases skipped
  | skipped below healthy rest ih => exact healthy
  | denied below retry => simp at skipped
  | failed jitter below failure rest ih => exact ih (by simpa using skipped)
  | answered jitter below success => simp at skipped

/-- The rotation visits every upstream. -/
theorem rotation_perm (ctx : RequestContext) : ctx.rotation.Perm (List.range ctx.upstreamCount) := by
  have inside : ctx.rotation ⊆ List.range ctx.upstreamCount := by
    intro index visited
    obtain ⟨offset, stored, rfl⟩ := List.mem_map.mp visited
    have positive := Nat.pos_of_ne_zero (Nat.ne_zero_of_lt (List.mem_range.mp stored))
    exact List.mem_range.mpr (Nat.mod_lt _ positive)
  refine (List.subperm_of_subset (rotation_nodup ctx) inside).perm_of_length_le ?_
  simp [RequestContext.rotation]

theorem exists_offset {index : Nat} (below : index < ctx.upstreamCount) :
    ∃ offset < ctx.upstreamCount, ctx.index offset = index := by
  have visited := (rotation_perm ctx).mem_iff.mpr (List.mem_range.mpr below)
  obtain ⟨offset, stored, same⟩ := List.mem_map.mp visited
  exact ⟨offset, List.mem_range.mp stored, same⟩

/-- Events that report, or that ask for the health of an upstream, start no attempt. -/
theorem attemptsIn_eq_zero {events : List ProxyEvent}
    (other : ∀ event ∈ events, event.effect.startsAttempt = false) : attemptsIn events = 0 :=
  List.countP_eq_zero.mpr fun event member starts => by simp [other event member] at starts

@[simp] theorem attemptsIn_healthQuery (upstream : String) (healthy : Bool) :
    attemptsIn (healthQuery healthyExists upstream healthy) = 0 := by
  cases healthyExists <;> rfl

@[simp] theorem attemptsIn_failureEvents (upstream : String) (failure : Option (ProxyError × String)) :
    attemptsIn (failureEvents ctx upstream failure) = 0 := by
  cases failure <;> rfl

@[simp] theorem AttemptCall.attemptsIn_events (call : AttemptCall) (upstream : String) :
    attemptsIn (call.events ctx upstream) = 0 := by
  cases call <;> rfl

theorem Turn.attemptsIn_events (turn : Turn) (offset attemptsMade : Nat) :
    attemptsIn (turn.events ctx healthyExists offset attemptsMade) = turn.isAttempt.toNat := by
  cases turn with
  | skipped => simp [Turn.events, Turn.isAttempt]
  | denied => simp [Turn.events, Turn.isAttempt, Effect.startsAttempt]
  | attempted jitter call => simp [Turn.events, Turn.isAttempt, Effect.startsAttempt]

theorem attemptsIn_turnEvents (turns : List Turn) (offset attemptsMade : Nat) :
    attemptsIn (turnEvents ctx healthyExists offset attemptsMade turns) = turns.countP Turn.isAttempt := by
  induction turns generalizing offset attemptsMade with
  | nil => rfl
  | cons turn turns ih =>
      rw [turnEvents, attemptsIn_append, Turn.attemptsIn_events, ih, List.countP_cons, Nat.add_comm]
      cases turn.isAttempt <;> rfl

/-- After as many turns as upstreams, none of them a denial, every upstream was attempted
or passed over. -/
theorem Unfolds.exhausted (unfolds : Unfolds ctx healthyExists loop turns result)
    (ended : turns.length = ctx.upstreamCount) (granted : .denied ∉ turns) {index : Nat} {upstream : String}
    (stored : ctx.route.upstreams[index]? = some upstream) (attemptsMade : Nat) :
    ⟨.recordStart ctx.route.balancer index, ()⟩ ∈ turnEvents ctx healthyExists 0 attemptsMade turns ∨
      healthyExists = true ∧ ⟨.isHealthy upstream, false⟩ ∈ turnEvents ctx healthyExists 0 attemptsMade turns := by
  obtain ⟨below, _⟩ := List.getElem?_eq_some_iff.mp stored
  obtain ⟨offset, inside, rfl⟩ := @exists_offset ctx _ below
  obtain ⟨turn, visited⟩ : ∃ turn, turns[offset]? = some turn := ⟨_, List.getElem?_eq_getElem (ended ▸ inside)⟩
  obtain ⟨made, within⟩ := turn_mem_turnEvents ctx healthyExists visited 0 attemptsMade
  rw [Nat.zero_add] at within
  have here : ctx.upstreamAt offset = upstream := by rw [RequestContext.upstreamAt, stored, Option.getD_some]
  cases turn with
  | skipped =>
      have healthy := unfolds.skipped_healthy (List.mem_of_getElem? visited)
      refine .inr ⟨healthy, within _ ?_⟩
      rw [Turn.events, healthQuery, if_pos healthy, here]
      exact List.mem_singleton_self _
  | denied => exact absurd (List.mem_of_getElem? visited) granted
  | attempted jitter call => exact .inl (within _ (by simp [Turn.events]))

/-- A loop that ends in an error was left for a reason. -/
theorem runs_tryUpstreams_gaveUp {trace : List ProxyEvent} {error : ProxyError}
    (run : Runs (tryUpstreams ctx) trace (.error error)) : GaveUp ctx.server ctx.route trace := by
  by_cases empty : ctx.route.upstreams = []
  · rw [tryUpstreams, runs_bind] at run
    obtain ⟨_, scan, recording, rfl, _, recorded⟩ := run
    obtain ⟨_, visits, rfl, _⟩ := runs_act.mp recorded
    exact .exhausted fun index upstream stored => by simp [empty] at stored
  · obtain ⟨scan, healthyExists, turns, now, scanRun, rfl, _, unfolds, stops⟩ := runs_tryUpstreams empty run
    have visited : ∀ event ∈ turnEvents ctx healthyExists 0 0 turns,
        event ∈ turnEvents ctx healthyExists 0 0 turns ++ exitEvents ctx (turns.length - 1) now (.error error) :=
      fun event member => List.mem_append_left _ member
    obtain ⟨queries, found⟩ := runs_anyHealthy scanRun
    by_cases denied : .denied ∈ turns
    · obtain ⟨place, stored⟩ := List.getElem?_of_mem denied
      obtain ⟨made, within⟩ := turn_mem_turnEvents ctx healthyExists stored 0 0
      refine .denied (List.mem_append_right _ (List.mem_cons_of_mem _ (visited _ (within _ ?_))))
      simp [Turn.events]
    · rcases stops error rfl with denial | spent | ended
      · exact absurd denial denied
      · refine .spent ?_
        have scanned : attemptsIn scan = 0 := attemptsIn_eq_zero fun event member => by
          obtain ⟨upstream, query⟩ := queries event member
          rw [query]
          rfl
        have reported : attemptsIn (exitEvents ctx (turns.length - 1) now (.error error)) = 0 := rfl
        have within := unfolds.attempts_le (Nat.zero_le _)
        simp only [attemptsIn_append, attemptsIn_cons, Effect.startsAttempt, Bool.toNat_false, scanned, reported,
          attemptsIn_turnEvents]
        rw [RequestContext.maxAttempts] at spent within
        omega
      · refine .exhausted fun index upstream stored => ?_
        refine (unfolds.exhausted ended denied stored 0).imp (visited _) fun passed => ?_
        exact ⟨found.mp passed.1, visited _ passed.2⟩

end

/-- How a complete run of a request begins. -/
inductive Opening (parses : UriParser) (req : Request) : List ProxyEvent → ProxyResult → Prop where
  | unmatched {start : Instant} {requestId : Uuid} {config : Arc Config} {router : Arc Router}
      (matched : router.value.matchRoute req.uri.path = none) :
      Opening parses req [⟨.instantNow, start⟩, ⟨.newV4, requestId⟩, ⟨.loadConfig, config⟩, ⟨.loadRouter, router⟩,
        ⟨.incRequestsTotal req.method "unmatched" "404", ()⟩] (.ok (.text .notFound "No matching route"))
  | unread {start : Instant} {requestId : Uuid} {config : Arc Config} {router : Arc Router} {route : Route}
      (matched : router.value.matchRoute req.uri.path = some route) :
      Opening parses req [⟨.instantNow, start⟩, ⟨.newV4, requestId⟩, ⟨.loadConfig, config⟩, ⟨.loadRouter, router⟩,
        ⟨.toBytes, none⟩] (.error .upstreamFailure)
  | tries {start : Instant} {requestId : Uuid} {config : Arc Config} {router : Arc Router} {route : Route}
      {wholeBody : Bytes} {startIndex : Nat} {trace : List ProxyEvent} {result : ProxyResult}
      (matched : router.value.matchRoute req.uri.path = some route)
      (run : Runs (tryUpstreams
        (matchedContext parses req start requestId config.value route wholeBody startIndex)) trace result) :
      Opening parses req
        (selectionEvents req start requestId config router route wholeBody startIndex ++ trace) result

theorem runs_opening {parses : UriParser} {req : Request} {history : List ProxyEvent} {result : ProxyResult}
    (run : Runs (proxyRequest parses req) history result) : Opening parses req history result := by
  obtain ⟨start, _, rfl, started⟩ := runs_act.mp run
  obtain ⟨requestId, _, rfl, identified⟩ := runs_act.mp started
  obtain ⟨config, _, rfl, configured⟩ := runs_act.mp identified
  obtain ⟨router, _, rfl, routed⟩ := runs_act.mp configured
  change Runs (routeRequest parses req start requestId config.value router.value) _ result at routed
  unfold routeRequest at routed
  cases matched : router.value.matchRoute req.uri.path with
  | none =>
      rw [matched] at routed
      obtain ⟨_, _, rfl, counted⟩ := runs_act.mp routed
      obtain ⟨rfl, rfl⟩ := runs_done.mp counted
      exact .unmatched matched
  | some route =>
      rw [matched] at routed
      obtain ⟨body, _, rfl, read⟩ := runs_act.mp routed
      cases body with
      | none =>
          obtain ⟨rfl, rfl⟩ := runs_done.mp read
          exact .unread matched
      | some wholeBody =>
          obtain ⟨index, _, rfl, selected⟩ := runs_act.mp read
          cases index with
          | none =>
              obtain ⟨answer, _⟩ := runs_act.mp selected
              exact answer.elim
          | some startIndex => exact .tries matched selected

/-- What a request that ends in an error did: it could not read the body, or gave up. -/
theorem runs_gaveUp {parses : UriParser} {req : Request} {history : List ProxyEvent} {error : ProxyError}
    (run : Runs (proxyRequest parses req) history (.error error)) :
    ∃ config router route, ⟨.loadConfig, config⟩ ∈ history ∧ ⟨.loadRouter, router⟩ ∈ history ∧
      router.value.matchRoute req.uri.path = some route ∧
      (⟨.toBytes, none⟩ ∈ history ∨ GaveUp config.value.server route history) := by
  generalize ended : (Except.error error : ProxyResult) = result at run
  cases runs_opening run with
  | unmatched => cases ended
  | @unread start requestId config router route matched =>
      exact ⟨config, router, route, by simp, by simp, matched, .inl (by simp)⟩
  | @tries start requestId config router route wholeBody startIndex trace result matched loopRun =>
      subst ended
      refine ⟨config, router, route, by simp [selectionEvents], by simp [selectionEvents], matched, .inr ?_⟩
      exact (runs_tryUpstreams_gaveUp loopRun).after rfl

end L7Proxy
