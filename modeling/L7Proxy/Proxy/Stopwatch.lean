import L7Proxy.Proxy.Request

/-!
# The stopwatch of a request

A request reads the clock when it starts. One that ends by itself at a matched route reads
it again, counts itself and then observes the time between the two readings.
-/

set_option autoImplicit false

namespace L7Proxy

open Interaction Program Proxy

def clockReading : ProxyEvent → Option Instant
  | ⟨.instantNow, now⟩ => some now
  | _ => none

def countedRoute (event : ProxyEvent) : Option (String × String) :=
  match event.effect with
  | .incRequestsTotal method route _ => some (method, route)
  | _ => none

def observedDuration (event : ProxyEvent) : Option ((String × String) × Duration) :=
  match event.effect with
  | .observeRequestDuration method route elapsed => some ((method, route), elapsed)
  | _ => none

/-- What a request has read, counted and observed so far. -/
structure Stopwatch where
  readings : List Instant
  counted : List (String × String)
  observed : List ((String × String) × Duration)

namespace Stopwatch

def unread : Stopwatch := ⟨[], [], []⟩

def running (start : Instant) : Stopwatch := ⟨[start], [], []⟩

def next (watch : Stopwatch) (event : ProxyEvent) : Stopwatch where
  readings := watch.readings ++ (clockReading event).toList
  counted := watch.counted ++ (countedRoute event).toList
  observed := watch.observed ++ (observedDuration event).toList

/-- The request has counted itself at a matched route and not observed its duration. -/
def Due (watch : Stopwatch) (labels : String × String) : Prop :=
  watch.readings.length = 2 ∧ watch.counted = [labels] ∧ watch.observed = []

instance (watch : Stopwatch) (labels : String × String) : Decidable (watch.Due labels) :=
  inferInstanceAs (Decidable (_ ∧ _))

def monitor : Monitor Effect Answer Stopwatch where
  next := next
  allowed watch
    | .incRequestsTotal _ route _ => watch.counted = [] ∧
        (watch.readings.length = 2 ∨ watch.readings.length = 1 ∧ route = "unmatched") ∧ watch.observed = []
    | .observeRequestDuration method route elapsed => ∃ start finish,
        watch = ⟨[start, finish], [(method, route)], []⟩ ∧ elapsed = durationSince finish start
    | _ => watch.counted = [] ∧ watch.readings.length ≤ 1 ∧ watch.observed = []

/-- The effects that neither read the clock nor count nor observe. -/
def Plain : Effect → Prop
  | .instantNow | .incRequestsTotal _ _ _ | .observeRequestDuration _ _ _ => False
  | _ => True

theorem overlooks_plain (start : Instant) (effect : Effect) (plain : Plain effect) :
    monitor.Overlooks (running start) effect := by
  cases effect with
  | instantNow | incRequestsTotal | observeRequestDuration => exact plain.elim
  | _ => exact ⟨⟨rfl, le_rfl, rfl⟩, fun _ => rfl⟩

/-- A request that has ended owes no observation. -/
def Ended (watch : Stopwatch) : Prop := ∀ labels, ¬ watch.Due labels

theorem running_ended (start : Instant) : (running start).Ended := by
  intro labels due
  cases due.1

/-- The clock is read, and the request is counted and observed. -/
theorem follows_report {Value : Type} {post : Stopwatch → Value → Prop} {ctx : RequestContext} {status : String}
    {rest : Proxy Value}
    (continues : ∀ watch : Stopwatch, watch.Ended → rest.Follows monitor post watch) :
    (do
      let now : Instant ← perform .instantNow
      countRequest ctx status (durationSince now ctx.start)
      rest).Follows monitor post (running ctx.start) := by
  refine ⟨⟨rfl, le_rfl, rfl⟩, fun now => ⟨⟨rfl, .inl rfl, rfl⟩, fun _ => ⟨⟨ctx.start, now, rfl, rfl⟩, fun _ => ?_⟩⟩⟩
  apply continues
  intro labels due
  cases due.2.2

section

variable {ctx : RequestContext}

theorem follows_failureExit_watch (lastError : Option ProxyError) :
    (failureExit ctx lastError).Follows monitor (fun watch _ => watch.Ended) (running ctx.start) :=
  follows_report fun _ ended => ended

/-- What a turn of the loop leaves of the stopwatch. -/
def Leaves (start : Instant) (watch : Stopwatch) : LoopStep → Prop
  | .again _ | .leave => watch = running start
  | .answer _ => watch.Ended

theorem follows_noteFailure_watch (upstream errorType : String) (loop : LoopState) :
    (noteFailure ctx upstream errorType >>= fun _ => (pure (.again loop) : Proxy LoopStep)).Follows monitor
      (Leaves ctx.start) (running ctx.start) :=
  ⟨⟨rfl, le_rfl, rfl⟩, fun _ => ⟨⟨rfl, le_rfl, rfl⟩, fun _ => rfl⟩⟩

theorem follows_settle_watch (upstream : String) (attemptsMade : Nat) (result : ProxyResult) :
    (settle ctx upstream attemptsMade result).Follows monitor (Leaves ctx.start) (running ctx.start) := by
  cases result with
  | ok resp =>
      by_cases failed : resp.status.isServerError = true
      · simp only [settle, failed, if_true]
        exact follows_noteFailure_watch upstream _ _
      · simp only [settle, failed]
        refine ⟨⟨rfl, le_rfl, rfl⟩, fun _ => ?_⟩
        exact @follows_report _ (Leaves ctx.start) ctx _ (pure (LoopStep.answer (.ok resp))) fun _ ended => ended
  | error error =>
      cases error with
      | upstreamFailure => exact follows_noteFailure_watch upstream _ _
      | upstreamTimeout => exact follows_noteFailure_watch upstream _ _
      | noRoute | upstreamFailed | invalidUri | noUpstream => exact running_ended ctx.start

theorem preparesAttempt_plain (effect : Effect) (prepares : effect.PreparesAttempt) : Plain effect := by
  cases effect <;> first
    | exact prepares.elim
    | exact trivial

theorem follows_visit_watch (healthyExists : Bool) (offset : Nat) (loop : LoopState) :
    (visit ctx healthyExists offset loop).Follows monitor (Leaves ctx.start) (running ctx.start) := by
  have plain : ∀ effect, Plain effect → monitor.allowed (running ctx.start) effect := fun effect plain =>
    (overlooks_plain ctx.start effect plain).1
  apply follows_visit (fun effect prepares => overlooks_plain _ effect (preparesAttempt_plain effect prepares))
    (fun _ => plain _ trivial) rfl rfl
  intro upstream _
  have settles := @follows_settle_watch ctx upstream (loop.attemptsMade + 1)
  apply follows_attempt
  · exact plain _ trivial
  · exact ⟨plain _ trivial, settles _⟩
  · intro headers _
    exact ⟨plain _ trivial, fun outcome => ⟨plain _ trivial, settles _⟩⟩

end

theorem proxyRequest_watched (parses : UriParser) (req : Request) :
    (proxyRequest parses req).Follows monitor (fun watch _ => watch.Ended) unread := by
  refine ⟨⟨rfl, Nat.zero_le _, rfl⟩, fun start => ?_⟩
  have plain : ∀ effect, Plain effect → monitor.allowed (running start) effect := fun effect plain =>
    (overlooks_plain start effect plain).1
  refine ⟨plain _ trivial, fun requestId => ⟨plain _ trivial, fun config => ⟨plain _ trivial, fun router => ?_⟩⟩⟩
  apply @follows_routeRequest _ monitor _ (running start)
  · intro _
    refine ⟨⟨rfl, .inr ⟨rfl, rfl⟩, rfl⟩, fun _ labels due => ?_⟩
    cases due.1
  · exact plain _ trivial
  · exact running_ended start
  · intro wholeBody effect selects
    refine overlooks_plain start effect ?_
    cases effect <;> first
      | exact selects.elim
      | exact trivial
  · intro route wholeBody startIndex _
    apply follows_tryUpstreams (fun watch _ => watch = running start)
      (fun effect prepares => overlooks_plain _ effect (preparesAttempt_plain effect prepares)) (plain _ trivial) rfl
    · intro healthyExists offset watch loop here
      subst here
      apply (follows_visit_watch healthyExists offset loop).mono
      intro reached step leaves
      cases step <;> exact leaves
    · intro watch loop here
      subst here
      exact follows_failureExit_watch loop.lastError

/-!
## Histories
-/

/-- How far a stopwatch has got. -/
inductive Stage : Stopwatch → Prop where
  | uncounted {readings : List Instant} (few : readings.length ≤ 2) : Stage ⟨readings, [], []⟩
  | unmatched (start : Instant) (method : String) : Stage ⟨[start], [(method, "unmatched")], []⟩
  | due (start finish : Instant) (labels : String × String) : Stage ⟨[start, finish], [labels], []⟩
  | observed (start finish : Instant) (labels : String × String) :
      Stage ⟨[start, finish], [labels], [(labels, durationSince finish start)]⟩

theorem Stage.next {watch : Stopwatch} {event : ProxyEvent} (stage : Stage watch)
    (allowed : monitor.allowed watch event.effect) : Stage (monitor.next watch event) := by
  obtain ⟨readings, counted, observed⟩ := watch
  obtain ⟨effect, answer⟩ := event
  cases effect with
  | instantNow =>
      obtain ⟨uncounted, few, unobserved⟩ := allowed
      cases uncounted
      cases unobserved
      apply Stage.uncounted
      rw [List.length_append]
      exact Nat.succ_le_succ few
  | incRequestsTotal method route status =>
      obtain ⟨uncounted, when, unobserved⟩ := allowed
      cases uncounted
      cases unobserved
      simp only [monitor, Stopwatch.next, clockReading, countedRoute, observedDuration, Option.toList_none,
        Option.toList_some, List.append_nil, List.nil_append]
      rcases when with twice | ⟨once, rfl⟩
      · obtain ⟨start, finish, rfl⟩ := List.length_eq_two.mp twice
        exact .due start finish _
      · obtain ⟨start, rfl⟩ := List.length_eq_one_iff.mp once
        exact .unmatched start method
  | observeRequestDuration method route elapsed =>
      obtain ⟨start, finish, same, rfl⟩ := allowed
      cases same
      exact .observed start finish _
  | _ => simpa [monitor, Stopwatch.next, clockReading, countedRoute, observedDuration] using stage

/-- The stopwatch that a history leaves. -/
def ofHistory (history : List ProxyEvent) : Stopwatch where
  readings := history.filterMap clockReading
  counted := history.filterMap countedRoute
  observed := history.filterMap observedDuration

theorem foldl_watch (history : List ProxyEvent) : history.foldl monitor.next unread = ofHistory history := by
  induction history using List.reverseRecOn with
  | nil => rfl
  | append_singleton history event ih =>
      rw [List.foldl_append, ih]
      simp only [List.foldl_cons, List.foldl_nil, monitor, next, ofHistory, List.filterMap_append, List.filterMap_cons,
        List.filterMap_nil]
      cases clockReading event <;> cases countedRoute event <;> cases observedDuration event <;> rfl

theorem history_stage {parses : UriParser} {req : Request} {history : List ProxyEvent} {rest : Proxy ProxyResult}
    (steps : Steps (proxyRequest parses req) history rest) : Stage (ofHistory history) := by
  have staged := @Follows.recorded _ _ _ _ _ _ _ _ _ [] _ (fun _ watch => Stage watch)
    (fun _ _ _ allowed stage => stage.next allowed) (proxyRequest_watched parses req) steps (.uncounted (Nat.zero_le 2))
  rwa [foldl_watch] at staged

/-- At a route every request counted has been observed, but for the one that is due. -/
theorem Stage.count {watch : Stopwatch} (stage : Stage watch) {labels : String × String}
    (matched : labels.2 ≠ "unmatched") :
    watch.counted.count labels = (watch.observed.map (·.1)).count labels + if watch.Due labels then 1 else 0 := by
  cases stage with
  | uncounted few => simp [Due]
  | unmatched start method =>
      have apart : (method, "unmatched") ≠ labels := fun same => matched (same ▸ rfl)
      simp [Due, apart]
  | due start finish counted => simp [Due, List.count_singleton]
  | observed start finish counted => simp [Due]

/-- An observation is due exactly when it is the next effect. -/
theorem due_iff_observes {watch : Stopwatch} {effect : Effect} (allowed : monitor.allowed watch effect)
    (labels : String × String) :
    watch.Due labels ↔ ∃ elapsed, effect = .observeRequestDuration labels.1 labels.2 elapsed := by
  cases effect with
  | observeRequestDuration method route elapsed =>
      obtain ⟨start, finish, rfl, _⟩ := allowed
      constructor
      · intro due
        cases due.2.1
        exact ⟨elapsed, rfl⟩
      · intro observes
        obtain ⟨_, same⟩ := observes
        cases same
        exact ⟨rfl, rfl, rfl⟩
  | _ =>
      constructor
      · intro due
        have counted := allowed.1.symm.trans due.2.1
        cases counted
      · intro observes
        obtain ⟨_, same⟩ := observes
        cases same

end Stopwatch

end L7Proxy
