import L7Proxy.Proxy.RetryLoop

/-!
# The ledger of a request

What a request enters in the balancer, the health tracker, the retry budget and the
metrics, as a function of its attempts. Each tracker has a book of its own.
-/

set_option autoImplicit false

namespace L7Proxy

open Interaction Program

inductive Book where
  | forwarding
  | failures
  | successes
  | errors
  | retries
  | grants
  | budget
  | requests
  | durations
  deriving DecidableEq

/-- The book an event is entered in. A denied retry is entered in none. -/
@[simp] def bookOf : ProxyEvent → Option Book
  | ⟨.recordStart _ _, _⟩ => some .forwarding
  | ⟨.clientRequest _ _, _⟩ => some .forwarding
  | ⟨.recordDone _ _, _⟩ => some .forwarding
  | ⟨.recordFailure _, _⟩ => some .failures
  | ⟨.recordSuccess _, _⟩ => some .successes
  | ⟨.incErrorsTotal _ _, _⟩ => some .errors
  | ⟨.incRetriesTotal _, _⟩ => some .retries
  | ⟨.allowRetry, granted⟩ => if granted = true then some .grants else none
  | ⟨.recordRequest, _⟩ => some .budget
  | ⟨.incRequestsTotal _ _ _, _⟩ => some .requests
  | ⟨.observeRequestDuration _ _ _, _⟩ => some .durations
  | _ => none

def entries (book : Book) (trace : List ProxyEvent) : List ProxyEvent :=
  trace.filter fun event => bookOf event = some book

@[simp] theorem entries_nil (book : Book) : entries book [] = [] := rfl

@[simp] theorem entries_append (book : Book) (before after : List ProxyEvent) :
    entries book (before ++ after) = entries book before ++ entries book after :=
  List.filter_append ..

theorem entries_cons (book : Book) (event : ProxyEvent) (trace : List ProxyEvent) :
    entries book (event :: trace) =
      if bookOf event = some book then event :: entries book trace else entries book trace := by
  simp only [entries, List.filter_cons, decide_eq_true_eq]

/-- An attempt on the upstream at an index, and how it went. -/
structure Attempt where
  index : Nat
  upstream : String
  call : AttemptCall
  deriving DecidableEq

/-- The attempts of turns at consecutive offsets. -/
def attemptsFrom (ctx : RequestContext) : Nat → List Turn → List Attempt
  | _, [] => []
  | offset, turn :: turns =>
      (turn.call.map fun call => ⟨ctx.index offset, ctx.upstreamAt offset, call⟩).toList ++
        attemptsFrom ctx (offset + 1) turns

namespace Attempt

def events (ctx : RequestContext) (attempt : Attempt) : List ProxyEvent :=
  ⟨.recordStart ctx.route.balancer attempt.index, ()⟩ ::
    (attempt.call.events ctx attempt.upstream ++
      ⟨.recordDone ctx.route.balancer attempt.index, ()⟩ ::
        failureEvents ctx attempt.upstream attempt.call.failure)

/-- The kind of error the attempt failed with. -/
def errorType (attempt : Attempt) : Option String := attempt.call.failure.map (·.2)

end Attempt

/-- The books of a request after its attempts. -/
structure Ledger (ctx : RequestContext) (attempts : List Attempt) (trace : List ProxyEvent)
    (result : ProxyResult) : Prop where
  /-- An attempt is on an upstream of the route, and no index is attempted twice. -/
  upstreams : ∀ attempt ∈ attempts, ctx.route.upstreams[attempt.index]? = some attempt.upstream
  distinct : (attempts.map Attempt.index).Nodup
  /-- An attempt starts, calls the client unless its URI is refused, and is done. -/
  forwarding : entries .forwarding trace = attempts.flatMap fun attempt =>
    ⟨.recordStart ctx.route.balancer attempt.index, ()⟩ ::
      (attempt.call.events ctx attempt.upstream ++
        [⟨.recordDone ctx.route.balancer attempt.index, ()⟩])
  /-- The failed attempts are recorded, and counted by their kind. -/
  failures : entries .failures trace = attempts.filterMap fun attempt =>
    attempt.errorType.map fun _ => ⟨.recordFailure attempt.upstream, ()⟩
  errors : entries .errors trace = attempts.filterMap fun attempt =>
    attempt.errorType.map fun errorType => ⟨.incErrorsTotal ctx.route.routePrefix errorType, ()⟩
  /-- A success is recorded of the attempt that answered. -/
  answered : ∀ resp, result = .ok resp → ∃ attempt, attempts.getLast? = some attempt ∧
    attempt.call.result = .ok resp ∧ attempt.errorType = none ∧
      entries .successes trace = [⟨.recordSuccess attempt.upstream, ()⟩]
  unanswered : ∀ error, result = .error error → entries .successes trace = []
  /-- All attempts but the first are retries. -/
  retries : entries .retries trace =
    List.replicate (attempts.length - 1) ⟨.incRetriesTotal ctx.route.routePrefix, ()⟩
  grants : entries .grants trace = List.replicate (attempts.length - 1) ⟨.allowRetry, true⟩
  /-- The request itself is counted once. -/
  budget : entries .budget trace = [⟨.recordRequest, ()⟩]
  requests : ∃ status, entries .requests trace =
    [⟨.incRequestsTotal ctx.methodStr ctx.route.routePrefix status, ()⟩]
  durations : ∃ elapsed, entries .durations trace =
    [⟨.observeRequestDuration ctx.methodStr ctx.route.routePrefix elapsed, ()⟩]

section

variable {ctx : RequestContext} {healthyExists : Bool} {book : Book}

/-!
## The books of one turn
-/

theorem entries_healthQuery (upstream : String) (healthy : Bool) :
    entries book (healthQuery healthyExists upstream healthy) = [] := by
  unfold healthQuery
  split <;> rfl

theorem entries_admissionEvents (attemptsMade jitter : Nat) (outside : book ∉ [Book.retries, .grants]) :
    entries book (admissionEvents ctx attemptsMade jitter) = [] := by
  unfold admissionEvents
  split
  · cases book <;> first
      | exact absurd outside (by decide)
      | simp [entries_cons]
  · rfl

/-- Books that do not concern retries have the entries of the attempts. -/
theorem entries_turnEvents (outside : book ∉ [Book.retries, .grants]) (turns : List Turn)
    (offset attemptsMade : Nat) :
    entries book (turnEvents ctx healthyExists offset attemptsMade turns) =
      (attemptsFrom ctx offset turns).flatMap fun attempt => entries book (attempt.events ctx) := by
  induction turns generalizing offset attemptsMade with
  | nil => rfl
  | cons turn turns ih =>
      rw [turnEvents, entries_append, ih, attemptsFrom, List.flatMap_append]
      congr 1
      cases turn with
      | skipped => exact entries_healthQuery _ _
      | denied => simp [Turn.events, Turn.call, entries_healthQuery, entries_cons]
      | attempted jitter call =>
          simp [Turn.events, Turn.call, entries_healthQuery, entries_admissionEvents _ _ outside,
            Attempt.events]

/-- A book of the retries has an entry for each attempt but the very first. -/
theorem entries_turnEvents_retries {entry : ProxyEvent}
    (admission : ∀ attemptsMade jitter, 0 < attemptsMade →
      entries book (admissionEvents ctx attemptsMade jitter) = [entry])
    (quiet : ∀ attempt : Attempt, entries book (attempt.events ctx) = [])
    (turns : List Turn) (offset attemptsMade : Nat) :
    entries book (turnEvents ctx healthyExists offset attemptsMade turns) =
      List.replicate ((attemptsFrom ctx offset turns).length - if attemptsMade = 0 then 1 else 0) entry := by
  induction turns generalizing offset attemptsMade with
  | nil => simp [turnEvents, attemptsFrom]
  | cons turn turns ih =>
      rw [turnEvents, entries_append, ih, attemptsFrom, List.length_append]
      cases turn with
      | skipped => simp [Turn.events, Turn.call, Turn.isAttempt, entries_healthQuery]
      | denied =>
          simp [Turn.events, Turn.call, Turn.isAttempt, entries_healthQuery, entries_cons]
      | attempted jitter call =>
          have attempted := quiet ⟨ctx.index offset, ctx.upstreamAt offset, call⟩
          simp only [Attempt.events] at attempted
          simp only [Turn.events, entries_append, entries_healthQuery, attempted, List.nil_append,
            List.append_nil]
          by_cases first : attemptsMade = 0
          · subst first
            simp [admissionEvents, Turn.isAttempt, Turn.call]
          · rw [admission attemptsMade jitter (Nat.pos_of_ne_zero first)]
            simp [first, Turn.isAttempt, Turn.call, List.replicate_succ, Nat.add_comm 1]

theorem entries_anyHealthy {upstreams : List String} {scan : List ProxyEvent} {healthy : Bool}
    (run : Runs (anyHealthy upstreams) scan healthy) : entries book scan = [] := by
  induction upstreams generalizing scan with
  | nil =>
      obtain ⟨rfl, _⟩ := runs_done.mp run
      rfl
  | cons upstream upstreams ih =>
      obtain ⟨answer, later, rfl, rest⟩ := runs_act.mp run
      rw [entries_cons, if_neg (by simp)]
      cases answer with
      | true =>
          obtain ⟨rfl, _⟩ := runs_done.mp rest
          rfl
      | false => exact ih rest

/-!
## The entries of an attempt
-/

theorem entries_attempt_forwarding (attempt : Attempt) :
    entries .forwarding (attempt.events ctx) =
      ⟨.recordStart ctx.route.balancer attempt.index, ()⟩ ::
        (attempt.call.events ctx attempt.upstream ++
          [⟨.recordDone ctx.route.balancer attempt.index, ()⟩]) := by
  obtain ⟨index, upstream, call⟩ := attempt
  cases failure : call.failure <;> cases call <;>
    simp [Attempt.events, AttemptCall.events, failureEvents, failure, entries_cons]

theorem entries_attempt_failures (attempt : Attempt) :
    entries .failures (attempt.events ctx) =
      (attempt.errorType.map fun _ => ⟨.recordFailure attempt.upstream, ()⟩).toList := by
  obtain ⟨index, upstream, call⟩ := attempt
  cases failure : call.failure <;> cases call <;>
    simp [Attempt.events, Attempt.errorType, AttemptCall.events, failureEvents, failure, entries_cons]

theorem entries_attempt_errors (attempt : Attempt) :
    entries .errors (attempt.events ctx) =
      (attempt.errorType.map fun errorType =>
        ⟨.incErrorsTotal ctx.route.routePrefix errorType, ()⟩).toList := by
  obtain ⟨index, upstream, call⟩ := attempt
  cases failure : call.failure <;> cases call <;>
    simp [Attempt.events, Attempt.errorType, AttemptCall.events, failureEvents, failure, entries_cons]

theorem entries_attempt_other (outside : book ∉ [Book.forwarding, .failures, .errors]) (attempt : Attempt) :
    entries book (attempt.events ctx) = [] := by
  obtain ⟨index, upstream, call⟩ := attempt
  simp only [List.mem_cons, List.not_mem_nil, or_false, not_or, ← ne_eq] at outside
  obtain ⟨notForwarding, notFailures, notErrors⟩ := outside
  cases failure : call.failure <;> cases call <;>
    simp [Attempt.events, AttemptCall.events, failureEvents, failure, entries_cons,
      notForwarding.symm, notFailures.symm, notErrors.symm]

theorem entries_turnEvents_other
    (outside : book ∉ [Book.forwarding, .failures, .errors, .retries, .grants]) (turns : List Turn)
    (offset attemptsMade : Nat) :
    entries book (turnEvents ctx healthyExists offset attemptsMade turns) = [] := by
  have noRetry : book ∉ [Book.retries, .grants] :=
    fun member => outside (List.mem_append_right [Book.forwarding, .failures, .errors] member)
  have noAttempt : book ∉ [Book.forwarding, .failures, .errors] :=
    fun member => outside (List.mem_append_left [Book.retries, .grants] member)
  rw [entries_turnEvents noRetry, List.flatMap_eq_nil_iff]
  intro attempt _
  exact entries_attempt_other noAttempt attempt

theorem attemptsFrom_indices (turns : List Turn) (offset : Nat) :
    (attemptsFrom ctx offset turns).map Attempt.index =
      ((turns.zipIdx offset).filter (·.1.isAttempt)).map fun turn => ctx.index turn.2 := by
  induction turns generalizing offset with
  | nil => rfl
  | cons turn turns ih =>
      rw [attemptsFrom, List.map_append, ih, List.zipIdx_cons]
      cases turn <;> rfl

theorem attemptsFrom_upstreams (nonempty : ctx.route.upstreams ≠ []) (turns : List Turn) (offset : Nat) :
    ∀ attempt ∈ attemptsFrom ctx offset turns,
      ctx.route.upstreams[attempt.index]? = some attempt.upstream := by
  induction turns generalizing offset with
  | nil => nofun
  | cons turn turns ih =>
      intro attempt member
      rcases List.mem_append.mp member with here | later
      · obtain ⟨call, _, rfl⟩ := Option.map_eq_some_iff.mp (Option.mem_toList.mp here)
        exact ctx.upstreams_index nonempty offset
      · exact ih (offset + 1) attempt later

private theorem lastOffset_cons (turn : Turn) (turns : List Turn) (offset : Nat) :
    offset + (turn :: turns).length - 1 = offset + 1 + turns.length - 1 := by
  rw [List.length_cons]
  omega

/-- An answer is that of the last attempt, made at the last turn. -/
theorem Unfolds.answered_last {loop : LoopState} {turns : List Turn} {result : ProxyResult} {resp : Response}
    (unfolds : Unfolds ctx healthyExists loop turns result) (answer : result = .ok resp) (offset : Nat) :
    ∃ attempt, (attemptsFrom ctx offset turns).getLast? = some attempt ∧
      attempt.upstream = ctx.upstreamAt (offset + turns.length - 1) ∧
        attempt.call.result = .ok resp ∧ attempt.errorType = none := by
  induction unfolds generalizing offset with
  | exit loop => cases answer
  | skipped below healthy rest ih =>
      rw [lastOffset_cons]
      exact ih answer (offset + 1)
  | denied below retry => cases answer
  | @failed loop turns result call error errorType jitter below failure rest ih =>
      obtain ⟨last, found, upstream, response, success⟩ := ih answer (offset + 1)
      refine ⟨last, ?_, ?_, response, success⟩
      · rw [attemptsFrom, List.getLast?_append, found, Option.some_or]
      · rw [lastOffset_cons]
        exact upstream
  | @answered loop call jitter below success =>
      exact ⟨⟨ctx.index offset, ctx.upstreamAt offset, call⟩, rfl, by simp, answer,
        by simp [Attempt.errorType, success]⟩

/-!
## The books of a request
-/

theorem entries_exitEvents (outside : book ∉ [Book.successes, .requests, .durations]) (lastOffset : Nat)
    (now : Instant) (result : ProxyResult) :
    entries book (exitEvents ctx lastOffset now result) = [] := by
  simp only [List.mem_cons, List.not_mem_nil, or_false, not_or, ← ne_eq] at outside
  obtain ⟨notSuccesses, notRequests, notDurations⟩ := outside
  cases result <;>
    simp [exitEvents, countEvents, entries_cons, notSuccesses.symm, notRequests.symm, notDurations.symm]

/-- A run of the loop as turns, for a route without upstreams too. -/
theorem runs_tryUpstreams_turns {trace : List ProxyEvent} {result : ProxyResult}
    (run : Runs (tryUpstreams ctx) trace result) :
    ∃ scan healthyExists turns now, (∀ book, entries book scan = []) ∧
      trace = scan ++ ⟨.recordRequest, ()⟩ :: (turnEvents ctx healthyExists 0 0 turns ++
        exitEvents ctx (turns.length - 1) now result) ∧
      turns.length ≤ ctx.upstreamCount ∧ Unfolds ctx healthyExists ⟨0, none⟩ turns result := by
  by_cases nonempty : ctx.route.upstreams = []
  · rw [tryUpstreams, RequestContext.upstreamCount, nonempty, anyHealthy, pure_eq_done, bind_done,
      perform_bind, runs_act] at run
    obtain ⟨_, later, rfl, exited⟩ := run
    obtain ⟨rfl, now, rfl⟩ := runs_failureExit exited
    exact ⟨[], false, [], now, fun _ => rfl, rfl, Nat.zero_le _, .exit _⟩
  · obtain ⟨scan, healthyExists, turns, now, scanned, split, few, unfolds, _⟩ :=
      runs_tryUpstreams nonempty run
    exact ⟨scan, healthyExists, turns, now, fun _ => entries_anyHealthy scanned, split, few, unfolds⟩

theorem entries_admissionEvents_retries (attemptsMade jitter : Nat) (retry : 0 < attemptsMade) :
    entries .retries (admissionEvents ctx attemptsMade jitter) =
      [⟨.incRetriesTotal ctx.route.routePrefix, ()⟩] := by
  simp [admissionEvents, retry, entries_cons]

theorem entries_admissionEvents_grants (attemptsMade jitter : Nat) (retry : 0 < attemptsMade) :
    entries .grants (admissionEvents ctx attemptsMade jitter) = [⟨.allowRetry, true⟩] := by
  simp [admissionEvents, retry, entries_cons]

/-- The books hold what the attempts account for, whatever the health tracker, the
retry budget and the upstreams answered. -/
theorem tryUpstreams_ledger {trace : List ProxyEvent} {result : ProxyResult}
    (run : Runs (tryUpstreams ctx) trace result) :
    ∃ attempts, Ledger ctx attempts trace result := by
  obtain ⟨scan, healthyExists, turns, now, scanned, rfl, few, unfolds⟩ := runs_tryUpstreams_turns run
  refine ⟨attemptsFrom ctx 0 turns, ?_⟩
  have whole : ∀ book, entries book (scan ++ ⟨.recordRequest, ()⟩ ::
      (turnEvents ctx healthyExists 0 0 turns ++ exitEvents ctx (turns.length - 1) now result)) =
        entries book [⟨.recordRequest, ()⟩] ++ (entries book (turnEvents ctx healthyExists 0 0 turns) ++
          entries book (exitEvents ctx (turns.length - 1) now result)) := by
    intro book
    rw [entries_append, scanned, List.nil_append, ← List.singleton_append, entries_append, entries_append]
  exact {
    upstreams := by
      by_cases nonempty : ctx.route.upstreams = []
      · have idle : turns = [] := by
          rw [RequestContext.upstreamCount, nonempty] at few
          exact List.length_eq_zero_iff.mp (Nat.le_zero.mp few)
        rw [idle]
        nofun
      · exact attemptsFrom_upstreams nonempty turns 0
    distinct := by
      rw [attemptsFrom_indices]
      exact (rotation_nodup ctx).sublist (attemptedIndices_sublist few)
    forwarding := by
      rw [whole, entries_turnEvents (by decide),
        entries_exitEvents (by decide)]
      simp [entries_attempt_forwarding, entries_cons]
    failures := by
      rw [whole, entries_turnEvents (by decide),
        entries_exitEvents (by decide)]
      simp [entries_attempt_failures, entries_cons, List.filterMap_eq_flatMap_toList]
    errors := by
      rw [whole, entries_turnEvents (by decide),
        entries_exitEvents (by decide)]
      simp [entries_attempt_errors, entries_cons, List.filterMap_eq_flatMap_toList]
    answered := by
      intro resp answer
      obtain ⟨last, found, upstream, response, success⟩ := unfolds.answered_last answer 0
      refine ⟨last, found, response, success, ?_⟩
      rw [whole, entries_turnEvents_other (by decide), answer, upstream,
        Nat.zero_add]
      simp [exitEvents, countEvents, entries_cons]
    unanswered := by
      intro error failed
      rw [whole, entries_turnEvents_other (by decide), failed]
      simp [exitEvents, countEvents, entries_cons]
    retries := by
      rw [whole, entries_turnEvents_retries entries_admissionEvents_retries
        (entries_attempt_other (by decide)),
        entries_exitEvents (by decide)]
      simp [entries_cons]
    grants := by
      rw [whole, entries_turnEvents_retries entries_admissionEvents_grants
        (entries_attempt_other (by decide)),
        entries_exitEvents (by decide)]
      simp [entries_cons]
    budget := by
      rw [whole, entries_turnEvents_other (by decide),
        entries_exitEvents (by decide)]
      simp [entries_cons]
    requests := by
      rw [whole, entries_turnEvents_other (by decide)]
      cases result <;> simp [exitEvents, countEvents, entries_cons]
    durations := by
      rw [whole, entries_turnEvents_other (by decide)]
      cases result <;> simp [exitEvents, countEvents, entries_cons] }

theorem Ledger.of_entries {attempts : List Attempt} {before after : List ProxyEvent} {result : ProxyResult}
    (ledger : Ledger ctx attempts before result) (same : ∀ book, entries book after = entries book before) :
    Ledger ctx attempts after result where
  upstreams := ledger.upstreams
  distinct := ledger.distinct
  forwarding := (same _).trans ledger.forwarding
  failures := (same _).trans ledger.failures
  errors := (same _).trans ledger.errors
  answered := by
    rw [same]
    exact ledger.answered
  unanswered := by
    rw [same]
    exact ledger.unanswered
  retries := (same _).trans ledger.retries
  grants := (same _).trans ledger.grants
  budget := (same _).trans ledger.budget
  requests := by
    rw [same]
    exact ledger.requests
  durations := by
    rw [same]
    exact ledger.durations

/-- The ledger of a whole request that gets as far as its loop. -/
theorem proxyRequest_ledger {parses : UriParser} {req : Request} {start : Instant} {requestId : Uuid}
    {config : Arc Config} {router : Arc Router} {route : Route} {wholeBody : Bytes} {startIndex : Nat}
    {trace : List ProxyEvent} {result : ProxyResult}
    (matched : router.value.matchRoute req.uri.path = some route)
    (run : Runs (proxyRequest parses req)
      (selectionEvents req start requestId config router route wholeBody startIndex ++ trace) result) :
    ∃ attempts, Ledger
      (matchedContext parses req start requestId config.value route wholeBody startIndex) attempts
        (selectionEvents req start requestId config router route wholeBody startIndex ++ trace) result := by
  obtain ⟨attempts, ledger⟩ := tryUpstreams_ledger ((runs_proxyRequest matched).mp run)
  have selection : ∀ book,
      entries book (selectionEvents req start requestId config router route wholeBody startIndex) = [] :=
    fun _ => by simp [selectionEvents, entries_cons]
  refine ⟨attempts, ledger.of_entries fun book => ?_⟩
  rw [entries_append, selection, List.nil_append]

theorem proxyRequest_ledger_failover :
    ∃ trace attempts, Ledger
      (matchedContext (fun _ => true) plainRequest 0 plainId twoUpstreamsConfig twoUpstreams [] 0)
      attempts trace (.ok ⟨.ok, [], []⟩) := by
  obtain ⟨_, run⟩ := failover_runs
  exact ⟨_, proxyRequest_ledger plainRequest_matches run⟩

end

end L7Proxy
