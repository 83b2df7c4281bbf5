import L7Proxy.Proxy.Request
import Mathlib.Data.Nat.ModEq

/-!
# The retry loop

Every complete run of the loop is a sequence of turns over consecutive places of the
rotation that starts at the selected index. The turns determine the performed
effects and the result.
-/

set_option autoImplicit false

namespace L7Proxy

open Interaction Program

/-!
## Turns
-/

/-- How an attempt went: its URI was refused, or the client was called. -/
inductive AttemptCall where
  | refused
  | called (headers : HeaderMap) (outcome : UpstreamOutcome)
  deriving DecidableEq

inductive Turn where
  | skipped
  | denied
  | attempted (jitter : Nat) (call : AttemptCall)
  deriving DecidableEq

namespace AttemptCall

def result : AttemptCall → ProxyResult
  | .refused => .error .upstreamFailure
  | .called _ outcome => outcome.result

def failure (call : AttemptCall) : Option (ProxyError × String) :=
  match call.result with
  | .ok resp => if resp.status.isServerError then some (.upstreamFailure, "5xx") else none
  | .error .upstreamTimeout => some (.upstreamTimeout, "timeout")
  | .error error => some (error, "connection")

theorem result_cases (call : AttemptCall) :
    call.result = .error .upstreamFailure ∨ call.result = .error .upstreamTimeout ∨
      ∃ resp, call.result = .ok resp := by
  cases call with
  | refused => exact .inl rfl
  | called headers outcome =>
      cases outcome with
      | response resp => exact .inr (.inr ⟨_, rfl⟩)
      | failed => exact .inl rfl
      | elapsed => exact .inr (.inl rfl)

def events (ctx : RequestContext) (upstream : String) : AttemptCall → List ProxyEvent
  | .refused => []
  | .called headers outcome =>
      [⟨.clientRequest ⟨ctx.methodStr, upstream ++ ctx.finalPath, headers, ctx.wholeBody⟩
        ctx.requestTimeout, outcome⟩]

end AttemptCall

namespace Turn

def isAttempt : Turn → Bool
  | .attempted _ _ => true
  | _ => false

def call : Turn → Option AttemptCall
  | .attempted _ call => some call
  | _ => none

end Turn

section

variable (ctx : RequestContext) (healthyExists : Bool)

def RequestContext.upstreamAt (offset : Nat) : String :=
  (ctx.route.upstreams[ctx.index offset]?).getD ""

def healthQuery (upstream : String) (healthy : Bool) : List ProxyEvent :=
  if healthyExists then [⟨.isHealthy upstream, healthy⟩] else []

def admissionEvents (attemptsMade jitter : Nat) : List ProxyEvent :=
  if 0 < attemptsMade then
    let expDelay := backoffDelay ctx.server.retryBackoffMs attemptsMade
    let jitter := Fin.ofNat (expDelay / 2 + 1) jitter
    [⟨.allowRetry, true⟩, ⟨.incRetriesTotal ctx.route.routePrefix, ()⟩,
      ⟨.randomRange (expDelay / 2), jitter⟩, ⟨.sleep (wrappingAdd expDelay jitter), ()⟩]
  else []

def failureEvents (upstream : String) : Option (ProxyError × String) → List ProxyEvent
  | some (_, errorType) =>
      [⟨.recordFailure upstream, ()⟩, ⟨.incErrorsTotal ctx.route.routePrefix errorType, ()⟩]
  | none => []

/-- The events of one turn, given the offset it is at and the attempts made before. -/
def Turn.events (offset attemptsMade : Nat) : Turn → List ProxyEvent
  | .skipped => healthQuery healthyExists (ctx.upstreamAt offset) false
  | .denied => healthQuery healthyExists (ctx.upstreamAt offset) true ++ [⟨.allowRetry, false⟩]
  | .attempted jitter call =>
      healthQuery healthyExists (ctx.upstreamAt offset) true ++ admissionEvents ctx attemptsMade jitter ++
        ⟨.recordStart ctx.route.balancer (ctx.index offset), ()⟩ ::
          (call.events ctx (ctx.upstreamAt offset) ++
            ⟨.recordDone ctx.route.balancer (ctx.index offset), ()⟩ ::
              failureEvents ctx (ctx.upstreamAt offset) call.failure)

def turnEvents : Nat → Nat → List Turn → List ProxyEvent
  | _, _, [] => []
  | offset, attemptsMade, turn :: turns =>
      turn.events ctx healthyExists offset attemptsMade ++
        turnEvents (offset + 1) (attemptsMade + turn.isAttempt.toNat) turns

def countEvents (status : String) (now : Instant) : List ProxyEvent :=
  [⟨.instantNow, now⟩, ⟨.incRequestsTotal ctx.methodStr ctx.route.routePrefix status, ()⟩,
    ⟨.observeRequestDuration ctx.methodStr ctx.route.routePrefix (durationSince now ctx.start), ()⟩]

/-- How the request is reported after the last turn, made at the given offset. -/
def exitEvents (lastOffset : Nat) (now : Instant) : ProxyResult → List ProxyEvent
  | .ok resp =>
      ⟨.recordSuccess (ctx.upstreamAt lastOffset), ()⟩ :: countEvents ctx resp.status.asString now
  | .error error => countEvents ctx error.statusLabel now

/-- The turns the loop may take from its variables on, with the result they lead to. -/
inductive Unfolds : LoopState → List Turn → ProxyResult → Prop where
  | exit (loop : LoopState) : Unfolds loop [] (.error (loop.lastError.getD .upstreamFailure))
  | skipped {loop : LoopState} {turns : List Turn} {result : ProxyResult}
      (below : loop.attemptsMade < ctx.maxAttempts) (healthy : healthyExists = true)
      (rest : Unfolds loop turns result) : Unfolds loop (.skipped :: turns) result
  | denied {loop : LoopState} (below : loop.attemptsMade < ctx.maxAttempts)
      (retry : 0 < loop.attemptsMade) :
      Unfolds loop [.denied] (.error (loop.lastError.getD .upstreamFailure))
  | failed {loop : LoopState} {turns : List Turn} {result : ProxyResult} {call : AttemptCall}
      {error : ProxyError} {errorType : String} (jitter : Nat)
      (below : loop.attemptsMade < ctx.maxAttempts) (failure : call.failure = some (error, errorType))
      (rest : Unfolds ⟨loop.attemptsMade + 1, some error⟩ turns result) :
      Unfolds loop (.attempted jitter call :: turns) result
  | answered {loop : LoopState} {call : AttemptCall} (jitter : Nat)
      (below : loop.attemptsMade < ctx.maxAttempts) (success : call.failure = none) :
      Unfolds loop [.attempted jitter call] call.result

end

/-!
## One turn
-/

section

variable {ctx : RequestContext} {healthyExists : Bool} {trace : List ProxyEvent}

theorem runs_skips {upstream : String} {skip : Bool}
    (run : Runs (skips healthyExists upstream) trace skip) :
    trace = healthQuery healthyExists upstream (!skip) ∧ (skip = true → healthyExists = true) := by
  cases healthyExists with
  | false =>
      obtain ⟨rfl, rfl⟩ := runs_done.mp run
      exact ⟨rfl, nofun⟩
  | true =>
      obtain ⟨healthy, later, rfl, rest⟩ := runs_act.mp run
      obtain ⟨rfl, rfl⟩ := runs_done.mp rest
      exact ⟨by simp [healthQuery], fun _ => rfl⟩

theorem runs_admitAttempt {attemptsMade : Nat} {admitted : Bool}
    (run : Runs (admitAttempt ctx attemptsMade) trace admitted) :
    admitted = true ∧ (∃ jitter, trace = admissionEvents ctx attemptsMade jitter) ∨
      admitted = false ∧ 0 < attemptsMade ∧ trace = [⟨.allowRetry, false⟩] := by
  unfold admitAttempt at run
  by_cases retry : 0 < attemptsMade
  · rw [if_pos retry] at run
    obtain ⟨allowed, later, rfl, rest⟩ := runs_act.mp run
    cases allowed with
    | false =>
        obtain ⟨rfl, rfl⟩ := runs_done.mp rest
        exact .inr ⟨rfl, retry, rfl⟩
    | true =>
        obtain ⟨_, _, rfl, counted⟩ := runs_act.mp rest
        obtain ⟨jitter, _, rfl, drawn⟩ := runs_act.mp counted
        obtain ⟨_, _, rfl, slept⟩ := runs_act.mp drawn
        obtain ⟨rfl, rfl⟩ := runs_done.mp slept
        refine .inl ⟨rfl, jitter.val, ?_⟩
        have small : jitter.val % (backoffDelay ctx.server.retryBackoffMs attemptsMade / 2 + 1) = jitter.val :=
          Nat.mod_eq_of_lt jitter.isLt
        rw [admissionEvents, if_pos retry]
        simp [small]
  · rw [if_neg retry] at run
    obtain ⟨rfl, rfl⟩ := runs_done.mp run
    exact .inl ⟨rfl, 0, by rw [admissionEvents, if_neg retry]⟩

theorem runs_attempt {index : Nat} {upstream : String} {result : ProxyResult}
    (run : Runs (attempt ctx index upstream) trace result) :
    ∃ call : AttemptCall, result = call.result ∧
      trace = ⟨.recordStart ctx.route.balancer index, ()⟩ :: (call.events ctx upstream ++
        [⟨.recordDone ctx.route.balancer index, ()⟩]) := by
  obtain ⟨headers, _, forwarded⟩ := forwardOnce_eq ctx.parses
    ⟨ctx.methodStr, ctx.headers, ctx.wholeBody⟩ upstream ctx.finalPath ctx.requestId ctx.clientIp
    ctx.requestTimeout
  unfold attempt at run
  dsimp only at run
  rw [forwarded, perform_bind] at run
  obtain ⟨_, _, rfl, started⟩ := runs_act.mp run
  split at started
  · obtain ⟨outcome, _, rfl, called⟩ := runs_act.mp started
    obtain ⟨_, _, rfl, finished⟩ := runs_act.mp called
    obtain ⟨rfl, rfl⟩ := runs_done.mp finished
    exact ⟨.called headers outcome, rfl, rfl⟩
  · obtain ⟨_, _, rfl, finished⟩ := runs_act.mp started
    obtain ⟨rfl, rfl⟩ := runs_done.mp finished
    exact ⟨.refused, rfl, rfl⟩

theorem runs_countRequest {status : String} {elapsed : Duration} {value : Unit}
    (run : Runs (countRequest ctx status elapsed) trace value) :
    trace = [⟨.incRequestsTotal ctx.methodStr ctx.route.routePrefix status, ()⟩,
      ⟨.observeRequestDuration ctx.methodStr ctx.route.routePrefix elapsed, ()⟩] := by
  obtain ⟨_, _, rfl, counted⟩ := runs_act.mp run
  obtain ⟨_, _, rfl, observed⟩ := runs_act.mp counted
  obtain ⟨rfl, _⟩ := runs_done.mp observed
  rfl

theorem runs_failureExit {lastError : Option ProxyError} {result : ProxyResult}
    (run : Runs (failureExit ctx lastError) trace result) :
    result = .error (lastError.getD .upstreamFailure) ∧
      ∃ now, trace = countEvents ctx (lastError.getD .upstreamFailure).statusLabel now := by
  unfold failureExit at run
  rw [perform_bind, runs_act] at run
  obtain ⟨now, _, rfl, timed⟩ := run
  rw [runs_bind] at timed
  obtain ⟨_, counted, returned, rfl, counts, ends⟩ := timed
  obtain ⟨rfl, rfl⟩ := runs_done.mp ends
  rw [runs_countRequest counts]
  exact ⟨rfl, now, rfl⟩

theorem runs_noteFailure {upstream errorType : String} {step result : LoopStep}
    (run : Runs (noteFailure ctx upstream errorType >>= fun _ => pure step) trace result) :
    trace = [⟨.recordFailure upstream, ()⟩, ⟨.incErrorsTotal ctx.route.routePrefix errorType, ()⟩] ∧
      result = step := by
  obtain ⟨_, _, rfl, recorded⟩ := runs_act.mp run
  obtain ⟨_, _, rfl, counted⟩ := runs_act.mp recorded
  obtain ⟨rfl, rfl⟩ := runs_done.mp counted
  exact ⟨rfl, rfl⟩

theorem runs_finish {upstream : String} {resp : Response} {result : ProxyResult}
    (run : Runs (finish ctx upstream resp) trace result) :
    result = .ok resp ∧
      ∃ now, trace = ⟨.recordSuccess upstream, ()⟩ :: countEvents ctx resp.status.asString now := by
  unfold finish at run
  rw [perform_bind, runs_act] at run
  obtain ⟨_, _, rfl, recorded⟩ := run
  rw [perform_bind, runs_act] at recorded
  obtain ⟨now, _, rfl, timed⟩ := recorded
  rw [runs_bind] at timed
  obtain ⟨_, counted, returned, rfl, counts, ends⟩ := timed
  obtain ⟨rfl, rfl⟩ := runs_done.mp ends
  rw [runs_countRequest counts]
  exact ⟨rfl, now, rfl⟩

/-- After a failed attempt the loop goes on with its error; the response of any
other attempt is the result. -/
theorem runs_settle {upstream : String} {attemptsMade : Nat} {call : AttemptCall} {step : LoopStep}
    (run : Runs (settle ctx upstream attemptsMade call.result) trace step) :
    (∃ error errorType, call.failure = some (error, errorType) ∧
        trace = failureEvents ctx upstream call.failure ∧ step = .again ⟨attemptsMade, some error⟩) ∨
      ∃ resp now, call.failure = none ∧ call.result = .ok resp ∧ step = .answer (.ok resp) ∧
        trace = ⟨.recordSuccess upstream, ()⟩ :: countEvents ctx resp.status.asString now := by
  rcases call.result_cases with failed | timedOut | ⟨resp, answered⟩
  · rw [failed] at run
    obtain ⟨rfl, rfl⟩ := runs_noteFailure run
    have failure : call.failure = some (.upstreamFailure, "connection") := by
      simp [AttemptCall.failure, failed]
    exact .inl ⟨_, _, failure, by rw [failure, failureEvents], rfl⟩
  · rw [timedOut] at run
    obtain ⟨rfl, rfl⟩ := runs_noteFailure run
    have failure : call.failure = some (.upstreamTimeout, "timeout") := by
      simp [AttemptCall.failure, timedOut]
    exact .inl ⟨_, _, failure, by rw [failure, failureEvents], rfl⟩
  · rw [answered] at run
    by_cases erroneous : resp.status.isServerError = true
    · simp only [settle, erroneous, if_true] at run
      obtain ⟨rfl, rfl⟩ := runs_noteFailure run
      have failure : call.failure = some (.upstreamFailure, "5xx") := by
        simp [AttemptCall.failure, answered, erroneous]
      exact .inl ⟨_, _, failure, by rw [failure, failureEvents], rfl⟩
    · simp only [settle, erroneous] at run
      obtain ⟨result, finished, returned, rfl, finishes, ends⟩ := runs_bind.mp run
      obtain ⟨rfl, rfl⟩ := runs_done.mp ends
      obtain ⟨rfl, now, rfl⟩ := runs_finish finishes
      have success : call.failure = none := by
        simp [AttemptCall.failure, answered, erroneous]
      exact .inr ⟨resp, now, success, answered, rfl, by simp⟩

inductive TurnRun (ctx : RequestContext) (healthyExists : Bool) (offset : Nat) (loop : LoopState) :
    List ProxyEvent → LoopStep → Prop where
  | exhausted (spent : ctx.maxAttempts ≤ loop.attemptsMade) :
      TurnRun ctx healthyExists offset loop [] .leave
  | skipped (below : loop.attemptsMade < ctx.maxAttempts) (healthy : healthyExists = true) :
      TurnRun ctx healthyExists offset loop
        (Turn.skipped.events ctx healthyExists offset loop.attemptsMade) (.again loop)
  | denied (below : loop.attemptsMade < ctx.maxAttempts) (retry : 0 < loop.attemptsMade) :
      TurnRun ctx healthyExists offset loop
        (Turn.denied.events ctx healthyExists offset loop.attemptsMade) .leave
  | failed (below : loop.attemptsMade < ctx.maxAttempts) (jitter : Nat) {call : AttemptCall}
      {error : ProxyError} {errorType : String} (failure : call.failure = some (error, errorType)) :
      TurnRun ctx healthyExists offset loop
        ((Turn.attempted jitter call).events ctx healthyExists offset loop.attemptsMade)
        (.again ⟨loop.attemptsMade + 1, some error⟩)
  | answered (below : loop.attemptsMade < ctx.maxAttempts) (jitter : Nat) {call : AttemptCall}
      {resp : Response} (now : Instant) (success : call.failure = none)
      (response : call.result = .ok resp) :
      TurnRun ctx healthyExists offset loop
        ((Turn.attempted jitter call).events ctx healthyExists offset loop.attemptsMade ++
          exitEvents ctx offset now (.ok resp))
        (.answer (.ok resp))

theorem RequestContext.upstreams_index (nonempty : ctx.route.upstreams ≠ []) (offset : Nat) :
    ctx.route.upstreams[ctx.index offset]? = some (ctx.upstreamAt offset) := by
  have inside : ctx.index offset < ctx.route.upstreams.length :=
    Nat.mod_lt _ (List.length_pos_iff.mpr nonempty)
  simp [upstreamAt, inside]

theorem runs_visit (nonempty : ctx.route.upstreams ≠ []) {offset : Nat} {loop : LoopState}
    {step : LoopStep} (run : Runs (visit ctx healthyExists offset loop) trace step) :
    TurnRun ctx healthyExists offset loop trace step := by
  unfold visit at run
  by_cases spent : ctx.maxAttempts ≤ loop.attemptsMade
  · rw [if_pos spent] at run
    obtain ⟨rfl, rfl⟩ := runs_done.mp run
    exact .exhausted spent
  · have below := not_le.mp spent
    rw [if_neg spent] at run
    dsimp only at run
    rw [ctx.upstreams_index nonempty offset, Proxy.unwrap_some, pure_eq_done, bind_done, runs_bind] at run
    obtain ⟨skip, queried, later, rfl, skipRun, run⟩ := run
    obtain ⟨rfl, healthy⟩ := runs_skips skipRun
    cases skip with
    | true =>
        obtain ⟨rfl, rfl⟩ := runs_done.mp run
        rw [List.append_nil]
        exact .skipped below (healthy rfl)
    | false =>
        rw [if_neg Bool.false_ne_true, runs_bind] at run
        obtain ⟨admitted, admission, attempted, rfl, admitRun, run⟩ := run
        rcases runs_admitAttempt admitRun with ⟨rfl, jitter, rfl⟩ | ⟨rfl, retry, rfl⟩
        · rw [if_pos rfl, runs_bind] at run
          obtain ⟨result, attempting, settling, rfl, attemptRun, settleRun⟩ := run
          obtain ⟨call, rfl, rfl⟩ := runs_attempt attemptRun
          rcases runs_settle settleRun with
            ⟨error, errorType, failure, rfl, rfl⟩ | ⟨resp, now, success, response, rfl, rfl⟩
          · have turn : TurnRun ctx healthyExists offset loop _ _ := .failed below jitter failure
            simpa [Turn.events] using turn
          · have turn : TurnRun ctx healthyExists offset loop _ _ :=
              .answered below jitter now success response
            simpa [Turn.events, success, failureEvents, exitEvents] using turn
        · obtain ⟨rfl, rfl⟩ := runs_done.mp run
          rw [List.append_nil]
          exact .denied below retry

/-- The turns left the loop: a retry was denied, the attempts were spent, or the rotation
was at its end. -/
def Stops (ctx : RequestContext) (attemptsMade count : Nat) (turns : List Turn) : Prop :=
  .denied ∈ turns ∨ ctx.maxAttempts ≤ attemptsMade + turns.countP Turn.isAttempt ∨ turns.length = count

theorem Stops.cons {attemptsMade count : Nat} {turns : List Turn} (turn : Turn)
    (stops : Stops ctx (attemptsMade + turn.isAttempt.toNat) count turns) :
    Stops ctx attemptsMade (count + 1) (turn :: turns) := by
  rcases stops with denied | spent | ended
  · exact .inl (List.mem_cons_of_mem _ denied)
  · refine .inr (.inl ?_)
    cases attempted : turn.isAttempt <;> simp [attempted] at spent ⊢ <;> omega
  · exact .inr (.inr (by rw [List.length_cons, ended]))

theorem Stops.spent_of_nil (nonempty : ctx.route.upstreams ≠ []) (stops : Stops ctx 0 ctx.upstreamCount []) :
    ctx.maxAttempts = 0 := by
  rcases stops with denied | spent | ended
  · exact absurd denied List.not_mem_nil
  · exact Nat.le_zero.mp spent
  · exact absurd (List.length_eq_zero_iff.mp ended.symm) nonempty

/-- A complete run of the loop is a sequence of turns followed by its report. -/
theorem runs_retryLoop (nonempty : ctx.route.upstreams ≠ []) {offset count : Nat} {loop : LoopState}
    {result : ProxyResult}
    (run : Runs (retryLoop ctx healthyExists (List.range' offset count) loop) trace result) :
    ∃ turns now, turns.length ≤ count ∧ Unfolds ctx healthyExists loop turns result ∧
      (∀ error, result = .error error → Stops ctx loop.attemptsMade count turns) ∧
      trace = turnEvents ctx healthyExists offset loop.attemptsMade turns ++
        exitEvents ctx (offset + turns.length - 1) now result := by
  induction count generalizing offset loop trace with
  | zero =>
      obtain ⟨rfl, now, rfl⟩ := runs_failureExit run
      exact ⟨[], now, le_rfl, .exit loop, fun _ _ => .inr (.inr rfl), rfl⟩
  | succ count ih =>
      rw [List.range'_succ, retryLoop, runs_bind] at run
      obtain ⟨step, turnTrace, later, rfl, visitRun, rest⟩ := run
      cases runs_visit nonempty visitRun with
      | exhausted spent =>
          obtain ⟨rfl, now, rfl⟩ := runs_failureExit rest
          exact ⟨[], now, Nat.zero_le _, .exit loop, fun _ _ => .inr (.inl spent), rfl⟩
      | skipped below healthy =>
          obtain ⟨turns, now, few, unfolds, stops, rfl⟩ := ih rest
          refine ⟨.skipped :: turns, now, by simpa using few, .skipped below healthy unfolds,
            fun error failed => (stops error failed).cons .skipped, ?_⟩
          have last : offset + (Turn.skipped :: turns).length - 1 = offset + 1 + turns.length - 1 := by
            rw [List.length_cons]
            omega
          rw [turnEvents, last, List.append_assoc]
          rfl
      | denied below retry =>
          obtain ⟨rfl, now, rfl⟩ := runs_failureExit rest
          refine ⟨[.denied], now, by simp, .denied below retry, fun _ _ => .inl List.mem_cons_self, ?_⟩
          rw [turnEvents, turnEvents, List.append_nil]
          rfl
      | @failed below jitter call error errorType failure =>
          obtain ⟨turns, now, few, unfolds, stops, rfl⟩ := ih rest
          refine ⟨.attempted jitter call :: turns, now, by simpa using few,
            .failed jitter below failure unfolds,
            fun error failed => (stops error failed).cons (.attempted jitter call), ?_⟩
          · have last : offset + (Turn.attempted jitter call :: turns).length - 1 =
                offset + 1 + turns.length - 1 := by
              rw [List.length_cons]
              omega
            rw [turnEvents, last, List.append_assoc]
            rfl
      | @answered below jitter call resp now success response =>
          obtain ⟨rfl, rfl⟩ := runs_done.mp rest
          refine ⟨[.attempted jitter call], now, by simp, ?_, ?_, ?_⟩
          · rw [← response]
            exact .answered jitter below success
          · intro error failed
            cases failed
          · rw [turnEvents, turnEvents, List.append_nil, List.append_nil]
            rfl

end

/-!
## The attempts of a run
-/

def RequestContext.rotation (ctx : RequestContext) : List Nat :=
  (List.range ctx.upstreamCount).map ctx.index

/-- The indices attempted by turns at consecutive offsets from zero on. -/
def attemptedIndices (ctx : RequestContext) (turns : List Turn) : List Nat :=
  (turns.zipIdx.filter (·.1.isAttempt)).map fun turn => ctx.index turn.2

def attemptsBefore (turns : List Turn) (offset : Nat) : Nat := (turns.take offset).countP Turn.isAttempt

def lastCall (turns : List Turn) : Option AttemptCall := (turns.filterMap Turn.call).getLast?

/-- The attempt ended in an error or with a status from 500 to 599. -/
def AttemptCall.Failed (call : AttemptCall) : Prop :=
  ∀ resp, call.result = .ok resp → 500 ≤ resp.status.code ∧ resp.status.code < 600

theorem AttemptCall.failed_iff {call : AttemptCall} : call.Failed ↔ ∃ reason, call.failure = some reason := by
  unfold Failed failure
  cases result : call.result with
  | ok resp => simp [StatusCode.isServerError]
  | error error => cases error <;> simp

section

variable {ctx : RequestContext} {healthyExists : Bool} {loop : LoopState} {turns : List Turn}
  {result : ProxyResult}

theorem attemptedIndices_sublist (few : turns.length ≤ ctx.upstreamCount) :
    (attemptedIndices ctx turns).Sublist ctx.rotation := by
  have offsets : turns.zipIdx.map (fun turn => ctx.index turn.2) =
      (List.range turns.length).map ctx.index := by
    rw [List.range_eq_range', ← List.zipIdx_map_snd 0 turns, List.map_map]
    rfl
  refine (List.filter_sublist.map _).trans ?_
  rw [offsets]
  exact (List.range_sublist.mpr few).map _

theorem rotation_nodup (ctx : RequestContext) : ctx.rotation.Nodup := by
  refine List.nodup_range.map_on fun first firstBelow second secondBelow same => ?_
  have congruent : first ≡ second [MOD ctx.upstreamCount] :=
    Nat.ModEq.add_left_cancel' ctx.startIndex same
  exact congruent.eq_of_lt_of_lt (List.mem_range.mp firstBelow) (List.mem_range.mp secondBelow)

theorem Unfolds.attempts_le (unfolds : Unfolds ctx healthyExists loop turns result)
    (within : loop.attemptsMade ≤ ctx.maxAttempts) :
    loop.attemptsMade + turns.countP Turn.isAttempt ≤ ctx.maxAttempts := by
  induction unfolds with
  | exit loop => simpa using within
  | skipped below healthy rest ih => simpa [Turn.isAttempt] using ih within
  | denied below retry => simpa [Turn.isAttempt] using within
  | failed jitter below failure rest ih =>
      have later := ih below
      simp only [List.countP_cons, Turn.isAttempt, if_true] at later ⊢
      omega
  | answered jitter below success => simpa [Turn.isAttempt, Nat.succ_le_iff] using below

/-- A turn before another turn is no denial: it is skipped while some upstream was found
healthy, or is a failed attempt. -/
theorem Unfolds.turn_before (unfolds : Unfolds ctx healthyExists loop turns result) {earlier later : Nat}
    {turn next : Turn} (ordered : earlier < later) (passed : turns[earlier]? = some turn)
    (stored : turns[later]? = some next) :
    turn = .skipped ∧ healthyExists = true ∨
      ∃ jitter call, turn = .attempted jitter call ∧ call.Failed := by
  obtain ⟨later, rfl⟩ := Nat.exists_eq_succ_of_ne_zero (Nat.ne_zero_of_lt ordered)
  induction unfolds generalizing earlier later with
  | exit loop => simp at passed
  | skipped below healthy rest ih =>
      cases earlier with
      | zero =>
          rw [List.getElem?_cons_zero, Option.some.injEq] at passed
          exact .inl ⟨passed.symm, healthy⟩
      | succ earlier =>
          have before := Nat.lt_of_succ_lt_succ ordered
          obtain ⟨previous, rfl⟩ := Nat.exists_eq_succ_of_ne_zero (Nat.ne_zero_of_lt before)
          exact ih (by simpa using passed) previous before (by simpa using stored)
  | denied below retry => simp at stored
  | failed jitter below failure rest ih =>
      cases earlier with
      | zero =>
          rw [List.getElem?_cons_zero, Option.some.injEq] at passed
          exact .inr ⟨jitter, _, passed.symm, AttemptCall.failed_iff.mpr ⟨_, failure⟩⟩
      | succ earlier =>
          have before := Nat.lt_of_succ_lt_succ ordered
          obtain ⟨previous, rfl⟩ := Nat.exists_eq_succ_of_ne_zero (Nat.ne_zero_of_lt before)
          exact ih (by simpa using passed) previous before (by simpa using stored)
  | answered jitter below success => simp at stored

theorem Unfolds.passedOver (unfolds : Unfolds ctx healthyExists loop turns result) {earlier later : Nat}
    {turn next : Turn} (ordered : earlier < later) (passed : turns[earlier]? = some turn)
    (stored : turns[later]? = some next) (idle : turn.isAttempt = false) :
    turn = .skipped ∧ healthyExists = true := by
  rcases unfolds.turn_before ordered passed stored with skipped | ⟨jitter, call, rfl, _⟩
  · exact skipped
  · cases idle

theorem Unfolds.call_failed (unfolds : Unfolds ctx healthyExists loop turns result)
    {earlier later jitter : Nat} {call : AttemptCall} {next : Turn} (ordered : earlier < later)
    (made : turns[earlier]? = some (.attempted jitter call)) (stored : turns[later]? = some next) :
    call.Failed := by
  rcases unfolds.turn_before ordered made stored with ⟨skipped, _⟩ | ⟨_, _, same, failed⟩
  · cases skipped
  · cases same
    exact failed

def resultAfter (lastError : Option ProxyError) : Option AttemptCall → ProxyResult
  | none => .error (lastError.getD .upstreamFailure)
  | some call =>
      match call.failure with
      | some (error, _) => .error error
      | none => call.result

theorem Unfolds.result_eq (unfolds : Unfolds ctx healthyExists loop turns result) :
    result = resultAfter loop.lastError (lastCall turns) := by
  induction unfolds with
  | exit loop => rfl
  | skipped below healthy rest ih => exact ih
  | denied below retry => rfl
  | @failed loop turns result call error errorType jitter below failure rest ih =>
      have calls : (Turn.attempted jitter call :: turns).filterMap Turn.call =
          call :: turns.filterMap Turn.call := rfl
      rw [ih, lastCall, lastCall, calls, List.getLast?_cons]
      cases (turns.filterMap Turn.call).getLast? with
      | none => simp [resultAfter, failure]
      | some lastCalled => rfl
  | answered jitter below success => simp [lastCall, Turn.call, resultAfter, success]

theorem resultAfter_ok_iff {lastError : Option ProxyError} {last : Option AttemptCall} {resp : Response} :
    resultAfter lastError last = .ok resp ↔
      ∃ call, last = some call ∧ call.result = .ok resp ∧
        ¬ (500 ≤ resp.status.code ∧ resp.status.code < 600) := by
  cases last with
  | none => simp [resultAfter]
  | some call =>
      cases result : call.result with
      | ok answered =>
          by_cases erroneous : answered.status.isServerError = true
          · have failed : resultAfter lastError (some call) = .error .upstreamFailure := by
              simp [resultAfter, AttemptCall.failure, result, erroneous]
            rw [failed]
            constructor
            · nofun
            · intro last
              obtain ⟨_, same, response, success⟩ := last
              cases same
              rw [result] at response
              cases response
              exact absurd (StatusCode.isServerError_iff.mp erroneous) success
          · have succeeded : resultAfter lastError (some call) = .ok answered := by
              simp [resultAfter, AttemptCall.failure, result, erroneous]
            rw [succeeded]
            constructor
            · intro same
              cases same
              exact ⟨call, rfl, result, fun range => erroneous (StatusCode.isServerError_iff.mpr range)⟩
            · intro last
              obtain ⟨_, same, response, _⟩ := last
              cases same
              rw [← result, response]
      | error error => cases error <;> simp [resultAfter, AttemptCall.failure, result]

theorem resultAfter_error {last : Option AttemptCall} {error : ProxyError}
    (failed : resultAfter none last = .error error) :
    error = if last.map AttemptCall.result = some (.error .upstreamTimeout) then .upstreamTimeout
      else .upstreamFailure := by
  cases last with
  | none =>
      cases failed
      rfl
  | some call =>
      simp only [Option.map_some, Option.some.injEq]
      rcases call.result_cases with unsent | timedOut | ⟨resp, answered⟩
      · simp only [resultAfter, AttemptCall.failure, unsent] at failed ⊢
        cases failed
        rfl
      · simp only [resultAfter, AttemptCall.failure, timedOut] at failed ⊢
        cases failed
        rfl
      · by_cases erroneous : resp.status.isServerError = true
        · simp only [resultAfter, AttemptCall.failure, answered, erroneous, if_true] at failed ⊢
          cases failed
          rfl
        · simp only [resultAfter, AttemptCall.failure, answered, erroneous] at failed
          cases failed

end

/-!
## The events of a run
-/

def Effect.startsAttempt : Effect → Bool
  | .recordStart _ _ => true
  | _ => false

def attemptsIn (history : List ProxyEvent) : Nat := history.countP fun event => event.effect.startsAttempt

@[simp] theorem attemptsIn_nil : attemptsIn [] = 0 := rfl

@[simp] theorem attemptsIn_append (before after : List ProxyEvent) :
    attemptsIn (before ++ after) = attemptsIn before + attemptsIn after :=
  List.countP_append

@[simp] theorem attemptsIn_cons (event : ProxyEvent) (history : List ProxyEvent) :
    attemptsIn (event :: history) = event.effect.startsAttempt.toNat + attemptsIn history := by
  cases starts : event.effect.startsAttempt <;> simp [attemptsIn, starts, Nat.add_comm]

section

variable {ctx : RequestContext} {healthyExists : Bool} {turns : List Turn} {result : ProxyResult}

def FindsHealthy (trace : List ProxyEvent) : Prop := ∃ upstream, ⟨.isHealthy upstream, true⟩ ∈ trace

theorem runs_anyHealthy {upstreams : List String} {scan : List ProxyEvent}
    (run : Runs (anyHealthy upstreams) scan healthyExists) :
    (∀ event ∈ scan, ∃ upstream, event.effect = .isHealthy upstream) ∧
      (healthyExists = true ↔ FindsHealthy scan) := by
  unfold FindsHealthy
  induction upstreams generalizing scan with
  | nil =>
      obtain ⟨rfl, rfl⟩ := runs_done.mp run
      simp
  | cons upstream upstreams ih =>
      obtain ⟨healthy, later, rfl, rest⟩ := runs_act.mp run
      cases healthy with
      | true =>
          obtain ⟨rfl, rfl⟩ := runs_done.mp rest
          simp
      | false =>
          obtain ⟨queries, found⟩ := ih rest
          refine ⟨?_, ?_⟩
          · intro event member
            rcases List.mem_cons.mp member with rfl | member
            · exact ⟨upstream, rfl⟩
            · exact queries event member
          · rw [found]
            simp

theorem mem_turnEvents {event : ProxyEvent} {offset attemptsMade : Nat}
    (member : event ∈ turnEvents ctx healthyExists offset attemptsMade turns) :
    ∃ turn ∈ turns, ∃ place made, event ∈ turn.events ctx healthyExists place made := by
  induction turns generalizing offset attemptsMade with
  | nil => simp [turnEvents] at member
  | cons turn turns ih =>
      rw [turnEvents, List.mem_append] at member
      cases member with
      | inl here => exact ⟨turn, List.mem_cons_self, offset, attemptsMade, here⟩
      | inr later =>
          obtain ⟨other, stored, place, made, found⟩ := ih later
          exact ⟨other, List.mem_cons_of_mem _ stored, place, made, found⟩

theorem turn_mem_turnEvents (ctx : RequestContext) (healthyExists : Bool) {turn : Turn} {place : Nat}
    (stored : turns[place]? = some turn) (offset attemptsMade : Nat) :
    ∃ made, ∀ event ∈ turn.events ctx healthyExists (offset + place) made,
      event ∈ turnEvents ctx healthyExists offset attemptsMade turns := by
  induction turns generalizing offset attemptsMade place with
  | nil => simp at stored
  | cons first turns ih =>
      cases place with
      | zero =>
          cases stored
          exact ⟨attemptsMade, fun event here => List.mem_append_left _ here⟩
      | succ place =>
          obtain ⟨made, within⟩ := ih stored (offset + 1) (attemptsMade + first.isAttempt.toNat)
          rw [Nat.add_assoc, Nat.add_comm 1 place] at within
          exact ⟨made, fun event here => List.mem_append_right _ (within event here)⟩

@[simp] theorem attemptsIn_admissionEvents (attemptsMade jitter : Nat) :
    attemptsIn (admissionEvents ctx attemptsMade jitter) = 0 := by
  unfold admissionEvents
  split <;> simp [Effect.startsAttempt]

theorem exitEvents_reports (lastOffset : Nat) (now : Instant) :
    ∀ event ∈ exitEvents ctx lastOffset now result, event.effect.Reports := by
  cases result <;> simp [exitEvents, countEvents, Effect.Reports]

end

/-!
## The loop of a request
-/

/-- What the loop guarantees of its turns and its result. -/
structure RetriesCorrectly (ctx : RequestContext) (healthyExists : Bool) (turns : List Turn)
    (result : ProxyResult) : Prop where
  /-- The attempts follow the rotation, -/
  rotation : (attemptedIndices ctx turns).Sublist ctx.rotation
  /-- no index is attempted twice, -/
  distinct : (attemptedIndices ctx turns).Nodup
  /-- and there are at most as many as upstreams and as configured. -/
  bounded : (attemptedIndices ctx turns).length ≤ min ctx.upstreamCount (ctx.server.maxRetries + 1)
  /-- An upstream passed over before an attempt was reported unhealthy while some
  upstream was found healthy. -/
  passedOver : ∀ (earlier later : Nat) (turn : Turn) (jitter : Nat) (call : AttemptCall),
    earlier < later → turns[earlier]? = some turn →
    turns[later]? = some (.attempted jitter call) → turn.isAttempt = false →
      turn = .skipped ∧ healthyExists = true
  /-- A further attempt follows a failed one and an allowed retry. -/
  retried : ∀ (earlier later firstJitter jitter : Nat) (first call : AttemptCall), earlier < later →
    turns[earlier]? = some (.attempted firstJitter first) →
    turns[later]? = some (.attempted jitter call) →
      first.Failed ∧ ⟨.allowRetry, true⟩ ∈
        (Turn.attempted jitter call).events ctx healthyExists later (attemptsBefore turns later)
  /-- The result is the last attempt's response when that is no server error, -/
  ok : ∀ resp, result = .ok resp ↔ ∃ call : AttemptCall, lastCall turns = some call ∧ call.result = .ok resp ∧
    ¬ (500 ≤ resp.status.code ∧ resp.status.code < 600)
  /-- and otherwise the last attempt's error, a timeout or else a failure. -/
  error : ∀ error, result = .error error →
    error = if (lastCall turns).map AttemptCall.result = some (.error .upstreamTimeout) then
      .upstreamTimeout else .upstreamFailure

section

variable {ctx : RequestContext} {healthyExists : Bool} {turns : List Turn} {result : ProxyResult}

theorem attemptsBefore_pos {earlier later jitter : Nat} {call : AttemptCall} (ordered : earlier < later)
    (made : turns[earlier]? = some (.attempted jitter call)) : 0 < attemptsBefore turns later := by
  refine List.countP_pos_iff.mpr ⟨.attempted jitter call, ?_, rfl⟩
  refine List.mem_of_getElem? (i := earlier) ?_
  rw [List.getElem?_take_of_lt ordered, made]

theorem attemptedIndices_length (ctx : RequestContext) (turns : List Turn) :
    (attemptedIndices ctx turns).length = turns.countP Turn.isAttempt := by
  rw [attemptedIndices, List.length_map, ← List.countP_eq_length_filter]
  conv_rhs => rw [← List.zipIdx_map_fst 0 turns, List.countP_map]
  rfl

theorem RequestContext.maxAttempts_eq (bounded : ctx.server.maxRetries < wordMax) :
    ctx.maxAttempts = ctx.server.maxRetries + 1 :=
  wrappingAdd_of_lt (by simp only [wordMax, wordSize] at bounded ⊢; omega)

theorem Unfolds.retriesCorrectly (unfolds : Unfolds ctx healthyExists ⟨0, none⟩ turns result)
    (few : turns.length ≤ ctx.upstreamCount) (bounded : ctx.server.maxRetries < wordMax) :
    RetriesCorrectly ctx healthyExists turns result := by
  have order := attemptedIndices_sublist few
  have attempts : (attemptedIndices ctx turns).length ≤ ctx.server.maxRetries + 1 := by
    have made := unfolds.attempts_le (Nat.zero_le _)
    rw [attemptedIndices_length, ← ctx.maxAttempts_eq bounded]
    simpa using made
  have places : (attemptedIndices ctx turns).length ≤ ctx.upstreamCount := by
    have within := order.length_le
    rwa [RequestContext.rotation, List.length_map, List.length_range] at within
  exact {
    rotation := order
    distinct := (rotation_nodup ctx).sublist order
    bounded := le_min places attempts
    passedOver := fun earlier later turn jitter call ordered passed made idle =>
      unfolds.passedOver ordered passed made idle
    retried := by
      intro earlier later firstJitter jitter first call ordered made again
      have retry := attemptsBefore_pos ordered made
      refine ⟨unfolds.call_failed ordered made again, ?_⟩
      simp [Turn.events, admissionEvents, retry]
    ok := fun resp => by
      rw [unfolds.result_eq]
      exact resultAfter_ok_iff
    error := fun error failed => resultAfter_error (unfolds.result_eq.symm.trans failed) }

theorem runs_tryUpstreams (nonempty : ctx.route.upstreams ≠ []) {trace : List ProxyEvent}
    (run : Runs (tryUpstreams ctx) trace result) :
    ∃ scan healthyExists turns now, Runs (anyHealthy ctx.route.upstreams) scan healthyExists ∧
      trace = scan ++ ⟨.recordRequest, ()⟩ :: (turnEvents ctx healthyExists 0 0 turns ++
        exitEvents ctx (turns.length - 1) now result) ∧
      turns.length ≤ ctx.upstreamCount ∧ Unfolds ctx healthyExists ⟨0, none⟩ turns result ∧
      ∀ error, result = .error error → Stops ctx 0 ctx.upstreamCount turns := by
  rw [tryUpstreams, runs_bind] at run
  obtain ⟨healthyExists, scan, recording, rfl, scanRun, recordRun⟩ := run
  rw [perform_bind, runs_act] at recordRun
  obtain ⟨_, loopTrace, rfl, loopRun⟩ := recordRun
  rw [List.range_eq_range'] at loopRun
  obtain ⟨turns, now, few, unfolds, stops, rfl⟩ := runs_retryLoop nonempty loopRun
  rw [Nat.zero_add] at *
  exact ⟨scan, healthyExists, turns, now, scanRun, rfl, few, unfolds, stops⟩

end

def selectionEvents (req : Request) (start : Instant) (requestId : Uuid) (config : Arc Config)
    (router : Arc Router) (route : Route) (wholeBody : Bytes) (startIndex : Nat) : List ProxyEvent :=
  [⟨.instantNow, start⟩, ⟨.newV4, requestId⟩, ⟨.loadConfig, config⟩, ⟨.loadRouter, router⟩,
    ⟨.toBytes, some wholeBody⟩,
    ⟨.nextIndexForKey route.balancer route.upstreams.length req.uri.path, some startIndex⟩]

theorem runs_proxyRequest {parses : UriParser} {req : Request} {start : Instant} {requestId : Uuid}
    {config : Arc Config} {router : Arc Router} {route : Route} {wholeBody : Bytes} {startIndex : Nat}
    {trace : List ProxyEvent} {result : ProxyResult}
    (matched : router.value.matchRoute req.uri.path = some route) :
    Runs (proxyRequest parses req)
        (selectionEvents req start requestId config router route wholeBody startIndex ++ trace) result ↔
      Runs (tryUpstreams
        (matchedContext parses req start requestId config.value route wholeBody startIndex))
          trace result := by
  unfold proxyRequest selectionEvents
  simp only [perform_bind, List.cons_append, List.nil_append, runs_act_cons, routeRequest, matched,
    proxyMatched, Proxy.unwrap_some, pure_eq_done, bind_done]

/-- In every run of a request that matched a route with upstreams and received a
starting index, the loop makes turns over the rotation and retries correctly. -/
theorem proxyRequest_retriesCorrectly {parses : UriParser} {req : Request} {start : Instant}
    {requestId : Uuid} {config : Arc Config} {router : Arc Router} {route : Route} {wholeBody : Bytes}
    {startIndex : Nat} {trace : List ProxyEvent} {result : ProxyResult}
    (matched : router.value.matchRoute req.uri.path = some route) (nonempty : route.upstreams ≠ [])
    (bounded : config.value.server.maxRetries < wordMax)
    (run : Runs (proxyRequest parses req)
      (selectionEvents req start requestId config router route wholeBody startIndex ++ trace) result) :
    let ctx := matchedContext parses req start requestId config.value route wholeBody startIndex
    ∃ scan healthyExists turns now, Runs (anyHealthy route.upstreams) scan healthyExists ∧
      trace = scan ++ ⟨.recordRequest, ()⟩ :: (turnEvents ctx healthyExists 0 0 turns ++
        exitEvents ctx (turns.length - 1) now result) ∧
      RetriesCorrectly ctx healthyExists turns result := by
  obtain ⟨scan, healthyExists, turns, now, scanRun, split, few, unfolds, _⟩ :=
    runs_tryUpstreams nonempty ((runs_proxyRequest matched).mp run)
  exact ⟨scan, healthyExists, turns, now, scanRun, split, unfolds.retriesCorrectly few bounded⟩

/-- A request that meets a healthy tracker, an unused budget, and two upstreams that
answer with the given statuses. -/
def twoUpstreams : Route := ⟨"/", ["http://10.0.0.1:9001", "http://10.0.0.2:9002"], 0⟩

def twoUpstreamsConfig : Config :=
  { server := { requestTimeoutSecs := 5, maxRetries := 2 }
    routes := [{ routePrefix := "/", upstream := twoUpstreams.upstreams }] }

def plainRequest : Request := ⟨"GET", ⟨some "/"⟩, [], none⟩

def plainId : Uuid := ⟨"00000000-0000-4000-8000-000000000000", by decide⟩

def plainClient : IpAddr := ⟨"10.0.0.9", by decide⟩

def answersWithStatus (first second : StatusCode) : (effect : Effect) → Option (Answer effect)
  | .instantNow => some (0 : ℚ)
  | .newV4 => some plainId
  | .loadConfig => some ⟨0, twoUpstreamsConfig⟩
  | .loadRouter => some ⟨0, ⟨[twoUpstreams]⟩⟩
  | .toBytes => some (some [])
  | .nextIndexForKey _ _ _ => some (some 0)
  | .isHealthy _ | .allowRetry => some true
  | .randomRange _ => some 0
  | .clientRequest request _ =>
      some (.response ⟨if startsWith request.uri "http://10.0.0.1" then first else second, [], []⟩)
  | .panicked => none
  | .incRequestsTotal _ _ _ | .observeRequestDuration _ _ _ | .incRetriesTotal _ | .incErrorsTotal _ _
  | .recordStart _ _ | .recordDone _ _ | .recordFailure _ | .recordSuccess _ | .recordRequest
  | .sleep _ => some ()

theorem plainRequest_matches :
    Router.matchRoute ⟨[twoUpstreams]⟩ plainRequest.uri.path = some twoUpstreams := by
  decide

/-- The first upstream answers 503, the second 200. -/
theorem failover_runs : ∃ trace, Runs (proxyRequest (fun _ => true) plainRequest)
    (selectionEvents plainRequest 0 plainId ⟨0, twoUpstreamsConfig⟩ ⟨0, ⟨[twoUpstreams]⟩⟩ twoUpstreams [] 0 ++
      trace) (.ok ⟨.ok, [], []⟩) :=
  ⟨_, Program.answerBy_runs
    (rfl : (proxyRequest (fun _ => true) plainRequest).answerBy
      (answersWithStatus .serviceUnavailable .ok) = some (selectionEvents plainRequest 0 plainId
        ⟨0, twoUpstreamsConfig⟩ ⟨0, ⟨[twoUpstreams]⟩⟩ twoUpstreams [] 0 ++ _, .ok ⟨.ok, [], []⟩))⟩

theorem proxyRequest_retriesCorrectly_failover :
    ∃ healthyExists turns, RetriesCorrectly
      (matchedContext (fun _ => true) plainRequest 0 plainId twoUpstreamsConfig twoUpstreams [] 0)
      healthyExists turns (.ok ⟨.ok, [], []⟩) := by
  obtain ⟨_, run⟩ := failover_runs
  obtain ⟨_, healthyExists, turns, _, _, _, correct⟩ :=
    proxyRequest_retriesCorrectly plainRequest_matches (by decide) (by decide) run
  exact ⟨healthyExists, turns, correct⟩

def unassignedStatus : StatusCode := ⟨600, by decide⟩

/-- A status outside the five classes is returned although it is not below 500. -/
theorem unassigned_status_returned :
    (∃ trace, Runs (proxyRequest (fun _ => true) plainRequest) trace (.ok ⟨unassignedStatus, [], []⟩)) ∧
      ¬ unassignedStatus.code < 500 := by
  refine ⟨⟨_, Program.answerBy_runs (rfl : (proxyRequest (fun _ => true) plainRequest).answerBy
    (answersWithStatus unassignedStatus .ok) = some (_, _))⟩, by decide⟩

end L7Proxy
