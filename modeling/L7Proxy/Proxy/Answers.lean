import L7Proxy.Proxy.Attempts
import L7Proxy.Proxy.GivingUp
import L7Proxy.Proxy.Routing

/-!
# Where a response comes from

The result of a request is the answer of the latest call to an upstream, unless that is a
server error, or says that no route matched or that the attempts failed. Where they
failed, no call was answered with anything but a server error, and the error is a timeout
exactly when the latest attempt timed out.
-/

set_option autoImplicit false

namespace L7Proxy

open Interaction

/-- The response ends the request: it is no server error. -/
def UpstreamOutcome.serves : UpstreamOutcome → Bool
  | .response answer => !answer.status.isServerError
  | _ => false

/-- The router a request loaded, the outcomes of its latest call and of its latest attempt,
which may have made no call, and whether a call was answered with no server error. -/
structure Answering where
  router : Option (Arc Router)
  outcome : Option UpstreamOutcome
  latest : Option UpstreamOutcome
  served : Bool

def Answering.none : Answering := ⟨.none, .none, .none, false⟩

def answering : Monitor Effect Answer Answering where
  next answering event := match event with
    | ⟨.loadRouter, router⟩ => { answering with router := some router }
    | ⟨.recordStart _ _, _⟩ => { answering with latest := .none }
    | ⟨.clientRequest _ _, outcome⟩ =>
        { answering with outcome := some outcome, latest := some outcome, served := answering.served || outcome.serves }
    | _ => answering
  allowed _ _ := True

/-- An error of the proxy says that no call succeeded and whether the latest attempt timed
out. -/
structure Answering.Fails (answering : Answering) (error : ProxyError) : Prop where
  unserved : answering.served = false
  reason : error = if answering.latest = some .elapsed then .upstreamTimeout else .upstreamFailure

/-- What a result says of the request. -/
def Answering.Explains (answering : Answering) (req : Request) : ProxyResult → Prop
  | .ok resp =>
      (answering.outcome = .none ∧ resp = .text .notFound "No matching route" ∧
        ∃ router, answering.router = some router ∧ router.value.matchRoute req.uri.path = .none) ∨
      ∃ answer, answering.outcome = some (.response answer) ∧ answer.status.isServerError = false ∧
        resp = { answer with headers := stripHopByHopHeaders answer.headers }
  | .error error => answering.Fails error

/-- The error the loop would be left with is one the request may end in. -/
def LoopState.Explained (loop : LoopState) (answering : Answering) : Prop :=
  answering.Fails (loop.lastError.getD .upstreamFailure)

section

variable {req : Request} {ctx : RequestContext} {state : Answering}

theorem answering_overlooks_prepares (state : Answering) (effect : Effect) (prepares : effect.PreparesAttempt) :
    answering.Overlooks state effect := by
  cases effect <;> first
    | exact prepares.elim
    | exact ⟨trivial, fun _ => rfl⟩

/-- What a turn leaves of the invariant. -/
def LoopState.TurnExplained (loop : LoopState) (req : Request) (state : Answering) : LoopStep → Prop
  | .again next => next.Explained state
  | .leave => loop.Explained state
  | .answer result => state.Explains req result

theorem failureExit_explains {loop : LoopState} (explained : loop.Explained state) :
    Program.Follows answering (fun reached result => reached.Explains req result)
      (failureExit ctx loop.lastError) state :=
  ⟨trivial, fun _ => ⟨trivial, fun _ => ⟨trivial, fun _ => explained⟩⟩⟩

/-- An outcome is reported as a failure of the attempt or answers the request. -/
theorem settle_explains (loop : LoopState) (upstream : String) (attemptsMade : Nat) {outcome : UpstreamOutcome}
    (called : state.outcome = some outcome) (latest : state.latest = some outcome)
    (unserved : state.served = outcome.serves) :
    Program.Follows answering (loop.TurnExplained req) (settle ctx upstream attemptsMade outcome.result) state := by
  have noted : ∀ errorType error, state.Fails error → Program.Follows answering (loop.TurnExplained req)
      (noteFailure ctx upstream errorType >>= fun _ => pure (.again ⟨attemptsMade, some error⟩)) state :=
    fun _ _ fails => ⟨trivial, fun _ => ⟨trivial, fun _ => fails⟩⟩
  cases outcome with
  | failed => exact noted "connection" _ ⟨unserved, by simp [latest]⟩
  | elapsed => exact noted "timeout" _ ⟨unserved, by simp [latest]⟩
  | response answer =>
      simp only [UpstreamOutcome.result, settle, Program.follows_ite]
      split
      · next erroneous =>
          have failed : answer.status.isServerError = true := erroneous
          exact noted "5xx" _ ⟨by simp [unserved, UpstreamOutcome.serves, failed], by simp [latest]⟩
      · next succeeded =>
          refine ⟨trivial, fun _ => ⟨trivial, fun _ => ⟨trivial, fun _ => ⟨trivial, fun _ => ?_⟩⟩⟩⟩
          exact .inr ⟨answer, called, eq_false_of_ne_true succeeded, rfl⟩

theorem visit_explains (req : Request) (healthyExists : Bool) (offset : Nat) {loop : LoopState}
    (explained : loop.Explained state) :
    Program.Follows answering (loop.TurnExplained req) (visit ctx healthyExists offset loop) state := by
  apply follows_visit (answering_overlooks_prepares state) (fun _ => trivial) explained explained
  intro upstream _
  apply follows_attempt
  · exact trivial
  · -- the URI was refused: the attempt made no call
    exact ⟨trivial, trivial, fun _ => ⟨trivial, fun _ => ⟨explained.unserved, rfl⟩⟩⟩
  · intro headers _
    refine ⟨trivial, fun outcome => ⟨trivial, settle_explains loop upstream _ rfl rfl ?_⟩⟩
    simp [answering, explained.unserved]

theorem tryUpstreams_explains (req : Request) (ctx : RequestContext) (fresh : state.Fails .upstreamFailure) :
    Program.Follows answering (fun reached result => reached.Explains req result) (tryUpstreams ctx) state := by
  refine follows_tryUpstreams (fun reached loop => loop.Explained reached) (answering_overlooks_prepares state)
    trivial fresh ?_ ?_
  · intro healthyExists offset reached loop explained
    apply Program.Follows.mono _ (visit_explains req healthyExists offset explained)
    intro later step turn
    cases step with
    | again next => exact turn
    | leave => exact turn
    | answer result => exact turn
  · intro reached loop explained
    exact failureExit_explains explained

end

theorem proxyRequest_explains (parses : UriParser) (req : Request) :
    Program.Follows answering (fun reached result => reached.Explains req result) (proxyRequest parses req) .none := by
  refine ⟨trivial, fun start => ⟨trivial, fun requestId => ⟨trivial, fun config =>
    ⟨trivial, fun router => ?_⟩⟩⟩⟩
  refine follows_routeRequest parses req start requestId config.value router.value ?_ trivial ?_ ?_ ?_
  · intro unmatched
    exact ⟨trivial, fun _ => .inl ⟨rfl, rfl, router, rfl, unmatched⟩⟩
  · exact ⟨rfl, rfl⟩
  · intro wholeBody effect selects
    cases effect <;> first
      | exact selects.elim
      | exact ⟨trivial, fun _ => rfl⟩
  · intro route wholeBody startIndex _
    exact tryUpstreams_explains req _ ⟨rfl, rfl⟩

/-- The observed state is that of the two observers of the router and of the calls. -/
theorem foldl_answering (req : Request) (history : List ProxyEvent) (state : Answering) (routing : Routing)
    (carried : Carried) (routers : state.router = routing.router) (outcomes : state.outcome = carried.outcome) :
    (history.foldl answering.next state).router = (history.foldl (routeKeeper req).next routing).router ∧
      (history.foldl answering.next state).outcome = (history.foldl (carriesRequest req).next carried).outcome := by
  induction history generalizing state routing carried with
  | nil => exact ⟨routers, outcomes⟩
  | cons event history ih =>
      obtain ⟨effect, answer⟩ := event
      rw [List.foldl_cons, List.foldl_cons, List.foldl_cons]
      cases effect with
      | loadRouter => exact ih _ _ _ rfl outcomes
      | clientRequest sent timeout => exact ih _ _ _ routers rfl
      | _ => exact ih _ _ _ routers outcomes

/-- The latest attempt called its upstream, and the call timed out. -/
def LastTimedOut (history : List ProxyEvent) : Prop :=
  ∃ before sent timeout after, history = before ++ ⟨.clientRequest sent timeout, .elapsed⟩ :: after ∧
    ∀ event ∈ after, ¬ IsCall event ∧ event.effect.startsAttempt = false

theorem lastTimedOut_snoc {history : List ProxyEvent} {event : ProxyEvent} :
    LastTimedOut (history ++ [event]) ↔
      (∃ sent timeout, event = ⟨.clientRequest sent timeout, .elapsed⟩) ∨
        LastTimedOut history ∧ ¬ IsCall event ∧ event.effect.startsAttempt = false := by
  constructor
  · intro timedOut
    obtain ⟨before, sent, timeout, after, split, quiet⟩ := timedOut
    rcases List.eq_nil_or_concat after with rfl | ⟨earlier, last, rfl⟩
    · obtain ⟨_, same⟩ := List.append_inj' split rfl
      exact .inl ⟨sent, timeout, List.singleton_injective same⟩
    · rw [List.concat_eq_append] at quiet split
      have regrouped : history ++ [event] =
          (before ++ ⟨.clientRequest sent timeout, .elapsed⟩ :: earlier) ++ [last] := by
        rw [split]
        simp
      obtain ⟨rfl, same⟩ := List.append_inj' regrouped rfl
      cases List.singleton_injective same
      refine .inr ⟨⟨before, sent, timeout, earlier, rfl, fun other stored => quiet other ?_⟩, quiet event ?_⟩
      · exact List.mem_append_left _ stored
      · exact List.mem_append_right _ (List.mem_singleton_self _)
  · intro ends
    rcases ends with ⟨sent, timeout, rfl⟩ | ⟨⟨before, sent, timeout, after, rfl, quiet⟩, last⟩
    · exact ⟨history, sent, timeout, [], rfl, fun _ absent => absurd absent List.not_mem_nil⟩
    · refine ⟨before, sent, timeout, after ++ [event], by simp, fun other stored => ?_⟩
      rcases List.mem_append.mp stored with earlier | here
      · exact quiet other earlier
      · cases List.mem_singleton.mp here
        exact last

/-- The observed state says whether a call succeeded and how the latest attempt ended. -/
structure Answering.Observes (history : List ProxyEvent) (state : Answering) : Prop where
  unserved : state.served = false → ∀ sent timeout answer,
    ⟨.clientRequest sent timeout, .response answer⟩ ∈ history → answer.status.isServerError = true
  latest : state.latest = some .elapsed ↔ LastTimedOut history

theorem Answering.Observes.none : Answering.none.Observes [] where
  unserved _ _ _ _ absent := absurd absent List.not_mem_nil
  latest := by
    refine iff_of_false (fun known => by cases known) fun timedOut => ?_
    obtain ⟨before, _, _, _, split, _⟩ := timedOut
    cases before <;> cases split

theorem Answering.Observes.event {history : List ProxyEvent} {state : Answering} (observes : state.Observes history)
    (event : ProxyEvent) : (answering.next state event).Observes (history ++ [event]) := by
  obtain ⟨effect, answer⟩ := event
  have other : (∀ sent timeout, effect ≠ .clientRequest sent timeout) → effect.startsAttempt = false →
      ∀ reached : Answering, reached.served = state.served → reached.latest = state.latest →
        reached.Observes (history ++ [⟨effect, answer⟩]) := by
    intro noCall noStart reached served latest
    refine ⟨fun unserved sent timeout response member => ?_, ?_⟩
    · rcases List.mem_append.mp member with earlier | here
      · exact observes.unserved (served ▸ unserved) sent timeout response earlier
      · cases List.mem_singleton.mp here
        exact absurd rfl (noCall sent timeout)
    · rw [latest, observes.latest, lastTimedOut_snoc]
      constructor
      · exact fun timedOut => .inr ⟨timedOut, not_isCall noCall, noStart⟩
      · intro ends
        rcases ends with ⟨sent, timeout, same⟩ | ⟨timedOut, _⟩
        · cases same
          exact absurd rfl (noCall sent timeout)
        · exact timedOut
  cases effect with
  | recordStart ref index =>
      refine ⟨fun unserved sent timeout response member => ?_, ?_⟩
      · rcases List.mem_append.mp member with earlier | here
        · exact observes.unserved unserved sent timeout response earlier
        · cases List.mem_singleton.mp here
      · rw [lastTimedOut_snoc]
        refine iff_of_false (fun known => by cases known) fun ends => ?_
        rcases ends with ⟨_, _, same⟩ | ⟨_, _, noStart⟩
        · cases same
        · cases noStart
  | clientRequest called limit =>
      refine ⟨fun unserved sent timeout response member => ?_, ?_⟩
      · obtain ⟨before, here⟩ := Bool.or_eq_false_iff.mp unserved
        rcases List.mem_append.mp member with earlier | last
        · exact observes.unserved before sent timeout response earlier
        · cases List.mem_singleton.mp last
          exact (Bool.not_eq_false' response.status.isServerError).mp here
      · rw [lastTimedOut_snoc]
        constructor
        · intro latest
          cases Option.some.inj latest
          exact .inl ⟨called, limit, rfl⟩
        · intro ends
          rcases ends with ⟨_, _, same⟩ | ⟨_, noCall, _⟩
          · cases same
            rfl
          · exact absurd ⟨called, limit, rfl⟩ noCall
  | _ => exact other (fun _ _ same => by cases same) rfl _ rfl rfl

/-- What the result of a request says of its history. An error says that the body could not
be read, or that no call was answered with anything but a server error and the loop over
the upstreams was left for a reason; it is a timeout when the latest attempt timed out. -/
def Explained (req : Request) (history : List ProxyEvent) : ProxyResult → Prop
  | .ok resp =>
      ((∀ event ∈ history, ¬ IsCall event) ∧ resp = .text .notFound "No matching route" ∧
        ∃ router, ⟨.loadRouter, router⟩ ∈ history ∧ router.value.matchRoute req.uri.path = none) ∨
      ∃ before sent timeout answer after, history = before ++ ⟨.clientRequest sent timeout, .response answer⟩ :: after ∧
        (∀ event ∈ after, ¬ IsCall event) ∧ answer.status.isServerError = false ∧
        resp = { answer with headers := stripHopByHopHeaders answer.headers }
  | .error error =>
      (∃ config router route, ⟨.loadConfig, config⟩ ∈ history ∧ ⟨.loadRouter, router⟩ ∈ history ∧
        router.value.matchRoute req.uri.path = some route ∧
        (⟨.toBytes, none⟩ ∈ history ∨ GaveUp config.value.server route history)) ∧
      (∀ sent timeout answer, ⟨.clientRequest sent timeout, .response answer⟩ ∈ history →
        answer.status.isServerError = true) ∧
      (error = .upstreamTimeout ∧ LastTimedOut history ∨ error = .upstreamFailure ∧ ¬ LastTimedOut history)

theorem runs_explained {parses : UriParser} {req : Request} {history : List ProxyEvent} {result : ProxyResult}
    (run : Program.Runs (proxyRequest parses req) history result) : Explained req history result := by
  have explains := (proxyRequest_explains parses req).runs run
  cases result with
  | ok resp =>
      have routed := steps_routed run
      have accounts := steps_accounts run
      obtain ⟨routers, outcomes⟩ := foldl_answering req history .none .none ⟨none, none, none⟩ rfl rfl
      rcases explains with ⟨uncalled, notFound, router, loaded, unmatched⟩ | ⟨answer, latest, succeeded, stripped⟩
      · exact .inl ⟨accounts.unanswered (outcomes.symm.trans uncalled), notFound, router,
          routed.loaded router (routers.symm.trans loaded), unmatched⟩
      · obtain ⟨before, sent, timeout, after, split, last⟩ := accounts.answered _ (outcomes.symm.trans latest)
        exact .inr ⟨before, sent, timeout, answer, after, split, last, succeeded, stripped⟩
  | error error =>
      have observes : (history.foldl answering.next .none).Observes history :=
        (proxyRequest_explains parses req).recorded (fun history state => state.Observes history)
          (fun _ _ event _ observes => observes.event event) run .none
      refine ⟨runs_gaveUp run, observes.unserved explains.unserved, ?_⟩
      by_cases timedOut : (history.foldl answering.next .none).latest = some .elapsed
      · exact .inl ⟨explains.reason.trans (if_pos timedOut), observes.latest.mp timedOut⟩
      · exact .inr ⟨explains.reason.trans (if_neg timedOut), mt observes.latest.mpr timedOut⟩

end L7Proxy
