import L7Proxy.Proxy.Request

/-!
# The effort of a request

Whatever is answered to it, a request performs no more effects than a multiple of the size
of the pool of its route: it asks every upstream for its health and visits it once.
-/

set_option autoImplicit false

namespace L7Proxy

open Interaction Program

section

variable {ctx : RequestContext} {left : Nat}

theorem anyHealthy_effort (upstreams : List String) :
    Follows meter (fun rest _ => left ≤ rest) (anyHealthy upstreams) (left + upstreams.length) := by
  induction upstreams with
  | nil => exact le_rfl
  | cons upstream upstreams ih =>
      refine ⟨Nat.succ_pos _, fun healthy => ?_⟩
      cases healthy with
      | true => exact Nat.le_add_right _ _
      | false => exact ih

theorem skips_effort (healthyExists : Bool) (upstream : String) :
    Follows meter (fun rest _ => left ≤ rest) (skips healthyExists upstream) (left + 1) := by
  cases healthyExists with
  | false => exact Nat.le_succ left
  | true => exact ⟨Nat.succ_pos _, fun _ => le_rfl⟩

theorem admitAttempt_effort (attemptsMade : Nat) :
    Follows meter (fun rest admitted => left + (if admitted then 0 else 3) ≤ rest)
      (admitAttempt ctx attemptsMade) (left + 4) := by
  unfold admitAttempt
  rw [follows_ite]
  split
  · refine ⟨Nat.succ_pos _, fun allowed => ?_⟩
    cases allowed with
    | false => exact le_rfl
    | true =>
        exact ⟨Nat.succ_pos _, fun _ => ⟨Nat.succ_pos _, fun _ => ⟨Nat.succ_pos _, fun _ => le_rfl⟩⟩⟩
  · exact Nat.le_add_right _ 4

theorem attempt_effort (index : Nat) (upstream : String) :
    Follows meter (fun rest _ => left ≤ rest) (attempt ctx index upstream) (left + 3) := by
  apply follows_attempt
  · exact Nat.succ_pos _
  · exact ⟨Nat.succ_pos _, Nat.le_succ left⟩
  · intro headers _
    exact ⟨Nat.succ_pos _, fun _ => ⟨Nat.succ_pos _, le_rfl⟩⟩

/-- What a turn of the loop has to leave: enough for the exit, unless it answers. -/
def LoopStep.reserve (left : Nat) : LoopStep → Nat
  | .again _ | .leave => left + 3
  | .answer _ => 0

theorem settle_effort (upstream : String) (attemptsMade : Nat) (result : ProxyResult) :
    Follows meter (fun rest step => step.reserve left ≤ rest) (settle ctx upstream attemptsMade result)
      (left + 5) := by
  have noted : ∀ errorType lastError, Follows meter (fun rest step => step.reserve left ≤ rest)
      (noteFailure ctx upstream errorType >>= fun _ => pure (.again ⟨attemptsMade, lastError⟩) : Proxy LoopStep)
      (left + 5) :=
    fun _ _ => ⟨Nat.succ_pos _, fun _ => ⟨Nat.succ_pos _, fun _ => le_rfl⟩⟩
  cases result with
  | ok resp =>
      simp only [settle, follows_ite]
      split
      · exact noted _ _
      · exact ⟨Nat.succ_pos _, fun _ => ⟨Nat.succ_pos _, fun _ => ⟨Nat.succ_pos _, fun _ =>
          ⟨Nat.succ_pos _, fun _ => Nat.zero_le _⟩⟩⟩⟩
  | error error =>
      cases error with
      | upstreamFailure | upstreamTimeout => exact noted _ _
      | noRoute | upstreamFailed | invalidUri | noUpstream => exact Nat.zero_le _

theorem failureExit_effort (lastError : Option ProxyError) :
    Follows meter (fun _ _ => True) (failureExit ctx lastError) 3 :=
  ⟨Nat.succ_pos _, fun _ => ⟨Nat.succ_pos _, fun _ => ⟨Nat.succ_pos _, fun _ => trivial⟩⟩⟩

/-- A turn of the loop that goes on performs at most ten effects. -/
theorem visit_effort (healthyExists : Bool) (offset : Nat) (loop : LoopState) :
    Follows meter (fun rest step => step.reserve left ≤ rest) (visit ctx healthyExists offset loop) (left + 13) := by
  have upward : ∀ less more (step : LoopStep), less ≤ more → step.reserve left ≤ less → step.reserve left ≤ more :=
    fun _ _ _ wider enough => enough.trans wider
  unfold visit
  rw [follows_ite]
  split
  · exact Nat.add_le_add_left (by decide) left
  · dsimp only
    cases selected : ctx.route.upstreams[ctx.index offset]? with
    | none => exact ⟨Nat.succ_pos _, nofun⟩
    | some upstream =>
        rw [Proxy.unwrap_some, pure_eq_done, bind_done]
        refine Follows.bind_within (fun _ => left + 12) upward (skips_effort healthyExists upstream) fun skip => ?_
        rw [follows_ite]
        split
        · exact Nat.add_le_add_left (by decide) left
        · refine Follows.bind_within (fun admitted => left + 8 + if admitted then 0 else 3) upward
            (admitAttempt_effort loop.attemptsMade) fun admitted => ?_
          rw [follows_ite]
          split
          · exact Follows.bind_within (fun _ => left + 5) upward (attempt_effort _ upstream)
              fun result => settle_effort upstream _ result
          · exact Nat.add_le_add_right (Nat.le_add_right _ _) 3

theorem retryLoop_effort (healthyExists : Bool) (offsets : List Nat) (loop : LoopState) :
    Follows meter (fun _ _ => True) (retryLoop ctx healthyExists offsets loop) (10 * offsets.length + 3) := by
  have upward : ∀ (less more : Nat) (result : ProxyResult), less ≤ more → True → True := fun _ _ _ _ => id
  induction offsets generalizing loop with
  | nil => exact failureExit_effort loop.lastError
  | cons offset offsets ih =>
      unfold retryLoop
      refine Follows.bind_within (LoopStep.reserve (10 * offsets.length)) upward (visit_effort _ offset loop)
        fun step => ?_
      cases step with
      | again next => exact ih next
      | leave => exact (failureExit_effort _).of_budget_le upward (Nat.le_add_left _ _)
      | answer result => exact trivial

theorem tryUpstreams_effort (ctx : RequestContext) :
    Follows meter (fun _ _ => True) (tryUpstreams ctx) (11 * ctx.upstreamCount + 4) := by
  have upward : ∀ (less more : Nat) (result : ProxyResult), less ≤ more → True → True := fun _ _ _ _ => id
  have budget : 11 * ctx.upstreamCount + 4 = 10 * ctx.upstreamCount + 4 + ctx.route.upstreams.length := by
    rw [RequestContext.upstreamCount]
    omega
  unfold tryUpstreams
  rw [budget]
  refine Follows.bind_within (fun _ => 10 * ctx.upstreamCount + 4) upward (anyHealthy_effort _)
    fun healthyExists => ⟨Nat.succ_pos _, fun _ => ?_⟩
  have loops := @retryLoop_effort ctx healthyExists (List.range ctx.upstreamCount) ⟨0, none⟩
  rwa [List.length_range] at loops

end

/-!
## A whole request
-/

/-- The most effects a request performs after it has loaded the router. -/
def Router.effort (router : Router) (path : String) : Nat :=
  match router.matchRoute path with
  | some route => 11 * route.upstreams.length + 6
  | none => 1

theorem routeRequest_effort (parses : UriParser) (req : Request) (start : Instant) (requestId : Uuid)
    (config : Config) (router : Router) :
    Follows meter (fun _ _ => True) (routeRequest parses req start requestId config router)
      (router.effort req.uri.path) := by
  unfold routeRequest Router.effort
  cases router.matchRoute req.uri.path with
  | none => exact ⟨Nat.succ_pos _, fun _ => trivial⟩
  | some route =>
      refine ⟨Nat.succ_pos _, fun body => ?_⟩
      cases body with
      | none => exact trivial
      | some wholeBody =>
          refine ⟨Nat.succ_pos _, fun index => ?_⟩
          cases index with
          | none => exact ⟨Nat.succ_pos _, nofun⟩
          | some startIndex =>
              exact tryUpstreams_effort (matchedContext parses req start requestId config route wholeBody startIndex)

/-- Until it has loaded its router a request performs four effects; after that its effort is
bounded by the pool of the route it matches. -/
theorem proxyRequest_effort {parses : UriParser} {req : Request} {history : List ProxyEvent}
    {rest : Proxy ProxyResult} (steps : Program.Steps (proxyRequest parses req) history rest) :
    history.length ≤ 3 ∨ ∃ router, ⟨.loadRouter, router⟩ ∈ history ∧
      history.length ≤ router.value.effort req.uri.path + 4 := by
  unfold proxyRequest at steps
  cases steps with
  | refl => exact .inl (Nat.zero_le _)
  | act steps =>
      cases steps with
      | refl => exact .inl (Nat.le_add_left _ _)
      | act steps =>
          cases steps with
          | refl => exact .inl (Nat.le_add_left _ _)
          | act steps =>
              cases steps with
              | refl => exact .inl le_rfl
              | @act _ _ router _ _ steps =>
                  refine .inr ⟨router, by simp, ?_⟩
                  have effort := (routeRequest_effort parses req _ _ _ router.value).length_le steps
                  exact Nat.add_le_add_right effort 4

end L7Proxy
