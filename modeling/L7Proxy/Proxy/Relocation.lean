import L7Proxy.Library.Simulation
import L7Proxy.Proxy.Request

/-!
# Requests over relocated balancers

The balancers of a configuration stand further back the more configurations were
built before it. A request performs the same effects wherever they stand, up to the
place it finds them at.
-/

set_option autoImplicit false

namespace L7Proxy

open Interaction

def Route.relocate (places : Nat) (route : Route) : Route :=
  { route with balancer := places + route.balancer }

def Router.relocate (places : Nat) (router : Router) : Router :=
  ⟨router.routes.map (Route.relocate places)⟩

def Effect.relocate (places : Nat) : Effect → Effect
  | .nextIndexForKey balancer poolSize key => .nextIndexForKey (places + balancer) poolSize key
  | .recordStart balancer index => .recordStart (places + balancer) index
  | .recordDone balancer index => .recordDone (places + balancer) index
  | effect => effect

namespace Effect

/-- Neither the effect nor its answer names a balancer or counts the configurations
applied so far. -/
def Fixed : Effect → Prop
  | .loadConfig | .loadRouter | .nextIndexForKey _ _ _ | .recordStart _ _ | .recordDone _ _ => False
  | _ => True

theorem Fixed.relocate_eq {effect : Effect} (fixed : effect.Fixed) (places : Nat) :
    effect.relocate places = effect := by
  cases effect with
  | loadConfig | loadRouter | nextIndexForKey | recordStart | recordDone => exact fixed.elim
  | _ => rfl

@[simp] theorem awaits_relocate (places : Nat) (effect : Effect) :
    Proxy.awaits (effect.relocate places) = Proxy.awaits effect := by
  cases effect with
  | _ => rfl

theorem PreparesAttempt.fixed {effect : Effect} (prepares : effect.PreparesAttempt) : effect.Fixed := by
  cases effect with
  | loadConfig | loadRouter | nextIndexForKey | recordStart | recordDone => exact prepares
  | _ => exact trivial

theorem Reports.fixed {effect : Effect} (reports : effect.Reports) : effect.Fixed := by
  cases effect with
  | loadConfig | loadRouter | nextIndexForKey | recordStart | recordDone => exact reports
  | _ => exact trivial

end Effect

/-- The same event where the balancers stand the given number of places further back.
Generations may differ, as they count every configuration applied. -/
inductive Relocated (places : Nat) : ProxyEvent → ProxyEvent → Prop where
  | loadConfig (generation other : Nat) (config : Config) :
      Relocated places ⟨.loadConfig, ⟨generation, config⟩⟩ ⟨.loadConfig, ⟨other, config⟩⟩
  | loadRouter (generation other : Nat) (router : Router) :
      Relocated places ⟨.loadRouter, ⟨generation, router.relocate places⟩⟩ ⟨.loadRouter, ⟨other, router⟩⟩
  | nextIndexForKey (balancer : BalancerRef) (poolSize : Nat) (key : String) (answer : Option Nat) :
      Relocated places ⟨.nextIndexForKey (places + balancer) poolSize key, answer⟩
        ⟨.nextIndexForKey balancer poolSize key, answer⟩
  | recordStart (balancer : BalancerRef) (index : Nat) :
      Relocated places ⟨.recordStart (places + balancer) index, ()⟩ ⟨.recordStart balancer index, ()⟩
  | recordDone (balancer : BalancerRef) (index : Nat) :
      Relocated places ⟨.recordDone (places + balancer) index, ()⟩ ⟨.recordDone balancer index, ()⟩
  | fixed (event : ProxyEvent) (fixed : event.effect.Fixed) : Relocated places event event

def relocation (places : Nat) : Matching Effect Answer Effect Answer where
  effects effect other := effect = other.relocate places
  events := Relocated places

/-- The request does the same over relocated balancers. -/
abbrev RunsAlike (places : Nat) {Value : Type} (program other : Proxy Value) : Prop :=
  Program.Alike (relocation places) Eq program other

theorem RunsAlike.bind {places : Nat} {Value Result : Type} {program other : Proxy Value}
    {rest otherRest : Value → Proxy Result} (first : RunsAlike places program other)
    (second : ∀ value, RunsAlike places (rest value) (otherRest value)) :
    RunsAlike places (program >>= rest) (other >>= otherRest) := by
  apply Program.Alike.bind first
  intro value otherValue same
  subst same
  exact second value

/-- Only the two pointers are answered differently. -/
theorem Relocated.answer_heq {places : Nat} {event other : ProxyEvent} (relocated : Relocated places event other)
    (noConfig : event.effect ≠ .loadConfig) (noRouter : event.effect ≠ .loadRouter) :
    event.answer ≍ other.answer := by
  cases relocated with
  | loadConfig => exact absurd rfl noConfig
  | loadRouter => exact absurd rfl noRouter
  | nextIndexForKey | recordStart | recordDone | fixed => exact .rfl

theorem runsAlike_of_fixed (places : Nat) {Value : Type} {program : Proxy Value} {kind : Effect → Prop}
    {returns : Value → Prop} (confined : program.Confined kind returns)
    (fixed : ∀ effect, kind effect → effect.Fixed) : RunsAlike places program program := by
  apply Program.Alike.of_confined confined
  intro effect ofKind
  have fixedEffect := fixed effect ofKind
  refine ⟨(fixedEffect.relocate_eq places).symm, fun answer other matched => ?_⟩
  refine eq_of_heq (Relocated.answer_heq matched ?_ ?_)
  · intro config
    cases config
    exact fixedEffect
  · intro router
    cases router
    exact fixedEffect

/-!
## The parts of a request
-/

section

variable (places : Nat) (ctx : RequestContext)

def RequestContext.relocate : RequestContext := { ctx with route := ctx.route.relocate places }

theorem runsAlike_forwardOnce (parses : UriParser) (req : AttemptRequest) (upstream finalPath : String)
    (requestId : Uuid) (clientIp : Option IpAddr) (requestTimeout : Duration) :
    RunsAlike places (forwardOnce parses req upstream finalPath requestId.text clientIp requestTimeout)
      (forwardOnce parses req upstream finalPath requestId.text clientIp requestTimeout) := by
  obtain ⟨headers, _, forwarded⟩ :=
    forwardOnce_eq parses req upstream finalPath requestId clientIp requestTimeout
  rw [forwarded]
  split
  · refine ⟨rfl, fun outcome other matched => ?_⟩
    exact congrArg UpstreamOutcome.result (eq_of_heq (Relocated.answer_heq matched nofun nofun))
  · exact rfl

theorem runsAlike_attempt (index : Nat) (upstream : String) :
    RunsAlike places (attempt (ctx.relocate places) index upstream) (attempt ctx index upstream) := by
  unfold attempt
  simp only [Program.perform_bind]
  refine ⟨rfl, fun _ _ _ => ?_⟩
  apply RunsAlike.bind (runsAlike_forwardOnce places ctx.parses _ upstream ctx.finalPath ctx.requestId
    ctx.clientIp ctx.requestTimeout)
  intro result
  exact ⟨rfl, fun _ _ _ => rfl⟩

theorem runsAlike_visit (healthyExists : Bool) (offset : Nat) (loop : LoopState) :
    RunsAlike places (visit (ctx.relocate places) healthyExists offset loop)
      (visit ctx healthyExists offset loop) := by
  have sameIndex : (ctx.relocate places).index offset = ctx.index offset := rfl
  have sameUpstreams : (ctx.relocate places).route.upstreams = ctx.route.upstreams := rfl
  have sameAttempts : (ctx.relocate places).maxAttempts = ctx.maxAttempts := rfl
  unfold visit
  rw [sameAttempts, sameIndex, sameUpstreams]
  split
  · exact rfl
  · dsimp only
    cases selected : ctx.route.upstreams[ctx.index offset]? with
    | none =>
        rw [Proxy.unwrap, Proxy.panic_bind, Proxy.panic_bind]
        exact ⟨rfl, fun answer => Empty.elim answer⟩
    | some upstream =>
        simp only [Proxy.unwrap_some, Program.pure_eq_done, Program.bind_done]
        apply RunsAlike.bind (runsAlike_of_fixed places (skips_confined healthyExists upstream)
          fun _ => Effect.PreparesAttempt.fixed)
        intro skip
        split
        · exact rfl
        · apply RunsAlike.bind (runsAlike_of_fixed places (admitAttempt_confined ctx loop.attemptsMade)
            fun _ => Effect.PreparesAttempt.fixed)
          intro admitted
          split
          · apply RunsAlike.bind (runsAlike_attempt places ctx (ctx.index offset) upstream)
            intro result
            exact runsAlike_of_fixed places (settle_confined ctx upstream (loop.attemptsMade + 1) result)
              fun _ => Effect.Reports.fixed
          · exact rfl

theorem runsAlike_failureExit (lastError : Option ProxyError) :
    RunsAlike places (failureExit (ctx.relocate places) lastError) (failureExit ctx lastError) :=
  runsAlike_of_fixed places (failureExit_confined ctx lastError) fun _ => Effect.Reports.fixed

theorem runsAlike_retryLoop (healthyExists : Bool) (offsets : List Nat) (loop : LoopState) :
    RunsAlike places (retryLoop (ctx.relocate places) healthyExists offsets loop)
      (retryLoop ctx healthyExists offsets loop) := by
  induction offsets generalizing loop with
  | nil => exact runsAlike_failureExit places ctx loop.lastError
  | cons offset offsets ih =>
      unfold retryLoop
      apply RunsAlike.bind (runsAlike_visit places ctx healthyExists offset loop)
      intro step
      cases step with
      | again next => exact ih next
      | leave => exact runsAlike_failureExit places ctx loop.lastError
      | answer result => exact rfl

theorem runsAlike_tryUpstreams :
    RunsAlike places (tryUpstreams (ctx.relocate places)) (tryUpstreams ctx) := by
  apply RunsAlike.bind (runsAlike_of_fixed places (anyHealthy_confined ctx.route.upstreams)
    fun _ => Effect.PreparesAttempt.fixed)
  intro healthyExists
  exact ⟨rfl, fun _ _ _ => runsAlike_retryLoop places ctx healthyExists _ _⟩

end

section

variable (places : Nat) (parses : UriParser) (req : Request)

theorem matchRoute_relocate (router : Router) (path : String) :
    (router.relocate places).matchRoute path = (router.matchRoute path).map (Route.relocate places) := by
  unfold Router.matchRoute Router.relocate
  rw [List.filter_map, maxByKey_map]
  rfl

theorem runsAlike_proxyMatched (start : Instant) (requestId : Uuid) (config : Config) (route : Route) :
    RunsAlike places (proxyMatched parses req start requestId config (route.relocate places))
      (proxyMatched parses req start requestId config route) := by
  refine ⟨rfl, fun body other matched => ?_⟩
  have sameBody : body = other := eq_of_heq (Relocated.answer_heq matched nofun nofun)
  cases sameBody
  cases body with
  | none => exact rfl
  | some wholeBody =>
      refine ⟨rfl, fun index other matched => ?_⟩
      have sameIndex : index = other := eq_of_heq (Relocated.answer_heq matched nofun nofun)
      cases sameIndex
      cases index with
      | none => exact ⟨rfl, fun answer => Empty.elim answer⟩
      | some startIndex =>
          exact runsAlike_tryUpstreams places
            (matchedContext parses req start requestId config route wholeBody startIndex)

theorem runsAlike_routeRequest (start : Instant) (requestId : Uuid) (config : Config) (router : Router) :
    RunsAlike places (routeRequest parses req start requestId config (router.relocate places))
      (routeRequest parses req start requestId config router) := by
  unfold routeRequest
  rw [matchRoute_relocate]
  cases router.matchRoute req.uri.path with
  | none => exact ⟨rfl, fun _ _ _ => rfl⟩
  | some route => exact runsAlike_proxyMatched places parses req start requestId config route

theorem runsAlike_proxyRequest : RunsAlike places (proxyRequest parses req) (proxyRequest parses req) := by
  refine ⟨rfl, fun start otherStart startMatched => ?_⟩
  refine ⟨rfl, fun requestId otherId idMatched => ?_⟩
  refine ⟨rfl, fun config otherConfig configMatched => ?_⟩
  refine ⟨rfl, fun router otherRouter routerMatched => ?_⟩
  have sameStart : start = otherStart := eq_of_heq (Relocated.answer_heq startMatched nofun nofun)
  have sameId : requestId = otherId := eq_of_heq (Relocated.answer_heq idMatched nofun nofun)
  cases sameStart
  cases sameId
  cases configMatched with
  | fixed _ fixed => exact fixed.elim
  | loadConfig =>
      cases routerMatched with
      | fixed _ fixed => exact fixed.elim
      | loadRouter => exact runsAlike_routeRequest places parses req start requestId _ _

end

end L7Proxy
