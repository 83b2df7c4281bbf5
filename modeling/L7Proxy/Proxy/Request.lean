import L7Proxy.Proxy.Forward

/-!
# Proxying a request

The path of a request from its arrival to its response: the snapshots of the
configuration and the router, the rewritten path, and the retry loop over the
upstreams of the matched route. Log lines are left out.
-/

set_option autoImplicit false

namespace L7Proxy

open Interaction
open Proxy (perform)

def saturatingMul (left right : Nat) : Nat := min (left * right) wordMax

/-- Exponential backoff before the retry that follows the given number of attempts:
`base * 2^(attempts-1)`. A release build shifts by the low six bits of the amount. -/
def backoffDelay (backoffBaseMs attemptsMade : Nat) : Nat :=
  saturatingMul backoffBaseMs (2 ^ ((attemptsMade - 1) % 64))

/-- The path sent upstream: the route's prefix is stripped, and an empty rest
becomes `/`. -/
def finalPath (originalPath routePrefix : String) : String :=
  let strippedPath := (stripPrefix originalPath routePrefix).getD originalPath
  if strippedPath.isEmpty then "/" else strippedPath

/-- What stays fixed while one request is proxied to its matched route. -/
structure RequestContext where
  parses : UriParser
  start : Instant
  methodStr : String
  requestId : Uuid
  clientIp : Option IpAddr
  headers : HeaderMap
  wholeBody : Bytes
  route : Route
  finalPath : String
  server : ServerConfig
  startIndex : Nat

namespace RequestContext

def upstreamCount (ctx : RequestContext) : Nat := ctx.route.upstreams.length

def requestTimeout (ctx : RequestContext) : Duration := ctx.server.requestTimeoutSecs

def maxAttempts (ctx : RequestContext) : Nat := wrappingAdd ctx.server.maxRetries 1

/-- The upstream index tried at an offset from the start. No list of upstreams or
weights is so long that the sum of two of its positions overflows. -/
def index (ctx : RequestContext) (offset : Nat) : Nat := (ctx.startIndex + offset) % ctx.upstreamCount

end RequestContext

def countRequest (ctx : RequestContext) (status : String) (elapsed : Duration) : Proxy Unit := do
  perform (.incRequestsTotal ctx.methodStr ctx.route.routePrefix status)
  perform (.observeRequestDuration ctx.methodStr ctx.route.routePrefix elapsed)

def failureExit (ctx : RequestContext) (lastError : Option ProxyError) : Proxy ProxyResult := do
  let now : Instant ← perform .instantNow
  let error := lastError.getD .upstreamFailure
  countRequest ctx error.statusLabel (durationSince now ctx.start)
  return .error error

/-- The scan `route.upstreams.iter().any(is_healthy)`, which stops at the first
healthy upstream. -/
def anyHealthy : List String → Proxy Bool
  | [] => return false
  | upstream :: rest => do
      let healthy : Bool ← perform (.isHealthy upstream)
      if healthy then return true else anyHealthy rest

/-- Whether an upstream is passed over: it is unhealthy, unless all are. -/
def skips (healthyExists : Bool) (upstream : String) : Proxy Bool :=
  if healthyExists then do
    let healthy : Bool ← perform (.isHealthy upstream)
    return !healthy
  else return false

/-- For retries, check the budget and apply backoff; `false` when the budget is
exhausted. The first attempt needs neither. -/
def admitAttempt (ctx : RequestContext) (attemptsMade : Nat) : Proxy Bool :=
  if 0 < attemptsMade then do
    let allowed : Bool ← perform .allowRetry
    if allowed then
      perform (.incRetriesTotal ctx.route.routePrefix)
      let expDelay := backoffDelay ctx.server.retryBackoffMs attemptsMade
      let jitter : Fin (expDelay / 2 + 1) ← perform (.randomRange (expDelay / 2))
      perform (.sleep (wrappingAdd expDelay jitter))
      return true
    else return false
  else return true

/-- One forwarded attempt between the balancer's `record_start` and `record_done`. -/
def attempt (ctx : RequestContext) (index : Nat) (upstream : String) : Proxy ProxyResult := do
  perform (.recordStart ctx.route.balancer index)
  let newReq : AttemptRequest := ⟨ctx.methodStr, ctx.headers, ctx.wholeBody⟩
  let result ← forwardOnce ctx.parses newReq upstream ctx.finalPath ctx.requestId.text ctx.clientIp
    ctx.requestTimeout
  perform (.recordDone ctx.route.balancer index)
  return result

def noteFailure (ctx : RequestContext) (upstream errorType : String) : Proxy Unit := do
  perform (.recordFailure upstream)
  perform (.incErrorsTotal ctx.route.routePrefix errorType)

def finish (ctx : RequestContext) (upstream : String) (resp : Response) : Proxy ProxyResult := do
  perform (.recordSuccess upstream)
  let now : Instant ← perform .instantNow
  countRequest ctx resp.status.asString (durationSince now ctx.start)
  return .ok resp

structure LoopState where
  attemptsMade : Nat
  lastError : Option ProxyError
  deriving DecidableEq

/-- How one turn of the loop ends: with `continue`, `break` or `return`. -/
inductive LoopStep where
  | again (loop : LoopState)
  | leave
  | answer (result : ProxyResult)
  deriving DecidableEq

def settle (ctx : RequestContext) (upstream : String) (attemptsMade : Nat) : ProxyResult → Proxy LoopStep
  | .ok resp =>
      if resp.status.isServerError then do
        noteFailure ctx upstream "5xx"
        return .again ⟨attemptsMade, some .upstreamFailure⟩
      else do
        let result ← finish ctx upstream resp
        return .answer result
  | .error .upstreamFailure => do
      noteFailure ctx upstream "connection"
      return .again ⟨attemptsMade, some .upstreamFailure⟩
  | .error .upstreamTimeout => do
      noteFailure ctx upstream "timeout"
      return .again ⟨attemptsMade, some .upstreamTimeout⟩
  | .error e => return .answer (.error e)

def visit (ctx : RequestContext) (healthyExists : Bool) (offset : Nat) (loop : LoopState) :
    Proxy LoopStep :=
  if ctx.maxAttempts ≤ loop.attemptsMade then return .leave
  else do
    let index := ctx.index offset
    let selectedUpstream ← Proxy.unwrap ctx.route.upstreams[index]?
    let skip ← skips healthyExists selectedUpstream
    if skip then return .again loop
    else
      let admitted ← admitAttempt ctx loop.attemptsMade
      if admitted then
        let result ← attempt ctx index selectedUpstream
        settle ctx selectedUpstream (loop.attemptsMade + 1) result
      else return .leave

def retryLoop (ctx : RequestContext) (healthyExists : Bool) : List Nat → LoopState → Proxy ProxyResult
  | [], loop => failureExit ctx loop.lastError
  | offset :: offsets, loop => do
      let step ← visit ctx healthyExists offset loop
      match step with
      | .again loop => retryLoop ctx healthyExists offsets loop
      | .leave => failureExit ctx loop.lastError
      | .answer result => return result

/-- The rest of a request once its starting index is chosen. -/
def tryUpstreams (ctx : RequestContext) : Proxy ProxyResult := do
  let healthyExists ← anyHealthy ctx.route.upstreams
  perform .recordRequest
  retryLoop ctx healthyExists (List.range ctx.upstreamCount) ⟨0, none⟩

def matchedContext (parses : UriParser) (req : Request) (start : Instant) (requestId : Uuid)
    (config : Config) (route : Route) (wholeBody : Bytes) (startIndex : Nat) : RequestContext where
  parses := parses
  start := start
  methodStr := req.method
  requestId := requestId
  clientIp := req.remoteAddr
  headers := req.headers
  wholeBody := wholeBody
  route := route
  finalPath := finalPath (req.uri.pathAndQuery.getD "/") route.routePrefix
  server := config.server
  startIndex := startIndex

def proxyMatched (parses : UriParser) (req : Request) (start : Instant) (requestId : Uuid)
    (config : Config) (route : Route) : Proxy ProxyResult := do
  let body : Option Bytes ← perform .toBytes
  match body with
  | none => return .error .upstreamFailure
  | some wholeBody =>
      let index : Option Nat ←
        perform (.nextIndexForKey route.balancer route.upstreams.length req.uri.path)
      let startIndex ← Proxy.unwrap index
      tryUpstreams (matchedContext parses req start requestId config route wholeBody startIndex)

def routeRequest (parses : UriParser) (req : Request) (start : Instant) (requestId : Uuid)
    (config : Config) (router : Router) : Proxy ProxyResult :=
  match router.matchRoute req.uri.path with
  | none => do
      perform (.incRequestsTotal req.method "unmatched" "404")
      return .ok (.text .notFound "No matching route")
  | some route => proxyMatched parses req start requestId config route

def proxyRequest (parses : UriParser) (req : Request) : Proxy ProxyResult := do
  let start : Instant ← perform .instantNow
  let requestId : Uuid ← perform .newV4
  let config : Arc Config ← perform .loadConfig
  let router : Arc Router ← perform .loadRouter
  routeRequest parses req start requestId config.value router.value

/-!
## The effects of the parts
-/

/-- The effects by which a turn of the loop prepares its attempt. -/
def Effect.PreparesAttempt : Effect → Prop
  | .isHealthy _ | .allowRetry | .incRetriesTotal _ | .randomRange _ | .sleep _ => True
  | _ => False

/-- The effect by which the health of an upstream is asked. -/
def Effect.AsksHealth : Effect → Prop
  | .isHealthy _ => True
  | _ => False

theorem Effect.AsksHealth.preparesAttempt {effect : Effect} (asks : effect.AsksHealth) :
    effect.PreparesAttempt := by
  cases effect <;> first
    | exact asks.elim
    | exact trivial

theorem skips_asksHealth (healthyExists : Bool) (upstream : String) :
    (skips healthyExists upstream).Confined Effect.AsksHealth fun _ => True := by
  cases healthyExists with
  | false => exact trivial
  | true => exact ⟨trivial, fun _ => trivial⟩

theorem skips_confined (healthyExists : Bool) (upstream : String) :
    (skips healthyExists upstream).Confined Effect.PreparesAttempt fun _ => True :=
  (skips_asksHealth healthyExists upstream).mono (fun _ => Effect.AsksHealth.preparesAttempt) fun _ => id

theorem admitAttempt_confined (ctx : RequestContext) (attemptsMade : Nat) :
    (admitAttempt ctx attemptsMade).Confined Effect.PreparesAttempt fun _ => True := by
  unfold admitAttempt
  split
  · refine ⟨trivial, fun allowed => ?_⟩
    cases allowed with
    | false => exact trivial
    | true => exact ⟨trivial, fun _ => ⟨trivial, fun _ => ⟨trivial, fun _ => trivial⟩⟩⟩
  · exact trivial

theorem anyHealthy_asksHealth (upstreams : List String) :
    (anyHealthy upstreams).Confined Effect.AsksHealth fun _ => True := by
  induction upstreams with
  | nil => exact trivial
  | cons upstream upstreams ih =>
      refine ⟨trivial, fun healthy => ?_⟩
      cases healthy with
      | true => exact trivial
      | false => exact ih

theorem anyHealthy_confined (upstreams : List String) :
    (anyHealthy upstreams).Confined Effect.PreparesAttempt fun _ => True :=
  (anyHealthy_asksHealth upstreams).mono (fun _ => Effect.AsksHealth.preparesAttempt) fun _ => id

def Effect.Selects : Effect → Prop
  | .nextIndexForKey _ _ _ | .panicked => True
  | _ => False

def Effect.Reports : Effect → Prop
  | .recordFailure _ | .incErrorsTotal _ _ | .recordSuccess _ | .instantNow
  | .incRequestsTotal _ _ _ | .observeRequestDuration _ _ _ => True
  | _ => False

theorem failureExit_confined (ctx : RequestContext) (lastError : Option ProxyError) :
    (failureExit ctx lastError).Confined Effect.Reports fun _ => True :=
  ⟨trivial, fun _ => ⟨trivial, fun _ => ⟨trivial, fun _ => trivial⟩⟩⟩

/-- How a settled attempt leaves the loop's variables or its result. -/
def LoopStep.Settles (attemptsMade : Nat) (result : ProxyResult) : LoopStep → Prop
  | .again loop => loop.attemptsMade = attemptsMade
  | .leave => False
  | .answer answered => answered = result

theorem settle_confined (ctx : RequestContext) (upstream : String) (attemptsMade : Nat)
    (result : ProxyResult) :
    (settle ctx upstream attemptsMade result).Confined Effect.Reports
      (LoopStep.Settles attemptsMade result) := by
  have noted : ∀ errorType lastError,
      ((noteFailure ctx upstream errorType >>= fun _ => pure (.again ⟨attemptsMade, lastError⟩) :
        Proxy LoopStep)).Confined Effect.Reports (LoopStep.Settles attemptsMade result) :=
    fun _ _ => ⟨trivial, fun _ => ⟨trivial, fun _ => rfl⟩⟩
  cases result with
  | ok resp =>
      by_cases failed : resp.status.isServerError = true
      · simp only [settle, failed, if_true]
        exact noted _ _
      · simp only [settle, failed]
        exact ⟨trivial, fun _ => ⟨trivial, fun _ => ⟨trivial, fun _ => ⟨trivial, fun _ => rfl⟩⟩⟩⟩
  | error error =>
      cases error with
      | upstreamFailure => exact noted _ _
      | upstreamTimeout => exact noted _ _
      | noRoute | upstreamFailed | invalidUri | noUpstream => exact rfl

/-!
## Following a monitor
-/

section

variable {State : Type} {monitor : Monitor Effect Answer State} {ctx : RequestContext}

theorem follows_visit {post : State → LoopStep → Prop} {healthyExists : Bool} {offset : Nat}
    {loop : LoopState} {state : State}
    (overlooked : ∀ effect, effect.PreparesAttempt → monitor.Overlooks state effect)
    (panics : ctx.route.upstreams[ctx.index offset]? = none → monitor.allowed state .panicked)
    (leaves : post state .leave) (skipped : post state (.again loop))
    (attempted : ∀ upstream, ctx.route.upstreams[ctx.index offset]? = some upstream →
      Program.Follows monitor
        (fun reached result => Program.Follows monitor post
          (settle ctx upstream (loop.attemptsMade + 1) result) reached)
        (attempt ctx (ctx.index offset) upstream) state) :
    Program.Follows monitor post (visit ctx healthyExists offset loop) state := by
  unfold visit
  rw [Program.follows_ite]
  split
  · exact leaves
  · dsimp only
    cases selected : ctx.route.upstreams[ctx.index offset]? with
    | none =>
        rw [Proxy.unwrap, Proxy.panic_bind]
        exact ⟨panics selected, nofun⟩
    | some upstream =>
        simp only [Proxy.unwrap_some, Program.pure_eq_done, Program.bind_done, Program.follows_bind]
        apply Program.Follows.of_confined (skips_confined healthyExists upstream) overlooked
        intro skip _
        rw [Program.follows_ite]
        split
        · exact skipped
        · rw [Program.follows_bind]
          apply Program.Follows.of_confined (admitAttempt_confined ctx loop.attemptsMade) overlooked
          intro admitted _
          rw [Program.follows_ite]
          split
          · rw [Program.follows_bind]
            exact attempted upstream selected
          · exact leaves

theorem follows_attempt {post : State → ProxyResult → Prop} {index : Nat} {upstream : String}
    {state : State} (starts : monitor.allowed state (.recordStart ctx.route.balancer index))
    (unsent :
      let started := monitor.next state ⟨.recordStart ctx.route.balancer index, ()⟩
      monitor.allowed started (.recordDone ctx.route.balancer index) ∧
        post (monitor.next started ⟨.recordDone ctx.route.balancer index, ()⟩)
          (.error .upstreamFailure))
    (sent : ∀ headers, normalizeHeaders ctx.headers ctx.requestId.text ctx.clientIp = some headers →
      let started := monitor.next state ⟨.recordStart ctx.route.balancer index, ()⟩
      let call := Effect.clientRequest
        ⟨ctx.methodStr, upstream ++ ctx.finalPath, headers, ctx.wholeBody⟩ ctx.requestTimeout
      monitor.allowed started call ∧ ∀ outcome,
        let answered := monitor.next started ⟨call, outcome⟩
        monitor.allowed answered (.recordDone ctx.route.balancer index) ∧
          post (monitor.next answered ⟨.recordDone ctx.route.balancer index, ()⟩) outcome.result) :
    Program.Follows monitor post (attempt ctx index upstream) state := by
  unfold attempt
  rw [Program.perform_bind]
  refine ⟨starts, fun _ => ?_⟩
  rw [Program.follows_bind]
  apply follows_forwardOnce
  · exact ⟨unsent.1, fun _ => unsent.2⟩
  · intro headers normalized
    obtain ⟨allowed, answered⟩ := sent headers normalized
    exact ⟨allowed, fun outcome => ⟨(answered outcome).1, fun _ => (answered outcome).2⟩⟩

/-- The retry loop follows a monitor when an invariant of the offsets left, the ghost
state and the loop's variables is kept by every turn and suffices for the failure exit. -/
theorem follows_retryLoop_counted {post : State → ProxyResult → Prop} {healthyExists : Bool}
    (invariant : Nat → State → LoopState → Prop)
    (turns : ∀ left offset state loop, invariant (left + 1) state loop →
      Program.Follows monitor (fun state step => match step with
        | .again loop => invariant left state loop
        | .leave => Program.Follows monitor post (failureExit ctx loop.lastError) state
        | .answer result => post state result) (visit ctx healthyExists offset loop) state)
    (exits : ∀ state loop, invariant 0 state loop →
      Program.Follows monitor post (failureExit ctx loop.lastError) state)
    (offsets : List Nat) {state : State} {loop : LoopState} (holds : invariant offsets.length state loop) :
    Program.Follows monitor post (retryLoop ctx healthyExists offsets loop) state := by
  induction offsets generalizing state loop with
  | nil => exact exits state loop holds
  | cons offset offsets ih =>
      unfold retryLoop
      rw [Program.follows_bind]
      apply Program.Follows.mono _ (turns offsets.length offset state loop holds)
      intro reached step related
      cases step with
      | again next => exact ih related
      | leave => exact related
      | answer result => exact related

theorem follows_retryLoop {post : State → ProxyResult → Prop} {healthyExists : Bool}
    (invariant : State → LoopState → Prop)
    (turns : ∀ offset state loop, invariant state loop →
      Program.Follows monitor (fun state step => match step with
        | .again loop => invariant state loop
        | .leave => invariant state loop
        | .answer result => post state result) (visit ctx healthyExists offset loop) state)
    (exits : ∀ state loop, invariant state loop →
      Program.Follows monitor post (failureExit ctx loop.lastError) state)
    (offsets : List Nat) {state : State} {loop : LoopState} (holds : invariant state loop) :
    Program.Follows monitor post (retryLoop ctx healthyExists offsets loop) state := by
  refine follows_retryLoop_counted (fun _ => invariant) ?_ exits offsets holds
  intro _ offset state loop kept
  apply Program.Follows.mono _ (turns offset state loop kept)
  intro reached step related
  cases step with
  | again next => exact related
  | leave => exact exits reached loop related
  | answer result => exact related

theorem follows_tryUpstreams {post : State → ProxyResult → Prop} {state : State}
    (invariant : State → LoopState → Prop)
    (overlooked : ∀ effect, effect.PreparesAttempt → monitor.Overlooks state effect)
    (recorded : monitor.allowed state .recordRequest)
    (starts : invariant (monitor.next state ⟨.recordRequest, ()⟩) ⟨0, none⟩)
    (turns : ∀ healthyExists offset state loop, invariant state loop →
      Program.Follows monitor (fun state step => match step with
        | .again loop => invariant state loop
        | .leave => invariant state loop
        | .answer result => post state result) (visit ctx healthyExists offset loop) state)
    (exits : ∀ state loop, invariant state loop →
      Program.Follows monitor post (failureExit ctx loop.lastError) state) :
    Program.Follows monitor post (tryUpstreams ctx) state := by
  unfold tryUpstreams
  rw [Program.follows_bind]
  apply Program.Follows.of_confined (anyHealthy_confined ctx.route.upstreams) overlooked
  intro healthyExists _
  rw [Program.perform_bind]
  exact ⟨recorded, fun _ => follows_retryLoop invariant (turns healthyExists) exits _ starts⟩

theorem follows_routeRequest {post : State → ProxyResult → Prop} {state : State} (parses : UriParser)
    (req : Request) (start : Instant) (requestId : Uuid) (config : Config) (router : Router)
    (unmatched : router.matchRoute req.uri.path = none →
      Program.Follows monitor post (do
        perform (.incRequestsTotal req.method "unmatched" "404")
        return .ok (.text .notFound "No matching route")) state)
    (reads : monitor.allowed state .toBytes)
    (unread : post (monitor.next state ⟨.toBytes, none⟩) (.error .upstreamFailure))
    (overlooked : ∀ wholeBody, ∀ effect, effect.Selects →
      monitor.Overlooks (monitor.next state ⟨.toBytes, some wholeBody⟩) effect)
    (tries : ∀ route wholeBody startIndex, router.matchRoute req.uri.path = some route →
      Program.Follows monitor post
        (tryUpstreams (matchedContext parses req start requestId config route wholeBody startIndex))
        (monitor.next state ⟨.toBytes, some wholeBody⟩)) :
    Program.Follows monitor post (routeRequest parses req start requestId config router) state := by
  unfold routeRequest
  cases matched : router.matchRoute req.uri.path with
  | none => exact unmatched matched
  | some route =>
      refine ⟨reads, fun body => ?_⟩
      cases body with
      | none => exact unread
      | some wholeBody =>
          have select := overlooked wholeBody
            (.nextIndexForKey route.balancer route.upstreams.length req.uri.path) trivial
          refine ⟨select.1, fun index => ?_⟩
          rw [select.2 index]
          cases index with
          | none => exact ⟨(overlooked wholeBody .panicked trivial).1, nofun⟩
          | some startIndex => exact tries route wholeBody startIndex matched

end

end L7Proxy
