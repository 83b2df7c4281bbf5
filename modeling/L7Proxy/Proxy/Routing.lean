import L7Proxy.Proxy.Request

/-!
# One request, one route

After a request has loaded the router it touches only the balancer, the upstreams and
the labels of the route matched there. It panics only where the balancer of the route
gives no starting index.
-/

set_option autoImplicit false

namespace L7Proxy

open Interaction
open Proxy (perform)

/-- The effects before a request is routed. -/
def Effect.Opens : Effect → Prop
  | .instantNow | .newV4 | .loadConfig | .loadRouter => True
  | _ => False

/-- What an effect names belongs to the route. -/
def Effect.Concerns (req : Request) (route : Route) : Effect → Prop
  | .nextIndexForKey ref poolSize key =>
      ref = route.balancer ∧ poolSize = route.upstreams.length ∧ key = req.uri.path
  | .recordStart ref index | .recordDone ref index => ref = route.balancer ∧ index < route.upstreams.length
  | .isHealthy upstream | .recordFailure upstream | .recordSuccess upstream => upstream ∈ route.upstreams
  | .clientRequest sent _ => ∃ upstream ∈ route.upstreams,
      sent.uri = upstream ++ finalPath (req.uri.pathAndQuery.getD "/") route.routePrefix
  | .incRequestsTotal _ label _ | .observeRequestDuration _ label _ | .incRetriesTotal label
  | .incErrorsTotal label _ => label = route.routePrefix
  | .instantNow | .toBytes | .recordRequest | .allowRetry | .randomRange _ | .sleep _ => True
  | .newV4 | .loadConfig | .loadRouter | .panicked => False

/-- The router a request loaded, and whether its balancer gave no index. -/
structure Routing where
  router : Option (Arc Router)
  unselected : Bool

def Routing.none : Routing := ⟨.none, false⟩

/-- Observes the loaded router and the selection; what follows concerns the matched route. -/
def routeKeeper (req : Request) : Monitor Effect Answer Routing where
  next routing event := match event with
    | ⟨.loadRouter, router⟩ => { routing with router := some router }
    | ⟨.nextIndexForKey _ _ _, index⟩ => { routing with unselected := index.isNone }
    | _ => routing
  allowed routing effect := match routing.router with
    | .none => effect.Opens
    | some router => match router.value.matchRoute req.uri.path with
      | .none => effect = .incRequestsTotal req.method "unmatched" "404"
      | some route => effect.Concerns req route ∨ effect = .panicked ∧ routing.unselected = true

/-!
## The parts of a request
-/

section

variable {req : Request} {ctx : RequestContext}

/-- The final path in the context is that of the request. -/
def RequestContext.Of (ctx : RequestContext) (req : Request) : Prop :=
  ctx.finalPath = L7Proxy.finalPath (req.uri.pathAndQuery.getD "/") ctx.route.routePrefix

theorem countRequest_concerns (status : String) (elapsed : Duration) :
    (countRequest ctx status elapsed).Confined (Effect.Concerns req ctx.route) fun _ => True :=
  ⟨rfl, fun _ => ⟨rfl, fun _ => trivial⟩⟩

theorem failureExit_concerns (lastError : Option ProxyError) :
    (failureExit ctx lastError).Confined (Effect.Concerns req ctx.route) fun _ => True :=
  ⟨trivial, fun _ => (countRequest_concerns _ _).bind fun _ _ => trivial⟩

theorem anyHealthy_concerns {route : Route} {upstreams : List String}
    (listed : ∀ upstream ∈ upstreams, upstream ∈ route.upstreams) :
    (anyHealthy upstreams).Confined (Effect.Concerns req route) fun _ => True := by
  induction upstreams with
  | nil => exact trivial
  | cons upstream upstreams ih =>
      refine ⟨listed upstream List.mem_cons_self, fun healthy => ?_⟩
      cases healthy with
      | true => exact trivial
      | false => exact ih fun other member => listed other (List.mem_cons_of_mem _ member)

theorem skips_concerns {route : Route} (healthyExists : Bool) {upstream : String}
    (listed : upstream ∈ route.upstreams) :
    (skips healthyExists upstream).Confined (Effect.Concerns req route) fun _ => True := by
  cases healthyExists with
  | false => exact trivial
  | true => exact ⟨listed, fun _ => trivial⟩

theorem admitAttempt_concerns (attemptsMade : Nat) :
    (admitAttempt ctx attemptsMade).Confined (Effect.Concerns req ctx.route) fun _ => True := by
  unfold admitAttempt
  split
  · refine ⟨trivial, fun allowed => ?_⟩
    cases allowed with
    | false => exact trivial
    | true => exact ⟨rfl, fun _ => ⟨trivial, fun _ => ⟨trivial, fun _ => trivial⟩⟩⟩
  · exact trivial

theorem attempt_concerns (own : ctx.Of req) {index : Nat} {upstream : String}
    (stored : ctx.route.upstreams[index]? = some upstream) :
    (attempt ctx index upstream).Confined (Effect.Concerns req ctx.route) fun _ => True := by
  have inside := (List.getElem?_eq_some_iff.mp stored).1
  refine ⟨⟨rfl, inside⟩, fun _ => ?_⟩
  obtain ⟨headers, _, forwarded⟩ := forwardOnce_eq ctx.parses ⟨ctx.methodStr, ctx.headers, ctx.wholeBody⟩
    upstream ctx.finalPath ctx.requestId ctx.clientIp ctx.requestTimeout
  dsimp only
  rw [forwarded]
  split
  · have target : upstream ++ ctx.finalPath =
        upstream ++ finalPath (req.uri.pathAndQuery.getD "/") ctx.route.routePrefix := congrArg _ own
    exact ⟨⟨upstream, List.mem_of_getElem? stored, target⟩, fun _ => ⟨⟨rfl, inside⟩, fun _ => trivial⟩⟩
  · exact ⟨⟨rfl, inside⟩, fun _ => trivial⟩

theorem finish_concerns {upstream : String} (listed : upstream ∈ ctx.route.upstreams) (resp : Response) :
    (finish ctx upstream resp).Confined (Effect.Concerns req ctx.route) fun _ => True :=
  ⟨listed, fun _ => ⟨trivial, fun _ => (countRequest_concerns _ _).bind fun _ _ => trivial⟩⟩

theorem settle_concerns {upstream : String} (listed : upstream ∈ ctx.route.upstreams) (attemptsMade : Nat)
    (result : ProxyResult) :
    (settle ctx upstream attemptsMade result).Confined (Effect.Concerns req ctx.route) fun _ => True := by
  have noted : ∀ errorType step, ((noteFailure ctx upstream errorType >>= fun _ => pure step :
      Proxy LoopStep)).Confined (Effect.Concerns req ctx.route) fun _ => True :=
    fun _ _ => ⟨listed, fun _ => ⟨rfl, fun _ => trivial⟩⟩
  cases result with
  | ok resp =>
      simp only [settle]
      split
      · exact noted _ _
      · exact (finish_concerns listed resp).bind fun _ _ => trivial
  | error error =>
      cases error with
      | upstreamFailure | upstreamTimeout => exact noted _ _
      | noRoute | upstreamFailed | invalidUri | noUpstream => exact trivial

/-- A turn finds its upstream in a pool that is not empty. -/
theorem visit_concerns (own : ctx.Of req) (healthyExists : Bool) (offset : Nat) (loop : LoopState)
    (nonempty : 0 < ctx.upstreamCount) :
    (visit ctx healthyExists offset loop).Confined (Effect.Concerns req ctx.route) fun _ => True := by
  have inside : ctx.index offset < ctx.route.upstreams.length := Nat.mod_lt _ nonempty
  have stored := List.getElem?_eq_getElem inside
  have listed := List.mem_of_getElem? stored
  unfold visit
  split
  · exact trivial
  · dsimp only
    rw [stored, Proxy.unwrap_some, Program.pure_eq_done, Program.bind_done]
    refine (skips_concerns healthyExists listed).bind fun skip _ => ?_
    split
    · exact trivial
    · refine (admitAttempt_concerns loop.attemptsMade).bind fun admitted _ => ?_
      split
      · exact (attempt_concerns own stored).bind fun result _ => settle_concerns listed _ result
      · exact trivial

theorem retryLoop_concerns (own : ctx.Of req) (healthyExists : Bool) {offsets : List Nat}
    (nonempty : ∀ offset ∈ offsets, 0 < ctx.upstreamCount) (loop : LoopState) :
    (retryLoop ctx healthyExists offsets loop).Confined (Effect.Concerns req ctx.route) fun _ => True := by
  induction offsets generalizing loop with
  | nil => exact failureExit_concerns _
  | cons offset offsets ih =>
      have pool := nonempty offset List.mem_cons_self
      unfold retryLoop
      refine (visit_concerns own healthyExists offset loop pool).bind fun step _ => ?_
      cases step with
      | again next => exact ih (fun other member => nonempty other (List.mem_cons_of_mem _ member)) next
      | leave => exact failureExit_concerns _
      | answer result => exact trivial

theorem tryUpstreams_concerns (own : ctx.Of req) :
    (tryUpstreams ctx).Confined (Effect.Concerns req ctx.route) fun _ => True := by
  refine (anyHealthy_concerns fun _ => id).bind fun healthyExists _ => ⟨trivial, fun _ => ?_⟩
  exact retryLoop_concerns own healthyExists
    (fun offset member => Nat.zero_lt_of_lt (List.mem_range.mp member)) _

end

/-!
## A whole request
-/

theorem routeKeeper_allows {req : Request} {router : Arc Router} {unselected : Bool} {route : Route}
    (matched : router.value.matchRoute req.uri.path = some route) {effect : Effect}
    (concerns : effect.Concerns req route) : (routeKeeper req).allowed ⟨some router, unselected⟩ effect := by
  simp only [routeKeeper, matched]
  exact .inl concerns

theorem proxyMatched_routes (parses : UriParser) (req : Request) (start : Instant) (requestId : Uuid)
    (config : Config) {router : Arc Router} {route : Route}
    (matched : router.value.matchRoute req.uri.path = some route) :
    Program.Follows (routeKeeper req) (fun _ _ => True)
      (proxyMatched parses req start requestId config route) ⟨some router, false⟩ := by
  refine ⟨routeKeeper_allows matched trivial, fun body => ?_⟩
  cases body with
  | none => exact trivial
  | some wholeBody =>
      refine ⟨routeKeeper_allows matched ⟨rfl, rfl, rfl⟩, fun index => ?_⟩
      cases index with
      | none =>
          exact ⟨by simp [routeKeeper, matched], nofun⟩
      | some startIndex =>
          have own : (matchedContext parses req start requestId config route wholeBody startIndex).Of req := rfl
          have confined := tryUpstreams_concerns own
          refine Program.Follows.of_confined_keeping (fun routing => routing.router = some router) confined ?_
            (fun _ _ _ _ => trivial) rfl
          intro routing effect loaded concerns
          obtain ⟨_, unselected⟩ := routing
          cases loaded
          refine ⟨routeKeeper_allows matched concerns, fun answer => ?_⟩
          cases effect <;> first
            | exact rfl
            | exact concerns.elim

/-- Whatever its answers, a request concerns only the route matched in the router it loaded. -/
theorem proxyRequest_routes (parses : UriParser) (req : Request) :
    Program.Follows (routeKeeper req) (fun _ _ => True) (proxyRequest parses req) .none := by
  refine ⟨trivial, fun start => ⟨trivial, fun requestId => ⟨trivial, fun config =>
    ⟨trivial, fun router => ?_⟩⟩⟩⟩
  change Program.Follows (routeKeeper req) _
    (routeRequest parses req start requestId config.value router.value) ⟨some router, false⟩
  unfold routeRequest
  split
  · next unmatched =>
      refine ⟨?_, fun _ => trivial⟩
      simp only [routeKeeper, unmatched]
  · next route matched => exact proxyMatched_routes parses req start requestId config.value matched

/-!
## Histories
-/

/-- The events so far concern the route matched in the loaded router. -/
structure Routed (req : Request) (history : List ProxyEvent) (routing : Routing) : Prop where
  unloaded : routing.router = none → ∀ router, ⟨.loadRouter, router⟩ ∉ history
  loaded : ∀ router, routing.router = some router → ⟨.loadRouter, router⟩ ∈ history
  unselected : routing.unselected = true → ∃ ref poolSize key, ⟨.nextIndexForKey ref poolSize key, none⟩ ∈ history
  events : ∀ event ∈ history, event.effect.Opens ∨ ∃ router, routing.router = some router ∧
    (event.effect = .incRequestsTotal req.method "unmatched" "404" ∨
      ∃ route, router.value.matchRoute req.uri.path = some route ∧ event.effect.Concerns req route)

theorem Routed.event {req : Request} {history : List ProxyEvent} {routing : Routing}
    (routed : Routed req history routing) (next : ProxyEvent)
    (allowed : (routeKeeper req).allowed routing next.effect) :
    Routed req (history ++ [next]) ((routeKeeper req).next routing next) := by
  obtain ⟨effect, answer⟩ := next
  have kept : routing.router = none ∨ ((routeKeeper req).next routing ⟨effect, answer⟩).router = routing.router := by
    cases loaded : routing.router with
    | none => exact .inl rfl
    | some router =>
        right
        simp only [routeKeeper, loaded] at allowed
        cases effect <;> first
          | exact loaded
          | (split at allowed <;> simp [Effect.Concerns] at allowed)
  refine ⟨fun unloaded router member => ?_, fun router loaded => ?_, fun unselected => ?_, ?_⟩
  · rcases List.mem_append.mp member with old | new
    · cases effect with
      | loadRouter => cases unloaded
      | _ => exact routed.unloaded unloaded router old
    · cases List.mem_singleton.mp new
      cases unloaded
  · cases effect with
    | loadRouter =>
        cases loaded
        exact List.mem_append_right _ (List.mem_singleton_self _)
    | _ => exact List.mem_append_left _ (routed.loaded router loaded)
  · cases effect with
    | nextIndexForKey ref poolSize key =>
        have missing : answer = none := Option.isNone_iff_eq_none.mp unselected
        exact ⟨ref, poolSize, key, List.mem_append_right _ (missing ▸ List.mem_singleton_self _)⟩
    | _ =>
        obtain ⟨ref, poolSize, key, member⟩ := routed.unselected unselected
        exact ⟨ref, poolSize, key, List.mem_append_left _ member⟩
  · intro event member
    rcases List.mem_append.mp member with old | new
    · rcases routed.events event old with opens | ⟨router, loaded, concerns⟩
      · exact .inl opens
      · rcases kept with unloaded | same
        · rw [unloaded] at loaded
          cases loaded
        · exact .inr ⟨router, same.trans loaded, concerns⟩
    · rw [List.mem_singleton] at new
      subst new
      cases loaded : routing.router with
      | none =>
          simp only [routeKeeper, loaded] at allowed
          exact .inl allowed
      | some router =>
          rcases kept with unloaded | same
          · rw [loaded] at unloaded
            cases unloaded
          · refine .inr ⟨router, same.trans loaded, ?_⟩
            simp only [routeKeeper, loaded] at allowed
            split at allowed
            · exact .inl allowed
            · next route matched =>
                rcases allowed with concerns | ⟨panics, _⟩
                · exact .inr ⟨route, matched, concerns⟩
                · have panicked : effect = .panicked := panics
                  subst panicked
                  exact answer.elim

theorem steps_routed {parses : UriParser} {req : Request} {history : List ProxyEvent} {rest : Proxy ProxyResult}
    (steps : Program.Steps (proxyRequest parses req) history rest) :
    Routed req history (history.foldl (routeKeeper req).next .none) := by
  have fresh : Routed req [] .none := ⟨nofun, nofun, nofun, fun _ member => absurd member List.not_mem_nil⟩
  exact (proxyRequest_routes parses req).recorded (Routed req) (fun _ _ next allowed routed =>
    routed.event next allowed) steps fresh

end L7Proxy
