import L7Proxy.Balancer.Proportion
import L7Proxy.Proxy.Routing
import L7Proxy.Router.LongestPrefix
import L7Proxy.System.Components
import L7Proxy.System.Reload

/-!
# The balancers of a run

Every configuration built has places of its own for its balancers, and each balancer
is called only by requests that matched its route in the router of its configuration.
What a run does to a balancer is what these requests' calls do one after the other.
-/

set_option autoImplicit false

namespace L7Proxy

open Interaction CyclicSchedule

/-!
## Calls
-/

/-- The answer of a balancer to a call; only selections are answered. -/
def Balancer.perform (hashing : Hashing) (poolSize : Nat) (balancer : Balancer) :
    BalancerCall → Option Nat × Balancer
  | .nextIndexForKey key => balancer.nextIndexForKey hashing poolSize key
  | .recordStart index => (none, balancer.recordStart index)
  | .recordDone index => (none, balancer.recordDone index)

theorem Balancer.perform_call (hashing : Hashing) (poolSize : Nat) (balancer : Balancer) (call : BalancerCall) :
    (balancer.perform hashing poolSize call).2 = balancer.call hashing poolSize call := by
  cases call <;> rfl

/-- A balancer that answers selections after any calls answers those among the calls. -/
theorem Balancer.perform_answers {hashing : Hashing} {poolSize : Nat} {balancer final : Balancer}
    (selects : ∀ (calls : List BalancerCall) (key : String),
      ((calls.foldl (Balancer.call hashing poolSize) balancer).nextIndexForKey hashing poolSize key).1 ≠ none)
    {events : List (BalancerCall × Option Nat)}
    (responded : respond (Balancer.perform hashing poolSize) balancer (events.map (·.1)) =
      (events.map (·.2), final))
    {key : String} {answer : Option Nat} (member : (.nextIndexForKey key, answer) ∈ events) : answer ≠ none := by
  induction events generalizing balancer with
  | nil => cases member
  | cons event events ih =>
      rw [List.map_cons, respond_cons, List.map_cons, Prod.mk.injEq, List.cons.injEq] at responded
      obtain ⟨⟨answered, later⟩, last⟩ := responded
      rcases List.mem_cons.mp member with here | there
      · subst here
        intro missing
        exact selects [] key (answered.trans missing)
      · refine ih ?_ (Prod.ext later last) there
        intro calls name
        rw [Balancer.perform_call]
        exact selects (event.1 :: calls) name

/-- The answer of a selection. -/
def answeredSelection : BalancerCall × Option Nat → Option (Option Nat)
  | (.nextIndexForKey _, index) => some index
  | _ => none

/-- The weights by which a rotating strategy gives turns to the upstreams. -/
def RouteConfig.turns (route : RouteConfig) : List Nat :=
  match route.strategy with
  | .weightedRoundRobin => route.effectiveWeights
  | _ => List.replicate route.upstream.length 1

/-- A balancer that only selections change. -/
def Balancer.Rotates : Balancer → Prop
  | .roundRobin _ | .weightedRoundRobin _ => True
  | .leastConnections _ | .consistentHash _ => False

/-- The starts and ends of attempts do not disturb the selections of a rotating balancer. -/
theorem Balancer.Rotates.selections {hashing : Hashing} {poolSize : Nat} {balancer final : Balancer}
    (rotates : balancer.Rotates) {events : List (BalancerCall × Option Nat)}
    (responded : respond (Balancer.perform hashing poolSize) balancer (events.map (·.1)) =
      (events.map (·.2), final)) :
    ∃ keys : List String, keys.length = (events.filterMap answeredSelection).length ∧
      events.filterMap answeredSelection = balancer.selections hashing poolSize keys := by
  induction events generalizing balancer with
  | nil => exact ⟨[], rfl, rfl⟩
  | cons event events ih =>
      obtain ⟨call, answer⟩ := event
      rw [List.map_cons, respond_cons, List.map_cons, Prod.mk.injEq, List.cons.injEq] at responded
      obtain ⟨⟨answered, later⟩, last⟩ := responded
      have continued : respond (Balancer.perform hashing poolSize) (balancer.perform hashing poolSize call).2
          (events.map (·.1)) = (events.map (·.2), final) := Prod.ext later last
      cases call with
      | nextIndexForKey key =>
          have still : (balancer.perform hashing poolSize (.nextIndexForKey key)).2.Rotates := by
            cases balancer <;> first
              | exact rotates.elim
              | exact trivial
          obtain ⟨keys, length, same⟩ := ih still continued
          refine ⟨key :: keys, congrArg (· + 1) length, ?_⟩
          rw [List.filterMap_cons, same]
          exact congrArg (· :: _) answered.symm
      | recordStart index | recordDone index =>
          cases balancer with
          | roundRobin | weightedRoundRobin => exact ih trivial continued
          | leastConnections | consistentHash => exact rotates.elim

/-- The call of the balancer at the place that an event is, with its answer. -/
def balancerEvent (place : BalancerRef) (event : ProxyEvent) : Option (BalancerCall × Option Nat) :=
  match event with
  | ⟨.nextIndexForKey ref _ key, index⟩ => if ref = place then some (.nextIndexForKey key, index) else none
  | ⟨.recordStart ref index, _⟩ => if ref = place then some (.recordStart index, none) else none
  | ⟨.recordDone ref index, _⟩ => if ref = place then some (.recordDone index, none) else none
  | _ => none

def balancerSeen (place : BalancerRef) : Instant × Happening → Option (BalancerCall × Option Nat)
  | (_, .event _ performed) => balancerEvent place performed
  | _ => none

/-- A selection at the place passes the size of the pool. -/
def Effect.Sized (place : BalancerRef) (poolSize : Nat) (effect : Effect) : Prop :=
  ∀ size key, effect = .nextIndexForKey place size key → size = poolSize

/-- Replacing a balancer by what one call makes of it is that call at its place and nothing
elsewhere. -/
theorem respond_replaced {hashing : Hashing} {balancers : List Balancer} {ref place : BalancerRef}
    {stored next balancer : Balancer} {event : ProxyEvent} {call : BalancerCall} {answer : Option Nat}
    {poolSize : Nat} (found : balancers[ref]? = some stored)
    (seen : balancerEvent place event = if ref = place then some (call, answer) else none)
    (made : ref = place → stored.perform hashing poolSize call = (answer, next))
    (current : balancers[place]? = some balancer) :
    ∃ after, (balancers.set ref next)[place]? = some after ∧
      respond (Balancer.perform hashing poolSize) balancer ((balancerEvent place event).toList.map (·.1)) =
        ((balancerEvent place event).toList.map (·.2), after) := by
  by_cases same : ref = place
  · subst same
    rw [found, Option.some.injEq] at current
    subst current
    refine ⟨next, List.getElem?_set_self (List.getElem?_eq_some_iff.mp found).1, ?_⟩
    simp [seen, made rfl]
  · exact ⟨balancer, (List.getElem?_set_ne same).trans current, by simp [seen, same]⟩

/-- An effect does to the balancers what its calls do. -/
theorem perform_balancers {externals : Externals} {app changed : AppState} {now : Instant} {effect : Effect}
    {input : Input} {answer : Answer effect}
    (performed : app.perform externals now effect input = some (answer, changed)) :
    changed.balancers.length = app.balancers.length ∧
      ∀ place poolSize balancer, effect.Sized place poolSize → app.balancers[place]? = some balancer →
        ∃ after, changed.balancers[place]? = some after ∧
          respond (Balancer.perform externals.hashing poolSize) balancer
              ((balancerEvent place ⟨effect, answer⟩).toList.map (·.1)) =
            ((balancerEvent place ⟨effect, answer⟩).toList.map (·.2), after) := by
  unfold AppState.perform at performed
  split at performed
  case h_10 ref size key =>
    obtain ⟨stored, found, performed⟩ := Option.bind_eq_some_iff.mp performed
    cases performed
    refine ⟨List.length_set, fun place poolSize balancer sized current => respond_replaced found rfl ?_ current⟩
    intro same
    subst same
    rw [← sized size key rfl]
    rfl
  case h_11 ref index =>
    obtain ⟨stored, found, performed⟩ := Option.bind_eq_some_iff.mp performed
    cases performed
    exact ⟨List.length_set, fun place poolSize balancer _ current =>
      respond_replaced found rfl (fun _ => rfl) current⟩
  case h_12 ref index =>
    obtain ⟨stored, found, performed⟩ := Option.bind_eq_some_iff.mp performed
    cases performed
    exact ⟨List.length_set, fun place poolSize balancer _ current =>
      respond_replaced found rfl (fun _ => rfl) current⟩
  case h_16 | h_17 =>
    obtain ⟨_, _, same⟩ := Option.map_eq_some_iff.mp performed
    cases same
    exact ⟨rfl, fun _ _ balancer _ current => ⟨balancer, current, rfl⟩⟩
  case h_18 greatest amount =>
    split at performed <;> cases performed
    exact ⟨rfl, fun _ _ balancer _ current => ⟨balancer, current, rfl⟩⟩
  case h_21 => cases performed
  all_goals
    cases performed
    exact ⟨rfl, fun _ _ balancer _ current => ⟨balancer, current, rfl⟩⟩

/-!
## Places
-/

theorem Config.router_routes {config : Config} {first : BalancerRef} {route : Route} :
    route ∈ (config.router first).routes ↔ ∃ position configured, config.routes[position]? = some configured ∧
      route = ⟨configured.routePrefix, configured.upstream, first + position⟩ := by
  rw [Config.router, List.mem_map]
  constructor
  · intro listed
    obtain ⟨⟨configured, ref⟩, member, rfl⟩ := listed
    obtain ⟨above, found⟩ := List.mem_zipIdx_iff_le_and_getElem?_sub.mp member
    exact ⟨ref - first, configured, found, by simp [Nat.add_sub_cancel' above]⟩
  · intro placed
    obtain ⟨position, configured, found, rfl⟩ := placed
    refine ⟨(configured, first + position), List.mem_zipIdx_iff_le_and_getElem?_sub.mpr ?_, rfl⟩
    exact ⟨Nat.le_add_right _ _, by rwa [Nat.add_sub_cancel_left]⟩

theorem Config.balancers_getElem? {config : Config} {position : Nat} {configured : RouteConfig} (hashing : Hashing)
    (route : config.routes[position]? = some configured) :
    (config.balancers hashing)[position]? = some (configured.createBalancer hashing.hashKey) := by
  rw [Config.balancers, List.getElem?_map, route]
  rfl

namespace System

variable {externals : Externals} {system after start final : System} {actions : List Action}

/-- The balancers of each configuration built stand before those of the next. -/
structure Allotted (system : System) : Prop where
  apart : system.applied.Pairwise fun earlier later => earlier.2 + earlier.1.routes.length ≤ later.2
  inside : ∀ built ∈ system.applied, built.2 + built.1.routes.length ≤ system.app.balancers.length

theorem Allotted.keep (allotted : system.Allotted) (applied : after.applied = system.applied)
    (length : after.app.balancers.length = system.app.balancers.length) : after.Allotted := by
  refine ⟨applied ▸ allotted.apart, fun built member => ?_⟩
  rw [length]
  exact allotted.inside built (applied ▸ member)

theorem Allotted.step {action : Action} (allotted : system.Allotted)
    (stepped : system.step externals action = some after) : after.Allotted := by
  cases step_cases stepped with
  | arrived | probed | ticked | routerStored | configStored => exact allotted.keep rfl rfl
  | moved stored moves =>
      cases moves with
      | polled live rest performed => exact allotted.keep rfl (perform_balancers performed).1
      | timedOut | dropped => exact allotted.keep rfl rfl
  | built config idle =>
      refine ⟨List.pairwise_append.mpr ⟨allotted.apart, List.pairwise_singleton _ _, ?_⟩, ?_⟩
      · intro earlier member latest here
        rw [List.mem_singleton] at here
        rw [here]
        exact allotted.inside earlier member
      · intro built member
        simp only [Config.balancers, List.length_append, List.length_map]
        rcases List.mem_append.mp member with old | new
        · exact (allotted.inside built old).trans (Nat.le_add_right _ _)
        · rw [List.mem_singleton] at new
          rw [new]

theorem allotted {config : Config} {now : Instant}
    (executed : execute (step externals) (.initial externals config now) actions = some final) :
    final.Allotted := by
  refine execute_preserves Allotted (fun _ _ _ holds stepped => holds.step stepped) ⟨?_, ?_⟩ executed
  · exact List.pairwise_singleton _ _
  · intro built member
    have first : built = (config, 0) := List.mem_singleton.mp member
    simp [first, initial, AppState.initial, Config.balancers]

/-- A place belongs to one route of one configuration. -/
theorem Allotted.unique (allotted : system.Allotted) {generation other position place : Nat}
    {built otherBuilt : Config × BalancerRef} {configured otherConfigured : RouteConfig}
    (found : system.applied[generation]? = some built) (otherFound : system.applied[other]? = some otherBuilt)
    (route : built.1.routes[position]? = some configured)
    (otherRoute : otherBuilt.1.routes[place]? = some otherConfigured)
    (same : built.2 + position = otherBuilt.2 + place) :
    generation = other ∧ built = otherBuilt ∧ position = place ∧ configured = otherConfigured := by
  have inside := (List.getElem?_eq_some_iff.mp route).1
  have otherInside := (List.getElem?_eq_some_iff.mp otherRoute).1
  have precedes : ∀ {earlier later : Nat} {first second : Config × BalancerRef} {here there : Nat},
      system.applied[earlier]? = some first → system.applied[later]? = some second → earlier < later →
        here < first.1.routes.length → first.2 + here < second.2 + there := by
    intro earlier later first second here there firstFound secondFound before within
    obtain ⟨below, rfl⟩ := List.getElem?_eq_some_iff.mp firstFound
    obtain ⟨above, rfl⟩ := List.getElem?_eq_some_iff.mp secondFound
    have apart := List.pairwise_iff_getElem.mp allotted.apart earlier later below above before
    exact (Nat.add_lt_add_left within _).trans_le (apart.trans (Nat.le_add_right _ there))
  rcases Nat.lt_trichotomy generation other with before | equal | behind
  · exact absurd same (precedes found otherFound before inside).ne
  · subst equal
    rw [found, Option.some.injEq] at otherFound
    subst otherFound
    have place := Nat.add_left_cancel same
    subst place
    rw [route, Option.some.injEq] at otherRoute
    exact ⟨rfl, rfl, rfl, otherRoute⟩
  · exact absurd same.symm (precedes otherFound found behind otherInside).ne

/-!
## Requests and their routes
-/

/-- The router a request loaded was built from a configuration of the run. -/
theorem loaded_logged {config : Config} {now : Instant} {index : Nat} {task : Task} {router : Arc Router}
    (executed : execute (step externals) (.initial externals config now) actions = some final)
    (stored : final.tasks[index]? = some task) (loaded : ⟨.loadRouter, router⟩ ∈ task.history) :
    final.LoggedRouter router := by
  obtain ⟨past, future, split⟩ := List.append_of_mem loaded
  obtain ⟨before, input, after, earlier, app, performs, aboutTo, _⟩ := history_performed executed stored split
  have answered : router = before.app.router := by
    have performed := aboutTo.performed
    cases input <;> cases performed
    rfl
  obtain ⟨first, _, _, reached, stepped⟩ := id performs
  have logged := (execute_pointers (initial_logged config now) reached).1
  have next := logged.step stepped
  obtain ⟨later, continued⟩ := performs.continues executed
  have grows := (execute_pointers next.logged continued).2.1
  exact answered ▸ logged.router.mono (next.grows.trans grows)

theorem balancerEvent_concerns {place : BalancerRef} {req : Request} {route : Route} {event : ProxyEvent}
    (concerns : event.effect.Concerns req route) (uses : (balancerEvent place event).isSome) :
    route.balancer = place ∧ event.effect.Sized place route.upstreams.length := by
  unfold balancerEvent at uses
  split at uses
  · next ref size key index =>
      obtain ⟨own, pool, _⟩ : ref = route.balancer ∧ size = route.upstreams.length ∧ key = req.uri.path := concerns
      by_cases same : ref = place
      · refine ⟨own.symm.trans same, fun other name selects => ?_⟩
        cases selects
        exact pool
      · simp [same] at uses
  · next ref index _ =>
      obtain ⟨own, _⟩ : ref = route.balancer ∧ index < route.upstreams.length := concerns
      by_cases same : ref = place
      · exact ⟨own.symm.trans same, nofun⟩
      · simp [same] at uses
  · next ref index _ =>
      obtain ⟨own, _⟩ : ref = route.balancer ∧ index < route.upstreams.length := concerns
      by_cases same : ref = place
      · exact ⟨own.symm.trans same, nofun⟩
      · simp [same] at uses
  · cases uses

/-- The request matched the route of the configuration in the router it loaded. -/
structure Matched (system : System) (task : Task) (router : Arc Router) (built : Config × BalancerRef)
    (position : Nat) (configured : RouteConfig) : Prop where
  loaded : ⟨.loadRouter, router⟩ ∈ task.history
  applied : system.applied[router.generation]? = some built
  route : built.1.routes[position]? = some configured
  matched : router.value.matchRoute task.request.uri.path =
    some ⟨configured.routePrefix, configured.upstream, built.2 + position⟩

/-- A request calls the balancer of the route it matched, with the size of its pool. -/
theorem uses_own_route {config : Config} {now : Instant} {index : Nat} {task : Task} {event : ProxyEvent}
    {place : BalancerRef}
    (executed : execute (step externals) (.initial externals config now) actions = some final)
    (stored : final.tasks[index]? = some task) (member : event ∈ task.history)
    (uses : (balancerEvent place event).isSome) :
    ∃ router built position configured, final.Matched task router built position configured ∧
      place = built.2 + position ∧ event.effect.Sized place configured.upstream.length := by
  have consistent := System.consistent executed task (List.mem_of_getElem? stored)
  have routed := steps_routed consistent.steps
  rcases routed.events event member with opens | ⟨router, known, unmatched | ⟨route, matched, concerns⟩⟩
  · obtain ⟨effect, answer⟩ := event
    cases effect <;> first
      | exact opens.elim
      | cases uses
  · obtain ⟨effect, answer⟩ := event
    cases unmatched
    cases uses
  · have loaded := routed.loaded router known
    obtain ⟨built, applied, value⟩ := loaded_logged executed stored loaded
    obtain ⟨own, sized⟩ := balancerEvent_concerns concerns uses
    rw [value] at matched
    obtain ⟨position, configured, found, rfl⟩ := Config.router_routes.mp (Router.matchRoute_mem matched)
    exact ⟨router, built, position, configured, ⟨loaded, applied, found, value ▸ matched⟩, own.symm, sized⟩

/-- What happens to a task on the timeline is in its history. -/
theorem timeline_event {config : Config} {now time : Instant} {index : Nat} {event : ProxyEvent}
    (executed : execute (step externals) (.initial externals config now) actions = some final)
    (happened : (time, .event index event) ∈ timeline externals (.initial externals config now) actions) :
    ∃ task, final.tasks[index]? = some task ∧ event ∈ task.history := by
  have shown : event ∈ (timeline externals (.initial externals config now) actions).filterMap (taskSeen index) :=
    List.mem_filterMap.mpr ⟨_, happened, if_pos rfl⟩
  rw [timeline_history executed] at shown
  cases stored : final.tasks[index]? with
  | none =>
      rw [stored] at shown
      cases shown
  | some task =>
      rw [stored] at shown
      exact ⟨task, rfl, shown⟩

/-!
## Balancers
-/

/-- The calls of the balancer at the place in a run, with their answers. -/
def balancerEvents (externals : Externals) (start : System) (actions : List Action) (place : BalancerRef) :
    List (BalancerCall × Option Nat) :=
  (timeline externals start actions).filterMap (balancerSeen place)

/-- One step makes the calls it shows. -/
theorem step_balancer {action : Action} {place : BalancerRef} {poolSize : Nat} {balancer : Balancer}
    (stepped : system.step externals action = some after)
    (sized : ∀ time index event, (time, .event index event) ∈ system.happens externals action →
      (balancerEvent place event).isSome → event.effect.Sized place poolSize)
    (current : system.app.balancers[place]? = some balancer) :
    ∃ next, after.app.balancers[place]? = some next ∧
      respond (Balancer.perform externals.hashing poolSize) balancer
          (((system.happens externals action).filterMap (balancerSeen place)).map (·.1)) =
        (((system.happens externals action).filterMap (balancerSeen place)).map (·.2), next) := by
  cases step_cases stepped with
  | arrived | routerStored | configStored | ticked | probed => exact ⟨balancer, current, rfl⟩
  | built config idle =>
      refine ⟨balancer, ?_, rfl⟩
      exact (List.getElem?_append_left (List.getElem?_eq_some_iff.mp current).1).trans current
  | @moved index task next action app stored moves =>
      cases moves with
      | timedOut | dropped => exact ⟨balancer, current, rfl⟩
      | @polled input effect later answer app live rest performed =>
          have shown := polledEvent_eq_some stored live rest performed
          simp only [happens, shown, Option.map_some, Option.toList_some, List.mem_singleton] at sized
          simp only [happens, shown, Option.map_some, Option.toList_some]
          have fits : effect.Sized place poolSize := by
            intro size key selects
            refine sized _ index _ rfl ?_ size key selects
            subst selects
            simp [balancerEvent]
          obtain ⟨next, found, responded⟩ := (perform_balancers performed).2 place poolSize balancer fits current
          refine ⟨next, found, ?_⟩
          cases seen : balancerEvent place ⟨effect, answer⟩ <;> simpa [balancerSeen, seen] using responded

/-- A balancer is not called before it is built. -/
theorem balancerEvents_unbuilt {config : Config} {now : Instant} {place : BalancerRef}
    (executed : execute (step externals) (.initial externals config now) actions = some final)
    (beyond : final.app.balancers.length ≤ place) :
    balancerEvents externals (.initial externals config now) actions place = [] := by
  refine List.filterMap_eq_nil_iff.mpr fun seen happened => ?_
  obtain ⟨time, happening⟩ := seen
  cases happening with
  | arrival | probe => rfl
  | event index event =>
      by_contra used
      have uses := Option.isSome_iff_ne_none.mpr used
      obtain ⟨task, stored, member⟩ := timeline_event executed happened
      obtain ⟨router, built, position, configured, matched, rfl, _⟩ := uses_own_route executed stored member uses
      have below := (List.getElem?_eq_some_iff.mp matched.route).1
      have inside := (allotted executed).inside built (List.mem_of_getElem? matched.applied)
      exact absurd beyond (Nat.not_le.mpr ((Nat.add_lt_add_left below _).trans_le inside))

/-- In every state of a run the balancer of a route is what the calls made of a fresh one, and
answered them as that one would. -/
theorem execute_balancer {config : Config} {now : Instant} {generation position : Nat}
    {built : Config × BalancerRef} {configured : RouteConfig}
    (executed : execute (step externals) (.initial externals config now) actions = some final)
    (applied : final.applied[generation]? = some built) (route : built.1.routes[position]? = some configured) :
    ∃ balancer, final.app.balancers[built.2 + position]? = some balancer ∧
      respond (Balancer.perform externals.hashing configured.upstream.length)
          (configured.createBalancer externals.hashing.hashKey)
          ((balancerEvents externals (.initial externals config now) actions (built.2 + position)).map (·.1)) =
        ((balancerEvents externals (.initial externals config now) actions (built.2 + position)).map (·.2),
          balancer) := by
  induction actions using List.reverseRecOn generalizing final with
  | nil =>
      cases executed
      obtain ⟨rfl, rfl⟩ : generation = 0 ∧ built = (config, 0) := by
        cases generation with
        | zero => exact ⟨rfl, (Option.some.inj applied).symm⟩
        | succ => cases applied
      refine ⟨configured.createBalancer externals.hashing.hashKey, ?_, rfl⟩
      rw [Nat.zero_add]
      exact Config.balancers_getElem? externals.hashing route
  | append_singleton actions action ih =>
      obtain ⟨before, reached, single⟩ := execute_append.mp executed
      obtain ⟨after, stepped, finished⟩ := execute_cons.mp single
      cases finished
      have events : balancerEvents externals (.initial externals config now) (actions ++ [action])
          (built.2 + position) =
          balancerEvents externals (.initial externals config now) actions (built.2 + position) ++
            (before.happens externals action).filterMap (balancerSeen (built.2 + position)) := by
        rw [balancerEvents, timeline, observations_concat reached stepped, List.filterMap_append]
        rfl
      by_cases known : before.applied[generation]? = some built
      · obtain ⟨balancer, current, responded⟩ := ih reached known
        have sized : ∀ time index event, (time, .event index event) ∈ before.happens externals action →
            (balancerEvent (built.2 + position) event).isSome →
              event.effect.Sized (built.2 + position) configured.upstream.length := by
          intro time index event happened uses
          have shown : (time, .event index event) ∈
              timeline externals (.initial externals config now) (actions ++ [action]) := by
            rw [timeline, observations_concat reached stepped]
            exact List.mem_append_right _ happened
          obtain ⟨task, stored, member⟩ := timeline_event executed shown
          obtain ⟨router, other, place, found, matched, same, sized⟩ := uses_own_route executed stored member uses
          obtain ⟨_, _, _, equal⟩ := (allotted executed).unique applied matched.applied route matched.route same
          exact equal ▸ sized
        obtain ⟨next, found, later⟩ := step_balancer stepped sized current
        refine ⟨next, found, ?_⟩
        rw [events, List.map_append, List.map_append, respond_append, responded, later]
      · cases step_cases stepped with
        | arrived | moved | routerStored | configStored | ticked | probed => exact absurd applied known
        | built newest idle =>
            obtain ⟨rfl, rfl⟩ : generation = before.applied.length ∧
                built = (newest, before.app.balancers.length) := by
              rcases Nat.lt_trichotomy generation before.applied.length with old | last | beyond
              · exact absurd ((List.getElem?_append_left old).symm.trans applied) known
              · subst last
                exact ⟨rfl, Option.some.inj (applied.symm.trans List.getElem?_concat_length)⟩
              · rw [List.getElem?_eq_none (by rw [List.length_append]; exact beyond)] at applied
                cases applied
            have nothing : (before.happens externals (.reload newest)).filterMap
                (balancerSeen (before.app.balancers.length + position)) = [] := rfl
            rw [events, nothing, balancerEvents_unbuilt reached (Nat.le_add_right _ _)]
            refine ⟨configured.createBalancer externals.hashing.hashKey, ?_, rfl⟩
            refine (List.getElem?_append_right (Nat.le_add_right _ _)).trans ?_
            rw [Nat.add_sub_cancel_left]
            exact Config.balancers_getElem? externals.hashing route

/-- In every run the balancer of a route of any generation is called by no other requests than
those that matched the route in the router of its generation, and is in the state a fresh
balancer reaches by their calls. It answers them as that one does, unless it counts
connections: such a balancer reads its counters one by one. -/
theorem balancer_serves_own_requests {config : Config} {now : Instant} {generation position : Nat}
    {built : Config × BalancerRef} {configured : RouteConfig}
    (executed : execute (step externals) (.initial externals config now) actions = some final)
    (applied : final.applied[generation]? = some built) (route : built.1.routes[position]? = some configured) :
    (∃ answers balancer, respond (Balancer.perform externals.hashing configured.upstream.length)
          (configured.createBalancer externals.hashing.hashKey)
          ((balancerEvents externals (.initial externals config now) actions (built.2 + position)).map (·.1)) =
        (answers, balancer) ∧
      final.app.balancers[built.2 + position]? = some balancer ∧
      (configured.strategy ≠ .leastConnections → answers =
        (balancerEvents externals (.initial externals config now) actions (built.2 + position)).map (·.2))) ∧
      ∀ time index event,
        (time, .event index event) ∈ timeline externals (.initial externals config now) actions →
          (balancerEvent (built.2 + position) event).isSome →
            ∃ task router, final.tasks[index]? = some task ∧ router.generation = generation ∧
              final.Matched task router built position configured := by
  obtain ⟨balancer, current, responded⟩ := execute_balancer executed applied route
  refine ⟨⟨_, balancer, responded, current, fun _ => rfl⟩, fun time index event happened uses => ?_⟩
  obtain ⟨task, stored, member⟩ := timeline_event executed happened
  obtain ⟨router, other, place, found, matched, same, _⟩ := uses_own_route executed stored member uses
  obtain ⟨rfl, rfl, rfl, rfl⟩ := (allotted executed).unique applied matched.applied route matched.route same
  exact ⟨task, router, stored, rfl, matched⟩

/-- A request that was under way during a reload selects with the balancer of the new router. -/
def servedAfterReload : List Action :=
  reloadBetweenLoads ++ [.poll 0 (.body (some [])), .poll 0 .none, .storeConfig]

theorem balancer_serves_own_requests_reloaded :
    ∃ final, execute (step sampleExternals) (.initial sampleExternals firstConfig 0) servedAfterReload =
        some final ∧
      ∃ time event, (time, .event 0 event) ∈
          timeline sampleExternals (.initial sampleExternals firstConfig 0) servedAfterReload ∧
        (balancerEvent 1 event).isSome ∧ ∃ task router, final.tasks[0]? = some task ∧ router.generation = 1 ∧
          final.Matched task router (secondConfig, 1) 0 ⟨"/", ["http://10.0.0.2:9001"], .roundRobin, none⟩ := by
  have run : ∃ final, execute (step sampleExternals) (.initial sampleExternals firstConfig 0) servedAfterReload =
      some final ∧ final.applied[1]? = some (secondConfig, 1) := ⟨_, rfl, rfl⟩
  obtain ⟨final, executed, applied⟩ := run
  have route : secondConfig.routes[0]? = some ⟨"/", ["http://10.0.0.2:9001"], .roundRobin, none⟩ := rfl
  have served := balancer_serves_own_requests executed applied route
  have happened : (0, .event 0 ⟨.nextIndexForKey 1 1 "/", some 0⟩) ∈
      timeline sampleExternals (.initial sampleExternals firstConfig 0) servedAfterReload :=
    List.mem_of_getElem? (show (timeline sampleExternals (.initial sampleExternals firstConfig 0)
      servedAfterReload)[6]? = some _ from rfl)
  exact ⟨final, executed, 0, _, happened, rfl, served.2 0 0 _ happened rfl⟩

/-!
## Turns
-/

/-- The starting indexes of the requests served at the place, in the order of their selection. -/
def startIndexes (externals : Externals) (start : System) (actions : List Action) (place : BalancerRef) :
    List (Option Nat) :=
  (balancerEvents externals start actions place).filterMap answeredSelection

theorem startIndexes_eq_reads {config : Config} {now : Instant} {generation position : Nat}
    {built : Config × BalancerRef} {configured : RouteConfig}
    (executed : execute (step externals) (.initial externals config now) actions = some final)
    (applied : final.applied[generation]? = some built) (route : built.1.routes[position]? = some configured)
    (rotates : configured.strategy = .roundRobin ∨ configured.strategy = .weightedRoundRobin)
    (fits : (startIndexes externals (.initial externals config now) actions (built.2 + position)).length ≤
      wordSize) :
    startIndexes externals (.initial externals config now) actions (built.2 + position) =
      reads (WeightedRoundRobin.new configured.turns).schedule 0
        (startIndexes externals (.initial externals config now) actions (built.2 + position)).length := by
  obtain ⟨balancer, _, responded⟩ := execute_balancer executed applied route
  rcases rotates with strategy | strategy
  · have created : configured.createBalancer externals.hashing.hashKey = .roundRobin ⟨0⟩ := by
      simp [RouteConfig.createBalancer, createBalancer, strategy, RoundRobin.new]
    have turns : configured.turns = List.replicate configured.upstream.length 1 := by
      simp [RouteConfig.turns, strategy]
    have rotating : (configured.createBalancer externals.hashing.hashKey).Rotates := created ▸ trivial
    obtain ⟨keys, length, same⟩ := rotating.selections responded
    rw [created, ← selections_unit_eq_roundRobin] at same
    rw [turns, WeightedRoundRobin.schedule_unit, startIndexes, ← length]
    refine same.trans (WeightedRoundRobin.selections_eq_reads _ _ ?_)
    rw [Nat.zero_add, length]
    exact fits
  · have created : configured.createBalancer externals.hashing.hashKey =
        .weightedRoundRobin (.new configured.turns) := by
      simp [RouteConfig.createBalancer, createBalancer, strategy, RouteConfig.turns, RouteConfig.effectiveWeights]
    have rotating : (configured.createBalancer externals.hashing.hashKey).Rotates := created ▸ trivial
    obtain ⟨keys, length, same⟩ := rotating.selections responded
    rw [created] at same
    rw [startIndexes, ← length]
    refine same.trans (WeightedRoundRobin.selections_eq_reads _ _ ?_)
    rw [length]
    exact (Nat.zero_add _).trans_le fits

/-- Over all requests of a run that matched a rotating route of one generation, in every
stretch of as many selections as its weights add up to each index is selected as often as its
weight says. Without weights that is once in every round. -/
theorem startIndexes_take_turns {config : Config} {now : Instant} {generation position : Nat}
    {built : Config × BalancerRef} {configured : RouteConfig}
    (executed : execute (step externals) (.initial externals config now) actions = some final)
    (applied : final.applied[generation]? = some built) (route : built.1.routes[position]? = some configured)
    (rotates : configured.strategy = .roundRobin ∨ configured.strategy = .weightedRoundRobin)
    (fits : (startIndexes externals (.initial externals config now) actions (built.2 + position)).length ≤
      wordSize) {earlier : Nat}
    (inside : earlier + configured.turns.sum ≤
      (startIndexes externals (.initial externals config now) actions (built.2 + position)).length)
    (index : Nat) :
    (((startIndexes externals (.initial externals config now) actions (built.2 + position)).drop earlier).take
      configured.turns.sum).count (some index) = configured.turns.getD index 0 := by
  have width := WeightedRoundRobin.schedule_length configured.turns
  rw [startIndexes_eq_reads executed applied route rotates fits, window_reads inside, ← width, count_reads,
    WeightedRoundRobin.schedule_count]

/-- Two requests have selected their starts. -/
def twoStarts : List Action :=
  untilAsked ++ [.arrive plainRequest plainClient, .poll 1 .none, .poll 1 (.uuid plainId), .poll 1 .none,
    .poll 1 .none, .poll 1 (.body (some [])), .poll 1 .none]

theorem startIndexes_take_turns_two :
    ((startIndexes sampleExternals (.initial sampleExternals twoUpstreamsConfig 0) twoStarts 0).take 2).count
      (some 1) = 1 := by
  have run : ∃ final, execute (step sampleExternals) (.initial sampleExternals twoUpstreamsConfig 0) twoStarts =
      some final ∧ final.applied[0]? = some (twoUpstreamsConfig, 0) := ⟨_, rfl, rfl⟩
  obtain ⟨final, executed, applied⟩ := run
  have length : (startIndexes sampleExternals (.initial sampleExternals twoUpstreamsConfig 0) twoStarts 0).length =
      2 := by decide +kernel
  have route : twoUpstreamsConfig.routes[0]? = some ⟨"/", twoUpstreams.upstreams, .roundRobin, none⟩ := rfl
  have fits : (startIndexes sampleExternals (.initial sampleExternals twoUpstreamsConfig 0) twoStarts 0).length ≤
      wordSize := length ▸ by decide
  have inside : 0 + 2 ≤
      (startIndexes sampleExternals (.initial sampleExternals twoUpstreamsConfig 0) twoStarts 0).length :=
    length ▸ le_rfl
  exact startIndexes_take_turns executed applied route (.inl rfl) fits inside 1

end System

end L7Proxy
