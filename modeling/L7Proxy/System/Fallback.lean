import L7Proxy.Proxy.RetryLoop
import L7Proxy.System.Tasks

/-!
# The fallback to unhealthy upstreams

A request scans its upstreams once, and passes over unhealthy ones if the scan found a
healthy one. It stays without an attempt when that one is no longer healthy by the
time the loop visits it.
-/

set_option autoImplicit false

namespace L7Proxy

open Interaction Program

/-!
## Attempts and queries of a run
-/

section

variable {ctx : RequestContext} {healthyExists : Bool} {loop : LoopState} {turns : List Turn}
  {result : ProxyResult}

def StartsAttempt (trace : List ProxyEvent) : Prop := ∃ ref index, ⟨.recordStart ref index, ()⟩ ∈ trace

instance (trace : List ProxyEvent) : Decidable (StartsAttempt trace) :=
  decidable_of_iff (trace.any fun event => match event.effect with
      | .recordStart _ _ => true
      | _ => false) <| by
    rw [List.any_eq_true]
    constructor
    · intro starting
      obtain ⟨⟨effect, answer⟩, member, starts⟩ := starting
      cases effect with
      | recordStart ref index => exact ⟨ref, index, member⟩
      | _ => cases starts
    · intro starting
      obtain ⟨ref, index, member⟩ := starting
      exact ⟨_, member, rfl⟩

def Effect.BeforeLoop : Effect → Prop
  | .instantNow | .newV4 | .loadConfig | .loadRouter | .toBytes | .nextIndexForKey _ _ _ | .isHealthy _ => True
  | _ => False

/-- Until the first attempt the loop only skips upstreams. -/
theorem Unfolds.skips_all (unfolds : Unfolds ctx healthyExists loop turns result)
    (fresh : loop.attemptsMade = 0) (idle : ∀ turn ∈ turns, turn.isAttempt = false) :
    ∀ turn ∈ turns, turn = .skipped ∧ healthyExists = true := by
  induction unfolds with
  | exit loop => simp
  | skipped below healthy rest ih =>
      intro turn member
      rcases List.mem_cons.mp member with rfl | member
      · exact ⟨rfl, healthy⟩
      · exact ih fresh (fun later laterMember => idle later (List.mem_cons_of_mem _ laterMember)) turn member
  | denied below retry => omega
  | failed jitter below failure rest ih =>
      have attempt := idle _ List.mem_cons_self
      simp [Turn.isAttempt] at attempt
  | answered jitter below success =>
      have attempt := idle _ List.mem_cons_self
      simp [Turn.isAttempt] at attempt

theorem attempted_events (ctx : RequestContext) (healthyExists : Bool) (jitter offset made : Nat)
    (call : AttemptCall) :
    StartsAttempt ((Turn.attempted jitter call).events ctx healthyExists offset made) ∧
      (healthyExists = true →
        FindsHealthy ((Turn.attempted jitter call).events ctx healthyExists offset made)) := by
  refine ⟨⟨ctx.route.balancer, ctx.index offset, ?_⟩, fun healthy => ⟨ctx.upstreamAt offset, ?_⟩⟩
  · simp [Turn.events]
  · simp [Turn.events, healthQuery, healthy]

/-- A complete run starts an attempt, unless its scan finds a healthy upstream and no
visit of its loop does. -/
theorem runs_tryUpstreams_attempts (nonempty : ctx.route.upstreams ≠ [])
    (bounded : ctx.server.maxRetries < wordMax) {trace : List ProxyEvent}
    (run : Runs (tryUpstreams ctx) trace result) :
    ∃ scan visits, trace = scan ++ ⟨.recordRequest, ()⟩ :: visits ∧
      (∀ event ∈ scan, ∃ upstream, event.effect = .isHealthy upstream) ∧
      (StartsAttempt visits ↔ ¬ (FindsHealthy scan ∧ ¬ FindsHealthy visits)) := by
  obtain ⟨scan, healthyExists, turns, now, scanRun, rfl, _, unfolds, stops⟩ := runs_tryUpstreams nonempty run
  obtain ⟨queries, found⟩ := runs_anyHealthy scanRun
  refine ⟨scan, _, rfl, queries, ?_⟩
  by_cases idle : ∀ turn ∈ turns, turn.isAttempt = false
  · have skips := unfolds.skips_all rfl idle
    -- the loop visits some upstream, so it passes over it
    have healthy : healthyExists = true := by
      cases turns with
      | nil =>
          cases unfolds with
          | exit loop =>
              have without := (stops _ rfl).spent_of_nil nonempty
              rw [ctx.maxAttempts_eq bounded] at without
              omega
      | cons turn turns => exact (skips turn List.mem_cons_self).2
    have quiet : ∀ event ∈ turnEvents ctx healthyExists 0 0 turns ++ exitEvents ctx (turns.length - 1) now result,
        event.effect.Reports ∨ ∃ upstream, event = ⟨.isHealthy upstream, false⟩ := by
      intro event member
      cases List.mem_append.mp member with
      | inl visited =>
          obtain ⟨turn, stored, place, made, here⟩ := mem_turnEvents visited
          rw [(skips turn stored).1, Turn.events, healthQuery, if_pos healthy, List.mem_singleton] at here
          exact .inr ⟨_, here⟩
      | inr exits => exact .inl (exitEvents_reports _ now event exits)
    refine iff_of_false ?_ (not_not.mpr ⟨found.mp healthy, ?_⟩)
    · intro starting
      obtain ⟨ref, index, member⟩ := starting
      rcases quiet _ member with reports | ⟨_, same⟩
      · exact reports
      · cases same
    · intro finding
      obtain ⟨upstream, member⟩ := finding
      rcases quiet _ member with reports | ⟨_, same⟩
      · exact reports
      · cases same
  · simp only [not_forall] at idle
    obtain ⟨turn, stored, attempts⟩ := idle
    obtain ⟨place, visited⟩ := List.getElem?_of_mem stored
    obtain ⟨made, within⟩ := turn_mem_turnEvents ctx healthyExists visited 0 0
    cases turn with
    | skipped | denied => exact absurd rfl attempts
    | attempted jitter call =>
        obtain ⟨⟨ref, index, starts⟩, finds⟩ := attempted_events ctx healthyExists jitter (0 + place) made call
        refine iff_of_true ⟨ref, index, List.mem_append_left _ (within _ starts)⟩ ?_
        intro lost
        obtain ⟨scanFound, unfound⟩ := lost
        obtain ⟨upstream, healthy⟩ := finds (found.mpr scanFound)
        exact unfound ⟨upstream, List.mem_append_left _ (within _ healthy)⟩

end

/-!
## Queries of a task
-/

namespace Task

/-- The request has matched the route under the configuration, and its starting index
is selected. -/
def Selects (task : Task) (config : Arc Config) (route : Route) : Prop :=
  ∃ start requestId router wholeBody startIndex,
    Router.matchRoute router.value task.request.uri.path = some route ∧
      selectionEvents task.request start requestId config router route wholeBody startIndex <+: task.history

def InLoop (task : Task) : Prop := ⟨.recordRequest, ()⟩ ∈ task.history

end Task

namespace System

/-- In the run the task at the index queries the health of the upstream. -/
structure Queries (externals : Externals) (start : System) (actions : List Action) (index : Nat)
    (before : System) (task : Task) (upstream : String) : Prop where
  performed : ∃ input after, Performs (step externals) start actions before (.poll index input) after
  stored : before.tasks[index]? = some task
  pending : task.pending = some (.isHealthy upstream)

/-- The scan of the task meets an available upstream, yet every upstream is
unavailable by the time the loop of the task visits it. -/
def LosesUpstreams (externals : Externals) (start : System) (actions : List Action) (index : Nat) : Prop :=
  (∃ before task upstream, Queries externals start actions index before task upstream ∧ ¬ task.InLoop ∧
      ¬ before.app.health.Unavailable upstream before.clock) ∧
    ∀ before task upstream, Queries externals start actions index before task upstream → task.InLoop →
      before.app.health.Unavailable upstream before.clock

section

variable {externals : Externals} {config : Config} {now : Instant} {actions : List Action} {final : System}
  {index : Nat} {task : Task}

theorem AboutTo.isHealthy_iff {system : System} {upstream : String} {healthy : Bool} {input : Input}
    {app : AppState} (aboutTo : system.AboutTo externals index task ⟨.isHealthy upstream, healthy⟩ input app) :
    healthy = true ↔ ¬ system.app.health.Unavailable upstream system.clock := by
  have performed := aboutTo.performed
  cases input with
  | none =>
      cases performed
      rw [← HealthTracker.isHealthy_eq_false_iff, Bool.not_eq_false]
  | uuid | body | jitter | upstream => cases performed

/-- A query in the history was answered by the tracker of some state of the run. -/
theorem query_of_history
    (executed : execute (step externals) (.initial externals config now) actions = some final)
    (stored : final.tasks[index]? = some task) {past future : List ProxyEvent} {upstream : String}
    {healthy : Bool} (split : task.history = past ++ ⟨.isHealthy upstream, healthy⟩ :: future) :
    ∃ before earlier, Queries externals (.initial externals config now) actions index before earlier upstream ∧
      earlier.history = past ∧ (healthy = true ↔ ¬ before.app.health.Unavailable upstream before.clock) := by
  obtain ⟨before, input, after, earlier, app, performed, aboutTo, history⟩ :=
    history_performed executed stored split
  exact ⟨before, earlier, ⟨⟨input, after, performed⟩, aboutTo.stored, aboutTo.pending⟩, history,
    aboutTo.isHealthy_iff⟩

theorem history_of_query
    (executed : execute (step externals) (.initial externals config now) actions = some final)
    (stored : final.tasks[index]? = some task) {before : System} {earlier : Task} {upstream : String}
    (query : Queries externals (.initial externals config now) actions index before earlier upstream) :
    ∃ healthy future, task.history = earlier.history ++ ⟨.isHealthy upstream, healthy⟩ :: future ∧
      (healthy = true ↔ ¬ before.app.health.Unavailable upstream before.clock) := by
  obtain ⟨input, after, performed⟩ := query.performed
  obtain ⟨healthy, app, future, aboutTo, history⟩ :=
    performed_history executed performed query.stored query.pending stored
  exact ⟨healthy, future, history, aboutTo.isHealthy_iff⟩

private theorem split_around {α : Type} {front back past future : List α} {mark event : α}
    (apart : event ≠ mark) (same : front ++ mark :: back = past ++ event :: future) :
    (∃ rest, front = past ++ event :: rest) ∨ ∃ rest, past = front ++ mark :: rest ∧
      back = rest ++ event :: future := by
  rcases List.append_eq_append_iff.mp same with ⟨rest, split, tail⟩ | ⟨rest, split, tail⟩
  · cases rest with
    | nil =>
        rw [List.nil_append, List.cons.injEq] at tail
        exact absurd tail.1.symm apart
    | cons first rest =>
        rw [List.cons_append, List.cons.injEq] at tail
        exact .inr ⟨rest, tail.1 ▸ split, tail.2⟩
  · cases rest with
    | nil =>
        rw [List.nil_append, List.cons.injEq] at tail
        exact absurd tail.1 apart
    | cons first rest =>
        rw [List.cons_append, List.cons.injEq] at tail
        exact .inl ⟨rest, tail.1 ▸ split⟩

section

variable {front visits : List ProxyEvent}

theorem query_place
    (executed : execute (step externals) (.initial externals config now) actions = some final)
    (stored : final.tasks[index]? = some task)
    (history : task.history = front ++ ⟨.recordRequest, ()⟩ :: visits)
    (first : ⟨.recordRequest, ()⟩ ∉ front) {before : System} {earlier : Task} {upstream : String}
    (query : Queries externals (.initial externals config now) actions index before earlier upstream) :
    ∃ healthy, (healthy = true ↔ ¬ before.app.health.Unavailable upstream before.clock) ∧
      (¬ earlier.InLoop ∧ ⟨.isHealthy upstream, healthy⟩ ∈ front ∨
        earlier.InLoop ∧ ⟨.isHealthy upstream, healthy⟩ ∈ visits) := by
  obtain ⟨healthy, future, split, verdict⟩ := history_of_query executed stored query
  refine ⟨healthy, verdict, ?_⟩
  have apart : (⟨.isHealthy upstream, healthy⟩ : ProxyEvent) ≠ ⟨.recordRequest, ()⟩ := nofun
  rcases split_around apart (history.symm.trans split) with ⟨rest, scanned⟩ | ⟨rest, entered, visited⟩
  · left
    rw [scanned, List.mem_append, not_or] at first
    exact ⟨first.1, by simp [scanned]⟩
  · right
    exact ⟨by simp [Task.InLoop, entered], by simp [visited]⟩

theorem losesUpstreams_iff
    (executed : execute (step externals) (.initial externals config now) actions = some final)
    (stored : final.tasks[index]? = some task)
    (history : task.history = front ++ ⟨.recordRequest, ()⟩ :: visits)
    (first : ⟨.recordRequest, ()⟩ ∉ front) :
    LosesUpstreams externals (.initial externals config now) actions index ↔
      FindsHealthy front ∧ ¬ FindsHealthy visits := by
  constructor
  · intro loses
    obtain ⟨⟨before, earlier, upstream, query, scanning, available⟩, lost⟩ := loses
    refine ⟨?_, ?_⟩
    · rcases query_place executed stored history first query with
        ⟨healthy, verdict, ⟨_, member⟩ | ⟨entered, _⟩⟩
      · rw [verdict.mpr available] at member
        exact ⟨upstream, member⟩
      · exact absurd entered scanning
    · intro finding
      obtain ⟨visited, member⟩ := finding
      obtain ⟨past, future, split⟩ := List.append_of_mem member
      rw [split, ← List.cons_append, ← List.append_assoc] at history
      obtain ⟨state, actor, visit, past, verdict⟩ := query_of_history executed stored history
      have entered : actor.InLoop := by simp [Task.InLoop, past]
      exact verdict.mp rfl (lost state actor visited visit entered)
  · intro finds
    obtain ⟨⟨upstream, member⟩, unfound⟩ := finds
    refine ⟨?_, ?_⟩
    · obtain ⟨past, future, split⟩ := List.append_of_mem member
      rw [split, List.append_assoc] at history
      obtain ⟨before, earlier, query, same, verdict⟩ := query_of_history executed stored history
      refine ⟨before, earlier, upstream, query, ?_, verdict.mp rfl⟩
      rw [Task.InLoop, same]
      intro entered
      exact first (by simp [split, entered])
    · intro before earlier visited query entered
      rcases query_place executed stored history first query with
        ⟨healthy, verdict, ⟨scanning, _⟩ | ⟨_, found⟩⟩
      · exact absurd entered scanning
      · cases healthy with
        | true => exact absurd ⟨visited, found⟩ unfound
        | false => exact not_not.mp fun available => by simpa using verdict.mpr available

end

/-- A completed request that selected its starting index on a route with upstreams
starts an attempt exactly when it does not lose its upstreams between the scan and its
visits. -/
theorem startsAttempt_iff_keeps_upstreams {externals : Externals} {config : Config} {now : Instant}
    {actions : List Action} {final : System} {index : Nat} {task : Task} {snapshot : Arc Config}
    {route : Route} {error : ProxyError}
    (executed : execute (step externals) (.initial externals config now) actions = some final)
    (stored : final.tasks[index]? = some task) (selected : task.Selects snapshot route)
    (nonempty : route.upstreams ≠ []) (bounded : snapshot.value.server.maxRetries < wordMax)
    (failed : task.result = some (.error error)) :
    StartsAttempt task.history ↔ ¬ LosesUpstreams externals (.initial externals config now) actions index := by
  obtain ⟨start, requestId, router, wholeBody, startIndex, matched, trace, history⟩ := selected
  have steps := (consistent executed task (List.mem_of_getElem? stored)).steps
  rw [Task.rest_of_result failed, ← history] at steps
  obtain ⟨scan, visits, rfl, queries, attempts⟩ :=
    runs_tryUpstreams_attempts nonempty bounded ((runs_proxyRequest matched).mp steps)
  have scanning : ∀ event ∈ selectionEvents task.request start requestId snapshot router route wholeBody
      startIndex ++ scan, event.effect.BeforeLoop := by
    intro event member
    cases List.mem_append.mp member with
    | inl selection =>
        simp only [selectionEvents, List.mem_cons, List.not_mem_nil, or_false] at selection
        rcases selection with rfl | rfl | rfl | rfl | rfl | rfl <;> trivial
    | inr scanned =>
        obtain ⟨upstream, same⟩ := queries event scanned
        rw [same]
        trivial
  rw [← List.append_assoc] at history
  have first : ⟨.recordRequest, ()⟩ ∉ selectionEvents task.request start requestId snapshot router route
      wholeBody startIndex ++ scan := fun member => scanning _ member
  have started : StartsAttempt task.history ↔ StartsAttempt visits := by
    rw [← history]
    constructor
    · intro starting
      obtain ⟨ref, place, member⟩ := starting
      cases List.mem_append.mp member with
      | inl before => exact (scanning _ before).elim
      | inr later =>
          cases List.mem_cons.mp later with
          | inl same => cases same
          | inr visited => exact ⟨ref, place, visited⟩
    · intro starting
      obtain ⟨ref, place, member⟩ := starting
      exact ⟨ref, place, List.mem_append_right _ (List.mem_cons_of_mem _ member)⟩
  have found : FindsHealthy (selectionEvents task.request start requestId snapshot router route wholeBody
      startIndex ++ scan) ↔ FindsHealthy scan := by
    simp [FindsHealthy, selectionEvents]
  rw [losesUpstreams_iff executed stored history.symm first, started, found, attempts]

end

/-- One upstream, marked unhealthy by a single failure and probed by the health checker. -/
def probedConfig : Config :=
  { server := { requestTimeoutSecs := 5, maxRetries := 2, failureThreshold := 1, healthCheck := some {} }
    routes := [{ routePrefix := "/", upstream := ["http://10.0.0.1:9001"] }] }

def untilScanned : List Action :=
  [.tick 10, .arrive plainRequest plainClient, .poll 0 .none, .poll 0 (.uuid plainId), .poll 0 .none,
    .poll 0 .none, .poll 0 (.body (some [])), .poll 0 .none, .poll 0 .none]

def refusedConnection : List Action :=
  untilScanned ++ [.poll 0 .none, .poll 0 .none, .poll 0 .none, .poll 0 (.upstream .failed), .poll 0 .none,
    .poll 0 .none, .poll 0 .none, .poll 0 .none, .poll 0 .none, .poll 0 .none]

def probeAfterScan : List Action :=
  untilScanned ++ [.probe "http://10.0.0.1:9001" none, .poll 0 .none, .poll 0 .none, .poll 0 .none,
    .poll 0 .none, .poll 0 .none]

theorem startsAttempt_iff_keeps_upstreams_refused :
    ¬ LosesUpstreams sampleExternals (.initial sampleExternals probedConfig 0) refusedConnection 0 := by
  have run : ∃ final task,
      execute (step sampleExternals) (.initial sampleExternals probedConfig 0) refusedConnection = some final ∧
      final.tasks[0]? = some task ∧ task.Selects ⟨0, probedConfig⟩ ⟨"/", ["http://10.0.0.1:9001"], 0⟩ ∧
      task.result = some (.error .upstreamFailure) ∧ StartsAttempt task.history :=
    ⟨_, _, rfl, rfl, ⟨_, plainId, ⟨0, probedConfig.router 0⟩, [], 0, by decide, _, rfl⟩, rfl, by decide⟩
  obtain ⟨final, task, executed, stored, selected, failed, starts⟩ := run
  exact (startsAttempt_iff_keeps_upstreams executed stored selected (by decide) (by decide) failed).mp starts

/-- The visit skips the upstream that the scan found healthy, and the request fails
without an attempt. -/
theorem probe_leaves_no_attempt :
    ∃ final task,
      execute (step sampleExternals) (.initial sampleExternals probedConfig 0) probeAfterScan = some final ∧
      final.tasks[0]? = some task ∧ task.Selects ⟨0, probedConfig⟩ ⟨"/", ["http://10.0.0.1:9001"], 0⟩ ∧
      task.result = some (.error .upstreamFailure) ∧ ¬ StartsAttempt task.history := by
  -- the visit compares instants, and the arithmetic of the rationals is irreducible
  refine ⟨_, _, by with_unfolding_all rfl, by with_unfolding_all rfl, ?_, by with_unfolding_all rfl,
    by decide +kernel⟩
  exact ⟨_, plainId, ⟨0, probedConfig.router 0⟩, [], 0, by decide, _, by with_unfolding_all rfl⟩

end System

end L7Proxy
