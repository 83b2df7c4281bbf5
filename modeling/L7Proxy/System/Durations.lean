import L7Proxy.Proxy.Stopwatch
import L7Proxy.System.Accounting
import L7Proxy.System.Components
import L7Proxy.System.Metrics
import Mathlib.Algebra.BigOperators.Group.Finset.Piecewise

/-!
# Observed durations

The histogram of durations holds the times between the clock readings of the requests that
ended by themselves at a route, one for each of those the request counter holds, but for the
requests that are about to be observed.
-/

set_option autoImplicit false

namespace L7Proxy

open Interaction

namespace Task

def watch (task : Task) : Stopwatch := .ofHistory task.history

def durations (labels : String × String) (task : Task) : List Duration :=
  task.watch.observed.filterMap fun observed => if observed.1 = labels then some observed.2 else none

/-- The task observes its duration next. -/
def observing (labels : String × String) (task : Task) : Bool :=
  task.pending.any fun effect => match effect with
    | .observeRequestDuration method route _ => decide ((method, route) = labels)
    | _ => false

theorem observing_of_pending {task : Task} {effect : Effect} (pending : task.pending = some effect)
    (labels : String × String) :
    task.observing labels = true ↔ ∃ elapsed, effect = .observeRequestDuration labels.1 labels.2 elapsed := by
  rw [observing, pending, Option.any_some]
  cases effect with
  | observeRequestDuration method route elapsed =>
      obtain ⟨wanted, wantedRoute⟩ := labels
      simp
  | _ => simp

variable {parses : UriParser} {task : Task}

theorem Consistent.due (consistent : task.Consistent parses) (untouched : task.Untouched)
    (labels : String × String) : task.watch.Due labels ↔ task.observing labels = true := by
  have follows := (Stopwatch.proxyRequest_watched parses task.request).steps consistent.steps
  rw [Stopwatch.foldl_watch] at follows
  cases consistent.stands untouched with
  | refused history idle =>
      rw [observing, idle, watch, history]
      refine iff_of_false (fun due => ?_) Bool.false_ne_true
      cases due.1
  | finished rest idle =>
      rw [rest] at follows
      rw [observing, idle, watch]
      exact iff_of_false (follows labels) Bool.false_ne_true
  | facing rest pending =>
      rw [rest] at follows
      rw [observing_of_pending pending, watch]
      exact Stopwatch.due_iff_observes follows.1 labels
  | abandoned rest stops idle =>
      rw [rest] at follows
      rw [observing, idle, watch, Stopwatch.due_iff_observes follows.1 labels]
      refine iff_of_false (fun observes => ?_) Bool.false_ne_true
      obtain ⟨elapsed, rfl⟩ := observes
      simp [Effect.MayStop, Proxy.awaits] at stops

end Task

/-!
## The histogram
-/

/-- The duration that an event observes under the labels. -/
def observes (labels : String × String) (event : ProxyEvent) : Option Duration :=
  (observedDuration event).bind fun observed => if observed.1 = labels then some observed.2 else none

theorem perform_durations {externals : Externals} {app changed : AppState} {now : Instant} {effect : Effect}
    {input : Input} {answer : Answer effect} (labels : String × String)
    (performed : app.perform externals now effect input = some (answer, changed)) :
    changed.metrics.requestDurationSeconds labels =
      app.metrics.requestDurationSeconds labels ++ (observes labels ⟨effect, answer⟩).toList := by
  rw [perform_metrics performed]
  cases effect with
  | observeRequestDuration method route elapsed =>
      by_cases same : (method, route) = labels
      · subst same
        simp [Effect.onMetrics, Metrics.observe, observes, observedDuration]
      · have apart : labels ≠ (method, route) := fun equal => same equal.symm
        simp [Effect.onMetrics, Metrics.observe, observes, observedDuration, same, Function.update_of_ne apart]
  | _ => exact (List.append_nil _).symm

theorem Task.durations_eq (labels : String × String) (task : Task) :
    task.durations labels = task.history.filterMap (observes labels) :=
  List.filterMap_filterMap

/-- A task replaced by one with the same history leaves the durations as they are. -/
theorem durations_unchanged (labels : String × String) {tasks : List Task} {index : Nat} {task next : Task}
    (stored : tasks[index]? = some task) (same : next.history = task.history) :
    ((tasks.set index next).flatMap (Task.durations labels)).Perm (tasks.flatMap (Task.durations labels)) := by
  have replaced : Task.durations labels next = Task.durations labels task ++ [] := by
    rw [Task.durations_eq, Task.durations_eq, same, List.append_nil]
  have gained := flatMap_set_perm stored replaced
  rwa [List.append_nil] at gained

namespace System

variable {externals : Externals} {system after final : System} {actions : List Action}

/-- The histogram holds the durations of all tasks. -/
def HoldsDurations (system : System) : Prop :=
  ∀ labels, (system.app.metrics.requestDurationSeconds labels).Perm (system.tasks.flatMap (Task.durations labels))

theorem HoldsDurations.step {action : Action} (holds : system.HoldsDurations)
    (stepped : system.step externals action = some after) : after.HoldsDurations := by
  intro labels
  have before := holds labels
  cases step_cases stepped with
  | arrived req remoteIp =>
      rw [arrive, List.flatMap_append]
      exact before.trans (List.append_nil _ ▸ .refl _)
  | @moved index task next _ app stored moves =>
      cases moves with
      | @polled input effect later answer _ live rest performed =>
          have grown : Task.durations labels
              ⟨task.request, task.arrived, task.history ++ [⟨effect, answer⟩], later answer, task.status⟩ =
              task.durations labels ++ (observes labels ⟨effect, answer⟩).toList := by
            rw [Task.durations_eq, Task.durations_eq, List.filterMap_append]
            cases shown : observes labels ⟨effect, answer⟩ <;> simp [shown]
          rw [perform_durations labels performed]
          exact (before.append_right _).trans (flatMap_set_perm stored grown).symm
      | timedOut | dropped => exact before.trans (.symm (durations_unchanged labels stored rfl))
  | built | routerStored | configStored | probed | ticked => exact before

/-!
## Clock readings
-/

theorem ordered_later {readings : List Instant} {now later : Instant}
    (ordered : (readings ++ [now]).Pairwise (· ≤ ·)) (forward : now ≤ later) :
    (readings ++ [later]).Pairwise (· ≤ ·) := by
  rw [List.pairwise_append] at ordered ⊢
  refine ⟨ordered.1, List.pairwise_singleton _ _, fun reading member last same => ?_⟩
  rw [List.mem_singleton.mp same]
  exact (ordered.2.2 reading member now (List.mem_singleton_self now)).trans forward

theorem ordered_again {readings : List Instant} {now : Instant} (ordered : (readings ++ [now]).Pairwise (· ≤ ·)) :
    (readings ++ [now] ++ [now]).Pairwise (· ≤ ·) := by
  refine List.pairwise_append.mpr ⟨ordered, List.pairwise_singleton _ _, fun reading member last same => ?_⟩
  rw [List.mem_singleton.mp same]
  rcases List.mem_append.mp member with earlier | latest
  · exact (List.pairwise_append.mp ordered).2.2 reading earlier now (List.mem_singleton_self now)
  · exact (List.mem_singleton.mp latest).le

/-- The clock readings of a task lie in order between its arrival and now. -/
def Timed (now : Instant) (task : Task) : Prop :=
  (task.arrived :: task.watch.readings ++ [now]).Pairwise (· ≤ ·)

theorem clockReading_performed {app changed : AppState} {now : Instant} {effect : Effect} {input : Input}
    {answer : Answer effect} (performed : app.perform externals now effect input = some (answer, changed)) :
    clockReading ⟨effect, answer⟩ = none ∨ clockReading ⟨effect, answer⟩ = some now := by
  cases effect with
  | instantNow =>
      cases input with
      | none =>
          cases performed
          exact .inr rfl
      | _ => cases performed
  | _ => exact .inl rfl

theorem Timed.moves {index : Nat} {task next : Task} {action : Action} {app : AppState}
    (timed : Timed system.clock task) (moves : Moves externals system index task action next app) :
    Timed system.clock next := by
  cases moves with
  | @polled input effect later answer _ live rest performed =>
      simp only [Timed, Task.watch, Stopwatch.ofHistory, List.filterMap_append] at timed ⊢
      rcases clockReading_performed performed with unread | read
      · simpa [unread] using timed
      · simpa [read] using ordered_again timed
  | timedOut | dropped => exact timed

theorem timed {config : Config} {now : Instant}
    (executed : execute (step externals) (.initial externals config now) actions = some final) :
    ∀ task ∈ final.tasks, Timed final.clock task := by
  have none : ∀ task ∈ (initial externals config now).tasks, Timed (initial externals config now).clock task :=
    fun _ absent => absurd absent List.not_mem_nil
  refine execute_preserves (fun system => ∀ task ∈ system.tasks, Timed system.clock task) ?_ none executed
  intro system action after timed stepped task member
  have forward := step_clock stepped
  rcases step_member stepped member with old | ⟨req, status, _, rfl⟩ | ⟨index, earlier, app, found, moves⟩
  · exact ordered_later (timed task old) forward
  · exact List.pairwise_pair.mpr forward
  · exact ordered_later ((timed earlier (List.mem_of_getElem? found)).moves moves) forward

/-- A task observes at most one duration, the time between its two clock readings. -/
theorem durations_measured {config : Config} {now : Instant}
    (executed : execute (step externals) (.initial externals config now) actions = some final) {task : Task}
    (member : task ∈ final.tasks) {labels : String × String} {elapsed : Duration}
    (observed : elapsed ∈ task.durations labels) :
    task.durations labels = [elapsed] ∧ ∃ start finish, task.watch.readings = [start, finish] ∧
      task.arrived ≤ start ∧ start ≤ finish ∧ finish ≤ final.clock ∧ elapsed = finish - start := by
  have ordered := timed executed task member
  have stage := Stopwatch.history_stage (consistent executed task member).steps
  change Stopwatch.Stage task.watch at stage
  unfold Timed at ordered
  unfold Task.durations at observed ⊢
  generalize task.watch = watch at ordered stage observed ⊢
  cases stage with
  | uncounted | unmatched | due => cases observed
  | observed start finish counted =>
      by_cases same : counted = labels
      · have inOrder : task.arrived ≤ start ∧ start ≤ finish ∧ finish ≤ final.clock := by
          simp only [List.cons_append, List.nil_append, List.pairwise_cons, List.mem_cons] at ordered
          exact ⟨ordered.1 start (.inl rfl), ordered.2.1 finish (.inl rfl), ordered.2.2.1 _ (.inl rfl)⟩
        simp only [List.filterMap_cons, List.filterMap_nil, same, if_true, List.mem_singleton] at observed ⊢
        rw [observed]
        exact ⟨rfl, start, finish, rfl, inOrder.1, inOrder.2.1, inOrder.2.2, durationSince_of_le inOrder.2.1⟩
      · simp [same] at observed

/-- A task observes at most one duration, under whatever labels. -/
theorem observed_once {config : Config} {now : Instant}
    (executed : execute (step externals) (.initial externals config now) actions = some final) {task : Task}
    (member : task ∈ final.tasks) : task.watch.observed.length ≤ 1 := by
  have stage := Stopwatch.history_stage (consistent executed task member).steps
  change Stopwatch.Stage task.watch at stage
  generalize task.watch = watch at stage ⊢
  cases stage with
  | uncounted | unmatched | due => exact Nat.zero_le 1
  | observed start finish labels => exact le_rfl

/-!
## Counts and durations
-/

/-- The entries of a route are those of the route under each of their statuses. -/
theorem sum_count_statuses {entries : List (String × String × String)} {statuses : Finset String}
    (covers : ∀ entry ∈ entries, entry.2.2 ∈ statuses) (method route : String) :
    ∑ status ∈ statuses, entries.count (method, route, status) =
      (entries.map fun entry => (entry.1, entry.2.1)).count (method, route) := by
  induction entries with
  | nil => simp
  | cons entry entries ih =>
      obtain ⟨counted, countedRoute, status⟩ := entry
      have covered : status ∈ statuses := covers _ List.mem_cons_self
      have later := ih fun entry member => covers entry (List.mem_cons_of_mem _ member)
      simp only [List.count_cons, Finset.sum_add_distrib, later, List.map_cons, beq_iff_eq, Prod.mk.injEq]
      by_cases same : counted = method ∧ countedRoute = route
      · simp [same, covered]
      · simp only [← and_assoc, same, false_and, if_false, Finset.sum_const_zero]

theorem counted_eq (task : Task) : task.watch.counted = task.counts.map fun entry => (entry.1, entry.2.1) := by
  unfold Task.watch Stopwatch.ofHistory Task.counts
  rw [List.map_filterMap]
  refine congrArg (List.filterMap · task.history) (funext fun event => ?_)
  obtain ⟨effect, answer⟩ := event
  cases effect <;> rfl

theorem length_durations (labels : String × String) (task : Task) :
    (task.durations labels).length = (task.watch.observed.map (·.1)).count labels := by
  unfold Task.durations
  rw [List.length_filterMap_eq_countP, List.count, List.countP_map]
  refine List.countP_congr fun observed _ => ?_
  by_cases same : observed.1 = labels <;> simp [same]

/-- A task has observed a duration for every time it was counted at a route, but for the
observation it makes next. -/
theorem counted_observed {config : Config} {now : Instant}
    (executed : execute (step externals) (.initial externals config now) actions = some final) {task : Task}
    (member : task ∈ final.tasks) {labels : String × String} (matched : labels.2 ≠ "unmatched") :
    task.watch.counted.count labels = (task.durations labels).length + if task.observing labels then 1 else 0 := by
  have consistent := consistent executed task member
  have stage := Stopwatch.history_stage consistent.steps
  rw [length_durations]
  simp only [← consistent.due (untouched executed task member) labels]
  exact stage.count matched

theorem requests_eq_durations {config : Config} {now : Instant}
    (executed : execute (step externals) (.initial externals config now) actions = some final)
    {method route : String} (matched : route ≠ "unmatched") :
    ∃ statuses : Finset String,
      (∀ status, status ∉ statuses → final.app.metrics.requestsTotal (method, route, status) = 0) ∧
      ∑ status ∈ statuses, final.app.metrics.requestsTotal (method, route, status) =
        (final.tasks.flatMap (Task.durations (method, route))).length +
          final.tasks.countP (Task.observing (method, route)) := by
  have counts : ∀ labels, final.app.metrics.requestsTotal labels = (final.tasks.flatMap Task.counts).count labels := by
    intro labels
    rw [countsEvents executed labels, List.count_flatMap]
    rfl
  refine ⟨((final.tasks.flatMap Task.counts).map (·.2.2)).toFinset, fun status absent => ?_, ?_⟩
  · rw [counts, List.count_eq_zero]
    intro member
    exact absent (List.mem_toFinset.mpr (List.mem_map_of_mem member))
  · have covers : ∀ entry ∈ final.tasks.flatMap Task.counts,
        entry.2.2 ∈ ((final.tasks.flatMap Task.counts).map (·.2.2)).toFinset :=
      fun entry member => List.mem_toFinset.mpr (List.mem_map_of_mem member)
    have each : ∀ task ∈ final.tasks, task.watch.counted.count (method, route) =
        (task.durations (method, route)).length + if task.observing (method, route) then 1 else 0 :=
      fun task member => counted_observed executed member matched
    simp only [counts]
    calc ∑ status ∈ _, (final.tasks.flatMap Task.counts).count (method, route, status)
        = ((final.tasks.flatMap Task.counts).map fun entry => (entry.1, entry.2.1)).count (method, route) :=
          sum_count_statuses covers method route
      _ = (final.tasks.map fun task => task.watch.counted.count (method, route)).sum := by
          rw [List.map_flatMap, List.count_flatMap]
          refine congrArg List.sum (List.map_congr_left fun task _ => ?_)
          rw [counted_eq, Function.comp_apply]
      _ = (final.tasks.map fun task => (task.durations (method, route)).length).sum +
            final.tasks.countP (Task.observing (method, route)) := sum_eq_add_countP each
      _ = _ := by rw [List.length_flatMap]

/-- In every state of a run the histogram holds the durations the tasks observed, at most one
each, the time between the two clock readings of the task, and at every route the requests
counted outnumber the durations by the tasks whose next effect is to observe theirs. -/
theorem durations_agree {config : Config} {now : Instant}
    (executed : execute (step externals) (.initial externals config now) actions = some final) :
    final.HoldsDurations ∧
      (∀ task ∈ final.tasks, task.watch.observed.length ≤ 1 ∧ ∀ labels, ∀ elapsed ∈ task.durations labels,
        task.durations labels = [elapsed] ∧ ∃ start finish, task.watch.readings = [start, finish] ∧
          task.arrived ≤ start ∧ start ≤ finish ∧ finish ≤ final.clock ∧ elapsed = finish - start) ∧
      ∀ method route, route ≠ "unmatched" → ∃ statuses : Finset String,
        (∀ status, status ∉ statuses → final.app.metrics.requestsTotal (method, route, status) = 0) ∧
        ∑ status ∈ statuses, final.app.metrics.requestsTotal (method, route, status) =
          (final.app.metrics.requestDurationSeconds (method, route)).length +
            final.tasks.countP (Task.observing (method, route)) := by
  have fresh : (initial externals config now).HoldsDurations := fun _ => .refl _
  have holds := execute_preserves HoldsDurations (fun _ _ _ holds stepped => holds.step stepped) fresh executed
  refine ⟨holds, fun task member => ⟨observed_once executed member, fun labels elapsed observed =>
    durations_measured executed member observed⟩, ?_⟩
  intro method route matched
  rw [(holds (method, route)).length_eq]
  exact requests_eq_durations executed matched

/-- The request is answered a second after it arrived. -/
def slowAnswer : List Action :=
  [.arrive plainRequest plainClient, .poll 0 .none, .poll 0 (.uuid plainId), .poll 0 .none,
    .poll 0 .none, .poll 0 (.body (some [])), .poll 0 .none, .poll 0 .none, .poll 0 .none, .poll 0 .none,
    .poll 0 .none, .tick 1, .poll 0 (.upstream (.response ⟨.ok, [], []⟩)), .poll 0 .none, .poll 0 .none,
    .poll 0 .none, .poll 0 .none, .poll 0 .none]

theorem durations_agree_slow :
    ∃ final,
      execute (step sampleExternals) (.initial sampleExternals twoUpstreamsConfig 0) slowAnswer = some final ∧
      final.app.metrics.requestDurationSeconds ("GET", "/") = [1] ∧
      ∃ statuses : Finset String, ∑ status ∈ statuses, final.app.metrics.requestsTotal ("GET", "/", status) = 1 := by
  have run : ∃ final,
      execute (step sampleExternals) (.initial sampleExternals twoUpstreamsConfig 0) slowAnswer = some final ∧
      final.app.metrics.requestDurationSeconds ("GET", "/") = [durationSince (0 + 1) 0] ∧
      final.tasks.countP (Task.observing ("GET", "/")) = 0 := ⟨_, rfl, rfl, rfl⟩
  obtain ⟨final, executed, measured, settled⟩ := run
  rw [show durationSince (0 + 1) 0 = 1 by decide +kernel] at measured
  obtain ⟨statuses, _, agree⟩ := (durations_agree executed).2.2 "GET" "/" (by decide)
  rw [measured, settled] at agree
  exact ⟨final, executed, measured, statuses, agree⟩

end System

end L7Proxy
