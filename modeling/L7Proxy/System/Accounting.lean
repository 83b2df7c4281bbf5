import L7Proxy.Proxy.Accounts
import L7Proxy.Proxy.RetryLoop
import L7Proxy.System.Tasks
import Mathlib.Algebra.Order.BigOperators.Group.List

/-!
# Accounts in every state of a run

The counters hold the entries of all tasks, live, finished or abandoned. Of the entries
that come in pairs only the tasks about to make the second one lack it.
-/

set_option autoImplicit false

namespace L7Proxy

open Interaction Account

/-!
## One task
-/

namespace Task

/-- The task pays the debt next. -/
def owing (debt : Debt) (task : Task) : Bool :=
  task.pending.any fun effect => decide (pays effect = some debt)

theorem pays_of_mayStop {effect : Effect} (stops : effect.MayStop) : pays effect = none := by
  cases effect <;> first
    | rfl
    | simp [Effect.MayStop, Proxy.awaits] at stops

/-- A refused request does nothing. -/
def Untouched (task : Task) : Prop := task.status = .refused → task.history = []

variable {parses : UriParser} {task : Task}

/-- Where a task stands: it was refused, it has its result, it faces its next effect, or it
was abandoned at one. -/
inductive Stands (task : Task) : Prop where
  | refused (history : task.history = []) (idle : task.pending = none)
  | finished {result : ProxyResult} (rest : task.rest = .done result) (idle : task.pending = none)
  | facing {effect : Effect} {next : Answer effect → Proxy ProxyResult} (rest : task.rest = .act effect next)
      (pending : task.pending = some effect)
  | abandoned {effect : Effect} {next : Answer effect → Proxy ProxyResult} (rest : task.rest = .act effect next)
      (stops : effect.MayStop) (idle : task.pending = none)

theorem Consistent.stands (consistent : task.Consistent parses) (untouched : task.Untouched) : task.Stands := by
  cases status : task.status with
  | live =>
      cases rest : task.rest with
      | done result => exact .finished rest (by simp [pending, status, rest])
      | act effect next => exact .facing rest (by simp [pending, status, rest])
  | refused => exact .refused (untouched status) (by simp [pending, status])
  | timedOut =>
      obtain ⟨effect, next, rest, awaits⟩ := consistent.timedOut status
      exact .abandoned rest (.inl awaits) (by simp [pending, status])
  | dropped =>
      obtain ⟨effect, next, rest, stops⟩ := consistent.dropped status
      exact .abandoned rest stops (by simp [pending, status])

theorem Consistent.debt (consistent : task.Consistent parses) (untouched : task.Untouched) (debt : Debt) :
    (task.history.foldl monitor.next opened).debt = some debt ↔ task.owing debt = true := by
  have steps := consistent.steps
  cases consistent.stands untouched with
  | refused history idle => simp [owing, idle, history, opened]
  | finished rest idle =>
      rw [rest] at steps
      simp [owing, idle, result_settled steps]
  | facing rest pending =>
      rw [rest] at steps
      simp [owing, pending, history_owes steps]
  | abandoned rest stops idle =>
      rw [rest] at steps
      simp [owing, idle, history_owes steps, pays_of_mayStop stops]

/-- A task has paid all its debts but the one its next effect pays. -/
theorem Consistent.paid (consistent : task.Consistent parses) (untouched : task.Untouched) (debt : Debt) :
    task.history.countP (incurring debt) =
      task.history.countP (paying debt) + if task.owing debt then 1 else 0 := by
  have balance := (history_balances consistent.steps).debts debt
  simp only [consistent.debt untouched debt] at balance
  exact balance

/-- The task stands at a call of an upstream, pending or abandoned. -/
def atCall (task : Task) : Bool :=
  match task.rest with
  | .act (.clientRequest _ _) _ => true
  | _ => false

/-- The calls a task has made, with the one that is pending or was abandoned. -/
def calls (task : Task) : Nat := task.history.countP calling + if task.atCall then 1 else 0

theorem Consistent.calls (consistent : task.Consistent parses) :
    task.calls ≤ task.history.countP records + task.history.countP (incurring .retry) := by
  have steps := consistent.steps
  have balances := history_balances steps
  unfold Task.calls atCall
  split
  · next request timeout next rest =>
      rw [rest] at steps
      obtain ⟨recorded, room⟩ := ((proxyRequest_follows parses task.request).steps steps).1.2
      have entered := balances.records
      rw [recorded, if_pos rfl] at entered
      rw [if_pos rfl, balances.calls, entered, balances.grants]
      omega
  · rw [if_neg Bool.false_ne_true, Nat.add_comm (task.history.countP records)]
    exact balances.within

end Task

/-!
## All tasks
-/

/-- The increment of an errors counter. -/
def countsError (labels : String × String) (event : ProxyEvent) : Bool :=
  decide (event.effect = .incErrorsTotal labels.1 labels.2)

/-- The increment of a retries counter. -/
def countsRetry (route : String) (event : ProxyEvent) : Bool := decide (event.effect = .incRetriesTotal route)

theorem inc_apply {Labels : Type} [DecidableEq Labels] (counter : Labels → Nat) (incremented labels : Labels) :
    Metrics.inc counter incremented labels = counter labels + if incremented = labels then 1 else 0 := by
  by_cases same : incremented = labels
  · subst same
    simp [Metrics.inc]
  · simp [Metrics.inc, Function.update_of_ne (Ne.symm same), same]

/-- An effect changes the counters of errors and retries by its own increment. -/
theorem perform_counters {externals : Externals} {app changed : AppState} {now : Instant} {effect : Effect}
    {input : Input} {answer : Answer effect} (labels : String × String) (route : String)
    (performed : app.perform externals now effect input = some (answer, changed)) :
    changed.metrics.errorsTotal labels =
        app.metrics.errorsTotal labels + (if countsError labels ⟨effect, answer⟩ then 1 else 0) ∧
      changed.metrics.retriesTotal route =
        app.metrics.retriesTotal route + if countsRetry route ⟨effect, answer⟩ then 1 else 0 := by
  rw [perform_metrics performed]
  cases effect with
  | incRetriesTotal counted => exact ⟨rfl, by simp [countsRetry, Effect.onMetrics, inc_apply]⟩
  | incErrorsTotal counted errorType =>
      refine ⟨?_, rfl⟩
      obtain ⟨expected, expectedType⟩ := labels
      simp [countsError, Effect.onMetrics, inc_apply]
  | _ => exact ⟨rfl, rfl⟩

/-- Sums of two measures that differ by one where a test holds differ by the number of
times it does. -/
theorem sum_eq_add_countP {α : Type} {elements : List α} {left right : α → Nat} {test : α → Bool}
    (each : ∀ element ∈ elements, left element = right element + if test element then 1 else 0) :
    (elements.map left).sum = (elements.map right).sum + elements.countP test := by
  induction elements with
  | nil => rfl
  | cons first rest ih =>
      have here := each first List.mem_cons_self
      have later := ih fun element member => each element (List.mem_cons_of_mem _ member)
      rw [List.map_cons, List.sum_cons, List.map_cons, List.sum_cons, List.countP_cons]
      omega

namespace System

variable {externals : Externals} {system after final : System} {actions : List Action}

/-- The events of a kind in the histories of all tasks. -/
def total (test : ProxyEvent → Bool) (system : System) : Nat :=
  (system.tasks.map fun task => task.history.countP test).sum

theorem untouched {config : Config} {now : Instant}
    (executed : execute (step externals) (.initial externals config now) actions = some final) :
    ∀ task ∈ final.tasks, task.Untouched := by
  refine tasks_invariant (fun _ _ _ _ _ => rfl) ?_ (by simp [initial]) executed
  intro system index task action next app moves untouched
  cases moves with
  | polled live =>
      intro refused
      rw [live] at refused
      cases refused
  | timedOut | dropped =>
      intro refused
      cases refused

/-- What a step adds to the total of a kind is the event it performs. -/
theorem step_total {action : Action} (test : ProxyEvent → Bool)
    (stepped : system.step externals action = some after) :
    (after.app.metrics = system.app.metrics ∧ after.total test = system.total test) ∨
      ∃ effect input answer app, system.app.perform externals system.clock effect input = some (answer, app) ∧
        after.app = app ∧ after.total test = system.total test + if test ⟨effect, answer⟩ then 1 else 0 := by
  cases step_cases stepped with
  | arrived req remoteIp => exact .inl ⟨rfl, by simp [total, arrive]⟩
  | @moved index task next _ app stored moves =>
      cases moves with
      | @polled input effect later answer _ live rest performed =>
          refine .inr ⟨effect, input, answer, app, performed, rfl, ?_⟩
          have replaced := sum_map_set stored
            { task with history := task.history ++ [⟨effect, answer⟩], rest := later answer }
            fun task => task.history.countP test
          simp only [List.countP_append, List.countP_singleton] at replaced
          simp only [total]
          omega
      | @timedOut effect later =>
          have replaced := sum_map_set stored { task with status := .timedOut }
            fun task => task.history.countP test
          exact .inl ⟨rfl, Nat.add_right_cancel replaced⟩
      | @dropped effect later =>
          have replaced := sum_map_set stored { task with status := .dropped }
            fun task => task.history.countP test
          exact .inl ⟨rfl, Nat.add_right_cancel replaced⟩
  | built | routerStored | configStored | probed | ticked => exact .inl ⟨rfl, rfl⟩

/-- A counter that every effect changes by its own event holds the total of the events. -/
theorem counter_eq_total {config : Config} {now : Instant} (counter : Metrics → Nat) (test : ProxyEvent → Bool)
    (counts : ∀ {app changed : AppState} {time : Instant} {effect : Effect} {input : Input}
      {answer : Answer effect}, app.perform externals time effect input = some (answer, changed) →
        counter changed.metrics = counter app.metrics + if test ⟨effect, answer⟩ then 1 else 0)
    (fresh : counter .new = 0)
    (executed : execute (step externals) (.initial externals config now) actions = some final) :
    counter final.app.metrics = final.total test := by
  refine execute_preserves (fun system => counter system.app.metrics = system.total test) ?_ fresh executed
  intro system action after holds stepped
  rcases step_total test stepped with ⟨metrics, same⟩ | ⟨effect, input, answer, app, performed, reached, grown⟩
  · rw [metrics, same, holds]
  · rw [reached, grown, counts performed, holds]

/-- In every state of a run the error and retry counters hold the increments of all
tasks, and every failure a request reported and every retry it was granted has been
counted but by the tasks whose next effect is to count it. -/
theorem counters_settle {config : Config} {now : Instant}
    (executed : execute (step externals) (.initial externals config now) actions = some final) :
    (∀ labels, final.app.metrics.errorsTotal labels = final.total (countsError labels)) ∧
      (∀ route, final.app.metrics.retriesTotal route = final.total (countsRetry route)) ∧
      final.total (incurring .error) = final.total (paying .error) + final.tasks.countP (Task.owing .error) ∧
      final.total (incurring .retry) = final.total (paying .retry) + final.tasks.countP (Task.owing .retry) := by
  have paid : ∀ debt,
      final.total (incurring debt) = final.total (paying debt) + final.tasks.countP (Task.owing debt) := by
    intro debt
    refine sum_eq_add_countP fun task member => ?_
    exact (System.consistent executed task member).paid (untouched executed task member) debt
  refine ⟨fun labels => ?_, fun route => ?_, paid .error, paid .retry⟩
  · exact counter_eq_total (·.errorsTotal labels) (countsError labels)
      (fun performed => (perform_counters labels "" performed).1) rfl executed
  · exact counter_eq_total (·.retriesTotal route) (countsRetry route)
      (fun performed => (perform_counters ("", "") route performed).2) rfl executed

/-- The first call fails, and its failure has been reported but not counted yet. -/
def failedCall : List Action :=
  [.arrive plainRequest plainClient, .poll 0 .none, .poll 0 (.uuid plainId), .poll 0 .none, .poll 0 .none,
    .poll 0 (.body (some [])), .poll 0 .none, .poll 0 .none, .poll 0 .none, .poll 0 .none, .poll 0 .none,
    .poll 0 (.upstream .failed), .poll 0 .none, .poll 0 .none]

theorem counters_settle_failed :
    ∃ final,
      execute (step sampleExternals) (.initial sampleExternals twoUpstreamsConfig 0) failedCall = some final ∧
      final.total (incurring .error) = 1 ∧
      final.total (paying .error) + final.tasks.countP (Task.owing .error) = 1 := by
  have run : ∃ final,
      execute (step sampleExternals) (.initial sampleExternals twoUpstreamsConfig 0) failedCall = some final ∧
      final.total (incurring .error) = 1 := ⟨_, rfl, rfl⟩
  obtain ⟨final, executed, reported⟩ := run
  exact ⟨final, executed, reported, (counters_settle executed).2.2.1.symm.trans reported⟩

/-- The calls of upstreams by all tasks, also those that are pending or were abandoned. -/
def calls (system : System) : Nat := (system.tasks.map Task.calls).sum

/-- In every state of a run the upstreams have been called at most once for each request
recorded in the retry budget and once for each retry it granted. -/
theorem calls_within_grants {config : Config} {now : Instant}
    (executed : execute (step externals) (.initial externals config now) actions = some final) :
    final.calls ≤ final.total records + final.total (incurring .retry) := by
  have each : ∀ task ∈ final.tasks, task.calls ≤
      task.history.countP records + task.history.countP (incurring .retry) :=
    fun task member => (System.consistent executed task member).calls
  have summed := List.sum_le_sum each
  rwa [List.sum_map_add] at summed

/-- The client disconnects during the first call. -/
def abandonedCall : List Action := failedCall.take 11 ++ [.drop 0]

theorem calls_within_grants_abandoned :
    ∃ final,
      execute (step sampleExternals) (.initial sampleExternals twoUpstreamsConfig 0) abandonedCall = some final ∧
      final.calls = 1 ∧ 1 ≤ final.total records + final.total (incurring .retry) := by
  have run : ∃ final,
      execute (step sampleExternals) (.initial sampleExternals twoUpstreamsConfig 0) abandonedCall = some final ∧
      final.calls = 1 := ⟨_, rfl, rfl⟩
  obtain ⟨final, executed, abandoned⟩ := run
  exact ⟨final, executed, abandoned, abandoned ▸ calls_within_grants executed⟩

end System

end L7Proxy
