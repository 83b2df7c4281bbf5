import L7Proxy.Proxy.RetryLoop
import L7Proxy.System.Tasks

/-!
# Request metrics

A request is counted under the status of its response once it ends by itself. An
unread body and the overall timeout answer without counting.
-/

set_option autoImplicit false

namespace L7Proxy

open Interaction

def requestLabels (event : ProxyEvent) : Option (String × String × String) :=
  match event.effect with
  | .incRequestsTotal method route status => some (method, route, status)
  | _ => none

def bodyUnread : ProxyEvent → Bool
  | ⟨.toBytes, none⟩ => true
  | _ => false

/-- Observes the counted labels and whether the body could not be read. A request
awaits only before either. -/
def requestCounter : Monitor Effect Answer (List (String × String × String) × Bool) where
  next state event := (state.1 ++ (requestLabels event).toList, state.2 || bodyUnread event)
  allowed state effect := Proxy.awaits effect = true → state = ([], false)

theorem requestCounter_foldl (history : List ProxyEvent) (state : List (String × String × String) × Bool) :
    history.foldl requestCounter.next state =
      (state.1 ++ history.filterMap requestLabels, state.2 || history.any bodyUnread) := by
  induction history generalizing state with
  | nil => simp
  | cons event history ih =>
      rw [List.foldl_cons, ih, List.filterMap_cons]
      cases labels : requestLabels event <;> simp [requestCounter, labels, Bool.or_assoc]

theorem any_bodyUnread_iff {history : List ProxyEvent} :
    history.any bodyUnread = true ↔ ⟨.toBytes, none⟩ ∈ history := by
  rw [List.any_eq_true]
  constructor
  · intro found
    obtain ⟨event, member, unread⟩ := found
    unfold bodyUnread at unread
    split at unread
    · exact member
    · cases unread
  · intro member
    exact ⟨_, member, rfl⟩

/-- A request with a readable body is counted once, under the status of its response. -/
def CountedOnce (state : List (String × String × String) × Bool) (result : ProxyResult) : Prop :=
  if state.2 = true then state.1 = [] else
    state.1.map (·.2.2) = [(proxyService result).status.asString]

theorem requestCounter_allows {effect : Effect} (prompt : Proxy.awaits effect = false)
    (state : List (String × String × String) × Bool) : requestCounter.allowed state effect := by
  intro awaits
  rw [prompt] at awaits
  cases awaits

/-- An effect that is not awaited is always allowed. -/
theorem follows_prompt {Value : Type} {post : List (String × String × String) × Bool → Value → Prop}
    {effect : Effect} {next : Answer effect → Proxy Value} {state : List (String × String × String) × Bool}
    (prompt : Proxy.awaits effect = false)
    (rest : ∀ answer, Program.Follows requestCounter post (next answer)
      (requestCounter.next state ⟨effect, answer⟩)) :
    Program.Follows requestCounter post (.act effect next) state :=
  ⟨requestCounter_allows prompt state, rest⟩

private theorem requestCounter_overlooks_prepares (effect : Effect) (prepares : effect.PreparesAttempt) :
    requestCounter.Overlooks ([], false) effect := by
  cases effect <;> first
    | exact prepares.elim
    | exact ⟨fun _ => rfl, fun _ => rfl⟩

def LoopState.Attempted (loop : LoopState) : Prop := ∀ error, loop.lastError = some error → error.FromUpstream

section

variable {ctx : RequestContext}

theorem failureExit_countedOnce {loop : LoopState} (attempted : loop.Attempted) :
    Program.Follows requestCounter CountedOnce (failureExit ctx loop.lastError) ([], false) := by
  have label : (loop.lastError.getD .upstreamFailure).statusLabel =
      (proxyService (.error (loop.lastError.getD .upstreamFailure))).status.asString := by
    apply ProxyError.statusLabel_eq
    cases last : loop.lastError with
    | none => exact .inl rfl
    | some error => exact attempted error last
  refine follows_prompt rfl fun _ => follows_prompt rfl fun _ => follows_prompt rfl fun _ => ?_
  exact congrArg (fun status => [status]) label

/-- What a turn of the loop leaves of the invariant: nothing is counted before the
request ends. -/
def TurnCounted (loop : LoopState) (state : List (String × String × String) × Bool) : LoopStep → Prop
  | .again next => state = ([], false) ∧ next.Attempted
  | .leave => state = ([], false) ∧ loop.Attempted
  | .answer result => CountedOnce state result

/-- A failed attempt leaves the request uncounted; any other is counted under the
status of its response. -/
theorem settle_countedOnce (ctx : RequestContext) (loop : LoopState) (upstream : String)
    (attemptsMade : Nat) (call : AttemptCall) :
    Program.Follows requestCounter (TurnCounted loop) (settle ctx upstream attemptsMade call.result)
      ([], false) := by
  have noted : ∀ (errorType : String) (error : ProxyError), error.FromUpstream →
      Program.Follows requestCounter (TurnCounted loop)
        (noteFailure ctx upstream errorType >>= fun _ => pure (.again ⟨attemptsMade, some error⟩))
        ([], false) := by
    intro errorType error attempted
    refine follows_prompt rfl fun _ => follows_prompt rfl fun _ => ⟨rfl, ?_⟩
    intro last same
    cases same
    exact attempted
  rcases call.result_cases with failed | timedOut | ⟨resp, answered⟩
  · rw [failed]
    exact noted _ _ (.inl rfl)
  · rw [timedOut]
    exact noted _ _ (.inr rfl)
  · rw [answered]
    by_cases erroneous : resp.status.isServerError = true
    · simp only [settle, erroneous, if_true]
      exact noted _ _ (.inl rfl)
    · simp only [settle, erroneous]
      refine follows_prompt rfl fun _ => follows_prompt rfl fun _ => follows_prompt rfl fun _ => ?_
      exact follows_prompt rfl fun _ => rfl

theorem visit_countedOnce (healthyExists : Bool) (offset : Nat) {loop : LoopState}
    (attempted : loop.Attempted) :
    Program.Follows requestCounter (TurnCounted loop) (visit ctx healthyExists offset loop) ([], false) := by
  have panics : requestCounter.allowed ([], false) .panicked := requestCounter_allows rfl _
  refine follows_visit requestCounter_overlooks_prepares (fun _ => panics) ⟨rfl, attempted⟩
    ⟨rfl, attempted⟩ ?_
  intro upstream _
  have settles := settle_countedOnce ctx loop upstream (loop.attemptsMade + 1)
  apply follows_attempt
  · exact requestCounter_allows rfl _
  · exact ⟨requestCounter_allows rfl _, settles .refused⟩
  · intro headers _
    exact ⟨fun _ => rfl, fun outcome => ⟨requestCounter_allows rfl _, settles (.called headers outcome)⟩⟩

end

/-- Whatever its surroundings answer, a request that ends by itself with a readable
body has been counted once. -/
theorem proxyRequest_countedOnce (parses : UriParser) (req : Request) :
    Program.Follows requestCounter CountedOnce (proxyRequest parses req) ([], false) := by
  refine follows_prompt rfl fun start => follows_prompt rfl fun requestId => ?_
  refine follows_prompt rfl fun config => follows_prompt rfl fun router => ?_
  refine follows_routeRequest parses req start requestId config.value router.value ?_ (fun _ => rfl) rfl ?_ ?_
  · intro _
    refine follows_prompt rfl fun _ => ?_
    exact congrArg (fun status => [status]) (by decide : "404" = toString 404)
  · intro wholeBody effect selects
    cases effect <;> first
      | exact selects.elim
      | exact ⟨fun _ => rfl, fun _ => rfl⟩
  · intro route wholeBody startIndex _
    refine follows_tryUpstreams (fun state loop => state = ([], false) ∧ loop.Attempted)
      requestCounter_overlooks_prepares (requestCounter_allows rfl _) ⟨rfl, nofun⟩ ?_ ?_
    · intro healthyExists offset state loop holds
      obtain ⟨rfl, attempted⟩ := holds
      exact visit_countedOnce healthyExists offset attempted
    · intro state loop holds
      obtain ⟨rfl, attempted⟩ := holds
      exact failureExit_countedOnce attempted

/-!
## Counts over runs
-/

namespace Task

def counts (task : Task) : List (String × String × String) := task.history.filterMap requestLabels

end Task

theorem foldl_requestCounter (task : Task) :
    task.history.foldl requestCounter.next ([], false) = (task.counts, task.history.any bodyUnread) := by
  rw [requestCounter_foldl, List.nil_append, Bool.false_or]
  rfl

namespace System

variable {externals : Externals} {system after : System}

/-- The counter has been incremented once for each counting event of a task. -/
def CountsEvents (system : System) : Prop :=
  ∀ labels, system.app.metrics.requestsTotal labels = (system.tasks.map fun task => task.counts.count labels).sum

theorem perform_requestsTotal {app changed : AppState} {now : Instant} {effect : Effect} {input : Input}
    {answer : Answer effect} (performed : app.perform externals now effect input = some (answer, changed))
    (labels : String × String × String) :
    changed.metrics.requestsTotal labels =
      app.metrics.requestsTotal labels + (requestLabels ⟨effect, answer⟩).toList.count labels := by
  rw [perform_metrics performed]
  cases effect with
  | incRequestsTotal method route status =>
      simp only [Effect.onMetrics, Metrics.inc, requestLabels, Option.toList_some, List.count_singleton]
      by_cases same : (method, route, status) = labels
      · simp [same]
      · have apart : labels ≠ (method, route, status) := fun equal => same equal.symm
        simp [apart, same]
  | _ => rfl

theorem CountsEvents.step {action : Action} (counts : system.CountsEvents)
    (stepped : system.step externals action = some after) : after.CountsEvents := by
  intro labels
  have before := counts labels
  cases step_cases stepped with
  | arrived req remoteIp =>
      rw [arrive, List.map_append, List.sum_append]
      exact before
  | @moved _ task next _ _ stored moves =>
      have replaced := sum_map_set stored next fun task => task.counts.count labels
      simp only
      cases moves with
      | @polled _ effect later answer _ live rest performed =>
          have counted := perform_requestsTotal performed labels
          have grown : Task.counts
              ⟨task.request, task.arrived, task.history ++ [⟨effect, answer⟩], later answer, task.status⟩ =
              task.counts ++ (requestLabels ⟨effect, answer⟩).toList := by
            simp only [Task.counts, List.filterMap_append, List.filterMap_cons, List.filterMap_nil]
            cases requestLabels ⟨effect, answer⟩ <;> rfl
          rw [grown, List.count_append] at replaced
          omega
      | timedOut | dropped =>
          simp only [Task.counts] at replaced before ⊢
          omega
  | built | routerStored | configStored | probed | ticked => exact before

theorem countsEvents {config : Config} {now : Instant} {final : System} {actions : List Action}
    (executed : execute (step externals) (.initial externals config now) actions = some final) :
    final.CountsEvents := by
  have initial : (System.initial externals config now).CountsEvents := fun _ => rfl
  exact execute_preserves CountsEvents (fun _ _ _ counts stepped => counts.step stepped) initial executed

theorem counted_iff_read_in_time {config : Config} {now : Instant} {final : System} {actions : List Action}
    (executed : execute (step externals) (.initial externals config now) actions = some final)
    {task : Task} (member : task ∈ final.tasks) (admitted : task.status ≠ .refused) {resp : Response}
    (answered : task.response = some resp) :
    task.counts.map (·.2.2) = [resp.status.asString] ↔
      task.status ≠ .timedOut ∧ ⟨.toBytes, none⟩ ∉ task.history := by
  have consistent := consistent executed task member
  have follows := (proxyRequest_countedOnce externals.parses task.request).steps consistent.steps
  rw [foldl_requestCounter] at follows
  cases status : task.status with
  | live =>
      have finished : task.result.map proxyService = some resp := by
        rw [← answered, Task.response, status]
      obtain ⟨result, ended, rfl⟩ := Option.map_eq_some_iff.mp finished
      rw [Task.rest_of_result ended] at follows
      have once : CountedOnce (task.counts, task.history.any bodyUnread) result := follows
      rw [← any_bodyUnread_iff]
      unfold CountedOnce at once
      by_cases unread : task.history.any bodyUnread = true
      · rw [if_pos unread] at once
        have uncounted : task.counts = [] := once
        simp [uncounted, unread]
      · rw [if_neg unread] at once
        simp [once, unread]
  | refused => exact absurd status admitted
  | timedOut =>
      obtain ⟨effect, next, rest, awaits⟩ := consistent.timedOut status
      rw [rest] at follows
      have uncounted := follows.1 awaits
      rw [Prod.mk.injEq] at uncounted
      simp [uncounted.1]
  | dropped => simp [Task.response, status] at answered

/-- The request counter holds what the requests were counted under, and an answered
request was counted once, under the status of its response, exactly when it was not
timed out and its body was read. -/
theorem requestsTotal_agrees_iff_read_in_time {externals : Externals} {config : Config} {now : Instant}
    {actions : List Action} {final : System}
    (executed : execute (step externals) (.initial externals config now) actions = some final) :
    final.CountsEvents ∧
      ∀ task ∈ final.tasks, task.status ≠ .refused → ∀ resp, task.response = some resp →
        (task.counts.map (·.2.2) = [resp.status.asString] ↔
          task.status ≠ .timedOut ∧ ⟨.toBytes, none⟩ ∉ task.history) :=
  ⟨countsEvents executed, fun _ member admitted _ answered =>
    counted_iff_read_in_time executed member admitted answered⟩

def answeredRequest : List Action :=
  [.arrive plainRequest plainClient, .poll 0 .none, .poll 0 (.uuid plainId), .poll 0 .none,
    .poll 0 .none, .poll 0 (.body (some [])), .poll 0 .none, .poll 0 .none, .poll 0 .none, .poll 0 .none,
    .poll 0 .none, .poll 0 (.upstream (.response ⟨.ok, [], []⟩)), .poll 0 .none, .poll 0 .none, .poll 0 .none,
    .poll 0 .none, .poll 0 .none]

theorem requestsTotal_agrees_iff_read_in_time_answered :
    ∃ final task,
      execute (step sampleExternals) (.initial sampleExternals twoUpstreamsConfig 0) answeredRequest = some final ∧
      final.tasks = [task] ∧ task.response = some ⟨.ok, [], []⟩ ∧
      task.counts.map (·.2.2) = [StatusCode.ok.asString] := by
  have run : ∃ final task,
      execute (step sampleExternals) (.initial sampleExternals twoUpstreamsConfig 0) answeredRequest = some final ∧
      final.tasks = [task] ∧ task.status = .live ∧ task.history.any bodyUnread = false ∧
      task.response = some ⟨.ok, [], []⟩ :=
    ⟨_, _, rfl, rfl, rfl, rfl, rfl⟩
  obtain ⟨final, task, executed, only, live, read, answered⟩ := run
  have member : task ∈ final.tasks := by simp [only]
  have readable : ⟨.toBytes, none⟩ ∉ task.history := by
    rw [← any_bodyUnread_iff, read]
    exact Bool.false_ne_true
  refine ⟨final, task, executed, only, answered, ?_⟩
  exact ((requestsTotal_agrees_iff_read_in_time executed).2 task member (by simp [live]) _ answered).mpr
    ⟨by simp [live], readable⟩

def brokenBody : List Action :=
  [.arrive plainRequest plainClient, .poll 0 .none, .poll 0 (.uuid plainId), .poll 0 .none,
    .poll 0 .none, .poll 0 (.body none)]

/-- A request whose body cannot be read is answered 502 and never counted. -/
theorem broken_body_uncounted :
    ∃ final task,
      execute (step sampleExternals) (.initial sampleExternals twoUpstreamsConfig 0) brokenBody = some final ∧
      final.tasks = [task] ∧ task.status = .live ∧ task.response.map (·.status.code) = some 502 ∧
      ∀ labels, final.app.metrics.requestsTotal labels = 0 :=
  ⟨_, _, rfl, rfl, rfl, rfl, fun _ => rfl⟩

end System

end L7Proxy
