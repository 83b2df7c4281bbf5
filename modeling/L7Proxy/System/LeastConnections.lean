import L7Proxy.Proxy.RetryLoop
import L7Proxy.System.Tasks

/-!
# Least-connections accounting

A balancer counts an attempt from its `record_start` to its `record_done`. The counts
are those of the attempts in flight as long as no task is abandoned inside one.
-/

set_option autoImplicit false

namespace L7Proxy

open Interaction

/-- Observes the attempt a request is in. Attempts do not nest, each one ends on the
balancer and index it started on, and the client is called inside attempts only. -/
def attemptTracker : Monitor Effect Answer (Option (BalancerRef × Nat)) where
  next current event := match event.effect with
    | .recordStart ref index => some (ref, index)
    | .recordDone _ _ => none
    | _ => current
  allowed current effect := match effect with
    | .recordStart _ _ | .toBytes | .sleep _ | .panicked => current = none
    | .recordDone ref index => current = some (ref, index)
    | .clientRequest _ _ => current.isSome
    | _ => True

private theorem attemptTracker_overlooks_prepares (effect : Effect) (prepares : effect.PreparesAttempt) :
    attemptTracker.Overlooks none effect := by
  cases effect <;> first
    | exact prepares.elim
    | exact ⟨trivial, fun _ => rfl⟩
    | exact ⟨rfl, fun _ => rfl⟩

private theorem attemptTracker_overlooks_reports (effect : Effect) (reports : effect.Reports) :
    attemptTracker.Overlooks none effect := by
  cases effect <;> first
    | exact reports.elim
    | exact ⟨trivial, fun _ => rfl⟩

theorem visit_attemptTracker (ctx : RequestContext) (healthyExists : Bool) (offset : Nat)
    (loop : LoopState) :
    Program.Follows attemptTracker (fun current _ => current = none)
      (visit ctx healthyExists offset loop) none := by
  have settles : ∀ upstream made result, Program.Follows attemptTracker (fun current _ => current = none)
      (settle ctx upstream made result) none := by
    intro upstream made result
    exact .of_confined (settle_confined ctx upstream made result) attemptTracker_overlooks_reports
      fun _ _ => rfl
  apply follows_visit attemptTracker_overlooks_prepares (fun _ => rfl) rfl rfl
  intro upstream _
  apply follows_attempt
  · exact rfl
  · exact ⟨rfl, settles _ _ _⟩
  · intro headers _
    exact ⟨rfl, fun outcome => ⟨rfl, settles _ _ _⟩⟩

theorem proxyRequest_attemptTracker (parses : UriParser) (req : Request) :
    Program.Follows attemptTracker (fun current _ => current = none) (proxyRequest parses req) none := by
  refine ⟨trivial, fun start => ⟨trivial, fun requestId => ⟨trivial, fun config =>
    ⟨trivial, fun router => ?_⟩⟩⟩⟩
  refine follows_routeRequest parses req start requestId config.value router.value ?_ rfl rfl ?_ ?_
  · intro _
    exact ⟨trivial, fun _ => rfl⟩
  · intro wholeBody effect selects
    cases effect <;> first
      | exact selects.elim
      | exact ⟨trivial, fun _ => rfl⟩
      | exact ⟨rfl, fun _ => rfl⟩
  · intro route wholeBody startIndex matched
    refine follows_tryUpstreams (fun current _ => current = none) attemptTracker_overlooks_prepares
      trivial rfl ?_ ?_
    · intro healthyExists offset current loop same
      subst same
      apply Program.Follows.mono _ (visit_attemptTracker _ healthyExists offset loop)
      intro current step same
      cases step <;> exact same
    · intro current loop same
      subst same
      exact .of_confined (failureExit_confined _ _) attemptTracker_overlooks_reports fun _ _ => rfl

/-!
## Counts
-/

def Task.openAttempt (task : Task) : Option (BalancerRef × Nat) :=
  task.history.foldl attemptTracker.next none

/-- A `forward_once` call of the task is pending on the index. -/
def Task.PendingOn (task : Task) (ref : BalancerRef) (index : Nat) : Prop :=
  task.status = .live ∧ task.openAttempt = some (ref, index)

instance (task : Task) (ref : BalancerRef) (index : Nat) : Decidable (task.PendingOn ref index) :=
  inferInstanceAs (Decidable (_ ∧ _))

/-- The entry of a least-connections balancer's active vector. -/
def activeCount (balancers : List Balancer) (ref : BalancerRef) (index : Nat) : Option Nat :=
  match balancers[ref]? with
  | some (.leastConnections balancer) => balancer.active[index]?
  | _ => none

section

variable {balancers : List Balancer} {ref : BalancerRef} {balancer changed : Balancer}

/-- A count after a balancer is replaced was a count before, changed at most if it is
that balancer's. -/
theorem activeCount_set (stored : balancers[ref]? = some balancer) {change : Nat → Nat → Nat}
    (mapped : ∀ index, activeCount [changed] 0 index = (activeCount [balancer] 0 index).map (change index))
    {other : BalancerRef} {index count : Nat}
    (counted : activeCount (balancers.set ref changed) other index = some count) :
    ∃ before, activeCount balancers other index = some before ∧
      count = if other = ref then change index before else before := by
  have inside : ref < balancers.length := (List.getElem?_eq_some_iff.mp stored).1
  by_cases same : other = ref
  · subst same
    have here : activeCount [changed] 0 index = some count := by simpa [activeCount, inside] using counted
    rw [mapped] at here
    obtain ⟨before, found, equal⟩ := Option.map_eq_some_iff.mp here
    refine ⟨before, ?_, by rw [if_pos rfl, equal]⟩
    simpa [activeCount, stored] using found
  · have apart : ref ≠ other := fun equal => same equal.symm
    refine ⟨count, ?_, by rw [if_neg same]⟩
    simpa [activeCount, apart] using counted

theorem activeCount_recordStart (balancer : Balancer) (index other : Nat) :
    activeCount [balancer.recordStart index] 0 other =
      (activeCount [balancer] 0 other).map fun count => if index = other then count + 1 else count := by
  cases balancer with
  | leastConnections inner => exact inner.recordStart_getElem? index other
  | roundRobin | weightedRoundRobin | consistentHash => rfl

theorem activeCount_recordDone (balancer : Balancer) (index other : Nat) :
    activeCount [balancer.recordDone index] 0 other =
      (activeCount [balancer] 0 other).map fun count =>
        if index = other then if count = 0 then wordMax else count - 1 else count := by
  cases balancer with
  | leastConnections inner => exact inner.recordDone_getElem? index other
  | roundRobin | weightedRoundRobin | consistentHash => rfl

theorem activeCount_nextIndexForKey (hashing : Hashing) (balancer : Balancer) (poolSize : Nat)
    (key : String) (other : Nat) :
    activeCount [(balancer.nextIndexForKey hashing poolSize key).2] 0 other =
      (activeCount [balancer] 0 other).map fun count => count := by
  rw [Option.map_id']
  cases balancer <;> rfl

theorem activeCount_append (hashing : Hashing) (config : Config) (index count : Nat)
    (counted : activeCount (balancers ++ config.balancers hashing) ref index = some count) :
    activeCount balancers ref index = some count ∨ balancers.length ≤ ref ∧ count = 0 := by
  by_cases old : ref < balancers.length
  · refine .inl ?_
    simpa [activeCount, List.getElem?_append_left old] using counted
  · refine .inr ⟨not_lt.mp old, ?_⟩
    rw [activeCount, List.getElem?_append_right (not_lt.mp old)] at counted
    split at counted
    · next balancer created =>
        simp only [Config.balancers, List.getElem?_map, Option.map_eq_some_iff] at created
        obtain ⟨route, _, created⟩ := created
        cases strategy : route.strategy <;> simp only [createBalancer, strategy] at created <;> cases created
        simp only [LeastConnections.new, List.getElem?_replicate] at counted
        split at counted <;> cases counted
        rfl
    · cases counted

end

namespace System

def inFlight (system : System) (ref : BalancerRef) (index : Nat) : Nat :=
  system.tasks.countP (·.PendingOn ref index)

/-- The number of attempts started and not finished, abandoned ones included. -/
def unfinished (system : System) (ref : BalancerRef) (index : Nat) : Nat :=
  system.tasks.countP (·.openAttempt = some (ref, index))

/-- The counts of a balancer are the numbers of calls pending on its indices. -/
def Exact (system : System) (ref : BalancerRef) : Prop :=
  ∀ index count, activeCount system.app.balancers ref index = some count →
    count = system.inFlight ref index

/-- The action abandons a task while a call is pending on a counted index. -/
def AbandonsCall (system : System) (action : Action) (ref : BalancerRef) : Prop :=
  ∃ task call index, (action = .timeOut task ∨ action = .drop task) ∧
    system.tasks[task]? = some call ∧ call.PendingOn ref index ∧
    (activeCount system.app.balancers ref index).isSome

/-!
## The unfinished attempts are counted
-/

/-- Every task follows the tracker, its open attempt is on an existing balancer, and
the balancers count the unfinished attempts. -/
structure Accounted (system : System) : Prop where
  follows : ∀ task ∈ system.tasks, Program.Follows attemptTracker (fun current _ => current = none)
    task.rest task.openAttempt
  bounded : ∀ task ∈ system.tasks, ∀ ref index, task.openAttempt = some (ref, index) →
    ref < system.app.balancers.length
  counted : ∀ ref index count, activeCount system.app.balancers ref index = some count →
    count = system.unfinished ref index

section

variable {externals : Externals} {system after : System}

theorem unfinished_set {position : Nat} {task : Task} (stored : system.tasks[position]? = some task)
    (next : Task) (ref : BalancerRef) (index : Nat) :
    (system.tasks.set position next).countP (·.openAttempt = some (ref, index)) +
        (if task.openAttempt = some (ref, index) then 1 else 0) =
      system.unfinished ref index + if next.openAttempt = some (ref, index) then 1 else 0 := by
  obtain ⟨inside, found⟩ := List.getElem?_eq_some_iff.mp stored
  have member : task ∈ system.tasks := List.mem_of_getElem? stored
  rw [List.countP_set inside, found, unfinished]
  by_cases before : task.openAttempt = some (ref, index)
  · have positive : 0 < system.tasks.countP (·.openAttempt = some (ref, index)) :=
      List.countP_pos_iff.mpr ⟨task, member, by simpa using before⟩
    simp only [before, decide_true, if_true]
    split <;> split <;> simp_all
  · simp [before]

theorem unfinished_pos {task : Task} {ref : BalancerRef} {index : Nat} (member : task ∈ system.tasks)
    (opened : task.openAttempt = some (ref, index)) : 0 < system.unfinished ref index :=
  List.countP_pos_iff.mpr ⟨task, member, by simpa using opened⟩

theorem attemptTracker_quiet {effect : Effect} (kind : effect.Quiet) (answer : Answer effect)
    (current : Option (BalancerRef × Nat)) : attemptTracker.next current ⟨effect, answer⟩ = current := by
  cases effect <;> first
    | exact kind.elim
    | rfl

/-- An effect that the tracker allows changes the counts as it changes the open attempt. -/
theorem perform_activeCount {app changed : AppState} {now : Instant} {effect : Effect} {input : Input}
    {answer : Answer effect} (performed : app.perform externals now effect input = some (answer, changed))
    {ref : BalancerRef} {index count : Nat} (counted : activeCount changed.balancers ref index = some count) :
    ∃ before, activeCount app.balancers ref index = some before ∧
      ∀ current, attemptTracker.allowed current effect → (current = some (ref, index) → 0 < before) →
        count + (if current = some (ref, index) then 1 else 0) =
          before + if attemptTracker.next current ⟨effect, answer⟩ = some (ref, index) then 1 else 0 := by
  cases (perform_cases performed).2.2 with
  | quiet kind balancers _ =>
      rw [balancers] at counted
      exact ⟨count, counted, fun current _ _ => by rw [attemptTracker_quiet kind]⟩
  | counted method route status balancers _ =>
      rw [balancers] at counted
      exact ⟨count, counted, fun current _ _ => rfl⟩
  | selected poolSize key stored balancers _ =>
      rw [balancers] at counted
      obtain ⟨before, found, same⟩ :=
        activeCount_set stored (activeCount_nextIndexForKey externals.hashing _ poolSize key) counted
      rw [ite_self] at same
      exact ⟨before, found, fun current _ _ => by rw [same]; rfl⟩
  | @started place _ started stored balancers _ =>
      rw [balancers] at counted
      obtain ⟨before, found, same⟩ := activeCount_set stored (activeCount_recordStart _ started) counted
      refine ⟨before, found, fun current closed _ => ?_⟩
      have unopened : current = none := closed
      have opened : attemptTracker.next current ⟨.recordStart place started, answer⟩ = some (place, started) := rfl
      rw [opened, unopened, same]
      by_cases here : ref = place
      · subst here
        by_cases this : started = index <;> simp [this]
      · have apart : place ≠ ref := fun equal => here equal.symm
        simp [here, apart]
  | @finished place _ finished stored balancers _ =>
      rw [balancers] at counted
      obtain ⟨before, found, same⟩ := activeCount_set stored (activeCount_recordDone _ finished) counted
      refine ⟨before, found, fun current opened positive => ?_⟩
      have attempt : current = some (place, finished) := opened
      have closed : attemptTracker.next current ⟨.recordDone place finished, answer⟩ = none := rfl
      rw [attempt] at positive
      rw [closed, attempt, same]
      by_cases here : ref = place
      · subst here
        by_cases this : finished = index
        · subst this
          have counts := positive rfl
          rw [if_pos rfl, if_pos rfl, if_neg (Nat.ne_of_gt counts), if_pos rfl, if_neg nofun]
          omega
        · simp [this]
      · have apart : place ≠ ref := fun equal => here equal.symm
        simp [here, apart]

theorem perform_length {app changed : AppState} {now : Instant} {effect : Effect} {input : Input}
    {answer : Answer effect} (performed : app.perform externals now effect input = some (answer, changed)) :
    changed.balancers.length = app.balancers.length := by
  cases (perform_cases performed).2.2 with
  | quiet _ balancers _ => rw [balancers]
  | counted _ _ _ balancers _ => rw [balancers]
  | selected _ _ _ balancers _ => rw [balancers, List.length_set]
  | started _ _ balancers _ | finished _ _ balancers _ => rw [balancers, List.length_set]

/-- An attempt is opened on an existing balancer. -/
theorem perform_opens {app changed : AppState} {now : Instant} {effect : Effect} {input : Input}
    {answer : Answer effect} (performed : app.perform externals now effect input = some (answer, changed))
    {current : Option (BalancerRef × Nat)} {ref : BalancerRef} {index : Nat}
    (opened : attemptTracker.next current ⟨effect, answer⟩ = some (ref, index)) :
    current = some (ref, index) ∨ ref < app.balancers.length := by
  cases (perform_cases performed).2.2 with
  | quiet kind _ _ =>
      rw [attemptTracker_quiet kind] at opened
      exact .inl opened
  | counted | selected => exact .inl opened
  | started _ stored _ _ =>
      cases opened
      exact .inr (List.getElem?_eq_some_iff.mp stored).1
  | finished => cases opened

theorem Accounted.replace (accounted : system.Accounted) {position : Nat} {task advanced : Task}
    {app : AppState} (stored : system.tasks[position]? = some task)
    (follows : Program.Follows attemptTracker (fun current _ => current = none) advanced.rest
      advanced.openAttempt)
    (length : app.balancers.length = system.app.balancers.length)
    (bounded : ∀ ref index, advanced.openAttempt = some (ref, index) →
      ref < system.app.balancers.length)
    (counts : ∀ ref index count, activeCount app.balancers ref index = some count →
      ∃ before, activeCount system.app.balancers ref index = some before ∧
        (before = system.unfinished ref index →
          count + (if task.openAttempt = some (ref, index) then 1 else 0) =
            before + if advanced.openAttempt = some (ref, index) then 1 else 0)) :
    Accounted { system with app := app, tasks := system.tasks.set position advanced } := by
  refine ⟨?_, ?_, ?_⟩
  · intro other member
    cases List.mem_or_eq_of_mem_set member with
    | inl earlier => exact accounted.follows other earlier
    | inr new =>
        rw [new]
        exact follows
  · intro other member ref index opened
    rw [length]
    cases List.mem_or_eq_of_mem_set member with
    | inl earlier => exact accounted.bounded other earlier ref index opened
    | inr new =>
        rw [new] at opened
        exact bounded ref index opened
  · intro ref index count counted
    obtain ⟨before, countedBefore, change⟩ := counts ref index count counted
    have same := accounted.counted ref index before countedBefore
    have changed := change same
    have replaced := unfinished_set stored advanced ref index
    rw [unfinished] at same
    simp only [unfinished] at replaced ⊢
    omega

theorem Accounted.poll {position : Nat} {task : Task} {effect : Effect}
    {next : Answer effect → Proxy ProxyResult} {input : Input} {answer : Answer effect} {app : AppState}
    (accounted : system.Accounted) (stored : system.tasks[position]? = some task)
    (rest : task.rest = .act effect next)
    (performed : system.app.perform externals system.clock effect input = some (answer, app)) :
    Accounted { system with
      app := app
      tasks := system.tasks.set position
        { task with history := task.history ++ [⟨effect, answer⟩], rest := next answer } } := by
  have member := List.mem_of_getElem? stored
  have follows := accounted.follows task member
  rw [rest] at follows
  obtain ⟨allowed, follows⟩ := follows
  have moved : ({ task with history := task.history ++ [⟨effect, answer⟩], rest := next answer } : Task).openAttempt =
      attemptTracker.next task.openAttempt ⟨effect, answer⟩ := by
    rw [Task.openAttempt, List.foldl_append]
    rfl
  have followsNext := follows answer
  rw [← moved] at followsNext
  refine accounted.replace stored followsNext (perform_length performed) ?_ ?_
  · intro ref index opened
    rw [moved] at opened
    cases perform_opens performed opened with
    | inl already => exact accounted.bounded task member ref index already
    | inr inside => exact inside
  · intro ref index count counted
    obtain ⟨before, found, changes⟩ := perform_activeCount performed counted
    refine ⟨before, found, fun exact => ?_⟩
    rw [moved]
    exact changes task.openAttempt allowed fun opened => exact ▸ unfinished_pos member opened

theorem Accounted.abandon (accounted : system.Accounted) {position : Nat} {task : Task}
    (stored : system.tasks[position]? = some task) (status : TaskStatus) :
    Accounted { system with tasks := system.tasks.set position { task with status := status } } := by
  have member := List.mem_of_getElem? stored
  refine accounted.replace stored (accounted.follows task member) rfl (accounted.bounded task member) ?_
  intro ref index count counted
  exact ⟨count, counted, fun _ => rfl⟩

theorem Accounted.arrive (accounted : system.Accounted) (req : Request) (remoteIp : IpAddr) :
    (system.arrive externals req remoteIp).Accounted := by
  refine ⟨?_, ?_, ?_⟩
  · intro task member
    cases List.mem_append.mp member with
    | inl earlier => exact accounted.follows task earlier
    | inr new =>
        rw [List.mem_singleton.mp new]
        exact proxyRequest_attemptTracker externals.parses _
  · intro task member ref index opened
    cases List.mem_append.mp member with
    | inl earlier => exact accounted.bounded task earlier ref index opened
    | inr new =>
        rw [List.mem_singleton.mp new] at opened
        cases opened
  · intro ref index count counted
    rw [accounted.counted ref index count counted, unfinished, unfinished, System.arrive,
      List.countP_append, List.countP_singleton]
    simp [Task.openAttempt]

theorem Accounted.build (accounted : system.Accounted) {app : AppState} {config : Config}
    (built : app.balancers = system.app.balancers ++ config.balancers externals.hashing)
    (reloader : Reloader) (applied : List (Config × BalancerRef)) :
    Accounted { system with app := app, reloader := reloader, applied := applied } := by
  refine ⟨accounted.follows, ?_, ?_⟩
  · intro task member ref index opened
    have old := accounted.bounded task member ref index opened
    simp only [built, List.length_append]
    exact Nat.lt_add_right _ old
  · intro ref index count counted
    simp only [built] at counted
    rcases activeCount_append externals.hashing config index count counted with old | ⟨new, rfl⟩
    · exact accounted.counted ref index count old
    · refine (List.countP_eq_zero.mpr fun task member => ?_).symm
      intro opened
      exact not_lt.mpr new (accounted.bounded task member ref index (by simpa using opened))

theorem Accounted.step {action : Action} (accounted : system.Accounted)
    (stepped : system.step externals action = some after) : after.Accounted := by
  cases step_cases stepped with
  | arrived req remoteIp => exact accounted.arrive req remoteIp
  | moved stored moves =>
      cases moves with
      | polled live rest performed => exact accounted.poll stored rest performed
      | timedOut => exact accounted.abandon stored _
      | dropped =>
          have abandoned := accounted.abandon stored .dropped
          exact ⟨abandoned.follows, abandoned.bounded, abandoned.counted⟩
  | built config idle => exact accounted.build rfl _ _
  | routerStored | configStored | probed | ticked =>
      exact ⟨accounted.follows, accounted.bounded, accounted.counted⟩

theorem initial_accounted (config : Config) (now : Instant) :
    (System.initial externals config now).Accounted := by
  refine ⟨by simp [System.initial], by simp [System.initial], ?_⟩
  intro ref index count counted
  have appended : activeCount ([] ++ config.balancers externals.hashing) ref index = some count := counted
  rcases activeCount_append externals.hashing config index count appended with absent | ⟨_, rfl⟩
  · simp [activeCount] at absent
  · simp [unfinished, System.initial]

theorem visited_accounted {config : Config} {now : Instant} {actions : List Action}
    (visited : Visits (System.step externals) (.initial externals config now) actions system) :
    system.Accounted := by
  refine visits_preserves Accounted (initial_accounted config now) ?_ visited
  intro before action after performed accounted
  obtain ⟨_, _, _, _, stepped⟩ := performed
  exact accounted.step stepped

/-- No count exceeds the number of requests so far: the counters are those of the unbounded
model, and wrap nowhere, until `usize::MAX` requests have arrived. -/
theorem counts_fit {config : Config} {now : Instant} {actions : List Action} {ref : BalancerRef}
    {balancer : LeastConnections}
    (visited : Visits (System.step externals) (.initial externals config now) actions system)
    (few : system.tasks.length < wordMax) (stored : system.app.balancers[ref]? = some (.leastConnections balancer)) :
    ∀ count ∈ balancer.active, wrappingAdd count 1 = count + 1 := by
  intro count member
  obtain ⟨index, found⟩ := List.getElem?_of_mem member
  have counted : activeCount system.app.balancers ref index = some count := by
    rw [activeCount, stored]
    exact found
  have bounded : count ≤ system.tasks.length := by
    rw [(visited_accounted visited).counted ref index count counted]
    exact List.countP_le_length
  exact wrappingAdd_of_lt (by simp only [wordMax] at few; omega)

theorem unfinished_eq (ref : BalancerRef) (index : Nat) :
    system.unfinished ref index = system.inFlight ref index +
      system.tasks.countP fun task => task.status ≠ .live ∧ task.openAttempt = some (ref, index) := by
  unfold unfinished inFlight Task.PendingOn
  induction system.tasks with
  | nil => rfl
  | cons task tasks ih =>
      simp only [List.countP_cons, ih]
      by_cases live : task.status = .live <;> by_cases opened : task.openAttempt = some (ref, index) <;>
        simp [live, opened] <;> omega

/-- No abandoned task was in an attempt that the balancer counts. -/
def NoLeak (system : System) (ref : BalancerRef) : Prop :=
  ∀ task ∈ system.tasks, task.status ≠ .live → ∀ index, task.openAttempt = some (ref, index) →
    activeCount system.app.balancers ref index = none

theorem exact_iff_noLeak (accounted : system.Accounted) (ref : BalancerRef) :
    system.Exact ref ↔ system.NoLeak ref := by
  constructor
  · intro exact task member abandoned index opened
    cases counted : activeCount system.app.balancers ref index with
    | none => rfl
    | some count =>
        have inFlight := exact index count counted
        have unfinished := accounted.counted ref index count counted
        rw [unfinished_eq] at unfinished
        have leaked : 0 < system.tasks.countP fun task =>
            task.status ≠ .live ∧ task.openAttempt = some (ref, index) :=
          List.countP_pos_iff.mpr ⟨task, member, by simp [abandoned, opened]⟩
        omega
  · intro noLeak index count counted
    have leakless : (system.tasks.countP fun task =>
        task.status ≠ .live ∧ task.openAttempt = some (ref, index)) = 0 := by
      refine List.countP_eq_zero.mpr fun task member leaked => ?_
      simp only [ne_eq, Bool.decide_and, decide_not, Bool.and_eq_true, Bool.not_eq_eq_eq_not,
        Bool.not_true, decide_eq_false_iff_not, decide_eq_true_eq] at leaked
      rw [noLeak task member leaked.1 index leaked.2] at counted
      cases counted
    rw [accounted.counted ref index count counted, unfinished_eq, leakless, Nat.add_zero]

theorem step_activeCount {action : Action} (stepped : system.step externals action = some after)
    {ref : BalancerRef} (inside : ref < system.app.balancers.length) {index : Nat}
    (uncounted : activeCount system.app.balancers ref index = none) :
    activeCount after.app.balancers ref index = none := by
  cases step_cases stepped with
  | moved stored moves =>
      cases moves with
      | polled live rest performed =>
          cases counted : activeCount _ ref index with
          | none => rfl
          | some count =>
              obtain ⟨before, found, _⟩ := perform_activeCount performed counted
              rw [uncounted] at found
              cases found
      | timedOut | dropped => exact uncounted
  | built config idle => simpa [activeCount, List.getElem?_append_left inside] using uncounted
  | arrived | routerStored | configStored | probed | ticked => exact uncounted

theorem NoLeak.step {action : Action} {ref : BalancerRef} (noLeak : system.NoLeak ref)
    (accounted : system.Accounted) (stepped : system.step externals action = some after)
    (finishes : ¬ system.AbandonsCall action ref) : after.NoLeak ref := by
  intro task member abandoned index opened
  have old : ∀ earlier ∈ system.tasks, earlier.status ≠ .live → earlier.openAttempt = some (ref, index) →
      activeCount after.app.balancers ref index = none := by
    intro earlier earlierMember earlierAbandoned earlierOpened
    exact step_activeCount stepped (accounted.bounded earlier earlierMember ref index earlierOpened)
      (noLeak earlier earlierMember earlierAbandoned index earlierOpened)
  obtain ⟨position, stored⟩ := List.mem_iff_getElem?.mp member
  rcases step_task stepped position with same | ⟨_, req, status, _, arrived⟩ |
    ⟨earlier, next, app, found, reached, moves⟩
  · rw [same] at stored
    exact old task (List.mem_of_getElem? stored) abandoned opened
  · rw [arrived, Option.some.injEq] at stored
    subst stored
    cases opened
  · rw [reached, Option.some.injEq] at stored
    subst stored
    have earlierMember := List.mem_of_getElem? found
    have leaks : ∀ (stops : action = .timeOut position ∨ action = .drop position) (live : earlier.status = .live),
        earlier.openAttempt = some (ref, index) → activeCount after.app.balancers ref index = none := by
      intro stops live pending
      refine step_activeCount stepped (accounted.bounded earlier earlierMember ref index pending) ?_
      cases counted : activeCount system.app.balancers ref index with
      | none => rfl
      | some count =>
          exact (finishes ⟨position, earlier, index, stops, found, ⟨live, pending⟩, by simp [counted]⟩).elim
    cases moves with
    | polled live rest performed => exact absurd live abandoned
    | timedOut live rest awaits => exact leaks (.inl rfl) live opened
    | dropped live rest suspended => exact leaks (.inr rfl) live opened

theorem AbandonsCall.leaks {action : Action} {ref : BalancerRef}
    (stepped : system.step externals action = some after) (abandons : system.AbandonsCall action ref) :
    ¬ after.NoLeak ref := by
  obtain ⟨position, call, index, ended, stored, pending, counted⟩ := abandons
  have leaves : ∀ status, status ≠ .live →
      ¬ NoLeak { system with tasks := system.tasks.set position { call with status := status } } ref := by
    intro status abandoned noLeak
    have inside := (List.getElem?_eq_some_iff.mp stored).1
    rw [noLeak _ (List.mem_set inside _) abandoned index pending.2] at counted
    cases counted
  cases step_cases stepped with
  | moved found moves =>
      cases moves with
      | polled => simp at ended
      | timedOut | dropped =>
          simp only [Action.timeOut.injEq, Action.drop.injEq, reduceCtorEq, or_false, false_or] at ended
          subst ended
          rw [stored, Option.some.injEq] at found
          subst found
          exact leaves _ (by decide)
  | arrived | built | routerStored | configStored | probed | ticked => simp at ended

end

/-!
## Exactness over runs
-/

/-- In every state of the run the counts of the balancer are exact, and no
`record_done` finds a count of zero. -/
def KeepsExact (externals : Externals) (start : System) (actions : List Action) (ref : BalancerRef) :
    Prop :=
  (∀ system, Visits (step externals) start actions system → system.Exact ref) ∧
    ∀ before position input after, Performs (step externals) start actions before (.poll position input) after →
      ∀ task index count, before.tasks[position]? = some task →
        task.pending = some (.recordDone ref index) →
        activeCount before.app.balancers ref index = some count → 0 < count

/-- A balancer's counts are exact in every state of a run exactly when no step of the
run times out or drops a request whose call is pending on the balancer. -/
theorem keepsExact_iff_abandons_no_call (externals : Externals) (config : Config) (now : Instant)
    (actions : List Action) (ref : BalancerRef) :
    KeepsExact externals (.initial externals config now) actions ref ↔
      ∀ before action after,
        Performs (step externals) (.initial externals config now) actions before action after →
          ¬ before.AbandonsCall action ref := by
  constructor
  · intro keeps before action after performed abandons
    have stepped := performed.choose_spec.choose_spec.2.2
    have visited := performed.visits_after
    exact abandons.leaks stepped
      ((exact_iff_noLeak (visited_accounted visited) ref).mp (keeps.1 after visited))
  · intro finishes
    refine ⟨?_, ?_⟩
    · intro system visited
      refine (exact_iff_noLeak (visited_accounted visited) ref).mpr ?_
      refine visits_preserves (fun system => system.NoLeak ref) ?_ ?_ visited
      · intro task member
        simp [initial] at member
      · intro before action after performed noLeak
        have stepped := performed.choose_spec.choose_spec.2.2
        exact noLeak.step (visited_accounted performed.visits_before) stepped
          (finishes before action after performed)
    · intro before position input after performed task index count stored pending counted
      have accounted := visited_accounted performed.visits_before
      have member := List.mem_of_getElem? stored
      obtain ⟨_, next, rest⟩ := Task.pending_eq_some pending
      have follows := accounted.follows task member
      rw [rest] at follows
      rw [accounted.counted ref index count counted]
      exact unfinished_pos member follows.1

def leastConnectionsConfig : Config :=
  { twoUpstreamsConfig with
    routes := [{ routePrefix := "/", upstream := ["http://10.0.0.1:9001"], strategy := .leastConnections }] }

/-- A client sends a request and disconnects while its first call is pending. -/
def disconnectDuringCall : List Action :=
  [.arrive plainRequest plainClient, .poll 0 .none, .poll 0 (.uuid plainId), .poll 0 .none,
    .poll 0 .none, .poll 0 (.body (some [])), .poll 0 .none, .poll 0 .none, .poll 0 .none, .poll 0 .none,
    .poll 0 .none, .drop 0]

/-- The disconnected call stays counted although no call is in flight. -/
theorem disconnect_leaks_count :
    ((execute (step sampleExternals) (.initial sampleExternals leastConnectionsConfig 0)
        disconnectDuringCall).map fun final =>
          (activeCount final.app.balancers 0 0, final.inFlight 0 0)) = some (some 1, 0) ∧
      ¬ KeepsExact sampleExternals (.initial sampleExternals leastConnectionsConfig 0)
        disconnectDuringCall 0 := by
  have leaked : ((execute (step sampleExternals) (.initial sampleExternals leastConnectionsConfig 0)
      disconnectDuringCall).map fun final =>
        (activeCount final.app.balancers 0 0, final.inFlight 0 0)) = some (some 1, 0) := by
    rfl
  refine ⟨leaked, fun keeps => ?_⟩
  obtain ⟨final, executed, counts⟩ := Option.map_eq_some_iff.mp leaked
  rw [Prod.mk.injEq] at counts
  have exact := keeps.1 final (.final executed) 0 1 counts.1
  rw [counts.2] at exact
  cases exact

end System

end L7Proxy
