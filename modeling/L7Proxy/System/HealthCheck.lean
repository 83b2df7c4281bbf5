import L7Proxy.Library.Polling
import L7Proxy.System.Components
import L7Proxy.System.Restart

/-!
# The health checker's loop

The checker collects the upstreams of the configuration it finds, sleeps for its interval,
probes them one after the other and starts over. The proxy with this loop is a proxy in which
probes come anyhow, so what holds of all runs of the latter holds of the former.
-/

set_option autoImplicit false

namespace L7Proxy

open Interaction CircuitBreaker Polling

inductive CheckerTask where
  | spawned (since : Instant)
  | looping (upstreams : List String) (phase : Phase String Instant)
  deriving DecidableEq

structure HealthChecker where
  config : HealthCheckConfig
  task : CheckerTask
  deriving DecidableEq

def spawnActiveHealthChecker (config : Config) (now : Instant) : Option HealthChecker :=
  config.server.healthCheck.map fun healthCheck => ⟨healthCheck, .spawned now⟩

/-- The loop of the checker as a poller. -/
def HealthCheckConfig.poller (config : HealthCheckConfig) (upstreams : List String) : Poller String Instant :=
  ⟨upstreams, config.intervalSecs⟩

def HealthCheckConfig.url (config : HealthCheckConfig) (upstream : String) : String :=
  upstream ++ config.path

def Action.isProbe : Action → Bool
  | .probe _ _ => true
  | _ => false

def probeSeen : Instant × Happening → Option (Instant × String)
  | (now, .probe upstream _) => some (now, upstream)
  | _ => none

/-- The proxy and its health checker. -/
structure Checked where
  system : System
  checker : Option HealthChecker

inductive CheckedAction where
  | proxy (action : Action)
  | collect (upstreams : List String)
  | wake
  /-- The request for a URL is answered, or fails or times out. -/
  | answered (url : String) (status : Option StatusCode)
  deriving DecidableEq

def System.probing (system : System) (upstreams : List String) : System :=
  { system with probed := upstreams }

namespace Checked

def initial (externals : Externals) (config : Config) (now : Instant) : Checked :=
  ⟨(System.initial externals config now).probing [], spawnActiveHealthChecker config now⟩

/-- The upstreams come out of a hash set, in any order. -/
def step (externals : Externals) (checked : Checked) : CheckedAction → Option Checked
  | .proxy action =>
      if action.isProbe then none
      else (checked.system.step externals action).map fun system => { checked with system := system }
  | .collect upstreams =>
      match checked.checker with
      | some ⟨config, .spawned _⟩ =>
          if upstreams.Perm (checked.system.app.config.value.routes.flatMap (·.upstream)).dedup then
            some ⟨checked.system.probing upstreams,
              some ⟨config, .looping upstreams (.sleeping (checked.system.clock + config.intervalSecs))⟩⟩
          else none
      | _ => none
  | .wake =>
      match checked.checker with
      | some ⟨config, .looping upstreams (.sleeping due)⟩ =>
          if due ≤ checked.system.clock then
            some ⟨checked.system,
              some ⟨config, .looping upstreams (.resume config.intervalSecs checked.system.clock upstreams)⟩⟩
          else none
      | _ => none
  | .answered url status =>
      match checked.checker with
      | some ⟨config, .looping upstreams (.polling _ upstream rest)⟩ =>
          if url = config.url upstream then
            (checked.system.step externals (.probe upstream status)).map fun system =>
              ⟨system, some ⟨config, .looping upstreams (.resume config.intervalSecs checked.system.clock rest)⟩⟩
          else none
      | _ => none

/-- The upstream that is being probed. -/
def target (checked : Checked) : Option String :=
  match checked.checker with
  | some ⟨_, .looping _ (.polling _ upstream _)⟩ => some upstream
  | _ => none

/-- What the proxy does at an action. -/
def proxyAction (checked : Checked) : CheckedAction → List Action
  | .proxy action => [action]
  | .answered _ status => (checked.target.map fun upstream => .probe upstream status).toList
  | _ => []

def proxyActions (externals : Externals) (start : Checked) (actions : List CheckedAction) : List Action :=
  observations (step externals) proxyAction start actions

/-- What an action does that others can notice, at the reading of the clock. -/
def happens (externals : Externals) (checked : Checked) (action : CheckedAction) : List (Instant × Happening) :=
  (checked.proxyAction action).flatMap (checked.system.happens externals)

def timeline (externals : Externals) (start : Checked) (actions : List CheckedAction) : List (Instant × Happening) :=
  observations (step externals) (happens externals) start actions

/-- The probes of a run, with the times of their reports. -/
def probes (externals : Externals) (start : Checked) (actions : List CheckedAction) : List (Instant × String) :=
  (timeline externals start actions).filterMap probeSeen

/-- The calls of the health tracker in a run, by its requests and by the checker. -/
def healthCalls (externals : Externals) (start : Checked) (actions : List CheckedAction) : List HealthCall :=
  (timeline externals start actions).filterMap healthSeen

/-!
## One step
-/

inductive Stepped (externals : Externals) (checked : Checked) : CheckedAction → Checked → Prop where
  | proxied {action : Action} {system : System} (free : action.isProbe = false)
      (stepped : checked.system.step externals action = some system) :
      Stepped externals checked (.proxy action) { checked with system := system }
  | collected {config : HealthCheckConfig} {since : Instant} {upstreams : List String}
      (spawned : checked.checker = some ⟨config, .spawned since⟩)
      (found : upstreams.Perm (checked.system.app.config.value.routes.flatMap (·.upstream)).dedup) :
      Stepped externals checked (.collect upstreams) ⟨checked.system.probing upstreams,
        some ⟨config, .looping upstreams (.sleeping (checked.system.clock + config.intervalSecs))⟩⟩
  | woken {config : HealthCheckConfig} {upstreams : List String} {due : Instant}
      (sleeping : checked.checker = some ⟨config, .looping upstreams (.sleeping due)⟩)
      (elapsed : due ≤ checked.system.clock) :
      Stepped externals checked .wake ⟨checked.system,
        some ⟨config, .looping upstreams (.resume config.intervalSecs checked.system.clock upstreams)⟩⟩
  | reported {config : HealthCheckConfig} {upstreams rest : List String} {started : Instant} {upstream : String}
      {status : Option StatusCode} {system : System}
      (polling : checked.checker = some ⟨config, .looping upstreams (.polling started upstream rest)⟩)
      (stepped : checked.system.step externals (.probe upstream status) = some system) :
      Stepped externals checked (.answered (config.url upstream) status) ⟨system,
        some ⟨config, .looping upstreams (.resume config.intervalSecs checked.system.clock rest)⟩⟩

variable {externals : Externals} {checked after final : Checked} {action : CheckedAction}
  {actions : List CheckedAction}

theorem step_cases (stepped : checked.step externals action = some after) :
    Stepped externals checked action after := by
  cases action with
  | proxy action =>
      simp only [step] at stepped
      split at stepped
      · cases stepped
      · next free =>
          obtain ⟨system, reached, same⟩ := Option.map_eq_some_iff.mp stepped
          subst same
          exact .proxied (Bool.eq_false_iff.mpr free) reached
  | collect upstreams =>
      simp only [step] at stepped
      split at stepped
      · next config since spawned =>
          split at stepped <;> cases stepped
          next found => exact .collected spawned found
      · cases stepped
  | wake =>
      simp only [step] at stepped
      split at stepped
      · next config upstreams due sleeping =>
          split at stepped <;> cases stepped
          next elapsed => exact .woken sleeping elapsed
      · cases stepped
  | answered url status =>
      simp only [step] at stepped
      split at stepped
      · next config upstreams started upstream rest polling =>
          split at stepped
          · next same =>
              obtain ⟨system, reached, same⟩ := Option.map_eq_some_iff.mp stepped
              subst same
              subst url
              exact .reported polling reached
          · cases stepped
      · cases stepped

end Checked

/-!
## The proxy underneath
-/

namespace System

variable {externals : Externals} {system after : System} {action : Action}

theorem step_probed (stepped : system.step externals action = some after) : after.probed = system.probed := by
  cases step_cases stepped <;> rfl

/-- Only the probes depend on the upstreams that are probed. -/
theorem step_probing (free : action.isProbe = false) (upstreams : List String) :
    (system.probing upstreams).step externals action =
      (system.step externals action).map fun after => after.probing upstreams := by
  cases action with
  | probe upstream status => cases free
  | arrive req remoteIp => rfl
  | poll index input =>
      simp only [step, poll, probing]
      cases system.tasks[index]? with
      | none => rfl
      | some task =>
          obtain ⟨request, arrived, history, rest, status⟩ := task
          cases status with
          | live =>
              cases rest with
              | done result => rfl
              | act effect next =>
                  simp only [Option.bind_eq_bind, Option.bind_some]
                  cases system.app.perform externals system.clock effect input <;> rfl
          | refused | timedOut | dropped => rfl
  | timeOut index =>
      simp only [step, timeOut, probing]
      cases system.tasks[index]? with
      | none => rfl
      | some task =>
          cases pending : task.pending with
          | none => simp [pending]
          | some effect =>
              simp only [Option.bind_eq_bind, Option.bind_some, pending]
              split
              · next late => exact if_pos late
              · next early => exact if_neg early
  | drop index =>
      simp only [step, drop, probing]
      cases system.tasks[index]? with
      | none => rfl
      | some task =>
          cases pending : task.pending with
          | none => simp [pending]
          | some effect =>
              simp only [Option.bind_eq_bind, Option.bind_some, pending]
              cases system.app.abandon system.clock effect <;> rfl
  | reload config =>
      simp only [step, reload, probing]
      cases system.reloader <;> rfl
  | storeRouter | storeConfig =>
      simp only [step, probing]
      cases system.reloader <;> rfl
  | tick elapsed =>
      simp only [step, probing]
      by_cases forward : 0 ≤ elapsed
      · rw [if_pos forward, if_pos forward]
        rfl
      · rw [if_neg forward, if_neg forward]
        rfl

theorem step_probe {upstream : String} {status : Option StatusCode} :
    system.step externals (.probe upstream status) = some after ↔
      upstream ∈ system.probed ∧
        after = { system with app := system.app.probe upstream status system.clock } := by
  simp only [step]
  split
  · next listed => simp [listed, eq_comm]
  · next unlisted => simp [unlisted]

end System

namespace Checked

/-- The upstreams in the order in which they are probed, once they are collected. -/
def upstreams (checked : Checked) : List String :=
  match checked.checker with
  | some ⟨_, .looping upstreams _⟩ => upstreams
  | _ => []

variable {externals : Externals} {checked after start final : Checked} {action : CheckedAction}
  {actions : List CheckedAction}

/-- What the checker probes are the upstreams of one configuration built so far. -/
structure Valid (config : Config) (now : Instant) (checked : Checked) : Prop where
  logged : checked.system.Logged
  probed : checked.system.probed = checked.upstreams
  settings : checked.checker.map (·.config) = config.server.healthCheck
  spawned : ∀ checker since, checked.checker = some ⟨checker, .spawned since⟩ → since = now
  found : ∀ checker upstreams phase, checked.checker = some ⟨checker, .looping upstreams phase⟩ →
    ∃ built ∈ checked.system.applied, upstreams.Perm (checkedUpstreams config built.1)

theorem initial_valid (externals : Externals) (config : Config) (now : Instant) :
    (initial externals config now).Valid config now := by
  have logged := @System.initial_logged externals config now
  cases configured : config.server.healthCheck with
  | none =>
      have checker : (initial externals config now).checker = none := by
        rw [initial, spawnActiveHealthChecker, configured]
        rfl
      refine ⟨⟨logged.config, logged.router, logged.reloader⟩, ?_, ?_, ?_, ?_⟩
      · rw [upstreams, checker]
        rfl
      · rw [checker, configured]
        rfl
      · intro other since spawned
        cases checker.symm.trans spawned
      · intro other upstreams phase looping
        cases checker.symm.trans looping
  | some healthCheck =>
      have checker : (initial externals config now).checker = some ⟨healthCheck, .spawned now⟩ := by
        rw [initial, spawnActiveHealthChecker, configured]
        rfl
      refine ⟨⟨logged.config, logged.router, logged.reloader⟩, ?_, ?_, ?_, ?_⟩
      · rw [upstreams, checker]
        rfl
      · rw [checker, configured]
        rfl
      · intro other since spawned
        cases checker.symm.trans spawned
        rfl
      · intro other upstreams phase looping
        cases checker.symm.trans looping

theorem Valid.step {config : Config} {now : Instant} (valid : checked.Valid config now)
    (stepped : checked.step externals action = some after) : after.Valid config now := by
  have settings := valid.settings
  cases step_cases stepped with
  | @proxied action system free moved =>
      have pointers := valid.logged.step moved
      refine ⟨pointers.logged, (System.step_probed moved).trans valid.probed, settings, valid.spawned, ?_⟩
      intro checker upstreams phase looping
      obtain ⟨built, member, all⟩ := valid.found checker upstreams phase looping
      exact ⟨built, pointers.grows.subset member, all⟩
  | @collected checker since upstreams spawned found =>
      have logged := valid.logged
      rw [spawned] at settings
      refine ⟨⟨logged.config, logged.router, logged.reloader⟩, rfl, settings, ?_, ?_⟩
      · intro other since looping
        cases looping
      · intro other collected phase same
        cases same
        obtain ⟨built, stored, value⟩ := logged.config
        refine ⟨built, List.mem_of_getElem? stored, ?_⟩
        rw [checkedUpstreams, ← settings, ← value]
        exact found
  | @woken checker upstreams due sleeping elapsed =>
      rw [sleeping] at settings
      refine ⟨valid.logged, ?_, settings, ?_, ?_⟩
      · have collected := valid.probed
        rw [Checked.upstreams, sleeping] at collected
        exact collected
      · intro other since looping
        cases looping
      · intro other collected phase same
        cases same
        exact valid.found _ _ _ sleeping
  | @reported checker upstreams rest started upstream status system polling probed =>
      have pointers := valid.logged.step probed
      rw [polling] at settings
      refine ⟨pointers.logged, ?_, settings, ?_, ?_⟩
      · have collected := valid.probed
        rw [Checked.upstreams, polling] at collected
        exact (System.step_probed probed).trans collected
      · intro other since looping
        cases looping
      · intro other collected phase same
        cases same
        obtain ⟨built, member, all⟩ := valid.found _ _ _ polling
        exact ⟨built, pointers.grows.subset member, all⟩

theorem step_upstreams (stepped : checked.step externals action = some after) :
    checked.upstreams ⊆ after.upstreams := by
  cases step_cases stepped with
  | proxied => exact List.Subset.refl _
  | collected spawned found =>
      rw [upstreams, spawned]
      exact List.nil_subset _
  | woken sleeping elapsed =>
      rw [upstreams, sleeping]
      exact List.Subset.refl _
  | reported polling stepped =>
      rw [upstreams, polling]
      exact List.Subset.refl _

/-- A step is what the proxy does at it, for a proxy whose probes come anyhow. -/
theorem step_probing {config : Config} {now : Instant} (valid : checked.Valid config now)
    (stepped : checked.step externals action = some after) {upstreams : List String}
    (all : after.upstreams ⊆ upstreams) :
    execute (System.step externals) (checked.system.probing upstreams) (checked.proxyAction action) =
      some (after.system.probing upstreams) := by
  have listed := List.Subset.trans (step_upstreams stepped) all
  cases step_cases stepped with
  | @proxied action system free moved =>
      refine execute_cons.mpr ⟨system.probing upstreams, ?_, rfl⟩
      rw [System.step_probing free, moved]
      rfl
  | collected | woken => rfl
  | @reported checker order rest started upstream status system polling probed =>
      obtain ⟨member, same⟩ := System.step_probe.mp probed
      have target : checked.target = some upstream := by rw [Checked.target, polling]
      rw [proxyAction, target]
      refine execute_cons.mpr ⟨system.probing upstreams, System.step_probe.mpr ⟨?_, ?_⟩, rfl⟩
      · exact listed (valid.probed ▸ member)
      · rw [same]
        rfl

theorem execute_valid {config : Config} {now : Instant}
    (executed : execute (step externals) (.initial externals config now) actions = some final) :
    final.Valid config now :=
  execute_preserves (Valid config now) (fun _ _ _ valid stepped => valid.step stepped)
    (initial_valid externals config now) executed

theorem execute_probing {config : Config} {now : Instant}
    (executed : execute (step externals) (.initial externals config now) actions = some final)
    {upstreams : List String} (all : final.upstreams ⊆ upstreams) :
    execute (System.step externals) ((System.initial externals config now).probing upstreams)
        (proxyActions externals (.initial externals config now) actions) =
      some (final.system.probing upstreams) := by
  induction actions using List.reverseRecOn generalizing final with
  | nil =>
      cases executed
      rfl
  | append_singleton actions action ih =>
      obtain ⟨before, reached, single⟩ := execute_append.mp executed
      obtain ⟨after, stepped, finished⟩ := execute_cons.mp single
      cases finished
      rw [proxyActions, observations_concat reached stepped]
      exact execute_append.mpr ⟨_, ih reached (List.Subset.trans (step_upstreams stepped) all),
        step_probing (execute_valid reached) stepped all⟩

/-- With its checker's loop the proxy runs as one whose checker, having found one of the
configurations, probes its upstreams in any order and at any times. -/
theorem runs_as_proxy {config : Config} {now : Instant}
    (executed : execute (step externals) (.initial externals config now) actions = some final) :
    ∃ built ∈ final.system.applied, final.upstreams ⊆ checkedUpstreams config built.1 ∧
      execute (System.step externals) (.started externals config ⟨config, built.1⟩ now)
          (proxyActions externals (.initial externals config now) actions) =
        some (final.system.probing (checkedUpstreams config built.1)) := by
  have valid := execute_valid executed
  have collected : ∃ built ∈ final.system.applied, final.upstreams ⊆ checkedUpstreams config built.1 := by
    obtain ⟨built, stored, _⟩ := valid.logged.config
    unfold upstreams
    split
    · next checker order phase looping =>
        obtain ⟨found, member, all⟩ := valid.found checker order phase looping
        exact ⟨found, member, all.subset⟩
    · exact ⟨built, List.mem_of_getElem? stored, List.nil_subset _⟩
  obtain ⟨built, member, all⟩ := collected
  exact ⟨built, member, all, execute_probing executed all⟩

def checkedConfig : Config :=
  { twoUpstreamsConfig with
    server := { twoUpstreamsConfig.server with failureThreshold := 1, healthCheck := some {} } }

/-- One upstream answers, the other does not. -/
def firstRound : List CheckedAction :=
  [.collect ["http://10.0.0.2:9002", "http://10.0.0.1:9001"], .proxy (.tick 10), .wake,
    .answered "http://10.0.0.2:9002/health" (some .ok), .proxy (.tick 1),
    .answered "http://10.0.0.1:9001/health" none]

theorem runs_as_proxy_first :
    ∃ final, execute (step sampleExternals) (.initial sampleExternals checkedConfig 0) firstRound = some final ∧
      ∃ built ∈ final.system.applied, final.upstreams ⊆ checkedUpstreams checkedConfig built.1 ∧
        execute (System.step sampleExternals) (.started sampleExternals checkedConfig ⟨checkedConfig, built.1⟩ 0)
            (proxyActions sampleExternals (.initial sampleExternals checkedConfig 0) firstRound) =
          some (final.system.probing (checkedUpstreams checkedConfig built.1)) := by
  have run : ∃ final, execute (step sampleExternals) (.initial sampleExternals checkedConfig 0) firstRound =
      some final := Option.isSome_iff_exists.mp (by decide +kernel)
  obtain ⟨final, executed⟩ := run
  exact ⟨final, executed, runs_as_proxy executed⟩

/-- What the loop shows, the proxy underneath shows. -/
theorem timeline_eq {config : Config} {now : Instant}
    (executed : execute (step externals) (.initial externals config now) actions = some final)
    {upstreams : List String} (all : final.upstreams ⊆ upstreams) :
    System.timeline externals ((System.initial externals config now).probing upstreams)
        (proxyActions externals (.initial externals config now) actions) =
      timeline externals (.initial externals config now) actions := by
  induction actions using List.reverseRecOn generalizing final with
  | nil => rfl
  | append_singleton actions action ih =>
      obtain ⟨before, reached, single⟩ := execute_append.mp executed
      obtain ⟨after, stepped, finished⟩ := execute_cons.mp single
      cases finished
      have earlier := List.Subset.trans (step_upstreams stepped) all
      have shown : System.timeline externals (before.system.probing upstreams) (before.proxyAction action) =
          before.happens externals action := by
        cases action with
        | proxy action => exact (observations_single ..).trans (List.append_nil _).symm
        | collect | wake => rfl
        | answered url status =>
            rw [happens, proxyAction]
            cases before.target with
            | none => rfl
            | some upstream => exact observations_single ..
      rw [proxyActions, observations_concat reached stepped, ← proxyActions, System.timeline,
        observations_append (execute_probing reached earlier), timeline, observations_concat reached stepped, ← shown]
      exact congrArg (· ++ _) (ih reached earlier)

end Checked

end L7Proxy
