import L7Proxy.Proxy.RetryLoop
import L7Proxy.System.Tasks

/-!
# Snapshots and reloads

The reloader stores the router of a new configuration before the configuration; a
request loads the configuration before the router. Its pair of snapshots belongs to
one configuration exactly when neither load falls behind the store it pairs with.
-/

set_option autoImplicit false

namespace L7Proxy

open Interaction

namespace System

variable {externals : Externals} {system after : System}

/-- The pair comes from one configuration built so far: the router is the one built
from exactly that configuration. -/
def Coherent (system : System) (config : Arc Config) (router : Arc Router) : Prop :=
  ∃ generation built, system.applied[generation]? = some built ∧
    config = ⟨generation, built.1⟩ ∧ router = ⟨generation, built.1.router built.2⟩

def LoggedConfig (system : System) (config : Arc Config) : Prop :=
  ∃ built, system.applied[config.generation]? = some built ∧ config.value = built.1

def LoggedRouter (system : System) (router : Arc Router) : Prop :=
  ∃ built, system.applied[router.generation]? = some built ∧ router.value = built.1.router built.2

/-- Where the reloader stands, relative to the two stored pointers. -/
def ReloaderConsistent (system : System) : Prop :=
  match system.reloader with
  | .idle => system.app.router.generation = system.app.config.generation ∧
      system.applied.length = system.app.config.generation + 1
  | .built router config => system.app.router.generation = system.app.config.generation ∧
      router.generation = system.app.config.generation + 1 ∧
      config.generation = system.app.config.generation + 1 ∧
      system.applied.length = system.app.config.generation + 2 ∧
      system.LoggedRouter router ∧ system.LoggedConfig config
  | .routerStored config => system.app.router.generation = system.app.config.generation + 1 ∧
      config.generation = system.app.config.generation + 1 ∧
      system.applied.length = system.app.config.generation + 2 ∧ system.LoggedConfig config

structure Logged (system : System) : Prop where
  config : system.LoggedConfig system.app.config
  router : system.LoggedRouter system.app.router
  reloader : system.ReloaderConsistent

theorem Coherent.generation {config : Arc Config} {router : Arc Router}
    (coherent : system.Coherent config router) : config.generation = router.generation := by
  obtain ⟨generation, built, _, sameConfig, sameRouter⟩ := coherent
  rw [sameConfig, sameRouter]

theorem coherent_iff {config : Arc Config} {router : Arc Router} (loggedConfig : system.LoggedConfig config)
    (loggedRouter : system.LoggedRouter router) :
    system.Coherent config router ↔ config.generation = router.generation := by
  constructor
  · exact Coherent.generation
  · intro same
    obtain ⟨built, found, value⟩ := loggedConfig
    obtain ⟨other, otherFound, otherValue⟩ := loggedRouter
    rw [← same, found, Option.some.injEq] at otherFound
    subst otherFound
    refine ⟨config.generation, built, found, ?_, ?_⟩
    · rw [← value]
    · rw [same, ← otherValue]

private theorem getElem?_of_prefix {α : Type} {before after : List α} {index : Nat} {entry : α}
    (grows : before <+: after) (found : before[index]? = some entry) : after[index]? = some entry := by
  obtain ⟨rest, rfl⟩ := grows
  rw [List.getElem?_append_left (List.getElem?_eq_some_iff.mp found).1, found]

theorem LoggedConfig.mono {config : Arc Config} (logged : system.LoggedConfig config)
    (grows : system.applied <+: after.applied) : after.LoggedConfig config := by
  obtain ⟨built, found, value⟩ := logged
  exact ⟨built, getElem?_of_prefix grows found, value⟩

theorem LoggedRouter.mono {router : Arc Router} (logged : system.LoggedRouter router)
    (grows : system.applied <+: after.applied) : after.LoggedRouter router := by
  obtain ⟨built, found, value⟩ := logged
  exact ⟨built, getElem?_of_prefix grows found, value⟩

structure PointerStep (system after : System) (action : Action) : Prop where
  logged : after.Logged
  grows : system.applied <+: after.applied
  router : after.app.router.generation =
    system.app.router.generation + if action = .storeRouter then 1 else 0

theorem Logged.keep (logged : system.Logged) {action : Action} (other : action ≠ .storeRouter)
    (config : after.app.config = system.app.config) (router : after.app.router = system.app.router)
    (reloader : after.reloader = system.reloader) (applied : after.applied = system.applied) :
    PointerStep system after action := by
  have before := logged.reloader
  refine ⟨⟨?_, ?_, ?_⟩, ?_, ?_⟩
  · rw [LoggedConfig, config, applied]
    exact logged.config
  · rw [LoggedRouter, router, applied]
    exact logged.router
  · unfold ReloaderConsistent LoggedRouter LoggedConfig at before ⊢
    rw [config, router, reloader, applied]
    exact before
  · exact applied ▸ List.prefix_refl _
  · rw [if_neg other, router, Nat.add_zero]

theorem Logged.step {action : Action} (logged : system.Logged)
    (stepped : system.step externals action = some after) : PointerStep system after action := by
  have reloader := logged.reloader
  unfold ReloaderConsistent at reloader
  cases step_cases stepped with
  | arrived | probed | ticked => exact logged.keep (by simp) rfl rfl rfl rfl
  | moved stored moves =>
      cases moves with
      | polled live rest performed =>
          obtain ⟨config, router, _⟩ := perform_cases performed
          exact logged.keep (by simp) config router rfl rfl
      | timedOut | dropped => exact logged.keep (by simp) rfl rfl rfl rfl
  | built config idle =>
      rw [idle] at reloader
      have grows : system.applied <+: system.applied ++ [(config, system.app.balancers.length)] :=
        List.prefix_append _ _
      have latest : (system.applied ++ [(config, system.app.balancers.length)])[system.applied.length]? =
          some (config, system.app.balancers.length) := List.getElem?_concat_length
      refine ⟨⟨logged.config.mono grows, logged.router.mono grows, ?_⟩, grows, rfl⟩
      refine ⟨reloader.1, reloader.2, reloader.2, ?_, ⟨_, latest, rfl⟩, ⟨_, latest, rfl⟩⟩
      rw [List.length_append, reloader.2]
      rfl
  | routerStored built =>
      rw [built] at reloader
      obtain ⟨same, routerNext, configNext, length, loggedRouter, loggedConfig⟩ := reloader
      refine ⟨⟨logged.config, loggedRouter, ?_⟩, List.prefix_refl _, ?_⟩
      · exact ⟨routerNext, configNext, length, loggedConfig⟩
      · rw [if_pos rfl, same]
        exact routerNext
  | configStored stored =>
      rw [stored] at reloader
      obtain ⟨routerNext, configNext, length, loggedConfig⟩ := reloader
      refine ⟨⟨loggedConfig, logged.router, ?_⟩, List.prefix_refl _, rfl⟩
      refine ⟨routerNext.trans configNext.symm, ?_⟩
      simp only [AppState.storeConfig]
      omega

theorem initial_logged (config : Config) (now : Instant) : (initial externals config now).Logged :=
  ⟨⟨(config, 0), rfl, rfl⟩, ⟨(config, 0), rfl, rfl⟩, ⟨rfl, rfl⟩⟩

/-- A run stores as many routers as its actions say, one generation after the other. -/
theorem execute_pointers {start final : System} {actions : List Action} (logged : start.Logged)
    (executed : execute (step externals) start actions = some final) :
    final.Logged ∧ start.applied <+: final.applied ∧
      final.app.router.generation = start.app.router.generation + actions.count .storeRouter := by
  induction actions generalizing start with
  | nil =>
      cases executed
      exact ⟨logged, List.prefix_refl _, rfl⟩
  | cons action actions ih =>
      obtain ⟨middle, stepped, rest⟩ := execute_cons.mp executed
      have first := logged.step stepped
      obtain ⟨loggedFinal, grows, generation⟩ := ih first.logged rest
      refine ⟨loggedFinal, first.grows.trans grows, ?_⟩
      rw [generation, first.router, List.count_cons]
      simp only [beq_iff_eq]
      omega

/-!
## The snapshots of a request
-/

/-- In the run the task loads the configuration in one state and the router in a later
one, with the given actions between the two loads. -/
structure TakesSnapshots (externals : Externals) (start : System) (actions : List Action) (index : Nat)
    (atConfig : System) (between : List Action) (atRouter : System) : Prop where
  loads : ∃ before after middle final,
    actions = before ++ .poll index .none :: (between ++ .poll index .none :: after) ∧
    execute (step externals) start before = some atConfig ∧
    step externals atConfig (.poll index .none) = some middle ∧
    execute (step externals) middle between = some atRouter ∧
    step externals atRouter (.poll index .none) = some final
  config : atConfig.tasks[index]?.bind Task.pending = some .loadConfig
  router : atRouter.tasks[index]?.bind Task.pending = some .loadRouter

/-- The snapshots a request takes come from one configuration exactly when it loads
the configuration outside of the reloader's two stores and no router is stored
between its two loads. -/
theorem snapshots_coherent_iff {externals : Externals} {config : Config} {now : Instant}
    {actions between : List Action} {index : Nat} {atConfig atRouter : System}
    (snapshots : TakesSnapshots externals (.initial externals config now) actions index atConfig between
      atRouter) :
    atRouter.Coherent atConfig.app.config atRouter.app.router ↔
      (∀ stored, atConfig.reloader ≠ .routerStored stored) ∧ .storeRouter ∉ between := by
  obtain ⟨before, after, middle, final, rfl, reached, loaded, continued, _⟩ := snapshots.loads
  have first := (execute_pointers (initial_logged config now) reached).1
  have second := first.step loaded
  obtain ⟨last, grows, generation⟩ := execute_pointers second.logged continued
  have loggedConfig := first.config.mono (second.grows.trans grows)
  rw [coherent_iff loggedConfig last.router, generation, second.router, if_neg nofun, Nat.add_zero]
  have reloader := first.reloader
  unfold ReloaderConsistent at reloader
  have level : atConfig.app.router.generation = atConfig.app.config.generation →
      (atConfig.app.config.generation = atConfig.app.router.generation + between.count .storeRouter ↔
        .storeRouter ∉ between) := by
    intro same
    rw [same, ← List.count_eq_zero]
    omega
  cases place : atConfig.reloader with
  | idle =>
      rw [place] at reloader
      rw [level reloader.1]
      exact (and_iff_right fun stored => nofun).symm
  | built router built =>
      rw [place] at reloader
      rw [level reloader.1]
      exact (and_iff_right fun stored => nofun).symm
  | routerStored stored =>
      rw [place] at reloader
      refine iff_of_false ?_ fun quiet => quiet.1 stored rfl
      rw [reloader.1]
      omega

def firstConfig : Config :=
  { server := { requestTimeoutSecs := 1, maxRetries := 0 }
    routes := [{ routePrefix := "/", upstream := ["http://10.0.0.1:9001"] }] }

def secondConfig : Config :=
  { server := { requestTimeoutSecs := 60, maxRetries := 2 }
    routes := [{ routePrefix := "/", upstream := ["http://10.0.0.2:9001"] }] }

/-- A request loads its configuration; a reload has only built its router by the time
the request loads the router. -/
def reloadAroundLoads : List Action :=
  [.arrive plainRequest plainClient, .poll 0 .none, .poll 0 (.uuid plainId), .poll 0 .none,
    .reload secondConfig, .poll 0 .none]

/-- The same with the new router stored between the two loads. -/
def reloadBetweenLoads : List Action :=
  [.arrive plainRequest plainClient, .poll 0 .none, .poll 0 (.uuid plainId), .poll 0 .none,
    .reload secondConfig, .storeRouter, .poll 0 .none]

theorem snapshots_coherent_iff_built :
    ∃ atConfig atRouter,
      TakesSnapshots sampleExternals (.initial sampleExternals firstConfig 0) reloadAroundLoads 0 atConfig
        [.reload secondConfig] atRouter ∧
      atRouter.Coherent atConfig.app.config atRouter.app.router := by
  have taken : ∃ atConfig atRouter,
      TakesSnapshots sampleExternals (.initial sampleExternals firstConfig 0) reloadAroundLoads 0 atConfig
        [.reload secondConfig] atRouter ∧ atConfig.reloader = .idle :=
    ⟨_, _, ⟨⟨[.arrive plainRequest plainClient, .poll 0 .none, .poll 0 (.uuid plainId)],
      [], _, _, rfl, rfl, rfl, rfl, rfl⟩, rfl, rfl⟩, rfl⟩
  obtain ⟨atConfig, atRouter, snapshots, idle⟩ := taken
  have outside : ∀ stored, atConfig.reloader ≠ .routerStored stored := by simp [idle]
  exact ⟨atConfig, atRouter, snapshots, (snapshots_coherent_iff snapshots).mpr ⟨outside, by decide⟩⟩

/-- A request loads the first configuration, the reloader stores the second router,
and the request loads that one. -/
theorem reload_mixes_snapshots :
    ∃ atConfig atRouter,
      TakesSnapshots sampleExternals (.initial sampleExternals firstConfig 0) reloadBetweenLoads 0 atConfig
        [.reload secondConfig, .storeRouter] atRouter ∧
      atConfig.app.config.value = firstConfig ∧ atRouter.app.router.value = secondConfig.router 1 ∧
      ¬ atRouter.Coherent atConfig.app.config atRouter.app.router := by
  have taken : ∃ atConfig atRouter,
      TakesSnapshots sampleExternals (.initial sampleExternals firstConfig 0) reloadBetweenLoads 0 atConfig
        [.reload secondConfig, .storeRouter] atRouter ∧
      atConfig.app.config = ⟨0, firstConfig⟩ ∧ atRouter.app.router = ⟨1, secondConfig.router 1⟩ :=
    ⟨_, _, ⟨⟨[.arrive plainRequest plainClient, .poll 0 .none, .poll 0 (.uuid plainId)],
      [], _, _, rfl, rfl, rfl, rfl, rfl⟩, rfl, rfl⟩, rfl, rfl⟩
  obtain ⟨atConfig, atRouter, snapshots, config, router⟩ := taken
  refine ⟨atConfig, atRouter, snapshots, by rw [config], by rw [router], fun coherent => ?_⟩
  have same := coherent.generation
  rw [config, router] at same
  exact absurd same (by decide)

end System

end L7Proxy
