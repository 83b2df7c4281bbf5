import L7Proxy.Library.Refresh
import L7Proxy.System.Reload

/-!
# The reloader's loop

The reloader listens for hangups, waits for one, reads the configuration file and applies
what it parses to. Hangups that come while it works are remembered, any number of them as
one. None that comes once it listens is lost, and a file that cannot be read or parsed
changes nothing.
-/

set_option autoImplicit false

namespace L7Proxy

open Interaction

/-- The deserializer of the configuration. -/
abbrev ConfigParser := String → Option Config

/-- The proxy with the file of its configuration, whether the reloader listens for hangups,
and whether one waits to be received or has been received for which the file is yet to be
read. -/
structure Reloading where
  system : System
  file : Option String
  listening : Bool
  hungUp : Bool
  received : Bool

inductive ReloadingAction where
  | proxy (action : Action)
  | edit (contents : Option String)
  | listen
  | hangUp
  | receive
  | read
  | store
  deriving DecidableEq

/-- The steps of the reloader itself. -/
def ReloadingAction.isOwn : ReloadingAction → Bool
  | .listen | .receive | .read | .store => true
  | _ => false

def Action.appliesConfig : Action → Bool
  | .reload _ | .storeRouter | .storeConfig => true
  | _ => false

namespace Reloading

def initial (externals : Externals) (config : Config) (file : Option String) (now : Instant) : Reloading :=
  ⟨.initial externals config now, file, false, false, false⟩

/-- The configuration that `reload_config` reads. -/
def readConfig (parse : ConfigParser) (file : Option String) : Option Config := file.bind parse

/-- The next store of `apply_config`. -/
def storing (reloading : Reloading) : Option Action :=
  match reloading.system.reloader with
  | .idle => none
  | .built _ _ => some .storeRouter
  | .routerStored _ => some .storeConfig

def step (externals : Externals) (parse : ConfigParser) (reloading : Reloading) :
    ReloadingAction → Option Reloading
  | .proxy action =>
      if action.appliesConfig then none
      else (reloading.system.step externals action).map fun system => { reloading with system := system }
  | .edit contents => some { reloading with file := contents }
  | .listen => if reloading.listening then none else some { reloading with listening := true }
  -- a hangup that finds no handler ends the process, and with it the run
  | .hangUp => if reloading.listening then some { reloading with hungUp := true } else none
  | .receive =>
      if reloading.hungUp ∧ ¬ reloading.received ∧ reloading.system.reloader = .idle then
        some { reloading with hungUp := false, received := true }
      else none
  | .read =>
      if reloading.received then
        match readConfig parse reloading.file with
        | none => some { reloading with received := false }
        | some config => (reloading.system.step externals (.reload config)).map fun system =>
            { reloading with system := system, received := false }
      else none
  | .store => do
      let action ← reloading.storing
      let system ← reloading.system.step externals action
      some { reloading with system := system }

/-- What the proxy does at an action. -/
def proxyAction (parse : ConfigParser) (reloading : Reloading) : ReloadingAction → List Action
  | .proxy action => [action]
  | .read => ((readConfig parse reloading.file).map .reload).toList
  | .store => reloading.storing.toList
  | _ => []

def proxyActions (externals : Externals) (parse : ConfigParser) (start : Reloading)
    (actions : List ReloadingAction) : List Action :=
  observations (step externals parse) (proxyAction parse) start actions

/-!
## One step
-/

inductive Stepped (externals : Externals) (parse : ConfigParser) (reloading : Reloading) :
    ReloadingAction → Reloading → Prop where
  | proxied {action : Action} {system : System} (free : action.appliesConfig = false)
      (stepped : reloading.system.step externals action = some system) :
      Stepped externals parse reloading (.proxy action) { reloading with system := system }
  | edited (contents : Option String) :
      Stepped externals parse reloading (.edit contents) { reloading with file := contents }
  | listened (deaf : reloading.listening = false) :
      Stepped externals parse reloading .listen { reloading with listening := true }
  | hungUp (listening : reloading.listening = true) :
      Stepped externals parse reloading .hangUp { reloading with hungUp := true }
  | received (hungUp : reloading.hungUp = true) (free : reloading.received = false)
      (idle : reloading.system.reloader = .idle) :
      Stepped externals parse reloading .receive { reloading with hungUp := false, received := true }
  | unreadable (received : reloading.received = true) (unread : readConfig parse reloading.file = none) :
      Stepped externals parse reloading .read { reloading with received := false }
  | applied {config : Config} {system : System} (received : reloading.received = true)
      (found : readConfig parse reloading.file = some config)
      (built : reloading.system.step externals (.reload config) = some system) :
      Stepped externals parse reloading .read { reloading with system := system, received := false }
  | stored {action : Action} {system : System} (next : reloading.storing = some action)
      (stored : reloading.system.step externals action = some system) :
      Stepped externals parse reloading .store { reloading with system := system }

variable {externals : Externals} {parse : ConfigParser} {reloading after start final : Reloading}
  {action : ReloadingAction} {actions : List ReloadingAction}

theorem step_cases (stepped : reloading.step externals parse action = some after) :
    Stepped externals parse reloading action after := by
  cases action with
  | proxy action =>
      simp only [step] at stepped
      split at stepped
      · cases stepped
      · next free =>
          obtain ⟨system, reached, same⟩ := Option.map_eq_some_iff.mp stepped
          subst same
          exact .proxied (Bool.eq_false_iff.mpr free) reached
  | edit contents =>
      cases stepped
      exact .edited contents
  | listen =>
      simp only [step] at stepped
      split at stepped <;> cases stepped
      next deaf => exact .listened (Bool.eq_false_iff.mpr deaf)
  | hangUp =>
      simp only [step] at stepped
      split at stepped <;> cases stepped
      next listening => exact .hungUp listening
  | receive =>
      simp only [step] at stepped
      split at stepped <;> cases stepped
      next ready => exact .received ready.1 (Bool.eq_false_iff.mpr ready.2.1) ready.2.2
  | read =>
      simp only [step] at stepped
      split at stepped
      · next received =>
          split at stepped
          · next unread =>
              cases stepped
              exact .unreadable received unread
          · next config found =>
              obtain ⟨system, built, same⟩ := Option.map_eq_some_iff.mp stepped
              subst same
              exact .applied received found built
      · cases stepped
  | store =>
      obtain ⟨action, next, stored⟩ := Option.bind_eq_some_iff.mp stepped
      obtain ⟨system, reached, same⟩ := Option.bind_eq_some_iff.mp stored
      cases same
      exact .stored next reached

theorem step_proxyAction (stepped : reloading.step externals parse action = some after) :
    execute (System.step externals) reloading.system (reloading.proxyAction parse action) = some after.system := by
  cases step_cases stepped with
  | @proxied action system free moved => exact execute_cons.mpr ⟨_, moved, rfl⟩
  | edited | listened | hungUp | received => rfl
  | unreadable received unread =>
      rw [proxyAction, unread]
      rfl
  | applied received found built =>
      rw [proxyAction, found]
      exact execute_cons.mpr ⟨_, built, rfl⟩
  | stored next stored =>
      rw [proxyAction, next]
      exact execute_cons.mpr ⟨_, stored, rfl⟩

end Reloading

namespace System

/-- The actions of the environment leave configurations to the reloader. -/
theorem step_keeps_config {externals : Externals} {system after : System} {action : Action}
    (free : action.appliesConfig = false) (stepped : system.step externals action = some after) :
    after.reloader = system.reloader ∧ after.app.config = system.app.config ∧ after.applied = system.applied := by
  cases step_cases stepped with
  | arrived | probed | ticked => exact ⟨rfl, rfl, rfl⟩
  | moved stored moves =>
      cases moves with
      | polled live rest performed => exact ⟨rfl, (perform_cases performed).1, rfl⟩
      | timedOut | dropped => exact ⟨rfl, rfl, rfl⟩
  | built | routerStored | configStored => cases free

theorem step_reload {externals : Externals} {system after : System} {config : Config}
    (built : system.step externals (.reload config) = some after) :
    system.reloader = .idle ∧
      after.reloader = .built ⟨system.applied.length, config.router system.app.balancers.length⟩
        ⟨system.applied.length, config⟩ ∧
      after.app.config = system.app.config ∧
      after.applied = system.applied ++ [(config, system.app.balancers.length)] := by
  cases step_cases built with
  | built _ idle => exact ⟨idle, rfl, rfl, rfl⟩
  | moved stored moves => cases moves

theorem step_storeRouter {externals : Externals} {system after : System}
    (stored : system.step externals .storeRouter = some after) :
    ∃ router config, system.reloader = .built router config ∧ after.reloader = .routerStored config ∧
      after.app.config = system.app.config ∧ after.applied = system.applied := by
  cases step_cases stored with
  | routerStored built => exact ⟨_, _, built, rfl, rfl, rfl⟩
  | moved stored moves => cases moves

theorem step_storeConfig {externals : Externals} {system after : System}
    (stored : system.step externals .storeConfig = some after) :
    ∃ config, system.reloader = .routerStored config ∧ after.reloader = .idle ∧ after.app.config = config ∧
      after.applied = system.applied := by
  cases step_cases stored with
  | configStored routerStored => exact ⟨_, routerStored, rfl, rfl, rfl⟩
  | moved stored moves => cases moves

end System

namespace Reloading

variable {externals : Externals} {parse : ConfigParser} {reloading after start final : Reloading}
  {action : ReloadingAction} {actions : List ReloadingAction} {config wanted : Config} {file : Option String}
  {now : Instant}

theorem storing_cases {action : Action} (next : reloading.storing = some action) :
    ((∃ router config, reloading.system.reloader = .built router config) ∧ action = .storeRouter) ∨
      ((∃ config, reloading.system.reloader = .routerStored config) ∧ action = .storeConfig) := by
  unfold storing at next
  split at next <;> cases next
  · next router config built => exact .inl ⟨⟨router, config, built⟩, rfl⟩
  · next config stored => exact .inr ⟨⟨config, stored⟩, rfl⟩

/-!
## What is applied
-/

/-- Where the file may come from. -/
def Held (file : Option String) (actions : List ReloadingAction) (contents : Option String) : Prop :=
  contents = file ∨ .edit contents ∈ actions

theorem Held.append {contents : Option String} (held : Held file actions contents) (action : ReloadingAction) :
    Held file (actions ++ [action]) contents :=
  held.imp_right fun member => List.mem_append_left _ member

/-- The configurations built so far are those of the start and of the contents of the file. -/
structure FromFile (parse : ConfigParser) (config : Config) (file : Option String) (actions : List ReloadingAction)
    (reloading : Reloading) : Prop where
  current : Held file actions reloading.file
  applied : ∀ built ∈ reloading.system.applied, built.1 = config ∨
    ∃ contents, Held file actions contents ∧ readConfig parse contents = some built.1

theorem FromFile.keep (fromFile : FromFile parse config file actions reloading) (action : ReloadingAction)
    (current : Held file (actions ++ [action]) after.file)
    (applied : after.system.applied = reloading.system.applied) :
    FromFile parse config file (actions ++ [action]) after := by
  refine ⟨current, fun built member => ?_⟩
  rw [applied] at member
  rcases fromFile.applied built member with initial | ⟨contents, held, parsed⟩
  · exact .inl initial
  · exact .inr ⟨contents, held.append action, parsed⟩

theorem FromFile.step (fromFile : FromFile parse config file actions reloading)
    (stepped : reloading.step externals parse action = some after) :
    FromFile parse config file (actions ++ [action]) after := by
  have current := fromFile.current.append action
  cases step_cases stepped with
  | proxied free moved => exact fromFile.keep _ current (System.step_keeps_config free moved).2.2
  | edited contents =>
      exact fromFile.keep _ (.inr (List.mem_append_right _ (List.mem_singleton_self _))) rfl
  | listened | hungUp | received | unreadable => exact fromFile.keep _ current rfl
  | @applied built system received found reloaded =>
      obtain ⟨_, _, _, grown⟩ := System.step_reload reloaded
      refine ⟨current, fun entry member => ?_⟩
      rw [grown] at member
      rcases List.mem_append.mp member with earlier | latest
      · rcases fromFile.applied entry earlier with initial | ⟨contents, held, parsed⟩
        · exact .inl initial
        · exact .inr ⟨contents, held.append _, parsed⟩
      · rw [List.mem_singleton.mp latest]
        exact .inr ⟨_, current, found⟩
  | stored next stores =>
      rcases storing_cases next with ⟨_, rfl⟩ | ⟨_, rfl⟩
      · obtain ⟨_, _, _, _, _, same⟩ := System.step_storeRouter stores
        exact fromFile.keep _ current same
      · obtain ⟨_, _, _, _, same⟩ := System.step_storeConfig stores
        exact fromFile.keep _ current same

theorem execute_fromFile
    (executed : execute (step externals parse) (.initial externals config file now) actions = some final) :
    FromFile parse config file actions final ∧
      execute (System.step externals) (.initial externals config now)
        (proxyActions externals parse (.initial externals config file now) actions) = some final.system := by
  induction actions using List.reverseRecOn generalizing final with
  | nil =>
      cases executed
      refine ⟨⟨.inl rfl, fun built member => ?_⟩, rfl⟩
      rw [List.mem_singleton.mp member]
      exact .inl rfl
  | append_singleton actions action ih =>
      obtain ⟨before, reached, single⟩ := execute_append.mp executed
      obtain ⟨after, stepped, finished⟩ := execute_cons.mp single
      cases finished
      obtain ⟨fromFile, run⟩ := ih reached
      refine ⟨fromFile.step stepped, ?_⟩
      rw [proxyActions, observations_concat reached stepped]
      exact execute_append.mpr ⟨_, run, step_proxyAction stepped⟩

/-- With its reloader's loop the proxy runs as one whose configurations come anyhow, and
only those the file held are ever applied: a file that cannot be read or parsed changes
nothing. -/
theorem applies_only_files
    (executed : execute (step externals parse) (.initial externals config file now) actions = some final) :
    execute (System.step externals) (.initial externals config now)
        (proxyActions externals parse (.initial externals config file now) actions) = some final.system ∧
      ∀ built ∈ final.system.applied, built.1 = config ∨
        ∃ contents, Held file actions contents ∧ readConfig parse contents = some built.1 := by
  obtain ⟨fromFile, run⟩ := execute_fromFile executed
  exact ⟨run, fromFile.applied⟩

/-- Only one content of the file parses. -/
def sampleParser : ConfigParser := fun contents => if contents = "second" then some System.secondConfig else none

/-- The file is edited, and a second hangup comes before it is read. -/
def hangUps : List ReloadingAction := [.listen, .edit (some "second"), .hangUp, .receive, .hangUp]

theorem applies_only_files_second :
    ∃ final, execute (step sampleExternals sampleParser) (.initial sampleExternals System.firstConfig none 0)
        (hangUps ++ [.read]) = some final ∧
      ∀ built ∈ final.system.applied, built.1 = System.firstConfig ∨
        ∃ contents, Held none (hangUps ++ [.read]) contents ∧ readConfig sampleParser contents = some built.1 := by
  have run : ∃ final, execute (step sampleExternals sampleParser) (.initial sampleExternals System.firstConfig none 0)
      (hangUps ++ [.read]) = some final := ⟨_, rfl⟩
  obtain ⟨final, executed⟩ := run
  exact ⟨final, executed, (applies_only_files executed).2⟩

/-!
## Hangups
-/

/-- The reloader as a worker that refreshes the configuration from the file. -/
def refresh (reloading : Reloading) : Refresh.State (Option String) Config where
  source := reloading.file
  told := reloading.hungUp
  work := match reloading.system.reloader with
    | .idle => if reloading.received then .reading else .resting
    | .built _ config => .writing config.value
    | .routerStored config => .writing config.value
  value := reloading.system.app.config.value

/-- The file is read only while nothing is applied. -/
structure Sound (reloading : Reloading) : Prop where
  logged : reloading.system.Logged
  idle : reloading.received = true → reloading.system.reloader = .idle

theorem Sound.step (sound : reloading.Sound) (stepped : reloading.step externals parse action = some after) :
    after.Sound ∧ Refresh.Step (readConfig parse) reloading.refresh after.refresh := by
  cases step_cases stepped with
  | proxied free moved =>
      obtain ⟨reloader, config, _⟩ := System.step_keeps_config free moved
      refine ⟨⟨(sound.logged.step moved).logged, fun received => reloader.trans (sound.idle received)⟩, ?_⟩
      simp only [refresh, reloader, config]
      exact .other
  | edited contents => exact ⟨⟨sound.logged, sound.idle⟩, .edited contents⟩
  | listened => exact ⟨⟨sound.logged, sound.idle⟩, .other⟩
  | hungUp => exact ⟨⟨sound.logged, sound.idle⟩, .told⟩
  | received hungUp free idle =>
      have resting : reloading.refresh.work = .resting := by simp [refresh, idle, free]
      have becomes : refresh { reloading with hungUp := false, received := true } =
          { reloading.refresh with told := false, work := .reading } := by simp [refresh, idle]
      exact ⟨⟨sound.logged, fun _ => idle⟩, becomes ▸ .began hungUp resting⟩
  | unreadable received unread =>
      have idle := sound.idle received
      have reading : reloading.refresh.work = .reading := by simp [refresh, idle, received]
      have becomes : refresh { reloading with received := false } =
          { reloading.refresh with work := .resting } := by simp [refresh, idle]
      exact ⟨⟨sound.logged, nofun⟩, becomes ▸ .failed reading unread⟩
  | @applied config system received found built =>
      have idle := sound.idle received
      obtain ⟨_, reloader, same, _⟩ := System.step_reload built
      have reading : reloading.refresh.work = .reading := by simp [refresh, idle, received]
      have becomes : refresh { reloading with system := system, received := false } =
          { reloading.refresh with work := .writing config } := by simp [refresh, reloader, same]
      exact ⟨⟨(sound.logged.step built).logged, nofun⟩, becomes ▸ .loaded reading found⟩
  | @stored action system next stores =>
      have logged := (sound.logged.step stores).logged
      have busy : reloading.system.reloader ≠ .idle → reloading.received = false := fun working =>
        Bool.eq_false_iff.mpr fun received => working (sound.idle received)
      rcases storing_cases next with ⟨⟨router, config, place⟩, rfl⟩ | ⟨⟨config, place⟩, rfl⟩
      · obtain ⟨_, _, built, reloader, same, _⟩ := System.step_storeRouter stores
        cases place.symm.trans built
        have free := busy (by rw [place]; nofun)
        have becomes : refresh { reloading with system := system } = reloading.refresh := by
          simp [refresh, reloader, same, place]
        exact ⟨⟨logged, fun received => absurd (free.symm.trans received) nofun⟩, becomes ▸ .other⟩
      · obtain ⟨_, stored, reloader, same, _⟩ := System.step_storeConfig stores
        cases place.symm.trans stored
        have free := busy (by rw [place]; nofun)
        have writing : reloading.refresh.work = .writing config.value := by simp [refresh, place]
        have becomes : refresh { reloading with system := system } =
            { reloading.refresh with value := config.value, work := .resting } := by
          simp [refresh, reloader, same, free]
        exact ⟨⟨logged, fun _ => reloader⟩, becomes ▸ .written writing⟩

theorem initial_sound : (initial externals config file now).Sound :=
  ⟨System.initial_logged config now, nofun⟩

theorem step_file (stepped : reloading.step externals parse action = some after)
    (unedited : ∀ contents, action ≠ .edit contents) : after.file = reloading.file := by
  cases step_cases stepped with
  | edited contents => exact absurd rfl (unedited contents)
  | proxied | listened | hungUp | received | unreadable | applied | stored => rfl

theorem execute_sound (sound : start.Sound) (executed : execute (step externals parse) start actions = some final) :
    final.Sound :=
  execute_preserves Sound (fun _ _ _ sound stepped => (sound.step stepped).1) sound executed

theorem execute_file (unedited : ∀ contents, .edit contents ∉ actions)
    (executed : execute (step externals parse) start actions = some final) : final.file = start.file := by
  induction actions generalizing start with
  | nil =>
      cases executed
      rfl
  | cons action actions ih =>
      obtain ⟨middle, stepped, rest⟩ := execute_cons.mp executed
      have same := step_file stepped fun contents edited => unedited contents (edited ▸ List.mem_cons_self)
      exact (ih (fun contents member => unedited contents (List.mem_cons_of_mem _ member)) rest).trans same

/-- Without an edit a refresh that is due stays due until it is done. -/
theorem execute_due (sound : start.Sound) (unedited : ∀ contents, .edit contents ∉ actions)
    (holds : readConfig parse start.file = some wanted) (due : Refresh.Due wanted start.refresh)
    (executed : execute (step externals parse) start actions = some final) : Refresh.Due wanted final.refresh := by
  induction actions generalizing start with
  | nil =>
      cases executed
      exact due
  | cons action actions ih =>
      obtain ⟨middle, stepped, rest⟩ := execute_cons.mp executed
      obtain ⟨soundMiddle, refreshes⟩ := sound.step stepped
      have same := step_file stepped fun contents edited => unedited contents (edited ▸ List.mem_cons_self)
      exact ih soundMiddle (fun contents member => unedited contents (List.mem_cons_of_mem _ member))
        (same ▸ holds) (due.step holds refreshes) rest

/-!
## Coming to rest
-/

/-- The reloader waits for a hangup. -/
structure Rests (reloading : Reloading) : Prop where
  quiet : reloading.hungUp = false
  free : reloading.received = false
  idle : reloading.system.reloader = .idle

theorem brings_stored {config : Arc Config} (place : start.system.reloader = .routerStored config) :
    Brings (step externals parse) ReloadingAction.isOwn 1 start fun settled =>
      settled.system.reloader = .idle ∧ settled.hungUp = start.hungUp ∧ settled.received = start.received := by
  have stepped : start.step externals parse .store = some { start with system :=
      { start.system with app := start.system.app.storeConfig config, reloader := .idle } } := by
    simp [step, storing, System.step, place]
  exact .after rfl stepped (.here 0 ⟨rfl, rfl, rfl⟩)

/-- The stores that are left are made. -/
theorem brings_idle (start : Reloading) : Brings (step externals parse) ReloadingAction.isOwn 2 start fun settled =>
    settled.system.reloader = .idle ∧ settled.hungUp = start.hungUp ∧ settled.received = start.received := by
  cases place : start.system.reloader with
  | idle => exact .here 2 ⟨place, rfl, rfl⟩
  | routerStored config => exact (brings_stored place).mono (Nat.le_succ 1) fun _ reached => reached
  | built router config =>
      have stepped : start.step externals parse .store = some { start with system :=
          { start.system with app := start.system.app.storeRouter router, reloader := .routerStored config } } := by
        simp [step, storing, System.step, place]
      exact .after rfl stepped (brings_stored rfl)

/-- The file is read and applied, if it is due. -/
theorem brings_free (sound : start.Sound) :
    Brings (step externals parse) ReloadingAction.isOwn 3 start fun settled =>
      settled.system.reloader = .idle ∧ settled.hungUp = start.hungUp ∧ settled.received = false := by
  cases received : start.received with
  | false =>
      apply (brings_idle start).mono (Nat.le_succ 2)
      intro settled reached
      exact received ▸ reached
  | true =>
      have idle := sound.idle received
      cases found : readConfig parse start.file with
      | none =>
          have stepped : start.step externals parse .read = some { start with received := false } := by
            simp [step, received, found]
          exact .after rfl stepped (.here 2 ⟨idle, rfl, rfl⟩)
      | some config =>
          obtain ⟨system, built⟩ : ∃ system, start.system.step externals (.reload config) = some system := by
            simp [System.step, System.reload, idle]
          have stepped : start.step externals parse .read = some { start with system := system, received := false } := by
            simp [step, received, found, built]
          exact .after rfl stepped (brings_idle _)

theorem brings_rest (sound : start.Sound) :
    Brings (step externals parse) ReloadingAction.isOwn 7 start fun settled => settled.Sound ∧ settled.Rests := by
  have free : Brings (step externals parse) ReloadingAction.isOwn 3 start fun settled =>
      settled.Sound ∧ settled.system.reloader = .idle ∧ settled.received = false := by
    obtain ⟨own, settled, short, all, executed, reached⟩ := brings_free sound
    exact ⟨own, settled, short, all, executed, execute_sound sound executed, reached.1, reached.2.2⟩
  change Brings (step externals parse) ReloadingAction.isOwn (3 + 4) start _
  apply free.trans
  intro middle reached
  obtain ⟨soundMiddle, idle, received⟩ := reached
  cases hungUp : middle.hungUp with
  | false => exact .here 4 ⟨soundMiddle, hungUp, received, idle⟩
  | true =>
      have stepped : middle.step externals parse .receive =
          some { middle with hungUp := false, received := true } := by
        simp [step, hungUp, received, idle]
      have soundNext := (soundMiddle.step stepped).1
      refine .after rfl stepped ?_
      obtain ⟨own, settled, short, all, executed, reached⟩ := brings_free soundNext
      exact ⟨own, settled, short, all, executed, execute_sound soundNext executed, reached.2.1, reached.2.2, reached.1⟩

/-- At rest the proxy runs on one configuration: its router is the one built from it. -/
theorem Sound.coherent (sound : reloading.Sound) (rests : reloading.Rests) :
    reloading.system.Coherent reloading.system.app.config reloading.system.app.router := by
  have reloader := sound.logged.reloader
  rw [System.ReloaderConsistent, rests.idle] at reloader
  exact (System.coherent_iff sound.logged.config sound.logged.router).mpr reloader.1.symm

theorem rests_on (sound : reloading.Sound) (due : Refresh.Due wanted reloading.refresh) (rests : reloading.Rests) :
    reloading.system.app.config.value = wanted ∧
      reloading.system.Coherent reloading.system.app.config reloading.system.app.router := by
  have resting : reloading.refresh.work = .resting := by simp [refresh, rests.idle, rests.free]
  exact ⟨due.settled rests.quiet resting, sound.coherent rests⟩

/-- After a hangup, unless the file is edited again, a reloader at rest runs on what the
file parses to, and one that is not at rest comes to it by a few steps of its own. -/
theorem hangUp_takes_effect {before later : List ReloadingAction}
    (executed : execute (step externals parse) (.initial externals config file now)
      (before ++ .hangUp :: later) = some final)
    (unedited : ∀ contents, .edit contents ∉ later) (parsed : readConfig parse final.file = some wanted) :
    (final.Rests → final.system.app.config.value = wanted ∧
        final.system.Coherent final.system.app.config final.system.app.router) ∧
      Brings (step externals parse) ReloadingAction.isOwn 7 final fun settled => settled.Rests ∧
        settled.system.app.config.value = wanted ∧
          settled.system.Coherent settled.system.app.config settled.system.app.router := by
  obtain ⟨middle, reached, rest⟩ := execute_append.mp executed
  obtain ⟨told, stepped, continued⟩ := execute_cons.mp rest
  have soundMiddle := execute_sound initial_sound reached
  have soundTold := (soundMiddle.step stepped).1
  have sound := execute_sound soundTold continued
  have waiting : told.hungUp = true := by
    cases step_cases stepped with
    | hungUp => rfl
  have holds := (execute_file unedited continued) ▸ parsed
  have due := execute_due soundTold unedited holds (.told waiting) continued
  refine ⟨rests_on sound due, ?_⟩
  obtain ⟨own, settled, short, all, finishing, soundSettled, rests⟩ := @brings_rest externals parse final sound
  have noEdit : ∀ contents, .edit contents ∉ own := by
    intro contents member
    cases List.all_eq_true.mp all _ member
  have dueSettled := execute_due sound noEdit parsed due finishing
  exact ⟨own, settled, short, all, finishing, rests, rests_on soundSettled dueSettled rests⟩

theorem hangUp_takes_effect_second :
    ∃ final, execute (step sampleExternals sampleParser) (.initial sampleExternals System.firstConfig none 0) hangUps =
        some final ∧
      Brings (step sampleExternals sampleParser) ReloadingAction.isOwn 7 final fun settled => settled.Rests ∧
        settled.system.app.config.value = System.secondConfig ∧
          settled.system.Coherent settled.system.app.config settled.system.app.router := by
  have run : ∃ final, execute (step sampleExternals sampleParser) (.initial sampleExternals System.firstConfig none 0)
      ([.listen, .edit (some "second")] ++ .hangUp :: [.receive, .hangUp]) = some final ∧
      final.file = some "second" := ⟨_, rfl, rfl⟩
  obtain ⟨final, executed, current⟩ := run
  have parsed : readConfig sampleParser final.file = some System.secondConfig := by
    rw [current]
    rfl
  exact ⟨final, executed, (hangUp_takes_effect executed (by simp) parsed).2⟩

end Reloading

end L7Proxy
