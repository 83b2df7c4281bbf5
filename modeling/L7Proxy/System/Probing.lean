import L7Proxy.System.HealthCheck

/-!
# Rounds of probes

The upstreams are probed in turn and not too often. A checker that is not late and probes
often enough keeps the cooldown from healing an upstream: only a success does.
-/

set_option autoImplicit false

namespace L7Proxy

open Interaction CircuitBreaker Polling

/-!
## The loop as a poller
-/

namespace System

theorem happens_probeSeen {externals : Externals} {system : System} {action : Action}
    (free : action.isProbe = false) : (system.happens externals action).filterMap probeSeen = [] := by
  cases action with
  | probe => cases free
  | poll index input =>
      simp only [happens]
      cases system.polledEvent externals index input <;> rfl
  | _ => rfl

end System

namespace Checked

variable {externals : Externals} {checked after start final : Checked} {action : CheckedAction}
  {actions : List CheckedAction}

/-- The loop takes the steps of a poller. -/
theorem step_polls {config : HealthCheckConfig} {upstreams : List String} {phase : Phase String Instant}
    (looping : checked.checker = some ⟨config, .looping upstreams phase⟩)
    (stepped : checked.step externals action = some after) (log : List (Instant × String)) :
    ∃ next, after.checker = some ⟨config, .looping upstreams next⟩ ∧
      Polling.Step (config.poller upstreams) ⟨phase, checked.system.clock, log⟩
        ⟨next, after.system.clock, log ++ (checked.happens externals action).filterMap probeSeen⟩ := by
  cases step_cases stepped with
  | @proxied action system free moved =>
      refine ⟨phase, looping, ?_⟩
      rw [happens, proxyAction, List.flatMap_singleton, System.happens_probeSeen free, List.append_nil]
      exact .advanced (System.step_clock moved)
  | collected spawned =>
      rw [looping] at spawned
      cases spawned
  | woken sleeping elapsed =>
      rw [looping] at sleeping
      cases sleeping
      have nothing : checked.happens externals .wake = [] := rfl
      refine ⟨_, rfl, ?_⟩
      rw [nothing, List.filterMap_nil, List.append_nil]
      exact .woken rfl elapsed
  | @reported checker order rest started upstream status system polling probed =>
      rw [looping] at polling
      cases polling
      obtain ⟨_, same⟩ := System.step_probe.mp probed
      refine ⟨_, rfl, ?_⟩
      have target : checked.target = some upstream := by rw [Checked.target, looping]
      rw [happens, proxyAction, target, same]
      exact .finished rfl

def Idle (checked : Checked) : Prop :=
  ∀ checker upstreams phase, checked.checker ≠ some ⟨checker, .looping upstreams phase⟩

theorem looping_of_not_idle (busy : ¬ checked.Idle) :
    ∃ checker upstreams phase, checked.checker = some ⟨checker, .looping upstreams phase⟩ := by
  simpa only [Idle, not_forall, not_not] using busy

theorem Idle.of_step (idle : after.Idle) (stepped : checked.step externals action = some after) : checked.Idle := by
  intro checker upstreams phase looping
  obtain ⟨next, continued, _⟩ := step_polls looping stepped []
  exact idle checker upstreams next continued

/-- Before the loop there are no probes. -/
theorem Idle.happens (idle : checked.Idle) (stepped : checked.step externals action = some after) :
    (checked.happens externals action).filterMap probeSeen = [] := by
  cases step_cases stepped with
  | proxied free moved =>
      rw [Checked.happens, proxyAction, List.flatMap_singleton, System.happens_probeSeen free]
  | collected | woken => rfl
  | reported polling => exact absurd polling (idle _ _ _)

theorem Idle.probes {config : Config} {now : Instant} (idle : final.Idle)
    (executed : execute (step externals) (.initial externals config now) actions = some final) :
    probes externals (.initial externals config now) actions = [] := by
  refine observations_preserves (fun (seen : List (Instant × Happening)) (checked : Checked) =>
    checked.Idle → seen.filterMap probeSeen = []) ?_ (fun _ => rfl) executed idle
  intro seen checked action after holds stepped idle
  have earlier := idle.of_step stepped
  rw [List.filterMap_append, holds earlier, earlier.happens stepped, List.append_nil]

/-- What holds when the loop starts and every step of the poller keeps, in the states of the
run, holds of the probes of the run. -/
theorem loop_preserves {config : Config} {now : Instant} (condition : Checked → Prop)
    (invariant : Poller String Instant → Polling.State String Instant → Prop)
    (visited : ∀ checked, Visits (step externals) (.initial externals config now) actions checked → condition checked)
    (starts : ∀ (checked : Checked) checker since upstreams, condition checked →
      checked.checker = some ⟨checker, .spawned since⟩ → upstreams.Nodup →
        invariant (checker.poller upstreams)
          ⟨.sleeping (checked.system.clock + checker.intervalSecs), checked.system.clock, []⟩)
    (kept : ∀ (checked : Checked) checker upstreams phase log after, condition checked →
      checked.checker = some ⟨checker, .looping upstreams phase⟩ →
        invariant (checker.poller upstreams) ⟨phase, checked.system.clock, log⟩ →
          Polling.Step (checker.poller upstreams) ⟨phase, checked.system.clock, log⟩ after →
            invariant (checker.poller upstreams) after)
    (executed : execute (step externals) (.initial externals config now) actions = some final)
    {checker : HealthCheckConfig} {upstreams : List String} {phase : Phase String Instant}
    (looping : final.checker = some ⟨checker, .looping upstreams phase⟩) :
    invariant (checker.poller upstreams)
      ⟨phase, final.system.clock, probes externals (.initial externals config now) actions⟩ := by
  have holds := @observations_performed _ _ _ _ (happens externals)
    (fun (seen : List (Instant × Happening)) (checked : Checked) =>
      (checked.Idle → seen.filterMap probeSeen = []) ∧
        ∀ checker upstreams phase, checked.checker = some ⟨checker, .looping upstreams phase⟩ →
          invariant (checker.poller upstreams) ⟨phase, checked.system.clock, seen.filterMap probeSeen⟩)
    _ _ _ ⟨fun _ => rfl, fun checker upstreams phase collected => ?_⟩ ?_ executed
  · exact holds.2 checker upstreams phase looping
  · simp only [initial, spawnActiveHealthChecker, Option.map_eq_some_iff] at collected
    obtain ⟨_, _, same⟩ := collected
    cases same
  · intro seen before action after performed holds
    have here := visited before performed.visits_before
    obtain ⟨_, _, _, _, stepped⟩ := performed
    obtain ⟨none, loop⟩ := holds
    rw [List.filterMap_append]
    refine ⟨fun idle => ?_, fun checker upstreams phase collected => ?_⟩
    · have earlier := idle.of_step stepped
      rw [none earlier, earlier.happens stepped, List.append_nil]
    · cases step_cases stepped with
      | proxied free moved =>
          have before : before.checker = some ⟨checker, .looping upstreams phase⟩ := collected
          obtain ⟨next, same, polls⟩ := step_polls before stepped (seen.filterMap probeSeen)
          cases collected.symm.trans same
          exact kept _ checker upstreams phase _ _ here before (loop _ _ _ before) polls
      | @collected _ since order spawned found =>
          cases collected
          have idle : before.Idle := by
            intro checker upstreams phase looping
            rw [spawned] at looping
            cases looping
          rw [none idle]
          exact starts before checker since upstreams here spawned (found.symm.nodup (List.nodup_dedup _))
      | @woken _ order due sleeping elapsed =>
          obtain ⟨next, same, polls⟩ := step_polls sleeping stepped (seen.filterMap probeSeen)
          cases collected.symm.trans same
          exact kept before checker upstreams _ _ _ here sleeping (loop _ _ _ sleeping) polls
      | @reported _ order rest started upstream status system polling probed =>
          obtain ⟨next, same, polls⟩ := step_polls polling stepped (seen.filterMap probeSeen)
          cases collected.symm.trans same
          exact kept before checker upstreams _ _ _ here polling (loop _ _ _ polling) polls

theorem looping_of_mem {upstream : String} (listed : upstream ∈ checked.upstreams) :
    ∃ checker upstreams phase, checked.checker = some ⟨checker, .looping upstreams phase⟩ ∧
      checked.upstreams = upstreams := by
  unfold upstreams at listed ⊢
  split at listed
  · next checker order phase looping => exact ⟨checker, order, phase, looping, rfl⟩
  · cases listed

/-- Only the collected upstreams are probed, and none is ahead of another by more than
one probe. -/
theorem probes_take_turns {config : Config} {now : Instant}
    (executed : execute (step externals) (.initial externals config now) actions = some final) :
    (∀ probe ∈ probes externals (.initial externals config now) actions, probe.2 ∈ final.upstreams) ∧
      ∀ upstream ∈ final.upstreams, ∀ other ∈ final.upstreams,
        ((probes externals (.initial externals config now) actions).map (·.2)).count upstream ≤
          ((probes externals (.initial externals config now) actions).map (·.2)).count other + 1 := by
  by_cases idle : final.Idle
  · rw [idle.probes executed]
    exact ⟨fun _ absent => absurd absent List.not_mem_nil, fun _ _ _ _ => Nat.zero_le _⟩
  obtain ⟨checker, upstreams, phase, looping⟩ := looping_of_not_idle idle
  have same : final.upstreams = upstreams := by rw [Checked.upstreams, looping]
  rw [same]
  have holds := loop_preserves (fun _ => True) (fun poller state => poller.order.Nodup ∧ InRounds poller state)
    (fun _ _ => trivial)
    (fun _ _ _ _ _ _ distinct => ⟨distinct, ⟨0, rfl⟩, List.nil_suffix⟩)
    (fun _ _ _ _ _ _ _ _ inRounds stepped => ⟨inRounds.1, inRounds.2.step stepped⟩) executed looping
  obtain ⟨distinct, inRounds⟩ := holds
  refine ⟨fun probe member => ?_, fun _ listed _ otherListed => inRounds.balanced distinct listed otherListed⟩
  obtain ⟨rounds, whole⟩ := inRounds.rounds
  have polled : probe.2 ∈ (List.replicate rounds (checker.poller upstreams).order).flatten := by
    rw [← whole]
    exact List.mem_append_left _ (List.mem_map_of_mem member)
  obtain ⟨order, replicated, inside⟩ := List.mem_flatten.mp polled
  rwa [(List.mem_replicate.mp replicated).2] at inside

theorem probes_take_turns_first :
    ((probes sampleExternals (.initial sampleExternals checkedConfig 0) firstRound).map (·.2)).count
        "http://10.0.0.2:9002" ≤
      ((probes sampleExternals (.initial sampleExternals checkedConfig 0) firstRound).map (·.2)).count
        "http://10.0.0.1:9001" + 1 := by
  have run : (execute (step sampleExternals) (.initial sampleExternals checkedConfig 0) firstRound).map upstreams =
      some ["http://10.0.0.2:9002", "http://10.0.0.1:9001"] := by decide +kernel
  obtain ⟨final, executed, collected⟩ := Option.map_eq_some_iff.mp run
  exact (probes_take_turns executed).2 _ (by simp [collected]) _ (by simp [collected])

theorem probes_apart {config : Config} {healthCheck : HealthCheckConfig} {now : Instant}
    (configured : config.server.healthCheck = some healthCheck)
    (executed : execute (step externals) (.initial externals config now) actions = some final) (upstream : String) :
    (timesOf upstream (probes externals (.initial externals config now) actions)).Pairwise
      fun earlier later => earlier + (healthCheck.intervalSecs : ℚ) ≤ later := by
  by_cases idle : final.Idle
  · rw [idle.probes executed]
    exact .nil
  · obtain ⟨checker, upstreams, phase, looping⟩ := looping_of_not_idle idle
    have settings := (execute_valid executed).settings
    rw [looping, configured] at settings
    cases settings
    have holds := loop_preserves (fun _ => True) (fun poller state => poller.order.Nodup ∧ Spaced poller state)
      (fun _ _ => trivial)
      (fun _ _ _ _ _ _ distinct => ⟨distinct, by simp, fun _ => .nil, by simp, by simp, .nil⟩)
      (fun _ _ _ _ _ _ _ _ spaced stepped => ⟨spaced.1, spaced.2.step spaced.1 stepped⟩) executed looping
    exact holds.2.spaced upstream

/-- Between two probes of an upstream lies the interval, so a stretch of time has room for
few of them. -/
theorem probes_spaced {config : Config} {healthCheck : HealthCheckConfig} {now : Instant}
    (configured : config.server.healthCheck = some healthCheck)
    (executed : execute (step externals) (.initial externals config now) actions = some final)
    (upstream : String) {opens closes : Instant} (ordered : opens ≤ closes) :
    ((timesOf upstream (probes externals (.initial externals config now) actions)).countP
        fun time => opens ≤ time ∧ time ≤ closes) * (healthCheck.intervalSecs : ℚ) ≤
      closes - opens + healthCheck.intervalSecs := by
  have apart := (probes_apart configured executed upstream).filter fun time => opens ≤ time ∧ time ≤ closes
  have inside : ∀ time ∈ (timesOf upstream (probes externals (.initial externals config now) actions)).filter
      fun time => opens ≤ time ∧ time ≤ closes, opens ≤ time ∧ time ≤ closes := by
    intro time member
    simpa using (List.mem_filter.mp member).2
  have interval : (0 : ℚ) ≤ healthCheck.intervalSecs := Nat.cast_nonneg _
  rw [List.countP_eq_length_filter]
  cases times : (timesOf upstream (probes externals (.initial externals config now) actions)).filter
      fun time => opens ≤ time ∧ time ≤ closes with
  | nil =>
      rw [List.length_nil, Nat.cast_zero, zero_mul]
      exact add_nonneg (sub_nonneg.mpr ordered) interval
  | cons first rest =>
      rw [times] at apart inside
      have room := spaced_length apart inside
      rw [nsmul_eq_mul] at room
      rw [List.length_cons, Nat.cast_succ, add_one_mul]
      linarith

/-- The upstream is probed at 11 s and, after the interval and a probe of the other, at 22 s. -/
def twoRounds : List CheckedAction :=
  firstRound ++ [.proxy (.tick 10), .wake, .answered "http://10.0.0.2:9002/health" (some .ok), .proxy (.tick 1),
    .answered "http://10.0.0.1:9001/health" none]

theorem probes_spaced_first :
    (timesOf "http://10.0.0.1:9001" (probes sampleExternals (.initial sampleExternals checkedConfig 0) twoRounds)) =
        [11, 22] ∧
      ((timesOf "http://10.0.0.1:9001"
        (probes sampleExternals (.initial sampleExternals checkedConfig 0) twoRounds)).countP
          fun time => 11 ≤ time ∧ time ≤ 22) * ((10 : Nat) : ℚ) ≤ 22 - 11 + ((10 : Nat) : ℚ) := by
  have run : ∃ final, execute (step sampleExternals) (.initial sampleExternals checkedConfig 0) twoRounds =
      some final := Option.isSome_iff_exists.mp (by decide +kernel)
  obtain ⟨final, executed⟩ := run
  refine ⟨by decide +kernel, ?_⟩
  exact probes_spaced (show checkedConfig.server.healthCheck = some {} from rfl) executed _ (by norm_num)

end Checked

/-!
## Marks that do not lapse
-/

/-- The longest time an upstream waits for its probe, or for its first one after the start. -/
def HealthCheckConfig.period (config : HealthCheckConfig) (slack : Duration) (upstreams : List String) : Duration :=
  slack + (config.intervalSecs + slack + upstreams.length * (config.timeoutSecs + slack))

namespace Checked

variable {externals : Externals} {checked after start final : Checked} {action : CheckedAction}
  {actions : List CheckedAction} {config : Config} {healthCheck : HealthCheckConfig} {now : Instant}
  {slack : Duration} {upstream : String}

/-- The checker is not late: its task starts and wakes up with at most some slack, and so do
requests come to their end at their timeout. -/
def Prompt (slack : Duration) (checked : Checked) : Prop :=
  match checked.checker with
  | none => True
  | some ⟨_, .spawned since⟩ => checked.system.clock ≤ since + slack
  | some ⟨config, .looping _ phase⟩ => Polling.Prompt slack (config.timeoutSecs + slack) phase checked.system.clock

instance (slack : Duration) (checked : Checked) : Decidable (checked.Prompt slack) :=
  match checked with
  | ⟨_, none⟩ => .isTrue trivial
  | ⟨system, some ⟨_, .spawned since⟩⟩ => inferInstanceAs (Decidable (system.clock ≤ since + slack))
  | ⟨system, some ⟨_, .looping _ (.sleeping due)⟩⟩ => inferInstanceAs (Decidable (system.clock ≤ due + slack))
  | ⟨system, some ⟨config, .looping _ (.polling started _ _)⟩⟩ =>
      inferInstanceAs (Decidable (system.clock ≤ started + (config.timeoutSecs + slack)))

theorem visited_valid (visited : Visits (step externals) (.initial externals config now) actions checked) :
    checked.Valid config now := by
  obtain ⟨earlier, _, _, executed⟩ := visited
  exact execute_valid executed

/-- A prompt checker probed every upstream within a period, or started within it. -/
theorem polled_recently (configured : config.server.healthCheck = some healthCheck) (forward : 0 ≤ slack)
    (prompt : ∀ checked, Visits (step externals) (.initial externals config now) actions checked →
      checked.Prompt slack)
    (executed : execute (step externals) (.initial externals config now) actions = some final)
    (listed : upstream ∈ final.upstreams) :
    ∃ time, (time = now ∨ (time, upstream) ∈ probes externals (.initial externals config now) actions) ∧
      final.system.clock ≤ time + healthCheck.period slack final.upstreams := by
  obtain ⟨checker, upstreams, phase, looping, same⟩ := looping_of_mem listed
  rw [same] at listed ⊢
  have configuredAs : ∀ (checked : Checked) (checker : HealthCheckConfig) task, checked.Valid config now →
      checked.checker = some ⟨checker, task⟩ → checker = healthCheck := by
    intro checked checker task valid here
    have settings := valid.settings
    rw [here, configured] at settings
    exact Option.some.inj settings
  have long : (0 : ℚ) ≤ healthCheck.timeoutSecs + slack := add_nonneg (Nat.cast_nonneg _) forward
  have rests : (0 : ℚ) ≤ healthCheck.intervalSecs + slack := add_nonneg (Nat.cast_nonneg _) forward
  have holds := loop_preserves (fun checked => checked.Valid config now ∧ checked.Prompt slack)
    (fun poller state => ∃ start, start ≤ now + slack ∧
      Fresh poller slack (healthCheck.timeoutSecs + slack) start state)
    (fun checked visited => ⟨visited_valid visited, prompt checked visited⟩) ?_ ?_ executed looping
  · have here := prompt final (.final executed)
    cases configuredAs final checker _ (execute_valid executed) looping
    rw [Prompt, looping] at here
    obtain ⟨start, early, fresh⟩ := holds
    obtain ⟨time, polled, recent⟩ := fresh.within here long rests listed
    rw [nsmul_eq_mul] at recent
    rcases polled with rfl | member
    · refine ⟨now, .inl rfl, ?_⟩
      calc final.system.clock ≤ time + _ := recent
        _ ≤ now + slack + _ := add_le_add_left early _
        _ = now + healthCheck.period slack upstreams := add_assoc now slack _
    · refine ⟨time, .inr member, recent.trans (add_le_add_right ?_ time)⟩
      exact le_add_of_nonneg_left forward
  · intro checked checker since upstreams condition spawned _
    have here := condition.2
    cases configuredAs checked checker _ condition.1 spawned
    cases condition.1.spawned _ _ spawned
    rw [Prompt, spawned] at here
    exact ⟨checked.system.clock, here, fresh_start long⟩
  · intro checked checker upstreams phase log after condition looping fresh stepped
    have here := condition.2
    cases configuredAs checked checker _ condition.1 looping
    rw [Prompt, looping] at here
    obtain ⟨start, early, fresh⟩ := fresh
    exact ⟨start, early, fresh.step here stepped⟩

theorem happens_healthSeen (externals : Externals) (checked : Checked) (action : CheckedAction) :
    (checked.happens externals action).filterMap healthSeen = [] ∨
      ∃ call, (checked.happens externals action).filterMap healthSeen = [(checked.system.clock, call)] := by
  have shown : ∀ action, (checked.system.happens externals action).filterMap healthSeen = [] ∨
      ∃ call, (checked.system.happens externals action).filterMap healthSeen = [(checked.system.clock, call)] := by
    intro action
    cases action with
    | poll index input =>
        simp only [System.happens]
        cases System.polledEvent externals checked.system index input with
        | none => exact .inl rfl
        | some event =>
            simp only [Option.map_some, Option.toList_some, List.filterMap_cons, List.filterMap_nil, healthSeen]
            cases event.effect.healthCall with
            | none => exact .inl rfl
            | some call => exact .inr ⟨call, rfl⟩
    | probe upstream status => exact .inr ⟨_, rfl⟩
    | _ => exact .inl rfl
  cases action with
  | proxy action =>
      rw [happens, proxyAction, List.flatMap_singleton]
      exact shown action
  | collect | wake => exact .inl rfl
  | answered url status =>
      rw [happens, proxyAction]
      cases checked.target with
      | none => exact .inl rfl
      | some upstream => exact .inr ⟨_, rfl⟩

theorem step_clock (stepped : checked.step externals action = some after) :
    checked.system.clock ≤ after.system.clock := by
  cases step_cases stepped with
  | proxied free moved => exact System.step_clock moved
  | collected | woken => exact le_rfl
  | reported polling probed => exact System.step_clock probed

/-- The calls come in the order of their times, none before the start. -/
theorem healthCalls_sorted
    (executed : execute (step externals) (.initial externals config now) actions = some final) :
    (healthCalls externals (.initial externals config now) actions).Pairwise (·.1 ≤ ·.1) ∧
      ∀ call ∈ healthCalls externals (.initial externals config now) actions,
        now ≤ call.1 ∧ call.1 ≤ final.system.clock := by
  have run := execute_probing executed (List.Subset.refl _)
  have shown := timeline_eq executed (List.Subset.refl _)
  obtain ⟨sorted, past⟩ := System.timeline_kept System.healthSeen_time run
  rw [shown] at sorted past
  have since := @observations_preserves _ _ _ _ (happens externals)
    (fun (seen : List (Instant × Happening)) (checked : Checked) =>
      now ≤ checked.system.clock ∧ ∀ call ∈ seen.filterMap healthSeen, now ≤ call.1) ?_ _ _ _ ⟨le_rfl, by simp⟩ executed
  · exact ⟨sorted, fun call member => ⟨since.2 call member, past call member⟩⟩
  · intro seen checked action after holds stepped
    obtain ⟨started, earlier⟩ := holds
    refine ⟨started.trans (step_clock stepped), fun call member => ?_⟩
    rw [List.filterMap_append] at member
    rcases List.mem_append.mp member with old | new
    · exact earlier call old
    · rcases happens_healthSeen externals checked action with nothing | ⟨made, shown⟩
      · rw [nothing] at new
        cases new
      · rw [shown] at new
        rw [List.mem_singleton.mp new]
        exact started

/-- A mark of a probed upstream does not lapse. -/
theorem unexpired (configured : config.server.healthCheck = some healthCheck) (forward : 0 ≤ slack)
    (brief : slack < config.server.healthCooldownSecs)
    (prompt : ∀ checked, Visits (step externals) (.initial externals config now) actions checked →
      checked.Prompt slack)
    (executed : execute (step externals) (.initial externals config now) actions = some final)
    (frequent : ∀ checker upstreams phase, final.checker = some ⟨checker, .looping upstreams phase⟩ →
      upstream ∈ upstreams ∧ healthCheck.period slack upstreams < config.server.healthCooldownSecs)
    (failureThreshold : Nat) :
    ¬ (HealthTracker.policy failureThreshold config.server.healthCooldownSecs).Expired
      ((HealthTracker.policy failureThreshold config.server.healthCooldownSecs).failuresSince upstream
        (healthCalls externals (.initial externals config now) actions)) final.system.clock := by
  intro expired
  obtain ⟨_, latest, counted, elapsed⟩ := expired
  obtain ⟨sorted, bounded⟩ := healthCalls_sorted executed
  have since : now ≤ latest := by
    obtain ⟨call, member, same⟩ := failuresSince_subset _ latest (List.mem_of_mem_head? counted)
    exact same ▸ (bounded call member).1
  have within : ∀ time age, time ≤ latest → final.system.clock ≤ time + age →
      config.server.healthCooldownSecs ≤ age := by
    intro time age early recent
    simp only [HealthTracker.policy] at elapsed
    linarith
  have settings := (execute_valid executed).settings
  have punctual := prompt final (.final executed)
  cases here : final.checker with
  | none =>
      rw [here, configured] at settings
      cases settings
  | some checker =>
      obtain ⟨checker, task⟩ := checker
      cases task with
      | spawned start =>
          cases (execute_valid executed).spawned checker start here
          rw [Prompt, here] at punctual
          exact absurd (within now slack since punctual) (not_le.mpr brief)
      | looping upstreams phase =>
          obtain ⟨listed, often⟩ := frequent checker upstreams phase here
          have collected : final.upstreams = upstreams := by rw [Checked.upstreams, here]
          obtain ⟨time, polled, recent⟩ :=
            polled_recently configured forward prompt executed (collected.symm ▸ listed)
          rw [collected] at recent
          rcases polled with rfl | member
          · exact absurd (within time _ since recent) (not_le.mpr often)
          · obtain ⟨seen, present, found⟩ := List.mem_filterMap.mp member
            unfold probeSeen at found
            split at found <;> cases found
            next status =>
              have called : (time, probeCall upstream status) ∈
                  healthCalls externals (.initial externals config now) actions :=
                List.mem_filterMap.mpr ⟨_, present, rfl⟩
              have reported : probeCall upstream status = .failure upstream ∨
                  probeCall upstream status = .success upstream := by
                unfold probeCall
                split
                · exact .inr rfl
                · exact .inl rfl
              have early := report_le_latest sorted counted called reported
              exact absurd (within time _ early recent) (not_le.mpr often)

/-- While the probes are frequent only a success resets the failures of a probed upstream. -/
theorem failures_stand (configured : config.server.healthCheck = some healthCheck) (forward : 0 ≤ slack)
    (brief : slack < config.server.healthCooldownSecs)
    (prompt : ∀ checked, Visits (step externals) (.initial externals config now) actions checked →
      checked.Prompt slack)
    (executed : execute (step externals) (.initial externals config now) actions = some final)
    (frequent : ∀ checker upstreams phase, final.checker = some ⟨checker, .looping upstreams phase⟩ →
      upstream ∈ upstreams ∧ healthCheck.period slack upstreams < config.server.healthCooldownSecs)
    (failureThreshold : Nat) :
    (HealthTracker.policy failureThreshold config.server.healthCooldownSecs).failuresSince upstream
        (healthCalls externals (.initial externals config now) actions) =
      failuresInRow upstream (healthCalls externals (.initial externals config now) actions) := by
  induction actions using List.reverseRecOn generalizing final with
  | nil => rfl
  | append_singleton actions action ih =>
      obtain ⟨before, reached, single⟩ := execute_append.mp executed
      obtain ⟨after, stepped, finished⟩ := execute_cons.mp single
      cases finished
      have promptBefore : ∀ checked, Visits (step externals) (.initial externals config now) actions checked →
          checked.Prompt slack := by
        intro checked visited
        obtain ⟨earlier, later, split, executed⟩ := visited
        exact prompt checked ⟨earlier, later ++ [action], by rw [split, List.append_assoc], executed⟩
      have frequentBefore : ∀ checker upstreams phase, before.checker = some ⟨checker, .looping upstreams phase⟩ →
          upstream ∈ upstreams ∧ healthCheck.period slack upstreams < config.server.healthCooldownSecs := by
        intro checker upstreams phase looping
        obtain ⟨next, continued, _⟩ := step_polls looping stepped []
        exact frequent checker upstreams next continued
      have grown : healthCalls externals (.initial externals config now) (actions ++ [action]) =
          healthCalls externals (.initial externals config now) actions ++
            (before.happens externals action).filterMap healthSeen := by
        rw [healthCalls, timeline, observations_concat reached stepped, List.filterMap_append]
        rfl
      have stands := ih promptBefore reached frequentBefore
      rw [grown]
      rcases happens_healthSeen externals before action with nothing | ⟨call, shown⟩
      · rw [nothing, List.append_nil]
        exact stands
      · rw [shown]
        exact failuresSince_concat_eq stands fun _ =>
          unexpired configured forward brief promptBefore reached frequentBefore failureThreshold

/-- When the probes come more often than the cooldown lasts, an upstream that is probed is
unhealthy exactly while the failures since its last success reach the threshold, however
long ago they were. -/
theorem unhealthy_until_success (configured : config.server.healthCheck = some healthCheck)
    (small : config.server.failureThreshold < u32Max) (forward : 0 ≤ slack)
    (prompt : ∀ checked, Visits (step externals) (.initial externals config now) actions checked →
      checked.Prompt slack)
    (executed : execute (step externals) (.initial externals config now) actions = some final)
    (listed : upstream ∈ final.upstreams)
    (frequent : healthCheck.period slack final.upstreams < config.server.healthCooldownSecs) :
    (final.system.app.health.isHealthy upstream final.system.clock).1 = false ↔
      max 1 config.server.failureThreshold ≤
        (failuresInRow upstream (healthCalls externals (.initial externals config now) actions)).length := by
  have run := System.execute_health (execute_probing executed (List.Subset.refl _))
  have shown := timeline_eq executed (List.Subset.refl _)
  rw [System.healthCalls, shown] at run
  obtain ⟨sorted, bounded⟩ := healthCalls_sorted executed
  have verdict := HealthTracker.run_isHealthy_eq_false_iff config.server.healthCooldownSecs small sorted
    (fun call member => (bounded call member).2) upstream
  have rests : (0 : ℚ) ≤ healthCheck.intervalSecs + slack + final.upstreams.length * (healthCheck.timeoutSecs + slack) :=
    by positivity
  have brief : slack < config.server.healthCooldownSecs := (le_add_of_nonneg_right rests).trans_lt frequent
  have often : ∀ checker upstreams phase, final.checker = some ⟨checker, .looping upstreams phase⟩ →
      upstream ∈ upstreams ∧ healthCheck.period slack upstreams < config.server.healthCooldownSecs := by
    intro checker upstreams phase looping
    have collected : final.upstreams = upstreams := by rw [Checked.upstreams, looping]
    exact collected ▸ ⟨listed, frequent⟩
  have stands := failures_stand configured forward brief prompt executed often config.server.failureThreshold
  have fresh := unexpired configured forward brief prompt executed often config.server.failureThreshold
  have health : final.system.app.health = HealthTracker.run config.server.failureThreshold
      config.server.healthCooldownSecs (healthCalls externals (.initial externals config now) actions) := run
  rw [health, verdict, ← stands]
  constructor
  · intro tripped
    exact tripped.1
  · intro enough
    refine ⟨enough, ?_⟩
    cases failures : (HealthTracker.policy config.server.failureThreshold
        config.server.healthCooldownSecs).failuresSince upstream
          (healthCalls externals (.initial externals config now) actions) with
    | nil =>
        rw [failures] at enough
        simp at enough
    | cons latest rest =>
        refine ⟨latest, rfl, lt_of_not_ge fun elapsed => fresh ⟨enough, latest, ?_, elapsed⟩⟩
        rw [failures]
        rfl

theorem unhealthy_until_success_first :
    ∃ final, execute (step sampleExternals) (.initial sampleExternals checkedConfig 0) firstRound = some final ∧
      ((final.system.app.health.isHealthy "http://10.0.0.1:9001" final.system.clock).1 = false ↔
        max 1 1 ≤ (failuresInRow "http://10.0.0.1:9001"
          (healthCalls sampleExternals (.initial sampleExternals checkedConfig 0) firstRound)).length) := by
  have run : (execute (step sampleExternals) (.initial sampleExternals checkedConfig 0) firstRound).map upstreams =
      some ["http://10.0.0.2:9002", "http://10.0.0.1:9001"] := by decide +kernel
  obtain ⟨final, executed, collected⟩ := Option.map_eq_some_iff.mp run
  have prompt : ∀ checked, Visits (step sampleExternals) (.initial sampleExternals checkedConfig 0) firstRound checked →
      checked.Prompt 1 := by
    have before : ∀ checked ∈ observations (step sampleExternals) (fun checked _ => [checked])
        (.initial sampleExternals checkedConfig 0) firstRound, checked.Prompt 1 := by decide +kernel
    have last : ∀ checked ∈ execute (step sampleExternals) (.initial sampleExternals checkedConfig 0) firstRound,
        checked.Prompt 1 := by decide +kernel
    intro checked visited
    exact visited.observed.elim (before checked) (last checked)
  refine ⟨final, executed, unhealthy_until_success (show checkedConfig.server.healthCheck = some {} from rfl)
    (by decide) zero_le_one prompt executed (by simp [collected]) ?_⟩
  rw [collected]
  decide +kernel

end Checked

end L7Proxy
