import Mathlib.Algebra.Order.Group.Defs
import Mathlib.Algebra.Order.Group.Unbundled.Basic
import Mathlib.Algebra.Order.Monoid.Unbundled.Pow
import Mathlib.Data.List.Nodup
import Mathlib.Tactic.Abel

/-!
# Polling in rounds

A poller polls its targets one after the other in a fixed order, sleeps for an interval
and starts over. Between two polls of a target lies at least the interval, all targets are
polled equally often, and a poller that is never late leaves none of them alone for long.
-/

set_option autoImplicit false

namespace Polling

variable {Target Time : Type}

inductive Phase (Target Time : Type) where
  | sleeping (due : Time)
  | polling (started : Time) (target : Target) (rest : List Target)
  deriving DecidableEq

namespace Phase

/-- What is left of the round. -/
def remaining : Phase Target Time → List Target
  | .sleeping _ => []
  | .polling _ target rest => target :: rest

/-- The next poll of the round, or the sleep after its last one. -/
def resume [Add Time] (interval now : Time) : List Target → Phase Target Time
  | [] => .sleeping (now + interval)
  | target :: rest => .polling now target rest

@[simp] theorem remaining_resume [Add Time] (interval now : Time) (targets : List Target) :
    (resume interval now targets).remaining = targets := by
  cases targets <;> rfl

end Phase

theorem resume_sleeping [Add Time] {interval now due : Time} {targets : List Target}
    (sleeping : Phase.resume interval now targets = .sleeping due) : targets = [] ∧ due = now + interval := by
  cases targets with
  | nil => exact ⟨rfl, (Phase.sleeping.inj sleeping).symm⟩
  | cons target rest => cases sleeping

structure Poller (Target Time : Type) where
  order : List Target
  interval : Time

/-- The log holds the finished polls, the latest last. -/
structure State (Target Time : Type) where
  phase : Phase Target Time
  now : Time
  log : List (Time × Target)

/-- The times at which a target was polled. -/
def timesOf [DecidableEq Target] (target : Target) (log : List (Time × Target)) : List Time :=
  (log.filter fun poll => poll.2 = target).map (·.1)

theorem mem_timesOf [DecidableEq Target] {target : Target} {log : List (Time × Target)} {time : Time} :
    time ∈ timesOf target log ↔ (time, target) ∈ log := by
  simp [timesOf]

theorem timesOf_concat [DecidableEq Target] (target polled : Target) (log : List (Time × Target)) (time : Time) :
    timesOf target (log ++ [(time, polled)]) = timesOf target log ++ if polled = target then [time] else [] := by
  rw [timesOf, List.filter_append, List.map_append, ← timesOf]
  congr 1
  by_cases same : polled = target <;> simp [same]

section

variable [LinearOrder Time] [Add Time]

/-- Time passes, the sleep is over, or a poll ends. -/
inductive Step (poller : Poller Target Time) (state : State Target Time) : State Target Time → Prop where
  | advanced {later : Time} (forward : state.now ≤ later) : Step poller state { state with now := later }
  | woken {due : Time} (sleeping : state.phase = .sleeping due) (elapsed : due ≤ state.now) :
      Step poller state { state with phase := .resume poller.interval state.now poller.order }
  | finished {started : Time} {target : Target} {rest : List Target}
      (polling : state.phase = .polling started target rest) :
      Step poller state { state with
        phase := .resume poller.interval state.now rest
        log := state.log ++ [(state.now, target)] }

variable {poller : Poller Target Time} {state after : State Target Time}

/-!
## Turns
-/

/-- The polls so far and those left of the round are whole rounds. -/
structure InRounds (poller : Poller Target Time) (state : State Target Time) : Prop where
  rounds : ∃ rounds, state.log.map (·.2) ++ state.phase.remaining = (List.replicate rounds poller.order).flatten
  suffix : state.phase.remaining <:+ poller.order

theorem InRounds.step (inRounds : InRounds poller state) (stepped : Step poller state after) :
    InRounds poller after := by
  obtain ⟨rounds, whole⟩ := inRounds.rounds
  cases stepped with
  | advanced forward => exact ⟨⟨rounds, whole⟩, inRounds.suffix⟩
  | woken sleeping elapsed =>
      rw [sleeping, Phase.remaining, List.append_nil] at whole
      refine ⟨⟨rounds + 1, ?_⟩, ?_⟩
      · rw [Phase.remaining_resume, whole, List.replicate_succ', List.flatten_append, List.flatten_singleton]
      · exact ⟨[], Phase.remaining_resume _ _ _⟩
  | @finished started target rest polling =>
      have suffix := inRounds.suffix
      rw [polling, Phase.remaining] at whole suffix
      refine ⟨⟨rounds, ?_⟩, ?_⟩
      · rw [Phase.remaining_resume, List.map_append, List.append_assoc]
        exact whole
      · rw [Phase.remaining_resume]
        exact (List.suffix_cons target rest).trans suffix

omit [LinearOrder Time] [Add Time] in
/-- No target is ahead of another by more than one poll. -/
theorem InRounds.balanced [DecidableEq Target] (inRounds : InRounds poller state) (distinct : poller.order.Nodup)
    {target other : Target} (listed : target ∈ poller.order) (otherListed : other ∈ poller.order) :
    (state.log.map (·.2)).count target ≤ (state.log.map (·.2)).count other + 1 := by
  obtain ⟨rounds, whole⟩ := inRounds.rounds
  have counted : ∀ wanted ∈ poller.order,
      (state.log.map (·.2)).count wanted + state.phase.remaining.count wanted = rounds := by
    intro wanted member
    have count := congrArg (List.count wanted) whole
    rw [List.count_append, List.count_flatten, List.map_replicate, List.sum_replicate_nat,
      List.count_eq_one_of_mem distinct member] at count
    simpa using count
  have few := List.nodup_iff_count_le_one.mp (distinct.sublist inRounds.suffix.sublist) other
  have first := counted target listed
  have second := counted other otherListed
  omega

end

section

variable [LinearOrder Time] [AddCommGroup Time] [IsOrderedAddMonoid Time]
  {poller : Poller Target Time} {state after : State Target Time}

/-!
## Spacing
-/

/-- Between two polls of one target lies the interval, and the target polled next has
waited for it. -/
structure Spaced [DecidableEq Target] (poller : Poller Target Time) (state : State Target Time) : Prop where
  past : ∀ poll ∈ state.log, poll.1 ≤ state.now
  spaced : ∀ target, (timesOf target state.log).Pairwise fun earlier later => earlier + poller.interval ≤ later
  due : ∀ due, state.phase = .sleeping due → ∀ poll ∈ state.log, poll.1 + poller.interval ≤ due
  waited : ∀ poll ∈ state.log, poll.2 ∈ state.phase.remaining → poll.1 + poller.interval ≤ state.now
  distinct : state.phase.remaining.Nodup

variable [DecidableEq Target]

theorem Spaced.step (distinct : poller.order.Nodup) (spaced : Spaced poller state)
    (stepped : Step poller state after) : Spaced poller after := by
  cases stepped with
  | advanced forward =>
      exact ⟨fun poll member => (spaced.past poll member).trans forward, spaced.spaced, spaced.due,
        fun poll member left => (spaced.waited poll member left).trans forward, spaced.distinct⟩
  | woken sleeping elapsed =>
      have waited := fun poll member => (spaced.due _ sleeping poll member).trans elapsed
      refine ⟨spaced.past, spaced.spaced, fun due again poll member => ?_, fun poll member _ => waited poll member, ?_⟩
      · obtain ⟨_, same⟩ := resume_sleeping again
        exact same ▸ add_le_add_left (spaced.past poll member) _
      · rw [Phase.remaining_resume]
        exact distinct
  | @finished started target rest polling =>
      have remaining : state.phase.remaining = target :: rest := by rw [polling, Phase.remaining]
      have apart := remaining ▸ spaced.distinct
      have past : ∀ poll ∈ state.log ++ [(state.now, target)], poll.1 ≤ state.now := by
        intro poll member
        rcases List.mem_append.mp member with old | new
        · exact spaced.past poll old
        · rw [List.mem_singleton.mp new]
      refine ⟨past, fun wanted => ?_, fun due again poll member => ?_, fun poll member left => ?_, ?_⟩
      · rw [timesOf_concat]
        split
        · next same =>
            subst same
            refine List.pairwise_append.mpr ⟨spaced.spaced target, List.pairwise_singleton _ _, ?_⟩
            intro time earlier latest here
            rw [List.mem_singleton.mp here]
            exact spaced.waited _ (mem_timesOf.mp earlier) (remaining ▸ List.mem_cons_self)
        · rw [List.append_nil]
          exact spaced.spaced wanted
      · obtain ⟨_, same⟩ := resume_sleeping again
        exact same ▸ add_le_add_left (past poll member) _
      · rw [Phase.remaining_resume] at left
        rcases List.mem_append.mp member with old | new
        · exact spaced.waited poll old (remaining ▸ List.mem_cons_of_mem _ left)
        · rw [List.mem_singleton.mp new] at left
          exact absurd left (List.nodup_cons.mp apart).1
      · rw [Phase.remaining_resume]
        exact (List.nodup_cons.mp apart).2

/-- Times spaced by an interval do not crowd into a stretch of time. -/
theorem spaced_length {interval opens closes : Time} {times : List Time} {first : Time}
    (spaced : (first :: times).Pairwise fun earlier later => earlier + interval ≤ later)
    (inside : ∀ time ∈ first :: times, opens ≤ time ∧ time ≤ closes) :
    opens + times.length • interval ≤ closes := by
  have reaches : ∀ (times : List Time) (first : Time),
      (first :: times).Pairwise (fun earlier later => earlier + interval ≤ later) →
        ∃ last ∈ first :: times, first + times.length • interval ≤ last := by
    intro times
    induction times with
    | nil =>
        intro first _
        exact ⟨first, List.mem_singleton_self _, by simp⟩
    | cons second times ih =>
        intro first ordered
        obtain ⟨here, later⟩ := List.pairwise_cons.mp ordered
        obtain ⟨last, member, far⟩ := ih second later
        refine ⟨last, List.mem_cons_of_mem _ member, le_trans ?_ far⟩
        rw [List.length_cons, succ_nsmul', ← add_assoc]
        exact add_le_add_left (here second List.mem_cons_self) _
  obtain ⟨last, member, far⟩ := reaches times first spaced
  have start := (inside first List.mem_cons_self).1
  exact (add_le_add_left start _).trans (far.trans (inside last member).2)

/-!
## Promptness
-/

omit [DecidableEq Target]

/-- The poller is not late: it wakes up at most some slack after its sleep is due, and no poll
takes longer than a bound. -/
def Prompt (slack longest : Time) (phase : Phase Target Time) (now : Time) : Prop :=
  match phase with
  | .sleeping due => now ≤ due + slack
  | .polling started _ _ => now ≤ started + longest

/-- Since the target was polled, or since the start, no more than some time has passed. -/
def Within (start : Time) (log : List (Time × Target)) (target : Target) (age now : Time) : Prop :=
  ∃ time, (time = start ∨ (time, target) ∈ log) ∧ now ≤ time + age

theorem Within.later {start age older wait now later : Time} {log : List (Time × Target)} {target : Target}
    (within : Within start log target age now) (more : List (Time × Target))
    (waited : later ≤ now + wait) (enough : age + wait ≤ older) : Within start (log ++ more) target older later := by
  obtain ⟨time, polled, recent⟩ := within
  refine ⟨time, polled.imp_right fun member => List.mem_append_left _ member, ?_⟩
  calc later ≤ now + wait := waited
    _ ≤ time + age + wait := add_le_add_left recent wait
    _ = time + (age + wait) := add_assoc time age wait
    _ ≤ time + older := add_le_add_right enough time

/-- A round at the end of its latest poll: those polled in it were polled in turn, and the
others wait since the round before. -/
structure Round (poller : Poller Target Time) (slack longest start : Time) (log : List (Time × Target))
    (polled left : List Target) (now : Time) : Prop where
  order : poller.order = polled ++ left
  recent : ∀ earlier target later, polled = earlier ++ target :: later →
    Within start log target (later.length • longest) now
  waiting : ∀ earlier target later, left = earlier ++ target :: later →
    Within start log target (poller.interval + slack + (polled.length + later.length) • longest) now

variable {slack longest start now later : Time} {log : List (Time × Target)}

theorem Round.next {polled rest : List Target} {target : Target}
    (round : Round poller slack longest start log polled (target :: rest) now) (prompt : later ≤ now + longest) :
    Round poller slack longest start (log ++ [(later, target)]) (polled ++ [target]) rest later := by
  refine ⟨?_, ?_, ?_⟩
  · rw [round.order, List.append_assoc, List.singleton_append]
  · intro earlier wanted others split
    rcases List.eq_nil_or_concat' others with rfl | ⟨between, last, rfl⟩
    · obtain ⟨_, same⟩ := List.append_inj' split rfl
      cases same
      exact ⟨later, .inr (List.mem_append_right _ (List.mem_singleton_self _)), by simp⟩
    · rw [← List.cons_append, ← List.append_assoc] at split
      obtain ⟨before, _⟩ := List.append_inj' split rfl
      refine (round.recent earlier wanted between before).later _ prompt (le_of_eq ?_)
      rw [List.length_append, List.length_singleton, succ_nsmul]
  · intro earlier wanted others split
    refine (round.waiting (target :: earlier) wanted others (by rw [split, List.cons_append])).later _ prompt
      (le_of_eq ?_)
    rw [List.length_append, List.length_singleton, Nat.add_right_comm, succ_nsmul, add_assoc]

theorem Round.again (round : Round poller slack longest start log poller.order [] now)
    (prompt : later ≤ now + (poller.interval + slack)) :
    Round poller slack longest start log [] poller.order later := by
  refine ⟨rfl, ?_, ?_⟩
  · intro earlier target others split
    simp at split
  · intro earlier target others split
    have recent := (round.recent earlier target others split).later [] prompt le_rfl
    rwa [List.append_nil, add_comm, ← Nat.zero_add others.length] at recent

/-- The round a poller is in. -/
def Fresh (poller : Poller Target Time) (slack longest start : Time) (state : State Target Time) : Prop :=
  match state.phase with
  | .sleeping due => Round poller slack longest start state.log poller.order [] (due - poller.interval)
  | .polling started target rest => ∃ polled, Round poller slack longest start state.log polled (target :: rest) started

omit [IsOrderedAddMonoid Time] in
theorem Round.fresh {polled left : List Target} (round : Round poller slack longest start log polled left now)
    (current : Time) :
    Fresh poller slack longest start ⟨.resume poller.interval now left, current, log⟩ := by
  cases left with
  | nil =>
      have whole := round.order
      rw [List.append_nil] at whole
      simp only [Fresh, Phase.resume, add_sub_cancel_right]
      rwa [← whole] at round
  | cons target rest => exact ⟨polled, round⟩

theorem Fresh.step (fresh : Fresh poller slack longest start state) (prompt : Prompt slack longest state.phase state.now)
    (stepped : Step poller state after) : Fresh poller slack longest start after := by
  cases stepped with
  | advanced forward => exact fresh
  | woken sleeping elapsed =>
      rw [Fresh, sleeping] at fresh
      simp only [Prompt, sleeping] at prompt
      refine (fresh.again ?_).fresh state.now
      rwa [← add_assoc, sub_add_cancel]
  | finished polling =>
      rw [Fresh, polling] at fresh
      simp only [Prompt, polling] at prompt
      obtain ⟨polled, round⟩ := fresh
      exact (round.next prompt).fresh state.now

theorem fresh_start (long : 0 ≤ longest) :
    Fresh poller slack longest now ⟨.sleeping (now + poller.interval), now, []⟩ := by
  have since : ∀ target age, 0 ≤ age → Within now ([] : List (Time × Target)) target age now := fun _ _ age =>
    ⟨now, .inl rfl, le_add_of_nonneg_right age⟩
  simp only [Fresh, add_sub_cancel_right]
  refine ⟨(List.append_nil _).symm, ?_, ?_⟩
  · intro earlier target later split
    exact since target _ (nsmul_nonneg long _)
  · intro earlier target later split
    simp at split

/-- A prompt poller polled every target at most an interval and a round ago. -/
theorem Fresh.within (fresh : Fresh poller slack longest start state)
    (prompt : Prompt slack longest state.phase state.now) (long : 0 ≤ longest) (rests : 0 ≤ poller.interval + slack)
    {target : Target} (listed : target ∈ poller.order) :
    Within start state.log target (poller.interval + slack + poller.order.length • longest) state.now := by
  rw [← List.append_nil state.log]
  cases phase : state.phase with
  | sleeping due =>
      rw [Fresh, phase] at fresh
      simp only [Prompt, phase] at prompt
      obtain ⟨earlier, later, split⟩ := List.append_of_mem listed
      have shorter : later.length ≤ poller.order.length := by
        rw [split, List.length_append, List.length_cons]
        omega
      have reached : state.now ≤ due - poller.interval + (poller.interval + slack) := by
        rwa [← add_assoc, sub_add_cancel]
      apply (fresh.recent earlier target later split).later [] reached
      rw [add_comm]
      exact add_le_add_right (nsmul_le_nsmul_left long shorter) _
  | polling started current rest =>
      rw [Fresh, phase] at fresh
      simp only [Prompt, phase] at prompt
      obtain ⟨polled, round⟩ := fresh
      have length := congrArg List.length round.order
      rw [round.order] at listed
      rcases List.mem_append.mp listed with done | left
      · obtain ⟨earlier, later, split⟩ := List.append_of_mem done
        refine (round.recent earlier target later split).later [] prompt ?_
        have shorter : later.length + 1 ≤ poller.order.length := by
          rw [split] at length
          simp only [List.length_append, List.length_cons] at length
          omega
        rw [← succ_nsmul]
        exact (nsmul_le_nsmul_left long shorter).trans (le_add_of_nonneg_left rests)
      · obtain ⟨earlier, later, split⟩ := List.append_of_mem left
        refine (round.waiting earlier target later split).later [] prompt ?_
        have shorter : polled.length + later.length + 1 ≤ poller.order.length := by
          rw [split] at length
          simp only [List.length_append, List.length_cons] at length
          omega
        rw [add_assoc, ← succ_nsmul]
        exact add_le_add_right (nsmul_le_nsmul_left long shorter) _

end

end Polling
