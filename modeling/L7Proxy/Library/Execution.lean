import Mathlib.Data.List.Induction
import Mathlib.Order.Basic
import Mathlib.Tactic.Common

/-!
# Executions of a partial step function

Runs of a machine given by a step function that refuses the actions it does not
allow, the states a run visits, and the rule that lifts a step lemma to runs.
-/

set_option autoImplicit false

namespace Interaction

variable {State Action : Type}

/-- Perform the actions in order; `none` when one of them is refused. -/
def execute (step : State → Action → Option State) : State → List Action → Option State
  | state, [] => some state
  | state, action :: actions => (step state action).bind (execute step · actions)

variable {step : State → Action → Option State}

@[simp] theorem execute_nil {state : State} : execute step state [] = some state := rfl

theorem execute_cons {start final : State} {action : Action} {actions : List Action} :
    execute step start (action :: actions) = some final ↔
      ∃ middle, step start action = some middle ∧ execute step middle actions = some final := by
  simp only [execute, Option.bind_eq_some_iff]

theorem execute_append {start final : State} {before after : List Action} :
    execute step start (before ++ after) = some final ↔
      ∃ middle, execute step start before = some middle ∧ execute step middle after = some final := by
  induction before generalizing start with
  | nil => simp
  | cons action before ih =>
      simp only [List.cons_append, execute_cons, ih]
      constructor
      · intro composed
        obtain ⟨next, stepped, middle, first, second⟩ := composed
        exact ⟨middle, ⟨next, stepped, first⟩, second⟩
      · intro composed
        obtain ⟨middle, ⟨next, stepped, first⟩, second⟩ := composed
        exact ⟨next, stepped, middle, first, second⟩

theorem execute_after {start middle : State} {before : List Action}
    (executed : execute step start before = some middle) (after : List Action) :
    execute step start (before ++ after) = execute step middle after := by
  ext final
  simp only [execute_append, executed, Option.some.injEq, exists_eq_left']

/-- What one step preserves, a whole run preserves. -/
theorem execute_preserves (invariant : State → Prop)
    (preserved : ∀ state action next, invariant state → step state action = some next → invariant next)
    {start final : State} {actions : List Action} (initial : invariant start)
    (executed : execute step start actions = some final) : invariant final := by
  induction actions generalizing start with
  | nil =>
      cases executed
      exact initial
  | cons action actions ih =>
      obtain ⟨next, stepped, rest⟩ := execute_cons.mp executed
      exact ih (preserved start action next initial stepped) rest

/-- The run performs the action in the first state and reaches the second. -/
def Performs (step : State → Action → Option State) (start : State) (actions : List Action)
    (before : State) (action : Action) (after : State) : Prop :=
  ∃ earlier later, actions = earlier ++ action :: later ∧
    execute step start earlier = some before ∧ step before action = some after

def Visits (step : State → Action → Option State) (start : State) (actions : List Action)
    (state : State) : Prop :=
  ∃ earlier later, actions = earlier ++ later ∧ execute step start earlier = some state

theorem Visits.start {start : State} {actions : List Action} : Visits step start actions start :=
  ⟨[], actions, rfl, rfl⟩

theorem Visits.final {start final : State} {actions : List Action}
    (executed : execute step start actions = some final) : Visits step start actions final :=
  ⟨actions, [], by simp, executed⟩

theorem Performs.visits_before {start before after : State} {actions : List Action} {action : Action}
    (performed : Performs step start actions before action after) :
    Visits step start actions before := by
  obtain ⟨earlier, later, rfl, executed, _⟩ := performed
  exact ⟨earlier, action :: later, rfl, executed⟩

theorem Performs.visits_after {start before after : State} {actions : List Action} {action : Action}
    (performed : Performs step start actions before action after) :
    Visits step start actions after := by
  obtain ⟨earlier, later, rfl, executed, stepped⟩ := performed
  refine ⟨earlier ++ [action], later, by simp, execute_append.mpr ⟨before, executed, ?_⟩⟩
  exact execute_cons.mpr ⟨after, stepped, rfl⟩

theorem Performs.append {start before after : State} {actions : List Action} {action : Action}
    (performed : Performs step start actions before action after) (further : List Action) :
    Performs step start (actions ++ further) before action after := by
  obtain ⟨earlier, later, rfl, executed, stepped⟩ := performed
  exact ⟨earlier, later ++ further, by simp, executed, stepped⟩

theorem Performs.continues {start before after final : State} {actions : List Action} {action : Action}
    (performed : Performs step start actions before action after)
    (executed : execute step start actions = some final) :
    ∃ later, execute step after later = some final := by
  obtain ⟨earlier, later, rfl, reached, stepped⟩ := performed
  obtain ⟨middle, same, rest⟩ := execute_append.mp executed
  rw [reached, Option.some.injEq] at same
  subst same
  obtain ⟨next, steppedNext, continued⟩ := execute_cons.mp rest
  rw [stepped, Option.some.injEq] at steppedNext
  subst steppedNext
  exact ⟨later, continued⟩

/-- A state property that every performed step keeps holds in every visited state. -/
theorem visits_preserves (invariant : State → Prop) {start : State} {actions : List Action}
    (initial : invariant start)
    (preserved : ∀ before action after, Performs step start actions before action after →
      invariant before → invariant after)
    {state : State} (visited : Visits step start actions state) : invariant state := by
  obtain ⟨earlier, later, rfl, executed⟩ := visited
  induction earlier using List.reverseRecOn generalizing later state with
  | nil =>
      cases executed
      exact initial
  | append_singleton earlier action ih =>
      obtain ⟨before, reached, single⟩ := execute_append.mp executed
      obtain ⟨after, stepped, finished⟩ := execute_cons.mp single
      cases finished
      have performed : Performs step start (earlier ++ [action] ++ later) before action state :=
        ⟨earlier, later, by simp, reached, stepped⟩
      refine preserved before action state performed ?_
      exact ih (action :: later) (by simpa using reached) (by simpa using preserved)

/-- A few steps of one party alone lead to the goal. -/
def Brings (step : State → Action → Option State) (own : Action → Bool) (bound : Nat) (start : State)
    (goal : State → Prop) : Prop :=
  ∃ actions final, actions.length ≤ bound ∧ actions.all own = true ∧ execute step start actions = some final ∧
    goal final

section

variable {own : Action → Bool} {start middle : State} {bound : Nat} {goal : State → Prop}

theorem Brings.here (bound : Nat) (reached : goal start) : Brings step own bound start goal :=
  ⟨[], start, Nat.zero_le _, rfl, rfl, reached⟩

theorem Brings.after {action : Action} (owned : own action = true) (stepped : step start action = some middle)
    (brings : Brings step own bound middle goal) : Brings step own (bound + 1) start goal := by
  obtain ⟨actions, final, short, all, executed, reached⟩ := brings
  refine ⟨action :: actions, final, Nat.succ_le_succ short, ?_, execute_cons.mpr ⟨middle, stepped, executed⟩, reached⟩
  rw [List.all_cons, owned, all]
  rfl

theorem Brings.mono {weaker : State → Prop} {larger : Nat} (brings : Brings step own bound start goal)
    (longer : bound ≤ larger) (implies : ∀ final, goal final → weaker final) : Brings step own larger start weaker := by
  obtain ⟨actions, final, short, all, executed, reached⟩ := brings
  exact ⟨actions, final, Nat.le_trans short longer, all, executed, implies final reached⟩

theorem Brings.trans {later : State → Prop} {further : Nat} (brings : Brings step own bound start goal)
    (continues : ∀ middle, goal middle → Brings step own further middle later) :
    Brings step own (bound + further) start later := by
  obtain ⟨first, middle, shortFirst, allFirst, executed, reached⟩ := brings
  obtain ⟨second, final, shortSecond, allSecond, continued, finished⟩ := continues middle reached
  refine ⟨first ++ second, final, ?_, ?_, execute_append.mpr ⟨middle, executed, continued⟩, finished⟩
  · rw [List.length_append]
    exact Nat.add_le_add shortFirst shortSecond
  · rw [List.all_append, allFirst, allSecond]
    rfl

end

/-!
## What a run shows
-/

section

variable {Seen : Type} {observe : State → Action → List Seen}

/-- What the steps of a run show, in order. -/
def observations (step : State → Action → Option State) (observe : State → Action → List Seen) :
    State → List Action → List Seen
  | _, [] => []
  | state, action :: actions =>
      observe state action ++ (step state action).elim [] (observations step observe · actions)

@[simp] theorem observations_nil {state : State} : observations step observe state [] = [] := rfl

theorem observations_cons {start next : State} {action : Action}
    (stepped : step start action = some next) (actions : List Action) :
    observations step observe start (action :: actions) =
      observe start action ++ observations step observe next actions := by
  rw [observations, stepped, Option.elim_some]

theorem observations_single (start : State) (action : Action) :
    observations step observe start [action] = observe start action := by
  rw [observations]
  cases step start action <;> simp

theorem observations_append {start middle : State} {before : List Action}
    (executed : execute step start before = some middle) (after : List Action) :
    observations step observe start (before ++ after) =
      observations step observe start before ++ observations step observe middle after := by
  induction before generalizing start with
  | nil =>
      cases executed
      rfl
  | cons action before ih =>
      obtain ⟨next, stepped, rest⟩ := execute_cons.mp executed
      rw [List.cons_append, observations_cons stepped, observations_cons stepped, ih rest, List.append_assoc]

theorem observations_concat {start before after : State} {earlier : List Action} {action : Action}
    (executed : execute step start earlier = some before) (stepped : step before action = some after) :
    observations step observe start (earlier ++ [action]) =
      observations step observe start earlier ++ observe before action := by
  rw [observations_append executed, observations_cons stepped, observations_nil, List.append_nil]

/-- The visited states are those before the actions, and the final one. -/
theorem Visits.observed {start state : State} {actions : List Action} (visited : Visits step start actions state) :
    state ∈ observations step (fun state _ => [state]) start actions ∨
      execute step start actions = some state := by
  obtain ⟨earlier, later, rfl, reached⟩ := visited
  cases later with
  | nil =>
      rw [List.append_nil]
      exact .inr reached
  | cons action later =>
      left
      rw [observations_append reached, observations]
      simp

/-- What one step keeps of the observations so far and the state, a whole run keeps. -/
theorem observations_preserves (invariant : List Seen → State → Prop)
    (kept : ∀ seen state action next, invariant seen state → step state action = some next →
      invariant (seen ++ observe state action) next)
    {start final : State} {actions : List Action} (initial : invariant [] start)
    (executed : execute step start actions = some final) :
    invariant (observations step observe start actions) final := by
  induction actions using List.reverseRecOn generalizing final with
  | nil =>
      cases executed
      exact initial
  | append_singleton actions action ih =>
      obtain ⟨before, reached, single⟩ := execute_append.mp executed
      obtain ⟨after, stepped, finished⟩ := execute_cons.mp single
      cases finished
      rw [observations_concat reached stepped]
      exact kept _ before action final (ih reached) stepped

/-- What every performed step keeps of the observations so far and the state, the run keeps. -/
theorem observations_performed (invariant : List Seen → State → Prop) {start final : State} {actions : List Action}
    (initial : invariant [] start)
    (kept : ∀ seen before action after, Performs step start actions before action after →
      invariant seen before → invariant (seen ++ observe before action) after)
    (executed : execute step start actions = some final) :
    invariant (observations step observe start actions) final := by
  induction actions using List.reverseRecOn generalizing final with
  | nil =>
      cases executed
      exact initial
  | append_singleton actions action ih =>
      obtain ⟨before, reached, single⟩ := execute_append.mp executed
      obtain ⟨after, stepped, finished⟩ := execute_cons.mp single
      cases finished
      rw [observations_concat reached stepped]
      apply kept _ before action final ⟨actions, [], rfl, reached, stepped⟩
      exact ih (fun seen before action after performed => kept seen before action after (performed.append _)) reached

/-- Observations made at the readings of a clock that never goes back come in the order
of their times. -/
theorem observations_sorted {Time : Type} [Preorder Time] {clock : State → Time} {timeOf : Seen → Time}
    (forward : ∀ state action next, step state action = some next → clock state ≤ clock next)
    (timed : ∀ state action, ∀ seen ∈ observe state action, timeOf seen = clock state)
    {start final : State} {actions : List Action} (executed : execute step start actions = some final) :
    (observations step observe start actions).Pairwise (fun left right => timeOf left ≤ timeOf right) ∧
      ∀ seen ∈ observations step observe start actions, timeOf seen ≤ clock final := by
  refine observations_preserves (fun seen state => seen.Pairwise (fun left right => timeOf left ≤ timeOf right) ∧
    ∀ entry ∈ seen, timeOf entry ≤ clock state) ?_ (by simp) executed
  intro seen before action after holds stepped
  obtain ⟨sorted, past⟩ := holds
  constructor
  · refine List.pairwise_append.mpr ⟨sorted, ?_, ?_⟩
    · refine List.pairwise_iff_forall_sublist.mpr ?_
      intro left right both
      have leftMember := both.subset List.mem_cons_self
      have rightMember := both.subset (List.mem_cons_of_mem _ List.mem_cons_self)
      rw [timed before action left leftMember, timed before action right rightMember]
    · intro left leftMember right rightMember
      rw [timed before action right rightMember]
      exact past left leftMember
  · intro entry member
    rcases List.mem_append.mp member with old | new
    · exact (past entry old).trans (forward before action after stepped)
    · rw [timed before action entry new]
      exact forward before action after stepped

end

/-!
## Machines that answer every input
-/

section

variable {Input Output : Type} {respondTo : State → Input → Output × State}

def respond (respondTo : State → Input → Output × State) : State → List Input → List Output × State
  | state, [] => ([], state)
  | state, input :: inputs =>
      let (output, state) := respondTo state input
      let (outputs, state) := respond respondTo state inputs
      (output :: outputs, state)

@[simp] theorem respond_nil {state : State} : respond respondTo state [] = ([], state) := rfl

@[simp] theorem respond_cons {state : State} {input : Input} {inputs : List Input} :
    respond respondTo state (input :: inputs) =
      ((respondTo state input).1 :: (respond respondTo (respondTo state input).2 inputs).1,
        (respond respondTo (respondTo state input).2 inputs).2) := rfl

theorem respond_append {state : State} {before after : List Input} :
    respond respondTo state (before ++ after) =
      ((respond respondTo state before).1 ++
          (respond respondTo (respond respondTo state before).2 after).1,
        (respond respondTo (respond respondTo state before).2 after).2) := by
  induction before generalizing state with
  | nil => rfl
  | cons input before ih => simp [ih]

/-- What every response keeps, all of them keep. -/
theorem respond_preserves {invariant : State → Prop}
    (keeps : ∀ state input, invariant state → invariant (respondTo state input).2) {state : State}
    (holds : invariant state) (inputs : List Input) : invariant (respond respondTo state inputs).2 := by
  induction inputs generalizing state with
  | nil => exact holds
  | cons input inputs ih => exact ih (keeps state input holds)

end

end Interaction
