import Mathlib.Logic.Basic
import Mathlib.Tactic.Common

/-!
# Effectful programs

A program is a tree of effects: each node asks its surroundings to perform one
effect and continues with the answer. Nothing is said about what an effect does,
so one program can be run against arbitrary answers or against a shared state.
-/

set_option autoImplicit false

namespace Interaction

variable {Effect : Type} {Answer : Effect → Type} {Value Result State : Type}

inductive Program (Effect : Type) (Answer : Effect → Type) (Value : Type) where
  | done (value : Value)
  | act (effect : Effect) (next : Answer effect → Program Effect Answer Value)

structure Event (Effect : Type) (Answer : Effect → Type) where
  effect : Effect
  answer : Answer effect

namespace Program

def bind (program : Program Effect Answer Value)
    (rest : Value → Program Effect Answer Result) : Program Effect Answer Result :=
  match program with
  | .done value => rest value
  | .act effect next => .act effect (fun answer => (next answer).bind rest)

def perform (effect : Effect) : Program Effect Answer (Answer effect) := .act effect .done

instance : Monad (Program Effect Answer) where
  pure := .done
  bind := bind

@[simp] theorem pure_eq_done (value : Value) :
    (pure value : Program Effect Answer Value) = .done value := rfl

@[simp] theorem bind_done (value : Value) (rest : Value → Program Effect Answer Result) :
    (Program.done value >>= rest) = rest value := rfl

@[simp] theorem bind_act (effect : Effect) (next : Answer effect → Program Effect Answer Value)
    (rest : Value → Program Effect Answer Result) :
    (Program.act effect next >>= rest) = .act effect (fun answer => next answer >>= rest) := rfl

@[simp] theorem perform_bind (effect : Effect)
    (rest : Answer effect → Program Effect Answer Result) :
    (perform effect >>= rest) = .act effect rest := rfl

/-!
## Partial and complete runs
-/

/-- The program has performed the listed events and the given program remains. -/
inductive Steps : Program Effect Answer Value → List (Event Effect Answer) →
    Program Effect Answer Value → Prop where
  | refl (program : Program Effect Answer Value) : Steps program [] program
  | act {effect : Effect} {next : Answer effect → Program Effect Answer Value}
      {answer : Answer effect} {trace : List (Event Effect Answer)}
      {rest : Program Effect Answer Value} (later : Steps (next answer) trace rest) :
      Steps (.act effect next) (⟨effect, answer⟩ :: trace) rest

/-- A complete run: the whole trace and the value returned at its end. -/
abbrev Runs (program : Program Effect Answer Value) (trace : List (Event Effect Answer))
    (value : Value) : Prop := Steps program trace (.done value)

theorem Steps.append {first middle last : Program Effect Answer Value}
    {before after : List (Event Effect Answer)}
    (left : Steps first before middle) (right : Steps middle after last) :
    Steps first (before ++ after) last := by
  induction left with
  | refl => exact right
  | act _ ih => exact .act (ih right)

theorem Steps.snoc {program : Program Effect Answer Value} {trace : List (Event Effect Answer)}
    {effect : Effect} {next : Answer effect → Program Effect Answer Value}
    (steps : Steps program trace (.act effect next)) (answer : Answer effect) :
    Steps program (trace ++ [⟨effect, answer⟩]) (next answer) :=
  steps.append (.act (.refl _))

theorem Steps.bind {program middle : Program Effect Answer Value} {trace : List (Event Effect Answer)}
    (steps : Steps program trace middle) (rest : Value → Program Effect Answer Result) :
    Steps (program >>= rest) trace (middle >>= rest) := by
  induction steps with
  | refl => exact .refl _
  | act _ ih => exact .act ih

@[simp] theorem runs_done {value result : Value} {trace : List (Event Effect Answer)} :
    Runs (.done value) trace result ↔ trace = [] ∧ result = value := by
  constructor
  · intro run
    cases run
    exact ⟨rfl, rfl⟩
  · intro both
    obtain ⟨rfl, rfl⟩ := both
    exact .refl _

@[simp] theorem runs_act {effect : Effect} {next : Answer effect → Program Effect Answer Value}
    {trace : List (Event Effect Answer)} {value : Value} :
    Runs (.act effect next) trace value ↔
      ∃ answer later, trace = ⟨effect, answer⟩ :: later ∧ Runs (next answer) later value := by
  constructor
  · intro run
    cases run with
    | act later => exact ⟨_, _, rfl, later⟩
  · intro composed
    obtain ⟨answer, later, rfl, run⟩ := composed
    exact .act run

theorem runs_act_cons {effect : Effect} {next : Answer effect → Program Effect Answer Value}
    {answer : Answer effect} {trace : List (Event Effect Answer)} {value : Value} :
    Runs (.act effect next) (⟨effect, answer⟩ :: trace) value ↔ Runs (next answer) trace value := by
  constructor
  · intro run
    cases run with
    | act later => exact later
  · exact .act

theorem runs_bind {program : Program Effect Answer Value}
    {rest : Value → Program Effect Answer Result}
    {trace : List (Event Effect Answer)} {result : Result} :
    Runs (program >>= rest) trace result ↔
      ∃ value before after, trace = before ++ after ∧ Runs program before value ∧
        Runs (rest value) after result := by
  induction program generalizing trace with
  | done value => simp
  | act effect next ih =>
      simp only [bind_act, runs_act]
      constructor
      · intro composed
        obtain ⟨answer, later, rfl, run⟩ := composed
        obtain ⟨value, before, after, rfl, first, second⟩ := (ih answer).mp run
        exact ⟨value, ⟨effect, answer⟩ :: before, after, rfl, ⟨answer, before, rfl, first⟩, second⟩
      · intro composed
        obtain ⟨value, before, after, rfl, ⟨answer, later, rfl, first⟩, second⟩ := composed
        exact ⟨answer, later ++ after, rfl, (ih answer).mpr ⟨value, later, after, rfl, first, second⟩⟩

/-- The run in which every effect is answered by a fixed rule; `none` where the
rule has no answer. -/
def answerBy (rule : (effect : Effect) → Option (Answer effect)) :
    Program Effect Answer Value → Option (List (Event Effect Answer) × Value)
  | .done value => some ([], value)
  | .act effect next =>
      (rule effect).bind fun answer =>
        ((next answer).answerBy rule).map fun later => (⟨effect, answer⟩ :: later.1, later.2)

theorem answerBy_runs {rule : (effect : Effect) → Option (Answer effect)}
    {program : Program Effect Answer Value} {trace : List (Event Effect Answer)} {value : Value}
    (answered : program.answerBy rule = some (trace, value)) : Runs program trace value := by
  induction program generalizing trace with
  | done returned =>
      cases answered
      exact .refl _
  | act effect next ih =>
      obtain ⟨answer, _, rest⟩ := Option.bind_eq_some_iff.mp answered
      obtain ⟨later, found, same⟩ := Option.map_eq_some_iff.mp rest
      cases same
      exact .act (ih answer found)

end Program

/-!
## Monitors
-/

/-- A ghost state that observes every event of a program, with the effects the
program may perform in each ghost state. -/
structure Monitor (Effect : Type) (Answer : Effect → Type) (State : Type) where
  next : State → Event Effect Answer → State
  allowed : State → Effect → Prop

/-- In the ghost state the effect is allowed and changes nothing. -/
def Monitor.Overlooks (monitor : Monitor Effect Answer State) (state : State) (effect : Effect) : Prop :=
  monitor.allowed state effect ∧ ∀ answer, monitor.next state ⟨effect, answer⟩ = state

namespace Program

variable {monitor : Monitor Effect Answer State}

/-- Started in a ghost state, whatever the answers, the program performs only
allowed effects and returns in a ghost state related to its value. -/
def Follows (monitor : Monitor Effect Answer State) (post : State → Value → Prop) :
    Program Effect Answer Value → State → Prop
  | .done value, state => post state value
  | .act effect next, state => monitor.allowed state effect ∧
      ∀ answer, Follows monitor post (next answer) (monitor.next state ⟨effect, answer⟩)

@[simp] theorem follows_done {post : State → Value → Prop} {value : Value} {state : State} :
    Follows monitor post (.done value) state ↔ post state value := Iff.rfl

@[simp] theorem follows_act {post : State → Value → Prop} {effect : Effect}
    {next : Answer effect → Program Effect Answer Value} {state : State} :
    Follows monitor post (.act effect next) state ↔ monitor.allowed state effect ∧
      ∀ answer, Follows monitor post (next answer) (monitor.next state ⟨effect, answer⟩) := Iff.rfl

theorem follows_bind {post : State → Result → Prop} {program : Program Effect Answer Value}
    {rest : Value → Program Effect Answer Result} {state : State} :
    Follows monitor post (program >>= rest) state ↔
      Follows monitor (fun reached value => Follows monitor post (rest value) reached)
        program state := by
  induction program generalizing state with
  | done value => simp
  | act effect next ih => simp only [bind_act, follows_act, ih]

theorem Follows.mono {weaker stronger : State → Value → Prop}
    (implies : ∀ state value, stronger state value → weaker state value)
    {program : Program Effect Answer Value} {state : State}
    (follows : Follows monitor stronger program state) : Follows monitor weaker program state := by
  induction program generalizing state with
  | done value => exact implies _ _ follows
  | act effect next ih => exact ⟨follows.1, fun answer => ih answer (follows.2 answer)⟩

/-- What remains of a partial run still follows the monitor, from the ghost
state its events lead to. -/
theorem Follows.steps {post : State → Value → Prop} {program rest : Program Effect Answer Value}
    {trace : List (Event Effect Answer)} {state : State}
    (follows : Follows monitor post program state) (steps : Steps program trace rest) :
    Follows monitor post rest (trace.foldl monitor.next state) := by
  induction steps generalizing state with
  | refl => exact follows
  | act _ ih => exact ih (follows.2 _)

theorem Follows.runs {post : State → Value → Prop} {program : Program Effect Answer Value}
    {trace : List (Event Effect Answer)} {state : State} {value : Value}
    (follows : Follows monitor post program state) (run : Runs program trace value) :
    post (trace.foldl monitor.next state) value :=
  follows.steps run

/-- What every allowed event keeps true of the events so far and the ghost state holds
after any partial run. -/
theorem Follows.recorded {post : State → Value → Prop} {program rest : Program Effect Answer Value}
    {trace before : List (Event Effect Answer)} {state : State}
    (holds : List (Event Effect Answer) → State → Prop)
    (kept : ∀ history state event, monitor.allowed state event.effect → holds history state →
      holds (history ++ [event]) (monitor.next state event))
    (follows : Follows monitor post program state) (steps : Steps program trace rest)
    (initial : holds before state) : holds (before ++ trace) (trace.foldl monitor.next state) := by
  induction steps generalizing state before with
  | refl => simpa using initial
  | @act effect next answer trace rest _ ih =>
      have extended := ih (follows.2 answer) (kept before state ⟨effect, answer⟩ follows.1 initial)
      rwa [List.append_assoc, List.singleton_append] at extended

/-- The monitor whose ghost state is the run so far. -/
def watching (allowed : List (Event Effect Answer) → Effect → Prop) :
    Monitor Effect Answer (List (Event Effect Answer)) where
  next history event := history ++ [event]
  allowed := allowed

theorem foldl_watching (allowed : List (Event Effect Answer) → Effect → Prop)
    (trace before : List (Event Effect Answer)) :
    trace.foldl (watching allowed).next before = before ++ trace := by
  induction trace generalizing before with
  | nil => exact (List.append_nil before).symm
  | cons event trace ih => exact (ih (before ++ [event])).trans (List.append_cons before event trace).symm

/-- What a partial run performs next is allowed after the events so far. -/
theorem Follows.allowed_next {allowed : List (Event Effect Answer) → Effect → Prop}
    {post : List (Event Effect Answer) → Value → Prop} {program : Program Effect Answer Value}
    {trace : List (Event Effect Answer)} {effect : Effect}
    {next : Answer effect → Program Effect Answer Value}
    (follows : Follows (watching allowed) post program []) (steps : Steps program trace (.act effect next)) :
    allowed trace effect := by
  have rest := follows.steps steps
  rw [foldl_watching] at rest
  exact rest.1

/-- A budget of effects that every effect draws on. -/
def meter : Monitor Effect Answer Nat where
  next left _ := left - 1
  allowed left _ := 0 < left

/-- A larger budget does as well, when the value asks for no upper bound on what is left. -/
theorem Follows.of_budget_le {post : Nat → Value → Prop} {program : Program Effect Answer Value}
    {budget larger : Nat} (upward : ∀ less more value, less ≤ more → post less value → post more value)
    (follows : Follows meter post program budget) (enough : budget ≤ larger) :
    Follows meter post program larger := by
  induction program generalizing budget larger with
  | done value => exact upward _ _ value enough follows
  | act effect next ih =>
      have positive : 0 < budget := follows.1
      exact ⟨Nat.lt_of_lt_of_le positive enough, fun answer =>
        ih answer (follows.2 answer) (Nat.sub_le_sub_right enough 1)⟩

/-- What follows needs no more than the first program leaves. -/
theorem Follows.bind_within {post : Nat → Result → Prop} {program : Program Effect Answer Value}
    {rest : Value → Program Effect Answer Result} {budget : Nat} (need : Value → Nat)
    (upward : ∀ less more result, less ≤ more → post less result → post more result)
    (follows : Follows meter (fun left value => need value ≤ left) program budget)
    (later : ∀ value, Follows meter post (rest value) (need value)) :
    Follows meter post (program >>= rest) budget := by
  rw [follows_bind]
  exact follows.mono fun left value enough => (later value).of_budget_le upward enough

/-- A program that stays within a budget performs no more effects than it has. -/
theorem Follows.length_le {post : Nat → Value → Prop} {program rest : Program Effect Answer Value}
    {trace : List (Event Effect Answer)} {budget : Nat} (follows : Follows meter post program budget)
    (steps : Steps program trace rest) : trace.length ≤ budget := by
  induction steps generalizing budget with
  | refl => exact Nat.zero_le _
  | act _ ih =>
      have later := ih (follows.2 _)
      have positive : 0 < budget := follows.1
      exact Nat.add_le_of_le_sub positive later

@[simp] theorem follows_ite {post : State → Value → Prop} {condition : Prop} [Decidable condition]
    {yes no : Program Effect Answer Value} {state : State} :
    Follows monitor post (if condition then yes else no) state ↔
      if condition then Follows monitor post yes state else Follows monitor post no state := by
  split <;> rfl

/-- The program performs only effects of one kind and returns only values of one kind. -/
def Confined (effects : Effect → Prop) (values : Value → Prop) : Program Effect Answer Value → Prop
  | .done value => values value
  | .act effect next => effects effect ∧ ∀ answer, Confined effects values (next answer)

theorem Confined.mono {effects otherEffects : Effect → Prop} {values otherValues : Value → Prop}
    {program : Program Effect Answer Value} (confined : Confined effects values program)
    (widerEffects : ∀ effect, effects effect → otherEffects effect)
    (widerValues : ∀ value, values value → otherValues value) :
    Confined otherEffects otherValues program := by
  induction program with
  | done value => exact widerValues value confined
  | act effect next ih => exact ⟨widerEffects effect confined.1, fun answer => ih answer (confined.2 answer)⟩

theorem Confined.bind {effects : Effect → Prop} {values : Value → Prop} {results : Result → Prop}
    {program : Program Effect Answer Value} {rest : Value → Program Effect Answer Result}
    (confined : Confined effects values program)
    (continues : ∀ value, values value → Confined effects results (rest value)) :
    Confined effects results (program >>= rest) := by
  induction program with
  | done value => exact continues value confined
  | act effect next ih => exact ⟨confined.1, fun answer => ih answer (confined.2 answer)⟩

/-- A program that performs only effects that keep an invariant of the ghost state follows
the monitor. -/
theorem Follows.of_confined_keeping {effects : Effect → Prop} {values : Value → Prop}
    {post : State → Value → Prop} {program : Program Effect Answer Value} (invariant : State → Prop)
    (confined : Confined effects values program)
    (kept : ∀ state effect, invariant state → effects effect →
      monitor.allowed state effect ∧ ∀ answer, invariant (monitor.next state ⟨effect, answer⟩))
    (returns : ∀ state value, invariant state → values value → post state value)
    {state : State} (holds : invariant state) : Follows monitor post program state := by
  induction program generalizing state with
  | done value => exact returns state value holds confined
  | act effect next ih =>
      obtain ⟨allowed, later⟩ := kept state effect holds confined.1
      exact ⟨allowed, fun answer => ih answer (confined.2 answer) (later answer)⟩

theorem Follows.of_confined {effects : Effect → Prop} {values : Value → Prop}
    {post : State → Value → Prop} {program : Program Effect Answer Value} {state : State}
    (confined : Confined effects values program)
    (overlooked : ∀ effect, effects effect → monitor.Overlooks state effect)
    (returns : ∀ value, values value → post state value) : Follows monitor post program state := by
  apply Follows.of_confined_keeping (· = state) confined
  · intro reached effect same ofKind
    subst same
    exact overlooked effect ofKind
  · intro reached value same ofKind
    subst same
    exact returns value ofKind
  · rfl

end Program

end Interaction
