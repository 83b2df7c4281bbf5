import L7Proxy.Library.Execution
import L7Proxy.Library.Program
import Mathlib.Data.List.Forall2

/-!
# Two runs side by side

Programs that perform matching effects for as long as they receive matching answers,
and machines that take every action in step.
-/

set_option autoImplicit false

namespace Interaction

variable {Effect Other : Type} {Answer : Effect → Type} {OtherAnswer : Other → Type}
  {Value OtherValue Result OtherResult : Type}

/-- Which effects, and which effects with their answers, of two programs belong together. -/
structure Matching (Effect : Type) (Answer : Effect → Type) (Other : Type)
    (OtherAnswer : Other → Type) where
  effects : Effect → Other → Prop
  events : Event Effect Answer → Event Other OtherAnswer → Prop

namespace Program

/-- The programs perform matching effects, go on alike after all matching answers, and
return related values. -/
def Alike (matching : Matching Effect Answer Other OtherAnswer) (values : Value → OtherValue → Prop) :
    Program Effect Answer Value → Program Other OtherAnswer OtherValue → Prop
  | .done value, .done other => values value other
  | .act effect next, .act other otherNext => matching.effects effect other ∧
      ∀ answer otherAnswer, matching.events ⟨effect, answer⟩ ⟨other, otherAnswer⟩ →
        Alike matching values (next answer) (otherNext otherAnswer)
  | _, _ => False

variable {matching : Matching Effect Answer Other OtherAnswer} {values : Value → OtherValue → Prop}
  {results : Result → OtherResult → Prop}

theorem Alike.cases {program : Program Effect Answer Value} {other : Program Other OtherAnswer OtherValue}
    (alike : Alike matching values program other) :
    (∃ value otherValue, program = .done value ∧ other = .done otherValue ∧ values value otherValue) ∨
      ∃ effect next otherEffect otherNext, program = .act effect next ∧ other = .act otherEffect otherNext ∧
        matching.effects effect otherEffect ∧
        ∀ answer otherAnswer, matching.events ⟨effect, answer⟩ ⟨otherEffect, otherAnswer⟩ →
          Alike matching values (next answer) (otherNext otherAnswer) := by
  cases program with
  | done value =>
      cases other with
      | done otherValue => exact .inl ⟨_, _, rfl, rfl, alike⟩
      | act => exact alike.elim
  | act effect next =>
      cases other with
      | done => exact alike.elim
      | act otherEffect otherNext => exact .inr ⟨_, _, _, _, rfl, rfl, alike⟩

theorem Alike.bind {program : Program Effect Answer Value} {other : Program Other OtherAnswer OtherValue}
    {rest : Value → Program Effect Answer Result} {otherRest : OtherValue → Program Other OtherAnswer OtherResult}
    (first : Alike matching values program other)
    (second : ∀ value otherValue, values value otherValue →
      Alike matching results (rest value) (otherRest otherValue)) :
    Alike matching results (program >>= rest) (other >>= otherRest) := by
  induction program generalizing other with
  | done value =>
      cases other with
      | done otherValue => exact second value otherValue first
      | act => exact first.elim
  | act effect next ih =>
      cases other with
      | done => exact first.elim
      | act otherEffect otherNext =>
          exact ⟨first.1, fun answer otherAnswer matched =>
            ih answer (first.2 answer otherAnswer matched)⟩

/-- A program whose effects match themselves, with equal answers only, is like itself. -/
theorem Alike.of_confined {matching : Matching Effect Answer Effect Answer} {kind : Effect → Prop}
    {returns : Value → Prop} {program : Program Effect Answer Value}
    (confined : program.Confined kind returns)
    (same : ∀ effect, kind effect → matching.effects effect effect ∧
      ∀ answer other, matching.events ⟨effect, answer⟩ ⟨effect, other⟩ → answer = other) :
    Alike matching Eq program program := by
  induction program with
  | done value => exact rfl
  | act effect next ih =>
      obtain ⟨itself, equal⟩ := same effect confined.1
      refine ⟨itself, fun answer other matched => ?_⟩
      cases equal answer other matched
      exact ih answer (confined.2 answer)

end Program

/-!
## Machines in step
-/

theorem related_bind {Left Right LeftResult RightResult : Type} {related : Left → Right → Prop}
    {results : LeftResult → RightResult → Prop} {left : Option Left} {right : Option Right}
    {rest : Left → Option LeftResult} {otherRest : Right → Option RightResult}
    (together : Option.Rel related left right)
    (later : ∀ value other, related value other → Option.Rel results (rest value) (otherRest other)) :
    Option.Rel results (left.bind rest) (right.bind otherRest) := by
  cases together with
  | some first => exact later _ _ first
  | none => exact .none

section

variable {State OtherState Action Observation : Type} {step : State → Action → Option State}
  {otherStep : OtherState → Action → Option OtherState} {related : State → OtherState → Prop}

/-- Machines that refuse the same actions and stay related under the others run alike. -/
theorem execute_related
    (kept : ∀ state other action, related state other →
      Option.Rel related (step state action) (otherStep other action))
    {start : State} {otherStart : OtherState} (initial : related start otherStart) (actions : List Action) :
    Option.Rel related (execute step start actions) (execute otherStep otherStart actions) := by
  induction actions generalizing start otherStart with
  | nil => exact .some initial
  | cons action actions ih => exact related_bind (kept start otherStart action initial) fun _ _ => ih

theorem map_eq_of_related {observe : State → Observation} {otherObserve : OtherState → Observation}
    (observed : ∀ state other, related state other → observe state = otherObserve other)
    {final : Option State} {otherFinal : Option OtherState}
    (together : Option.Rel related final otherFinal) :
    final.map observe = otherFinal.map otherObserve := by
  cases together with
  | some reached => exact congrArg some (observed _ _ reached)
  | none => rfl

end

section

variable {Left Right : Type} {related : Left → Right → Prop} {lefts : List Left} {rights : List Right}

theorem forall₂_filterMap {Observation : Type} {observe : Left → Option Observation}
    {otherObserve : Right → Option Observation} (together : List.Forall₂ related lefts rights)
    (observed : ∀ left right, related left right → observe left = otherObserve right) :
    lefts.filterMap observe = rights.filterMap otherObserve := by
  induction together with
  | nil => rfl
  | cons first _ ih => rw [List.filterMap_cons, List.filterMap_cons, observed _ _ first, ih]

theorem forall₂_map {Observation : Type} {observe : Left → Observation} {otherObserve : Right → Observation}
    (together : List.Forall₂ related lefts rights)
    (observed : ∀ left right, related left right → observe left = otherObserve right) :
    lefts.map observe = rights.map otherObserve := by
  rw [← List.filterMap_eq_map, ← List.filterMap_eq_map]
  exact forall₂_filterMap together fun left right first => congrArg some (observed left right first)

theorem forall₂_getElem? (together : List.Forall₂ related lefts rights) (index : Nat) :
    Option.Rel related lefts[index]? rights[index]? := by
  induction together generalizing index with
  | nil => exact .none
  | cons first _ ih =>
      cases index with
      | zero => exact .some first
      | succ index => exact ih index

theorem forall₂_set (together : List.Forall₂ related lefts rights) (index : Nat) {left : Left}
    {right : Right} (replaced : related left right) :
    List.Forall₂ related (lefts.set index left) (rights.set index right) := by
  induction together generalizing index with
  | nil => exact .nil
  | cons first rest ih =>
      cases index with
      | zero => exact .cons replaced rest
      | succ index => exact .cons first (ih index)

end

end Interaction
