import Mathlib.Tactic.Common

/-!
# Refreshing a copy on demand

A worker that is told to refresh reads a source and then writes what it read. Being told
again while it works is remembered, and being told twice counts once. Nothing is lost: when
the worker rests, its copy is what the source held when it was last told, if it still does.
-/

set_option autoImplicit false

namespace Refresh

variable {Source Value : Type}

inductive Work (Value : Type) where
  | resting
  | reading
  | writing (value : Value)

structure State (Source Value : Type) where
  source : Source
  told : Bool
  work : Work Value
  value : Value

/-- A source that cannot be read leaves the copy as it is. -/
inductive Step (read : Source → Option Value) (state : State Source Value) : State Source Value → Prop where
  | edited (source : Source) : Step read state { state with source := source }
  | told : Step read state { state with told := true }
  | began (told : state.told = true) (resting : state.work = .resting) :
      Step read state { state with told := false, work := .reading }
  | failed (reading : state.work = .reading) (unreadable : read state.source = none) :
      Step read state { state with work := .resting }
  | loaded {value : Value} (reading : state.work = .reading) (readable : read state.source = some value) :
      Step read state { state with work := .writing value }
  | written {value : Value} (writing : state.work = .writing value) :
      Step read state { state with value := value, work := .resting }
  | other : Step read state state

/-- The worker has still to refresh, or does it with the wanted value, or has done it. -/
inductive Due (wanted : Value) (state : State Source Value) : Prop where
  | told (told : state.told = true)
  | reading (reading : state.work = .reading)
  | writing (writing : state.work = .writing wanted)
  | done (resting : state.work = .resting) (written : state.value = wanted)

variable {read : Source → Option Value} {state after : State Source Value} {wanted : Value}

/-- As long as the source holds the wanted value, the worker does not lose it. -/
theorem Due.step (due : Due wanted state) (holds : read state.source = some wanted)
    (stepped : Step read state after) : Due wanted after := by
  cases stepped with
  | other => exact due
  | edited source =>
      cases due with
      | told told => exact .told told
      | reading reading => exact .reading reading
      | writing writing => exact .writing writing
      | done resting written => exact .done resting written
  | told => exact .told rfl
  | began => exact .reading rfl
  | failed reading unreadable =>
      rw [unreadable] at holds
      cases holds
  | loaded reading readable =>
      rw [readable] at holds
      cases holds
      exact .writing rfl
  | @written value writing =>
      cases due with
      | told told => exact .told told
      | reading reading =>
          rw [writing] at reading
          cases reading
      | writing same =>
          rw [writing] at same
          cases same
          exact .done rfl rfl
      | done resting =>
          rw [writing] at resting
          cases resting

theorem Due.settled (due : Due wanted state) (quiet : state.told = false) (resting : state.work = .resting) :
    state.value = wanted := by
  cases due with
  | told told =>
      rw [quiet] at told
      cases told
  | reading working | writing working =>
      rw [resting] at working
      cases working
  | done _ written => exact written

end Refresh
