import L7Proxy.Primitives

/-!
# Passive health tracking

Counts failures per upstream, marks an upstream when they reach the threshold,
and lets the mark lapse inside the first query after the cooldown.
-/

set_option autoImplicit false

namespace L7Proxy

structure UpstreamHealth where
  consecutiveFailures : Nat
  markedUnhealthyAt : Option Instant
  deriving DecidableEq

structure HealthTracker where
  state : Table String UpstreamHealth
  failureThreshold : Nat
  cooldown : Duration

namespace HealthTracker

def new (failureThreshold : Nat) (cooldown : Duration) : HealthTracker :=
  ⟨Table.empty, failureThreshold, cooldown⟩

/-- The entry an upstream has, or the one `record_failure` inserts for it. -/
def entry (tracker : HealthTracker) (upstream : String) : UpstreamHealth :=
  (tracker.state upstream).getD ⟨0, none⟩

def setEntry (tracker : HealthTracker) (upstream : String) (entry : UpstreamHealth) : HealthTracker :=
  { tracker with state := Function.update tracker.state upstream (some entry) }

def recordFailure (tracker : HealthTracker) (upstream : String) (now : Instant) : HealthTracker :=
  let entry := tracker.entry upstream
  let failures := (entry.consecutiveFailures + 1) % u32Size
  if tracker.failureThreshold ≤ failures then
    tracker.setEntry upstream ⟨tracker.failureThreshold, some now⟩
  else
    tracker.setEntry upstream ⟨failures, entry.markedUnhealthyAt⟩

def recordSuccess (tracker : HealthTracker) (upstream : String) : HealthTracker :=
  match tracker.state upstream with
  | some _ => tracker.setEntry upstream ⟨0, none⟩
  | none => tracker

def isHealthy (tracker : HealthTracker) (upstream : String) (now : Instant) : Bool × HealthTracker :=
  match tracker.state upstream with
  | none => (true, tracker)
  | some entry =>
      match entry.markedUnhealthyAt with
      | none => (true, tracker)
      | some markedAt =>
          if tracker.cooldown ≤ durationSince now markedAt then
            (true, tracker.setEntry upstream ⟨0, none⟩)
          else (false, tracker)

variable (tracker : HealthTracker) (upstream other : String) (stored : UpstreamHealth)

@[simp] theorem setEntry_failureThreshold :
    (tracker.setEntry upstream stored).failureThreshold = tracker.failureThreshold := rfl

@[simp] theorem setEntry_cooldown :
    (tracker.setEntry upstream stored).cooldown = tracker.cooldown := rfl

@[simp] theorem setEntry_state_self :
    (tracker.setEntry upstream stored).state upstream = some stored := by
  simp [setEntry]

@[simp] theorem setEntry_state_other (different : other ≠ upstream) :
    (tracker.setEntry upstream stored).state other = tracker.state other := by
  simp [setEntry, different]

/-- The upstream is marked unhealthy and its cooldown has not passed. -/
def Unavailable (now : Instant) : Prop :=
  ∃ entry markedAt, tracker.state upstream = some entry ∧ entry.markedUnhealthyAt = some markedAt ∧
    durationSince now markedAt < tracker.cooldown

theorem isHealthy_eq_false_iff (now : Instant) :
    (tracker.isHealthy upstream now).1 = false ↔ tracker.Unavailable upstream now := by
  unfold isHealthy Unavailable
  cases tracker.state upstream with
  | none => simp
  | some entry =>
      cases marked : entry.markedUnhealthyAt with
      | none => simp [marked]
      | some markedAt =>
          by_cases passed : tracker.cooldown ≤ durationSince now markedAt
          · simp [marked, passed]
          · simp [marked, passed, not_le.mp passed]

end HealthTracker

end L7Proxy
