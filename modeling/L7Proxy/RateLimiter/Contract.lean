import L7Proxy.RateLimiter.Basic
import L7Proxy.Library.Execution
import L7Proxy.Library.TokenBucket

/-!
# The contract of a token bucket

A bucket admits a call exactly when the capacity and the refill since any earlier
call leave room for it, and calls it refuses change nothing for later ones.
-/

set_option autoImplicit false

namespace L7Proxy

open Interaction TokenLevel

namespace TokenBucket

/-- A call with its answer. -/
def call (bucket : TokenBucket) (now : Instant) : (Instant × Bool) × TokenBucket :=
  ((now, (bucket.tryAcquire now).1), (bucket.tryAcquire now).2)

/-- The calls at the given times with their answers. -/
def log (bucket : TokenBucket) (times : List Instant) : List (Instant × Bool) :=
  (respond call bucket times).1

def after (bucket : TokenBucket) (times : List Instant) : TokenBucket := (respond call bucket times).2

/-- The number of calls admitted from one position of a log up to another. -/
def admitted (log : List (Instant × Bool)) (first last : Nat) : Nat :=
  ((log.take last).drop first).countP (·.2)

def draw (call : Instant × Bool) : Instant × ℚ := (call.1, if call.2 then 1 else 0)

/-!
## One call
-/

variable {bucket : TokenBucket} {now earlier : Instant} {times : List Instant}

theorem refill_of_le (past : bucket.lastRefill ≤ now) :
    bucket.refill now =
      { bucket with
        tokens := refilled bucket.capacity bucket.refillRate bucket.tokens (now - bucket.lastRefill)
        lastRefill := now } := by
  rw [refill, durationSince_of_le past]
  rfl

theorem tryAcquire_fst : (bucket.tryAcquire now).1 = decide (1 ≤ (bucket.refill now).tokens) := by
  unfold tryAcquire
  dsimp only
  split <;> simp [*]

theorem tryAcquire_snd :
    (bucket.tryAcquire now).2 =
      { bucket.refill now with
        tokens := (bucket.refill now).tokens - (draw (now, (bucket.tryAcquire now).1)).2 } := by
  rw [tryAcquire_fst]
  unfold tryAcquire draw
  dsimp only
  split <;> simp [*]

theorem log_append_singleton (bucket : TokenBucket) (times : List Instant) (now : Instant) :
    bucket.log (times ++ [now]) =
      bucket.log times ++ [(now, ((bucket.after times).tryAcquire now).1)] := by
  simp [log, after, respond_append, call]

theorem after_append_singleton (bucket : TokenBucket) (times : List Instant) (now : Instant) :
    bucket.after (times ++ [now]) = ((bucket.after times).tryAcquire now).2 := by
  simp [after, respond_append, call]

/-!
## Levels
-/

/-- The bucket of the given parameters holds, once refilled, what the draws allow. -/
structure Holds (capacity refillRate : ℚ) (draws : List (Instant × ℚ)) (now : Instant)
    (bucket : TokenBucket) : Prop where
  capacity_eq : bucket.capacity = capacity
  refillRate_eq : bucket.refillRate = refillRate
  past : bucket.lastRefill ≤ now
  level : ∀ amount, amount ≤ (bucket.refill now).tokens ↔ Allows capacity refillRate draws now amount

variable {capacity refillRate : ℚ} {draws : List (Instant × ℚ)} {start : Instant}

theorem new_holds (refills : 0 ≤ refillRate) (ordered : start ≤ now) :
    Holds capacity refillRate [] now (new capacity refillRate start) := by
  refine ⟨rfl, rfl, ordered, fun amount => ?_⟩
  have gained := mul_nonneg (sub_nonneg.mpr ordered) refills
  rw [refill_of_le (show (new capacity refillRate start).lastRefill ≤ now from ordered)]
  simp only [new, refilled]
  rw [min_eq_right (by linarith)]
  simp [Allows]

theorem Holds.tryAcquire (holds : Holds capacity refillRate draws earlier bucket) (ordered : earlier ≤ now) :
    Holds capacity refillRate (draws ++ [draw (earlier, (bucket.tryAcquire earlier).1)]) now
      (bucket.tryAcquire earlier).2 := by
  rw [tryAcquire_snd]
  have refilledAt := refill_of_le holds.past
  refine ⟨?_, ?_, ?_, fun amount => ?_⟩
  · rw [refilledAt]
    exact holds.capacity_eq
  · rw [refilledAt]
    exact holds.refillRate_eq
  · rw [refilledAt]
    exact ordered
  · rw [refill_of_le (by rw [refilledAt]; exact ordered)]
    have lastRefill : (bucket.refill earlier).lastRefill = earlier := by rw [refilledAt]
    have sameCapacity : (bucket.refill earlier).capacity = capacity := by rw [refilledAt, ← holds.capacity_eq]
    have sameRate : (bucket.refill earlier).refillRate = refillRate := by
      rw [refilledAt, ← holds.refillRate_eq]
    simp only [lastRefill, sameCapacity, sameRate]
    exact le_refilled_iff_allows holds.level

theorem after_holds (refills : 0 ≤ refillRate) (sorted : (start :: times).Pairwise (· ≤ ·))
    (later : ∀ time ∈ start :: times, time ≤ now) :
    Holds capacity refillRate (((new capacity refillRate start).log times).map draw) now
      ((new capacity refillRate start).after times) := by
  induction times using List.reverseRecOn generalizing now with
  | nil => exact new_holds refills (later start List.mem_cons_self)
  | append_singleton times time ih =>
      rw [← List.cons_append] at sorted later
      obtain ⟨sortedBefore, _, ordered⟩ := List.pairwise_append.mp sorted
      have holds := ih sortedBefore fun earlier member => ordered earlier member time (by simp)
      rw [log_append_singleton, after_append_singleton, List.map_append]
      exact holds.tryAcquire (later time (by simp))

/-!
## Admitted calls
-/

theorem log_append (bucket : TokenBucket) (before later : List Instant) :
    bucket.log (before ++ later) = bucket.log before ++ (bucket.after before).log later := by
  simp [log, after, respond_append]

theorem log_times (bucket : TokenBucket) (times : List Instant) : (bucket.log times).map (·.1) = times := by
  induction times using List.reverseRecOn with
  | nil => rfl
  | append_singleton times time ih => rw [log_append_singleton, List.map_append, ih]; rfl

theorem log_at {j : Nat} (bucket : TokenBucket) (stored : times[j]? = some now) :
    (bucket.log times)[j]? = some (now, ((bucket.after (times.take j)).tryAcquire now).1) ∧
      (bucket.log times).take j = bucket.log (times.take j) := by
  obtain ⟨inside, here⟩ := List.getElem?_eq_some_iff.mp stored
  have split : times = times.take j ++ now :: times.drop (j + 1) := by
    rw [← here, ← List.drop_eq_getElem_cons inside, List.take_append_drop]
  have position : (bucket.log (times.take j)).length = j := by
    rw [← List.length_map (·.1), log_times, List.length_take, min_eq_left inside.le]
  have logged := log_append bucket (times.take j) (now :: times.drop (j + 1))
  rw [← split] at logged
  rw [logged]
  constructor
  · rw [List.getElem?_append_right (by omega), position, Nat.sub_self]
    rfl
  · rw [List.take_append_of_le_length (by omega), List.take_of_length_le (by omega)]

theorem sum_draws (log : List (Instant × Bool)) :
    ((log.map draw).map (·.2)).sum = (log.countP (·.2) : ℚ) := by
  induction log with
  | nil => simp
  | cons call log ih =>
      rw [List.map_cons, List.map_cons, List.sum_cons, ih, List.countP_cons]
      cases answer : call.2 <;> simp [draw, answer, add_comm]

/-- What a bucket's draws allow for one more call, counted from every call so far and
from the new one. -/
theorem allows_one_iff {j : Nat} (bucket : TokenBucket) (stored : times[j]? = some now) :
    Allows capacity refillRate (((bucket.log times).take j).map draw) now 1 ↔
      ∀ i ≤ j, ∀ since, times[i]? = some since →
        (admitted (bucket.log times) i j : ℚ) + 1 ≤ capacity + refillRate * (now - since) := by
  have counted : ∀ i, ((((bucket.log times).take j).map draw).drop i |>.map (·.2)).sum =
      (admitted (bucket.log times) i j : ℚ) := by
    intro i
    rw [← List.map_drop, sum_draws, admitted]
  have called : ∀ i < j, ∀ call, (((bucket.log times).take j).map draw)[i]? = some call →
      times[i]? = some call.1 := by
    intro i below call found
    rw [List.getElem?_map, List.getElem?_take_of_lt below] at found
    obtain ⟨entry, logged, rfl⟩ := Option.map_eq_some_iff.mp found
    rw [← log_times bucket times, List.getElem?_map, logged]
    rfl
  have position : (((bucket.log times).take j).map draw).length ≤ j := by
    rw [List.length_map, List.length_take]
    exact min_le_left ..
  constructor
  · intro allowed i upTo since found
    rcases Nat.lt_or_eq_of_le upTo with below | rfl
    · have logged := (log_at bucket found).1
      have drawn := allowed.2 i (draw (since, _)) (by
        rw [List.getElem?_map, List.getElem?_take_of_lt below, logged, Option.map_some])
      rw [counted] at drawn
      rw [add_comm]
      exact drawn
    · rw [stored, Option.some.injEq] at found
      subst found
      simpa [admitted] using allowed.1
  · intro room
    constructor
    · simpa [admitted] using room j le_rfl now stored
    · intro i call found
      have below : i < j := (List.getElem?_eq_some_iff.mp found).1.trans_le position
      rw [counted, add_comm]
      exact room i below.le call.1 (called i below call found)

theorem tryAcquire_iff_allows (holds : Holds capacity refillRate draws now bucket) :
    (bucket.tryAcquire now).1 = true ↔ Allows capacity refillRate draws now 1 := by
  rw [tryAcquire_fst, decide_eq_true_eq]
  exact holds.level 1

/-- The calls of a log that were admitted at or after one time and up to another. -/
def admittedWithin (log : List (Instant × Bool)) (opens closes : Instant) : Nat :=
  log.countP fun call => call.2 && decide (opens ≤ call.1) && decide (call.1 ≤ closes)

/-- Allowed draws leave room for the calls since any time, counted from the first call
after it. -/
theorem admittedWithin_of_allows {log : List (Instant × Bool)} {opens closes : Instant}
    (refills : 0 ≤ refillRate) (allowed : Allows capacity refillRate (log.map draw) now 1)
    (opened : opens ≤ now) (closed : now ≤ closes) :
    (admittedWithin log opens closes : ℚ) + 1 ≤ capacity + refillRate * (closes - opens) := by
  obtain ⟨early, rest, split, _, earlier, notEarlier⟩ :=
    takeWhile_split (fun call : Instant × Bool => decide (call.1 < opens)) log
  simp only [decide_eq_true_eq, decide_eq_false_iff_not, not_lt] at earlier notEarlier
  subst split
  have uncounted : admittedWithin early opens closes = 0 := by
    rw [admittedWithin, List.countP_eq_zero]
    intro call member
    simp [not_le.mpr (earlier call member)]
  have counted : admittedWithin (early ++ rest) opens closes ≤ rest.countP (·.2) := by
    rw [admittedWithin, List.countP_append, ← admittedWithin, uncounted, Nat.zero_add]
    exact List.countP_mono_left fun call _ within => by simp_all
  have bound : (admittedWithin (early ++ rest) opens closes : ℚ) ≤ rest.countP (·.2) := by
    exact_mod_cast counted
  cases rest with
  | nil =>
      have fits := allowed.1
      have gained := mul_nonneg refills (sub_nonneg.mpr (opened.trans closed))
      rw [List.countP_nil, Nat.cast_zero] at bound
      linarith
  | cons first later =>
      have room := allowed.2 early.length (draw first) (by simp)
      rw [List.map_append, List.drop_left' (by simp), sum_draws] at room
      have since := notEarlier first rfl
      have gained := mul_le_mul_of_nonneg_left (show now - first.1 ≤ closes - opens by linarith) refills
      simp only [draw] at room
      linarith

/-- Over any interval no more calls are admitted than the capacity and its refill. -/
theorem log_admittedWithin (full : 0 ≤ capacity) (refills : 0 ≤ refillRate)
    (sorted : (start :: times).Pairwise (· ≤ ·)) {opens closes : Instant} (ordered : opens ≤ closes) :
    (admittedWithin ((new capacity refillRate start).log times) opens closes : ℚ) ≤
      capacity + refillRate * (closes - opens) := by
  induction times using List.reverseRecOn with
  | nil =>
      have gained := mul_nonneg refills (sub_nonneg.mpr ordered)
      have none : admittedWithin ((new capacity refillRate start).log []) opens closes = 0 := rfl
      rw [none, Nat.cast_zero]
      linarith
  | append_singleton times time ih =>
      rw [← List.cons_append] at sorted
      obtain ⟨sortedBefore, _, past⟩ := List.pairwise_append.mp sorted
      have holds : Holds capacity refillRate (((new capacity refillRate start).log times).map draw) time
          ((new capacity refillRate start).after times) :=
        after_holds refills sortedBefore fun earlier member => past earlier member time (by simp)
      have before := ih sortedBefore
      rw [log_append_singleton, admittedWithin, List.countP_append, List.countP_singleton]
      split
      · next counted =>
          simp only [Bool.and_eq_true, decide_eq_true_eq] at counted
          obtain ⟨⟨admits, opened⟩, closed⟩ := counted
          have allowed := (tryAcquire_iff_allows holds).mp admits
          rw [Nat.cast_add, Nat.cast_one]
          exact admittedWithin_of_allows refills allowed opened closed
      · exact before

/-- The log of a bucket made for the first of its calls. -/
def freshLog (capacity refillRate : ℚ) (start : Instant) (times : List Instant) : List (Instant × Bool) :=
  (new capacity refillRate start).log (start :: times)

/-- A call is admitted exactly when, counted from any call up to it, the admitted ones
and it fit the capacity and the refill since; so no interval sees more, and a refused
call would have exceeded the bound of some interval ending at it. -/
theorem tryAcquire_admits_contract (full : 0 ≤ capacity) (refills : 0 ≤ refillRate)
    (sorted : (start :: times).Pairwise (· ≤ ·)) :
    (∀ j now, (start :: times)[j]? = some now →
      ∃ answer, (freshLog capacity refillRate start times)[j]? = some (now, answer) ∧
        (answer = true ↔ ∀ i ≤ j, ∀ since, (start :: times)[i]? = some since →
          (admitted (freshLog capacity refillRate start times) i j : ℚ) + 1 ≤
            capacity + refillRate * (now - since)) ∧
        (answer = false → ∃ i ≤ j, ∃ since, (start :: times)[i]? = some since ∧
          capacity + refillRate * (now - since) <
            admitted (freshLog capacity refillRate start times) i j + 1)) ∧
    ∀ opens closes, opens ≤ closes →
      (admittedWithin (freshLog capacity refillRate start times) opens closes : ℚ) ≤
        capacity + refillRate * (closes - opens) := by
  have startsFirst : (start :: start :: times).Pairwise (· ≤ ·) := by
    refine List.pairwise_cons.mpr ⟨fun time member => ?_, sorted⟩
    rcases List.mem_cons.mp member with rfl | later
    · exact le_rfl
    · exact (List.pairwise_cons.mp sorted).1 time later
  refine ⟨fun j now stored => ?_, fun opens closes ordered =>
    log_admittedWithin full refills startsFirst ordered⟩
  obtain ⟨logged, earlierLog⟩ := log_at (new capacity refillRate start) stored
  have holds : Holds capacity refillRate
      (((new capacity refillRate start).log ((start :: times).take j)).map draw) now
      ((new capacity refillRate start).after ((start :: times).take j)) := by
    obtain ⟨inside, here⟩ := List.getElem?_eq_some_iff.mp stored
    have split : start :: start :: times =
        (start :: (start :: times).take j) ++ now :: (start :: times).drop (j + 1) := by
      rw [List.cons_append, ← here, ← List.drop_eq_getElem_cons inside, List.take_append_drop]
    rw [split] at startsFirst
    obtain ⟨sortedBefore, _, past⟩ := List.pairwise_append.mp startsFirst
    exact after_holds refills sortedBefore fun earlier member => past earlier member now (by simp)
  have contract : ((new capacity refillRate start).after ((start :: times).take j) |>.tryAcquire now).1 = true ↔
      ∀ i ≤ j, ∀ since, (start :: times)[i]? = some since →
        (admitted (freshLog capacity refillRate start times) i j : ℚ) + 1 ≤
          capacity + refillRate * (now - since) := by
    rw [tryAcquire_iff_allows holds, ← earlierLog]
    exact allows_one_iff _ stored
  refine ⟨_, logged, contract, fun refused => ?_⟩
  rw [← Bool.not_eq_true, contract] at refused
  push Not at refused
  exact refused

/-- Three calls at once and one a second later, on a bucket of two tokens. -/
theorem tryAcquire_admits_contract_burst :
    (admittedWithin (freshLog 2 1 0 [0, 0, 1]) 0 1 : ℚ) ≤ 2 + 1 * (1 - 0) :=
  (tryAcquire_admits_contract (by norm_num) (by norm_num) (by norm_num)).2 0 1 (by norm_num)

/-!
## Refused calls
-/

/-- The second log is the first without some of its refused calls. -/
inductive DropsRefused : List (Instant × Bool) → List (Instant × Bool) → Prop where
  | nil : DropsRefused [] []
  | keep {log kept : List (Instant × Bool)} (call : Instant × Bool) (drops : DropsRefused log kept) :
      DropsRefused (call :: log) (call :: kept)
  | drop {log kept : List (Instant × Bool)} (now : Instant) (drops : DropsRefused log kept) :
      DropsRefused ((now, false) :: log) kept

/-- Both buckets refill to the same one at every time from now on. -/
def SameFuture (now : Instant) (bucket other : TokenBucket) : Prop :=
  ∀ time, now ≤ time → bucket.refill time = other.refill time

theorem refill_refill {time : Instant} (refills : 0 ≤ bucket.refillRate) (past : bucket.lastRefill ≤ now)
    (ordered : now ≤ time) : (bucket.refill now).refill time = bucket.refill time := by
  have refilledAt := refill_of_le past
  rw [refill_of_le (past.trans ordered), refill_of_le (by rw [refilledAt]; exact ordered), refilledAt]
  simp only [refilled_refilled refills (sub_nonneg.mpr ordered), sub_add_sub_cancel']

theorem tryAcquire_of_refused (refused : (bucket.tryAcquire now).1 = false) :
    (bucket.tryAcquire now).2 = bucket.refill now := by
  rw [tryAcquire_snd, refused]
  simp [draw]

theorem tryAcquire_congr {other : TokenBucket} (same : bucket.refill now = other.refill now) :
    bucket.tryAcquire now = other.tryAcquire now := by
  unfold tryAcquire
  rw [same]

theorem tryAcquire_settings (past : bucket.lastRefill ≤ now) :
    (bucket.tryAcquire now).2.refillRate = bucket.refillRate ∧
      (bucket.tryAcquire now).2.lastRefill = now := by
  rw [tryAcquire_snd, refill_of_le past]
  exact ⟨rfl, rfl⟩

theorem log_cons (bucket : TokenBucket) (now : Instant) (times : List Instant) :
    bucket.log (now :: times) = (now, (bucket.tryAcquire now).1) :: (bucket.tryAcquire now).2.log times := rfl

theorem log_eq_cons {call : Instant × Bool} {log : List (Instant × Bool)}
    (served : bucket.log times = call :: log) :
    ∃ now rest, times = now :: rest ∧ call = (now, (bucket.tryAcquire now).1) ∧
      (bucket.tryAcquire now).2.log rest = log := by
  cases times with
  | nil => cases served
  | cons now rest =>
      rw [log_cons] at served
      obtain ⟨same, rest_eq⟩ := List.cons.inj served
      exact ⟨now, rest, rfl, same.symm, rest_eq⟩

/-- The relation kept between the two runs is that their buckets have the same future:
a refused call only refills, and a common call makes the buckets equal. -/
theorem dropsRefused_log {other : TokenBucket} {log kept : List (Instant × Bool)}
    (drops : DropsRefused log kept) (served : bucket.log times = log) (refills : 0 ≤ bucket.refillRate)
    (past : bucket.lastRefill ≤ now) (sorted : (now :: times).Pairwise (· ≤ ·))
    (same : SameFuture now bucket other) : other.log (kept.map (·.1)) = kept := by
  induction drops generalizing times bucket other now with
  | nil => rfl
  | @keep log kept call drops ih =>
      obtain ⟨time, rest, rfl, rfl, later⟩ := log_eq_cons served
      have ordered := (List.pairwise_cons.mp sorted).1 time List.mem_cons_self
      have agree := tryAcquire_congr (same time ordered)
      have settings := tryAcquire_settings (past.trans ordered)
      have tail := ih later (settings.1 ▸ refills) settings.2.le (List.pairwise_cons.mp sorted).2
        (fun _ _ => rfl)
      rw [List.map_cons, log_cons, ← agree, tail]
  | @drop log kept time drops ih =>
      obtain ⟨now', rest, rfl, refusal, later⟩ := log_eq_cons served
      obtain ⟨rfl, refused⟩ := Prod.mk.inj refusal
      have ordered := (List.pairwise_cons.mp sorted).1 time List.mem_cons_self
      have settings := tryAcquire_settings (past.trans ordered)
      refine ih later (settings.1 ▸ refills) settings.2.le (List.pairwise_cons.mp sorted).2 ?_
      intro next following
      rw [tryAcquire_of_refused refused.symm, refill_refill refills (past.trans ordered) following]
      exact same next (ordered.trans following)

/-- Leaving out any of the refused calls leaves the answer of every other call as it
was, whatever the capacity. -/
theorem refused_calls_cost_nothing {log kept : List (Instant × Bool)} (refills : 0 ≤ bucket.refillRate)
    (sorted : (bucket.lastRefill :: times).Pairwise (· ≤ ·)) (served : bucket.log times = log)
    (drops : DropsRefused log kept) : bucket.log (kept.map (·.1)) = kept :=
  dropsRefused_log drops served refills le_rfl sorted fun _ _ => rfl

/-- One token that comes back in a second, asked for at once, during that second and
after it. -/
theorem refused_calls_cost_nothing_hammering : (new 1 1 0).log [0, 1] = [(0, true), (1, true)] := by
  have hammered : (new 1 1 0).log [0, 1 / 2, 1] = [(0, true), (1 / 2, false), (1, true)] := by
    decide +kernel
  have dropped : DropsRefused [(0, true), (1 / 2, false), (1, true)] [(0, true), (1, true)] :=
    .keep _ (.drop _ (.keep _ .nil))
  exact refused_calls_cost_nothing (by decide +kernel) (by decide +kernel) hammered dropped

end TokenBucket

end L7Proxy
