import L7Proxy.RateLimiter.Reference
import Mathlib.Data.Finset.Card
import Mathlib.Data.Finset.Dedup

/-!
# The table of buckets

A bucket tells when its address was last checked. The table holds the addresses
checked since the latest sweep and those that the sweep found checked less than
300 seconds before.
-/

set_option autoImplicit false

namespace L7Proxy

open Interaction

/-- The time of an address's latest check. -/
def lastCheck (ip : IpAddr) (checks : List Check) : Option Instant :=
  ((checks.filter (·.2 = ip)).getLast?).map (·.1)

theorem lastCheck_append_singleton (ip : IpAddr) (checks : List Check) (check : Check) :
    lastCheck ip (checks ++ [check]) = if check.2 = ip then some check.1 else lastCheck ip checks := by
  by_cases here : check.2 = ip <;> simp [lastCheck, here]

theorem lastCheck_eq_none_iff {ip : IpAddr} {checks : List Check} :
    lastCheck ip checks = none ↔ ∀ check ∈ checks, check.2 ≠ ip := by
  simp [lastCheck]

theorem lastCheck_mem {ip : IpAddr} {checks : List Check} {time : Instant}
    (found : lastCheck ip checks = some time) : (time, ip) ∈ checks := by
  obtain ⟨check, last, rfl⟩ := Option.map_eq_some_iff.mp found
  obtain ⟨member, same⟩ := List.mem_filter.mp (List.mem_of_getLast? last)
  rw [← of_decide_eq_true same]
  exact member

theorem le_last_of_sorted {checks : List Check} {last : Check}
    (sorted : ((checks ++ [last]).map (·.1)).Pairwise (· ≤ ·)) {check : Check} (member : check ∈ checks) :
    check.1 ≤ last.1 := by
  rw [List.map_append, List.pairwise_append] at sorted
  exact sorted.2.2 check.1 (List.mem_map_of_mem member) last.1 (by simp)

namespace RateLimiter

variable {limiter : RateLimiter} {now : Instant}

/-- When the stored bucket of an address was last used. -/
def lastUse (limiter : RateLimiter) (ip : IpAddr) : Option Instant := (limiter.buckets ip).map (·.lastRefill)

theorem check_lastUse (enabled : limiter.enabled = true) (ip other : IpAddr) :
    (limiter.check ip now).2.lastUse other =
      if other = ip then some now
      else if limiter.cleanupCounter % 1000 = 0 then (limiter.lastUse other).filter (now - 300 < ·)
      else limiter.lastUse other := by
  rw [check_eq enabled, lastUse]
  by_cases here : other = ip
  · rw [here, if_pos rfl]
    simp only [Function.update_self, Option.map_some, tryAcquire_lastRefill]
  · rw [if_neg here]
    simp only [Function.update_of_ne here, swept]
    split
    · cases stored : limiter.buckets other with
      | none => simp [cleanup, lastUse, stored]
      | some bucket => simp [cleanup, lastUse, stored, Option.filter, apply_ite]
    · rfl

theorem after_append (before later : List Check) :
    limiter.after (before ++ later) = (limiter.after before).after later := by
  rw [after, respond_append]
  rfl

theorem after_append_singleton (checks : List Check) (check : Check) :
    limiter.after (checks ++ [check]) = ((limiter.after checks).check check.2 check.1).2 :=
  after_append checks [check]

theorem filter_recent {earlier : Instant} (ordered : earlier ≤ now) (use : Option Instant) :
    (use.filter (earlier - 300 < ·)).filter (now - 300 < ·) = use.filter (now - 300 < ·) := by
  rw [Option.filter_filter]
  congr
  funext time
  by_cases recent : now - 300 < time
  · have kept : earlier - 300 < time := by linarith
    simp [recent, kept]
  · simp [recent]

section

variable (requestsPerSecond : ℚ) (burstSize : Nat)

theorem after_enabled (checks : List Check) :
    ((new requestsPerSecond burstSize).after checks).enabled = true := by
  induction checks using List.reverseRecOn with
  | nil => rfl
  | append_singleton checks check ih =>
      rw [after_append_singleton, check_eq ih]
      exact swept_enabled.trans ih

theorem after_counter (checks : List Check) :
    ((new requestsPerSecond burstSize).after checks).cleanupCounter = checks.length % wordSize := by
  induction checks using List.reverseRecOn with
  | nil => rfl
  | append_singleton checks check ih =>
      rw [after_append_singleton, check_eq (after_enabled requestsPerSecond burstSize checks)]
      refine swept_counter.trans ?_
      rw [ih, wrappingAdd, Nat.mod_add_mod, List.length_append, List.length_singleton]

/-- Of the checks within the last 300 seconds no sweep has dropped the latest. -/
theorem after_lastUse_recent (ip : IpAddr) {checks : List Check}
    (sorted : (checks.map (·.1)).Pairwise (· ≤ ·)) (past : ∀ check ∈ checks, check.1 ≤ now) :
    (((new requestsPerSecond burstSize).after checks).lastUse ip).filter (now - 300 < ·) =
      (lastCheck ip checks).filter (now - 300 < ·) := by
  induction checks using List.reverseRecOn generalizing now with
  | nil => rfl
  | append_singleton checks check ih =>
      rw [List.map_append, List.pairwise_append] at sorted
      have before := ih sorted.1 fun earlier member => past earlier (List.mem_append_left _ member)
      have checked : check.1 ≤ now := past check (by simp)
      rw [after_append_singleton, check_lastUse (after_enabled requestsPerSecond burstSize checks),
        lastCheck_append_singleton]
      by_cases here : check.2 = ip
      · rw [if_pos here, if_pos here.symm]
      · have elsewhere : ¬ ip = check.2 := fun same => here same.symm
        rw [if_neg here, if_neg elsewhere, ← before]
        split
        · exact filter_recent checked _
        · rfl

/-- From a sweep to the next the table has the checks since and what the sweep kept. -/
theorem after_lastUse (ip : IpAddr) {before since : List Check} {sweep : Check}
    (sorted : ((before ++ sweep :: since).map (·.1)).Pairwise (· ≤ ·)) (due : before.length % 1000 = 0)
    (short : since.length < 1000) (fits : (before ++ sweep :: since).length ≤ wordSize) :
    ((new requestsPerSecond burstSize).after (before ++ sweep :: since)).lastUse ip =
      (lastCheck ip (sweep :: since)).or ((lastCheck ip before).filter (sweep.1 - 300 < ·)) := by
  induction since using List.reverseRecOn with
  | nil =>
      have past : ∀ check ∈ before, check.1 ≤ sweep.1 := fun _ member => le_last_of_sorted sorted member
      rw [List.map_append, List.pairwise_append] at sorted
      rw [List.length_append, List.length_singleton] at fits
      rw [after_append_singleton, check_lastUse (after_enabled requestsPerSecond burstSize before),
        after_counter, Nat.mod_eq_of_lt (show before.length < wordSize by omega), if_pos due,
        after_lastUse_recent requestsPerSecond burstSize ip sorted.1 past]
      by_cases here : sweep.2 = ip
      · simp [lastCheck, here]
      · have elsewhere : ¬ ip = sweep.2 := fun same => here same.symm
        simp [lastCheck, here, elsewhere]
  | append_singleton since check ih =>
      have joined : before ++ sweep :: (since ++ [check]) = (before ++ sweep :: since) ++ [check] := by simp
      rw [joined] at sorted fits
      rw [List.length_append, List.length_singleton] at short fits
      have earlier := ih (sorted.sublist (List.Sublist.map _ (List.sublist_append_left _ _)))
        (by omega) (by omega)
      have undue : ¬ (before ++ sweep :: since).length % 1000 = 0 := by
        rw [List.length_append, List.length_cons]
        omega
      rw [joined, after_append_singleton, check_lastUse (after_enabled requestsPerSecond burstSize _),
        after_counter, Nat.mod_eq_of_lt (show (before ++ sweep :: since).length < wordSize by omega),
        if_neg undue, earlier, ← List.cons_append, lastCheck_append_singleton]
      by_cases here : check.2 = ip
      · rw [if_pos here, if_pos here.symm, Option.some_or]
      · have elsewhere : ¬ ip = check.2 := fun same => here same.symm
        rw [if_neg here, if_neg elsewhere]

end

/-!
## The size of the table
-/

/-- The sweep is the latest check whose counter value is a multiple of 1000. -/
structure SplitsAtSweep (checks before : List Check) (sweep : Check) (since : List Check) : Prop where
  split : checks = before ++ sweep :: since
  due : before.length % 1000 = 0
  latest : ∀ position, position < checks.length → position % 1000 = 0 → position ≤ before.length

theorem SplitsAtSweep.short {checks before since : List Check} {sweep : Check}
    (splits : SplitsAtSweep checks before sweep since) : since.length < 1000 := by
  by_contra long
  have later := splits.latest (before.length + 1000)
    (by rw [splits.split, List.length_append, List.length_cons]; omega) (by have := splits.due; omega)
  omega

theorem exists_splitsAtSweep {checks : List Check} (nonempty : checks ≠ []) :
    ∃ before sweep since, SplitsAtSweep checks before sweep since := by
  have positive := List.length_pos_iff.mpr nonempty
  have inside : (checks.length - 1) / 1000 * 1000 < checks.length := by omega
  refine ⟨checks.take ((checks.length - 1) / 1000 * 1000), checks[(checks.length - 1) / 1000 * 1000],
    checks.drop ((checks.length - 1) / 1000 * 1000 + 1), ?_, ?_, ?_⟩
  · rw [List.getElem_cons_drop, List.take_append_drop]
  · rw [List.length_take]
    omega
  · intro position below multiple
    rw [List.length_take]
    omega

/-- The addresses checked less than 300 seconds before a check. -/
def recentAddresses (before : List Check) (sweep : Check) : Finset IpAddr :=
  ((before.filter fun check => sweep.1 - check.1 < 300).map (·.2)).toFinset

theorem lastCheck_recent {before : List Check} {sweep : Check} {ip : IpAddr} {time : Instant}
    (found : lastCheck ip before = some time) (recent : sweep.1 - time < 300) :
    ip ∈ recentAddresses before sweep := by
  simp only [recentAddresses, List.mem_toFinset, List.mem_map, List.mem_filter, decide_eq_true_eq]
  exact ⟨(time, ip), ⟨lastCheck_mem found, recent⟩, rfl⟩

theorem lastCheck_isSome_iff {ip : IpAddr} {checks : List Check} :
    (lastCheck ip checks).isSome = true ↔ ∃ check ∈ checks, check.2 = ip := by
  rw [Option.isSome_iff_ne_none, ne_eq, lastCheck_eq_none_iff]
  push Not
  rfl

theorem SplitsAtSweep.stored_iff (requestsPerSecond : ℚ) (burstSize : Nat) {checks before since : List Check}
    {sweep : Check} (splits : SplitsAtSweep checks before sweep since)
    (sorted : (checks.map (·.1)).Pairwise (· ≤ ·)) (fits : checks.length ≤ wordSize) (ip : IpAddr) :
    (((new requestsPerSecond burstSize).after checks).buckets ip).isSome = true ↔
      (∃ check ∈ sweep :: since, check.2 = ip) ∨
        ∃ time, lastCheck ip before = some time ∧ sweep.1 - time < 300 := by
  have short := splits.short
  obtain ⟨rfl, due, _⟩ := splits
  have use := after_lastUse requestsPerSecond burstSize ip sorted due short fits
  rw [← Option.isSome_map (f := TokenBucket.lastRefill)]
  rw [lastUse] at use
  rw [use, Option.isSome_or, Bool.or_eq_true, lastCheck_isSome_iff, Option.isSome_iff_exists]
  apply or_congr Iff.rfl
  apply exists_congr
  intro time
  rw [Option.filter_eq_some_iff, decide_eq_true_eq, sub_lt_comm]

/-- After every check the table holds exactly the addresses checked since the latest
sweep and those last checked less than 300 seconds before it, so at most 1000 more
than the addresses seen in these 300 seconds. -/
theorem table_bounded_by_recent (requestsPerSecond : ℚ) (burstSize : Nat) {checks : List Check}
    (nonempty : checks ≠ []) (sorted : (checks.map (·.1)).Pairwise (· ≤ ·))
    (fits : checks.length ≤ wordSize) :
    ∃ before sweep since, SplitsAtSweep checks before sweep since ∧
      (∀ ip, (((new requestsPerSecond burstSize).after checks).buckets ip).isSome = true ↔
        (∃ check ∈ sweep :: since, check.2 = ip) ∨
          ∃ time, lastCheck ip before = some time ∧ sweep.1 - time < 300) ∧
      ∃ entries : Finset IpAddr,
        (∀ ip, ip ∈ entries ↔
          (((new requestsPerSecond burstSize).after checks).buckets ip).isSome = true) ∧
        entries.card ≤ 1000 + (recentAddresses before sweep).card := by
  obtain ⟨before, sweep, since, splits⟩ := exists_splitsAtSweep nonempty
  have stored := splits.stored_iff requestsPerSecond burstSize sorted fits
  refine ⟨before, sweep, since, splits, stored, ?_⟩
  let current := ((sweep :: since).map (·.2)).toFinset
  let candidates := current ∪ recentAddresses before sweep
  refine ⟨candidates.filter fun ip =>
    (((new requestsPerSecond burstSize).after checks).buckets ip).isSome = true, ?_, ?_⟩
  · intro ip
    rw [Finset.mem_filter, and_iff_right_iff_imp]
    intro present
    apply Finset.mem_union.mpr
    rcases (stored ip).mp present with ⟨check, member, rfl⟩ | ⟨time, found, recent⟩
    · exact .inl (List.mem_toFinset.mpr (List.mem_map_of_mem member))
    · exact .inr (lastCheck_recent found recent)
  · have currentSize : current.card ≤ 1000 := by
      have bound := List.toFinset_card_le ((sweep :: since).map (·.2))
      rw [List.length_map, List.length_cons] at bound
      exact bound.trans splits.short
    calc (candidates.filter _).card ≤ candidates.card := Finset.card_filter_le _ _
      _ ≤ current.card + (recentAddresses before sweep).card := Finset.card_union_le _ _
      _ ≤ 1000 + (recentAddresses before sweep).card := Nat.add_le_add_right currentSize _

def thirdClient : IpAddr := ⟨"10.0.0.3", by decide⟩

/-- One check of the first client, and many of the second 301 seconds later. -/
def manyChecks (repeats : Nat) : List Check := (0, firstClient) :: List.replicate repeats (301, secondClient)

theorem length_manyChecks (repeats : Nat) : (manyChecks repeats).length = repeats + 1 := by simp [manyChecks]

theorem mem_manyChecks {repeats : Nat} {check : Check} :
    check ∈ manyChecks repeats ↔ check = (0, firstClient) ∨ repeats ≠ 0 ∧ check = (301, secondClient) := by
  rw [manyChecks, List.mem_cons, List.mem_replicate]

theorem manyChecks_sorted (repeats : Nat) :
    ((manyChecks repeats ++ [(400, thirdClient)] : List Check).map (·.1)).Pairwise (· ≤ ·) := by
  simp only [manyChecks, List.cons_append, List.map_cons, List.map_append, List.map_replicate, List.map_nil,
    List.pairwise_cons, List.pairwise_append, List.pairwise_replicate]
  refine ⟨fun time member => ?_, .inr le_rfl, ⟨fun _ absent => absurd absent List.not_mem_nil, .nil⟩, ?_⟩
  · rcases List.mem_append.mp member with repeated | last
    · rw [List.eq_of_mem_replicate repeated]
      norm_num
    · rw [List.mem_singleton.mp last]
      norm_num
  · intro earlier repeated last member
    rw [List.eq_of_mem_replicate repeated, List.mem_singleton.mp member]
    norm_num

/-- At the second sweep the first client was last seen 400 seconds ago, the second 99. -/
theorem table_bounded_by_recent_two :
    ((new 100 200).after (manyChecks 999 ++ [(400, thirdClient)])).buckets firstClient = none ∧
      (((new 100 200).after (manyChecks 999 ++ [(400, thirdClient)])).buckets secondClient).isSome = true := by
  have length : (manyChecks 999 ++ [(400, thirdClient)]).length = 1001 := by
    rw [List.length_append, length_manyChecks, List.length_singleton]
  obtain ⟨before, sweep, since, splits, stored, _⟩ :=
    table_bounded_by_recent 100 200 (List.append_ne_nil_of_right_ne_nil _ (List.cons_ne_nil _ _))
      (manyChecks_sorted 999) (by rw [length]; decide)
  obtain ⟨rfl, rfl, rfl⟩ : before = manyChecks 999 ∧ sweep = (400, thirdClient) ∧ since = [] := by
    have late := splits.latest 1000 (by rw [length]; decide) rfl
    have whole := congrArg List.length splits.split
    rw [length, List.length_append, List.length_cons] at whole
    have place : (manyChecks 999).length = before.length := by
      rw [length_manyChecks]
      omega
    obtain ⟨same, rest⟩ := List.append_inj splits.split place
    cases rest
    exact ⟨same.symm, rfl, rfl⟩
  constructor
  · rw [← Option.not_isSome_iff_eq_none, stored firstClient]
    rintro (⟨check, member, same⟩ | ⟨time, found, recent⟩)
    · cases List.mem_singleton.mp member
      exact absurd same (by decide)
    · rcases mem_manyChecks.mp (lastCheck_mem found) with first | ⟨_, repeated⟩
      · cases congrArg Prod.fst first
        norm_num at recent
      · exact absurd (congrArg Prod.snd repeated) (show firstClient ≠ secondClient by decide)
  · have seen : (301, secondClient) ∈ manyChecks 999 := mem_manyChecks.mpr (.inr ⟨by decide, rfl⟩)
    have known : (lastCheck secondClient (manyChecks 999)).isSome = true :=
      lastCheck_isSome_iff.mpr ⟨(301, secondClient), seen, rfl⟩
    obtain ⟨time, found⟩ := Option.isSome_iff_exists.mp known
    rw [stored secondClient]
    refine .inr ⟨time, found, ?_⟩
    rcases mem_manyChecks.mp (lastCheck_mem found) with first | ⟨_, repeated⟩
    · exact absurd (congrArg Prod.snd first) (show secondClient ≠ firstClient by decide)
    · cases congrArg Prod.fst repeated
      norm_num

end RateLimiter

end L7Proxy
