import L7Proxy.Balancer.LeastLoaded
import Mathlib.Data.List.Infix

/-!
# Concurrent least-connections picks

A pick loads the counts one after the other and then starts a request on the leftmost
least of what it has read, each one atomic step, in any interleaving with other picks
and with the end of requests. Counts that were read may be out of date.
-/

set_option autoImplicit false

namespace L7Proxy

open Interaction

/-- A count that was read, with the step at which it was. -/
structure Load where
  time : Nat
  count : Nat
  deriving DecidableEq

inductive PickPhase where
  | scanning
  | started (index : Nat)
  | finished
  deriving DecidableEq

structure Picker where
  loads : List Load
  phase : PickPhase
  deriving DecidableEq

namespace Picker

def scanning (picker : Picker) : Bool := decide (picker.phase = .scanning)

def startedOn (index : Nat) (picker : Picker) : Bool := decide (picker.phase = .started index)

/-- The index the scan arrives at. -/
def selected (picker : Picker) : Option Nat :=
  (LeastConnections.mk (picker.loads.map (·.count))).nextIndex picker.loads.length

end Picker

structure Picks where
  balancer : LeastConnections
  /-- The number of steps made so far. -/
  time : Nat
  pickers : List Picker
  deriving DecidableEq

inductive PickStep where
  | enter
  | load (picker : Nat)
  | start (picker : Nat)
  | finish (picker : Nat)
  deriving DecidableEq

namespace Picks

def initial (poolSize : Nat) : Picks := ⟨.new poolSize, 0, []⟩

/-- One step of the picker at an index. -/
def moved (picks : Picks) (balancer : LeastConnections) (index : Nat) (picker : Picker) : Picks :=
  ⟨balancer, picks.time + 1, picks.pickers.set index picker⟩

def enter (picks : Picks) : Picks :=
  { picks with time := picks.time + 1, pickers := picks.pickers ++ [⟨[], .scanning⟩] }

def load (picks : Picks) (index : Nat) : Option Picks := do
  let picker ← picks.pickers[index]?
  let count ← picks.balancer.active[picker.loads.length]?
  if picker.phase = .scanning then
    some (picks.moved picks.balancer index
      { picker with loads := picker.loads ++ [⟨picks.time + 1, count⟩] })
  else none

def start (picks : Picks) (index : Nat) : Option Picks := do
  let picker ← picks.pickers[index]?
  let selected ← picker.selected
  if picker.phase = .scanning ∧ picker.loads.length = picks.balancer.active.length then
    some (picks.moved (picks.balancer.recordStart selected) index { picker with phase := .started selected })
  else none

def finish (picks : Picks) (index : Nat) : Option Picks := do
  let picker ← picks.pickers[index]?
  match picker.phase with
  | .started selected =>
      some (picks.moved (picks.balancer.recordDone selected) index { picker with phase := .finished })
  | _ => none

def step (picks : Picks) : PickStep → Option Picks
  | .enter => some picks.enter
  | .load picker => picks.load picker
  | .start picker => picks.start picker
  | .finish picker => picks.finish picker

inductive Stepped (picks : Picks) : PickStep → Picks → Prop where
  | entered : Stepped picks .enter picks.enter
  | loaded {index count : Nat} {picker : Picker} (stored : picks.pickers[index]? = some picker)
      (phase : picker.phase = .scanning) (read : picks.balancer.active[picker.loads.length]? = some count) :
      Stepped picks (.load index) (picks.moved picks.balancer index
        { picker with loads := picker.loads ++ [⟨picks.time + 1, count⟩] })
  | started {index selected : Nat} {picker : Picker} (stored : picks.pickers[index]? = some picker)
      (phase : picker.phase = .scanning) (complete : picker.loads.length = picks.balancer.active.length)
      (scanned : picker.selected = some selected) :
      Stepped picks (.start index)
        (picks.moved (picks.balancer.recordStart selected) index { picker with phase := .started selected })
  | finished {index selected : Nat} {picker : Picker} (stored : picks.pickers[index]? = some picker)
      (phase : picker.phase = .started selected) :
      Stepped picks (.finish index)
        (picks.moved (picks.balancer.recordDone selected) index { picker with phase := .finished })

theorem step_cases {picks after : Picks} {action : PickStep} (stepped : picks.step action = some after) :
    picks.Stepped action after := by
  cases action with
  | enter =>
      cases stepped
      exact .entered
  | load index =>
      obtain ⟨picker, stored, loaded⟩ := Option.bind_eq_some_iff.mp stepped
      obtain ⟨count, read, loaded⟩ := Option.bind_eq_some_iff.mp loaded
      split at loaded
      · next phase =>
          cases loaded
          exact .loaded stored phase read
      · cases loaded
  | start index =>
      obtain ⟨picker, stored, started⟩ := Option.bind_eq_some_iff.mp stepped
      obtain ⟨selected, scanned, started⟩ := Option.bind_eq_some_iff.mp started
      split at started
      · next condition =>
          cases started
          exact .started stored condition.1 condition.2 scanned
      · cases started
  | finish index =>
      obtain ⟨picker, stored, finished⟩ := Option.bind_eq_some_iff.mp stepped
      split at finished
      · next selected phase =>
          cases finished
          exact .finished stored phase
      · cases finished

/-!
## What a scan arrives at
-/

/-- The count a scan starts on is the least of those it read. -/
theorem selected_least {picker : Picker} {selected : Nat} (scanned : picker.selected = some selected) :
    ∃ chosen, picker.loads[selected]? = some chosen ∧ ∀ load ∈ picker.loads, chosen.count ≤ load.count := by
  cases loads : picker.loads with
  | nil => simp [Picker.selected, LeastConnections.nextIndex, loads] at scanned
  | cons first rest =>
      have nonempty : 0 < picker.loads.length := by simp [loads]
      have sized : (LeastConnections.mk (picker.loads.map (·.count))).active.length = picker.loads.length := by
        simp
      obtain ⟨index, count, picked, least⟩ := LeastConnections.nextIndex_leftmostLeast nonempty sized
      rw [Picker.selected, picked, Option.some.injEq] at scanned
      subst scanned
      have stored := least.stored
      rw [List.getElem?_map, Option.map_eq_some_iff] at stored
      obtain ⟨chosen, found, same⟩ := stored
      rw [← loads]
      refine ⟨chosen, found, fun load member => ?_⟩
      rw [same]
      exact least.least load.count (List.mem_map_of_mem member)

/-!
## Balance without the end of requests
-/

/-- The picks that have not started their request yet. -/
def inFlight (picks : Picks) : Nat := picks.pickers.countP Picker.scanning

/-- A pick that has read the count at an index by some step and not started yet. -/
def reads (index time : Nat) (picker : Picker) : Bool :=
  picker.scanning && (picker.loads[index]?).any fun load => decide (load.time ≤ time)

def readers (picks : Picks) (index time : Nat) : Nat := picks.pickers.countP (reads index time)

theorem readers_le_inFlight (picks : Picks) (index time : Nat) : picks.readers index time ≤ picks.inFlight :=
  List.countP_mono_left fun _ _ reading => (Bool.and_eq_true_iff.mp reading).1

/-- The count at an index is covered by a least count that was read at some step, by
the room for picks at once, and by the picks that had read it by then: of these each
may still start a request there. Later readers saw a later count. -/
structure Anchored (limit : Nat) (picks : Picks) (index count time least : Nat) : Prop where
  past : time ≤ picks.time
  below : ∀ other ∈ picks.balancer.active, least ≤ other
  covered : count + picks.readers index time ≤ least + limit
  later : ∀ picker ∈ picks.pickers, picker.phase = .scanning → ∀ load : Load,
    picker.loads[index]? = some load → time < load.time →
      count + picks.readers index load.time ≤ load.count + limit

structure Steady (limit : Nat) (picks : Picks) : Prop where
  seen : ∀ picker ∈ picks.pickers, ∀ (index : Nat) (load : Load), picker.loads[index]? = some load →
    load.time ≤ picks.time ∧ ∃ count, picks.balancer.active[index]? = some count ∧ load.count ≤ count
  anchored : ∀ index count, picks.balancer.active[index]? = some count →
    ∃ time least, Anchored limit picks index count time least

section

variable {limit index count : Nat} {picks : Picks} {picker : Picker}

theorem Steady.balanced (steady : Steady limit picks) :
    ∀ left ∈ picks.balancer.active, ∀ right ∈ picks.balancer.active, left ≤ right + limit := by
  intro left leftMember right rightMember
  obtain ⟨index, stored⟩ := List.mem_iff_getElem?.mp leftMember
  obtain ⟨time, least, anchored⟩ := steady.anchored index left stored
  have below := anchored.below right rightMember
  have covered := anchored.covered
  omega

theorem Steady.enter (steady : Steady limit picks) : Steady limit picks.enter := by
  have same : ∀ index time, picks.enter.readers index time = picks.readers index time := by
    intro index time
    simp [readers, reads, Picks.enter, List.countP_append]
  have members : ∀ picker ∈ picks.enter.pickers, picker ∈ picks.pickers ∨ picker.loads = [] := by
    intro picker member
    rcases List.mem_append.mp member with old | new
    · exact .inl old
    · exact .inr (by rw [List.mem_singleton.mp new])
  constructor
  · intro picker member index load read
    rcases members picker member with old | empty
    · obtain ⟨past, count, stored, within⟩ := steady.seen picker old index load read
      exact ⟨Nat.le_succ_of_le past, count, stored, within⟩
    · simp [empty] at read
  · intro index count stored
    obtain ⟨time, least, anchored⟩ := steady.anchored index count stored
    refine ⟨time, least, Nat.le_succ_of_le anchored.past, anchored.below, ?_, ?_⟩
    · rw [same]
      exact anchored.covered
    · intro picker member phase load read newer
      rw [same]
      rcases members picker member with old | empty
      · exact anchored.later picker old phase load read newer
      · simp [empty] at read

/-!
A load comes after all loads so far, so it adds no reader to an earlier step.
-/

theorem getElem?_load {other : Nat} {load : Load}
    (read : (picker.loads ++ [⟨picks.time + 1, count⟩])[other]? = some load) :
    picker.loads[other]? = some load ∨ other = picker.loads.length ∧ load = ⟨picks.time + 1, count⟩ := by
  rcases Nat.lt_trichotomy other picker.loads.length with old | new | beyond
  · rw [List.getElem?_append_left old] at read
    exact .inl read
  · subst new
    rw [List.getElem?_concat_length, Option.some.injEq] at read
    exact .inr ⟨rfl, read.symm⟩
  · rw [List.getElem?_eq_none (by rw [List.length_append]; exact beyond)] at read
    cases read

theorem readers_load {other time : Nat} (stored : picks.pickers[index]? = some picker)
    (earlier : time ≤ picks.time) :
    (picks.moved picks.balancer index
        { picker with loads := picker.loads ++ [⟨picks.time + 1, count⟩] }).readers other time =
      picks.readers other time := by
  have changed := countP_set_add stored
    { picker with loads := picker.loads ++ [⟨picks.time + 1, count⟩] } (reads other time)
  have same : reads other time { picker with loads := picker.loads ++ [⟨picks.time + 1, count⟩] } =
      reads other time picker := by
    unfold reads Picker.scanning
    congr 1
    rcases Nat.lt_trichotomy other picker.loads.length with old | new | beyond
    · rw [List.getElem?_append_left old]
    · subst new
      simp only [List.getElem?_concat_length, Option.any_some, List.getElem?_length, Option.any_none,
        decide_eq_false_iff_not, Nat.not_le]
      omega
    · have outside : (picker.loads ++ [Load.mk (picks.time + 1) count]).length ≤ other := by
        rw [List.length_append]
        exact beyond
      rw [List.getElem?_eq_none outside, List.getElem?_eq_none beyond.le]
  rw [same] at changed
  exact Nat.add_right_cancel changed

theorem Steady.load (steady : Steady limit picks) (stored : picks.pickers[index]? = some picker)
    (read : picks.balancer.active[picker.loads.length]? = some count)
    (few : (picks.moved picks.balancer index
      { picker with loads := picker.loads ++ [⟨picks.time + 1, count⟩] }).inFlight ≤ limit) :
    Steady limit (picks.moved picks.balancer index
      { picker with loads := picker.loads ++ [⟨picks.time + 1, count⟩] }) := by
  constructor
  · intro other member position load found
    rcases List.mem_or_eq_of_mem_set member with old | new
    · obtain ⟨past, count, present, within⟩ := steady.seen other old position load found
      exact ⟨Nat.le_succ_of_le past, count, present, within⟩
    · subst new
      rcases getElem?_load found with old | ⟨rfl, rfl⟩
      · obtain ⟨past, count, present, within⟩ :=
          steady.seen picker (List.mem_of_getElem? stored) position load old
        exact ⟨Nat.le_succ_of_le past, count, present, within⟩
      · exact ⟨le_rfl, count, read, le_rfl⟩
  · intro position counted present
    obtain ⟨time, least, anchored⟩ := steady.anchored position counted present
    have unread : ∀ earlier ≤ picks.time, (picks.moved picks.balancer index
        { picker with loads := picker.loads ++ [⟨picks.time + 1, count⟩] }).readers position earlier =
          picks.readers position earlier := fun earlier => readers_load stored
    refine ⟨time, least, Nat.le_succ_of_le anchored.past, anchored.below, ?_, ?_⟩
    · rw [unread time anchored.past]
      exact anchored.covered
    · intro other member phase load found newer
      rcases List.mem_or_eq_of_mem_set member with old | new
      · rw [unread load.time (steady.seen other old position load found).1]
        exact anchored.later other old phase load found newer
      · subst new
        rcases getElem?_load found with old | ⟨rfl, rfl⟩
        · have member := List.mem_of_getElem? stored
          rw [unread load.time (steady.seen picker member position load old).1]
          exact anchored.later picker member phase load old newer
        · obtain rfl : counted = count := Option.some.inj (present.symm.trans read)
          exact Nat.add_le_add_left ((readers_le_inFlight ..).trans few) _

/-!
A start adds one to the count at its index and removes its reader.
-/

theorem readers_start (stored : picks.pickers[index]? = some picker) (phase : picker.phase = .scanning)
    (balancer : LeastConnections) (selected other time : Nat) :
    (picks.moved balancer index { picker with phase := .started selected }).readers other time +
        (if (picker.loads[other]?).any fun load => decide (load.time ≤ time) then 1 else 0) =
      picks.readers other time := by
  have changed := countP_set_add stored { picker with phase := .started selected } (reads other time)
  simpa [readers, moved, reads, Picker.scanning, phase] using changed

theorem le_recordStart {balancer : LeastConnections} {selected least : Nat}
    (below : ∀ other ∈ balancer.active, least ≤ other) :
    ∀ other ∈ (balancer.recordStart selected).active, least ≤ other := by
  intro other member
  rcases LeastConnections.mem_recordStart member with old | ⟨before, found, rfl⟩
  · exact below other old
  · exact Nat.le_succ_of_le (below before (List.mem_of_getElem? found))

/-- What a complete scan starts on was no more than any count is now. -/
theorem Steady.selected_below (steady : Steady limit picks) (member : picker ∈ picks.pickers)
    (complete : picker.loads.length = picks.balancer.active.length) {chosen : Load}
    (least : ∀ load ∈ picker.loads, chosen.count ≤ load.count) :
    ∀ other ∈ picks.balancer.active, chosen.count ≤ other := by
  intro other present
  obtain ⟨position, stored⟩ := List.mem_iff_getElem?.mp present
  have inside : position < picker.loads.length := by
    rw [complete]
    exact (List.getElem?_eq_some_iff.mp stored).1
  obtain ⟨_, counted, found, within⟩ :=
    steady.seen picker member position picker.loads[position] (List.getElem?_eq_getElem inside)
  obtain rfl : counted = other := Option.some.inj (found.symm.trans stored)
  exact (least _ (List.getElem_mem inside)).trans within

/-- The anchor moves to the load of a start that read its count later. -/
theorem Anchored.start {selected : Nat} {chosen : Load} {time least : Nat}
    (anchored : Anchored limit picks selected count time least) (steady : Steady limit picks)
    (stored : picks.pickers[index]? = some picker) (phase : picker.phase = .scanning)
    (complete : picker.loads.length = picks.balancer.active.length)
    (found : picker.loads[selected]? = some chosen) (smallest : ∀ load ∈ picker.loads, chosen.count ≤ load.count) :
    ∃ time least, Anchored limit
      (picks.moved (picks.balancer.recordStart selected) index { picker with phase := .started selected })
      selected (count + 1) time least := by
  have member := List.mem_of_getElem? stored
  have dropped : ∀ later, chosen.time ≤ later →
      (picks.moved (picks.balancer.recordStart selected) index
        { picker with phase := .started selected }).readers selected later + 1 =
          picks.readers selected later := by
    intro later ordered
    have changed := readers_start stored phase (picks.balancer.recordStart selected) selected selected later
    simpa [found, ordered] using changed
  have others : ∀ other ∈ (picks.moved (picks.balancer.recordStart selected) index
      { picker with phase := .started selected }).pickers, other.phase = .scanning → other ∈ picks.pickers := by
    intro other present scanning
    rcases List.mem_or_eq_of_mem_set present with old | new
    · exact old
    · simp [new] at scanning
  rcases Nat.lt_or_ge time chosen.time with after | before
  · refine ⟨chosen.time, chosen.count, ?_, ?_, ?_, ?_⟩
    · exact Nat.le_succ_of_le (steady.seen picker member selected chosen found).1
    · exact le_recordStart (steady.selected_below member complete smallest)
    · have covered := anchored.later picker member phase chosen found after
      have fewer := dropped chosen.time le_rfl
      omega
    · intro other present scanning load read newer
      have covered := anchored.later other (others other present scanning) scanning load read (after.trans newer)
      have fewer := dropped load.time newer.le
      omega
  · refine ⟨time, least, Nat.le_succ_of_le anchored.past, le_recordStart anchored.below, ?_, ?_⟩
    · have covered := anchored.covered
      have fewer := dropped time before
      omega
    · intro other present scanning load read newer
      have covered := anchored.later other (others other present scanning) scanning load read newer
      have fewer := dropped load.time (before.trans newer.le)
      omega

theorem Steady.start {selected : Nat} (steady : Steady limit picks)
    (stored : picks.pickers[index]? = some picker) (phase : picker.phase = .scanning)
    (complete : picker.loads.length = picks.balancer.active.length) (scanned : picker.selected = some selected) :
    Steady limit
      (picks.moved (picks.balancer.recordStart selected) index { picker with phase := .started selected }) := by
  obtain ⟨chosen, found, smallest⟩ := selected_least scanned
  constructor
  · intro other member position load read
    have before : load.time ≤ picks.time ∧ ∃ count, picks.balancer.active[position]? = some count ∧
        load.count ≤ count := by
      rcases List.mem_or_eq_of_mem_set member with old | new
      · exact steady.seen other old position load read
      · subst new
        exact steady.seen picker (List.mem_of_getElem? stored) position load read
    obtain ⟨past, count, present, within⟩ := before
    refine ⟨Nat.le_succ_of_le past, if selected = position then count + 1 else count, ?_, ?_⟩
    · rw [moved, LeastConnections.recordStart_getElem?, present]
      rfl
    · split <;> omega
  · intro position counted present
    rw [moved, LeastConnections.recordStart_getElem?] at present
    obtain ⟨count, before, same⟩ := Option.map_eq_some_iff.mp present
    obtain ⟨time, least, anchored⟩ := steady.anchored position count before
    by_cases here : selected = position
    · subst here
      rw [if_pos rfl] at same
      subst same
      exact anchored.start steady stored phase complete found smallest
    · rw [if_neg here] at same
      subst same
      have fewer : ∀ later, (picks.moved (picks.balancer.recordStart selected) index
          { picker with phase := .started selected }).readers position later ≤ picks.readers position later := by
        intro later
        rw [← readers_start stored phase (picks.balancer.recordStart selected) selected position later]
        exact Nat.le_add_right _ _
      refine ⟨time, least, Nat.le_succ_of_le anchored.past, le_recordStart anchored.below, ?_, ?_⟩
      · exact (Nat.add_le_add_left (fewer time) count).trans anchored.covered
      · intro other member scanning load read newer
        rcases List.mem_or_eq_of_mem_set member with old | new
        · exact (Nat.add_le_add_left (fewer load.time) count).trans
            (anchored.later other old scanning load read newer)
        · simp [new] at scanning

theorem initial_steady (limit poolSize : Nat) : Steady limit (initial poolSize) := by
  constructor
  · intro picker member
    simp [initial] at member
  · intro index count stored
    have zero : count = 0 := List.eq_of_mem_replicate (List.mem_of_getElem? stored)
    refine ⟨0, 0, le_rfl, fun other _ => Nat.zero_le other, ?_, ?_⟩
    · simp [readers, initial, zero]
    · intro picker member
      simp [initial] at member

end

def finishes : PickStep → Bool
  | .finish _ => true
  | _ => false

/-- When no request finishes and at most a limit of picks are under way at once, the
counts never differ by more than that limit, however out of date what each pick has
read. -/
theorem counts_within_limit {limit poolSize : Nat} {steps : List PickStep} {final : Picks}
    (executed : execute step (initial poolSize) steps = some final)
    (unfinished : ∀ action ∈ steps, finishes action = false)
    (few : ∀ picks, Visits step (initial poolSize) steps picks → picks.inFlight ≤ limit) :
    ∀ left ∈ final.balancer.active, ∀ right ∈ final.balancer.active, left ≤ right + limit := by
  have steady : ∀ picks, Visits step (initial poolSize) steps picks → Steady limit picks := by
    intro picks visited
    refine visits_preserves (Steady limit) (initial_steady limit poolSize) ?_ visited
    intro before action after performed holds
    have within := few after performed.visits_after
    obtain ⟨earlier, later, split, _, stepped⟩ := performed
    cases step_cases stepped with
    | entered => exact holds.enter
    | loaded stored phase read => exact holds.load stored read within
    | started stored phase complete scanned => exact holds.start stored phase complete scanned
    | @finished index =>
        have absent := unfinished (.finish index) (by simp [split])
        cases absent
  exact (steady final (.final executed)).balanced

/-- Two picks read equal counts and both start on the first index. -/
def crossingPicks : List PickStep :=
  [.enter, .enter, .load 0, .load 1, .load 0, .load 1, .start 0, .start 1]

theorem counts_within_limit_crossing :
    ∃ final, execute step (initial 2) crossingPicks = some final ∧
      ∀ left ∈ final.balancer.active, ∀ right ∈ final.balancer.active, left ≤ right + 2 := by
  have executed : ∃ final, execute step (initial 2) crossingPicks = some final :=
    Option.isSome_iff_exists.mp (by decide)
  obtain ⟨final, reached⟩ := executed
  refine ⟨final, reached, counts_within_limit reached (by decide) ?_⟩
  intro picks visited
  obtain ⟨earlier, later, split, executed⟩ := visited
  have prefixes : ∀ earlier ∈ crossingPicks.inits,
      ((execute step (initial 2) earlier).all fun picks => decide (picks.inFlight ≤ 2)) = true := by decide
  have within := prefixes earlier ((List.mem_inits _ _).mpr ⟨later, split.symm⟩)
  rw [executed] at within
  exact of_decide_eq_true within

/-!
## One pick
-/

def starts : PickStep → Bool
  | .start _ => true
  | _ => false

/-- Every count is the number of requests started on its index and not finished. -/
def Accounted (picks : Picks) : Prop :=
  ∀ index count, picks.balancer.active[index]? = some count →
    count = picks.pickers.countP (Picker.startedOn index)

section

variable {picks after : Picks} {action : PickStep}

theorem initial_accounted (poolSize : Nat) : (initial poolSize).Accounted := by
  intro index count stored
  exact List.eq_of_mem_replicate (List.mem_of_getElem? stored)

/-- What a step does to one count: it changes only with a start or a finish at its index. -/
theorem step_count (accounted : picks.Accounted) (stepped : picks.step action = some after) {index count : Nat}
    (stored : picks.balancer.active[index]? = some count) :
    ∃ next, after.balancer.active[index]? = some next ∧
      next = after.pickers.countP (Picker.startedOn index) ∧
      next ≤ count + (if starts action then 1 else 0) ∧ count ≤ next + if finishes action then 1 else 0 := by
  have counted := accounted index count stored
  cases step_cases stepped with
  | entered => exact ⟨count, stored, by simp [enter, counted, Picker.startedOn], by simp, by simp⟩
  | @loaded position read picker found phase =>
      have changed := countP_set_add found
        { picker with loads := picker.loads ++ [⟨picks.time + 1, read⟩] } (Picker.startedOn index)
      have same := Nat.add_right_cancel changed
      exact ⟨count, stored, counted.trans same.symm, by simp, by simp⟩
  | @started position selected picker found phase =>
      have changed := countP_set_add found { picker with phase := .started selected } (Picker.startedOn index)
      have before : Picker.startedOn index picker = false := by simp [Picker.startedOn, phase]
      have now : Picker.startedOn index { picker with phase := .started selected } =
          decide (selected = index) := by simp [Picker.startedOn]
      rw [before, now, ← counted] at changed
      simp only [Bool.false_eq_true, if_false, Nat.add_zero, decide_eq_true_eq] at changed
      refine ⟨if selected = index then count + 1 else count, ?_, ?_, ?_, ?_⟩
      · rw [moved, LeastConnections.recordStart_getElem?, stored]
        rfl
      · rw [moved, changed]
        split <;> rfl
      · simp only [starts, if_true]
        split <;> omega
      · simp only [finishes]
        split <;> omega
  | @finished position selected picker found phase =>
      have changed := countP_set_add found { picker with phase := .finished } (Picker.startedOn index)
      have before : Picker.startedOn index picker = decide (selected = index) := by
        simp [Picker.startedOn, phase]
      have now : Picker.startedOn index { picker with phase := .finished } = false := by
        simp [Picker.startedOn]
      rw [before, now, ← counted] at changed
      simp only [Bool.false_eq_true, if_false, Nat.add_zero, decide_eq_true_eq] at changed
      refine ⟨if selected = index then count - 1 else count, ?_, ?_, ?_, ?_⟩
      · rw [moved, LeastConnections.recordDone_getElem?, stored, Option.map_some]
        split
        · next here =>
            rw [if_pos here] at changed
            rw [if_neg (by omega)]
        · rfl
      · simp only [moved]
        split at changed
        · next here =>
            rw [if_pos here]
            omega
        · next elsewhere =>
            rw [if_neg elsewhere]
            omega
      · simp only [starts]
        split <;> omega
      · simp only [finishes, if_true]
        split <;> omega

/-- What a scan has read differs from the counts now by no more than the starts and the
finishes since. -/
def Drifts (started finished : Nat) (picker : Picker) (picks : Picks) : Prop :=
  ∀ (index : Nat) (load : Load), picker.loads[index]? = some load →
    ∃ count, picks.balancer.active[index]? = some count ∧
      count ≤ load.count + started ∧ load.count ≤ count + finished

theorem step_length (stepped : picks.step action = some after) :
    after.balancer.active.length = picks.balancer.active.length := by
  cases step_cases stepped with
  | entered | loaded => rfl
  | started => exact LeastConnections.length_recordStart _
  | finished => exact LeastConnections.length_recordDone _

theorem step_accounted (accounted : picks.Accounted) (stepped : picks.step action = some after) :
    after.Accounted := by
  intro index next stored
  have inside := (List.getElem?_eq_some_iff.mp stored).1
  rw [step_length stepped] at inside
  obtain ⟨same, found, counted, _⟩ := step_count accounted stepped (List.getElem?_eq_getElem inside)
  obtain rfl : same = next := Option.some.inj (found.symm.trans stored)
  exact counted

/-- The loads of a picker stay, and one it makes reads the count of its step. -/
theorem step_picker (stepped : picks.step action = some after) {position : Nat} {picker : Picker}
    (stored : picks.pickers[position]? = some picker) :
    ∃ next, after.pickers[position]? = some next ∧ ∀ (index : Nat) (load : Load),
      next.loads[index]? = some load → picker.loads[index]? = some load ∨
        after.balancer = picks.balancer ∧ picks.balancer.active[index]? = some load.count := by
  have kept : ∀ {other : Nat} {old : Picker} (balancer : LeastConnections) (changed : Picker),
      picks.pickers[other]? = some old → changed.loads = old.loads →
      ∃ next, (picks.moved balancer other changed).pickers[position]? = some next ∧ next.loads = picker.loads := by
    intro other old balancer changed found loads
    by_cases here : other = position
    · subst here
      obtain rfl : old = picker := Option.some.inj (found.symm.trans stored)
      exact ⟨changed, List.getElem?_set_self (List.getElem?_eq_some_iff.mp stored).1, loads⟩
    · exact ⟨picker, (List.getElem?_set_ne here).trans stored, rfl⟩
  cases step_cases stepped with
  | entered =>
      have inside := (List.getElem?_eq_some_iff.mp stored).1
      exact ⟨picker, (List.getElem?_append_left inside).trans stored, fun _ _ read => .inl read⟩
  | @loaded other count reader found phase current =>
      by_cases here : other = position
      · subst here
        obtain rfl : reader = picker := Option.some.inj (found.symm.trans stored)
        refine ⟨_, List.getElem?_set_self (List.getElem?_eq_some_iff.mp stored).1, fun index load read => ?_⟩
        rcases getElem?_load read with old | ⟨rfl, rfl⟩
        · exact .inl old
        · exact .inr ⟨rfl, current⟩
      · exact ⟨picker, (List.getElem?_set_ne here).trans stored, fun _ _ read => .inl read⟩
  | @started _ selected starter found =>
      obtain ⟨next, reached, same⟩ := kept (picks.balancer.recordStart selected)
        { starter with phase := .started selected } found rfl
      exact ⟨next, reached, fun _ _ read => .inl (same ▸ read)⟩
  | @finished _ selected finisher found =>
      obtain ⟨next, reached, same⟩ := kept (picks.balancer.recordDone selected)
        { finisher with phase := .finished } found rfl
      exact ⟨next, reached, fun _ _ read => .inl (same ▸ read)⟩

theorem Drifts.step {started finished : Nat} {picker next : Picker}
    (drifts : Drifts started finished picker picks) (accounted : picks.Accounted)
    (stepped : picks.step action = some after)
    (loads : ∀ (index : Nat) (load : Load), next.loads[index]? = some load → picker.loads[index]? = some load ∨
      after.balancer = picks.balancer ∧ picks.balancer.active[index]? = some load.count) :
    Drifts (started + if starts action then 1 else 0) (finished + if finishes action then 1 else 0) next
      after := by
  intro index load read
  rcases loads index load read with old | ⟨same, current⟩
  · obtain ⟨count, stored, above, below⟩ := drifts index load old
    obtain ⟨count', stored', _, above', below'⟩ := step_count accounted stepped stored
    exact ⟨count', stored', by omega, by omega⟩
  · exact ⟨load.count, same ▸ current, by omega, by omega⟩

theorem execute_drifts {start final : Picks} {actions : List PickStep} {position started finished : Nat}
    {picker : Picker} (accounted : start.Accounted) (stored : start.pickers[position]? = some picker)
    (drifts : Drifts started finished picker start) (executed : execute step start actions = some final) :
    ∃ reached, final.pickers[position]? = some reached ∧
      Drifts (started + actions.countP starts) (finished + actions.countP finishes) reached final := by
  induction actions generalizing start picker started finished with
  | nil =>
      cases executed
      exact ⟨picker, stored, drifts⟩
  | cons action actions ih =>
      obtain ⟨middle, stepped, rest⟩ := execute_cons.mp executed
      obtain ⟨next, found, loads⟩ := step_picker stepped stored
      obtain ⟨reached, last, drifted⟩ :=
        ih (step_accounted accounted stepped) found (drifts.step accounted stepped loads) rest
      refine ⟨reached, last, ?_⟩
      rw [List.countP_cons, List.countP_cons, Nat.add_comm (actions.countP starts),
        Nat.add_comm (actions.countP finishes), ← Nat.add_assoc, ← Nat.add_assoc]
      exact drifted

end

/-- A pick starts its request on an index whose count exceeds no other by more than the
starts and finishes of other requests while it was scanning. -/
theorem start_near_least {poolSize : Nat} {before between : List PickStep} {entered scanned started : Picks}
    (reached : execute step (initial poolSize) before = some entered)
    (ran : execute step entered.enter between = some scanned)
    (begun : scanned.step (.start entered.pickers.length) = some started) :
    ∃ selected count, started.balancer = scanned.balancer.recordStart selected ∧
      scanned.balancer.active[selected]? = some count ∧ ∀ other ∈ scanned.balancer.active,
        count ≤ other + (between.countP starts + between.countP finishes) := by
  have accounted : entered.Accounted := execute_preserves Accounted
    (fun _ _ _ holds stepped => step_accounted holds stepped) (initial_accounted poolSize) reached
  have newcomer : entered.enter.pickers[entered.pickers.length]? = some ⟨[], .scanning⟩ :=
    List.getElem?_concat_length
  have unread : Drifts 0 0 ⟨[], .scanning⟩ entered.enter := by
    intro index load read
    simp at read
  obtain ⟨picker, found, drifts⟩ :=
    execute_drifts (step_accounted accounted (show entered.step .enter = _ from rfl)) newcomer unread ran
  cases step_cases begun with
  | @started _ selected starter stored phase complete scannedBy =>
      obtain rfl : starter = picker := Option.some.inj (stored.symm.trans found)
      obtain ⟨chosen, read, least⟩ := selected_least scannedBy
      obtain ⟨count, current, above, _⟩ := drifts selected chosen read
      refine ⟨selected, count, rfl, current, fun other member => ?_⟩
      obtain ⟨position, present⟩ := List.mem_iff_getElem?.mp member
      have inside : position < starter.loads.length := by
        rw [complete]
        exact (List.getElem?_eq_some_iff.mp present).1
      have smallest := least starter.loads[position] (List.getElem_mem inside)
      obtain ⟨counted, same, _, below⟩ :=
        drifts position starter.loads[position] (List.getElem?_eq_getElem inside)
      obtain rfl : counted = other := Option.some.inj (same.symm.trans present)
      omega

/-- The second pick scans while the first one starts. -/
theorem start_near_least_crossing :
    ∃ entered scanned started, execute step (initial 2) [.enter, .load 0, .load 0] = some entered ∧
      execute step entered.enter [.load 1, .start 0, .load 1] = some scanned ∧
      scanned.step (.start 1) = some started ∧
      ∃ selected count, started.balancer = scanned.balancer.recordStart selected ∧
        scanned.balancer.active[selected]? = some count ∧ ∀ other ∈ scanned.balancer.active,
          count ≤ other + ([PickStep.load 1, .start 0, .load 1].countP starts +
            [PickStep.load 1, .start 0, .load 1].countP finishes) := by
  have ran : ∃ entered scanned started, execute step (initial 2) [.enter, .load 0, .load 0] = some entered ∧
      execute step entered.enter [.load 1, .start 0, .load 1] = some scanned ∧
      scanned.step (.start 1) = some started ∧ entered.pickers.length = 1 :=
    ⟨_, _, _, rfl, rfl, rfl, rfl⟩
  obtain ⟨entered, scanned, started, reached, between, begun, position⟩ := ran
  exact ⟨entered, scanned, started, reached, between, begun,
    start_near_least reached between (position.symm ▸ begun)⟩

/-!
## A pick alone
-/

/-- The steps of a pick that nothing interrupts. -/
def alone (picks : Picks) : List PickStep :=
  .enter :: (List.replicate picks.balancer.active.length (.load picks.pickers.length) ++
    [.start picks.pickers.length])

theorem execute_loads {picks : Picks} (made : Nat) (within : made ≤ picks.balancer.active.length) :
    ∃ time loads, execute step picks.enter (List.replicate made (.load picks.pickers.length)) =
        some ⟨picks.balancer, time, picks.pickers ++ [⟨loads, .scanning⟩]⟩ ∧
      loads.map (·.count) = picks.balancer.active.take made := by
  induction made with
  | zero => exact ⟨picks.time + 1, [], rfl, rfl⟩
  | succ made ih =>
      obtain ⟨time, loads, executed, read⟩ := ih (Nat.le_of_succ_le within)
      have length : loads.length = made := by
        rw [← List.length_map (·.count), read, List.length_take, min_eq_left (Nat.le_of_succ_le within)]
      have current := List.getElem?_eq_getElem (show made < picks.balancer.active.length from within)
      refine ⟨time + 1, loads ++ [⟨time + 1, picks.balancer.active[made]⟩], ?_, ?_⟩
      · rw [List.replicate_succ']
        refine execute_append.mpr ⟨_, executed, execute_cons.mpr ⟨_, ?_, rfl⟩⟩
        simp [step, load, length, current, moved]
      · rw [List.map_append, read, List.take_add_one, current]
        rfl

/-- An uninterrupted pick starts where `next_index` points. -/
theorem execute_alone {picks : Picks} (nonempty : picks.balancer.active ≠ []) :
    ∃ after, execute step picks picks.alone = some after ∧
      picks.balancer.change picks.balancer.active.length .pick = some after.balancer := by
  obtain ⟨time, loads, executed, read⟩ := @execute_loads picks _ le_rfl
  rw [List.take_length] at read
  have length : loads.length = picks.balancer.active.length := by rw [← read, List.length_map]
  obtain ⟨index, count, picked, _⟩ :=
    LeastConnections.nextIndex_leftmostLeast (List.length_pos_iff.mpr nonempty) (rfl : _ = _)
  have selected : Picker.selected ⟨loads, .scanning⟩ = some index := by
    rw [Picker.selected, read, length]
    exact picked
  refine ⟨⟨picks.balancer.recordStart index, time + 1, picks.pickers ++ [⟨loads, .started index⟩]⟩, ?_, ?_⟩
  · rw [alone]
    refine execute_cons.mpr ⟨picks.enter, rfl, execute_append.mpr ⟨_, executed, ?_⟩⟩
    refine execute_cons.mpr ⟨_, ?_, rfl⟩
    simp [step, start, selected, length, moved]
  · rw [LeastConnections.change, picked]
    rfl

end Picks

end L7Proxy
