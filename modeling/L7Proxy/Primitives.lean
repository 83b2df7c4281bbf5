import Mathlib.Algebra.Order.Ring.Rat
import Mathlib.Data.List.Induction
import Mathlib.Data.List.TakeWhile
import Mathlib.Logic.Function.Basic
import Mathlib.Tactic.Linarith
import Mathlib.Tactic.NormNum

/-!
# Primitives of the source language

Fixed-width counters, the monotonic clock, and the standard-library string and
iterator operations the proxy relies on.
-/

set_option autoImplicit false

namespace L7Proxy

/-- The number of values of a `usize` or a `u64` on the 64-bit targets. -/
def wordSize : Nat := 2 ^ 64

def wordMax : Nat := wordSize - 1

/-- The number of values of a `u32`. -/
def u32Size : Nat := 2 ^ 32

def u32Max : Nat := u32Size - 1

/-- Addition on `usize` and `u64` as a release build performs it. -/
def wrappingAdd (left right : Nat) : Nat := (left + right) % wordSize

theorem wrappingAdd_of_lt {left right : Nat} (fits : left + right < wordSize) :
    wrappingAdd left right = left + right :=
  Nat.mod_eq_of_lt fits

/-!
## Clock
-/

/-- A reading of the monotonic clock, in seconds. -/
abbrev Instant := ℚ

abbrev Duration := ℚ

/-- `Instant::duration_since`: zero when the other instant is the later one. -/
def durationSince (now earlier : Instant) : Duration := max 0 (now - earlier)

theorem durationSince_of_le {now earlier : Instant} (ordered : earlier ≤ now) :
    durationSince now earlier = now - earlier :=
  max_eq_right (sub_nonneg.mpr ordered)

@[simp] theorem durationSince_self (now : Instant) : durationSince now now = 0 := by
  simp [durationSince]

/-- The seconds of an `Instant` are an `i64`. -/
def earliestInstant : Instant := -2 ^ 63

/-- `Instant - Duration`, which panics where no `Instant` holds the difference. -/
def instantSub (now : Instant) (elapsed : Duration) : Option Instant :=
  if earliestInstant ≤ now - elapsed then some (now - elapsed) else none

theorem instantSub_of_le {now : Instant} {elapsed : Duration} (fits : earliestInstant ≤ now - elapsed) :
    instantSub now elapsed = some (now - elapsed) :=
  if_pos fits

theorem instantSub_of_lt {now : Instant} {elapsed : Duration} (before : now - elapsed < earliestInstant) :
    instantSub now elapsed = none :=
  if_neg (not_le.mpr before)

/-!
## Strings
-/

def startsWith (text start : String) : Bool := start.toList.isPrefixOf text.toList

def stripPrefix (text start : String) : Option String :=
  if startsWith text start then some (String.ofList (text.toList.drop start.toList.length))
  else none

theorem startsWith_iff {text start : String} :
    startsWith text start = true ↔ ∃ rest, text = start ++ rest := by
  simp only [startsWith, List.isPrefixOf_iff_prefix]
  constructor
  · intro prefixed
    obtain ⟨rest, split⟩ := prefixed
    refine ⟨String.ofList rest, String.toList_injective ?_⟩
    rw [String.toList_append, String.toList_ofList, split]
  · intro extended
    obtain ⟨rest, rfl⟩ := extended
    exact ⟨rest.toList, by rw [String.toList_append]⟩

@[simp] theorem stripPrefix_append (start rest : String) :
    stripPrefix (start ++ rest) start = some rest := by
  have matched : startsWith (start ++ rest) start = true := startsWith_iff.mpr ⟨rest, rfl⟩
  simp [stripPrefix, matched]

/-!
## Iterators and maps
-/

/-- `Iterator::max_by_key`: the last of the elements with the greatest key. -/
def maxByKey {α : Type} (key : α → Nat) (elements : List α) : Option α :=
  elements.foldl (fun best candidate =>
    match best with
    | none => some candidate
    | some chosen => if key candidate < key chosen then some chosen else some candidate) none

theorem maxByKey_append_singleton {α : Type} (key : α → Nat) (front : List α) (last : α) :
    maxByKey key (front ++ [last]) =
      match maxByKey key front with
      | none => some last
      | some chosen => if key last < key chosen then some chosen else some last := by
  simp only [maxByKey, List.foldl_append, List.foldl_cons, List.foldl_nil]

theorem maxByKey_eq_none_iff {α : Type} {key : α → Nat} {elements : List α} :
    maxByKey key elements = none ↔ elements = [] := by
  constructor
  · intro unselected
    cases elements using List.reverseRecOn with
    | nil => rfl
    | append_singleton front last =>
        rw [maxByKey_append_singleton] at unselected
        split at unselected
        · cases unselected
        · split at unselected <;> cases unselected
  · intro empty
    rw [empty]
    rfl

/-- Nothing has a greater key than the element chosen, and nothing after it an equal one. -/
theorem maxByKey_splits {α : Type} {key : α → Nat} {elements : List α} {chosen : α}
    (selected : maxByKey key elements = some chosen) :
    ∃ before after, elements = before ++ chosen :: after ∧
      (∀ element ∈ before, key element ≤ key chosen) ∧ ∀ element ∈ after, key element < key chosen := by
  induction elements using List.reverseRecOn generalizing chosen with
  | nil => cases selected
  | append_singleton front last ih =>
      rw [maxByKey_append_singleton] at selected
      split at selected
      · next unselected =>
          cases selected
          rw [maxByKey_eq_none_iff.mp unselected]
          exact ⟨[], [], rfl, by simp, by simp⟩
      · next best bestFound =>
          obtain ⟨before, after, frontSplit, least, less⟩ := ih bestFound
          split at selected
          · next smaller =>
              cases selected
              refine ⟨before, after ++ [last], by rw [frontSplit, List.append_assoc]; rfl, least, ?_⟩
              intro element member
              rcases List.mem_append.mp member with old | new
              · exact less element old
              · rw [List.mem_singleton.mp new]
                exact smaller
          · next greatest =>
              cases selected
              refine ⟨front, [], rfl, ?_, by simp⟩
              intro element member
              apply le_trans _ (Nat.le_of_not_lt greatest)
              rw [frontSplit] at member
              rcases List.mem_append.mp member with early | late
              · exact least element early
              · rcases List.mem_cons.mp late with same | later
                · rw [same]
                · exact (less element later).le

theorem maxByKey_mem {α : Type} {key : α → Nat} {elements : List α} {chosen : α}
    (selected : maxByKey key elements = some chosen) : chosen ∈ elements := by
  obtain ⟨before, after, split, _⟩ := maxByKey_splits selected
  rw [split]
  exact List.mem_append_right _ List.mem_cons_self

theorem maxByKey_map {α β : Type} {key : β → Nat} {image : α → β} (elements : List α) :
    maxByKey key (elements.map image) = (maxByKey (key ∘ image) elements).map image := by
  unfold maxByKey
  rw [List.foldl_map]
  change List.foldl _ (Option.map image none) elements = _
  refine List.foldl_hom (Option.map image) fun best candidate => ?_
  cases best with
  | none => rfl
  | some chosen =>
      simp only [Option.map_some, Function.comp_apply]
      split <;> rfl

/-- A list splits where a test first fails. -/
theorem takeWhile_split {α : Type} (test : α → Bool) (elements : List α) :
    ∃ before rest, elements = before ++ rest ∧ elements.takeWhile test = before ∧
      (∀ element ∈ before, test element = true) ∧ ∀ element ∈ rest.head?, test element = false := by
  refine ⟨elements.takeWhile test, elements.dropWhile test, List.takeWhile_append_dropWhile.symm, rfl,
    fun element member => List.mem_takeWhile_imp member, fun element member => ?_⟩
  have refused := List.head?_dropWhile_not test elements
  rw [Option.mem_def] at member
  rw [member] at refused
  simpa using refused

/-- Replacing an element trades its measure in a sum. -/
theorem sum_map_set {α : Type} {elements : List α} {index : Nat} {old : α}
    (stored : elements[index]? = some old) (new : α) (measure : α → Nat) :
    ((elements.set index new).map measure).sum + measure old = (elements.map measure).sum + measure new := by
  induction elements generalizing index with
  | nil => simp at stored
  | cons first rest ih =>
      cases index with
      | zero =>
          rw [List.getElem?_cons_zero, Option.some.injEq] at stored
          subst stored
          simp only [List.set_cons_zero, List.map_cons, List.sum_cons]
          omega
      | succ index =>
          have later := ih (by simpa using stored)
          simp only [List.set_cons_succ, List.map_cons, List.sum_cons]
          omega

/-- What an element gains in a replacement the whole gains, in some order. -/
theorem flatMap_set_perm {α β : Type} {elements : List α} {index : Nat} {old new : α} {shown : α → List β}
    {gained : List β} (stored : elements[index]? = some old) (grown : shown new = shown old ++ gained) :
    ((elements.set index new).flatMap shown).Perm (elements.flatMap shown ++ gained) := by
  induction elements generalizing index with
  | nil => simp at stored
  | cons first rest ih =>
      cases index with
      | zero =>
          rw [List.getElem?_cons_zero, Option.some.injEq] at stored
          subst stored
          rw [List.set_cons_zero, List.flatMap_cons, List.flatMap_cons, grown, List.append_assoc, List.append_assoc]
          exact List.perm_append_comm.append_left _
      | succ index =>
          rw [List.set_cons_succ, List.flatMap_cons, List.flatMap_cons, List.append_assoc]
          exact (ih (by simpa using stored)).append_left _

/-- Replacing an element trades its count for the one of the new element. -/
theorem countP_set_add {α : Type} {elements : List α} {index : Nat} {old : α}
    (stored : elements[index]? = some old) (new : α) (test : α → Bool) :
    (elements.set index new).countP test + (if test old then 1 else 0) =
      elements.countP test + if test new then 1 else 0 := by
  obtain ⟨inside, rfl⟩ := List.getElem?_eq_some_iff.mp stored
  have counted : (if test elements[index] then 1 else 0) ≤ elements.countP test := by
    split
    · next passes => exact List.countP_pos_iff.mpr ⟨_, List.getElem_mem inside, passes⟩
    · exact Nat.zero_le _
  rw [List.countP_set inside]
  omega

/-- A `HashMap`, of which the proxy uses only lookup, update and `retain`. -/
abbrev Table (Key Value : Type) := Key → Option Value

def Table.empty {Key Value : Type} : Table Key Value := fun _ => none

/-- `HashMap::retain` for a test on the stored values. -/
def Table.retain {Key Value : Type} (table : Table Key Value) (keep : Value → Bool) :
    Table Key Value :=
  fun key => (table key).filter keep

@[simp] theorem Table.empty_apply {Key Value : Type} (key : Key) :
    (Table.empty : Table Key Value) key = none := rfl

@[simp] theorem Table.retain_apply {Key Value : Type} (table : Table Key Value)
    (keep : Value → Bool) (key : Key) : table.retain keep key = (table key).filter keep := rfl

end L7Proxy
