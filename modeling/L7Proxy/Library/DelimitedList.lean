import Mathlib.Data.List.TakeWhile
import Mathlib.Tactic.Common

/-!
# Delimited lists

Texts that carry lists: elements stand between separators, blanks around an element
do not belong to it, and empty elements do not count.
-/

set_option autoImplicit false

namespace DelimitedList

variable {α : Type} {blank : α → Bool} {text : List α} {char : α}

def trim (blank : α → Bool) (text : List α) : List α :=
  (((text.dropWhile blank).reverse).dropWhile blank).reverse

@[simp] theorem trim_cons_blank (isBlank : blank char = true) : trim blank (char :: text) = trim blank text := by
  simp [trim, isBlank]

theorem trim_eq_nil_iff : trim blank text = [] ↔ ∀ char ∈ text, blank char = true := by
  simp only [trim, List.reverse_eq_nil_iff, List.dropWhile_eq_nil_iff, List.mem_reverse]
  constructor
  · intro rest
    have none : text.dropWhile blank = [] := by
      cases kept : text.dropWhile blank with
      | nil => rfl
      | cons first later =>
          have refused := List.head?_dropWhile_not blank text
          rw [kept] at refused rest
          have blankFirst := rest first List.mem_cons_self
          simp [blankFirst] at refused
    exact List.dropWhile_eq_nil_iff.mp none
  · intro blanks char member
    exact blanks char ((List.dropWhile_sublist blank).subset member)

theorem trim_eq_self (solid : ∀ char ∈ text, blank char = false) : trim blank text = text := by
  have kept : ∀ {chars : List α}, (∀ char ∈ chars, blank char = false) → chars.dropWhile blank = chars := by
    intro chars solid
    cases chars with
    | nil => rfl
    | cons first later => exact List.dropWhile_cons_of_neg (by simp [solid first List.mem_cons_self])
  rw [trim, kept solid, kept fun char member => solid char (List.mem_reverse.mp member), List.reverse_reverse]

variable [DecidableEq α] {separator : α}

def elements (separator : α) (blank : α → Bool) (text : List α) : List (List α) :=
  ((text.splitOn separator).map (trim blank)).filter fun element => !element.isEmpty

@[simp] theorem elements_append (left right : List α) :
    elements separator blank (left ++ separator :: right) =
      elements separator blank left ++ elements separator blank right := by
  simp [elements, List.splitOn_append_cons_self]

theorem elements_cons_blank (isBlank : blank char = true) (other : char ≠ separator) :
    elements separator blank (char :: text) = elements separator blank text := by
  obtain ⟨head, rest, split⟩ := List.exists_cons_of_ne_nil (List.splitOn_ne_nil separator text)
  simp [elements, List.splitOn_cons_eq_if_modifyHead, other, split, isBlank]

theorem elements_of_solid (nonempty : text ≠ [])
    (solid : ∀ char ∈ text, char ≠ separator ∧ blank char = false) :
    elements separator blank text = [text] := by
  have whole : text.splitOn separator = [text] :=
    List.splitOn_eq_singleton fun member => (solid separator member).1 rfl
  have trimmed := trim_eq_self fun char member => (solid char member).2
  simp [elements, whole, trimmed, nonempty]

theorem elements_eq_nil_iff :
    elements separator blank text = [] ↔ ∀ char ∈ text, char = separator ∨ blank char = true := by
  have pieces : elements separator blank text = [] ↔
      ∀ piece ∈ text.splitOn separator, ∀ char ∈ piece, blank char = true := by
    simp [elements, List.filter_eq_nil_iff, trim_eq_nil_iff]
  rw [pieces]
  clear pieces
  induction text with
  | nil => simp
  | cons first text ih =>
      rw [List.splitOn_cons_eq_if_modifyHead, List.forall_mem_cons]
      refine Iff.trans ?_ (and_congr_right' ih)
      by_cases same : first = separator
      · simp [same]
      · obtain ⟨head, rest, split⟩ := List.exists_cons_of_ne_nil (List.splitOn_ne_nil separator text)
        simp [same, split, and_assoc]

end DelimitedList
