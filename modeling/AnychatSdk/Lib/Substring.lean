import Mathlib.Data.List.Basic

/-!
# Searching in a text

The operations of `std::string` that look for a place in a text and cut it there,
over any type of characters.  No place stands for `npos`, and a position beyond the
end for the exception.
-/

namespace Substring

variable {Character : Type*}

/-- `substr` up to the end. -/
def substr? (text : List Character) (position : Nat) : Option (List Character) :=
  if position ≤ text.length then some (text.drop position) else none

/-- Where a character occurs, the text splits at its last place. -/
theorem exists_last_of_mem {character : Character} {text : List Character}
    (occurs : character ∈ text) :
    ∃ front rest, text = front ++ character :: rest ∧ character ∉ rest := by
  rcases List.eq_append_cons_of_mem (List.mem_reverse.mpr occurs) with
    ⟨rest, front, reversed, absent⟩
  refine ⟨front.reverse, rest.reverse, ?_, fun member => absent (List.mem_reverse.mp member)⟩
  rw [← List.reverse_reverse text, reversed]
  simp

variable [DecidableEq Character]

/-- `find`: the first place from `start` on where the pattern stands. -/
def find? (pattern text : List Character) (start : Nat) : Option Nat :=
  (List.range' start (text.length + 1 - start)).find? fun position =>
    pattern.isPrefixOf (text.drop position)

/-- `rfind` of one character: its last place. -/
def rfind? (character : Character) (text : List Character) : Option Nat :=
  (text.reverse.idxOf? character).map fun fromEnd => text.length - 1 - fromEnd

/-- A pattern is found behind a front in which it does not begin. -/
theorem find?_append {pattern front rest : List Character} {start : Nat}
    (within : start ≤ front.length) (stands : pattern <+: rest)
    (first : ∀ position, start ≤ position → position < front.length →
      ¬pattern <+: (front ++ rest).drop position) :
    find? pattern (front ++ rest) start = some front.length := by
  rw [find?, List.find?_range'_eq_some]
  constructor
  · simpa [List.isPrefixOf_iff_prefix] using stands
  · constructor
    · rw [List.mem_range'_1, List.length_append]
      omega
    · intro position after before
      rw [Bool.not_eq_true', ← Bool.not_eq_true, List.isPrefixOf_iff_prefix]
      exact first position after before

/-- A front without the first character of the pattern is such a front. -/
theorem find?_append_of_not_mem {first : Character} {front : List Character} {start : Nat}
    (within : start ≤ front.length) (absent : first ∉ front.drop start)
    (pattern rest : List Character) :
    find? (first :: pattern) (front ++ (first :: pattern ++ rest)) start = some front.length := by
  refine find?_append within (List.prefix_append _ _) ?_
  rintro position after before ⟨following, stands⟩
  have firstAt : front[position]? = some first := by
    rw [← List.getElem?_append_left before, ← List.head?_drop, ← stands]
    rfl
  refine absent (List.mem_iff_getElem?.mpr ⟨position - start, ?_⟩)
  rwa [List.getElem?_drop, Nat.add_sub_cancel' after]

theorem rfind?_eq_none_iff {character : Character} {text : List Character} :
    rfind? character text = none ↔ character ∉ text := by
  simp [rfind?]

/-- The last place is the one with no other behind it. -/
theorem rfind?_append {character : Character} {rest : List Character}
    (absent : character ∉ rest) (front : List Character) :
    rfind? character (front ++ character :: rest) = some front.length := by
  have place : (front ++ character :: rest).reverse.idxOf? character = some rest.length := by
    rw [List.idxOf?_eq_some_iff]
    have reversed : (front ++ character :: rest).reverse =
        rest.reverse ++ character :: front.reverse := by simp
    refine ⟨by simp, ?_, ?_⟩
    · simp [reversed]
    · intro index before same
      refine absent (List.mem_reverse.mp (List.mem_iff_getElem?.mpr ⟨index, ?_⟩))
      have inRest : index < rest.reverse.length := by simpa using before
      rw [← same, ← List.getElem?_eq_getElem, reversed, List.getElem?_append_left inRest]
  rw [rfind?, place, Option.map_some, List.length_append, List.length_cons]
  exact congrArg some (by omega)

end Substring
