import Mathlib.Data.List.Sort
import Mathlib.Order.Basic

/-!
# Sorting with open ties

An unstable sort, or an `ORDER BY` with ties, is known by its specification
only: it permutes its input and leaves it sorted.  An `OrderBy` is any function
that meets it, so whatever is proved about code that takes one holds whichever
way ties are broken.
-/

universe u

/-- A sort by the relation `before`. -/
structure OrderBy (α : Type u) (before : α → α → Prop) where
  sort : List α → List α
  perm : ∀ items, (sort items).Perm items
  sorted : ∀ items, (sort items).Pairwise before

namespace OrderBy

variable {α : Type u} {before : α → α → Prop}

/-- Insertion sort, which keeps ties in their order. -/
def stable (before : α → α → Prop) [DecidableRel before] [Std.Total before]
    [IsTrans α before] : OrderBy α before where
  sort items := items.insertionSort before
  perm items := List.perm_insertionSort before items
  sorted items := List.pairwise_insertionSort before items

@[simp]
theorem mem_sort (order : OrderBy α before) {item : α} {items : List α} :
    item ∈ order.sort items ↔ item ∈ items :=
  (order.perm items).mem_iff

theorem length_sort_concat (order : OrderBy α before) (items : List α) (item : α) :
    (order.sort (items ++ [item])).length = items.length + 1 := by
  rw [(order.perm _).length_eq, List.length_append, List.length_singleton]

/-- The result of a sort has its items pairwise related exactly when all ordered
pairs are, whichever way ties are broken. -/
theorem pairwise_sort_iff (order : OrderBy α before) {Related : α → α → Prop} {items : List α}
    (tied : ∀ left ∈ items, ∀ right ∈ items, before left right → before right left →
      Related left right) :
    (order.sort items).Pairwise Related ↔
      ∀ left ∈ items, ∀ right ∈ items, before left right → Related left right := by
  constructor
  · intro related left leftMem right rightMem ordered
    by_cases tie : before right left
    · exact tied left leftMem right rightMem ordered tie
    · have sorted := order.sorted items
      have rightSorted := order.mem_sort.mpr rightMem
      rcases List.append_of_mem (order.mem_sort.mpr leftMem) with ⟨front, back, split⟩
      rw [split] at related sorted rightSorted
      -- The right one cannot stand in front of the left one, nor be the same.
      rcases List.mem_append.mp rightSorted with inFront | inRest
      · exact absurd ((List.pairwise_append.mp sorted).2.2 right inFront left List.mem_cons_self)
          tie
      · rcases List.mem_cons.mp inRest with rfl | inBack
        · exact absurd ordered tie
        · exact (List.pairwise_cons.mp (List.pairwise_append.mp related).2.1).1 right inBack
  · intro related
    refine (order.sorted items).imp_of_mem fun leftMem rightMem ordered => ?_
    exact related _ (order.mem_sort.mp leftMem) _ (order.mem_sort.mp rightMem) ordered

/-- The order by an ascending 64-bit key. -/
def Ascending (key : α → Int64) (left right : α) : Prop :=
  key left ≤ key right

instance (key : α → Int64) : DecidableRel (Ascending key) :=
  fun left right => inferInstanceAs (Decidable (key left ≤ key right))

instance (key : α → Int64) : Std.Total (Ascending key) :=
  ⟨fun left right => Int64.le_total (key left) (key right)⟩

instance (key : α → Int64) : IsTrans α (Ascending key) :=
  ⟨fun _ _ _ first second => Int64.le_trans first second⟩

/-- Of all arrangements of some items a strictly ascending one is the only one
that is sorted. -/
theorem eq_of_sorted_of_strict {key : α → Int64} {sorted strict : List α}
    (perm : sorted.Perm strict) (isSorted : sorted.Pairwise (Ascending key))
    (isStrict : strict.Pairwise fun left right => key left < key right) : sorted = strict := by
  have keysNodup : (strict.map key).Nodup :=
    List.pairwise_map.mpr (isStrict.imp Int64.ne_of_lt)
  refine List.Perm.eq_of_pairwise ?_ isSorted (isStrict.imp Int64.le_of_lt) perm
  intro left right leftMem rightMem leftLe rightLe
  exact List.inj_on_of_nodup_map keysNodup (perm.mem_iff.mp leftMem) rightMem
    (Int64.le_antisymm leftLe rightLe)

/-- The order by an ascending key, ties being settled by a descending rank. -/
def AscendingThenRank (key : α → Int64) (rank : α → Nat) (left right : α) : Prop :=
  key left < key right ∨ key left = key right ∧ rank right ≤ rank left

section AscendingThenRank

variable (key : α → Int64) (rank : α → Nat)

instance : DecidableRel (AscendingThenRank key rank) :=
  fun left right =>
    inferInstanceAs
      (Decidable (key left < key right ∨ key left = key right ∧ rank right ≤ rank left))

instance : Std.Total (AscendingThenRank key rank) where
  total left right := by
    by_cases same : key left = key right
    · rcases Nat.le_total (rank right) (rank left) with ordered | ordered
      · exact .inl (.inr ⟨same, ordered⟩)
      · exact .inr (.inr ⟨same.symm, ordered⟩)
    · rcases Int64.lt_or_lt_of_ne same with less | greater
      · exact .inl (.inl less)
      · exact .inr (.inl greater)

instance : IsTrans α (AscendingThenRank key rank) where
  trans first second third firstOrdered secondOrdered := by
    rcases firstOrdered with less | ⟨same, ordered⟩
    · rcases secondOrdered with nextLess | ⟨nextSame, _⟩
      · exact .inl (Int64.lt_trans less nextLess)
      · exact .inl (nextSame ▸ less)
    · rcases secondOrdered with nextLess | ⟨nextSame, nextOrdered⟩
      · exact .inl (same ▸ nextLess)
      · exact .inr ⟨same.trans nextSame, nextOrdered.trans ordered⟩

/-- The sort by an ascending key that puts tied items of higher rank first. -/
def tiesByRank : OrderBy α (Ascending key) where
  sort items := items.insertionSort (AscendingThenRank key rank)
  perm items := List.perm_insertionSort _ items
  sorted items := by
    refine (List.pairwise_insertionSort (AscendingThenRank key rank) items).imp ?_
    rintro left right (less | ⟨same, _⟩)
    · exact Int64.le_of_lt less
    · exact Int64.le_of_eq same

theorem pairwise_tiesByRank (items : List α) :
    ((tiesByRank key rank).sort items).Pairwise (AscendingThenRank key rank) :=
  List.pairwise_insertionSort _ items

end AscendingThenRank

/-- No order at all: every pair is a tie. -/
def AllTied (_ _ : α) : Prop :=
  True

instance : DecidableRel (@AllTied α) :=
  fun _ _ => isTrue trivial

instance : Std.Total (@AllTied α) :=
  ⟨fun _ _ => .inl trivial⟩

instance : IsTrans α AllTied :=
  ⟨fun _ _ _ _ _ => trivial⟩

/-- The sort that keeps the order it is given. -/
def asGiven : OrderBy α AllTied :=
  stable AllTied

/-- The order by a descending 64-bit key, ties being settled by `next`. -/
def DescendingThen (key : α → Int64) (next : α → α → Prop) (left right : α) : Prop :=
  key right < key left ∨ key left = key right ∧ next left right

section DescendingThen

variable (key : α → Int64) (next : α → α → Prop)

instance [DecidableRel next] : DecidableRel (DescendingThen key next) :=
  fun left right =>
    inferInstanceAs (Decidable (key right < key left ∨ key left = key right ∧ next left right))

instance [total : Std.Total next] : Std.Total (DescendingThen key next) where
  total left right := by
    by_cases same : key left = key right
    · rcases total.total left right with ordered | ordered
      · exact .inl (.inr ⟨same, ordered⟩)
      · exact .inr (.inr ⟨same.symm, ordered⟩)
    · rcases Int64.lt_or_lt_of_ne same with less | greater
      · exact .inr (.inl less)
      · exact .inl (.inl greater)

instance [transitive : IsTrans α next] : IsTrans α (DescendingThen key next) where
  trans first second third firstOrdered secondOrdered := by
    rcases firstOrdered with less | ⟨same, ordered⟩
    · rcases secondOrdered with nextLess | ⟨nextSame, _⟩
      · exact .inl (Int64.lt_trans nextLess less)
      · exact .inl (nextSame ▸ less)
    · rcases secondOrdered with nextLess | ⟨nextSame, nextOrdered⟩
      · exact .inl (same ▸ nextLess)
      · exact .inr ⟨same.trans nextSame, transitive.trans _ _ _ ordered nextOrdered⟩

variable {key next}

/-- Tied items have one key, and are tied in the rest of the order. -/
theorem DescendingThen.tied {left right : α} (before : DescendingThen key next left right)
    (after : DescendingThen key next right left) :
    key left = key right ∧ next left right ∧ next right left := by
  rcases before with less | ⟨same, first⟩
  · rcases after with greater | ⟨same, _⟩
    · exact absurd (Int64.lt_trans less greater) Int64.lt_irrefl
    · rw [same] at less
      exact absurd less Int64.lt_irrefl
  · rcases after with greater | ⟨_, second⟩
    · rw [same] at greater
      exact absurd greater Int64.lt_irrefl
    · exact ⟨same, first, second⟩

end DescendingThen

end OrderBy
