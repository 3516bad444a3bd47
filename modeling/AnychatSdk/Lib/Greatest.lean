import AnychatSdk.Lib.OrderBy

/-!
# The items with the greatest keys

Of a list whose items have distinct 64-bit keys, `greatest n` keeps the `n` items
with the greatest keys.  It can be computed one item at a time: whoever keeps
only the greatest items seen so far, and drops the least one when there are too
many, has the greatest of all in the end.
-/

universe u

namespace Greatest

variable {α : Type u} (key : α → Int64)

/-- How many items have a key above the given one. -/
def above (threshold : Int64) (items : List α) : Nat :=
  items.countP fun item => threshold < key item

/-- The items that have fewer than `count` others above them. -/
def greatest (count : Nat) (items : List α) : List α :=
  items.filter fun item => above key (key item) items < count

/-- Keys that descend strictly. -/
def Descending (items : List α) : Prop :=
  items.Pairwise fun left right => key right < key left

/-- Keys that ascend strictly. -/
def Ascending (items : List α) : Prop :=
  items.Pairwise fun left right => key left < key right

/-- The items in descending order. -/
def descend (items : List α) : List α :=
  items.insertionSort fun left right => key right ≤ key left

variable {key}

@[simp]
theorem above_append (threshold : Int64) (first second : List α) :
    above key threshold (first ++ second) =
      above key threshold first + above key threshold second :=
  List.countP_append

theorem above_cons (threshold : Int64) (first : α) (rest : List α) :
    above key threshold (first :: rest) =
      above key threshold rest + if threshold < key first then 1 else 0 := by
  simp [above, List.countP_cons]

theorem above_perm {first second : List α} (perm : first.Perm second) (threshold : Int64) :
    above key threshold first = above key threshold second :=
  perm.countP_eq _

/-- A higher threshold leaves fewer items above it. -/
theorem above_anti (key : α → Int64) {low high : Int64} (le : low ≤ high) (items : List α) :
    above key high items ≤ above key low items := by
  refine List.countP_mono_left fun item _ greater => ?_
  exact decide_eq_true (Int64.lt_of_le_of_lt le (of_decide_eq_true greater))

theorem mem_greatest {count : Nat} {items : List α} {item : α} :
    item ∈ greatest key count items ↔ item ∈ items ∧ above key (key item) items < count := by
  rw [greatest, List.mem_filter, decide_eq_true_iff]

theorem greatest_sublist (count : Nat) (items : List α) :
    List.Sublist (greatest key count items) items :=
  List.filter_sublist

theorem greatest_perm (key : α → Int64) {first second : List α} (perm : first.Perm second)
    (count : Nat) :
    (greatest key count first).Perm (greatest key count second) := by
  have sameTest : greatest key count second =
      second.filter fun item => above key (key item) first < count :=
    List.filter_congr fun item _ => by rw [above_perm perm]
  rw [sameTest]
  exact perm.filter _

/-! ## Sorted lists -/

theorem descend_perm (key : α → Int64) (items : List α) : (descend key items).Perm items :=
  List.perm_insertionSort _ items

/-- Distinct keys sort strictly. -/
theorem descending_descend {items : List α} (distinct : (items.map key).Nodup) :
    Descending key (descend key items) := by
  have total : Std.Total fun left right : α => key right ≤ key left :=
    ⟨fun left right => Int64.le_total (key right) (key left)⟩
  have trans : IsTrans α fun left right => key right ≤ key left :=
    ⟨fun _ _ _ first second => Int64.le_trans second first⟩
  have sorted := List.pairwise_insertionSort (fun left right => key right ≤ key left) items
  have keysNodup : ((descend key items).map key).Nodup :=
    ((descend_perm key items).map key).nodup_iff.mpr distinct
  refine (sorted.and (List.pairwise_map.mp keysNodup)).imp fun related => ?_
  exact Int64.lt_of_le_of_ne related.1 (Ne.symm related.2)

/-- Nothing is above the first item of a descending list. -/
theorem above_cons_of_descending {first : α} {rest : List α}
    (descending : Descending key (first :: rest)) :
    above key (key first) (first :: rest) = 0 := by
  rw [above, List.countP_eq_zero]
  intro item member
  rw [decide_eq_true_iff]
  rcases List.mem_cons.mp member with rfl | later
  · exact Int64.lt_irrefl
  · exact Int64.lt_asymm ((List.pairwise_cons.mp descending).1 item later)

/-- Of a descending list the greatest items come first. -/
theorem greatest_of_descending {items : List α} (descending : Descending key items)
    (count : Nat) : greatest key count items = items.take count := by
  induction items generalizing count with
  | nil => simp [greatest]
  | cons first rest ih =>
      cases count with
      | zero => simp [greatest]
      | succ count =>
          have kept : above key (key first) (first :: rest) < count + 1 := by
            rw [above_cons_of_descending descending]
            exact Nat.succ_pos count
          have sameTest : ∀ item ∈ rest,
              decide (above key (key item) (first :: rest) < count + 1) =
                decide (above key (key item) rest < count) := by
            intro item member
            have below := (List.pairwise_cons.mp descending).1 item member
            rw [above_cons, if_pos below, decide_eq_decide]
            exact Nat.succ_lt_succ_iff
          rw [greatest, List.filter_cons, if_pos (decide_eq_true kept), List.take_succ_cons,
            ← ih (List.pairwise_cons.mp descending).2, greatest, List.filter_congr sameTest]

theorem length_greatest {items : List α} (distinct : (items.map key).Nodup) (count : Nat) :
    (greatest key count items).length = min count items.length := by
  have perm := descend_perm key items
  rw [← (greatest_perm key perm count).length_eq,
    greatest_of_descending (descending_descend distinct), List.length_take, perm.length_eq]

/-- Ascending keys that are all the numbers from 1 up to some number are these numbers in
order. -/
theorem map_toInt_of_ascending {items : List α} (ascending : Ascending key items) {top : Nat}
    (numbers : ∀ number : Int,
      (∃ item ∈ items, (key item).toInt = number) ↔ 1 ≤ number ∧ number ≤ top) :
    items.map (fun item => (key item).toInt) = (List.range' 1 top).map Int.ofNat := by
  have strict : (items.map fun item => (key item).toInt).Pairwise (· < ·) :=
    List.pairwise_map.mpr (ascending.imp Int64.lt_iff_toInt_lt.mp)
  have strictRange : ((List.range' 1 top).map Int.ofNat).Pairwise (· < ·) :=
    List.pairwise_map.mpr ((List.pairwise_lt_range' (s := 1)).imp Int.ofNat_lt.mpr)
  have perm : (items.map fun item => (key item).toInt).Perm
      ((List.range' 1 top).map Int.ofNat) := by
    rw [List.perm_ext_iff_of_nodup (strict.imp Int.ne_of_lt) (strictRange.imp Int.ne_of_lt)]
    intro number
    rw [List.mem_map, List.mem_map, numbers]
    constructor
    · rintro ⟨low, high⟩
      exact ⟨number.toNat, List.mem_range'_1.mpr (by omega), Int.toNat_of_nonneg (by omega)⟩
    · rintro ⟨natural, inRange, rfl⟩
      have bounds := List.mem_range'_1.mp inRange
      change 1 ≤ (natural : Int) ∧ (natural : Int) ≤ top
      omega
  exact perm.eq_of_pairwise (fun _ _ _ _ less greater => absurd greater less.asymm) strict
    strictRange

/-- Of an ascending list the greatest items come last. -/
theorem greatest_of_ascending {items : List α} (ascending : Ascending key items) (count : Nat) :
    (greatest key count items).Perm (items.drop (items.length - count)) := by
  have descending : Descending key items.reverse := List.pairwise_reverse.mpr ascending
  have reversed := greatest_perm key items.reverse_perm count
  rw [greatest_of_descending descending, List.take_reverse] at reversed
  exact reversed.symm.trans (List.reverse_perm _)

/-! ## One item at a time -/

theorem above_take_of_descending {items : List α} (descending : Descending key items)
    (threshold : Int64) (count : Nat) :
    above key threshold (items.take count) = min count (above key threshold items) := by
  induction items generalizing count with
  | nil => simp [above]
  | cons first rest ih =>
      cases count with
      | zero => simp [above]
      | succ count =>
          by_cases greater : threshold < key first
          · rw [List.take_succ_cons, above_cons, above_cons, if_pos greater,
              ih (List.pairwise_cons.mp descending).2 count]
            omega
          · have nothing : above key threshold (first :: rest) = 0 := by
              have le := above_anti key (Int64.not_lt.mp greater) (first :: rest)
              rw [above_cons_of_descending descending] at le
              exact Nat.le_zero.mp le
            have nothingTaken : above key threshold ((first :: rest).take (count + 1)) = 0 :=
              Nat.le_zero.mp (nothing ▸ (List.take_sublist _ _).countP_le)
            rw [nothing, nothingTaken, Nat.min_zero]

/-- The greatest items have as many above any threshold as all items have, as
long as that is no more than there are greatest items. -/
theorem above_greatest {items : List α} (distinct : (items.map key).Nodup) (threshold : Int64)
    (count : Nat) :
    above key threshold (greatest key count items) = min count (above key threshold items) := by
  have perm := descend_perm key items
  have descending := descending_descend distinct
  rw [← above_perm (greatest_perm key perm count), greatest_of_descending descending,
    above_take_of_descending descending, above_perm perm]

/-- The greatest of the greatest and further items are the greatest of all. -/
theorem greatest_greatest_append {items more : List α} (distinct : (items.map key).Nodup)
    (count : Nat) :
    greatest key count (greatest key count items ++ more) = greatest key count (items ++ more) := by
  have sameTest : ∀ threshold : Int64,
      above key threshold (greatest key count items ++ more) < count ↔
        above key threshold (items ++ more) < count := by
    intro threshold
    rw [above_append, above_append, above_greatest distinct]
    omega
  have keptEarlier : (greatest key count items).filter
      (fun item => above key (key item) (greatest key count items ++ more) < count) =
        items.filter fun item => above key (key item) (items ++ more) < count := by
    have twice := List.filter_filter
      (p := fun item => decide (above key (key item) (greatest key count items ++ more) < count))
      (q := fun item => decide (above key (key item) items < count)) (l := items)
    refine twice.trans (List.filter_congr fun item _ => ?_)
    rw [← Bool.decide_and, decide_eq_decide, sameTest, above_append]
    omega
  conv_lhs => rw [greatest, List.filter_append, keptEarlier]
  conv_rhs => rw [greatest, List.filter_append]
  congr 1
  exact List.filter_congr fun item _ => decide_eq_decide.mpr (sameTest (key item))

/-- An item as low as one that is not among the greatest changes nothing. -/
theorem greatest_greatest_append_dropped {items : List α} (distinct : (items.map key).Nodup)
    {count : Nat} {dropped again : α} (member : dropped ∈ items)
    (notGreatest : dropped ∉ greatest key count items) (sameKey : key again = key dropped) :
    greatest key count (greatest key count items ++ [again]) = greatest key count items := by
  have manyAbove : count ≤ above key (key dropped) items := by
    by_contra fewer
    exact notGreatest (mem_greatest.mpr ⟨member, Nat.lt_of_not_le fewer⟩)
  rw [greatest_greatest_append distinct, greatest, List.filter_append]
  have againDropped : ¬above key (key again) (items ++ [again]) < count := by
    rw [above_append, sameKey]
    omega
  rw [List.filter_cons, if_neg (by simpa using againDropped), List.filter_nil, List.append_nil]
  refine List.filter_congr fun item itemMem => decide_eq_decide.mpr ?_
  have alone : above key (key item) [again] = if key item < key again then 1 else 0 := by
    rw [above_cons, above, List.countP_nil, Nat.zero_add]
  rw [above_append, alone]
  split
  · next below =>
      -- Whatever lies below a dropped item has too many above it anyway.
      have many := above_anti key (Int64.le_of_lt (sameKey ▸ below)) items
      omega
  · rw [Nat.add_zero]

end Greatest
