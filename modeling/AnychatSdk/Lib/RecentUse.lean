import AnychatSdk.Lib.KeyTable
import Mathlib.Data.List.DropRight
import Mathlib.Data.List.Sort

/-!
# The least-recently-used policy

The reference is a table that holds a bounded number of entries, each with the
time of its last use.  It evicts the entry whose last use is oldest.  A list with
the most recently used entry in front implements the reference without any
times; what is read off such a list holds of the reference.
-/

universe u v

namespace RecentUse

/-- The calls of a cache with keys `κ` and values `ν`. -/
inductive Call (κ : Type u) (ν : Type v) where
  | get (key : κ)
  | put (key : κ) (value : ν)
  | remove (key : κ)
  | clear

/-- A value with the time at which it was last put or got. -/
structure Entry (ν : Type v) where
  value : ν
  lastUse : Nat

/-- The reference; `time` counts the calls. -/
structure Reference (κ : Type u) (ν : Type v) where
  capacity : Nat
  time : Nat := 0
  entries : KeyTable κ (Entry ν) := ∅

variable {κ : Type u} {ν : Type v}

/-! ## The reference -/

namespace Reference

/-- The key whose last use is oldest. -/
def oldest? (reference : Reference κ ν) : Option κ :=
  (reference.entries.rows.find? fun row =>
    reference.entries.rows.all fun other => row.2.lastUse ≤ other.2.lastUse).map Prod.fst

/-- The entries, the one used last in front. -/
def byRecency (reference : Reference κ ν) : List (κ × ν) :=
  (reference.entries.rows.insertionSort fun left right =>
    right.2.lastUse ≤ left.2.lastUse).map fun row => (row.1, row.2.value)

variable [DecidableEq κ]

/-- Store a value as used now. -/
def use (key : κ) (value : ν) (reference : Reference κ ν) : Reference κ ν :=
  { reference with entries := reference.entries.insert key ⟨value, reference.time⟩ }

/-- Drop the entry whose last use is oldest. -/
def evict (reference : Reference κ ν) : Reference κ ν :=
  match reference.oldest? with
  | none => reference
  | some key => { reference with entries := reference.entries.erase key }

/-- The effect of a call, and the value a `get` returns. -/
def perform (reference : Reference κ ν) : Call κ ν → Option ν × Reference κ ν
  | .get key =>
      match reference.entries.lookup key with
      | none => (none, reference)
      | some entry => (some entry.value, reference.use key entry.value)
  | .put key value =>
      if key ∈ reference.entries then (none, reference.use key value)
      else if reference.capacity ≤ reference.entries.rows.length then
        (none, reference.evict.use key value)
      else (none, reference.use key value)
  | .remove key => (none, { reference with entries := reference.entries.erase key })
  | .clear => (none, { reference with entries := ∅ })

/-- A call, after which the clock ticks. -/
def call (reference : Reference κ ν) (made : Call κ ν) : Option ν × Reference κ ν :=
  let (value, after) := reference.perform made
  (value, { after with time := after.time + 1 })

/-- What the calls return, and the reference after them. -/
def calls (reference : Reference κ ν) : List (Call κ ν) → List (Option ν) × Reference κ ν
  | [] => ([], reference)
  | made :: later =>
      let (value, next) := reference.call made
      let (values, last) := next.calls later
      (value :: values, last)

end Reference

/-! ## What the entries record -/

/-- The call gets or puts the key. -/
def Call.Uses (key : κ) : Call κ ν → Prop
  | .get used => used = key
  | .put used _ => used = key
  | .remove _ | .clear => False

/-- The call puts a value under the key or removes it. -/
def Call.Replaces (key : κ) : Call κ ν → Prop
  | .put replaced _ => replaced = key
  | .remove removed => removed = key
  | .clear => True
  | .get _ => False

/-- The time of an entry is that of the last call that used its key, and its value
the one last put under the key, with no removal since. -/
structure Recorded (made : List (Call κ ν)) (reference : Reference κ ν) [DecidableEq κ] :
    Prop where
  time_eq : reference.time = made.length
  lastUse : ∀ key entry, reference.entries.lookup key = some entry →
    ∃ before call after, made = before ++ call :: after ∧ before.length = entry.lastUse ∧
      call.Uses key ∧ ∀ later ∈ after, ¬later.Uses key
  lastPut : ∀ key entry, reference.entries.lookup key = some entry →
    ∃ before after, made = before ++ .put key entry.value :: after ∧
      ∀ later ∈ after, ¬later.Replaces key

section Recorded

variable [DecidableEq κ] {made : List (Call κ ν)} {reference : Reference κ ν}

theorem recorded_start (capacity : Nat) :
    Recorded ([] : List (Call κ ν)) { capacity := capacity } where
  time_eq := rfl
  lastUse key entry found := by simp at found
  lastPut key entry found := by simp at found

/-- An entry after a call was there before and the call did not concern it, or the
call used it, as a `get` of the value it had or as a `put`. -/
def Follows (reference : Reference κ ν) (last : Call κ ν) (key : κ) (entry : Entry ν) : Prop :=
  (reference.entries.lookup key = some entry ∧ ¬last.Uses key ∧ ¬last.Replaces key) ∨
    (entry.lastUse = reference.time ∧
      (last = .put key entry.value ∨
        last = .get key ∧ (reference.entries.lookup key).map Entry.value = some entry.value))

theorem Recorded.snoc (recorded : Recorded made reference) {last : Call κ ν}
    {next : Reference κ ν} (ticks : next.time = reference.time + 1)
    (follows : ∀ key entry, next.entries.lookup key = some entry →
      Follows reference last key entry) : Recorded (made ++ [last]) next where
  time_eq := by rw [ticks, recorded.time_eq, List.length_append, List.length_singleton]
  lastUse key entry found := by
    rcases follows key entry found with ⟨before, notUsed, _⟩ | ⟨now, used⟩
    · rcases recorded.lastUse key entry before with ⟨first, call, after, split, at_, uses, rest⟩
      refine ⟨first, call, after ++ [last], ?_, at_, uses, fun later member => ?_⟩
      · rw [split, List.append_assoc, List.cons_append]
      · rcases List.mem_append.mp member with old | new
        · exact rest later old
        · rwa [List.mem_singleton.mp new]
    · refine ⟨made, last, [], rfl, ?_, ?_, fun later member => absurd member List.not_mem_nil⟩
      · rw [now, recorded.time_eq]
      · rcases used with rfl | ⟨rfl, _⟩ <;> rfl
  lastPut key entry found := by
    have kept : ∀ old, reference.entries.lookup key = some old → old.value = entry.value →
        ¬last.Replaces key → ∃ before after,
          made ++ [last] = before ++ .put key entry.value :: after ∧
            ∀ later ∈ after, ¬later.Replaces key := by
      intro old before sameValue notReplaced
      rcases recorded.lastPut key old before with ⟨first, after, split, rest⟩
      refine ⟨first, after ++ [last], ?_, fun later member => ?_⟩
      · rw [split, sameValue, List.append_assoc, List.cons_append]
      · rcases List.mem_append.mp member with earlier | new
        · exact rest later earlier
        · rwa [List.mem_singleton.mp new]
    rcases follows key entry found with ⟨before, _, notReplaced⟩ | ⟨_, rfl | ⟨rfl, sameValue⟩⟩
    · exact kept entry before rfl notReplaced
    · exact ⟨made, [], rfl, fun later member => absurd member List.not_mem_nil⟩
    · rcases Option.map_eq_some_iff.mp sameValue with ⟨old, before, same⟩
      exact kept old before same id

theorem lookup_of_lookup_evict {key : κ} {entry : Entry ν}
    (found : reference.evict.entries.lookup key = some entry) :
    reference.entries.lookup key = some entry := by
  rw [Reference.evict] at found
  split at found
  · exact found
  · rw [KeyTable.lookup_erase_eq_ite] at found
    split at found
    · exact absurd found.symm (Option.some_ne_none entry)
    · exact found

theorem time_evict : reference.evict.time = reference.time := by
  rw [Reference.evict]
  split <;> rfl

/-- A value that is stored under a key, where the other entries were there before. -/
theorem follows_of_lookup_use {before : Reference κ ν} {last : Call κ ν} {key other : κ}
    {value : ν} {entry : Entry ν} (sameTime : reference.time = before.time)
    (uses : ∀ used, last.Uses used ↔ key = used)
    (replaces : ∀ used, last.Replaces used → key = used)
    (stored : last = .put key value ∨
      last = .get key ∧ (before.entries.lookup key).map Entry.value = some value)
    (older : ∀ entry, reference.entries.lookup other = some entry →
      before.entries.lookup other = some entry)
    (found : (reference.use key value).entries.lookup other = some entry) :
    Follows before last other entry := by
  rw [Reference.use, KeyTable.lookup_insert_eq_ite] at found
  split at found
  · next same =>
      obtain rfl := same
      obtain rfl := Option.some.inj found
      exact .inr ⟨sameTime, stored⟩
  · next different =>
      exact .inl ⟨older entry found, fun used => different ((uses other).mp used).symm,
        fun replaced => different (replaces other replaced).symm⟩

theorem Recorded.call (recorded : Recorded made reference) (last : Call κ ν) :
    Recorded (made ++ [last]) (reference.call last).2 := by
  cases last with
  | get key =>
      rw [Reference.call, Reference.perform]
      cases lookup : reference.entries.lookup key with
      | none =>
          refine recorded.snoc rfl fun other entry found => .inl ⟨found, ?_, id⟩
          rintro rfl
          exact absurd (found.symm.trans lookup) (Option.some_ne_none entry)
      | some old =>
          refine recorded.snoc rfl fun other entry found => ?_
          refine follows_of_lookup_use rfl (fun _ => Iff.rfl) (fun _ => False.elim)
            (.inr ⟨rfl, ?_⟩) (fun _ => id) found
          rw [lookup]
          rfl
  | put key value =>
      have stored : ∀ stage : Reference κ ν, stage.time = reference.time →
          (∀ other entry, stage.entries.lookup other = some entry →
            reference.entries.lookup other = some entry) →
          Recorded (made ++ [.put key value])
            { stage.use key value with time := stage.time + 1 } := by
        intro stage sameTime older
        refine recorded.snoc (congrArg Nat.succ sameTime) fun other entry found => ?_
        exact follows_of_lookup_use sameTime (fun _ => Iff.rfl) (fun _ => id) (.inl rfl)
          (older other) found
      rw [Reference.call, Reference.perform]
      by_cases present : key ∈ reference.entries
      · rw [if_pos present]
        exact stored reference rfl fun _ _ => id
      rw [if_neg present]
      by_cases full : reference.capacity ≤ reference.entries.rows.length
      · rw [if_pos full]
        exact stored reference.evict time_evict fun _ _ => lookup_of_lookup_evict
      · rw [if_neg full]
        exact stored reference rfl fun _ _ => id
  | remove key =>
      refine recorded.snoc rfl fun other entry found => ?_
      rw [Reference.call, Reference.perform, KeyTable.lookup_erase_eq_ite] at found
      split at found
      · exact absurd found.symm (Option.some_ne_none entry)
      · next different => exact .inl ⟨found, id, fun same => different same.symm⟩
  | clear =>
      refine recorded.snoc rfl fun other entry found => ?_
      simp [Reference.call, Reference.perform] at found

theorem Recorded.calls (recorded : Recorded made reference) (later : List (Call κ ν)) :
    Recorded (made ++ later) (reference.calls later).2 := by
  induction later generalizing made reference with
  | nil =>
      rw [List.append_nil]
      exact recorded
  | cons next rest ih =>
      have extended := ih (recorded.call next)
      rwa [List.append_assoc, List.singleton_append] at extended

end Recorded

/-! ## Lists in order of recency -/

/-- The items are the entries of the reference, in the order of their last uses,
which are past and distinct. -/
structure Ordered (items : List (κ × Entry ν)) (reference : Reference κ ν) [DecidableEq κ] :
    Prop where
  descending : items.Pairwise fun left right => right.2.lastUse < left.2.lastUse
  past : ∀ item ∈ items, item.2.lastUse < reference.time
  lookup_iff : ∀ key entry, reference.entries.lookup key = some entry ↔ (key, entry) ∈ items

section Ordered

variable [DecidableEq κ] {items : List (κ × Entry ν)} {reference : Reference κ ν}

theorem Ordered.keys_nodup (ordered : Ordered items reference) : (items.map Prod.fst).Nodup := by
  refine List.pairwise_map.mpr (ordered.descending.imp_of_mem ?_)
  rintro ⟨key, first⟩ ⟨other, second⟩ firstMem secondMem later rfl
  have same := ((ordered.lookup_iff key first).mpr firstMem).symm.trans
    ((ordered.lookup_iff key second).mpr secondMem)
  rw [Option.some.inj same] at later
  exact absurd later (Nat.lt_irrefl _)

/-- The rows of the table are the items in some order. -/
theorem Ordered.rows_perm (ordered : Ordered items reference) :
    reference.entries.rows.Perm items := by
  refine (List.perm_ext_iff_of_nodup ?_ ?_).mpr fun row => ?_
  · exact List.Nodup.of_map _ (KeyTable.nodup_map_fst_rows _)
  · exact List.Nodup.of_map _ ordered.keys_nodup
  · rw [← ordered.lookup_iff, KeyTable.lookup_eq_some_iff_mem_rows]

theorem Ordered.length_rows (ordered : Ordered items reference) :
    reference.entries.rows.length = items.length :=
  ordered.rows_perm.length_eq

/-- The order of the items is the only one by descending last use. -/
theorem Ordered.byRecency_eq (ordered : Ordered items reference) :
    reference.byRecency = items.map fun item => (item.1, item.2.value) := by
  have sortedPerm := (List.perm_insertionSort (fun left right : κ × Entry ν =>
    right.2.lastUse ≤ left.2.lastUse) reference.entries.rows).trans ordered.rows_perm
  have sorted := List.pairwise_insertionSort (fun left right : κ × Entry ν =>
    right.2.lastUse ≤ left.2.lastUse) reference.entries.rows
  have strict : items.Pairwise fun left right => right.2.lastUse ≤ left.2.lastUse :=
    ordered.descending.imp Nat.le_of_lt
  have stampsNodup : (items.map fun item => item.2.lastUse).Nodup :=
    List.pairwise_map.mpr (ordered.descending.imp fun later => Nat.ne_of_gt later)
  rw [Reference.byRecency]
  congr 1
  refine List.Perm.eq_of_pairwise ?_ sorted strict sortedPerm
  intro left right leftMem rightMem rightLe leftLe
  exact List.inj_on_of_nodup_map stampsNodup (sortedPerm.mem_iff.mp leftMem) rightMem
    (Nat.le_antisymm leftLe rightLe)

theorem Ordered.tick (ordered : Ordered items reference) :
    Ordered items { reference with time := reference.time + 1 } where
  descending := ordered.descending
  past item member := Nat.lt_succ_of_lt (ordered.past item member)
  lookup_iff := ordered.lookup_iff

theorem Ordered.erase (ordered : Ordered items reference) (key : κ) :
    Ordered (items.filter fun item => item.1 ≠ key)
      { reference with entries := reference.entries.erase key } where
  descending := ordered.descending.filter _
  past item member := ordered.past item (List.mem_of_mem_filter member)
  lookup_iff other entry := by
    rw [KeyTable.lookup_erase_eq_ite, List.mem_filter, ← ordered.lookup_iff]
    by_cases same : other = key
    · simp [same]
    · simp [same]

theorem Ordered.empty (capacity time : Nat) :
    Ordered ([] : List (κ × Entry ν)) { capacity := capacity, time := time } where
  descending := List.Pairwise.nil
  past item member := absurd member List.not_mem_nil
  lookup_iff key entry := by simp

/-- A key that is used now, whether it was there or not, comes to the front. -/
theorem Ordered.use (ordered : Ordered items reference) (key : κ) (value : ν) :
    Ordered ((key, ⟨value, reference.time⟩) :: items.filter fun item => item.1 ≠ key)
      { reference.use key value with time := reference.time + 1 } where
  descending := by
    refine List.pairwise_cons.mpr ⟨fun item member => ?_, ordered.descending.filter _⟩
    exact ordered.past item (List.mem_of_mem_filter member)
  past := by
    intro item member
    rcases List.mem_cons.mp member with rfl | old
    · exact Nat.lt_succ_self _
    · exact Nat.lt_succ_of_lt (ordered.past item (List.mem_of_mem_filter old))
  lookup_iff other entry := by
    rw [Reference.use, KeyTable.lookup_insert_eq_ite, List.mem_cons, List.mem_filter,
      ← ordered.lookup_iff]
    by_cases same : other = key
    · simp [same, eq_comm]
    · simp [same]

/-- The last item is the one that is evicted. -/
theorem Ordered.oldest?_eq {front : List (κ × Entry ν)} {last : κ × Entry ν}
    (ordered : Ordered (front ++ [last]) reference) : reference.oldest? = some last.1 := by
  have perm := ordered.rows_perm
  have atEnd : ∀ item ∈ front ++ [last], last.2.lastUse ≤ item.2.lastUse := by
    intro item member
    rcases List.mem_append.mp member with inFront | isLast
    · exact Nat.le_of_lt ((List.pairwise_append.mp ordered.descending).2.2 item inFront last
        (List.mem_singleton.mpr rfl))
    · rw [List.mem_singleton.mp isLast]
  have lastMem : last ∈ front ++ [last] := List.mem_append_right _ (List.mem_singleton.mpr rfl)
  have lastOldest : reference.entries.rows.all
      (fun other => last.2.lastUse ≤ other.2.lastUse) = true := by
    rw [List.all_eq_true]
    intro other member
    exact decide_eq_true (atEnd other (perm.mem_iff.mp member))
  rw [Reference.oldest?]
  cases found : reference.entries.rows.find? fun row =>
      reference.entries.rows.all fun other => row.2.lastUse ≤ other.2.lastUse with
  | none =>
      have absent := List.find?_eq_none.mp found last (perm.mem_iff.mpr lastMem)
      exact absurd lastOldest absent
  | some row =>
      -- Two oldest entries have one time, and the times are distinct.
      have rowMem := perm.mem_iff.mp (List.mem_of_find?_eq_some found)
      have rowOldest : reference.entries.rows.all
          (fun other => row.2.lastUse ≤ other.2.lastUse) = true := by
        simpa using List.find?_some found
      have rowLe := of_decide_eq_true
        (List.all_eq_true.mp rowOldest last (perm.mem_iff.mpr lastMem))
      have stampsNodup : ((front ++ [last]).map fun item => item.2.lastUse).Nodup :=
        List.pairwise_map.mpr (ordered.descending.imp fun later => Nat.ne_of_gt later)
      have same := List.inj_on_of_nodup_map stampsNodup rowMem lastMem
        (Nat.le_antisymm rowLe (atEnd row rowMem))
      rw [same]
      rfl

theorem Ordered.evict {front : List (κ × Entry ν)} {last : κ × Entry ν}
    (ordered : Ordered (front ++ [last]) reference) : Ordered front reference.evict := by
  have erased := ordered.erase last.1
  have frontKept : (front ++ [last]).filter (fun item => item.1 ≠ last.1) = front := by
    have distinct := ordered.keys_nodup
    rw [List.map_append, List.nodup_append] at distinct
    rw [List.filter_append, List.filter_eq_self.mpr]
    · simp
    · intro item member
      exact decide_eq_true (distinct.2.2 item.1 (List.mem_map_of_mem member) last.1
        (List.mem_singleton.mpr rfl))
  rw [frontKept] at erased
  rw [Reference.evict, ordered.oldest?_eq]
  exact erased

end Ordered

/-! ## Most recently used in front -/

/-- The implementation by a list. -/
structure FrontList (κ : Type u) (ν : Type v) where
  capacity : Nat
  items : List (κ × ν) := []

namespace FrontList

variable [DecidableEq κ]

def lookup (key : κ) (list : FrontList κ ν) : Option ν :=
  (list.items.find? fun item => item.1 = key).map Prod.snd

def erase (key : κ) (list : FrontList κ ν) : FrontList κ ν :=
  { list with items := list.items.filter fun item => item.1 ≠ key }

/-- Put a key in front, with the given value. -/
def use (key : κ) (value : ν) (list : FrontList κ ν) : FrontList κ ν :=
  { list with items := (key, value) :: (list.erase key).items }

/-- Make room for one more item. -/
def evict (list : FrontList κ ν) : FrontList κ ν :=
  if list.capacity ≤ list.items.length then { list with items := list.items.dropLast } else list

def call (list : FrontList κ ν) : Call κ ν → Option ν × FrontList κ ν
  | .get key =>
      match list.lookup key with
      | none => (none, list)
      | some value => (some value, list.use key value)
  | .put key value =>
      match list.lookup key with
      | none => (none, list.evict.use key value)
      | some _ => (none, list.use key value)
  | .remove key => (none, list.erase key)
  | .clear => (none, { list with items := [] })

def calls (list : FrontList κ ν) : List (Call κ ν) → List (Option ν) × FrontList κ ν
  | [] => ([], list)
  | made :: later =>
      let (value, next) := list.call made
      let (values, last) := next.calls later
      (value :: values, last)

theorem erase_eq_self {list : FrontList κ ν} {key : κ} (absent : list.lookup key = none) :
    list.erase key = list := by
  rw [lookup, Option.map_eq_none_iff, List.find?_eq_none] at absent
  rw [erase, List.filter_eq_self.mpr]
  intro item member
  simpa using absent item member

/-- The list holds the entries of the reference in the order of their last uses. -/
structure Implements (list : FrontList κ ν) (reference : Reference κ ν) : Prop where
  capacity_eq : list.capacity = reference.capacity
  ordered : ∃ items, Ordered items reference ∧
    list.items = items.map fun item => (item.1, item.2.value)

variable {list : FrontList κ ν} {reference : Reference κ ν}

theorem Implements.items_eq (implements : list.Implements reference) :
    list.items = reference.byRecency := by
  rcases implements.ordered with ⟨items, ordered, same⟩
  rw [same, ordered.byRecency_eq]

theorem Implements.keys_nodup (implements : list.Implements reference) :
    (list.items.map Prod.fst).Nodup := by
  rcases implements.ordered with ⟨items, ordered, same⟩
  rw [same, List.map_map]
  exact ordered.keys_nodup

theorem Implements.length_eq (implements : list.Implements reference) :
    list.items.length = reference.entries.rows.length := by
  rcases implements.ordered with ⟨items, ordered, same⟩
  rw [same, List.length_map, ordered.length_rows]

theorem Implements.lookup_eq (implements : list.Implements reference) (key : κ) :
    list.lookup key = (reference.entries.lookup key).map Entry.value := by
  rcases implements.ordered with ⟨items, ordered, same⟩
  have found : items.find? (fun item => item.1 = key) =
      (reference.entries.lookup key).map fun entry => (key, entry) := by
    cases lookup : reference.entries.lookup key with
    | none =>
        rw [Option.map_none, List.find?_eq_none]
        rintro ⟨other, entry⟩ member isKey
        obtain rfl := of_decide_eq_true isKey
        have present := (ordered.lookup_iff _ entry).mpr member
        exact absurd (present.symm.trans lookup) (Option.some_ne_none entry)
    | some entry =>
        have member := (ordered.lookup_iff key entry).mp lookup
        cases first : items.find? fun item => item.1 = key with
        | none => exact absurd (decide_eq_true rfl) (List.find?_eq_none.mp first _ member)
        | some item =>
            have sameKey : item.1 = key := by simpa using List.find?_some first
            rw [List.inj_on_of_nodup_map ordered.keys_nodup (List.mem_of_find?_eq_some first)
              member sameKey]
            rfl
  rw [lookup, same, List.find?_map, Function.comp_def, found]
  cases reference.entries.lookup key <;> rfl

theorem Implements.tick (implements : list.Implements reference) :
    list.Implements { reference with time := reference.time + 1 } := by
  rcases implements with ⟨capacity_eq, items, ordered, same⟩
  exact ⟨capacity_eq, items, ordered.tick, same⟩

theorem Implements.erase (implements : list.Implements reference) (key : κ) :
    (list.erase key).Implements { reference with entries := reference.entries.erase key } := by
  rcases implements with ⟨capacity_eq, items, ordered, same⟩
  refine ⟨capacity_eq, _, ordered.erase key, ?_⟩
  rw [FrontList.erase, same, List.filter_map]
  rfl

theorem Implements.use (implements : list.Implements reference) (key : κ) (value : ν) :
    (list.use key value).Implements
      { reference.use key value with time := reference.time + 1 } := by
  have erased := implements.erase key
  rcases implements with ⟨capacity_eq, items, ordered, same⟩
  refine ⟨capacity_eq, _, ordered.use key value, ?_⟩
  rw [FrontList.use, FrontList.erase, same, List.filter_map]
  rfl

theorem Implements.evict (implements : list.Implements reference) :
    list.evict.Implements
      (if reference.capacity ≤ reference.entries.rows.length then reference.evict
        else reference) := by
  rw [FrontList.evict, implements.capacity_eq, implements.length_eq]
  split
  · rcases implements with ⟨capacity_eq, items, ordered, same⟩
    induction items using List.reverseRecOn with
    | nil =>
        have nothing : reference.evict = reference := by
          have noRows := ordered.rows_perm.eq_nil
          rw [Reference.evict, Reference.oldest?, noRows]
          rfl
        rw [nothing]
        refine ⟨rfl, [], ordered, ?_⟩
        simp only [same, List.map_nil, List.dropLast_nil]
    | append_singleton front last _ =>
        refine ⟨?_, front, ordered.evict, ?_⟩
        · rw [Reference.evict, ordered.oldest?_eq]
        · rw [same, List.map_append, List.map_singleton, List.dropLast_concat]
  · exact implements

theorem Implements.mem_iff (implements : list.Implements reference) (key : κ) :
    key ∈ reference.entries ↔ ∃ value, list.lookup key = some value := by
  rw [KeyTable.mem_iff_exists_lookup, implements.lookup_eq]
  constructor
  · rintro ⟨entry, found⟩
    exact ⟨entry.value, by rw [found]; rfl⟩
  · rintro ⟨value, found⟩
    rcases Option.map_eq_some_iff.mp found with ⟨entry, found, _⟩
    exact ⟨entry, found⟩

/-- A call on the list does what it does on the reference. -/
theorem Implements.call (implements : list.Implements reference) (made : Call κ ν) :
    (list.call made).1 = (reference.call made).1 ∧
      (list.call made).2.Implements (reference.call made).2 := by
  cases made with
  | get key =>
      have found := implements.lookup_eq key
      rw [FrontList.call, Reference.call, Reference.perform, found]
      cases reference.entries.lookup key with
      | none => exact ⟨rfl, implements.tick⟩
      | some entry => exact ⟨rfl, implements.use key entry.value⟩
  | put key value =>
      have present := implements.mem_iff key
      rw [FrontList.call, Reference.call, Reference.perform]
      cases found : list.lookup key with
      | none =>
          have absent : key ∉ reference.entries := fun member => by
            rcases present.mp member with ⟨old, held⟩
            exact absurd (held.symm.trans found) (Option.some_ne_none old)
          have evicted := implements.evict
          rw [if_neg absent]
          by_cases full : reference.capacity ≤ reference.entries.rows.length
          · rw [if_pos full] at evicted ⊢
            exact ⟨rfl, evicted.use key value⟩
          · rw [if_neg full] at evicted ⊢
            exact ⟨rfl, evicted.use key value⟩
      | some old =>
          rw [if_pos (present.mpr ⟨old, found⟩)]
          exact ⟨rfl, implements.use key value⟩
  | remove key => exact ⟨rfl, (implements.erase key).tick⟩
  | clear => exact ⟨rfl, implements.capacity_eq, [], Ordered.empty _ _, rfl⟩

/-- Calls on the list do what they do on the reference. -/
theorem Implements.calls (implements : list.Implements reference) (made : List (Call κ ν)) :
    (list.calls made).1 = (reference.calls made).1 ∧
      (list.calls made).2.Implements (reference.calls made).2 := by
  induction made generalizing list reference with
  | nil => exact ⟨rfl, implements⟩
  | cons first later ih =>
      rcases implements.call first with ⟨sameValue, next⟩
      rcases ih next with ⟨sameValues, last⟩
      refine ⟨?_, last⟩
      simp only [FrontList.calls, Reference.calls, sameValue, sameValues]

/-! ## The bound -/

theorem length_erase_le (key : κ) (list : FrontList κ ν) :
    (list.erase key).items.length ≤ list.items.length :=
  List.length_filter_le _ list.items

/-- A key that is present leaves room for itself. -/
theorem length_use_of_lookup {key : κ} {old : ν} (found : list.lookup key = some old) (value : ν) :
    (list.use key value).items.length ≤ list.items.length := by
  rcases Option.map_eq_some_iff.mp found with ⟨item, first, _⟩
  have sameKey : item.1 = key := by simpa using List.find?_some first
  have shorter : (list.erase key).items.length < list.items.length := by
    refine List.length_filter_lt_length_iff_exists.mpr ⟨item, List.mem_of_find?_eq_some first, ?_⟩
    simp [sameKey]
  exact shorter

omit [DecidableEq κ] in
theorem length_evict_lt (positive : 0 < list.capacity)
    (bounded : list.items.length ≤ list.capacity) :
    list.evict.items.length < list.capacity := by
  rw [evict]
  split
  · rw [List.length_dropLast]
    omega
  · omega

@[simp]
theorem capacity_call (list : FrontList κ ν) (made : Call κ ν) :
    (list.call made).2.capacity = list.capacity := by
  cases made with
  | get key =>
      rw [FrontList.call]
      split <;> rfl
  | put key value =>
      have evicted : list.evict.capacity = list.capacity := by
        rw [evict]
        split <;> rfl
      rw [FrontList.call]
      split
      · exact evicted
      · rfl
  | remove key => rfl
  | clear => rfl

theorem length_call_le (positive : 0 < list.capacity)
    (bounded : list.items.length ≤ list.capacity) (made : Call κ ν) :
    (list.call made).2.items.length ≤ list.capacity := by
  cases made with
  | get key =>
      rw [FrontList.call]
      split
      · exact bounded
      · next found => exact (length_use_of_lookup found _).trans bounded
  | put key value =>
      rw [FrontList.call]
      split
      · have room := length_evict_lt positive bounded
        exact (Nat.succ_le_succ (length_erase_le key list.evict)).trans room
      · next found => exact (length_use_of_lookup found value).trans bounded
  | remove key => exact (length_erase_le key list).trans bounded
  | clear => exact Nat.zero_le _

end FrontList

end RecentUse
