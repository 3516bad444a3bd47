import AnychatSdk.Lib.RecentUse

/-!
# The LRU cache

A doubly linked list of key-value pairs, the most recently used one in front, and
a hash map from each key to the list node that holds it.
-/

namespace AnychatSdk

open RecentUse

universe u v

/-- A node of the `std::list`.  An iterator is the address of a node, which stays
the same while the node is moved within the list. -/
structure ListNode (κ : Type u) (ν : Type v) where
  iterator : Nat
  key : κ
  value : ν

/-- The place of a new node, given those in use. -/
structure Allocator where
  place : List Nat → Nat
  place_not_mem : ∀ used, place used ∉ used

structure LruCache (κ : Type u) (ν : Type v) where
  capacity : Nat
  allocator : Allocator
  list : List (ListNode κ ν) := []
  map : KeyTable κ Nat := ∅

variable {κ : Type u} {ν : Type v}

/-! ## The operations of `std::list` -/

namespace ListNode

def entry (node : ListNode κ ν) : κ × ν :=
  (node.key, node.value)

/-- The node an iterator points at.  `none` is undefined behaviour, here and in
whatever is built on this: the iterator points at no node of the list. -/
def deref (iterator : Nat) (list : List (ListNode κ ν)) : Option (ListNode κ ν) :=
  list.find? fun node => node.iterator = iterator

def erase (iterator : Nat) (list : List (ListNode κ ν)) : Option (List (ListNode κ ν)) :=
  (deref iterator list).map fun _ => list.filter fun node => node.iterator ≠ iterator

/-- `list_.splice(list_.begin(), list_, iterator)`. -/
def spliceToFront (iterator : Nat) (list : List (ListNode κ ν)) :
    Option (List (ListNode κ ν)) :=
  (deref iterator list).map fun node =>
    node :: list.filter fun other => other.iterator ≠ iterator

/-- `iterator->second = value`. -/
def assign (iterator : Nat) (value : ν) (list : List (ListNode κ ν)) :
    Option (List (ListNode κ ν)) :=
  (deref iterator list).map fun _ =>
    list.map fun node => if node.iterator = iterator then { node with value := value } else node

end ListNode

/-! ## The operations of the cache -/

namespace LruCache

open ListNode

def start (allocator : Allocator) (capacity : Nat) : LruCache κ ν where
  capacity := capacity
  allocator := allocator

def size (cache : LruCache κ ν) : Nat :=
  cache.list.length

/-- The nodes are destroyed before the map entries that point at them. -/
def clear (cache : LruCache κ ν) : LruCache κ ν :=
  { cache with list := [], map := ∅ }

variable [DecidableEq κ]

def contains (key : κ) (cache : LruCache κ ν) : Bool :=
  key ∈ cache.map

def get (key : κ) (cache : LruCache κ ν) : Option (Option ν × LruCache κ ν) :=
  match cache.map.lookup key with
  | none => some (none, cache)
  | some iterator => do
      let list ← spliceToFront iterator cache.list
      let node ← deref iterator list
      pure (some node.value, { cache with list := list })

/-- `map_.erase(list_.back().first); list_.pop_back();`, where an empty list has no
back. -/
def evictBack (cache : LruCache κ ν) : Option (LruCache κ ν) := do
  let back ← cache.list.getLast?
  pure { cache with list := cache.list.dropLast, map := cache.map.erase back.key }

def emplaceFront (key : κ) (value : ν) (cache : LruCache κ ν) : LruCache κ ν :=
  let iterator := cache.allocator.place (cache.list.map ListNode.iterator)
  { cache with
    list := ⟨iterator, key, value⟩ :: cache.list
    map := cache.map.insert key iterator }

def put (key : κ) (value : ν) (cache : LruCache κ ν) : Option (LruCache κ ν) :=
  match cache.map.lookup key with
  | some iterator => do
      let assigned ← assign iterator value cache.list
      let list ← spliceToFront iterator assigned
      pure { cache with list := list }
  | none =>
      if cache.capacity ≤ cache.list.length then
        cache.evictBack.map fun cache => cache.emplaceFront key value
      else some (cache.emplaceFront key value)

def remove (key : κ) (cache : LruCache κ ν) : Option (LruCache κ ν) :=
  match cache.map.lookup key with
  | none => some cache
  | some iterator => do
      let list ← erase iterator cache.list
      pure { cache with list := list, map := cache.map.erase key }

/-- A call, and what it returns; only `get` returns a value. -/
def call (cache : LruCache κ ν) : Call κ ν → Option (Option ν × LruCache κ ν)
  | .get key => cache.get key
  | .put key value => (cache.put key value).map fun cache => (none, cache)
  | .remove key => (cache.remove key).map fun cache => (none, cache)
  | .clear => some (none, cache.clear)

/-- What a sequence of calls returns, and the cache after it. -/
def calls (cache : LruCache κ ν) : List (Call κ ν) → Option (List (Option ν) × LruCache κ ν)
  | [] => some ([], cache)
  | made :: later => do
      let (value, next) ← cache.call made
      let (values, last) ← next.calls later
      pure (value :: values, last)

/-! ## The two structures -/

/-- The list and the map hold the same keys, each once, and the map entry of a key
points at the list node of the key. -/
structure Linked (cache : LruCache κ ν) : Prop where
  iterators_nodup : (cache.list.map ListNode.iterator).Nodup
  keys_nodup : (cache.list.map ListNode.key).Nodup
  lookup_iff : ∀ key iterator, cache.map.lookup key = some iterator ↔
    ∃ node ∈ cache.list, node.key = key ∧ node.iterator = iterator

/-- The cache as a list with the most recently used key in front. -/
def frontList (cache : LruCache κ ν) : FrontList κ ν :=
  ⟨cache.capacity, cache.list.map ListNode.entry⟩

variable {cache : LruCache κ ν}

theorem Linked.start (allocator : Allocator) (capacity : Nat) :
    Linked (start allocator capacity : LruCache κ ν) where
  iterators_nodup := List.nodup_nil
  keys_nodup := List.nodup_nil
  lookup_iff key iterator := by simp [LruCache.start]

theorem Linked.clear : Linked cache.clear where
  iterators_nodup := List.nodup_nil
  keys_nodup := List.nodup_nil
  lookup_iff key iterator := by simp [LruCache.clear]

section Linked

variable (linked : cache.Linked)

include linked

/-- A map entry points at a node. -/
theorem Linked.deref_eq {node : ListNode κ ν} (member : node ∈ cache.list) :
    deref node.iterator cache.list = some node := by
  rw [deref]
  cases found : cache.list.find? fun other => other.iterator = node.iterator with
  | none => exact absurd (decide_eq_true rfl) (List.find?_eq_none.mp found node member)
  | some other =>
      have same : other.iterator = node.iterator := by simpa using List.find?_some found
      rw [List.inj_on_of_nodup_map linked.iterators_nodup (List.mem_of_find?_eq_some found)
        member same]

/-- Within the list, keys and iterators tell the same nodes apart. -/
theorem Linked.iterator_eq_iff {first second : ListNode κ ν} (firstMem : first ∈ cache.list)
    (secondMem : second ∈ cache.list) :
    first.iterator = second.iterator ↔ first.key = second.key := by
  constructor
  · intro same
    rw [List.inj_on_of_nodup_map linked.iterators_nodup firstMem secondMem same]
  · intro same
    rw [List.inj_on_of_nodup_map linked.keys_nodup firstMem secondMem same]

theorem Linked.filter_iterator {node : ListNode κ ν} (member : node ∈ cache.list) :
    cache.list.filter (fun other => other.iterator ≠ node.iterator) =
      cache.list.filter fun other => other.key ≠ node.key := by
  refine List.filter_congr fun other otherMem => ?_
  rw [decide_eq_decide, not_iff_not]
  exact linked.iterator_eq_iff otherMem member

/-- What the map says of a key is what the list says of it. -/
theorem Linked.lookup_frontList (key : κ) :
    (cache.frontList.lookup key = none ↔ cache.map.lookup key = none) ∧
      ∀ iterator, cache.map.lookup key = some iterator →
        ∃ node ∈ cache.list, node.key = key ∧ node.iterator = iterator ∧
          cache.frontList.lookup key = some node.value := by
  have find_map : cache.frontList.lookup key =
      (cache.list.find? fun node => node.key = key).map ListNode.value := by
    rw [frontList, FrontList.lookup, List.find?_map, Option.map_map]
    rfl
  constructor
  · rw [find_map, Option.map_eq_none_iff, List.find?_eq_none]
    constructor
    · intro absent
      cases found : cache.map.lookup key with
      | none => rfl
      | some iterator =>
          rcases (linked.lookup_iff key iterator).mp found with ⟨node, member, sameKey, _⟩
          exact absurd (decide_eq_true sameKey) (absent node member)
    · intro unmapped node member isKey
      have mapped := (linked.lookup_iff key node.iterator).mpr
        ⟨node, member, of_decide_eq_true isKey, rfl⟩
      exact absurd (mapped.symm.trans unmapped) (Option.some_ne_none _)
  · intro iterator found
    rcases (linked.lookup_iff key iterator).mp found with ⟨node, member, sameKey, isIterator⟩
    refine ⟨node, member, sameKey, isIterator, ?_⟩
    rw [find_map]
    cases first : cache.list.find? fun node => node.key = key with
    | none => exact absurd (decide_eq_true sameKey) (List.find?_eq_none.mp first node member)
    | some other =>
        have otherKey : other.key = key := by simpa using List.find?_some first
        rw [List.inj_on_of_nodup_map linked.keys_nodup (List.mem_of_find?_eq_some first) member
          (otherKey.trans sameKey.symm)]
        rfl

end Linked

/-! ## The operations keep them together -/

/-- The list with one node moved to the front and perhaps a new value in it. -/
theorem Linked.moved (linked : cache.Linked) {node : ListNode κ ν} (member : node ∈ cache.list)
    (value : ν) :
    Linked { cache with
      list := { node with value := value } ::
        cache.list.filter fun other => other.iterator ≠ node.iterator } where
  iterators_nodup := by
    rw [List.map_cons, List.nodup_cons]
    refine ⟨fun again => ?_, linked.iterators_nodup.sublist (List.filter_sublist.map _)⟩
    rcases List.mem_map.mp again with ⟨other, otherMem, same⟩
    exact absurd same (of_decide_eq_true (List.mem_filter.mp otherMem).2)
  keys_nodup := by
    rw [List.map_cons, List.nodup_cons, linked.filter_iterator member]
    refine ⟨fun again => ?_, linked.keys_nodup.sublist (List.filter_sublist.map _)⟩
    rcases List.mem_map.mp again with ⟨other, otherMem, same⟩
    exact absurd same (of_decide_eq_true (List.mem_filter.mp otherMem).2)
  lookup_iff key iterator := by
    rw [linked.lookup_iff]
    constructor
    · rintro ⟨other, otherMem, sameKey, same⟩
      by_cases moved : other.iterator = node.iterator
      · refine ⟨_, List.mem_cons_self, ?_, moved.symm.trans same⟩
        exact ((linked.iterator_eq_iff otherMem member).mp moved).symm.trans sameKey
      · refine ⟨other, List.mem_cons_of_mem _ ?_, sameKey, same⟩
        exact List.mem_filter.mpr ⟨otherMem, decide_eq_true moved⟩
    · rintro ⟨other, otherMem, sameKey, same⟩
      rcases List.mem_cons.mp otherMem with rfl | rest
      · exact ⟨node, member, sameKey, same⟩
      · exact ⟨other, List.mem_of_mem_filter rest, sameKey, same⟩

/-- Moving a node to the front is a use of its key. -/
theorem Linked.frontList_moved (linked : cache.Linked) {node : ListNode κ ν}
    (member : node ∈ cache.list) (value : ν) :
    frontList { cache with
      list := { node with value := value } ::
        cache.list.filter fun other => other.iterator ≠ node.iterator } =
      cache.frontList.use node.key value := by
  rw [linked.filter_iterator member]
  simp only [frontList, FrontList.use, FrontList.erase, List.map_cons, List.filter_map]
  rfl

theorem Linked.spliceToFront_eq (linked : cache.Linked) {node : ListNode κ ν}
    (member : node ∈ cache.list) :
    spliceToFront node.iterator cache.list =
      some (node :: cache.list.filter fun other => other.iterator ≠ node.iterator) := by
  rw [spliceToFront, linked.deref_eq member]
  rfl

theorem Linked.assign_eq (linked : cache.Linked) {node : ListNode κ ν}
    (member : node ∈ cache.list) (value : ν) :
    ((assign node.iterator value cache.list).bind fun assigned =>
        spliceToFront node.iterator assigned) =
      some ({ node with value := value } ::
        cache.list.filter fun other => other.iterator ≠ node.iterator) := by
  have sameIterator : ∀ other : ListNode κ ν,
      (if other.iterator = node.iterator then { other with value := value } else other).iterator =
        other.iterator := by
    intro other
    split <;> rfl
  have found := linked.deref_eq member
  rw [assign, found, Option.map_some, Option.bind_some, spliceToFront, deref, List.find?_map]
  simp only [Function.comp_def, sameIterator]
  rw [deref] at found
  rw [found, List.filter_map, Option.map_some, Option.map_some, if_pos rfl]
  congr 2
  simp only [Function.comp_def, sameIterator]
  refine (List.map_congr_left fun other otherMem => ?_).trans (List.map_id _)
  exact if_neg (of_decide_eq_true (List.mem_filter.mp otherMem).2)

theorem Linked.erased (linked : cache.Linked) (key : κ) :
    Linked { cache with
      list := cache.list.filter fun node => node.key ≠ key
      map := cache.map.erase key } where
  iterators_nodup := linked.iterators_nodup.sublist (List.filter_sublist.map _)
  keys_nodup := linked.keys_nodup.sublist (List.filter_sublist.map _)
  lookup_iff other iterator := by
    rw [KeyTable.lookup_erase_eq_ite]
    split
    · next same =>
        refine iff_of_false (fun found => absurd found.symm (Option.some_ne_none iterator)) ?_
        rintro ⟨node, member, sameKey, _⟩
        exact of_decide_eq_true (List.mem_filter.mp member).2 (sameKey.trans same)
    · next different =>
        rw [linked.lookup_iff]
        constructor
        · rintro ⟨node, member, rfl, same⟩
          exact ⟨node, List.mem_filter.mpr ⟨member, decide_eq_true different⟩, rfl, same⟩
        · rintro ⟨node, member, sameKey, same⟩
          exact ⟨node, List.mem_of_mem_filter member, sameKey, same⟩

theorem Linked.emplaceFront (linked : cache.Linked) {key : κ}
    (absent : cache.map.lookup key = none) (value : ν) :
    (cache.emplaceFront key value).Linked where
  iterators_nodup :=
    List.nodup_cons.mpr ⟨cache.allocator.place_not_mem _, linked.iterators_nodup⟩
  keys_nodup := by
    refine List.nodup_cons.mpr ⟨fun member => ?_, linked.keys_nodup⟩
    rcases List.mem_map.mp member with ⟨node, nodeMem, sameKey⟩
    have mapped := (linked.lookup_iff key node.iterator).mpr ⟨node, nodeMem, sameKey, rfl⟩
    exact absurd (mapped.symm.trans absent) (Option.some_ne_none _)
  lookup_iff other iterator := by
    rw [LruCache.emplaceFront, KeyTable.lookup_insert_eq_ite]
    split
    · next same =>
        obtain rfl := same
        constructor
        · intro found
          exact ⟨_, List.mem_cons_self, rfl, Option.some.inj found⟩
        · rintro ⟨node, member, sameKey, rfl⟩
          rcases List.mem_cons.mp member with rfl | old
          · rfl
          · have mapped := (linked.lookup_iff other node.iterator).mpr ⟨node, old, sameKey, rfl⟩
            exact absurd (mapped.symm.trans absent) (Option.some_ne_none _)
    · next different =>
        rw [linked.lookup_iff]
        constructor
        · rintro ⟨node, member, sameKey, same⟩
          exact ⟨node, List.mem_cons_of_mem _ member, sameKey, same⟩
        · rintro ⟨node, member, sameKey, same⟩
          rcases List.mem_cons.mp member with rfl | old
          · exact absurd sameKey.symm different
          · exact ⟨node, old, sameKey, same⟩

/-- A new key in front is a use of it. -/
theorem Linked.frontList_emplaceFront (linked : cache.Linked) {key : κ}
    (absent : cache.map.lookup key = none) (value : ν) :
    (cache.emplaceFront key value).frontList = cache.frontList.use key value := by
  have missing := (linked.lookup_frontList key).1.mpr absent
  rw [FrontList.use, FrontList.erase_eq_self missing]
  rfl

/-- A list with a back is no shorter than the list without it, and the map entry
that goes is that of the back. -/
theorem Linked.evictBack (linked : cache.Linked) (nonempty : cache.list ≠ []) :
    ∃ evicted, cache.evictBack = some evicted ∧ evicted.Linked ∧
      evicted.frontList = ⟨cache.capacity, cache.frontList.items.dropLast⟩ ∧
      ∀ key, cache.map.lookup key = none → evicted.map.lookup key = none := by
  rcases List.eq_nil_or_concat cache.list with empty | ⟨front, back, split⟩
  · exact absurd empty nonempty
  rw [List.concat_eq_append] at split
  have erased := linked.erased back.key
  have kept : cache.list.filter (fun node => node.key ≠ back.key) = front := by
    have distinct := linked.keys_nodup
    rw [split, List.map_append, List.nodup_append] at distinct
    rw [split, List.filter_append, List.filter_eq_self.mpr]
    · simp
    · intro node member
      exact decide_eq_true (distinct.2.2 node.key (List.mem_map_of_mem member) back.key
        (List.mem_singleton.mpr rfl))
  rw [kept] at erased
  refine ⟨{ cache with list := front, map := cache.map.erase back.key }, ?_, erased, ?_, ?_⟩
  · simp [LruCache.evictBack, split]
  · simp [frontList, split]
  · intro key absent
    simp [KeyTable.lookup_erase_eq_ite, absent]

/-! ## Simulation -/

/-- No call runs into undefined behaviour, and each does on the two structures what
it does on a list with the most recently used key in front. -/
theorem Linked.call (linked : cache.Linked) (positive : 0 < cache.capacity) (made : Call κ ν) :
    ∃ next, cache.call made = some ((cache.frontList.call made).1, next) ∧ next.Linked ∧
      next.frontList = (cache.frontList.call made).2 := by
  cases made with
  | get key =>
      rw [LruCache.call, get, FrontList.call]
      cases found : cache.map.lookup key with
      | none =>
          rw [(linked.lookup_frontList key).1.mpr found]
          exact ⟨cache, rfl, linked, rfl⟩
      | some iterator =>
          rcases (linked.lookup_frontList key).2 iterator found with
            ⟨node, member, rfl, rfl, held⟩
          have moved := linked.moved member node.value
          have inFront := moved.deref_eq List.mem_cons_self
          refine ⟨_, ?_, moved, ?_⟩
          · rw [held]
            simp only [Option.bind_eq_bind, linked.spliceToFront_eq member, Option.bind_some]
            rw [inFront]
            rfl
          · rw [held]
            exact linked.frontList_moved member node.value
  | put key value =>
      rw [LruCache.call, put, FrontList.call]
      cases found : cache.map.lookup key with
      | none =>
          rw [(linked.lookup_frontList key).1.mpr found]
          have sameLength : cache.frontList.items.length = cache.list.length :=
            List.length_map _
          have sameCapacity : cache.frontList.capacity = cache.capacity := rfl
          rw [FrontList.evict, sameLength, sameCapacity]
          by_cases full : cache.capacity ≤ cache.list.length
          · have nonempty : cache.list ≠ [] :=
              List.ne_nil_of_length_pos (Nat.lt_of_lt_of_le positive full)
            rcases linked.evictBack nonempty with ⟨evicted, eq, stillLinked, shorter, unmapped⟩
            rw [if_pos full, if_pos full, eq]
            refine ⟨_, rfl, stillLinked.emplaceFront (unmapped key found) value, ?_⟩
            rw [stillLinked.frontList_emplaceFront (unmapped key found), shorter]
          · rw [if_neg full, if_neg full]
            exact ⟨_, rfl, linked.emplaceFront found value,
              linked.frontList_emplaceFront found value⟩
      | some iterator =>
          rcases (linked.lookup_frontList key).2 iterator found with
            ⟨node, member, rfl, rfl, held⟩
          have assigned := linked.assign_eq member value
          refine ⟨_, ?_, linked.moved member value, ?_⟩
          · rw [held]
            simp only [Option.bind_eq_bind, ← Option.bind_assoc, assigned]
            rfl
          · rw [held]
            exact linked.frontList_moved member value
  | remove key =>
      rw [LruCache.call, remove, FrontList.call]
      have erased := linked.erased key
      cases found : cache.map.lookup key with
      | none =>
          have missing := (linked.lookup_frontList key).1.mpr found
          exact ⟨cache, rfl, linked, (FrontList.erase_eq_self missing).symm⟩
      | some iterator =>
          rcases (linked.lookup_iff key iterator).mp found with ⟨node, member, rfl, rfl⟩
          have erasedList : ListNode.erase node.iterator cache.list =
              some (cache.list.filter fun other => other.key ≠ node.key) := by
            rw [ListNode.erase, linked.deref_eq member, Option.map_some,
              linked.filter_iterator member]
          refine ⟨_, ?_, erased, ?_⟩
          · simp only [erasedList]
            rfl
          · simp only [frontList, FrontList.erase, List.filter_map]
            rfl
  | clear => exact ⟨_, rfl, Linked.clear, rfl⟩

/-- The same of a sequence of calls; the size stays within the capacity. -/
theorem Linked.calls (linked : cache.Linked) (positive : 0 < cache.capacity)
    (bounded : cache.size ≤ cache.capacity) (made : List (Call κ ν)) :
    ∃ last, cache.calls made = some ((cache.frontList.calls made).1, last) ∧ last.Linked ∧
      last.frontList = (cache.frontList.calls made).2 ∧ last.size ≤ cache.capacity := by
  induction made generalizing cache with
  | nil => exact ⟨cache, rfl, linked, rfl, bounded⟩
  | cons first later ih =>
      rcases linked.call positive first with ⟨next, called, nextLinked, simulated⟩
      have sameLength : ∀ cache : LruCache κ ν, cache.frontList.items.length = cache.size :=
        fun cache => List.length_map _
      have sameCapacity : next.capacity = cache.capacity := by
        have projected := congrArg FrontList.capacity simulated
        rwa [FrontList.capacity_call] at projected
      have nextBounded : next.size ≤ next.capacity := by
        have bound := FrontList.length_call_le positive
          ((sameLength cache).trans_le bounded) first
        rw [← simulated, sameLength] at bound
        exact bound.trans_eq sameCapacity.symm
      rcases ih nextLinked (sameCapacity ▸ positive) nextBounded with
        ⟨last, run, lastLinked, lastSimulated, lastBounded⟩
      refine ⟨last, ?_, lastLinked, ?_, lastBounded.trans_eq sameCapacity⟩
      · simp only [LruCache.calls, FrontList.calls, called, Option.bind_eq_bind,
          Option.bind_some, run, simulated]
        rfl
      · simp only [FrontList.calls, lastSimulated, simulated]

/-! ## Against the reference -/

/-- The list and the map are linked, and hold what the reference holds after the
calls. -/
structure Matches (cache : LruCache κ ν) (made : List (Call κ ν)) (reference : Reference κ ν) :
    Prop where
  linked : cache.Linked
  contents : cache.list.map ListNode.entry = reference.byRecency
  contains_iff : ∀ key, cache.contains key = true ↔ key ∈ reference.entries
  recorded : Recorded made reference

/-- Calls on an empty cache return what they return on the reference, and the
cache ends up in the state of the reference, within its capacity. -/
theorem matches_reference (allocator : Allocator) (capacity : Nat) (positive : 1 ≤ capacity)
    (made : List (Call κ ν)) :
    ∃ cache, (start allocator capacity).calls made =
        some ((Reference.calls { capacity := capacity } made).1, cache) ∧
      cache.size ≤ capacity ∧
      cache.Matches made (Reference.calls { capacity := capacity } made).2 := by
  have implements : FrontList.Implements (start allocator capacity : LruCache κ ν).frontList
      { capacity := capacity } :=
    ⟨rfl, [], Ordered.empty capacity 0, rfl⟩
  rcases implements.calls made with ⟨sameValues, implemented⟩
  rcases (Linked.start allocator capacity).calls positive (Nat.zero_le _) made with
    ⟨cache, run, linked, simulated, bounded⟩
  rw [sameValues] at run
  rw [← simulated] at implemented
  have contains_iff : ∀ key, cache.contains key = true ↔
      key ∈ (Reference.calls { capacity := capacity } made).2.entries := by
    intro key
    have mapped : key ∈ cache.map ↔ cache.frontList.lookup key ≠ none := by
      rw [Ne, (linked.lookup_frontList key).1, AList.lookup_eq_none, not_not]
    rw [contains, decide_eq_true_iff, mapped, implemented.mem_iff, Option.ne_none_iff_exists']
  exact ⟨cache, run, bounded,
    ⟨linked, implemented.items_eq, contains_iff, (recorded_start capacity).calls made⟩⟩

/-- A cache of two entries in which a `get` decides what is evicted. -/
def getBeforeEviction : List (Call String Nat) :=
  [.put "a" 1, .put "b" 2, .get "a", .put "c" 3, .get "b"]

/-- Numbers one above all in use. -/
def ascendingAllocator : Allocator where
  place used := used.foldr max 0 + 1
  place_not_mem used member := by
    have bound : ∀ used : List Nat, ∀ number ∈ used, number ≤ used.foldr max 0 := by
      intro used
      induction used with
      | nil => exact fun number member => absurd member List.not_mem_nil
      | cons first rest ih =>
          intro number member
          rcases List.mem_cons.mp member with rfl | later
          · exact Nat.le_max_left number _
          · exact (ih number later).trans (Nat.le_max_right first _)
    exact absurd (bound used _ member) (Nat.not_succ_le_self _)

theorem matches_reference_getBeforeEviction :
    1 ≤ 2 ∧ ∃ cache, (start ascendingAllocator 2).calls getBeforeEviction =
        some ([none, none, some 1, none, none], cache) ∧
      cache.size ≤ 2 ∧
      cache.Matches getBeforeEviction
        (Reference.calls { capacity := 2 } getBeforeEviction).2 := by
  have positive : 1 ≤ 2 := by decide
  exact ⟨positive, matches_reference ascendingAllocator 2 positive getBeforeEviction⟩

end LruCache

end AnychatSdk
