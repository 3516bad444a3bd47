import AnychatSdk.CApi.Memory

/-!
# Deliveries to callers of the C API

A result goes to a callback as one or more arrays on the heap and is freed when the
callback returns.  Whatever the callback does in between, frees the result itself
or frees single messages of it, every block is freed once.
-/

namespace AnychatSdk.CApi

open Heap (KeepsOn)

section Held

variable {δ : Type}

def itemsOf (heap : CHeap δ) (array : CArray) : List (CItem δ) :=
  (array.items.bind heap.blocks).elim [] CBlock.items

/-- The texts of an array. -/
def contents (heap : CHeap δ) (array : CArray) : List Nat :=
  (itemsOf heap array).filterMap CItem.content

def pointers (heap : CHeap δ) (array : CArray) : List Nat :=
  array.items.toList ++ contents heap array

/-- All blocks of a result. -/
def held (heap : CHeap δ) (arrays : List CArray) : List Nat :=
  arrays.flatMap (pointers heap)

/-- The loops over an array stay within it, and it has texts only if they are freed. -/
inductive Shaped (hasTexts : Bool) (heap : CHeap δ) (array : CArray) : Prop
  | empty (null : array.items = none) (short : array.length = 0)
  | full (address : Nat) (items : List (CItem δ)) (starts : array.items = some address)
      (lives : heap.blocks address = some (.array items)) (length : items.length = array.length)
      (blank : hasTexts = false → items.filterMap CItem.content = [])

variable {heap next : CHeap δ}

theorem itemsOf_of_lives {array : CArray} {address : Nat} {block : CBlock δ}
    (starts : array.items = some address) (lives : heap.blocks address = some block) :
    itemsOf heap array = block.items := by
  rw [itemsOf, starts, Option.bind_some, lives]
  rfl

theorem pointers_of_lives {array : CArray} {address : Nat} {block : CBlock δ}
    (starts : array.items = some address) (lives : heap.blocks address = some block) :
    pointers heap array = address :: block.items.filterMap CItem.content := by
  rw [pointers, contents, itemsOf_of_lives starts lives, starts]
  rfl

theorem itemsOf_eq_of_keeps {array : CArray} (keeps : KeepsOn (pointers heap array) heap next) :
    itemsOf next array = itemsOf heap array := by
  rw [itemsOf, itemsOf]
  cases starts : array.items with
  | none => rfl
  | some address =>
      have member : address ∈ pointers heap array := by
        rw [pointers, starts]
        exact List.mem_cons_self
      rw [Option.bind_some, Option.bind_some, keeps address member]

theorem pointers_eq_of_keeps {array : CArray} (keeps : KeepsOn (pointers heap array) heap next) :
    pointers next array = pointers heap array := by
  rw [pointers, pointers, contents, contents, itemsOf_eq_of_keeps keeps]

theorem Shaped.of_keeps {hasTexts : Bool} {array : CArray} (shaped : Shaped hasTexts heap array)
    (keeps : KeepsOn (pointers heap array) heap next) : Shaped hasTexts next array := by
  cases shaped with
  | empty null short => exact .empty null short
  | full address items starts lives length blank =>
      refine .full address items starts ?_ length blank
      rw [keeps address (pointers_of_lives starts lives ▸ List.mem_cons_self)]
      exact lives

theorem keepsOn_mono {few many : List Nat} (within : few ⊆ many)
    (keeps : KeepsOn many heap next) : KeepsOn few heap next :=
  fun address member => keeps address (within member)

theorem keepsOn_pointers {arrays : List CArray} {array : CArray} (member : array ∈ arrays)
    (keeps : KeepsOn (held heap arrays) heap next) : KeepsOn (pointers heap array) heap next :=
  keepsOn_mono (fun _ inside => List.mem_flatMap.mpr ⟨array, member, inside⟩) keeps

theorem held_cons (heap : CHeap δ) (array : CArray) (arrays : List CArray) :
    held heap (array :: arrays) = pointers heap array ++ held heap arrays :=
  List.flatMap_cons

theorem held_eq_of_keeps {arrays : List CArray} (keeps : KeepsOn (held heap arrays) heap next) :
    held next arrays = held heap arrays := by
  induction arrays with
  | nil => rfl
  | cons array arrays ih =>
      rw [held_cons] at keeps
      rw [held_cons, held_cons,
        pointers_eq_of_keeps (keepsOn_mono (List.subset_append_left _ _) keeps),
        ih (keepsOn_mono (List.subset_append_right _ _) keeps)]

end Held

/-! ## Freeing -/

section Free

variable {δ : Type} {heap : CHeap δ} {rest : List Nat}

/-- The loop frees the texts of the items that are left. -/
theorem freeContents_spec {address : Nat} {items : List (CItem δ)} (member : address ∈ rest)
    (left index : Nat) (lives : heap.blocks address = some (.array items))
    (length : items.length = index + left)
    (owns : heap.Owns ((items.drop index).filterMap CItem.content ++ rest)) :
    ∃ next, freeContents (some address) index left heap = .ok next ∧ next.Owns rest ∧
      KeepsOn rest heap next := by
  induction left generalizing heap index with
  | zero =>
      have nothing : items.drop index = [] := List.drop_eq_nil_iff.mpr (Nat.le_of_eq length)
      rw [nothing] at owns
      exact ⟨heap, rfl, owns, fun _ _ => rfl⟩
  | succ left ih =>
      have inside : index < items.length := by omega
      have content : CBlock.content index (.array items) = items[index].content := by
        rw [CBlock.content, CBlock.items, List.getElem?_eq_getElem inside]
        rfl
      have dropped : items.drop index = items[index] :: items.drop (index + 1) :=
        List.drop_eq_getElem_cons inside
      rw [dropped] at owns
      rw [freeContents, Heap.load_of_blocks lives]
      change ∃ next, (heap.free (CBlock.content index (.array items)) >>= _) = _ ∧ _
      rw [content]
      cases pointer : items[index].content with
      | none =>
          rw [List.filterMap_cons_none pointer] at owns
          exact ih (index + 1) lives (by omega) owns
      | some text =>
          rw [List.filterMap_cons_some pointer, List.cons_append] at owns
          rcases owns.free with ⟨freed, same, owns', keeps⟩
          have kept := keeps address (List.mem_append_right _ member)
          rcases ih (index + 1) (kept.trans lives) (by omega) owns' with ⟨next, done, owns'', later⟩
          refine ⟨next, ?_, owns'', fun other listed => ?_⟩
          · rw [same]
            exact done
          · exact (later other listed).trans (keeps other (List.mem_append_right _ listed))

/-- The texts of an array can be freed while the array lives. -/
theorem freeTexts_spec {hasTexts : Bool} {array : CArray} {address : Nat} {items : List (CItem δ)}
    (starts : array.items = some address) (lives : heap.blocks address = some (.array items))
    (length : items.length = array.length)
    (blank : hasTexts = false → items.filterMap CItem.content = [])
    (owns : heap.Owns (items.filterMap CItem.content ++ address :: rest)) :
    ∃ next, freeTexts hasTexts array heap = .ok next ∧ next.Owns (address :: rest) ∧
      KeepsOn (address :: rest) heap next := by
  cases hasTexts with
  | false =>
      rw [blank rfl] at owns
      exact ⟨heap, rfl, owns, fun _ _ => rfl⟩
  | true =>
      have looped := freeContents_spec List.mem_cons_self array.length 0 lives (by omega) owns
      rw [← starts] at looped
      exact looped

theorem freeArray_spec {hasTexts : Bool} {array : CArray} (shaped : Shaped hasTexts heap array)
    (owns : heap.Owns (pointers heap array ++ rest)) :
    ∃ next, freeArray hasTexts array heap = .ok ({}, next) ∧ next.Owns rest ∧
      KeepsOn rest heap next := by
  cases shaped with
  | empty null short =>
      rw [pointers, contents, itemsOf, null] at owns
      refine ⟨heap, ?_, owns, fun _ _ => rfl⟩
      have nothing : freeTexts hasTexts array heap = .ok heap := by
        rw [freeTexts, short]
        cases hasTexts <;> rfl
      rw [freeArray, nothing, null]
      rfl
  | full address items starts lives length blank =>
      rw [pointers_of_lives starts lives] at owns
      have owns : heap.Owns (items.filterMap CItem.content ++ address :: rest) :=
        owns.perm List.perm_middle
      rcases freeTexts_spec starts lives length blank owns with ⟨middle, looped, owns', keeps⟩
      rcases owns'.free with ⟨next, freed, owns'', keeps'⟩
      refine ⟨next, ?_, owns'', fun other listed => ?_⟩
      · rw [freeArray, looped]
        change (middle.free array.items >>= _) = _
        rw [starts, freed]
        rfl
      · exact (keeps' other listed).trans (keeps other (List.mem_cons_of_mem _ listed))

theorem freeArrays_spec {hasTexts : Bool} {arrays : List CArray}
    (shaped : ∀ array ∈ arrays, Shaped hasTexts heap array)
    (owns : heap.Owns (held heap arrays ++ rest)) :
    ∃ next, freeArrays hasTexts arrays heap = .ok (arrays.map fun _ => {}, next) ∧
      next.Owns rest ∧ KeepsOn rest heap next := by
  induction arrays generalizing heap with
  | nil => exact ⟨heap, rfl, owns, fun _ _ => rfl⟩
  | cons array arrays ih =>
      rw [held_cons, List.append_assoc] at owns
      rcases freeArray_spec (shaped array List.mem_cons_self) owns with
        ⟨middle, first, owns', keeps⟩
      have keepsOthers : KeepsOn (held heap arrays) heap middle :=
        keepsOn_mono (List.subset_append_left _ _) keeps
      have shaped' : ∀ other ∈ arrays, Shaped hasTexts middle other := fun other member =>
        (shaped other (List.mem_cons_of_mem _ member)).of_keeps
          (keepsOn_pointers member keepsOthers)
      rw [← held_eq_of_keeps keepsOthers] at owns'
      rcases ih shaped' owns' with ⟨next, others, owns'', later⟩
      refine ⟨next, ?_, owns'', fun other listed => ?_⟩
      · rw [freeArrays, first]
        change (freeArrays hasTexts arrays middle >>= _) = _
        rw [others]
        rfl
      · exact (later other listed).trans (keeps other (List.mem_append_right _ listed))

end Free

/-! ## Filling -/

section Fill

variable {α δ : Type}

/-- A caller finds a value in an item: converted, and a pointer leads to a copy of its text. -/
structure Represents (converter : CConverter α δ) (heap : CHeap δ) (value : α) (item : CItem δ) :
    Prop where
  record : item.record = converter.convert value converter.zero
  text : ∀ address, item.content = some address →
    ∃ text, converter.text? value = some text ∧
      heap.blocks address = some (.text (anychatStrdup text))

/-- The copy that an item should point to and does not. -/
def missingText (converter : CConverter α δ) (value : α) (item : CItem δ) : List (CBlock δ) :=
  match item.content with
  | some _ => []
  | none => (converter.text? value).toList.map fun text => .text (anychatStrdup text)

def missingTexts (converter : CConverter α δ) (values : List α) (items : List (CItem δ)) :
    List (CBlock δ) :=
  (List.zipWith (missingText converter) values items).flatten

theorem missingTexts_append (converter : CConverter α δ) {before : List α} {done : List (CItem δ)}
    (length : before.length = done.length) (value : α) (item : CItem δ) :
    missingTexts converter (before ++ [value]) (done ++ [item]) =
      missingTexts converter before done ++ missingText converter value item := by
  rw [missingTexts, List.zipWith_append length, List.flatten_append]
  exact congrArg _ (List.append_nil _)

variable {allocator : HeapAllocator (CBlock δ)} {converter : CConverter α δ} {heap next : CHeap δ}
  {rest : List Nat} {address : Nat}

theorem Represents.of_keeps {value : α} {item : CItem δ} {texts : List Nat}
    (represents : Represents converter heap value item)
    (listed : ∀ address, item.content = some address → address ∈ texts)
    (keeps : KeepsOn texts heap next) : Represents converter next value item where
  record := represents.record
  text address content := by
    rcases represents.text address content with ⟨text, has, lives⟩
    exact ⟨text, has, (keeps address (listed address content)).trans lives⟩

theorem forall₂_represents_of_keeps {values : List α} {items : List (CItem δ)}
    (represents : List.Forall₂ (Represents converter heap) values items)
    (keeps : KeepsOn (items.filterMap CItem.content) heap next) :
    List.Forall₂ (Represents converter next) values items := by
  induction represents with
  | nil => exact .nil
  | @cons value item values items first _ ih =>
      refine .cons (first.of_keeps (fun address content => ?_) keeps) (ih ?_)
      · exact List.mem_filterMap.mpr ⟨item, List.mem_cons_self, content⟩
      · refine keepsOn_mono (fun address member => ?_) keeps
        rcases List.mem_filterMap.mp member with ⟨other, among, content⟩
        exact List.mem_filterMap.mpr ⟨other, List.mem_cons_of_mem _ among, content⟩

/-- Only one item is written. -/
theorem change_append (done later : List (CItem δ)) (item : CItem δ) (write : CItem δ → CItem δ) :
    CBlock.change done.length write (.array (done ++ item :: later)) =
      .array (done ++ write item :: later) := by
  refine congrArg CBlock.array ?_
  induction done with
  | nil => rfl
  | cons first done ih => exact congrArg (first :: ·) ih

variable (allocator) in
theorem anychatStrdupOnHeap_spec {held : List Nat} (owns : heap.Owns held) (text : String) :
    ∃ content next, anychatStrdupOnHeap allocator text heap = (content, next) ∧
      next.Owns (content.toList ++ held) ∧ KeepsOn held heap next ∧
      (∀ address, content = some address →
        next.blocks address = some (.text (anychatStrdup text))) ∧
      next.refused =
        heap.refused ++ if content.isNone then [.text (anychatStrdup text)] else [] := by
  let given := heap.malloc allocator (.text (anychatStrdup text))
  have books : given.2.refused =
      heap.refused ++ if given.1.isNone then [.text (anychatStrdup text)] else [] :=
    Heap.refused_malloc allocator _ heap
  refine ⟨given.1, given.2, rfl, ?_⟩
  rcases owns.malloc allocator (.text (anychatStrdup text)) with
    ⟨_, null, owns', keeps⟩ | ⟨address, same, owns', lives, keeps⟩
  · rw [show given.1 = none from null] at books ⊢
    exact ⟨owns', keeps, nofun, books⟩
  · rw [show given.1 = some address from same] at books ⊢
    refine ⟨owns', keeps, fun other equal => ?_, books⟩
    cases equal
    exact lives

/-- The converter fills one item and may hold one more text. -/
theorem fillItem_spec {done later : List (CItem δ)}
    (lives : heap.blocks address = some (.array (done ++ ⟨converter.zero, none⟩ :: later)))
    (owns : heap.Owns (address :: rest)) (value : α) :
    ∃ next item, fillItem allocator converter (some address) done.length value heap = .ok next ∧
      next.blocks address = some (.array (done ++ item :: later)) ∧
      Represents converter next value item ∧
      next.Owns (address :: (item.content.toList ++ rest)) ∧ KeepsOn rest heap next ∧
      next.refused = heap.refused ++ missingText converter value item := by
  have apart : ∀ other ∈ rest, other ≠ address := fun other member same =>
    (List.nodup_cons.mp owns.nodup).1 (same ▸ member)
  rcases owns.store lives (.change done.length fun item =>
    { item with record := converter.convert value item.record }) with
    ⟨middle, stored, owns', written, others⟩
  rw [change_append] at written
  have kept : KeepsOn rest heap middle := fun other member => others other (apart other member)
  rw [fillItem, stored]
  cases has : converter.text? value with
  | none =>
      refine ⟨middle, _, rfl, written, ⟨rfl, nofun⟩, owns', kept, ?_⟩
      rw [Heap.refused_of_store stored, missingText, has]
      exact (List.append_nil _).symm
  | some text =>
      rcases anychatStrdupOnHeap_spec allocator owns' text with
        ⟨content, copied, same, owns'', keeps, copy, books⟩
      have stands := (keeps address List.mem_cons_self).trans written
      rcases owns''.store stands (.change done.length fun item =>
        { item with content := content }) with ⟨next, pointed, owned, final, last⟩
      rw [change_append] at final
      refine ⟨next, _, ?_, final, ⟨rfl, fun other points => ?_⟩,
        owned.perm List.perm_middle.symm, fun other member => ?_, ?_⟩
      · have stores := congrArg (fun given : Option Nat × CHeap δ => given.2.store (some address)
          (CBlock.change done.length fun item => { item with content := given.1 })) same
        exact stores.trans pointed
      · have different : other ≠ address := by
          rintro rfl
          have nodup := owns''.nodup
          rw [show content = some other from points] at nodup
          exact (List.nodup_cons.mp nodup).1 List.mem_cons_self
        exact ⟨text, has, (last other different).trans (copy other points)⟩
      · exact (last other (apart other member)).trans
          ((keeps other (List.mem_cons_of_mem _ member)).trans (kept other member))
      · rw [Heap.refused_of_store pointed, books, Heap.refused_of_store stored, missingText, has]
        cases content with
        | none => rfl
        | some copied => rfl

/-- The loop fills the items that are left. -/
theorem fillItems_spec (values : List α) {before : List α} {done : List (CItem δ)}
    {books : List (CBlock δ)}
    (lives : heap.blocks address =
      some (.array (done ++ List.replicate values.length ⟨converter.zero, none⟩)))
    (represents : List.Forall₂ (Represents converter heap) before done)
    (owns : heap.Owns (address :: (done.filterMap CItem.content ++ rest)))
    (refused : heap.refused = books ++ missingTexts converter before done) :
    ∃ next items, fillItems allocator converter (some address) done.length values heap = .ok next ∧
      next.blocks address = some (.array items) ∧
      List.Forall₂ (Represents converter next) (before ++ values) items ∧
      next.Owns (address :: (items.filterMap CItem.content ++ rest)) ∧
      KeepsOn rest heap next ∧
      next.refused = books ++ missingTexts converter (before ++ values) items := by
  induction values generalizing heap before done with
  | nil =>
      rw [List.length_nil, List.replicate_zero, List.append_nil] at lives
      rw [List.append_nil]
      exact ⟨heap, done, rfl, lives, represents, owns, fun _ _ => rfl, refused⟩
  | cons value values ih =>
      rw [List.length_cons, List.replicate_succ] at lives
      rcases fillItem_spec lives owns value with
        ⟨middle, item, filled, stands, shows, owns', keeps, entered⟩
      have represents' :
          List.Forall₂ (Represents converter middle) (before ++ [value]) (done ++ [item]) :=
        List.rel_append (forall₂_represents_of_keeps represents
          (keepsOn_mono (List.subset_append_left _ _) keeps)) (.cons shows .nil)
      have texts : (done ++ [item]).filterMap CItem.content =
          done.filterMap CItem.content ++ item.content.toList := by
        rw [List.filterMap_append]
        cases content : item.content with
        | none => rw [List.filterMap_cons_none content]; rfl
        | some text => rw [List.filterMap_cons_some content]; rfl
      have owns'' :
          middle.Owns (address :: ((done ++ [item]).filterMap CItem.content ++ rest)) := by
        refine owns'.perm (List.Perm.cons address ?_)
        rw [texts, List.append_assoc, ← List.append_assoc, ← List.append_assoc]
        exact List.perm_append_comm.append_right rest
      have refused' : middle.refused =
          books ++ missingTexts converter (before ++ [value]) (done ++ [item]) := by
        rw [entered, refused, missingTexts_append converter represents.length_eq,
          List.append_assoc]
      rw [← List.singleton_append, ← List.append_assoc] at stands
      rcases ih stands represents' owns'' refused' with
        ⟨next, items, loop, final, all, owned, later, refused''⟩
      rw [List.append_assoc] at all refused''
      rw [List.length_append] at loop
      refine ⟨next, items, ?_, final, all, owned, fun other member => ?_, refused''⟩
      · rw [fillItems, filled]
        exact loop
      · exact (later other member).trans (keeps other (List.mem_append_right _ member))

/-- What a caller finds in an array.  The values are all there if an `int` can count them. -/
inductive Shows (converter : CConverter α δ) (heap : CHeap δ) (values : List α) (array : CArray) :
    Prop
  | nothing (counts : array.count = Int32.ofNat values.length) (null : array.items = none)
      (short : array.length = 0)
  | items (counts : array.count = Int32.ofNat values.length) (address : Nat)
      (items : List (CItem δ)) (starts : array.items = some address)
      (lives : heap.blocks address = some (.array items))
      (represents : List.Forall₂ (Represents converter heap) (values.take array.length) items)

/-- The copies that are missing from a result. -/
def missing (converter : CConverter α δ) (heap : CHeap δ) :
    List (List α) → List CArray → List (CBlock δ)
  | values :: lists, array :: arrays =>
      missingTexts converter (values.take array.length) (itemsOf heap array) ++
        missing converter heap lists arrays
  | _, _ => []

/-- There is no memory for one of the arrays when its turn comes. -/
inductive ArrayRefused (allocator : HeapAllocator (CBlock δ)) (converter : CConverter α δ) :
    List (List α) → CHeap δ → Prop
  | here {values lists heap} (nonempty : 0 < Int32.ofNat values.length)
      (refused : allocator.choose heap.turn heap.blocks = none) :
      ArrayRefused allocator converter (values :: lists) heap
  | later {values lists heap array next}
      (filled : fillArray allocator converter values heap = .ok (array, next))
      (refused : ArrayRefused allocator converter lists next) :
      ArrayRefused allocator converter (values :: lists) heap

theorem toInt_ofNat_le (count : Nat) : (Int32.ofNat count).toInt ≤ count := by
  rw [Int32.toInt_ofNat', Int.bmod, show Int32.size = 4294967296 from rfl]
  omega

theorem CArray.length_le {array : CArray} {count : Nat} (counts : array.count = Int32.ofNat count) :
    array.length ≤ count := by
  have most := toInt_ofNat_le count
  rw [CArray.length, counts]
  omega

theorem CArray.length_pos_iff {array : CArray} : 0 < array.length ↔ 0 < array.count := by
  rw [Int32.lt_iff_toInt_lt, Int32.toInt_zero, CArray.length]
  exact Int.lt_toNat

theorem Shows.shaped {values : List α} {array : CArray}
    (shows : Shows converter heap values array) :
    Shaped converter.hasTexts heap array := by
  cases shows with
  | nothing counts null short => exact .empty null short
  | items counts address items starts lives represents =>
      refine .full address items starts lives ?_ fun flat => ?_
      · rw [← represents.length_eq, List.length_take, Nat.min_eq_left (CArray.length_le counts)]
      · refine List.filterMap_eq_nil_iff.mpr fun item member => ?_
        rcases List.mem_iff_getElem.mp member with ⟨index, inside, rfl⟩
        have shown := represents.get (by rw [represents.length_eq]; exact inside) inside
        refine Option.eq_none_iff_forall_ne_some.mpr fun text content => ?_
        rcases shown.text text content with ⟨copied, has, _⟩
        exact absurd has (converter.textless flat _ ▸ nofun)

theorem Shows.of_keeps {values : List α} {array : CArray}
    (shows : Shows converter heap values array)
    (keeps : KeepsOn (pointers heap array) heap next) :
    Shows converter next values array := by
  cases shows with
  | nothing counts null short => exact .nothing counts null short
  | items counts address items starts lives represents =>
      rw [pointers_of_lives starts lives] at keeps
      exact .items counts address items starts ((keeps address List.mem_cons_self).trans lives)
        (forall₂_represents_of_keeps represents
          (keepsOn_mono (fun _ member => List.mem_cons_of_mem _ member) keeps))

theorem fillItems_null {values : List α} (nonempty : values ≠ []) (index : Nat) :
    fillItems allocator converter none index values heap = .error .nullAccess := by
  cases values with
  | nil => exact absurd rfl nonempty
  | cons value values => rfl

variable (allocator converter) in
theorem fillArray_spec (values : List α) (owns : heap.Owns rest) :
    (fillArray allocator converter values heap = .error .nullAccess ∧
      0 < Int32.ofNat values.length ∧ allocator.choose heap.turn heap.blocks = none) ∨
    ∃ array next, fillArray allocator converter values heap = .ok (array, next) ∧
      Shows converter next values array ∧
      next.Owns (pointers next array ++ rest) ∧ KeepsOn rest heap next ∧
      next.refused = heap.refused ++
        missingTexts converter (values.take array.length) (itemsOf next array) := by
  let count := Int32.ofNat values.length
  let length := CArray.length { count := count }
  have inside : length ≤ values.length := CArray.length_le rfl
  have taken : (values.take length).length = length := by
    rw [List.length_take, Nat.min_eq_left inside]
  let given :=
    if 0 < count then heap.malloc allocator (.array (List.replicate length ⟨converter.zero, none⟩))
    else (none, heap)
  have unfolded : fillArray allocator converter values heap =
      (fillItems allocator converter given.1 0 (values.take length) given.2 >>= fun heap =>
        .ok ({ items := given.1, count := count }, heap)) := rfl
  rw [unfolded]
  by_cases positive : 0 < count
  · have allocates : given =
        heap.malloc allocator (.array (List.replicate length ⟨converter.zero, none⟩)) :=
      if_pos positive
    rw [allocates]
    have visited : 0 < CArray.length { count := count } := CArray.length_pos_iff.mpr positive
    have nonempty : values.take length ≠ [] := by
      refine List.ne_nil_of_length_pos ?_
      rw [taken]
      exact visited
    rcases owns.malloc allocator (.array (List.replicate length ⟨converter.zero, none⟩)) with
      ⟨fails, null, _, _⟩ | ⟨address, granted, owns', lives, keeps⟩
    · refine .inl ⟨?_, positive, fails⟩
      rw [null]
      exact congrArg (· >>= _) (fillItems_null nonempty 0)
    · have blank : (heap.malloc allocator
          (.array (List.replicate length ⟨converter.zero, none⟩))).2.blocks address =
          some (.array
            ([] ++ List.replicate (values.take length).length ⟨converter.zero, none⟩)) := by
        rw [taken]
        exact lives
      have books := Heap.refused_malloc allocator
        (.array (List.replicate length ⟨converter.zero, none⟩)) heap
      rw [granted] at books
      rcases fillItems_spec (values.take length) blank .nil owns' books with
        ⟨next, items, loop, final, all, owned, later, refused⟩
      refine .inr ⟨{ items := address, count := count }, next, ?_, ?_, ?_, ?_, ?_⟩
      · rw [granted, show fillItems allocator converter (some address) 0 (values.take length) _ = _
          from loop]
        rfl
      · exact .items rfl address items rfl final all
      · rw [pointers_of_lives rfl final]
        exact owned
      · exact fun other member => (later other member).trans (keeps other member)
      · rw [itemsOf_of_lives rfl final]
        exact refused
  · have nothing : given = (none, heap) := if_neg positive
    rw [nothing]
    have empty : length = 0 := Nat.eq_zero_of_not_pos (mt CArray.length_pos_iff.mp positive)
    rw [empty]
    have complete : missingTexts converter (values.take length) [] = [] :=
      congrArg List.flatten List.zipWith_nil_right
    exact .inr ⟨{ items := none, count := count }, heap, rfl, .nothing rfl rfl empty, owns,
      fun _ _ => rfl, (complete ▸ List.append_nil _).symm⟩

variable (allocator converter) in
theorem fillArrays_spec (lists : List (List α)) (owns : heap.Owns rest) :
    (fillArrays allocator converter lists heap = .error .nullAccess ∧
      ArrayRefused allocator converter lists heap) ∨
    ∃ arrays next, fillArrays allocator converter lists heap = .ok (arrays, next) ∧
      List.Forall₂ (Shows converter next) lists arrays ∧
      next.Owns (held next arrays ++ rest) ∧ KeepsOn rest heap next ∧
      next.refused = heap.refused ++ missing converter next lists arrays := by
  induction lists generalizing heap rest with
  | nil => exact .inr ⟨[], heap, rfl, .nil, owns, fun _ _ => rfl, (List.append_nil _).symm⟩
  | cons values lists ih =>
      rcases fillArray_spec allocator converter values owns with
        ⟨fault, nonempty, fails⟩ | ⟨array, middle, first, shows, owns', keeps, books⟩
      · refine .inl ⟨?_, .here nonempty fails⟩
        rw [fillArrays, fault]
        rfl
      rcases ih owns' with ⟨fault, fails⟩ | ⟨arrays, next, others, all, owned, later, books'⟩
      · refine .inl ⟨?_, .later first fails⟩
        rw [fillArrays, first]
        change (fillArrays allocator converter lists middle >>= _) = _
        rw [fault]
        rfl
      · have kept : KeepsOn (pointers middle array) middle next :=
          keepsOn_mono (List.subset_append_left _ _) later
        refine .inr ⟨array :: arrays, next, ?_, .cons (shows.of_keeps kept) all, ?_, ?_, ?_⟩
        · rw [fillArrays, first]
          change (fillArrays allocator converter lists middle >>= _) = _
          rw [others]
          rfl
        · rw [← pointers_eq_of_keeps kept] at owned
          rw [held_cons]
          refine owned.perm ?_
          rw [List.append_assoc, ← List.append_assoc, ← List.append_assoc]
          exact List.perm_append_comm.append_right rest
        · exact fun other member =>
            (later other (List.mem_append_right _ member)).trans (keeps other member)
        · rw [books', books, missing, itemsOf_eq_of_keeps kept, List.append_assoc]

end Fill

/-! ## Callbacks -/

/-- What a callback may do with a result. -/
inductive CallbackStep (δ : Type) where
  /-- Something with blocks that are not of the result -/
  | others (change : (Nat → Option (CBlock δ)) → Nat → Option (CBlock δ))
  /-- Free the text of one item, within the count -/
  | freeMessage (list index : Nat)
  /-- Free the whole result -/
  | freeResult

/-- The step that touches one of the arrays does so within its count. -/
def CallbackStep.run {δ : Type} (hasTexts : Bool) (step : CallbackStep δ) (arrays : List CArray)
    (heap : CHeap δ) : Except HeapFault (List CArray × CHeap δ) :=
  match step with
  | .others change => .ok (arrays, heap.outside (held heap arrays) change)
  | .freeMessage list index =>
      match arrays[list]? with
      | none => .ok (arrays, heap)
      | some array =>
          if index < array.length then
            (anychatFreeMessage array.items index heap).map (arrays, ·)
          else .ok (arrays, heap)
  | .freeResult => freeArrays hasTexts arrays heap

def runCallback {δ : Type} (hasTexts : Bool) :
    List (CallbackStep δ) → List CArray → CHeap δ → Except HeapFault (List CArray × CHeap δ)
  | [], arrays, heap => .ok (arrays, heap)
  | step :: steps, arrays, heap => do
      let (arrays, heap) ← step.run hasTexts arrays heap
      runCallback hasTexts steps arrays heap

/-- The result is in order, whatever part of it has been freed. -/
structure Stands {δ : Type} (hasTexts : Bool) (arrays : List CArray) (heap : CHeap δ) : Prop where
  shaped : ∀ array ∈ arrays, Shaped hasTexts heap array
  owns : heap.Owns (held heap arrays)

section Callback

variable {δ : Type} {hasTexts : Bool} {heap next : CHeap δ} {rest : List Nat} {array : CArray}
  {arrays : List CArray}

theorem exists_split {ι : Type} {items : List ι} {index : Nat} (inside : index < items.length) :
    ∃ done item later, items = done ++ item :: later ∧ done.length = index := by
  refine ⟨items.take index, items[index], items.drop (index + 1), ?_, ?_⟩
  · rw [List.getElem_cons_drop, List.take_append_drop]
  · rw [List.length_take, Nat.min_eq_left (Nat.le_of_lt inside)]

/-- A null pointer is freed as well. -/
theorem freePointer_spec {pointer : Option Nat} (owns : heap.Owns (pointer.toList ++ rest)) :
    ∃ next, heap.free pointer = .ok next ∧ next.Owns rest ∧ KeepsOn rest heap next := by
  cases pointer with
  | none => exact ⟨heap, rfl, owns, fun _ _ => rfl⟩
  | some address => exact owns.free

/-- A message is freed once: its pointer is null from then on. -/
theorem anychatFreeMessage_spec {index : Nat} (shaped : Shaped hasTexts heap array)
    (inside : index < array.length) (owns : heap.Owns (pointers heap array ++ rest)) :
    ∃ next, anychatFreeMessage array.items index heap = .ok next ∧
      Shaped hasTexts next array ∧ next.Owns (pointers next array ++ rest) ∧
      KeepsOn rest heap next := by
  cases shaped with
  | empty null short => omega
  | full address items starts lives length blank =>
      obtain ⟨done, item, later, rfl, rfl⟩ := exists_split (length ▸ inside)
      let cleared : CItem δ := { item with content := none }
      have content :
          CBlock.content done.length (.array (done ++ item :: later)) = item.content := by
        simp [CBlock.content, CBlock.items]
      have remaining : (done ++ cleared :: later).filterMap CItem.content =
          done.filterMap CItem.content ++ later.filterMap CItem.content :=
        List.filterMap_append
      have all : (done ++ item :: later).filterMap CItem.content =
          done.filterMap CItem.content ++
            (item.content.toList ++ later.filterMap CItem.content) := by
        rw [List.filterMap_append]
        cases points : item.content with
        | none => rw [List.filterMap_cons_none points]; rfl
        | some text => rw [List.filterMap_cons_some points]; rfl
      rw [pointers_of_lives starts lives] at owns
      have parted : heap.Owns (item.content.toList ++
          address :: ((done ++ cleared :: later).filterMap CItem.content ++ rest)) := by
        refine owns.perm ?_
        rw [remaining]
        change List.Perm _ (address :: ((done ++ item :: later).filterMap CItem.content ++ rest))
        rw [all]
        refine List.perm_middle.trans (List.Perm.cons address ?_)
        rw [← List.append_assoc]
        exact (List.perm_append_comm_assoc _ _ _).append_right rest
      rcases freePointer_spec parted with ⟨middle, freed, owns', keeps⟩
      have stands := (keeps address List.mem_cons_self).trans lives
      rcases owns'.store stands (.change done.length fun item => { item with content := none }) with
        ⟨next, written, owns'', final, others⟩
      rw [change_append] at final
      refine ⟨next, ?_, .full address _ starts final ?_ fun flat => ?_, ?_, fun other member => ?_⟩
      · rw [anychatFreeMessage, starts, Heap.load_of_blocks lives]
        change (heap.free (CBlock.content done.length (.array (done ++ item :: later))) >>= _) = _
        rw [content, freed]
        exact written
      · rw [← length, List.length_append, List.length_append]
        rfl
      · have none := blank flat
        rw [all, List.append_eq_nil_iff, List.append_eq_nil_iff] at none
        exact remaining.trans (List.append_eq_nil_iff.mpr ⟨none.1, none.2.2⟩)
      · rw [pointers_of_lives starts final]
        exact owns''
      · have different : other ≠ address := fun same =>
          (List.nodup_cons.mp owns'.nodup).1 (same ▸ List.mem_append_right _ member)
        exact (others other different).trans
          (keeps other (List.mem_cons_of_mem _ (List.mem_append_right _ member)))

theorem held_append (heap : CHeap δ) (before after : List CArray) :
    held heap (before ++ after) = held heap before ++ held heap after :=
  List.flatMap_append

theorem held_freed (heap : CHeap δ) (arrays : List CArray) :
    held heap (arrays.map fun _ => {}) = [] := by
  induction arrays with
  | nil => rfl
  | cons array arrays ih => exact ih

/-- One array is changed and the others are kept. -/
theorem Stands.freeMessage {before after : List CArray} {index : Nat}
    (stands : Stands hasTexts (before ++ array :: after) heap) (inside : index < array.length) :
    ∃ arrays' next, (anychatFreeMessage array.items index heap).map
        ((before ++ array :: after), ·) = .ok (arrays', next) ∧ Stands hasTexts arrays' next := by
  have among : array ∈ before ++ array :: after :=
    List.mem_append_right _ List.mem_cons_self
  have parted : (held heap (before ++ array :: after)).Perm
      (pointers heap array ++ held heap (before ++ after)) := by
    rw [held_append, held_append, held_cons]
    exact List.perm_append_comm_assoc _ _ _
  rcases anychatFreeMessage_spec (stands.shaped array among) inside (stands.owns.perm parted.symm)
    with ⟨next, freed, shaped, owns, keeps⟩
  refine ⟨before ++ array :: after, next, by rw [freed]; rfl, fun other member => ?_, ?_⟩
  · rcases List.mem_append.mp member with first | rest
    · exact (stands.shaped other member).of_keeps
        (keepsOn_pointers (List.mem_append_left after first) keeps)
    · rcases List.mem_cons.mp rest with rfl | last
      · exact shaped
      · exact (stands.shaped other member).of_keeps
          (keepsOn_pointers (List.mem_append_right before last) keeps)
  · rw [← held_eq_of_keeps keeps, held_append] at owns
    rw [held_append, held_cons]
    exact owns.perm (List.perm_append_comm_assoc _ _ _)

theorem Stands.step (stands : Stands hasTexts arrays heap) (step : CallbackStep δ) :
    ∃ arrays' next, step.run hasTexts arrays heap = .ok (arrays', next) ∧
      Stands hasTexts arrays' next := by
  cases step with
  | others change =>
      have keeps : KeepsOn (held heap arrays) heap (heap.outside (held heap arrays) change) :=
        Heap.keepsOn_outside change
      refine ⟨arrays, _, rfl, fun array member => ?_, ?_⟩
      · exact (stands.shaped array member).of_keeps (keepsOn_pointers member keeps)
      · rw [held_eq_of_keeps keeps]
        exact stands.owns.outside change
  | freeMessage list index =>
      rw [CallbackStep.run]
      cases found : arrays[list]? with
      | none => exact ⟨arrays, heap, rfl, stands⟩
      | some array =>
          by_cases inside : index < array.length
          · dsimp only
            rw [if_pos inside]
            obtain ⟨before, _, after, rfl, rfl⟩ :=
              exists_split (List.getElem?_eq_some_iff.mp found).1
            rw [List.getElem?_append_right le_rfl, Nat.sub_self] at found
            cases found
            exact stands.freeMessage inside
          · dsimp only
            rw [if_neg inside]
            exact ⟨arrays, heap, rfl, stands⟩
  | freeResult =>
      have owns : heap.Owns (held heap arrays ++ []) := by
        rw [List.append_nil]
        exact stands.owns
      rcases freeArrays_spec stands.shaped owns with ⟨next, done, owns', _⟩
      refine ⟨_, next, done, fun array member => ?_, ?_⟩
      · rcases List.mem_map.mp member with ⟨_, _, rfl⟩
        exact .empty rfl rfl
      · rw [held_freed]
        exact owns'

theorem Stands.run (stands : Stands hasTexts arrays heap) (steps : List (CallbackStep δ)) :
    ∃ arrays' next, runCallback hasTexts steps arrays heap = .ok (arrays', next) ∧
      Stands hasTexts arrays' next := by
  induction steps generalizing arrays heap with
  | nil => exact ⟨arrays, heap, rfl, stands⟩
  | cons step steps ih =>
      rcases stands.step step with ⟨arrays', middle, first, stands'⟩
      rcases ih stands' with ⟨last, next, others, stands''⟩
      refine ⟨last, next, ?_, stands''⟩
      rw [runCallback, first]
      exact others

end Callback

/-! ## Messages for listeners -/

/-- What a listener may do with a message, whose struct is not on the heap. -/
inductive MessageStep (δ : Type) where
  | others (change : (Nat → Option (CBlock δ)) → Nat → Option (CBlock δ))
  /-- `anychat_free_message` -/
  | freeMessage

section Listener

variable {δ : Type}

def MessageStep.run (step : MessageStep δ) (content : Option Nat) (heap : CHeap δ) :
    Except HeapFault (Option Nat × CHeap δ) :=
  match step with
  | .others change => .ok (content, heap.outside content.toList change)
  | .freeMessage => (heap.free content).map (none, ·)

def runListener : List (MessageStep δ) → Option Nat → CHeap δ →
    Except HeapFault (Option Nat × CHeap δ)
  | [], content, heap => .ok (content, heap)
  | step :: steps, content, heap => do
      let (content, heap) ← step.run content heap
      runListener steps content heap

/-- `onMessageReceived` of `CMessageListener` and its other functions with a message. -/
def onMessage (allocator : HeapAllocator (CBlock δ)) (src : Message)
    (listener : Option (List (MessageStep δ))) (heap : CHeap δ) : Except HeapFault (CHeap δ) :=
  match listener with
  | none => .ok heap
  | some steps => do
      let (content, heap) := anychatStrdupOnHeap allocator src.content heap
      let (content, heap) ← runListener steps content heap
      heap.free content

variable {heap : CHeap δ}

theorem runListener_spec (content : Option Nat) (owns : heap.Owns content.toList)
    (steps : List (MessageStep δ)) :
    ∃ content' next, runListener steps content heap = .ok (content', next) ∧
      next.Owns content'.toList := by
  induction steps generalizing heap content with
  | nil => exact ⟨content, heap, rfl, owns⟩
  | cons step steps ih =>
      cases step with
      | others change => exact ih content (owns.outside change)
      | freeMessage =>
          have parted : heap.Owns (content.toList ++ []) := by
            rw [List.append_nil]
            exact owns
          rcases freePointer_spec parted with ⟨middle, freed, owns', _⟩
          rcases ih none owns' with ⟨content', next, others, owns''⟩
          refine ⟨content', next, ?_, owns''⟩
          rw [runListener, MessageStep.run, freed]
          exact others

theorem onMessage_spec (allocator : HeapAllocator (CBlock δ)) (src : Message)
    (listener : Option (List (MessageStep δ))) (owns : heap.Owns []) :
    ∃ next, onMessage allocator src listener heap = .ok next ∧ next.Owns [] := by
  cases listener with
  | none => exact ⟨heap, rfl, owns⟩
  | some steps =>
      rcases anychatStrdupOnHeap_spec allocator owns src.content with
        ⟨content, copied, same, owns', _⟩
      rw [List.append_nil] at owns'
      rcases runListener_spec content owns' steps with ⟨content', returned, ran, owns''⟩
      rw [← List.append_nil content'.toList] at owns''
      rcases freePointer_spec owns'' with ⟨next, freed, owned, _⟩
      refine ⟨next, ?_, owned⟩
      unfold onMessage
      rw [same]
      change (runListener steps content copied >>= _) = _
      rw [ran]
      exact freed

end Listener

/-! ## Deliveries -/

/-- A result for a callback, which may be null. -/
structure Delivery (δ : Type) where
  {α : Type}
  converter : CConverter α δ
  lists : List (List α)
  callback : Option (List (CallbackStep δ))

/-- The results that go to callbacks as lists. -/
inductive ListResult where
  | messages (list : List Message)
  | markRead (acceptedIds ignoredIds : List String)
  | conversations (list : List Conversation)
  | friends (list : List Friend)
  | groups (list : List GroupRecord)
  | users (list : List UserInfo)

def ListResult.delivery (callback : Option (List (CallbackStep CStruct))) :
    ListResult → Delivery CStruct
  | messages list => ⟨messageConverter, [list], callback⟩
  | markRead acceptedIds ignoredIds => ⟨idConverter, [acceptedIds, ignoredIds], callback⟩
  | conversations list => ⟨convConverter, [list], callback⟩
  | friends list => ⟨friendConverter, [list], callback⟩
  | groups list => ⟨groupConverter, [list], callback⟩
  | users list => ⟨userConverter, [list], callback⟩

/-- What may happen to memory: the SDK calls the application, or others work on. -/
inductive MemoryEvent (δ : Type) where
  | result (delivery : Delivery δ)
  | message (src : Message) (listener : Option (List (MessageStep δ)))
  | others (change : (Nat → Option (CBlock δ)) → Nat → Option (CBlock δ))

section Deliver

variable {δ : Type} (allocator : HeapAllocator (CBlock δ))

/-- The lambda that a manager calls with a result. -/
def Delivery.onSuccess (delivery : Delivery δ) (heap : CHeap δ) : Except HeapFault (CHeap δ) :=
  match delivery.callback with
  | none => .ok heap
  | some steps => do
      let (arrays, heap) ← fillArrays allocator delivery.converter delivery.lists heap
      let (arrays, heap) ← runCallback delivery.converter.hasTexts steps arrays heap
      let (_, heap) ← freeArrays delivery.converter.hasTexts arrays heap
      .ok heap

def MemoryEvent.run (event : MemoryEvent δ) (heap : CHeap δ) : Except HeapFault (CHeap δ) :=
  match event with
  | .result delivery => delivery.onSuccess allocator heap
  | .message src listener => onMessage allocator src listener heap
  | .others change => .ok (heap.outside [] change)

def runEvents : List (MemoryEvent δ) → CHeap δ → Except HeapFault (CHeap δ)
  | [], heap => .ok heap
  | event :: events, heap => do
      let heap ← event.run allocator heap
      runEvents events heap

/-- A result is delivered, and one of its arrays finds no memory. -/
def MemoryEvent.RefusesArray (event : MemoryEvent δ) (heap : CHeap δ) : Prop :=
  match event with
  | .result delivery =>
      delivery.callback ≠ none ∧ ArrayRefused allocator delivery.converter delivery.lists heap
  | _ => False

/-- Memory is kept in order over a run. -/
structure KeepsOrder (events : List (MemoryEvent δ)) : Prop where
  /-- The one fault is the write to an array for which there was no memory. -/
  fault : ∀ fault, runEvents allocator events {} = .error fault →
    fault = .nullAccess ∧ ∃ before event after heap, events = before ++ event :: after ∧
      runEvents allocator before {} = .ok heap ∧ event.RefusesArray allocator heap
  /-- Each block has been freed once. -/
  balanced : ∀ heap, runEvents allocator events {} = .ok heap → heap.allocated.Perm heap.freed
  /-- A callback finds the values that the manager gave, and what was refused meanwhile are the
  copies that it misses. -/
  shown : ∀ heap, runEvents allocator events {} = .ok heap →
    ∀ {α : Type} (converter : CConverter α δ) (lists : List (List α)) (arrays : List CArray) next,
      fillArrays allocator converter lists heap = .ok (arrays, next) →
        List.Forall₂ (Shows converter next) lists arrays ∧
          next.refused = heap.refused ++ missing converter next lists arrays

variable {heap : CHeap δ}

theorem Shows.stands {α : Type} {converter : CConverter α δ}
    {lists : List (List α)} {arrays : List CArray}
    (shows : List.Forall₂ (Shows converter heap) lists arrays)
    (owns : heap.Owns (held heap arrays)) : Stands converter.hasTexts arrays heap where
  owns := owns
  shaped array member := by
    rcases List.mem_iff_getElem.mp member with ⟨index, inside, rfl⟩
    exact (shows.get (by rw [shows.length_eq]; exact inside) inside).shaped

/-- A delivery frees what it holds. -/
theorem Delivery.onSuccess_spec (delivery : Delivery δ) (owns : heap.Owns []) :
    (delivery.onSuccess allocator heap = .error .nullAccess ∧
      (MemoryEvent.result delivery).RefusesArray allocator heap) ∨
    ∃ next, delivery.onSuccess allocator heap = .ok next ∧ next.Owns [] := by
  rw [onSuccess, MemoryEvent.RefusesArray]
  cases delivery.callback with
  | none => exact .inr ⟨heap, rfl, owns⟩
  | some steps =>
      rcases fillArrays_spec allocator delivery.converter delivery.lists owns with
        ⟨fault, fails⟩ | ⟨arrays, filled, first, shows, owned, _⟩
      · refine .inl ⟨?_, Option.some_ne_none steps, fails⟩
        dsimp only
        rw [fault]
        rfl
      rw [List.append_nil] at owned
      rcases (Shows.stands shows owned).run steps with ⟨arrays', returned, ran, stands⟩
      have owns' : returned.Owns (held returned arrays' ++ []) := by
        rw [List.append_nil]
        exact stands.owns
      rcases freeArrays_spec stands.shaped owns' with ⟨next, done, owned', _⟩
      refine .inr ⟨next, ?_, owned'⟩
      dsimp only
      rw [first]
      change (runCallback delivery.converter.hasTexts steps arrays filled >>= _) = _
      rw [ran]
      change (freeArrays delivery.converter.hasTexts arrays' returned >>= _) = _
      rw [done]
      rfl

theorem runEvents_spec (events : List (MemoryEvent δ)) (owns : heap.Owns []) :
    (runEvents allocator events heap = .error .nullAccess ∧
      ∃ before event after reached, events = before ++ event :: after ∧
        runEvents allocator before heap = .ok reached ∧ event.RefusesArray allocator reached) ∨
    ∃ next, runEvents allocator events heap = .ok next ∧ next.Owns [] := by
  induction events generalizing heap with
  | nil => exact .inr ⟨heap, rfl, owns⟩
  | cons event events ih =>
      have stepped : (event.run allocator heap = .error .nullAccess ∧
          event.RefusesArray allocator heap) ∨
          ∃ next, event.run allocator heap = .ok next ∧ next.Owns [] := by
        cases event with
        | result delivery => exact delivery.onSuccess_spec allocator owns
        | message src listener => exact .inr (onMessage_spec allocator src listener owns)
        | others change => exact .inr ⟨_, rfl, owns.outside change⟩
      rw [runEvents]
      rcases stepped with ⟨fault, fails⟩ | ⟨middle, first, owns'⟩
      · refine .inl ⟨?_, [], event, events, heap, rfl, rfl, fails⟩
        rw [fault]
        rfl
      · rcases ih owns' with ⟨fault, before, last, after, reached, rfl, ran, fails⟩ | done
        · refine .inl ⟨?_, event :: before, last, after, reached, rfl, ?_, fails⟩
          · rw [first]
            exact fault
          · rw [runEvents, first]
            exact ran
        · rw [first]
          exact .inr done

/-- Whatever the application does with what it is given, and wherever memory runs out. -/
theorem keepsOrder (events : List (MemoryEvent δ)) : KeepsOrder allocator events := by
  have start : ({} : CHeap δ).Owns [] := ⟨List.nodup_nil, nofun, .nil⟩
  rcases runEvents_spec allocator events start with ⟨fault, fails⟩ | ⟨last, done, owns⟩
  · refine ⟨fun other same => ?_, fun heap same => ?_, fun heap same => ?_⟩
    · rw [fault] at same
      cases same
      exact ⟨rfl, fails⟩
    · rw [fault] at same
      cases same
    · rw [fault] at same
      cases same
  · refine ⟨fun fault same => ?_, fun heap same => ?_, fun heap same => ?_⟩
    · rw [done] at same
      cases same
    · rw [done] at same
      cases same
      exact owns.balanced
    · rw [done] at same
      cases same
      intro α converter lists arrays next filled
      rcases fillArrays_spec allocator converter lists owns with
        ⟨fault, _⟩ | ⟨arrays', next', first, shows, _, _, books⟩
      · rw [fault] at filled
        cases filled
      · rw [first] at filled
        cases filled
        exact ⟨shows, books⟩

/-- Memory without end. -/
def bumpAllocator (δ : Type) : HeapAllocator (CBlock δ) where
  choose turn blocks := if (blocks turn).isNone then some turn else none
  fresh := by
    intro turn blocks address chosen
    split at chosen
    · cases chosen
      exact Option.isNone_iff_eq_none.mp ‹_›
    · cases chosen

/-- A callback that frees the result itself leaves nothing to free. -/
example :
    (runEvents (bumpAllocator CStruct)
      [.result (ListResult.delivery (some [.freeResult]) (.markRead ["accepted"] ["ignored"]))]
      {}).map Heap.freed = .ok [1, 0, 3, 2] := by
  rfl

end Deliver

end AnychatSdk.CApi
