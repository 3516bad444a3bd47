import Mathlib.Data.List.Nodup
import Mathlib.Data.List.Perm.Basic
import Mathlib.Logic.Function.Basic

/-!
# A heap with a ledger

Blocks are allocated, read, changed and freed by address, and the heap keeps the
books of one of its users.  The allocator may fail at any time and may give out
any address at which nothing lives, also one that was freed before.  `Owns` says
that the user holds exactly what the books say; each operation comes with the
rule by which the holdings change.
-/

universe u

/-- An allocator sees the time and what lives where. -/
structure HeapAllocator (β : Type u) where
  choose : Nat → (Nat → Option β) → Option Nat
  fresh : ∀ {turn blocks address}, choose turn blocks = some address → blocks address = none

structure Heap (β : Type u) where
  blocks : Nat → Option β := fun _ => none
  turn : Nat := 0
  allocated : List Nat := []
  freed : List Nat := []
  /-- What there was no memory for -/
  refused : List β := []

inductive HeapFault where
  /-- Access through a null pointer -/
  | nullAccess
  /-- Access to a block that does not live -/
  | danglingAccess
  /-- Freeing a block that does not live -/
  | danglingFree
  deriving DecidableEq

namespace Heap

variable {β : Type u}

/-- A null pointer, or a new block. -/
def malloc (allocator : HeapAllocator β) (block : β) (heap : Heap β) : Option Nat × Heap β :=
  match allocator.choose heap.turn heap.blocks with
  | none =>
      (none, { heap with turn := heap.turn + 1, refused := heap.refused ++ [block] })
  | some address =>
      (some address,
        { blocks := Function.update heap.blocks address (some block)
          turn := heap.turn + 1
          allocated := heap.allocated ++ [address]
          freed := heap.freed
          refused := heap.refused })

/-- A null pointer may be freed. -/
def free (pointer : Option Nat) (heap : Heap β) : Except HeapFault (Heap β) :=
  match pointer with
  | none => .ok heap
  | some address =>
      match heap.blocks address with
      | none => .error .danglingFree
      | some _ =>
          .ok
            { heap with
              blocks := Function.update heap.blocks address none
              freed := heap.freed ++ [address] }

def load (pointer : Option Nat) (heap : Heap β) : Except HeapFault β :=
  match pointer with
  | none => .error .nullAccess
  | some address =>
      match heap.blocks address with
      | none => .error .danglingAccess
      | some block => .ok block

/-- Change a block in place. -/
def store (pointer : Option Nat) (change : β → β) (heap : Heap β) : Except HeapFault (Heap β) :=
  match pointer with
  | none => .error .nullAccess
  | some address =>
      match heap.blocks address with
      | none => .error .danglingAccess
      | some block =>
          .ok { heap with blocks := Function.update heap.blocks address (some (change block)) }

/-- Others change what they like, but for some blocks. -/
def outside (held : List Nat) (change : (Nat → Option β) → Nat → Option β) (heap : Heap β) :
    Heap β :=
  { heap with
    blocks := fun address =>
      if address ∈ held then heap.blocks address else change heap.blocks address }

/-! ## What is refused -/

/-- A null pointer goes with an entry in the books. -/
theorem refused_malloc (allocator : HeapAllocator β) (block : β) (heap : Heap β) :
    (heap.malloc allocator block).2.refused =
      heap.refused ++ if (heap.malloc allocator block).1.isNone then [block] else [] := by
  rw [malloc]
  cases allocator.choose heap.turn heap.blocks with
  | none => rfl
  | some address => exact (List.append_nil _).symm

theorem refused_of_store {heap next : Heap β} {pointer : Option Nat} {change : β → β}
    (stored : heap.store pointer change = .ok next) : next.refused = heap.refused := by
  cases pointer with
  | none => cases stored
  | some address =>
      rw [store] at stored
      split at stored
      · cases stored
      · cases stored
        rfl

/-! ## Ownership -/

/-- What is held has been allocated and not freed since, and lives. -/
structure Owns (heap : Heap β) (held : List Nat) : Prop where
  nodup : held.Nodup
  live : ∀ address ∈ held, ∃ block, heap.blocks address = some block
  ledger : heap.allocated.Perm (heap.freed ++ held)

/-- Some blocks are as they were. -/
def KeepsOn (held : List Nat) (heap next : Heap β) : Prop :=
  ∀ address ∈ held, next.blocks address = heap.blocks address

variable {heap : Heap β} {held : List Nat} {address : Nat}

theorem Owns.perm (owns : heap.Owns held) {other : List Nat} (perm : other.Perm held) :
    heap.Owns other :=
  ⟨perm.nodup_iff.mpr owns.nodup, fun address member => owns.live address (perm.mem_iff.mp member),
    owns.ledger.trans (perm.symm.append_left heap.freed)⟩

/-- Allocation gives a null pointer or one more block, and touches no other. -/
theorem Owns.malloc (owns : heap.Owns held) (allocator : HeapAllocator β) (block : β) :
    (allocator.choose heap.turn heap.blocks = none ∧ (heap.malloc allocator block).1 = none ∧
      (heap.malloc allocator block).2.Owns held ∧
      KeepsOn held heap (heap.malloc allocator block).2) ∨
    ∃ address, (heap.malloc allocator block).1 = some address ∧
      (heap.malloc allocator block).2.Owns (address :: held) ∧
      (heap.malloc allocator block).2.blocks address = some block ∧
      KeepsOn held heap (heap.malloc allocator block).2 := by
  rw [Heap.malloc]
  cases chosen : allocator.choose heap.turn heap.blocks with
  | none => exact .inl ⟨rfl, rfl, ⟨owns.nodup, owns.live, owns.ledger⟩, fun _ _ => rfl⟩
  | some address =>
      have apart : ∀ other ∈ held, other ≠ address := by
        rintro other member rfl
        rcases owns.live other member with ⟨old, lives⟩
        exact absurd (allocator.fresh chosen) (lives ▸ nofun)
      have keeps : KeepsOn held heap
          { blocks := Function.update heap.blocks address (some block), turn := heap.turn + 1,
            allocated := heap.allocated ++ [address], freed := heap.freed,
            refused := heap.refused } :=
        fun other member => Function.update_of_ne (apart other member) _ _
      refine .inr ⟨address, rfl, ⟨?_, ?_, ?_⟩, Function.update_self .., keeps⟩
      · exact List.nodup_cons.mpr ⟨fun member => apart address member rfl, owns.nodup⟩
      · intro other member
        rcases List.mem_cons.mp member with rfl | before
        · exact ⟨block, Function.update_self ..⟩
        · rcases owns.live other before with ⟨old, lives⟩
          exact ⟨old, (keeps other before).trans lives⟩
      · refine (owns.ledger.append_right [address]).trans ?_
        rw [List.append_assoc]
        exact (List.perm_append_singleton address held).append_left heap.freed

/-- What is held can be freed. -/
theorem Owns.free (owns : heap.Owns (address :: held)) :
    ∃ next, heap.free (some address) = .ok next ∧ next.Owns held ∧ KeepsOn held heap next := by
  rcases owns.live address List.mem_cons_self with ⟨block, lives⟩
  rcases List.nodup_cons.mp owns.nodup with ⟨apart, nodup⟩
  have keeps : KeepsOn held heap
      { heap with
        blocks := Function.update heap.blocks address none
        freed := heap.freed ++ [address] } :=
    fun other member => Function.update_of_ne (ne_of_mem_of_not_mem member apart) _ _
  refine ⟨_, ?_, ⟨nodup, fun other member => ?_, ?_⟩, keeps⟩
  · rw [Heap.free, lives]
  · rcases owns.live other (List.mem_cons_of_mem _ member) with ⟨old, lived⟩
    exact ⟨old, (keeps other member).trans lived⟩
  · refine owns.ledger.trans (.of_eq ?_)
    rw [List.append_assoc]
    rfl

theorem load_of_blocks {block : β} (lives : heap.blocks address = some block) :
    heap.load (some address) = .ok block := by
  rw [load, lives]

/-- What is held can be changed, and stays held. -/
theorem Owns.store (owns : heap.Owns held) {block : β} (lives : heap.blocks address = some block)
    (change : β → β) :
    ∃ next, heap.store (some address) change = .ok next ∧ next.Owns held ∧
      next.blocks address = some (change block) ∧
      ∀ other ≠ address, next.blocks other = heap.blocks other := by
  refine ⟨{ heap with blocks := Function.update heap.blocks address (some (change block)) },
    by rw [Heap.store, lives], ⟨owns.nodup, fun other member => ?_, owns.ledger⟩,
    Function.update_self .., fun other different => Function.update_of_ne different _ _⟩
  by_cases same : other = address
  · subst same
    exact ⟨change block, Function.update_self ..⟩
  · rcases owns.live other member with ⟨old, lived⟩
    exact ⟨old, (Function.update_of_ne same _ _).trans lived⟩

theorem keepsOn_outside (change : (Nat → Option β) → Nat → Option β) :
    KeepsOn held heap (heap.outside held change) :=
  fun _ member => if_pos member

theorem Owns.outside (owns : heap.Owns held) (change : (Nat → Option β) → Nat → Option β) :
    (heap.outside held change).Owns held := by
  refine ⟨owns.nodup, fun address member => ?_, owns.ledger⟩
  rcases owns.live address member with ⟨block, lives⟩
  exact ⟨block, (keepsOn_outside change address member).trans lives⟩

/-- Who holds nothing any more has freed all that he has allocated. -/
theorem Owns.balanced (owns : heap.Owns []) : heap.allocated.Perm heap.freed := by
  simpa using owns.ledger

end Heap
