import Mathlib.Init

/-!
# Running a batch of writes again

A batch is a list of writes that run one after the other.  A second run changes
nothing for either of two reasons: the last write hides all before it, or the
first run settles every write, so that no later one has an effect.
-/

namespace Batch

universe u v

variable {σ : Type u} {ω : Type v}

def run (write : σ → ω → σ) (batch : List ω) (state : σ) : σ :=
  batch.foldl write state

/-- The write leaves every state alone. -/
def Idle (write : σ → ω → σ) (item : ω) : Prop :=
  ∀ state, write state item = state

/-- After the later write nothing is left of the earlier one. -/
def Hides (write : σ → ω → σ) (later earlier : ω) : Prop :=
  ∀ state, write (write state earlier) later = write state later

section Run

variable {write : σ → ω → σ}

@[simp]
theorem run_nil (state : σ) : run write [] state = state :=
  rfl

@[simp]
theorem run_cons (item : ω) (batch : List ω) (state : σ) :
    run write (item :: batch) state = run write batch (write state item) :=
  rfl

theorem run_append (first second : List ω) (state : σ) :
    run write (first ++ second) state = run write second (run write first state) :=
  List.foldl_append

/-- A part of the state on which each write has an effect of its own. -/
theorem view_run {τ : Type*} {ι : Type*} {view : σ → τ} {effect : τ → ι → τ} {name : ω → ι}
    {batch : List ω}
    (each : ∀ item ∈ batch, ∀ state, view (write state item) = effect (view state) (name item))
    (state : σ) : view (run write batch state) = run effect (batch.map name) (view state) := by
  induction batch generalizing state with
  | nil => rfl
  | cons item batch ih =>
      rw [run_cons, ih fun later member => each later (List.mem_cons_of_mem item member),
        each item List.mem_cons_self]
      rfl

/-- What every write of the batch keeps, the batch keeps. -/
theorem run_invariant {Invariant : σ → Prop} {batch : List ω}
    (kept : ∀ item ∈ batch, ∀ state, Invariant state → Invariant (write state item))
    {state : σ} (holds : Invariant state) : Invariant (run write batch state) := by
  induction batch generalizing state with
  | nil => exact holds
  | cons item batch ih =>
      exact ih (fun later member => kept later (List.mem_cons_of_mem item member))
        (kept item List.mem_cons_self state holds)

/-! ## The last write -/

theorem Hides.run {later : ω} {batch : List ω}
    (hides : ∀ earlier ∈ batch, Hides write later earlier) (state : σ) :
    write (run write batch state) later = write state later := by
  induction batch generalizing state with
  | nil => rfl
  | cons item batch ih =>
      rw [run_cons, ih fun earlier member => hides earlier (List.mem_cons_of_mem item member)]
      exact hides item List.mem_cons_self state

/-- When each write is idle or hides the batch, the batch does what its last write
does that is not idle. -/
theorem run_eq_last {batch : List ω}
    (each : ∀ item ∈ batch, Idle write item ∨ ∀ earlier ∈ batch, Hides write item earlier) :
    (∀ state, run write batch state = state) ∨
      ∃ last ∈ batch, (∀ earlier ∈ batch, Hides write last earlier) ∧
        ∀ state, run write batch state = write state last := by
  have suffix (done rest : List ω) (split : batch = done ++ rest) :
      (∀ state, run write rest state = state) ∨
        ∃ last ∈ rest, (∀ earlier ∈ batch, Hides write last earlier) ∧
          ∀ state, run write rest state = write state last := by
    induction rest generalizing done with
    | nil => exact .inl fun _ => rfl
    | cons item rest ih =>
        rcases ih (done ++ [item]) (by simp [split]) with idle | ⟨last, member, hides, eq_last⟩
        · have itemMem : item ∈ batch := split ▸ List.mem_append_right done List.mem_cons_self
          rcases each item itemMem with itemIdle | itemHides
          · exact .inl fun state => (idle _).trans (itemIdle state)
          · exact .inr ⟨item, List.mem_cons_self, itemHides, fun state => idle _⟩
        · refine .inr ⟨last, List.mem_cons_of_mem item member, hides, fun state => ?_⟩
          have itemMem : item ∈ batch := split ▸ List.mem_append_right done List.mem_cons_self
          exact (eq_last _).trans (hides item itemMem state)
  exact suffix [] batch rfl

/-- A second run ends with the write with which the first one ended. -/
theorem run_run_of_hides {batch : List ω}
    (each : ∀ item ∈ batch, Idle write item ∨ ∀ earlier ∈ batch, Hides write item earlier)
    (state : σ) : run write batch (run write batch state) = run write batch state := by
  rcases run_eq_last each with idle | ⟨last, member, hides, eq_last⟩
  · rw [idle, idle]
  · rw [eq_last, eq_last]
    exact hides last member state

/-! ## Settled writes -/

/-- A batch of settled writes has no effect. -/
theorem run_eq_self {batch : List ω} {state : σ}
    (settled : ∀ item ∈ batch, write state item = state) : run write batch state = state := by
  induction batch with
  | nil => rfl
  | cons item batch ih =>
      rw [run_cons, settled item List.mem_cons_self]
      exact ih fun later member => settled later (List.mem_cons_of_mem item member)

/-- Each write settles itself, and the others keep it settled. -/
theorem settled_run {Settled : σ → ω → Prop} {Fits : σ → Prop} {batch : List ω}
    (fits : ∀ item ∈ batch, ∀ state, Fits state → Fits (write state item))
    (settles : ∀ item ∈ batch, ∀ state, Fits state → Settled (write state item) item)
    (kept : ∀ item ∈ batch, ∀ other ∈ batch, ∀ state, Fits state → Settled state item →
      Settled (write state other) item)
    {state : σ} (initially : Fits state) :
    ∀ item ∈ batch, Settled (run write batch state) item := by
  have suffix (done rest : List ω) (split : batch = done ++ rest) (reached : σ)
      (fitting : Fits reached) (before : ∀ item ∈ done, Settled reached item) :
      ∀ item ∈ batch, Settled (run write rest reached) item := by
    induction rest generalizing done reached with
    | nil =>
        rw [List.append_nil] at split
        exact split ▸ before
    | cons next rest ih =>
        have nextMem : next ∈ batch := split ▸ List.mem_append_right done List.mem_cons_self
        refine ih (done ++ [next]) (by simp [split]) _ (fits next nextMem reached fitting) ?_
        intro item member
        rcases List.mem_append.mp member with earlier | newest
        · exact kept item (split ▸ List.mem_append_left _ earlier) next nextMem reached fitting
            (before item earlier)
        · obtain rfl := List.mem_singleton.mp newest
          exact settles item nextMem reached fitting
  exact suffix [] batch rfl state initially fun _ member => absurd member List.not_mem_nil

end Run

end Batch
