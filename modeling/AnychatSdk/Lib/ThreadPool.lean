import Mathlib.Logic.Function.Basic

/-!
# Threads that run lists of operations

A pool is a shared state together with what every thread has left to do.  One
step lets one thread perform its next operation, which may be blocked, may
replace what the thread has left, and may start another thread.

The rule of this module splits an invariant into a condition on the shared state
and one on each thread's own list, so that a step has to be checked for the
operation performed only.
-/

universe u v w

/-- Threads `ι` over a shared state `σ` with operations `ω`. -/
structure ThreadPool (ι : Type u) (σ : Type v) (ω : Type w) where
  shared : σ
  todo : ι → List ω

namespace ThreadPool

variable {ι : Type u} {σ : Type v} {ω : Type w}

/-- What an operation does: the shared state it leaves, what its thread does
next, and the thread it starts. -/
structure Effect (ι : Type u) (σ : Type v) (ω : Type w) where
  shared : σ
  rest : List ω
  spawn : Option (ι × List ω) := none

/-- An operation, in front of the rest of its thread; `none` when it is blocked. -/
abbrev Semantics (ι : Type u) (σ : Type v) (ω : Type w) : Type (max u v w) :=
  ι → ω → List ω → ThreadPool ι σ ω → Option (Effect ι σ ω)

variable [DecidableEq ι]

/-- Give a thread a new list. -/
def assign (thread : ι) (ops : List ω) (pool : ThreadPool ι σ ω) : ThreadPool ι σ ω :=
  { pool with todo := Function.update pool.todo thread ops }

def commit (thread : ι) (effect : Effect ι σ ω) (pool : ThreadPool ι σ ω) :
    ThreadPool ι σ ω :=
  let pool := { pool with shared := effect.shared }.assign thread effect.rest
  match effect.spawn with
  | none => pool
  | some (other, ops) => pool.assign other ops

/-- One thread performs its next operation, if it has one that is not blocked. -/
def step (semantics : Semantics ι σ ω) (thread : ι) (pool : ThreadPool ι σ ω) :
    ThreadPool ι σ ω :=
  match pool.todo thread with
  | [] => pool
  | op :: rest =>
      match semantics thread op rest pool with
      | none => pool
      | some effect => pool.commit thread effect

section Assign

variable (thread : ι) (ops : List ω) (pool : ThreadPool ι σ ω)

@[simp]
theorem shared_assign : (pool.assign thread ops).shared = pool.shared :=
  rfl

@[simp]
theorem todo_assign_self : (pool.assign thread ops).todo thread = ops :=
  Function.update_self ..

theorem todo_assign_of_ne {other : ι} (different : other ≠ thread) :
    (pool.assign thread ops).todo other = pool.todo other :=
  Function.update_of_ne different ..

@[simp]
theorem shared_commit (effect : Effect ι σ ω) :
    (pool.commit thread effect).shared = effect.shared := by
  rw [commit]
  cases effect.spawn <;> rfl

theorem todo_commit_self {effect : Effect ι σ ω} (alone : effect.spawn = none) :
    (pool.commit thread effect).todo thread = effect.rest := by
  rw [commit, alone]
  exact todo_assign_self ..

theorem todo_commit_of_ne {effect : Effect ι σ ω} (alone : effect.spawn = none) {other : ι}
    (different : other ≠ thread) :
    (pool.commit thread effect).todo other = pool.todo other := by
  rw [commit, alone]
  exact todo_assign_of_ne _ _ _ different

theorem todo_commit_spawned {effect : Effect ι σ ω} {other : ι} {started : List ω}
    (spawn : effect.spawn = some (other, started)) :
    (pool.commit thread effect).todo other = started := by
  rw [commit, spawn]
  exact todo_assign_self ..

theorem todo_commit_of_ne_spawned {effect : Effect ι σ ω} {other : ι} {started : List ω}
    (spawn : effect.spawn = some (other, started)) {third : ι} (different : third ≠ other) :
    (pool.commit thread effect).todo third =
      if third = thread then effect.rest else pool.todo third := by
  rw [commit, spawn]
  refine (todo_assign_of_ne _ _ _ different).trans ?_
  split
  · next same => rw [same, todo_assign_self]
  · next apart => exact todo_assign_of_ne _ _ _ apart

end Assign

/-- A step does nothing, or commits what the next operation of the thread does. -/
theorem step_eq_or_commit (semantics : Semantics ι σ ω) (thread : ι) (pool : ThreadPool ι σ ω) :
    pool.step semantics thread = pool ∨
      ∃ op rest effect, pool.todo thread = op :: rest ∧
        semantics thread op rest pool = some effect ∧
          pool.step semantics thread = pool.commit thread effect := by
  rw [step]
  cases todo : pool.todo thread with
  | nil => exact .inl rfl
  | cons op rest =>
      dsimp only
      cases result : semantics thread op rest pool with
      | none => exact .inl rfl
      | some effect => exact .inr ⟨op, rest, effect, rfl, result, rfl⟩

theorem step_of_some {semantics : Semantics ι σ ω} {thread : ι} {pool : ThreadPool ι σ ω} {op : ω}
    {rest : List ω} {effect : Effect ι σ ω} (todo : pool.todo thread = op :: rest)
    (result : semantics thread op rest pool = some effect) :
    pool.step semantics thread = pool.commit thread effect := by
  rw [step, todo]
  dsimp only
  rw [result]

/-- A condition on the shared state, and one on what each thread has left. -/
structure Satisfies (Shared : σ → Prop) (Local : ι → List ω → Prop) (pool : ThreadPool ι σ ω) :
    Prop where
  shared : Shared pool.shared
  todo : ∀ thread, Local thread (pool.todo thread)

section Satisfies

variable {Shared : σ → Prop} {Local : ι → List ω → Prop} {pool : ThreadPool ι σ ω}

theorem Satisfies.assign (satisfies : pool.Satisfies Shared Local) {thread : ι} {ops : List ω}
    (given : Local thread ops) : (pool.assign thread ops).Satisfies Shared Local where
  shared := satisfies.shared
  todo other := by
    by_cases same : other = thread
    · rw [same, todo_assign_self]
      exact given
    · rw [todo_assign_of_ne _ _ _ same]
      exact satisfies.todo other

omit [DecidableEq ι] in
theorem Satisfies.withShared (satisfies : pool.Satisfies Shared Local) {shared : σ}
    (given : Shared shared) : { pool with shared := shared }.Satisfies Shared Local :=
  ⟨given, satisfies.todo⟩

/-- A step keeps the conditions if the operation performed does, for the shared
state, its own thread and a thread it starts. -/
theorem Satisfies.step {semantics : Semantics ι σ ω} (satisfies : pool.Satisfies Shared Local)
    {thread : ι}
    (performed : ∀ op rest effect, pool.todo thread = op :: rest →
      semantics thread op rest pool = some effect →
        Shared effect.shared ∧ Local thread effect.rest ∧
          ∀ other ops, effect.spawn = some (other, ops) → Local other ops) :
    (pool.step semantics thread).Satisfies Shared Local := by
  rcases step_eq_or_commit semantics thread pool with idle | moves
  · rw [idle]
    exact satisfies
  · rcases moves with ⟨op, rest, effect, todo, result, step⟩
    rcases performed op rest effect todo result with ⟨shared, own, spawned⟩
    have resumed := (satisfies.withShared shared).assign own
    rw [step, commit]
    split
    · exact resumed
    · next other ops spawn => exact resumed.assign (spawned other ops spawn)

end Satisfies

end ThreadPool
