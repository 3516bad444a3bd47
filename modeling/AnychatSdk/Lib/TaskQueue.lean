import Mathlib.Data.List.Basic
import Mathlib.Logic.Function.Iterate

/-!
# State behind a first-in first-out worker

A worker owns a state and runs queued tasks on it in the order they were
posted.  Callers either post and go on, or post and wait for their task.  The
*drained* state is what the worker will have produced once it has caught up; it
does not depend on when the worker runs, so it is the view in which callers can
be reasoned about sequentially.
-/

universe u v

/-- A state and the tasks still waiting for it, oldest first. -/
structure TaskQueue (σ : Type u) (τ : Type v) where
  state : σ
  pending : List τ

namespace TaskQueue

variable {σ : Type u} {τ : Type v} (run : τ → σ → σ)

/-- A worker that has caught up. -/
def idle (state : σ) : TaskQueue σ τ :=
  ⟨state, []⟩

/-- Append a task and return at once. -/
def post (task : τ) (queue : TaskQueue σ τ) : TaskQueue σ τ :=
  { queue with pending := queue.pending ++ [task] }

/-- The worker runs the oldest waiting task, if there is one. -/
def work (queue : TaskQueue σ τ) : TaskQueue σ τ :=
  match queue.pending with
  | [] => queue
  | task :: rest => ⟨run task queue.state, rest⟩

/-- The state once every waiting task has run. -/
def drained (queue : TaskQueue σ τ) : σ :=
  queue.pending.foldl (fun state task => run task state) queue.state

/-- Append a task and wait until it has run. -/
def sync (task : τ) (queue : TaskQueue σ τ) : TaskQueue σ τ :=
  idle (run task (queue.drained run))

/-- Wait until every task posted so far has run. -/
def flush (queue : TaskQueue σ τ) : TaskQueue σ τ :=
  idle (queue.drained run)

@[simp]
theorem drained_idle (state : σ) : (idle state : TaskQueue σ τ).drained run = state :=
  rfl

@[simp]
theorem drained_post (task : τ) (queue : TaskQueue σ τ) :
    (queue.post task).drained run = run task (queue.drained run) := by
  simp [drained, post]

@[simp]
theorem drained_sync (task : τ) (queue : TaskQueue σ τ) :
    (queue.sync run task).drained run = run task (queue.drained run) :=
  rfl

@[simp]
theorem drained_flush (queue : TaskQueue σ τ) :
    (queue.flush run).drained run = queue.drained run :=
  rfl

/-- The worker's progress is invisible in the drained state. -/
@[simp]
theorem drained_work (queue : TaskQueue σ τ) :
    (queue.work run).drained run = queue.drained run := by
  rcases queue with ⟨state, pending⟩
  cases pending <;> rfl

theorem drained_eq_state_of_pending_eq_nil {queue : TaskQueue σ τ} (caughtUp : queue.pending = []) :
    queue.drained run = queue.state := by
  rw [drained, caughtUp]
  rfl

/-- The state once the first `count` waiting tasks have run. -/
def stateAfter (count : Nat) (queue : TaskQueue σ τ) : σ :=
  (queue.pending.take count).foldl (fun state task => run task state) queue.state

@[simp]
theorem stateAfter_zero (queue : TaskQueue σ τ) : queue.stateAfter run 0 = queue.state :=
  rfl

@[simp]
theorem stateAfter_length (queue : TaskQueue σ τ) :
    queue.stateAfter run queue.pending.length = queue.drained run := by
  rw [stateAfter, List.take_length, drained]

/-- Tasks posted later do not change what the earlier ones produce. -/
theorem stateAfter_of_append {count : Nat} {queue later : TaskQueue σ τ} {tasks : List τ}
    (sameState : later.state = queue.state) (appended : later.pending = queue.pending ++ tasks)
    (le : count ≤ queue.pending.length) :
    later.stateAfter run count = queue.stateAfter run count := by
  rw [stateAfter, sameState, appended, List.take_append_of_le_length le, stateAfter]

/-- Beyond the waiting tasks there is nothing left to run. -/
theorem stateAfter_of_length_le {count : Nat} {queue : TaskQueue σ τ}
    (le : queue.pending.length ≤ count) : queue.stateAfter run count = queue.drained run := by
  rw [stateAfter, List.take_of_length_le le, drained]

/-- Of tasks posted later, those within reach run after all earlier ones. -/
theorem stateAfter_of_append_of_le {count : Nat} {queue later : TaskQueue σ τ} {tasks : List τ}
    (sameState : later.state = queue.state) (appended : later.pending = queue.pending ++ tasks)
    (le : queue.pending.length ≤ count) :
    later.stateAfter run count =
      (tasks.take (count - queue.pending.length)).foldl (fun state task => run task state)
        (queue.drained run) := by
  rw [stateAfter, sameState, appended, List.take_append, List.take_of_length_le le,
    List.foldl_append, drained]

theorem stateAfter_idle (count : Nat) (state : σ) :
    (idle state : TaskQueue σ τ).stateAfter run count = state := by
  rw [stateAfter, idle, List.take_nil]
  rfl

theorem stateAfter_work (count : Nat) (queue : TaskQueue σ τ) :
    (queue.work run).stateAfter run count = queue.stateAfter run (count + 1) := by
  rcases queue with ⟨state, pending⟩
  cases pending with
  | nil => exact stateAfter_idle run count state
  | cons task rest => rfl

theorem length_pending_work (queue : TaskQueue σ τ) :
    (queue.work run).pending.length = queue.pending.length - 1 := by
  rcases queue with ⟨state, pending⟩
  cases pending <;> rfl

/-- As many worker steps as there are waiting tasks reach the drained state. -/
theorem iterate_work_length (queue : TaskQueue σ τ) :
    (work run)^[queue.pending.length] queue = queue.flush run := by
  rcases queue with ⟨state, pending⟩
  induction pending generalizing state with
  | nil => rfl
  | cons task rest ih =>
      rw [List.length_cons, Function.iterate_succ_apply]
      exact ih (run task state)

/-- Waiting for a task is posting it and letting the worker catch up. -/
theorem sync_eq_iterate_work (task : τ) (queue : TaskQueue σ τ) :
    queue.sync run task = (work run)^[queue.pending.length + 1] (queue.post task) := by
  have caughtUp := iterate_work_length run (queue.post task)
  have length_eq : (queue.post task).pending.length = queue.pending.length + 1 := by
    simp [post]
  rw [length_eq] at caughtUp
  rw [caughtUp, flush, drained_post]
  rfl

end TaskQueue
