import AnychatSdk.Lib.EventRun

/-!
# Jobs behind one worker

A job is a program: it performs operations on a state, one at a time, and what an
operation replies decides how the job goes on.  A worker takes posted jobs in
turn and performs one operation at a time, while other threads go on posting.
Whatever they do in between, the worker goes through the serial history of the
jobs: their results, and the state whenever no job is under way, are those of
running the jobs one after another in the order in which they were posted.
-/

universe u v w x y z

/-- A program that performs operations `ω`, which reply with `β`, until it has a
result `ρ`. -/
inductive Program (ω : Type u) (β : Type v) (ρ : Type w) where
  | done (result : ρ)
  | perform (op : ω) (next : β → Program ω β ρ)

namespace Program

variable {σ : Type x} {ω : Type u} {β : Type v} {ρ : Type w} (apply : ω → σ → β × σ)

/-- Run a program to its end. -/
def run : Program ω β ρ → σ → ρ × σ
  | done result, state => (result, state)
  | perform op next, state => (next (apply op state).1).run (apply op state).2

/-- Go on with another program when this one is done. -/
def bind {ρ' : Type w} (program : Program ω β ρ) (next : ρ → Program ω β ρ') :
    Program ω β ρ' :=
  match program with
  | done result => next result
  | perform op more => .perform op fun reply => (more reply).bind next

/-- The turns a worker needs for a program. -/
def turns : Program ω β ρ → σ → Nat
  | done _, _ => 1
  | perform op next, state => (next (apply op state).1).turns (apply op state).2 + 1

@[simp]
theorem run_done (result : ρ) (state : σ) :
    (done result : Program ω β ρ).run apply state = (result, state) :=
  rfl

@[simp]
theorem run_perform (op : ω) (next : β → Program ω β ρ) (state : σ) :
    (perform op next).run apply state = (next (apply op state).1).run apply (apply op state).2 :=
  rfl

@[simp]
theorem run_bind {ρ' : Type w} (program : Program ω β ρ) (next : ρ → Program ω β ρ') (state : σ) :
    (program.bind next).run apply state =
      (next (program.run apply state).1).run apply (program.run apply state).2 := by
  induction program generalizing state with
  | done result => rfl
  | perform op more ih => exact ih _ _

/-- Run programs one after another: their results, and the state afterwards. -/
def serial : List (Program ω β ρ) → σ → List ρ × σ
  | [], state => ([], state)
  | job :: jobs, state =>
      let (result, state) := job.run apply state
      let (results, state) := serial jobs state
      (result :: results, state)

theorem length_fst_serial (jobs : List (Program ω β ρ)) (state : σ) :
    (serial apply jobs state).1.length = jobs.length := by
  induction jobs generalizing state with
  | nil => rfl
  | cons job jobs ih => exact congrArg (· + 1) (ih _)

theorem serial_concat (jobs : List (Program ω β ρ)) (job : Program ω β ρ) (state : σ) :
    serial apply (jobs ++ [job]) state =
      ((serial apply jobs state).1 ++ [(job.run apply (serial apply jobs state).2).1],
        (job.run apply (serial apply jobs state).2).2) := by
  induction jobs generalizing state with
  | nil => rfl
  | cons first jobs ih => simp only [List.cons_append, serial, ih]

/-- The turns a worker needs to take and finish programs one after another. -/
def serialTurns : List (Program ω β ρ) → σ → Nat
  | [], _ => 0
  | job :: jobs, state => job.turns apply state + 1 + serialTurns jobs (job.run apply state).2

end Program

/-- Whether the thread of the worker exists. -/
inductive WorkerPhase where
  | unstarted
  | running
  | exited
  deriving DecidableEq

/-- A worker with its state: the jobs that wait, the one under way, and the
results of the finished ones, oldest first. -/
structure JobWorker (σ : Type x) (ω : Type u) (β : Type v) (ρ : Type w) where
  state : σ
  waiting : List (Program ω β ρ) := []
  current : Option (Program ω β ρ) := none
  results : List ρ := []
  phase : WorkerPhase := .unstarted
  stopping : Bool := false

namespace JobWorker

variable {σ : Type x} {ω : Type u} {β : Type v} {ρ : Type w}

def start (worker : JobWorker σ ω β ρ) : JobWorker σ ω β ρ :=
  { worker with phase := .running }

/-- Append a job to the queue. -/
def post (job : Program ω β ρ) (worker : JobWorker σ ω β ρ) : JobWorker σ ω β ρ :=
  { worker with waiting := worker.waiting ++ [job] }

/-- Ask the worker to leave when the queue is empty. -/
def stop (worker : JobWorker σ ω β ρ) : JobWorker σ ω β ρ :=
  { worker with stopping := true }

/-- One turn of the worker: an operation or the end of the job under way, or else
the next job, or else the end if it was asked for. -/
def turn (apply : ω → σ → β × σ) (worker : JobWorker σ ω β ρ) : JobWorker σ ω β ρ :=
  match worker.phase, worker.current, worker.waiting with
  | .running, some (.done result), _ =>
      { worker with current := none, results := worker.results ++ [result] }
  | .running, some (.perform op next), _ =>
      { worker with
        state := (apply op worker.state).2
        current := some (next (apply op worker.state).1) }
  | .running, none, job :: jobs => { worker with waiting := jobs, current := some job }
  | .running, none, [] => if worker.stopping then { worker with phase := .exited } else worker
  | .unstarted, _, _ | .exited, _, _ => worker

variable {apply : ω → σ → β × σ}

section Turn

variable {worker : JobWorker σ ω β ρ}

theorem turn_of_not_running (idle : worker.phase ≠ .running) : worker.turn apply = worker := by
  rw [turn]
  split <;> simp_all

theorem turn_done (running : worker.phase = .running) {result : ρ}
    (current : worker.current = some (.done result)) :
    worker.turn apply =
      { worker with current := none, results := worker.results ++ [result] } := by
  rw [turn, running, current]

theorem turn_perform (running : worker.phase = .running) {op : ω} {next : β → Program ω β ρ}
    (current : worker.current = some (.perform op next)) :
    worker.turn apply =
      { worker with
        state := (apply op worker.state).2
        current := some (next (apply op worker.state).1) } := by
  rw [turn, running, current]

theorem turn_take (running : worker.phase = .running) (free : worker.current = none)
    {job : Program ω β ρ} {jobs : List (Program ω β ρ)} (waiting : worker.waiting = job :: jobs) :
    worker.turn apply = { worker with waiting := jobs, current := some job } := by
  rw [turn, running, free, waiting]

theorem turn_leave (running : worker.phase = .running) (free : worker.current = none)
    (none : worker.waiting = []) :
    worker.turn apply =
      if worker.stopping then { worker with phase := .exited } else worker := by
  rw [turn, running, free, none]

end Turn

/-- Another thread has posted jobs, or asked the worker to leave. -/
structure Posts (jobs : List (Program ω β ρ)) (before after : JobWorker σ ω β ρ) : Prop where
  state : after.state = before.state
  current : after.current = before.current
  results : after.results = before.results
  phase : after.phase = before.phase
  waiting : after.waiting = before.waiting ++ jobs

theorem posts_post (job : Program ω β ρ) (worker : JobWorker σ ω β ρ) :
    Posts [job] worker (worker.post job) :=
  ⟨rfl, rfl, rfl, rfl, rfl⟩

theorem posts_stop (worker : JobWorker σ ω β ρ) : Posts [] worker worker.stop :=
  ⟨rfl, rfl, rfl, rfl, (List.append_nil _).symm⟩

theorem posts_refl (worker : JobWorker σ ω β ρ) : Posts [] worker worker :=
  ⟨rfl, rfl, rfl, rfl, (List.append_nil _).symm⟩

/-- The jobs that are finished, under way or waiting. -/
def size (worker : JobWorker σ ω β ρ) : Nat :=
  worker.results.length + worker.current.toList.length + worker.waiting.length

section Size

variable {worker : JobWorker σ ω β ρ}

theorem length_results_le_size : worker.results.length ≤ worker.size :=
  Nat.le_trans (Nat.le_add_right _ _) (Nat.le_add_right _ _)

theorem size_posts {jobs : List (Program ω β ρ)} {after : JobWorker σ ω β ρ}
    (posts : Posts jobs worker after) : after.size = worker.size + jobs.length := by
  rw [size, size, posts.results, posts.current, posts.waiting, List.length_append,
    ← Nat.add_assoc]

theorem size_turn (apply : ω → σ → β × σ) (worker : JobWorker σ ω β ρ) :
    (worker.turn apply).size = worker.size := by
  by_cases running : worker.phase = .running
  · cases current : worker.current with
    | some rest =>
        cases rest with
        | perform op next =>
            rw [turn_perform running current, size, size, current]
            rfl
        | done result =>
            rw [turn_done running current, size, size, current]
            simp
    | none =>
        cases waiting : worker.waiting with
        | cons job jobs =>
            rw [turn_take running current waiting, size, size, current, waiting]
            simp only [Option.toList_some, Option.toList_none, List.length_cons, List.length_nil]
            omega
        | nil =>
            rw [turn_leave running current waiting]
            split <;> rfl
  · rw [turn_of_not_running running]

/-- The worker stays as it is or leaves. -/
theorem phase_turn (apply : ω → σ → β × σ) (worker : JobWorker σ ω β ρ) :
    (worker.turn apply).phase = worker.phase ∨
      worker.phase = .running ∧ (worker.turn apply).phase = .exited := by
  by_cases running : worker.phase = .running
  · cases current : worker.current with
    | some rest =>
        left
        cases rest with
        | perform op next => rw [turn_perform running current]
        | done result => rw [turn_done running current]
    | none =>
        cases waiting : worker.waiting with
        | cons job jobs =>
            left
            rw [turn_take running current waiting]
        | nil =>
            rw [turn_leave running current waiting]
            split
            · exact Or.inr ⟨running, rfl⟩
            · exact Or.inl rfl
  · rw [turn_of_not_running running]
    exact Or.inl rfl

/-- A worker leaves when everything is finished. -/
theorem length_results_of_leaves (running : worker.phase = .running)
    (exited : (worker.turn apply).phase = .exited) :
    (worker.turn apply).results.length = worker.size := by
  cases current : worker.current with
  | some rest =>
      cases rest with
      | perform op next =>
          rw [turn_perform running current] at exited
          exact absurd (running.symm.trans exited) (by decide)
      | done result =>
          rw [turn_done running current] at exited
          exact absurd (running.symm.trans exited) (by decide)
  | none =>
      cases waiting : worker.waiting with
      | cons job jobs =>
          rw [turn_take running current waiting] at exited
          exact absurd (running.symm.trans exited) (by decide)
      | nil =>
          rw [turn_leave running current waiting, size, current, waiting]
          split <;> rfl

end Size

/-! ## The serial history -/

/-- The worker has finished some jobs, has one of them under way or none, and
stands where the serial history has come by now. -/
structure History (apply : ω → σ → β × σ) (initial : σ) (finished : List (Program ω β ρ))
    (running : Option (Program ω β ρ)) (worker : JobWorker σ ω β ρ) : Prop where
  results : worker.results = (Program.serial apply finished initial).1
  free : running = none →
    worker.current = none ∧ worker.state = (Program.serial apply finished initial).2
  busy : ∀ job, running = some job → ∃ rest, worker.current = some rest ∧
    rest.run apply worker.state = job.run apply (Program.serial apply finished initial).2

/-- The posted jobs are those finished, that under way and those waiting. -/
def Follows (apply : ω → σ → β × σ) (initial : σ) (posted : List (Program ω β ρ))
    (worker : JobWorker σ ω β ρ) : Prop :=
  ∃ finished running, posted = finished ++ running.toList ++ worker.waiting ∧
    History apply initial finished running worker

section Follows

variable {initial : σ} {posted : List (Program ω β ρ)} {worker : JobWorker σ ω β ρ}

theorem History.length_results {finished : List (Program ω β ρ)}
    {running : Option (Program ω β ρ)} (history : History apply initial finished running worker) :
    worker.results.length = finished.length := by
  rw [history.results, Program.length_fst_serial]

theorem History.running_eq_none_iff {finished : List (Program ω β ρ)}
    {running : Option (Program ω β ρ)} (history : History apply initial finished running worker) :
    running = none ↔ worker.current = none := by
  constructor
  · intro none
    exact (history.free none).1
  · intro free
    cases running with
    | none => rfl
    | some job =>
        rcases history.busy job rfl with ⟨rest, current, _⟩
        exact absurd (current.symm.trans free) (Option.some_ne_none rest)

theorem follows_idle (state : σ) (phase : WorkerPhase) (stopping : Bool) :
    Follows apply state []
      ({ state := state, phase := phase, stopping := stopping } : JobWorker σ ω β ρ) :=
  ⟨[], none, rfl, rfl, fun _ => ⟨rfl, rfl⟩,
    fun job busy => absurd busy.symm (Option.some_ne_none job)⟩

theorem Follows.posts (follows : Follows apply initial posted worker)
    {jobs : List (Program ω β ρ)} {after : JobWorker σ ω β ρ} (posts : Posts jobs worker after) :
    Follows apply initial (posted ++ jobs) after := by
  rcases follows with ⟨finished, running, split, history⟩
  refine ⟨finished, running, ?_, ?_, ?_, ?_⟩
  · rw [split, posts.waiting, List.append_assoc]
  · rw [posts.results, history.results]
  · rw [posts.current, posts.state]
    exact history.free
  · rw [posts.current, posts.state]
    exact history.busy

theorem Follows.turn (follows : Follows apply initial posted worker) :
    Follows apply initial posted (worker.turn apply) := by
  by_cases phase : worker.phase = .running
  · rcases follows with ⟨finished, running, split, history⟩
    cases running with
    | none =>
        rcases history.free rfl with ⟨free, state⟩
        cases waiting : worker.waiting with
        | nil =>
            rw [turn_leave phase free waiting]
            refine ⟨finished, none, ?_, ?_⟩
            · split <;> rw [split, waiting]
            · split <;> exact ⟨history.results, history.free, history.busy⟩
        | cons job jobs =>
            rw [turn_take phase free waiting]
            refine ⟨finished, some job, ?_, history.results, ?_, ?_⟩
            · rw [split, waiting]
              simp
            · exact fun none => absurd none (Option.some_ne_none job)
            · intro other same
              obtain rfl := Option.some.inj same
              exact ⟨job, rfl, congrArg (job.run apply) state⟩
    | some job =>
        rcases history.busy job rfl with ⟨rest, current, runs⟩
        cases rest with
        | perform op next =>
            rw [turn_perform phase current]
            refine ⟨finished, some job, split, history.results, ?_, ?_⟩
            · exact fun none => absurd none (Option.some_ne_none job)
            · intro other same
              obtain rfl := Option.some.inj same
              exact ⟨_, rfl, runs⟩
        | done result =>
            rw [turn_done phase current]
            rw [Program.run_done] at runs
            refine ⟨finished ++ [job], none, ?_, ?_, ?_, ?_⟩
            · rw [split, Option.toList_none, List.append_nil]
              rfl
            · rw [Program.serial_concat, ← runs]
              exact congrArg (· ++ [result]) history.results
            · intro _
              rw [Program.serial_concat, ← runs]
              exact ⟨rfl, rfl⟩
            · exact fun other busy => absurd busy.symm (Option.some_ne_none other)
  · rw [turn_of_not_running phase]
    exact follows

theorem Follows.length_eq (follows : Follows apply initial posted worker) :
    posted.length = worker.size := by
  rcases follows with ⟨finished, running, split, history⟩
  have same : running.toList.length = worker.current.toList.length := by
    cases running with
    | none => rw [(history.free rfl).1]
    | some job =>
        rcases history.busy job rfl with ⟨rest, current, _⟩
        rw [current]
        rfl
  rw [split, List.length_append, List.length_append, size, history.length_results, same]

theorem Follows.length_results_le (follows : Follows apply initial posted worker) :
    worker.results.length ≤ posted.length := by
  rw [follows.length_eq]
  exact length_results_le_size

/-- The results are those of the first jobs in the serial history. -/
theorem Follows.results_eq (follows : Follows apply initial posted worker) :
    worker.results =
      (Program.serial apply (posted.take worker.results.length) initial).1 := by
  rcases follows with ⟨finished, running, split, history⟩
  rw [history.length_results, split, List.append_assoc, List.take_left, history.results]

/-- Between two jobs the state is that of the serial history. -/
theorem Follows.state_eq (follows : Follows apply initial posted worker)
    (free : worker.current = none) :
    worker.state = (Program.serial apply (posted.take worker.results.length) initial).2 := by
  rcases follows with ⟨finished, running, split, history⟩
  rw [history.length_results, split, List.append_assoc, List.take_left]
  exact (history.free (history.running_eq_none_iff.mpr free)).2

theorem Follows.current_eq_none (follows : Follows apply initial posted worker)
    (finished : worker.results.length = posted.length) : worker.current = none := by
  rcases follows with ⟨done, running, split, history⟩
  rw [history.length_results, split] at finished
  rw [← history.running_eq_none_iff]
  cases running with
  | none => rfl
  | some job => simp at finished

end Follows

/-! ## Turns that a job has to wait for -/

/-- The turns until `target` jobs are finished. -/
def turnsUntil (apply : ω → σ → β × σ) (target : Nat) (worker : JobWorker σ ω β ρ) : Nat :=
  match worker.current with
  | none =>
      Program.serialTurns apply (worker.waiting.take (target - worker.results.length))
        worker.state
  | some rest =>
      rest.turns apply worker.state +
        Program.serialTurns apply (worker.waiting.take (target - worker.results.length - 1))
          (rest.run apply worker.state).2

section Turns

variable {worker : JobWorker σ ω β ρ} {target : Nat}

/-- Jobs posted later do not delay the earlier ones. -/
theorem turnsUntil_posts (holds : target ≤ worker.size) {jobs : List (Program ω β ρ)}
    {after : JobWorker σ ω β ρ} (posts : Posts jobs worker after) :
    after.turnsUntil apply target = worker.turnsUntil apply target := by
  rw [size] at holds
  rw [turnsUntil, turnsUntil, posts.current, posts.results, posts.state, posts.waiting]
  cases current : worker.current with
  | none =>
      rw [current] at holds
      have enough : target - worker.results.length ≤ worker.waiting.length := by
        simp at holds
        omega
      simp only [List.take_append_of_le_length enough]
  | some rest =>
      rw [current] at holds
      have enough : target - worker.results.length - 1 ≤ worker.waiting.length := by
        simp at holds
        omega
      simp only [List.take_append_of_le_length enough]

/-- Every turn brings a job that is not finished nearer to its end. -/
theorem turnsUntil_turn (apply : ω → σ → β × σ) (holds : target ≤ worker.size)
    (running : worker.phase = .running) (unfinished : worker.results.length < target) :
    (worker.turn apply).turnsUntil apply target + 1 = worker.turnsUntil apply target := by
  rw [size] at holds
  cases current : worker.current with
  | some rest =>
      cases rest with
      | perform op next =>
          rw [turn_perform running current, turnsUntil, turnsUntil, current]
          simp only [Program.turns, Program.run_perform]
          omega
      | done result =>
          rw [turn_done running current, turnsUntil, turnsUntil, current]
          simp only [Program.turns, Program.run_done, List.length_append, List.length_singleton]
          rw [Nat.sub_sub, Nat.add_comm 1]
  | none =>
      cases waiting : worker.waiting with
      | nil =>
          rw [current, waiting] at holds
          simp at holds
          omega
      | cons job jobs =>
          rcases Nat.exists_eq_add_of_lt unfinished with ⟨more, target_eq⟩
          have left : target - worker.results.length = more + 1 := by omega
          rw [turn_take running current waiting, turnsUntil, turnsUntil, current, waiting]
          simp only [left, List.take_succ_cons, Program.serialTurns, Nat.add_sub_cancel]
          omega

/-- A turn keeps the results and may add one. -/
theorem results_turn (apply : ω → σ → β × σ) (worker : JobWorker σ ω β ρ) :
    ∃ more, (worker.turn apply).results = worker.results ++ more := by
  by_cases running : worker.phase = .running
  · cases current : worker.current with
    | some rest =>
        cases rest with
        | perform op next => exact ⟨[], by rw [turn_perform running current, List.append_nil]⟩
        | done result => exact ⟨[result], by rw [turn_done running current]⟩
    | none =>
        cases waiting : worker.waiting with
        | cons job jobs => exact ⟨[], by rw [turn_take running current waiting, List.append_nil]⟩
        | nil =>
            refine ⟨[], ?_⟩
            rw [turn_leave running current waiting, List.append_nil]
            split <;> rfl
  · exact ⟨[], by rw [turn_of_not_running running, List.append_nil]⟩

theorem length_results_le_turn (worker : JobWorker σ ω β ρ) :
    worker.results.length ≤ (worker.turn apply).results.length := by
  rcases results_turn apply worker with ⟨more, results⟩
  rw [results, List.length_append]
  exact Nat.le_add_right _ _

/-- The worker does not leave while a job is unfinished. -/
theorem running_turn (holds : target ≤ worker.size) (running : worker.phase = .running)
    (unfinished : worker.results.length < target) : (worker.turn apply).phase = .running := by
  cases current : worker.current with
  | some rest =>
      cases rest with
      | perform op next =>
          rw [turn_perform running current]
          exact running
      | done result =>
          rw [turn_done running current]
          exact running
  | none =>
      cases waiting : worker.waiting with
      | cons job jobs =>
          rw [turn_take running current waiting]
          exact running
      | nil =>
          rw [size, current, waiting] at holds
          exact absurd holds (Nat.not_le.mpr unfinished)

/-- A worker that nobody asked to leave stays. -/
theorem running_turn_of_not_stopping (running : worker.phase = .running)
    (wanted : worker.stopping = false) :
    (worker.turn apply).phase = .running ∧ (worker.turn apply).stopping = false := by
  cases current : worker.current with
  | some rest =>
      cases rest with
      | perform op next =>
          rw [turn_perform running current]
          exact ⟨running, wanted⟩
      | done result =>
          rw [turn_done running current]
          exact ⟨running, wanted⟩
  | none =>
      cases waiting : worker.waiting with
      | cons job jobs =>
          rw [turn_take running current waiting]
          exact ⟨running, wanted⟩
      | nil =>
          rw [turn_leave running current waiting, wanted, if_neg Bool.false_ne_true]
          exact ⟨running, wanted⟩

end Turns

/-! ## Systems with a worker -/

/-- A system hosts a worker if its steps are turns of the worker or posts of
other threads. -/
structure Hosts {τ : Type y} {ε : Type z} (apply : ω → σ → β × σ) (step : τ → ε → τ)
    (Invariant : τ → Prop) (view : τ → JobWorker σ ω β ρ) (turns : ε → Bool)
    (posted : τ → ε → List (Program ω β ρ)) : Prop where
  kept : ∀ state event, Invariant state → Invariant (step state event)
  turn : ∀ state event, Invariant state → turns event = true →
    view (step state event) = (view state).turn apply ∧ posted state event = []
  other : ∀ state event, Invariant state → turns event = false →
    Posts (posted state event) (view state) (view (step state event))

section Hosts

variable {τ : Type y} {ε : Type z} {step : τ → ε → τ} {Invariant : τ → Prop}
  {view : τ → JobWorker σ ω β ρ} {turns : ε → Bool} {posted : τ → ε → List (Program ω β ρ)}
  (hosts : Hosts apply step Invariant view turns posted)
include hosts

theorem Hosts.invariant_exec {state : τ} (invariant : Invariant state) (events : List ε) :
    Invariant (EventRun.exec step state events) :=
  EventRun.exec_invariant hosts.kept invariant events

/-- The worker follows the serial history of everything that is posted. -/
theorem Hosts.follows {initial : σ} {earlier : List (Program ω β ρ)} {state : τ}
    (invariant : Invariant state) (follows : Follows apply initial earlier (view state))
    (events : List ε) :
    Follows apply initial (earlier ++ EventRun.outputs step posted state events)
      (view (EventRun.exec step state events)) := by
  induction events generalizing earlier state with
  | nil =>
      rw [EventRun.outputs_nil, List.append_nil]
      exact follows
  | cons event events ih =>
      rw [EventRun.outputs_cons, ← List.append_assoc]
      refine ih (hosts.kept state event invariant) ?_
      cases isTurn : turns event with
      | true =>
          rcases hosts.turn state event invariant isTurn with ⟨turned, none⟩
          rw [turned, none, List.append_nil]
          exact follows.turn
      | false => exact follows.posts (hosts.other state event invariant isTurn)

/-- A worker that has left has finished everything that was posted before, if it
had not left yet. -/
theorem Hosts.le_length_of_exited {initial : σ} {earlier : List (Program ω β ρ)} {state : τ}
    (invariant : Invariant state) (follows : Follows apply initial earlier (view state))
    {target : Nat} (posts : target ≤ earlier.length)
    (present : (view state).phase = .exited → target ≤ (view state).results.length)
    {events : List ε} (exited : (view (EventRun.exec step state events)).phase = .exited) :
    target ≤ (view (EventRun.exec step state events)).results.length := by
  induction events generalizing earlier state with
  | nil => exact present exited
  | cons event events ih =>
      have next := hosts.kept state event invariant
      cases isTurn : turns event with
      | true =>
          rcases hosts.turn state event invariant isTurn with ⟨turned, _⟩
          refine ih next (turned ▸ follows.turn) posts ?_ exited
          rw [turned]
          intro leaves
          by_cases running : (view state).phase = .running
          · rw [length_results_of_leaves running leaves, ← follows.length_eq]
            exact posts
          · rw [turn_of_not_running running] at leaves ⊢
            exact present leaves
      | false =>
          have same := hosts.other state event invariant isTurn
          refine ih next (follows.posts same) ?_ ?_ exited
          · rw [List.length_append]
            exact Nat.le_add_right_of_le posts
          · rw [same.phase, same.results]
            exact present

theorem Hosts.length_results_le {state : τ} (invariant : Invariant state) (events : List ε) :
    (view state).results.length ≤ (view (EventRun.exec step state events)).results.length := by
  induction events generalizing state with
  | nil => exact Nat.le_refl _
  | cons event events ih =>
      refine Nat.le_trans ?_ (ih (hosts.kept state event invariant))
      cases isTurn : turns event with
      | true =>
          rw [(hosts.turn state event invariant isTurn).1]
          exact length_results_le_turn (view state)
      | false =>
          have same := (hosts.other state event invariant isTurn).results
          exact Nat.le_of_eq (congrArg List.length same).symm

/-- Once a system has made the turns that a job has to wait for, it is finished. -/
theorem Hosts.le_length_of_turns {target : Nat} {state : τ} (invariant : Invariant state)
    (running : (view state).phase = .running) (holds : target ≤ (view state).size)
    {events : List ε} (enough : (view state).turnsUntil apply target ≤ events.countP turns) :
    target ≤ (view (EventRun.exec step state events)).results.length := by
  induction events generalizing state with
  | nil =>
      by_contra unfinished
      have nearer := turnsUntil_turn apply holds running (Nat.not_le.mp unfinished)
      rw [List.countP_nil] at enough
      omega
  | cons event events ih =>
      by_cases finished : target ≤ (view state).results.length
      · exact Nat.le_trans finished (hosts.length_results_le invariant _)
      have unfinished := Nat.not_le.mp finished
      have next := hosts.kept state event invariant
      cases isTurn : turns event with
      | true =>
          rcases hosts.turn state event invariant isTurn with ⟨turned, _⟩
          have nearer := turnsUntil_turn apply holds running unfinished
          rw [List.countP_cons_of_pos isTurn] at enough
          refine ih next ?_ ?_ ?_
          · rw [turned]
            exact running_turn holds running unfinished
          · rw [turned]
            rw [size_turn]
            exact holds
          · rw [turned]
            omega
      | false =>
          have same := hosts.other state event invariant isTurn
          rw [List.countP_cons_of_neg (by rw [isTurn]; exact Bool.false_ne_true)] at enough
          refine ih next ?_ ?_ ?_
          · rw [same.phase]
            exact running
          · rw [size_posts same]
            exact Nat.le_add_right_of_le holds
          · rw [turnsUntil_posts holds same]
            exact enough

end Hosts

end JobWorker
