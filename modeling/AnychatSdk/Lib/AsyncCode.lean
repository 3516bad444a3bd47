import AnychatSdk.Lib.EventRun

/-!
# Code that asks and goes on with the answers

An operation with a completion callback is code that may send requests.  Each
request comes with a handler, which is code of the same kind and runs when the
answer arrives.  Nothing in the form of the code keeps it from completing twice
or never; `CompletesWithin` is the syntactic condition under which it completes
exactly once in every run.
-/

universe u v w x y

/-- Code over a shared state `σ` that sends requests `θ`, is answered with `φ`,
tells its owner `ε` on the way and completes with `ρ`. -/
inductive AsyncCode (σ : Type u) (θ : Type v) (φ : Type w) (ε : Type x) (ρ : Type y) where
  | stop
  | complete (outcome : ρ) (rest : AsyncCode σ θ φ ε ρ)
  | emit (output : ε) (rest : AsyncCode σ θ φ ε ρ)
  | act (change : σ → σ) (next : σ → AsyncCode σ θ φ ε ρ)
  | ask (request : θ) (handler : φ → AsyncCode σ θ φ ε ρ) (rest : AsyncCode σ θ φ ε ρ)

/-- What is seen of an operation from outside. -/
inductive AsyncLogEntry (θ : Type v) (φ : Type w) (ε : Type x) (ρ : Type y) where
  | asked (request : θ)
  | answered (answer : φ)
  | emitted (output : ε)
  | completed (outcome : ρ)

/-- An operation under way: the shared state, the handlers of the requests that
are not answered yet, and what was seen so far. -/
structure AsyncRun (σ : Type u) (θ : Type v) (φ : Type w) (ε : Type x) (ρ : Type y) where
  state : σ
  pending : List (φ → AsyncCode σ θ φ ε ρ) := []
  log : List (AsyncLogEntry θ φ ε ρ) := []

/-- One of the open requests is answered, or somebody else changes the state. -/
inductive AsyncEvent (σ : Type u) (φ : Type w) where
  | answer (index : Nat) (answer : φ)
  | other (change : σ → σ)

section Semantics

variable {σ : Type u} {θ : Type v} {φ : Type w} {ε : Type x} {ρ : Type y}

/-- Run code to its end. -/
def AsyncCode.run : AsyncCode σ θ φ ε ρ → AsyncRun σ θ φ ε ρ → AsyncRun σ θ φ ε ρ
  | stop, operation => operation
  | complete outcome rest, operation =>
      rest.run { operation with log := operation.log ++ [.completed outcome] }
  | emit output rest, operation =>
      rest.run { operation with log := operation.log ++ [.emitted output] }
  | act change next, operation =>
      (next operation.state).run { operation with state := change operation.state }
  | ask request handler rest, operation =>
      rest.run
        { operation with
          pending := operation.pending ++ [handler]
          log := operation.log ++ [.asked request] }

namespace AsyncRun

/-- The operation when its call has returned. -/
def start (code : AsyncCode σ θ φ ε ρ) (state : σ) : AsyncRun σ θ φ ε ρ :=
  code.run { state := state }

/-- An answer runs its handler. -/
def step (operation : AsyncRun σ θ φ ε ρ) : AsyncEvent σ φ → AsyncRun σ θ φ ε ρ
  | .answer index answer =>
      match operation.pending[index]? with
      | none => operation
      | some handler =>
          (handler answer).run
            { operation with
              pending := operation.pending.eraseIdx index
              log := operation.log ++ [.answered answer] }
  | .other change => { operation with state := change operation.state }

end AsyncRun

namespace AsyncLogEntry

def isCompletion : AsyncLogEntry θ φ ε ρ → Bool
  | completed _ => true
  | asked _ | answered _ | emitted _ => false

def isRequest : AsyncLogEntry θ φ ε ρ → Bool
  | asked _ => true
  | completed _ | answered _ | emitted _ => false

def isAnswer : AsyncLogEntry θ φ ε ρ → Bool
  | answered _ => true
  | completed _ | asked _ | emitted _ => false

def answer? : AsyncLogEntry θ φ ε ρ → Option φ
  | answered answer => some answer
  | completed _ | asked _ | emitted _ => none

end AsyncLogEntry

namespace AsyncRun

def completions (operation : AsyncRun σ θ φ ε ρ) : Nat :=
  operation.log.countP AsyncLogEntry.isCompletion

def requests (operation : AsyncRun σ θ φ ε ρ) : Nat :=
  operation.log.countP AsyncLogEntry.isRequest

def answers (operation : AsyncRun σ θ φ ε ρ) : Nat :=
  operation.log.countP AsyncLogEntry.isAnswer

end AsyncRun

/-! ## Completing once -/

namespace AsyncCode

/-- The code neither completes nor asks. -/
def Quiet : AsyncCode σ θ φ ε ρ → Prop
  | stop => True
  | complete _ _ | ask _ _ _ => False
  | emit _ rest => rest.Quiet
  | act _ next => ∀ state, (next state).Quiet

/-- Every way through the code completes once and sends at most `bound` requests,
one after the other; once completed it only stops. -/
def CompletesWithin : AsyncCode σ θ φ ε ρ → Nat → Prop
  | stop, _ => False
  | complete _ rest, _ => rest.Quiet
  | emit _ rest, bound => rest.CompletesWithin bound
  | act _ next, bound => ∀ state, (next state).CompletesWithin bound
  | ask _ _ _, 0 => False
  | ask _ handler rest, bound + 1 =>
      (∀ answer, (handler answer).CompletesWithin bound) ∧ rest.Quiet

@[simp]
theorem completesWithin_complete (outcome : ρ) (rest : AsyncCode σ θ φ ε ρ) (bound : Nat) :
    (complete outcome rest).CompletesWithin bound ↔ rest.Quiet := by
  cases bound <;> rfl

@[simp]
theorem completesWithin_emit (output : ε) (rest : AsyncCode σ θ φ ε ρ) (bound : Nat) :
    (emit output rest).CompletesWithin bound ↔ rest.CompletesWithin bound := by
  cases bound <;> rfl

@[simp]
theorem completesWithin_act (change : σ → σ) (next : σ → AsyncCode σ θ φ ε ρ) (bound : Nat) :
    (act change next).CompletesWithin bound ↔ ∀ state, (next state).CompletesWithin bound := by
  cases bound <;> rfl

@[simp]
theorem completesWithin_ask_succ (request : θ) (handler : φ → AsyncCode σ θ φ ε ρ)
    (rest : AsyncCode σ θ φ ε ρ) (bound : Nat) :
    (ask request handler rest).CompletesWithin (bound + 1) ↔
      (∀ answer, (handler answer).CompletesWithin bound) ∧ rest.Quiet :=
  Iff.rfl

@[simp]
theorem quiet_stop : (stop : AsyncCode σ θ φ ε ρ).Quiet :=
  trivial

end AsyncCode

namespace AsyncRun

/-- The operation has completed at most once, exactly once if none of its requests
is open, and has sent at most `bound` requests. -/
structure CompletesOnce (bound : Nat) (operation : AsyncRun σ θ φ ε ρ) : Prop where
  completions_le : operation.completions ≤ 1
  completed : operation.pending = [] → operation.completions = 1
  requests_le : operation.requests ≤ bound
  answered : operation.requests = operation.answers + operation.pending.length

/-- Either one request is open and its handler still completes the operation, or
none is open and the operation has completed. -/
inductive Proceeds (bound : Nat) (operation : AsyncRun σ θ φ ε ρ) : Prop
  | waiting (handler : φ → AsyncCode σ θ φ ε ρ) (left : Nat)
      (pending : operation.pending = [handler])
      (completes : ∀ answer, (handler answer).CompletesWithin left)
      (open' : operation.completions = 0) (bounded : operation.requests + left ≤ bound)
  | finished (pending : operation.pending = []) (completed : operation.completions = 1)
      (bounded : operation.requests ≤ bound)

section Counts

variable {operation : AsyncRun σ θ φ ε ρ}

/-- An operation whose log has grown by one entry. -/
theorem counts_concat (operation : AsyncRun σ θ φ ε ρ) (entry : AsyncLogEntry θ φ ε ρ) :
    let later := { operation with log := operation.log ++ [entry] }
    later.completions = operation.completions + entry.isCompletion.toNat ∧
      later.requests = operation.requests + entry.isRequest.toNat ∧
      later.answers = operation.answers + entry.isAnswer.toNat := by
  simp only [completions, requests, answers, List.countP_append]
  cases entry <;> exact ⟨rfl, rfl, rfl⟩

/-- Quiet code leaves no trace but outputs. -/
theorem run_quiet {code : AsyncCode σ θ φ ε ρ} (quiet : code.Quiet)
    (operation : AsyncRun σ θ φ ε ρ) :
    (code.run operation).pending = operation.pending ∧
      (code.run operation).completions = operation.completions ∧
      (code.run operation).requests = operation.requests := by
  induction code generalizing operation with
  | stop => exact ⟨rfl, rfl, rfl⟩
  | complete outcome rest ih => exact quiet.elim
  | ask request handler rest _ ih => exact quiet.elim
  | emit output rest ih =>
      rcases counts_concat operation (.emitted output)
        with ⟨completions_eq, requests_eq, _⟩
      rcases ih quiet { operation with log := operation.log ++ [.emitted output] }
        with ⟨pending, completions, requests⟩
      exact ⟨pending, completions.trans completions_eq, requests.trans requests_eq⟩
  | act change next ih =>
      exact ih operation.state (quiet operation.state)
        { operation with state := change operation.state }

/-- Code that completes within a bound keeps it from an operation that is neither
completed nor waits. -/
theorem proceeds_run {code : AsyncCode σ θ φ ε ρ} {left bound : Nat}
    (completes : code.CompletesWithin left) {operation : AsyncRun σ θ φ ε ρ}
    (idle : operation.pending = []) (open' : operation.completions = 0)
    (bounded : operation.requests + left ≤ bound) : (code.run operation).Proceeds bound := by
  induction code generalizing operation left with
  | stop => exact completes.elim
  | complete outcome rest ih =>
      rw [AsyncCode.completesWithin_complete] at completes
      rcases counts_concat operation (.completed outcome)
        with ⟨completions_eq, requests_eq, _⟩
      rcases run_quiet completes { operation with log := operation.log ++ [.completed outcome] }
        with ⟨pending, completions, requests⟩
      refine .finished (pending.trans idle) ?_ ?_
      · rw [AsyncCode.run, completions, completions_eq, open']
        rfl
      · rw [AsyncCode.run, requests, requests_eq]
        exact Nat.le_trans (Nat.le_add_right _ left) bounded
  | emit output rest ih =>
      rw [AsyncCode.completesWithin_emit] at completes
      rcases counts_concat operation (.emitted output)
        with ⟨completions_eq, requests_eq, _⟩
      refine ih completes idle ?_ ?_
      · rw [completions_eq]
        exact open'
      · rw [requests_eq]
        exact bounded
  | act change next ih =>
      rw [AsyncCode.completesWithin_act] at completes
      exact ih operation.state (completes operation.state) idle open' bounded
  | ask request handler rest _ ih =>
      cases left with
      | zero => exact completes.elim
      | succ left =>
          rcases completes with ⟨handles, quiet⟩
          rcases counts_concat operation (.asked request)
            with ⟨completions_eq, requests_eq, _⟩
          rcases run_quiet quiet
            { operation with
              pending := operation.pending ++ [handler]
              log := operation.log ++ [.asked request] }
            with ⟨pending, completions, requests⟩
          refine .waiting handler left ?_ handles ?_ ?_
          · rw [AsyncCode.run, pending, idle]
            rfl
          · rw [AsyncCode.run, completions]
            exact completions_eq.trans open'
          · rw [AsyncCode.run, requests]
            refine Nat.le_trans (Nat.le_of_eq (congrArg (· + left) requests_eq)) ?_
            change operation.requests + 1 + left ≤ bound
            omega

/-- Every request is answered or open. -/
def Balanced (operation : AsyncRun σ θ φ ε ρ) : Prop :=
  operation.requests = operation.answers + operation.pending.length

theorem Balanced.run (balanced : operation.Balanced) (code : AsyncCode σ θ φ ε ρ) :
    (code.run operation).Balanced := by
  induction code generalizing operation with
  | stop => exact balanced
  | complete outcome rest ih =>
      rcases counts_concat operation (.completed outcome)
        with ⟨_, requests_eq, answers_eq⟩
      refine ih ?_
      rw [Balanced, requests_eq, answers_eq]
      exact balanced
  | emit output rest ih =>
      rcases counts_concat operation (.emitted output)
        with ⟨_, requests_eq, answers_eq⟩
      refine ih ?_
      rw [Balanced, requests_eq, answers_eq]
      exact balanced
  | act change next ih => exact ih operation.state balanced
  | ask request handler rest _ ih =>
      rcases counts_concat operation (.asked request)
        with ⟨_, requests_eq, answers_eq⟩
      refine ih ?_
      have requested := requests_eq.trans (congrArg (· + 1) balanced)
      rw [Balanced, List.length_append]
      exact requested.trans (congrArg (· + _ + 1) answers_eq.symm)

theorem Balanced.step (balanced : operation.Balanced) (event : AsyncEvent σ φ) :
    (operation.step event).Balanced := by
  cases event with
  | other change => exact balanced
  | answer index answer =>
      rw [AsyncRun.step]
      split
      · exact balanced
      · next handler found =>
          rcases counts_concat operation (.answered answer)
            with ⟨_, requests_eq, answers_eq⟩
          refine Balanced.run ?_ (handler answer)
          rcases List.getElem?_eq_some_iff.mp found with ⟨lt, _⟩
          have length_eq := List.length_eraseIdx_of_lt lt
          have requested := requests_eq.trans balanced
          change AsyncRun.requests { operation with log := operation.log ++ [.answered answer] } =
            AsyncRun.answers { operation with log := operation.log ++ [.answered answer] } +
              (operation.pending.eraseIdx index).length
          rw [requested, answers_eq, length_eq]
          change _ = operation.answers + 1 + _
          omega

/-- An answer brings the operation on. -/
theorem Proceeds.step {bound : Nat} (proceeds : operation.Proceeds bound)
    (event : AsyncEvent σ φ) : (operation.step event).Proceeds bound := by
  cases event with
  | other change =>
      cases proceeds with
      | waiting handler left pending completes open' bounded =>
          exact .waiting handler left pending completes open' bounded
      | finished pending completed bounded => exact .finished pending completed bounded
  | answer index answer =>
      rw [AsyncRun.step]
      cases proceeds with
      | finished pending completed bounded =>
          rw [pending]
          exact .finished pending completed bounded
      | waiting handler left pending completes open' bounded =>
          rcases counts_concat operation (.answered answer)
            with ⟨completions_eq, requests_eq, _⟩
          rw [pending]
          cases index with
          | succ index => exact .waiting handler left pending completes open' bounded
          | zero =>
              refine proceeds_run (completes answer) rfl ?_ ?_
              · exact completions_eq.trans open'
              · exact Nat.le_trans (Nat.le_of_eq (congrArg (· + left) requests_eq)) bounded

theorem completesOnce_of_proceeds {bound : Nat} (proceeds : operation.Proceeds bound)
    (balanced : operation.Balanced) : operation.CompletesOnce bound := by
  cases proceeds with
  | waiting handler left pending completes open' bounded =>
      constructor
      · rw [open']
        exact Nat.zero_le 1
      · exact fun none => absurd (pending.symm.trans none) (List.cons_ne_nil _ _)
      · exact Nat.le_trans (Nat.le_add_right _ left) bounded
      · exact balanced
  | finished pending completed bounded =>
      constructor
      · exact Nat.le_of_eq completed
      · exact fun _ => completed
      · exact bounded
      · exact balanced

end Counts

/-- Code that completes within a bound does so in every run. -/
theorem completesOnce_exec {code : AsyncCode σ θ φ ε ρ} {bound : Nat}
    (completes : code.CompletesWithin bound) (state : σ) (events : List (AsyncEvent σ φ)) :
    (EventRun.exec step (start code state) events).CompletesOnce bound := by
  have proceeds : (start code state).Proceeds bound :=
    proceeds_run completes rfl rfl (Nat.le_of_eq (Nat.zero_add bound))
  have balanced : (start code state).Balanced := by
    have blank : (⟨state, [], []⟩ : AsyncRun σ θ φ ε ρ).Balanced := rfl
    exact blank.run code
  have onward : ∀ (operation : AsyncRun σ θ φ ε ρ) (event : AsyncEvent σ φ),
      operation.Proceeds bound → (operation.step event).Proceeds bound :=
    fun _ event proceeds => proceeds.step event
  have even : ∀ (operation : AsyncRun σ θ φ ε ρ) (event : AsyncEvent σ φ),
      operation.Balanced → (operation.step event).Balanced :=
    fun _ event balanced => balanced.step event
  exact completesOnce_of_proceeds (EventRun.exec_invariant onward proceeds events)
    (EventRun.exec_invariant even balanced events)

end AsyncRun

end Semantics
