import AnychatSdk.Lib.AsyncCode

/-!
# Code within a larger program

Code that is written for its own state, outputs and outcomes becomes part of a
program with more of each.  `Asks` is the condition on code that all requests it
may ever send are of some kind; they are then in every run.
-/

universe u v w x y

namespace AsyncCode

variable {σ τ : Type u} {θ : Type v} {φ : Type w} {ε ε' : Type x} {ρ ρ' : Type y}

section Within

variable (read : τ → σ) (write : σ → τ → τ) (output : ε → ε') (outcome : ρ → ρ')

/-- The code on a part of a larger state, with its outputs and outcomes renamed. -/
def within : AsyncCode σ θ φ ε ρ → AsyncCode τ θ φ ε' ρ'
  | stop => stop
  | complete result rest => complete (outcome result) rest.within
  | emit told rest => emit (output told) rest.within
  | act change next =>
      act (fun state => write (change (read state)) state) fun state => (next (read state)).within
  | ask request handler rest => ask request (fun answer => (handler answer).within) rest.within

theorem Quiet.within {code : AsyncCode σ θ φ ε ρ} (quiet : code.Quiet) :
    (code.within read write output outcome).Quiet := by
  induction code with
  | stop => trivial
  | complete _ _ => exact quiet.elim
  | ask _ _ _ => exact quiet.elim
  | emit _ _ ih => exact ih quiet
  | act _ _ ih => exact fun state => ih (read state) (quiet (read state))

theorem CompletesWithin.within {code : AsyncCode σ θ φ ε ρ} {bound : Nat}
    (completes : code.CompletesWithin bound) :
    (code.within read write output outcome).CompletesWithin bound := by
  induction code generalizing bound with
  | stop => exact completes.elim
  | complete result rest _ =>
      rw [completesWithin_complete] at completes
      rw [AsyncCode.within, completesWithin_complete]
      exact completes.within read write output outcome
  | emit told rest ih =>
      rw [completesWithin_emit] at completes
      rw [AsyncCode.within, completesWithin_emit]
      exact ih completes
  | act change next ih =>
      rw [completesWithin_act] at completes
      rw [AsyncCode.within, completesWithin_act]
      exact fun state => ih (read state) (completes (read state))
  | ask request handler rest handles _ =>
      cases bound with
      | zero => exact completes.elim
      | succ bound =>
          exact ⟨fun answer => handles answer (completes.1 answer),
            completes.2.within read write output outcome⟩

end Within

/-- Code that gets by with few requests gets by with more. -/
theorem CompletesWithin.mono {code : AsyncCode σ θ φ ε ρ} {bound larger : Nat}
    (completes : code.CompletesWithin bound) (le : bound ≤ larger) :
    code.CompletesWithin larger := by
  induction code generalizing bound larger with
  | stop => exact completes.elim
  | complete result rest _ =>
      rw [completesWithin_complete] at completes ⊢
      exact completes
  | emit told rest ih =>
      rw [completesWithin_emit] at completes ⊢
      exact ih completes le
  | act change next ih =>
      rw [completesWithin_act] at completes ⊢
      exact fun state => ih state (completes state) le
  | ask request handler rest handles _ =>
      cases bound with
      | zero => exact completes.elim
      | succ bound =>
          cases larger with
          | zero => exact absurd le (Nat.not_succ_le_zero bound)
          | succ larger =>
              exact ⟨fun answer => handles answer (completes.1 answer) (Nat.le_of_succ_le_succ le),
                completes.2⟩

/-! ## The requests of code -/

/-- Every request that the code sends, on any answers and in any states, is allowed. -/
def Asks (Allowed : θ → Prop) : AsyncCode σ θ φ ε ρ → Prop
  | stop => True
  | complete _ rest => rest.Asks Allowed
  | emit _ rest => rest.Asks Allowed
  | act _ next => ∀ state, (next state).Asks Allowed
  | ask request handler rest =>
      Allowed request ∧ (∀ answer, (handler answer).Asks Allowed) ∧ rest.Asks Allowed

theorem Asks.mono {Allowed Permitted : θ → Prop}
    (weaker : ∀ request, Allowed request → Permitted request) {code : AsyncCode σ θ φ ε ρ}
    (asks : code.Asks Allowed) : code.Asks Permitted := by
  induction code with
  | stop => trivial
  | complete _ _ ih => exact ih asks
  | emit _ _ ih => exact ih asks
  | act _ _ ih => exact fun state => ih state (asks state)
  | ask _ _ _ handles ih =>
      exact ⟨weaker _ asks.1, fun answer => handles answer (asks.2.1 answer), ih asks.2.2⟩

theorem Asks.within {Allowed : θ → Prop} (read : τ → σ) (write : σ → τ → τ) (output : ε → ε')
    (outcome : ρ → ρ') {code : AsyncCode σ θ φ ε ρ} (asks : code.Asks Allowed) :
    (code.within read write output outcome).Asks Allowed := by
  induction code with
  | stop => trivial
  | complete _ _ ih => exact ih asks
  | emit _ _ ih => exact ih asks
  | act _ _ ih => exact fun state => ih (read state) (asks (read state))
  | ask _ _ _ handles ih =>
      exact ⟨asks.1, fun answer => handles answer (asks.2.1 answer), ih asks.2.2⟩

end AsyncCode

namespace AsyncRun

variable {σ : Type u} {θ : Type v} {φ : Type w} {ε : Type x} {ρ : Type y} {Allowed : θ → Prop}

/-- What was asked is allowed, and so is what the open handlers will ask. -/
structure Asking (Allowed : θ → Prop) (operation : AsyncRun σ θ φ ε ρ) : Prop where
  pending : ∀ handler ∈ operation.pending, ∀ answer, (handler answer).Asks Allowed
  asked : ∀ request, .asked request ∈ operation.log → Allowed request

/-- An entry that is no request. -/
theorem Asking.concat {operation : AsyncRun σ θ φ ε ρ} (asking : operation.Asking Allowed)
    {entry : AsyncLogEntry θ φ ε ρ}
    (allowed : ∀ request, entry = .asked request → Allowed request) :
    Asking Allowed { operation with log := operation.log ++ [entry] } := by
  refine ⟨asking.pending, fun request listed => ?_⟩
  rcases List.mem_append.mp listed with before | last
  · exact asking.asked request before
  · exact allowed request (List.mem_singleton.mp last).symm

theorem Asking.run {code : AsyncCode σ θ φ ε ρ} (asks : code.Asks Allowed)
    {operation : AsyncRun σ θ φ ε ρ} (asking : operation.Asking Allowed) :
    (code.run operation).Asking Allowed := by
  induction code generalizing operation with
  | stop => exact asking
  | complete _ _ ih => exact ih asks (asking.concat nofun)
  | emit _ _ ih => exact ih asks (asking.concat nofun)
  | act _ _ ih => exact ih operation.state (asks operation.state) ⟨asking.pending, asking.asked⟩
  | ask request handler _ _ ih =>
      rcases asks with ⟨allowed, handles, after⟩
      have logged : Asking Allowed { operation with log := operation.log ++ [.asked request] } :=
        asking.concat fun _ same => AsyncLogEntry.asked.inj same ▸ allowed
      refine ih after ⟨fun opened listed => ?_, logged.asked⟩
      rcases List.mem_append.mp listed with before | last
      · exact asking.pending opened before
      · exact List.mem_singleton.mp last ▸ handles

theorem Asking.step {operation : AsyncRun σ θ φ ε ρ} (asking : operation.Asking Allowed)
    (event : AsyncEvent σ φ) : (operation.step event).Asking Allowed := by
  cases event with
  | other change => exact ⟨asking.pending, asking.asked⟩
  | answer index answer =>
      rw [AsyncRun.step]
      split
      · exact asking
      · next handler found =>
          have answered :
              Asking Allowed { operation with log := operation.log ++ [.answered answer] } :=
            asking.concat fun _ same => by cases same
          refine Asking.run (asking.pending handler (List.mem_of_getElem? found) answer)
            ⟨fun opened listed => ?_, answered.asked⟩
          exact asking.pending opened (List.mem_of_mem_eraseIdx listed)

/-- Code that asks for nothing else never does, whatever it is answered. -/
theorem asks_exec {code : AsyncCode σ θ φ ε ρ} (asks : code.Asks Allowed) (state : σ)
    (events : List (AsyncEvent σ φ)) (request : θ)
    (asked : .asked request ∈ (EventRun.exec step (start code state) events).log) :
    Allowed request := by
  have initially : (⟨state, [], []⟩ : AsyncRun σ θ φ ε ρ).Asking Allowed := ⟨nofun, nofun⟩
  have started : (start code state).Asking Allowed := initially.run asks
  have kept : ∀ (operation : AsyncRun σ θ φ ε ρ) (event : AsyncEvent σ φ),
      operation.Asking Allowed → (operation.step event).Asking Allowed :=
    fun _ event asking => asking.step event
  exact (EventRun.exec_invariant kept started events).asked request asked

end AsyncRun
