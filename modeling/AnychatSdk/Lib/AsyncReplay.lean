import AnychatSdk.Lib.AsyncScope

/-!
# The effects of code on a view of its state

`Does` says what code does to a view of the state: each answer changes the view
by a function of its own, and up to the first answer there is one more change.
What becomes of the view is then a replay of the answers, in the order in which
they came.
-/

universe u v w x y z

namespace AsyncCode

variable {σ τ : Type u} {θ : Type v} {φ : Type w} {ε ε' : Type x} {ρ ρ' : Type y} {ω : Type z}

/-- Run to its end the code changes the view by `effect`, and after each answer by
`write`. -/
def Does (view : σ → ω) (write : φ → ω → ω) : AsyncCode σ θ φ ε ρ → (ω → ω) → Prop
  | stop, effect => effect = id
  | complete _ rest, effect => rest.Does view write effect
  | emit _ rest, effect => rest.Does view write effect
  | act change next, effect =>
      ∃ first later, effect = later ∘ first ∧
        (∀ state, view (change state) = first (view state)) ∧
        ∀ state, (next state).Does view write later
  | ask _ handler rest, effect =>
      (∀ answer, (handler answer).Does view write (write answer)) ∧ rest.Does view write effect

section Within

variable {read : τ → σ} {store : σ → τ → τ} {output : ε → ε'} {outcome : ρ → ρ'}
  {code : AsyncCode σ θ φ ε ρ}

theorem Does.within {view : σ → ω} {write : φ → ω → ω} {effect : ω → ω}
    (does : code.Does view write effect)
    (same : ∀ part state, view (read (store part state)) = view part) :
    (code.within read store output outcome).Does (fun state => view (read state)) write effect := by
  induction code generalizing effect with
  | stop => exact does
  | complete _ _ ih => exact ih does
  | emit _ _ ih => exact ih does
  | act change next ih =>
      rcases does with ⟨first, later, rfl, now, then'⟩
      exact ⟨first, later, rfl, fun state => (same _ _).trans (now (read state)),
        fun state => ih (read state) (then' (read state))⟩
  | ask request handler rest handles ih =>
      exact ⟨fun answer => handles answer (does.1 answer), ih does.2⟩

/-- Code on another part of the state does nothing to the view. -/
theorem does_within_apart {view : τ → ω}
    (apart : ∀ part state, view (store part state) = view state) (code : AsyncCode σ θ φ ε ρ) :
    (code.within read store output outcome).Does view (fun _ => id) id := by
  induction code with
  | stop => rfl
  | complete _ _ ih => exact ih
  | emit _ _ ih => exact ih
  | act change next ih =>
      exact ⟨id, id, rfl, fun state => apart _ _, fun state => ih (read state)⟩
  | ask request handler rest handles ih => exact ⟨handles, ih⟩

end Within

end AsyncCode
