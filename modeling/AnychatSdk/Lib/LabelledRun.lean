import AnychatSdk.Lib.EventRun

/-!
# Objects that live along a run

A run gives out labels, and each label concerns one of the objects that the
system creates as it runs.  An object goes through the states of a small labelled
transition system of its own.  If every step of the run moves the object along
the labels that it gives out for it, so does the whole run, and the history of the
object is a path of the small system.
-/

universe u v w x

/-- `target` is reached from `source` by steps that bear these labels. -/
inductive LabelledRun {τ : Type u} {ο : Type v} (Step : τ → ο → τ → Prop) (source : τ) :
    List ο → τ → Prop
  | nil : LabelledRun Step source [] source
  | snoc {labels : List ο} {label : ο} {middle target : τ}
      (first : LabelledRun Step source labels middle) (last : Step middle label target) :
      LabelledRun Step source (labels ++ [label]) target

namespace LabelledRun

variable {τ : Type u} {ο : Type v} {Step : τ → ο → τ → Prop}

theorem single {source target : τ} {label : ο} (step : Step source label target) :
    LabelledRun Step source [label] target :=
  .snoc .nil step

theorem trans {source middle target : τ} {first second : List ο}
    (before : LabelledRun Step source first middle)
    (after : LabelledRun Step middle second target) :
    LabelledRun Step source (first ++ second) target := by
  induction after with
  | nil => rwa [List.append_nil]
  | snoc _ last ih =>
      rw [← List.append_assoc]
      exact .snoc ih last

end LabelledRun

section Simulation

variable {σ : Type u} {ε : Type v} {ο : Type w} {τ : Type x} {step : σ → ε → σ}
  {emit : σ → ε → List ο} {Invariant : σ → Prop} {Seen : σ → τ → Prop} {Step : τ → ο → τ → Prop}

/-- If each step moves an object along the labels that concern it, so does each
run. -/
theorem labelledRun_outputs (concerns : ο → Bool)
    (preserved : ∀ state event, Invariant state → Invariant (step state event))
    (follows : ∀ state event object, Invariant state → Seen state object →
      ∃ next, Seen (step state event) next ∧
        LabelledRun Step object ((emit state event).filter concerns) next)
    {state : σ} {object : τ} (initially : Invariant state) (seen : Seen state object)
    (events : List ε) :
    ∃ next, Seen (EventRun.exec step state events) next ∧
      LabelledRun Step object ((EventRun.outputs step emit state events).filter concerns) next := by
  induction events generalizing state object with
  | nil => exact ⟨object, seen, .nil⟩
  | cons event events ih =>
      rcases follows state event object initially seen with ⟨middle, reached, first⟩
      rcases ih (preserved state event initially) reached with ⟨next, later, rest⟩
      refine ⟨next, later, ?_⟩
      rw [EventRun.outputs_cons, List.filter_append]
      exact first.trans rest

end Simulation

/-! ## Ledgers -/

section Ledger

universe y

variable {σ : Type u} {ε : Type v} {ο : Type w} {β : Type y} {step : σ → ε → σ}
  {emit : σ → ε → List ο} (held : σ → List β) (came gone : ο → Option β)

/-- If in each step what has come in is held or has gone out, so it is in a run. -/
theorem perm_outputs_of_balanced
    (balanced : ∀ state event,
      ((emit state event).filterMap gone ++ held (step state event)).Perm
        (held state ++ (emit state event).filterMap came))
    (state : σ) (events : List ε) :
    ((EventRun.outputs step emit state events).filterMap gone ++
        held (EventRun.exec step state events)).Perm
      (held state ++ (EventRun.outputs step emit state events).filterMap came) := by
  induction events generalizing state with
  | nil => simp
  | cons event events ih =>
      rw [EventRun.outputs_cons, EventRun.exec_cons, List.filterMap_append, List.filterMap_append,
        List.append_assoc, ← List.append_assoc (held state)]
      have first := (balanced state event).append_right
        ((EventRun.outputs step emit (step state event) events).filterMap came)
      rw [List.append_assoc] at first
      exact ((ih (step state event)).append_left _).trans first

/-- If in each step what has come in goes out in the same order, so it does in a
run. -/
theorem outputs_eq_of_balanced
    (balanced : ∀ state event,
      (emit state event).filterMap gone ++ held (step state event) =
        held state ++ (emit state event).filterMap came)
    (state : σ) (events : List ε) :
    (EventRun.outputs step emit state events).filterMap gone ++
        held (EventRun.exec step state events) =
      held state ++ (EventRun.outputs step emit state events).filterMap came := by
  induction events generalizing state with
  | nil => simp
  | cons event events ih =>
      rw [EventRun.outputs_cons, EventRun.exec_cons, List.filterMap_append, List.filterMap_append,
        List.append_assoc, ih, ← List.append_assoc, balanced, List.append_assoc]

end Ledger
