import AnychatSdk.Lib.EventRun
import Mathlib.Data.List.DropRight

/-!
# First-come slots

A slot is a view of a state that holds at most one value.  A step clears it, or
else offers a value, which goes in only if the slot is empty: the first offer
since the last clearing wins.  The rules below read the content of the slot off
the events of a run.
-/

universe u v w

namespace EventRun

/-- The view behaves as a slot: `clears` empties it, `offers` fills it if it is
empty. -/
def IsSlot {σ : Type u} {ε : Type v} {α : Type w} (step : σ → ε → σ) (view : σ → Option α)
    (clears : ε → Bool) (offers : σ → ε → Option α) : Prop :=
  ∀ state event, view (step state event) =
    if clears event then none else (view state).or (offers state event)

variable {σ : Type u} {ε : Type v} {α : Type w} {step : σ → ε → σ} {view : σ → Option α}
  {clears : ε → Bool} {offers : σ → ε → Option α}

/-- A value in a slot that started empty was offered while the slot was empty,
and the slot has not been cleared since. -/
theorem IsSlot.offered_of_exec (slot : IsSlot step view clears offers) {state : σ} {value : α}
    (empty : view state = none) {events : List ε}
    (held : view (exec step state events) = some value) :
    ∃ before event after, events = before ++ event :: after ∧
      offers (exec step state before) event = some value ∧
      ∀ later ∈ after, clears later = false := by
  induction events using List.reverseRecOn with
  | nil => exact absurd (held.symm.trans empty) (Option.some_ne_none value)
  | append_singleton events event ih =>
      rw [exec_concat, slot] at held
      split at held
      · exact absurd held.symm (Option.some_ne_none value)
      · next kept =>
          rcases Option.or_eq_some_iff.mp held with earlier | ⟨_, offered⟩
          · rcases ih earlier with ⟨before, offer, after, split, offered, notCleared⟩
            refine ⟨before, offer, after ++ [event], ?_, offered, ?_⟩
            · rw [split, List.append_assoc, List.cons_append]
            · intro later member
              rcases List.mem_append.mp member with old | new
              · exact notCleared later old
              · rw [List.mem_singleton.mp new]
                exact Bool.eq_false_iff.mpr kept
          · exact ⟨events, event, [], rfl, offered, fun _ member => absurd member List.not_mem_nil⟩

/-- When offers do not depend on the state, a slot that started empty holds the
first offer since the last clearing. -/
theorem IsSlot.exec_eq_findSome {offer : ε → Option α}
    (slot : IsSlot step view clears fun _ event => offer event) {state : σ}
    (empty : view state = none) (events : List ε) :
    view (exec step state events) =
      (events.rtakeWhile fun event => !clears event).findSome? offer := by
  induction events using List.reverseRecOn with
  | nil => exact empty
  | append_singleton events event ih =>
      rw [exec_concat, slot, List.rtakeWhile_concat]
      by_cases cleared : clears event = true
      · simp [cleared]
      · simp [cleared, ih, List.findSome?_append]

/-! ## Taking out what a slot holds -/

/-- Without offers a slot keeps what it holds until it is cleared. -/
theorem IsSlot.exec_of_no_offers (slot : IsSlot step view clears offers) (state : σ)
    {events : List ε} (quiet : ∀ event ∈ events, ∀ state, offers state event = none) :
    view (exec step state events) = if events.any clears then none else view state := by
  induction events generalizing state with
  | nil => rfl
  | cons event events ih =>
      rw [exec_cons, ih _ fun later member => quiet later (List.mem_cons_of_mem event member), slot,
        quiet event List.mem_cons_self, Option.or_none, List.any_cons]
      cases clears event <;> simp

/-- What a step takes out of the slot. -/
def taken (view : σ → Option α) (clears : ε → Bool) (state : σ) (event : ε) : List α :=
  if clears event then (view state).toList else []

/-- Without offers the value in a slot is taken out once, by the first step that
clears it. -/
theorem IsSlot.outputs_taken_of_no_offers (slot : IsSlot step view clears offers) (state : σ)
    {events : List ε} (quiet : ∀ event ∈ events, ∀ state, offers state event = none) :
    outputs step (taken view clears) state events =
      if events.any clears then (view state).toList else [] := by
  induction events generalizing state with
  | nil => rfl
  | cons event events ih =>
      rw [outputs_cons, ih _ fun later member => quiet later (List.mem_cons_of_mem event member),
        slot, quiet event List.mem_cons_self, Option.or_none, List.any_cons, taken]
      cases clears event <;> simp

end EventRun
