import Mathlib.Data.List.Basic

/-!
# Runs of deterministic event systems

A system is a step function from a state and an event to the next state.  A run
is the left fold of that function over a list of events.  This module collects
the run-level predicates used to state safety properties, and the induction
rules that reduce them to statements about one step.

Guards are conditions on a step that may look at the state before it.  The
central rule, `always_iff_guarded`, turns a one-step equivalence between
preserving a property and meeting a guard into the same equivalence for whole
runs.
-/

namespace EventRun

universe u v w

variable {σ : Type u} {ε : Type v}

/-- The state reached from `state` by a list of events. -/
def exec (step : σ → ε → σ) (state : σ) (events : List ε) : σ :=
  events.foldl step state

@[simp]
theorem exec_nil (step : σ → ε → σ) (state : σ) : exec step state [] = state :=
  rfl

@[simp]
theorem exec_cons (step : σ → ε → σ) (state : σ) (event : ε) (events : List ε) :
    exec step state (event :: events) = exec step (step state event) events :=
  rfl

theorem exec_append (step : σ → ε → σ) (state : σ) (first second : List ε) :
    exec step state (first ++ second) = exec step (exec step state first) second :=
  List.foldl_append

theorem exec_concat (step : σ → ε → σ) (state : σ) (events : List ε) (event : ε) :
    exec step state (events ++ [event]) = step (exec step state events) event := by
  rw [exec_append]
  rfl

/-- `Property` holds in every state of a run, the first and the last included. -/
def Always (step : σ → ε → σ) (Property : σ → Prop) : σ → List ε → Prop
  | state, [] => Property state
  | state, event :: events => Property state ∧ Always step Property (step state event) events

/-- Every event of a run happens in a state that meets `Guard` for it. -/
def Guarded (step : σ → ε → σ) (Guard : σ → ε → Prop) : σ → List ε → Prop
  | _, [] => True
  | state, event :: events => Guard state event ∧ Guarded step Guard (step state event) events

/-! ## Outputs -/

/-- What the steps of a run give out, oldest first. -/
def outputs {ο : Type w} (step : σ → ε → σ) (emit : σ → ε → List ο) : σ → List ε → List ο
  | _, [] => []
  | state, event :: events => emit state event ++ outputs step emit (step state event) events

section Outputs

variable {ο : Type w} {step : σ → ε → σ} {emit : σ → ε → List ο}

@[simp]
theorem outputs_nil {state : σ} : outputs step emit state [] = [] :=
  rfl

@[simp]
theorem outputs_cons {state : σ} {event : ε} {events : List ε} :
    outputs step emit state (event :: events) =
      emit state event ++ outputs step emit (step state event) events :=
  rfl

theorem outputs_append {state : σ} {first second : List ε} :
    outputs step emit state (first ++ second) =
      outputs step emit state first ++ outputs step emit (exec step state first) second := by
  induction first generalizing state with
  | nil => rfl
  | cons event events ih => simp [ih]

theorem mem_outputs {state : σ} {events : List ε} {output : ο} :
    output ∈ outputs step emit state events ↔
      ∃ before event after, events = before ++ event :: after ∧
        output ∈ emit (exec step state before) event := by
  induction events generalizing state with
  | nil => simp
  | cons event events ih =>
      rw [outputs_cons, List.mem_append, ih]
      constructor
      · rintro (here | ⟨before, later, after, split, given⟩)
        · exact ⟨[], event, events, rfl, here⟩
        · exact ⟨event :: before, later, after, congrArg (event :: ·) split, given⟩
      · rintro ⟨before, later, after, split, given⟩
        cases before with
        | nil =>
            rcases List.cons_eq_cons.mp split with ⟨rfl, _⟩
            exact .inl given
        | cons first rest =>
            rcases List.cons_eq_cons.mp split with ⟨rfl, tail⟩
            exact .inr ⟨rest, later, after, tail, given⟩

theorem filter_outputs (keep : ο → Bool) {state : σ} {events : List ε} :
    (outputs step emit state events).filter keep =
      outputs step (fun state event => (emit state event).filter keep) state events := by
  induction events generalizing state with
  | nil => rfl
  | cons event events ih => simp [ih]

theorem outputs_flatMap {ο' : Type w} (change : ο → List ο') {state : σ} {events : List ε} :
    outputs step (fun state event => (emit state event).flatMap change) state events =
      (outputs step emit state events).flatMap change := by
  induction events generalizing state with
  | nil => rfl
  | cons event events ih => simp [ih]

theorem outputs_eq_map (read : ε → ο) {state : σ} {events : List ε} :
    outputs step (fun _ event => [read event]) state events = events.map read := by
  induction events generalizing state with
  | nil => rfl
  | cons event events ih => simp [ih]

/-- A log to which every step appends what it gives out. -/
theorem exec_log (log : σ → List ο)
    (appends : ∀ state event, log (step state event) = log state ++ emit state event) {state : σ}
    {events : List ε} :
    log (exec step state events) = log state ++ outputs step emit state events := by
  induction events generalizing state with
  | nil => exact (List.append_nil _).symm
  | cons event events ih =>
      rw [exec_cons, ih, appends, outputs_cons, List.append_assoc]

end Outputs

section Predicates

variable {step : σ → ε → σ} {Property : σ → Prop} {Guard : σ → ε → Prop}

@[simp]
theorem always_nil {state : σ} : Always step Property state [] ↔ Property state :=
  Iff.rfl

@[simp]
theorem always_cons {state : σ} {event : ε} {events : List ε} :
    Always step Property state (event :: events) ↔
      Property state ∧ Always step Property (step state event) events :=
  Iff.rfl

@[simp]
theorem guarded_nil {state : σ} : Guarded step Guard state [] :=
  trivial

@[simp]
theorem guarded_cons {state : σ} {event : ε} {events : List ε} :
    Guarded step Guard state (event :: events) ↔
      Guard state event ∧ Guarded step Guard (step state event) events :=
  Iff.rfl

instance decidableGuarded [∀ state event, Decidable (Guard state event)] :
    ∀ (state : σ) (events : List ε), Decidable (Guarded step Guard state events)
  | _, [] => isTrue trivial
  | state, event :: events =>
      have := decidableGuarded (step state event) events
      inferInstanceAs (Decidable (_ ∧ _))

/-- A property always holds exactly when it holds after every prefix. -/
theorem always_iff_forall_prefix {state : σ} {events : List ε} :
    Always step Property state events ↔
      ∀ before after, events = before ++ after → Property (exec step state before) := by
  induction events generalizing state with
  | nil =>
      constructor
      · intro holds before after split
        rcases List.nil_eq_append_iff.mp split with ⟨rfl, rfl⟩
        exact holds
      · intro all
        exact all [] [] rfl
  | cons event events ih =>
      constructor
      · rintro ⟨here, later⟩ before after split
        cases before with
        | nil => exact here
        | cons first rest =>
            rcases List.cons_eq_cons.mp split with ⟨rfl, tail⟩
            exact ih.mp later rest after tail
      · intro all
        refine ⟨all [] (event :: events) rfl, ih.mpr ?_⟩
        intro before after split
        exact all (event :: before) after (congrArg (event :: ·) split)

theorem Guarded.append {state : σ} {first second : List ε} :
    Guarded step Guard state (first ++ second) ↔
      Guarded step Guard state first ∧ Guarded step Guard (exec step state first) second := by
  induction first generalizing state with
  | nil => simp
  | cons event events ih => simp [ih, and_assoc]

/-- A family of guards is met together if each is. -/
theorem guarded_forall {ι : Type w} {Guards : ι → σ → ε → Prop} {state : σ} {events : List ε} :
    Guarded step (fun state event => ∀ index, Guards index state event) state events ↔
      ∀ index, Guarded step (Guards index) state events := by
  induction events generalizing state with
  | nil => exact ⟨fun _ _ => trivial, fun _ => trivial⟩
  | cons event events ih => simp only [guarded_cons, ih, forall_and]

/-- A guard on a part of the state that runs by itself. -/
theorem guarded_comp {τ : Type w} {larger : τ → ε → τ} {part : τ → σ}
    (follows : ∀ state event, part (larger state event) = step (part state) event) {state : τ}
    {events : List ε} :
    Guarded larger (fun state event => Guard (part state) event) state events ↔
      Guarded step Guard (part state) events := by
  induction events generalizing state with
  | nil => exact Iff.rfl
  | cons event events ih => rw [guarded_cons, guarded_cons, ih, follows]

theorem Guarded.mono {Weaker : σ → ε → Prop} {state : σ} {events : List ε}
    (implies : ∀ state event, Guard state event → Weaker state event)
    (guarded : Guarded step Guard state events) : Guarded step Weaker state events := by
  induction events generalizing state with
  | nil => trivial
  | cons event events ih => exact ⟨implies _ _ guarded.1, ih guarded.2⟩

/-- A condition on the events alone is a guard. -/
theorem Guarded.of_forall {Condition : ε → Prop} {state : σ} {events : List ε}
    (holds : ∀ event ∈ events, Condition event) :
    Guarded step (fun _ event => Condition event) state events := by
  induction events generalizing state with
  | nil => trivial
  | cons event events ih =>
      exact ⟨holds event List.mem_cons_self,
        ih fun later member => holds later (List.mem_cons_of_mem event member)⟩

/-- A condition on the events alone can be added to a guard. -/
theorem Guarded.and_forall {Condition : ε → Prop} {state : σ} {events : List ε}
    (guarded : Guarded step Guard state events) (holds : ∀ event ∈ events, Condition event) :
    Guarded step (fun state event => Guard state event ∧ Condition event) state events := by
  induction events generalizing state with
  | nil => trivial
  | cons event events ih =>
      exact ⟨⟨guarded.1, holds event List.mem_cons_self⟩,
        ih guarded.2 fun later member => holds later (List.mem_cons_of_mem event member)⟩

theorem Always.first {state : σ} {events : List ε}
    (always : Always step Property state events) : Property state := by
  cases events with
  | nil => exact always
  | cons event events => exact always.1

theorem Guarded.and {Other : σ → ε → Prop} {state : σ} {events : List ε} :
    Guarded step (fun state event => Guard state event ∧ Other state event) state events ↔
      Guarded step Guard state events ∧ Guarded step Other state events := by
  induction events generalizing state with
  | nil => simp
  | cons event events ih => simp [ih, and_and_and_comm]

/-- From a state with the property, it always holds exactly when every step
leads to it. -/
theorem always_iff_guarded_step {state : σ} {events : List ε} (holds : Property state) :
    Always step Property state events ↔
      Guarded step (fun state event => Property (step state event)) state events := by
  induction events generalizing state with
  | nil => exact iff_of_true holds trivial
  | cons event events ih =>
      rw [always_cons, guarded_cons]
      constructor
      · rintro ⟨_, later⟩
        exact ⟨later.first, (ih later.first).mp later⟩
      · rintro ⟨next, later⟩
        exact ⟨holds, (ih next).mpr later⟩

theorem Always.mono {Weaker : σ → Prop} {state : σ} {events : List ε}
    (always : Always step Property state events)
    (implies : ∀ state, Property state → Weaker state) : Always step Weaker state events := by
  induction events generalizing state with
  | nil => exact implies state always
  | cons event events ih => exact ⟨implies state always.1, ih always.2⟩

theorem Always.last {state : σ} {events : List ε}
    (always : Always step Property state events) : Property (exec step state events) :=
  always_iff_forall_prefix.mp always events [] (List.append_nil events).symm

end Predicates

/-! ## Induction rules -/

section Rules

variable {step : σ → ε → σ} {Property Invariant : σ → Prop} {Guard : σ → ε → Prop}

/-- An invariant of every guarded step holds after every guarded run. -/
theorem exec_invariant_of_guarded
    (preserved : ∀ state event, Invariant state → Guard state event →
      Invariant (step state event))
    {state : σ} (initially : Invariant state) {events : List ε}
    (guarded : Guarded step Guard state events) : Invariant (exec step state events) := by
  induction events generalizing state with
  | nil => exact initially
  | cons event events ih => exact ih (preserved state event initially guarded.1) guarded.2

/-- An invariant of every step holds after every run. -/
theorem exec_invariant
    (preserved : ∀ state event, Invariant state → Invariant (step state event))
    {state : σ} (initially : Invariant state) (events : List ε) :
    Invariant (exec step state events) := by
  induction events generalizing state with
  | nil => exact initially
  | cons event events ih => exact ih (preserved state event initially)

/-- An invariant of every guarded step holds in every state of a guarded run. -/
theorem always_of_guarded
    (preserved : ∀ state event, Invariant state → Guard state event →
      Invariant (step state event))
    {state : σ} (initially : Invariant state) {events : List ε}
    (guarded : Guarded step Guard state events) : Always step Invariant state events := by
  induction events generalizing state with
  | nil => exact initially
  | cons event events ih =>
      exact ⟨initially, ih (preserved state event initially guarded.1) guarded.2⟩

/-- A guard that implies another one in every state of an invariant implies it
along every run. -/
theorem guarded_of_guarded {Other : σ → ε → Prop}
    (preserved : ∀ state event, Invariant state → Guard state event →
      Invariant (step state event))
    (implies : ∀ state event, Invariant state → Guard state event → Other state event)
    {state : σ} (initially : Invariant state) {events : List ε}
    (guarded : Guarded step Guard state events) : Guarded step Other state events := by
  induction events generalizing state with
  | nil => trivial
  | cons event events ih =>
      exact ⟨implies state event initially guarded.1,
        ih (preserved state event initially guarded.1) guarded.2⟩

/-- If, from every state satisfying the invariant and the property, a step keeps
the invariant, and keeps the property exactly when its guard holds, then a run
keeps the property throughout exactly when all its steps are guarded. -/
theorem always_iff_guarded
    (preserved : ∀ state event, Invariant state → Property state →
      Invariant (step state event))
    (exact_guard : ∀ state event, Invariant state → Property state →
      (Property (step state event) ↔ Guard state event))
    {state : σ} (initially : Invariant state) (holds : Property state) (events : List ε) :
    Always step Property state events ↔ Guarded step Guard state events := by
  induction events generalizing state with
  | nil => exact iff_of_true holds trivial
  | cons event events ih =>
      have next := preserved state event initially holds
      have here := exact_guard state event initially holds
      constructor
      · rintro ⟨_, later⟩
        exact ⟨here.mp later.first, (ih next later.first).mp later⟩
      · rintro ⟨guard, later⟩
        exact ⟨holds, (ih next (here.mpr guard)).mpr later⟩

/-- Two guards that agree in every state of an invariant, which guarded steps
keep, are met by the same runs. -/
theorem guarded_iff_guarded {Other : σ → ε → Prop}
    (agree : ∀ state event, Invariant state → (Guard state event ↔ Other state event))
    (kept : ∀ state event, Invariant state → Other state event → Invariant (step state event))
    {state : σ} (initially : Invariant state) (events : List ε) :
    Guarded step Guard state events ↔ Guarded step Other state events := by
  induction events generalizing state with
  | nil => exact Iff.rfl
  | cons event events ih =>
      constructor
      · rintro ⟨here, later⟩
        have other := (agree state event initially).mp here
        exact ⟨other, (ih (kept state event initially other)).mp later⟩
      · rintro ⟨other, later⟩
        exact ⟨(agree state event initially).mpr other,
          (ih (kept state event initially other)).mpr later⟩

/-- A state relation that is reflexive, transitive and extended by every guarded
step relates the two ends of every guarded run. -/
theorem related_of_guarded (Related : σ → σ → Prop)
    (refl : ∀ state, Related state state)
    (trans : ∀ first second third, Related first second → Related second third →
      Related first third)
    (preserved : ∀ state event, Invariant state → Guard state event →
      Invariant (step state event))
    (extended : ∀ state event, Invariant state → Guard state event →
      Related state (step state event))
    {state : σ} (initially : Invariant state) {events : List ε}
    (guarded : Guarded step Guard state events) : Related state (exec step state events) := by
  induction events generalizing state with
  | nil => exact refl state
  | cons event events ih =>
      exact trans _ _ _ (extended state event initially guarded.1)
        (ih (preserved state event initially guarded.1) guarded.2)

end Rules

/-! ## Runs and their outputs -/

section Views

universe x

variable {τ : Type w} {ο : Type x} {step : σ → ε → σ} {emit : σ → ε → List ο}

/-- A run is guarded by a condition on what each step gives out exactly when
all its outputs meet it. -/
theorem guarded_iff_forall_outputs {Condition : ο → Prop} {state : σ} {events : List ε} :
    Guarded step (fun state event => ∀ output ∈ emit state event, Condition output) state events ↔
      ∀ output ∈ outputs step emit state events, Condition output := by
  induction events generalizing state with
  | nil => exact iff_of_true trivial fun _ => (absurd · List.not_mem_nil)
  | cons event events ih =>
      rw [guarded_cons, outputs_cons, List.forall_mem_append, ih]

/-- A view that follows the outputs of each step follows those of a run. -/
theorem exec_outputs {view : σ → τ} {follow : τ → ο → τ}
    (follows : ∀ state event, view (step state event) = exec follow (view state) (emit state event))
    (state : σ) (events : List ε) :
    view (exec step state events) = exec follow (view state) (outputs step emit state events) := by
  induction events generalizing state with
  | nil => rfl
  | cons event events ih => rw [exec_cons, ih, follows, outputs_cons, exec_append]

end Views

/-! ## Two runs -/

section TwoRuns

variable {ο : Type w} {step : σ → ε → σ} {emit : σ → ε → List ο} {Related : σ → σ → Prop}

/-- A relation that every step keeps relates the ends of two runs of the same
events. -/
theorem exec_related
    (preserved : ∀ left right event, Related left right →
      Related (step left event) (step right event))
    {left right : σ} (initially : Related left right) (events : List ε) :
    Related (exec step left events) (exec step right events) := by
  induction events generalizing left right with
  | nil => exact initially
  | cons event events ih => exact ih (preserved left right event initially)

/-- If moreover related states give out the same at every event, so do the two
runs. -/
theorem outputs_eq_of_related
    (preserved : ∀ left right event, Related left right →
      Related (step left event) (step right event))
    (same : ∀ left right event, Related left right → emit left event = emit right event)
    {left right : σ} (initially : Related left right) (events : List ε) :
    outputs step emit left events = outputs step emit right events := by
  induction events generalizing left right with
  | nil => rfl
  | cons event events ih =>
      rw [outputs_cons, outputs_cons, same left right event initially,
        ih (preserved left right event initially)]

end TwoRuns

end EventRun
