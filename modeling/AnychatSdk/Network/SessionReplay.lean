import AnychatSdk.Lib.AsyncReplay
import AnychatSdk.Network.RequestOrigins

/-!
# Replays of sessions

What a session makes of a view of the state, if each operation changes the view
only as its responses tell it to, is a replay of what has happened: the responses
in the order in which the worker has called their handlers, and the changes that
others have made in between.
-/

namespace AnychatSdk

namespace HttpSession

variable {σ ε ρ ω : Type}

/-- What bears on a view of the state. -/
inductive Happened (ω : Type) where
  | answered (id : Nat) (raw : RawResponse)
  | changed (view : ω)

/-- The operation that a step of the client calls back. -/
def answeredBy (text : List UInt8 → String) :
    List (HttpClient.Output (SessionHandler σ ε ρ)) → List (Happened ω)
  | [.answered _ (some (id, _)) response] => [.answered id (rawResponse text response)]
  | _ => []

/-- At most one operation is called back in a step. -/
theorem answeredBy_cases (text : List UInt8 → String)
    (outputs : List (HttpClient.Output (SessionHandler σ ε ρ))) :
    answeredBy text outputs = ([] : List (Happened ω)) ∨
      ∃ id raw, answeredBy text outputs = [(.answered id raw : Happened ω)] := by
  unfold answeredBy
  split
  · exact .inr ⟨_, _, rfl⟩
  · exact .inl rfl

def happens (view : σ → ω) (text : List UInt8 → String) (session : HttpSession σ ε ρ) :
    Event σ ε ρ → List (Happened ω)
  | .start _ => []
  | .other change => [.changed (view (change session.state))]
  | .client event => answeredBy text (session.client.emit event)

/-- A view after one more thing has happened. -/
def Happened.apply (writes : Nat → RawResponse → ω → ω) (kept : ω) : Happened ω → ω
  | .answered id raw => writes id raw kept
  | .changed view => view

/-- The operations that a list of events starts. -/
def Event.operation? : Event σ ε ρ → Option (Operation σ ε ρ)
  | .start operation => some operation
  | .other _ => none
  | .client _ => none

variable (view : σ → ω) (writes : Nat → RawResponse → ω → ω)

/-- Each handler of a request that is open will do what its operation does. -/
def Handles (client : HttpClient (SessionHandler σ ε ρ)) : Prop :=
  ∀ ctx ∈ client.openCtxs, ∀ id handler, ctx.callback = some (id, handler) →
    ∀ raw, (handler raw).Does view (writes id) (writes id raw)

variable {view writes}

section Steps

variable {client : HttpClient (SessionHandler σ ε ρ)}

theorem Handles.issue (handles : Handles view writes client)
    (event : HttpClient.Event (SessionHandler σ ε ρ))
    (issued : ∀ ctx, .issued ctx ∈ client.emit event → ∀ id handler,
      ctx.callback = some (id, handler) →
        ∀ raw, (handler raw).Does view (writes id) (writes id raw)) :
    Handles view writes (client.step event) :=
  (client.move_step event).forall_openCtxs (fun _ _ held => held) issued handles

/-- Code that does something leaves handlers that do what they should. -/
theorem handles_run (session : HttpSession σ ε ρ) (handles : Handles view writes session.client)
    {id : Nat} {code : Operation σ ε ρ} {effect : ω → ω}
    (does : code.Does view (writes id) effect) :
    Handles view writes (session.run id code).client ∧
      view (session.run id code).state = effect (view session.state) := by
  induction code generalizing session effect with
  | stop =>
      cases does
      exact ⟨handles, rfl⟩
  | complete outcome rest ih =>
      exact ih { session with log := session.log ++ [(id, .completed outcome)] } handles does
  | emit output rest ih =>
      exact ih { session with log := session.log ++ [(id, .emitted output)] } handles does
  | act change next ih =>
      rcases does with ⟨first, later, rfl, now, then'⟩
      have kept := ih session.state { session with state := change session.state } handles
        (then' session.state)
      exact ⟨kept.1, kept.2.trans (congrArg later (now session.state))⟩
  | ask request handler rest _ ih =>
      refine ih { session with
        client := session.client.step (.enqueue request (some (id, handler)))
        log := session.log ++ [(id, .asked request)] } ?_ does.2
      refine handles.issue (.enqueue request (some (id, handler))) ?_
      intro ctx issued owner own called
      obtain rfl := HttpClient.eq_context_of_issued issued
      cases called
      exact does.1

/-- The handler that a step of the client calls was open. -/
theorem Handles.does_of_answered (handles : Handles view writes client)
    {next : HttpClient (SessionHandler σ ε ρ)} {serial id : Nat}
    {handler : RawResponse → Operation σ ε ρ} {response : TransferResponse}
    (move : client.Move next [.answered serial (some (id, handler)) response])
    (raw : RawResponse) : (handler raw).Does view (writes id) (writes id raw) := by
  generalize answered : [HttpClient.Output.answered serial (some (id, handler)) response] =
    outputs at move
  cases move with
  | answer next ctx result _ done _ =>
      simp only [List.cons.injEq, HttpClient.Output.answered.injEq, and_true] at answered
      refine handles ctx (HttpClient.mem_openCtxs.mpr (.inr ⟨result, ?_⟩)) id handler
        answered.2.1.symm raw
      exact done ▸ List.mem_cons_self
  | quiet | issue | receive | finish => cases answered

theorem Handles.callBack (handles : Handles view writes client)
    {next : HttpClient (SessionHandler σ ε ρ)} (later : Handles view writes next)
    {outputs : List (HttpClient.Output (SessionHandler σ ε ρ))} (move : client.Move next outputs)
    (text : List UInt8 → String) (session : HttpSession σ ε ρ) :
    Handles view writes (callBack text { session with client := next } outputs).client ∧
      view (callBack text { session with client := next } outputs).state =
        (answeredBy text outputs).foldl (Happened.apply writes) (view session.state) := by
  unfold HttpSession.callBack
  split
  · next serial id handler response =>
      exact handles_run _ later (handles.does_of_answered move (rawResponse text response))
  · next unanswered =>
      have nothing : answeredBy text outputs = ([] : List (Happened ω)) := by
        unfold answeredBy
        split
        · next serial id handler response =>
            exact absurd rfl (unanswered serial id handler response)
        · rfl
      rw [nothing]
      exact ⟨later, rfl⟩

/-- One step, in which only an operation that does nothing to the view at first is
started. -/
theorem handles_step {session : HttpSession σ ε ρ} (handles : Handles view writes session.client)
    (text : List UInt8 → String) (event : Event σ ε ρ)
    (started : session.client.destroyed = false → ∀ operation, event = .start operation →
      AsyncCode.Does view (writes session.started) operation id) :
    Handles view writes (session.step text event).client ∧
      view (session.step text event).state =
        (session.happens view text event).foldl (Happened.apply writes) (view session.state) := by
  cases event with
  | other change => exact ⟨handles, rfl⟩
  | start operation =>
      by_cases gone : session.client.destroyed = true
      · rw [HttpSession.step, if_pos gone]
        exact ⟨handles, rfl⟩
      · rw [HttpSession.step, if_neg gone]
        exact handles_run { session with started := session.started + 1 } handles
          (started (Bool.eq_false_iff.mpr gone) operation rfl)
  | client event =>
      by_cases enqueued : ∃ request callback, event = .enqueue request callback
      · rcases enqueued with ⟨request, callback, rfl⟩
        refine ⟨handles, ?_⟩
        rw [happens, HttpClient.emit, HttpClient.handle]
        split <;> rfl
      · have given : ∀ request callback, event ≠ .enqueue request callback :=
          fun request callback same => enqueued ⟨request, callback, same⟩
        rw [session.step_client text given]
        refine handles.callBack (handles.issue event ?_) (session.client.move_step event) text
          session
        exact fun ctx issued => absurd issued (HttpClient.unissued_of_emit given ctx)

end Steps

/-! ## Runs -/

/-- The operations that are started do what `writes` says, and nothing at first. -/
def Announced (view : σ → ω) (writes : Nat → RawResponse → ω → ω) (session : HttpSession σ ε ρ)
    (events : List (Event σ ε ρ)) : Prop :=
  session.client.destroyed = false → ∀ (index : Nat) (operation : Operation σ ε ρ),
    (events.filterMap Event.operation?)[index]? = some operation →
      operation.Does view (writes (session.started + index)) id

section Runs

variable (text : List UInt8 → String) {session : HttpSession σ ε ρ}

theorem Announced.head {event : Event σ ε ρ} {events : List (Event σ ε ρ)}
    (announced : session.Announced view writes (event :: events))
    (alive : session.client.destroyed = false) (operation : Operation σ ε ρ)
    (started : event = .start operation) :
    AsyncCode.Does view (writes session.started) operation id := by
  subst started
  exact announced alive 0 operation rfl

theorem Announced.tail {event : Event σ ε ρ} {events : List (Event σ ε ρ)}
    (announced : session.Announced view writes (event :: events)) :
    (session.step text event).Announced view writes events := by
  intro alive index operation listed
  rcases started_step text alive with ⟨before, counted⟩
  rw [counted]
  cases event with
  | start first =>
      rw [Nat.add_assoc, Nat.add_comm 1]
      exact announced before (index + 1) operation listed
  | other change => exact announced before index operation listed
  | client event => exact announced before index operation listed

variable {events : List (Event σ ε ρ)}

/-- Every run of a session is a replay of what has happened in it. -/
theorem view_exec (handles : Handles view writes session.client)
    (announced : session.Announced view writes events) :
    view (EventRun.exec (step text) session events).state =
      (EventRun.outputs (step text) (happens view text) session events).foldl
        (Happened.apply writes) (view session.state) := by
  induction events generalizing session with
  | nil => rfl
  | cons event events ih =>
      have stepped := handles_step handles text event announced.head
      rw [EventRun.exec_cons, EventRun.outputs_cons, List.foldl_append, ← stepped.2]
      exact ih stepped.1 (announced.tail text)

/-- A preorder that all responses and all others go along with. -/
theorem rel_exec {Le : ω → ω → Prop} (le_refl : ∀ kept, Le kept kept)
    (le_trans : ∀ {first middle last}, Le first middle → Le middle last → Le first last)
    (le_writes : ∀ id raw kept, Le kept (writes id raw kept))
    (le_others : ∀ change, .other change ∈ events → ∀ state, Le (view state) (view (change state)))
    (handles : Handles view writes session.client)
    (announced : session.Announced view writes events) :
    Le (view session.state) (view (EventRun.exec (step text) session events).state) := by
  induction events generalizing session with
  | nil => exact le_refl _
  | cons event events ih =>
      have stepped := handles_step handles text event announced.head
      have moved : Le (view session.state) (view (session.step text event).state) := by
        cases event with
        | other change => exact le_others change List.mem_cons_self session.state
        | start operation =>
            rw [stepped.2]
            exact le_refl _
        | client event =>
            rw [stepped.2, happens]
            rcases answeredBy_cases text (session.client.emit event) with none | ⟨id, raw, one⟩
            · rw [none]
              exact le_refl _
            · rw [one]
              exact le_writes id raw _
      refine le_trans moved (ih (fun change member => ?_) stepped.1 (announced.tail text))
      exact le_others change (List.mem_cons_of_mem _ member)

theorem handles_fresh (baseUrl : String) (state : σ) :
    Handles view writes (fresh baseUrl state : HttpSession σ ε ρ).client :=
  nofun

end Runs

/-- What holds after a replay held at first, or some response or somebody else has
brought it. -/
theorem Happened.origin (Holds : ω → Prop) {Brings : Nat → RawResponse → Prop}
    (brought : ∀ id raw kept, Holds (writes id raw kept) → Holds kept ∨ Brings id raw)
    {happened : List (Happened ω)} {start : ω}
    (holds : Holds (happened.foldl (Happened.apply writes) start)) :
    Holds start ∨ (∃ id raw, .answered id raw ∈ happened ∧ Brings id raw) ∨
      ∃ kept, .changed kept ∈ happened ∧ Holds kept := by
  induction happened generalizing start with
  | nil => exact .inl holds
  | cons first rest ih =>
      rcases ih holds with before | ⟨id, raw, listed, brings⟩ | ⟨kept, listed, held⟩
      · cases first with
        | changed kept => exact .inr (.inr ⟨kept, List.mem_cons_self, before⟩)
        | answered id raw =>
            rcases brought id raw start before with initially | brings
            · exact .inl initially
            · exact .inr (.inl ⟨id, raw, List.mem_cons_self, brings⟩)
      · exact .inr (.inl ⟨id, raw, List.mem_cons_of_mem first listed, brings⟩)
      · exact .inr (.inr ⟨kept, List.mem_cons_of_mem first listed, held⟩)

end HttpSession

end AnychatSdk
