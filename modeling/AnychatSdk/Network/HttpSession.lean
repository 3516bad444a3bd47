import AnychatSdk.Network.RequestLifecycle

/-!
# Operations over the HTTP client

The managers run their operations on any thread, and all of them share one HTTP
client.  An operation runs until it has sent its requests; the worker of the
client runs the handler of a response, which may send more.  Seen from one
operation, a session in which any number of others go on is a run of that
operation alone in which its state changes and its requests are answered.
-/

namespace AnychatSdk

/-- The part of a manager that answers a response, with the operation that it
belongs to. -/
abbrev SessionHandler (σ ε ρ : Type) := Nat × (RawResponse → Operation σ ε ρ)

/-- The client, the state of the managers, the number of operations that have
been started, and what was seen of each of them. -/
structure HttpSession (σ ε ρ : Type) where
  client : HttpClient (SessionHandler σ ε ρ)
  state : σ
  started : Nat := 0
  log : List (Nat × AsyncLogEntry HttpRequest RawResponse ε (Outcome ρ)) := []

namespace HttpSession

variable {σ ε ρ : Type}

inductive Event (σ ε ρ : Type) where
  /-- Some thread calls an operation -/
  | start (operation : Operation σ ε ρ)
  /-- Somebody changes the state of the managers -/
  | other (change : σ → σ)
  /-- A step of the client -/
  | client (event : HttpClient.Event (SessionHandler σ ε ρ))

/-- Run the code of an operation to its end. -/
def run (id : Nat) : Operation σ ε ρ → HttpSession σ ε ρ → HttpSession σ ε ρ
  | .stop, session => session
  | .complete outcome rest, session =>
      run id rest { session with log := session.log ++ [(id, .completed outcome)] }
  | .emit output rest, session =>
      run id rest { session with log := session.log ++ [(id, .emitted output)] }
  | .act change next, session =>
      run id (next session.state) { session with state := change session.state }
  | .ask request handler rest, session =>
      run id rest
        { session with
          client := session.client.step (.enqueue request (some (id, handler)))
          log := session.log ++ [(id, .asked request)] }

/-- The response as the handlers read it. -/
def rawResponse (text : List UInt8 → String) (response : TransferResponse) : RawResponse where
  error := response.error
  statusCode := response.statusCode
  body := text response.body

/-- The worker has taken a step: it calls back if the client answers a request. -/
def callBack (text : List UInt8 → String) (session : HttpSession σ ε ρ) :
    List (HttpClient.Output (SessionHandler σ ε ρ)) → HttpSession σ ε ρ
  | [.answered _ (some (id, handler)) response] =>
      run id (handler (rawResponse text response))
        { session with
          log := session.log ++ [(id, .answered (rawResponse text response))] }
  | _ => session

/-- One step.  Operations are not called on a client that is gone, and only they
call `enqueue`. -/
def step (text : List UInt8 → String) (session : HttpSession σ ε ρ) :
    Event σ ε ρ → HttpSession σ ε ρ
  | .start operation =>
      if session.client.destroyed then session
      else
        run session.started operation { session with started := session.started + 1 }
  | .other change => { session with state := change session.state }
  | .client (.enqueue _ _) => session
  | .client event =>
      callBack text { session with client := session.client.step event }
        (session.client.emit event)

theorem step_client (text : List UInt8 → String) (session : HttpSession σ ε ρ)
    {event : HttpClient.Event (SessionHandler σ ε ρ)}
    (given : ∀ request callback, event ≠ .enqueue request callback) :
    session.step text (.client event) =
      callBack text { session with client := session.client.step event }
        (session.client.emit event) := by
  cases event with
  | enqueue request callback => exact absurd rfl (given request callback)
  | _ => rfl

/-! ## One operation -/

/-- The handler of a callback that belongs to an operation. -/
def handlerOf (id : Nat) :
    Option (SessionHandler σ ε ρ) → Option (RawResponse → Operation σ ε ρ)
  | some (owner, handler) => if owner = id then some handler else none
  | none => none

/-- The handlers of the requests of a client that are not answered. -/
def openHandlers (id : Nat) (client : HttpClient (SessionHandler σ ε ρ)) :
    List (RawResponse → Operation σ ε ρ) :=
  client.openCtxs.filterMap (HttpClient.readCtx fun _ => handlerOf id)

/-- What was seen of an operation. -/
def logOf (id : Nat) (session : HttpSession σ ε ρ) :
    List (AsyncLogEntry HttpRequest RawResponse ε (Outcome ρ)) :=
  session.log.filterMap fun entry => if entry.1 = id then some entry.2 else none

/-- A run of an operation alone that looks like the operation in the session. -/
structure Shows (session : HttpSession σ ε ρ) (id : Nat)
    (operation : AsyncRun σ HttpRequest RawResponse ε (Outcome ρ)) : Prop where
  state : operation.state = session.state
  log : operation.log = session.logOf id
  pending : operation.pending.Perm (openHandlers id session.client)

theorem logOf_concat_self (id : Nat) (session : HttpSession σ ε ρ)
    (entry : AsyncLogEntry HttpRequest RawResponse ε (Outcome ρ)) :
    logOf id { session with log := session.log ++ [(id, entry)] } =
      session.logOf id ++ [entry] := by
  simp [logOf]

theorem logOf_concat_of_ne {id other : Nat} (different : other ≠ id)
    (session : HttpSession σ ε ρ)
    (entry : AsyncLogEntry HttpRequest RawResponse ε (Outcome ρ)) :
    logOf id { session with log := session.log ++ [(other, entry)] } = session.logOf id := by
  simp [logOf, different]

section Enqueue

variable {client : HttpClient (SessionHandler σ ε ρ)} (alive : client.destroyed = false)
  (request : HttpRequest)

include alive

theorem step_enqueue (callback : Option (SessionHandler σ ε ρ)) :
    client.step (.enqueue request callback) =
      { client with
        building := client.building ++ [client.context request callback]
        issued := client.issued + 1 } :=
  HttpClient.step_of_alive alive _

/-- A request that is built is open. -/
theorem openHandlers_enqueue (id owner : Nat) (handler : RawResponse → Operation σ ε ρ) :
    (openHandlers id (client.step (.enqueue request (some (owner, handler))))).Perm
      (openHandlers id client ++ if owner = id then [handler] else []) := by
  have moved := (client.move_step (.enqueue request (some (owner, handler)))).balanced
    fun _ => handlerOf id
  have issued : client.emit (.enqueue request (some (owner, handler))) =
      [.issued (client.context request (some (owner, handler)))] := by
    rw [HttpClient.emit, HttpClient.handle, alive]
    rfl
  rw [issued] at moved
  refine moved.trans (.of_eq (congrArg (_ ++ ·) ?_))
  by_cases own : owner = id <;>
    simp [HttpClient.Output.issuedAs, HttpClient.readCtx, HttpClient.context, handlerOf, own]

theorem destroyed_enqueue (callback : Option (SessionHandler σ ε ρ)) :
    (client.step (.enqueue request callback)).destroyed = false := by
  rw [step_enqueue alive]
  exact alive

end Enqueue

/-- The code of an operation does in the session what it does alone. -/
theorem Shows.run {session : HttpSession σ ε ρ} {id : Nat}
    {alone : AsyncRun σ HttpRequest RawResponse ε (Outcome ρ)} (shows' : session.Shows id alone)
    (alive : session.client.destroyed = false) (code : Operation σ ε ρ) :
    (session.run id code).Shows id (code.run alone) := by
  induction code generalizing session alone with
  | stop => exact shows'
  | complete outcome rest ih =>
      refine ih ⟨shows'.state, ?_, shows'.pending⟩ alive
      rw [logOf_concat_self, shows'.log]
  | emit output rest ih =>
      refine ih ⟨shows'.state, ?_, shows'.pending⟩ alive
      rw [logOf_concat_self, shows'.log]
  | act change next ih =>
      rw [AsyncCode.run, HttpSession.run, shows'.state]
      exact ih session.state ⟨rfl, shows'.log, shows'.pending⟩ alive
  | ask request handler rest _ ih =>
      refine ih ⟨shows'.state, ?_, ?_⟩ (destroyed_enqueue alive request _)
      · rw [shows'.log]
        exact (logOf_concat_self id session (.asked request)).symm
      · have enqueued := openHandlers_enqueue alive request id id handler
        rw [if_pos rfl] at enqueued
        exact (shows'.pending.append_right [handler]).trans enqueued.symm

/-- Code of another operation leaves an operation alone, but for the state. -/
structure Apart (id : Nat) (before after : HttpSession σ ε ρ) : Prop where
  log : after.logOf id = before.logOf id
  pending : (openHandlers id after.client).Perm (openHandlers id before.client)

theorem apart_run {id owner : Nat} (different : owner ≠ id) (session : HttpSession σ ε ρ)
    (alive : session.client.destroyed = false) (code : Operation σ ε ρ) :
    Apart id session (session.run owner code) := by
  induction code generalizing session with
  | stop => exact ⟨rfl, .refl _⟩
  | complete outcome rest ih =>
      have later := ih { session with log := session.log ++ [(owner, .completed outcome)] } alive
      exact ⟨later.log.trans (logOf_concat_of_ne different session _), later.pending⟩
  | emit output rest ih =>
      have later := ih { session with log := session.log ++ [(owner, .emitted output)] } alive
      exact ⟨later.log.trans (logOf_concat_of_ne different session _), later.pending⟩
  | act change next ih =>
      have later := ih session.state { session with state := change session.state } alive
      exact ⟨later.log, later.pending⟩
  | ask request handler rest _ ih =>
      have later := ih
        { session with
          client := session.client.step (.enqueue request (some (owner, handler)))
          log := session.log ++ [(owner, .asked request)] } (destroyed_enqueue alive request _)
      have enqueued := openHandlers_enqueue alive request id owner handler
      rw [if_neg different, List.append_nil] at enqueued
      exact ⟨later.log.trans (logOf_concat_of_ne different session _),
        later.pending.trans enqueued⟩

/-! ## Steps -/

theorem Shows.other {session next : HttpSession σ ε ρ} {id : Nat}
    {alone : AsyncRun σ HttpRequest RawResponse ε (Outcome ρ)} (shows' : session.Shows id alone)
    (apart : Apart id session next) :
    next.Shows id (alone.step (.other fun _ => next.state)) :=
  ⟨rfl, shows'.log.trans apart.log.symm, shows'.pending.trans apart.pending.symm⟩

theorem exists_eraseIdx_of_perm_cons {α : Type} {items rest : List α} {item : α}
    (perm : items.Perm (item :: rest)) :
    ∃ index, items[index]? = some item ∧ (items.eraseIdx index).Perm rest := by
  rcases List.append_of_mem (perm.mem_iff.mpr List.mem_cons_self) with ⟨before, after, rfl⟩
  refine ⟨before.length, by simp, ?_⟩
  have shorter : (before ++ item :: after).eraseIdx before.length = before ++ after := by
    simp [List.eraseIdx_append_of_length_le]
  rw [shorter]
  exact (List.perm_middle.symm.trans perm).cons_inv

/-- An answer to a request of the operation. -/
theorem Shows.answer {session : HttpSession σ ε ρ} {id : Nat}
    {alone : AsyncRun σ HttpRequest RawResponse ε (Outcome ρ)} (shows' : session.Shows id alone)
    {client : HttpClient (SessionHandler σ ε ρ)} (alive : client.destroyed = false)
    {handler : RawResponse → Operation σ ε ρ}
    (taken : (handler :: openHandlers id client).Perm (openHandlers id session.client))
    (response : RawResponse) :
    ∃ event, Shows
      (HttpSession.run id (handler response)
        { session with client := client, log := session.log ++ [(id, .answered response)] })
      id (alone.step event) := by
  rcases exists_eraseIdx_of_perm_cons (shows'.pending.trans taken.symm) with ⟨index, found, rest⟩
  refine ⟨.answer index response, ?_⟩
  have answered : alone.step (.answer index response) = (handler response).run
      { alone with
        pending := alone.pending.eraseIdx index
        log := alone.log ++ [.answered response] } := by
    rw [AsyncRun.step, found]
  have log : alone.log ++ [.answered response] =
      logOf id
        { session with client := client, log := session.log ++ [(id, .answered response)] } := by
    rw [shows'.log]
    exact (logOf_concat_self id { session with client := client } (.answered response)).symm
  have before : Shows
      { session with client := client, log := session.log ++ [(id, .answered response)] } id
      { alone with
        pending := alone.pending.eraseIdx index
        log := alone.log ++ [.answered response] } := ⟨shows'.state, log, rest⟩
  rw [answered]
  exact before.run alive (handler response)

/-- Each operation of the session is shown by a run of its own, and what has not
been started is not there. -/
structure Splits (Started : Operation σ ε ρ → Prop) (session : HttpSession σ ε ρ) : Prop where
  shown : ∀ id < session.started, ∃ code state events, Started code ∧
    session.Shows id (EventRun.exec AsyncRun.step (AsyncRun.start code state) events)
  blank : ∀ id, session.started ≤ id →
    session.logOf id = [] ∧ openHandlers id session.client = []

section Splits

variable {Started : Operation σ ε ρ → Prop} {session : HttpSession σ ε ρ}

/-- A step that some operations are shown to take and that leaves the others alone. -/
theorem Splits.of_shows (splits : session.Splits Started) {next : HttpSession σ ε ρ}
    (same : next.started = session.started)
    (moves : ∀ id < session.started, ∀ alone, session.Shows id alone →
      ∃ event, next.Shows id (alone.step event))
    (apart : ∀ id, session.started ≤ id → Apart id session next) : next.Splits Started := by
  constructor
  · intro id started
    rw [same] at started
    rcases splits.shown id started with ⟨code, state, events, known, shows'⟩
    rcases moves id started _ shows' with ⟨event, later⟩
    refine ⟨code, state, events ++ [event], known, ?_⟩
    rwa [EventRun.exec_concat]
  · intro id unstarted
    rw [same] at unstarted
    rcases splits.blank id unstarted with ⟨log, pending⟩
    have left := apart id unstarted
    exact ⟨left.log.trans log, List.perm_nil.mp (pending ▸ left.pending)⟩

theorem started_run (id : Nat) (code : Operation σ ε ρ) (session : HttpSession σ ε ρ) :
    (session.run id code).started = session.started := by
  induction code generalizing session with
  | stop => rfl
  | complete _ _ ih => exact ih _
  | emit _ _ ih => exact ih _
  | act _ _ ih => exact ih _ _
  | ask _ _ _ _ ih => exact ih _

theorem Splits.start (splits : session.Splits Started) (alive : session.client.destroyed = false)
    {code : Operation σ ε ρ} (known : Started code) :
    (HttpSession.run session.started code
      { session with started := session.started + 1 }).Splits Started := by
  let opened : HttpSession σ ε ρ := { session with started := session.started + 1 }
  rcases splits.blank session.started le_rfl with ⟨log, pending⟩
  have apart : ∀ id, session.started ≠ id →
      Apart id session (HttpSession.run session.started code opened) := by
    intro id different
    have later := apart_run different opened alive code
    exact ⟨later.log, later.pending⟩
  constructor
  · intro id started
    rw [started_run] at started
    rcases Nat.lt_or_eq_of_le (Nat.le_of_lt_succ started) with before | rfl
    · rcases splits.shown id before with ⟨other, state, events, known', shows'⟩
      have later := shows'.other (apart id (Nat.ne_of_gt before))
      rw [← EventRun.exec_concat AsyncRun.step] at later
      exact ⟨other, state, _, known', later⟩
    · refine ⟨code, session.state, [], known, ?_⟩
      have idle : opened.Shows session.started ⟨session.state, [], []⟩ :=
        ⟨rfl, log.symm, pending ▸ .refl _⟩
      exact idle.run alive code
  · intro id unstarted
    rw [started_run] at unstarted
    have left := apart id (Nat.ne_of_lt unstarted)
    rcases splits.blank id (Nat.le_of_succ_le unstarted) with ⟨log, pending⟩
    exact ⟨left.log.trans log, List.perm_nil.mp (pending ▸ left.pending)⟩

/-- A step of the client that calls no operation. -/
theorem Splits.quiet (splits : session.Splits Started)
    {client : HttpClient (SessionHandler σ ε ρ)}
    (same : ∀ id, (openHandlers id client).Perm (openHandlers id session.client)) :
    ({ session with client := client } : HttpSession σ ε ρ).Splits Started := by
  have apart : ∀ id, Apart id session { session with client := client } :=
    fun id => ⟨rfl, same id⟩
  exact splits.of_shows rfl (fun id _ alone shows' => ⟨_, shows'.other (apart id)⟩)
    fun id _ => apart id

/-- The worker calls a handler. -/
theorem Splits.answer (splits : session.Splits Started)
    {client : HttpClient (SessionHandler σ ε ρ)} (alive : client.destroyed = false)
    {id : Nat} {handler : RawResponse → Operation σ ε ρ}
    (taken : ∀ other, ((handlerOf other (some (id, handler))).toList ++
      openHandlers other client).Perm (openHandlers other session.client))
    (response : RawResponse) :
    (HttpSession.run id (handler response)
      { session with
        client := client
        log := session.log ++ [(id, .answered response)] }).Splits Started := by
  let called : HttpSession σ ε ρ :=
    { session with client := client, log := session.log ++ [(id, .answered response)] }
  have own : (handler :: openHandlers id client).Perm (openHandlers id session.client) := by
    have mine := taken id
    rwa [handlerOf, if_pos rfl] at mine
  have known : id < session.started := by
    by_contra unstarted
    rcases splits.blank id (Nat.le_of_not_lt unstarted) with ⟨_, none⟩
    rw [none] at own
    exact List.cons_ne_nil _ _ (List.perm_nil.mp own)
  have apart : ∀ other, id ≠ other →
      Apart other session (HttpSession.run id (handler response) called) := by
    intro other different
    have later := apart_run different called alive (handler response)
    have left := taken other
    rw [handlerOf, if_neg different] at left
    exact ⟨later.log.trans (logOf_concat_of_ne different session _), later.pending.trans left⟩
  refine splits.of_shows (started_run id _ called) ?_ ?_
  · intro other _ alone shows'
    by_cases same : id = other
    · subst same
      exact shows'.answer alive own response
    · exact ⟨_, shows'.other (apart other same)⟩
  · intro other unstarted
    exact apart other (Nat.ne_of_lt (Nat.lt_of_lt_of_le known unstarted))

/-- A step of the client that issues nothing. -/
theorem Splits.callBack (splits : session.Splits Started) (text : List UInt8 → String)
    {client : HttpClient (SessionHandler σ ε ρ)}
    {outputs : List (HttpClient.Output (SessionHandler σ ε ρ))}
    (move : session.client.Move client outputs) (unissued : ∀ ctx, .issued ctx ∉ outputs)
    (alive : outputs ≠ [] → client.destroyed = false) :
    (HttpSession.callBack text { session with client := client } outputs).Splits Started := by
  have nothing : ∀ id, outputs.filterMap (HttpClient.Output.issuedAs fun _ => handlerOf id) =
      ([] : List (RawResponse → Operation σ ε ρ)) := by
    intro id
    refine List.filterMap_eq_nil_iff.mpr fun output member => ?_
    cases output with
    | issued ctx => exact absurd member (unissued ctx)
    | received => rfl
    | finished => rfl
    | answered => rfl
  have balanced : ∀ id,
      (outputs.filterMap (HttpClient.Output.answeredAs fun _ => handlerOf id) ++
        openHandlers id client).Perm (openHandlers id session.client) := by
    intro id
    have moved := move.balanced fun _ => handlerOf id
    rwa [nothing, List.append_nil] at moved
  cases move with
  | quiet _ _ _ _ => exact splits.quiet balanced
  | issue _ ctx _ _ _ _ _ => exact absurd List.mem_cons_self (unissued ctx)
  | receive ctx bytes member => exact splits.quiet balanced
  | finish _ ctx result _ _ _ => exact splits.quiet balanced
  | answer _ ctx result _ _ _ =>
      cases called : ctx.callback with
      | none =>
          rw [called] at balanced
          exact splits.quiet balanced
      | some callback =>
          rw [called] at balanced
          refine splits.answer (alive (List.cons_ne_nil _ _)) (fun other => ?_) _
          have one : [HttpClient.Output.answered ctx.serial (some callback)
              (result.response ctx.responseBody)].filterMap
              (HttpClient.Output.answeredAs fun _ => handlerOf other) =
                (handlerOf other (some callback)).toList := by
            rw [List.filterMap_cons]
            cases found : handlerOf other (some callback) <;>
              simp [HttpClient.Output.answeredAs, found]
          exact one ▸ balanced other

/-- A step of the session. -/
theorem Splits.step (splits : session.Splits Started) (text : List UInt8 → String)
    {event : Event σ ε ρ} (known : ∀ code, event = .start code → Started code) :
    (session.step text event).Splits Started := by
  cases event with
  | start code =>
      rw [HttpSession.step]
      split
      · exact splits
      · next alive => exact splits.start (Bool.eq_false_iff.mpr alive) (known code rfl)
  | other change =>
      refine splits.of_shows rfl (fun id _ alone shows' => ⟨_, shows'.other ?_⟩) fun id _ => ?_
      all_goals exact ⟨rfl, .refl _⟩
  | client event =>
      by_cases enqueues : ∃ request callback, event = .enqueue request callback
      · rcases enqueues with ⟨request, callback, rfl⟩
        exact splits
      · have given : ∀ request callback, event ≠ .enqueue request callback :=
          fun request callback same => enqueues ⟨request, callback, same⟩
        rw [step_client text session given]
        exact splits.callBack text (session.client.move_step event)
          (HttpClient.unissued_of_emit given) HttpClient.alive_of_emit

end Splits

/-! ## What the client sees -/

/-- The requests that the operations have sent. -/
def requests (session : HttpSession σ ε ρ) : Nat :=
  session.log.countP (·.2.isRequest)

/-- The calls of `enqueue` that code makes. -/
def enqueues (asked : List (HttpRequest × SessionHandler σ ε ρ)) :
    List (HttpClient.Event (SessionHandler σ ε ρ)) :=
  asked.map fun call => .enqueue call.1 (some call.2)

/-- All that code does to the client is to enqueue requests. -/
theorem exists_asked_run (id : Nat) (code : Operation σ ε ρ) (session : HttpSession σ ε ρ) :
    ∃ asked, (session.run id code).client =
        EventRun.exec HttpClient.step session.client (enqueues asked) ∧
      (session.run id code).requests = session.requests + asked.length := by
  have logged : ∀ (session : HttpSession σ ε ρ)
      (entry : AsyncLogEntry HttpRequest RawResponse ε (Outcome ρ)),
      requests { session with log := session.log ++ [(id, entry)] } =
        session.requests + entry.isRequest.toNat := by
    intro session entry
    rw [requests, List.countP_append]
    cases entry <;> rfl
  induction code generalizing session with
  | stop => exact ⟨[], rfl, rfl⟩
  | complete outcome rest ih =>
      rcases ih { session with log := session.log ++ [(id, .completed outcome)] } with
        ⟨asked, client, count⟩
      exact ⟨asked, client, count.trans (congrArg (· + _) (logged session (.completed outcome)))⟩
  | emit output rest ih =>
      rcases ih { session with log := session.log ++ [(id, .emitted output)] } with
        ⟨asked, client, count⟩
      exact ⟨asked, client, count.trans (congrArg (· + _) (logged session (.emitted output)))⟩
  | act change next ih =>
      exact ih session.state { session with state := change session.state }
  | ask request handler rest _ ih =>
      rcases ih
        { session with
          client := session.client.step (.enqueue request (some (id, handler)))
          log := session.log ++ [(id, .asked request)] } with ⟨asked, client, count⟩
      refine ⟨(request, id, handler) :: asked, client, ?_⟩
      have one := logged
        { session with client := session.client.step (.enqueue request (some (id, handler))) }
        (.asked request)
      have total := count.trans (congrArg (· + asked.length) one)
      rw [HttpSession.run, total, List.length_cons]
      change session.requests + 1 + asked.length = _
      omega

/-- A step of the client, and what the code that it calls enqueues. -/
theorem exists_asked_step (text : List UInt8 → String) (session : HttpSession σ ε ρ)
    {event : HttpClient.Event (SessionHandler σ ε ρ)}
    (given : ∀ request callback, event ≠ .enqueue request callback) :
    ∃ asked, (session.step text (.client event)).client =
        EventRun.exec HttpClient.step (session.client.step event) (enqueues asked) ∧
      (session.step text (.client event)).requests = session.requests + asked.length ∧
      (session.step text (.client event)).started = session.started := by
  rw [step_client text session given]
  unfold HttpSession.callBack
  split
  · next _ id handler response _ =>
      let called : HttpSession σ ε ρ :=
        { session with
          client := session.client.step event
          log := session.log ++ [(id, .answered (rawResponse text response))] }
      rcases exists_asked_run id (handler (rawResponse text response)) called with
        ⟨asked, client, count⟩
      have unasked : called.requests = session.requests := by
        simp [requests, called, AsyncLogEntry.isRequest]
      exact ⟨asked, client, count.trans (congrArg (· + _) unasked), started_run id _ called⟩
  · exact ⟨[], rfl, rfl, rfl⟩

/-! ## The client goes on -/

section Progress

variable (text : List UInt8 → String) (results : Nat → TransferResult)
  {session : HttpSession σ ε ρ}

/-- The session after some steps of the client. -/
def goOn (session : HttpSession σ ε ρ)
    (events : List (HttpClient.Event (SessionHandler σ ε ρ))) : HttpSession σ ε ρ :=
  EventRun.exec (step text) session (events.map .client)

/-- The client has not been told to stop. -/
structure Working (client : HttpClient (SessionHandler σ ε ρ)) : Prop where
  regular : client.Regular
  running : client.running = true

theorem Working.step {client : HttpClient (SessionHandler σ ε ρ)} (working : Working client)
    {event : HttpClient.Event (SessionHandler σ ε ρ)} (given : event ≠ .stop) :
    Working (client.step event) :=
  ⟨working.regular.step event, (HttpClient.running_step given).trans working.running⟩

theorem Working.enqueues {client : HttpClient (SessionHandler σ ε ρ)} (working : Working client)
    (asked : List (HttpRequest × SessionHandler σ ε ρ)) :
    Working (EventRun.exec HttpClient.step client (HttpSession.enqueues asked)) := by
  induction asked generalizing client with
  | nil => exact working
  | cons call asked ih => exact ih (working.step nofun)

/-- The session follows the client until an operation sends another request. -/
theorem exists_goOn (working : Working session.client)
    (events : List (HttpClient.Event (SessionHandler σ ε ρ)))
    (goesOn : ∀ event ∈ events, event.GoesOn results) :
    ∃ done, (∀ event ∈ done, event.GoesOn results) ∧
      Working (goOn text session done).client ∧
      (goOn text session done).started = session.started ∧
      (session.requests < (goOn text session done).requests ∨
        (goOn text session done).client =
          EventRun.exec HttpClient.step session.client events) := by
  induction events generalizing session with
  | nil => exact ⟨[], goesOn, working, rfl, .inr rfl⟩
  | cons event events ih =>
      rw [List.forall_mem_cons] at goesOn
      rcases goesOn with ⟨here, later⟩
      have given : ∀ request callback, event ≠ .enqueue request callback := by
        rintro request callback rfl
        exact here
      have unstopped : event ≠ .stop := by
        rintro rfl
        exact here
      rcases exists_asked_step text session given with ⟨asked, client, count, started⟩
      have working' : Working (session.step text (.client event)).client :=
        client ▸ (working.step unstopped).enqueues asked
      cases asked with
      | cons call asked =>
          refine ⟨[event], by simpa using here, working', started, .inl ?_⟩
          change session.requests < (session.step text (.client event)).requests
          rw [count, List.length_cons]
          omega
      | nil =>
          rcases ih working' later with ⟨done, all, working'', same, reached⟩
          refine ⟨event :: done, List.forall_mem_cons.mpr ⟨here, all⟩, working'',
            same.trans started, reached.imp (fun more => ?_) fun last => ?_⟩
          · exact Nat.lt_of_le_of_lt (Nat.le_of_eq count.symm) more
          · exact last.trans (congrArg (EventRun.exec HttpClient.step · events) client)

end Progress

/-! ## Exactly once -/

/-- An operation of the session as a run of its own. -/
def alone (session : HttpSession σ ε ρ) (id : Nat) :
    AsyncRun σ HttpRequest RawResponse ε (Outcome ρ) where
  state := session.state
  pending := openHandlers id session.client
  log := session.logOf id

theorem Shows.alone_completesOnce {session : HttpSession σ ε ρ} {id bound : Nat}
    {operation : AsyncRun σ HttpRequest RawResponse ε (Outcome ρ)}
    (shows' : session.Shows id operation) (once : operation.CompletesOnce bound) :
    (session.alone id).CompletesOnce bound := by
  have completions : (session.alone id).completions = operation.completions :=
    congrArg (List.countP _) shows'.log.symm
  have requests : (session.alone id).requests = operation.requests :=
    congrArg (List.countP _) shows'.log.symm
  have answers : (session.alone id).answers = operation.answers :=
    congrArg (List.countP _) shows'.log.symm
  constructor
  · rw [completions]
    exact once.completions_le
  · intro none
    rw [completions]
    refine once.completed (List.perm_nil.mp ?_)
    exact shows'.pending.trans (.of_eq none)
  · rw [requests]
    exact once.requests_le
  · rw [requests, answers, once.answered]
    exact congrArg (_ + ·) shows'.pending.length_eq

section Bounded

variable {Started : Operation σ ε ρ → Prop} {session : HttpSession σ ε ρ} {bound : Nat}

theorem Splits.alone_completesOnce (splits : session.Splits Started)
    (completes : ∀ code, Started code → code.CompletesWithin bound) {id : Nat}
    (started : id < session.started) : (session.alone id).CompletesOnce bound := by
  rcases splits.shown id started with ⟨code, state, events, known, shows'⟩
  exact shows'.alone_completesOnce (AsyncRun.completesOnce_exec (completes code known) state events)

/-- The requests of the first operations. -/
def requestsBelow (session : HttpSession σ ε ρ) (count : Nat) : Nat :=
  session.log.countP fun entry => entry.2.isRequest && decide (entry.1 < count)

theorem requestsBelow_succ (session : HttpSession σ ε ρ) (count : Nat) :
    session.requestsBelow (count + 1) =
      session.requestsBelow count + (session.alone count).requests := by
  rw [requestsBelow, requestsBelow, AsyncRun.requests, alone, logOf]
  induction session.log with
  | nil => rfl
  | cons entry log ih =>
      rw [List.countP_cons, List.countP_cons, List.filterMap_cons, ih]
      by_cases own : entry.1 = count
      · simp only [own, Nat.lt_succ_self, Nat.lt_irrefl, decide_true, decide_false, Bool.and_true,
          Bool.and_false, if_true, List.countP_cons, Bool.false_eq_true, if_false]
        omega
      · have same : entry.1 < count + 1 ↔ entry.1 < count := by omega
        simp only [own, same, if_false]
        omega

theorem Splits.requestsBelow_le (splits : session.Splits Started)
    (completes : ∀ code, Started code → code.CompletesWithin bound) {count : Nat}
    (le : count ≤ session.started) : session.requestsBelow count ≤ bound * count := by
  induction count with
  | zero => simp [requestsBelow]
  | succ count ih =>
      rw [requestsBelow_succ, Nat.mul_succ]
      exact Nat.add_le_add (ih (Nat.le_of_succ_le le))
        (splits.alone_completesOnce completes le).requests_le

/-- All requests are those of the operations that have been started. -/
theorem Splits.requests_le (splits : session.Splits Started)
    (completes : ∀ code, Started code → code.CompletesWithin bound) :
    session.requests ≤ bound * session.started := by
  have all : session.requests = session.requestsBelow session.started := by
    refine List.countP_congr fun entry member => ?_
    have known : entry.1 < session.started := by
      by_contra unstarted
      have none := (splits.blank entry.1 (Nat.le_of_not_lt unstarted)).1
      rw [logOf, List.filterMap_eq_nil_iff] at none
      exact absurd (none entry member) (by rw [if_pos rfl]; nofun)
    simp [known]
  rw [all]
  exact splits.requestsBelow_le completes le_rfl

end Bounded

section Runs

variable (text : List UInt8 → String) (baseUrl : String) (state : σ)

/-- A session before its first operation. -/
def fresh : HttpSession σ ε ρ where
  client := HttpClient.fresh baseUrl
  state := state

/-- The session after some events. -/
def after (events : List (Event σ ε ρ)) : HttpSession σ ε ρ :=
  EventRun.exec (step text) (fresh baseUrl state) events

theorem splits_fresh (Started : Operation σ ε ρ → Prop) :
    (fresh baseUrl state).Splits Started :=
  ⟨fun _ started => absurd started (Nat.not_lt_zero _), fun _ _ => ⟨rfl, rfl⟩⟩

theorem splits_after (events : List (Event σ ε ρ)) :
    (after text baseUrl state events).Splits (.start · ∈ events) := by
  have known : ∀ event ∈ events, ∀ code, event = .start code → .start code ∈ events :=
    fun event member code same => same ▸ member
  exact EventRun.exec_invariant_of_guarded
    (fun session event splits given => splits.step text given)
    (splits_fresh baseUrl state _) (EventRun.Guarded.of_forall known)

theorem regular_exec {client : HttpClient (SessionHandler σ ε ρ)} (regular : client.Regular)
    (events : List (HttpClient.Event (SessionHandler σ ε ρ))) :
    (EventRun.exec HttpClient.step client events).Regular :=
  EventRun.exec_invariant (fun _ event regular => regular.step event) regular events

theorem regular_step {session : HttpSession σ ε ρ} (regular : session.client.Regular)
    (event : Event σ ε ρ) : (session.step text event).client.Regular := by
  cases event with
  | start code =>
      rw [step]
      split
      · exact regular
      · rcases exists_asked_run session.started code
          { session with started := session.started + 1 } with ⟨asked, client, _⟩
        rw [client]
        exact regular_exec regular _
  | other change => exact regular
  | client event =>
      by_cases given : ∀ request callback, event ≠ .enqueue request callback
      · rcases exists_asked_step text session given with ⟨asked, client, _⟩
        rw [client]
        exact regular_exec (regular.step event) _
      · push Not at given
        rcases given with ⟨request, callback, rfl⟩
        exact regular

theorem regular_after (events : List (Event σ ε ρ)) :
    (after text baseUrl state events).client.Regular := by
  have initially : (fresh baseUrl state : HttpSession σ ε ρ).client.Regular :=
    HttpClient.regular_fresh baseUrl
  have preserved : ∀ (session : HttpSession σ ε ρ) (event : Event σ ε ρ),
      session.client.Regular → (session.step text event).client.Regular :=
    fun session event regular => regular_step text regular event
  exact EventRun.exec_invariant preserved initially events

theorem Splits.goOn {Started : Operation σ ε ρ → Prop} {session : HttpSession σ ε ρ}
    (splits : session.Splits Started)
    (events : List (HttpClient.Event (SessionHandler σ ε ρ))) :
    (HttpSession.goOn text session events).Splits Started := by
  induction events generalizing session with
  | nil => exact splits
  | cons event events ih => exact ih (splits.step text nofun)

/-- While the client works, it has only to go on to answer every request. -/
theorem exists_settled {Started : Operation σ ε ρ → Prop} {bound : Nat}
    (completes : ∀ code, Started code → code.CompletesWithin bound)
    (results : Nat → TransferResult) {session : HttpSession σ ε ρ}
    (splits : session.Splits Started) (working : Working session.client) :
    ∃ events, (∀ event ∈ events, event.GoesOn results) ∧
      (goOn text session events).started = session.started ∧
      (goOn text session events).client.openCtxs = [] := by
  -- Each round answers everything, or sends one of the requests that are left.
  induction remaining : bound * session.started - session.requests using Nat.strong_induction_on
    generalizing session with
  | h number ih =>
      rcases HttpClient.reaches_settled results working.regular working.running with
        ⟨round, goesOn, reached⟩
      rcases exists_goOn text results working round goesOn with
        ⟨first, all, working', started, more | settled⟩
      · have splits' := splits.goOn text first
        have most := splits'.requests_le completes
        rw [started] at most
        have fewer : bound * (goOn text session first).started -
            (goOn text session first).requests < number := by
          rw [started]
          omega
        rcases ih _ fewer splits' working' rfl with ⟨rest, later, same, none⟩
        have joined : goOn text session (first ++ rest) =
            goOn text (goOn text session first) rest := by
          rw [goOn, List.map_append, EventRun.exec_append]
          rfl
        refine ⟨first ++ rest, List.forall_mem_append.mpr ⟨all, later⟩, ?_, ?_⟩
        · rw [joined, same, started]
        · rw [joined, none]
      · refine ⟨first, all, started, ?_⟩
        rw [settled, reached]
        rfl

/-- Any number of operations over one client.  Each one completes at most once,
exactly once if none of its requests is open, and sends no more requests than it
would alone; and until the destructor of the client begins, threads and worker have
only to go on to make every operation complete, however the transfers end. -/
theorem operations_complete {bound : Nat} {events : List (Event σ ε ρ)}
    (completes : ∀ code, .start code ∈ events → code.CompletesWithin bound) :
    let session := after text baseUrl state events
    (∀ id < session.started, (session.alone id).CompletesOnce bound) ∧
      (session.client.running = true → ∀ results, ∃ later,
        (∀ event ∈ later, event.GoesOn results) ∧
          ∀ id < session.started, ((goOn text session later).alone id).completions = 1) := by
  intro session
  have splits : session.Splits (.start · ∈ events) := splits_after text baseUrl state events
  refine ⟨fun id started => splits.alone_completesOnce completes started, ?_⟩
  intro running results
  have working : Working session.client := ⟨regular_after text baseUrl state events, running⟩
  rcases exists_settled text completes results splits working with ⟨later, goesOn, same, none⟩
  refine ⟨later, goesOn, fun id started => ?_⟩
  have once := (splits.goOn text later).alone_completesOnce completes (same ▸ started)
  refine once.completed ?_
  rw [alone, openHandlers, none]
  rfl

end Runs

/-! ## Starts -/

section Started

variable (text : List UInt8 → String) {session : HttpSession σ ε ρ}

theorem destroyed_run {id : Nat} {code : Operation σ ε ρ}
    (alive : (session.run id code).client.destroyed = false) :
    session.client.destroyed = false := by
  induction code generalizing session with
  | stop => exact alive
  | complete _ _ ih | emit _ _ ih =>
      have kept := ih alive
      exact kept
  | act _ _ ih =>
      have kept := ih _ alive
      exact kept
  | ask request handler _ _ ih =>
      by_contra gone
      have gone : session.client.destroyed = true := Bool.eq_true_of_not_eq_false gone
      refine absurd (ih alive) ?_
      change ¬(session.client.step _).destroyed = false
      rw [HttpClient.step, HttpClient.handle, gone]
      exact fun same => Bool.noConfusion (gone.symm.trans same)

/-- A client that exists after a step existed before, and calls are counted. -/
theorem started_step {event : Event σ ε ρ}
    (alive : (session.step text event).client.destroyed = false) :
    session.client.destroyed = false ∧
      (session.step text event).started =
        session.started + (match event with | .start _ => 1 | _ => 0) := by
  cases event with
  | other change => exact ⟨alive, rfl⟩
  | start code =>
      by_cases gone : session.client.destroyed = true
      · rw [step, if_pos gone, gone] at alive
        cases alive
      · refine ⟨Bool.eq_false_iff.mpr gone, ?_⟩
        rw [step, if_neg gone, started_run]
  | client event =>
      by_cases enqueued : ∃ request callback, event = .enqueue request callback
      · rcases enqueued with ⟨request, callback, rfl⟩
        exact ⟨alive, rfl⟩
      · have given : ∀ request callback, event ≠ .enqueue request callback :=
          fun request callback same => enqueued ⟨request, callback, same⟩
        have moved : ∀ outputs, (callBack text
            { session with client := session.client.step event } outputs).client.destroyed = false →
            (session.client.step event).destroyed = false := by
          intro outputs alive
          unfold callBack at alive
          split at alive
          · exact destroyed_run alive
          · exact alive
        have counted : ∀ outputs, (callBack text
            { session with client := session.client.step event } outputs).started =
              session.started := by
          intro outputs
          unfold callBack
          split
          · exact started_run _ _ _
          · rfl
        rw [session.step_client text given] at alive ⊢
        refine ⟨?_, counted _⟩
        by_contra gone
        have gone : session.client.destroyed = true := Bool.eq_true_of_not_eq_false gone
        have alive := moved _ alive
        rw [HttpClient.step, HttpClient.handle, gone] at alive
        exact Bool.noConfusion (gone.symm.trans alive)

end Started

end HttpSession

end AnychatSdk
