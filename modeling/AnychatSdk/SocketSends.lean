import AnychatSdk.EnqueueRace
import AnychatSdk.Network.SendQueue
import Mathlib.Data.Fintype.Basic

/-!
# The outbound queue on its socket

The send function puts a frame into the queue of the socket, where it stays when
a connection ends, and every connection that comes up sends each row of the table
again.  So a message can be queued twice, or still be queued when its
acknowledgement comes.  The condition below excludes these cases at the steps
where they begin.
-/

namespace AnychatSdk

open SocketLogEntry (acked)

/-! ## Runs -/

/-- Calls of `enqueue` in threads of their own, and the thread of the event loop,
which delivers the events of the socket and runs `onConnected`. -/
structure SocketRun (ι : Type) where
  client : Client
  socket : SendingSocket := {}
  enqueues : ι → EnqueuePoint := fun _ => .called
  connect : ConnectPoint := .returned
  readyCalls : Nat := 0

/-- `connect` is the next step of `onConnected`; `messageSent` is a
`message.sent` notification on a connection, `disconnected` the call of
`onDisconnected` that a logout makes. -/
inductive SocketEvent (ι : Type) where
  | enqueue (caller : ι)
  | disconnected
  | transient (frame : { frame : Frame // frame.sentId = none })
  | work
  | connect
  | loop (event : LoopEvent)
  | writeable (handle : Nat)
  | messageSent (handle : Nat) (localId : String)

/-- The event makes the loop call the user's handler for a connection. -/
def EventLoop.Establishes (loop : EventLoop) : LoopEvent → Prop
  | .established handle => loop.point = .serving ∧ handle ∈ loop.socket.attempting
  | _ => False

instance EventLoop.decidableEstablishes (loop : EventLoop) :
    ∀ event, Decidable (loop.Establishes event)
  | .established _ => inferInstanceAs (Decidable (_ ∧ _))
  | .connect | .disconnect | .connectionError _ | .closed _ | .turn | .wake => .isFalse id

namespace SocketRun

variable {ι : Type}

/-- The client moves on; every send function calls `send` of the socket. -/
def move (client : Client) (run : SocketRun ι) : SocketRun ι :=
  { run with
    client := client
    socket := (run.client.sentSince client).foldl (fun socket frame => socket.send frame)
      run.socket }

/-- The library delivers an event of the connection: the thread of the loop is
not inside `onConnected`. -/
def Delivers (handle : Nat) (run : SocketRun ι) : Prop :=
  run.connect = .returned ∧ run.socket.Serves handle

instance decidableDelivers (handle : Nat) (run : SocketRun ι) : Decidable (run.Delivers handle) :=
  inferInstanceAs (Decidable (_ ∧ _))

/-- `connect` and `disconnect` come from other threads; a loop that is inside
`onConnected` is running, so that `connect` has no effect on it. -/
def onLoop (event : LoopEvent) (run : SocketRun ι) : SocketRun ι :=
  if run.connect = .returned then
    { run with
      socket := run.socket.onLoop event
      connect := if run.socket.loop.Establishes event then .called else .returned
      readyCalls :=
        if run.socket.loop.Establishes event then run.readyCalls + 1 else run.readyCalls }
  else if event = .disconnect then { run with socket := run.socket.onLoop event }
  else run

def onWriteable (handle : Nat) (run : SocketRun ι) : SocketRun ι :=
  if run.Delivers handle then { run with socket := run.socket.onWriteable handle } else run

/-- An acknowledgement without a `local_id` is passed over. -/
def onMessageSent (handle : Nat) (localId : String) (run : SocketRun ι) : SocketRun ι :=
  if run.Delivers handle then
    let run := run.move (run.client.onMessageSentAck localId)
    if localId = "" then run else { run with socket := run.socket.noteAck localId }
  else run

def step [DecidableEq ι] (calls : ι → EnqueueCall) (run : SocketRun ι) :
    SocketEvent ι → SocketRun ι
  | .enqueue caller =>
      let (point, client) := (calls caller).step run.client (run.enqueues caller)
      { run.move client with enqueues := Function.update run.enqueues caller point }
  | .disconnected => run.move run.client.onDisconnected
  | .transient frame => run.move (run.client.sendTransient frame).2
  | .work =>
      let (point, client) := run.connect.work run.client
      { run.move client with connect := point }
  | .connect =>
      let (point, client) := run.connect.step run.readyCalls run.client
      { run.move client with connect := point }
  | .loop event => run.onLoop event
  | .writeable handle => run.onWriteable handle
  | .messageSent handle localId => run.onMessageSent handle localId

/-! ## The condition -/

/-- A call of `enqueue` for the message has posted its row and may still send
it. -/
def Enqueuing (calls : ι → EnqueueCall) (localId : String) (run : SocketRun ι) : Prop :=
  ∃ caller, (calls caller).localId = localId ∧
    (run.enqueues caller = .inserted ∨ run.enqueues caller = .sending)

instance decidableEnqueuing [Fintype ι] (calls : ι → EnqueueCall) (localId : String)
    (run : SocketRun ι) : Decidable (run.Enqueuing calls localId) :=
  inferInstanceAs (Decidable (∃ _, _ ∧ _))

/-- The message whose row the flush sends next. -/
def resending? (run : SocketRun ι) : Option String :=
  match run.connect with
  | .flushing (row :: _) =>
      if run.client.outbound.sendFn.isSome then row.lookup "local_id" else none
  | _ => none

/-- A flush sends a message only if no frame of it is queued, none has gone out
on a connection that is still up and no `enqueue` is about to send it; an
acknowledgement finds no frame of its message queued and no `enqueue` about to
send one; and no message is enqueued after its acknowledgement. -/
def Guard (calls : ι → EnqueueCall) (run : SocketRun ι) : SocketEvent ι → Prop
  | .enqueue caller =>
      run.enqueues caller = .called → acked (calls caller).localId ∉ run.socket.log
  | .connect =>
      ∀ localId ∈ run.resending?,
        run.socket.Unsent localId ∧ ¬run.Enqueuing calls localId
  | .messageSent handle localId =>
      run.Delivers handle → localId ≠ "" →
        run.socket.copies localId = 0 ∧ ¬run.Enqueuing calls localId
  | _ => True

instance decidableGuard [Fintype ι] (calls : ι → EnqueueCall) (run : SocketRun ι) :
    ∀ event, Decidable (run.Guard calls event)
  | .enqueue _ => inferInstanceAs (Decidable (_ → _))
  | .connect => inferInstanceAs (Decidable (∀ _ ∈ _, _))
  | .messageSent _ _ => inferInstanceAs (Decidable (_ → _))
  | .disconnected | .transient _ | .work | .loop _ | .writeable _ => .isTrue trivial

end SocketRun

/-! ## What a step sends -/

namespace Client

/-- A row of a flush is sent under its own `local_id`, or not at all. -/
theorem sent_resendRow (row : Row) (client : Client) :
    (client.resendRow row).outbound.sent = client.outbound.sent ∨
      ∃ localId sendFn frame, row.lookup "local_id" = some localId ∧
        client.outbound.sendFn = some sendFn ∧ frame.sentId = some localId ∧
          (client.resendRow row).outbound.sent = client.outbound.sent ++ [(sendFn, frame)] := by
  cases connected : client.outbound.sendFn with
  | none =>
      refine .inl ?_
      rw [resendRow]
      split
      · split
        · rw [sent_sendRow, connected]
          exact List.append_nil _
        · rfl
      · rfl
  | some sendFn =>
      rw [resendRow]
      split
      · next localId convId convType contentType content found _ _ _ _ =>
          split
          · next number _ =>
              refine .inr ⟨localId, sendFn,
                buildSendFrame convId convType number.toInt32 content localId, found, rfl, rfl, ?_⟩
              rw [sent_sendRow, connected]
              rfl
          · exact .inl rfl
      · exact .inl rfl

end Client

/-- `onConnected` sends nothing but the rows of its flush. -/
theorem ConnectPoint.sent_step (connect : ConnectPoint) (newFn : Nat) (client : Client) :
    (connect.step newFn client).2.outbound.sent = client.outbound.sent ∨
      ∃ row rest localId sendFn frame, connect = .flushing (row :: rest) ∧
        row.lookup "local_id" = some localId ∧ client.outbound.sendFn = some sendFn ∧
          frame.sentId = some localId ∧ (connect.step newFn client).2.outbound.sent =
            client.outbound.sent ++ [(sendFn, frame)] := by
  cases connect with
  | flushing rows =>
      cases rows with
      | nil => exact .inl rfl
      | cons row rest =>
          rcases Client.sent_resendRow row client with
            quiet | ⟨localId, sendFn, frame, found, connected, carries, sent⟩
          · exact .inl quiet
          · exact .inr ⟨row, rest, localId, sendFn, frame, rfl, found, connected, carries, sent⟩
  | called | published | waiting _ | returned => exact .inl rfl

namespace SocketRun

variable {ι : Type} {run : SocketRun ι} {client : Client}

theorem move_of_quiet (sent : client.outbound.sent = run.client.outbound.sent) :
    run.move client = { run with client := client } := by
  have noFrames : client.outbound.sent = run.client.outbound.sent ++ [] :=
    sent.trans (List.append_nil _).symm
  rw [move, Client.sentSince_of_append noFrames]
  rfl

theorem move_of_sent {sendFn : Nat} {frame : Frame}
    (sent : client.outbound.sent = run.client.outbound.sent ++ [(sendFn, frame)]) :
    run.move client = { run with client := client, socket := run.socket.send frame } := by
  rw [move, Client.sentSince_of_append sent]
  rfl

end SocketRun

/-! ## What a flush will find -/

/-- The table, and the table as the SELECT of a waiting flush will find it. -/
structure Selects (Property : Db → Prop) (client : Client) (connect : ConnectPoint) : Prop where
  table : Property client.table
  ahead : ∀ count, connect = .waiting count → count ≤ client.db.pending.length
  waiting : ∀ count, connect = .waiting count → Property (client.db.stateAfter Stmt.run count)

namespace Selects

variable {Property : Db → Prop} {client : Client} {connect : ConnectPoint}

theorem of_not_waiting (table : Property client.table)
    (notWaiting : ∀ count, connect ≠ .waiting count) : Selects Property client connect where
  table := table
  ahead count waiting := absurd waiting (notWaiting count)
  waiting count waiting := absurd waiting (notWaiting count)

/-- Statements posted behind the SELECT do not change what it finds. -/
theorem of_posts (selects : Selects Property client connect) {after : Client}
    (posts : client.Posts after) (table : Property after.table) :
    Selects Property after connect := by
  rcases posts.pending with ⟨stmts, pending⟩
  constructor
  · exact table
  · intro count waiting
    have ahead := selects.ahead count waiting
    rw [pending, List.length_append]
    omega
  · intro count waiting
    rw [TaskQueue.stateAfter_of_append Stmt.run posts.state pending (selects.ahead count waiting)]
    exact selects.waiting count waiting

/-- A flush that begins waits for all that is posted. -/
theorem posted (selects : Selects Property client connect) :
    Selects Property client (.waiting client.db.pending.length) where
  table := selects.table
  ahead count waiting := Nat.le_of_eq (ConnectPoint.waiting.inj waiting).symm
  waiting count waiting := by
    obtain rfl := ConnectPoint.waiting.inj waiting
    rw [TaskQueue.stateAfter_length]
    exact selects.table

theorem work (selects : Selects Property client connect) :
    Selects Property (connect.work client).2 (connect.work client).1 := by
  have table : Property client.work.table := by
    rw [Client.table_work]
    exact selects.table
  cases connect with
  | waiting ahead =>
      cases ahead with
      | zero => exact of_not_waiting selects.table fun _ => ConnectPoint.noConfusion
      | succ ahead =>
          have lt : ahead < client.db.pending.length := selects.ahead (ahead + 1) rfl
          have length_eq := TaskQueue.length_pending_work Stmt.run client.db
          constructor
          · exact table
          · intro count waiting
            obtain rfl := ConnectPoint.waiting.inj waiting
            change ahead ≤ (client.db.work Stmt.run).pending.length
            omega
          · intro count waiting
            obtain rfl := ConnectPoint.waiting.inj waiting
            change Property ((client.db.work Stmt.run).stateAfter Stmt.run ahead)
            rw [TaskQueue.stateAfter_work Stmt.run]
            exact selects.waiting (ahead + 1) rfl
  | called | published | flushing _ | returned =>
      exact of_not_waiting table fun _ => ConnectPoint.noConfusion

end Selects

/-- A step of `onConnected`. -/
theorem Selects.connectStep {Property : Db → Prop} {client : Client} {connect : ConnectPoint}
    (selects : Selects Property client connect) (sendFn : Nat)
    (kept : ∀ row, Property (client.resendRow row).table) :
    Selects Property (connect.step sendFn client).2 (connect.step sendFn client).1 := by
  cases connect with
  | called => exact of_not_waiting selects.table fun _ => ConnectPoint.noConfusion
  | published => exact selects.posted
  | waiting ahead => exact selects
  | flushing rows =>
      cases rows with
      | nil => exact of_not_waiting selects.table fun _ => ConnectPoint.noConfusion
      | cons row rest => exact of_not_waiting (kept row) fun _ => ConnectPoint.noConfusion
  | returned => exact selects

/-- Every waiting message has a `local_id` that reads back as it is. -/
def Db.IdsNulFree (db : Db) : Prop :=
  ∀ localId payload, db.pending localId = some payload → NulFree localId

/-- No flush that has begun or will begin finds a row of the message. -/
structure NotFlushed (localId : String) (client : Client) (connect : ConnectPoint) : Prop where
  selects : Selects (fun db => db.pending localId = none) client connect
  rows : ∀ rows, connect = .flushing rows → ∀ row ∈ rows, row.lookup "local_id" ≠ some localId

namespace NotFlushed

variable {localId : String} {client : Client} {connect : ConnectPoint}

theorem of_posts (notFlushed : NotFlushed localId client connect) {after : Client}
    (posts : client.Posts after) (table : after.table.pending localId = none) :
    NotFlushed localId after connect :=
  ⟨notFlushed.selects.of_posts posts table, notFlushed.rows⟩

theorem of_idle (table : client.table.pending localId = none)
    (idle : connect = .called ∨ connect = .returned) : NotFlushed localId client connect := by
  rcases idle with rfl | rfl <;>
    exact ⟨.of_not_waiting table fun _ => ConnectPoint.noConfusion,
      fun _ flushing => absurd flushing ConnectPoint.noConfusion⟩

/-- A SELECT finds a row only under a key that is in the table. -/
theorem work (notFlushed : NotFlushed localId client connect)
    (ids : Selects Db.IdsNulFree client connect) :
    NotFlushed localId (connect.work client).2 (connect.work client).1 := by
  refine ⟨notFlushed.selects.work, ?_⟩
  cases connect with
  | waiting ahead =>
      cases ahead with
      | zero =>
          intro rows flushing row member found
          obtain rfl := ConnectPoint.flushing.inj flushing
          rcases List.mem_map.mp member with ⟨⟨key, outbound⟩, inTable, rfl⟩
          have inRows := client.platform.orderByCreatedAt.mem_sort.mp inTable
          have waiting : client.db.state.pending key = some (outbound.toPayload key) := by
            rw [Db.pending, KeyTable.lookup_eq_some_iff_mem_rows.mpr inRows]
            rfl
          have nulFree := ids.waiting 0 rfl key _ waiting
          have same : cString key = localId := Option.some.inj found
          rw [cString_eq_self nulFree] at same
          subst same
          exact absurd (waiting.symm.trans (notFlushed.selects.waiting 0 rfl))
            (Option.some_ne_none _)
      | succ ahead => exact fun _ flushing => absurd flushing ConnectPoint.noConfusion
  | flushing rows => exact notFlushed.rows
  | called | published | returned =>
      exact fun _ flushing => absurd flushing ConnectPoint.noConfusion

theorem connectStep (notFlushed : NotFlushed localId client connect) (sendFn : Nat) :
    NotFlushed localId (connect.step sendFn client).2 (connect.step sendFn client).1 := by
  refine ⟨notFlushed.selects.connectStep sendFn fun row => ?_, ?_⟩
  · rw [Client.pending_resendRow]
    exact notFlushed.selects.table
  · cases connect with
    | flushing rows =>
        cases rows with
        | nil => exact fun _ flushing => absurd flushing ConnectPoint.noConfusion
        | cons row rest =>
            intro later flushing other member
            obtain rfl := ConnectPoint.flushing.inj flushing
            exact notFlushed.rows _ rfl other (List.mem_cons_of_mem row member)
    | called | published | waiting _ | returned =>
        exact fun _ flushing => absurd flushing ConnectPoint.noConfusion

end NotFlushed

theorem Db.IdsNulFree.of_pending_eq {before after : Db} (ids : before.IdsNulFree)
    (same : ∀ localId, after.pending localId = before.pending localId) : after.IdsNulFree := by
  intro localId payload waiting
  exact ids localId payload ((same localId).symm.trans waiting)

/-! ## The invariant -/

namespace SocketRun

variable {ι : Type} {calls : ι → EnqueueCall} {run : SocketRun ι}

/-- The message is not in the table: its call has not begun, or it has been
acknowledged. -/
def Barred (calls : ι → EnqueueCall) (localId : String) (run : SocketRun ι) : Prop :=
  (∃ caller, run.enqueues caller = .called ∧ (calls caller).localId = localId) ∨
    acked localId ∈ run.socket.log

/-- No flush finds a message that is barred from the table, and nothing of a
message is on the socket before its call sends it. -/
structure Keeps (calls : ι → EnqueueCall) (run : SocketRun ι) : Prop where
  sound : run.socket.Sound
  ids : Selects Db.IdsNulFree run.client run.connect
  barred : ∀ localId, run.Barred calls localId → NotFlushed localId run.client run.connect
  called : ∀ caller, run.enqueues caller = .called → run.socket.Unsent (calls caller).localId
  begun : ∀ caller, run.enqueues caller = .inserted ∨ run.enqueues caller = .sending →
    run.socket.Unsent (calls caller).localId ∧ acked (calls caller).localId ∉ run.socket.log

namespace Keeps

/-- A step that sends nothing. -/
theorem of_quiet (keeps : run.Keeps calls) {client : Client} {connect : ConnectPoint}
    (ids : Selects Db.IdsNulFree client connect)
    (notFlushed : ∀ localId, run.Barred calls localId →
      NotFlushed localId run.client run.connect → NotFlushed localId client connect) :
    Keeps calls { run with client := client, connect := connect } where
  sound := keeps.sound
  ids := ids
  barred localId barred := notFlushed localId barred (keeps.barred localId barred)
  called := keeps.called
  begun := keeps.begun

/-- A frame goes to the socket, of no message that a call is still to send. -/
theorem of_sent (keeps : run.Keeps calls) {frame : Frame}
    (ready : ∀ localId, frame.sentId = some localId →
      run.socket.Unsent localId ∧ acked localId ∉ run.socket.log)
    (other : ∀ caller, run.enqueues caller ≠ .returned →
      frame.sentId ≠ some (calls caller).localId) :
    Keeps calls { run with socket := run.socket.send frame } where
  sound := keeps.sound.send ready
  ids := keeps.ids
  barred := keeps.barred
  called caller atStart := (keeps.called caller atStart).send
    (other caller fun returned => EnqueuePoint.noConfusion (atStart.symm.trans returned))
  begun caller begun :=
    (keeps.begun caller begun).imp_left fun unsent => unsent.send (other caller fun returned => by
      rcases begun with begun | begun <;>
        exact EnqueuePoint.noConfusion (begun.symm.trans returned))

/-- A call goes on. -/
theorem of_point [DecidableEq ι] (keeps : run.Keeps calls) {caller : ι} {point : EnqueuePoint}
    (notCalled : point ≠ .called)
    (begun : point = .inserted ∨ point = .sending →
      run.socket.Unsent (calls caller).localId ∧
        acked (calls caller).localId ∉ run.socket.log) :
    Keeps calls { run with enqueues := Function.update run.enqueues caller point } := by
  have earlier : ∀ other, Function.update run.enqueues caller point other = .called →
      run.enqueues other = .called := by
    intro other atStart
    by_cases same : other = caller
    · subst same
      exact absurd ((Function.update_self other point run.enqueues).symm.trans atStart) notCalled
    · exact (Function.update_of_ne same point run.enqueues).symm.trans atStart
  constructor
  · exact keeps.sound
  · exact keeps.ids
  · intro localId barred
    refine keeps.barred localId (barred.imp_left ?_)
    rintro ⟨other, atStart, sameId⟩
    exact ⟨other, earlier other atStart, sameId⟩
  · intro other atStart
    exact keeps.called other (earlier other atStart)
  · intro other
    by_cases same : other = caller
    · subst same
      simp only [Function.update_self]
      exact begun
    · simp only [Function.update_of_ne same]
      exact keeps.begun other

/-! ## Calls of `enqueue` -/

section Enqueue

variable [DecidableEq ι] {caller : ι}

/-- A call posts the row of a message that nothing has sent. -/
theorem enqueue_called (keeps : run.Keeps calls)
    (distinct : Function.Injective fun caller => (calls caller).localId)
    (nulFree : NulFree (calls caller).localId) (atStart : run.enqueues caller = .called)
    (notAcked : acked (calls caller).localId ∉ run.socket.log) :
    (run.step calls (.enqueue caller)).Keeps calls := by
  have posts := Client.Posts.enqueueStep (calls caller) run.client .called
  have pending := (calls caller).pending_step run.client .called
  have quiet : ((calls caller).step run.client .called).2.outbound.sent =
      run.client.outbound.sent := rfl
  have advanced : Keeps calls
      { run with enqueues := Function.update run.enqueues caller .inserted } :=
    keeps.of_point EnqueuePoint.noConfusion fun _ => ⟨keeps.called caller atStart, notAcked⟩
  simp only [step, atStart, move_of_quiet quiet]
  refine advanced.of_quiet ?_ fun localId barred notFlushed => ?_
  · refine keeps.ids.of_posts posts fun localId payload waiting => ?_
    rw [pending] at waiting
    split at waiting
    · next both =>
        rw [both.2]
        exact nulFree
    · exact keeps.ids.table localId payload waiting
  · refine notFlushed.of_posts posts ?_
    rw [pending, if_neg]
    · exact notFlushed.selects.table
    · rintro ⟨_, rfl⟩
      rcases barred with ⟨other, otherStart, sameId⟩ | isAcked
      · obtain rfl := distinct sameId
        exact absurd ((Function.update_self other _ run.enqueues).symm.trans otherStart)
          EnqueuePoint.noConfusion
      · exact notAcked isAcked

/-- A call looks for a connection. -/
theorem enqueue_inserted (keeps : run.Keeps calls) (inserted : run.enqueues caller = .inserted) :
    (run.step calls (.enqueue caller)).Keeps calls := by
  have posts := Client.Posts.enqueueStep (calls caller) run.client .inserted
  have table : ∀ localId, ((calls caller).step run.client .inserted).2.table.pending localId =
      run.client.table.pending localId := by
    intro localId
    rw [(calls caller).pending_step, if_neg fun both => EnqueuePoint.noConfusion both.1]
  have quiet : ((calls caller).step run.client .inserted).2.outbound.sent =
      run.client.outbound.sent := by
    simp only [EnqueueCall.step, Client.registerCallback]
    split <;> rfl
  have notCalled : ((calls caller).step run.client .inserted).1 ≠ .called := by
    simp only [EnqueueCall.step]
    split <;> exact EnqueuePoint.noConfusion
  have advanced := keeps.of_point notCalled fun _ => keeps.begun caller (.inl inserted)
  simp only [step, inserted, move_of_quiet quiet]
  refine advanced.of_quiet (keeps.ids.of_posts posts (keeps.ids.table.of_pending_eq table))
    fun localId _ notFlushed => notFlushed.of_posts posts ?_
  exact (table localId).trans notFlushed.selects.table

/-- A call sends its message, if the connection is still there. -/
theorem enqueue_sending (keeps : run.Keeps calls)
    (distinct : Function.Injective fun caller => (calls caller).localId)
    (sending : run.enqueues caller = .sending) :
    (run.step calls (.enqueue caller)).Keeps calls := by
  have posts := Client.Posts.enqueueStep (calls caller) run.client .sending
  have table : ∀ localId, ((calls caller).step run.client .sending).2.table.pending localId =
      run.client.table.pending localId := by
    intro localId
    rw [(calls caller).pending_step, if_neg fun both => EnqueuePoint.noConfusion both.1]
  have sent : ((calls caller).step run.client .sending).2.outbound.sent = _ :=
    Client.sent_sendRow _ _ _ _ _ run.client
  have advanced : Keeps calls
      { run with enqueues := Function.update run.enqueues caller .returned } :=
    keeps.of_point EnqueuePoint.noConfusion fun begun => by
      rcases begun with begun | begun <;> exact EnqueuePoint.noConfusion begun
  have ids := keeps.ids.of_posts posts (keeps.ids.table.of_pending_eq table)
  have notFlushed : ∀ localId, NotFlushed localId run.client run.connect →
      NotFlushed localId ((calls caller).step run.client .sending).2 run.connect := by
    intro localId notFlushed
    exact notFlushed.of_posts posts ((table localId).trans notFlushed.selects.table)
  cases connected : run.client.outbound.sendFn with
  | none =>
      rw [connected] at sent
      simp only [step, sending, move_of_quiet (sent.trans (List.append_nil _))]
      exact advanced.of_quiet ids fun localId _ => notFlushed localId
  | some sendFn =>
      rw [connected] at sent
      simp only [step, sending, move_of_sent sent]
      have moved := advanced.of_quiet ids fun localId _ => notFlushed localId
      refine moved.of_sent ?_ ?_
      · intro localId carries
        obtain rfl := Option.some.inj carries
        exact keeps.begun caller (.inr sending)
      · intro other notReturned carries
        obtain rfl := distinct (Option.some.inj carries)
        exact notReturned (Function.update_self caller _ run.enqueues)

end Enqueue

/-! ## The other events -/

/-- A handler that posts and sends nothing of any message. -/
theorem of_posts (keeps : run.Keeps calls) {client : Client}
    (ids : Selects Db.IdsNulFree client run.connect)
    (notFlushed : ∀ localId, NotFlushed localId run.client run.connect →
      NotFlushed localId client run.connect)
    (sent : client.outbound.sent = run.client.outbound.sent ∨ ∃ sendFn frame,
      frame.sentId = none ∧ client.outbound.sent = run.client.outbound.sent ++ [(sendFn, frame)]) :
    (run.move client).Keeps calls := by
  have moved := keeps.of_quiet ids fun localId _ => notFlushed localId
  rcases sent with quiet | ⟨sendFn, frame, noId, sent⟩
  · rw [move_of_quiet quiet]
    exact moved
  · rw [move_of_sent sent]
    refine moved.of_sent (fun localId carries => ?_) fun caller _ carries => ?_
    · exact absurd (noId.symm.trans carries).symm (Option.some_ne_none _)
    · exact absurd (noId.symm.trans carries).symm (Option.some_ne_none _)

/-- The row of the message goes, and nothing of it is on its way. -/
theorem messageSent (keeps : run.Keeps calls) {localId : String} (named : localId ≠ "")
    (posted : Keeps calls (run.move (run.client.onMessageSentAck localId)))
    (returned : run.connect = .returned) (notQueued : run.socket.copies localId = 0)
    (notEnqueuing : ¬run.Enqueuing calls localId) :
    Keeps calls
      { run with
        client := run.client.onMessageSentAck localId
        socket := run.socket.noteAck localId } := by
  rw [move_of_quiet (Client.sent_onMessageSentAck localId run.client)] at posted
  have logged : ∀ other, acked other ∈ (run.socket.noteAck localId).log →
      acked other ∈ run.socket.log ∨ other = localId := by
    intro other isAcked
    exact (List.mem_append.mp isAcked).imp_right fun last =>
      SocketLogEntry.acked.inj (List.mem_singleton.mp last)
  constructor
  · exact keeps.sound.noteAck notQueued
  · exact posted.ids
  · rintro other (waiting | isAcked)
    · exact posted.barred other (.inl waiting)
    · rcases logged other isAcked with earlier | rfl
      · exact posted.barred other (.inr earlier)
      · refine .of_idle ?_ (.inr returned)
        rw [Client.pending_onMessageSentAck, if_pos ⟨rfl, named⟩]
  · exact fun caller atStart => (keeps.called caller atStart).noteAck localId
  · intro caller begun
    have ⟨unsent, notAcked⟩ := keeps.begun caller begun
    refine ⟨unsent.noteAck localId, fun isAcked => ?_⟩
    rcases logged _ isAcked with earlier | same
    · exact notAcked earlier
    · exact notEnqueuing ⟨caller, same, begun⟩

section Events

variable [DecidableEq ι]

theorem disconnected (keeps : run.Keeps calls) : (run.step calls .disconnected).Keeps calls := by
  refine keeps.of_posts ⟨keeps.ids.table, keeps.ids.ahead, keeps.ids.waiting⟩
    (fun localId notFlushed => ⟨⟨notFlushed.selects.table, notFlushed.selects.ahead,
      notFlushed.selects.waiting⟩, notFlushed.rows⟩) (.inl rfl)

theorem transient (keeps : run.Keeps calls) (frame : { frame : Frame // frame.sentId = none }) :
    (run.step calls (.transient frame)).Keeps calls := by
  have posts := Client.Posts.sendTransient frame.val run.client
  have table : (run.client.sendTransient frame).2.table = run.client.table := by
    rw [Client.sendTransient]
    split <;> rfl
  refine keeps.of_posts (keeps.ids.of_posts posts ?_) (fun localId notFlushed =>
    notFlushed.of_posts posts ?_) ?_
  · rw [table]
    exact keeps.ids.table
  · rw [table]
    exact notFlushed.selects.table
  · rw [Client.sendTransient]
    split
    · exact .inl rfl
    · next sendFn _ => exact .inr ⟨sendFn, frame, frame.property, rfl⟩

theorem work (keeps : run.Keeps calls) : (run.step calls .work).Keeps calls := by
  have quiet : (run.connect.work run.client).2.outbound.sent = run.client.outbound.sent := by
    cases run.connect with
    | waiting ahead => cases ahead <;> rfl
    | called | published | flushing _ | returned => rfl
  simp only [step, move_of_quiet quiet]
  exact keeps.of_quiet keeps.ids.work fun localId _ notFlushed => notFlushed.work keeps.ids

/-- A step of `onConnected`: the message it sends is in the table, so it has not
been acknowledged and its call has begun. -/
theorem connect (keeps : run.Keeps calls) (guard : run.Guard calls .connect) :
    (run.step calls .connect).Keeps calls := by
  have ids := keeps.ids.connectStep run.readyCalls fun row =>
    keeps.ids.table.of_pending_eq fun localId => Client.pending_resendRow row localId run.client
  have moved := keeps.of_quiet ids fun localId _ notFlushed =>
    notFlushed.connectStep run.readyCalls
  simp only [step]
  rcases run.connect.sent_step run.readyCalls run.client with
    quiet | ⟨row, rest, localId, sendFn, frame, point, found, connected, carries, sent⟩
  · rw [move_of_quiet quiet]
    exact moved
  · have resending : localId ∈ run.resending? := by
      simp [resending?, point, connected, found]
    have ⟨unsent, notEnqueuing⟩ := guard localId resending
    have notBarred : ¬run.Barred calls localId := by
      intro barred
      exact (keeps.barred localId barred).rows _ point row List.mem_cons_self found
    rw [move_of_sent sent]
    refine moved.of_sent ?_ ?_
    · intro other carriesOther
      obtain rfl := Option.some.inj (carries.symm.trans carriesOther)
      exact ⟨unsent, fun isAcked => notBarred (.inr isAcked)⟩
    · intro caller notReturned carriesOther
      have sameId := (Option.some.inj (carries.symm.trans carriesOther)).symm
      cases begun : run.enqueues caller with
      | called => exact notBarred (.inl ⟨caller, begun, sameId⟩)
      | inserted => exact notEnqueuing ⟨caller, sameId, .inl begun⟩
      | sending => exact notEnqueuing ⟨caller, sameId, .inr begun⟩
      | returned => exact notReturned begun

/-- An event of the loop; a new connection has seen no frame. -/
theorem onLoop (keeps : run.Keeps calls) (event : LoopEvent) :
    (run.step calls (.loop event)).Keeps calls := by
  have onSocket : Keeps calls { run with socket := run.socket.onLoop event } :=
    ⟨keeps.sound.onLoop event, keeps.ids, keeps.barred,
      fun caller atStart => (keeps.called caller atStart).onLoop keeps.sound event,
      fun caller begun => (keeps.begun caller begun).imp_left fun unsent =>
        unsent.onLoop keeps.sound event⟩
  simp only [step, SocketRun.onLoop]
  split
  · next returned =>
      have idle : ∀ {establishes : Prop} [Decidable establishes],
          (if establishes then ConnectPoint.called else .returned) = .called ∨
            (if establishes then ConnectPoint.called else .returned) = .returned := by
        intro establishes _
        split
        · exact .inl rfl
        · exact .inr rfl
      constructor
      · exact onSocket.sound
      · refine .of_not_waiting keeps.ids.table fun count waiting => ?_
        split at waiting <;> exact ConnectPoint.noConfusion waiting
      · exact fun localId barred => .of_idle (keeps.barred localId barred).selects.table idle
      · exact onSocket.called
      · exact onSocket.begun
  · split
    · exact onSocket
    · exact keeps

theorem onWriteable (keeps : run.Keeps calls) (handle : Nat) :
    (run.step calls (.writeable handle)).Keeps calls := by
  simp only [step, SocketRun.onWriteable]
  split
  · next delivers =>
      have sameAcks : ∀ localId, acked localId ∈ (run.socket.onWriteable handle).log →
          acked localId ∈ run.socket.log := by
        intro localId isAcked
        rw [SendingSocket.onWriteable] at isAcked
        split at isAcked
        · exact isAcked
        · rcases List.mem_append.mp isAcked with earlier | last
          · exact earlier
          · exact absurd (List.mem_singleton.mp last) SocketLogEntry.noConfusion
      constructor
      · exact keeps.sound.onWriteable delivers.2
      · exact keeps.ids
      · exact fun localId barred => keeps.barred localId (barred.imp_right (sameAcks localId))
      · exact fun caller atStart => (keeps.called caller atStart).onWriteable handle
      · exact fun caller begun =>
          (keeps.begun caller begun).imp (fun unsent => unsent.onWriteable handle)
            fun notAcked isAcked => notAcked (sameAcks _ isAcked)
  · exact keeps

theorem onMessageSent (keeps : run.Keeps calls) {handle : Nat} {localId : String}
    (guard : run.Guard calls (.messageSent handle localId)) :
    (run.step calls (.messageSent handle localId)).Keeps calls := by
  have quiet := Client.sent_onMessageSentAck localId run.client
  have posts := Client.Posts.onMessageSentAck localId run.client
  have table : ∀ other, (run.client.onMessageSentAck localId).table.pending other =
      if other = localId ∧ localId ≠ "" then none else run.client.table.pending other :=
    fun other => Client.pending_onMessageSentAck localId other run.client
  have posted : Keeps calls (run.move (run.client.onMessageSentAck localId)) := by
    refine keeps.of_posts (keeps.ids.of_posts posts fun other payload waiting => ?_)
      (fun other notFlushed => notFlushed.of_posts posts ?_) (.inl quiet)
    · rw [table] at waiting
      split at waiting
      · exact absurd waiting.symm (Option.some_ne_none _)
      · exact keeps.ids.table other payload waiting
    · rw [table]
      split
      · rfl
      · exact notFlushed.selects.table
  simp only [step, SocketRun.onMessageSent]
  split
  · next delivers =>
      split
      · exact posted
      · next named =>
          have ⟨notQueued, notEnqueuing⟩ := guard delivers named
          rw [move_of_quiet quiet]
          exact keeps.messageSent named posted delivers.1 notQueued notEnqueuing
  · exact keeps

/-- Every event that meets the condition. -/
theorem step (keeps : run.Keeps calls)
    (distinct : Function.Injective fun caller => (calls caller).localId)
    (nulFree : ∀ caller, NulFree (calls caller).localId) {event : SocketEvent ι}
    (guard : run.Guard calls event) : (run.step calls event).Keeps calls := by
  cases event with
  | enqueue caller =>
      cases point : run.enqueues caller with
      | called => exact keeps.enqueue_called distinct (nulFree caller) point (guard point)
      | inserted => exact keeps.enqueue_inserted point
      | sending => exact keeps.enqueue_sending distinct point
      | returned =>
          have same : run.step calls (.enqueue caller) = run := by
            simp only [SocketRun.step, point, EnqueueCall.step, move_of_quiet rfl]
            rw [← point, Function.update_eq_self]
          rw [same]
          exact keeps
  | disconnected => exact keeps.disconnected
  | transient frame => exact keeps.transient frame
  | work => exact keeps.work
  | connect => exact keeps.connect guard
  | loop event => exact keeps.onLoop event
  | writeable handle => exact keeps.onWriteable handle
  | messageSent handle localId => exact keeps.onMessageSent guard

end Events

/-- At the outset nothing is on the socket and the table holds other messages. -/
theorem start {client : Client} (ids : client.table.IdsNulFree)
    (fresh : ∀ caller, client.table.pending (calls caller).localId = none) :
    Keeps calls { client := client } where
  sound := SendingSocket.sound_start
  ids := .of_not_waiting ids fun _ => ConnectPoint.noConfusion
  barred := by
    rintro localId (⟨caller, _, rfl⟩ | isAcked)
    · exact .of_idle (fresh caller) (.inr rfl)
    · exact absurd isAcked List.not_mem_nil
  called caller _ := ⟨rfl, fun _ member => absurd member List.not_mem_nil⟩
  begun caller begun := by rcases begun with begun | begun <;> exact EnqueuePoint.noConfusion begun

end Keeps

/-! ## Whole runs -/

/-- In every run whose steps meet the condition, on each connection at most one
frame is written for a message, and none after its acknowledgement. -/
theorem sendsOnce_of_guarded [DecidableEq ι] (calls : ι → EnqueueCall)
    (distinct : Function.Injective fun caller => (calls caller).localId)
    (nulFree : ∀ caller, NulFree (calls caller).localId) {client : Client}
    (ids : client.table.IdsNulFree)
    (fresh : ∀ caller, client.table.pending (calls caller).localId = none)
    {events : List (SocketEvent ι)}
    (guarded : EventRun.Guarded (step calls) (Guard calls) { client := client } events) :
    SendsOnce (EventRun.exec (step calls) { client := client } events).socket.log := by
  have preserved : ∀ (run : SocketRun ι) (event : SocketEvent ι), run.Keeps calls →
      run.Guard calls event → (run.step calls event).Keeps calls :=
    fun _ _ keeps => keeps.step distinct nulFree
  have keeps := EventRun.exec_invariant_of_guarded preserved (Keeps.start ids fresh) guarded
  exact keeps.sound.sendsOnce

/-- A message enqueued offline, written on one connection and, as its
acknowledgement was lost, on the next. -/
theorem sendsOnce_lostAck :
    SendsOnce (EventRun.exec
      (step fun _ : Unit => ⟨"c1", "private", 1, "hello", "local_1", {}⟩)
      { client := .start default {} 0 }
      [.enqueue (), .enqueue (), .loop .connect, .loop (.established 0), .connect, .connect, .work,
        .work, .connect, .connect, .writeable 0, .loop (.closed 0), .loop .turn, .loop .wake,
        .loop (.established 1), .connect, .connect, .work, .work, .connect, .connect,
        .writeable 1, .messageSent 1 "local_1"]).socket.log :=
  sendsOnce_of_guarded _ (fun _ _ _ => rfl) (fun _ => by decide)
    (fun _ _ waiting => absurd waiting.symm (Option.some_ne_none _)) (fun _ => rfl)
    (by decide)

/-- The connection drops before the frame is written: it stays queued, and the
flush of the next connection queues another one. -/
theorem not_sendsOnce_dropped :
    ¬SendsOnce (EventRun.exec
      (step fun _ : Unit => ⟨"c1", "private", 1, "hello", "local_1", {}⟩)
      { client := .start default {} 0 }
      [.enqueue (), .enqueue (), .loop .connect, .loop (.established 0), .connect, .connect, .work,
        .work, .connect, .connect, .loop (.closed 0), .loop .turn, .loop .wake,
        .loop (.established 1), .connect, .connect, .work, .work, .connect, .connect,
        .writeable 1, .writeable 1]).socket.log := by
  intro sendsOnce
  exact absurd (sendsOnce.once 1 "local_1") (by decide)

end SocketRun

end AnychatSdk
