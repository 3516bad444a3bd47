import AnychatSdk.PendingMessages

/-!
# Enqueues that race with a connection

Calls of `enqueue` run in threads of their own while `onConnected` runs in
another, and all of them share the memory of the queue and the database worker.
A schedule says whose atomic step comes next.  A row cannot fall between the two
sides: it is posted before its thread looks for a connection, and the connection
is published before the rows are selected.  So a message can be missed only where
the row under its `local_id` does not read back as the message.
-/

namespace AnychatSdk

open Client (sendFrame)

/-! ## Threads -/

/-- The arguments of one call of `enqueue`. -/
structure EnqueueCall where
  convId : String
  convType : String
  contentType : Int32
  content : String
  localId : String
  callback : AnyChatCallback := {}

/-- How far a call of `enqueue` has come: the row is posted, a connection was
seen, the call has returned. -/
inductive EnqueuePoint where
  | called
  | inserted
  | sending
  | returned
  deriving DecidableEq

/-- How far `onConnected` has come: the send function is set, the SELECT waits
behind some statements, its rows are being sent, the call has returned. -/
inductive ConnectPoint where
  | called
  | published
  | waiting (ahead : Nat)
  | flushing (rows : List Row)
  | returned
  deriving DecidableEq

namespace EnqueueCall

def payload (call : EnqueueCall) : SendMessagePayload where
  conversationId := call.convId
  conversationType := call.convType
  contentType := call.contentType
  content := call.content
  localId := call.localId

/-- The next atomic step of `enqueue`. -/
def step (call : EnqueueCall) (client : Client) : EnqueuePoint → EnqueuePoint × Client
  | .called =>
      let (now, client) := client.nowMs
      (.inserted,
        client.exec (.insertOrIgnoreOutbound call.localId
          (Client.outboundRow call.convId call.convType call.contentType call.content now)))
  | .inserted =>
      let client := client.registerCallback call.localId call.callback
      (if client.outbound.sendFn.isSome then .sending else .returned, client)
  | .sending =>
      (.returned,
        client.sendRow call.convId call.convType call.contentType call.content call.localId)
  | .returned => (.returned, client)

end EnqueueCall

namespace ConnectPoint

/-- The next atomic step of `onConnected`; it stands still while the SELECT
waits for the worker. -/
def step (sendFn : Nat) (client : Client) : ConnectPoint → ConnectPoint × Client
  | called => (published, client.setSendFn (some sendFn))
  | published => (waiting client.db.pending.length, client)
  | waiting ahead => (waiting ahead, client)
  | flushing [] => (returned, client)
  | flushing (row :: rest) => (flushing rest, client.resendRow row)
  | returned => (returned, client)

/-- The next turn of the database worker: the SELECT if it is due, or else the
oldest statement. -/
def work (client : Client) : ConnectPoint → ConnectPoint × Client
  | waiting 0 =>
      (flushing
        ((client.platform.orderByCreatedAt.sort client.db.state.outboundQueue.rows).map
          fun row => row.2.toRow row.1),
        client)
  | waiting (ahead + 1) => (waiting ahead, client.work)
  | point => (point, client.work)

end ConnectPoint

/-! ## Schedules -/

/-- Any number of calls of `enqueue` and one of `onConnected`. -/
structure Race (ι : Type) where
  client : Client
  enqueues : ι → EnqueuePoint := fun _ => .called
  connect : ConnectPoint := .called

inductive RaceStep (ι : Type) where
  | enqueue (caller : ι)
  | connect
  | work
  | transient (frame : Frame)
  | ack (localId : String)

/-- One step of a schedule. -/
def RaceStep.apply {ι : Type} [DecidableEq ι] (calls : ι → EnqueueCall) (sendFn : Nat)
    (race : Race ι) : RaceStep ι → Race ι
  | enqueue caller =>
      let (point, client) := (calls caller).step race.client (race.enqueues caller)
      { race with client := client, enqueues := Function.update race.enqueues caller point }
  | connect =>
      let (point, client) := race.connect.step sendFn race.client
      { race with client := client, connect := point }
  | work =>
      let (point, client) := race.connect.work race.client
      { race with client := client, connect := point }
  | transient frame => { race with client := (race.client.sendTransient frame).2 }
  | ack localId => { race with client := race.client.onMessageSentAck localId }

/-! ## Calls that are not interrupted -/

section Uninterrupted

variable {ι : Type} [DecidableEq ι] (calls : ι → EnqueueCall) (sendFn : Nat)

/-- The steps of a call of `enqueue` add up to its handler. -/
theorem exec_enqueue_steps {race : Race ι} {caller : ι}
    (atStart : race.enqueues caller = .called) :
    EventRun.exec (RaceStep.apply calls sendFn) race
        [.enqueue caller, .enqueue caller, .enqueue caller] =
      { race with
        client := race.client.enqueue (calls caller).convId (calls caller).convType
          (calls caller).contentType (calls caller).content (calls caller).localId
          (calls caller).callback
        enqueues := Function.update race.enqueues caller .returned } := by
  simp only [EventRun.exec_cons, EventRun.exec_nil, RaceStep.apply, atStart, EnqueueCall.step,
    Function.update_self, Function.update_idem, Client.enqueue]
  generalize Client.registerCallback (calls caller).localId (calls caller).callback _ = registered
  cases connected : registered.outbound.sendFn.isSome <;> simp

theorem exec_work_steps (race : Race ι) {ahead : Nat} (waiting : race.connect = .waiting ahead)
    (isAhead : ahead = race.client.db.pending.length) :
    EventRun.exec (RaceStep.apply calls sendFn) race (List.replicate (ahead + 1) .work) =
      { race with
        client := race.client.querySync
        connect := .flushing (race.client.querySync.pendingRows.map fun row =>
          row.2.toRow row.1) } := by
  induction ahead generalizing race with
  | zero =>
      have caughtUp : race.client.querySync = race.client := by
        obtain ⟨⟨platform, launches, clockReads, ⟨state, pending⟩, convCache, msgCache, outbound,
          localIdCounter⟩, enqueues, point⟩ := race
        obtain rfl : pending = [] := List.length_eq_zero_iff.mp isAhead.symm
        rfl
      have sameTable : race.client.table = race.client.db.state :=
        TaskQueue.drained_eq_state_of_pending_eq_nil Stmt.run
          (List.length_eq_zero_iff.mp isAhead.symm)
      rw [caughtUp, Client.pendingRows, sameTable]
      simp [RaceStep.apply, waiting, ConnectPoint.work]
  | succ ahead ih =>
      have worked : RaceStep.work.apply calls sendFn race =
          { race with client := race.client.work, connect := .waiting ahead } := by
        simp [RaceStep.apply, waiting, ConnectPoint.work]
      have flushed : race.client.work.querySync = race.client.querySync := by
        simp only [Client.querySync, Client.work, TaskQueue.flush, TaskQueue.drained_work]
      rw [List.replicate_succ, EventRun.exec_cons, worked, ih _ rfl, flushed]
      have length_eq := TaskQueue.length_pending_work Stmt.run race.client.db
      change ahead = (race.client.db.work Stmt.run).pending.length
      omega

theorem exec_flush_steps {race : Race ι} {rows : List Row}
    (flushing : race.connect = .flushing rows) :
    EventRun.exec (RaceStep.apply calls sendFn) race (List.replicate (rows.length + 1) .connect) =
      { race with
        client := rows.foldl (fun client row => client.resendRow row) race.client
        connect := .returned } := by
  induction rows generalizing race with
  | nil => simp [RaceStep.apply, flushing, ConnectPoint.step]
  | cons row rest ih =>
      have sent : RaceStep.connect.apply calls sendFn race =
          { race with client := race.client.resendRow row, connect := .flushing rest } := by
        simp [RaceStep.apply, flushing, ConnectPoint.step]
      rw [List.length_cons, List.replicate_succ, EventRun.exec_cons, sent, ih rfl]
      rfl

/-- The steps of `onConnected`, and the turns of the worker it waits for, add up
to its handler. -/
theorem exec_connect_steps {race : Race ι} (atStart : race.connect = .called) :
    EventRun.exec (RaceStep.apply calls sendFn) race
        ([.connect, .connect] ++
          (List.replicate (race.client.db.pending.length + 1) .work ++
            List.replicate (race.client.pendingRows.length + 1) .connect)) =
      { race with client := race.client.onConnected sendFn, connect := .returned } := by
  have begun : EventRun.exec (RaceStep.apply calls sendFn) race [.connect, .connect] =
      { race with
        client := race.client.setSendFn (some sendFn)
        connect := .waiting race.client.db.pending.length } := by
    simp [RaceStep.apply, atStart, ConnectPoint.step, Client.setSendFn]
  have selected := exec_work_steps calls sendFn
    { race with
      client := race.client.setSendFn (some sendFn)
      connect := .waiting race.client.db.pending.length } rfl rfl
  rw [EventRun.exec_append, EventRun.exec_append, begun, selected]
  have rows_length : race.client.pendingRows.length =
      ((race.client.setSendFn (some sendFn)).querySync.pendingRows.map
        fun row => row.2.toRow row.1).length := by
    rw [List.length_map]
    rfl
  rw [rows_length]
  exact exec_flush_steps calls sendFn rfl

end Uninterrupted

/-! ## Steps that only post and send -/

/-- The later state has further statements posted and further frames sent. -/
structure Client.Posts (before after : Client) : Prop where
  state : after.db.state = before.db.state
  pending : ∃ stmts, after.db.pending = before.db.pending ++ stmts
  sendFn : after.outbound.sendFn = before.outbound.sendFn
  sent : ∃ frames, after.outbound.sent = before.outbound.sent ++ frames

namespace Client.Posts

theorem quiet {before after : Client} (db : after.db = before.db)
    (sendFn : after.outbound.sendFn = before.outbound.sendFn)
    (sent : after.outbound.sent = before.outbound.sent) : Posts before after :=
  ⟨by rw [db], ⟨[], by rw [db, List.append_nil]⟩, sendFn, ⟨[], by rw [sent, List.append_nil]⟩⟩

theorem trans {first second third : Client} (firstPosts : Posts first second)
    (secondPosts : Posts second third) : Posts first third := by
  rcases firstPosts.pending with ⟨firstStmts, firstPending⟩
  rcases secondPosts.pending with ⟨secondStmts, secondPending⟩
  rcases firstPosts.sent with ⟨firstFrames, firstSent⟩
  rcases secondPosts.sent with ⟨secondFrames, secondSent⟩
  refine ⟨secondPosts.state.trans firstPosts.state, ⟨firstStmts ++ secondStmts, ?_⟩,
    secondPosts.sendFn.trans firstPosts.sendFn, ⟨firstFrames ++ secondFrames, ?_⟩⟩
  · rw [secondPending, firstPending, List.append_assoc]
  · rw [secondSent, firstSent, List.append_assoc]

theorem exec (stmt : Stmt) (client : Client) : Posts client (client.exec stmt) :=
  ⟨rfl, ⟨[stmt], rfl⟩, rfl, ⟨[], (List.append_nil _).symm⟩⟩

theorem callSendFn (sendFn : Nat) (frame : Frame) (client : Client) :
    Posts client (client.callSendFn sendFn frame) :=
  ⟨rfl, ⟨[], (List.append_nil _).symm⟩, rfl, ⟨[(sendFn, frame)], rfl⟩⟩

theorem sendRow (convId convType : String) (contentType : Int32) (content localId : String)
    (client : Client) :
    Posts client (client.sendRow convId convType contentType content localId) := by
  rw [Client.sendRow]
  split
  · exact quiet rfl rfl rfl
  · exact (exec _ client).trans (callSendFn _ _ _)

theorem resendRow (row : Row) (client : Client) : Posts client (client.resendRow row) := by
  rw [Client.resendRow]
  split
  · split
    · exact sendRow _ _ _ _ _ client
    · exact quiet rfl rfl rfl
  · exact quiet rfl rfl rfl

theorem registerCallback (localId : String) (callback : AnyChatCallback) (client : Client) :
    Posts client (client.registerCallback localId callback) := by
  rw [Client.registerCallback]
  split <;> exact quiet rfl rfl rfl

theorem sendTransient (frame : Frame) (client : Client) :
    Posts client (client.sendTransient frame).2 := by
  rw [Client.sendTransient]
  split
  · exact quiet rfl rfl rfl
  · exact callSendFn _ frame client

theorem onMessageSentAck (localId : String) (client : Client) :
    Posts client (client.onMessageSentAck localId) := by
  rw [Client.onMessageSentAck]
  split
  · exact quiet rfl rfl rfl
  · apply (exec (.deleteOutbound localId) client).trans
    rw [completeCallback]
    split <;> exact quiet rfl rfl rfl

theorem enqueueStep (call : EnqueueCall) (client : Client) (point : EnqueuePoint) :
    Posts client (call.step client point).2 := by
  cases point with
  | called => exact (quiet rfl rfl rfl : Posts client client.nowMs.2).trans (exec _ _)
  | inserted => exact registerCallback call.localId call.callback client
  | sending => exact sendRow _ _ _ _ _ client
  | returned => exact quiet rfl rfl rfl

end Client.Posts

/-- What a step of `enqueue` does to the messages waiting in the table. -/
theorem EnqueueCall.pending_step (call : EnqueueCall) (client : Client) (point : EnqueuePoint)
    (localId : String) :
    (call.step client point).2.table.pending localId =
      if point = .called ∧ localId = call.localId then
        (client.table.pending localId).or (some call.payload)
      else client.table.pending localId := by
  cases point with
  | called =>
      simp only [step, Client.table_exec, Client.pending_insertOrIgnoreOutbound,
        Client.table_nowMs, true_and]
      by_cases same : localId = call.localId
      · subst same
        rfl
      · rw [if_neg same, if_neg same]
  | inserted => simp [step]
  | sending => simp [step]
  | returned => simp [step]

/-! ## What a message is owed -/

/-- Since the start the send function was called with the frame of the message. -/
def Passed {ι : Type} (calls : ι → EnqueueCall) (sendFn : Nat) (start : Client) (caller : ι)
    (client : Client) : Prop :=
  ∃ frames, client.outbound.sent = start.outbound.sent ++ frames ∧
    (sendFn, sendFrame (calls caller).payload) ∈ frames

/-- The row that lies under the `local_id` of a call when the rows are selected
reads back as the call's own message: the row that waits there from the start,
or else the row of any call, since `INSERT OR IGNORE` keeps the first. -/
def ReadsBackOwn {ι : Type} (calls : ι → EnqueueCall) (start : Client) (caller : ι) : Prop :=
  match start.table.pending (calls caller).localId with
  | some waiting => waiting.readBack = (calls caller).payload
  | none =>
      ∀ other, (calls other).localId = (calls caller).localId →
        (calls other).payload.readBack = (calls caller).payload

/-- `onConnected` will still come to a row that reads back as the message. -/
def Owed {ι : Type} (calls : ι → EnqueueCall) (caller : ι) (client : Client) :
    ConnectPoint → Prop
  | .called | .published => True
  | .waiting ahead =>
      ∃ payload,
        (client.db.stateAfter Stmt.run ahead).pending (calls caller).localId = some payload ∧
          payload.readBack = (calls caller).payload
  | .flushing rows =>
      ∃ row : OutboundRow, row.toRow (calls caller).localId ∈ rows ∧
        (row.toPayload (calls caller).localId).readBack = (calls caller).payload
  | .returned => False

/-- What holds for one call in every state of a schedule. -/
structure Race.Keeps {ι : Type} (calls : ι → EnqueueCall) (sendFn : Nat) (start : Client)
    (caller : ι) (race : Race ι) : Prop where
  sent : ∃ frames, race.client.outbound.sent = start.outbound.sent ++ frames
  connected : race.connect ≠ .called → race.client.outbound.sendFn = some sendFn
  ahead : ∀ count, race.connect = .waiting count → count ≤ race.client.db.pending.length
  kept : ∀ waiting, start.table.pending (calls caller).localId = some waiting →
    race.client.table.pending (calls caller).localId = some waiting
  readsBack : ∀ payload, race.client.table.pending (calls caller).localId = some payload →
    payload.readBack = (calls caller).payload
  inserted : race.enqueues caller ≠ .called →
    ∃ payload, race.client.table.pending (calls caller).localId = some payload
  served : race.enqueues caller = .returned →
    Passed calls sendFn start caller race.client ∨
      Owed calls caller race.client race.connect

section Steps

variable {ι : Type} {calls : ι → EnqueueCall} {sendFn : Nat} {start : Client} {caller : ι}

theorem Client.Posts.passed {before after : Client} (posts : Posts before after)
    (passed : Passed calls sendFn start caller before) :
    Passed calls sendFn start caller after := by
  rcases passed with ⟨frames, sent, member⟩
  rcases posts.sent with ⟨later, laterSent⟩
  refine ⟨frames ++ later, ?_, List.mem_append_left later member⟩
  rw [laterSent, sent, List.append_assoc]

theorem Client.Posts.owed {before after : Client} (posts : Posts before after)
    {point : ConnectPoint}
    (ahead : ∀ count, point = .waiting count → count ≤ before.db.pending.length)
    (owed : Owed calls caller before point) : Owed calls caller after point := by
  cases point with
  | waiting count =>
      rcases owed with ⟨payload, waiting, readsBack⟩
      rcases posts.pending with ⟨stmts, appended⟩
      refine ⟨payload, ?_, readsBack⟩
      rwa [TaskQueue.stateAfter_of_append Stmt.run posts.state appended (ahead count rfl)]
  | called | published => trivial
  | flushing rows => exact owed
  | returned => exact owed

/-- A step that posts and sends, and leaves `onConnected` where it is. -/
theorem Race.Keeps.of_posts {race : Race ι} (keeps : race.Keeps calls sendFn start caller)
    {after : Client} (posts : race.client.Posts after) {enqueues : ι → EnqueuePoint}
    (kept : ∀ waiting, race.client.table.pending (calls caller).localId = some waiting →
      after.table.pending (calls caller).localId = some waiting)
    (readsBack : ∀ payload, after.table.pending (calls caller).localId = some payload →
      payload.readBack = (calls caller).payload)
    (inserted : enqueues caller ≠ .called →
      ∃ payload, after.table.pending (calls caller).localId = some payload)
    (served : enqueues caller = .returned → race.enqueues caller = .returned ∨
      Passed calls sendFn start caller after ∨ Owed calls caller after race.connect) :
    Race.Keeps calls sendFn start caller
      { race with client := after, enqueues := enqueues } where
  sent := by
    rcases keeps.sent with ⟨frames, sent⟩
    rcases posts.sent with ⟨later, laterSent⟩
    exact ⟨frames ++ later, by rw [laterSent, sent, List.append_assoc]⟩
  connected := fun begun => posts.sendFn.trans (keeps.connected begun)
  ahead := by
    intro count waiting
    rcases posts.pending with ⟨stmts, appended⟩
    rw [appended, List.length_append]
    exact Nat.le_add_right_of_le (keeps.ahead count waiting)
  kept waiting initially := kept waiting (keeps.kept waiting initially)
  readsBack := readsBack
  inserted := inserted
  served := by
    intro hasReturned
    rcases served hasReturned with before | now
    · exact (keeps.served before).imp posts.passed (posts.owed keeps.ahead)
    · exact now

/-- A step that leaves the calls of `enqueue` where they are. -/
theorem Race.Keeps.of_moved {race : Race ι} (keeps : race.Keeps calls sendFn start caller)
    {after : Client} {point : ConnectPoint}
    (sent : ∃ frames, after.outbound.sent = race.client.outbound.sent ++ frames)
    (connected : point ≠ .called → after.outbound.sendFn = some sendFn)
    (ahead : ∀ count, point = .waiting count → count ≤ after.db.pending.length)
    (samePending : after.table.pending (calls caller).localId =
      race.client.table.pending (calls caller).localId)
    (served : race.enqueues caller = .returned → Passed calls sendFn start caller after ∨
      Owed calls caller after point) :
    Race.Keeps calls sendFn start caller { race with client := after, connect := point } where
  sent := by
    rcases keeps.sent with ⟨frames, before⟩
    rcases sent with ⟨later, laterSent⟩
    exact ⟨frames ++ later, by rw [laterSent, before, List.append_assoc]⟩
  connected := connected
  ahead := ahead
  kept waiting initially := samePending.trans (keeps.kept waiting initially)
  readsBack payload waiting := keeps.readsBack payload (samePending.symm.trans waiting)
  inserted begun := by
    obtain ⟨payload, waiting⟩ := keeps.inserted begun
    exact ⟨payload, samePending.trans waiting⟩
  served := served

/-! ## Steps -/

/-- Two of the points of a call matter: one that finds no connection returns
before the connection is published, and one that sends after that sends to the
new function. -/
theorem Race.Keeps.served_step {race : Race ι} (keeps : race.Keeps calls sendFn start caller)
    (hasReturned :
      ((calls caller).step race.client (race.enqueues caller)).1 = .returned) :
    race.enqueues caller = .returned ∨
      Passed calls sendFn start caller
          ((calls caller).step race.client (race.enqueues caller)).2 ∨
        Owed calls caller ((calls caller).step race.client (race.enqueues caller)).2
          race.connect := by
  cases point : race.enqueues caller with
  | called =>
      rw [point] at hasReturned
      exact absurd hasReturned EnqueuePoint.noConfusion
  | inserted =>
      refine .inr (.inr ?_)
      rw [point] at hasReturned
      have checked : (if (race.client.registerCallback (calls caller).localId
          (calls caller).callback).outbound.sendFn.isSome then EnqueuePoint.sending
          else .returned) = .returned := hasReturned
      split at checked
      · exact absurd checked EnqueuePoint.noConfusion
      · next unconnected =>
          have notBegun : race.connect = .called := by
            by_contra begun
            apply unconnected
            rw [(Client.Posts.registerCallback _ _ race.client).sendFn, keeps.connected begun]
            rfl
          rw [notBegun]
          trivial
  | sending =>
      refine .inr ?_
      by_cases begun : race.connect = .called
      · rw [begun]
        exact .inr trivial
      · rcases keeps.sent with ⟨frames, sent⟩
        refine .inl ⟨frames ++ [(sendFn, sendFrame (calls caller).payload)], ?_, by simp⟩
        simp only [EnqueueCall.step, Client.sendRow, keeps.connected begun]
        simp only [Client.callSendFn, Client.exec, sent, List.append_assoc]
        rfl
  | returned => exact .inl rfl

/-- The SELECT finds the row that it was posted behind. -/
theorem owed_select {client : Client} (owed : Owed calls caller client (.waiting 0)) :
    Owed calls caller client (ConnectPoint.work client (.waiting 0)).1 := by
  rcases owed with ⟨payload, waiting, readsBack⟩
  rcases Option.map_eq_some_iff.mp waiting with ⟨row, found, rfl⟩
  refine ⟨row, List.mem_map.mpr ⟨((calls caller).localId, row), ?_, rfl⟩, readsBack⟩
  exact client.platform.orderByCreatedAt.mem_sort.mpr
    (KeyTable.lookup_eq_some_iff_mem_rows.mp found)

variable [DecidableEq ι]

/-- A step of a call of `enqueue`. -/
theorem Race.Keeps.enqueue (own : ReadsBackOwn calls start caller) {race : Race ι}
    (keeps : race.Keeps calls sendFn start caller) (mover : ι) :
    ((RaceStep.enqueue mover).apply calls sendFn race).Keeps calls sendFn start caller := by
  have posts := Client.Posts.enqueueStep (calls mover) race.client (race.enqueues mover)
  have pending := (calls mover).pending_step race.client (race.enqueues mover)
    (calls caller).localId
  refine keeps.of_posts posts ?_ ?_ ?_ ?_
  · intro payload waiting
    rw [pending, waiting]
    split <;> rfl
  · intro payload waiting
    rw [pending] at waiting
    split at waiting
    · next fills =>
        rcases Option.or_eq_some_iff.mp waiting with earlier | ⟨nothing, offered⟩
        · exact keeps.readsBack payload earlier
        · obtain rfl := Option.some.inj offered
          -- Nothing waits now, so nothing has waited at the start.
          rw [ReadsBackOwn] at own
          cases initially : start.table.pending (calls caller).localId with
          | some first =>
              exact absurd (nothing.symm.trans (keeps.kept first initially)).symm
                (Option.some_ne_none first)
          | none =>
              rw [initially] at own
              exact own mover fills.2.symm
    · exact keeps.readsBack payload waiting
  · intro begun
    rw [pending]
    split
    · exact ⟨_, Option.or_some⟩
    · next notFilled =>
        refine keeps.inserted fun atStart => ?_
        by_cases same : caller = mover
        · subst same
          exact notFilled ⟨atStart, rfl⟩
        · exact begun (by simpa [Function.update_of_ne same] using atStart)
  · intro hasReturned
    by_cases same : caller = mover
    · subst same
      simp only [Function.update_self] at hasReturned
      exact keeps.served_step hasReturned
    · exact .inl (by simpa [Function.update_of_ne same] using hasReturned)

/-- A step of `onConnected`.  The SELECT is posted behind the row of every call
that has returned before, and a row leaves the flush only by being sent. -/
theorem Race.Keeps.connectStep {race : Race ι} (keeps : race.Keeps calls sendFn start caller) :
    (RaceStep.connect.apply calls sendFn race).Keeps calls sendFn start caller := by
  simp only [RaceStep.apply]
  cases point : race.connect with
  | called =>
      exact keeps.of_moved ⟨[], (List.append_nil _).symm⟩ (fun _ => rfl)
        (fun _ waiting => absurd waiting ConnectPoint.noConfusion) rfl fun _ => .inr trivial
  | published =>
      have connected := keeps.connected (by rw [point]; exact ConnectPoint.noConfusion)
      refine keeps.of_moved ⟨[], (List.append_nil _).symm⟩ (fun _ => connected) ?_ rfl ?_
      · intro count waiting
        obtain rfl := ConnectPoint.waiting.inj waiting
        exact Nat.le_refl _
      · intro hasReturned
        rcases keeps.inserted (by rw [hasReturned]; decide) with ⟨payload, waiting⟩
        refine .inr ⟨payload, ?_, keeps.readsBack payload waiting⟩
        exact (congrArg (Db.pending · _) (TaskQueue.stateAfter_length Stmt.run _)).trans waiting
  | waiting ahead =>
      rcases race with ⟨client, enqueues, connect⟩
      obtain rfl : connect = .waiting ahead := point
      exact keeps
  | returned =>
      rcases race with ⟨client, enqueues, connect⟩
      obtain rfl : connect = .returned := point
      exact keeps
  | flushing rows =>
      have connected := keeps.connected (by rw [point]; exact ConnectPoint.noConfusion)
      cases rows with
      | nil =>
          refine keeps.of_moved ⟨[], (List.append_nil _).symm⟩ (fun _ => connected)
            (fun _ waiting => absurd waiting ConnectPoint.noConfusion) rfl fun hasReturned => ?_
          rcases keeps.served hasReturned with passed | owed
          · exact .inl passed
          · rw [point] at owed
            rcases owed with ⟨row, member, _⟩
            exact absurd member List.not_mem_nil
      | cons row rest =>
          have posts := Client.Posts.resendRow row race.client
          refine keeps.of_moved posts.sent (fun _ => posts.sendFn.trans connected)
            (fun _ waiting => absurd waiting ConnectPoint.noConfusion)
            (Client.pending_resendRow row _ race.client) fun hasReturned => ?_
          rcases keeps.served hasReturned with passed | owed
          · exact .inl (posts.passed passed)
          · rw [point] at owed
            rcases owed with ⟨owedRow, member, readsBack⟩
            rcases List.mem_cons.mp member with same | later
            · rcases keeps.sent with ⟨frames, sent⟩
              refine .inl ⟨frames ++ [(sendFn, sendFrame (calls caller).payload)], ?_, by simp⟩
              have resent := Client.resendRow_toRow (calls caller).localId owedRow connected
              rw [same, readsBack] at resent
              simp only [ConnectPoint.step, resent, Client.callSendFn, Client.exec, sent,
                List.append_assoc]
            · exact .inr ⟨owedRow, later, readsBack⟩

/-- A turn of the worker.  The SELECT runs when all statements ahead of it have,
and then it finds the row. -/
theorem Race.Keeps.work {race : Race ι} (keeps : race.Keeps calls sendFn start caller) :
    (RaceStep.work.apply calls sendFn race).Keeps calls sendFn start caller := by
  have samePending : race.client.work.table.pending (calls caller).localId =
      race.client.table.pending (calls caller).localId := by rw [Client.table_work]
  have unsent : ∃ frames, race.client.work.outbound.sent = race.client.outbound.sent ++ frames :=
    ⟨[], (List.append_nil _).symm⟩
  simp only [RaceStep.apply]
  cases point : race.connect with
  | waiting ahead =>
      have connected := keeps.connected (by rw [point]; exact ConnectPoint.noConfusion)
      cases ahead with
      | zero =>
          refine keeps.of_moved ⟨[], (List.append_nil _).symm⟩ (fun _ => connected)
            (fun _ waiting => absurd waiting ConnectPoint.noConfusion) rfl fun hasReturned => ?_
          have served := keeps.served hasReturned
          rw [point] at served
          exact served.imp_right owed_select
      | succ ahead =>
          have lt : ahead < race.client.db.pending.length := keeps.ahead (ahead + 1) point
          refine keeps.of_moved unsent (fun _ => connected) ?_ samePending fun hasReturned => ?_
          · intro count waiting
            obtain rfl := ConnectPoint.waiting.inj waiting
            have length_eq := TaskQueue.length_pending_work Stmt.run race.client.db
            change ahead ≤ (race.client.db.work Stmt.run).pending.length
            omega
          · rcases keeps.served hasReturned with passed | owed
            · exact .inl passed
            · rw [point] at owed
              rcases owed with ⟨payload, waiting, readsBack⟩
              refine .inr ⟨payload, ?_, readsBack⟩
              exact (congrArg (Db.pending · _) (TaskQueue.stateAfter_work Stmt.run _ _)).trans
                waiting
  | called =>
      exact keeps.of_moved unsent (fun begun => absurd rfl begun)
        (fun _ waiting => absurd waiting ConnectPoint.noConfusion) samePending fun _ => .inr trivial
  | published =>
      have connected := keeps.connected (by rw [point]; exact ConnectPoint.noConfusion)
      exact keeps.of_moved unsent (fun _ => connected)
        (fun _ waiting => absurd waiting ConnectPoint.noConfusion) samePending fun _ => .inr trivial
  | flushing rows =>
      have connected := keeps.connected (by rw [point]; exact ConnectPoint.noConfusion)
      refine keeps.of_moved unsent (fun _ => connected)
        (fun _ waiting => absurd waiting ConnectPoint.noConfusion) samePending fun hasReturned => ?_
      have served := keeps.served hasReturned
      rw [point] at served
      exact served
  | returned =>
      have connected := keeps.connected (by rw [point]; exact ConnectPoint.noConfusion)
      refine keeps.of_moved unsent (fun _ => connected)
        (fun _ waiting => absurd waiting ConnectPoint.noConfusion) samePending fun hasReturned => ?_
      have served := keeps.served hasReturned
      rw [point] at served
      exact served

/-- Every step except an acknowledgement of the message. -/
theorem Race.Keeps.apply (own : ReadsBackOwn calls start caller) {race : Race ι}
    (keeps : race.Keeps calls sendFn start caller) {step : RaceStep ι}
    (notAcked : step ≠ .ack (calls caller).localId) :
    (step.apply calls sendFn race).Keeps calls sendFn start caller := by
  -- A handler that does not touch the row of the message.
  have other : ∀ after : Client, race.client.Posts after →
      after.table.pending (calls caller).localId =
        race.client.table.pending (calls caller).localId →
      Race.Keeps calls sendFn start caller { race with client := after } := by
    intro after posts samePending
    refine keeps.of_posts posts ?_ ?_ ?_ .inl
    · rw [samePending]
      exact fun _ waiting => waiting
    · rw [samePending]
      exact keeps.readsBack
    · rw [samePending]
      exact keeps.inserted
  cases step with
  | enqueue mover => exact keeps.enqueue own mover
  | connect => exact keeps.connectStep
  | work => exact keeps.work
  | transient frame =>
      apply other _ (Client.Posts.sendTransient frame race.client)
      rw [Client.sendTransient]
      split <;> rfl
  | ack localId =>
      apply other _ (Client.Posts.onMessageSentAck localId race.client)
      rw [Client.pending_onMessageSentAck, if_neg]
      rintro ⟨rfl, _⟩
      exact notAcked rfl

end Steps

/-! ## Schedules -/

/-- At the outset only a row that waits from the start is there. -/
theorem Race.Keeps.start {ι : Type} {calls : ι → EnqueueCall} {client : Client} {caller : ι}
    (own : ReadsBackOwn calls client caller) (sendFn : Nat) :
    Race.Keeps calls sendFn client caller { client := client } where
  sent := ⟨[], (List.append_nil _).symm⟩
  connected begun := absurd rfl begun
  ahead _ waiting := absurd waiting ConnectPoint.noConfusion
  kept _ initially := initially
  readsBack payload waiting := by
    rw [ReadsBackOwn, waiting] at own
    exact own
  inserted begun := absurd rfl begun
  served hasReturned := absurd hasReturned EnqueuePoint.noConfusion

/-- In every schedule in which the message is not acknowledged, once its call of
`enqueue` and `onConnected` have returned, it has been passed to the new send
function. -/
def AlwaysPassed {ι : Type} [DecidableEq ι] (calls : ι → EnqueueCall) (sendFn : Nat)
    (client : Client) (caller : ι) : Prop :=
  ∀ schedule : List (RaceStep ι), RaceStep.ack (calls caller).localId ∉ schedule →
    let race := EventRun.exec (RaceStep.apply calls sendFn) { client := client } schedule
    race.enqueues caller = .returned → race.connect = .returned →
      Passed calls sendFn client caller race.client

/-! ## Schedules that miss the message -/

section Missed

variable {ι : Type} {calls : ι → EnqueueCall} {sendFn : Nat} {start : Client} {caller : ι}

/-- Nothing has gone to the new send function, and no row waits but that of the
message. -/
structure Race.Ready (calls : ι → EnqueueCall) (sendFn : Nat) (start : Client) (caller : ι)
    (race : Race ι) : Prop where
  connect : race.connect = .called
  earlierFn : race.client.outbound.sendFn ≠ some sendFn
  sent : ∃ frames, race.client.outbound.sent = start.outbound.sent ++ frames ∧
    ∀ frame ∈ frames, frame.1 ≠ sendFn
  alone : ∀ localId, localId ≠ (calls caller).localId → localId ≠ "" →
    race.client.table.pending localId = none

/-- A flush of the one row that waits does not pass a message that the row does
not read back as. -/
theorem Race.Ready.not_passed {race : Race ι} (ready : race.Ready calls sendFn start caller)
    {waiting : SendMessagePayload}
    (found : race.client.table.pending (calls caller).localId = some waiting)
    (differs : waiting.readBack ≠ (calls caller).payload) :
    ¬Passed calls sendFn start caller (race.client.onConnected sendFn) := by
  rintro ⟨frames, sent, member⟩
  rcases ready.sent with ⟨earlierFrames, earlierSent, earlier⟩
  rw [Client.sent_onConnected, earlierSent, List.append_assoc] at sent
  rw [← List.append_cancel_left sent] at member
  rcases List.mem_append.mp member with before | flushed
  · exact earlier _ before rfl
  · rcases List.mem_map.mp flushed with ⟨⟨localId, row⟩, rowMem, same⟩
    have payload_eq : (row.toPayload localId).readBack = (calls caller).payload :=
      FramePayload.sendMessage.inj (Frame.mk.inj (Prod.mk.inj same).2).2
    have waits := Client.pending_of_mem_rows
      (race.client.platform.orderByCreatedAt.mem_sort.mp rowMem)
    by_cases own : localId = (calls caller).localId
    · subst own
      obtain rfl := Option.some.inj (waits.symm.trans found)
      exact differs payload_eq
    · -- Of the other rows at most the one without an id is left, which reads back without one.
      by_cases named : localId = ""
      · subst named
        exact own (congrArg SendMessagePayload.localId payload_eq)
      · exact absurd (waits.symm.trans (ready.alone localId own named))
          (Option.some_ne_none _)

/-- Some call, the message's own maybe, puts a row under the `local_id` that does
not read back as the message, or such a row waits from the start. -/
theorem exists_row_of_not_readsBackOwn (foreign : ¬ReadsBackOwn calls start caller) :
    ∃ first, (calls first).localId = (calls caller).localId ∧
      ∃ waiting,
        (start.table.pending (calls caller).localId).or (some (calls first).payload) =
            some waiting ∧
          waiting.readBack ≠ (calls caller).payload := by
  rw [ReadsBackOwn] at foreign
  cases initially : start.table.pending (calls caller).localId with
  | some waiting =>
      rw [initially] at foreign
      exact ⟨caller, rfl, waiting, rfl, foreign⟩
  | none =>
      rw [initially] at foreign
      push Not at foreign
      rcases foreign with ⟨first, sameId, differs⟩
      exact ⟨first, sameId, (calls first).payload, rfl, differs⟩

variable [DecidableEq ι]

variable (calls sendFn) in
/-- Acknowledgements of some ids clear their rows and send nothing. -/
theorem exec_acks (localIds : List String) (race : Race ι) :
    ∃ client, EventRun.exec (RaceStep.apply calls sendFn) race (localIds.map .ack) =
        { race with client := client } ∧
      client.outbound.sendFn = race.client.outbound.sendFn ∧
      client.outbound.sent = race.client.outbound.sent ∧
      ∀ localId, client.table.pending localId =
        if localId ∈ localIds ∧ localId ≠ "" then none
        else race.client.table.pending localId := by
  induction localIds generalizing race with
  | nil => exact ⟨race.client, rfl, rfl, rfl, fun localId => by simp⟩
  | cons first rest ih =>
      rcases ih { race with client := race.client.onMessageSentAck first } with
        ⟨client, reached, sameFn, sameSent, pending⟩
      refine ⟨client, reached, sameFn.trans (Client.Posts.onMessageSentAck first _).sendFn,
        sameSent.trans (Client.sent_onMessageSentAck first _), fun localId => ?_⟩
      rw [pending, Client.pending_onMessageSentAck]
      by_cases isFirst : localId = first
      · subst isFirst
        by_cases named : localId = "" <;> simp [named]
      · simp [isFirst]

variable (calls caller) in
/-- Once all other rows are acknowledged, only that of the message waits. -/
theorem exists_ready (fresh : start.outbound.sendFn ≠ some sendFn) :
    ∃ (acks : List (RaceStep ι)) (race : Race ι),
      EventRun.exec (RaceStep.apply calls sendFn) { client := start } acks = race ∧
        RaceStep.ack (calls caller).localId ∉ acks ∧
        race.Ready calls sendFn start caller ∧ (∀ other, race.enqueues other = .called) ∧
        race.client.table.pending (calls caller).localId =
          start.table.pending (calls caller).localId := by
  let others := start.table.outboundQueue.keys.filter (· ≠ (calls caller).localId)
  have notOwn : (calls caller).localId ∉ others := by
    intro member
    simpa using (List.mem_filter.mp member).2
  rcases exec_acks calls sendFn others { client := start } with
    ⟨client, reached, sameFn, sameSent, pending⟩
  refine ⟨others.map .ack, _, reached, ?_, ?_⟩
  · intro member
    rcases List.mem_map.mp member with ⟨localId, listed, same⟩
    exact notOwn (RaceStep.ack.inj same ▸ listed)
  · refine ⟨⟨rfl, ?_, ⟨[], ?_, fun _ member => absurd member List.not_mem_nil⟩, ?_⟩,
      fun _ => rfl, ?_⟩
    · rw [sameFn]
      exact fresh
    · rw [sameSent, List.append_nil]
    · intro localId isOther named
      rw [pending]
      split
      · rfl
      · next notListed =>
          rw [Db.pending, Option.map_eq_none_iff]
          by_contra waits
          obtain ⟨row, found⟩ := Option.ne_none_iff_exists'.mp waits
          have key := KeyTable.mem_iff_exists_lookup.mpr ⟨row, found⟩
          exact notListed ⟨List.mem_filter.mpr ⟨key, decide_eq_true isOther⟩, named⟩
    · rw [pending, if_neg fun listed => notOwn listed.1]

/-- A call of `enqueue` under the same `local_id` that runs to its end before the
connection is there. -/
theorem Race.Ready.enqueue {race : Race ι} (ready : race.Ready calls sendFn start caller)
    {mover : ι} (sameId : (calls mover).localId = (calls caller).localId)
    (atStart : race.enqueues mover = .called) :
    ∃ later, EventRun.exec (RaceStep.apply calls sendFn) race
        [.enqueue mover, .enqueue mover, .enqueue mover] = later ∧
      later.Ready calls sendFn start caller ∧
      later.enqueues = Function.update race.enqueues mover .returned ∧
      later.client.table.pending (calls caller).localId =
        (race.client.table.pending (calls caller).localId).or (some (calls mover).payload) := by
  refine ⟨_, exec_enqueue_steps calls sendFn atStart, ⟨ready.connect, ?_, ?_, ?_⟩, rfl, ?_⟩
  · have sameFn : (race.client.enqueue (calls mover).convId (calls mover).convType
        (calls mover).contentType (calls mover).content (calls mover).localId
        (calls mover).callback).outbound.sendFn = race.client.outbound.sendFn := by
      simp only [Client.enqueue]
      split
      · rw [(Client.Posts.sendRow _ _ _ _ _ _).sendFn, Client.sendFn_registerCallback]
        rfl
      · rw [Client.sendFn_registerCallback]
        rfl
    rw [sameFn]
    exact ready.earlierFn
  · rcases ready.sent with ⟨frames, sent, earlier⟩
    refine ⟨frames ++ race.client.outbound.sendFn.toList.map fun earlierFn =>
      (earlierFn, sendFrame (calls mover).payload), ?_, ?_⟩
    · rw [Client.sent_enqueue, sent, List.append_assoc]
      rfl
    · intro frame member
      rcases List.mem_append.mp member with before | now
      · exact earlier frame before
      · rcases List.mem_map.mp now with ⟨earlierFn, isFn, rfl⟩
        rintro rfl
        exact ready.earlierFn (Option.mem_toList.mp isFn)
  · intro localId isOther named
    rw [Client.pending_enqueue, if_neg (sameId.symm ▸ isOther)]
    exact ready.alone localId isOther named
  · rw [Client.pending_enqueue, if_pos sameId.symm, ← sameId]
    rfl

/-- A schedule after which `enqueue` has returned, and a row waits that does not
read back as the message. -/
theorem exists_foreign_row (fresh : start.outbound.sendFn ≠ some sendFn)
    (foreign : ¬ReadsBackOwn calls start caller) :
    ∃ (before : List (RaceStep ι)) (race : Race ι),
      EventRun.exec (RaceStep.apply calls sendFn) { client := start } before = race ∧
        RaceStep.ack (calls caller).localId ∉ before ∧
        race.Ready calls sendFn start caller ∧ race.enqueues caller = .returned ∧
        ∃ waiting, race.client.table.pending (calls caller).localId = some waiting ∧
          waiting.readBack ≠ (calls caller).payload := by
  rcases exists_row_of_not_readsBackOwn foreign with ⟨first, sameId, waiting, fills, differs⟩
  rcases exists_ready calls caller fresh with
    ⟨acks, race, acked, notAcked, ready, atStart, initially⟩
  rcases ready.enqueue sameId (atStart first) with
    ⟨filled, ran, firstReady, firstPoints, firstPending⟩
  rw [initially, fills] at firstPending
  rw [← acked, ← EventRun.exec_append] at ran
  by_cases isOwn : first = caller
  · subst isOwn
    refine ⟨_, filled, ran, by simpa using notAcked, firstReady, ?_, waiting, firstPending,
      differs⟩
    rw [firstPoints, Function.update_self]
  · have notBegun := congrFun firstPoints caller
    rw [Function.update_of_ne (Ne.symm isOwn), atStart] at notBegun
    rcases firstReady.enqueue rfl notBegun with
      ⟨last, ranLast, lastReady, lastPoints, lastPending⟩
    rw [firstPending, Option.some_or] at lastPending
    rw [← ran, ← EventRun.exec_append] at ranLast
    refine ⟨_, last, ranLast, by simpa using notAcked, lastReady, ?_, waiting, lastPending,
      differs⟩
    rw [lastPoints, Function.update_self]

end Missed

/-! ## All schedules -/

/-- Whatever the calls, the rows that wait and the earlier connection are, every
schedule passes the message exactly when the row under its `local_id` reads back
as the message. -/
theorem alwaysPassed_iff {ι : Type} [DecidableEq ι] (calls : ι → EnqueueCall) {sendFn : Nat}
    {client : Client} (fresh : client.outbound.sendFn ≠ some sendFn) (caller : ι) :
    AlwaysPassed calls sendFn client caller ↔ ReadsBackOwn calls client caller := by
  constructor
  · intro always
    by_contra foreign
    rcases exists_foreign_row fresh foreign with
      ⟨before, race, ran, notAcked, ready, hasReturned, waiting, found, differs⟩
    have connected := exec_connect_steps calls sendFn ready.connect
    rw [← ran, ← EventRun.exec_append, ran] at connected
    generalize connect_eq : [RaceStep.connect, RaceStep.connect] ++ _ = connects at connected
    have passed := always (before ++ connects) (by simpa [← connect_eq] using notAcked)
    simp only [connected] at passed
    exact ready.not_passed found differs (passed hasReturned trivial)
  · intro own schedule notAcked race hasReturned connected
    have preserved : ∀ (race : Race ι) (step : RaceStep ι),
        race.Keeps calls sendFn client caller → step ≠ .ack (calls caller).localId →
          (step.apply calls sendFn race).Keeps calls sendFn client caller :=
      fun _ _ keeps => keeps.apply own
    have keeps := EventRun.exec_invariant_of_guarded preserved (Race.Keeps.start own sendFn)
      (EventRun.Guarded.of_forall fun step member same => notAcked (same ▸ member))
    have served := keeps.served hasReturned
    rw [connected] at served
    exact served.resolve_right id

/-- The message `second` for `c2`. -/
def secondCall : EnqueueCall :=
  ⟨"c2", "private", 1, "second", "local_1", {}⟩

/-- A message of a client on an empty database. -/
theorem alwaysPassed_iff_fresh :
    AlwaysPassed (fun _ : Unit => secondCall) 7 (.start default {} 0) () ↔
      ReadsBackOwn (fun _ : Unit => secondCall) (.start default {} 0) () :=
  alwaysPassed_iff _ (by simp [Client.start]) ()

/-- `local_1` of an earlier process still waits when this process enqueues its
own `local_1`: the flush sends the earlier message in its place. -/
theorem not_alwaysPassed_earlier_process :
    let earlier : OutboundRow :=
      { convId := "c1", convType := "private", contentType := 1, content := "first",
        createdAt := 0 }
    ¬AlwaysPassed (fun _ : Unit => secondCall) 7
      (.start default { outboundQueue := (∅ : KeyTable _ _).insert "local_1" earlier } 0) () := by
  intro earlier always
  rcases always [.enqueue (), .enqueue (), .connect, .connect, .work, .work, .connect, .connect]
    (by simp) (by rfl) (by rfl) with ⟨frames, sent, member⟩
  have flushed : (EventRun.exec (RaceStep.apply (fun _ : Unit => secondCall) 7)
      { client := .start default
          { outboundQueue := (∅ : KeyTable _ _).insert "local_1" earlier } 0 }
      [.enqueue (), .enqueue (), .connect, .connect, .work, .work, .connect,
        .connect]).client.outbound.sent = [(7, sendFrame (earlier.toPayload "local_1"))] := by
    decide
  have frames_eq : frames = [(7, sendFrame (earlier.toPayload "local_1"))] :=
    (List.nil_append frames).symm.trans (sent.symm.trans flushed)
  rw [frames_eq, List.mem_singleton] at member
  exact absurd member (by decide)

/-- A message that looked for a connection just before there was one is flushed. -/
example :
    let race := EventRun.exec (RaceStep.apply (fun _ : Unit => secondCall) 7)
      { client := .start default {} 0 }
      [.enqueue (), .enqueue (), .connect, .connect, .work, .work, .connect, .connect]
    race.client.outbound.sent = [(7, sendFrame secondCall.payload)] := by
  decide

end AnychatSdk
