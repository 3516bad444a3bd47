import AnychatSdk.Lib.EventRun
import AnychatSdk.OutboundQueue

/-!
# Text messages across restarts

A local id is `local_` and a counter that every process starts at 1, while the
queued rows outlive the process.  The events here are those of any number of
processes on one database file.  A process that ends in order lets the database
worker catch up; one that is killed loses the statements the worker has not come
to, an INSERT of a message or the DELETE of an acknowledged one among them.
-/

namespace AnychatSdk

inductive MessagingEvent where
  | sendTextMessage (convId content : String) (callback : AnyChatCallback)
  | connected (sendFn : Nat)
  | disconnected
  | transient (frame : Frame)
  | messageSentAck (localId : String)
  | work
  | restart
  | killed (ran : Nat)

namespace MessagingEvent

def apply (client : Client) : MessagingEvent → Client
  | sendTextMessage convId content callback => client.sendTextMessage convId content callback
  | connected sendFn => client.onConnected sendFn
  | disconnected => client.onDisconnected
  | transient frame => (client.sendTransient frame).2
  | messageSentAck localId => client.onMessageSentAck localId
  | work => client.work
  | restart => client.restart
  | killed ran => client.kill ran

def isSend : MessagingEvent → Bool
  | sendTextMessage .. => true
  | _ => false

/-- The process ends, and another one starts. -/
def endsProcess : MessagingEvent → Bool
  | restart | killed _ => true
  | _ => false

/-- The event acknowledges the message. -/
def acks (localId : String) : MessagingEvent → Bool
  | messageSentAck acked => acked = localId && localId ≠ ""
  | _ => false

/-- The number of messages the running process has sent. -/
def sentByProcess (events : List MessagingEvent) : Nat :=
  (events.rtakeWhile fun event => !event.endsProcess).countP isSend

end MessagingEvent

open MessagingEvent (sentByProcess)

/-! ## Local ids -/

/-- The local id of a process's message number `sent + 1`; the counter is a
64-bit integer. -/
def localIdAfter (sent : Nat) : String :=
  "local_" ++ toString (1 + Int64.ofNat sent)

/-- Two numbers give one local id exactly when the 64-bit counter cannot tell
them apart. -/
theorem localIdAfter_eq_iff {first second : Nat} :
    localIdAfter first = localIdAfter second ↔ first % Int64.size = second % Int64.size := by
  constructor
  · intro same
    have counterText := String.append_right_inj "local_" |>.mp same
    have counters : some (1 + Int64.ofNat first) = some (1 + Int64.ofNat second) := by
      rw [← stoll_toString, ← stoll_toString, counterText]
    have words := congrArg Int64.toBitVec (Option.some.inj counters)
    have values := congrArg BitVec.toNat words
    simp at values
    change first % 18446744073709551616 = second % 18446744073709551616
    omega
  · intro same
    have counters : Int64.ofNat first = Int64.ofNat second := by
      apply Int64.toBitVec_inj.mp
      apply BitVec.eq_of_toNat_eq
      simpa using same
    rw [localIdAfter, localIdAfter, counters]

theorem sentByProcess_concat (events : List MessagingEvent) (event : MessagingEvent) :
    sentByProcess (events ++ [event]) =
      if event.endsProcess then 0
      else sentByProcess events + if event.isSend then 1 else 0 := by
  by_cases ends : event.endsProcess = true
  · simp [sentByProcess, ends]
  · simp [sentByProcess, ends, List.countP_singleton]

/-- The counter of the running process counts the messages it has sent. -/
theorem localIdCounter_exec (platform : Platform) (db : Db) (clockReads : Nat)
    (events : List MessagingEvent) :
    (EventRun.exec MessagingEvent.apply (.start platform db clockReads) events).localIdCounter =
      1 + Int64.ofNat (sentByProcess events) := by
  induction events using List.reverseRecOn with
  | nil => rfl
  | append_singleton events event ih =>
      rw [EventRun.exec_concat, sentByProcess_concat]
      generalize EventRun.exec MessagingEvent.apply (.start platform db clockReads) events =
        client at ih
      cases event with
      | sendTextMessage convId content callback =>
          have counted := (Client.SameBesidesQueue.enqueue convId "private"
            Client.messageContentTypeText content client.generateLocalId.1 callback
            client.generateLocalId.2).localIdCounter
          change (client.sendTextMessage convId content callback).localIdCounter = _
          rw [Client.sendTextMessage, counted, Client.generateLocalId, ih]
          simp [MessagingEvent.endsProcess, MessagingEvent.isSend, Int64.ofNat_add, Int64.add_assoc]
      | connected sendFn =>
          exact (Client.SameBesidesQueue.onConnected sendFn client).localIdCounter.trans ih
      | disconnected => exact ih
      | transient frame =>
          exact (Client.SameBesidesQueue.sendTransient frame client).localIdCounter.trans ih
      | messageSentAck localId =>
          exact (Client.SameBesidesQueue.onMessageSentAck localId client).localIdCounter.trans ih
      | work => exact ih
      | restart => rfl
      | killed ran => rfl

/-! ## Pending messages -/

/-- The payload that sending a message brings, under the id generated for it. -/
def MessagingEvent.sentAs (localId : String) (client : Client) :
    MessagingEvent → Option SendMessagePayload
  | sendTextMessage convId content _ =>
      if client.generateLocalId.1 = localId then
        some
          { conversationId := convId, conversationType := "private",
            contentType := Client.messageContentTypeText, content := content, localId := localId }
      else none
  | _ => none

/-- The id generated for the next message. -/
theorem generateLocalId_exec (platform : Platform) (db : Db) (clockReads : Nat)
    (events : List MessagingEvent) :
    (EventRun.exec MessagingEvent.apply
      (.start platform db clockReads) events).generateLocalId.1 =
      localIdAfter (sentByProcess events) := by
  rw [Client.generateLocalId, localIdCounter_exec, localIdAfter]

/-! ## The turns a statement waits for -/

namespace MessagingEvent

/-- A statement that runs with the worker's turn number `turns`, or has run if
that is 0, and one event later; `none` once it is lost. -/
def turnsStep (turns : Nat) : MessagingEvent → Option Nat
  | work => some (turns - 1)
  | connected _ | restart => some 0
  | killed ran => if turns ≤ ran then some 0 else none
  | _ => some turns

/-- The same after some events. -/
def turnsAfter (turns : Nat) (events : List MessagingEvent) : Option Nat :=
  events.foldlM turnsStep turns

/-- The first `count` turns of the worker after the event take the tables as far
as these turns before it.  A SELECT and an orderly end wait for all of them. -/
def turnsBefore (client : Client) (count : Nat) : MessagingEvent → Nat
  | work => count + 1
  | connected _ | restart => client.db.pending.length
  | killed ran => ran
  | _ => count

end MessagingEvent

open MessagingEvent (turnsAfter)

/-- After some events the statement has run, or does within `count` turns. -/
def RunsBy (turns : Nat) (events : List MessagingEvent) (count : Nat) : Prop :=
  ∃ left, turnsAfter turns events = some left ∧ left ≤ count

@[simp]
theorem runsBy_nil {turns count : Nat} : RunsBy turns [] count ↔ turns ≤ count := by
  simp [RunsBy, turnsAfter]

theorem turnsAfter_concat (turns : Nat) (events : List MessagingEvent) (event : MessagingEvent) :
    turnsAfter turns (events ++ [event]) =
      (turnsAfter turns events).bind fun left => MessagingEvent.turnsStep left event := by
  simp [turnsAfter, List.foldlM_append]

/-! ## The slot of a local id in the queue -/

namespace Client

/-- The later state has further bumps of retry counts posted, and nothing else. -/
structure PostsBumps (before after : Client) : Prop where
  state : after.db.state = before.db.state
  pending : ∃ localIds : List String,
    after.db.pending = before.db.pending ++ localIds.map .bumpRetryCount

theorem PostsBumps.of_db {before after : Client} (same : after.db = before.db) :
    PostsBumps before after :=
  ⟨by rw [same], [], by rw [same, List.map_nil, List.append_nil]⟩

theorem PostsBumps.trans {first second third : Client} (firstPosts : PostsBumps first second)
    (secondPosts : PostsBumps second third) : PostsBumps first third := by
  rcases firstPosts.pending with ⟨firstIds, firstPending⟩
  rcases secondPosts.pending with ⟨secondIds, secondPending⟩
  refine ⟨secondPosts.state.trans firstPosts.state, firstIds ++ secondIds, ?_⟩
  rw [secondPending, firstPending, List.append_assoc, List.map_append]

theorem PostsBumps.length_le {before after : Client} (posts : PostsBumps before after) :
    before.db.pending.length ≤ after.db.pending.length := by
  rcases posts.pending with ⟨localIds, pending⟩
  rw [pending, List.length_append]
  exact Nat.le_add_right _ _

theorem postsBumps_sendRow (convId convType : String) (contentType : Int32)
    (content localId : String) (client : Client) :
    PostsBumps client (client.sendRow convId convType contentType content localId) := by
  rw [sendRow]
  split
  · exact .of_db rfl
  · exact ⟨rfl, [localId], rfl⟩

theorem postsBumps_resendRow (row : Row) (client : Client) :
    PostsBumps client (client.resendRow row) := by
  rw [resendRow]
  split
  · split
    · exact postsBumps_sendRow _ _ _ _ _ client
    · exact .of_db rfl
  · exact .of_db rfl

theorem postsBumps_registerCallback (localId : String) (callback : AnyChatCallback)
    (client : Client) : PostsBumps client (client.registerCallback localId callback) := by
  rw [registerCallback]
  split <;> exact .of_db rfl

theorem postsBumps_sendTransient (frame : Frame) (client : Client) :
    PostsBumps client (client.sendTransient frame).2 := by
  rw [sendTransient]
  split <;> exact .of_db rfl

/-- An enqueue posts its INSERT first. -/
theorem postsBumps_enqueue (convId convType : String) (contentType : Int32)
    (content localId : String) (callback : AnyChatCallback) (client : Client) :
    PostsBumps
      (client.nowMs.2.exec (.insertOrIgnoreOutbound localId
        (outboundRow convId convType contentType content client.nowMs.1)))
      (client.enqueue convId convType contentType content localId callback) := by
  simp only [enqueue]
  split
  · exact (postsBumps_registerCallback _ _ _).trans (postsBumps_sendRow _ _ _ _ _ _)
  · exact postsBumps_registerCallback _ _ _

/-- A flush posts its bumps behind an empty queue. -/
theorem postsBumps_onConnected (sendFn : Nat) (client : Client) :
    PostsBumps client.querySync (client.onConnected sendFn) := by
  have resent : ∀ (rows : List Row) (client : Client),
      PostsBumps client (rows.foldl (fun client row => client.resendRow row) client) := by
    intro rows
    induction rows with
    | nil => exact fun _ => .of_db rfl
    | cons row rest ih => exact fun client => (postsBumps_resendRow row client).trans (ih _)
  have flushed : PostsBumps client.querySync (client.setSendFn (some sendFn)).querySync :=
    .of_db rfl
  exact flushed.trans (resent _ _)

theorem postsBumps_onMessageSentAck {localId : String} (named : localId ≠ "") (client : Client) :
    PostsBumps (client.exec (.deleteOutbound localId)) (client.onMessageSentAck localId) := by
  rw [onMessageSentAck, if_neg named, completeCallback]
  split <;> exact .of_db rfl

/-- Bumps leave the waiting messages alone, however many of them have run. -/
theorem PostsBumps.pending_stateAfter {before after : Client} (posts : PostsBumps before after)
    (count : Nat) (localId : String) :
    (after.db.stateAfter Stmt.run count).pending localId =
      (before.db.stateAfter Stmt.run count).pending localId := by
  rcases posts.pending with ⟨bumped, appended⟩
  rcases Nat.le_total count before.db.pending.length with le | le
  · rw [TaskQueue.stateAfter_of_append Stmt.run posts.state appended le]
  · rw [TaskQueue.stateAfter_of_append_of_le Stmt.run posts.state appended le,
      TaskQueue.stateAfter_of_length_le Stmt.run le, ← List.map_take]
    generalize before.db.drained Stmt.run = db
    induction bumped.take (count - before.db.pending.length) generalizing db with
    | nil => rfl
    | cons bumpedId rest ih =>
        rw [List.map_cons, List.foldl_cons, ih, Db.pending_eq, inserted_bumpRetryCount,
          ← Db.pending_eq]

/-- A posted statement is the last one to run. -/
theorem stateAfter_exec (stmt : Stmt) (client : Client) (count : Nat) :
    (client.exec stmt).db.stateAfter Stmt.run count =
      if client.db.pending.length < count then stmt.run client.table
      else client.db.stateAfter Stmt.run count := by
  have appended : (client.exec stmt).db.pending = client.db.pending ++ [stmt] := rfl
  split
  · next lt =>
      rw [TaskQueue.stateAfter_of_length_le Stmt.run, Client.exec, TaskQueue.drained_post]
      · rfl
      · rw [appended, List.length_append]
        exact lt
  · next notLt =>
      exact TaskQueue.stateAfter_of_append Stmt.run rfl appended (Nat.le_of_not_lt notLt)

end Client

open Client (PostsBumps)

theorem pending_deleteOutbound (localId other : String) (db : Db) :
    ((Stmt.deleteOutbound localId).run db).pending other =
      if other = localId then none else db.pending other := by
  rw [Db.pending, Stmt.run, KeyTable.lookup_erase_eq_ite]
  split <;> rfl

/-- What waits under a local id once the worker has come to some place in the
queue: what waited at the corresponding place before the event, unless the place
lies behind what the event has posted. -/
theorem pending_stateAfter_apply (localId : String) (client : Client) (event : MessagingEvent)
    (count : Nat) :
    ((event.apply client).db.stateAfter Stmt.run count).pending localId =
      if client.db.pending.length < count ∧ event.acks localId = true then none
      else
        ((client.db.stateAfter Stmt.run (event.turnsBefore client count)).pending localId).or
          (if client.db.pending.length < count then event.sentAs localId client else none) := by
  cases event with
  | sendTextMessage convId content callback =>
      have posts := Client.postsBumps_enqueue convId "private" Client.messageContentTypeText
        content client.generateLocalId.1 callback client.generateLocalId.2
      have exec := Client.stateAfter_exec (.insertOrIgnoreOutbound client.generateLocalId.1
        (Client.outboundRow convId "private" Client.messageContentTypeText content
          client.generateLocalId.2.nowMs.1)) client.generateLocalId.2.nowMs.2 count
      have slot := posts.pending_stateAfter count localId
      rw [exec] at slot
      refine slot.trans ?_
      have sameQueue : client.generateLocalId.2.nowMs.2.db = client.db := rfl
      have sameTable : client.generateLocalId.2.nowMs.2.table = client.table := rfl
      rw [sameQueue, sameTable]
      by_cases behind : client.db.pending.length < count
      · rw [if_pos behind, if_pos behind, Client.pending_insertOrIgnoreOutbound]
        have drained : client.db.stateAfter Stmt.run count = client.table :=
          TaskQueue.stateAfter_of_length_le Stmt.run (Nat.le_of_lt behind)
        by_cases same : localId = client.generateLocalId.1
        · simp [MessagingEvent.acks, MessagingEvent.turnsBefore, MessagingEvent.sentAs, drained,
            same]
        · simp [MessagingEvent.acks, MessagingEvent.turnsBefore, MessagingEvent.sentAs, drained,
            same, Ne.symm same]
      · simp [behind, MessagingEvent.turnsBefore]
  | connected sendFn =>
      have slot := (Client.postsBumps_onConnected sendFn client).pending_stateAfter count localId
      refine slot.trans ?_
      have flushed : client.querySync.db.stateAfter Stmt.run count = client.table :=
        TaskQueue.stateAfter_idle Stmt.run count _
      rw [flushed]
      simp [MessagingEvent.acks, MessagingEvent.turnsBefore, MessagingEvent.sentAs]
      rfl
  | disconnected =>
      simp [MessagingEvent.acks, MessagingEvent.turnsBefore, MessagingEvent.sentAs]
      rfl
  | transient frame =>
      have slot := (Client.postsBumps_sendTransient frame client).pending_stateAfter count localId
      simpa [MessagingEvent.apply, MessagingEvent.acks, MessagingEvent.turnsBefore,
        MessagingEvent.sentAs] using slot
  | messageSentAck acked =>
      by_cases named : acked = ""
      · have unchanged : (MessagingEvent.messageSentAck acked).apply client = client := by
          rw [MessagingEvent.apply, Client.onMessageSentAck, if_pos named]
        have notAcked : (MessagingEvent.messageSentAck acked).acks localId = false := by
          simp only [MessagingEvent.acks, Bool.and_eq_false_iff, decide_eq_false_iff_not]
          by_cases same : acked = localId
          · exact .inr (by simp [← same, named])
          · exact .inl same
        simp [unchanged, notAcked, MessagingEvent.turnsBefore, MessagingEvent.sentAs]
      · have slot := (Client.postsBumps_onMessageSentAck named client).pending_stateAfter count
          localId
        rw [Client.stateAfter_exec] at slot
        refine slot.trans ?_
        by_cases behind : client.db.pending.length < count
        · have drained : client.db.stateAfter Stmt.run count = client.table :=
            TaskQueue.stateAfter_of_length_le Stmt.run (Nat.le_of_lt behind)
          rw [if_pos behind, pending_deleteOutbound]
          by_cases same : acked = localId
          · simp [MessagingEvent.acks, behind, same, same ▸ named]
          · simp [MessagingEvent.acks, MessagingEvent.turnsBefore, MessagingEvent.sentAs, drained,
              same, Ne.symm same]
        · simp [behind, MessagingEvent.turnsBefore]
  | work =>
      simp [MessagingEvent.acks, MessagingEvent.turnsBefore, MessagingEvent.sentAs,
        MessagingEvent.apply, Client.work, TaskQueue.stateAfter_work]
  | restart =>
      have ended : (MessagingEvent.restart.apply client).db.stateAfter Stmt.run count =
          client.table := TaskQueue.stateAfter_idle Stmt.run count _
      rw [ended]
      simp [MessagingEvent.acks, MessagingEvent.turnsBefore, MessagingEvent.sentAs]
      rfl
  | killed ran =>
      have ended : ((MessagingEvent.killed ran).apply client).db.stateAfter Stmt.run count =
          client.db.stateAfter Stmt.run ran := TaskQueue.stateAfter_idle Stmt.run count _
      simp [ended, MessagingEvent.acks, MessagingEvent.turnsBefore, MessagingEvent.sentAs]

/-! ## How many turns are left -/

section Turns

variable {client : Client} {event : MessagingEvent} {localId : String}

/-- A message and an acknowledgement each post a statement of their own. -/
theorem length_apply_of_posts
    (posts : (event.sentAs localId client).isSome ∨ event.acks localId = true) :
    client.db.pending.length + 1 ≤ (event.apply client).db.pending.length := by
  have exec : ∀ (stmt : Stmt) (before after : Client), before.db = client.db →
      PostsBumps (before.exec stmt) after →
        client.db.pending.length + 1 ≤ after.db.pending.length := by
    intro stmt before after same bumps
    refine le_of_eq_of_le ?_ bumps.length_le
    simp [Client.exec, TaskQueue.post, same]
  cases event with
  | sendTextMessage convId content callback =>
      exact exec _ client.generateLocalId.2.nowMs.2 _ rfl
        (Client.postsBumps_enqueue convId "private" Client.messageContentTypeText content
          client.generateLocalId.1 callback client.generateLocalId.2)
  | messageSentAck acked =>
      have named : acked ≠ "" := by
        rintro rfl
        simp [MessagingEvent.sentAs, MessagingEvent.acks, eq_comm] at posts
      exact exec _ client _ rfl (Client.postsBumps_onMessageSentAck named client)
  | _ => simp [MessagingEvent.sentAs, MessagingEvent.acks] at posts

/-- A statement in the queue stays in it or has run. -/
theorem turnsStep_le {turns left : Nat} (within : turns ≤ client.db.pending.length)
    (step : MessagingEvent.turnsStep turns event = some left) :
    left ≤ (event.apply client).db.pending.length := by
  cases event with
  | sendTextMessage convId content callback =>
      obtain rfl := Option.some.inj step
      have sends : ((MessagingEvent.sendTextMessage convId content callback).sentAs
          client.generateLocalId.1 client).isSome := by
        simp [MessagingEvent.sentAs]
      have posted := length_apply_of_posts (.inl sends)
      omega
  | connected sendFn | restart =>
      obtain rfl := Option.some.inj step
      exact Nat.zero_le _
  | disconnected =>
      obtain rfl := Option.some.inj step
      exact within
  | transient frame =>
      obtain rfl := Option.some.inj step
      exact within.trans (Client.postsBumps_sendTransient frame client).length_le
  | messageSentAck acked =>
      obtain rfl := Option.some.inj step
      by_cases named : acked = ""
      · rwa [MessagingEvent.apply, Client.onMessageSentAck, if_pos named]
      · have acks : (MessagingEvent.messageSentAck acked).acks acked = true := by
          simp [MessagingEvent.acks, named]
        have posted :
            client.db.pending.length + 1 ≤
              ((MessagingEvent.messageSentAck acked).apply client).db.pending.length :=
          length_apply_of_posts (.inr acks)
        omega
  | work =>
      obtain rfl := Option.some.inj step
      rw [MessagingEvent.apply, Client.work, TaskQueue.length_pending_work]
      exact Nat.sub_le_sub_right within 1
  | killed ran =>
      rw [MessagingEvent.turnsStep] at step
      split at step
      · obtain rfl := Option.some.inj step
        exact Nat.zero_le _
      · exact absurd step (Option.some_ne_none left).symm

/-- A statement has run some turns after an event exactly if it has at the
corresponding place before it. -/
theorem runsBy_concat {turns count : Nat} {events : List MessagingEvent}
    (within : ∀ left, turnsAfter turns events = some left → left ≤ client.db.pending.length) :
    RunsBy turns (events ++ [event]) count ↔
      RunsBy turns events (event.turnsBefore client count) := by
  rw [RunsBy, RunsBy, turnsAfter_concat]
  cases left_eq : turnsAfter turns events with
  | none => simp
  | some left =>
      have bound := within left left_eq
      cases event with
      | work => simp [MessagingEvent.turnsStep, MessagingEvent.turnsBefore]
      | killed ran =>
          simp only [MessagingEvent.turnsStep, MessagingEvent.turnsBefore, Option.bind_some]
          split <;> simp_all
      | connected sendFn | restart =>
          simp [MessagingEvent.turnsStep, MessagingEvent.turnsBefore, bound]
      | _ => simp [MessagingEvent.turnsStep, MessagingEvent.turnsBefore]

end Turns

/-- The turn with which the statement runs that the event after `before` posts
first. -/
def turnOf (client : Client) (before : List MessagingEvent) : Nat :=
  (EventRun.exec MessagingEvent.apply client before).db.pending.length + 1

theorem turnsAfter_le {client : Client} {localId : String} {before after : List MessagingEvent}
    {event : MessagingEvent}
    (posts : (event.sentAs localId (EventRun.exec MessagingEvent.apply client before)).isSome ∨
      event.acks localId = true) {left : Nat}
    (left_eq : turnsAfter (turnOf client before) after = some left) :
    left ≤ (EventRun.exec MessagingEvent.apply client
      (before ++ event :: after)).db.pending.length := by
  induction after using List.reverseRecOn generalizing left with
  | nil =>
      obtain rfl := Option.some.inj left_eq
      rw [EventRun.exec_concat]
      exact length_apply_of_posts posts
  | append_singleton after last ih =>
      rw [turnsAfter_concat] at left_eq
      rcases Option.bind_eq_some_iff.mp left_eq with ⟨earlier, earlier_eq, step⟩
      rw [← List.cons_append, ← List.append_assoc, EventRun.exec_concat]
      exact turnsStep_le (ih earlier_eq) step

/-! ## Stored messages -/

/-- The history has stored the payload under the local id once the worker has
taken `count` more turns: the INSERT has run by then, and the DELETE of no later
acknowledgement has. -/
def StoredBy (client : Client) (localId : String) (events : List MessagingEvent) (count : Nat)
    (payload : SendMessagePayload) : Prop :=
  ∃ before event after, events = before ++ event :: after ∧
    event.sentAs localId (EventRun.exec MessagingEvent.apply client before) = some payload ∧
    RunsBy (turnOf client before) after count ∧
    ∀ middle ack rest, after = middle ++ ack :: rest → ack.acks localId = true →
      ¬RunsBy (turnOf client (before ++ event :: middle)) rest count

theorem concat_eq_append_cons_iff {α : Type} {items front back : List α} {last item : α} :
    items ++ [last] = front ++ item :: back ↔
      (front = items ∧ item = last ∧ back = []) ∨
        ∃ rest, back = rest ++ [last] ∧ items = front ++ item :: rest := by
  constructor
  · intro split
    induction back using List.reverseRecOn with
    | nil =>
        rcases List.append_inj' split rfl with ⟨sameFront, sameLast⟩
        exact .inl ⟨sameFront.symm, (List.singleton_inj.mp sameLast).symm, rfl⟩
    | append_singleton rest final _ =>
        rw [← List.cons_append, ← List.append_assoc] at split
        rcases List.append_inj' split rfl with ⟨sameFront, sameLast⟩
        exact .inr ⟨rest, by rw [sameLast], sameFront⟩
  · rintro (⟨rfl, rfl, rfl⟩ | ⟨rest, rfl, rfl⟩)
    · rfl
    · simp

/-- One more event: what it sends itself is stored behind the queue, and what it
acknowledges is deleted there. -/
theorem storedBy_concat {client : Client} {localId : String} {events : List MessagingEvent}
    {event : MessagingEvent} {count : Nat} {payload : SendMessagePayload} :
    StoredBy client localId (events ++ [event]) count payload ↔
      let reached := EventRun.exec MessagingEvent.apply client events
      ¬(reached.db.pending.length < count ∧ event.acks localId = true) ∧
          StoredBy client localId events (event.turnsBefore reached count) payload ∨
        reached.db.pending.length < count ∧ event.sentAs localId reached = some payload := by
  have posted : turnOf client events ≤ count ↔
      (EventRun.exec MessagingEvent.apply client events).db.pending.length < count := Iff.rfl
  constructor
  · rintro ⟨before, sent, after, split, offered, runs, kept⟩
    rcases concat_eq_append_cons_iff.mp split with ⟨rfl, rfl, rfl⟩ | ⟨rest, rfl, rfl⟩
    · exact .inr ⟨runsBy_nil.mp runs, offered⟩
    · have sentSome := Option.isSome_iff_exists.mpr ⟨payload, offered⟩
      refine .inl ⟨?_, before, sent, rest, rfl, offered, ?_, ?_⟩
      · rintro ⟨behind, acks⟩
        exact kept rest event [] rfl acks (runsBy_nil.mpr (posted.mpr behind))
      · exact (runsBy_concat fun _ => turnsAfter_le (.inl sentSome)).mp runs
      · rintro middle ack later rfl acks ran
        refine kept middle ack (later ++ [event]) (by simp) acks ((runsBy_concat ?_).mpr ran)
        intro left left_eq
        have le := turnsAfter_le (.inr acks) left_eq
        simpa using le
  · rintro (⟨notAcked, before, sent, after, rfl, offered, runs, kept⟩ | ⟨behind, offered⟩)
    · have sentSome := Option.isSome_iff_exists.mpr ⟨payload, offered⟩
      refine ⟨before, sent, after ++ [event], by simp, offered,
        (runsBy_concat fun _ => turnsAfter_le (.inl sentSome)).mpr runs, ?_⟩
      intro middle ack rest split acks ran
      rcases concat_eq_append_cons_iff.mp split with ⟨rfl, rfl, rfl⟩ | ⟨later, rfl, rfl⟩
      · exact notAcked ⟨posted.mp (runsBy_nil.mp ran), acks⟩
      · refine kept middle ack later rfl acks ((runsBy_concat ?_).mp ran)
        intro left left_eq
        have le := turnsAfter_le (.inr acks) left_eq
        simpa using le
    · exact ⟨events, event, [], rfl, offered, runsBy_nil.mpr (posted.mpr behind),
        fun middle ack rest split => by simp at split⟩

section Slot

variable {client : Client} {localId : String} {payload : SendMessagePayload}

/-- What waits, with nothing queued at the outset, is stored by the history. -/
theorem storedBy_of_pending (empty : client.db = .idle { client.db.state with outboundQueue := ∅ })
    {events : List MessagingEvent} {count : Nat}
    (waiting : ((EventRun.exec MessagingEvent.apply client events).db.stateAfter Stmt.run
      count).pending localId = some payload) : StoredBy client localId events count payload := by
  induction events using List.reverseRecOn generalizing count with
  | nil =>
      rw [EventRun.exec_nil, empty, TaskQueue.stateAfter_idle] at waiting
      exact absurd waiting.symm (Option.some_ne_none payload)
  | append_singleton events event ih =>
      rw [EventRun.exec_concat, pending_stateAfter_apply] at waiting
      rw [storedBy_concat]
      split at waiting
      · exact absurd waiting.symm (Option.some_ne_none payload)
      · next notAcked =>
          rcases Option.or_eq_some_iff.mp waiting with earlier | ⟨_, offered⟩
          · exact .inl ⟨notAcked, ih earlier⟩
          · split at offered
            · next behind => exact .inr ⟨behind, offered⟩
            · exact absurd offered.symm (Option.some_ne_none payload)

/-- Whenever a message is sent under the local id, nothing waits there. -/
def SentWhileFree (client : Client) (localId : String) (events : List MessagingEvent) : Prop :=
  ∀ before event after, events = before ++ event :: after →
    (event.sentAs localId (EventRun.exec MessagingEvent.apply client before)).isSome →
      (EventRun.exec MessagingEvent.apply client before).table.pending localId = none

/-- What the history stores waits, if nothing stood in its way when it was sent. -/
theorem pending_of_storedBy {events : List MessagingEvent} {count : Nat}
    (free : SentWhileFree client localId events)
    (stored : StoredBy client localId events count payload) :
    ((EventRun.exec MessagingEvent.apply client events).db.stateAfter Stmt.run count).pending
      localId = some payload := by
  induction events using List.reverseRecOn generalizing count with
  | nil =>
      rcases stored with ⟨before, event, after, split, _⟩
      exact absurd split (by simp)
  | append_singleton events event ih =>
      have earlierFree : SentWhileFree client localId events := fun before sent after split =>
        free before sent (after ++ [event]) (by simp [split])
      rw [EventRun.exec_concat, pending_stateAfter_apply]
      rcases storedBy_concat.mp stored with ⟨notAcked, earlier⟩ | ⟨behind, offered⟩
      · rw [if_neg notAcked, ih earlierFree earlier]
        rfl
      · -- The message is stored by the event itself, behind a queue that leaves its slot free.
        have sentSome := Option.isSome_iff_exists.mpr ⟨payload, offered⟩
        have nothing := free events event [] rfl sentSome
        cases event with
        | sendTextMessage convId content callback =>
            have drained : (EventRun.exec MessagingEvent.apply client events).db.stateAfter
                Stmt.run count = (EventRun.exec MessagingEvent.apply client events).table :=
              TaskQueue.stateAfter_of_length_le Stmt.run (Nat.le_of_lt behind)
            have inPlace : (MessagingEvent.sendTextMessage convId content callback).turnsBefore
                (EventRun.exec MessagingEvent.apply client events) count = count := rfl
            rw [if_neg (by simp [MessagingEvent.acks]), inPlace, drained, nothing,
              Option.none_or, if_pos behind, offered]
        | _ => exact absurd offered.symm (Option.some_ne_none payload)

end Slot

/-! ## Survival -/

/-- Every message sent in the run gets an id that no pending row has, and is
acknowledged under it later or still pending with its own conversation and
content at the end. -/
def MessagesSurvive (client : Client) (events : List MessagingEvent) : Prop :=
  ∀ before convId content callback after,
    events = before ++ .sendTextMessage convId content callback :: after →
    let sender := EventRun.exec MessagingEvent.apply client before
    let localId := sender.generateLocalId.1
    sender.table.outboundQueue.lookup localId = none ∧
      ((∃ event ∈ after, event.acks localId = true) ∨
        ∃ row, (EventRun.exec MessagingEvent.apply client events).table.outboundQueue.lookup
            localId = some row ∧ row.convId = convId ∧ row.content = content)

/-- The statement that the event after `before` posts first is not lost: the
worker comes to it, or its process still runs. -/
def Lasts (client : Client) (before after : List MessagingEvent) : Prop :=
  (turnsAfter (turnOf client before) after).isSome

/-- A message with this conversation and content has been sent under the local
id, its INSERT lasts, and the DELETE of no later acknowledgement does. -/
def Stores (client : Client) (localId convId content : String) (events : List MessagingEvent) :
    Prop :=
  ∃ before callback after,
    events = before ++ .sendTextMessage convId content callback :: after ∧
      localIdAfter (sentByProcess before) = localId ∧ Lasts client before after ∧
      ∀ middle rest, after = middle ++ .messageSentAck localId :: rest →
        ¬Lasts client (before ++ .sendTextMessage convId content callback :: middle) rest

/-- No message is sent while one is stored that its process has counted alike, up
to the width of the counter. -/
def CountsNeverClash (client : Client) (events : List MessagingEvent) : Prop :=
  ∀ before convId content callback after,
    events = before ++ .sendTextMessage convId content callback :: after →
    ∀ otherConvId otherContent,
      ¬Stores client (localIdAfter (sentByProcess before)) otherConvId otherContent before

/-- Every message is acknowledged later, or stored at the end: its own INSERT
lasts, or that of the same text under the same local id. -/
def InsertsLast (client : Client) (events : List MessagingEvent) : Prop :=
  ∀ before convId content callback after,
    events = before ++ .sendTextMessage convId content callback :: after →
    (∃ event ∈ after, event.acks (localIdAfter (sentByProcess before)) = true) ∨
      Stores client (localIdAfter (sentByProcess before)) convId content events

theorem acks_iff {localId : String} (named : localId ≠ "") {event : MessagingEvent} :
    event.acks localId = true ↔ event = .messageSentAck localId := by
  cases event <;> simp [MessagingEvent.acks, named]

theorem localIdAfter_ne_empty (sent : Nat) : localIdAfter sent ≠ "" := by
  intro empty
  have lengths := congrArg String.length empty
  simp [localIdAfter, String.length_append] at lengths

theorem pending_eq_none_iff {db : Db} {localId : String} :
    db.pending localId = none ↔ db.outboundQueue.lookup localId = none :=
  Option.map_eq_none_iff

/-- The payload that `sendTextMessage` enqueues. -/
def textPayload (localId convId content : String) : SendMessagePayload where
  conversationId := convId
  conversationType := "private"
  contentType := Client.messageContentTypeText
  content := content
  localId := localId

section FromStart

variable (platform : Platform) (db : Db) (clockReads : Nat)

/-- A history that stores a message stores its payload by the end of the queue. -/
theorem storedBy_iff_stores {localId convId content : String} (named : localId ≠ "")
    {events : List MessagingEvent} :
    let client := Client.start platform db clockReads
    StoredBy client localId events
        (EventRun.exec MessagingEvent.apply client events).db.pending.length
        (textPayload localId convId content) ↔
      Stores client localId convId content events := by
  intro client
  have lasts_iff : ∀ before event after,
      (event.sentAs localId (EventRun.exec MessagingEvent.apply client before)).isSome ∨
          event.acks localId = true →
        events = before ++ event :: after →
        (RunsBy (turnOf client before) after
            (EventRun.exec MessagingEvent.apply client events).db.pending.length ↔
          Lasts client before after) := by
    rintro before event after posts rfl
    rw [Lasts, Option.isSome_iff_exists, RunsBy]
    constructor
    · rintro ⟨left, left_eq, _⟩
      exact ⟨left, left_eq⟩
    · rintro ⟨left, left_eq⟩
      exact ⟨left, left_eq, turnsAfter_le posts left_eq⟩
  constructor
  · rintro ⟨before, event, after, split, offered, runs, kept⟩
    have sends : (event.sentAs localId (EventRun.exec MessagingEvent.apply client before)).isSome :=
      Option.isSome_iff_exists.mpr ⟨_, offered⟩
    cases event with
    | sendTextMessage sentConvId sentContent callback =>
        simp only [MessagingEvent.sentAs] at offered
        split at offered
        · next sameId =>
            obtain ⟨rfl, _, _, rfl, _⟩ := SendMessagePayload.mk.inj (Option.some.inj offered)
            rw [generateLocalId_exec] at sameId
            refine ⟨before, callback, after, split, sameId,
              (lasts_iff _ _ _ (.inl sends) split).mp runs, ?_⟩
            rintro middle rest rfl lasts
            have acks : (MessagingEvent.messageSentAck localId).acks localId = true :=
              (acks_iff named).mpr rfl
            refine kept middle _ rest rfl acks ?_
            exact (lasts_iff _ _ _ (.inr acks) (by simp [split])).mpr lasts
        · exact absurd offered.symm (Option.some_ne_none _)
    | _ => exact absurd offered.symm (Option.some_ne_none _)
  · rintro ⟨before, callback, after, split, sameId, lasts, kept⟩
    have offered : (MessagingEvent.sendTextMessage convId content callback).sentAs localId
        (EventRun.exec MessagingEvent.apply client before) =
          some (textPayload localId convId content) := by
      simp only [MessagingEvent.sentAs]
      rw [if_pos ((generateLocalId_exec platform db clockReads before).trans sameId)]
      rfl
    have sends : ((MessagingEvent.sendTextMessage convId content callback).sentAs localId
        (EventRun.exec MessagingEvent.apply client before)).isSome :=
      Option.isSome_iff_exists.mpr ⟨_, offered⟩
    refine ⟨before, _, after, split, offered, (lasts_iff _ _ _ (.inl sends) split).mpr lasts, ?_⟩
    rintro middle ack rest rfl acks ran
    obtain rfl := (acks_iff named).mp acks
    exact kept middle rest rfl ((lasts_iff _ _ _ (.inr acks) (by simp [split])).mp ran)

/-- What waits was sent as it waits there, and its history stores it. -/
theorem stores_of_pending {localId : String} {payload : SendMessagePayload} (named : localId ≠ "")
    {events : List MessagingEvent}
    (waiting : (EventRun.exec MessagingEvent.apply
      (.start platform { db with outboundQueue := ∅ } clockReads) events).table.pending localId =
        some payload) :
    ∃ convId content, payload = textPayload localId convId content ∧
      Stores (.start platform { db with outboundQueue := ∅ } clockReads) localId convId content
        events := by
  rw [Client.table, ← TaskQueue.stateAfter_length] at waiting
  rcases storedBy_of_pending rfl waiting with ⟨before, event, after, split, offered, stored⟩
  cases event with
  | sendTextMessage convId content callback =>
      have payload_eq : payload = textPayload localId convId content := by
        simp only [MessagingEvent.sentAs] at offered
        split at offered
        · exact (Option.some.inj offered).symm
        · exact absurd offered.symm (Option.some_ne_none payload)
      subst payload_eq
      exact ⟨convId, content, rfl, (storedBy_iff_stores platform _ clockReads named).mp
        ⟨before, _, after, split, offered, stored⟩⟩
  | _ => exact absurd offered.symm (Option.some_ne_none payload)

/-- A message in the table is the one that its history stores. -/
theorem pending_of_stores {localId convId content : String} (named : localId ≠ "")
    {events : List MessagingEvent}
    (free : SentWhileFree (.start platform { db with outboundQueue := ∅ } clockReads) localId
      events)
    (stores : Stores (.start platform { db with outboundQueue := ∅ } clockReads) localId convId
      content events) :
    (EventRun.exec MessagingEvent.apply
      (.start platform { db with outboundQueue := ∅ } clockReads) events).table.pending localId =
        some (textPayload localId convId content) := by
  have waiting := pending_of_storedBy free
    ((storedBy_iff_stores platform _ clockReads named).mpr stores)
  rwa [TaskQueue.stateAfter_length] at waiting

/-- The id that sending a message generates. -/
theorem sentAs_isSome_iff {localId : String} {before : List MessagingEvent}
    {event : MessagingEvent} :
    (event.sentAs localId (EventRun.exec MessagingEvent.apply (.start platform db clockReads)
        before)).isSome ↔
      ∃ convId content callback, event = .sendTextMessage convId content callback ∧
        localIdAfter (sentByProcess before) = localId := by
  cases event with
  | sendTextMessage convId content callback =>
      simp only [MessagingEvent.sentAs, generateLocalId_exec]
      split <;> simp_all
  | _ => simp [MessagingEvent.sentAs]

/-- When counts never clash, every id is free when a message is sent under it. -/
theorem sentWhileFree_of_countsNeverClash {localId : String} (named : localId ≠ "")
    {events : List MessagingEvent}
    (noClash : CountsNeverClash (.start platform { db with outboundQueue := ∅ } clockReads)
      events) :
    SentWhileFree (.start platform { db with outboundQueue := ∅ } clockReads) localId events := by
  intro before event after split sentSome
  rcases (sentAs_isSome_iff platform _ clockReads).mp sentSome with
    ⟨convId, content, callback, rfl, rfl⟩
  rw [← Option.not_isSome_iff_eq_none, Option.isSome_iff_exists]
  rintro ⟨payload, waiting⟩
  rcases stores_of_pending platform db clockReads named waiting with
    ⟨otherConvId, otherContent, _, stores⟩
  exact noClash before convId content callback after split otherConvId otherContent stores

/-- When messages survive, every id is free when a message is sent under it. -/
theorem sentWhileFree_of_messagesSurvive {localId : String} {events : List MessagingEvent}
    (survive : MessagesSurvive (.start platform { db with outboundQueue := ∅ } clockReads)
      events) :
    SentWhileFree (.start platform { db with outboundQueue := ∅ } clockReads) localId events := by
  intro before event after split sentSome
  rcases (sentAs_isSome_iff platform _ clockReads).mp sentSome with
    ⟨convId, content, callback, rfl, rfl⟩
  have free := (survive before convId content callback after split).1
  rw [generateLocalId_exec] at free
  exact pending_eq_none_iff.mpr free

end FromStart

/-- A process that is killed before the worker comes to the INSERT of its message. -/
example :
    ¬MessagesSurvive (.start default {} 0)
      [.sendTextMessage "c1" "first" {}, .killed 0] := by
  intro survive
  rcases (survive [] "c1" "first" {} [.killed 0] rfl).2 with
    ⟨event, member, acks⟩ | ⟨row, found, _⟩
  · obtain rfl := List.mem_singleton.mp member
    exact absurd acks (by decide)
  · exact absurd found.symm (Option.some_ne_none row)

end AnychatSdk
