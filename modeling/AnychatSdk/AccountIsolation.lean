import AnychatSdk.AccountSessions
import AnychatSdk.SendCallbacks

/-!
# Isolation of accounts

`logout` ends the connection and its response clears the token.  The outbound
queue, the callbacks, both caches, the tables, the cursor of the sync and the
counter of local ids stay as they are, and the session of the next account
starts from them.
-/

namespace AnychatSdk

/-! ## What an account sees -/

/-- What an account gets to see, on its connection or in its application. -/
inductive Observation where
  | sent (frame : Frame)
  | completed (function : Nat)
  | conversationList (convs : Option (List Conversation))
  | history (messages : Option (List Message))
  | syncRequest (request : SyncRequestPayload)

namespace Client

/-- The success functions that ran between the two states. -/
def completedSince (before after : Client) : List Nat :=
  after.outbound.completed.drop before.outbound.completed.length

/-- From here on the clock reads `times` and the buckets are met in the order of a
first process, and the records of what was sent and completed start anew. -/
def beginSession (times : Nat → Int64) (client : Client) : Client :=
  { client with
    platform := { client.platform with wallClock := times }
    launches := 0
    clockReads := 0
    msgCache := client.msgCache.metIn (client.platform.bucketOrder 0)
    outbound := { client.outbound with sent := [], completed := [] } }

/-- A session that began at `start` has left no message and no callback waiting,
and the other stores as it found them, in another process maybe. -/
structure LeavesNothing (start after : Client) : Prop where
  outboundQueue : after.table.outboundQueue = ∅
  callbacks : after.outbound.callbacks = ∅
  conversations : after.table.conversations = start.table.conversations
  messages : after.table.messages = start.table.messages
  cursor : after.table.metadata.lookup "last_sync_time" =
    start.table.metadata.lookup "last_sync_time"
  convCache : after.convCache = start.convCache
  msgCache : after.msgCache.metIn start.msgCache.bucketOrder = start.msgCache
  localIdCounter : after.localIdCounter = start.localIdCounter

end Client

namespace SessionEvent

/-- What the caller gets, or the server with the sync request. -/
def answers (client : Client) : SessionEvent → List Observation
  | ready sendFn => [.syncRequest (client.onConnected sendFn).syncRequest]
  | store ⟨.syncRequested, _⟩ => [.syncRequest client.syncRequest]
  | store ⟨.getConversationList, _⟩ => [.conversationList client.getConversationList.1]
  | store _ => []
  | getHistory convId beforeTimestamp => [.history (client.getHistory convId beforeTimestamp)]
  | logout | restart => []

def observe (client : Client) (event : SessionEvent) : List Observation :=
  (client.sentSince (event.apply client)).map .sent ++
    ((client.completedSince (event.apply client)).map .completed ++ event.answers client)

/-- The message that the event enqueues. -/
def enqueued (client : Client) : SessionEvent → List SendMessagePayload
  | store ⟨.sendTextMessage convId content _, _⟩ =>
      [{ conversationId := convId, conversationType := "private",
         contentType := Client.messageContentTypeText, content := content,
         localId := client.generateLocalId.1 }]
  | store ⟨.queue event, _⟩ => event.enqueued?.toList
  | _ => []

/-- The success function that comes with that message. -/
def registered (_ : Client) : SessionEvent → List Nat
  | store ⟨.sendTextMessage _ _ callback, _⟩
  | store ⟨.queue (.enqueue _ _ _ _ _ callback), _⟩ => callback.onSuccess.toList
  | _ => []

/-- What an account sees in a session. -/
abbrev observations (client : Client) (events : List SessionEvent) : List Observation :=
  EventRun.outputs apply observe client events

end SessionEvent

open SessionEvent (observations LogsOut)

/-- The client as the next account finds it. -/
def Client.nextSession (events : List SessionEvent) (times : Nat → Int64) (start : Client) :
    Client :=
  (EventRun.exec SessionEvent.apply start events).beginSession times

/-- After either session of the first account the second account sees the same,
and the messages sent and the functions run in its session are its own.  A flush
reads the messages back from the table. -/
structure Isolated (start : Client) (first second : List SessionEvent) (times : Nat → Int64)
    (later : List SessionEvent) : Prop where
  same : observations (start.nextSession first times) later =
    observations (start.nextSession second times) later
  messages : ∀ frame payload,
    .sent frame ∈ observations (start.nextSession first times) later →
      frame.payload = .sendMessage payload →
        ∃ own ∈ EventRun.outputs SessionEvent.apply SessionEvent.enqueued
            (start.nextSession first times) later,
          payload = own ∨ payload = own.readBack
  callbacks : ∀ function,
    .completed function ∈ observations (start.nextSession first times) later →
      function ∈ EventRun.outputs SessionEvent.apply SessionEvent.registered
        (start.nextSession first times) later

/-! ## Two sessions -/

namespace SessionEvent

/-- Alike clients stay alike. -/
theorem alike {left right : Client} (alike : left.Alike right) (event : SessionEvent) :
    (event.apply left).Alike (event.apply right) := by
  cases event with
  | ready sendFn => exact (alike.onConnected sendFn sendFn).tandem_querySync.alike
  | store event => exact Event.alike alike event.val
  | getHistory => exact alike
  | logout => exact alike.setSendFn rfl
  | restart => exact alike.restart

/-- Alike clients show the same. -/
theorem observe_eq {left right : Client} (alike : left.Alike right) (event : SessionEvent) :
    event.observe left = event.observe right := by
  have next := event.alike alike
  have sent : left.sentSince (event.apply left) = right.sentSince (event.apply right) := by
    have sameLength := congrArg List.length alike.sent
    rw [List.length_map, List.length_map] at sameLength
    rw [Client.sentSince, Client.sentSince, List.map_drop, List.map_drop, next.sent, sameLength]
  have completed : left.completedSince (event.apply left) =
      right.completedSince (event.apply right) := by
    rw [Client.completedSince, Client.completedSince, next.completed, alike.completed]
  have answers : event.answers left = event.answers right := by
    cases event with
    | ready sendFn =>
        exact congrArg (fun request => [Observation.syncRequest request])
          (alike.onConnected sendFn sendFn).syncRequest
    | store event =>
        rcases event with ⟨event, within⟩
        cases event with
        | syncRequested =>
            exact congrArg (fun request => [Observation.syncRequest request]) alike.syncRequest
        | getConversationList =>
            exact congrArg (fun convs => [Observation.conversationList convs])
              alike.tandem_getConversationList.1
        | _ => rfl
    | getHistory convId beforeTimestamp =>
        exact congrArg (fun messages => [Observation.history messages])
          (alike.getHistory convId beforeTimestamp)
    | logout | restart => rfl
  rw [observe, observe, sent, completed, answers]

end SessionEvent

namespace Client

/-- Two sessions that leave nothing leave the next one alike clients. -/
theorem LeavesNothing.alike {start first second : Client} (firstLeaves : start.LeavesNothing first)
    (secondLeaves : start.LeavesNothing second) (platform : first.platform = second.platform)
    (firstOut : first.outbound.sendFn = none) (secondOut : second.outbound.sendFn = none)
    (times : Nat → Int64) :
    (first.beginSession times).Alike (second.beginSession times) where
  platform := by rw [beginSession, beginSession, platform]
  launches := rfl
  clockReads := rfl
  table :=
    { conversations := firstLeaves.conversations.trans secondLeaves.conversations.symm
      messages := firstLeaves.messages.trans secondLeaves.messages.symm
      outboundQueue := firstLeaves.outboundQueue.trans secondLeaves.outboundQueue.symm
      cursor := firstLeaves.cursor.trans secondLeaves.cursor.symm }
  convCache := firstLeaves.convCache.trans secondLeaves.convCache.symm
  msgCache := by
    have same := congrArg (MessageCache.metIn (second.platform.bucketOrder 0))
      (firstLeaves.msgCache.trans secondLeaves.msgCache.symm)
    rw [beginSession, beginSession, platform]
    exact same
  connected := congrArg Option.isSome (firstOut.trans secondOut.symm)
  callbacks := firstLeaves.callbacks.trans secondLeaves.callbacks.symm
  sent := rfl
  completed := rfl
  localIdCounter := firstLeaves.localIdCounter.trans secondLeaves.localIdCounter.symm

end Client

/-! ## Messages and callbacks of the session -/

/-- Whatever waits, was sent or ran is the session's own. -/
structure Client.OwnOnly (Own : SendMessagePayload → Prop) (Registered : Nat → Prop)
    (client : Client) : Prop where
  waiting : ∀ localId payload, client.table.pending localId = some payload → Own payload
  sent : ∀ sendFn frame payload, (sendFn, frame) ∈ client.outbound.sent →
    frame.payload = .sendMessage payload → ∃ own, Own own ∧ (payload = own ∨ payload = own.readBack)
  registered : ∀ localId callback function,
    client.outbound.callbacks.lookup localId = some callback →
      callback.onSuccess = some function → Registered function
  completed : ∀ function ∈ client.outbound.completed, Registered function

namespace Client.OwnOnly

variable {Own : SendMessagePayload → Prop} {Registered : Nat → Prop} {client : Client}

/-- A session that finds nothing waiting begins with nothing of another one. -/
theorem beginSession (outboundQueue : client.table.outboundQueue = ∅)
    (callbacks : client.outbound.callbacks = ∅) (times : Nat → Int64) :
    (client.beginSession times).OwnOnly Own Registered where
  waiting localId payload waiting := by
    have none : (client.beginSession times).table.pending localId = .none := by
      change (client.table.outboundQueue.lookup localId).map _ = .none
      rw [outboundQueue]
      rfl
    exact absurd (none.symm.trans waiting).symm (Option.some_ne_none payload)
  sent _ _ _ member := absurd member List.not_mem_nil
  registered localId callback _ found := by
    have none : (client.beginSession times).outbound.callbacks.lookup localId = .none := by
      change client.outbound.callbacks.lookup localId = .none
      rw [callbacks]
      rfl
    exact absurd (none.symm.trans found).symm (Option.some_ne_none callback)
  completed _ member := absurd member List.not_mem_nil

/-- Frames are sent, and the queue stays. -/
theorem of_sent (own : client.OwnOnly Own Registered) {after : Client}
    (pending : ∀ localId, after.table.pending localId = client.table.pending localId)
    (callbacks : after.outbound.callbacks = client.outbound.callbacks)
    (completed : after.outbound.completed = client.outbound.completed)
    {frames : List (Nat × Frame)} (sent : after.outbound.sent = client.outbound.sent ++ frames)
    (carries : ∀ sendFn frame payload, (sendFn, frame) ∈ frames →
      frame.payload = .sendMessage payload →
        ∃ own, Own own ∧ (payload = own ∨ payload = own.readBack)) :
    after.OwnOnly Own Registered where
  waiting localId payload waiting :=
    own.waiting localId payload ((pending localId).symm.trans waiting)
  sent sendFn frame payload member := by
    rw [sent] at member
    rcases List.mem_append.mp member with earlier | now
    · exact own.sent sendFn frame payload earlier
    · exact carries sendFn frame payload now
  registered localId callback function := by
    rw [callbacks]
    exact own.registered localId callback function
  completed function := by
    rw [completed]
    exact own.completed function

/-- The queue stays, in the table and in memory. -/
theorem of_same (own : client.OwnOnly Own Registered) {after : Client}
    (outboundQueue : after.table.outboundQueue = client.table.outboundQueue)
    (callbacks : after.outbound.callbacks = client.outbound.callbacks)
    (sent : after.outbound.sent = client.outbound.sent)
    (completed : after.outbound.completed = client.outbound.completed) :
    after.OwnOnly Own Registered :=
  own.of_sent (fun localId => by rw [Db.pending, Db.pending, outboundQueue]) callbacks completed
    (sent.trans (List.append_nil _).symm) fun _ _ _ member => absurd member List.not_mem_nil

theorem sendTransient (own : client.OwnOnly Own Registered) {frame : Frame}
    (carriesNone : frame.CarriesNone) : (client.sendTransient frame).2.OwnOnly Own Registered := by
  rw [Client.sendTransient]
  split
  · exact own
  · refine own.of_sent (fun _ => rfl) rfl rfl rfl fun sendFn other payload member carried => ?_
    obtain rfl := (Prod.mk.inj (List.mem_singleton.mp member)).2
    exact absurd carried (carriesNone payload)

/-- The flush sends what waits, as it is read back. -/
theorem onConnected (own : client.OwnOnly Own Registered) (sendFn : Nat) :
    (client.onConnected sendFn).OwnOnly Own Registered := by
  refine own.of_sent (fun localId => pending_onConnected sendFn localId client)
    (callbacks_onConnected sendFn client) (completed_onConnected sendFn client)
    (sent_onConnected sendFn client) fun other frame payload member carried => ?_
  rcases List.mem_map.mp member with ⟨row, rowMem, sameFrame⟩
  obtain rfl := (Prod.mk.inj sameFrame).2
  have waiting := pending_of_mem_rows (client.platform.orderByCreatedAt.mem_sort.mp rowMem)
  exact ⟨row.2.toPayload row.1, own.waiting row.1 _ waiting,
    .inr (FramePayload.sendMessage.inj carried).symm⟩

/-- A message of the session is enqueued, with a callback of the session. -/
theorem enqueue (own : client.OwnOnly Own Registered) {convId convType : String}
    {contentType : Int32} {content localId : String} {callback : AnyChatCallback}
    (message : Own
      { conversationId := convId, conversationType := convType, contentType := contentType,
        content := content, localId := localId })
    (function : ∀ function ∈ callback.onSuccess.toList, Registered function) :
    (client.enqueue convId convType contentType content localId callback).OwnOnly Own
      Registered where
  waiting other payload waiting := by
    rw [pending_enqueue] at waiting
    split at waiting
    · rcases Option.or_eq_some_iff.mp waiting with earlier | ⟨_, now⟩
      · exact own.waiting localId payload earlier
      · exact Option.some.inj now ▸ message
    · exact own.waiting other payload waiting
  sent sendFn frame payload member carried := by
    rw [sent_enqueue] at member
    rcases List.mem_append.mp member with earlier | now
    · exact own.sent sendFn frame payload earlier carried
    · rcases List.mem_map.mp now with ⟨_, _, sameFrame⟩
      obtain rfl := (Prod.mk.inj sameFrame).2
      exact ⟨_, message, .inl (FramePayload.sendMessage.inj carried).symm⟩
  registered other waiting given found success := by
    rw [callbacks_enqueue, lookup_registerCallback] at found
    rcases Option.or_eq_some_iff.mp found with earlier | ⟨_, now⟩
    · exact own.registered other waiting given earlier success
    · split at now
      · obtain rfl := Option.some.inj now
        exact function given (Option.mem_toList.mpr success)
      · exact absurd now.symm (Option.some_ne_none waiting)
  completed given := by
    rw [completed_enqueue]
    exact own.completed given

/-- An acknowledgement runs a function that waits for it. -/
theorem onMessageSentAck (own : client.OwnOnly Own Registered) (localId : String) :
    (client.onMessageSentAck localId).OwnOnly Own Registered where
  waiting other payload waiting := by
    rw [pending_onMessageSentAck] at waiting
    split at waiting
    · exact absurd waiting.symm (Option.some_ne_none payload)
    · exact own.waiting other payload waiting
  sent sendFn frame payload := by
    rw [sent_onMessageSentAck]
    exact own.sent sendFn frame payload
  registered other callback function found := by
    rw [lookup_onMessageSentAck] at found
    split at found
    · exact absurd found.symm (Option.some_ne_none callback)
    · exact own.registered other callback function found
  completed function ran := by
    rw [completed_onMessageSentAck] at ran
    rcases List.mem_append.mp ran with earlier | now
    · exact own.completed function earlier
    · rcases List.mem_filterMap.mp now with ⟨call, called, success⟩
      have called : call ∈ (QueueEvent.messageSentAck localId).calls client := called
      rcases QueueEvent.of_mem_calls called with ⟨_, _, callback, given, found, onSuccess, same⟩
      rw [same] at success
      exact Option.some.inj success ▸ own.registered _ callback given found onSuccess

/-- Every event of the session, whose own message and callback are of the
session. -/
theorem apply (own : client.OwnOnly Own Registered) {event : SessionEvent}
    (messages : ∀ payload ∈ event.enqueued client, Own payload)
    (functions : ∀ function ∈ event.registered client, Registered function) :
    (event.apply client).OwnOnly Own Registered := by
  cases event with
  | ready sendFn =>
      exact (own.onConnected sendFn).of_same (congrArg Db.outboundQueue (table_querySync _)) rfl rfl
        rfl
  | store event =>
      rcases event with ⟨event, within⟩
      rcases within.cases with leaves | ⟨convId, content, callback, rfl⟩ |
        ⟨convId, convType, contentType, content, localId, callback, rfl⟩ | ⟨localId, rfl⟩ | rfl
      · have stores : ∀ before after : Client, before.OwnOnly Own Registered →
            SameBesidesStores before after → after.OwnOnly Own Registered := by
          intro before after own same
          have outbound := same.outbound
          exact own.of_same same.outboundQueue (by rw [outbound]) (by rw [outbound])
            (by rw [outbound])
        exact Event.apply_invariant (OwnOnly Own Registered) stores
          (fun _ _ own carriesNone => own.sendTransient carriesNone) leaves own
      · have counted : client.generateLocalId.2.OwnOnly Own Registered :=
          own.of_same rfl rfl rfl rfl
        exact counted.enqueue (messages _ List.mem_cons_self) functions
      · exact own.enqueue (messages _ List.mem_cons_self) functions
      · exact own.onMessageSentAck localId
      · exact own.of_same (congrArg Db.outboundQueue (table_work client)) rfl rfl rfl
  | getHistory => exact own
  | logout => exact own.of_same rfl rfl rfl rfl
  | restart =>
      exact ⟨own.waiting, fun _ _ _ member => absurd member List.not_mem_nil,
        fun _ callback _ found => absurd found.symm (Option.some_ne_none callback),
        fun _ member => absurd member List.not_mem_nil⟩

/-- In every state of a session only its own messages and callbacks are there. -/
theorem always (own : client.OwnOnly Own Registered) {events : List SessionEvent}
    (messages : ∀ payload ∈ EventRun.outputs SessionEvent.apply SessionEvent.enqueued client events,
      Own payload)
    (functions : ∀ function ∈
      EventRun.outputs SessionEvent.apply SessionEvent.registered client events,
      Registered function) :
    EventRun.Always SessionEvent.apply (OwnOnly Own Registered) client events := by
  have preserved : ∀ (client : Client) (event : SessionEvent), client.OwnOnly Own Registered →
      (∀ payload ∈ event.enqueued client, Own payload) ∧
        (∀ function ∈ event.registered client, Registered function) →
      (event.apply client).OwnOnly Own Registered :=
    fun _ _ own both => own.apply both.1 both.2
  exact EventRun.always_of_guarded preserved own (EventRun.Guarded.and.mpr
    ⟨EventRun.guarded_iff_forall_outputs.mpr messages,
      EventRun.guarded_iff_forall_outputs.mpr functions⟩)

end Client.OwnOnly

/-! ## Isolation -/

namespace SessionEvent

/-- The answers are neither frames nor completions. -/
theorem of_mem_answers {client : Client} {event : SessionEvent} {seen : Observation}
    (member : seen ∈ event.answers client) :
    (∀ frame, seen ≠ .sent frame) ∧ ∀ function, seen ≠ .completed function := by
  unfold answers at member
  split at member
  · obtain rfl := List.mem_singleton.mp member
    exact ⟨fun _ => Observation.noConfusion, fun _ => Observation.noConfusion⟩
  · obtain rfl := List.mem_singleton.mp member
    exact ⟨fun _ => Observation.noConfusion, fun _ => Observation.noConfusion⟩
  · obtain rfl := List.mem_singleton.mp member
    exact ⟨fun _ => Observation.noConfusion, fun _ => Observation.noConfusion⟩
  · exact absurd member List.not_mem_nil
  · obtain rfl := List.mem_singleton.mp member
    exact ⟨fun _ => Observation.noConfusion, fun _ => Observation.noConfusion⟩
  · exact absurd member List.not_mem_nil
  · exact absurd member List.not_mem_nil

/-- A frame that is seen has been given to a send function. -/
theorem sent_of_mem_observe {client : Client} {event : SessionEvent} {frame : Frame}
    (seen : .sent frame ∈ event.observe client) :
    ∃ sendFn, (sendFn, frame) ∈ (event.apply client).outbound.sent := by
  rcases List.mem_append.mp seen with sent | other
  · rcases List.mem_map.mp sent with ⟨_, since, same⟩
    obtain rfl := Observation.sent.inj same
    rcases List.mem_map.mp since with ⟨⟨sendFn, _⟩, dropped, rfl⟩
    exact ⟨sendFn, List.mem_of_mem_drop dropped⟩
  · rcases List.mem_append.mp other with completed | answered
    · rcases List.mem_map.mp completed with ⟨_, _, same⟩
      exact Observation.noConfusion same
    · exact absurd rfl ((of_mem_answers answered).1 frame)

theorem completed_of_mem_observe {client : Client} {event : SessionEvent} {function : Nat}
    (seen : .completed function ∈ event.observe client) :
    function ∈ (event.apply client).outbound.completed := by
  rcases List.mem_append.mp seen with sent | other
  · rcases List.mem_map.mp sent with ⟨_, _, same⟩
    exact Observation.noConfusion same
  · rcases List.mem_append.mp other with completed | answered
    · rcases List.mem_map.mp completed with ⟨_, since, same⟩
      obtain rfl := Observation.completed.inj same
      exact List.mem_of_mem_drop since
    · exact absurd rfl ((of_mem_answers answered).2 function)

/-- What is seen in a run is seen at some step, whose state is one of the run. -/
theorem always_of_mem_observations {Property : Client → Prop} {client : Client}
    {events : List SessionEvent} (always : EventRun.Always apply Property client events)
    {seen : Observation} (member : seen ∈ observations client events) :
    ∃ (before : Client) (event : SessionEvent),
      seen ∈ event.observe before ∧ Property (event.apply before) := by
  rcases EventRun.mem_outputs.mp member with ⟨before, event, after, rfl, observed⟩
  refine ⟨_, event, observed, ?_⟩
  have prefixes := EventRun.always_iff_forall_prefix.mp always (before ++ [event]) after
    (List.append_cons before event after)
  rwa [EventRun.exec_concat] at prefixes

end SessionEvent

namespace Isolated

variable {start : Client} {first second : List SessionEvent}

/-- Sessions that log out and leave nothing are isolated from whatever follows. -/
theorem of_leavesNothing (firstOut : LogsOut first) (secondOut : LogsOut second)
    (firstLeaves : start.LeavesNothing (EventRun.exec SessionEvent.apply start first))
    (secondLeaves : start.LeavesNothing (EventRun.exec SessionEvent.apply start second))
    (times : Nat → Int64) (later : List SessionEvent) :
    Isolated start first second times later := by
  have alike : (start.nextSession first times).Alike (start.nextSession second times) := by
    refine firstLeaves.alike secondLeaves ?_ (firstOut.sendFn start) (secondOut.sendFn start) times
    rw [SessionEvent.platform_exec, SessionEvent.platform_exec]
  have own : EventRun.Always SessionEvent.apply
      (Client.OwnOnly
        (fun payload => payload ∈ EventRun.outputs SessionEvent.apply SessionEvent.enqueued
          (start.nextSession first times) later)
        (fun function => function ∈ EventRun.outputs SessionEvent.apply SessionEvent.registered
          (start.nextSession first times) later))
      (start.nextSession first times) later :=
    (Client.OwnOnly.beginSession firstLeaves.outboundQueue firstLeaves.callbacks times).always
      (fun _ enqueued => enqueued) fun _ given => given
  constructor
  · exact EventRun.outputs_eq_of_related (fun _ _ event related => event.alike related)
      (fun _ _ event related => event.observe_eq related) alike later
  · intro frame payload seen carried
    rcases SessionEvent.always_of_mem_observations own seen with ⟨before, event, observed, owned⟩
    rcases SessionEvent.sent_of_mem_observe observed with ⟨sendFn, sent⟩
    exact owned.sent sendFn frame payload sent carried
  · intro function seen
    rcases SessionEvent.always_of_mem_observations own seen with ⟨before, event, observed, owned⟩
    exact owned.completed function (SessionEvent.completed_of_mem_observe observed)

/-- A message is acknowledged before the logout, and another process opens the
file. -/
def acknowledgedSession : List SessionEvent :=
  [.ready 0, .store ⟨.sendTextMessage "c1" "hello" { onSuccess := some 1 }, trivial⟩,
    .store ⟨.queue (.messageSentAck "local_1"), trivial⟩, .logout, .restart]

theorem of_leavesNothing_acknowledged :
    Isolated (.start default {} 0) acknowledgedSession [.ready 0, .logout, .restart] (fun _ => 0)
      [.ready 1, .store ⟨.sendTextMessage "c2" "hi" { onSuccess := some 2 }, trivial⟩,
        .store ⟨.queue (.messageSentAck "local_1"), trivial⟩, .getHistory "c2" 0] := by
  have firstOut : LogsOut acknowledgedSession :=
    ⟨acknowledgedSession.take 3, [.restart], rfl,
      fun _ member => SessionEvent.noConfusion (List.mem_singleton.mp member)⟩
  have secondOut : LogsOut [.ready 0, .logout, .restart] :=
    ⟨[.ready 0], [.restart], rfl,
      fun _ member => SessionEvent.noConfusion (List.mem_singleton.mp member)⟩
  have firstLeaves : (Client.start default {} 0).LeavesNothing
      (EventRun.exec SessionEvent.apply (.start default {} 0) acknowledgedSession) :=
    ⟨AList.ext rfl, rfl, rfl, rfl, rfl, rfl, rfl, rfl⟩
  have secondLeaves : (Client.start default {} 0).LeavesNothing
      (EventRun.exec SessionEvent.apply (.start default {} 0) [.ready 0, .logout, .restart]) :=
    ⟨rfl, rfl, rfl, rfl, rfl, rfl, rfl, rfl⟩
  exact of_leavesNothing firstOut secondOut firstLeaves secondLeaves _ _

/-- The first account enqueues a message without a connection and logs out.  The
next connection, which is the second account's, sends it. -/
theorem not_isolated_offline :
    ¬Isolated (.start default {} 0)
      [.store ⟨.sendTextMessage "c1" "hello" {}, trivial⟩, .logout] [.logout] (fun _ => 0)
      [.ready 0] := by
  intro isolated
  have seen := isolated.messages (Client.buildSendFrame "c1" "private" 1 "hello" "local_1")
    { conversationId := "c1", conversationType := "private", contentType := 1, content := "hello",
      localId := "local_1" } List.mem_cons_self rfl
  rcases seen with ⟨own, enqueued, _⟩
  exact absurd enqueued List.not_mem_nil

end Isolated

end AnychatSdk
