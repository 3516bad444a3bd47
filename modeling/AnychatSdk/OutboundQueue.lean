import AnychatSdk.Client
import Mathlib.Data.List.DropRight

/-!
# The outbound queue

A message waits in `outbound_queue` from its first `enqueue` to its
acknowledgement.  It is sent at once when there is a connection, and again every
time a connection comes up.
-/

namespace AnychatSdk

namespace Client

/-- `buildSendFrame`. -/
def buildSendFrame (convId convType : String) (contentType : Int32) (content localId : String) :
    Frame where
  type := "message.send"
  payload := .sendMessage
    { conversationId := convId, conversationType := convType, contentType := contentType,
      content := content, localId := localId }

/-- Call a send function. -/
def callSendFn (sendFn : Nat) (frame : Frame) (client : Client) : Client :=
  { client with
    outbound := { client.outbound with sent := client.outbound.sent ++ [(sendFn, frame)] } }

/-- `sendRow`: no effect without a connection. -/
def sendRow (convId convType : String) (contentType : Int32) (content localId : String)
    (client : Client) : Client :=
  match client.outbound.sendFn with
  | none => client
  | some sendFn =>
      (client.exec (.bumpRetryCount localId)).callSendFn sendFn
        (buildSendFrame convId convType contentType content localId)

/-- `callbacks_.emplace`, which keeps a callback that is already there. -/
def registerCallback (localId : String) (callback : AnyChatCallback) (client : Client) : Client :=
  if callback.onSuccess.isSome ∨ callback.onError.isSome then
    { client with
      outbound :=
        { client.outbound with
          callbacks := client.outbound.callbacks.insertOrIgnore localId callback } }
  else client

/-- The row `enqueue` inserts; `created_at` is in seconds. -/
def outboundRow (convId convType : String) (contentType : Int32) (content : String)
    (nowMs : Int64) : OutboundRow where
  convId := convId
  convType := convType
  contentType := contentType.toInt64
  content := content
  createdAt := nowMs / 1000

def enqueue (convId convType : String) (contentType : Int32) (content localId : String)
    (callback : AnyChatCallback) (client : Client) : Client :=
  let (now, client) := client.nowMs
  let client := client.exec
    (.insertOrIgnoreOutbound localId (outboundRow convId convType contentType content now))
  let client := client.registerCallback localId callback
  if client.outbound.sendFn.isSome then
    client.sendRow convId convType contentType content localId
  else client

/-- Send one row of the flush; a row with a missing column or an unreadable
content type is skipped. -/
def resendRow (row : Row) (client : Client) : Client :=
  match row.lookup "local_id", row.lookup "conv_id", row.lookup "conv_type",
      row.lookup "content_type", row.lookup "content" with
  | some localId, some convId, some convType, some contentType, some content =>
      match stoll contentType with
      | some number => client.sendRow convId convType number.toInt32 content localId
      | none => client
  | _, _, _, _, _ => client

def setSendFn (sendFn : Option Nat) (client : Client) : Client :=
  { client with outbound := { client.outbound with sendFn := sendFn } }

/-- The pending rows in the order of the flush. -/
def pendingRows (client : Client) : List (String × OutboundRow) :=
  client.platform.orderByCreatedAt.sort client.table.outboundQueue.rows

def onConnected (sendFn : Nat) (client : Client) : Client :=
  let client := (client.setSendFn (some sendFn)).querySync
  (client.pendingRows.map fun row => row.2.toRow row.1).foldl
    (fun client row => client.resendRow row) client

def onDisconnected (client : Client) : Client :=
  client.setSendFn none

/-- The flag says whether there was a connection to send on. -/
def sendTransient (frame : Frame) (client : Client) : Bool × Client :=
  match client.outbound.sendFn with
  | none => (false, client)
  | some sendFn => (true, client.callSendFn sendFn frame)

/-- Take the callback of an acknowledged message out and run it. -/
def completeCallback (localId : String) (client : Client) : Client :=
  match client.outbound.callbacks.lookup localId with
  | none => client
  | some callback =>
      { client with
        outbound :=
          { client.outbound with
            callbacks := client.outbound.callbacks.erase localId
            completed := client.outbound.completed ++ callback.onSuccess.toList } }

def onMessageSentAck (localId : String) (client : Client) : Client :=
  if localId = "" then client
  else (client.exec (.deleteOutbound localId)).completeCallback localId

/-- `generateLocalId`: the counter of the process, starting at 1. -/
def generateLocalId (client : Client) : String × Client :=
  ("local_" ++ toString client.localIdCounter,
    { client with localIdCounter := client.localIdCounter + 1 })

/-- `kMessageContentTypeText`. -/
def messageContentTypeText : Int32 := 1

/-- `MessageManagerImpl::sendTextMessage`. -/
def sendTextMessage (convId content : String) (callback : AnyChatCallback) (client : Client) :
    Client :=
  let (localId, client) := client.generateLocalId
  client.enqueue convId "private" messageContentTypeText content localId callback

end Client

/-! ## Events -/

/-- What happens to the queue. -/
inductive QueueEvent where
  | enqueue (convId convType : String) (contentType : Int32) (content localId : String)
      (callback : AnyChatCallback)
  | connected (sendFn : Nat)
  | disconnected
  | transient (frame : Frame)
  | messageSentAck (localId : String)
  | work

/-- The handler of a queue event. -/
def QueueEvent.apply (client : Client) : QueueEvent → Client
  | enqueue convId convType contentType content localId callback =>
      client.enqueue convId convType contentType content localId callback
  | connected sendFn => client.onConnected sendFn
  | disconnected => client.onDisconnected
  | transient frame => (client.sendTransient frame).2
  | messageSentAck localId => client.onMessageSentAck localId
  | work => client.work

/-! ## What a step does to the table

The view of the table is the row under each `local_id`, its retry count aside,
and the payload made from it. -/

/-- The `message.send` payload of a row. -/
def OutboundRow.toPayload (localId : String) (row : OutboundRow) : SendMessagePayload where
  conversationId := row.convId
  conversationType := row.convType
  contentType := row.contentType.toInt32
  content := row.content
  localId := localId

/-- The payload waiting under a `local_id`. -/
def Db.pending (db : Db) (localId : String) : Option SendMessagePayload :=
  (db.outboundQueue.lookup localId).map (OutboundRow.toPayload localId)

/-- The row waiting under a `local_id` as it was inserted. -/
def Db.inserted (db : Db) (localId : String) : Option OutboundRow :=
  (db.outboundQueue.lookup localId).map fun row => { row with retryCount := 0 }

theorem Db.pending_eq (db : Db) (localId : String) :
    db.pending localId = (db.inserted localId).map (OutboundRow.toPayload localId) := by
  rw [pending, inserted, Option.map_map]
  rfl

namespace Client

/-- The frame that carries a payload. -/
def sendFrame (payload : SendMessagePayload) : Frame where
  type := "message.send"
  payload := .sendMessage payload

theorem inserted_bumpRetryCount (localId other : String) (db : Db) :
    ((Stmt.bumpRetryCount localId).run db).inserted other = db.inserted other := by
  by_cases same : other = localId
  · subst same
    simp only [Stmt.run, Db.inserted, KeyTable.lookup_update, if_pos, Option.map_map]
    rfl
  · simp [Stmt.run, Db.inserted, same]

@[simp]
theorem table_callSendFn (sendFn : Nat) (frame : Frame) (client : Client) :
    (client.callSendFn sendFn frame).table = client.table :=
  rfl

@[simp]
theorem table_setSendFn (sendFn : Option Nat) (client : Client) :
    (client.setSendFn sendFn).table = client.table :=
  rfl

@[simp]
theorem table_registerCallback (localId : String) (callback : AnyChatCallback) (client : Client) :
    (client.registerCallback localId callback).table = client.table := by
  rw [registerCallback]
  split <;> rfl

@[simp]
theorem sendFn_registerCallback (localId : String) (callback : AnyChatCallback)
    (client : Client) :
    (client.registerCallback localId callback).outbound.sendFn = client.outbound.sendFn := by
  rw [registerCallback]
  split <;> rfl

@[simp]
theorem sent_registerCallback (localId : String) (callback : AnyChatCallback)
    (client : Client) :
    (client.registerCallback localId callback).outbound.sent = client.outbound.sent := by
  rw [registerCallback]
  split <;> rfl

@[simp]
theorem table_completeCallback (localId : String) (client : Client) :
    (client.completeCallback localId).table = client.table := by
  rw [completeCallback]
  split <;> rfl

@[simp]
theorem inserted_sendRow (convId convType : String) (contentType : Int32)
    (content localId other : String) (client : Client) :
    (client.sendRow convId convType contentType content localId).table.inserted other =
      client.table.inserted other := by
  rw [sendRow]
  split
  · rfl
  · rw [table_callSendFn, table_exec, inserted_bumpRetryCount]

theorem inserted_resendRow (row : Row) (other : String) (client : Client) :
    (client.resendRow row).table.inserted other = client.table.inserted other := by
  rw [resendRow]
  split
  · split
    · exact inserted_sendRow _ _ _ _ _ other client
    · rfl
  · rfl

theorem inserted_insertOrIgnoreOutbound (localId other convId convType content : String)
    (contentType : Int32) (now : Int64) (db : Db) :
    ((Stmt.insertOrIgnoreOutbound localId
      (outboundRow convId convType contentType content now)).run db).inserted other =
      if other = localId then
        (db.inserted localId).or (some (outboundRow convId convType contentType content now))
      else db.inserted other := by
  by_cases same : other = localId
  · subst same
    cases found : db.outboundQueue.lookup other with
    | none => simp [Stmt.run, Db.inserted, found, outboundRow]
    | some row => simp [Stmt.run, Db.inserted, found]
  · simp [Stmt.run, Db.inserted, same]

/-- An enqueue inserts its row under its `local_id` unless one waits there. -/
theorem inserted_enqueue (convId convType : String) (contentType : Int32)
    (content localId other : String) (callback : AnyChatCallback) (client : Client) :
    (client.enqueue convId convType contentType content localId callback).table.inserted other =
      if other = localId then
        (client.table.inserted localId).or
          (some (outboundRow convId convType contentType content client.nowMs.1))
      else client.table.inserted other := by
  simp only [enqueue]
  split
  · rw [inserted_sendRow, table_registerCallback, table_exec, inserted_insertOrIgnoreOutbound,
      table_nowMs]
  · rw [table_registerCallback, table_exec, inserted_insertOrIgnoreOutbound, table_nowMs]

theorem inserted_onConnected (sendFn : Nat) (other : String) (client : Client) :
    (client.onConnected sendFn).table.inserted other = client.table.inserted other := by
  have resent : ∀ (rows : List Row) (start : Client),
      (rows.foldl (fun client row => client.resendRow row) start).table.inserted other =
        start.table.inserted other := by
    intro rows
    induction rows with
    | nil => intro start; rfl
    | cons row rest ih =>
        intro start
        rw [List.foldl_cons, ih, inserted_resendRow]
  rw [onConnected, resent, table_querySync, table_setSendFn]

/-- An acknowledgement deletes its row; the empty `local_id` names none. -/
theorem inserted_onMessageSentAck (localId other : String) (client : Client) :
    (client.onMessageSentAck localId).table.inserted other =
      if other = localId ∧ localId ≠ "" then none else client.table.inserted other := by
  rw [onMessageSentAck]
  by_cases empty : localId = ""
  · simp [empty]
  · rw [if_neg empty, table_completeCallback, table_exec]
    by_cases same : other = localId
    · simp [Stmt.run, Db.inserted, KeyTable.lookup_erase_eq_ite, same, empty]
    · simp [Stmt.run, Db.inserted, same]

theorem toPayload_outboundRow (convId convType : String) (contentType : Int32)
    (content localId : String) (now : Int64) :
    (outboundRow convId convType contentType content now).toPayload localId =
      { conversationId := convId, conversationType := convType, contentType := contentType,
        content := content, localId := localId } := by
  simp [outboundRow, OutboundRow.toPayload]

@[simp]
theorem pending_sendRow (convId convType : String) (contentType : Int32)
    (content localId other : String) (client : Client) :
    (client.sendRow convId convType contentType content localId).table.pending other =
      client.table.pending other := by
  rw [Db.pending_eq, inserted_sendRow, ← Db.pending_eq]

theorem pending_resendRow (row : Row) (other : String) (client : Client) :
    (client.resendRow row).table.pending other = client.table.pending other := by
  rw [Db.pending_eq, inserted_resendRow, ← Db.pending_eq]

theorem pending_insertOrIgnoreOutbound (localId other convId convType content : String)
    (contentType : Int32) (now : Int64) (db : Db) :
    ((Stmt.insertOrIgnoreOutbound localId
      (outboundRow convId convType contentType content now)).run db).pending other =
      if other = localId then
        (db.pending localId).or (some
          { conversationId := convId, conversationType := convType, contentType := contentType,
            content := content, localId := localId })
      else db.pending other := by
  simp only [Db.pending_eq, inserted_insertOrIgnoreOutbound]
  split
  · next same => rw [same, Option.map_or, Option.map_some, toPayload_outboundRow]
  · rfl

/-- An enqueue puts its payload under its `local_id` unless one waits there. -/
theorem pending_enqueue (convId convType : String) (contentType : Int32)
    (content localId other : String) (callback : AnyChatCallback) (client : Client) :
    (client.enqueue convId convType contentType content localId callback).table.pending other =
      if other = localId then
        (client.table.pending localId).or (some
          { conversationId := convId, conversationType := convType, contentType := contentType,
            content := content, localId := localId })
      else client.table.pending other := by
  simp only [Db.pending_eq, inserted_enqueue]
  split
  · next same => rw [same, Option.map_or, Option.map_some, toPayload_outboundRow]
  · rfl

theorem pending_onConnected (sendFn : Nat) (other : String) (client : Client) :
    (client.onConnected sendFn).table.pending other = client.table.pending other := by
  rw [Db.pending_eq, inserted_onConnected, ← Db.pending_eq]

/-- An acknowledgement empties its slot; the empty `local_id` names none. -/
theorem pending_onMessageSentAck (localId other : String) (client : Client) :
    (client.onMessageSentAck localId).table.pending other =
      if other = localId ∧ localId ≠ "" then none else client.table.pending other := by
  simp only [Db.pending_eq, inserted_onMessageSentAck]
  split <;> rfl

/-- The frames given to send functions between the two states. -/
def sentSince (before after : Client) : List Frame :=
  (after.outbound.sent.drop before.outbound.sent.length).map Prod.snd

theorem sentSince_of_append {before after : Client} {frames : List (Nat × Frame)}
    (sent : after.outbound.sent = before.outbound.sent ++ frames) :
    before.sentSince after = frames.map Prod.snd := by
  rw [sentSince, sent, List.drop_left]

theorem sent_sendRow (convId convType : String) (contentType : Int32) (content localId : String)
    (client : Client) :
    (client.sendRow convId convType contentType content localId).outbound.sent =
      client.outbound.sent ++ client.outbound.sendFn.toList.map fun sendFn =>
        (sendFn, buildSendFrame convId convType contentType content localId) := by
  rw [sendRow]
  cases client.outbound.sendFn with
  | none => exact (List.append_nil _).symm
  | some sendFn => rfl

/-- An enqueue sends its message at once if there is a connection. -/
theorem sent_enqueue (convId convType : String) (contentType : Int32) (content localId : String)
    (callback : AnyChatCallback) (client : Client) :
    (client.enqueue convId convType contentType content localId callback).outbound.sent =
      client.outbound.sent ++ client.outbound.sendFn.toList.map fun sendFn =>
        (sendFn, buildSendFrame convId convType contentType content localId) := by
  simp only [enqueue]
  split
  · rw [sent_sendRow, sent_registerCallback, sendFn_registerCallback]
    rfl
  · next disconnected =>
      rw [sendFn_registerCallback] at disconnected
      have none : client.outbound.sendFn = .none := Option.not_isSome_iff_eq_none.mp disconnected
      rw [sent_registerCallback, none]
      exact (List.append_nil _).symm

/-- An acknowledgement sends nothing. -/
theorem sent_onMessageSentAck (localId : String) (client : Client) :
    (client.onMessageSentAck localId).outbound.sent = client.outbound.sent := by
  rw [onMessageSentAck]
  split
  · rfl
  · rw [completeCallback]
    split <;> rfl

/-! ## What the queue leaves alone -/

/-- The two states differ in the outbound queue and its table only. -/
structure SameBesidesQueue (before after : Client) : Prop where
  conversations : after.table.conversations = before.table.conversations
  messages : after.table.messages = before.table.messages
  convCache : after.convCache = before.convCache
  msgCache : after.msgCache = before.msgCache
  localIdCounter : after.localIdCounter = before.localIdCounter

namespace SameBesidesQueue

theorem refl (client : Client) : SameBesidesQueue client client :=
  ⟨rfl, rfl, rfl, rfl, rfl⟩

theorem trans {first second third : Client} (firstSame : SameBesidesQueue first second)
    (secondSame : SameBesidesQueue second third) : SameBesidesQueue first third where
  conversations := secondSame.conversations.trans firstSame.conversations
  messages := secondSame.messages.trans firstSame.messages
  convCache := secondSame.convCache.trans firstSame.convCache
  msgCache := secondSame.msgCache.trans firstSame.msgCache
  localIdCounter := secondSame.localIdCounter.trans firstSame.localIdCounter

theorem exec {stmt : Stmt} (client : Client)
    (conversations : (stmt.run client.table).conversations = client.table.conversations)
    (messages : (stmt.run client.table).messages = client.table.messages) :
    SameBesidesQueue client (client.exec stmt) where
  conversations := by rw [table_exec, conversations]
  messages := by rw [table_exec, messages]
  convCache := rfl
  msgCache := rfl
  localIdCounter := rfl

theorem nowMs (client : Client) : SameBesidesQueue client client.nowMs.2 :=
  ⟨rfl, rfl, rfl, rfl, rfl⟩

theorem work (client : Client) : SameBesidesQueue client client.work where
  conversations := by rw [table_work]
  messages := by rw [table_work]
  convCache := rfl
  msgCache := rfl
  localIdCounter := rfl

theorem sendRow (convId convType : String) (contentType : Int32) (content localId : String)
    (client : Client) :
    SameBesidesQueue client (client.sendRow convId convType contentType content localId) := by
  rw [Client.sendRow]
  split
  · exact refl client
  · exact (exec client rfl rfl).trans ⟨rfl, rfl, rfl, rfl, rfl⟩

theorem registerCallback (localId : String) (callback : AnyChatCallback) (client : Client) :
    SameBesidesQueue client (client.registerCallback localId callback) := by
  rw [Client.registerCallback]
  split
  · exact ⟨rfl, rfl, rfl, rfl, rfl⟩
  · exact refl client

theorem enqueue (convId convType : String) (contentType : Int32) (content localId : String)
    (callback : AnyChatCallback) (client : Client) :
    SameBesidesQueue client
      (client.enqueue convId convType contentType content localId callback) := by
  have stored : SameBesidesQueue client.nowMs.2
      ((client.nowMs.2.exec (.insertOrIgnoreOutbound localId
        (outboundRow convId convType contentType content client.nowMs.1))).registerCallback localId
          callback) :=
    (exec client.nowMs.2 rfl rfl).trans (registerCallback localId callback _)
  simp only [Client.enqueue]
  split
  · have sent := sendRow convId convType contentType content localId
      ((client.nowMs.2.exec (.insertOrIgnoreOutbound localId
        (outboundRow convId convType contentType content client.nowMs.1))).registerCallback localId
          callback)
    exact (nowMs client).trans (stored.trans sent)
  · exact (nowMs client).trans stored

theorem resendRow (row : Row) (client : Client) :
    SameBesidesQueue client (client.resendRow row) := by
  rw [Client.resendRow]
  split
  · split
    · exact sendRow _ _ _ _ _ client
    · exact refl client
  · exact refl client

theorem onConnected (sendFn : Nat) (client : Client) :
    SameBesidesQueue client (client.onConnected sendFn) := by
  have resent : ∀ (rows : List Row) (start : Client),
      SameBesidesQueue start (rows.foldl (fun client row => client.resendRow row) start) := by
    intro rows
    induction rows with
    | nil => exact refl
    | cons row rest ih =>
        intro start
        exact (resendRow row start).trans (ih _)
  have waited : SameBesidesQueue client (client.setSendFn (some sendFn)).querySync :=
    ⟨rfl, rfl, rfl, rfl, rfl⟩
  exact waited.trans (resent _ _)

theorem sendTransient (frame : Frame) (client : Client) :
    SameBesidesQueue client (client.sendTransient frame).2 := by
  rw [Client.sendTransient]
  split
  · exact refl client
  · exact ⟨rfl, rfl, rfl, rfl, rfl⟩

theorem completeCallback (localId : String) (client : Client) :
    SameBesidesQueue client (client.completeCallback localId) := by
  rw [Client.completeCallback]
  split
  · exact refl client
  · exact ⟨rfl, rfl, rfl, rfl, rfl⟩

theorem onMessageSentAck (localId : String) (client : Client) :
    SameBesidesQueue client (client.onMessageSentAck localId) := by
  rw [Client.onMessageSentAck]
  split
  · exact refl client
  · exact (exec client rfl rfl).trans (completeCallback localId _)

end SameBesidesQueue

end Client

theorem QueueEvent.sameBesidesQueue (client : Client) (event : QueueEvent) :
    client.SameBesidesQueue (event.apply client) := by
  cases event with
  | enqueue => exact .enqueue _ _ _ _ _ _ client
  | connected => exact .onConnected _ client
  | disconnected => exact ⟨rfl, rfl, rfl, rfl, rfl⟩
  | transient => exact .sendTransient _ client
  | messageSentAck => exact .onMessageSentAck _ client
  | work => exact .work client

end AnychatSdk
