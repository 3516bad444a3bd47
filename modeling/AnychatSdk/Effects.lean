import AnychatSdk.System

/-!
# What an action can do

For every action, what it does to the `messages` table, and which actions leave
the conversations and their cache alone.
-/

namespace AnychatSdk

/-! ## The messages table -/

namespace Action

/-- The statement an action executes on the `messages` table. -/
def messageStmt (client : Client) : Action → Option Stmt
  | storeSyncedMessage message => some (.insertOrIgnoreMessage message.messageId message.toRow)
  | storeListedMessage message | receiveMessage message =>
      if message.messageId = "" ∨ message.convId = "" then none
      else some (.upsertMessage message.messageId message.toRow)
  | applyMessageStatus messageId status =>
      if messageId = "" then none else some (.updateMessageStatus messageId status.toInt64)
  | applyEdit messageId edited =>
      if messageId = "" then none
      else some (.updateMessageStatusAndContent messageId edited.status.toInt64 edited.content)
  | recallNotified message =>
      let merged := (client.mergeNotified (Client.recallCached message) message).1
      statusStmt merged.messageId 1 (Client.contentToWrite merged)
  | deleteNotified message =>
      let merged := (client.mergeNotified (Client.deleteCached message) message).1
      statusStmt merged.messageId 2 none
  | editNotified message =>
      let merged := (client.mergeNotified (Client.editCached message) message).1
      statusStmt merged.messageId merged.status (Client.contentToWrite merged)
  | _ => none
where
  statusStmt (messageId : String) (status : Int32) (content : Option String) : Option Stmt :=
    if messageId = "" then none
    else
      match content with
      | none => some (.updateMessageStatus messageId status.toInt64)
      | some content => some (.updateMessageStatusAndContent messageId status.toInt64 content)

end Action

/-- Run a statement, if there is one. -/
def Db.runOption (stmt : Option Stmt) (db : Db) : Db :=
  stmt.elim db (·.run db)

namespace Client

theorem table_upsertMessageDb (message : Message) (client : Client) :
    (client.upsertMessageDb message).table =
      client.table.runOption
        (if message.messageId = "" ∨ message.convId = "" then none
        else some (.upsertMessage message.messageId message.toRow)) := by
  rw [upsertMessageDb]
  split
  · rfl
  · exact table_exec _ client

theorem table_updateMessageDbStatusAndContent (messageId : String) (status : Int32)
    (content : Option String) (client : Client) :
    (client.updateMessageDbStatusAndContent messageId status content).table =
      client.table.runOption (Action.messageStmt.statusStmt messageId status content) := by
  by_cases empty : messageId = ""
  · simp [updateMessageDbStatusAndContent, Action.messageStmt.statusStmt, Db.runOption, empty]
  · cases content <;>
      simp [updateMessageDbStatusAndContent, Action.messageStmt.statusStmt, Db.runOption, empty]

@[simp]
theorem table_updateCachedMessage (messageId : String) (change : Message → Message)
    (client : Client) : (client.updateCachedMessage messageId change).2.table = client.table :=
  rfl

theorem table_mergeNotified (change : Message → Message) (message : Message) (client : Client) :
    (client.mergeNotified change message).2.table = client.table := by
  simp only [mergeNotified]
  split
  · rfl
  · dsimp only
    split <;> rfl

end Client

/-- The rows after an update of status and content. -/
theorem Db.lookup_statusStmt {messageId : String} (notEmpty : messageId ≠ "") (status : Int32)
    (content : Option String) (other : String) (db : Db) :
    (db.runOption (Action.messageStmt.statusStmt messageId status content)).messages.lookup
        other =
      if other = messageId then
        (db.messages.lookup messageId).map fun row =>
          { row with status := status.toInt64, content := content.getD row.content }
      else db.messages.lookup other := by
  cases content with
  | none =>
      rw [Action.messageStmt.statusStmt, if_neg notEmpty]
      exact KeyTable.lookup_update messageId other _ db.messages
  | some content =>
      rw [Action.messageStmt.statusStmt, if_neg notEmpty]
      exact KeyTable.lookup_update messageId other _ db.messages

/-! ## Actions that leave the messages alone -/

/-- The action can change the messages table or the message cache. -/
def Action.TouchesMessages : Action → Prop
  | storeSyncedMessage _ | storeListedMessage _ | receiveMessage _ | markMessageRead _
  | applyMessageStatus _ _ | applyEdit _ _ | recallNotified _ | deleteNotified _
  | editNotified _ | restart => True
  | _ => False

namespace Client

/-- The messages table and the message cache are the same. -/
structure SameMessages (before after : Client) : Prop where
  messages : after.table.messages = before.table.messages
  msgCache : after.msgCache = before.msgCache

namespace SameMessages

theorem refl (client : Client) : SameMessages client client :=
  ⟨rfl, rfl⟩

theorem trans {first second third : Client} (firstSame : SameMessages first second)
    (secondSame : SameMessages second third) : SameMessages first third where
  messages := secondSame.messages.trans firstSame.messages
  msgCache := secondSame.msgCache.trans firstSame.msgCache

theorem exec {stmt : Stmt} (client : Client)
    (messages : (stmt.run client.table).messages = client.table.messages) :
    SameMessages client (client.exec stmt) where
  messages := by rw [table_exec, messages]
  msgCache := rfl

theorem mapConvCache (change : ConversationCache → ConversationCache) (client : Client) :
    SameMessages client (client.mapConvCache change) :=
  ⟨rfl, rfl⟩

theorem nowMs (client : Client) : SameMessages client client.nowMs.2 :=
  ⟨rfl, rfl⟩

theorem saveConversation (conv : Conversation) (client : Client) :
    SameMessages client (client.saveConversation conv) :=
  (mapConvCache _ client).trans (exec (client.mapConvCache (·.upsert conv)) rfl)

theorem stampUpdated (conv : Conversation) (client : Client) :
    SameMessages client (client.stampUpdated conv).2 := by
  rw [Client.stampUpdated]
  split
  · exact nowMs client
  · exact refl client

theorem storeListedConversations (payloads : List ConversationPayload) (client : Client) :
    SameMessages client (client.storeListedConversations payloads).2 := by
  induction payloads generalizing client with
  | nil => exact refl client
  | cons payload rest ih =>
      rw [Client.storeListedConversations]
      split
      · exact ih client
      · exact (stampUpdated _ client).trans ((exec _ rfl).trans (ih _))

theorem changeCached (convId : String) (change : Conversation → Conversation)
    (client : Client) : SameMessages client (client.changeCached convId change) := by
  rw [Client.changeCached]
  split
  · exact refl client
  · exact (nowMs client).trans (saveConversation _ client.nowMs.2)

theorem patchPinTime (notificationType : String) (payload : NotificationConversationPayload)
    (conv : Conversation) (client : Client) :
    SameMessages client (client.patchPinTime notificationType payload conv).2 := by
  rw [Client.patchPinTime]
  split
  · split
    · exact refl client
    · split
      · exact nowMs client
      · exact refl client
  · exact refl client

end SameMessages

theorem SameBesidesQueue.sameMessages {before after : Client}
    (same : SameBesidesQueue before after) : SameMessages before after :=
  ⟨same.messages, same.msgCache⟩

end Client

/-- Every other action leaves the messages table and the message cache alone. -/
theorem Action.sameMessages (client : Client) {action : Action}
    (untouched : ¬action.TouchesMessages) : client.SameMessages (action.apply client) := by
  cases action with
  | mergeFriend payload =>
      simp only [Action.apply, Client.mergeFriend]
      split <;> exact ⟨rfl, rfl⟩
  | mergeGroup payload =>
      simp only [Action.apply, Client.mergeGroup]
      split <;> exact ⟨rfl, rfl⟩
  | mergeSession payload =>
      simp only [Action.apply, Client.mergeSession]
      split <;> exact ⟨rfl, rfl⟩
  | raiseSequence convId seq =>
      simp only [Action.apply, Client.raiseSequence]
      split
      · exact ⟨rfl, rfl⟩
      · split <;> exact ⟨rfl, rfl⟩
  | setSyncTime syncTime =>
      simp only [Action.apply, Client.setSyncTime]
      split <;> exact ⟨rfl, rfl⟩
  | loadConversations =>
      simp only [Action.apply, Client.getConversationList]
      split
      · exact .refl client
      · split <;> exact ⟨rfl, rfl⟩
  | replaceConversations payloads =>
      have stored := Client.SameMessages.storeListedConversations payloads client
      exact ⟨stored.messages, stored.msgCache⟩
  | fetchConversation convId payload =>
      exact (Client.SameMessages.stampUpdated _ client).trans (.saveConversation _ _)
  | removeConversation convId =>
      apply (Client.SameMessages.mapConvCache (·.remove convId) client).trans
      apply Client.SameMessages.exec
      rw [Stmt.run]
      split <;> rfl
  | clearUnread convId =>
      exact (Client.SameMessages.mapConvCache _ client).trans (.exec _ rfl)
  | applyPinned convId pinned =>
      simp only [Action.apply, Client.applyPinned]
      cases client.convCache.get convId with
      | none => exact .refl client
      | some conv =>
          cases pinned with
          | false =>
              exact (Client.SameMessages.nowMs client).trans (.saveConversation _ client.nowMs.2)
          | true =>
              exact ((Client.SameMessages.nowMs client).trans (.nowMs _)).trans
                (.saveConversation _ client.nowMs.2.nowMs.2)
  | setMuted convId muted => exact .changeCached convId _ client
  | setBurnAfterReading convId duration => exact .changeCached convId _ client
  | setAutoDelete convId duration => exact .changeCached convId _ client
  | applyUnreadCount convId unreadCount =>
      simp only [Action.apply, Client.applyUnreadCount]
      split
      · exact .refl client
      · exact .saveConversation _ client
  | applyServerSequence convId seq =>
      simp only [Action.apply, Client.applyServerSequence]
      split
      · split
        · exact .saveConversation _ client
        · exact .refl client
      · split
        · exact .exec client rfl
        · exact .refl client
  | patchConversation notificationType payload =>
      exact (Client.SameMessages.patchPinTime notificationType payload _ client).trans
        ((Client.SameMessages.stampUpdated _ _).trans (.saveConversation _ _))
  | sendTextMessage convId content callback =>
      have enqueued := Client.SameBesidesQueue.enqueue convId "private"
        Client.messageContentTypeText content client.generateLocalId.1 callback
        client.generateLocalId.2
      exact ⟨enqueued.messages, enqueued.msgCache⟩
  | queue event => exact (event.sameBesidesQueue client).sameMessages
  | querySync => exact ⟨rfl, rfl⟩
  | _ => exact absurd trivial untouched

/-- An action changes the `messages` table by its statement and in no other
way. -/
theorem Action.messages_apply (client : Client) (action : Action) :
    (action.apply client).table.messages =
      (client.table.runOption (action.messageStmt client)).messages := by
  cases action with
  | storeSyncedMessage message => rfl
  | storeListedMessage message =>
      simp only [Action.apply, Client.storeListedMessage, Client.table_mapMsgCache,
        Client.table_upsertMessageDb]
      rfl
  | receiveMessage message =>
      simp only [Action.apply, Client.receiveMessage, Client.table_upsertMessageDb]
      rfl
  | markMessageRead messageId =>
      simp only [Action.apply, Client.markMessageRead]
      split <;> rfl
  | applyMessageStatus messageId status =>
      simp only [Action.apply, Client.applyMessageStatus,
        Client.table_updateMessageDbStatusAndContent]
      rfl
  | applyEdit messageId edited =>
      simp only [Action.apply, Client.applyEdit, Client.table_updateMessageDbStatusAndContent]
      rfl
  | recallNotified message =>
      simp only [Action.apply, Client.recallNotified,
        Client.table_updateMessageDbStatusAndContent, Client.table_mergeNotified]
      rfl
  | deleteNotified message =>
      simp only [Action.apply, Client.deleteNotified,
        Client.table_updateMessageDbStatusAndContent, Client.table_mergeNotified]
      rfl
  | editNotified message =>
      simp only [Action.apply, Client.editNotified,
        Client.table_updateMessageDbStatusAndContent, Client.table_mergeNotified]
      rfl
  | restart => rfl
  | _ => exact (Action.sameMessages client id).messages

end AnychatSdk
