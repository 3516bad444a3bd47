import AnychatSdk.CheckedActions

/-!
# What a session can see

The lists, the requests and the frames of a session are made from the
conversations, the messages, the outbound queue, the cursor of the sync, the two
caches, the callbacks, the counter of local ids, the clock and the orders that
the surroundings leave open in each process.  Clients that
agree on these are alike, and every action keeps them alike.  The friends and
groups, the token entries, the progress of the worker and the numbers of send
functions are not among them.
-/

namespace AnychatSdk

/-! ## Tables -/

/-- Two databases agree on what a session reads. -/
structure Db.Alike (left right : Db) : Prop where
  conversations : left.conversations = right.conversations
  messages : left.messages = right.messages
  outboundQueue : left.outboundQueue = right.outboundQueue
  cursor : left.metadata.lookup "last_sync_time" = right.metadata.lookup "last_sync_time"

namespace Db.Alike

variable {left right : Db}

theorem refl (db : Db) : db.Alike db :=
  ⟨rfl, rfl, rfl, rfl⟩

theorem acceptsMessage (alike : left.Alike right) (messageId : String) (row : MessageRow) :
    left.acceptsMessage messageId row = right.acceptsMessage messageId row := by
  simp only [Db.acceptsMessage, Db.localIdTaken, alike.messages, alike.conversations]

theorem hasMessageOf (alike : left.Alike right) (convId : String) :
    left.hasMessageOf convId = right.hasMessageOf convId := by
  rw [Db.hasMessageOf, Db.hasMessageOf, alike.messages]

/-- A statement reads and writes these tables as far as they agree. -/
theorem run (alike : left.Alike right) (stmt : Stmt) : (stmt.run left).Alike (stmt.run right) := by
  rcases alike with ⟨conversations, messages, outboundQueue, cursor⟩
  have accepts := acceptsMessage ⟨conversations, messages, outboundQueue, cursor⟩
  have protects := hasMessageOf ⟨conversations, messages, outboundQueue, cursor⟩
  cases stmt with
  | mergeFriend _ _ _ _ | mergeGroup _ _ _ _ _ =>
      exact ⟨conversations, messages, outboundQueue, cursor⟩
  | mergeSession convId _ | upsertConversation convId _ | raiseLocalSeq convId _
  | clearUnread convId =>
      exact ⟨by simp only [Stmt.run, conversations], messages, outboundQueue, cursor⟩
  | deleteConversation convId =>
      simp only [Stmt.run, protects]
      split
      · exact ⟨conversations, messages, outboundQueue, cursor⟩
      · exact ⟨congrArg (AList.erase convId) conversations, messages, outboundQueue, cursor⟩
  | insertOrIgnoreMessage messageId row =>
      simp only [Stmt.run, accepts]
      split
      · exact ⟨conversations, congrArg (KeyTable.insertOrIgnore messageId row) messages,
          outboundQueue, cursor⟩
      · exact ⟨conversations, messages, outboundQueue, cursor⟩
  | upsertMessage messageId row =>
      simp only [Stmt.run, accepts]
      split
      · exact ⟨conversations, congrArg (KeyTable.upsert messageId row fun _ => row) messages,
          outboundQueue, cursor⟩
      · exact ⟨conversations, messages, outboundQueue, cursor⟩
  | updateMessageStatus messageId _ | updateMessageStatusAndContent messageId _ _ =>
      exact ⟨conversations, by simp only [Stmt.run, messages], outboundQueue, cursor⟩
  | insertOrIgnoreOutbound localId _ | bumpRetryCount localId | deleteOutbound localId =>
      exact ⟨conversations, messages, by simp only [Stmt.run, outboundQueue], cursor⟩
  | setMeta key value =>
      refine ⟨conversations, messages, outboundQueue, ?_⟩
      simp only [Stmt.run, KeyTable.lookup_upsert]
      split
      · cases left.metadata.lookup key <;> cases right.metadata.lookup key <;> rfl
      · exact cursor

end Db.Alike

/-- The statement is about another table than `outbound_queue`. -/
def Stmt.LeavesQueue : Stmt → Prop
  | insertOrIgnoreOutbound .. | bumpRetryCount _ | deleteOutbound _ => False
  | _ => True

theorem Stmt.outboundQueue_run {stmt : Stmt} (leaves : stmt.LeavesQueue) (db : Db) :
    (stmt.run db).outboundQueue = db.outboundQueue := by
  cases stmt with
  | insertOrIgnoreOutbound _ _ | bumpRetryCount _ | deleteOutbound _ => exact leaves.elim
  | deleteConversation convId =>
      rw [run]
      split <;> rfl
  | insertOrIgnoreMessage messageId row | upsertMessage messageId row =>
      rw [run]
      split <;> rfl
  | _ => rfl

/-! ## Clients -/

namespace Client

/-- Two clients agree on what a session reads. -/
structure Alike (left right : Client) : Prop where
  platform : left.platform = right.platform
  launches : left.launches = right.launches
  clockReads : left.clockReads = right.clockReads
  table : left.table.Alike right.table
  convCache : left.convCache = right.convCache
  msgCache : left.msgCache = right.msgCache
  connected : left.outbound.sendFn.isSome = right.outbound.sendFn.isSome
  callbacks : left.outbound.callbacks = right.outbound.callbacks
  sent : left.outbound.sent.map Prod.snd = right.outbound.sent.map Prod.snd
  completed : left.outbound.completed = right.outbound.completed
  localIdCounter : left.localIdCounter = right.localIdCounter

/-- Nothing has changed but the stores of the conversations and messages, the
cursor and the clock. -/
structure SameBesidesStores (before after : Client) : Prop where
  platform : after.platform = before.platform
  outboundQueue : after.table.outboundQueue = before.table.outboundQueue
  outbound : after.outbound = before.outbound
  localIdCounter : after.localIdCounter = before.localIdCounter

/-- The same operation on the stores of two clients leaves them alike. -/
structure Tandem (left right nextLeft nextRight : Client) : Prop where
  alike : nextLeft.Alike nextRight
  same : SameBesidesStores left nextLeft

theorem Alike.refl (client : Client) : client.Alike client :=
  ⟨rfl, rfl, rfl, .refl _, rfl, rfl, rfl, rfl, rfl, rfl, rfl⟩

theorem SameBesidesStores.refl (client : Client) : SameBesidesStores client client :=
  ⟨rfl, rfl, rfl, rfl⟩

theorem SameBesidesStores.trans {first second third : Client}
    (firstSame : SameBesidesStores first second) (secondSame : SameBesidesStores second third) :
    SameBesidesStores first third where
  platform := secondSame.platform.trans firstSame.platform
  outboundQueue := secondSame.outboundQueue.trans firstSame.outboundQueue
  outbound := secondSame.outbound.trans firstSame.outbound
  localIdCounter := secondSame.localIdCounter.trans firstSame.localIdCounter

variable {left right : Client}

/-- One operation after the other. -/
theorem Tandem.bind {middleLeft middleRight nextLeft nextRight : Client}
    (first : Tandem left right middleLeft middleRight)
    (second : middleLeft.Alike middleRight →
      Tandem middleLeft middleRight nextLeft nextRight) :
    Tandem left right nextLeft nextRight :=
  ⟨(second first.alike).alike, first.same.trans (second first.alike).same⟩

namespace Alike

/-! ## Operations on the stores -/

theorem tandem (alike : left.Alike right) : Tandem left right left right :=
  ⟨alike, .refl left⟩

theorem exec (alike : left.Alike right) (stmt : Stmt) :
    (left.exec stmt).Alike (right.exec stmt) where
  platform := alike.platform
  launches := alike.launches
  clockReads := alike.clockReads
  table := by
    rw [table_exec, table_exec]
    exact alike.table.run stmt
  convCache := alike.convCache
  msgCache := alike.msgCache
  connected := alike.connected
  callbacks := alike.callbacks
  sent := alike.sent
  completed := alike.completed
  localIdCounter := alike.localIdCounter

theorem tandem_exec (alike : left.Alike right) (stmt : Stmt) (leaves : stmt.LeavesQueue) :
    Tandem left right (left.exec stmt) (right.exec stmt) := by
  refine ⟨alike.exec stmt, rfl, ?_, rfl, rfl⟩
  rw [table_exec, Stmt.outboundQueue_run leaves]

theorem tandem_execSync (alike : left.Alike right) (stmt : Stmt) (leaves : stmt.LeavesQueue) :
    Tandem left right (left.execSync stmt) (right.execSync stmt) where
  alike :=
    { alike with
      table := by
        rw [table_execSync, table_execSync]
        exact alike.table.run stmt }
  same := ⟨rfl, Stmt.outboundQueue_run leaves _, rfl, rfl⟩

theorem tandem_querySync (alike : left.Alike right) :
    Tandem left right left.querySync right.querySync :=
  ⟨{ alike with }, rfl, rfl, rfl, rfl⟩

theorem nowMs_fst (alike : left.Alike right) : left.nowMs.1 = right.nowMs.1 := by
  rw [nowMs, nowMs, alike.platform, alike.clockReads]

theorem tandem_nowMs (alike : left.Alike right) :
    Tandem left right left.nowMs.2 right.nowMs.2 where
  alike := { alike with clockReads := congrArg (· + 1) alike.clockReads }
  same := ⟨rfl, rfl, rfl, rfl⟩

theorem tandem_mapConvCache (alike : left.Alike right)
    (change : ConversationCache → ConversationCache) :
    Tandem left right (left.mapConvCache change) (right.mapConvCache change) where
  alike := { alike with convCache := congrArg change alike.convCache }
  same := ⟨rfl, rfl, rfl, rfl⟩

theorem tandem_mapMsgCache (alike : left.Alike right) (change : MessageCache → MessageCache) :
    Tandem left right (left.mapMsgCache change) (right.mapMsgCache change) where
  alike := { alike with msgCache := congrArg change alike.msgCache }
  same := ⟨rfl, rfl, rfl, rfl⟩

/-! ## Conversations -/

theorem tandem_saveConversation (alike : left.Alike right) (conv : Conversation) :
    Tandem left right (left.saveConversation conv) (right.saveConversation conv) :=
  (alike.tandem_mapConvCache (·.upsert conv)).bind fun alike => alike.tandem_exec _ trivial

theorem stampUpdated_fst (alike : left.Alike right) (conv : Conversation) :
    (left.stampUpdated conv).1 = (right.stampUpdated conv).1 := by
  rw [stampUpdated, stampUpdated]
  split
  · simp only [alike.nowMs_fst]
  · rfl

theorem tandem_stampUpdated (alike : left.Alike right) (conv : Conversation) :
    Tandem left right (left.stampUpdated conv).2 (right.stampUpdated conv).2 := by
  rw [stampUpdated, stampUpdated]
  split
  · exact alike.tandem_nowMs
  · exact alike.tandem

theorem tandem_storeListedConversations (alike : left.Alike right)
    (payloads : List ConversationPayload) :
    (left.storeListedConversations payloads).1 = (right.storeListedConversations payloads).1 ∧
      Tandem left right (left.storeListedConversations payloads).2
        (right.storeListedConversations payloads).2 := by
  induction payloads generalizing left right with
  | nil => exact ⟨rfl, alike.tandem⟩
  | cons payload rest ih =>
      simp only [storeListedConversations]
      split
      · exact ih alike
      · have stamped := alike.tandem_stampUpdated (parseConversationPayload payload)
        have sameConv := alike.stampUpdated_fst (parseConversationPayload payload)
        rw [← sameConv]
        have stored := stamped.bind fun alike => alike.tandem_exec (.upsertConversation
          (left.stampUpdated (parseConversationPayload payload)).1.convId
          (left.stampUpdated (parseConversationPayload payload)).1.toRow) trivial
        have later := ih stored.alike
        exact ⟨congrArg ((left.stampUpdated (parseConversationPayload payload)).1 :: ·) later.1,
          stored.bind fun _ => later.2⟩

theorem tandem_changeCached (alike : left.Alike right) (convId : String)
    (change : Conversation → Conversation) :
    Tandem left right (left.changeCached convId change) (right.changeCached convId change) := by
  rw [changeCached, changeCached, alike.convCache]
  split
  · exact alike.tandem
  · dsimp only
    rw [alike.nowMs_fst]
    exact alike.tandem_nowMs.bind fun alike => alike.tandem_saveConversation _

theorem patchPinTime_fst (alike : left.Alike right) (notificationType : String)
    (payload : NotificationConversationPayload) (conv : Conversation) :
    (left.patchPinTime notificationType payload conv).1 =
      (right.patchPinTime notificationType payload conv).1 := by
  rw [patchPinTime, patchPinTime]
  split
  · split
    · rfl
    · split
      · simp only [alike.nowMs_fst]
      · rfl
  · rfl

theorem tandem_patchPinTime (alike : left.Alike right) (notificationType : String)
    (payload : NotificationConversationPayload) (conv : Conversation) :
    Tandem left right (left.patchPinTime notificationType payload conv).2
      (right.patchPinTime notificationType payload conv).2 := by
  rw [patchPinTime, patchPinTime]
  split
  · split
    · exact alike.tandem
    · split
      · exact alike.tandem_nowMs
      · exact alike.tandem
  · exact alike.tandem

/-! ## Messages -/

theorem tandem_updateCachedMessage (alike : left.Alike right) (messageId : String)
    (change : Message → Message) :
    (left.updateCachedMessage messageId change).1 =
        (right.updateCachedMessage messageId change).1 ∧
      Tandem left right (left.updateCachedMessage messageId change).2
        (right.updateCachedMessage messageId change).2 := by
  rw [updateCachedMessage, updateCachedMessage, alike.msgCache]
  exact ⟨rfl, { alike with msgCache := rfl }, rfl, rfl, rfl, rfl⟩

theorem tandem_upsertMessageDb (alike : left.Alike right) (message : Message) :
    Tandem left right (left.upsertMessageDb message) (right.upsertMessageDb message) := by
  rw [upsertMessageDb, upsertMessageDb]
  split
  · exact alike.tandem
  · exact alike.tandem_exec _ trivial

theorem tandem_updateMessageDbStatusAndContent (alike : left.Alike right) (messageId : String)
    (status : Int32) (content : Option String) :
    Tandem left right (left.updateMessageDbStatusAndContent messageId status content)
      (right.updateMessageDbStatusAndContent messageId status content) := by
  by_cases empty : messageId = ""
  · simp only [updateMessageDbStatusAndContent, if_pos empty]
    exact alike.tandem
  · cases content with
    | none =>
        simp only [updateMessageDbStatusAndContent, if_neg empty]
        exact alike.tandem_exec _ trivial
    | some content =>
        simp only [updateMessageDbStatusAndContent, if_neg empty]
        exact alike.tandem_exec _ trivial

theorem tandem_mergeNotified (alike : left.Alike right) (change : Message → Message)
    (message : Message) :
    (left.mergeNotified change message).1 = (right.mergeNotified change message).1 ∧
      Tandem left right (left.mergeNotified change message).2
        (right.mergeNotified change message).2 := by
  rcases alike.tandem_updateCachedMessage message.messageId change with ⟨sameUpdated, updated⟩
  simp only [mergeNotified, sameUpdated]
  split
  · exact ⟨rfl, updated⟩
  · refine ⟨rfl, ?_⟩
    dsimp only
    split
    · exact updated.bind fun alike => alike.tandem_mapMsgCache _
    · exact updated

end Alike

/-! ## What is read from the stores -/

namespace Alike

/-- The list comes from the cache or from the table, and both agree. -/
theorem tandem_getConversationList (alike : left.Alike right) :
    left.getConversationList.1 = right.getConversationList.1 ∧
      Tandem left right left.getConversationList.2 right.getConversationList.2 := by
  have sorted : left.querySync.platform.orderByPinned.sort left.querySync.table.conversations.rows =
      right.querySync.platform.orderByPinned.sort right.querySync.table.conversations.rows := by
    change left.platform.orderByPinned.sort left.table.conversations.rows =
      right.platform.orderByPinned.sort right.table.conversations.rows
    rw [alike.platform, alike.table.conversations]
  simp only [getConversationList, alike.convCache, sorted]
  split
  · exact ⟨rfl, alike.tandem⟩
  · split
    · refine ⟨rfl, ?_⟩
      exact alike.tandem_querySync.bind fun alike => alike.tandem_mapConvCache fun _ => _
    · exact ⟨rfl, alike.tandem_querySync⟩

theorem getHistory (alike : left.Alike right) (convId : String) (beforeTimestamp : Int64) :
    left.getHistory convId beforeTimestamp = right.getHistory convId beforeTimestamp := by
  rw [Client.getHistory, Client.getHistory, alike.msgCache]

theorem syncRequest (alike : left.Alike right) : left.syncRequest = right.syncRequest := by
  have sameSeq : ∀ row : Row,
      left.conversationSeqRequest row = right.conversationSeqRequest row := by
    intro row
    rw [conversationSeqRequest, conversationSeqRequest, alike.convCache]
  simp only [Client.syncRequest, getMeta, alike.platform, alike.table.cursor,
    alike.table.conversations, sameSeq]

end Alike

end Client

/-! ## Actions -/

theorem Action.tandem {left right : Client} (alike : left.Alike right) {action : Action}
    (leaves : action.LeavesQueue) :
    Client.Tandem left right (action.apply left) (action.apply right) := by
  cases action with
  | mergeFriend payload =>
      simp only [apply, Client.mergeFriend]
      split
      · exact alike.tandem
      · exact alike.tandem_execSync _ trivial
  | mergeGroup payload =>
      simp only [apply, Client.mergeGroup]
      split
      · exact alike.tandem
      · exact alike.tandem_execSync _ trivial
  | mergeSession payload =>
      simp only [apply, Client.mergeSession, alike.nowMs_fst]
      split
      · exact alike.tandem
      · have stored := alike.tandem_nowMs.bind fun alike => alike.tandem_execSync
          (.mergeSession (Client.sessionConversation payload right.nowMs.1).convId
            (Client.sessionColumns (Client.sessionConversation payload right.nowMs.1))) trivial
        exact stored.bind fun alike => alike.tandem_mapConvCache _
  | storeSyncedMessage message =>
      have stored := alike.tandem_execSync
        (.insertOrIgnoreMessage message.messageId message.toRow) trivial
      exact stored.bind fun alike => alike.tandem_mapMsgCache _
  | raiseSequence convId seq =>
      have raised := alike.tandem_execSync (.raiseLocalSeq convId seq) trivial
      simp only [apply, Client.raiseSequence, raised.alike.convCache]
      split
      · exact raised
      · split
        · exact raised.bind fun alike => alike.tandem_mapConvCache _
        · exact raised
  | setSyncTime syncTime =>
      simp only [apply, Client.setSyncTime]
      split
      · exact alike.tandem_execSync _ trivial
      · exact alike.tandem
  | storeListedMessage message =>
      exact (alike.tandem_upsertMessageDb message).bind fun alike => alike.tandem_mapMsgCache _
  | receiveMessage message =>
      exact (alike.tandem_mapMsgCache (·.insert message)).bind
        fun alike => alike.tandem_upsertMessageDb message
  | markMessageRead messageId =>
      simp only [apply, Client.markMessageRead]
      split
      · exact alike.tandem
      · exact (alike.tandem_updateCachedMessage _ _).2
  | applyMessageStatus messageId status =>
      exact (alike.tandem_updateCachedMessage _ _).2.bind
        fun alike => alike.tandem_updateMessageDbStatusAndContent messageId status none
  | applyEdit messageId edited =>
      exact (alike.tandem_updateCachedMessage _ _).2.bind
        fun alike => alike.tandem_updateMessageDbStatusAndContent messageId edited.status
          (some edited.content)
  | recallNotified message =>
      rcases alike.tandem_mergeNotified (Client.recallCached message) message with
        ⟨sameMessage, merged⟩
      simp only [apply, Client.recallNotified, sameMessage]
      exact merged.bind fun alike => alike.tandem_updateMessageDbStatusAndContent _ _ _
  | deleteNotified message =>
      rcases alike.tandem_mergeNotified (Client.deleteCached message) message with
        ⟨sameMessage, merged⟩
      simp only [apply, Client.deleteNotified, sameMessage]
      exact merged.bind fun alike => alike.tandem_updateMessageDbStatusAndContent _ _ _
  | editNotified message =>
      rcases alike.tandem_mergeNotified (Client.editCached message) message with
        ⟨sameMessage, merged⟩
      simp only [apply, Client.editNotified, sameMessage]
      exact merged.bind fun alike => alike.tandem_updateMessageDbStatusAndContent _ _ _
  | loadConversations => exact alike.tandem_getConversationList.2
  | replaceConversations payloads =>
      rcases alike.tandem_storeListedConversations payloads with ⟨sameConvs, stored⟩
      simp only [apply, Client.replaceConversations, sameConvs]
      exact stored.bind fun alike => alike.tandem_mapConvCache _
  | fetchConversation convId payload =>
      simp only [apply, Client.storeFetchedConversation, alike.stampUpdated_fst]
      exact (alike.tandem_stampUpdated _).bind fun alike => alike.tandem_saveConversation _
  | removeConversation convId =>
      exact (alike.tandem_mapConvCache (·.remove convId)).bind
        fun alike => alike.tandem_exec _ trivial
  | clearUnread convId =>
      exact (alike.tandem_mapConvCache (·.clearUnread convId)).bind
        fun alike => alike.tandem_exec _ trivial
  | applyPinned convId pinned =>
      simp only [apply, Client.applyPinned, alike.convCache]
      split
      · exact alike.tandem
      · cases pinned with
        | false =>
            simp only [Bool.false_eq_true, if_false, alike.nowMs_fst]
            exact alike.tandem_nowMs.bind fun alike => alike.tandem_saveConversation _
        | true =>
            have stamped := alike.tandem_nowMs
            simp only [if_true, alike.nowMs_fst, stamped.alike.nowMs_fst]
            exact (stamped.bind fun alike => alike.tandem_nowMs).bind
              fun alike => alike.tandem_saveConversation _
  | setMuted convId muted => exact alike.tandem_changeCached convId _
  | setBurnAfterReading convId duration => exact alike.tandem_changeCached convId _
  | setAutoDelete convId duration => exact alike.tandem_changeCached convId _
  | applyUnreadCount convId unreadCount =>
      simp only [apply, Client.applyUnreadCount, alike.convCache]
      split
      · exact alike.tandem
      · exact alike.tandem_saveConversation _
  | applyServerSequence convId seq =>
      simp only [apply, Client.applyServerSequence, alike.convCache]
      split
      · split
        · exact alike.tandem_saveConversation _
        · exact alike.tandem
      · split
        · exact alike.tandem_exec _ trivial
        · exact alike.tandem
  | patchConversation notificationType payload =>
      have samePatch : left.patchedConversation payload = right.patchedConversation payload := by
        rw [Client.patchedConversation, Client.patchedConversation, alike.convCache]
      simp only [apply, Client.storePatchedConversation, samePatch, alike.patchPinTime_fst]
      have timed := alike.tandem_patchPinTime notificationType payload
        (right.patchedConversation payload)
      simp only [timed.alike.stampUpdated_fst]
      exact (timed.bind fun alike => alike.tandem_stampUpdated _).bind
        fun alike => alike.tandem_saveConversation _
  | querySync => exact alike.tandem_querySync
  | sendTextMessage _ _ _ | queue _ | restart => exact leaves.elim

/-! ## The outbound queue -/

namespace Client.Alike

variable {left right : Client}

/-- The send functions may have other numbers. -/
theorem setSendFn (alike : left.Alike right) {leftFn rightFn : Option Nat}
    (connected : leftFn.isSome = rightFn.isSome) :
    (left.setSendFn leftFn).Alike (right.setSendFn rightFn) :=
  { alike with connected := connected }

theorem callSendFn (alike : left.Alike right) (leftFn rightFn : Nat) (frame : Frame) :
    (left.callSendFn leftFn frame).Alike (right.callSendFn rightFn frame) :=
  { alike with
    sent := by simp only [Client.callSendFn, List.map_append, alike.sent, List.map_cons,
      List.map_nil] }

/-- Both clients have a send function or neither has one. -/
theorem sendFn_cases (alike : left.Alike right) :
    left.outbound.sendFn = none ∧ right.outbound.sendFn = none ∨
      ∃ leftFn rightFn, left.outbound.sendFn = some leftFn ∧
        right.outbound.sendFn = some rightFn := by
  have connected := alike.connected
  cases leftFn : left.outbound.sendFn with
  | none =>
      rw [leftFn] at connected
      exact .inl ⟨rfl, Option.not_isSome_iff_eq_none.mp (Bool.eq_false_iff.mp connected.symm)⟩
  | some sendFn =>
      rw [leftFn] at connected
      rcases Option.isSome_iff_exists.mp connected.symm with ⟨other, rightFn⟩
      exact .inr ⟨sendFn, other, rfl, rightFn⟩

theorem sendRow (alike : left.Alike right) (convId convType : String) (contentType : Int32)
    (content localId : String) :
    (left.sendRow convId convType contentType content localId).Alike
      (right.sendRow convId convType contentType content localId) := by
  rw [Client.sendRow, Client.sendRow]
  rcases alike.sendFn_cases with ⟨leftNone, rightNone⟩ | ⟨leftFn, rightFn, leftSome, rightSome⟩
  · rw [leftNone, rightNone]
    exact alike
  · rw [leftSome, rightSome]
    exact (alike.exec (.bumpRetryCount localId)).callSendFn leftFn rightFn _

theorem resendRow (alike : left.Alike right) (row : Row) :
    (left.resendRow row).Alike (right.resendRow row) := by
  rw [Client.resendRow, Client.resendRow]
  split
  · split
    · exact alike.sendRow _ _ _ _ _
    · exact alike
  · exact alike

/-- The flush sends the same rows in the same order. -/
theorem onConnected (alike : left.Alike right) (leftFn rightFn : Nat) :
    (left.onConnected leftFn).Alike (right.onConnected rightFn) := by
  have resent : ∀ (rows : List Row) {left right : Client}, left.Alike right →
      (rows.foldl (fun client row => client.resendRow row) left).Alike
        (rows.foldl (fun client row => client.resendRow row) right) := by
    intro rows
    induction rows with
    | nil => exact fun alike => alike
    | cons row rest ih => exact fun alike => ih (alike.resendRow row)
  have samePending : (left.setSendFn (some leftFn)).querySync.pendingRows =
      (right.setSendFn (some rightFn)).querySync.pendingRows := by
    change left.platform.orderByCreatedAt.sort left.table.outboundQueue.rows =
      right.platform.orderByCreatedAt.sort right.table.outboundQueue.rows
    rw [alike.platform, alike.table.outboundQueue]
  have connected : (left.setSendFn (some leftFn)).Alike (right.setSendFn (some rightFn)) :=
    alike.setSendFn rfl
  simp only [Client.onConnected, samePending]
  exact resent _ connected.tandem_querySync.alike

theorem registerCallback (alike : left.Alike right) (localId : String)
    (callback : AnyChatCallback) :
    (left.registerCallback localId callback).Alike (right.registerCallback localId callback) := by
  rw [Client.registerCallback, Client.registerCallback]
  split
  · exact { alike with
      callbacks := congrArg (KeyTable.insertOrIgnore localId callback) alike.callbacks }
  · exact alike

theorem enqueue (alike : left.Alike right) (convId convType : String) (contentType : Int32)
    (content localId : String) (callback : AnyChatCallback) :
    (left.enqueue convId convType contentType content localId callback).Alike
      (right.enqueue convId convType contentType content localId callback) := by
  have stored := (alike.tandem_nowMs.alike.exec (.insertOrIgnoreOutbound localId
    (outboundRow convId convType contentType content right.nowMs.1))).registerCallback localId
      callback
  simp only [Client.enqueue, alike.nowMs_fst, stored.connected]
  split
  · exact stored.sendRow _ _ _ _ _
  · exact stored

/-- Both clients give the message the same id. -/
theorem sendTextMessage (alike : left.Alike right) (convId content : String)
    (callback : AnyChatCallback) :
    (left.sendTextMessage convId content callback).Alike
      (right.sendTextMessage convId content callback) := by
  have counted : left.generateLocalId.2.Alike right.generateLocalId.2 :=
    { alike with localIdCounter := congrArg (· + 1) alike.localIdCounter }
  have sameId : left.generateLocalId.1 = right.generateLocalId.1 := by
    rw [generateLocalId, generateLocalId, alike.localIdCounter]
  change (left.generateLocalId.2.enqueue convId "private" messageContentTypeText content
    left.generateLocalId.1 callback).Alike _
  rw [sameId]
  exact counted.enqueue _ _ _ _ _ _

theorem sendTransient (alike : left.Alike right) (frame : Frame) :
    (left.sendTransient frame).2.Alike (right.sendTransient frame).2 := by
  rw [Client.sendTransient, Client.sendTransient]
  rcases alike.sendFn_cases with ⟨leftNone, rightNone⟩ | ⟨leftFn, rightFn, leftSome, rightSome⟩
  · rw [leftNone, rightNone]
    exact alike
  · rw [leftSome, rightSome]
    exact alike.callSendFn leftFn rightFn frame

theorem completeCallback (alike : left.Alike right) (localId : String) :
    (left.completeCallback localId).Alike (right.completeCallback localId) := by
  simp only [Client.completeCallback, alike.callbacks]
  split
  · exact alike
  · exact { alike with
      callbacks := rfl
      completed := congrArg (· ++ _) alike.completed }

theorem onMessageSentAck (alike : left.Alike right) (localId : String) :
    (left.onMessageSentAck localId).Alike (right.onMessageSentAck localId) := by
  rw [Client.onMessageSentAck, Client.onMessageSentAck]
  split
  · exact alike
  · exact (alike.exec _).completeCallback localId

/-- A turn of the worker changes no table once the queue has run. -/
theorem work (alike : left.Alike right) : left.work.Alike right.work :=
  { alike with
    table := by
      rw [table_work, table_work]
      exact alike.table }

theorem restart (alike : left.Alike right) : left.restart.Alike right.restart where
  platform := alike.platform
  launches := congrArg (· + 1) alike.launches
  clockReads := alike.clockReads
  table := alike.table
  convCache := rfl
  msgCache := by
    rw [Client.restart, Client.restart, alike.platform, alike.launches]
    rfl
  connected := rfl
  callbacks := rfl
  sent := rfl
  completed := rfl
  localIdCounter := rfl

end Client.Alike

theorem QueueEvent.alike {left right : Client} (alike : left.Alike right) (event : QueueEvent) :
    (event.apply left).Alike (event.apply right) := by
  cases event with
  | enqueue => exact alike.enqueue _ _ _ _ _ _
  | connected sendFn => exact alike.onConnected sendFn sendFn
  | disconnected => exact alike.setSendFn rfl
  | transient frame => exact alike.sendTransient frame
  | messageSentAck localId => exact alike.onMessageSentAck localId
  | work => exact alike.work

/-! ## Runs -/

theorem Action.alike {left right : Client} (alike : left.Alike right) (action : Action) :
    (action.apply left).Alike (action.apply right) := by
  cases action with
  | sendTextMessage convId content callback => exact alike.sendTextMessage convId content callback
  | queue event => exact event.alike alike
  | restart => exact alike.restart
  | _ => exact (Action.tandem alike (by trivial)).alike

/-- Every event keeps clients alike. -/
theorem Event.alike {left right : Client} (alike : left.Alike right) (event : Event) :
    (event.apply left).Alike (event.apply right) := by
  rw [Event.apply_eq_exec_actions, Event.apply_eq_exec_actions]
  have preserved : ∀ (left right : Client) (action : Action), left.Alike right →
      (action.apply left).Alike (action.apply right) :=
    fun _ _ action related => Action.alike related action
  exact EventRun.exec_related preserved alike event.actions

end AnychatSdk
