import AnychatSdk.Effects

/-!
# The two conversation stores

Conversations live in the `conversations` table and in the conversation cache.
All actions act on this pair of stores through the few operations below; which
operation an action is may depend on the state it runs in.
-/

namespace AnychatSdk

/-- The table and the cache. -/
structure ConversationStores where
  rows : KeyTable String ConversationRow
  cache : ConversationCache

/-- The stores of a client, seen once the queued statements have run. -/
def Client.stores (client : Client) : ConversationStores :=
  ⟨client.table.conversations, client.convCache⟩

/-- The operations on the pair of stores. -/
inductive StoreOp where
  | keep
  /-- Write a whole record to both stores. -/
  | save (conv : Conversation)
  /-- Write a session to both stores; the row keeps the columns it does not carry. -/
  | merge (conv : Conversation)
  /-- Raise the sequence number in both stores. -/
  | raise (convId : String) (seq : Int64)
  | clearUnread (convId : String)
  /-- Remove the record; the row stays when messages refer to it. -/
  | remove (convId : String) (referenced : Bool)
  /-- Fill the cache with the given rows. -/
  | load (rows : List (String × ConversationRow))
  /-- Write the rows of all records and make them the content of the cache. -/
  | replace (convs : List Conversation)
  /-- Empty the cache. -/
  | forget

/-- Write the rows of a list of records, in order. -/
def writeRows (convs : List Conversation) (rows : KeyTable String ConversationRow) :
    KeyTable String ConversationRow :=
  convs.foldl (fun rows conv => rows.write conv.convId conv.toRow) rows

/-- Raise a cached record's sequence number if it is smaller. -/
def ConversationCache.raise (convId : String) (seq : Int64) (cache : ConversationCache) :
    ConversationCache :=
  match cache.get convId with
  | none => cache
  | some conv => if conv.localSeq < seq then cache.upsert { conv with localSeq := seq } else cache

def StoreOp.apply (stores : ConversationStores) : StoreOp → ConversationStores
  | keep => stores
  | save conv => ⟨stores.rows.write conv.convId conv.toRow, stores.cache.upsert conv⟩
  | merge conv =>
      ⟨stores.rows.upsert conv.convId (Client.sessionColumns conv).fresh
          (Client.sessionColumns conv).overwrite,
        stores.cache.upsert conv⟩
  | raise convId seq =>
      ⟨stores.rows.update convId fun row => { row with localSeq := max row.localSeq seq },
        stores.cache.raise convId seq⟩
  | clearUnread convId =>
      ⟨stores.rows.update convId fun row => { row with unreadCount := 0 },
        stores.cache.clearUnread convId⟩
  | remove convId referenced =>
      ⟨if referenced then stores.rows else stores.rows.erase convId, stores.cache.remove convId⟩
  | load rows =>
      ⟨stores.rows, .setAll (rows.map fun row => rowToConversation (row.2.toRow row.1))⟩
  | replace convs => ⟨writeRows convs stores.rows, .setAll convs⟩
  | forget => ⟨stores.rows, {}⟩

namespace Action

/-- The record of a stamped change to a cached conversation. -/
def changed (client : Client) (convId : String) (change : Conversation → Conversation) :
    StoreOp :=
  match client.convCache.get convId with
  | none => .keep
  | some conv => .save { change conv with updatedAtMs := client.nowMs.1 }

/-- The operation that an action performs on the stores. -/
def storeOp (client : Client) : Action → StoreOp
  | mergeSession payload =>
      if payload.conversationId = "" then .keep
      else .merge (Client.sessionConversation payload client.nowMs.1)
  | raiseSequence convId seq => .raise convId seq
  | loadConversations =>
      if client.convCache.getAll ≠ [] then .keep
      else
        let rows := client.platform.orderByPinned.sort client.table.conversations.rows
        if rows ≠ [] then .load rows else .keep
  | replaceConversations payloads => .replace (client.storeListedConversations payloads).1
  | fetchConversation convId payload =>
      .save (client.stampUpdated (Client.fetchedConversation convId payload)).1
  | removeConversation convId => .remove convId (client.table.hasMessageOf convId)
  | clearUnread convId => .clearUnread convId
  | applyPinned convId pinned =>
      match client.convCache.get convId with
      | none => .keep
      | some conv =>
          let (pinTime, client) := if pinned then client.nowMs else (0, client)
          .save
            { conv with isPinned := pinned, pinTimeMs := pinTime, updatedAtMs := client.nowMs.1 }
  | setMuted convId muted => changed client convId fun conv => { conv with isMuted := muted }
  | setBurnAfterReading convId duration =>
      changed client convId fun conv => { conv with burnAfterReading := duration }
  | setAutoDelete convId duration =>
      changed client convId fun conv => { conv with autoDeleteDuration := duration }
  | applyUnreadCount convId unreadCount =>
      match client.convCache.get convId with
      | none => .keep
      | some conv => .save { conv with unreadCount := unreadCount.toInt32 }
  | applyServerSequence convId seq =>
      match client.convCache.get convId with
      | some conv => if conv.localSeq < seq then .save { conv with localSeq := seq } else .keep
      | none => if 0 < seq then .raise convId seq else .keep
  | patchConversation notificationType payload =>
      let (conv, client) :=
        client.patchPinTime notificationType payload (client.patchedConversation payload)
      .save (client.stampUpdated conv).1
  | restart => .forget
  | _ => .keep

end Action

/-! ## Actions are operations -/

namespace Client

theorem stores_saveConversation (conv : Conversation) (client : Client) :
    (client.saveConversation conv).stores = StoreOp.apply client.stores (.save conv) := by
  rw [stores, saveConversation, upsertDb, table_exec]
  rfl

theorem stores_upsertMessageDb (message : Message) (client : Client) :
    (client.upsertMessageDb message).stores = client.stores := by
  rw [upsertMessageDb]
  split
  · rfl
  · rw [stores, table_exec, Stmt.run]
    split <;> rfl

theorem stores_updateMessageDbStatusAndContent (messageId : String) (status : Int32)
    (content : Option String) (client : Client) :
    (client.updateMessageDbStatusAndContent messageId status content).stores = client.stores := by
  by_cases empty : messageId = ""
  · simp [updateMessageDbStatusAndContent, empty]
  · cases content <;>
      simp only [updateMessageDbStatusAndContent, if_neg empty, stores, table_exec] <;> rfl

theorem stores_mergeNotified (change : Message → Message) (message : Message) (client : Client) :
    (client.mergeNotified change message).2.stores = client.stores := by
  simp only [mergeNotified]
  split
  · rfl
  · dsimp only
    split <;> rfl

theorem stores_stampUpdated (conv : Conversation) (client : Client) :
    (client.stampUpdated conv).2.stores = client.stores := by
  rw [stampUpdated]
  split <;> rfl

theorem stores_patchPinTime (notificationType : String)
    (payload : NotificationConversationPayload) (conv : Conversation) (client : Client) :
    (client.patchPinTime notificationType payload conv).2.stores = client.stores := by
  rw [patchPinTime]
  split
  · split
    · rfl
    · split <;> rfl
  · rfl

theorem stores_storeListedConversations (payloads : List ConversationPayload) (client : Client) :
    (client.storeListedConversations payloads).2.stores =
      ⟨writeRows (client.storeListedConversations payloads).1 client.stores.rows,
        client.stores.cache⟩ := by
  induction payloads generalizing client with
  | nil => rfl
  | cons payload rest ih =>
      rw [storeListedConversations]
      split
      · exact ih client
      · have stamped := stores_stampUpdated (parseConversationPayload payload) client
        generalize client.stampUpdated (parseConversationPayload payload) = stampResult at stamped
        rcases stampResult with ⟨conv, stampedClient⟩
        have written : (stampedClient.upsertDb conv).stores =
            ⟨client.stores.rows.write conv.convId conv.toRow, client.stores.cache⟩ := by
          rw [← stamped, upsertDb, stores, table_exec]
          rfl
        simp only [ih, written]
        rfl

theorem stores_changeCached (convId : String) (change : Conversation → Conversation)
    (client : Client) :
    (client.changeCached convId change).stores =
      StoreOp.apply client.stores (Action.changed client convId change) := by
  rw [changeCached, Action.changed]
  cases client.convCache.get convId with
  | none => rfl
  | some conv => exact stores_saveConversation _ _

end Client

/-- Every action performs its operation on the stores. -/
theorem Action.stores_apply (client : Client) (action : Action) :
    (action.apply client).stores = (action.storeOp client).apply client.stores := by
  cases action with
  | mergeFriend payload =>
      simp only [Action.apply, Client.mergeFriend]
      split <;> rfl
  | mergeGroup payload =>
      simp only [Action.apply, Client.mergeGroup]
      split <;> rfl
  | mergeSession payload =>
      simp only [Action.apply, Client.mergeSession, Action.storeOp]
      split <;> rfl
  | storeSyncedMessage message =>
      simp only [Action.apply, Client.storeSyncedMessage, Client.stores,
        Client.table_mapMsgCache, Client.table_execSync, Stmt.run]
      split <;> rfl
  | raiseSequence convId seq =>
      simp only [Action.apply, Client.raiseSequence, Action.storeOp, StoreOp.apply,
        ConversationCache.raise, Client.stores, Client.convCache_execSync]
      cases cached : client.convCache.get convId with
      | none => rfl
      | some conv =>
          dsimp only
          split <;> rfl
  | setSyncTime syncTime =>
      simp only [Action.apply, Client.setSyncTime]
      split <;> rfl
  | storeListedMessage message => exact client.stores_upsertMessageDb message
  | receiveMessage message => exact Client.stores_upsertMessageDb message _
  | markMessageRead messageId =>
      simp only [Action.apply, Client.markMessageRead]
      split <;> rfl
  | applyMessageStatus messageId status =>
      exact Client.stores_updateMessageDbStatusAndContent messageId status none _
  | applyEdit messageId edited =>
      exact Client.stores_updateMessageDbStatusAndContent messageId edited.status _ _
  | recallNotified message =>
      exact (Client.stores_updateMessageDbStatusAndContent _ _ _ _).trans
        (client.stores_mergeNotified _ message)
  | deleteNotified message =>
      exact (Client.stores_updateMessageDbStatusAndContent _ _ _ _).trans
        (client.stores_mergeNotified _ message)
  | editNotified message =>
      exact (Client.stores_updateMessageDbStatusAndContent _ _ _ _).trans
        (client.stores_mergeNotified _ message)
  | loadConversations =>
      simp only [Action.apply, Client.getConversationList, Action.storeOp]
      by_cases cached : client.convCache.getAll ≠ []
      · rw [if_pos cached, if_pos cached]
        rfl
      · rw [if_neg cached, if_neg cached]
        by_cases stored : client.platform.orderByPinned.sort client.table.conversations.rows ≠ []
        · rw [if_pos stored, if_pos]
          · rfl
          · exact stored
        · rw [if_neg stored, if_neg]
          · rfl
          · exact stored
  | replaceConversations payloads =>
      have stored := client.stores_storeListedConversations payloads
      simp only [Action.apply, Client.replaceConversations, Action.storeOp, StoreOp.apply]
      exact congrArg (fun stores => ConversationStores.mk stores.rows _) stored
  | fetchConversation convId payload =>
      simp only [Action.apply, Client.storeFetchedConversation, Client.stores_saveConversation,
        Client.stores_stampUpdated, Action.storeOp]
  | removeConversation convId =>
      simp only [Action.apply, Client.removeConversation, Client.stores, Client.table_exec,
        Stmt.run, Action.storeOp, StoreOp.apply]
      split <;> simp_all
  | clearUnread convId =>
      simp only [Action.apply, Client.clearUnread, Client.stores, Client.table_exec]
      rfl
  | applyPinned convId pinned =>
      simp only [Action.apply, Client.applyPinned, Action.storeOp]
      cases client.convCache.get convId with
      | none => rfl
      | some conv => cases pinned <;> exact Client.stores_saveConversation _ _
  | setMuted convId muted => exact client.stores_changeCached convId _
  | setBurnAfterReading convId duration => exact client.stores_changeCached convId _
  | setAutoDelete convId duration => exact client.stores_changeCached convId _
  | applyUnreadCount convId unreadCount =>
      simp only [Action.apply, Client.applyUnreadCount, Action.storeOp]
      cases client.convCache.get convId with
      | none => rfl
      | some conv => exact client.stores_saveConversation _
  | applyServerSequence convId seq =>
      simp only [Action.apply, Client.applyServerSequence, Action.storeOp]
      cases cached : client.convCache.get convId with
      | none =>
          dsimp only
          split
          · simp only [Client.stores, Client.table_exec, StoreOp.apply, ConversationCache.raise,
              cached]
            rfl
          · rfl
      | some conv =>
          dsimp only
          split
          · exact client.stores_saveConversation _
          · rfl
  | patchConversation notificationType payload =>
      simp only [Action.apply, Client.storePatchedConversation, Client.stores_saveConversation,
        Client.stores_stampUpdated, Client.stores_patchPinTime, Action.storeOp]
  | sendTextMessage convId content callback =>
      have same := Client.SameBesidesQueue.enqueue convId "private" Client.messageContentTypeText
        content client.generateLocalId.1 callback client.generateLocalId.2
      exact congr (congrArg ConversationStores.mk same.conversations) same.convCache
  | queue event =>
      have same := event.sameBesidesQueue client
      exact congr (congrArg ConversationStores.mk same.conversations) same.convCache
  | querySync => rfl
  | restart => rfl

/-! ## The records that actions write -/

namespace Client

/-- Stamping changes the time of the update only. -/
theorem stampUpdated_fst (conv : Conversation) (client : Client) :
    ∃ updatedAt, (client.stampUpdated conv).1 = { conv with updatedAtMs := updatedAt } := by
  rw [stampUpdated]
  split
  · exact ⟨_, rfl⟩
  · exact ⟨conv.updatedAtMs, rfl⟩

theorem patchPinTime_fst (notificationType : String) (payload : NotificationConversationPayload)
    (conv : Conversation) (client : Client) :
    ∃ pinTime, (client.patchPinTime notificationType payload conv).1 =
      { conv with pinTimeMs := pinTime } := by
  rw [patchPinTime]
  split
  · split
    · exact ⟨_, rfl⟩
    · split
      · exact ⟨_, rfl⟩
      · exact ⟨conv.pinTimeMs, rfl⟩
  · exact ⟨conv.pinTimeMs, rfl⟩

/-- The ids of the records a list response is stored as. -/
theorem map_convId_storeListedConversations (payloads : List ConversationPayload)
    (client : Client) :
    (client.storeListedConversations payloads).1.map Conversation.convId =
      (payloads.map ConversationPayload.conversationId).filter fun convId => convId ≠ "" := by
  induction payloads generalizing client with
  | nil => rfl
  | cons payload rest ih =>
      rw [storeListedConversations, List.map_cons, List.filter_cons]
      by_cases empty : payload.conversationId = ""
      · have skipped : (parseConversationPayload payload).convId = "" := empty
        rw [if_pos skipped, ih]
        simp [empty]
      · have listed : (parseConversationPayload payload).convId ≠ "" := empty
        obtain ⟨updatedAt, stamped⟩ :=
          stampUpdated_fst (parseConversationPayload payload) client
        rw [if_neg listed]
        simp only [List.map_cons, ih, stamped, ne_eq, empty, not_false_eq_true, decide_true,
          if_true]
        rfl

/-- Each record of a list response is a decoded payload, possibly stamped. -/
theorem mem_storeListedConversations {payloads : List ConversationPayload} {client : Client}
    {conv : Conversation} (member : conv ∈ (client.storeListedConversations payloads).1) :
    ∃ payload ∈ payloads, payload.conversationId ≠ "" ∧
      ∃ updatedAt, conv = { parseConversationPayload payload with updatedAtMs := updatedAt } := by
  induction payloads generalizing client with
  | nil => exact absurd member List.not_mem_nil
  | cons payload rest ih =>
      rw [storeListedConversations] at member
      split at member
      · rcases ih member with ⟨found, foundMem, decoded⟩
        exact ⟨found, List.mem_cons_of_mem payload foundMem, decoded⟩
      · next listed =>
          rcases List.mem_cons.mp member with rfl | later
          · exact ⟨payload, List.mem_cons_self, listed,
              stampUpdated_fst (parseConversationPayload payload) client⟩
          · rcases ih later with ⟨found, foundMem, decoded⟩
            exact ⟨found, List.mem_cons_of_mem payload foundMem, decoded⟩

/-- The record a conversation notification saves: the patched one but for its
times. -/
theorem storeOp_patchConversation (notificationType : String)
    (payload : NotificationConversationPayload) (client : Client) :
    ∃ pinTime updatedAt,
      (Action.patchConversation notificationType payload).storeOp client =
        .save
          { client.patchedConversation payload with
            pinTimeMs := pinTime, updatedAtMs := updatedAt } := by
  obtain ⟨pinTime, pinned⟩ :=
    client.patchPinTime_fst notificationType payload (client.patchedConversation payload)
  obtain ⟨updatedAt, stamped⟩ := stampUpdated_fst
    (client.patchPinTime notificationType payload (client.patchedConversation payload)).1
    (client.patchPinTime notificationType payload (client.patchedConversation payload)).2
  have saved := stamped.trans
    (congrArg (fun conv : Conversation => { conv with updatedAtMs := updatedAt }) pinned)
  exact ⟨pinTime, updatedAt, congrArg StoreOp.save saved⟩

@[simp]
theorem convId_patchedConversation (payload : NotificationConversationPayload) (client : Client) :
    (client.patchedConversation payload).convId = notificationConversationId payload := by
  simp [patchedConversation, applyNotificationPatch]

/-- A payload carries no sequence number. -/
@[simp]
theorem localSeq_fetchedConversation (convId : String) (payload : ConversationPayload) :
    (fetchedConversation convId payload).localSeq = 0 := by
  rw [fetchedConversation]
  split <;> rfl

end Client

/-- The texts of the two records are the same. -/
structure Conversation.SameText (copy conv : Conversation) : Prop where
  convId : copy.convId = conv.convId
  targetId : copy.targetId = conv.targetId
  lastMsgId : copy.lastMsgId = conv.lastMsgId
  lastMsgText : copy.lastMsgText = conv.lastMsgText

namespace Action

/-- The actions that save an edited copy of a cached record. -/
def EditsCached : Action → Prop
  | applyPinned _ _ | setMuted _ _ | setBurnAfterReading _ _ | setAutoDelete _ _
  | applyUnreadCount _ _ => True
  | _ => False

/-- The copy keeps the texts and the sequence number. -/
theorem storeOp_of_editsCached (client : Client) {action : Action} (edits : action.EditsCached) :
    action.storeOp client = .keep ∨
      ∃ convId conv copy, client.convCache.get convId = some conv ∧
        action.storeOp client = .save copy ∧ copy.SameText conv ∧
          copy.localSeq = conv.localSeq := by
  cases action with
  | applyPinned convId | setMuted convId | setBurnAfterReading convId | setAutoDelete convId
  | applyUnreadCount convId =>
      simp only [storeOp, changed]
      cases cached : client.convCache.get convId with
      | none => exact .inl rfl
      | some conv => exact .inr ⟨convId, conv, _, cached, rfl, ⟨rfl, rfl, rfl, rfl⟩, rfl⟩
  | _ => exact edits.elim

/-- Loading fills an empty cache from all rows, or does nothing. -/
theorem storeOp_loadConversations (client : Client) :
    loadConversations.storeOp client = .keep ∨
      ∃ rows, rows.Perm client.table.conversations.rows ∧
        loadConversations.storeOp client = .load rows := by
  simp only [storeOp]
  split
  · exact .inl rfl
  · split
    · exact .inr ⟨_, client.platform.orderByPinned.perm _, rfl⟩
    · exact .inl rfl

/-- Only the removal of a conversation removes a record. -/
theorem eq_removeConversation_of_storeOp {client : Client} {action : Action} {convId : String}
    {referenced : Bool} (removes : action.storeOp client = .remove convId referenced) :
    action = .removeConversation convId := by
  by_cases edits : action.EditsCached
  · rcases storeOp_of_editsCached client edits with kept | ⟨_, _, copy, _, saved, _, _⟩
    · exact StoreOp.noConfusion (kept.symm.trans removes)
    · exact StoreOp.noConfusion (saved.symm.trans removes)
  cases action with
  | removeConversation removedId =>
      rcases StoreOp.remove.inj removes with ⟨rfl, _⟩
      rfl
  | mergeSession =>
      rw [storeOp] at removes
      split at removes <;> exact StoreOp.noConfusion removes
  | loadConversations =>
      rcases storeOp_loadConversations client with kept | ⟨rows, _, loaded⟩
      · exact StoreOp.noConfusion (kept.symm.trans removes)
      · exact StoreOp.noConfusion (loaded.symm.trans removes)
  | applyPinned | setMuted | setBurnAfterReading | setAutoDelete | applyUnreadCount =>
      exact absurd trivial edits
  | applyServerSequence =>
      simp only [storeOp] at removes
      split at removes <;> split at removes <;> exact StoreOp.noConfusion removes
  | _ => exact StoreOp.noConfusion removes

end Action

end AnychatSdk
