import AnychatSdk.LinkedStores

/-!
# Agreement of the conversation cache with the table

The cache agrees with the table when every cached record is what its row reads
back as.  Records are written whole to both sides, with one exception: a sync
merge builds the cached record from the payload alone but keeps the other
columns of the row.  Text with a NUL does not read back either.
-/

namespace AnychatSdk

/-- The row, read back, is the cached record. -/
def ReadsBackAs (conv : Conversation) (row : ConversationRow) : Prop :=
  rowToConversation (row.toRow conv.convId) = conv

instance (conv : Conversation) (row : ConversationRow) : Decidable (ReadsBackAs conv row) :=
  inferInstanceAs (Decidable (_ = _))

/-- Every cached conversation has a row that reads back as it. -/
def CacheAgrees (client : Client) : Prop :=
  ∀ conv ∈ client.convCache.convs, ∃ row,
    client.table.conversations.lookup conv.convId = some row ∧ ReadsBackAs conv row

/-- The columns that a sync merge does not carry read back as their defaults. -/
def ConversationRow.SessionOnly (row : ConversationRow) : Prop :=
  columnText row.lastMsgId = "" ∧ row.burnAfterReading.toInt32 = 0 ∧
    row.autoDeleteDuration.toInt32 = 0 ∧ row.pinTimeMs = 0 ∧ row.localSeq = 0

/-- The inputs on which an action writes the same record to both sides. -/
def Action.WritesAlike (client : Client) : Action → Prop
  | mergeSession payload =>
      payload.conversationId = "" ∨
        NulFree payload.conversationId ∧ NulFree payload.targetId ∧
          NulFree (parseMessageContent payload.lastMessageContent) ∧
            ∀ row, client.table.conversations.lookup payload.conversationId = some row →
              row.SessionOnly
  | replaceConversations payloads =>
      ((payloads.map ConversationPayload.conversationId).filter fun convId => convId ≠ "").Nodup ∧
        ∀ payload ∈ payloads, payload.conversationId ≠ "" →
          (parseConversationPayload payload).TextNulFree
  | fetchConversation convId payload => (Client.fetchedConversation convId payload).TextNulFree
  | patchConversation _ payload => NulFree (notificationConversationId payload)
  | _ => True

/-! ## The relation -/

theorem ReadsBackAs.textNulFree {conv : Conversation} {row : ConversationRow}
    (readsBack : ReadsBackAs conv row) : conv.TextNulFree := by
  rw [ReadsBackAs, rowToConversation_toRow] at readsBack
  rw [← readsBack]
  exact ⟨nulFree_cString _, nulFree_cString _, nulFree_cString _, nulFree_cString _⟩

theorem ReadsBackAs.localSeq {conv : Conversation} {row : ConversationRow}
    (readsBack : ReadsBackAs conv row) : row.localSeq = conv.localSeq := by
  rw [ReadsBackAs, rowToConversation_toRow] at readsBack
  exact congrArg Conversation.localSeq readsBack

theorem stableLink_readsBackAs : StableLink ReadsBackAs where
  clearUnread := by
    intro conv row readsBack
    have cleared : rowToConversation (({ row with unreadCount := 0 }).toRow conv.convId) =
        { rowToConversation (row.toRow conv.convId) with unreadCount := 0 } := by
      rw [rowToConversation_toRow, rowToConversation_toRow]
      rfl
    exact cleared.trans (congrArg (fun c : Conversation => { c with unreadCount := 0 }) readsBack)
  raise := by
    intro conv row seq readsBack smaller
    have raised : rowToConversation (({ row with localSeq := seq }).toRow conv.convId) =
        { rowToConversation (row.toRow conv.convId) with localSeq := seq } := by
      rw [rowToConversation_toRow, rowToConversation_toRow]
    rw [readsBack.localSeq, max_eq_right_of_lt smaller]
    exact raised.trans (congrArg (fun c : Conversation => { c with localSeq := seq }) readsBack)
  keep := by
    intro conv row seq readsBack notSmaller
    rw [readsBack.localSeq, max_eq_left_of_not_lt notSmaller, ← readsBack.localSeq]
    exact readsBack
  load := by
    intro convId row nulFree
    have sameId : (rowToConversation (row.toRow convId)).convId = convId := by
      rw [rowToConversation_toRow]
      exact cString_eq_self nulFree
    rw [ReadsBackAs, sameId]

/-- A record without NULs reads back from the row written for it. -/
theorem readsBackAs_toRow {conv : Conversation} (nulFree : conv.TextNulFree) :
    ReadsBackAs conv conv.toRow :=
  rowToConversation_self nulFree

/-- The session columns of a record, read back over the other columns of a
row. -/
theorem rowToConversation_overwrite {conv : Conversation} (nulFree : conv.TextNulFree)
    (row : ConversationRow) :
    rowToConversation (((Client.sessionColumns conv).overwrite row).toRow conv.convId) =
      { conv with
        lastMsgId := columnText row.lastMsgId
        burnAfterReading := row.burnAfterReading.toInt32
        autoDeleteDuration := row.autoDeleteDuration.toInt32
        pinTimeMs := row.pinTimeMs
        localSeq := row.localSeq } := by
  rcases nulFree with ⟨convId, targetId, _, lastMsgText⟩
  rw [rowToConversation_toRow]
  simp [SessionColumns.overwrite, Client.sessionColumns, cString_eq_self convId,
    cString_eq_self targetId, cString_eq_self lastMsgText,
    cString_eq_self (nulFree_conversationTypeText _), parseConversationType_conversationTypeText]

/-- A merge over a row that has nothing but session columns. -/
theorem readsBackAs_overwrite {payload : ConversationDeltaPayload} {now : Int64}
    (nulFree : (Client.sessionConversation payload now).TextNulFree) {row : ConversationRow}
    (sessionOnly : row.SessionOnly) :
    ReadsBackAs (Client.sessionConversation payload now)
      ((Client.sessionColumns (Client.sessionConversation payload now)).overwrite row) := by
  rcases sessionOnly with ⟨lastMsgId, burnAfterReading, autoDelete, pinTime, localSeq⟩
  rw [ReadsBackAs, rowToConversation_overwrite nulFree, lastMsgId, burnAfterReading, autoDelete,
    pinTime, localSeq]
  rfl

theorem SessionColumns.overwrite_fresh (columns : SessionColumns) :
    columns.overwrite columns.fresh = columns.fresh :=
  rfl

theorem SessionColumns.sessionOnly_fresh (columns : SessionColumns) :
    columns.fresh.SessionOnly := by
  have zero : (0 : Int64).toInt32 = 0 := by decide
  exact ⟨columnText_none, zero, zero, rfl, rfl⟩

theorem readsBackAs_fresh {payload : ConversationDeltaPayload} {now : Int64}
    (nulFree : (Client.sessionConversation payload now).TextNulFree) :
    ReadsBackAs (Client.sessionConversation payload now)
      (Client.sessionColumns (Client.sessionConversation payload now)).fresh := by
  have overwritten := readsBackAs_overwrite nulFree
    (SessionColumns.sessionOnly_fresh
      (Client.sessionColumns (Client.sessionConversation payload now)))
  rwa [SessionColumns.overwrite_fresh] at overwritten

/-! ## Admissibility -/

section Admissible

variable {client : Client} (linked : Linked ReadsBackAs client.stores)

include linked

theorem Linked.cached_textNulFree {convId : String} {conv : Conversation}
    (cached : client.convCache.get convId = some conv) : conv.TextNulFree := by
  rcases linked.linked conv (ConversationCache.get_mem cached) with ⟨_, _, readsBack⟩
  exact readsBack.textNulFree

/-- Changing what is not text keeps a cached record admissible. -/
theorem Linked.admissible_changed {convId : String} {conv changed : Conversation}
    (cached : client.convCache.get convId = some conv)
    (sameText : changed.SameText conv) :
    (StoreOp.save changed).Admissible ReadsBackAs client.stores := by
  have nulFree : changed.TextNulFree := by
    have cachedNulFree := linked.cached_textNulFree cached
    rw [Conversation.TextNulFree] at cachedNulFree ⊢
    rwa [sameText.convId, sameText.targetId, sameText.lastMsgId, sameText.lastMsgText]
  exact ⟨nulFree.1, readsBackAs_toRow nulFree⟩

theorem Action.admissible_of_writesAlike {action : Action} (alike : action.WritesAlike client) :
    (action.storeOp client).Admissible ReadsBackAs client.stores := by
  by_cases edits : action.EditsCached
  · rcases Action.storeOp_of_editsCached client edits with
      kept | ⟨_, _, copy, cached, saved, sameText, _⟩
    · rw [kept]
      trivial
    · rw [saved]
      exact linked.admissible_changed cached sameText
  cases action with
  | mergeSession payload =>
      rw [Action.storeOp]
      split
      · trivial
      · next hasId =>
          obtain ⟨idNulFree, targetNulFree, textNulFree, sessionOnly⟩ :=
            Or.resolve_left alike hasId
          have nulFree : (Client.sessionConversation payload client.nowMs.1).TextNulFree :=
            ⟨idNulFree, targetNulFree, nulFree_empty, textNulFree⟩
          refine ⟨idNulFree, ?_⟩
          cases found : client.stores.rows.lookup payload.conversationId with
          | none =>
              simp only [Client.sessionConversation, found]
              exact readsBackAs_fresh nulFree
          | some row =>
              simp only [Client.sessionConversation, found]
              exact readsBackAs_overwrite nulFree (sessionOnly row found)
  | loadConversations =>
      rcases Action.storeOp_loadConversations client with kept | ⟨rows, perm, loaded⟩
      · rw [kept]
        trivial
      · rw [loaded]
        exact perm
  | replaceConversations payloads =>
      refine ⟨?_, fun conv member => ?_⟩
      · rw [Client.map_convId_storeListedConversations]
        exact alike.1
      · obtain ⟨payload, payloadMem, listed, updatedAt, rfl⟩ :=
          Client.mem_storeListedConversations member
        have nulFree := alike.2 payload payloadMem listed
        exact ⟨nulFree.1, readsBackAs_toRow nulFree⟩
  | fetchConversation convId payload =>
      obtain ⟨updatedAt, stamped⟩ :=
        Client.stampUpdated_fst (Client.fetchedConversation convId payload) client
      rw [Action.storeOp, stamped]
      exact ⟨alike.1, readsBackAs_toRow alike⟩
  | applyPinned | setMuted | setBurnAfterReading | setAutoDelete | applyUnreadCount =>
      exact absurd trivial edits
  | applyServerSequence convId seq =>
      simp only [Action.storeOp]
      cases cached : client.convCache.get convId with
      | none =>
          dsimp only
          split <;> trivial
      | some conv =>
          dsimp only
          split
          · exact linked.admissible_changed cached ⟨rfl, rfl, rfl, rfl⟩
          · trivial
  | patchConversation notificationType payload =>
      obtain ⟨pinTime, updatedAt, op_eq⟩ :=
        Client.storeOp_patchConversation notificationType payload client
      rw [op_eq]
      have idNulFree : NulFree (notificationConversationId payload) := alike
      have sameId := client.convId_patchedConversation payload
      have nulFree : (client.patchedConversation payload).TextNulFree := by
        cases cached : client.convCache.get (notificationConversationId payload) with
        | none =>
            refine ⟨sameId ▸ idNulFree, ?_⟩
            simp only [Client.patchedConversation, cached]
            exact ⟨nulFree_empty, nulFree_empty, nulFree_empty⟩
        | some conv =>
            refine ⟨sameId ▸ idNulFree, ?_⟩
            simp only [Client.patchedConversation, cached]
            exact (linked.cached_textNulFree cached).2
      exact ⟨nulFree.1, readsBackAs_toRow nulFree⟩
  | _ => trivial

end Admissible

/-! ## Runs -/

/-- A sync response with one conversation. -/
def syncOf (session : ConversationDeltaPayload) : Event :=
  .syncResponse
    { statusCode := 200
      body := .parsed { code := 0, data := { conversationData := some [session] } } }

/-- A successful response without data. -/
def acceptedResponse : HttpResponse Unit where
  statusCode := 200
  body := .parsed { code := 0, data := () }

theorem linked_readsBackAs_apply (client : Client) (action : Action)
    (linked : Linked ReadsBackAs client.stores) (alike : action.WritesAlike client) :
    Linked ReadsBackAs (action.apply client).stores := by
  rw [Action.stores_apply]
  exact linked.apply stableLink_readsBackAs (Action.admissible_of_writesAlike linked alike)

/-- In a process started on a database whose conversation ids contain no NUL,
the cache agrees with the table throughout every run whose actions write alike
to both. -/
theorem cacheAgrees_always (platform : Platform) (db : Db) (clockReads : Nat)
    (idsNulFree : ∀ convId ∈ db.conversations, NulFree convId) {events : List Event}
    (alike : EventRun.Guarded Action.apply Action.WritesAlike (.start platform db clockReads)
      (events.flatMap Event.actions)) :
    EventRun.Always Event.apply CacheAgrees (.start platform db clockReads) events := by
  have linked := always_events_of_guarded linked_readsBackAs_apply
    (Linked.start platform db clockReads idsNulFree) alike
  exact linked.mono fun _ held => held.linked

/-- A synced conversation that is muted afterwards. -/
theorem cacheAgrees_always_synced_muted :
    EventRun.Always Event.apply CacheAgrees (.start default {} 0)
      [syncOf { conversationId := "c1", targetId := "u1" },
        .setMutedResponse "c1" true
          { statusCode := 200, body := .parsed { code := 0, data := () } }] := by
  have actions : [syncOf { conversationId := "c1", targetId := "u1" },
      .setMutedResponse "c1" true
        { statusCode := 200, body := .parsed { code := 0, data := () } }].flatMap Event.actions =
      [.mergeSession { conversationId := "c1", targetId := "u1" }, .setSyncTime 0,
        .setMuted "c1" true] := rfl
  refine cacheAgrees_always default {} 0 (fun convId member => absurd member (by simp)) ?_
  rw [actions]
  refine ⟨.inr ⟨by decide, by decide, by decide, fun row found => ?_⟩, trivial, trivial, trivial⟩
  exact absurd found (by simp)

/-- A conversation fetched with its last message, and synced: the row keeps the
id of the message and the cached record loses it. -/
theorem not_cacheAgrees_always_fetched_synced :
    ¬EventRun.Always Event.apply CacheAgrees (.start default {} 0)
      [.getConversationResponse "c1"
        { statusCode := 200
          body := .parsed
            { code := 0, data := { conversationId := "c1", lastMessageId := "m1" } } },
        syncOf { conversationId := "c1" }] := by
  intro always
  have cached : (EventRun.exec Event.apply (.start default {} 0)
      [.getConversationResponse "c1"
        { statusCode := 200
          body := .parsed
            { code := 0, data := { conversationId := "c1", lastMessageId := "m1" } } },
        syncOf { conversationId := "c1" }]).convCache.convs = [{ convId := "c1" }] := by
    decide
  have stored : (EventRun.exec Event.apply (.start default {} 0)
      [.getConversationResponse "c1"
        { statusCode := 200
          body := .parsed
            { code := 0, data := { conversationId := "c1", lastMessageId := "m1" } } },
        syncOf { conversationId := "c1" }]).table.conversations.lookup "c1" =
      some
        { convType := "private", targetId := "", lastMsgId := some "m1", lastMsgText := "",
          lastMsgTimeMs := 0, updatedAtMs := 0 } := by
    decide
  rcases always.last { convId := "c1" } (by rw [cached]; simp) with ⟨row, found, readsBack⟩
  obtain rfl := Option.some.inj (stored.symm.trans found)
  exact absurd readsBack (by decide)

end AnychatSdk
