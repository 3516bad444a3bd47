import AnychatSdk.ConversationLists
import AnychatSdk.LinkedStores

/-!
# Ids in the conversation stores

Which ids an operation brings into the table and into the cache.  An id comes
from a record the server has sent, or from one that is stored already.
-/

namespace AnychatSdk

/-- The ids of the records an operation writes. -/
def StoreOp.written : StoreOp → List String
  | save conv | merge conv => [conv.convId]
  | replace convs => convs.map Conversation.convId
  | _ => []

/-- The ids of the conversation records that an action gets from the server. -/
def Action.sent : Action → List String
  | mergeSession payload => [payload.conversationId]
  | replaceConversations payloads => payloads.map ConversationPayload.conversationId
  | fetchConversation convId payload => [(Client.fetchedConversation convId payload).convId]
  | patchConversation _ payload => [notificationConversationId payload]
  | _ => []

namespace StoreOp

variable {stores : ConversationStores} {op : StoreOp}

theorem mem_rows_apply {convId : String} (member : convId ∈ (op.apply stores).rows) :
    convId ∈ op.written ∨ convId ∈ stores.rows := by
  cases op with
  | save conv =>
      exact (KeyTable.mem_write.mp member).imp_left List.mem_singleton.mpr
  | merge conv =>
      exact (KeyTable.mem_upsert.mp member).imp_left List.mem_singleton.mpr
  | raise raisedId seq => exact .inr (KeyTable.mem_update.mp member)
  | clearUnread clearedId => exact .inr (KeyTable.mem_update.mp member)
  | remove removedId referenced =>
      rw [apply] at member
      cases referenced with
      | true => exact .inr member
      | false => exact .inr (AList.mem_erase.mp member).2
  | replace convs =>
      exact ((mem_writeRows convs stores.rows convId).mp member).imp_left List.mem_map.mpr
  | keep | load | forget => exact .inr member

end StoreOp

theorem ConversationCache.ids_raise_perm (convId : String) (seq : Int64)
    (cache : ConversationCache) : (cache.raise convId seq).ids.Perm cache.ids := by
  rw [raise]
  split
  · exact List.Perm.refl _
  · next conv found =>
      split
      · have present : conv.convId ∈ cache.ids := by
          rw [get_convId found]
          exact mem_ids_of_get found
        apply (ids_upsert_perm { conv with localSeq := seq } cache).trans
        rw [if_pos present]
      · exact List.Perm.refl _

/-- The ids of loaded rows, read back. -/
theorem mem_ids_loaded {rows : List (String × ConversationRow)} {convId : String}
    (member : convId ∈ (ConversationCache.setAll
      (rows.map fun row => rowToConversation (row.2.toRow row.1))).ids) :
    ∃ stored ∈ rows.map Prod.fst, convId = cString stored := by
  have listed := (ConversationCache.ids_setAll_perm _).mem_iff.mp member
  rcases List.mem_map.mp listed with ⟨conv, loaded, rfl⟩
  rcases List.mem_map.mp loaded with ⟨row, rowMem, rfl⟩
  exact ⟨row.1, List.mem_map.mpr ⟨row, rowMem, rfl⟩, convId_rowToConversation row.1 row.2⟩

namespace StoreOp

variable {stores : ConversationStores} {op : StoreOp}

/-- An id that is cached after an operation was written by it, was cached
before, or is that of a loaded row. -/
theorem mem_ids_apply {convId : String} (member : convId ∈ (op.apply stores).cache.ids) :
    convId ∈ op.written ∨ convId ∈ stores.cache.ids ∨
      ∃ rows, op = .load rows ∧ ∃ stored ∈ rows.map Prod.fst, convId = cString stored := by
  have upserted : ∀ conv : Conversation, convId ∈ (stores.cache.upsert conv).ids →
      convId ∈ [conv.convId] ∨ convId ∈ stores.cache.ids := by
    intro conv present
    have listed := (ConversationCache.ids_upsert_perm conv stores.cache).mem_iff.mp present
    split at listed
    · exact .inr listed
    · exact (List.mem_append.mp listed).symm
  cases op with
  | keep => exact .inr (.inl member)
  | save conv => exact (upserted conv member).imp_right .inl
  | merge conv => exact (upserted conv member).imp_right .inl
  | raise raisedId seq =>
      exact .inr (.inl ((ConversationCache.ids_raise_perm raisedId seq stores.cache).mem_iff.mp
        member))
  | clearUnread clearedId =>
      rw [apply, ConversationCache.ids_clearUnread] at member
      exact .inr (.inl member)
  | remove removedId referenced =>
      rw [apply, ConversationCache.ids_remove] at member
      exact .inr (.inl (List.mem_of_mem_filter member))
  | load rows =>
      exact .inr (.inr ⟨rows, rfl, mem_ids_loaded member⟩)
  | replace convs => exact .inl ((ConversationCache.ids_setAll_perm convs).mem_iff.mp member)
  | forget => exact absurd member List.not_mem_nil

/-- A record that is cached is written out as well, unless it is loaded. -/
theorem mem_rows_of_mem_ids
    (cachedStored : ∀ convId ∈ stores.cache.ids, convId ∈ stores.rows) {convId : String}
    (member : convId ∈ (op.apply stores).cache.ids) :
    convId ∈ (op.apply stores).rows ∨
      ∃ rows, op = .load rows ∧ ∃ stored ∈ rows.map Prod.fst, convId = cString stored := by
  have upserted : ∀ conv : Conversation, convId ∈ (stores.cache.upsert conv).ids →
      convId = conv.convId ∨ convId ∈ stores.rows := by
    intro conv present
    rcases List.mem_map.mp present with ⟨record, recordMem, rfl⟩
    rcases ConversationCache.mem_upsert recordMem with rfl | old
    · exact .inl rfl
    · exact .inr (cachedStored record.convId (List.mem_map.mpr ⟨record, old, rfl⟩))
  cases op with
  | keep => exact .inl (cachedStored convId member)
  | save conv => exact .inl (KeyTable.mem_write.mpr (upserted conv member))
  | merge conv => exact .inl (KeyTable.mem_upsert.mpr (upserted conv member))
  | raise raisedId seq =>
      have cached := (ConversationCache.ids_raise_perm raisedId seq stores.cache).mem_iff.mp member
      exact .inl (KeyTable.mem_update.mpr (cachedStored convId cached))
  | clearUnread clearedId =>
      rw [apply, ConversationCache.ids_clearUnread] at member
      exact .inl (KeyTable.mem_update.mpr (cachedStored convId member))
  | remove removedId referenced =>
      rw [apply, ConversationCache.ids_remove] at member
      rcases List.mem_filter.mp member with ⟨cached, other⟩
      have stored := cachedStored convId cached
      cases referenced with
      | true => exact .inl stored
      | false => exact .inl (AList.mem_erase.mpr ⟨of_decide_eq_true other, stored⟩)
  | load rows => exact .inr ⟨rows, rfl, mem_ids_loaded member⟩
  | replace convs =>
      have listed := (ConversationCache.ids_setAll_perm convs).mem_iff.mp member
      exact .inl ((mem_writeRows convs stores.rows convId).mpr (.inl (List.mem_map.mp listed)))
  | forget => exact absurd member List.not_mem_nil

end StoreOp

/-- The records an action writes were sent by the server or are copies of cached
ones. -/
theorem Action.mem_written_storeOp {client : Client} {action : Action} {convId : String}
    (member : convId ∈ (action.storeOp client).written) :
    convId ∈ action.sent ∨ convId ∈ client.convCache.ids := by
  by_cases edits : action.EditsCached
  · rcases storeOp_of_editsCached client edits with
      kept | ⟨_, conv, copy, cached, saved, sameText, _⟩
    · rw [kept] at member
      exact absurd member List.not_mem_nil
    · rw [saved] at member
      rw [List.mem_singleton.mp member, sameText.convId, ConversationCache.get_convId cached]
      exact .inr (ConversationCache.mem_ids_of_get cached)
  cases action with
  | mergeSession payload =>
      rw [storeOp] at member
      split at member
      · exact absurd member List.not_mem_nil
      · exact .inl member
  | replaceConversations payloads =>
      rw [storeOp, StoreOp.written, Client.map_convId_storeListedConversations] at member
      exact .inl (List.mem_of_mem_filter member)
  | fetchConversation convId payload =>
      rcases Client.stampUpdated_fst (Client.fetchedConversation convId payload) client with
        ⟨updatedAt, stamped⟩
      rw [storeOp, stamped] at member
      exact .inl member
  | loadConversations =>
      rcases storeOp_loadConversations client with kept | ⟨rows, _, loaded⟩
      · rw [kept] at member
        exact absurd member List.not_mem_nil
      · rw [loaded] at member
        exact absurd member List.not_mem_nil
  | applyPinned | setMuted | setBurnAfterReading | setAutoDelete | applyUnreadCount =>
      exact absurd trivial edits
  | applyServerSequence convId seq =>
      simp only [storeOp] at member
      cases cached : client.convCache.get convId with
      | none =>
          rw [cached] at member
          dsimp only at member
          split at member <;> exact absurd member List.not_mem_nil
      | some conv =>
          rw [cached] at member
          dsimp only at member
          split at member
          · rw [List.mem_singleton.mp member]
            exact .inr (List.mem_map.mpr ⟨conv, ConversationCache.get_mem cached, rfl⟩)
          · exact absurd member List.not_mem_nil
  | patchConversation notificationType payload =>
      rcases client.storeOp_patchConversation notificationType payload with
        ⟨pinTime, updatedAt, saved⟩
      rw [saved] at member
      rw [List.mem_singleton.mp member]
      exact .inl (List.mem_singleton.mpr (client.convId_patchedConversation payload))
  | _ => exact absurd member List.not_mem_nil

namespace Action

variable {client : Client} {action : Action}

/-- Only an empty cache is loaded, and from all rows of the table. -/
theorem storeOp_load {rows : List (String × ConversationRow)}
    (loads : action.storeOp client = .load rows) :
    client.convCache.getAll = [] ∧ rows.Perm client.table.conversations.rows := by
  by_cases edits : action.EditsCached
  · rcases storeOp_of_editsCached client edits with kept | ⟨_, _, copy, _, saved, _, _⟩
    · exact StoreOp.noConfusion (kept.symm.trans loads)
    · exact StoreOp.noConfusion (saved.symm.trans loads)
  cases action with
  | loadConversations =>
      rw [storeOp] at loads
      split at loads
      · exact StoreOp.noConfusion loads
      · next cold =>
          dsimp only at loads
          split at loads
          · rcases StoreOp.load.inj loads
            exact ⟨not_not.mp cold, client.platform.orderByPinned.perm _⟩
          · exact StoreOp.noConfusion loads
  | mergeSession =>
      rw [storeOp] at loads
      split at loads <;> exact StoreOp.noConfusion loads
  | applyPinned | setMuted | setBurnAfterReading | setAutoDelete | applyUnreadCount =>
      exact absurd trivial edits
  | applyServerSequence =>
      simp only [storeOp] at loads
      split at loads <;> split at loads <;> exact StoreOp.noConfusion loads
  | _ => exact StoreOp.noConfusion loads

/-- Where the ids of the rows come from. -/
theorem mem_rows_apply {convId : String}
    (member : convId ∈ (action.apply client).table.conversations) :
    convId ∈ action.sent ∨ convId ∈ client.convCache.ids ∨
      convId ∈ client.table.conversations := by
  have rows := congrArg ConversationStores.rows (stores_apply client action)
  change (action.apply client).table.conversations = _ at rows
  rw [rows] at member
  rcases StoreOp.mem_rows_apply member with new | old
  · exact (mem_written_storeOp new).imp_right .inl
  · exact .inr (.inr old)

/-- Where the ids in the cache come from. -/
theorem mem_ids_apply {convId : String} (member : convId ∈ (action.apply client).convCache.ids) :
    convId ∈ action.sent ∨ convId ∈ client.convCache.ids ∨
      ∃ stored ∈ client.table.conversations, convId = cString stored := by
  have cache := congrArg ConversationStores.cache (stores_apply client action)
  change (action.apply client).convCache = _ at cache
  rw [cache] at member
  rcases StoreOp.mem_ids_apply member with new | old | ⟨rows, loads, stored, loaded, rfl⟩
  · exact (mem_written_storeOp new).imp_right .inl
  · exact .inr (.inl old)
  · rcases List.mem_map.mp loaded with ⟨row, rowMem, rfl⟩
    have found := KeyTable.lookup_eq_some_iff_mem_rows.mpr
      ((storeOp_load loads).2.mem_iff.mp rowMem)
    exact .inr (.inr ⟨row.1, KeyTable.mem_iff_exists_lookup.mpr ⟨row.2, found⟩, rfl⟩)

end Action

end AnychatSdk
