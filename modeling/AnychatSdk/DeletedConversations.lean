import AnychatSdk.DurableSettings
import AnychatSdk.StoreIds
import AnychatSdk.StoredMessages

/-!
# Deleted conversations

A deletion empties the cache entry whatever happens to the row.  The row stays
when messages refer to it, because the foreign key refuses the statement, and
the next process lists the conversation again.
-/

namespace AnychatSdk

/-- The id is that of the conversation, or is read back as it. -/
def NamesConversation (convId id : String) : Prop :=
  id = convId ∨ cString id = convId

/-- The conversation is neither cached nor stored nor listed. -/
structure Gone (convId : String) (client : Client) : Prop where
  notCached : convId ∉ client.convCache.ids
  notStored : convId ∉ client.table.conversations
  notListed : ∀ conv ∈ client.localList, conv.convId ≠ convId

/-- No record of the conversation comes with the event. -/
def NotSentAgain (convId : String) (event : Event) : Prop :=
  ∀ action ∈ event.actions, ∀ id ∈ action.sent, ¬NamesConversation convId id

/-- The conversation is gone until the server sends it again. -/
def StaysGone (convId : String) (client : Client) : Prop :=
  ∀ later : List Event, (∀ event ∈ later, NotSentAgain convId event) →
    Gone convId (EventRun.exec Event.apply client later)

/-- A successful `deleteConversation`, or a notification of a deletion. -/
def Event.Deletes (convId : String) : Event → Prop
  | deleteConversationResponse deletedId response =>
      deletedId = convId ∧
        parseApiEnvelopeResponse response "delete conversation failed" true false = .ok ()
  | notification event =>
      event.notificationType = "conversation.deleted" ∧
        ∃ payload, event.conversation = some payload ∧ convId ≠ "" ∧
          notificationConversationId payload = convId
  | _ => False

/-- A deletion removes the conversation and does nothing else. -/
theorem Event.Deletes.actions_eq {convId : String} {event : Event}
    (deletes : event.Deletes convId) : event.actions = [.removeConversation convId] := by
  cases event with
  | deleteConversationResponse deletedId response =>
      rcases deletes with ⟨rfl, succeeded⟩
      rw [Event.actions, succeeded]
      rfl
  | notification event =>
      rcases deletes with ⟨deleted, payload, carried, hasId, rfl⟩
      have noMessage : event.messageActions = [] := by
        simp [NotificationEvent.messageActions, deleted]
      have removes : event.conversationActions =
          [.removeConversation (notificationConversationId payload)] := by
        simp [NotificationEvent.conversationActions, isConversationNotification, deleted, carried,
          hasId]
      rw [Event.actions, noMessage, removes]
      rfl
  | _ => exact deletes.elim

/-! ## Clients that do not name the conversation -/

/-- No id in the stores names the conversation. -/
structure Unnamed (convId : String) (client : Client) : Prop where
  rows : ∀ id ∈ client.table.conversations, ¬NamesConversation convId id
  cache : ∀ id ∈ client.convCache.ids, ¬NamesConversation convId id

namespace Unnamed

variable {convId : String} {client : Client}

theorem apply (unnamed : Unnamed convId client) {action : Action}
    (notSent : ∀ id ∈ action.sent, ¬NamesConversation convId id) :
    Unnamed convId (action.apply client) := by
  constructor
  · intro id member
    rcases Action.mem_rows_apply member with sent | cached | stored
    · exact notSent id sent
    · exact unnamed.cache id cached
    · exact unnamed.rows id stored
  · intro id member
    rcases Action.mem_ids_apply member with sent | cached | ⟨storedId, stored, rfl⟩
    · exact notSent id sent
    · exact unnamed.cache id cached
    · rintro (same | same)
      · exact unnamed.rows storedId stored (.inr same)
      · rw [cString_eq_self (nulFree_cString storedId)] at same
        exact unnamed.rows storedId stored (.inr same)

theorem exec (unnamed : Unnamed convId client) {later : List Event}
    (notSent : ∀ event ∈ later, NotSentAgain convId event) :
    Unnamed convId (EventRun.exec Event.apply client later) := by
  have kept : ∀ (client : Client) (action : Action), Unnamed convId client →
      (∀ id ∈ action.sent, ¬NamesConversation convId id) → Unnamed convId (action.apply client) :=
    fun _ _ unnamed notSent => unnamed.apply notSent
  rw [exec_events_eq_exec_actions]
  apply EventRun.exec_invariant_of_guarded kept unnamed
  apply EventRun.Guarded.of_forall
  intro action member
  rcases List.mem_flatMap.mp member with ⟨event, eventMem, actionMem⟩
  exact notSent event eventMem action actionMem

theorem gone (unnamed : Unnamed convId client) : Gone convId client := by
  constructor
  · exact fun cached => unnamed.cache convId cached (.inl rfl)
  · exact fun stored => unnamed.rows convId stored (.inl rfl)
  · intro conv listed same
    by_cases cold : client.convCache.getAll = []
    · rw [(Client.localList_perm_readRows cold).mem_iff] at listed
      rcases mem_readRows.mp listed with ⟨storedId, row, stored, rfl⟩
      rw [convId_rowToConversation] at same
      exact unnamed.rows storedId (KeyTable.mem_iff_exists_lookup.mpr ⟨row, stored⟩) (.inr same)
    · rw [Client.localList_of_cached cold] at listed
      exact unnamed.cache conv.convId (List.mem_map.mpr ⟨conv, listed, rfl⟩) (.inl same)

end Unnamed

/-! ## The deletion -/

namespace Client

variable {convId : String} {client : Client}

theorem ids_removeConversation (convId : String) (client : Client) :
    (client.removeConversation convId).convCache.ids =
      client.convCache.ids.filter fun id => id ≠ convId :=
  client.convCache.ids_remove convId

/-- The rows after a deletion: those of other conversations, and the row that
messages protect. -/
theorem mem_conversations_removeConversation {id : String} :
    id ∈ (client.removeConversation convId).table.conversations ↔
      id ∈ client.table.conversations ∧
        (id = convId → client.table.hasMessageOf convId = true) := by
  rw [removeConversation, table_exec, table_mapConvCache, Stmt.run]
  cases client.table.hasMessageOf convId with
  | true => simp
  | false => simp [and_comm]

/-- A cached conversation is listed after it was muted and the process was
restarted. -/
theorem mem_localList_muted_restarted {id : String} (cached : id ∈ client.convCache.ids) :
    ∃ conv ∈ (EventRun.exec Event.apply client
        [.setMutedResponse id true acceptedResponse, .restart]).localList,
      conv.convId = cString id := by
  have muted : (Event.setMutedResponse id true acceptedResponse).apply client =
      (Action.setMuted id true).apply client := rfl
  rcases List.mem_map.mp cached with ⟨conv, member, same⟩
  cases found : client.convCache.get id with
  | none => exact absurd same (ConversationCache.get_eq_none_iff.mp found conv member)
  | some first =>
      rcases (Setting.muted true).storeOp_of_cached found with ⟨changed, saved, rfl, _⟩
      have rows : ((Action.setMuted changed.convId true).apply client).table.conversations =
          client.table.conversations.write changed.convId changed.toRow := by
        have stores := Action.stores_apply client (.setMuted changed.convId true)
        rw [show (Action.setMuted changed.convId true).storeOp client = .save changed from saved]
          at stores
        exact congrArg ConversationStores.rows stores
      have stored : ((Action.setMuted changed.convId true).apply client).table.conversations.lookup
          changed.convId = some changed.toRow := by
        rw [rows, KeyTable.lookup_write, if_pos rfl]
      refine ⟨_, mem_localList_restart.mpr ⟨changed.convId, changed.toRow, stored, rfl⟩, ?_⟩
      exact convId_rowToConversation changed.convId changed.toRow

end Client

/-- Muting a conversation and restarting the process send no record. -/
theorem notSentAgain_muted_restarted (convId id : String) :
    ∀ event ∈ [Event.setMutedResponse id true acceptedResponse, .restart],
      NotSentAgain convId event := by
  intro event member action actionMem
  rcases List.mem_pair.mp member with rfl | rfl
  · obtain rfl := List.mem_singleton.mp actionMem
    exact fun _ sent => absurd sent List.not_mem_nil
  · obtain rfl := List.mem_singleton.mp actionMem
    exact fun _ sent => absurd sent List.not_mem_nil

section Removed

variable {convId : String} {client : Client}

/-- The row of a conversation that stays gone was not protected by messages. -/
theorem StaysGone.unreferenced (stays : StaysGone convId (client.removeConversation convId))
    (stored : convId ∈ client.table.conversations) :
    client.table.hasMessageOf convId = false := by
  have notStored := (stays [] (fun _ absent => absurd absent List.not_mem_nil)).notStored
  rw [EventRun.exec_nil, Client.mem_conversations_removeConversation] at notStored
  by_contra referenced
  exact notStored ⟨stored, fun _ => Bool.not_eq_false _ ▸ referenced⟩

/-- No other known id is read back as that of a conversation that stays gone: the
next process would list a stored one, and a cached one can be saved before. -/
theorem StaysGone.noAlias (stays : StaysGone convId (client.removeConversation convId))
    {id : String} (known : id ∈ client.table.conversations ∨ id ∈ client.convCache.ids)
    (other : id ≠ convId) : cString id ≠ convId := by
  intro same
  rcases known with stored | cached
  · have kept : id ∈ (client.removeConversation convId).table.conversations :=
      Client.mem_conversations_removeConversation.mpr ⟨stored, fun same => absurd same other⟩
    rcases KeyTable.mem_iff_exists_lookup.mp kept with ⟨row, found⟩
    have gone := stays [.restart] fun event member =>
      notSentAgain_muted_restarted convId id event (List.mem_cons_of_mem _ member)
    refine gone.notListed _ (Client.mem_localList_restart.mpr ⟨id, row, found, rfl⟩) ?_
    rw [convId_rowToConversation, same]
  · have kept : id ∈ (client.removeConversation convId).convCache.ids := by
      rw [Client.ids_removeConversation]
      exact List.mem_filter.mpr ⟨cached, decide_eq_true other⟩
    rcases Client.mem_localList_muted_restarted kept with ⟨conv, listed, sameId⟩
    exact (stays _ (notSentAgain_muted_restarted convId id)).notListed conv listed
      (sameId.trans same)

/-- The deletion of an unprotected row without aliases leaves no name behind. -/
theorem Unnamed.removeConversation
    (unreferenced : convId ∈ client.table.conversations →
      client.table.hasMessageOf convId = false)
    (noAlias : ∀ id, id ∈ client.table.conversations ∨ id ∈ client.convCache.ids →
      id ≠ convId → cString id ≠ convId) :
    Unnamed convId (client.removeConversation convId) := by
  constructor
  · intro id member
    rcases Client.mem_conversations_removeConversation.mp member with ⟨stored, referenced⟩
    have other : id ≠ convId := by
      rintro rfl
      exact Bool.false_ne_true ((unreferenced stored).symm.trans (referenced rfl))
    rintro (same | same)
    · exact other same
    · exact noAlias id (.inl stored) other same
  · intro id member
    rw [Client.ids_removeConversation, List.mem_filter] at member
    have other : id ≠ convId := of_decide_eq_true member.2
    rintro (same | same)
    · exact other same
    · exact noAlias id (.inr member.1) other same

end Removed

/-- After a deletion the conversation stays gone exactly when no message refers
to it, or it had no row, and no other id in the stores is read back as its id. -/
theorem staysGone_iff (client : Client) (convId : String) (event : Event)
    (deletes : event.Deletes convId) :
    StaysGone convId (event.apply client) ↔
      (convId ∈ client.table.conversations → client.table.hasMessageOf convId = false) ∧
        ∀ id, id ∈ client.table.conversations ∨ id ∈ client.convCache.ids → id ≠ convId →
          cString id ≠ convId := by
  have removed : event.apply client = client.removeConversation convId := by
    rw [Event.apply_eq_exec_actions, deletes.actions_eq]
    rfl
  rw [removed]
  constructor
  · intro stays
    exact ⟨stays.unreferenced, fun _ known other => stays.noAlias known other⟩
  · rintro ⟨unreferenced, noAlias⟩ later notSent
    exact ((Unnamed.removeConversation unreferenced noAlias).exec notSent).gone

/-- The deletion of a synced conversation without messages. -/
theorem staysGone_synced :
    StaysGone "c1" ((Event.deleteConversationResponse "c1" acceptedResponse).apply
      (EventRun.exec Event.apply (.start default {} 0) [syncOf { conversationId := "c1" }])) := by
  refine (staysGone_iff _ "c1" (.deleteConversationResponse "c1" acceptedResponse)
    ⟨rfl, rfl⟩).mpr ⟨fun _ => by decide, fun id known other => absurd ?_ other⟩
  have stored : (EventRun.exec Event.apply (.start default {} 0)
      [syncOf { conversationId := "c1" }]).table.conversations.keys = ["c1"] := by decide
  have cached : (EventRun.exec Event.apply (.start default {} 0)
      [syncOf { conversationId := "c1" }]).convCache.ids = ["c1"] := by decide
  rcases known with row | record
  · rw [AList.mem_keys, stored] at row
    exact List.mem_singleton.mp row
  · rw [cached] at record
    exact List.mem_singleton.mp record

/-- The deletion of a conversation that was synced with messages. -/
theorem not_staysGone_with_messages :
    ¬StaysGone "c1" ((Event.deleteConversationResponse "c1" acceptedResponse).apply
      (EventRun.exec Event.apply (.start default {} 0) [twoMessageSync])) := by
  intro stays
  have gone := stays [] fun _ absent => absurd absent List.not_mem_nil
  exact absurd gone.notStored (by decide)

end AnychatSdk
