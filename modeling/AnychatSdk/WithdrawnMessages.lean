import AnychatSdk.CacheAgreement

/-!
# Recalled and deleted messages

A recall or a delete gives a message a status other than 0.  What is delivered
for the message afterwards can take it back: a second copy of the message is
written over the row and into the cache with the status 0, and so is an edit
that does not find the message in the cache.
-/

namespace AnychatSdk

/-! ## Messages with status 0 -/

/-- The row of the message has the status 0. -/
def Db.MessageNormal (messageId : String) (db : Db) : Prop :=
  ∃ row, db.messages.lookup messageId = some row ∧ row.status = 0

/-- A cached copy of the message has the status 0. -/
def MessageCache.MessageNormal (messageId : String) (cache : MessageCache) : Prop :=
  ∃ message, cache.Holds message ∧ message.messageId = messageId ∧ message.status = 0

theorem toInt64_eq_zero_iff {status : Int32} : status.toInt64 = 0 ↔ status = 0 := by
  rw [← Int64.toInt_inj, Int32.toInt_toInt64, ← Int32.toInt_inj]
  rfl

namespace MessageCache

/-- An insertion brings in a copy with the status 0 exactly when the message has
that status, its bucket lacks the id, and it is not dropped at once. -/
theorem messageNormal_insert_iff {cache : MessageCache} {message : Message}
    (notBefore : ¬cache.MessageNormal message.messageId) :
    (cache.insert message).MessageNormal message.messageId ↔
      message.status = 0 ∧
        (∀ old ∈ cache.get message.convId, old.messageId ≠ message.messageId) ∧
          message ∈ cache.pushSorted (cache.get message.convId) message := by
  constructor
  · rintro ⟨other, holds, sameId, normal⟩
    rcases holds_insert holds with ⟨rfl, takes⟩ | before
    · exact ⟨normal, takes⟩
    · exact absurd ⟨other, before, sameId, normal⟩ notBefore
  · rintro ⟨normal, takes⟩
    exact ⟨message, holds_of_takes takes, rfl, normal⟩

/-- An update that takes no status to 0 leaves no copy with the status 0. -/
theorem not_messageNormal_updateMessageById {cache : MessageCache} {messageId : String}
    {change : Message → Message} (notBefore : ¬cache.MessageNormal messageId)
    (keeps : ∀ message, message.status ≠ 0 → (change message).status ≠ 0) :
    ¬(cache.updateMessageById messageId change).2.MessageNormal messageId := by
  rintro ⟨message, holds, matched, normal⟩
  rcases holds_updateMessageById holds with ⟨old, oldHolds, oldMatched, rfl⟩ | unchanged
  · exact keeps old (fun oldNormal => notBefore ⟨old, oldHolds, oldMatched, oldNormal⟩) normal
  · exact notBefore ⟨message, unchanged, matched, normal⟩

end MessageCache

/-- An update of the status leaves the row with the status 0 exactly when it
writes 0 to a row. -/
theorem Db.messageNormal_statusStmt_iff {db : Db} {messageId : String} (notEmpty : messageId ≠ "")
    (status : Int32) (content : Option String) :
    (db.runOption (Action.messageStmt.statusStmt messageId status content)).MessageNormal
        messageId ↔
      messageId ∈ db.messages ∧ status = 0 := by
  rw [MessageNormal, lookup_statusStmt notEmpty, if_pos rfl, KeyTable.mem_iff_exists_lookup]
  constructor
  · rintro ⟨row, found, normal⟩
    rcases Option.map_eq_some_iff.mp found with ⟨old, oldFound, rfl⟩
    exact ⟨⟨old, oldFound⟩, toInt64_eq_zero_iff.mp normal⟩
  · rintro ⟨⟨old, oldFound⟩, zero⟩
    exact ⟨_, Option.map_eq_some_iff.mpr ⟨old, oldFound, rfl⟩, toInt64_eq_zero_iff.mpr zero⟩

/-- An insertion over an old row leaves it with the status 0 exactly when it is
taken and brings that status. -/
theorem Db.messageNormal_upsert_iff {db : Db} {message : Message}
    (notBefore : ¬db.MessageNormal message.messageId) :
    ((Stmt.upsertMessage message.messageId message.toRow).run db).MessageNormal
        message.messageId ↔
      db.acceptsMessage message.messageId message.toRow = true ∧ message.status = 0 := by
  rw [Stmt.run]
  split
  · next accepted =>
      rw [Db.MessageNormal]
      have found := (KeyTable.lookup_write message.messageId message.messageId message.toRow
        db.messages).trans (if_pos rfl)
      constructor
      · rintro ⟨row, rowFound, normal⟩
        obtain rfl := Option.some.inj (found.symm.trans rowFound)
        exact ⟨accepted, toInt64_eq_zero_iff.mp normal⟩
      · rintro ⟨_, zero⟩
        exact ⟨message.toRow, found, toInt64_eq_zero_iff.mpr zero⟩
  · next refused => exact iff_of_false notBefore fun taken => refused taken.1

/-! ## Withdrawals and redeliveries -/

namespace Action

/-- The message is recalled or deleted. -/
def Withdraws (messageId : String) : Action → Prop
  | applyMessageStatus updatedId status => updatedId = messageId ∧ (status = 1 ∨ status = 2)
  | recallNotified message | deleteNotified message => message.messageId = messageId
  | _ => False

/-- The message is delivered again or edited. -/
def Redelivers (messageId : String) : Action → Prop
  | receiveMessage message | editNotified message => message.messageId = messageId
  | applyEdit editedId _ => editedId = messageId
  | _ => False

/-- The action makes the status of the message return to 0, in the table or in
the cache. -/
def Restores (messageId : String) (client : Client) (action : Action) : Prop :=
  (¬client.table.MessageNormal messageId ∧ (action.apply client).table.MessageNormal messageId) ∨
    ¬client.msgCache.MessageNormal messageId ∧
      (action.apply client).msgCache.MessageNormal messageId

/-- The inputs on which a redelivery writes the status 0 to the row: a message
the database takes, an edit that finds no copy with another status, and an edit
response that names no other status. -/
def WritesNormal (messageId : String) (client : Client) : Action → Prop
  | receiveMessage message =>
      message.status = 0 ∧ message.convId ≠ "" ∧
        client.table.acceptsMessage messageId message.toRow = true
  | editNotified message =>
      message.status = 0 ∧ messageId ∈ client.table.messages ∧
        ∀ convId cached, client.msgCache.find? messageId = some (convId, cached) →
          cached.status = 0
  | applyEdit _ edited => edited.status = 0 ∧ messageId ∈ client.table.messages
  | _ => False

/-- The inputs on which a redelivery puts a copy with the status 0 into the
cache: the cache does not hold the message any more, and has room for it. -/
def CachesNormal (messageId : String) (client : Client) : Action → Prop
  | receiveMessage message =>
      message.status = 0 ∧
        (∀ old ∈ client.msgCache.get message.convId, old.messageId ≠ messageId) ∧
          message ∈ client.msgCache.pushSorted (client.msgCache.get message.convId) message
  | editNotified message =>
      message.status = 0 ∧ message.convId ≠ "" ∧ client.msgCache.find? messageId = none ∧
        message ∈ client.msgCache.pushSorted (client.msgCache.get message.convId) message
  | _ => False

end Action

/-! ## One redelivery -/

section OneAction

variable {client : Client} {action : Action} {messageId : String}

theorem Client.msgCache_updateMessageDbStatusAndContent (status : Int32)
    (content : Option String) :
    (client.updateMessageDbStatusAndContent messageId status content).msgCache =
      client.msgCache := by
  by_cases empty : messageId = ""
  · simp [updateMessageDbStatusAndContent, empty]
  · cases content <;> simp [updateMessageDbStatusAndContent, empty]

theorem Client.mergeNotified_of_found {message cached : Message} {change : Message → Message}
    {convId : String} (found : client.msgCache.find? message.messageId = some (convId, cached)) :
    (client.mergeNotified change message).1 = change cached ∧
      (client.mergeNotified change message).2.msgCache =
        (client.msgCache.updateMessageById message.messageId change).2 := by
  simp [mergeNotified, updateCachedMessage, MessageCache.updateMessageById, found]

theorem Client.mergeNotified_of_missing {message : Message} {change : Message → Message}
    (missing : client.msgCache.find? message.messageId = none) :
    (client.mergeNotified change message).1 = message ∧
      (client.mergeNotified change message).2.msgCache =
        if message.convId ≠ "" then client.msgCache.insert message else client.msgCache := by
  simp only [mergeNotified, updateCachedMessage, MessageCache.updateMessageById, missing]
  split <;> simp_all

theorem Action.messageNormal_table_iff (notEmpty : messageId ≠ "")
    (redelivers : action.Redelivers messageId)
    (notBefore : ¬client.table.MessageNormal messageId) :
    (action.apply client).table.MessageNormal messageId ↔
      action.WritesNormal messageId client := by
  have sameMessages : (action.apply client).table.MessageNormal messageId ↔
      (client.table.runOption (action.messageStmt client)).MessageNormal messageId := by
    rw [Db.MessageNormal, action.messages_apply client]
    rfl
  rw [sameMessages]
  cases action with
  | receiveMessage message =>
      obtain rfl : message.messageId = messageId := redelivers
      by_cases unnamed : message.convId = ""
      · refine iff_of_false ?_ fun writes => writes.2.1 unnamed
        simpa [Action.messageStmt, unnamed, Db.runOption] using notBefore
      · simp only [Action.messageStmt, notEmpty, unnamed, or_self, if_false]
        apply (Db.messageNormal_upsert_iff notBefore).trans
        simp [Action.WritesNormal, unnamed, and_comm]
  | editNotified message =>
      obtain rfl : message.messageId = messageId := redelivers
      cases found : client.msgCache.find? message.messageId with
      | none =>
          simp only [Action.messageStmt, (Client.mergeNotified_of_missing found).1]
          apply (Db.messageNormal_statusStmt_iff notEmpty _ _).trans
          simp [Action.WritesNormal, found, and_comm]
      | some entry =>
          rcases entry with ⟨convId, cached⟩
          have sameId : (Client.editCached message cached).messageId = message.messageId :=
            (MessageCache.find?_spec found).2
          simp only [Action.messageStmt, (Client.mergeNotified_of_found found).1, sameId]
          apply (Db.messageNormal_statusStmt_iff notEmpty _ _).trans
          by_cases given : message.status = 0
          · simp [Action.WritesNormal, Client.editCached, found, given]
          · simp [Action.WritesNormal, Client.editCached, given]
  | applyEdit editedId edited =>
      obtain rfl : editedId = messageId := redelivers
      exact (Db.messageNormal_statusStmt_iff notEmpty edited.status (some edited.content)).trans
        and_comm
  | _ => exact absurd redelivers id

theorem Action.messageNormal_cache_iff (redelivers : action.Redelivers messageId)
    (notBefore : ¬client.msgCache.MessageNormal messageId) :
    (action.apply client).msgCache.MessageNormal messageId ↔
      action.CachesNormal messageId client := by
  cases action with
  | receiveMessage message =>
      obtain rfl : message.messageId = messageId := redelivers
      have inserted : ((Action.receiveMessage message).apply client).msgCache =
          client.msgCache.insert message := by
        simp only [Action.apply, Client.receiveMessage, Client.upsertMessageDb]
        split <;> rfl
      rw [inserted]
      exact MessageCache.messageNormal_insert_iff notBefore
  | editNotified message =>
      obtain rfl : message.messageId = messageId := redelivers
      have merged : ((Action.editNotified message).apply client).msgCache =
          (client.mergeNotified (Client.editCached message) message).2.msgCache := by
        simp only [Action.apply, Client.editNotified,
          Client.msgCache_updateMessageDbStatusAndContent]
      rw [merged]
      cases found : client.msgCache.find? message.messageId with
      | none =>
          rw [(Client.mergeNotified_of_missing found).2]
          by_cases unnamed : message.convId = ""
          · simp only [unnamed, ne_eq, not_true_eq_false, if_false]
            exact iff_of_false notBefore fun caches => caches.2.1 unnamed
          · rw [if_pos unnamed]
            apply (MessageCache.messageNormal_insert_iff notBefore).trans
            have absent : ∀ old ∈ client.msgCache.get message.convId,
                old.messageId ≠ message.messageId := fun old member =>
              MessageCache.find?_eq_none_iff.mp found old (MessageCache.holds_of_mem_get member)
            simpa [Action.CachesNormal, found, unnamed] using fun _ _ => absent
      | some entry =>
          rw [(Client.mergeNotified_of_found found).2]
          refine iff_of_false (MessageCache.not_messageNormal_updateMessageById notBefore
            fun cached kept => ?_) fun caches => ?_
          · simp only [Client.editCached]
            split <;> assumption
          · exact absurd (found.symm.trans caches.2.2.1) (Option.some_ne_none entry)
  | applyEdit editedId edited =>
      obtain rfl : editedId = messageId := redelivers
      refine iff_of_false ?_ id
      simp only [Action.apply, Client.applyEdit, Client.msgCache_updateMessageDbStatusAndContent]
      refine MessageCache.not_messageNormal_updateMessageById notBefore fun cached kept => ?_
      dsimp only
      split <;> assumption
  | _ => exact absurd redelivers id

end OneAction

/-! ## Runs -/

/-- The message has been recalled or deleted in the course of the actions. -/
def WithdrawnIn (actions : List Action) (messageId : String) : Prop :=
  messageId ≠ "" ∧ ∃ action ∈ actions, action.Withdraws messageId

/-- No redelivery in the run restores a message that was withdrawn before. -/
def StaysWithdrawn (client : Client) (events : List Event) : Prop :=
  ∀ before action after, events.flatMap Event.actions = before ++ action :: after →
    ∀ messageId, WithdrawnIn before messageId → action.Redelivers messageId →
      ¬action.Restores messageId (EventRun.exec Action.apply client before)

/-- Recalls and deletes are absorbing exactly when every redelivery of a
withdrawn message meets a state in which it neither writes nor caches the status
0 where there was another. -/
theorem staysWithdrawn_iff (client : Client) (events : List Event) :
    StaysWithdrawn client events ↔
      ∀ before action after, events.flatMap Event.actions = before ++ action :: after →
        ∀ messageId, WithdrawnIn before messageId → action.Redelivers messageId →
          let reached := EventRun.exec Action.apply client before
          (reached.table.MessageNormal messageId ∨ ¬action.WritesNormal messageId reached) ∧
            (reached.msgCache.MessageNormal messageId ∨
              ¬action.CachesNormal messageId reached) := by
  refine forall₄_congr fun before action after _ => forall₃_congr
    fun messageId withdrawn redelivers => ?_
  generalize EventRun.exec Action.apply client before = reached
  have row : (¬reached.table.MessageNormal messageId ∧
      (action.apply reached).table.MessageNormal messageId) ↔
      ¬reached.table.MessageNormal messageId ∧ action.WritesNormal messageId reached :=
    and_congr_right (Action.messageNormal_table_iff withdrawn.1 redelivers)
  have copy : (¬reached.msgCache.MessageNormal messageId ∧
      (action.apply reached).msgCache.MessageNormal messageId) ↔
      ¬reached.msgCache.MessageNormal messageId ∧ action.CachesNormal messageId reached :=
    and_congr_right (Action.messageNormal_cache_iff redelivers)
  rw [Action.Restores, row, copy, not_or, not_and_or, not_and_or, not_not, not_not]

/-- A `message.new` notification of a message of a conversation. -/
def newMessage (convId messageId : String) : Event :=
  .notification
    { notificationType := "message.new"
      message := some { messageId := messageId, conversationId := convId } }

/-- A message arrives, is recalled, and arrives again. -/
theorem not_staysWithdrawn_redelivered :
    ¬StaysWithdrawn (.start default {} 0)
      [syncOf { conversationId := "c1" }, newMessage "c1" "m1",
        .recallMessageResponse "m1"
          { statusCode := 200, body := .parsed { code := 0, data := () } },
        newMessage "c1" "m1"] := by
  intro stays
  let message : Message := { messageId := "m1", convId := "c1", contentType := 1 }
  refine stays
    [.mergeSession { conversationId := "c1" }, .setSyncTime 0, .receiveMessage message,
      .applyMessageStatus "m1" 1]
    (.receiveMessage message) [] rfl "m1"
    ⟨by decide, _, List.mem_of_getElem? (i := 3) rfl, rfl, .inl rfl⟩ rfl (.inl ⟨?_, ?_⟩)
  · rintro ⟨row, found, normal⟩
    have recalled : (EventRun.exec Action.apply (.start default {} 0)
        [.mergeSession { conversationId := "c1" }, .setSyncTime 0, .receiveMessage message,
          .applyMessageStatus "m1" 1]).table.messages.lookup "m1" =
        some { message with status := 1 }.toRow := by decide
    obtain rfl := Option.some.inj (recalled.symm.trans found)
    exact absurd normal (by decide)
  · exact ⟨message.toRow, by decide, rfl⟩

end AnychatSdk
