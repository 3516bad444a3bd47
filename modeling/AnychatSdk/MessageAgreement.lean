import AnychatSdk.CacheAgreement
import AnychatSdk.CheckedActions
import AnychatSdk.WithdrawnMessages

/-!
# Agreement of the message cache with the table

A message that comes again is skipped by the cache and written over the row, and
read acknowledgements go to the cache alone.  The two sides agree as long as
what is delivered twice is the same.
-/

namespace AnychatSdk

/-- The cached message and the row have the same status, content and read flag. -/
structure Message.AgreesWith (message : Message) (row : MessageRow) : Prop where
  status : row.status = message.status.toInt64
  content : row.content = message.content
  isRead : row.isRead = if message.isRead then 1 else 0

/-- Every cached message agrees with its row, if it has one. -/
def MessagesAgree (client : Client) : Prop :=
  ∀ message, client.msgCache.Holds message → ∀ row,
    client.table.messages.lookup message.messageId = some row → message.AgreesWith row

theorem Message.agreesWith_toRow (message : Message) : message.AgreesWith message.toRow :=
  ⟨rfl, rfl, rfl⟩

/-! ## Deliveries and updates that change both sides alike -/

/-- A delivered message that is written agrees with the cached copies, and one
that is only cached agrees with the row. -/
def Message.DeliveredAlike (message : Message) (written : Prop) (client : Client) : Prop :=
  (written → ∀ copy, client.msgCache.Holds copy → copy.messageId = message.messageId →
      copy.AgreesWith message.toRow) ∧
    (¬written → client.msgCache.Takes message → ∀ row,
      client.table.messages.lookup message.messageId = some row → message.AgreesWith row)

/-- A notified change of a stored message: the copies it does not reach are as it
leaves the first one, and if no copy is cached, the message that is inserted has
the content of the row, which is unread. -/
def Message.NotifiedAlike (message : Message) (change : Message → Message)
    (content : Message → Option String) (client : Client) : Prop :=
  ∀ row, client.table.messages.lookup message.messageId = some row →
    (∀ convId cached, client.msgCache.find? message.messageId = some (convId, cached) →
      ∀ copy, client.msgCache.OtherCopy message.messageId copy →
        copy.status = (change cached).status ∧ copy.content = (change cached).content) ∧
      (client.msgCache.find? message.messageId = none → message.convId ≠ "" →
        client.msgCache.Takes message →
          (content message).getD row.content = message.content ∧ row.isRead = 0)

namespace Action

/-- The inputs on which an action changes cached copies and row alike. -/
def UpdatesAlike (client : Client) : Action → Prop
  | storeSyncedMessage message =>
      message.DeliveredAlike
        (message.messageId ∉ client.table.messages ∧
          client.table.acceptsMessage message.messageId message.toRow = true) client
  | storeListedMessage message | receiveMessage message =>
      message.DeliveredAlike
        (message.messageId ≠ "" ∧ message.convId ≠ "" ∧
          client.table.acceptsMessage message.messageId message.toRow = true) client
  | markMessageRead messageId =>
      messageId ≠ "" → ∀ convId cached,
        client.msgCache.find? messageId = some (convId, cached) →
          ∀ row, client.table.messages.lookup messageId = some row → row.isRead = 1
  | applyMessageStatus messageId status =>
      messageId ∈ client.table.messages → ∀ copy, client.msgCache.OtherCopy messageId copy →
        copy.status = status
  | applyEdit messageId edited =>
      messageId ∈ client.table.messages →
        (∀ convId cached, client.msgCache.find? messageId = some (convId, cached) →
            edited.status = 0 → cached.status = 0) ∧
          ∀ copy, client.msgCache.OtherCopy messageId copy →
            copy.status = edited.status ∧ copy.content = edited.content
  | recallNotified message =>
      message.NotifiedAlike (Client.recallCached message) Client.contentToWrite client
  | deleteNotified message =>
      message.NotifiedAlike (Client.deleteCached message) (fun _ => none) client
  | editNotified message =>
      message.NotifiedAlike (Client.editCached message) Client.contentToWrite client
  | _ => True

end Action

/-! ## One action -/

/-- The ids in the buckets are distinct, and cache and table agree. -/
structure MessagesInStep (client : Client) : Prop where
  distinct : client.msgCache.DistinctIds
  agree : MessagesAgree client

section OneAction

variable {client next : Client} (inStep : MessagesInStep client)

include inStep

/-- A message that is inserted into the cache, with any change of its row. -/
theorem MessagesInStep.insert {message : Message}
    (cached : next.msgCache = client.msgCache.insert message)
    (rows : ∀ other, other ≠ message.messageId →
      next.table.messages.lookup other = client.table.messages.lookup other)
    (new : client.msgCache.Takes message → ∀ row,
      next.table.messages.lookup message.messageId = some row → message.AgreesWith row)
    (old : ∀ copy, client.msgCache.Holds copy → copy.messageId = message.messageId → ∀ row,
      next.table.messages.lookup message.messageId = some row → copy.AgreesWith row) :
    MessagesInStep next := by
  constructor
  · rw [cached]
    exact inStep.distinct.insert message
  · intro copy holds row found
    rw [cached] at holds
    by_cases sameId : copy.messageId = message.messageId
    · rw [sameId] at found
      rcases MessageCache.holds_insert holds with ⟨rfl, takes⟩ | before
      · exact new takes row found
      · exact old copy before sameId row found
    · rw [rows copy.messageId sameId] at found
      rcases MessageCache.holds_insert holds with ⟨rfl, _⟩ | before
      · exact absurd rfl sameId
      · exact inStep.agree copy before row found

/-- A message that is changed in the cache, with any change of its row. -/
theorem MessagesInStep.update {messageId : String} {change : Message → Message}
    (cached : next.msgCache = (client.msgCache.updateMessageById messageId change).2)
    (keepsId : ∀ message, (change message).messageId = message.messageId)
    (rows : ∀ other, other ≠ messageId →
      next.table.messages.lookup other = client.table.messages.lookup other)
    (first : ∀ convId copy, client.msgCache.find? messageId = some (convId, copy) → ∀ row,
      next.table.messages.lookup messageId = some row → (change copy).AgreesWith row)
    (others : ∀ copy, client.msgCache.OtherCopy messageId copy → ∀ row,
      next.table.messages.lookup messageId = some row → copy.AgreesWith row) :
    MessagesInStep next := by
  constructor
  · rw [cached]
    exact inStep.distinct.updateMessageById messageId keepsId
  · intro copy holds row found
    rw [cached] at holds
    by_cases sameId : copy.messageId = messageId
    · rw [sameId] at found
      rcases MessageCache.copy_updateMessageById inStep.distinct holds sameId with
        ⟨convId, copy, copyFound, rfl⟩ | other
      · exact first convId copy copyFound row found
      · exact others copy other row found
    · rw [rows copy.messageId sameId] at found
      rcases MessageCache.holds_updateMessageById holds with ⟨old, _, oldId, rfl⟩ | before
      · exact absurd ((keepsId old).trans oldId) sameId
      · exact inStep.agree copy before row found

/-- A delivery that writes `message.toRow` or leaves the row as it is. -/
theorem MessagesInStep.deliver {message : Message} {written : Prop}
    (alike : message.DeliveredAlike written client)
    (cached : next.msgCache = client.msgCache.insert message)
    (taken : written → ∀ other, next.table.messages.lookup other =
      if other = message.messageId then some message.toRow
      else client.table.messages.lookup other)
    (refused : ¬written → next.table.messages = client.table.messages) :
    MessagesInStep next := by
  by_cases writes : written
  · have rows := taken writes
    have here : ∀ row, next.table.messages.lookup message.messageId = some row →
        row = message.toRow := by
      intro row found
      rw [rows, if_pos rfl] at found
      exact (Option.some.inj found).symm
    refine inStep.insert cached (fun other different => ?_) (fun _ row found => ?_)
      fun copy holds sameId row found => ?_
    · rw [rows, if_neg different]
    · rw [here row found]
      exact message.agreesWith_toRow
    · rw [here row found]
      exact alike.1 writes copy holds sameId
  · have rows := refused writes
    refine inStep.insert cached (fun other _ => by rw [rows]) (fun takes row found => ?_)
      fun copy holds sameId row found => ?_
    · rw [rows] at found
      exact alike.2 writes takes row found
    · rw [rows, ← sameId] at found
      exact inStep.agree copy holds row found

/-- An update of the status, and perhaps the content, of cached copy and row. -/
theorem MessagesInStep.updateStatus {messageId : String} {change : Message → Message}
    {status : Int32} {content : Option String} (notEmpty : messageId ≠ "")
    (cached : next.msgCache = (client.msgCache.updateMessageById messageId change).2)
    (keepsId : ∀ message, (change message).messageId = message.messageId)
    (keepsRead : ∀ message, (change message).isRead = message.isRead)
    (rows : next.table.messages =
      (client.table.runOption (Action.messageStmt.statusStmt messageId status content)).messages)
    (first : ∀ convId copy, client.msgCache.find? messageId = some (convId, copy) →
      messageId ∈ client.table.messages →
        (change copy).status = status ∧ content.getD copy.content = (change copy).content)
    (others : ∀ copy, client.msgCache.OtherCopy messageId copy →
      messageId ∈ client.table.messages →
        copy.status = status ∧ content.getD copy.content = copy.content) :
    MessagesInStep next := by
  have written : ∀ row, next.table.messages.lookup messageId = some row →
      ∃ old, client.table.messages.lookup messageId = some old ∧
        row = { old with status := status.toInt64, content := content.getD old.content } := by
    intro row found
    rw [rows, Db.lookup_statusStmt notEmpty, if_pos rfl] at found
    rcases Option.map_eq_some_iff.mp found with ⟨old, oldFound, rfl⟩
    exact ⟨old, oldFound, rfl⟩
  refine inStep.update cached keepsId (fun other different => ?_)
    (fun convId copy copyFound row found => ?_) fun copy other row found => ?_
  · rw [rows, Db.lookup_statusStmt notEmpty, if_neg different]
  · rcases written row found with ⟨old, oldFound, rfl⟩
    rcases MessageCache.find?_spec copyFound with ⟨holds, sameId⟩
    have before := inStep.agree copy holds old (sameId ▸ oldFound)
    have stored := KeyTable.mem_iff_exists_lookup.mpr ⟨old, oldFound⟩
    rcases first convId copy copyFound stored with ⟨sameStatus, sameContent⟩
    constructor
    · rw [sameStatus]
    · rw [← sameContent, ← before.content]
    · rw [keepsRead]
      exact before.isRead
  · rcases written row found with ⟨old, oldFound, rfl⟩
    have before := inStep.agree copy other.holds old (other.1 ▸ oldFound)
    have stored := KeyTable.mem_iff_exists_lookup.mpr ⟨old, oldFound⟩
    rcases others copy other stored with ⟨sameStatus, sameContent⟩
    constructor
    · rw [sameStatus]
    · exact (congrArg content.getD before.content).trans sameContent
    · exact before.isRead

/-- A notification of a cached message: the first copy is changed, and the row gets
its status. -/
theorem MessagesInStep.notifiedFound {message copy : Message} {convId : String}
    {change : Message → Message} {content : Message → Option String}
    (notEmpty : message.messageId ≠ "")
    (found : client.msgCache.find? message.messageId = some (convId, copy))
    (alike : message.NotifiedAlike change content client)
    (keepsId : ∀ cached, (change cached).messageId = cached.messageId)
    (keepsRead : ∀ cached, (change cached).isRead = cached.isRead)
    (writes : (content (change copy)).getD copy.content = (change copy).content ∧
      ∀ other : Message, other.content = (change copy).content →
        (content (change copy)).getD other.content = other.content)
    (cached : next.msgCache = (client.msgCache.updateMessageById message.messageId change).2)
    (rows : next.table.messages =
      (client.table.runOption (Action.messageStmt.statusStmt message.messageId
        (change copy).status (content (change copy)))).messages) :
    MessagesInStep next := by
  refine inStep.updateStatus notEmpty cached keepsId keepsRead rows
    (fun firstId first firstFound _ => ?_) fun other otherCopy stored => ?_
  · rcases Prod.mk.inj (Option.some.inj (found.symm.trans firstFound)) with ⟨_, rfl⟩
    exact ⟨rfl, writes.1⟩
  · rcases KeyTable.mem_iff_exists_lookup.mp stored with ⟨row, rowFound⟩
    rcases (alike row rowFound).1 convId copy found other otherCopy with
      ⟨sameStatus, sameContent⟩
    exact ⟨sameStatus, writes.2 other sameContent⟩

/-- A notification of a message that is not cached: it is inserted if it names a
conversation, and the row gets its status. -/
theorem MessagesInStep.notifiedMissing {message : Message} {change : Message → Message}
    {content : Message → Option String} (notEmpty : message.messageId ≠ "")
    (missing : client.msgCache.find? message.messageId = none)
    (unread : message.isRead = false) (alike : message.NotifiedAlike change content client)
    (cached : next.msgCache =
      if message.convId ≠ "" then client.msgCache.insert message else client.msgCache)
    (rows : next.table.messages =
      (client.table.runOption (Action.messageStmt.statusStmt message.messageId message.status
        (content message))).messages) :
    MessagesInStep next := by
  have noCopy := MessageCache.find?_eq_none_iff.mp missing
  by_cases unnamed : message.convId = ""
  · rw [if_neg (not_not.mpr unnamed)] at cached
    have unchanged : next.msgCache =
        (client.msgCache.updateMessageById message.messageId id).2 := by
      rw [cached, MessageCache.updateMessageById, missing]
    refine inStep.updateStatus notEmpty unchanged (fun _ => rfl) (fun _ => rfl) rows
      (fun firstId first firstFound _ => ?_) fun other otherCopy _ => ?_
    · exact absurd (firstFound.symm.trans missing) (Option.some_ne_none _)
    · exact absurd otherCopy.1 (noCopy other otherCopy.holds)
  · rw [if_pos unnamed] at cached
    refine inStep.insert cached (fun other different => ?_) (fun takes row rowFound => ?_)
      fun copy holds sameId => absurd sameId (noCopy copy holds)
    · rw [rows, Db.lookup_statusStmt notEmpty, if_neg different]
    · rw [rows, Db.lookup_statusStmt notEmpty, if_pos rfl] at rowFound
      rcases Option.map_eq_some_iff.mp rowFound with ⟨old, oldFound, rfl⟩
      rcases (alike old oldFound).2 missing unnamed takes with ⟨sameContent, isRead⟩
      exact ⟨rfl, sameContent, by simp [isRead, unread]⟩

/-- A notification that changes the cached copy, or else inserts its message, and
then writes the status of the result to the row. -/
theorem MessagesInStep.notified {message : Message} {change : Message → Message}
    {content : Message → Option String} (notEmpty : message.messageId ≠ "")
    (unread : message.isRead = false) (alike : message.NotifiedAlike change content client)
    (keepsId : ∀ cached, (change cached).messageId = cached.messageId)
    (keepsRead : ∀ cached, (change cached).isRead = cached.isRead)
    (writes : ∀ cached,
      (content (change cached)).getD cached.content = (change cached).content ∧
        ∀ copy : Message, copy.content = (change cached).content →
          (content (change cached)).getD copy.content = copy.content)
    (cached : next.msgCache = (client.mergeNotified change message).2.msgCache)
    (rows : next.table.messages =
      (client.table.runOption (Action.messageStmt.statusStmt
        (client.mergeNotified change message).1.messageId
        (client.mergeNotified change message).1.status
        (content (client.mergeNotified change message).1))).messages) :
    MessagesInStep next := by
  cases found : client.msgCache.find? message.messageId with
  | some entry =>
      rcases entry with ⟨convId, copy⟩
      have ⟨merged, msgCache⟩ : (client.mergeNotified change message).1 = change copy ∧
          (client.mergeNotified change message).2.msgCache =
            (client.msgCache.updateMessageById message.messageId change).2 :=
        Client.mergeNotified_of_found found
      have sameId : (change copy).messageId = message.messageId :=
        (keepsId copy).trans (MessageCache.find?_spec found).2
      rw [merged, sameId] at rows
      exact inStep.notifiedFound notEmpty found alike keepsId keepsRead (writes copy)
        (cached.trans msgCache) rows
  | none =>
      have ⟨merged, msgCache⟩ : (client.mergeNotified change message).1 = message ∧
          (client.mergeNotified change message).2.msgCache =
            if message.convId ≠ "" then client.msgCache.insert message else client.msgCache :=
        Client.mergeNotified_of_missing found
      rw [merged] at rows
      exact inStep.notifiedMissing notEmpty found unread alike (cached.trans msgCache) rows

end OneAction

/-- The rows after a synced message, which is written only when it is new. -/
theorem Stmt.lookup_insertOrIgnoreMessage {messageId : String} {row : MessageRow} {db : Db}
    (writes : messageId ∉ db.messages ∧ db.acceptsMessage messageId row = true)
    (other : String) :
    ((Stmt.insertOrIgnoreMessage messageId row).run db).messages.lookup other =
      if other = messageId then some row else db.messages.lookup other := by
  rw [Stmt.run, if_pos writes.2]
  simp only [KeyTable.lookup_insertOrIgnore]
  split
  · rw [AList.lookup_eq_none.mpr writes.1]
    rfl
  · rfl

theorem Stmt.messages_insertOrIgnoreMessage {messageId : String} {row : MessageRow} {db : Db}
    (skips : ¬(messageId ∉ db.messages ∧ db.acceptsMessage messageId row = true)) :
    ((Stmt.insertOrIgnoreMessage messageId row).run db).messages = db.messages := by
  rw [Stmt.run]
  split
  · next accepted =>
      have known : messageId ∈ db.messages := by
        by_contra unknown
        exact skips ⟨unknown, accepted⟩
      simp [KeyTable.insertOrIgnore, known]
  · rfl

/-- The statement that writes a delivered message, if it can be written at all. -/
abbrev Message.upsertStmt (message : Message) : Option Stmt :=
  if message.messageId = "" ∨ message.convId = "" then none
  else some (.upsertMessage message.messageId message.toRow)

theorem Db.lookup_upsertStmt {message : Message} {db : Db}
    (writes : message.messageId ≠ "" ∧ message.convId ≠ "" ∧
      db.acceptsMessage message.messageId message.toRow = true) (other : String) :
    (db.runOption message.upsertStmt).messages.lookup other =
      if other = message.messageId then some message.toRow else db.messages.lookup other := by
  rcases writes with ⟨hasId, named, accepted⟩
  simp only [Message.upsertStmt, hasId, named, or_self, if_false, Db.runOption, Option.elim,
    Stmt.run, accepted, if_true]
  exact KeyTable.lookup_write message.messageId other message.toRow db.messages

theorem Db.messages_upsertStmt {message : Message} {db : Db}
    (skips : ¬(message.messageId ≠ "" ∧ message.convId ≠ "" ∧
      db.acceptsMessage message.messageId message.toRow = true)) :
    (db.runOption message.upsertStmt).messages = db.messages := by
  by_cases blank : message.messageId = "" ∨ message.convId = ""
  · rw [Message.upsertStmt, if_pos blank]
    rfl
  · have refused : ¬db.acceptsMessage message.messageId message.toRow = true := fun accepted =>
      skips ⟨(not_or.mp blank).1, (not_or.mp blank).2, accepted⟩
    rw [Message.upsertStmt, if_neg blank]
    simp only [Db.runOption, Option.elim, Stmt.run, if_neg refused]

theorem Client.status_mergeNotified {message : Message} {change : Message → Message}
    {status : Int32} (changed : ∀ cached, (change cached).status = status)
    (own : message.status = status) (client : Client) :
    (client.mergeNotified change message).1.status = status := by
  cases found : client.msgCache.find? message.messageId with
  | some entry => rw [(mergeNotified_of_found found).1, changed]
  | none => rw [(mergeNotified_of_missing found).1, own]

theorem Client.getD_contentToWrite {message : Message} {kept : String}
    (blank : message.content = "" → kept = "") :
    (contentToWrite message).getD kept = message.content := by
  rw [contentToWrite]
  split
  · next empty => exact (blank empty).trans empty.symm
  · rfl

/-- A content that replaces the cached one unless it is blank. -/
theorem Client.contentToWrite_spec {change : Message → Message} {given : String}
    (content : ∀ cached, (change cached).content = if given ≠ "" then given else cached.content)
    (cached : Message) :
    (contentToWrite (change cached)).getD cached.content = (change cached).content ∧
      ∀ copy : Message, copy.content = (change cached).content →
        (contentToWrite (change cached)).getD copy.content = copy.content := by
  constructor
  · apply getD_contentToWrite
    rw [content]
    split
    · next hasContent => exact fun empty => absurd empty hasContent
    · exact id
  · intro copy same
    rw [same]
    exact getD_contentToWrite id

/-! ## The actions one by one -/

theorem Client.msgCache_storeListedMessage (client : Client) (message : Message) :
    (client.storeListedMessage message).msgCache = client.msgCache.insert message := by
  simp only [storeListedMessage, upsertMessageDb]
  split <;> rfl

theorem Client.msgCache_receiveMessage (client : Client) (message : Message) :
    (client.receiveMessage message).msgCache = client.msgCache.insert message := by
  simp only [receiveMessage, upsertMessageDb]
  split <;> rfl

section Actions

variable {client : Client} (inStep : MessagesInStep client)

include inStep

theorem MessagesInStep.storeSyncedMessage {message : Message}
    (alike : (Action.storeSyncedMessage message).UpdatesAlike client) :
    MessagesInStep ((Action.storeSyncedMessage message).apply client) := by
  have rows := (Action.storeSyncedMessage message).messages_apply client
  refine inStep.deliver alike rfl (fun writes other => ?_) fun skips => ?_
  · rw [rows]
    exact Stmt.lookup_insertOrIgnoreMessage writes other
  · rw [rows]
    exact Stmt.messages_insertOrIgnoreMessage skips

/-- A listed or received message goes to both sides by the same statement. -/
theorem MessagesInStep.upserted {message : Message} {next : Client}
    (alike : (Action.receiveMessage message).UpdatesAlike client)
    (cached : next.msgCache = client.msgCache.insert message)
    (rows : next.table.messages = (client.table.runOption message.upsertStmt).messages) :
    MessagesInStep next :=
  inStep.deliver alike cached (fun writes other => rows ▸ Db.lookup_upsertStmt writes other)
    fun skips => rows ▸ Db.messages_upsertStmt skips

/-- The acknowledged copy becomes read, and the row stays as it is. -/
theorem MessagesInStep.markMessageRead {messageId : String}
    (alike : (Action.markMessageRead messageId).UpdatesAlike client) :
    MessagesInStep ((Action.markMessageRead messageId).apply client) := by
  have rows := (Action.markMessageRead messageId).messages_apply client
  by_cases empty : messageId = ""
  · simpa [Action.apply, Client.markMessageRead, empty] using inStep
  · have cached : ((Action.markMessageRead messageId).apply client).msgCache =
        (client.msgCache.updateMessageById messageId fun message =>
          { message with isRead := true }).2 := by
      simp only [Action.apply, Client.markMessageRead, if_neg empty]
      rfl
    refine inStep.update cached (fun _ => rfl) (fun other _ => congrArg _ rows)
      (fun convId copy found row rowFound => ?_) fun copy other row rowFound => ?_
    · rw [rows] at rowFound
      rcases MessageCache.find?_spec found with ⟨holds, sameId⟩
      have before := inStep.agree copy holds row (sameId ▸ rowFound)
      exact ⟨before.status, before.content, alike empty convId copy found row rowFound⟩
    · rw [rows] at rowFound
      exact inStep.agree copy other.holds row (other.1 ▸ rowFound)

theorem MessagesInStep.applyMessageStatus {messageId : String} {status : Int32}
    (notEmpty : messageId ≠ "")
    (alike : (Action.applyMessageStatus messageId status).UpdatesAlike client) :
    MessagesInStep ((Action.applyMessageStatus messageId status).apply client) := by
  have cached : ((Action.applyMessageStatus messageId status).apply client).msgCache =
      (client.msgCache.updateMessageById messageId fun message =>
        { message with status := status }).2 :=
    Client.msgCache_updateMessageDbStatusAndContent status none
  have rows : ((Action.applyMessageStatus messageId status).apply client).table.messages =
      (client.table.runOption
        (Action.messageStmt.statusStmt messageId status none)).messages :=
    (Action.applyMessageStatus messageId status).messages_apply client
  exact inStep.updateStatus notEmpty cached (fun _ => rfl) (fun _ => rfl) rows
    (fun _ _ _ _ => ⟨rfl, rfl⟩) fun copy other stored => ⟨alike stored copy other, rfl⟩

/-- An edit whose status is normal leaves the status of the cached copy. -/
theorem MessagesInStep.applyEdit {messageId : String} {edited : Message}
    (notEmpty : messageId ≠ "")
    (alike : (Action.applyEdit messageId edited).UpdatesAlike client) :
    MessagesInStep ((Action.applyEdit messageId edited).apply client) := by
  have cached : ((Action.applyEdit messageId edited).apply client).msgCache =
      (client.msgCache.updateMessageById messageId fun message =>
        { message with
          content := edited.content
          status := if edited.status ≠ 0 then edited.status else message.status }).2 :=
    Client.msgCache_updateMessageDbStatusAndContent edited.status (some edited.content)
  have rows : ((Action.applyEdit messageId edited).apply client).table.messages =
      (client.table.runOption (Action.messageStmt.statusStmt messageId edited.status
        (some edited.content))).messages :=
    (Action.applyEdit messageId edited).messages_apply client
  refine inStep.updateStatus notEmpty cached (fun _ => rfl) (fun _ => rfl) rows
    (fun convId copy found stored => ⟨?_, rfl⟩) fun copy other stored => ?_
  · by_cases normal : edited.status = 0
    · simp only [normal, ne_eq, not_true_eq_false, if_false]
      exact (alike stored).1 convId copy found normal
    · simp only [ne_eq, normal, not_false_eq_true, if_true]
  · rcases (alike stored).2 copy other with ⟨sameStatus, sameContent⟩
    exact ⟨sameStatus, sameContent.symm⟩

theorem MessagesInStep.recallNotified {message : Message}
    (checked : (Action.recallNotified message).Checked)
    (alike : (Action.recallNotified message).UpdatesAlike client) :
    MessagesInStep ((Action.recallNotified message).apply client) := by
  rcases checked with ⟨notEmpty, recalled, unread⟩
  have recalls : ∀ cached, (Client.recallCached message cached).status = 1 := fun _ => rfl
  have status := Client.status_mergeNotified recalls recalled client
  refine inStep.notified notEmpty unread alike (fun _ => rfl) (fun _ => rfl)
    (Client.contentToWrite_spec fun _ => rfl)
    (Client.msgCache_updateMessageDbStatusAndContent 1 _) ?_
  rw [status]
  exact (Action.recallNotified message).messages_apply client

theorem MessagesInStep.deleteNotified {message : Message}
    (checked : (Action.deleteNotified message).Checked)
    (alike : (Action.deleteNotified message).UpdatesAlike client) :
    MessagesInStep ((Action.deleteNotified message).apply client) := by
  rcases checked with ⟨notEmpty, deleted, unread⟩
  have deletes : ∀ cached, (Client.deleteCached message cached).status = 2 := fun _ => rfl
  have status := Client.status_mergeNotified deletes deleted client
  have kept : message.NotifiedAlike (Client.deleteCached message) (fun _ => none) client := alike
  refine inStep.notified notEmpty unread kept (fun _ => rfl) (fun _ => rfl)
    (fun _ => ⟨rfl, fun _ _ => rfl⟩)
    (Client.msgCache_updateMessageDbStatusAndContent 2 none) ?_
  rw [status]
  exact (Action.deleteNotified message).messages_apply client

theorem MessagesInStep.editNotified {message : Message}
    (checked : (Action.editNotified message).Checked)
    (alike : (Action.editNotified message).UpdatesAlike client) :
    MessagesInStep ((Action.editNotified message).apply client) :=
  inStep.notified checked.1 checked.2 alike (fun _ => rfl) (fun _ => rfl)
    (Client.contentToWrite_spec fun _ => rfl)
    (Client.msgCache_updateMessageDbStatusAndContent _ _)
    ((Action.editNotified message).messages_apply client)

end Actions

/-- Nothing is cached in a process that has just started. -/
theorem MessagesInStep.start (platform : Platform) (db : Db) (clockReads launches : Nat) :
    MessagesInStep (.start platform db clockReads launches) := by
  constructor
  · exact fun convId bucket found => nomatch found
  · rintro message ⟨convId, bucket, found, _⟩
    exact nomatch found

/-- An action that treats both sides alike keeps them in step. -/
theorem Action.messagesInStep_apply {client : Client} (inStep : MessagesInStep client)
    {action : Action} (checked : action.Checked) (alike : action.UpdatesAlike client) :
    MessagesInStep (action.apply client) := by
  have rows := action.messages_apply client
  cases action with
  | storeSyncedMessage message => exact inStep.storeSyncedMessage alike
  | storeListedMessage message =>
      exact inStep.upserted alike (client.msgCache_storeListedMessage message) rows
  | receiveMessage message =>
      exact inStep.upserted alike (client.msgCache_receiveMessage message) rows
  | markMessageRead messageId => exact inStep.markMessageRead alike
  | applyMessageStatus messageId status => exact inStep.applyMessageStatus checked alike
  | applyEdit messageId edited => exact inStep.applyEdit checked alike
  | recallNotified message => exact inStep.recallNotified checked alike
  | deleteNotified message => exact inStep.deleteNotified checked alike
  | editNotified message => exact inStep.editNotified checked alike
  | restart => exact .start _ _ _ _
  | _ =>
      constructor
      · rw [(Action.sameMessages client id).msgCache]
        exact inStep.distinct
      · rw [MessagesAgree, (Action.sameMessages client id).msgCache, rows]
        exact inStep.agree

/-! ## Runs -/

/-- In a process started on any database, cache and table agree throughout every
run whose actions treat both sides alike. -/
theorem messagesAgree_always (platform : Platform) (db : Db) (clockReads : Nat)
    {events : List Event}
    (alike : EventRun.Guarded Action.apply Action.UpdatesAlike (.start platform db clockReads)
      (events.flatMap Event.actions)) :
    EventRun.Always Event.apply MessagesAgree (.start platform db clockReads) events := by
  have checked : ∀ action ∈ events.flatMap Event.actions, action.Checked := by
    intro action member
    rcases List.mem_flatMap.mp member with ⟨event, _, ofEvent⟩
    exact Event.checked_actions ofEvent
  have preserved : ∀ (client : Client) (action : Action), MessagesInStep client →
      action.UpdatesAlike client ∧ action.Checked → MessagesInStep (action.apply client) :=
    fun _ _ inStep guard => Action.messagesInStep_apply inStep guard.2 guard.1
  have inStep := always_events_of_guarded preserved
    (.start platform db clockReads 0) (alike.and_forall checked)
  exact inStep.mono fun _ held => held.agree

/-- A received message that is recalled. -/
theorem messagesAgree_always_recalled :
    EventRun.Always Event.apply MessagesAgree (.start default {} 0)
      [syncOf { conversationId := "c1" }, newMessage "c1" "m1",
        .recallMessageResponse "m1" acceptedResponse] := by
  have actions : [syncOf { conversationId := "c1" }, newMessage "c1" "m1",
      .recallMessageResponse "m1" acceptedResponse].flatMap Event.actions =
      [.mergeSession { conversationId := "c1" }, .setSyncTime 0,
        .receiveMessage { messageId := "m1", convId := "c1", contentType := 1 },
        .applyMessageStatus "m1" 1] := rfl
  apply messagesAgree_always default {} 0
  rw [actions]
  refine ⟨trivial, trivial, ⟨fun _ copy holds => ?_, fun refused => absurd (by decide) refused⟩,
    fun _ copy other => ?_, trivial⟩
  · rcases holds with ⟨convId, bucket, found, _⟩
    exact nomatch found
  · rcases other with ⟨_, convId, bucket, found, _, notFirst⟩
    have keys : (EventRun.exec Action.apply (.start default {} 0)
        [.mergeSession { conversationId := "c1" }, .setSyncTime 0,
          .receiveMessage { messageId := "m1", convId := "c1",
                            contentType := 1 }]).msgCache.buckets.keys = ["c1"] := by decide
    have first : (EventRun.exec Action.apply (.start default {} 0)
        [.mergeSession { conversationId := "c1" }, .setSyncTime 0,
          .receiveMessage { messageId := "m1", convId := "c1",
                            contentType := 1 }]).msgCache.find? "m1" =
        some ("c1", { messageId := "m1", convId := "c1", contentType := 1 }) := by decide
    have isBucket := KeyTable.mem_iff_exists_lookup.mpr ⟨bucket, found⟩
    have sameBucket : convId ∈ ["c1"] := keys ▸ isBucket
    exact absurd (List.mem_singleton.mp sameBucket) (notFirst "c1" _ first)

/-- An acknowledged message: it is read in the cache and unread in the table. -/
theorem not_messagesAgree_always_acknowledged :
    ¬EventRun.Always Event.apply MessagesAgree (.start default {} 0)
      [syncOf { conversationId := "c1" }, newMessage "c1" "m1",
        .ackMessagesResponse "c1" ["m1"] acceptedResponse acceptedResponse] := by
  intro always
  let message : Message := { messageId := "m1", convId := "c1", contentType := 1 }
  have cached : (EventRun.exec Event.apply (.start default {} 0)
      [syncOf { conversationId := "c1" }, newMessage "c1" "m1",
        .ackMessagesResponse "c1" ["m1"] acceptedResponse
          acceptedResponse]).msgCache.buckets.lookup "c1" =
      some [{ message with isRead := true }] := by decide
  have stored : (EventRun.exec Event.apply (.start default {} 0)
      [syncOf { conversationId := "c1" }, newMessage "c1" "m1",
        .ackMessagesResponse "c1" ["m1"] acceptedResponse
          acceptedResponse]).table.messages.lookup "m1" = some message.toRow := by decide
  have holds : (EventRun.exec Event.apply (.start default {} 0)
      [syncOf { conversationId := "c1" }, newMessage "c1" "m1",
        .ackMessagesResponse "c1" ["m1"] acceptedResponse acceptedResponse]).msgCache.Holds
      { message with isRead := true } := ⟨"c1", _, cached, List.mem_singleton.mpr rfl⟩
  have agrees := always.last { message with isRead := true } holds message.toRow stored
  exact absurd agrees.isRead (by decide)

end AnychatSdk
