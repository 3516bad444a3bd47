import AnychatSdk.Effects

/-!
# Which accepted messages are stored

A message that is accepted goes into the cache whatever happens, but its row can
be refused: when another message holds its local id, or when its conversation
has no row.
-/

namespace AnychatSdk

/-- The statement puts a row under the id, if there is none yet. -/
def Stmt.inserts (messageId : String) (db : Db) : Stmt → Prop
  | insertOrIgnoreMessage newId row | upsertMessage newId row =>
      newId = messageId ∧ db.acceptsMessage newId row = true
  | _ => False

/-- Rows of messages are never removed, and come in by accepted inserts only. -/
theorem Stmt.mem_messages_run (messageId : String) (stmt : Stmt) (db : Db) :
    messageId ∈ (stmt.run db).messages ↔ messageId ∈ db.messages ∨ stmt.inserts messageId db := by
  cases stmt with
  | insertOrIgnoreMessage newId row =>
      rw [Stmt.run, Stmt.inserts]
      split
      · next accepted => simp [KeyTable.mem_insertOrIgnore, accepted, eq_comm, or_comm]
      · next refused => simp [refused]
  | upsertMessage newId row =>
      rw [Stmt.run, Stmt.inserts]
      split
      · next accepted => simp [KeyTable.mem_upsert, accepted, eq_comm, or_comm]
      · next refused => simp [refused]
  | updateMessageStatus | updateMessageStatusAndContent =>
      simp [Stmt.run, Stmt.inserts, KeyTable.mem_update]
  | deleteConversation convId =>
      rw [Stmt.run]
      split <;> simp [Stmt.inserts]
  | _ => simp [Stmt.run, Stmt.inserts]

namespace Action

/-- The message the client accepts in this action: it has an id and a
conversation.  Entries of a sync response without them lead to no action. -/
def accepted? : Action → Option Message
  | storeSyncedMessage message => some message
  | storeListedMessage message | receiveMessage message =>
      if message.messageId = "" ∨ message.convId = "" then none else some message
  | _ => none

/-- The database takes the row of the accepted message: no other message holds
its local id, and its conversation has a row. -/
def FindsPlace (messageId : String) (db : Db) (action : Action) : Prop :=
  ∃ message, action.accepted? = some message ∧ message.messageId = messageId ∧
    db.localIdTaken message.messageId message.localId = false ∧ message.convId ∈ db.conversations

theorem mem_messages_runOption (messageId : String) (client : Client) (action : Action) :
    messageId ∈ (client.table.runOption (action.messageStmt client)).messages ↔
      messageId ∈ client.table.messages ∨ action.FindsPlace messageId client.table := by
  have ofStmt : ∀ stmt : Stmt, messageId ∈ (client.table.runOption (some stmt)).messages ↔
      messageId ∈ client.table.messages ∨ stmt.inserts messageId client.table :=
    fun stmt => stmt.mem_messages_run messageId client.table
  have ofStatus : ∀ updatedId status content,
      messageId ∈ (client.table.runOption
        (messageStmt.statusStmt updatedId status content)).messages ↔
        messageId ∈ client.table.messages := by
    intro updatedId status content
    by_cases empty : updatedId = ""
    · simp [messageStmt.statusStmt, empty, Db.runOption]
    · cases content <;>
        simp only [messageStmt.statusStmt, if_neg empty] <;>
        exact (ofStmt _).trans (or_iff_left id)
  have placed : ∀ message : Message,
      (Stmt.upsertMessage message.messageId message.toRow).inserts messageId client.table ↔
        message.messageId = messageId ∧
          client.table.localIdTaken message.messageId message.localId = false ∧
            message.convId ∈ client.table.conversations :=
    fun message => and_congr_right' Db.acceptsMessage_eq_true_iff
  cases action with
  | storeSyncedMessage message =>
      refine (ofStmt _).trans (or_congr_right ((placed message).trans ?_))
      simp [FindsPlace, accepted?]
  | storeListedMessage message | receiveMessage message =>
      by_cases dropped : message.messageId = "" ∨ message.convId = ""
      · simp [messageStmt, FindsPlace, accepted?, dropped, Db.runOption]
      · simp only [messageStmt, FindsPlace, accepted?, if_neg dropped]
        refine (ofStmt _).trans (or_congr_right ((placed message).trans ?_))
        simp
  | applyMessageStatus updatedId status =>
      exact (ofStatus updatedId status none).trans (by simp [FindsPlace, accepted?])
  | applyEdit updatedId edited =>
      exact (ofStatus updatedId edited.status (some edited.content)).trans
        (by simp [FindsPlace, accepted?])
  | recallNotified | deleteNotified | editNotified =>
      simp only [messageStmt, ofStatus]
      simp [FindsPlace, accepted?]
  | _ => simp [messageStmt, FindsPlace, accepted?, Db.runOption]

/-- What one action adds to the stored messages. -/
theorem mem_messages_apply (messageId : String) (client : Client) (action : Action) :
    messageId ∈ (action.apply client).table.messages ↔
      messageId ∈ client.table.messages ∨ action.FindsPlace messageId client.table := by
  rw [messages_apply]
  exact mem_messages_runOption messageId client action

end Action

/-- A message is stored at the end of a run exactly when it was at the outset or
found a place at one of its deliveries. -/
theorem mem_messages_exec (messageId : String) (client : Client) (actions : List Action) :
    messageId ∈ (EventRun.exec Action.apply client actions).table.messages ↔
      messageId ∈ client.table.messages ∨
        ∃ before action after, actions = before ++ action :: after ∧
          action.FindsPlace messageId (EventRun.exec Action.apply client before).table := by
  induction actions using List.reverseRecOn with
  | nil => simp
  | append_singleton actions last ih =>
      rw [EventRun.exec_concat, Action.mem_messages_apply, ih]
      constructor
      · rintro ((initially | ⟨before, action, after, split, placed⟩) | placed)
        · exact .inl initially
        · exact .inr ⟨before, action, after ++ [last], by simp [split], placed⟩
        · exact .inr ⟨actions, last, [], rfl, placed⟩
      · rintro (initially | ⟨before, action, after, split, placed⟩)
        · exact .inl (.inl initially)
        · rcases List.eq_nil_or_concat after with rfl | ⟨rest, final, rfl⟩
          · rcases List.append_inj' split rfl with ⟨rfl, single⟩
            obtain rfl := List.singleton_inj.mp single
            exact .inr placed
          · rw [List.concat_eq_append, ← List.cons_append, ← List.append_assoc] at split
            exact .inl (.inr ⟨before, action, rest, (List.append_inj' split rfl).1, placed⟩)

/-! ## Losing no message -/

/-- The client has accepted a message under this id in the course of the
events. -/
def AcceptedIn (events : List Event) (messageId : String) : Prop :=
  ∃ action ∈ events.flatMap Event.actions, ∃ message,
    action.accepted? = some message ∧ message.messageId = messageId

/-- No accepted message is lost exactly when every one of them was stored at the
outset, or finds its conversation stored and its local id unused by other
messages at one of its deliveries. -/
theorem accepted_stored_iff (client : Client) (events : List Event) :
    (∀ messageId, AcceptedIn events messageId →
      ∃ row, (EventRun.exec Event.apply client events).table.messages.lookup messageId =
        some row) ↔
      ∀ messageId, AcceptedIn events messageId →
        messageId ∈ client.table.messages ∨
          ∃ before action after, events.flatMap Event.actions = before ++ action :: after ∧
            action.FindsPlace messageId (EventRun.exec Action.apply client before).table := by
  refine forall_congr' fun messageId => imp_congr_right fun _ => ?_
  rw [← KeyTable.mem_iff_exists_lookup, exec_events_eq_exec_actions]
  exact mem_messages_exec messageId client _

/-- A sync response with a conversation and two messages of it. -/
def twoMessageSync : Event :=
  .syncResponse
    { statusCode := 200
      body := .parsed
        { code := 0
          data :=
            { conversationData := some [{ conversationId := "c1" }]
              conversations := some
                [{ conversationId := "c1"
                   messages := some
                     [{ messageId := "m1", sequence := some (.int64 1) },
                      { messageId := "m2", sequence := some (.int64 2) }] }] } } }

/-- Both messages come without a local id, so the second one is ignored. -/
theorem not_accepted_stored_twoMessageSync :
    ¬∀ messageId, AcceptedIn [twoMessageSync] messageId →
      ∃ row, (EventRun.exec Event.apply (.start default {} 0)
        [twoMessageSync]).table.messages.lookup messageId = some row := by
  intro stored
  have delivered : ([twoMessageSync].flatMap Event.actions)[2]? =
      some (.storeSyncedMessage (Client.syncedMessage "c1"
        { messageId := "m2", sequence := some (.int64 2) })) := rfl
  rcases stored "m2" ⟨_, List.mem_of_getElem? delivered, _, rfl, rfl⟩ with ⟨row, found⟩
  have missing : (EventRun.exec Event.apply (.start default {} 0)
      [twoMessageSync]).table.messages.lookup "m2" = none := by decide
  exact Option.some_ne_none row (found.symm.trans missing)

end AnychatSdk
