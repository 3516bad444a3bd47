import AnychatSdk.CacheAgreement
import AnychatSdk.ConversationLists

/-!
# Settings of a conversation

Four operations ask the server to change a setting of a conversation.  On
success the cached record is changed and written out, so the row of a
conversation that is not cached keeps its value.
-/

namespace AnychatSdk

inductive Setting where
  | pinned (value : Bool)
  | muted (value : Bool)
  | burnAfterReading (duration : Int32)
  | autoDelete (duration : Int32)

namespace Setting

/-- The response handler of the operation. -/
def respond (convId : String) (response : HttpResponse Unit) (client : Client) :
    Setting → Outcome Unit × Client
  | pinned value => client.setPinnedResponse convId value response
  | muted value => client.setMutedResponse convId value response
  | burnAfterReading duration => client.setBurnAfterReadingResponse convId duration response
  | autoDelete duration => client.setAutoDeleteResponse convId duration response

def fallbackError : Setting → String
  | pinned _ => "set pinned failed"
  | muted _ => "set muted failed"
  | burnAfterReading _ => "set burn_after_reading failed"
  | autoDelete _ => "set auto_delete failed"

/-- What the handler does on success. -/
def action (convId : String) : Setting → Action
  | pinned value => .applyPinned convId value
  | muted value => .setMuted convId value
  | burnAfterReading duration => .setBurnAfterReading convId duration
  | autoDelete duration => .setAutoDelete convId duration

/-- The column of the setting has the value. -/
def HeldByRow (row : ConversationRow) : Setting → Prop
  | pinned value => row.isPinned = if value then 1 else 0
  | muted value => row.isMuted = if value then 1 else 0
  | burnAfterReading duration => row.burnAfterReading = duration.toInt64
  | autoDelete duration => row.autoDeleteDuration = duration.toInt64

/-- The field of the setting has the value. -/
def HeldBy (conv : Conversation) : Setting → Prop
  | pinned value => conv.isPinned = value
  | muted value => conv.isMuted = value
  | burnAfterReading duration => conv.burnAfterReading = duration
  | autoDelete duration => conv.autoDeleteDuration = duration

/-- After a success the row has the value, and the next process lists the
conversation with it; after an error cache and tables are what they were. -/
structure Durable (setting : Setting) (convId : String) (response : HttpResponse Unit)
    (client : Client) : Prop where
  stored : (setting.respond convId response client).1 = .ok () →
    ∃ row, (setting.respond convId response client).2.table.conversations.lookup convId =
      some row ∧ setting.HeldByRow row
  listed : (setting.respond convId response client).1 = .ok () →
    ∃ conv ∈ (setting.respond convId response client).2.restart.localList,
      conv.convId = convId ∧ setting.HeldBy conv
  unchanged : ∀ failure, (setting.respond convId response client).1 = .error failure →
    (setting.respond convId response client).2.convCache = client.convCache ∧
      (setting.respond convId response client).2.table = client.table

/-! ## The four handlers -/

theorem respond_eq (setting : Setting) (convId : String) (response : HttpResponse Unit)
    (client : Client) :
    setting.respond convId response client =
      match parseApiEnvelopeResponse response setting.fallbackError true false with
      | .error failure => (.error failure, client)
      | .ok () => (.ok (), (setting.action convId).apply client) := by
  cases setting <;> rfl

/-- A cached conversation is saved with the value. -/
theorem storeOp_of_cached (setting : Setting) {client : Client} {convId : String}
    {conv : Conversation} (cached : client.convCache.get convId = some conv) :
    ∃ changed, (setting.action convId).storeOp client = .save changed ∧
      changed.convId = convId ∧ setting.HeldByRow changed.toRow := by
  have sameId : conv.convId = convId := ConversationCache.get_convId cached
  cases setting with
  | pinned value =>
      simp only [action, Action.storeOp, cached]
      exact ⟨_, rfl, sameId, rfl⟩
  | muted value =>
      simp only [action, Action.storeOp, Action.changed, cached]
      exact ⟨_, rfl, sameId, rfl⟩
  | burnAfterReading duration =>
      simp only [action, Action.storeOp, Action.changed, cached]
      exact ⟨_, rfl, sameId, rfl⟩
  | autoDelete duration =>
      simp only [action, Action.storeOp, Action.changed, cached]
      exact ⟨_, rfl, sameId, rfl⟩

/-- Nothing is done for a conversation that is not cached. -/
theorem storeOp_of_not_cached (setting : Setting) {client : Client} {convId : String}
    (absent : client.convCache.get convId = none) :
    (setting.action convId).storeOp client = .keep := by
  cases setting <;> simp only [action, Action.storeOp, Action.changed, absent]

/-- A value in the column is the value of the field read from it. -/
theorem HeldByRow.heldBy {setting : Setting} {row : ConversationRow}
    (held : setting.HeldByRow row) (convId : String) :
    setting.HeldBy (rowToConversation (row.toRow convId)) := by
  rw [rowToConversation_toRow]
  cases setting with
  | pinned value | muted value =>
      have column := held
      simp only [HeldByRow] at column
      cases value <;> simp [HeldBy, column]
  | burnAfterReading duration | autoDelete duration =>
      have column := held
      simp only [HeldByRow] at column
      simp [HeldBy, column]

/-! ## Durability -/

/-- The row of a stored conversation after a successful operation. -/
theorem exists_row_heldByRow_iff (setting : Setting) {client : Client} {convId : String}
    {row : ConversationRow} (stored : client.table.conversations.lookup convId = some row) :
    (∃ next, ((setting.action convId).apply client).table.conversations.lookup convId =
        some next ∧ setting.HeldByRow next) ↔
      client.convCache.get convId ≠ none ∨ setting.HeldByRow row := by
  have rows : ((setting.action convId).apply client).table.conversations =
      (((setting.action convId).storeOp client).apply client.stores).rows :=
    congrArg ConversationStores.rows (Action.stores_apply client (setting.action convId))
  rw [rows]
  cases cached : client.convCache.get convId with
  | none =>
      rw [storeOp_of_not_cached setting cached]
      simp only [StoreOp.apply, Client.stores, stored, Option.some.injEq, exists_eq_left', ne_eq,
        not_true_eq_false, false_or]
  | some conv =>
      rcases storeOp_of_cached setting cached with ⟨changed, saved, rfl, held⟩
      rw [saved]
      refine iff_of_true ⟨changed.toRow, ?_, held⟩ (.inl (Option.some_ne_none conv))
      simp [StoreOp.apply]

/-- For a conversation with a row, an operation is durable exactly when it fails
or else the id contains no NUL and the conversation is cached or its row has the
value already. -/
theorem durable_iff (setting : Setting) (client : Client) (convId : String)
    (response : HttpResponse Unit) (row : ConversationRow)
    (stored : client.table.conversations.lookup convId = some row) :
    setting.Durable convId response client ↔
      (parseApiEnvelopeResponse response setting.fallbackError true false = .ok () →
        NulFree convId ∧ (client.convCache.get convId ≠ none ∨ setting.HeldByRow row)) := by
  cases parsed : parseApiEnvelopeResponse response setting.fallbackError true false with
  | error failure =>
      have failed : setting.respond convId response client = (.error failure, client) := by
        rw [respond_eq, parsed]
      refine iff_of_true ?_ (fun succeeded => nomatch succeeded)
      constructor
      · rw [failed]
        exact fun succeeded => nomatch succeeded
      · rw [failed]
        exact fun succeeded => nomatch succeeded
      · rw [failed]
        exact fun _ _ => ⟨rfl, rfl⟩
  | ok data =>
      have succeeded : setting.respond convId response client =
          (.ok (), (setting.action convId).apply client) := by
        rw [respond_eq, parsed]
      rw [imp_iff_right rfl, ← exists_row_heldByRow_iff setting stored]
      constructor
      · intro durable
        have held := durable.stored
        have listed := durable.listed
        rw [succeeded] at held listed
        refine ⟨?_, held rfl⟩
        rcases listed rfl with ⟨conv, member, sameId, _⟩
        rcases Client.mem_localList_restart.mp member with ⟨storedId, _, _, rfl⟩
        rw [convId_rowToConversation] at sameId
        exact sameId ▸ nulFree_cString storedId
      · rintro ⟨nulFree, next, found, held⟩
        constructor
        · rw [succeeded]
          exact fun _ => ⟨next, found, held⟩
        · rw [succeeded]
          intro _
          refine ⟨_, Client.mem_localList_restart.mpr ⟨convId, next, found, rfl⟩, ?_,
            held.heldBy convId⟩
          rw [convId_rowToConversation]
          exact cString_eq_self nulFree
        · rw [succeeded]
          exact fun failure failed => nomatch failed

/-- The row of a conversation that a sync brought. -/
def syncedRow : ConversationRow where
  convType := "private"
  targetId := "u1"
  lastMsgText := ""
  lastMsgTimeMs := 0
  updatedAtMs := 0

/-- Muting a synced conversation, which is cached. -/
theorem durable_synced :
    (muted true).Durable "c1" acceptedResponse
      (EventRun.exec Event.apply (.start default {} 0)
        [syncOf { conversationId := "c1", targetId := "u1" }]) := by
  have stored : (EventRun.exec Event.apply (.start default {} 0)
      [syncOf { conversationId := "c1", targetId := "u1" }]).table.conversations.lookup "c1" =
      some syncedRow := by decide
  refine (durable_iff (muted true) _ "c1" acceptedResponse syncedRow stored).mpr fun _ => ?_
  exact ⟨by decide, .inl (by decide)⟩

/-- After a restart the conversation is not cached, and its row stays unmuted. -/
theorem not_durable_restarted :
    ¬(muted true).Durable "c1" acceptedResponse
      (EventRun.exec Event.apply (.start default {} 0)
        [syncOf { conversationId := "c1", targetId := "u1" }, .restart]) := by
  intro durable
  rcases durable.stored rfl with ⟨row, found, held⟩
  have kept : ((muted true).respond "c1" acceptedResponse
      (EventRun.exec Event.apply (.start default {} 0)
        [syncOf { conversationId := "c1", targetId := "u1" },
          .restart])).2.table.conversations.lookup "c1" = some syncedRow := by decide
  obtain rfl := Option.some.inj (kept.symm.trans found)
  have muted : syncedRow.isMuted = 1 := held
  exact absurd muted (by decide)

end Setting

end AnychatSdk
