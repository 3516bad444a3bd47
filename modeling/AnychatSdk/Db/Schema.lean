import AnychatSdk.Lib.KeyTable
import AnychatSdk.Json

/-!
# The SQLite schema and its statements

Tables are keyed by their primary keys.  A statement is data, so that the
database worker can queue it, and `Stmt.run` gives its effect.  SQLite enforces
the declared constraints: a statement that would break one leaves the database
as it is, and `INSERT OR IGNORE` skips a row on a uniqueness conflict.  The
callers drop every error, so a rejected statement and a skipped row look alike
to them.

Columns that the SDK always writes are plain values; a column that an insert may
leave `NULL` is an `Option`.
-/

namespace AnychatSdk

structure FriendRow where
  remark : String
  updatedAtMs : Int64
  isDeleted : Int64 := 0
  friendNickname : Option String := none
  friendAvatar : Option String := none
  deriving DecidableEq

structure ConversationRow where
  convType : String
  targetId : String
  lastMsgId : Option String := none
  lastMsgText : String
  lastMsgTimeMs : Int64
  unreadCount : Int64 := 0
  isPinned : Int64 := 0
  isMuted : Int64 := 0
  burnAfterReading : Int64 := 0
  autoDeleteDuration : Int64 := 0
  pinTimeMs : Int64 := 0
  localSeq : Int64 := 0
  updatedAtMs : Int64
  deriving DecidableEq

structure MessageRow where
  localId : String
  convId : String
  senderId : String
  contentType : Int64
  content : String
  seq : Int64
  replyTo : String
  status : Int64 := 0
  sendState : Int64 := 0
  isRead : Int64 := 0
  timestampMs : Int64
  deriving DecidableEq

structure GroupRow where
  name : String
  avatarUrl : String
  ownerId : Option String := none
  memberCount : Int64
  myRole : Option String := none
  updatedAtMs : Int64
  deriving DecidableEq

structure OutboundRow where
  convId : String
  convType : String
  contentType : Int64
  content : String
  retryCount : Int64 := 0
  createdAt : Int64
  deriving DecidableEq

/-- The tables of schema version 1 that the modelled code uses. -/
structure Db where
  friends : KeyTable String FriendRow := ∅
  conversations : KeyTable String ConversationRow := ∅
  messages : KeyTable String MessageRow := ∅
  groups : KeyTable String GroupRow := ∅
  outboundQueue : KeyTable String OutboundRow := ∅
  metadata : KeyTable String String := ∅

/-! ## Statements -/

/-- The columns a sync merge writes to `conversations`. -/
structure SessionColumns where
  convType : String
  targetId : String
  lastMsgText : String
  lastMsgTimeMs : Int64
  unreadCount : Int64
  isPinned : Int64
  isMuted : Int64
  updatedAtMs : Int64

/-- The row inserted when the conversation is new; the other columns get their
declared defaults. -/
def SessionColumns.fresh (columns : SessionColumns) : ConversationRow where
  convType := columns.convType
  targetId := columns.targetId
  lastMsgText := columns.lastMsgText
  lastMsgTimeMs := columns.lastMsgTimeMs
  unreadCount := columns.unreadCount
  isPinned := columns.isPinned
  isMuted := columns.isMuted
  updatedAtMs := columns.updatedAtMs

/-- The `DO UPDATE SET` list of the sync merge. -/
def SessionColumns.overwrite (columns : SessionColumns) (row : ConversationRow) :
    ConversationRow :=
  { row with
    convType := columns.convType
    targetId := columns.targetId
    lastMsgText := columns.lastMsgText
    lastMsgTimeMs := columns.lastMsgTimeMs
    unreadCount := columns.unreadCount
    isPinned := columns.isPinned
    isMuted := columns.isMuted
    updatedAtMs := columns.updatedAtMs }

/-- The SQL statements the modelled code executes. -/
inductive Stmt where
  /-- `INSERT INTO friends ... ON CONFLICT(user_id) DO UPDATE` -/
  | mergeFriend (userId remark : String) (updatedAtMs isDeleted : Int64)
  /-- `INSERT INTO groups ... ON CONFLICT(group_id) DO UPDATE` -/
  | mergeGroup (groupId name avatarUrl : String) (memberCount updatedAtMs : Int64)
  /-- `INSERT INTO conversations ... ON CONFLICT(conv_id) DO UPDATE`, partial -/
  | mergeSession (convId : String) (columns : SessionColumns)
  /-- `INSERT INTO conversations ... ON CONFLICT(conv_id) DO UPDATE`, whole row -/
  | upsertConversation (convId : String) (row : ConversationRow)
  /-- `UPDATE conversations SET local_seq = MAX(local_seq, ?) WHERE conv_id = ?` -/
  | raiseLocalSeq (convId : String) (seq : Int64)
  /-- `UPDATE conversations SET unread_count=0 WHERE conv_id=?` -/
  | clearUnread (convId : String)
  /-- `DELETE FROM conversations WHERE conv_id=?` -/
  | deleteConversation (convId : String)
  /-- `INSERT OR IGNORE INTO messages ...` -/
  | insertOrIgnoreMessage (messageId : String) (row : MessageRow)
  /-- `INSERT INTO messages ... ON CONFLICT(message_id) DO UPDATE` -/
  | upsertMessage (messageId : String) (row : MessageRow)
  /-- `UPDATE messages SET status = ? WHERE message_id = ?` -/
  | updateMessageStatus (messageId : String) (status : Int64)
  /-- `UPDATE messages SET status = ?, content = ? WHERE message_id = ?` -/
  | updateMessageStatusAndContent (messageId : String) (status : Int64) (content : String)
  /-- `INSERT OR IGNORE INTO outbound_queue ...` -/
  | insertOrIgnoreOutbound (localId : String) (row : OutboundRow)
  /-- `UPDATE outbound_queue SET retry_count = retry_count + 1 WHERE local_id = ?` -/
  | bumpRetryCount (localId : String)
  /-- `DELETE FROM outbound_queue WHERE local_id = ?` -/
  | deleteOutbound (localId : String)
  /-- `INSERT INTO metadata ... ON CONFLICT(key) DO UPDATE` -/
  | setMeta (key value : String)

namespace Db

/-- A message other than `messageId` already holds this `local_id`. -/
def localIdTaken (db : Db) (messageId localId : String) : Bool :=
  db.messages.any fun otherId row => otherId ≠ messageId && row.localId = localId

/-- Some message refers to the conversation, so the foreign key protects it. -/
def hasMessageOf (db : Db) (convId : String) : Bool :=
  db.messages.any fun _ row => row.convId = convId

/-- A row may stand under `messageId`: `UNIQUE(local_id)` and
`FOREIGN KEY(conv_id)` would both hold. -/
def acceptsMessage (db : Db) (messageId : String) (row : MessageRow) : Bool :=
  !db.localIdTaken messageId row.localId && decide (row.convId ∈ db.conversations)

end Db

/-- The effect of a statement.  Rejected and skipped statements change nothing. -/
def Stmt.run : Stmt → Db → Db
  | mergeFriend userId remark updatedAtMs isDeleted, db =>
      { db with
        friends := db.friends.upsert userId
          { remark := remark, updatedAtMs := updatedAtMs, isDeleted := isDeleted }
          fun row =>
            { row with remark := remark, updatedAtMs := updatedAtMs, isDeleted := isDeleted } }
  | mergeGroup groupId name avatarUrl memberCount updatedAtMs, db =>
      { db with
        groups := db.groups.upsert groupId
          { name := name, avatarUrl := avatarUrl, memberCount := memberCount,
            updatedAtMs := updatedAtMs }
          fun row =>
            { row with name := name, avatarUrl := avatarUrl, memberCount := memberCount,
                       updatedAtMs := updatedAtMs } }
  | mergeSession convId columns, db =>
      { db with
        conversations := db.conversations.upsert convId columns.fresh columns.overwrite }
  | upsertConversation convId row, db =>
      { db with conversations := db.conversations.upsert convId row fun _ => row }
  | raiseLocalSeq convId seq, db =>
      { db with
        conversations := db.conversations.update convId fun row =>
          { row with localSeq := max row.localSeq seq } }
  | clearUnread convId, db =>
      { db with
        conversations := db.conversations.update convId fun row => { row with unreadCount := 0 } }
  | deleteConversation convId, db =>
      if db.hasMessageOf convId then db
      else { db with conversations := db.conversations.erase convId }
  | insertOrIgnoreMessage messageId row, db =>
      if db.acceptsMessage messageId row then
        { db with messages := db.messages.insertOrIgnore messageId row }
      else db
  | upsertMessage messageId row, db =>
      if db.acceptsMessage messageId row then
        { db with messages := db.messages.upsert messageId row fun _ => row }
      else db
  | updateMessageStatus messageId status, db =>
      { db with
        messages := db.messages.update messageId fun row => { row with status := status } }
  | updateMessageStatusAndContent messageId status content, db =>
      { db with
        messages := db.messages.update messageId fun row =>
          { row with status := status, content := content } }
  | insertOrIgnoreOutbound localId row, db =>
      { db with outboundQueue := db.outboundQueue.insertOrIgnore localId row }
  | bumpRetryCount localId, db =>
      { db with
        outboundQueue := db.outboundQueue.update localId fun row =>
          { row with retryCount := row.retryCount + 1 } }
  | deleteOutbound localId, db =>
      { db with outboundQueue := db.outboundQueue.erase localId }
  | setMeta key value, db =>
      { db with metadata := db.metadata.upsert key value fun _ => value }

/-! ## The maximum of two integers -/

theorem max_eq_right_of_lt {first second : Int64} (less : first < second) :
    max first second = second :=
  if_pos (Int64.le_of_lt less)

theorem max_eq_left_of_not_lt {first second : Int64} (notLess : ¬first < second) :
    max first second = first := by
  by_cases same : first ≤ second
  · have equal : second = first := Int64.le_antisymm (Int64.not_lt.mp notLess) same
    rw [equal]
    exact if_pos (Int64.le_refl first)
  · exact if_neg same

theorem le_max_left (first second : Int64) : first ≤ max first second := by
  by_cases less : first < second
  · rw [max_eq_right_of_lt less]
    exact Int64.le_of_lt less
  · rw [max_eq_left_of_not_lt less]
    exact Int64.le_refl first

theorem le_max_right (first second : Int64) : second ≤ max first second := by
  by_cases less : first < second
  · rw [max_eq_right_of_lt less]
    exact Int64.le_refl second
  · rw [max_eq_left_of_not_lt less]
    exact Int64.not_lt.mp less

theorem max_le {first second bound : Int64} (firstLe : first ≤ bound) (secondLe : second ≤ bound) :
    max first second ≤ bound := by
  by_cases less : first < second
  · rwa [max_eq_right_of_lt less]
  · rwa [max_eq_left_of_not_lt less]

/-! ## Constraints -/

namespace Db

theorem localIdTaken_eq_true_iff {db : Db} {messageId localId : String} :
    db.localIdTaken messageId localId = true ↔
      ∃ otherId row, db.messages.lookup otherId = some row ∧ otherId ≠ messageId ∧
        row.localId = localId := by
  simp [localIdTaken, KeyTable.any_eq_true_iff]

theorem hasMessageOf_eq_true_iff {db : Db} {convId : String} :
    db.hasMessageOf convId = true ↔
      ∃ messageId row, db.messages.lookup messageId = some row ∧ row.convId = convId := by
  simp [hasMessageOf, KeyTable.any_eq_true_iff]

theorem acceptsMessage_eq_true_iff {db : Db} {messageId : String} {row : MessageRow} :
    db.acceptsMessage messageId row = true ↔
      db.localIdTaken messageId row.localId = false ∧ row.convId ∈ db.conversations := by
  simp [acceptsMessage]

/-- The constraints SQLite enforces beyond the primary keys. -/
structure Constraints (db : Db) : Prop where
  localId_unique : ∀ firstId secondId first second,
    db.messages.lookup firstId = some first → db.messages.lookup secondId = some second →
      first.localId = second.localId → firstId = secondId
  convId_exists : ∀ messageId row, db.messages.lookup messageId = some row →
    row.convId ∈ db.conversations

theorem Constraints.of_update {db : Db} (constraints : db.Constraints) (messageId : String)
    {change : MessageRow → MessageRow} (sameLocalId : ∀ row, (change row).localId = row.localId)
    (sameConvId : ∀ row, (change row).convId = row.convId) :
    Constraints { db with messages := db.messages.update messageId change } := by
  have origin : ∀ otherId row, (db.messages.update messageId change).lookup otherId = some row →
      ∃ old, db.messages.lookup otherId = some old ∧ row.localId = old.localId ∧
        row.convId = old.convId := by
    intro otherId row found
    rw [KeyTable.lookup_update] at found
    by_cases same : otherId = messageId
    · subst same
      rw [if_pos rfl, Option.map_eq_some_iff] at found
      rcases found with ⟨old, lookupOld, rfl⟩
      exact ⟨old, lookupOld, sameLocalId old, sameConvId old⟩
    · rw [if_neg same] at found
      exact ⟨row, found, rfl, rfl⟩
  constructor
  · intro firstId secondId first second firstRow secondRow localId_eq
    rcases origin firstId first firstRow with ⟨firstOld, firstFound, firstLocal, _⟩
    rcases origin secondId second secondRow with ⟨secondOld, secondFound, secondLocal, _⟩
    exact constraints.localId_unique firstId secondId firstOld secondOld firstFound secondFound
      (firstLocal.symm.trans (localId_eq.trans secondLocal))
  · intro otherId row found
    rcases origin otherId row found with ⟨old, lookupOld, _, convId_eq⟩
    rw [convId_eq]
    exact constraints.convId_exists otherId old lookupOld

theorem Constraints.of_accepted {db : Db} (constraints : db.Constraints) {messageId : String}
    {row : MessageRow} (accepted : db.acceptsMessage messageId row = true) :
    Constraints { db with messages := db.messages.insert messageId row } := by
  rcases acceptsMessage_eq_true_iff.mp accepted with ⟨free, parent⟩
  have notTaken : ∀ otherId other, db.messages.lookup otherId = some other →
      other.localId = row.localId → otherId = messageId := by
    intro otherId other found localId_eq
    by_contra different
    have taken := localIdTaken_eq_true_iff.mpr ⟨otherId, other, found, different, localId_eq⟩
    exact absurd (free.symm.trans taken) Bool.false_ne_true
  constructor
  · intro firstId secondId first second firstRow secondRow localId_eq
    rw [KeyTable.lookup_insert_eq_ite] at firstRow secondRow
    split at firstRow <;> split at secondRow
    · next firstSame secondSame => exact firstSame.trans secondSame.symm
    · next firstSame _ =>
        obtain rfl := Option.some.inj firstRow
        exact firstSame.trans (notTaken secondId second secondRow localId_eq.symm).symm
    · next _ secondSame =>
        obtain rfl := Option.some.inj secondRow
        exact (notTaken firstId first firstRow localId_eq).trans secondSame.symm
    · exact constraints.localId_unique firstId secondId first second firstRow secondRow localId_eq
  · intro otherId other found
    rw [KeyTable.lookup_insert_eq_ite] at found
    split at found
    · obtain rfl := Option.some.inj found
      exact parent
    · exact constraints.convId_exists otherId other found

theorem constraints_empty : Constraints {} where
  localId_unique := by
    intro firstId secondId first second firstRow
    simp at firstRow
  convId_exists := by
    intro messageId row found
    simp at found

theorem Constraints.of_conversations {db : Db} (constraints : db.Constraints)
    {conversations : KeyTable String ConversationRow}
    (kept : ∀ messageId row, db.messages.lookup messageId = some row →
      row.convId ∈ db.conversations → row.convId ∈ conversations) :
    Constraints { db with conversations := conversations } where
  localId_unique := constraints.localId_unique
  convId_exists messageId row found :=
    kept messageId row found (constraints.convId_exists messageId row found)

end Db

/-- No statement of the SDK can leave the database in breach of a constraint. -/
theorem Stmt.run_constraints (stmt : Stmt) {db : Db} (constraints : db.Constraints) :
    (stmt.run db).Constraints := by
  cases stmt with
  | mergeFriend => exact ⟨constraints.localId_unique, constraints.convId_exists⟩
  | mergeGroup => exact ⟨constraints.localId_unique, constraints.convId_exists⟩
  | mergeSession =>
      exact constraints.of_conversations fun _ _ _ member => KeyTable.mem_upsert.mpr (.inr member)
  | upsertConversation =>
      exact constraints.of_conversations fun _ _ _ member => KeyTable.mem_upsert.mpr (.inr member)
  | raiseLocalSeq =>
      exact constraints.of_conversations fun _ _ _ member => KeyTable.mem_update.mpr member
  | clearUnread =>
      exact constraints.of_conversations fun _ _ _ member => KeyTable.mem_update.mpr member
  | deleteConversation convId =>
      rw [Stmt.run]
      split
      · exact constraints
      · next unreferenced =>
          refine constraints.of_conversations fun messageId row found member => ?_
          refine AList.mem_erase.mpr ⟨fun same => unreferenced ?_, member⟩
          exact Db.hasMessageOf_eq_true_iff.mpr ⟨messageId, row, found, same⟩
  | insertOrIgnoreMessage messageId row =>
      rw [Stmt.run]
      split
      · next accepted =>
          unfold KeyTable.insertOrIgnore
          split
          · exact constraints
          · exact constraints.of_accepted accepted
      · exact constraints
  | upsertMessage messageId row =>
      rw [Stmt.run]
      split
      · next accepted =>
          unfold KeyTable.upsert
          split <;> exact constraints.of_accepted accepted
      · exact constraints
  | updateMessageStatus messageId =>
      exact constraints.of_update messageId (fun _ => rfl) (fun _ => rfl)
  | updateMessageStatusAndContent messageId =>
      exact constraints.of_update messageId (fun _ => rfl) (fun _ => rfl)
  | insertOrIgnoreOutbound => exact ⟨constraints.localId_unique, constraints.convId_exists⟩
  | bumpRetryCount => exact ⟨constraints.localId_unique, constraints.convId_exists⟩
  | deleteOutbound => exact ⟨constraints.localId_unique, constraints.convId_exists⟩
  | setMeta => exact ⟨constraints.localId_unique, constraints.convId_exists⟩

end AnychatSdk
