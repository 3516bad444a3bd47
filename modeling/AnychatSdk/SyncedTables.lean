import AnychatSdk.SyncClock

/-!
# The tables after a repeated response

The statements of a response are the same each time but for the clock that the
conversations read.  In the tables of friends and groups the last statement for a
key wins; in the others the first run settles every statement.
-/

namespace AnychatSdk

/-! ## The statements of a response -/

/-- The columns without the time at which they were written. -/
def SessionColumns.timeless (columns : SessionColumns) : SessionColumns :=
  { columns with updatedAtMs := 0 }

def Stmt.timeless : Stmt → Stmt
  | mergeSession convId columns => mergeSession convId columns.timeless
  | stmt => stmt

namespace SyncResponseDataPayload

/-- Without their times the statements do not depend on the clock. -/
theorem map_timeless_entryStmts (data : SyncResponseDataPayload) (readings : Nat → Int64) :
    (data.entryStmts readings).map Stmt.timeless = data.entryStmts fun _ => 0 := by
  simp only [entryStmts, List.map_append, friendStmts, groupStmts, sessionStmts, List.map_map,
    List.mapIdx_eq_zipIdx_map]
  rfl

theorem map_timeless_messageStmts (data : SyncResponseDataPayload) :
    data.messageStmts.map Stmt.timeless = data.messageStmts := by
  refine (List.map_congr_left fun stmt member => ?_).trans (List.map_id _)
  have merges := mergesMessage_of_mem member
  cases stmt <;> first | rfl | exact merges.elim

theorem map_timeless_stmts (data : SyncResponseDataPayload) (readings : Nat → Int64) :
    (data.stmts readings).map Stmt.timeless = data.stmts fun _ => 0 := by
  rw [stmts, stmts, List.map_append, map_timeless_entryStmts, map_timeless_messageStmts]

theorem merges_of_mem_stmts {data : SyncResponseDataPayload} {readings : Nat → Int64}
    {stmt : Stmt} (member : stmt ∈ data.stmts readings) :
    stmt.MergesEntry ∨ stmt.MergesMessage :=
  (List.mem_append.mp member).imp mergesEntry_of_mem mergesMessage_of_mem

end SyncResponseDataPayload

/-! ## Friends and groups -/

/-- What a statement does to the row of a friend. -/
def Stmt.onFriend (userId : String) (row : Option FriendRow) : Stmt → Option FriendRow
  | mergeFriend key remark updatedAtMs isDeleted =>
      if userId = key then
        some (row.elim
          { remark := remark, updatedAtMs := updatedAtMs, isDeleted := isDeleted }
          fun row =>
            { row with remark := remark, updatedAtMs := updatedAtMs, isDeleted := isDeleted })
      else row
  | _ => row

def Stmt.onGroup (groupId : String) (row : Option GroupRow) : Stmt → Option GroupRow
  | mergeGroup key name avatarUrl memberCount updatedAtMs =>
      if groupId = key then
        some (row.elim
          { name := name, avatarUrl := avatarUrl, memberCount := memberCount,
            updatedAtMs := updatedAtMs }
          fun row =>
            { row with name := name, avatarUrl := avatarUrl, memberCount := memberCount,
                       updatedAtMs := updatedAtMs })
      else row
  | _ => row

namespace Stmt

theorem lookup_friends_run (stmt : Stmt) (db : Db) (userId : String) :
    (stmt.run db).friends.lookup userId =
      stmt.timeless.onFriend userId (db.friends.lookup userId) := by
  cases stmt with
  | mergeFriend key =>
      refine (KeyTable.lookup_upsert key userId _ _ db.friends).trans ?_
      by_cases same : userId = key
      · subst same
        rfl
      · simp only [timeless, onFriend, if_neg same]
  | deleteConversation | insertOrIgnoreMessage | upsertMessage =>
      rw [run]
      split <;> rfl
  | _ => rfl

theorem lookup_groups_run (stmt : Stmt) (db : Db) (groupId : String) :
    (stmt.run db).groups.lookup groupId =
      stmt.timeless.onGroup groupId (db.groups.lookup groupId) := by
  cases stmt with
  | mergeGroup key =>
      refine (KeyTable.lookup_upsert key groupId _ _ db.groups).trans ?_
      by_cases same : groupId = key
      · subst same
        rfl
      · simp only [timeless, onGroup, if_neg same]
  | deleteConversation | insertOrIgnoreMessage | upsertMessage =>
      rw [run]
      split <;> rfl
  | _ => rfl

/-- A merge overwrites the columns that any merge overwrites. -/
theorem idle_or_hides_onFriend (userId : String) (stmt : Stmt) :
    Batch.Idle (onFriend userId) stmt ∨
      ∀ earlier, Batch.Hides (onFriend userId) stmt earlier := by
  cases stmt with
  | mergeFriend key =>
      by_cases same : userId = key
      · refine .inr fun earlier row => ?_
        simp only [onFriend, if_pos same]
        cases earlier with
        | mergeFriend other =>
            by_cases again : userId = other
            · simp only [if_pos again]
              cases row <;> rfl
            · simp only [if_neg again]
        | _ => rfl
      · exact .inl fun row => if_neg same
  | _ => exact .inl fun _ => rfl

theorem idle_or_hides_onGroup (groupId : String) (stmt : Stmt) :
    Batch.Idle (onGroup groupId) stmt ∨
      ∀ earlier, Batch.Hides (onGroup groupId) stmt earlier := by
  cases stmt with
  | mergeGroup key =>
      by_cases same : groupId = key
      · refine .inr fun earlier row => ?_
        simp only [onGroup, if_pos same]
        cases earlier with
        | mergeGroup other =>
            by_cases again : groupId = other
            · simp only [if_pos again]
              cases row <;> rfl
            · simp only [if_neg again]
        | _ => rfl
      · exact .inl fun row => if_neg same
  | _ => exact .inl fun _ => rfl

end Stmt

/-! ## Conversations -/

def ConversationRow.timeless (row : ConversationRow) : ConversationRow :=
  { row with updatedAtMs := 0 }

/-- What a merge does to the row of a conversation. -/
def Stmt.onConversation (convId : String) (row : Option ConversationRow) :
    Stmt → Option ConversationRow
  | mergeSession key columns =>
      if convId = key then some (row.elim columns.fresh columns.overwrite) else row
  | raiseLocalSeq key seq =>
      if convId = key then row.map fun row => { row with localSeq := max row.localSeq seq }
      else row
  | _ => row

namespace Stmt

theorem lookup_conversations_run {stmt : Stmt} (merges : stmt.MergesEntry ∨ stmt.MergesMessage)
    (db : Db) (convId : String) :
    ((stmt.run db).conversations.lookup convId).map ConversationRow.timeless =
      stmt.timeless.onConversation convId
        ((db.conversations.lookup convId).map ConversationRow.timeless) := by
  cases stmt with
  | mergeFriend | mergeGroup => rfl
  | mergeSession key columns =>
      refine (congrArg _ (KeyTable.lookup_upsert key convId _ _ db.conversations)).trans ?_
      by_cases same : convId = key
      · subst same
        simp only [timeless, onConversation, if_true]
        cases db.conversations.lookup convId <;> rfl
      · simp only [timeless, onConversation, if_neg same]
  | raiseLocalSeq key seq =>
      refine (congrArg _ (KeyTable.lookup_update key convId _ db.conversations)).trans ?_
      by_cases same : convId = key
      · subst same
        simp only [timeless, onConversation, if_true]
        cases db.conversations.lookup convId <;> rfl
      · simp only [timeless, onConversation, if_neg same]
  | insertOrIgnoreMessage =>
      rw [run]
      split <;> rfl
  | _ => exact (merges.elim id id).elim

theorem idle_or_hides_onConversation (convId : String) {stmt : Stmt}
    (merges : stmt.MergesEntry) :
    Batch.Idle (onConversation convId) stmt ∨
      ∀ earlier, earlier.MergesEntry →
        Batch.Hides (onConversation convId) stmt earlier := by
  cases stmt with
  | mergeFriend | mergeGroup => exact .inl fun _ => rfl
  | mergeSession key columns =>
      by_cases same : convId = key
      · refine .inr fun earlier mergesEarlier row => ?_
        simp only [onConversation, if_pos same]
        cases earlier with
        | mergeFriend | mergeGroup => rfl
        | mergeSession other =>
            by_cases again : convId = other
            · simp only [if_pos again]
              cases row <;> rfl
            · simp only [if_neg again]
        | _ => exact mergesEarlier.elim
      · exact .inl fun row => if_neg same
  | _ => exact merges.elim

theorem max_max_self (first second : Int64) :
    max (max first second) second = max first second :=
  max_eq_left_of_not_lt (Int64.not_lt.mpr (le_max_right first second))

/-- Once a conversation has the number, no higher one takes it away. -/
theorem max_eq_left_of_max_eq_left {first second : Int64} (reached : max first second = first)
    (other : Int64) : max (max first other) second = max first other := by
  have lower : second ≤ first := reached ▸ le_max_right first second
  exact max_eq_left_of_not_lt (Int64.not_lt.mpr (Int64.le_trans lower (le_max_left first other)))

/-- Later numbers leave what a merge of the conversation has written. -/
theorem onConversation_of_mergesMessage {convId : String} {stmt message : Stmt}
    (merges : stmt.MergesEntry) (mergesMessage : message.MergesMessage)
    {row : Option ConversationRow} (written : stmt.onConversation convId row = row) :
    stmt.onConversation convId (message.onConversation convId row) =
      message.onConversation convId row := by
  cases stmt with
  | mergeFriend | mergeGroup => rfl
  | mergeSession other columns =>
      cases message with
      | insertOrIgnoreMessage => exact written
      | raiseLocalSeq key seq =>
          simp only [onConversation] at written ⊢
          split
          · next same =>
              rw [if_pos same] at written
              split
              · cases row with
                | none => exact nomatch written
                | some row =>
                    have overwritten : columns.overwrite row = row := Option.some.inj written
                    refine congrArg some ?_
                    conv_rhs => rw [← overwritten]
                    rfl
              · exact written
          · rfl
      | _ => exact mergesMessage.elim
  | _ => exact merges.elim

/-- A number that is reached stays reached. -/
theorem settled_onConversation {convId : String} {stmt other : Stmt}
    (merges : stmt.MergesMessage) (mergesOther : other.MergesMessage)
    {row : Option ConversationRow} (settled : stmt.onConversation convId row = row) :
    stmt.onConversation convId (other.onConversation convId row) =
      other.onConversation convId row := by
  cases stmt with
  | insertOrIgnoreMessage => rfl
  | raiseLocalSeq key seq =>
      cases other with
      | insertOrIgnoreMessage => exact settled
      | raiseLocalSeq otherKey otherSeq =>
          simp only [onConversation] at settled ⊢
          split
          · next same =>
              rw [if_pos same] at settled
              by_cases again : convId = otherKey
              · rw [if_pos again]
                cases row with
                | none => rw [Option.map_none, Option.map_none]
                | some row =>
                    have reached : max row.localSeq seq = row.localSeq :=
                      congrArg ConversationRow.localSeq (Option.some.inj settled)
                    refine congrArg some ?_
                    dsimp only
                    rw [max_eq_left_of_max_eq_left reached]
              · rw [if_neg again]
                exact settled
          · rfl
      | _ => exact mergesOther.elim
  | _ => exact merges.elim

theorem onConversation_self {convId : String} {stmt : Stmt} (merges : stmt.MergesMessage)
    (row : Option ConversationRow) :
    stmt.onConversation convId (stmt.onConversation convId row) =
      stmt.onConversation convId row := by
  cases stmt with
  | insertOrIgnoreMessage => rfl
  | raiseLocalSeq key seq =>
      simp only [onConversation]
      split
      · cases row with
        | none => rfl
        | some row =>
            refine congrArg some ?_
            dsimp only
            rw [max_max_self]
      · rfl
  | _ => exact merges.elim

/-- The row of a conversation after a second run: the last merge of it finds what
it wrote, and every number is reached. -/
theorem run_run_onConversation {entries messages : List Stmt}
    (mergesEntry : ∀ stmt ∈ entries, stmt.MergesEntry)
    (mergesMessage : ∀ stmt ∈ messages, stmt.MergesMessage) (convId : String)
    (row : Option ConversationRow) :
    Batch.run (onConversation convId) (entries ++ messages)
        (Batch.run (onConversation convId) (entries ++ messages) row) =
      Batch.run (onConversation convId) (entries ++ messages) row := by
  rw [Batch.run_append, Batch.run_append]
  generalize reached_eq : Batch.run (onConversation convId) messages
    (Batch.run (onConversation convId) entries row) = reached
  have entriesAgain : Batch.run (onConversation convId) entries reached = reached := by
    have each (stmt : Stmt) (member : stmt ∈ entries) :=
      (idle_or_hides_onConversation convId (mergesEntry stmt member)).imp_right
        fun hides earlier member => hides earlier (mergesEntry earlier member)
    rcases Batch.run_eq_last each with idle | ⟨last, member, hides, eq_last⟩
    · exact idle reached
    · rw [eq_last, ← reached_eq]
      refine @Batch.run_invariant _ _ (onConversation convId)
        (fun state => last.onConversation convId state = state) messages
        (fun stmt listed state => onConversation_of_mergesMessage (mergesEntry last member)
          (mergesMessage stmt listed)) _ ?_
      rw [eq_last]
      exact hides last member row
  have settled : ∀ stmt ∈ messages, stmt.onConversation convId reached = reached := by
    rw [← reached_eq]
    exact @Batch.settled_run _ _ (onConversation convId)
      (fun state stmt => stmt.onConversation convId state = state) (fun _ => True) messages
      (fun _ _ _ _ => trivial)
      (fun stmt member state _ => onConversation_self (mergesMessage stmt member) state)
      (fun stmt member other listed state _ => settled_onConversation
        (mergesMessage stmt member) (mergesMessage other listed)) _ trivial
  rw [entriesAgain]
  exact Batch.run_eq_self settled

end Stmt

/-! ## Messages -/

namespace Db

/-- The same messages, and rows for the same conversations. -/
structure SameMessages (before after : Db) : Prop where
  messages : after.messages = before.messages
  conversations : ∀ convId, convId ∈ after.conversations ↔ convId ∈ before.conversations

/-- A merge that brings neither a message nor a conversation. -/
def Settled (db : Db) : Stmt → Prop
  | .mergeSession convId _ => convId ∈ db.conversations
  | .insertOrIgnoreMessage messageId row =>
      messageId ∈ db.messages ∨ db.acceptsMessage messageId row = false
  | _ => True

theorem SameMessages.trans {first second third : Db} (before : SameMessages first second)
    (after : SameMessages second third) : SameMessages first third where
  messages := after.messages.trans before.messages
  conversations convId := (after.conversations convId).trans (before.conversations convId)

theorem SameMessages.acceptsMessage {before after : Db} (same : SameMessages before after)
    (messageId : String) (row : MessageRow) :
    after.acceptsMessage messageId row = before.acceptsMessage messageId row := by
  simp only [Db.acceptsMessage, localIdTaken, same.messages, same.conversations]

theorem SameMessages.settled {before after : Db} (same : SameMessages before after) {stmt : Stmt}
    (settled : before.Settled stmt) : after.Settled stmt := by
  cases stmt with
  | mergeSession convId => exact (same.conversations convId).mpr settled
  | insertOrIgnoreMessage messageId row =>
      refine settled.imp (fun present => ?_) fun rejected => ?_
      · rw [same.messages]
        exact present
      · rw [same.acceptsMessage]
        exact rejected
  | _ => trivial

/-- Settled statements bring nothing. -/
theorem Settled.sameMessages_run {db : Db} {stmt : Stmt}
    (merges : stmt.MergesEntry ∨ stmt.MergesMessage) (settled : db.Settled stmt) :
    SameMessages db (stmt.run db) := by
  cases stmt with
  | mergeFriend | mergeGroup => exact ⟨rfl, fun _ => Iff.rfl⟩
  | mergeSession convId =>
      refine ⟨rfl, fun other => KeyTable.mem_upsert.trans ⟨fun listed => ?_, .inr⟩⟩
      rcases listed with rfl | present
      · exact settled
      · exact present
  | raiseLocalSeq => exact ⟨rfl, fun _ => KeyTable.mem_update⟩
  | insertOrIgnoreMessage messageId row =>
      rw [Stmt.run]
      split
      · next accepted =>
          rcases settled with present | rejected
          · exact ⟨if_pos present, fun _ => Iff.rfl⟩
          · exact Bool.noConfusion (rejected.symm.trans accepted)
      · exact ⟨rfl, fun _ => Iff.rfl⟩
  | _ => exact (merges.elim id id).elim

/-- A taken local id stays taken when a message is added. -/
theorem localIdTaken_insertOrIgnore {db : Db} {messageId localId added : String}
    {row : MessageRow} (taken : db.localIdTaken messageId localId = true) :
    Db.localIdTaken { db with messages := db.messages.insertOrIgnore added row } messageId
      localId = true := by
  rw [localIdTaken_eq_true_iff] at taken ⊢
  rcases taken with ⟨otherId, other, found, different, same⟩
  refine ⟨otherId, other, ?_, different, same⟩
  refine (KeyTable.lookup_insertOrIgnore added otherId row db.messages).trans ?_
  split
  · next equal =>
      subst equal
      rw [found]
      rfl
  · exact found

/-- Statements of messages keep each other settled. -/
theorem Settled.run_message {db : Db} {stmt other : Stmt} (merges : stmt.MergesMessage)
    (mergesOther : other.MergesMessage) (settled : db.Settled stmt) :
    (other.run db).Settled stmt := by
  cases other with
  | raiseLocalSeq =>
      have same : SameMessages db _ := Settled.sameMessages_run (.inr mergesOther) trivial
      exact same.settled settled
  | insertOrIgnoreMessage added addedRow =>
      rw [Stmt.run]
      split
      · cases stmt with
        | insertOrIgnoreMessage messageId row =>
            rcases settled with present | rejected
            · exact .inl (KeyTable.mem_insertOrIgnore.mpr (.inr present))
            · refine .inr ?_
              simp only [acceptsMessage, Bool.and_eq_false_iff, Bool.not_eq_false'] at rejected ⊢
              exact rejected.imp_left localIdTaken_insertOrIgnore
        | raiseLocalSeq => trivial
        | _ => exact merges.elim
      · exact settled
  | _ => exact mergesOther.elim

theorem settled_run_self {db : Db} {stmt : Stmt} : (stmt.run db).Settled stmt := by
  cases stmt with
  | mergeSession convId => exact KeyTable.mem_upsert.mpr (.inl rfl)
  | insertOrIgnoreMessage messageId row =>
      rw [Stmt.run]
      split
      · exact .inl (KeyTable.mem_insertOrIgnore.mpr (.inl rfl))
      · next rejected => exact .inr (Bool.eq_false_iff.mpr rejected)
  | _ => trivial

/-- No merge takes a conversation away. -/
theorem Settled.run_merge {db : Db} {stmt other : Stmt} (merges : stmt.MergesEntry)
    (mergesOther : other.MergesEntry ∨ other.MergesMessage) (settled : db.Settled stmt) :
    (other.run db).Settled stmt := by
  cases stmt with
  | mergeFriend | mergeGroup => trivial
  | mergeSession convId =>
      cases other with
      | mergeFriend | mergeGroup => exact settled
      | mergeSession => exact KeyTable.mem_upsert.mpr (.inr settled)
      | raiseLocalSeq => exact KeyTable.mem_update.mpr settled
      | insertOrIgnoreMessage =>
          rw [Stmt.run]
          split <;> exact settled
      | _ => exact (mergesOther.elim id id).elim
  | _ => exact merges.elim

/-- After a run of the statements all of them are settled. -/
theorem settled_runAll {entries messages : List Stmt}
    (mergesEntry : ∀ stmt ∈ entries, stmt.MergesEntry)
    (mergesMessage : ∀ stmt ∈ messages, stmt.MergesMessage) (db : Db) :
    ∀ stmt ∈ entries ++ messages, (db.runAll (entries ++ messages)).Settled stmt := by
  rw [runAll_append]
  intro stmt member
  rcases List.mem_append.mp member with entry | message
  · have written : (db.runAll entries).Settled stmt :=
      @Batch.settled_run Db Stmt (fun db stmt => stmt.run db) Settled (fun _ => True) entries
        (fun _ _ _ _ => trivial) (fun _ _ _ _ => settled_run_self)
        (fun item listed other otherListed _ _ => Settled.run_merge (mergesEntry item listed)
          (.inl (mergesEntry other otherListed))) db trivial stmt entry
    exact @Batch.run_invariant Db Stmt (fun db stmt => stmt.run db) (fun db => db.Settled stmt)
      messages (fun other listed _ => Settled.run_merge (mergesEntry stmt entry)
        (.inr (mergesMessage other listed))) _ written
  · exact @Batch.settled_run Db Stmt (fun db stmt => stmt.run db) Settled (fun _ => True) messages
      (fun _ _ _ _ => trivial) (fun _ _ _ _ => settled_run_self)
      (fun item listed other otherListed _ _ => Settled.run_message (mergesMessage item listed)
        (mergesMessage other otherListed)) _ trivial stmt message

/-- A second run of the statements brings nothing, whatever time they carry. -/
theorem SameMessages.runAll {stmts again : List Stmt} (same : again.map Stmt.timeless =
      stmts.map Stmt.timeless) (merges : ∀ stmt ∈ again, stmt.MergesEntry ∨ stmt.MergesMessage)
    {db : Db} (settled : ∀ stmt ∈ stmts, db.Settled stmt) : SameMessages db (db.runAll again) := by
  have timeless (stmt : Stmt) : db.Settled stmt.timeless ↔ db.Settled stmt := by
    cases stmt <;> exact Iff.rfl
  have settledAgain (stmt : Stmt) (member : stmt ∈ again) : db.Settled stmt := by
    have listed : stmt.timeless ∈ again.map Stmt.timeless := List.mem_map.mpr ⟨stmt, member, rfl⟩
    rw [same] at listed
    rcases List.mem_map.mp listed with ⟨first, firstMem, equal⟩
    rw [← timeless, ← equal, timeless]
    exact settled first firstMem
  exact @Batch.run_invariant Db Stmt (fun db stmt => stmt.run db) (SameMessages db) again
    (fun stmt member _ reached => reached.trans
      (Settled.sameMessages_run (merges stmt member) (reached.settled (settledAgain stmt member))))
    db ⟨rfl, fun _ => Iff.rfl⟩

theorem metadata_run (stmt : Stmt) (merges : stmt.MergesEntry ∨ stmt.MergesMessage)
    (db : Db) : (stmt.run db).metadata = db.metadata := by
  cases stmt with
  | mergeFriend | mergeGroup | mergeSession | raiseLocalSeq => rfl
  | insertOrIgnoreMessage =>
      rw [Stmt.run]
      split <;> rfl
  | _ => exact (merges.elim id id).elim

/-! ## The whole response -/

/-- What a response does to the tables. -/
def applied (readings : Nat → Int64) (data : SyncResponseDataPayload) (db : Db) : Db :=
  (db.runAll (data.stmts readings)).setTime data.time

/-- The same rows, but for `updated_at_ms` of conversations. -/
structure SameRows (first second : Db) : Prop where
  friends : ∀ userId, second.friends.lookup userId = first.friends.lookup userId
  groups : ∀ groupId, second.groups.lookup groupId = first.groups.lookup groupId
  conversations : ∀ convId,
    (second.conversations.lookup convId).map ConversationRow.timeless =
      (first.conversations.lookup convId).map ConversationRow.timeless
  messages : ∀ messageId, second.messages.lookup messageId = first.messages.lookup messageId
  metadata : ∀ key, second.metadata.lookup key = first.metadata.lookup key

/-- A part of the tables on which each statement has an effect, whatever its time. -/
theorem view_runAll {τ : Type} (view : Db → τ) (effect : τ → Stmt → τ) {stmts : List Stmt}
    (each : ∀ stmt ∈ stmts, ∀ db, view (stmt.run db) = effect (view db) stmt.timeless)
    (db : Db) : view (db.runAll stmts) = Batch.run effect (stmts.map Stmt.timeless) (view db) :=
  Batch.view_run each db

section Applied

variable (readings : Nat → Int64) (data : SyncResponseDataPayload) (db : Db)

theorem lookup_friends_applied (userId : String) :
    (db.applied readings data).friends.lookup userId =
      Batch.run (Stmt.onFriend userId) (data.stmts fun _ => 0) (db.friends.lookup userId) := by
  rw [← data.map_timeless_stmts readings]
  refine Eq.trans ?_ (view_runAll (fun db => db.friends.lookup userId) (Stmt.onFriend userId)
    (fun stmt _ db => stmt.lookup_friends_run db userId) db)
  rw [applied, setTime]
  split <;> rfl

theorem lookup_groups_applied (groupId : String) :
    (db.applied readings data).groups.lookup groupId =
      Batch.run (Stmt.onGroup groupId) (data.stmts fun _ => 0) (db.groups.lookup groupId) := by
  rw [← data.map_timeless_stmts readings]
  refine Eq.trans ?_ (view_runAll (fun db => db.groups.lookup groupId) (Stmt.onGroup groupId)
    (fun stmt _ db => stmt.lookup_groups_run db groupId) db)
  rw [applied, setTime]
  split <;> rfl

theorem lookup_conversations_applied (convId : String) :
    ((db.applied readings data).conversations.lookup convId).map ConversationRow.timeless =
      Batch.run (Stmt.onConversation convId) (data.stmts fun _ => 0)
        ((db.conversations.lookup convId).map ConversationRow.timeless) := by
  rw [← data.map_timeless_stmts readings]
  refine Eq.trans ?_ (view_runAll
    (fun db => (db.conversations.lookup convId).map ConversationRow.timeless)
    (Stmt.onConversation convId)
    (fun _ member db => Stmt.lookup_conversations_run
      (SyncResponseDataPayload.merges_of_mem_stmts member) db convId)
    db)
  rw [applied, setTime]
  split <;> rfl

theorem messages_applied :
    (db.applied readings data).messages = (db.runAll (data.stmts readings)).messages := by
  rw [applied, setTime]
  split <;> rfl

theorem lookup_metadata_applied (key : String) :
    (db.applied readings data).metadata.lookup key =
      if 0 < data.time ∧ key = "last_sync_time" then some (toString data.time)
      else db.metadata.lookup key := by
  have untouched : (db.runAll (data.stmts readings)).metadata = db.metadata :=
    @Batch.run_invariant Db Stmt (fun db stmt => stmt.run db)
      (fun reached => reached.metadata = db.metadata) (data.stmts readings)
      (fun stmt member _ same =>
        (metadata_run stmt (SyncResponseDataPayload.merges_of_mem_stmts member) _).trans same)
      db rfl
  rw [applied, setTime]
  by_cases positive : 0 < data.time
  · rw [if_pos positive]
    refine (KeyTable.lookup_upsert "last_sync_time" key _ _ _).trans ?_
    rw [untouched]
    by_cases same : key = "last_sync_time"
    · rw [if_pos same, if_pos ⟨positive, same⟩]
      cases db.metadata.lookup "last_sync_time" <;> rfl
    · rw [if_neg same, if_neg fun both => same both.2]
  · rw [if_neg positive, if_neg fun both => positive both.1, untouched]

end Applied

/-- A response leaves the tables as they are when it has been applied before. -/
theorem sameRows_applied (readings again : Nat → Int64) (data : SyncResponseDataPayload)
    (db : Db) :
    SameRows (db.applied readings data) ((db.applied readings data).applied again data) where
  friends userId := by
    rw [lookup_friends_applied again, lookup_friends_applied readings]
    exact Batch.run_run_of_hides (fun stmt _ =>
      (stmt.idle_or_hides_onFriend userId).imp_right fun hides earlier _ => hides earlier) _
  groups groupId := by
    rw [lookup_groups_applied again, lookup_groups_applied readings]
    exact Batch.run_run_of_hides (fun stmt _ =>
      (stmt.idle_or_hides_onGroup groupId).imp_right fun hides earlier _ => hides earlier) _
  conversations convId := by
    rw [lookup_conversations_applied again, lookup_conversations_applied readings]
    exact Stmt.run_run_onConversation (fun _ => SyncResponseDataPayload.mergesEntry_of_mem)
      (fun _ => SyncResponseDataPayload.mergesMessage_of_mem) convId _
  messages messageId := by
    have settled : ∀ stmt ∈ data.stmts readings,
        (db.applied readings data).Settled stmt := by
      intro stmt member
      refine SameMessages.settled ?_ (settled_runAll
        (fun _ => SyncResponseDataPayload.mergesEntry_of_mem)
        (fun _ => SyncResponseDataPayload.mergesMessage_of_mem) db stmt member)
      rw [applied, setTime]
      split <;> exact ⟨rfl, fun _ => Iff.rfl⟩
    have again : SameMessages (db.applied readings data) _ :=
      SameMessages.runAll ((data.map_timeless_stmts again).trans
        (data.map_timeless_stmts readings).symm)
        (fun _ => SyncResponseDataPayload.merges_of_mem_stmts) settled
    rw [messages_applied, again.messages]
  metadata key := by
    rw [lookup_metadata_applied again, lookup_metadata_applied readings]
    split <;> rfl

end Db

end AnychatSdk
