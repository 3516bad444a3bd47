import AnychatSdk.SyncEngine
import AnychatSdk.Lib.Batch
import AnychatSdk.Lib.EventRun
import Mathlib.Data.List.InsertIdx

/-!
# The sync clock

A response is to the tables a list of statements and, last, the new
synchronisation time.  Each statement waits for the database worker, which may
run statements of other threads before it, and its result is dropped.
-/

namespace AnychatSdk

/-! ## A response as statements -/

/-- The last synchronisation time as `sync` reads it. -/
def Db.lastSyncTime (db : Db) : Int64 :=
  (stoll (db.getMeta "last_sync_time" "0")).getD 0

def friendStmts (friends : List FriendDeltaPayload) : List Stmt :=
  (friends.filter fun payload => payload.userId ≠ "").map fun payload =>
    .mergeFriend payload.userId payload.remark (parseInt64Value payload.updatedAt 0)
      (if parseBoolValue payload.isDeleted false then 1 else 0)

def groupStmts (groups : List GroupDeltaPayload) : List Stmt :=
  (groups.filter fun payload => payload.groupId ≠ "").map fun payload =>
    .mergeGroup payload.groupId payload.name payload.avatar
      (parseInt64Value payload.memberCount 0) (parseInt64Value payload.updatedAt 0)

/-- Each conversation reads the clock once. -/
def sessionStmts (readings : Nat → Int64) (sessions : List ConversationDeltaPayload) :
    List Stmt :=
  (sessions.filter fun payload => payload.conversationId ≠ "").mapIdx fun index payload =>
    .mergeSession payload.conversationId
      (Client.sessionColumns (Client.sessionConversation payload (readings index)))

def messageStmts (payload : ConversationMessagesPayload) : List Stmt :=
  if payload.conversationId = "" then []
  else
    let messages := Client.syncedMessages payload
    (messages.map fun message => .insertOrIgnoreMessage message.messageId message.toRow) ++
      if 0 < Client.maxSeqSeen messages then
        [.raiseLocalSeq payload.conversationId (Client.maxSeqSeen messages)]
      else []

/-- The statements of a response before those of its messages. -/
def SyncResponseDataPayload.entryStmts (readings : Nat → Int64)
    (data : SyncResponseDataPayload) : List Stmt :=
  friendStmts (data.friends.getD []) ++ groupStmts (data.groups.getD []) ++
    sessionStmts readings (data.conversationData.getD [])

def SyncResponseDataPayload.messageStmts (data : SyncResponseDataPayload) : List Stmt :=
  (data.conversations.getD []).flatMap AnychatSdk.messageStmts

/-- The statements of a response but the last, which sets the time. -/
def SyncResponseDataPayload.stmts (readings : Nat → Int64) (data : SyncResponseDataPayload) :
    List Stmt :=
  data.entryStmts readings ++ data.messageStmts

/-- A statement that merges a friend, a group or a conversation. -/
def Stmt.MergesEntry : Stmt → Prop
  | mergeFriend .. | mergeGroup .. | mergeSession .. => True
  | _ => False

/-- A statement that a synced message leads to. -/
def Stmt.MergesMessage : Stmt → Prop
  | insertOrIgnoreMessage .. | raiseLocalSeq .. => True
  | _ => False

namespace SyncResponseDataPayload

variable {data : SyncResponseDataPayload} {readings : Nat → Int64} {stmt : Stmt}

theorem mergesEntry_of_mem (member : stmt ∈ data.entryStmts readings) : stmt.MergesEntry := by
  rw [entryStmts, List.mem_append, List.mem_append, friendStmts, groupStmts, sessionStmts] at member
  rcases member with (friends | groups) | sessions
  · rcases List.mem_map.mp friends with ⟨_, _, rfl⟩
    trivial
  · rcases List.mem_map.mp groups with ⟨_, _, rfl⟩
    trivial
  · rcases List.mem_mapIdx.mp sessions with ⟨_, _, rfl⟩
    trivial

theorem mergesMessage_of_mem (member : stmt ∈ data.messageStmts) : stmt.MergesMessage := by
  rcases List.mem_flatMap.mp member with ⟨payload, _, listed⟩
  rw [AnychatSdk.messageStmts] at listed
  split at listed
  · exact absurd listed List.not_mem_nil
  · rcases List.mem_append.mp listed with inserted | raised
    · rcases List.mem_map.mp inserted with ⟨_, _, rfl⟩
      trivial
    · split at raised
      · obtain rfl := List.mem_singleton.mp raised
        trivial
      · exact absurd raised List.not_mem_nil

end SyncResponseDataPayload

def SyncResponseDataPayload.time (data : SyncResponseDataPayload) : Int64 :=
  parseInt64Value data.syncTime 0

/-- The data of a response that `sync` handles. -/
def acceptedData (response : HttpResponse SyncResponseDataPayload) :
    Option SyncResponseDataPayload :=
  if response.error ≠ "" ∨ response.statusCode ≠ 200 then none
  else
    match response.body with
    | .parsed envelope => if envelope.code ≠ 0 then none else some envelope.data
    | _ => none

namespace Db

def runAll (stmts : List Stmt) (db : Db) : Db :=
  Batch.run (fun db stmt => stmt.run db) stmts db

@[simp]
theorem runAll_nil (db : Db) : db.runAll [] = db :=
  rfl

@[simp]
theorem runAll_cons (stmt : Stmt) (stmts : List Stmt) (db : Db) :
    db.runAll (stmt :: stmts) = (stmt.run db).runAll stmts :=
  rfl

theorem runAll_append (first second : List Stmt) (db : Db) :
    db.runAll (first ++ second) = (db.runAll first).runAll second :=
  Batch.run_append first second db

def setTime (time : Int64) (db : Db) : Db :=
  if 0 < time then (Stmt.setMeta "last_sync_time" (toString time)).run db else db

end Db

namespace Client

/-! ## The merges and the statements -/

theorem table_mergeFriends (friends : List FriendDeltaPayload) (client : Client) :
    (client.mergeFriends friends).table = client.table.runAll (friendStmts friends) := by
  induction friends generalizing client with
  | nil => rfl
  | cons payload friends ih =>
      rw [mergeFriends, List.foldl_cons]
      refine (ih _).trans ?_
      by_cases empty : payload.userId = ""
      · rw [mergeFriend, if_pos empty, friendStmts, friendStmts,
          List.filter_cons_of_neg (by simpa using empty)]
      · rw [mergeFriend, if_neg empty, friendStmts, friendStmts,
          List.filter_cons_of_pos (by simpa using empty)]
        rfl

theorem table_mergeGroups (groups : List GroupDeltaPayload) (client : Client) :
    (client.mergeGroups groups).table = client.table.runAll (groupStmts groups) := by
  induction groups generalizing client with
  | nil => rfl
  | cons payload groups ih =>
      rw [mergeGroups, List.foldl_cons]
      refine (ih _).trans ?_
      by_cases empty : payload.groupId = ""
      · rw [mergeGroup, if_pos empty, groupStmts, groupStmts,
          List.filter_cons_of_neg (by simpa using empty)]
      · rw [mergeGroup, if_neg empty, groupStmts, groupStmts,
          List.filter_cons_of_pos (by simpa using empty)]
        rfl

/-- The readings of the clock that come next. -/
def readings (client : Client) (index : Nat) : Int64 :=
  client.platform.wallClock (client.clockReads + index)

theorem readings_tick (client : Client) :
    ({ client with clockReads := client.clockReads + 1 } : Client).readings =
      fun index => client.readings (index + 1) := by
  funext index
  rw [readings, readings, Nat.add_assoc, Nat.add_comm 1 index]

theorem table_mergeSessions (sessions : List ConversationDeltaPayload) (client : Client) :
    (client.mergeSessions sessions).table =
      client.table.runAll (sessionStmts client.readings sessions) := by
  induction sessions generalizing client with
  | nil => rfl
  | cons payload sessions ih =>
      rw [mergeSessions, List.foldl_cons]
      refine (ih _).trans ?_
      by_cases empty : payload.conversationId = ""
      · rw [mergeSession, if_pos empty, sessionStmts, sessionStmts,
          List.filter_cons_of_neg (by simpa using empty)]
      · rw [mergeSession, if_neg empty, sessionStmts, sessionStmts,
          List.filter_cons_of_pos (by simpa using empty), List.mapIdx_cons, Db.runAll_cons]
        exact congrArg
          (fun readings => ((Stmt.mergeSession payload.conversationId
            (sessionColumns (sessionConversation payload (client.readings 0)))).run
              client.table).runAll (sessionStmts readings sessions)) client.readings_tick

theorem table_storeSyncedMessages (messages : List Message) (client : Client) :
    (messages.foldl (fun client message => client.storeSyncedMessage message) client).table =
      client.table.runAll
        (messages.map fun message => .insertOrIgnoreMessage message.messageId message.toRow) := by
  induction messages generalizing client with
  | nil => rfl
  | cons message messages ih =>
      rw [List.foldl_cons]
      exact ih _

@[simp]
theorem table_raiseSequence (convId : String) (seq : Int64) (client : Client) :
    (client.raiseSequence convId seq).table =
      (Stmt.raiseLocalSeq convId seq).run client.table := by
  simp only [raiseSequence]
  split
  · rfl
  · split <;> rfl

theorem table_mergeConversationMessages (payload : ConversationMessagesPayload)
    (client : Client) :
    (client.mergeConversationMessages payload).table =
      client.table.runAll (messageStmts payload) := by
  rw [mergeConversationMessages, messageStmts]
  split
  · rfl
  · dsimp only
    rw [Db.runAll_append, ← table_storeSyncedMessages]
    split
    · rw [table_raiseSequence]
      rfl
    · rfl

theorem table_mergeConvMessages (conversations : List ConversationMessagesPayload)
    (client : Client) :
    (client.mergeConvMessages conversations).table =
      client.table.runAll (conversations.flatMap messageStmts) := by
  induction conversations generalizing client with
  | nil => rfl
  | cons payload conversations ih =>
      rw [mergeConvMessages, List.foldl_cons, List.flatMap_cons, Db.runAll_append,
        ← table_mergeConversationMessages]
      exact ih _

theorem table_setSyncTime (time : Int64) (client : Client) :
    (client.setSyncTime time).table = client.table.setTime time := by
  rw [setSyncTime, Db.setTime]
  split <;> rfl

/-- The caches are the same, and so are the readings of the clock that come next. -/
structure KeepsCaches (before after : Client) : Prop where
  convCache : after.convCache = before.convCache
  msgCache : after.msgCache = before.msgCache
  readings : after.readings = before.readings

theorem keepsCaches_mergeFriends (friends : List FriendDeltaPayload) (client : Client) :
    KeepsCaches client (client.mergeFriends friends) := by
  refine @Batch.run_invariant _ _ (fun client payload => mergeFriend payload client)
    (KeepsCaches client) friends (fun payload _ reached kept => ?_) client ⟨rfl, rfl, rfl⟩
  rw [mergeFriend]
  split
  · exact kept
  · exact ⟨kept.convCache, kept.msgCache, kept.readings⟩

theorem keepsCaches_mergeGroups (groups : List GroupDeltaPayload) (client : Client) :
    KeepsCaches client (client.mergeGroups groups) := by
  refine @Batch.run_invariant _ _ (fun client payload => mergeGroup payload client)
    (KeepsCaches client) groups (fun payload _ reached kept => ?_) client ⟨rfl, rfl, rfl⟩
  rw [mergeGroup]
  split
  · exact kept
  · exact ⟨kept.convCache, kept.msgCache, kept.readings⟩

theorem syncResponse_of_refused {response : HttpResponse SyncResponseDataPayload}
    (refused : acceptedData response = none) (client : Client) :
    client.syncResponse response = client := by
  rw [acceptedData] at refused
  rw [syncResponse]
  split at refused
  · next failed => rw [if_pos failed]
  · next arrived =>
      rw [if_neg arrived]
      cases body : response.body with
      | parsed envelope =>
          rw [body] at refused
          dsimp only at refused ⊢
          rw [handleSyncResponse]
          split at refused
          · next failed => rw [if_pos failed]
          · exact nomatch refused
      | _ => rfl

theorem syncResponse_of_accepted {response : HttpResponse SyncResponseDataPayload}
    {data : SyncResponseDataPayload} (accepted : acceptedData response = some data)
    (client : Client) :
    client.syncResponse response =
      (client.mergeFriends (data.friends.getD [])
        |>.mergeGroups (data.groups.getD [])
        |>.mergeSessions (data.conversationData.getD [])
        |>.mergeConvMessages (data.conversations.getD [])
        |>.setSyncTime data.time) := by
  rw [acceptedData] at accepted
  rw [syncResponse]
  split at accepted
  · exact nomatch accepted
  · next arrived =>
      rw [if_neg arrived]
      cases body : response.body with
      | parsed envelope =>
          rw [body] at accepted
          dsimp only at accepted ⊢
          rw [handleSyncResponse]
          split at accepted
          · exact nomatch accepted
          · next succeeded =>
              obtain rfl := Option.some.inj accepted
              rw [if_neg succeeded]
              rfl
      | _ =>
          rw [body] at accepted
          exact nomatch accepted

/-- To the tables, `sync` handles a response by running its statements. -/
theorem table_syncResponse {response : HttpResponse SyncResponseDataPayload}
    {data : SyncResponseDataPayload} (accepted : acceptedData response = some data)
    (client : Client) :
    (client.syncResponse response).table =
      (client.table.runAll (data.stmts client.readings)).setTime data.time := by
  rw [syncResponse_of_accepted accepted, table_setSyncTime, table_mergeConvMessages,
    table_mergeSessions, table_mergeGroups, table_mergeFriends,
    (keepsCaches_mergeGroups _ _).readings, (keepsCaches_mergeFriends _ _).readings]
  simp only [SyncResponseDataPayload.stmts, SyncResponseDataPayload.entryStmts, Db.runAll_append]
  rfl

theorem lastSyncTime_syncRequest (client : Client) :
    client.syncRequest.lastSyncTime = client.table.lastSyncTime := by
  have same : client.getMeta "last_sync_time" "0" = client.table.getMeta "last_sync_time" "0" :=
    rfl
  rw [Db.lastSyncTime, ← same]
  simp only [syncRequest]

end Client

/-! ## Statements that fail -/

namespace Db

/-- The entry that a merge statement is to store stands in its table. -/
def Carries (db : Db) : Stmt → Prop
  | .mergeFriend userId remark updatedAtMs isDeleted =>
      ∃ row ∈ db.friends.lookup userId,
        row.remark = remark ∧ row.updatedAtMs = updatedAtMs ∧ row.isDeleted = isDeleted
  | .mergeGroup groupId name avatarUrl memberCount updatedAtMs =>
      ∃ row ∈ db.groups.lookup groupId,
        row.name = name ∧ row.avatarUrl = avatarUrl ∧ row.memberCount = memberCount ∧
          row.updatedAtMs = updatedAtMs
  | .mergeSession convId columns =>
      ∃ row ∈ db.conversations.lookup convId, columns.overwrite row = row
  | .insertOrIgnoreMessage messageId _ => messageId ∈ db.messages
  | _ => True

/-- No constraint rejects the statement. -/
def Admits (db : Db) : Stmt → Prop
  | .insertOrIgnoreMessage messageId row => db.acceptsMessage messageId row = true
  | _ => True

theorem overwrite_fresh (columns : SessionColumns) :
    columns.overwrite columns.fresh = columns.fresh :=
  rfl

/-- A statement that runs stores its entry unless a constraint rejects it. -/
theorem carries_run_iff (stmt : Stmt) (db : Db) :
    (stmt.run db).Carries stmt ↔ db.Carries stmt ∨ db.Admits stmt := by
  cases stmt with
  | mergeFriend userId remark updatedAtMs isDeleted =>
      refine iff_of_true ?_ (.inr trivial)
      refine ⟨_, (KeyTable.lookup_upsert userId userId _ _ db.friends).trans (if_pos rfl), ?_⟩
      cases db.friends.lookup userId <;> exact ⟨rfl, rfl, rfl⟩
  | mergeGroup groupId name avatarUrl memberCount updatedAtMs =>
      refine iff_of_true ?_ (.inr trivial)
      refine ⟨_, (KeyTable.lookup_upsert groupId groupId _ _ db.groups).trans (if_pos rfl), ?_⟩
      cases db.groups.lookup groupId <;> exact ⟨rfl, rfl, rfl, rfl⟩
  | mergeSession convId columns =>
      refine iff_of_true ?_ (.inr trivial)
      refine ⟨_, (KeyTable.lookup_upsert convId convId _ _ db.conversations).trans
        (if_pos rfl), ?_⟩
      cases db.conversations.lookup convId <;> rfl
  | insertOrIgnoreMessage messageId row =>
      simp only [Carries, Admits, Stmt.run]
      split
      · next accepted =>
          exact iff_of_true (KeyTable.mem_insertOrIgnore.mpr (.inl rfl)) (.inr accepted)
      · next rejected => exact (or_iff_left rejected).symm
  | _ => exact iff_of_true trivial (.inl trivial)

end Db

/-- A statement of the other code, which never touches the synchronisation time. -/
structure OtherStmt where
  stmt : Stmt
  notTime : ∀ value, stmt ≠ .setMeta "last_sync_time" value

/-- The turn of one statement at the database worker: what the worker runs before
it, and whether SQLite can execute it. -/
structure Turn where
  before : List OtherStmt := []
  ok : Bool := true

namespace Turn

/-- The database when the turn of the statement comes. -/
def reach (turn : Turn) (db : Db) : Db :=
  db.runAll (turn.before.map OtherStmt.stmt)

def run (turn : Turn) (stmt : Stmt) (db : Db) : Db :=
  if turn.ok then stmt.run (turn.reach db) else turn.reach db

/-- The entry stands in its table already, or its write succeeds. -/
def Takes (turn : Turn) (stmt : Stmt) (db : Db) : Prop :=
  (turn.reach db).Carries stmt ∨ (turn.ok = true ∧ (turn.reach db).Admits stmt)

theorem carries_run_iff (turn : Turn) (stmt : Stmt) (db : Db) :
    (turn.run stmt db).Carries stmt ↔ turn.Takes stmt db := by
  rw [run, Takes]
  cases ok : turn.ok with
  | true => simp [Db.carries_run_iff]
  | false => simp

end Turn

namespace Db

/-- Run the statements of a response, each in its turn. -/
def runTurns : List Stmt → List Turn → Db → Db
  | [], _, db => db
  | stmt :: stmts, turns, db => runTurns stmts turns.tail ((turns.headD {}).run stmt db)

/-- Each entry stands in its table when its statement is over. -/
def AllStored : List Stmt → List Turn → Db → Prop
  | [], _, _ => True
  | stmt :: stmts, turns, db =>
      ((turns.headD {}).run stmt db).Carries stmt ∧
        AllStored stmts turns.tail ((turns.headD {}).run stmt db)

/-- No write fails for an entry that is not there yet. -/
def AllTaken : List Stmt → List Turn → Db → Prop
  | [], _, _ => True
  | stmt :: stmts, turns, db =>
      (turns.headD {}).Takes stmt db ∧
        AllTaken stmts turns.tail ((turns.headD {}).run stmt db)

theorem allStored_iff_allTaken (stmts : List Stmt) (turns : List Turn) (db : Db) :
    AllStored stmts turns db ↔ AllTaken stmts turns db := by
  induction stmts generalizing turns db with
  | nil => exact Iff.rfl
  | cons stmt stmts ih => exact and_congr (Turn.carries_run_iff _ stmt db) (ih _ _)

/-- Without failures and other statements the turns do what the statements do. -/
theorem runTurns_nil (stmts : List Stmt) (db : Db) : runTurns stmts [] db = db.runAll stmts := by
  induction stmts generalizing db with
  | nil => rfl
  | cons stmt stmts ih => exact ih _

/-! ## The statements and the time -/

theorem lastSyncTime_run {stmt : Stmt}
    (notTime : ∀ value, stmt ≠ .setMeta "last_sync_time" value) (db : Db) :
    (stmt.run db).lastSyncTime = db.lastSyncTime := by
  have same : (stmt.run db).metadata.lookup "last_sync_time" =
      db.metadata.lookup "last_sync_time" := by
    cases stmt with
    | setMeta key value =>
        refine (KeyTable.lookup_upsert key "last_sync_time" value _ db.metadata).trans (if_neg ?_)
        rintro rfl
        exact notTime value rfl
    | deleteConversation | insertOrIgnoreMessage | upsertMessage =>
        rw [Stmt.run]
        split <;> rfl
    | _ => rfl
  rw [lastSyncTime, lastSyncTime, getMeta, getMeta, same]

theorem lastSyncTime_runAll {stmts : List Stmt}
    (notTime : ∀ stmt ∈ stmts, ∀ value, stmt ≠ .setMeta "last_sync_time" value) (db : Db) :
    (db.runAll stmts).lastSyncTime = db.lastSyncTime := by
  induction stmts generalizing db with
  | nil => rfl
  | cons stmt stmts ih =>
      rw [runAll_cons, ih fun later member => notTime later (List.mem_cons_of_mem _ member)]
      exact lastSyncTime_run (notTime stmt List.mem_cons_self) db

theorem lastSyncTime_reach (turn : Turn) (db : Db) :
    (turn.reach db).lastSyncTime = db.lastSyncTime := by
  refine lastSyncTime_runAll (fun stmt member => ?_) db
  rcases List.mem_map.mp member with ⟨other, _, rfl⟩
  exact other.notTime

theorem lastSyncTime_runTurns {stmts : List Stmt}
    (notTime : ∀ stmt ∈ stmts, ∀ value, stmt ≠ .setMeta "last_sync_time" value)
    (turns : List Turn) (db : Db) :
    (runTurns stmts turns db).lastSyncTime = db.lastSyncTime := by
  induction stmts generalizing turns db with
  | nil => rfl
  | cons stmt stmts ih =>
      rw [runTurns, ih fun later member => notTime later (List.mem_cons_of_mem _ member), Turn.run]
      split
      · rw [lastSyncTime_run (notTime stmt List.mem_cons_self), lastSyncTime_reach]
      · exact lastSyncTime_reach _ db

end Db

theorem SyncResponseDataPayload.notTime_of_mem_stmts {readings : Nat → Int64}
    {data : SyncResponseDataPayload} {stmt : Stmt} (member : stmt ∈ data.stmts readings)
    (value : String) : stmt ≠ .setMeta "last_sync_time" value := by
  rintro rfl
  rcases List.mem_append.mp member with entry | message
  · exact mergesEntry_of_mem entry
  · exact mergesMessage_of_mem message

/-- No message with an id is listed under a conversation without one. -/
def SyncResponseDataPayload.NoneLost (data : SyncResponseDataPayload) : Prop :=
  ∀ payload ∈ data.conversations.getD [], payload.conversationId = "" →
    Client.syncedMessages payload = []

/-! ## Overlapping requests -/

/-- The database, and for each request under way the time it was sent with. -/
structure SyncClock where
  db : Db
  inFlight : List Int64 := []

inductive SyncEvent where
  | sync
  /-- A response, the clock that its conversations read, and the turns of its
  statements and of the one that sets the time. -/
  | respond (request : Nat) (response : HttpResponse SyncResponseDataPayload)
      (readings : Nat → Int64) (turns : List Turn) (last : Turn)
  | other (stmt : OtherStmt)

namespace SyncClock

/-- The last statement of a response. -/
def setTime (time : Int64) (last : Turn) (db : Db) : Db :=
  if 0 < time then last.run (.setMeta "last_sync_time" (toString time)) db else db

/-- What a response does to the database. -/
def handle (response : HttpResponse SyncResponseDataPayload) (readings : Nat → Int64)
    (turns : List Turn) (last : Turn) (db : Db) : Db :=
  match acceptedData response with
  | none => db
  | some data => setTime data.time last (.runTurns (data.stmts readings) turns db)

def step (clock : SyncClock) : SyncEvent → SyncClock
  | .sync => { clock with inFlight := clock.inFlight ++ [clock.db.lastSyncTime] }
  | .respond request response readings turns last =>
      if request < clock.inFlight.length then
        { db := handle response readings turns last clock.db
          inFlight := clock.inFlight.eraseIdx request }
      else clock
  | .other other => { clock with db := other.stmt.run clock.db }

/-- Without failures and other statements a response does what `sync` does with it. -/
theorem handle_table (response : HttpResponse SyncResponseDataPayload) (client : Client) :
    handle response client.readings [] {} client.table = (client.syncResponse response).table := by
  rw [handle]
  cases accepted : acceptedData response with
  | none => rw [Client.syncResponse_of_refused accepted]
  | some data =>
      rw [Client.table_syncResponse accepted]
      dsimp only
      rw [Db.runTurns_nil]
      rfl

theorem lastSyncTime_setMeta (time : Int64) (db : Db) :
    ((Stmt.setMeta "last_sync_time" (toString time)).run db).lastSyncTime = time := by
  have plain : cString (toString time) = toString time :=
    cString_eq_self (nulFree_toString time.toInt)
  rw [Db.lastSyncTime, Db.getMeta_setMeta, if_pos rfl, plain, stoll_toString]
  rfl

theorem lastSyncTime_setTime (time : Int64) (last : Turn) (db : Db) :
    (setTime time last db).lastSyncTime =
      if 0 < time ∧ last.ok = true then time else db.lastSyncTime := by
  rw [setTime, Turn.run]
  by_cases positive : 0 < time
  · cases last.ok with
    | true => rw [if_pos positive, if_pos rfl, if_pos ⟨positive, rfl⟩, lastSyncTime_setMeta]
    | false =>
        rw [if_pos positive, if_neg Bool.noConfusion, if_neg fun both => Bool.noConfusion both.2,
          Db.lastSyncTime_reach]
  · rw [if_neg positive, if_neg fun both => positive both.1]

/-- When the event is a response, every entry of it that has an id stands in its
table when its statement is over. -/
def StoresAll (clock : SyncClock) : SyncEvent → Prop
  | .respond _ response readings turns _ => ∀ data ∈ acceptedData response,
      data.NoneLost ∧ Db.AllStored (data.stmts readings) turns clock.db
  | _ => True

/-- The clock does not go back, and goes forward only with all entries stored. -/
structure Sound (clock : SyncClock) (event : SyncEvent) : Prop where
  forward : clock.db.lastSyncTime ≤ (clock.step event).db.lastSyncTime
  complete : (clock.step event).db.lastSyncTime ≠ clock.db.lastSyncTime → clock.StoresAll event

/-- A response that sets another time sets a later one, lists no message under an
empty conversation id, and no write of it fails or is rejected whose entry is not
there yet. -/
def Safe (clock : SyncClock) : SyncEvent → Prop
  | .respond request response readings turns last =>
      request < clock.inFlight.length → ∀ data ∈ acceptedData response,
        0 < data.time → last.ok = true → data.time ≠ clock.db.lastSyncTime →
          clock.db.lastSyncTime < data.time ∧ data.NoneLost ∧
            Db.AllTaken (data.stmts readings) turns clock.db
  | _ => True

section OneStep

variable {clock : SyncClock}

theorem Sound.of_unmoved {event : SyncEvent}
    (unmoved : (clock.step event).db.lastSyncTime = clock.db.lastSyncTime) :
    clock.Sound event :=
  ⟨Int64.le_of_eq unmoved.symm, fun moved => absurd unmoved moved⟩

/-- The time after a response that is handled. -/
theorem lastSyncTime_respond {request : Nat} {response : HttpResponse SyncResponseDataPayload}
    {data : SyncResponseDataPayload} (sent : request < clock.inFlight.length)
    (accepted : acceptedData response = some data) (readings : Nat → Int64) (turns : List Turn)
    (last : Turn) :
    (clock.step (.respond request response readings turns last)).db.lastSyncTime =
      if 0 < data.time ∧ last.ok = true then data.time else clock.db.lastSyncTime := by
  rw [step, if_pos sent, handle, accepted]
  dsimp only
  rw [lastSyncTime_setTime,
    Db.lastSyncTime_runTurns fun _ member => data.notTime_of_mem_stmts member]

theorem sound_iff_safe (clock : SyncClock) (event : SyncEvent) :
    clock.Sound event ↔ clock.Safe event := by
  cases event with
  | sync => exact iff_of_true (.of_unmoved rfl) trivial
  | other other => exact iff_of_true (.of_unmoved (Db.lastSyncTime_run other.notTime _)) trivial
  | respond request response readings turns last =>
      by_cases sent : request < clock.inFlight.length
      · cases accepted : acceptedData response with
        | none =>
            refine iff_of_true (.of_unmoved ?_) fun _ data handled => ?_
            · rw [step, if_pos sent, handle, accepted]
            · exact nomatch accepted.symm.trans handled
        | some data =>
            have after := lastSyncTime_respond sent accepted readings turns last
            constructor
            · intro sound _ handled same positive ok different
              obtain rfl := Option.some.inj (accepted.symm.trans same)
              rw [if_pos ⟨positive, ok⟩] at after
              rcases sound.complete (after.trans_ne different) data accepted with ⟨noneLost, stored⟩
              refine ⟨?_, noneLost, (Db.allStored_iff_allTaken _ _ _).mp stored⟩
              have forward := sound.forward
              rw [after] at forward
              exact Int64.lt_of_le_of_ne forward different.symm
            · intro safe
              by_cases written : 0 < data.time ∧ last.ok = true
              · rw [if_pos written] at after
                by_cases same : data.time = clock.db.lastSyncTime
                · exact .of_unmoved (after.trans same)
                · rcases safe sent data accepted written.1 written.2 same with
                    ⟨later, noneLost, taken⟩
                  refine ⟨?_, fun _ handled known => ?_⟩
                  · rw [after]
                    exact Int64.le_of_lt later
                  · obtain rfl := Option.some.inj (accepted.symm.trans known)
                    exact ⟨noneLost, (Db.allStored_iff_allTaken _ _ _).mpr taken⟩
              · rw [if_neg written] at after
                exact .of_unmoved after
      · refine iff_of_true (.of_unmoved ?_) fun sent' => absurd sent' sent
        rw [step, if_neg sent]

end OneStep

/-! ## Runs -/

/-- For any number of requests, and responses to any of them in any order, the
clock is sound throughout exactly when every response is safe. -/
theorem sound_guarded_iff (db : Db) (events : List SyncEvent) :
    EventRun.Guarded step Sound { db := db } events ↔
      EventRun.Guarded step Safe { db := db } events :=
  EventRun.guarded_iff_guarded (fun clock event (_ : True) => clock.sound_iff_safe event)
    (fun _ _ _ _ => trivial) trivial events

/-- A response that carries nothing but its time. -/
def timeResponse (time : Int64) : HttpResponse SyncResponseDataPayload where
  statusCode := 200
  body := .parsed { code := 0, data := { syncTime := some (.int64 time) } }

/-- Two reconnects, and the answer to the second arrives first. -/
def overtaken : List SyncEvent :=
  [.sync, .sync, .respond 1 (timeResponse 200) (fun _ => 0) [] {},
    .respond 0 (timeResponse 100) (fun _ => 0) [] {}]

theorem not_sound_guarded_overtaken :
    ¬EventRun.Guarded step Sound { db := {} } overtaken := by
  rintro ⟨_, _, _, overtaking, _⟩
  exact absurd overtaking.forward (by decide)

end SyncClock

/-! ## The client behind the clock -/

/-- A client, and the requests that are under way. -/
structure SyncingClient where
  client : Client
  sent : List SyncRequestPayload := []

/-- Here no statement fails, and a response is handled without a break. -/
inductive SyncingEvent where
  | sync
  | respond (request : Nat) (response : HttpResponse SyncResponseDataPayload)
  | other (stmt : OtherStmt)

namespace SyncingClient

def step (syncing : SyncingClient) : SyncingEvent → SyncingClient
  | .sync =>
      { client := syncing.client.querySync
        sent := syncing.sent ++ [syncing.client.syncRequest] }
  | .respond request response =>
      if request < syncing.sent.length then
        { client := syncing.client.syncResponse response
          sent := syncing.sent.eraseIdx request }
      else syncing
  | .other other => { syncing with client := syncing.client.exec other.stmt }

def clock (syncing : SyncingClient) : SyncClock where
  db := syncing.client.table
  inFlight := syncing.sent.map SyncRequestPayload.lastSyncTime

/-- What a step is to the clock. -/
def clockEvent (syncing : SyncingClient) : SyncingEvent → SyncEvent
  | .sync => .sync
  | .respond request response => .respond request response syncing.client.readings [] {}
  | .other other => .other other

theorem clock_step (syncing : SyncingClient) (event : SyncingEvent) :
    (syncing.step event).clock = syncing.clock.step (syncing.clockEvent event) := by
  cases event with
  | sync =>
      simp only [step, clock, clockEvent, SyncClock.step, Client.table_querySync, List.map_append,
        List.map_singleton, Client.lastSyncTime_syncRequest]
  | respond request response =>
      have length : syncing.clock.inFlight.length = syncing.sent.length := List.length_map _
      rw [step, clockEvent, SyncClock.step, length]
      by_cases sent : request < syncing.sent.length
      · rw [if_pos sent, if_pos sent]
        exact congrArg₂ SyncClock.mk (SyncClock.handle_table response syncing.client).symm
          (List.eraseIdx_map ..).symm
      · rw [if_neg sent, if_neg sent]
  | other other =>
      rw [step, clockEvent, SyncClock.step, clock, clock, Client.table_exec]

/-- Every run of a client is one of the clock. -/
theorem clock_exec (syncing : SyncingClient) (events : List SyncingEvent) :
    (EventRun.exec step syncing events).clock =
      EventRun.exec SyncClock.step syncing.clock
        (EventRun.outputs step (fun syncing event => [syncing.clockEvent event]) syncing events) :=
  EventRun.exec_outputs clock_step syncing events

end SyncingClient

end AnychatSdk
