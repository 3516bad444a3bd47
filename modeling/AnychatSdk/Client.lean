import AnychatSdk.Cache.ConversationCache
import AnychatSdk.Cache.MessageCache
import AnychatSdk.Db.Rows
import AnychatSdk.Lib.TaskQueue

/-!
# The state of a client process

The managers share one database, two caches and the outbound queue.  The
database sits behind a worker that runs statements in the order they were
posted: `exec` posts and goes on, `execSync` and the queries wait.
-/

namespace AnychatSdk

/-! ## Frames -/

structure SendMessagePayload where
  conversationId : String := ""
  conversationType : String := ""
  contentType : Int32 := 0
  content : String := ""
  localId : String := ""
  deriving DecidableEq

inductive FramePayload where
  | sendMessage (payload : SendMessagePayload)
  | messageRecall (messageId : String)
  | messageDelete (messageId : String)
  | messageEdit (messageId content : String)
  | messageTyping (conversationId : String) (typing : Bool) (ttlSeconds : Option Int32)
  | other (text : String)
  deriving DecidableEq

/-- A frame before serialisation, which the JSON library does. -/
structure Frame where
  type : String := ""
  payload : FramePayload
  deriving DecidableEq

/-! ## Process state -/

/-- Callbacks are named by numbers; an empty `std::function` is `none`. -/
structure AnyChatCallback where
  onSuccess : Option Nat := none
  onError : Option Nat := none
  deriving DecidableEq

/-- In-memory part of `OutboundQueue`.  Every connection brings a send function
of its own; `sent` records what each of them was called with, oldest first, and
`completed` the success callbacks that ran. -/
structure Outbound where
  sendFn : Option Nat := none
  callbacks : KeyTable String AnyChatCallback := ∅
  sent : List (Nat × Frame) := []
  completed : List Nat := []

/-- `ORDER BY created_at ASC`. -/
abbrev CreatedAtOrder : String × OutboundRow → String × OutboundRow → Prop :=
  OrderBy.Ascending fun row => row.2.createdAt

/-- `ORDER BY is_pinned DESC, pin_time_ms DESC, last_msg_time_ms DESC`. -/
abbrev PinnedOrder : String × ConversationRow → String × ConversationRow → Prop :=
  OrderBy.DescendingThen (fun row => row.2.isPinned)
    (OrderBy.DescendingThen (fun row => row.2.pinTimeMs)
      (OrderBy.DescendingThen (fun row => row.2.lastMsgTimeMs) OrderBy.AllTied))

/-- What a process gets from its surroundings: the readings of the wall clock in
milliseconds, and the sorts that leave the order of ties open.  A `SELECT`
without `ORDER BY` leaves all of it open, and so does a loop over a
`std::unordered_map`, in each process anew. -/
structure Platform where
  wallClock : Nat → Int64
  stdSort : OrderBy Message (OrderBy.Ascending Message.seq)
  bucketOrder : Nat → OrderBy (String × List Message) OrderBy.AllTied
  unordered : OrderBy (String × ConversationRow) OrderBy.AllTied
  orderByCreatedAt : OrderBy (String × OutboundRow) CreatedAtOrder
  orderByPinned : OrderBy (String × ConversationRow) PinnedOrder

/-- A stopped clock and sorts that keep ties in order. -/
instance : Inhabited Platform :=
  ⟨fun _ => 0, .stable _, fun _ => .asGiven, .asGiven, .stable _, .stable _⟩

/-- The cache of the process that is the `launches`-th one after the first. -/
def Platform.messageCache (platform : Platform) (launches : Nat) : MessageCache where
  stdSort := platform.stdSort
  bucketOrder := platform.bucketOrder launches

/-- `launches` counts the earlier processes on the same database file. -/
structure Client where
  platform : Platform
  launches : Nat := 0
  clockReads : Nat := 0
  db : TaskQueue Db Stmt
  convCache : ConversationCache := {}
  msgCache : MessageCache
  outbound : Outbound := {}
  localIdCounter : Int64 := 1

namespace Client

/-- A process that has just opened the database. -/
def start (platform : Platform) (db : Db) (clockReads : Nat) (launches : Nat := 0) : Client where
  platform := platform
  launches := launches
  clockReads := clockReads
  db := .idle db
  msgCache := platform.messageCache launches

/-- The tables once the queued statements have run. -/
def table (client : Client) : Db :=
  client.db.drained Stmt.run

/-- End the process in order, so that the worker drains its queue, and start
another one on the same database file. -/
def restart (client : Client) : Client :=
  start client.platform client.table client.clockReads (client.launches + 1)

/-- Kill the process once the worker has run `ran` more of the queued statements,
and start another one; the other statements are lost. -/
def kill (ran : Nat) (client : Client) : Client :=
  start client.platform (client.db.stateAfter Stmt.run ran) client.clockReads
    (client.launches + 1)

/-- `Database::exec`. -/
def exec (stmt : Stmt) (client : Client) : Client :=
  { client with db := client.db.post stmt }

/-- `Database::execSync`. -/
def execSync (stmt : Stmt) (client : Client) : Client :=
  { client with db := client.db.sync Stmt.run stmt }

/-- The wait of a synchronous query; its result is read off `table`. -/
def querySync (client : Client) : Client :=
  { client with db := client.db.flush Stmt.run }

/-- One turn of the database worker. -/
def work (client : Client) : Client :=
  { client with db := client.db.work Stmt.run }

/-- `nowMs`: the reading, and the client with the next reading due. -/
def nowMs (client : Client) : Int64 × Client :=
  (client.platform.wallClock client.clockReads,
    { client with clockReads := client.clockReads + 1 })

/-! ## Effects on the tables and frame conditions -/

section Frame

variable (stmt : Stmt) (client : Client)

@[simp]
theorem table_start (platform : Platform) (db : Db) (clockReads launches : Nat) :
    (start platform db clockReads launches).table = db :=
  rfl

@[simp]
theorem table_restart : client.restart.table = client.table :=
  rfl

@[simp]
theorem table_exec : (client.exec stmt).table = stmt.run client.table :=
  TaskQueue.drained_post Stmt.run stmt client.db

@[simp]
theorem table_execSync : (client.execSync stmt).table = stmt.run client.table :=
  rfl

@[simp]
theorem table_querySync : client.querySync.table = client.table :=
  rfl

@[simp]
theorem table_work : client.work.table = client.table :=
  TaskQueue.drained_work Stmt.run client.db

@[simp]
theorem table_nowMs : client.nowMs.2.table = client.table :=
  rfl

@[simp]
theorem convCache_exec : (client.exec stmt).convCache = client.convCache :=
  rfl

@[simp]
theorem convCache_execSync : (client.execSync stmt).convCache = client.convCache :=
  rfl

@[simp]
theorem convCache_querySync : client.querySync.convCache = client.convCache :=
  rfl

@[simp]
theorem convCache_work : client.work.convCache = client.convCache :=
  rfl

@[simp]
theorem convCache_nowMs : client.nowMs.2.convCache = client.convCache :=
  rfl

@[simp]
theorem msgCache_exec : (client.exec stmt).msgCache = client.msgCache :=
  rfl

@[simp]
theorem msgCache_execSync : (client.execSync stmt).msgCache = client.msgCache :=
  rfl

@[simp]
theorem msgCache_querySync : client.querySync.msgCache = client.msgCache :=
  rfl

@[simp]
theorem msgCache_work : client.work.msgCache = client.msgCache :=
  rfl

@[simp]
theorem msgCache_nowMs : client.nowMs.2.msgCache = client.msgCache :=
  rfl

@[simp]
theorem outbound_exec : (client.exec stmt).outbound = client.outbound :=
  rfl

@[simp]
theorem outbound_execSync : (client.execSync stmt).outbound = client.outbound :=
  rfl

@[simp]
theorem outbound_querySync : client.querySync.outbound = client.outbound :=
  rfl

@[simp]
theorem outbound_work : client.work.outbound = client.outbound :=
  rfl

end Frame

/-! ## Updates of the in-memory parts -/

def mapConvCache (change : ConversationCache → ConversationCache) (client : Client) : Client :=
  { client with convCache := change client.convCache }

def mapMsgCache (change : MessageCache → MessageCache) (client : Client) : Client :=
  { client with msgCache := change client.msgCache }

section Updates

variable (client : Client) (changeConvs : ConversationCache → ConversationCache)
  (changeMessages : MessageCache → MessageCache)

@[simp]
theorem table_mapConvCache : (client.mapConvCache changeConvs).table = client.table :=
  rfl

@[simp]
theorem convCache_mapConvCache :
    (client.mapConvCache changeConvs).convCache = changeConvs client.convCache :=
  rfl

@[simp]
theorem msgCache_mapConvCache : (client.mapConvCache changeConvs).msgCache = client.msgCache :=
  rfl

@[simp]
theorem table_mapMsgCache : (client.mapMsgCache changeMessages).table = client.table :=
  rfl

@[simp]
theorem convCache_mapMsgCache :
    (client.mapMsgCache changeMessages).convCache = client.convCache :=
  rfl

@[simp]
theorem msgCache_mapMsgCache :
    (client.mapMsgCache changeMessages).msgCache = changeMessages client.msgCache :=
  rfl

end Updates

end Client

end AnychatSdk
