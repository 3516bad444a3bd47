import AnychatSdk.ConversationManager

/-!
# The sync engine

The request tells the server the last sequence number of every stored
conversation; the response brings changed friends, groups and conversations, and
the messages after those numbers.
-/

namespace AnychatSdk

/-! ## Request and response -/

structure ConversationSeqRequest where
  conversationId : String := ""
  conversationType : String := ""
  lastSeq : Int64 := 0
  deriving DecidableEq

structure SyncRequestPayload where
  lastSyncTime : Int64 := 0
  conversationSeqs : List ConversationSeqRequest := []
  deriving DecidableEq

structure FriendDeltaPayload where
  userId : String := ""
  remark : String := ""
  updatedAt : Option IntegerValue := none
  isDeleted : Option BooleanValue := none

structure GroupDeltaPayload where
  groupId : String := ""
  name : String := ""
  avatar : String := ""
  updatedAt : Option IntegerValue := none
  memberCount : Option IntegerValue := none

structure ConversationDeltaPayload where
  conversationId : String := ""
  conversationType : String := "single"
  targetId : String := ""
  lastMessageContent : Option MessageContentValue := none
  lastMessageTime : Option TimestampValue := none
  unreadCount : Option IntegerValue := none
  isPinned : Option BooleanValue := none
  isMuted : Option BooleanValue := none

structure MessageDeltaPayload where
  messageId : String := ""
  senderId : String := ""
  contentType : Option IntegerValue := none
  content : Option MessageContentValue := none
  sequence : Option IntegerValue := none
  replyTo : String := ""
  status : Option IntegerValue := none
  createdAt : Option TimestampValue := none

structure ConversationMessagesPayload where
  conversationId : String := ""
  conversationType : String := "private"
  messages : Option (List MessageDeltaPayload) := none
  hasMore : Option BooleanValue := none

/-- The lists are optional twice over in the response: the list object and the
list in it. -/
structure SyncResponseDataPayload where
  friends : Option (List FriendDeltaPayload) := none
  groups : Option (List GroupDeltaPayload) := none
  conversationData : Option (List ConversationDeltaPayload) := none
  conversations : Option (List ConversationMessagesPayload) := none
  syncTime : Option IntegerValue := none

namespace Client

/-! ## Merging -/

/-- Entries without an id are skipped, here and in all merges. -/
def mergeFriend (payload : FriendDeltaPayload) (client : Client) : Client :=
  if payload.userId = "" then client
  else
    client.execSync (.mergeFriend payload.userId payload.remark
      (parseInt64Value payload.updatedAt 0)
      (if parseBoolValue payload.isDeleted false then 1 else 0))

def mergeFriends (friends : List FriendDeltaPayload) (client : Client) : Client :=
  friends.foldl (fun client payload => client.mergeFriend payload) client

def mergeGroup (payload : GroupDeltaPayload) (client : Client) : Client :=
  if payload.groupId = "" then client
  else
    client.execSync (.mergeGroup payload.groupId payload.name payload.avatar
      (parseInt64Value payload.memberCount 0) (parseInt64Value payload.updatedAt 0))

def mergeGroups (groups : List GroupDeltaPayload) (client : Client) : Client :=
  groups.foldl (fun client payload => client.mergeGroup payload) client

/-- The record `mergeSessions` puts into the cache: what the payload does not
carry has its default. -/
def sessionConversation (payload : ConversationDeltaPayload) (now : Int64) : Conversation where
  convId := payload.conversationId
  convType := parseConversationType (toLower payload.conversationType)
  targetId := payload.targetId
  lastMsgText := parseMessageContent payload.lastMessageContent
  lastMsgTimeMs := parseTimestampMs payload.lastMessageTime
  unreadCount := (parseInt64Value payload.unreadCount 0).toInt32
  isPinned := parseBoolValue payload.isPinned false
  isMuted := parseBoolValue payload.isMuted false
  updatedAtMs := now

/-- The columns `mergeSessions` writes. -/
def sessionColumns (conv : Conversation) : SessionColumns where
  convType := conversationTypeText conv.convType
  targetId := conv.targetId
  lastMsgText := conv.lastMsgText
  lastMsgTimeMs := conv.lastMsgTimeMs
  unreadCount := conv.unreadCount.toInt64
  isPinned := if conv.isPinned then 1 else 0
  isMuted := if conv.isMuted then 1 else 0
  updatedAtMs := conv.updatedAtMs

def mergeSession (payload : ConversationDeltaPayload) (client : Client) : Client :=
  if payload.conversationId = "" then client
  else
    let (now, client) := client.nowMs
    let conv := sessionConversation payload now
    (client.execSync (.mergeSession conv.convId (sessionColumns conv))).mapConvCache (·.upsert conv)

def mergeSessions (sessions : List ConversationDeltaPayload) (client : Client) : Client :=
  sessions.foldl (fun client payload => client.mergeSession payload) client

/-- A synced message.  It has no local id, and counts as sent. -/
def syncedMessage (convId : String) (payload : MessageDeltaPayload) : Message :=
  let contentType := (parseInt64Value payload.contentType 1).toInt32
  { messageId := payload.messageId
    convId := convId
    senderId := payload.senderId
    contentType := if 1 ≤ contentType ∧ contentType ≤ 7 then contentType else 1
    content := parseMessageContent payload.content
    seq := parseInt64Value payload.sequence 0
    replyTo := payload.replyTo
    status := (parseInt64Value payload.status 0).toInt32
    sendState := 1
    timestampMs := parseTimestampMs payload.createdAt }

/-- The row the sync inserts: all columns of the message except `is_read`, which
gets its default. -/
def storeSyncedMessage (message : Message) (client : Client) : Client :=
  (client.execSync (.insertOrIgnoreMessage message.messageId message.toRow)).mapMsgCache
    (·.insert message)

/-- The messages of one conversation in the response. -/
def syncedMessages (payload : ConversationMessagesPayload) : List Message :=
  ((payload.messages.getD []).map (syncedMessage payload.conversationId)).filter
    fun message => message.messageId ≠ ""

/-- `max_seq_seen`. -/
def maxSeqSeen (messages : List Message) : Int64 :=
  messages.foldl (fun seen message => if seen < message.seq then message.seq else seen) 0

/-- Raise the local sequence number in the table and in the cache. -/
def raiseSequence (convId : String) (seq : Int64) (client : Client) : Client :=
  let client := client.execSync (.raiseLocalSeq convId seq)
  match client.convCache.get convId with
  | none => client
  | some conv =>
      if conv.localSeq < seq then client.mapConvCache (·.upsert { conv with localSeq := seq })
      else client

def mergeConversationMessages (payload : ConversationMessagesPayload) (client : Client) :
    Client :=
  if payload.conversationId = "" then client
  else
    let messages := syncedMessages payload
    let client := messages.foldl (fun client message => client.storeSyncedMessage message) client
    if 0 < maxSeqSeen messages then
      client.raiseSequence payload.conversationId (maxSeqSeen messages)
    else client

def mergeConvMessages (conversations : List ConversationMessagesPayload) (client : Client) :
    Client :=
  conversations.foldl (fun client payload => client.mergeConversationMessages payload) client

def setSyncTime (syncTime : Int64) (client : Client) : Client :=
  if 0 < syncTime then client.execSync (.setMeta "last_sync_time" (toString syncTime)) else client

def handleSyncResponse (envelope : ApiEnvelope SyncResponseDataPayload) (client : Client) :
    Client :=
  if envelope.code ≠ 0 then client
  else
    client.mergeFriends (envelope.data.friends.getD [])
      |>.mergeGroups (envelope.data.groups.getD [])
      |>.mergeSessions (envelope.data.conversationData.getD [])
      |>.mergeConvMessages (envelope.data.conversations.getD [])
      |>.setSyncTime (parseInt64Value envelope.data.syncTime 0)

/-- The response callback of `sync`. -/
def syncResponse (response : HttpResponse SyncResponseDataPayload) (client : Client) : Client :=
  if response.error ≠ "" ∨ response.statusCode ≠ 200 then client
  else
    match response.body with
    | .parsed envelope => client.handleSyncResponse envelope
    | _ => client

/-! ## Requesting -/

/-- `Database::getMeta` on the tables. -/
def getMeta (key default : String) (client : Client) : String :=
  match client.table.metadata.lookup key with
  | none => default
  | some value => columnText (some value)

/-- The entry of the request for one conversation row.  The cached number goes
first. -/
def conversationSeqRequest (row : Row) (client : Client) : Option ConversationSeqRequest :=
  let convId := row.text "conv_id"
  if convId = "" then none
  else
    some
      { conversationId := convId
        conversationType := if row.text "conv_type" = "group" then "group" else "single"
        lastSeq :=
          match client.convCache.get convId with
          | some conv => conv.localSeq
          | none => (stoll (row.text "local_seq")).getD 0 }

/-- The body of the request; the database waits are over when it is built. -/
def syncRequest (client : Client) : SyncRequestPayload where
  lastSyncTime := (stoll (client.getMeta "last_sync_time" "0")).getD 0
  conversationSeqs :=
    let rows := client.platform.unordered.sort client.table.conversations.rows
    rows.filterMap fun row => client.conversationSeqRequest (row.2.toSeqRow row.1)

end Client

end AnychatSdk
