import AnychatSdk.OutboundQueue

/-!
# The message manager

Decoding of messages from HTTP responses and notifications, and what the
handlers do to the message cache and the `messages` table.  An HTTP handler is
modelled at the moment its response arrives, and returns what it hands to the
callback; a notification handler returns what it reports to the listener.
-/

namespace AnychatSdk

/-- What a callback gets: a code and a message, or a value. -/
abbrev Outcome (α : Type) :=
  Except (Int32 × String) α

/-! ## Payloads -/

structure MessagePayload where
  messageId : String := ""
  localId : String := ""
  conversationId : String := ""
  senderId : String := ""
  contentType : Option IntegerValue := none
  content : Option MessageContentValue := none
  sequence : Option IntegerValue := none
  replyTo : String := ""
  createdAt : Option TimestampValue := none
  status : Option IntegerValue := none
  sendState : Option IntegerValue := none
  isRead : Option BooleanValue := none

structure MessageListDataPayload where
  messages : Option (List MessagePayload) := none
  total : Option IntegerValue := none
  hasMore : Option BooleanValue := none
  nextSeq : Option IntegerValue := none

/-- `std::variant<std::monostate, EditMessageDataPayload, MessagePayload>`. -/
inductive EditMessageDataValue where
  | monostate
  | wrapped (message : Option MessagePayload)
  | direct (message : MessagePayload)

structure NotificationMessagePayload where
  messageId : String := ""
  localId : String := ""
  conversationId : String := ""
  fromUserId : String := ""
  contentType : Option IntegerValue := none
  content : String := ""
  seq : Option Int64 := none
  replyTo : String := ""
  sentAt : Option TimestampValue := none
  recalledAt : Option TimestampValue := none
  deletedAt : Option TimestampValue := none
  editedAt : Option TimestampValue := none

structure NotificationReadReceiptPayload where
  conversationId : String := ""
  fromUserId : Option String := none
  readerUserId : Option String := none
  messageId : String := ""
  lastReadSeq : Option Int64 := none
  lastReadMessageId : String := ""
  readAt : Option TimestampValue := none

structure NotificationTypingPayload where
  conversationId : String := ""
  fromUserId : String := ""
  typing : Bool := false
  deviceId : String := ""
  expireAt : Option TimestampValue := none

/-! ## Decoding -/

/-- `kMessageContentTypeCard`. -/
def messageContentTypeCard : Int32 := 7

/-- `kMessageContentTypeUnspecified`. -/
def messageContentTypeUnspecified : Int32 := 0

/-- Content types outside the known range count as text. -/
def normalizeMessageContentType (value : Option IntegerValue) : Int32 :=
  let contentType := parseInt32Value value Client.messageContentTypeText
  if contentType < Client.messageContentTypeText ∨ messageContentTypeCard < contentType then
    Client.messageContentTypeText
  else contentType

/-- A status is a number, the name of a state, or a number in a string. -/
def parseMessageStatus (value : Option IntegerValue) (default : Int32) : Int32 :=
  match value with
  | none => default
  | some (.int64 value) => value.toInt32
  | some (.double value) => value.toInt32
  | some (.string text) =>
      let status := toLower text
      if status = "recalled" ∨ status = "recall" ∨ status = "revoked" then 1
      else if status = "deleted" ∨ status = "delete" then 2
      else parseInt32Value (some (.string text)) default

def parseMessagePayload (payload : MessagePayload) (defaultConvId : String) : Message where
  messageId := payload.messageId
  localId := payload.localId
  convId := if payload.conversationId = "" then defaultConvId else payload.conversationId
  senderId := payload.senderId
  contentType := normalizeMessageContentType payload.contentType
  content := parseMessageContent payload.content
  seq := parseInt64Value payload.sequence 0
  replyTo := payload.replyTo
  timestampMs := parseTimestampMs payload.createdAt
  status := parseMessageStatus payload.status 0
  sendState := parseInt32Value payload.sendState 0
  isRead := parseBoolValue payload.isRead false

/-- Notifications carry no status, send state or read flag. -/
def parseMessageFromNotification (payload : NotificationMessagePayload) : Message where
  messageId := payload.messageId
  localId := payload.localId
  convId := payload.conversationId
  senderId := payload.fromUserId
  contentType := normalizeMessageContentType payload.contentType
  content := payload.content
  seq := payload.seq.getD 0
  replyTo := payload.replyTo
  timestampMs := parseTimestampMs payload.sentAt

def parseReadReceiptFromNotification (payload : NotificationReadReceiptPayload) :
    MessageReadReceiptEvent where
  conversationId := payload.conversationId
  fromUserId :=
    match payload.fromUserId with
    | some userId => if userId = "" then payload.readerUserId.getD "" else userId
    | none => payload.readerUserId.getD ""
  messageId := payload.messageId
  lastReadSeq := payload.lastReadSeq.getD 0
  lastReadMessageId := payload.lastReadMessageId
  readAtMs := parseTimestampMs payload.readAt

def parseTypingFromNotification (payload : NotificationTypingPayload) : MessageTypingEvent where
  conversationId := payload.conversationId
  fromUserId := payload.fromUserId
  typing := payload.typing
  expireAtMs := parseTimestampMs payload.expireAt
  deviceId := payload.deviceId

/-- The envelope timestamp in milliseconds. -/
def normalizeEpochMs (raw : Int64) : Int64 :=
  if raw = 0 then 0
  else if 100000000000 ≤ raw.abs then raw
  else raw * 1000

/-- `makeHttpError`. -/
def makeHttpError {α : Type} (response : HttpResponse α) : String :=
  if response.error ≠ "" then response.error
  else "HTTP " ++ toString response.statusCode

/-- Statuses on which an older endpoint or the WebSocket is tried instead. -/
def isUnsupported {α : Type} (response : HttpResponse α) : Bool :=
  response.statusCode = 404 || response.statusCode = 405

/-! ## Storing -/

/-- The row `upsertMessageDb` writes. -/
def Message.toRow (message : Message) : MessageRow where
  localId := message.localId
  convId := message.convId
  senderId := message.senderId
  contentType := message.contentType.toInt64
  content := message.content
  seq := message.seq
  replyTo := message.replyTo
  status := message.status.toInt64
  sendState := message.sendState.toInt64
  isRead := if message.isRead then 1 else 0
  timestampMs := message.timestampMs

namespace Client

def upsertMessageDb (message : Message) (client : Client) : Client :=
  if message.messageId = "" ∨ message.convId = "" then client
  else client.exec (.upsertMessage message.messageId message.toRow)

def updateMessageDbStatusAndContent (messageId : String) (status : Int32)
    (content : Option String) (client : Client) : Client :=
  if messageId = "" then client
  else
    match content with
    | none => client.exec (.updateMessageStatus messageId status.toInt64)
    | some content =>
        client.exec (.updateMessageStatusAndContent messageId status.toInt64 content)

/-- `msg_cache_->updateMessageById`: the updated message, if the cache has it. -/
def updateCachedMessage (messageId : String) (change : Message → Message) (client : Client) :
    Option Message × Client :=
  let (updated, cache) := client.msgCache.updateMessageById messageId change
  (updated, { client with msgCache := cache })

/-! ## Message lists in HTTP responses -/

/-- The messages of a list response; entries without an id are skipped. -/
def listedMessages (data : MessageListDataPayload) (defaultConvId : String) : List Message :=
  ((data.messages.getD []).map fun payload => parseMessagePayload payload defaultConvId).filter
    fun message => message.messageId ≠ ""

/-- Store one message of a list response: row first, then cache. -/
def storeListedMessage (message : Message) (client : Client) : Client :=
  (client.upsertMessageDb message).mapMsgCache (·.insert message)

def storeListedMessages (messages : List Message) (client : Client) : Client :=
  messages.foldl (fun client message => client.storeListedMessage message) client

/-- The part of `getHistory` before its request: the newest page may come from
the cache. -/
def getHistory (convId : String) (beforeTimestamp : Int64) (client : Client) :
    Option (List Message) :=
  if beforeTimestamp = 0 ∧ client.msgCache.get convId ≠ [] then
    some (client.msgCache.get convId)
  else none

/-- The response of `getHistory`; `fallback` answers the request that an
unsupported primary endpoint leads to. -/
def getHistoryResponse (convId : String)
    (primary fallback : HttpResponse MessageListDataPayload) (client : Client) :
    Outcome (List Message) × Client :=
  let response := if isUnsupported primary then fallback else primary
  match parseApiEnvelopeResponse response "get history failed" true false with
  | .error failure => (.error failure, client)
  | .ok data =>
      let messages := listedMessages data convId
      (.ok messages, client.storeListedMessages messages)

def getOfflineMessagesResponse (response : HttpResponse MessageListDataPayload)
    (client : Client) : Outcome MessageOfflineResult × Client :=
  match parseApiEnvelopeResponse response "get offline messages failed" true false with
  | .error failure => (.error failure, client)
  | .ok data =>
      let messages := listedMessages data ""
      (.ok
        { messages := messages
          hasMore := parseBoolValue data.hasMore false
          nextSeq := parseInt64Value data.nextSeq 0 },
        client.storeListedMessages messages)

def searchMessagesResponse (keyword : String) (contentType : Int32)
    (response : HttpResponse MessageListDataPayload) (client : Client) :
    Outcome MessageSearchResult × Client :=
  if keyword = "" then (.error (-1, "keyword must not be empty"), client)
  else if contentType ≠ 0 ∧ (contentType < 1 ∨ 7 < contentType) then
    (.error (-1, "content_type must be in [1,7]"), client)
  else
    match parseApiEnvelopeResponse response "search messages failed" true false with
    | .error failure => (.error failure, client)
    | .ok data =>
        let messages := listedMessages data ""
        (.ok
          { messages := messages
            total := parseInt64Value data.total (Int64.ofNat messages.length) },
          client.storeListedMessages messages)

/-! ## Acknowledging, recalling, deleting and editing -/

/-- The cached message is marked as read; empty ids are skipped. -/
def markMessageRead (messageId : String) (client : Client) : Client :=
  if messageId = "" then client
  else (client.updateCachedMessage messageId fun message => { message with isRead := true }).2

def markMessageIdsRead (messageIds : List String) (client : Client) : Client :=
  messageIds.foldl (fun client messageId => client.markMessageRead messageId) client

def ackMessagesResponse (convId : String) (messageIds : List String)
    (primary fallback : HttpResponse Unit) (client : Client) : Outcome Unit × Client :=
  if convId = "" then (.error (-1, "conv_id must not be empty"), client)
  else
    match parseApiEnvelopeResponse primary "ack messages failed" true false with
    | .ok () => (.ok (), client.markMessageIdsRead messageIds)
    | .error failure =>
        if !isUnsupported primary then (.error failure, client)
        else if messageIds = [] then
          (parseApiEnvelopeResponse fallback "mark all read failed" true false, client)
        else
          match parseApiEnvelopeResponse fallback "mark messages read failed" true false with
          | .ok () => (.ok (), client.markMessageIdsRead messageIds)
          | .error failure => (.error failure, client)

/-- The end of a request that HTTP refused: an unsupported endpoint is replaced
by a frame on the WebSocket. -/
def sendInstead {α : Type} (frame : Frame) (response : HttpResponse α)
    (failure : Int32 × String) (client : Client) : Outcome Unit × Client :=
  if isUnsupported response then
    let (sent, client) := client.sendTransient frame
    (if sent then .ok () else .error (-1, "websocket not connected"), client)
  else
    (.error
      (if failure.1 ≠ 0 then failure.1 else -1,
        if failure.2 = "" then makeHttpError response else failure.2),
      client)

/-- The effect of a successful recall or delete request. -/
def applyMessageStatus (messageId : String) (status : Int32) (client : Client) : Client :=
  (client.updateCachedMessage messageId fun message => { message with status := status }).2
    |>.updateMessageDbStatusAndContent messageId status none

def recallMessageResponse (messageId : String) (response : HttpResponse Unit) (client : Client) :
    Outcome Unit × Client :=
  if messageId = "" then (.error (-1, "message_id must not be empty"), client)
  else
    match parseApiEnvelopeResponse response "recall message failed" true false with
    | .ok () => (.ok (), client.applyMessageStatus messageId 1)
    | .error failure =>
        client.sendInstead
          { type := "message.recall", payload := .messageRecall messageId } response failure

def deleteMessageResponse (messageId : String) (response : HttpResponse Unit) (client : Client) :
    Outcome Unit × Client :=
  if messageId = "" then (.error (-1, "message_id must not be empty"), client)
  else
    match parseApiEnvelopeResponse response "delete message failed" true false with
    | .ok () => (.ok (), client.applyMessageStatus messageId 2)
    | .error failure =>
        client.sendInstead
          { type := "message.delete", payload := .messageDelete messageId } response failure

/-- The message an edit response stands for: the one it carries, if that has an
id, or else one with the content sent. -/
def editedMessage (messageId content : String) (data : EditMessageDataValue) : Message :=
  let carried : Message :=
    match data with
    | .monostate => {}
    | .wrapped none => {}
    | .wrapped (some payload) => parseMessagePayload payload ""
    | .direct payload => parseMessagePayload payload ""
  if carried.messageId = "" then { carried with messageId := messageId, content := content }
  else carried

/-- The effect of a successful edit request.  A status of 0 is kept out of the
cache but goes to the row. -/
def applyEdit (messageId : String) (edited : Message) (client : Client) : Client :=
  (client.updateCachedMessage messageId fun message =>
      { message with
        content := edited.content
        status := if edited.status ≠ 0 then edited.status else message.status }).2
    |>.updateMessageDbStatusAndContent messageId edited.status (some edited.content)

def editMessageResponse (messageId content : String)
    (response : HttpResponse EditMessageDataValue) (client : Client) : Outcome Unit × Client :=
  if messageId = "" then (.error (-1, "message_id must not be empty"), client)
  else
    match parseApiEnvelopeResponse response "edit message failed" true false with
    | .ok data => (.ok (), client.applyEdit messageId (editedMessage messageId content data))
    | .error failure =>
        client.sendInstead
          { type := "message.edit", payload := .messageEdit messageId content } response failure

/-- A positive time to live goes into the frame. -/
def sendTyping (conversationId : String) (typing : Bool) (ttlSeconds : Int32) (client : Client) :
    Outcome Unit × Client :=
  if conversationId = "" then (.error (-1, "conversation_id must not be empty"), client)
  else
    let (sent, client) := client.sendTransient
      { type := "message.typing"
        payload := .messageTyping conversationId typing
          (if 0 < ttlSeconds then some ttlSeconds else none) }
    (if sent then .ok () else .error (-1, "websocket not connected"), client)

/-! ## Notifications -/

/-- The time of the envelope replaces a missing one. -/
def withEnvelopeTime (timestamp : Int64) (message : Message) : Message :=
  if message.timestampMs = 0 then { message with timestampMs := normalizeEpochMs timestamp }
  else message

/-- The message a `message.new` or `message.mentioned` notification brings;
notifications without a message id are dropped. -/
def incomingMessage (timestamp : Int64) (payload : NotificationMessagePayload) :
    Option Message :=
  let message := parseMessageFromNotification payload
  if message.messageId = "" then none else some (withEnvelopeTime timestamp message)

/-- Store an incoming message: cache first, then row. -/
def receiveMessage (message : Message) (client : Client) : Client :=
  (client.mapMsgCache (·.insert message)).upsertMessageDb message

/-- The body that `handleIncomingMessage` and `handleMentioned` share. -/
def handleIncoming (timestamp : Int64) (payload : NotificationMessagePayload) (client : Client) :
    Option Message × Client :=
  match incomingMessage timestamp payload with
  | none => (none, client)
  | some message => (some message, client.receiveMessage message)

def handleIncomingMessage := handleIncoming

def handleMentioned := handleIncoming

/-- The message a recall or delete notification brings: the status is given, and
a missing time is taken from the payload or else from the envelope. -/
def withdrawnMessage (status : Int32) (withdrawnAt : Option TimestampValue) (timestamp : Int64)
    (payload : NotificationMessagePayload) : Option Message :=
  let message := { parseMessageFromNotification payload with status := status }
  if message.messageId = "" then none
  else if message.timestampMs = 0 then
    some
      { message with
        timestampMs :=
          if withdrawnAt.isSome then parseTimestampMs withdrawnAt
          else normalizeEpochMs timestamp }
  else some message

/-- What the cached copy becomes on a recall. -/
def recallCached (message cached : Message) : Message :=
  { cached with
    convId := if message.convId ≠ "" then message.convId else cached.convId
    content := if message.content ≠ "" then message.content else cached.content
    status := 1 }

/-- What the cached copy becomes on a delete. -/
def deleteCached (message cached : Message) : Message :=
  { cached with
    convId := if message.convId ≠ "" then message.convId else cached.convId
    status := 2 }

/-- What the cached copy becomes on an edit. -/
def editCached (message cached : Message) : Message :=
  { cached with
    content := if message.content ≠ "" then message.content else cached.content
    contentType :=
      if message.contentType ≠ messageContentTypeUnspecified then message.contentType
      else cached.contentType
    status := if message.status ≠ 0 then message.status else cached.status }

/-- Apply a notification to the cache: update the cached copy, or else insert
the message if it names its conversation.  The first component is the message as
it stands afterwards. -/
def mergeNotified (change : Message → Message) (message : Message) (client : Client) :
    Message × Client :=
  let (updated, client) := client.updateCachedMessage message.messageId change
  match updated with
  | some cached => (cached, client)
  | none =>
      (message,
        if message.convId ≠ "" then client.mapMsgCache (·.insert message) else client)

/-- The content column is written only when there is content. -/
def contentToWrite (message : Message) : Option String :=
  if message.content = "" then none else some message.content

/-- The effect of a recall notification on cache and row. -/
def recallNotified (message : Message) (client : Client) : Message × Client :=
  let (message, client) := client.mergeNotified (recallCached message) message
  (message,
    client.updateMessageDbStatusAndContent message.messageId 1 (contentToWrite message))

def deleteNotified (message : Message) (client : Client) : Message × Client :=
  let (message, client) := client.mergeNotified (deleteCached message) message
  (message, client.updateMessageDbStatusAndContent message.messageId 2 none)

/-- The row gets the status of the cached copy, or of the notification when
there is none. -/
def editNotified (message : Message) (client : Client) : Message × Client :=
  let (message, client) := client.mergeNotified (editCached message) message
  (message,
    client.updateMessageDbStatusAndContent message.messageId message.status
      (contentToWrite message))

def handleMessageRecalled (timestamp : Int64) (payload : NotificationMessagePayload)
    (client : Client) : Option Message × Client :=
  match withdrawnMessage 1 payload.recalledAt timestamp payload with
  | none => (none, client)
  | some message => (client.recallNotified message).map some id

def handleMessageDeleted (timestamp : Int64) (payload : NotificationMessagePayload)
    (client : Client) : Option Message × Client :=
  match withdrawnMessage 2 payload.deletedAt timestamp payload with
  | none => (none, client)
  | some message => (client.deleteNotified message).map some id

/-- The message an edit notification brings. -/
def editedNotification (payload : NotificationMessagePayload) : Option Message :=
  let message := parseMessageFromNotification payload
  if message.messageId = "" then none else some message

def handleMessageEdited (payload : NotificationMessagePayload) (client : Client) :
    Option Message × Client :=
  match editedNotification payload with
  | none => (none, client)
  | some message => (client.editNotified message).map some id

/-- Read receipts are only passed on. -/
def handleReadReceipt (timestamp : Int64) (payload : NotificationReadReceiptPayload) :
    MessageReadReceiptEvent :=
  let receipt := parseReadReceiptFromNotification payload
  if receipt.readAtMs = 0 then { receipt with readAtMs := normalizeEpochMs timestamp } else receipt

/-- Typing events are only passed on. -/
def handleTyping (timestamp : Int64) (payload : NotificationTypingPayload) : MessageTypingEvent :=
  let typing := parseTypingFromNotification payload
  if typing.expireAtMs = 0 ∧ 0 < timestamp then
    { typing with expireAtMs := normalizeEpochMs timestamp }
  else typing

end Client

end AnychatSdk
