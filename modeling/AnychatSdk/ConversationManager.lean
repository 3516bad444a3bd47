import AnychatSdk.MessageManager

/-!
# The conversation manager

Decoding of conversations from responses, notifications and rows, and what the
handlers do to the conversation cache and the `conversations` table.
-/

namespace AnychatSdk

/-! ## Payloads -/

structure ConversationPayload where
  conversationId : String := ""
  conversationType : String := ""
  targetId : String := ""
  lastMessageId : String := ""
  lastMessageContent : String := ""
  lastMessageTime : Option TimestampValue := none
  unreadCount : Option Int32 := none
  isPinned : Option Bool := none
  isMuted : Option Bool := none
  burnAfterReading : Option Int32 := none
  autoDeleteDuration : Option Int32 := none
  pinTime : Option TimestampValue := none
  updatedAt : Option TimestampValue := none

structure ConversationListDataPayload where
  conversations : Option (List ConversationPayload) := none
  hasMore : Option Bool := none

structure UnreadStateMessagePayload where
  messageId : String := ""
  conversationId : String := ""
  senderId : String := ""
  contentType : Option Int32 := none
  content : Option MessageContentValue := none
  sequence : Option Int64 := none
  timestamp : Option TimestampValue := none
  createdAt : Option TimestampValue := none
  status : Option Int32 := none

structure ConversationUnreadStatePayload where
  unreadCount : Option Int64 := none
  lastMessageSeq : Option Int64 := none
  lastMessage : Option UnreadStateMessagePayload := none

structure MessageSequencePayload where
  currentSeq : Option Int64 := none

structure NotificationConversationPayload where
  conversationId : Option String := none
  unreadCount : Option Int32 := none
  totalUnread : Option Int32 := none
  isPinned : Option Bool := none
  isMuted : Option Bool := none
  burnAfterReading : Option Int32 := none
  autoDeleteDuration : Option Int32 := none

/-! ## Decoding -/

def parseConversationType (text : String) : ConversationType :=
  if text = "group" then .Group else .Private

/-- The payload carries no sequence number, so `localSeq` stays 0. -/
def parseConversationPayload (payload : ConversationPayload) : Conversation where
  convId := payload.conversationId
  convType := parseConversationType (toLower payload.conversationType)
  targetId := payload.targetId
  lastMsgId := payload.lastMessageId
  lastMsgText := payload.lastMessageContent
  lastMsgTimeMs := parseTimestampMs payload.lastMessageTime
  unreadCount := payload.unreadCount.getD 0
  isPinned := payload.isPinned.getD false
  isMuted := payload.isMuted.getD false
  burnAfterReading := payload.burnAfterReading.getD 0
  autoDeleteDuration := payload.autoDeleteDuration.getD 0
  pinTimeMs := parseTimestampMs payload.pinTime
  updatedAtMs := parseTimestampMs payload.updatedAt

def parseUnreadStateMessage (payload : UnreadStateMessagePayload) (convId : String) :
    Message where
  messageId := payload.messageId
  convId := if payload.conversationId = "" then convId else payload.conversationId
  senderId := payload.senderId
  contentType := payload.contentType.getD 1
  content := parseMessageContent payload.content
  seq := payload.sequence.getD 0
  timestampMs :=
    if payload.timestamp.isSome then parseTimestampMs payload.timestamp
    else parseTimestampMs payload.createdAt
  status := payload.status.getD 0

def parseUnreadState (payload : ConversationUnreadStatePayload) (convId : String) :
    ConversationUnreadState where
  unreadCount := payload.unreadCount.getD 0
  lastMessageSeq := payload.lastMessageSeq.getD 0
  hasLastMessage := payload.lastMessage.isSome
  lastMessage :=
    match payload.lastMessage with
    | some message => parseUnreadStateMessage message convId
    | none => {}

def notificationConversationId (payload : NotificationConversationPayload) : String :=
  payload.conversationId.getD ""

/-- The fields the payload has replace those of the record. -/
def applyNotificationPatch (payload : NotificationConversationPayload) (conv : Conversation) :
    Conversation :=
  { conv with
    convId :=
      if notificationConversationId payload ≠ "" then notificationConversationId payload
      else conv.convId
    unreadCount := payload.unreadCount.getD conv.unreadCount
    isPinned := payload.isPinned.getD conv.isPinned
    isMuted := payload.isMuted.getD conv.isMuted
    burnAfterReading := payload.burnAfterReading.getD conv.burnAfterReading
    autoDeleteDuration := payload.autoDeleteDuration.getD conv.autoDeleteDuration }

def isConversationNotification (notificationType : String) : Bool :=
  notificationType = "conversation.unread_updated" || notificationType = "conversation.pin_updated"
    || notificationType = "conversation.mute_updated" || notificationType = "conversation.deleted"
    || notificationType = "conversation.burn_updated"
    || notificationType = "conversation.auto_delete_updated"

/-! ## Rows -/

/-- Integer columns of times fall back to columns of older schemas. -/
def rowTime (row : Row) (name olderName : String) : Int64 :=
  if row.int name = 0 then normalizeUnixEpochMs (row.int olderName) else row.int name

def rowToConversation (row : Row) : Conversation where
  convId := row.text "conv_id"
  convType := parseConversationType (row.text "conv_type")
  targetId := row.text "target_id"
  lastMsgId := row.text "last_msg_id"
  lastMsgText := row.text "last_msg_text"
  lastMsgTimeMs := rowTime row "last_msg_time_ms" "last_msg_time"
  unreadCount := (row.int "unread_count").toInt32
  isPinned := row.int "is_pinned" ≠ 0
  isMuted := row.int "is_muted" ≠ 0
  burnAfterReading := (row.int "burn_after_reading").toInt32
  autoDeleteDuration := (row.int "auto_delete_duration").toInt32
  pinTimeMs := rowTime row "pin_time_ms" "pin_time"
  localSeq := row.int "local_seq"
  updatedAtMs := rowTime row "updated_at_ms" "updated_at"

def conversationTypeText : ConversationType → String
  | .Group => "group"
  | .Private => "private"

/-- The row `upsertDb` writes. -/
def Conversation.toRow (conv : Conversation) : ConversationRow where
  convType := conversationTypeText conv.convType
  targetId := conv.targetId
  lastMsgId := some conv.lastMsgId
  lastMsgText := conv.lastMsgText
  lastMsgTimeMs := conv.lastMsgTimeMs
  unreadCount := conv.unreadCount.toInt64
  isPinned := if conv.isPinned then 1 else 0
  isMuted := if conv.isMuted then 1 else 0
  burnAfterReading := conv.burnAfterReading.toInt64
  autoDeleteDuration := conv.autoDeleteDuration.toInt64
  pinTimeMs := conv.pinTimeMs
  localSeq := conv.localSeq
  updatedAtMs := conv.updatedAtMs

theorem parseConversationType_conversationTypeText (convType : ConversationType) :
    parseConversationType (conversationTypeText convType) = convType := by
  cases convType <;> decide

theorem normalizeUnixEpochMs_zero : normalizeUnixEpochMs 0 = 0 := by
  decide

theorem rowTime_of_lookup {row : Row} {name olderName : String} {value : Int64}
    (found : row.lookup name = some (toString value)) (absent : row.lookup olderName = none) :
    rowTime row name olderName = value := by
  have older : row.int olderName = 0 := by rw [Row.int, absent]
  rw [rowTime, Row.int_of_lookup found, older, normalizeUnixEpochMs_zero]
  split
  · next zero => exact zero.symm
  · rfl

/-- A stored row, read back. -/
theorem rowToConversation_toRow (convId : String) (row : ConversationRow) :
    rowToConversation (row.toRow convId) =
      { convId := cString convId
        convType := parseConversationType (cString row.convType)
        targetId := cString row.targetId
        lastMsgId := columnText row.lastMsgId
        lastMsgText := cString row.lastMsgText
        lastMsgTimeMs := row.lastMsgTimeMs
        unreadCount := row.unreadCount.toInt32
        isPinned := row.isPinned ≠ 0
        isMuted := row.isMuted ≠ 0
        burnAfterReading := row.burnAfterReading.toInt32
        autoDeleteDuration := row.autoDeleteDuration.toInt32
        pinTimeMs := row.pinTimeMs
        localSeq := row.localSeq
        updatedAtMs := row.updatedAtMs } := by
  have lastMsgTime : rowTime (row.toRow convId) "last_msg_time_ms" "last_msg_time" =
      row.lastMsgTimeMs := rowTime_of_lookup rfl rfl
  have pinTime : rowTime (row.toRow convId) "pin_time_ms" "pin_time" = row.pinTimeMs :=
    rowTime_of_lookup rfl rfl
  have updatedAt : rowTime (row.toRow convId) "updated_at_ms" "updated_at" = row.updatedAtMs :=
    rowTime_of_lookup rfl rfl
  have unreadCount : (row.toRow convId).int "unread_count" = row.unreadCount :=
    Row.int_of_lookup rfl
  have isPinned : (row.toRow convId).int "is_pinned" = row.isPinned := Row.int_of_lookup rfl
  have isMuted : (row.toRow convId).int "is_muted" = row.isMuted := Row.int_of_lookup rfl
  have burnAfterReading : (row.toRow convId).int "burn_after_reading" = row.burnAfterReading :=
    Row.int_of_lookup rfl
  have autoDelete : (row.toRow convId).int "auto_delete_duration" = row.autoDeleteDuration :=
    Row.int_of_lookup rfl
  have localSeq : (row.toRow convId).int "local_seq" = row.localSeq := Row.int_of_lookup rfl
  rw [rowToConversation, lastMsgTime, pinTime, updatedAt, unreadCount, isPinned, isMuted,
    burnAfterReading, autoDelete, localSeq]
  rfl

/-- The texts of a conversation contain no NUL. -/
def Conversation.TextNulFree (conv : Conversation) : Prop :=
  NulFree conv.convId ∧ NulFree conv.targetId ∧ NulFree conv.lastMsgId ∧ NulFree conv.lastMsgText

instance Conversation.decidableTextNulFree (conv : Conversation) :
    Decidable conv.TextNulFree :=
  inferInstanceAs (Decidable (_ ∧ _ ∧ _ ∧ _))

theorem nulFree_conversationTypeText (convType : ConversationType) :
    NulFree (conversationTypeText convType) := by
  cases convType <;> decide

/-- The row written for a conversation without NULs reads back as it. -/
theorem rowToConversation_self {conv : Conversation} (nulFree : conv.TextNulFree) :
    rowToConversation (conv.toRow.toRow conv.convId) = conv := by
  rcases nulFree with ⟨convId, targetId, lastMsgId, lastMsgText⟩
  rw [rowToConversation_toRow]
  simp [Conversation.toRow, columnText_some, cString_eq_self convId, cString_eq_self targetId,
    cString_eq_self lastMsgId, cString_eq_self lastMsgText,
    cString_eq_self (nulFree_conversationTypeText _), parseConversationType_conversationTypeText]

/-! ## Handlers -/

namespace Client

def upsertDb (conv : Conversation) (client : Client) : Client :=
  client.exec (.upsertConversation conv.convId conv.toRow)

/-- Cache first, then row. -/
def saveConversation (conv : Conversation) (client : Client) : Client :=
  (client.mapConvCache (·.upsert conv)).upsertDb conv

/-- A missing `updated_at` becomes the time of the clock. -/
def stampUpdated (conv : Conversation) (client : Client) : Conversation × Client :=
  if conv.updatedAtMs = 0 then
    let (now, client) := client.nowMs
    ({ conv with updatedAtMs := now }, client)
  else (conv, client)

/-- The local part of `getConversationList`: the cache if it has entries, or
else the table if it has rows, which then fill the cache. -/
def getConversationList (client : Client) : Option (List Conversation) × Client :=
  if client.convCache.getAll ≠ [] then (some client.convCache.getAll, client)
  else
    let client := client.querySync
    let rows := client.platform.orderByPinned.sort client.table.conversations.rows
    if rows ≠ [] then
      let fromDb := rows.map fun row => rowToConversation (row.2.toRow row.1)
      (some fromDb, client.mapConvCache fun _ => .setAll fromDb)
    else (none, client)

/-- Write the rows of a list response; entries without an id are skipped. -/
def storeListedConversations : List ConversationPayload → Client → List Conversation × Client
  | [], client => ([], client)
  | payload :: rest, client =>
      let conv := parseConversationPayload payload
      if conv.convId = "" then client.storeListedConversations rest
      else
        let (conv, client) := client.stampUpdated conv
        let (convs, client) := (client.upsertDb conv).storeListedConversations rest
        (conv :: convs, client)

/-- The rows of a list response, and the cache made of them. -/
def replaceConversations (payloads : List ConversationPayload) (client : Client) : Client :=
  let (convs, client) := client.storeListedConversations payloads
  client.mapConvCache fun _ => .setAll convs

/-- The remote part of `getConversationList`. -/
def getConversationListResponse (response : HttpResponse ConversationListDataPayload)
    (client : Client) : Outcome (List Conversation) × Client :=
  match parseApiEnvelopeResponse response "get conversations failed" true false with
  | .error failure => (.error failure, client)
  | .ok data =>
      let client := client.replaceConversations (data.conversations.getD [])
      (.ok client.convCache.getAll, client)

/-- The conversation of a single response, under the id asked for if it has
none of its own. -/
def fetchedConversation (convId : String) (payload : ConversationPayload) : Conversation :=
  let conv := parseConversationPayload payload
  if conv.convId = "" then { conv with convId := convId } else conv

def getConversationResponse (convId : String) (response : HttpResponse ConversationPayload)
    (client : Client) : Outcome Conversation × Client :=
  match parseApiEnvelopeResponse response "get conversation failed" true false with
  | .error failure => (.error failure, client)
  | .ok payload =>
      let (conv, client) := client.stampUpdated (fetchedConversation convId payload)
      (.ok conv, client.saveConversation conv)

/-- An operation whose response carries nothing: `apply` runs on success. -/
def acknowledged (response : HttpResponse Unit) (fallbackError : String)
    (apply : Client → Client) (client : Client) : Outcome Unit × Client :=
  match parseApiEnvelopeResponse response fallbackError true false with
  | .error failure => (.error failure, client)
  | .ok () => (.ok (), apply client)

def removeConversation (convId : String) (client : Client) : Client :=
  (client.mapConvCache (·.remove convId)).exec (.deleteConversation convId)

def deleteConversationResponse (convId : String) (response : HttpResponse Unit)
    (client : Client) : Outcome Unit × Client :=
  client.acknowledged response "delete conversation failed" (removeConversation convId)

def clearUnread (convId : String) (client : Client) : Client :=
  (client.mapConvCache (·.clearUnread convId)).exec (.clearUnread convId)

def markAllReadResponse (convId : String) (response : HttpResponse Unit) (client : Client) :
    Outcome Unit × Client :=
  client.acknowledged response "mark read failed" (clearUnread convId)

/-- Change a cached conversation, stamp it and save it; no effect when it is not
cached. -/
def changeCached (convId : String) (change : Conversation → Conversation) (client : Client) :
    Client :=
  match client.convCache.get convId with
  | none => client
  | some conv =>
      let (now, client) := client.nowMs
      client.saveConversation { change conv with updatedAtMs := now }

/-- Pinning reads the clock a first time, for the pin time. -/
def applyPinned (convId : String) (pinned : Bool) (client : Client) : Client :=
  match client.convCache.get convId with
  | none => client
  | some conv =>
      let (pinTime, client) := if pinned then client.nowMs else (0, client)
      let (now, client) := client.nowMs
      client.saveConversation
        { conv with isPinned := pinned, pinTimeMs := pinTime, updatedAtMs := now }

def setPinnedResponse (convId : String) (pinned : Bool) (response : HttpResponse Unit)
    (client : Client) : Outcome Unit × Client :=
  client.acknowledged response "set pinned failed" (applyPinned convId pinned)

def setMutedResponse (convId : String) (muted : Bool) (response : HttpResponse Unit)
    (client : Client) : Outcome Unit × Client :=
  client.acknowledged response "set muted failed"
    (changeCached convId fun conv => { conv with isMuted := muted })

def setBurnAfterReadingResponse (convId : String) (duration : Int32)
    (response : HttpResponse Unit) (client : Client) : Outcome Unit × Client :=
  client.acknowledged response "set burn_after_reading failed"
    (changeCached convId fun conv => { conv with burnAfterReading := duration })

def setAutoDeleteResponse (convId : String) (duration : Int32) (response : HttpResponse Unit)
    (client : Client) : Outcome Unit × Client :=
  client.acknowledged response "set auto_delete failed"
    (changeCached convId fun conv => { conv with autoDeleteDuration := duration })

/-- The count is cut to 32 bits. -/
def applyUnreadCount (convId : String) (unreadCount : Int64) (client : Client) : Client :=
  match client.convCache.get convId with
  | none => client
  | some conv => client.saveConversation { conv with unreadCount := unreadCount.toInt32 }

def getMessageUnreadCountResponse (convId : String)
    (response : HttpResponse ConversationUnreadStatePayload) (client : Client) :
    Outcome ConversationUnreadState × Client :=
  match parseApiEnvelopeResponse response "get unread count failed" true false with
  | .error failure => (.error failure, client)
  | .ok payload =>
      let state := parseUnreadState payload convId
      (.ok state, client.applyUnreadCount convId state.unreadCount)

/-- The server's sequence number raises a smaller local one; a conversation that
is not cached is raised in the table alone. -/
def applyServerSequence (convId : String) (seq : Int64) (client : Client) : Client :=
  match client.convCache.get convId with
  | some conv =>
      if conv.localSeq < seq then client.saveConversation { conv with localSeq := seq }
      else client
  | none => if 0 < seq then client.exec (.raiseLocalSeq convId seq) else client

def getMessageSequenceResponse (convId : String) (response : HttpResponse MessageSequencePayload)
    (client : Client) : Outcome Int64 × Client :=
  match parseApiEnvelopeResponse response "get message sequence failed" true false with
  | .error failure => (.error failure, client)
  | .ok payload =>
      let seq := payload.currentSeq.getD 0
      (.ok seq, client.applyServerSequence convId seq)

/-! ## Notifications -/

/-- A pin notification keeps the pin time in step with the flag. -/
def patchPinTime (notificationType : String) (payload : NotificationConversationPayload)
    (conv : Conversation) (client : Client) : Conversation × Client :=
  if notificationType = "conversation.pin_updated" then
    if payload.isPinned.getD conv.isPinned = false then ({ conv with pinTimeMs := 0 }, client)
    else if conv.pinTimeMs = 0 then
      let (now, client) := client.nowMs
      ({ conv with pinTimeMs := now }, client)
    else (conv, client)
  else (conv, client)

/-- The record a notification patches: the cached one, or a blank one. -/
def patchedConversation (payload : NotificationConversationPayload) (client : Client) :
    Conversation :=
  let convId := notificationConversationId payload
  let conv : Conversation := (client.convCache.get convId).getD {}
  applyNotificationPatch payload { conv with convId := convId }

def handleConversationNotification (notificationType : String)
    (payload : NotificationConversationPayload) (client : Client) :
    Option Conversation × Client :=
  let convId := notificationConversationId payload
  if convId = "" then (none, client)
  else if notificationType = "conversation.deleted" then
    (some ((client.convCache.get convId).getD { convId := convId }),
      client.removeConversation convId)
  else
    let (conv, client) :=
      client.patchPinTime notificationType payload (client.patchedConversation payload)
    let (conv, client) := client.stampUpdated conv
    (some conv, client.saveConversation conv)

end Client

end AnychatSdk
