import AnychatSdk.MessageManager
import AnychatSdk.SyncEngine

/-!
# Three ways for a message to arrive

A message comes in a list response, in a notification or in a sync response, and
each way has a payload and a decoder of its own.  Here one server message is
put into all three payloads.
-/

namespace AnychatSdk

/-- A message of the server; each value says how the JSON library reads it where
the type of the field leaves a choice. -/
structure ServerMessage where
  messageId : String := ""
  localId : String := ""
  conversationId : String := ""
  senderId : String := ""
  contentType : Option IntegerValue := none
  content : Option MessageContentValue := none
  sequence : Option IntegerValue := none
  replyTo : String := ""
  status : Option IntegerValue := none
  sendState : Option IntegerValue := none
  isRead : Option BooleanValue := none
  timestamp : Option TimestampValue := none

/-- The fields that all routes define. -/
structure DecodedFields where
  messageId : String
  convId : String
  senderId : String
  contentType : Int32
  content : String
  seq : Int64
  replyTo : String
  status : Int32
  sendState : Int32
  timestampMs : Int64

def Message.decodedFields (message : Message) : DecodedFields where
  messageId := message.messageId
  convId := message.convId
  senderId := message.senderId
  contentType := message.contentType
  content := message.content
  seq := message.seq
  replyTo := message.replyTo
  status := message.status
  sendState := message.sendState
  timestampMs := message.timestampMs

/-- The common fields without the send state. -/
def Message.serverFields (message : Message) : DecodedFields :=
  { message.decodedFields with sendState := 0 }

namespace ServerMessage

/-! ## The payloads -/

def messagePayload (message : ServerMessage) : MessagePayload where
  messageId := message.messageId
  localId := message.localId
  conversationId := message.conversationId
  senderId := message.senderId
  contentType := message.contentType
  content := message.content
  sequence := message.sequence
  replyTo := message.replyTo
  createdAt := message.timestamp
  status := message.status
  sendState := message.sendState
  isRead := message.isRead

/-- A field of type `std::string`: any other value is a parse error. -/
def stringField : Option MessageContentValue → Option String
  | none => some ""
  | some (.string text) => some text
  | some (.rawJson _ _) => none

/-- A field of type `std::optional<int64_t>`. -/
def int64Field : Option IntegerValue → Option (Option Int64)
  | none => some none
  | some (.int64 value) => some (some value)
  | some (.double _) | some (.string _) => none

/-- The payload of a notification; `none` is a parse error, on which the handler
drops the notification. -/
def notificationPayload (message : ServerMessage) : Option NotificationMessagePayload := do
  let content ← stringField message.content
  let seq ← int64Field message.sequence
  pure
    { messageId := message.messageId
      localId := message.localId
      conversationId := message.conversationId
      fromUserId := message.senderId
      contentType := message.contentType
      content := content
      seq := seq
      replyTo := message.replyTo
      sentAt := message.timestamp }

def deltaPayload (message : ServerMessage) : ConversationMessagesPayload where
  conversationId := message.conversationId
  messages := some
    [{ messageId := message.messageId
       senderId := message.senderId
       contentType := message.contentType
       content := message.content
       sequence := message.sequence
       replyTo := message.replyTo
       status := message.status
       createdAt := message.timestamp }]

/-! ## The routes -/

/-- A history or offline response; `defaultConvId` is the conversation asked
for. -/
def fromList (defaultConvId : String) (message : ServerMessage) : Option Message :=
  (Client.listedMessages { messages := some [message.messagePayload] } defaultConvId).head?

/-- A push notification; its handlers drop a message without an id. -/
def fromNotification (message : ServerMessage) : Option Message :=
  (message.notificationPayload.map parseMessageFromNotification).filter
    fun decoded => decoded.messageId ≠ ""

/-- A sync response, which skips conversations without an id. -/
def fromSync (message : ServerMessage) : Option Message :=
  if message.deltaPayload.conversationId = "" then none
  else (Client.syncedMessages message.deltaPayload).head?

/-- The routes accept the message together, and what they decode looks the same. -/
structure SameOnAllRoutes {α : Type} (view : Message → α) (defaultConvId : String)
    (message : ServerMessage) : Prop where
  listed_synced : (message.fromList defaultConvId).map view = message.fromSync.map view
  notified_synced : message.fromNotification.map view = message.fromSync.map view

/-! ## What each route accepts -/

section Routes

variable (defaultConvId : String) (message : ServerMessage)

theorem fromList_eq : message.fromList defaultConvId =
    if message.messageId = "" then none
    else some (parseMessagePayload message.messagePayload defaultConvId) := by
  have sameId : (parseMessagePayload message.messagePayload defaultConvId).messageId =
      message.messageId := rfl
  by_cases empty : message.messageId = ""
  · simp [fromList, Client.listedMessages, sameId, empty]
  · simp [fromList, Client.listedMessages, sameId, empty]

theorem fromNotification_eq : message.fromNotification =
    if message.messageId = "" then none
    else message.notificationPayload.map parseMessageFromNotification := by
  rw [fromNotification, notificationPayload]
  cases stringField message.content with
  | none => simp
  | some content =>
      cases int64Field message.sequence with
      | none => simp
      | some seq =>
          by_cases empty : message.messageId = ""
          · simp [parseMessageFromNotification, empty]
          · simp [parseMessageFromNotification, empty]

theorem fromSync_eq : message.fromSync =
    if message.messageId = "" ∨ message.conversationId = "" then none
    else
      some (Client.syncedMessage message.conversationId
        { messageId := message.messageId
          senderId := message.senderId
          contentType := message.contentType
          content := message.content
          sequence := message.sequence
          replyTo := message.replyTo
          status := message.status
          createdAt := message.timestamp }) := by
  by_cases unnamed : message.conversationId = ""
  · simp [fromSync, deltaPayload, unnamed]
  · by_cases empty : message.messageId = ""
    · simp [fromSync, deltaPayload, Client.syncedMessages, Client.syncedMessage, unnamed, empty]
    · simp [fromSync, deltaPayload, Client.syncedMessages, Client.syncedMessage, unnamed, empty]

end Routes

/-! ## Where the routes differ -/

/-- The two ranges in which a content type is accepted are the same. -/
theorem normalizeMessageContentType_eq (value : Option IntegerValue) :
    normalizeMessageContentType value =
      if 1 ≤ (parseInt64Value value 1).toInt32 ∧ (parseInt64Value value 1).toInt32 ≤ 7 then
        (parseInt64Value value 1).toInt32
      else 1 := by
  have sameDefault : (Client.messageContentTypeText).toInt64 = 1 := by decide
  have parsed : parseInt32Value value Client.messageContentTypeText =
      (parseInt64Value value 1).toInt32 := by
    rw [parseInt32Value, sameDefault]
  rw [normalizeMessageContentType, parsed]
  generalize (parseInt64Value value 1).toInt32 = contentType
  change (if contentType < 1 ∨ 7 < contentType then 1 else contentType) = _
  by_cases inRange : 1 ≤ contentType ∧ contentType ≤ 7
  · have notOutside : ¬(contentType < 1 ∨ 7 < contentType) := by
      rw [not_or, Int32.not_lt, Int32.not_lt]
      exact inRange
    rw [if_pos inRange, if_neg notOutside]
  · have outside : contentType < 1 ∨ 7 < contentType := by
      rw [not_and_or, Int32.not_le, Int32.not_le] at inRange
      exact inRange
    rw [if_neg inRange, if_pos outside]

/-- A list takes a message without a conversation, and a sync does not. -/
theorem named_of_fromList_eq {α : Type} {view : Message → α} {defaultConvId : String}
    {message : ServerMessage} (hasId : message.messageId ≠ "")
    (listed : (message.fromList defaultConvId).map view = message.fromSync.map view) :
    message.conversationId ≠ "" := by
  intro unnamed
  rw [fromList_eq, if_neg hasId, fromSync_eq, if_pos (.inr unnamed)] at listed
  exact nomatch listed

/-- A message looks the same on all routes exactly when all of them drop it:
a sync counts it as sent and a notification as pending. -/
theorem sameOnAllRoutes_iff (defaultConvId : String) (message : ServerMessage) :
    message.SameOnAllRoutes Message.decodedFields defaultConvId ↔ message.messageId = "" := by
  constructor
  · rintro ⟨listed, notified⟩
    by_contra hasId
    have named := named_of_fromList_eq hasId listed
    rw [fromNotification_eq, if_neg hasId, fromSync_eq, if_neg (not_or.mpr ⟨hasId, named⟩)]
      at notified
    rcases Option.map_eq_some_iff.mp notified with ⟨decoded, accepted, same⟩
    rcases Option.map_eq_some_iff.mp accepted with ⟨payload, _, rfl⟩
    have pending : (0 : Int32) = 1 := congrArg DecodedFields.sendState same
    exact absurd pending (by decide)
  · intro empty
    constructor
    · rw [fromList_eq, fromSync_eq, if_pos empty, if_pos (.inl empty)]
    · rw [fromNotification_eq, fromSync_eq, if_pos empty, if_pos (.inl empty)]

/-- A plain text message in conversation c1. -/
def plainText : ServerMessage where
  messageId := "m1"
  conversationId := "c1"
  senderId := "u1"
  content := some (.string "hello")
  sequence := some (.int64 1)

theorem not_sameOnAllRoutes_plainText :
    ¬plainText.SameOnAllRoutes Message.decodedFields "" := by
  rintro ⟨_, notified⟩
  have pending : (0 : Int32) = 1 := congrArg DecodedFields.sendState (Option.some.inj notified)
  exact absurd pending (by decide)

theorem parseMessageContent_of_stringField {value : Option MessageContentValue} {text : String}
    (read : stringField value = some text) : parseMessageContent value = text := by
  cases value with
  | none => exact Option.some.inj read
  | some value =>
      cases value with
      | string content => exact Option.some.inj read
      | rawJson raw asString => exact nomatch read

theorem parseInt64Value_of_int64Field {value : Option IntegerValue} {seq : Option Int64}
    (read : int64Field value = some seq) : parseInt64Value value 0 = seq.getD 0 := by
  cases value with
  | none =>
      obtain rfl := Option.some.inj read
      rfl
  | some value =>
      cases value with
      | int64 number =>
          obtain rfl := Option.some.inj read
          rfl
      | double number => exact nomatch read
      | string text => exact nomatch read

/-- Apart from the send state, a message with an id looks the same exactly when it
names its conversation, has a content and a sequence number of the types that
notifications admit, and both readings of its status give 0. -/
theorem sameServerFields_iff (defaultConvId : String) (message : ServerMessage)
    (hasId : message.messageId ≠ "") :
    message.SameOnAllRoutes Message.serverFields defaultConvId ↔
      message.conversationId ≠ "" ∧ (∃ text, stringField message.content = some text) ∧
        (∃ seq, int64Field message.sequence = some seq) ∧
          parseMessageStatus message.status 0 = 0 ∧
            (parseInt64Value message.status 0).toInt32 = 0 := by
  constructor
  · rintro ⟨listed, notified⟩
    have named := named_of_fromList_eq hasId listed
    have synced := message.fromSync_eq
    rw [if_neg (not_or.mpr ⟨hasId, named⟩)] at synced
    rw [fromList_eq, if_neg hasId, synced] at listed
    rw [fromNotification_eq, if_neg hasId, synced] at notified
    rcases Option.map_eq_some_iff.mp notified with ⟨decoded, accepted, same⟩
    rcases Option.map_eq_some_iff.mp accepted with ⟨payload, parsed, rfl⟩
    have listedStatus : parseMessageStatus message.status 0 =
        (parseInt64Value message.status 0).toInt32 :=
      congrArg DecodedFields.status (Option.some.inj listed)
    have syncedStatus : 0 = (parseInt64Value message.status 0).toInt32 :=
      congrArg DecodedFields.status same
    refine ⟨named, ?_, ?_, listedStatus.trans syncedStatus.symm, syncedStatus.symm⟩
    · rw [notificationPayload] at parsed
      cases content : stringField message.content with
      | none => simp [content] at parsed
      | some text => exact ⟨text, rfl⟩
    · rw [notificationPayload] at parsed
      cases sequence : int64Field message.sequence with
      | none => simp [sequence] at parsed
      | some seq => exact ⟨seq, rfl⟩
  · rintro ⟨named, ⟨text, content⟩, ⟨seq, sequence⟩, listedStatus, syncedStatus⟩
    have synced := message.fromSync_eq
    rw [if_neg (not_or.mpr ⟨hasId, named⟩)] at synced
    constructor
    · have sameConv : (parseMessagePayload message.messagePayload defaultConvId).convId =
          message.conversationId := if_neg named
      rw [fromList_eq, if_neg hasId, synced]
      simp only [Option.map_some, Message.serverFields, Message.decodedFields, sameConv]
      simp only [parseMessagePayload, messagePayload, Client.syncedMessage,
        normalizeMessageContentType_eq, listedStatus, syncedStatus]
    · rw [fromNotification_eq, if_neg hasId, synced]
      simp only [notificationPayload, content, sequence, Option.map_some, Message.serverFields,
        Message.decodedFields, parseMessageFromNotification, Client.syncedMessage,
        normalizeMessageContentType_eq, parseMessageContent_of_stringField content,
        parseInt64Value_of_int64Field sequence, syncedStatus, Option.bind_eq_bind,
        Option.bind_some, Option.pure_def]

end ServerMessage

end AnychatSdk
