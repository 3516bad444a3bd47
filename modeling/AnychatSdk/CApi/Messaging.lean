import AnychatSdk.CApi.AsyncEntry

/-!
# Entry points for messages, conversations and files
-/

namespace AnychatSdk.CApi

open AsyncEntry

/-- The first `count` entries of an array of C strings. -/
def arrayPrefix (array : List CString) (count : Int32) : List CString :=
  array.take count.toInt.toNat

/-- Null pointers and empty texts in an array of ids are left out. -/
def nonEmptyIds (array : List CString) (count : Int32) : List String :=
  ((arrayPrefix array count).filterMap id).filter fun text => text ≠ ""

/-! ## Messages -/

/-- The methods of `MessageManagerImpl`. -/
inductive MessageCall where
  | sendTextMessage (convId content : String)
  | getHistory (convId : String) (beforeTimestampMs : Int64) (limit : Int32)
  | markAsRead (convId messageId : String)
  | getOfflineMessages (lastSeq : Int64) (limit : Int32)
  | ackMessages (convId : String) (messageIds : List String)
  | getGroupMessageReadState (groupId messageId : String)
  | searchMessages (keyword conversationId : String) (contentType limit offset : Int32)
  | recallMessage (messageId : String)
  | deleteMessage (messageId : String)
  | editMessage (messageId content : String)
  | sendTyping (conversationId : String) (typing : Bool) (ttlSeconds : Int32)

def anychatMessageSendText : AsyncEntry :=
  ofTexts MessageCall.sendTextMessage

def anychatMessageGetHistory : AsyncEntry :=
  ofTextAnd fun convId (rest : Int64 × Int32) => MessageCall.getHistory convId rest.1 rest.2

def anychatMessageMarkRead : AsyncEntry :=
  ofTexts MessageCall.markAsRead

def anychatMessageGetOffline : AsyncEntry :=
  ofValue fun (args : Int64 × Int32) => MessageCall.getOfflineMessages args.1 args.2

def anychatMessageAck : AsyncEntry where
  Args := CString × Option (List CString) × Int32
  Request := MessageCall
  hasRequired := fun (convId, _, _) => convId.isSome
  inRange := fun (_, _, messageCount) => 0 ≤ messageCount
  request := fun (convId, messageIds, messageCount) =>
    .ackMessages convId.text (nonEmptyIds (messageIds.getD []) messageCount)

def anychatMessageGetGroupReadState : AsyncEntry :=
  ofTexts MessageCall.getGroupMessageReadState

def anychatMessageSearch : AsyncEntry where
  Args := CString × CString × Int32 × Int32 × Int32
  Request := MessageCall
  hasRequired := fun (keyword, _, _, _, _) => keyword.isSome
  inRange := fun (_, _, contentType, _, _) => 0 ≤ contentType && contentType ≤ 7
  request := fun (keyword, conversationId, contentType, limit, offset) =>
    .searchMessages keyword.text conversationId.text contentType limit offset

def anychatMessageRecall : AsyncEntry :=
  ofText MessageCall.recallMessage

def anychatMessageDelete : AsyncEntry :=
  ofText MessageCall.deleteMessage

def anychatMessageEdit : AsyncEntry :=
  ofTexts MessageCall.editMessage

def anychatMessageSendTyping : AsyncEntry :=
  ofTextAnd fun conversationId (rest : Int32 × Int32) =>
    MessageCall.sendTyping conversationId (rest.1 ≠ 0) rest.2

def messageEntries : List AsyncEntry :=
  [anychatMessageSendText, anychatMessageGetHistory, anychatMessageMarkRead,
    anychatMessageGetOffline, anychatMessageAck, anychatMessageGetGroupReadState,
    anychatMessageSearch, anychatMessageRecall, anychatMessageDelete, anychatMessageEdit,
    anychatMessageSendTyping]

/-! ## Conversations -/

/-- The methods of `ConversationManagerImpl`. -/
inductive ConversationCall where
  | getConversationList
  | getTotalUnread
  | getConversation (convId : String)
  | markAllRead (convId : String)
  | markMessagesRead (convId : String) (messageIds : List String)
  | setPinned (convId : String) (pinned : Bool)
  | setMuted (convId : String) (muted : Bool)
  | setBurnAfterReading (convId : String) (duration : Int32)
  | setAutoDelete (convId : String) (duration : Int32)
  | deleteConversation (convId : String)
  | getMessageUnreadCount (convId : String) (lastReadSeq : Int64)
  | getMessageReadReceipts (convId : String)
  | getMessageSequence (convId : String)

def anychatConvGetList : AsyncEntry :=
  ofNothing ConversationCall.getConversationList

def anychatConvGetTotalUnread : AsyncEntry :=
  ofNothing ConversationCall.getTotalUnread

def anychatConvGet : AsyncEntry :=
  ofText ConversationCall.getConversation

def anychatConvMarkAllRead : AsyncEntry :=
  ofText ConversationCall.markAllRead

/-- At least one id has to be left. -/
def anychatConvMarkMessagesRead : AsyncEntry where
  Args := CString × Option (List CString) × Int32
  Request := ConversationCall
  hasRequired := fun (convId, messageIds, _) => convId.isSome && messageIds.isSome
  inRange := fun (_, messageIds, messageIdCount) =>
    0 < messageIdCount && !(nonEmptyIds (messageIds.getD []) messageIdCount).isEmpty
  request := fun (convId, messageIds, messageIdCount) =>
    .markMessagesRead convId.text (nonEmptyIds (messageIds.getD []) messageIdCount)

def anychatConvSetPinned : AsyncEntry :=
  ofTextAnd fun convId (pinned : Int32) => ConversationCall.setPinned convId (pinned ≠ 0)

def anychatConvSetMuted : AsyncEntry :=
  ofTextAnd fun convId (muted : Int32) => ConversationCall.setMuted convId (muted ≠ 0)

def anychatConvSetBurnAfterReading : AsyncEntry :=
  ofTextAnd ConversationCall.setBurnAfterReading

def anychatConvSetAutoDelete : AsyncEntry :=
  ofTextAnd ConversationCall.setAutoDelete

def anychatConvDelete : AsyncEntry :=
  ofText ConversationCall.deleteConversation

def anychatConvGetMessageUnreadCount : AsyncEntry :=
  ofTextAnd ConversationCall.getMessageUnreadCount

def anychatConvGetMessageReadReceipts : AsyncEntry :=
  ofText ConversationCall.getMessageReadReceipts

def anychatConvGetMessageSequence : AsyncEntry :=
  ofText ConversationCall.getMessageSequence

def conversationEntries : List AsyncEntry :=
  [anychatConvGetList, anychatConvGetTotalUnread, anychatConvGet, anychatConvMarkAllRead,
    anychatConvMarkMessagesRead, anychatConvSetPinned, anychatConvSetMuted,
    anychatConvSetBurnAfterReading, anychatConvSetAutoDelete, anychatConvDelete,
    anychatConvGetMessageUnreadCount, anychatConvGetMessageReadReceipts,
    anychatConvGetMessageSequence]

/-! ## Files -/

/-- The methods of `FileManagerImpl`; a progress function is named by a number. -/
inductive FileCall where
  | upload (localPath : String) (fileType : Int32) (onProgress : Option Nat)
  | getDownloadUrl (fileId : String)
  | getFileInfo (fileId : String)
  | listFiles (fileType page pageSize : Int32)
  | uploadClientLog (localPath : String) (onProgress : Option Nat) (expiresHours : Int32)
  | deleteFile (fileId : String)

def anychatFileUpload : AsyncEntry :=
  ofTextAnd fun localPath (rest : Int32 × Option Nat) =>
    FileCall.upload localPath rest.1 rest.2

def anychatFileGetDownloadUrl : AsyncEntry :=
  ofText FileCall.getDownloadUrl

def anychatFileGetInfo : AsyncEntry :=
  ofText FileCall.getFileInfo

def anychatFileList : AsyncEntry where
  Args := Int32 × Int32 × Int32
  Request := FileCall
  request := fun (fileType, page, pageSize) =>
    .listFiles fileType (if 0 < page then page else 1) (if 0 < pageSize then pageSize else 20)

def anychatFileUploadLog : AsyncEntry :=
  ofTextAnd fun localPath (rest : Int32 × Option Nat) =>
    FileCall.uploadClientLog localPath rest.2 rest.1

def anychatFileDelete : AsyncEntry :=
  ofText FileCall.deleteFile

def fileEntries : List AsyncEntry :=
  [anychatFileUpload, anychatFileGetDownloadUrl, anychatFileGetInfo, anychatFileList,
    anychatFileUploadLog, anychatFileDelete]

end AnychatSdk.CApi
