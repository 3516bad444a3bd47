import Mathlib.Init

/-!
# Data types of the SDK

The records that the managers, the caches and the database exchange.  Integer
fields have the width the SDK declares for them; `int` is 32 bits wide.
-/

namespace AnychatSdk

/-- Externally visible connection state. -/
inductive ConnectionState where
  | disconnected
  | connecting
  | connected
  | reconnecting
  deriving DecidableEq, Repr

/-- Legacy message kind; no decoder ever sets it. -/
inductive MessageType where
  | text
  | image
  | file
  | audio
  | video
  deriving DecidableEq, Repr

/-- A message.  `status` is 0 for normal, 1 for recalled, 2 for deleted;
`sendState` is 0 for pending, 1 for sent, 2 for failed. -/
structure Message where
  messageId : String := ""
  localId : String := ""
  convId : String := ""
  senderId : String := ""
  contentType : Int32 := 0
  type : MessageType := .text
  content : String := ""
  seq : Int64 := 0
  replyTo : String := ""
  timestampMs : Int64 := 0
  status : Int32 := 0
  sendState : Int32 := 0
  isRead : Bool := false
  deriving DecidableEq, Repr

structure MessageOfflineResult where
  messages : List Message := []
  hasMore : Bool := false
  nextSeq : Int64 := 0
  deriving DecidableEq, Repr

structure MessageSearchResult where
  messages : List Message := []
  total : Int64 := 0
  deriving DecidableEq, Repr

structure MessageReadReceiptEvent where
  conversationId : String := ""
  fromUserId : String := ""
  messageId : String := ""
  lastReadSeq : Int64 := 0
  lastReadMessageId : String := ""
  readAtMs : Int64 := 0
  deriving DecidableEq, Repr

structure MessageTypingEvent where
  conversationId : String := ""
  fromUserId : String := ""
  typing : Bool := false
  expireAtMs : Int64 := 0
  deviceId : String := ""
  deriving DecidableEq, Repr

/-- Constructors keep the source's capitals: `private` is a Lean keyword. -/
inductive ConversationType where
  | Private
  | Group
  deriving DecidableEq, Repr

/-- A conversation as the managers and the cache hold it. -/
structure Conversation where
  convId : String := ""
  convType : ConversationType := .Private
  targetId : String := ""
  lastMsgId : String := ""
  lastMsgText : String := ""
  lastMsgTimeMs : Int64 := 0
  unreadCount : Int32 := 0
  isPinned : Bool := false
  isMuted : Bool := false
  burnAfterReading : Int32 := 0
  autoDeleteDuration : Int32 := 0
  pinTimeMs : Int64 := 0
  localSeq : Int64 := 0
  updatedAtMs : Int64 := 0
  deriving DecidableEq, Repr

structure ConversationUnreadState where
  unreadCount : Int64 := 0
  lastMessageSeq : Int64 := 0
  hasLastMessage : Bool := false
  lastMessage : Message := {}
  deriving DecidableEq, Repr

end AnychatSdk
