import AnychatSdk.ConversationManager
import AnychatSdk.MessageRequests
import AnychatSdk.ContactRoutes
import AnychatSdk.Network.ManagerCalls

/-!
# Requests about conversations and lists of messages

The functions of the conversation manager, and those of the message manager that
send one request.  What their handlers do to the client is in
`ConversationManager` and `MessageManager`; here are the requests.
-/

namespace AnychatSdk

/-! ## Payloads -/

structure MarkMessagesReadPayload where
  acceptedIds : Option (List String) := none
  ignoredIds : Option (List String) := none
  advancedLastReadSeq : Option Int64 := none

structure ConversationMarkReadResult where
  acceptedIds : List String
  ignoredIds : List String
  advancedLastReadSeq : Int64

/-- Empty ids are left out. -/
def parseMarkMessagesRead (data : MarkMessagesReadPayload) : ConversationMarkReadResult where
  acceptedIds := (data.acceptedIds.getD []).filter (· ≠ "")
  ignoredIds := (data.ignoredIds.getD []).filter (· ≠ "")
  advancedLastReadSeq := data.advancedLastReadSeq.getD 0

structure TotalUnreadDataPayload where
  totalUnread : Option Int64 := none

structure ReceiptUserInfoPayload where
  userId : String := ""
  nickname : String := ""
  avatar : String := ""

def parseReceiptUserInfo (payload : ReceiptUserInfoPayload) : UserInfo where
  userId := payload.userId
  username := payload.nickname
  avatarUrl := payload.avatar

structure ConversationReadReceiptPayload where
  userId : String := ""
  lastReadSeq : Option Int64 := none
  lastReadMessageId : String := ""
  readAt : Option TimestampValue := none
  userInfo : Option ReceiptUserInfoPayload := none

structure ConversationReadReceiptListDataPayload where
  receipts : Option (List ConversationReadReceiptPayload) := none

structure ConversationReadReceipt where
  userId : String
  lastReadSeq : Int64
  lastReadMessageId : String
  readAtMs : Int64
  userInfo : UserInfo

def parseReadReceipt (payload : ConversationReadReceiptPayload) : ConversationReadReceipt where
  userId := payload.userId
  lastReadSeq := payload.lastReadSeq.getD 0
  lastReadMessageId := payload.lastReadMessageId
  readAtMs := parseTimestampMs payload.readAt
  userInfo :=
    let userInfo := payload.userInfo.elim {} parseReceiptUserInfo
    if userInfo.userId = "" then { userInfo with userId := payload.userId } else userInfo

structure GroupReadMemberPayload where
  userId : String := ""
  nickname : String := ""
  name : String := ""
  readAt : Option TimestampValue := none

structure GroupReadStatePayload where
  readCount : Option IntegerValue := none
  unreadCount : Option IntegerValue := none
  readMembers : Option (List GroupReadMemberPayload) := none

structure GroupMessageReadMember where
  userId : String
  nickname : String
  readAtMs : Int64

structure GroupMessageReadState where
  readCount : Int64
  unreadCount : Int64
  readMembers : List GroupMessageReadMember

def parseGroupMessageReadState (payload : GroupReadStatePayload) : GroupMessageReadState where
  readCount := parseInt64Value payload.readCount 0
  unreadCount := parseInt64Value payload.unreadCount 0
  readMembers := (payload.readMembers.getD []).map fun item =>
    { userId := item.userId
      nickname := if item.nickname = "" then item.name else item.nickname
      readAtMs := parseTimestampMs item.readAt }

/-! ## The conversation manager -/

/-- The bodies of conversation requests. -/
inductive ConversationRequestBody where
  | markMessagesRead (messageIds : List String)
  | setPinned (pinned : Bool)
  | setMuted (muted : Bool)
  | duration (duration : Int32)

/-- The JSON library on the types of the conversation manager. -/
structure ConversationJson where
  readUnit : String → ResponseBody Unit
  readConversationList : String → ResponseBody ConversationListDataPayload
  readConversation : String → ResponseBody ConversationPayload
  readMarkMessagesRead : String → ResponseBody MarkMessagesReadPayload
  readTotalUnread : String → ResponseBody TotalUnreadDataPayload
  readUnreadState : String → ResponseBody ConversationUnreadStatePayload
  readReceiptList : String → ResponseBody ConversationReadReceiptListDataPayload
  readMessageSequence : String → ResponseBody MessageSequencePayload
  write : ConversationRequestBody → Except String String
  deriving Inhabited

/-- The path of a conversation, or of something below it. -/
def conversationPath (convId subresource : String) : String :=
  "/conversations/" ++ convId ++ subresource

namespace ConversationManager

variable (json : ConversationJson)

/-- The request of `getConversationList`, for when nothing is stored. -/
def fetchConversationList : ManagerCall Client (List Conversation) where
  Data := ConversationListDataPayload
  request := .ok { method := .get, path := "/conversations" }
  decoding := .with200 json.readConversationList "get conversations failed"
  handle raw client := client.getConversationListResponse (raw.read json.readConversationList)

/-- The cache or the table answers at once if it can. -/
def getConversationList : Operation Client Empty (List Conversation) :=
  .act (fun client => client.getConversationList.2) fun client =>
    match client.getConversationList.1 with
    | some conversations => callBack (.ok conversations)
    | none => (fetchConversationList json).code

def getConversation (convId : String) : ManagerCall Client Conversation where
  Data := ConversationPayload
  request := .ok { method := .get, path := conversationPath convId "" }
  decoding := .with200 json.readConversation "get conversation failed"
  handle raw client := client.getConversationResponse convId (raw.read json.readConversation)

def deleteConversation (convId : String) : ManagerCall Client Unit where
  Data := Unit
  request := .ok { method := .del, path := conversationPath convId "" }
  decoding := .with200 json.readUnit "delete conversation failed"
  handle raw client := client.deleteConversationResponse convId (raw.read json.readUnit)

def markAllRead (convId : String) : ManagerCall Client Unit where
  Data := Unit
  request := .ok { method := .post, path := conversationPath convId "/read-all" }
  decoding := .with200 json.readUnit "mark read failed"
  handle raw client := client.markAllReadResponse convId (raw.read json.readUnit)

def markMessagesRead (convId : String) (messageIds : List String) :
    ManagerCall Client ConversationMarkReadResult :=
  .fetching
    (if messageIds = [] then refuse "message_ids is empty"
    else
      withBody .post (conversationPath convId "/messages/read") json.write
        (.markMessagesRead messageIds))
    (.with200 json.readMarkMessagesRead "mark messages read failed")
    fun data => .ok (parseMarkMessagesRead data)

def setPinned (convId : String) (pinned : Bool) : ManagerCall Client Unit where
  Data := Unit
  request := withBody .put (conversationPath convId "/pin") json.write (.setPinned pinned)
  decoding := .with200 json.readUnit "set pinned failed"
  handle raw client := client.setPinnedResponse convId pinned (raw.read json.readUnit)

def setMuted (convId : String) (muted : Bool) : ManagerCall Client Unit where
  Data := Unit
  request := withBody .put (conversationPath convId "/mute") json.write (.setMuted muted)
  decoding := .with200 json.readUnit "set muted failed"
  handle raw client := client.setMutedResponse convId muted (raw.read json.readUnit)

def setBurnAfterReading (convId : String) (duration : Int32) : ManagerCall Client Unit where
  Data := Unit
  request := withBody .put (conversationPath convId "/burn") json.write (.duration duration)
  decoding := .with200 json.readUnit "set burn_after_reading failed"
  handle raw client := client.setBurnAfterReadingResponse convId duration (raw.read json.readUnit)

def setAutoDelete (convId : String) (duration : Int32) : ManagerCall Client Unit where
  Data := Unit
  request := withBody .put (conversationPath convId "/auto_delete") json.write (.duration duration)
  decoding := .with200 json.readUnit "set auto_delete failed"
  handle raw client := client.setAutoDeleteResponse convId duration (raw.read json.readUnit)

/-- The total is cut to 32 bits. -/
def getTotalUnread : ManagerCall Client Int32 :=
  .fetching (.ok { method := .get, path := "/conversations/unread/total" })
    (.with200 json.readTotalUnread "get total unread failed")
    fun data => .ok (data.totalUnread.getD 0).toInt32

/-- A negative sequence number is left out of the request. -/
def getMessageUnreadCount (convId : String) (lastReadSeq : Int64) :
    ManagerCall Client ConversationUnreadState where
  Data := ConversationUnreadStatePayload
  request := .ok
    { method := .get
      path := conversationPath convId "/messages/unread-count" ++
        if 0 ≤ lastReadSeq then "?last_read_seq=" ++ toString lastReadSeq else "" }
  decoding := .with200 json.readUnreadState "get unread count failed"
  handle raw client := client.getMessageUnreadCountResponse convId (raw.read json.readUnreadState)

def getMessageReadReceipts (convId : String) : ManagerCall Client (List ConversationReadReceipt) :=
  .fetching
    (.ok { method := .get, path := conversationPath convId "/messages/read-receipts" })
    (.with200 json.readReceiptList "get message read receipts failed")
    fun data => .ok ((data.receipts.getD []).map parseReadReceipt)

def getMessageSequence (convId : String) : ManagerCall Client Int64 where
  Data := MessageSequencePayload
  request := .ok { method := .get, path := conversationPath convId "/messages/sequence" }
  decoding := .with200 json.readMessageSequence "get message sequence failed"
  handle raw client := client.getMessageSequenceResponse convId (raw.read json.readMessageSequence)

end ConversationManager

/-! ## The message manager -/

namespace MessageManager

variable (json : MessageJson) (readReadState : String → ResponseBody GroupReadStatePayload)

def getOfflineMessages (lastSeq : Int64) (limit : Int32) :
    ManagerCall Client MessageOfflineResult where
  Data := MessageListDataPayload
  request := .ok
    { method := .get
      path := "/messages/offline?last_seq=" ++ toString lastSeq ++ "&limit=" ++ toString limit }
  decoding := .with200 json.readMessageList "get offline messages failed"
  handle raw client := client.getOfflineMessagesResponse (raw.read json.readMessageList)

def getGroupMessageReadState (groupId messageId : String) :
    ManagerCall Client GroupMessageReadState :=
  .fetching
    (if groupId = "" ∨ messageId = "" then refuse "group_id and message_id must not be empty"
    else
      .ok
        { method := .get
          path := "/groups/" ++ groupId ++ "/messages/" ++ messageId ++ "/reads" })
    (.with200 readReadState "get group message read state failed")
    fun data => .ok (parseGroupMessageReadState data)

/-- Content types go from 1 to 7; 0 asks for all of them. -/
def searchMessages (keyword conversationId : String) (contentType limit offset : Int32) :
    ManagerCall Client MessageSearchResult where
  Data := MessageListDataPayload
  request :=
    if keyword = "" then refuse "keyword must not be empty"
    else if contentType ≠ 0 ∧ (contentType < 1 ∨ 7 < contentType) then
      refuse "content_type must be in [1,7]"
    else
      .ok
        { method := .get
          path := "/messages/search?keyword=" ++ urlEncode keyword ++
            (if conversationId = "" then "" else "&conversation_id=" ++ urlEncode conversationId) ++
            (if contentType = 0 then "" else "&content_type=" ++ toString contentType) ++
            (if 0 < limit then "&limit=" ++ toString limit else "") ++
            if 0 < offset then "&offset=" ++ toString offset else "" }
  decoding := .with200 json.readMessageList "search messages failed"
  handle raw client :=
    client.searchMessagesResponse keyword contentType (raw.read json.readMessageList)

/-- `ackMessages` of one message, or of none. -/
def markAsRead (convId messageId : String) : Operation Client Empty Unit :=
  Client.ackMessages json convId (if messageId = "" then [] else [messageId])

end MessageManager

/-! ## All functions with one request -/

/-- The functions of both managers that send one request, with what they call back
with. -/
inductive ChatCall : Type → Type where
  | fetchConversationList : ChatCall (List Conversation)
  | getConversation (convId : String) : ChatCall Conversation
  | deleteConversation (convId : String) : ChatCall Unit
  | markAllRead (convId : String) : ChatCall Unit
  | markMessagesRead (convId : String) (messageIds : List String) :
      ChatCall ConversationMarkReadResult
  | setPinned (convId : String) (pinned : Bool) : ChatCall Unit
  | setMuted (convId : String) (muted : Bool) : ChatCall Unit
  | setBurnAfterReading (convId : String) (duration : Int32) : ChatCall Unit
  | setAutoDelete (convId : String) (duration : Int32) : ChatCall Unit
  | getTotalUnread : ChatCall Int32
  | getMessageUnreadCount (convId : String) (lastReadSeq : Int64) :
      ChatCall ConversationUnreadState
  | getMessageReadReceipts (convId : String) : ChatCall (List ConversationReadReceipt)
  | getMessageSequence (convId : String) : ChatCall Int64
  | getOfflineMessages (lastSeq : Int64) (limit : Int32) : ChatCall MessageOfflineResult
  | getGroupMessageReadState (groupId messageId : String) : ChatCall GroupMessageReadState
  | searchMessages (keyword conversationId : String) (contentType limit offset : Int32) :
      ChatCall MessageSearchResult

namespace ChatCall

variable (json : ConversationJson) (messageJson : MessageJson)
  (readReadState : String → ResponseBody GroupReadStatePayload) {ρ : Type}

def call : ChatCall ρ → ManagerCall Client ρ
  | fetchConversationList => ConversationManager.fetchConversationList json
  | getConversation convId => ConversationManager.getConversation json convId
  | deleteConversation convId => ConversationManager.deleteConversation json convId
  | markAllRead convId => ConversationManager.markAllRead json convId
  | markMessagesRead convId messageIds =>
      ConversationManager.markMessagesRead json convId messageIds
  | setPinned convId pinned => ConversationManager.setPinned json convId pinned
  | setMuted convId muted => ConversationManager.setMuted json convId muted
  | setBurnAfterReading convId duration =>
      ConversationManager.setBurnAfterReading json convId duration
  | setAutoDelete convId duration => ConversationManager.setAutoDelete json convId duration
  | getTotalUnread => ConversationManager.getTotalUnread json
  | getMessageUnreadCount convId lastReadSeq =>
      ConversationManager.getMessageUnreadCount json convId lastReadSeq
  | getMessageReadReceipts convId => ConversationManager.getMessageReadReceipts json convId
  | getMessageSequence convId => ConversationManager.getMessageSequence json convId
  | getOfflineMessages lastSeq limit => MessageManager.getOfflineMessages messageJson lastSeq limit
  | getGroupMessageReadState groupId messageId =>
      MessageManager.getGroupMessageReadState readReadState groupId messageId
  | searchMessages keyword conversationId contentType limit offset =>
      MessageManager.searchMessages messageJson keyword conversationId contentType limit offset

theorem rooted_conversationPath (convId subresource : String) :
    RootedPath (conversationPath convId subresource) :=
  (RootedPath.append (by decide) convId).append subresource

theorem rooted (call : ChatCall ρ) : (call.call json messageJson readReadState).Rooted := by
  cases call with
  | fetchConversationList | getTotalUnread => exact ManagerCall.rooted_of_ok rfl (by decide)
  | getConversation | deleteConversation | markAllRead | getMessageReadReceipts
  | getMessageSequence =>
      exact ManagerCall.rooted_of_ok rfl (rooted_conversationPath _ _)
  | getMessageUnreadCount =>
      exact ManagerCall.rooted_of_ok rfl ((rooted_conversationPath _ _).append _)
  | setPinned | setMuted | setBurnAfterReading | setAutoDelete =>
      exact fun _ => rooted_of_withBody (rooted_conversationPath _ _)
  | markMessagesRead =>
      exact fun _ => rooted_of_checked fun _ => rooted_of_withBody (rooted_conversationPath _ _)
  | getOfflineMessages lastSeq limit =>
      have offline : RootedPath ("/messages/offline?last_seq=" ++ toString lastSeq) :=
        RootedPath.append (by decide) _
      exact ManagerCall.rooted_of_ok rfl ((offline.append _).append _)
  | getGroupMessageReadState groupId messageId =>
      refine fun _ => rooted_of_checked fun _ made => ?_
      cases made
      have group : RootedPath ("/groups/" ++ groupId) := RootedPath.append (by decide) _
      exact ((group.append _).append _).append _
  | searchMessages keyword conversationId contentType limit offset =>
      refine fun _ => rooted_of_checked fun _ => rooted_of_checked fun _ made => ?_
      cases made
      have keyed : RootedPath ("/messages/search?keyword=" ++ urlEncode keyword) :=
        RootedPath.append (by decide) _
      exact (((keyed.append _).append _).append _).append _

end ChatCall

end AnychatSdk
