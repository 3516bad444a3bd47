import AnychatSdk.CallManager
import AnychatSdk.GroupManager
import AnychatSdk.UserRequests

/-!
# Notifications of friends, groups, users and calls

Four managers tell their listeners of notifications and keep nothing of them.
Data comes as the JSON library reads it for the payload of the manager, `none`
where it does not read.
-/

namespace AnychatSdk

/-! ## Friends -/

structure NotificationFriendEventPayload where
  userId : String := ""
  friendUserId : String := ""
  targetUserId : String := ""
  addedByUserId : String := ""
  remark : String := ""
  isDeleted : Bool := false
  requestId : Int64 := 0
  fromUserId : String := ""
  toUserId : String := ""
  message : String := ""
  source : Option BooleanValue := none
  status : Option BooleanValue := none
  action : String := ""
  updatedAt : Option TimestampValue := none
  createdAt : Option TimestampValue := none
  changedAt : Option TimestampValue := none
  userInfo : Option UserInfoPayload := none
  fromUserInfo : Option UserInfoPayload := none
  blockedUserInfo : Option UserInfoPayload := none

/-- The first of four ids that is there. -/
def NotificationFriendEventPayload.friendId (payload : NotificationFriendEventPayload) : String :=
  if payload.userId ≠ "" then payload.userId
  else if payload.friendUserId ≠ "" then payload.friendUserId
  else if payload.addedByUserId ≠ "" then payload.addedByUserId
  else payload.targetUserId

def parseNotificationFriend (payload : NotificationFriendEventPayload) : Friend where
  userId := payload.friendId
  remark := payload.remark
  updatedAtMs := parseTimestampMs payload.updatedAt
  isDeleted := payload.isDeleted
  userInfo := userInfoOf payload.userInfo payload.friendId

def parseNotificationFriendRequest (payload : NotificationFriendEventPayload) : FriendRequest where
  requestId := payload.requestId
  fromUserId := payload.fromUserId
  toUserId := payload.toUserId
  message := payload.message
  source := normalizeSource payload.source
  status := normalizeStatus payload.status
  createdAtMs := parseTimestampMs payload.createdAt
  fromUserInfo := userInfoOf payload.fromUserInfo payload.fromUserId

def parseNotificationBlacklistItem (payload : NotificationFriendEventPayload) : BlacklistItem where
  id := payload.requestId
  userId := payload.userId
  blockedUserId := payload.targetUserId
  createdAtMs := parseTimestampMs payload.changedAt
  blockedUserInfo := userInfoOf payload.blockedUserInfo payload.targetUserId

def isAddAction (action : String) : Bool :=
  ["add", "added", "create", "created", "block", "blocked"].contains (toLower action)

def isRemoveAction (action : String) : Bool :=
  ["remove", "removed", "delete", "deleted", "unblock", "unblocked"].contains (toLower action)

/-- The calls of a `FriendListener`. -/
inductive FriendReport where
  | friendAdded (friendInfo : Friend)
  | friendDeleted (userId : String)
  | friendInfoChanged (friendInfo : Friend)
  | blacklistAdded (item : BlacklistItem)
  | blacklistRemoved (blockedUserId : String)
  | friendRequestReceived (request : FriendRequest)
  | friendRequestDeleted (request : FriendRequest)
  | friendRequestAccepted (request : FriendRequest)
  | friendRequestRejected (request : FriendRequest)

/-- The report of a request that was accepted, rejected or has expired. -/
def requestHandledReport (payload : NotificationFriendEventPayload) : Option FriendReport :=
  let request := parseNotificationFriendRequest payload
  let status := normalizeStatus payload.status
  if status = 2 then some (.friendRequestAccepted request)
  else if status = 3 then some (.friendRequestRejected request)
  else if status = 4 then some (.friendRequestDeleted request)
  else none

def blacklistChangedReport (payload : NotificationFriendEventPayload) : Option FriendReport :=
  if isAddAction payload.action then
    some (.blacklistAdded (parseNotificationBlacklistItem payload))
  else if isRemoveAction payload.action then some (.blacklistRemoved payload.targetUserId)
  else none

/-- What a type of notification is told as. -/
def friendReport (type : String) (payload : NotificationFriendEventPayload) :
    Option FriendReport :=
  if type = "friend.added" then some (.friendAdded (parseNotificationFriend payload))
  else if type = "friend.deleted" then some (.friendDeleted payload.friendUserId)
  else if type = "friend.remark_updated" then
    some (.friendInfoChanged (parseNotificationFriend payload))
  else if type = "friend.blacklist_changed" then blacklistChangedReport payload
  else if type = "friend.request" then
    some (.friendRequestReceived (parseNotificationFriendRequest payload))
  else if type = "friend.request_handled" then requestHandledReport payload
  else none

/-- `type.rfind(prefix, 0) == 0`. -/
def hasPrefix (start type : String) : Bool :=
  start.toList.isPrefixOf type.toList

def handleFriendNotification (listening : Bool) (type : String)
    (data : Option NotificationFriendEventPayload) : Option FriendReport :=
  if !hasPrefix "friend." type then none
  else if !listening then none
  else data.bind (friendReport type)

/-! ## Groups -/

structure NotificationGroupEventPayload where
  groupId : String := ""
  groupName : String := ""
  groupAvatar : String := ""
  announcement : String := ""
  description : String := ""
  ownerId : String := ""
  memberCount : Int32 := 0
  maxMembers : Int32 := 0
  myRole : Int32 := 0
  joinVerify : Bool := false
  isMuted : Bool := false
  createdAt : Option TimestampValue := none
  updatedAt : Option TimestampValue := none
  inviterUserId : String := ""

/-- `parseNotificationGroup` of `toGroupPayload`. -/
def parseNotificationGroup (payload : NotificationGroupEventPayload) : Group where
  groupId := payload.groupId
  name := payload.groupName
  displayName := payload.groupName
  avatarUrl := payload.groupAvatar
  announcement := payload.announcement
  description := payload.description
  ownerId := payload.ownerId
  memberCount := payload.memberCount
  maxMembers := payload.maxMembers
  myRole := if payload.myRole ≠ 0 then parseRoleCode payload.myRole .member else .member
  joinVerify := payload.joinVerify
  isMuted := payload.isMuted
  createdAtMs := parseTimestampMs payload.createdAt
  updatedAtMs := parseTimestampMs payload.updatedAt

/-- The calls of a `GroupListener` that notifications lead to. -/
inductive GroupReport where
  | groupInvited (group : Group) (inviterId : String)
  | groupUpdated (group : Group)

/-- The types that are told as an update. -/
def groupUpdates : List String :=
  ["group.info_updated", "group.member_joined", "group.member_left", "group.role_changed",
    "group.muted", "group.disbanded", "group.member_muted", "group.member_unmuted"]

def groupReport (listening : Bool) (type : String) (payload : NotificationGroupEventPayload) :
    Option GroupReport :=
  if type = "group.invited" then
    if listening then
      some (.groupInvited (parseNotificationGroup payload) payload.inviterUserId)
    else none
  else if groupUpdates.contains type then
    if listening then some (.groupUpdated (parseNotificationGroup payload)) else none
  else none

def handleGroupNotification (listening : Bool) (type : String)
    (data : Option NotificationGroupEventPayload) : Option GroupReport :=
  if !hasPrefix "group." type then none else data.bind (groupReport listening type)

/-! ## Users -/

structure NotificationUserStatusPayload where
  userId : String := ""
  status : Option BooleanValue := none
  lastActiveAt : Option TimestampValue := none
  platform : Int32 := 0

structure UserStatusEvent where
  userId : String := ""
  status : Int32 := 0
  lastActiveAtMs : Int64 := 0
  platform : Int32 := 0

/-- Offline, online or away, by name or by number; anything else is offline. -/
def normalizeUserStatus (status : Option BooleanValue) : Int32 :=
  let value := parseDeviceType status 0
  let byNumber := if value = 0 ∨ value = 1 ∨ value = 2 then value else 0
  match status with
  | some (.string text) =>
      if toLower text = "online" then 1
      else if toLower text = "away" then 2
      else if toLower text = "offline" then 0
      else byNumber
  | _ => byNumber

def parseNotificationStatusEvent (payload : NotificationUserStatusPayload) : UserStatusEvent where
  userId := payload.userId
  status := normalizeUserStatus payload.status
  lastActiveAtMs := parseTimestampMs payload.lastActiveAt
  platform := payload.platform

/-- The calls of a `UserListener`. -/
inductive UserReport where
  | profileUpdated (info : UserInfo)
  | friendProfileChanged (info : UserInfo)
  | userStatusChanged (event : UserStatusEvent)

/-- Data that does not read is told as a blank record. -/
def handleUserNotification (listening : Bool) (type : String) (info : Option UserInfoPayload)
    (status : Option NotificationUserStatusPayload) : Option UserReport :=
  if type = "user.profile_updated" then
    if listening then some (.profileUpdated (info.elim {} toUserInfo)) else none
  else if type = "user.friend_profile_changed" then
    if listening then some (.friendProfileChanged (info.elim {} toUserInfo)) else none
  else if type = "user.status_changed" then
    if listening then some (.userStatusChanged (status.elim {} parseNotificationStatusEvent))
    else none
  else none

/-! ## Calls -/

structure CallStatusNotificationPayload where
  callId : String := ""
  status : Option IntegerValue := none

/-- The calls of a `CallListener`. -/
inductive CallReport where
  | incomingCall (session : CallSession)
  | callStatusChanged (callId : String) (status : CallStatus)

/-- A rejected call is rejected whatever status it comes with. -/
def handleCallNotification (listening : Bool) (type : String)
    (session : Option CallSessionPayload) (status : Option CallStatusNotificationPayload) :
    Option CallReport :=
  if type = "livekit.call_invite" then
    if listening then session.map fun payload => .incomingCall (parseCallSessionPayload payload)
    else none
  else if type = "livekit.call_status" ∨ type = "livekit.call_rejected" then
    if listening then
      status.map fun payload =>
        .callStatusChanged payload.callId
          (if type = "livekit.call_rejected" then .rejected
          else parseCallStatusValue payload.status .ringing)
    else none
  else none

end AnychatSdk
