import AnychatSdk.FriendManager

/-!
# The group manager

The list of groups is stored as it arrives; of the groups that are created those
with an id are.  Groups that are left or disbanded stay in the table.
-/

namespace AnychatSdk

/-! ## Payloads -/

structure GroupUserInfoPayload where
  userId : String := ""
  nickname : String := ""
  avatar : String := ""

def GroupUserInfoPayload.toUserInfo (payload : GroupUserInfoPayload) : UserInfo where
  userId := payload.userId
  username := payload.nickname
  avatarUrl := payload.avatar

/-- User information without an id gets the one of its record. -/
def groupUserInfoOf (payload : Option GroupUserInfoPayload) (userId : String) : UserInfo :=
  let userInfo := payload.elim {} GroupUserInfoPayload.toUserInfo
  if userInfo.userId = "" then { userInfo with userId := userId } else userInfo

structure GroupListDataPayload where
  groups : Option (List GroupPayload) := none

/-- The details of a group come with plain numbers. -/
structure GroupInfoPayload where
  groupId : String := ""
  name : String := ""
  displayName : String := ""
  avatar : String := ""
  announcement : String := ""
  description : String := ""
  ownerId : String := ""
  memberCount : Int32 := 0
  maxMembers : Int32 := 0
  myRole : Int32 := 0
  joinVerify : Bool := false
  isMuted : Bool := false
  createdAt : Option TimestampValue := none
  updatedAt : Option TimestampValue := none

def parseGroupInfo (payload : GroupInfoPayload) : Group where
  groupId := payload.groupId
  name := payload.name
  displayName := if payload.displayName = "" then payload.name else payload.displayName
  avatarUrl := payload.avatar
  announcement := payload.announcement
  description := payload.description
  ownerId := payload.ownerId
  memberCount := payload.memberCount
  maxMembers := payload.maxMembers
  myRole := parseRoleCode payload.myRole .member
  joinVerify := payload.joinVerify
  isMuted := payload.isMuted
  createdAtMs := parseTimestampMs payload.createdAt
  updatedAtMs := parseTimestampMs payload.updatedAt

structure GroupMemberPayload where
  userId : String := ""
  groupNickname : String := ""
  role : Option IntegerValue := none
  isMuted : Option BooleanValue := none
  mutedUntil : Option TimestampValue := none
  joinedAt : Option TimestampValue := none
  userInfo : Option GroupUserInfoPayload := none

structure GroupMemberListDataPayload where
  members : Option (List GroupMemberPayload) := none

structure GroupMember where
  userId : String
  groupNickname : String
  role : GroupRole
  isMuted : Bool
  mutedUntilMs : Int64
  joinedAtMs : Int64
  userInfo : UserInfo

def parseGroupMember (payload : GroupMemberPayload) : GroupMember where
  userId := payload.userId
  groupNickname := payload.groupNickname
  role := parseRoleValue payload.role .member
  isMuted := parseBoolValue payload.isMuted false
  mutedUntilMs := parseTimestampMs payload.mutedUntil
  joinedAtMs := parseTimestampMs payload.joinedAt
  userInfo := groupUserInfoOf payload.userInfo payload.userId

structure GroupJoinRequestPayload where
  id : Int64 := 0
  groupId : String := ""
  userId : String := ""
  inviterId : String := ""
  message : String := ""
  status : Int32 := 0
  createdAt : Option TimestampValue := none
  userInfo : Option GroupUserInfoPayload := none

structure GroupJoinRequestListDataPayload where
  requests : Option (List GroupJoinRequestPayload) := none

structure GroupJoinRequest where
  requestId : Int64
  groupId : String
  userId : String
  inviterId : String
  message : String
  status : Int32
  createdAtMs : Int64
  userInfo : UserInfo

/-- Pending, accepted or rejected. -/
def isValidJoinRequestStatusCode (status : Int32) : Bool :=
  status = 1 || status = 2 || status = 3

/-- Owner, administrator or member. -/
def isValidGroupRoleCode (roleCode : Int32) : Bool :=
  roleCode = GroupRole.owner.code || roleCode = GroupRole.admin.code ||
    roleCode = GroupRole.member.code

/-- Statuses out of range count as pending. -/
def parseJoinRequest (payload : GroupJoinRequestPayload) : GroupJoinRequest where
  requestId := payload.id
  groupId := payload.groupId
  userId := payload.userId
  inviterId := payload.inviterId
  message := payload.message
  status := if isValidJoinRequestStatusCode payload.status then payload.status else 1
  createdAtMs := parseTimestampMs payload.createdAt
  userInfo := groupUserInfoOf payload.userInfo payload.userId

structure GroupQRCodePayload where
  groupId : String := ""
  token : String := ""
  deepLink : String := ""
  expireAt : Option TimestampValue := none

structure GroupQRCode where
  groupId : String
  token : String
  deepLink : String
  expireAtMs : Int64

def parseGroupQRCode (payload : GroupQRCodePayload) : GroupQRCode where
  groupId := payload.groupId
  token := payload.token
  deepLink := payload.deepLink
  expireAtMs := parseTimestampMs payload.expireAt

/-! ## Functions -/

/-- The bodies of group requests; texts that are empty are left out of an update. -/
inductive GroupRequestBody where
  | createGroup (name : String) (memberIds : List String)
  | joinGroup (message : String)
  | inviteGroup (userIds : List String)
  | updateGroup (name avatar : Option String)
  | updateMemberRole (role : Int32)
  | updateNickname (nickname : String)
  | transferOwnership (newOwnerId : String)
  | handleJoinRequest (accept : Bool)

/-- The JSON library on the types of the group manager. -/
structure GroupJson where
  readUnit : String → ResponseBody Unit
  readGroupList : String → ResponseBody GroupListDataPayload
  readGroupInfo : String → ResponseBody GroupInfoPayload
  readMemberList : String → ResponseBody GroupMemberListDataPayload
  readJoinRequestList : String → ResponseBody GroupJoinRequestListDataPayload
  readQRCode : String → ResponseBody GroupQRCodePayload
  write : GroupRequestBody → Except String String
  deriving Inhabited

namespace GroupManager

variable (json : GroupJson)

def completeEmptyRequest (request : Except (Int32 × String) HttpRequest) (fallbackError : String) :
    ManagerCall ContactTables Unit :=
  .completing request { read := json.readUnit, fallbackError := fallbackError }

/-- The path of a group, or of something below it. -/
def groupPath (groupId subresource : String) : String :=
  "/groups/" ++ groupId ++ subresource

def getGroupList : ManagerCall ContactTables (List Group) :=
  .storing (.ok { method := .get, path := "/groups" })
    { read := json.readGroupList, fallbackError := "get group list failed" }
    (fun data tables => tables.storeGroups (data.groups.getD []))
    fun data => .ok ((data.groups.getD []).map parseGroup)

def getInfo (groupId : String) : ManagerCall ContactTables Group :=
  .fetching (.ok { method := .get, path := groupPath groupId "" })
    { read := json.readGroupInfo, fallbackError := "get group info failed" }
    fun data => .ok (parseGroupInfo data)

/-- A new group without an id is not stored. -/
def create (name : String) (memberIds : List String) : ManagerCall ContactTables Group :=
  .storing (withBody .post "/groups" json.write (.createGroup name memberIds))
    { read := json.readGroupInfo, fallbackError := "create group failed" }
    (fun data tables =>
      let group := parseGroupInfo data
      if group.groupId = "" then tables else tables.storeGroup group)
    fun data => .ok (parseGroupInfo data)

def join (groupId message : String) : ManagerCall ContactTables Unit :=
  completeEmptyRequest json
    (withBody .post (groupPath groupId "/join") json.write (.joinGroup message))
    "join group failed"

def invite (groupId : String) (userIds : List String) : ManagerCall ContactTables Unit :=
  completeEmptyRequest json
    (withBody .post (groupPath groupId "/members") json.write (.inviteGroup userIds))
    "invite group member failed"

def quit (groupId : String) : ManagerCall ContactTables Unit :=
  completeEmptyRequest json
    (.ok { method := .post, path := groupPath groupId "/quit", body := .text "{}" })
    "quit group failed"

def disband (groupId : String) : ManagerCall ContactTables Unit :=
  completeEmptyRequest json (.ok { method := .del, path := groupPath groupId "" })
    "disband group failed"

def update (groupId name avatarUrl : String) : ManagerCall ContactTables Unit :=
  completeEmptyRequest json
    (withBody .put (groupPath groupId "") json.write
      (.updateGroup (if name = "" then none else some name)
        (if avatarUrl = "" then none else some avatarUrl)))
    "update group failed"

def getMembers (groupId : String) (page pageSize : Int32) :
    ManagerCall ContactTables (List GroupMember) :=
  .fetching
    (.ok
      { method := .get
        path := groupPath groupId
          ("/members?page=" ++ toString page ++ "&page_size=" ++ toString pageSize) })
    { read := json.readMemberList, fallbackError := "get group members failed" }
    fun data => .ok ((data.members.getD []).map parseGroupMember)

def removeMember (groupId userId : String) : ManagerCall ContactTables Unit :=
  completeEmptyRequest json
    (.ok { method := .del, path := groupPath groupId ("/members/" ++ userId) })
    "remove group member failed"

def updateMemberRole (groupId userId : String) (role : Int32) : ManagerCall ContactTables Unit :=
  completeEmptyRequest json
    (if !isValidGroupRoleCode role then refuse "invalid role"
    else
      withBody .put (groupPath groupId ("/members/" ++ userId ++ "/role")) json.write
        (.updateMemberRole role))
    "update group member role failed"

def updateNickname (groupId nickname : String) : ManagerCall ContactTables Unit :=
  completeEmptyRequest json
    (withBody .put (groupPath groupId "/nickname") json.write (.updateNickname nickname))
    "update group nickname failed"

def transferOwnership (groupId newOwnerId : String) : ManagerCall ContactTables Unit :=
  completeEmptyRequest json
    (withBody .post (groupPath groupId "/transfer") json.write (.transferOwnership newOwnerId))
    "transfer ownership failed"

/-- A status of 0 asks for the requests of any status. -/
def getJoinRequests (groupId : String) (status : Int32) :
    ManagerCall ContactTables (List GroupJoinRequest) :=
  .fetching
    (if status = 0 then .ok { method := .get, path := groupPath groupId "/requests" }
    else if !isValidJoinRequestStatusCode status then refuse "invalid status"
    else
      .ok { method := .get, path := groupPath groupId ("/requests?status=" ++ toString status) })
    { read := json.readJoinRequestList, fallbackError := "get group join requests failed" }
    fun data => .ok ((data.requests.getD []).map parseJoinRequest)

def handleJoinRequest (groupId : String) (requestId : Int64) (accept : Bool) :
    ManagerCall ContactTables Unit :=
  completeEmptyRequest json
    (withBody .put (groupPath groupId ("/requests/" ++ toString requestId)) json.write
      (.handleJoinRequest accept))
    "handle join request failed"

def getQRCode (groupId : String) : ManagerCall ContactTables GroupQRCode :=
  .fetching (.ok { method := .get, path := groupPath groupId "/qrcode" })
    { read := json.readQRCode, fallbackError := "get group qrcode failed" }
    fun data => .ok (parseGroupQRCode data)

def refreshQRCode (groupId : String) : ManagerCall ContactTables GroupQRCode :=
  .fetching
    (.ok { method := .post, path := groupPath groupId "/qrcode/refresh", body := .text "{}" })
    { read := json.readQRCode, fallbackError := "refresh group qrcode failed" }
    fun data => .ok (parseGroupQRCode data)

end GroupManager

/-- The functions, with what they call back with. -/
inductive GroupCall : Type → Type where
  | getGroupList : GroupCall (List Group)
  | getInfo (groupId : String) : GroupCall Group
  | create (name : String) (memberIds : List String) : GroupCall Group
  | join (groupId message : String) : GroupCall Unit
  | invite (groupId : String) (userIds : List String) : GroupCall Unit
  | quit (groupId : String) : GroupCall Unit
  | disband (groupId : String) : GroupCall Unit
  | update (groupId name avatarUrl : String) : GroupCall Unit
  | getMembers (groupId : String) (page pageSize : Int32) : GroupCall (List GroupMember)
  | removeMember (groupId userId : String) : GroupCall Unit
  | updateMemberRole (groupId userId : String) (role : Int32) : GroupCall Unit
  | updateNickname (groupId nickname : String) : GroupCall Unit
  | transferOwnership (groupId newOwnerId : String) : GroupCall Unit
  | getJoinRequests (groupId : String) (status : Int32) : GroupCall (List GroupJoinRequest)
  | handleJoinRequest (groupId : String) (requestId : Int64) (accept : Bool) : GroupCall Unit
  | getQRCode (groupId : String) : GroupCall GroupQRCode
  | refreshQRCode (groupId : String) : GroupCall GroupQRCode

namespace GroupCall

def call (json : GroupJson) {ρ : Type} : GroupCall ρ → ManagerCall ContactTables ρ
  | getGroupList => GroupManager.getGroupList json
  | getInfo groupId => GroupManager.getInfo json groupId
  | create name memberIds => GroupManager.create json name memberIds
  | join groupId message => GroupManager.join json groupId message
  | invite groupId userIds => GroupManager.invite json groupId userIds
  | quit groupId => GroupManager.quit json groupId
  | disband groupId => GroupManager.disband json groupId
  | update groupId name avatarUrl => GroupManager.update json groupId name avatarUrl
  | getMembers groupId page pageSize => GroupManager.getMembers json groupId page pageSize
  | removeMember groupId userId => GroupManager.removeMember json groupId userId
  | updateMemberRole groupId userId role => GroupManager.updateMemberRole json groupId userId role
  | updateNickname groupId nickname => GroupManager.updateNickname json groupId nickname
  | transferOwnership groupId newOwnerId => GroupManager.transferOwnership json groupId newOwnerId
  | getJoinRequests groupId status => GroupManager.getJoinRequests json groupId status
  | handleJoinRequest groupId requestId accept =>
      GroupManager.handleJoinRequest json groupId requestId accept
  | getQRCode groupId => GroupManager.getQRCode json groupId
  | refreshQRCode groupId => GroupManager.refreshQRCode json groupId

theorem rooted_groupPath (groupId subresource : String) :
    RootedPath (GroupManager.groupPath groupId subresource) :=
  (RootedPath.append (by decide) groupId).append subresource

theorem rooted (json : GroupJson) {ρ : Type} (call : GroupCall ρ) : (call.call json).Rooted := by
  cases call with
  | getGroupList => exact ManagerCall.rooted_of_ok rfl (by decide)
  | getInfo | quit | disband | getMembers | removeMember | getQRCode | refreshQRCode =>
      exact ManagerCall.rooted_of_ok rfl (rooted_groupPath _ _)
  | create => exact fun _ => rooted_of_withBody (by decide)
  | join | invite | update | updateNickname | transferOwnership | handleJoinRequest =>
      exact fun _ => rooted_of_withBody (rooted_groupPath _ _)
  | updateMemberRole =>
      exact fun _ => rooted_of_checked fun _ => rooted_of_withBody (rooted_groupPath _ _)
  | getJoinRequests groupId status =>
      intro request made
      change (if status = 0 then _ else if _ then _ else _) = _ at made
      split at made
      · cases made
        exact rooted_groupPath groupId _
      · refine rooted_of_checked (fun _ made => ?_) made
        cases made
        exact rooted_groupPath groupId _

end GroupCall

end AnychatSdk
