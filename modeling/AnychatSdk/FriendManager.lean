import AnychatSdk.AuthRequests
import AnychatSdk.ContactRoutes
import AnychatSdk.Network.ManagerCalls

/-!
# The friend manager

Friends, friend requests and the blacklist.  Of all its functions only
`getFriendList` leaves something behind: the rows of the list.
-/

namespace AnychatSdk

/-! ## The tables of contacts -/

/-- The tables that the friend and the group manager write, once the queued
statements have run. -/
structure ContactTables where
  friends : KeyTable String FriendRow := ∅
  groups : KeyTable String GroupRow := ∅

def Db.contacts (db : Db) : ContactTables where
  friends := db.friends
  groups := db.groups

namespace ContactTables

def storeFriend (payload : FriendPayload) (tables : ContactTables) : ContactTables :=
  { tables with friends := tables.friends.write (toFriend payload).userId (toFriend payload).toRow }

def storeGroup (group : Group) (tables : ContactTables) : ContactTables :=
  { tables with groups := tables.groups.write group.groupId group.toRow }

/-- The rows of a friend list, one statement each. -/
def storeFriends (friends : List FriendPayload) (tables : ContactTables) : ContactTables :=
  friends.foldl (fun tables payload => tables.storeFriend payload) tables

def storeGroups (groups : List GroupPayload) (tables : ContactTables) : ContactTables :=
  groups.foldl (fun tables payload => tables.storeGroup (parseGroup payload)) tables

end ContactTables

/-- The statements reach no other table. -/
theorem contacts_storeFriends (friends : List FriendPayload) (db : Db) :
    (db.storeFriends friends).contacts = db.contacts.storeFriends friends := by
  induction friends generalizing db with
  | nil => rfl
  | cons payload rest ih => exact ih _

theorem contacts_storeGroups (groups : List GroupPayload) (db : Db) :
    (db.storeGroups groups).contacts = db.contacts.storeGroups groups := by
  induction groups generalizing db with
  | nil => rfl
  | cons payload rest ih => exact ih _

/-! ## Payloads -/

structure FriendListDataPayload where
  friends : Option (List FriendPayload) := none

structure FriendRequestPayload where
  id : Int64 := 0
  fromUserId : String := ""
  toUserId : String := ""
  message : String := ""
  source : Option BooleanValue := none
  status : Option BooleanValue := none
  createdAt : Option TimestampValue := none
  fromUserInfo : Option UserInfoPayload := none

structure FriendRequestListDataPayload where
  requests : Option (List FriendRequestPayload) := none

structure FriendRequest where
  requestId : Int64
  fromUserId : String
  toUserId : String
  message : String
  source : Int32
  status : Int32
  createdAtMs : Int64
  fromUserInfo : UserInfo

structure BlacklistItemPayload where
  id : Int64 := 0
  userId : String := ""
  blockedUserId : String := ""
  createdAt : Option TimestampValue := none
  blockedUserInfo : Option UserInfoPayload := none

structure BlacklistListDataPayload where
  items : Option (List BlacklistItemPayload) := none

structure BlacklistItem where
  id : Int64
  userId : String
  blockedUserId : String
  createdAtMs : Int64
  blockedUserInfo : UserInfo

/-- `kFriendSourceSearch`. -/
def friendSourceSearch : Int32 := 1

def normalizeSource (value : Option BooleanValue) : Int32 :=
  parseDeviceType value friendSourceSearch

/-- The status of a friend request; a value that is absent means pending. -/
def normalizeStatus (value : Option BooleanValue) : Int32 :=
  parseDeviceType value 1

/-- User information without an id gets the one of its record. -/
def userInfoOf (payload : Option UserInfoPayload) (userId : String) : UserInfo :=
  let userInfo := payload.elim {} toUserInfo
  if userInfo.userId = "" then { userInfo with userId := userId } else userInfo

def toFriendRequest (payload : FriendRequestPayload) : FriendRequest where
  requestId := payload.id
  fromUserId := payload.fromUserId
  toUserId := payload.toUserId
  message := payload.message
  source := normalizeSource payload.source
  status := normalizeStatus payload.status
  createdAtMs := parseTimestampMs payload.createdAt
  fromUserInfo := userInfoOf payload.fromUserInfo payload.fromUserId

def toBlacklistItem (payload : BlacklistItemPayload) : BlacklistItem where
  id := payload.id
  userId := payload.userId
  blockedUserId := payload.blockedUserId
  createdAtMs := parseTimestampMs payload.createdAt
  blockedUserInfo := userInfoOf payload.blockedUserInfo payload.blockedUserId

/-! ## Functions -/

/-- The bodies of friend requests. -/
inductive FriendRequestBody where
  | sendFriendRequest (userId message : String) (source : Int32)
  | handleFriendRequest (action : Int32)
  | updateRemark (remark : String)
  | addBlacklist (userId : String)

/-- The JSON library on the types of the friend manager. -/
structure FriendJson where
  readUnit : String → ResponseBody Unit
  readFriendList : String → ResponseBody FriendListDataPayload
  readFriendRequestList : String → ResponseBody FriendRequestListDataPayload
  readBlacklist : String → ResponseBody BlacklistListDataPayload
  write : FriendRequestBody → Except String String
  deriving Inhabited

namespace FriendManager

variable (json : FriendJson)

/-- `completeRequest`, with the error that stands in for an empty message. -/
def completeRequest (request : Except (Int32 × String) HttpRequest) (fallbackError : String) :
    ManagerCall ContactTables Unit :=
  .completing request { read := json.readUnit, fallbackError := fallbackError }

def getFriendList : ManagerCall ContactTables (List Friend) :=
  .storing (.ok { method := .get, path := "/friends" }) { read := json.readFriendList }
    (fun data tables => tables.storeFriends (data.friends.getD []))
    fun data => .ok ((data.friends.getD []).map toFriend)

def addFriend (toUserId message : String) (source : Int32) : ManagerCall ContactTables Unit :=
  completeRequest json
    (withBody .post "/friends/requests" json.write
      (.sendFriendRequest toUserId message (if 0 < source then source else friendSourceSearch)))
    "send request failed"

def deleteFriend (friendId : String) : ManagerCall ContactTables Unit :=
  completeRequest json (.ok { method := .del, path := "/friends/" ++ friendId })
    "delete friend failed"

def updateRemark (friendId remark : String) : ManagerCall ContactTables Unit :=
  completeRequest json
    (withBody .put ("/friends/" ++ friendId ++ "/remark") json.write (.updateRemark remark))
    "update remark failed"

/-- Requests are accepted or rejected. -/
def handleFriendRequest (requestId : Int64) (action : Int32) : ManagerCall ContactTables Unit :=
  completeRequest json
    (if action ≠ 1 ∧ action ≠ 2 then refuse "invalid action"
    else
      withBody .put ("/friends/requests/" ++ toString requestId) json.write
        (.handleFriendRequest action))
    "handle request failed"

/-- Received requests, which 0 stands for too, or sent ones. -/
def getFriendRequests (requestType : Int32) : ManagerCall ContactTables (List FriendRequest) :=
  let type := if requestType = 0 then 1 else requestType
  .fetching
    (if type ≠ 1 ∧ type ≠ 2 then refuse "invalid request_type"
    else .ok { method := .get, path := "/friends/requests?request_type=" ++ toString type })
    { read := json.readFriendRequestList }
    fun data => .ok ((data.requests.getD []).map toFriendRequest)

def getBlacklist : ManagerCall ContactTables (List BlacklistItem) :=
  .fetching (.ok { method := .get, path := "/friends/blacklist" }) { read := json.readBlacklist }
    fun data => .ok ((data.items.getD []).map toBlacklistItem)

def addToBlacklist (userId : String) : ManagerCall ContactTables Unit :=
  completeRequest json (withBody .post "/friends/blacklist" json.write (.addBlacklist userId))
    "add blacklist failed"

def removeFromBlacklist (userId : String) : ManagerCall ContactTables Unit :=
  completeRequest json (.ok { method := .del, path := "/friends/blacklist/" ++ userId })
    "remove blacklist failed"

end FriendManager

/-- The functions, with what they call back with. -/
inductive FriendCall : Type → Type where
  | getFriendList : FriendCall (List Friend)
  | addFriend (toUserId message : String) (source : Int32) : FriendCall Unit
  | deleteFriend (friendId : String) : FriendCall Unit
  | updateRemark (friendId remark : String) : FriendCall Unit
  | handleFriendRequest (requestId : Int64) (action : Int32) : FriendCall Unit
  | getFriendRequests (requestType : Int32) : FriendCall (List FriendRequest)
  | getBlacklist : FriendCall (List BlacklistItem)
  | addToBlacklist (userId : String) : FriendCall Unit
  | removeFromBlacklist (userId : String) : FriendCall Unit

namespace FriendCall

def call (json : FriendJson) {ρ : Type} : FriendCall ρ → ManagerCall ContactTables ρ
  | getFriendList => FriendManager.getFriendList json
  | addFriend toUserId message source => FriendManager.addFriend json toUserId message source
  | deleteFriend friendId => FriendManager.deleteFriend json friendId
  | updateRemark friendId remark => FriendManager.updateRemark json friendId remark
  | handleFriendRequest requestId action =>
      FriendManager.handleFriendRequest json requestId action
  | getFriendRequests requestType => FriendManager.getFriendRequests json requestType
  | getBlacklist => FriendManager.getBlacklist json
  | addToBlacklist userId => FriendManager.addToBlacklist json userId
  | removeFromBlacklist userId => FriendManager.removeFromBlacklist json userId

theorem rooted (json : FriendJson) {ρ : Type} (call : FriendCall ρ) : (call.call json).Rooted := by
  have friend : ∀ friendId, RootedPath ("/friends/" ++ friendId) :=
    fun friendId => RootedPath.append (by decide) friendId
  cases call with
  | getFriendList => exact ManagerCall.rooted_of_ok rfl (by decide)
  | addFriend toUserId message source => exact fun _ => rooted_of_withBody (by decide)
  | deleteFriend friendId => exact ManagerCall.rooted_of_ok rfl (friend friendId)
  | updateRemark friendId remark => exact fun _ => rooted_of_withBody ((friend friendId).append _)
  | handleFriendRequest requestId action =>
      exact fun _ => rooted_of_checked fun _ =>
        rooted_of_withBody (RootedPath.append (by decide) (toString requestId))
  | getFriendRequests requestType =>
      refine fun _ => rooted_of_checked fun _ made => ?_
      cases made
      exact RootedPath.append (by decide) _
  | getBlacklist => exact ManagerCall.rooted_of_ok rfl (by decide)
  | addToBlacklist userId => exact fun _ => rooted_of_withBody (by decide)
  | removeFromBlacklist userId =>
      exact ManagerCall.rooted_of_ok rfl (RootedPath.append (by decide) userId)

end FriendCall

end AnychatSdk
