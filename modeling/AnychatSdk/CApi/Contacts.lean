import AnychatSdk.CApi.AsyncEntry
import AnychatSdk.CApi.Messaging

/-!
# Entry points for friends, groups and calls
-/

namespace AnychatSdk.CApi

open AsyncEntry

/-! ## Friends -/

/-- The methods of `FriendManagerImpl`. -/
inductive FriendCall where
  | getFriendList
  | addFriend (toUserId message : String) (source : Int32)
  | deleteFriend (friendId : String)
  | updateRemark (friendId remark : String)
  | getFriendRequests (requestType : Int32)
  | handleFriendRequest (requestId : Int64) (action : Int32)
  | addToBlacklist (userId : String)
  | removeFromBlacklist (userId : String)
  | getBlacklist

def anychatFriendGetList : AsyncEntry :=
  ofNothing FriendCall.getFriendList

def anychatFriendAdd : AsyncEntry :=
  ofTextAnd fun toUserId (rest : CString × Int32) =>
    FriendCall.addFriend toUserId rest.1.text rest.2

def anychatFriendDelete : AsyncEntry :=
  ofText FriendCall.deleteFriend

def anychatFriendUpdateRemark : AsyncEntry :=
  ofTextAnd fun friendId (remark : CString) => FriendCall.updateRemark friendId remark.text

def anychatFriendGetRequests : AsyncEntry :=
  ofValue FriendCall.getFriendRequests

def anychatFriendHandleRequest : AsyncEntry :=
  ofValue fun (args : Int64 × Int32) => FriendCall.handleFriendRequest args.1 args.2

def anychatFriendAddToBlacklist : AsyncEntry :=
  ofText FriendCall.addToBlacklist

def anychatFriendRemoveFromBlacklist : AsyncEntry :=
  ofText FriendCall.removeFromBlacklist

def anychatFriendGetBlacklist : AsyncEntry :=
  ofNothing FriendCall.getBlacklist

def friendEntries : List AsyncEntry :=
  [anychatFriendGetList, anychatFriendAdd, anychatFriendDelete, anychatFriendUpdateRemark,
    anychatFriendGetRequests, anychatFriendHandleRequest, anychatFriendAddToBlacklist,
    anychatFriendRemoveFromBlacklist, anychatFriendGetBlacklist]

/-! ## Groups -/

/-- The methods of `GroupManagerImpl`. -/
inductive GroupCall where
  | getGroupList
  | getInfo (groupId : String)
  | create (name : String) (memberIds : List String)
  | join (groupId message : String)
  | invite (groupId : String) (userIds : List String)
  | quit (groupId : String)
  | disband (groupId : String)
  | update (groupId name avatarUrl : String)
  | getMembers (groupId : String) (page pageSize : Int32)
  | removeMember (groupId userId : String)
  | updateMemberRole (groupId userId : String) (role : Int32)
  | updateNickname (groupId nickname : String)
  | transferOwnership (groupId newOwnerId : String)
  | getJoinRequests (groupId : String) (status : Int32)
  | handleJoinRequest (groupId : String) (requestId : Int64) (accept : Bool)
  | getQRCode (groupId : String)
  | refreshQRCode (groupId : String)

def isValidGroupRoleCode (role : Int32) : Bool :=
  role = 1 || role = 2 || role = 3

def isValidJoinRequestStatusCode (status : Int32) : Bool :=
  status = 0 || status = 1 || status = 2 || status = 3

/-- Only null pointers in an array of user ids are left out. -/
def nonNullIds (array : List CString) (count : Int32) : List String :=
  (arrayPrefix array count).filterMap id

def anychatGroupGetList : AsyncEntry :=
  ofNothing GroupCall.getGroupList

def anychatGroupGetInfo : AsyncEntry :=
  ofText GroupCall.getInfo

def anychatGroupCreate : AsyncEntry :=
  ofTextAnd fun name (rest : Option (List CString) × Int32) =>
    GroupCall.create name (nonNullIds (rest.1.getD []) rest.2)

def anychatGroupJoin : AsyncEntry :=
  ofTextAnd fun groupId (message : CString) => GroupCall.join groupId message.text

def anychatGroupInvite : AsyncEntry :=
  ofTextAnd fun groupId (rest : Option (List CString) × Int32) =>
    GroupCall.invite groupId (nonNullIds (rest.1.getD []) rest.2)

def anychatGroupQuit : AsyncEntry :=
  ofText GroupCall.quit

def anychatGroupDisband : AsyncEntry :=
  ofText GroupCall.disband

def anychatGroupUpdate : AsyncEntry :=
  ofTextAnd fun groupId (rest : CString × CString) =>
    GroupCall.update groupId rest.1.text rest.2.text

def anychatGroupGetMembers : AsyncEntry :=
  ofTextAnd fun groupId (rest : Int32 × Int32) => GroupCall.getMembers groupId rest.1 rest.2

def anychatGroupRemoveMember : AsyncEntry :=
  ofTexts GroupCall.removeMember

def anychatGroupUpdateMemberRole : AsyncEntry where
  Args := CString × CString × Int32
  Request := GroupCall
  hasRequired := fun (groupId, userId, _) => groupId.isSome && userId.isSome
  inRange := fun (_, _, role) => isValidGroupRoleCode role
  request := fun (groupId, userId, role) => .updateMemberRole groupId.text userId.text role

def anychatGroupUpdateNickname : AsyncEntry :=
  ofTexts GroupCall.updateNickname

def anychatGroupTransferOwnership : AsyncEntry :=
  ofTexts GroupCall.transferOwnership

def anychatGroupGetJoinRequests : AsyncEntry where
  Args := CString × Int32
  Request := GroupCall
  hasRequired := fun (groupId, _) => groupId.isSome
  inRange := fun (_, status) => isValidJoinRequestStatusCode status
  request := fun (groupId, status) => .getJoinRequests groupId.text status

def anychatGroupHandleJoinRequest : AsyncEntry :=
  ofTextAnd fun groupId (rest : Int64 × Int32) =>
    GroupCall.handleJoinRequest groupId rest.1 (rest.2 ≠ 0)

def anychatGroupGetQrcode : AsyncEntry :=
  ofText GroupCall.getQRCode

def anychatGroupRefreshQrcode : AsyncEntry :=
  ofText GroupCall.refreshQRCode

def groupEntries : List AsyncEntry :=
  [anychatGroupGetList, anychatGroupGetInfo, anychatGroupCreate, anychatGroupJoin,
    anychatGroupInvite, anychatGroupQuit, anychatGroupDisband, anychatGroupUpdate,
    anychatGroupGetMembers, anychatGroupRemoveMember, anychatGroupUpdateMemberRole,
    anychatGroupUpdateNickname, anychatGroupTransferOwnership, anychatGroupGetJoinRequests,
    anychatGroupHandleJoinRequest, anychatGroupGetQrcode, anychatGroupRefreshQrcode]

/-! ## Calls -/

inductive CallType where
  | audio
  | video

/-- The methods of `CallManagerImpl`. -/
inductive CallManagerCall where
  | initiateCall (calleeId : String) (callType : CallType)
  | joinCall (callId : String)
  | rejectCall (callId : String)
  | endCall (callId : String)
  | getCallSession (callId : String)
  | getCallLogs (page pageSize : Int32)
  | createMeeting (title password : String) (maxParticipants : Int32)
  | joinMeeting (roomId password : String)
  | endMeeting (roomId : String)
  | getMeeting (roomId : String)
  | listMeetings (page pageSize : Int32)

/-- Every code but that of a video call stands for an audio call. -/
def callTypeFromC (code : Int32) : CallType :=
  if code = 1 then .video else .audio

def anychatCallInitiateCall : AsyncEntry :=
  ofTextAnd fun calleeId (callType : Int32) =>
    CallManagerCall.initiateCall calleeId (callTypeFromC callType)

def anychatCallJoinCall : AsyncEntry :=
  ofText CallManagerCall.joinCall

def anychatCallRejectCall : AsyncEntry :=
  ofText CallManagerCall.rejectCall

def anychatCallEndCall : AsyncEntry :=
  ofText CallManagerCall.endCall

def anychatCallGetCallSession : AsyncEntry :=
  ofText CallManagerCall.getCallSession

def anychatCallGetCallLogs : AsyncEntry :=
  ofValue fun (args : Int32 × Int32) => CallManagerCall.getCallLogs args.1 args.2

def anychatCallCreateMeeting : AsyncEntry :=
  ofTextAnd fun title (rest : CString × Int32) =>
    CallManagerCall.createMeeting title rest.1.text rest.2

def anychatCallJoinMeeting : AsyncEntry :=
  ofTextAnd fun roomId (password : CString) => CallManagerCall.joinMeeting roomId password.text

def anychatCallEndMeeting : AsyncEntry :=
  ofText CallManagerCall.endMeeting

def anychatCallGetMeeting : AsyncEntry :=
  ofText CallManagerCall.getMeeting

def anychatCallListMeetings : AsyncEntry :=
  ofValue fun (args : Int32 × Int32) => CallManagerCall.listMeetings args.1 args.2

def callEntries : List AsyncEntry :=
  [anychatCallInitiateCall, anychatCallJoinCall, anychatCallRejectCall, anychatCallEndCall,
    anychatCallGetCallSession, anychatCallGetCallLogs, anychatCallCreateMeeting,
    anychatCallJoinMeeting, anychatCallEndMeeting, anychatCallGetMeeting,
    anychatCallListMeetings]

end AnychatSdk.CApi
