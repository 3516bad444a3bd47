import AnychatSdk.Network.ManagerCalls
import AnychatSdk.TimeArithmetic

/-!
# The call manager

Calls and meetings.  A session or a room that comes without its id gets the id it
was asked for by.
-/

namespace AnychatSdk

/-! ## Payloads -/

inductive CallType where
  | audio
  | video
  deriving DecidableEq

inductive CallStatus where
  | ringing
  | connected
  | ended
  | rejected
  | missed
  | cancelled
  deriving DecidableEq

/-- The type of a call is a number, never a text. -/
inductive CallTypeValue where
  | int64 (value : Int64)
  | double (value : Float)

def CallTypeValue.toInt64 : CallTypeValue → Int64
  | int64 value => value
  | double value => value.toInt64

structure CallSessionPayload where
  callId : String := ""
  callerId : String := ""
  calleeId : String := ""
  roomName : String := ""
  token : String := ""
  startedAt : Option IntegerValue := none
  connectedAt : Option IntegerValue := none
  endedAt : Option IntegerValue := none
  duration : Option IntegerValue := none
  callType : Option CallTypeValue := none
  status : Option IntegerValue := none

structure CallSession where
  callId : String
  callerId : String
  calleeId : String
  callType : CallType
  status : CallStatus
  roomName : String
  token : String
  startedAt : Int64
  connectedAt : Int64
  endedAt : Int64
  duration : Int32

structure CallSessionListDataPayload where
  total : Option IntegerValue := none
  sessions : Option (List CallSessionPayload) := none

structure CallLogResult where
  calls : List CallSession
  total : Int64

structure MeetingResultDataPayload where
  meeting : Option MeetingRoomPayload := none
  token : String := ""

structure MeetingListDataPayload where
  total : Option IntegerValue := none
  meetings : Option (List MeetingRoomPayload) := none

structure MeetingListResult where
  rooms : List MeetingRoom
  total : Int64

def parseCallTypeValue (value : Option CallTypeValue) : CallType :=
  if (value.elim 0 CallTypeValue.toInt64) = 1 then .video else .audio

/-- The statuses that are numbers; others leave the default. -/
def parseCallStatusCode (code : Int64) (default : CallStatus) : CallStatus :=
  if code = 1 then .connected
  else if code = 2 then .ended
  else if code = 3 then .rejected
  else if code = 4 then .missed
  else if code = 5 then .cancelled
  else default

def parseCallStatusValue (value : Option IntegerValue) (default : CallStatus) : CallStatus :=
  match value with
  | none => default
  | some (.int64 value) => parseCallStatusCode value default
  | some (.double value) => parseCallStatusCode value.toInt64 default
  | some (.string text) =>
      let status := toLower text
      if status = "connected" then .connected
      else if status = "ended" then .ended
      else if status = "rejected" then .rejected
      else if status = "missed" then .missed
      else if status = "cancelled" then .cancelled
      else default

def parseCallSessionPayload (payload : CallSessionPayload) : CallSession where
  callId := payload.callId
  callerId := payload.callerId
  calleeId := payload.calleeId
  callType := parseCallTypeValue payload.callType
  status := parseCallStatusValue payload.status .ringing
  roomName := payload.roomName
  token := payload.token
  startedAt := parseInt64Value payload.startedAt 0
  connectedAt := parseInt64Value payload.connectedAt 0
  endedAt := parseInt64Value payload.endedAt 0
  duration := (parseInt64Value payload.duration 0).toInt32

/-- A default-constructed room. -/
def MeetingRoom.blank : MeetingRoom where
  roomId := ""
  creatorId := ""
  title := ""
  roomName := ""
  token := ""
  hasPassword := false
  maxParticipants := 0
  isActive := true
  startedAt := 0
  createdAtMs := 0

/-- The token beside the meeting goes before the one in it. -/
def parseMeetingResult (wrapped : MeetingResultDataPayload) : MeetingRoom :=
  let room := wrapped.meeting.elim .blank parseMeetingRoomPayload
  if wrapped.token = "" then room else { room with token := wrapped.token }

def CallSession.named (callId : String) (session : CallSession) : CallSession :=
  if session.callId = "" then { session with callId := callId } else session

def MeetingRoom.named (roomId : String) (room : MeetingRoom) : MeetingRoom :=
  if room.roomId = "" then { room with roomId := roomId } else room

/-! ## Functions -/

/-- The bodies of call requests. -/
inductive CallRequestBody where
  | initiateCall (calleeId : String) (callType : Int32)
  | createMeeting (title : String) (password : Option String) (maxParticipants : Option Int32)
  | joinMeeting (password : Option String)

/-- The JSON library on the types of the call manager. -/
structure CallJson where
  readUnit : String → ResponseBody Unit
  readCallSession : String → ResponseBody CallSessionPayload
  readCallSessionList : String → ResponseBody CallSessionListDataPayload
  readMeetingRoom : String → ResponseBody MeetingRoomPayload
  readMeetingResult : String → ResponseBody MeetingResultDataPayload
  readMeetingList : String → ResponseBody MeetingListDataPayload
  write : CallRequestBody → Except String String
  deriving Inhabited

namespace CallManager

variable (json : CallJson)

def initiateCall (calleeId : String) (type : CallType) : ManagerCall Unit CallSession :=
  .fetching
    (withBody .post "/calling/calls" json.write
      (.initiateCall calleeId (if type = .video then 1 else 0)))
    (.with200 json.readCallSession "initiate call failed")
    fun data => .ok (parseCallSessionPayload data)

def joinCall (callId : String) : ManagerCall Unit CallSession :=
  .fetching (.ok { method := .post, path := "/calling/calls/" ++ callId ++ "/join" })
    (.with200 json.readCallSession "join call failed")
    fun data => .ok ((parseCallSessionPayload data).named callId)

def rejectCall (callId : String) : ManagerCall Unit Unit :=
  .completing (.ok { method := .post, path := "/calling/calls/" ++ callId ++ "/reject" })
    (.with200 json.readUnit "reject call failed")

def endCall (callId : String) : ManagerCall Unit Unit :=
  .completing (.ok { method := .post, path := "/calling/calls/" ++ callId ++ "/end" })
    (.with200 json.readUnit "end call failed")

def getCallSession (callId : String) : ManagerCall Unit CallSession :=
  .fetching (.ok { method := .get, path := "/calling/calls/" ++ callId })
    (.with200 json.readCallSession "get call session failed")
    fun data => .ok ((parseCallSessionPayload data).named callId)

def getCallLogs (page pageSize : Int32) : ManagerCall Unit CallLogResult :=
  .fetching
    (.ok
      { method := .get
        path := "/calling/calls?page=" ++ toString page ++ "&page_size=" ++ toString pageSize })
    (.with200 json.readCallSessionList "get call logs failed")
    fun data => .ok
      { calls := (data.sessions.getD []).map parseCallSessionPayload
        total := parseInt64Value data.total 0 }

def createMeeting (title password : String) (maxParticipants : Int32) :
    ManagerCall Unit MeetingRoom :=
  .fetching
    (withBody .post "/calling/meetings" json.write
      (.createMeeting title (if password = "" then none else some password)
        (if 0 < maxParticipants then some maxParticipants else none)))
    (.with200 json.readMeetingResult "create meeting failed")
    fun data => .ok (parseMeetingResult data)

def joinMeeting (roomId password : String) : ManagerCall Unit MeetingRoom :=
  .fetching
    (withBody .post ("/calling/meetings/" ++ roomId ++ "/join") json.write
      (.joinMeeting (if password = "" then none else some password)))
    (.with200 json.readMeetingResult "join meeting failed")
    fun data => .ok ((parseMeetingResult data).named roomId)

def endMeeting (roomId : String) : ManagerCall Unit Unit :=
  .completing (.ok { method := .post, path := "/calling/meetings/" ++ roomId ++ "/end" })
    (.with200 json.readUnit "end meeting failed")

def getMeeting (roomId : String) : ManagerCall Unit MeetingRoom :=
  .fetching (.ok { method := .get, path := "/calling/meetings/" ++ roomId })
    (.with200 json.readMeetingRoom "get meeting failed")
    fun data => .ok ((parseMeetingRoomPayload data).named roomId)

def listMeetings (page pageSize : Int32) : ManagerCall Unit MeetingListResult :=
  .fetching
    (.ok
      { method := .get
        path := "/calling/meetings?page=" ++ toString page ++ "&page_size=" ++ toString pageSize })
    (.with200 json.readMeetingList "list meetings failed")
    fun data => .ok
      { rooms := (data.meetings.getD []).map parseMeetingRoomPayload
        total := parseInt64Value data.total 0 }

end CallManager

/-- The functions, with what they call back with. -/
inductive CallingCall : Type → Type where
  | initiateCall (calleeId : String) (type : CallType) : CallingCall CallSession
  | joinCall (callId : String) : CallingCall CallSession
  | rejectCall (callId : String) : CallingCall Unit
  | endCall (callId : String) : CallingCall Unit
  | getCallSession (callId : String) : CallingCall CallSession
  | getCallLogs (page pageSize : Int32) : CallingCall CallLogResult
  | createMeeting (title password : String) (maxParticipants : Int32) : CallingCall MeetingRoom
  | joinMeeting (roomId password : String) : CallingCall MeetingRoom
  | endMeeting (roomId : String) : CallingCall Unit
  | getMeeting (roomId : String) : CallingCall MeetingRoom
  | listMeetings (page pageSize : Int32) : CallingCall MeetingListResult

namespace CallingCall

def call (json : CallJson) {ρ : Type} : CallingCall ρ → ManagerCall Unit ρ
  | initiateCall calleeId type => CallManager.initiateCall json calleeId type
  | joinCall callId => CallManager.joinCall json callId
  | rejectCall callId => CallManager.rejectCall json callId
  | endCall callId => CallManager.endCall json callId
  | getCallSession callId => CallManager.getCallSession json callId
  | getCallLogs page pageSize => CallManager.getCallLogs json page pageSize
  | createMeeting title password maxParticipants =>
      CallManager.createMeeting json title password maxParticipants
  | joinMeeting roomId password => CallManager.joinMeeting json roomId password
  | endMeeting roomId => CallManager.endMeeting json roomId
  | getMeeting roomId => CallManager.getMeeting json roomId
  | listMeetings page pageSize => CallManager.listMeetings json page pageSize

theorem rooted (json : CallJson) {ρ : Type} (call : CallingCall ρ) : (call.call json).Rooted := by
  have calls : RootedPath "/calling/calls/" := by decide
  have meetings : RootedPath "/calling/meetings/" := by decide
  cases call with
  | initiateCall | createMeeting => exact fun _ => rooted_of_withBody (by decide)
  | joinCall callId | rejectCall callId | endCall callId =>
      exact ManagerCall.rooted_of_ok rfl ((calls.append callId).append _)
  | getCallSession callId => exact ManagerCall.rooted_of_ok rfl (calls.append callId)
  | joinMeeting roomId => exact fun _ => rooted_of_withBody ((meetings.append roomId).append _)
  | endMeeting roomId => exact ManagerCall.rooted_of_ok rfl ((meetings.append roomId).append _)
  | getMeeting roomId => exact ManagerCall.rooted_of_ok rfl (meetings.append roomId)
  | getCallLogs page pageSize =>
      have paged : RootedPath ("/calling/calls?page=" ++ toString page) :=
        RootedPath.append (by decide) _
      exact ManagerCall.rooted_of_ok rfl ((paged.append _).append _)
  | listMeetings page pageSize =>
      have paged : RootedPath ("/calling/meetings?page=" ++ toString page) :=
        RootedPath.append (by decide) _
      exact ManagerCall.rooted_of_ok rfl ((paged.append _).append _)

end CallingCall

end AnychatSdk
