import AnychatSdk.AccountRequests
import AnychatSdk.CallManager
import AnychatSdk.CompletedOperations
import AnychatSdk.ConversationRequests
import AnychatSdk.GroupManager
import AnychatSdk.UserRequests
import AnychatSdk.VersionManager

/-!
# The calls of the SDK

The functions of all managers with a completion callback that talk to the server,
as code over one state.  Each of them completes exactly once, whatever it is
answered, unless it is to upload a file that cannot be read, and each of its requests
goes to the API, but for the bytes of a file.
-/

namespace AnychatSdk

/-- What the managers keep. -/
structure SdkState where
  client : Client
  auth : ListenedAuthManager
  contacts : ContactTables := {}

/-- What the managers tell before a call completes. -/
inductive SdkReport where
  | progress (progress : UploadProgress)
  | auth (report : AuthReport)

/-- The JSON library on the types of every manager, the files and the device. -/
structure SdkEnvironment where
  friend : FriendJson
  group : GroupJson
  user : UserJson
  call : CallJson
  version : VersionJson
  conversation : ConversationJson
  message : MessageJson
  readReadState : String → ResponseBody GroupReadStatePayload
  auth : AuthJson
  account : AccountJson
  file : FileJson
  fileQuery : FileQueryJson
  files : String → FileRead
  deviceId : String
  deriving Inhabited

/-- The functions that send one request, with what they call back with. -/
inductive SingleCall : Type → Type 1 where
  | friend {ρ : Type} (call : FriendCall ρ) : SingleCall ρ
  | group {ρ : Type} (call : GroupCall ρ) : SingleCall ρ
  | user {ρ : Type} (call : UserCall ρ) : SingleCall ρ
  | calling {ρ : Type} (call : CallingCall ρ) : SingleCall ρ
  | version {ρ : Type} (call : VersionCall ρ) : SingleCall ρ
  | chat {ρ : Type} (call : ChatCall ρ) : SingleCall ρ
  | account {ρ : Type} (call : AccountCall ρ) : SingleCall ρ
  | refreshToken (token : String) : SingleCall AuthToken
  | file {ρ : Type} (call : FileCall ρ) : SingleCall ρ

/-- The functions, with what they call back with. -/
inductive SdkCall : Type → Type 1 where
  | single {ρ : Type} (call : SingleCall ρ) : SdkCall ρ
  | getConversationList : SdkCall (List Conversation)
  | getHistory (convId : String) (beforeTimestamp : Int64) (limit : Int32) : SdkCall (List Message)
  | ackMessages (convId : String) (messageIds : List String) : SdkCall Unit
  | markAsRead (convId messageId : String) : SdkCall Unit
  | recallMessage (messageId : String) : SdkCall Unit
  | deleteMessage (messageId : String) : SdkCall Unit
  | editMessage (messageId content : String) : SdkCall Unit
  | getDeviceList : SdkCall (List AuthDevice)
  | logoutDevice (deviceId : String) : SdkCall Unit
  | ensureValidToken : SdkCall Unit
  | upload (localPath : String) (fileType : Int32) (onProgress : Bool) : SdkCall FileInfo
  | uploadClientLog (localPath : String) (onProgress : Bool) (expiresHours : Int32) :
      SdkCall FileInfo

namespace SdkState

def withClient (client : Client) (state : SdkState) : SdkState :=
  { state with client := client }

def withAuth (auth : ListenedAuthManager) (state : SdkState) : SdkState :=
  { state with auth := auth }

def withContacts (contacts : ContactTables) (state : SdkState) : SdkState :=
  { state with contacts := contacts }

end SdkState

namespace SingleCall

variable {ρ : Type} (env : SdkEnvironment)

/-- A function of a manager that keeps nothing. -/
def onNothing (call : ManagerCall Unit ρ) : ManagerCall SdkState ρ :=
  call.within (fun _ => ()) fun _ state => state

def call : SingleCall ρ → ManagerCall SdkState ρ
  | friend call => (call.call env.friend).within SdkState.contacts SdkState.withContacts
  | group call => (call.call env.group).within SdkState.contacts SdkState.withContacts
  | user call => onNothing (call.call env.user env.deviceId)
  | calling call => onNothing (call.call env.call)
  | version call => onNothing (call.call env.version)
  | chat call =>
      (call.call env.conversation env.message env.readReadState).within SdkState.client
        SdkState.withClient
  | account call =>
      (call.call env.account env.deviceId).within SdkState.auth SdkState.withAuth
  | refreshToken token =>
      (ListenedAuthManager.refreshTokenCall env.auth token).within SdkState.auth SdkState.withAuth
  | file call => onNothing (call.call env.fileQuery)

theorem rooted (call : SingleCall ρ) : (call.call env).Rooted := by
  cases call with
  | friend call => exact call.rooted env.friend
  | group call => exact call.rooted env.group
  | user call => exact call.rooted env.user env.deviceId
  | calling call => exact call.rooted env.call
  | version call => exact call.rooted env.version
  | chat call => exact call.rooted env.conversation env.message env.readReadState
  | account call => exact call.rooted env.account env.deviceId
  | refreshToken token => exact fun _ made => rooted_of_withBody (by decide) made
  | file call => exact call.rooted env.fileQuery

end SingleCall

namespace SdkCall

variable {ρ : Type}

def onClient (operation : Operation Client Empty ρ) : Operation SdkState SdkReport ρ :=
  operation.within SdkState.client SdkState.withClient nofun id

def onAuth (operation : Operation ListenedAuthManager AuthReport ρ) :
    Operation SdkState SdkReport ρ :=
  operation.within SdkState.auth SdkState.withAuth .auth id

/-- Code that keeps nothing. -/
def onNothing (operation : Operation Unit UploadProgress ρ) : Operation SdkState SdkReport ρ :=
  operation.within (fun _ => ()) (fun _ state => state) .progress id

variable (env : SdkEnvironment)

def code : SdkCall ρ → Operation SdkState SdkReport ρ
  | single call => (call.call env).code
  | getConversationList => onClient (ConversationManager.getConversationList env.conversation)
  | getHistory convId beforeTimestamp limit =>
      onClient (Client.requestHistory env.message convId beforeTimestamp limit)
  | ackMessages convId messageIds => onClient (Client.ackMessages env.message convId messageIds)
  | markAsRead convId messageId => onClient (MessageManager.markAsRead env.message convId messageId)
  | recallMessage messageId => onClient (Client.recallMessage env.message messageId)
  | deleteMessage messageId => onClient (Client.deleteMessage env.message messageId)
  | editMessage messageId content => onClient (Client.editMessage env.message messageId content)
  | getDeviceList => onAuth (ListenedAuthManager.getDeviceList env.auth)
  | logoutDevice deviceId => onAuth (ListenedAuthManager.logoutDevice env.auth deviceId)
  | ensureValidToken => onAuth (ListenedAuthManager.ensureValidToken env.auth)
  | upload localPath fileType onProgress =>
      onNothing (FileManager.upload env.file env.files localPath fileType onProgress)
  | uploadClientLog localPath onProgress expiresHours =>
      onNothing (FileManager.uploadClientLog env.file env.files localPath onProgress expiresHours)

/-- A file that the function is to upload can be read once it is open. -/
def ReadsFile : SdkCall ρ → Prop
  | upload localPath _ _ | uploadClientLog localPath _ _ => env.files localPath ≠ .unreadable
  | _ => True

/-! ## Completion -/

theorem getConversationList_completes (json : ConversationJson) :
    (ConversationManager.getConversationList json).CompletesWithin 1 := by
  rw [ConversationManager.getConversationList, AsyncCode.completesWithin_act]
  intro client
  split
  · exact completesWithin_callBack _ 1
  · exact ManagerCall.code_completes _

/-- No call needs more than the three requests of an upload. -/
theorem code_completes {call : SdkCall ρ} (reads : call.ReadsFile env) :
    (call.code env).CompletesWithin 3 := by
  have few : ∀ {σ ε : Type} {operation : Operation σ ε ρ} {bound : Nat},
      operation.CompletesWithin bound → bound ≤ 3 → operation.CompletesWithin 3 :=
    fun completes le => completes.mono le
  cases call with
  | single call => exact few (ManagerCall.code_completes _) (by decide)
  | getConversationList => exact (few (getConversationList_completes _) (by decide)).within _ _ _ _
  | getHistory => exact (few (Client.requestHistory_completes _ _ _ _) (by decide)).within _ _ _ _
  | ackMessages => exact (few (Client.ackMessages_completes _ _ _) (by decide)).within _ _ _ _
  | markAsRead => exact (few (Client.ackMessages_completes _ _ _) (by decide)).within _ _ _ _
  | recallMessage => exact (few (Client.recallMessage_completes _ _) (by decide)).within _ _ _ _
  | deleteMessage => exact (few (Client.deleteMessage_completes _ _) (by decide)).within _ _ _ _
  | editMessage => exact (few (Client.editMessage_completes _ _ _) (by decide)).within _ _ _ _
  | getDeviceList =>
      exact (few (ListenedAuthManager.getDeviceList_completes _) (by decide)).within _ _ _ _
  | logoutDevice =>
      exact (few (ListenedAuthManager.logoutDevice_completes _ _) (by decide)).within _ _ _ _
  | ensureValidToken =>
      exact (few (ListenedAuthManager.ensureValidToken_completes _) (by decide)).within _ _ _ _
  | upload => exact (FileManager.upload_completes _ reads _ _).within _ _ _ _
  | uploadClientLog => exact (FileManager.uploadClientLog_completes _ reads _ _).within _ _ _ _

/-! ## Requests -/

theorem requestHistory_asks (json : MessageJson) (convId : String) (beforeTimestamp : Int64)
    (limit : Int32) :
    (Client.requestHistory json convId beforeTimestamp limit).Asks HttpRequest.OfApi := by
  have parses : ∀ raw, (Client.parseHistory json convId raw).Asks HttpRequest.OfApi := by
    intro raw
    rw [Client.parseHistory]
    split <;> simp
  rw [Client.requestHistory, asks_act]
  intro client
  split
  · exact asks_callBack _
  · have primary : RootedPath ("/messages/history?conversation_id=" ++ urlEncode convId) :=
      RootedPath.append (by decide) _
    have fallback : RootedPath ("/conversations/" ++ convId) := RootedPath.append (by decide) _
    refine (asks_sendRequest _ _).mpr
      ⟨.rooted ((((primary.append _).append _).append _).append _), fun raw => ?_⟩
    split
    · exact (asks_sendRequest _ _).mpr
        ⟨.rooted (((fallback.append _).append _).append _), parses⟩
    · exact parses raw

theorem ackMessages_asks (json : MessageJson) (convId : String) (messageIds : List String) :
    (Client.ackMessages json convId messageIds).Asks HttpRequest.OfApi := by
  have conversation : RootedPath ("/conversations/" ++ convId) :=
    RootedPath.append (by decide) _
  rw [Client.ackMessages]
  split
  · exact asks_callBack _
  split
  · exact asks_callBack _
  refine (asks_sendRequest _ _).mpr ⟨.rooted (by decide), fun raw => ?_⟩
  dsimp only
  split
  · simp
  split
  · exact asks_callBack _
  split
  · exact (asks_sendRequest _ _).mpr ⟨.rooted (conversation.append _), fun _ => asks_callBack _⟩
  split
  · exact asks_callBack _
  refine (asks_sendRequest _ _).mpr ⟨.rooted (conversation.append _), fun raw => ?_⟩
  split <;> simp

theorem sendFrameInstead_asks (json : MessageJson) {α : Type} (frame : Frame)
    (response : HttpResponse α) (failure : Int32 × String) :
    (Client.sendFrameInstead json frame response failure).Asks HttpRequest.OfApi := by
  rw [Client.sendFrameInstead]
  split
  · split <;> simp
  · exact asks_callBack _

theorem recallMessage_asks (json : MessageJson) (messageId : String) :
    (Client.recallMessage json messageId).Asks HttpRequest.OfApi := by
  rw [Client.recallMessage]
  split
  · exact asks_callBack _
  split
  · exact asks_callBack _
  refine (asks_sendRequest _ _).mpr ⟨.rooted (by decide), fun raw => ?_⟩
  dsimp only
  split
  · simp
  · exact sendFrameInstead_asks json _ _ _

theorem deleteMessage_asks (json : MessageJson) (messageId : String) :
    (Client.deleteMessage json messageId).Asks HttpRequest.OfApi := by
  rw [Client.deleteMessage]
  split
  · exact asks_callBack _
  refine (asks_sendRequest _ _).mpr
    ⟨.rooted (RootedPath.append (by decide) messageId), fun raw => ?_⟩
  dsimp only
  split
  · simp
  · exact sendFrameInstead_asks json _ _ _

theorem editMessage_asks (json : MessageJson) (messageId content : String) :
    (Client.editMessage json messageId content).Asks HttpRequest.OfApi := by
  rw [Client.editMessage]
  split
  · exact asks_callBack _
  split
  · exact asks_callBack _
  refine (asks_sendRequest _ _).mpr
    ⟨.rooted (RootedPath.append (by decide) messageId), fun raw => ?_⟩
  dsimp only
  split
  · simp
  · exact sendFrameInstead_asks json _ _ _

theorem getDeviceList_asks (json : AuthJson) :
    (ListenedAuthManager.getDeviceList json).Asks HttpRequest.OfApi := by
  have parses : ∀ raw, (ListenedAuthManager.parseDevices json raw).Asks HttpRequest.OfApi := by
    intro raw
    rw [ListenedAuthManager.parseDevices]
    split <;> exact asks_callBack _
  refine (asks_sendRequest _ _).mpr ⟨.rooted (by decide), fun raw => ?_⟩
  split
  · exact (asks_sendRequest _ _).mpr ⟨.rooted (by decide), parses⟩
  · exact parses raw

theorem logoutDevice_asks (json : AuthJson) (deviceId : String) :
    (ListenedAuthManager.logoutDevice json deviceId).Asks HttpRequest.OfApi := by
  rw [ListenedAuthManager.logoutDevice]
  split
  · exact asks_callBack _
  refine (asks_sendRequest _ _).mpr ⟨.rooted (by decide), fun raw => ?_⟩
  split
  · exact (asks_sendRequest _ _).mpr ⟨.rooted (by decide), fun _ => asks_callBack _⟩
  · exact asks_callBack _

theorem refreshToken_asks (json : AuthJson) (token : String)
    {callback : Outcome AuthToken → Operation ListenedAuthManager AuthReport ρ}
    (asks : ∀ outcome, (callback outcome).Asks HttpRequest.OfApi) :
    (ListenedAuthManager.refreshToken json token callback).Asks HttpRequest.OfApi := by
  rw [ListenedAuthManager.refreshToken]
  split
  · exact asks _
  · exact (asks_sendRequest _ _).mpr ⟨.rooted (by decide), fun _ _ => asks _⟩

theorem onAuthExpired_asks {rest : Operation ListenedAuthManager AuthReport ρ}
    (asks : rest.Asks HttpRequest.OfApi) :
    (ListenedAuthManager.onAuthExpired rest).Asks HttpRequest.OfApi := by
  rw [ListenedAuthManager.onAuthExpired, asks_act]
  intro auth
  split <;> exact asks

theorem ensureValidToken_asks (json : AuthJson) :
    (ListenedAuthManager.ensureValidToken json).Asks HttpRequest.OfApi := by
  rw [ListenedAuthManager.ensureValidToken, asks_act]
  intro auth
  split
  · exact asks_callBack _
  · exact onAuthExpired_asks (asks_callBack _)
  · refine refreshToken_asks json _ fun outcome => ?_
    cases outcome with
    | ok token => exact asks_callBack _
    | error failure => exact onAuthExpired_asks (asks_callBack _)

theorem report_asks (onProgress : Bool) (progress : UploadProgress)
    {rest : Operation Unit UploadProgress ρ} (asks : rest.Asks HttpRequest.OfApi) :
    (report onProgress progress rest).Asks HttpRequest.OfApi := by
  cases onProgress <;> exact asks

/-- The bytes go wherever the token says. -/
theorem transfer_asks (json : FileJson) (kind : UploadKind) (onProgress : Bool)
    (bytes : List UInt8) (body : String) (init : RootedPath kind.initPath)
    (complete : ∀ fileId request, kind.completeRequest fileId = .ok request → request.Rooted) :
    (kind.transfer json onProgress bytes body).Asks HttpRequest.OfApi := by
  refine (asks_sendRequest _ _).mpr ⟨.rooted init, fun raw => ?_⟩
  rw [UploadKind.initResponse]
  split
  · exact asks_callBack _
  split
  · exact asks_callBack _
  refine report_asks onProgress _ ((asks_sendRequest _ _).mpr
    ⟨.inr ⟨rfl, bytes, rfl⟩, fun raw => ?_⟩)
  rw [UploadKind.putResponse]
  split
  · exact asks_callBack _
  split
  · exact asks_callBack _
  refine report_asks onProgress _ ?_
  split
  · exact asks_callBack _
  · next request written =>
      refine (asks_sendRequest _ _).mpr ⟨.inl (complete _ request written), fun raw => ?_⟩
      rw [UploadKind.completeResponse]
      split <;> exact asks_callBack _

theorem upload_asks (json : FileJson) (files : String → FileRead) (localPath : String)
    (fileType : Int32) (onProgress : Bool) :
    (FileManager.upload json files localPath fileType onProgress).Asks HttpRequest.OfApi := by
  rw [FileManager.upload]
  split
  · trivial
  · exact asks_callBack _
  split
  · exact asks_callBack _
  · refine transfer_asks json _ onProgress _ _ (by decide) fun fileId request made => ?_
    cases made
    exact (RootedPath.append (by decide) fileId).append _

theorem uploadClientLog_asks (json : FileJson) (files : String → FileRead) (localPath : String)
    (onProgress : Bool) (expiresHours : Int32) :
    (FileManager.uploadClientLog json files localPath onProgress expiresHours).Asks
      HttpRequest.OfApi := by
  have init : RootedPath "/logs/upload" := by decide
  rw [FileManager.uploadClientLog]
  split
  · trivial
  · exact asks_callBack _
  split
  · exact asks_callBack _
  · exact transfer_asks json _ onProgress _ _ init
      fun _ _ made => rooted_of_withBody (by decide) made

/-- Every request of every call goes to the API or uploads bytes. -/
theorem code_asks (call : SdkCall ρ) : (call.code env).Asks HttpRequest.OfApi := by
  have one : ∀ {σ ε : Type} {single : ManagerCall σ ρ}, single.Rooted →
      (single.code : Operation σ ε ρ).Asks HttpRequest.OfApi :=
    fun rooted => ManagerCall.code_asks fun request made => .inl (rooted request made)
  cases call with
  | single call => exact one (call.rooted env)
  | getConversationList =>
      refine AsyncCode.Asks.within _ _ _ _ ((asks_act _ _).mpr fun client => ?_)
      split
      · exact asks_callBack _
      · exact one (ChatCall.fetchConversationList.rooted env.conversation env.message
          env.readReadState)
  | getHistory => exact (requestHistory_asks _ _ _ _).within _ _ _ _
  | ackMessages => exact (ackMessages_asks _ _ _).within _ _ _ _
  | markAsRead => exact (ackMessages_asks _ _ _).within _ _ _ _
  | recallMessage => exact (recallMessage_asks _ _).within _ _ _ _
  | deleteMessage => exact (deleteMessage_asks _ _).within _ _ _ _
  | editMessage => exact (editMessage_asks _ _ _).within _ _ _ _
  | getDeviceList => exact (getDeviceList_asks _).within _ _ _ _
  | logoutDevice => exact (logoutDevice_asks _ _).within _ _ _ _
  | ensureValidToken => exact (ensureValidToken_asks _).within _ _ _ _
  | upload => exact (upload_asks _ _ _ _ _).within _ _ _ _
  | uploadClientLog => exact (uploadClientLog_asks _ _ _ _ _).within _ _ _ _

end SdkCall

end AnychatSdk
