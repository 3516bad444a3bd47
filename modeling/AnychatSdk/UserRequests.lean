import AnychatSdk.ContactRoutes
import AnychatSdk.MessageRequests
import AnychatSdk.Network.ManagerCalls
import AnychatSdk.UserManager

/-!
# Requests of the user manager

The account of the user and the other users.  The manager keeps nothing but the
id of the device, which some of the bodies contain.
-/

namespace AnychatSdk

/-! ## Payloads -/

structure UserSettings where
  userId : String := ""
  notificationEnabled : Bool := true
  soundEnabled : Bool := true
  vibrationEnabled : Bool := true
  messagePreviewEnabled : Bool := true
  friendVerifyRequired : Bool := false
  searchByPhone : Bool := true
  searchById : Bool := true
  language : String := ""

/-- The payload has the same fields; so have the payloads of the results below. -/
abbrev UserSettingsPayload := UserSettings

structure UserQRCodePayload where
  qrcodeUrl : String := ""
  expiresAt : Option TimestampValue := none

structure UserQRCode where
  qrcodeUrl : String
  expiresAtMs : Int64

def toUserQRCode (payload : UserQRCodePayload) : UserQRCode where
  qrcodeUrl := payload.qrcodeUrl
  expiresAtMs := parseTimestampMs payload.expiresAt

structure BindPhoneResult where
  phoneNumber : String := ""
  isPrimary : Bool := false

structure ChangePhoneResult where
  oldPhoneNumber : String := ""
  newPhoneNumber : String := ""

structure BindEmailResult where
  email : String := ""
  isPrimary : Bool := false

structure ChangeEmailResult where
  oldEmail : String := ""
  newEmail : String := ""

structure SearchUsersDataPayload where
  total : Int64 := 0
  users : List UserInfoPayload := []

structure UserSearchResult where
  users : List UserInfo
  total : Int64

def toUserSearchResult (data : SearchUsersDataPayload) : UserSearchResult where
  users := data.users.map toUserInfo
  total := data.total

/-! ## Functions -/

structure UpdateSettingsRequestPayload where
  notificationEnabled : Bool
  soundEnabled : Bool
  vibrationEnabled : Bool
  messagePreviewEnabled : Bool
  friendVerifyRequired : Bool
  searchByPhone : Bool
  searchById : Bool
  language : Option String

/-- The body of `updateSettings`. -/
def updateSettings (settings : UserSettings) : UpdateSettingsRequestPayload where
  notificationEnabled := settings.notificationEnabled
  soundEnabled := settings.soundEnabled
  vibrationEnabled := settings.vibrationEnabled
  messagePreviewEnabled := settings.messagePreviewEnabled
  friendVerifyRequired := settings.friendVerifyRequired
  searchByPhone := settings.searchByPhone
  searchById := settings.searchById
  language := filledText settings.language

/-- The bodies of user requests. -/
inductive UserRequestBody where
  | updateProfile (body : UpdateProfileRequestPayload)
  | updateSettings (body : UpdateSettingsRequestPayload)
  | updatePushToken (pushToken : String) (platform : Int32) (deviceId : Option String)
  | bindPhone (phoneNumber verifyCode : String)
  | changePhone (oldPhoneNumber newPhoneNumber newVerifyCode : String)
      (oldVerifyCode deviceId : Option String)
  | bindEmail (email verifyCode : String)
  | changeEmail (oldEmail newEmail newVerifyCode : String) (oldVerifyCode deviceId : Option String)

/-- The JSON library on the types of the user manager. -/
structure UserJson where
  readUnit : String → ResponseBody Unit
  readProfile : String → ResponseBody UserProfilePayload
  readSettings : String → ResponseBody UserSettingsPayload
  readUserInfo : String → ResponseBody UserInfoPayload
  readSearchUsers : String → ResponseBody SearchUsersDataPayload
  readQRCode : String → ResponseBody UserQRCodePayload
  readBindPhone : String → ResponseBody BindPhoneResult
  readChangePhone : String → ResponseBody ChangePhoneResult
  readBindEmail : String → ResponseBody BindEmailResult
  readChangeEmail : String → ResponseBody ChangeEmailResult
  write : UserRequestBody → Except String String
  deriving Inhabited

/-- iOS or Android. -/
def isValidPushPlatform (platform : Int32) : Bool :=
  platform = 1 || platform = 2

namespace UserManager

variable (json : UserJson)

def getProfile : ManagerCall Unit UserProfile :=
  .fetching (.ok { method := .get, path := "/users/me" }) { read := json.readProfile }
    fun data => .ok (toUserProfile data)

def updateProfile (profile : UserProfile) : ManagerCall Unit UserProfile :=
  .fetching
    (withBody .put "/users/me" json.write (.updateProfile (AnychatSdk.updateProfile profile)))
    { read := json.readProfile } fun data => .ok (toUserProfile data)

def getSettings : ManagerCall Unit UserSettings :=
  .fetching (.ok { method := .get, path := "/users/me/settings" }) { read := json.readSettings }
    .ok

def updateSettings (settings : UserSettings) : ManagerCall Unit UserSettings :=
  .fetching
    (withBody .put "/users/me/settings" json.write
      (.updateSettings (AnychatSdk.updateSettings settings)))
    { read := json.readSettings } .ok

/-- `updatePushToken` with a device id; the other overload passes the manager's own. -/
def updatePushToken (pushToken : String) (platform : Int32) (deviceId : String) :
    ManagerCall Unit Unit :=
  .completing
    (if !isValidPushPlatform platform then refuse "invalid platform"
    else
      withBody .post "/users/me/push-token" json.write
        (.updatePushToken pushToken platform (filledText deviceId)))
    { read := json.readUnit }

def searchUsers (keyword : String) (page pageSize : Int32) : ManagerCall Unit UserSearchResult :=
  .fetching
    (.ok
      { method := .get
        path := "/users/search?keyword=" ++ urlEncode keyword ++ "&page=" ++ toString page ++
          "&page_size=" ++ toString pageSize })
    { read := json.readSearchUsers } fun data => .ok (toUserSearchResult data)

def getUserInfo (userId : String) : ManagerCall Unit UserInfo :=
  .fetching (.ok { method := .get, path := "/users/" ++ userId }) { read := json.readUserInfo }
    fun data => .ok (toUserInfo data)

def bindPhone (phoneNumber verifyCode : String) : ManagerCall Unit BindPhoneResult :=
  .fetching (withBody .post "/users/me/phone/bind" json.write (.bindPhone phoneNumber verifyCode))
    { read := json.readBindPhone } .ok

def changePhone (deviceId oldPhoneNumber newPhoneNumber newVerifyCode oldVerifyCode : String) :
    ManagerCall Unit ChangePhoneResult :=
  .fetching
    (withBody .post "/users/me/phone/change" json.write
      (.changePhone oldPhoneNumber newPhoneNumber newVerifyCode (filledText oldVerifyCode)
        (filledText deviceId)))
    { read := json.readChangePhone } .ok

def bindEmail (email verifyCode : String) : ManagerCall Unit BindEmailResult :=
  .fetching (withBody .post "/users/me/email/bind" json.write (.bindEmail email verifyCode))
    { read := json.readBindEmail } .ok

def changeEmail (deviceId oldEmail newEmail newVerifyCode oldVerifyCode : String) :
    ManagerCall Unit ChangeEmailResult :=
  .fetching
    (withBody .post "/users/me/email/change" json.write
      (.changeEmail oldEmail newEmail newVerifyCode (filledText oldVerifyCode)
        (filledText deviceId)))
    { read := json.readChangeEmail } .ok

def refreshQRCode : ManagerCall Unit UserQRCode :=
  .fetching (.ok { method := .post, path := "/users/me/qrcode/refresh", body := .text "{}" })
    { read := json.readQRCode } fun data => .ok (toUserQRCode data)

def getUserByQRCode (qrcode : String) : ManagerCall Unit UserInfo :=
  .fetching (.ok { method := .get, path := "/users/qrcode?qrcode=" ++ urlEncode qrcode })
    { read := json.readUserInfo } fun data => .ok (toUserInfo data)

end UserManager

/-- The functions, with what they call back with. -/
inductive UserCall : Type → Type where
  | getProfile : UserCall UserProfile
  | updateProfile (profile : UserProfile) : UserCall UserProfile
  | getSettings : UserCall UserSettings
  | updateSettings (settings : UserSettings) : UserCall UserSettings
  | updatePushToken (pushToken : String) (platform : Int32) (deviceId : String) : UserCall Unit
  | searchUsers (keyword : String) (page pageSize : Int32) : UserCall UserSearchResult
  | getUserInfo (userId : String) : UserCall UserInfo
  | bindPhone (phoneNumber verifyCode : String) : UserCall BindPhoneResult
  | changePhone (oldPhoneNumber newPhoneNumber newVerifyCode oldVerifyCode : String) :
      UserCall ChangePhoneResult
  | bindEmail (email verifyCode : String) : UserCall BindEmailResult
  | changeEmail (oldEmail newEmail newVerifyCode oldVerifyCode : String) :
      UserCall ChangeEmailResult
  | refreshQRCode : UserCall UserQRCode
  | getUserByQRCode (qrcode : String) : UserCall UserInfo

namespace UserCall

def call (json : UserJson) (deviceId : String) {ρ : Type} : UserCall ρ → ManagerCall Unit ρ
  | getProfile => UserManager.getProfile json
  | updateProfile profile => UserManager.updateProfile json profile
  | getSettings => UserManager.getSettings json
  | updateSettings settings => UserManager.updateSettings json settings
  | updatePushToken pushToken platform otherId =>
      UserManager.updatePushToken json pushToken platform otherId
  | searchUsers keyword page pageSize => UserManager.searchUsers json keyword page pageSize
  | getUserInfo userId => UserManager.getUserInfo json userId
  | bindPhone phoneNumber verifyCode => UserManager.bindPhone json phoneNumber verifyCode
  | changePhone oldPhoneNumber newPhoneNumber newVerifyCode oldVerifyCode =>
      UserManager.changePhone json deviceId oldPhoneNumber newPhoneNumber newVerifyCode
        oldVerifyCode
  | bindEmail email verifyCode => UserManager.bindEmail json email verifyCode
  | changeEmail oldEmail newEmail newVerifyCode oldVerifyCode =>
      UserManager.changeEmail json deviceId oldEmail newEmail newVerifyCode oldVerifyCode
  | refreshQRCode => UserManager.refreshQRCode json
  | getUserByQRCode qrcode => UserManager.getUserByQRCode json qrcode

theorem rooted (json : UserJson) (deviceId : String) {ρ : Type} (call : UserCall ρ) :
    (call.call json deviceId).Rooted := by
  cases call with
  | getProfile | getSettings | refreshQRCode => exact ManagerCall.rooted_of_ok rfl (by decide)
  | updateProfile | updateSettings | bindPhone | changePhone | bindEmail | changeEmail =>
      exact fun _ => rooted_of_withBody (by decide)
  | updatePushToken =>
      exact fun _ => rooted_of_checked fun _ => rooted_of_withBody (by decide)
  | getUserInfo | getUserByQRCode =>
      exact ManagerCall.rooted_of_ok rfl (RootedPath.append (by decide) _)
  | searchUsers keyword page pageSize =>
      have keyed : RootedPath ("/users/search?keyword=" ++ urlEncode keyword) :=
        RootedPath.append (by decide) _
      exact ManagerCall.rooted_of_ok rfl ((((keyed.append _).append _).append _).append _)

end UserCall

end AnychatSdk
