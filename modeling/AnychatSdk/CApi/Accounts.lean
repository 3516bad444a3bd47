import AnychatSdk.CApi.AsyncEntry

/-!
# Entry points for sessions, users and versions
-/

namespace AnychatSdk.CApi

open AsyncEntry

/-! ## The client -/

/-- The asynchronous methods of `AnyChatClient`. -/
inductive ClientCall where
  | login (account password : String) (deviceType : Int32) (clientVersion : String)
  | logout

/-- The functions of the client refuse with -1. -/
def anychatClientLogin : AsyncEntry where
  Args := CString × CString × Int32 × CString
  Request := ClientCall
  hasRequired := fun (account, password, _, _) => account.isSome && password.isSome
  request := fun (account, password, deviceType, clientVersion) =>
    .login account.text password.text deviceType clientVersion.text
  refusal := -1

def anychatClientLogout : AsyncEntry where
  Args := Unit
  Request := ClientCall
  request := fun () => .logout
  refusal := -1

def clientEntries : List AsyncEntry :=
  [anychatClientLogin, anychatClientLogout]

/-! ## Authentication -/

/-- The methods of `AuthManagerImpl`. -/
inductive AuthCall where
  | login (account password : String) (deviceType : Int32) (clientVersion : String)
  | registerUser (phoneOrEmail password verifyCode : String) (deviceType : Int32)
      (nickname clientVersion : String)
  | logout
  | sendVerificationCode (target : String) (targetType purpose : Int32)
  | refreshToken (refreshToken : String)
  | changePassword (oldPassword newPassword : String)
  | resetPassword (account verifyCode newPassword : String)
  | getDeviceList
  | logoutDevice (deviceId : String)

def anychatAuthLogin : AsyncEntry where
  Args := CString × CString × Int32 × CString
  Request := AuthCall
  hasRequired := fun (account, password, _, _) => account.isSome && password.isSome
  request := fun (account, password, deviceType, clientVersion) =>
    .login account.text password.text deviceType clientVersion.text

def anychatAuthRegister : AsyncEntry where
  Args := CString × CString × CString × Int32 × CString × CString
  Request := AuthCall
  hasRequired := fun (phoneOrEmail, password, verifyCode, _, _, _) =>
    phoneOrEmail.isSome && password.isSome && verifyCode.isSome
  request := fun (phoneOrEmail, password, verifyCode, deviceType, nickname, clientVersion) =>
    .registerUser phoneOrEmail.text password.text verifyCode.text deviceType nickname.text
      clientVersion.text

def anychatAuthLogout : AsyncEntry :=
  ofNothing AuthCall.logout

def anychatAuthSendCode : AsyncEntry :=
  ofTextAnd fun target (rest : Int32 × Int32) =>
    AuthCall.sendVerificationCode target rest.1 rest.2

def anychatAuthRefreshToken : AsyncEntry :=
  ofText AuthCall.refreshToken

def anychatAuthChangePassword : AsyncEntry :=
  ofTexts AuthCall.changePassword

def anychatAuthResetPassword : AsyncEntry where
  Args := CString × CString × CString
  Request := AuthCall
  hasRequired := fun (account, verifyCode, newPassword) =>
    account.isSome && verifyCode.isSome && newPassword.isSome
  request := fun (account, verifyCode, newPassword) =>
    .resetPassword account.text verifyCode.text newPassword.text

def anychatAuthGetDeviceList : AsyncEntry :=
  ofNothing AuthCall.getDeviceList

def anychatAuthLogoutDevice : AsyncEntry :=
  ofText AuthCall.logoutDevice

def authEntries : List AsyncEntry :=
  [anychatAuthLogin, anychatAuthRegister, anychatAuthLogout, anychatAuthSendCode,
    anychatAuthRefreshToken, anychatAuthChangePassword, anychatAuthResetPassword,
    anychatAuthGetDeviceList, anychatAuthLogoutDevice]

/-! ## Users -/

/-- `AnyChatUserProfile_C` and `UserProfile`, which have the same fields. -/
structure UserProfile where
  userId : String := ""
  nickname : String := ""
  avatarUrl : String := ""
  phone : String := ""
  email : String := ""
  signature : String := ""
  region : String := ""
  gender : Int32 := 0
  birthdayMs : Int64 := 0
  qrcodeUrl : String := ""
  createdAtMs : Int64 := 0

/-- The time of creation is not carried over. -/
def profileFromC (profile : UserProfile) : UserProfile :=
  { profile with createdAtMs := 0 }

/-- `UserSettings` with flags of type `α`: `int` in C and `bool` in C++. -/
structure UserSettings (α : Type) where
  userId : String
  notificationEnabled : α
  soundEnabled : α
  vibrationEnabled : α
  messagePreviewEnabled : α
  friendVerifyRequired : α
  searchByPhone : α
  searchById : α
  language : String
  deriving Inhabited

def settingsFromC (settings : UserSettings Int32) : UserSettings Bool where
  userId := settings.userId
  notificationEnabled := settings.notificationEnabled ≠ 0
  soundEnabled := settings.soundEnabled ≠ 0
  vibrationEnabled := settings.vibrationEnabled ≠ 0
  messagePreviewEnabled := settings.messagePreviewEnabled ≠ 0
  friendVerifyRequired := settings.friendVerifyRequired ≠ 0
  searchByPhone := settings.searchByPhone ≠ 0
  searchById := settings.searchById ≠ 0
  language := settings.language

/-- The methods of `UserManagerImpl`. -/
inductive UserCall where
  | getProfile
  | updateProfile (profile : UserProfile)
  | getSettings
  | updateSettings (settings : UserSettings Bool)
  | updatePushToken (pushToken : String) (platform : Int32)
  | updatePushTokenWithDevice (pushToken : String) (platform : Int32) (deviceId : String)
  | searchUsers (keyword : String) (page pageSize : Int32)
  | getUserInfo (userId : String)
  | bindPhone (phoneNumber verifyCode : String)
  | changePhone (oldPhoneNumber newPhoneNumber newVerifyCode oldVerifyCode : String)
  | bindEmail (email verifyCode : String)
  | changeEmail (oldEmail newEmail newVerifyCode oldVerifyCode : String)
  | refreshQRCode
  | getUserByQRCode (qrcode : String)

/-- iOS or Android. -/
def isPushPlatform (platform : Int32) : Bool :=
  platform = 1 || platform = 2

/-- Three required texts and one that may be null. -/
def ofChange {Request : Type} (request : String → String → String → String → Request) :
    AsyncEntry where
  Args := CString × CString × CString × CString
  Request := Request
  hasRequired := fun (old, new, newVerifyCode, _) =>
    old.isSome && new.isSome && newVerifyCode.isSome
  request := fun (old, new, newVerifyCode, oldVerifyCode) =>
    request old.text new.text newVerifyCode.text oldVerifyCode.text

def anychatUserGetProfile : AsyncEntry :=
  ofNothing UserCall.getProfile

def anychatUserUpdateProfile : AsyncEntry where
  Args := Option UserProfile
  Request := UserCall
  hasRequired := Option.isSome
  request := fun profile => .updateProfile (profileFromC (profile.getD {}))

def anychatUserGetSettings : AsyncEntry :=
  ofNothing UserCall.getSettings

def anychatUserUpdateSettings : AsyncEntry where
  Args := Option (UserSettings Int32)
  Request := UserCall
  hasRequired := Option.isSome
  request := fun settings => .updateSettings (settingsFromC (settings.getD default))

def anychatUserUpdatePushToken : AsyncEntry where
  Args := CString × Int32
  Request := UserCall
  hasRequired := fun (pushToken, _) => pushToken.isSome
  inRange := fun (_, platform) => isPushPlatform platform
  request := fun (pushToken, platform) => .updatePushToken pushToken.text platform

def anychatUserUpdatePushTokenWithDevice : AsyncEntry where
  Args := CString × Int32 × CString
  Request := UserCall
  hasRequired := fun (pushToken, _, deviceId) => pushToken.isSome && deviceId.isSome
  inRange := fun (_, platform, _) => isPushPlatform platform
  request := fun (pushToken, platform, deviceId) =>
    .updatePushTokenWithDevice pushToken.text platform deviceId.text

def anychatUserSearch : AsyncEntry :=
  ofTextAnd fun keyword (rest : Int32 × Int32) => UserCall.searchUsers keyword rest.1 rest.2

def anychatUserGetInfo : AsyncEntry :=
  ofText UserCall.getUserInfo

def anychatUserBindPhone : AsyncEntry :=
  ofTexts UserCall.bindPhone

def anychatUserChangePhone : AsyncEntry :=
  ofChange UserCall.changePhone

def anychatUserBindEmail : AsyncEntry :=
  ofTexts UserCall.bindEmail

def anychatUserChangeEmail : AsyncEntry :=
  ofChange UserCall.changeEmail

def anychatUserRefreshQrcode : AsyncEntry :=
  ofNothing UserCall.refreshQRCode

def anychatUserGetByQrcode : AsyncEntry :=
  ofText UserCall.getUserByQRCode

def userEntries : List AsyncEntry :=
  [anychatUserGetProfile, anychatUserUpdateProfile, anychatUserGetSettings,
    anychatUserUpdateSettings, anychatUserUpdatePushToken,
    anychatUserUpdatePushTokenWithDevice, anychatUserSearch, anychatUserGetInfo,
    anychatUserBindPhone, anychatUserChangePhone, anychatUserBindEmail, anychatUserChangeEmail,
    anychatUserRefreshQrcode, anychatUserGetByQrcode]

/-! ## Versions -/

/-- The methods of `VersionManagerImpl`. -/
inductive VersionCall where
  | checkVersion (platform : Int32) (version : String) (buildNumber : Int32)
  | getLatestVersion (platform releaseType : Int32)
  | listVersions (platform releaseType page pageSize : Int32)
  | reportVersion (platform : Int32) (version : String) (buildNumber : Int32)
      (deviceId osVersion sdkVersion : String)

/-- From iOS to H5. -/
def isVersionPlatform (platform : Int32) : Bool :=
  1 ≤ platform && platform ≤ 5

def anychatVersionCheck : AsyncEntry where
  Args := Int32 × CString × Int32
  Request := VersionCall
  hasRequired := fun (_, version, _) => version.isSome
  inRange := fun (platform, _, _) => isVersionPlatform platform
  request := fun (platform, version, buildNumber) =>
    .checkVersion platform version.text buildNumber

def anychatVersionGetLatest : AsyncEntry where
  Args := Int32 × Int32
  Request := VersionCall
  inRange := fun (platform, releaseType) =>
    isVersionPlatform platform && (1 ≤ releaseType && releaseType ≤ 3)
  request := fun (platform, releaseType) => .getLatestVersion platform releaseType

/-- Unlike the latest version, the list has a release type for all releases. -/
def anychatVersionList : AsyncEntry where
  Args := Int32 × Int32 × Int32 × Int32
  Request := VersionCall
  inRange := fun (platform, releaseType, _, _) =>
    isVersionPlatform platform && (0 ≤ releaseType && releaseType ≤ 3)
  request := fun (platform, releaseType, page, pageSize) =>
    .listVersions platform releaseType page pageSize

def anychatVersionReport : AsyncEntry where
  Args := Int32 × CString × Int32 × CString × CString × CString
  Request := VersionCall
  hasRequired := fun (_, version, _, _, _, _) => version.isSome
  inRange := fun (platform, _, _, _, _, _) => isVersionPlatform platform
  request := fun (platform, version, buildNumber, deviceId, osVersion, sdkVersion) =>
    .reportVersion platform version.text buildNumber deviceId.text osVersion.text sdkVersion.text

def versionEntries : List AsyncEntry :=
  [anychatVersionCheck, anychatVersionGetLatest, anychatVersionList, anychatVersionReport]

end AnychatSdk.CApi
