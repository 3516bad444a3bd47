import AnychatSdk.AuthRequests
import AnychatSdk.FileManager
import AnychatSdk.Network.ManagerCalls

/-!
# Requests about the account and about files

The functions of the auth manager that bring or end a session or change the
password, and those of the file manager that move no bytes.
-/

namespace AnychatSdk

/-! ## The auth manager -/

structure VerificationCodePayload where
  codeId : String := ""
  expiresIn : Int64 := 0

/-- `VerificationCodeResult` has the same fields. -/
abbrev VerificationCodeResult := VerificationCodePayload

/-- An account is named by an email address or by a phone number. -/
inductive AccountName where
  | email (address : String)
  | phoneNumber (number : String)

/-- The bodies of account requests. -/
inductive AccountRequestBody where
  | registerUser (account : AccountName) (password verifyCode deviceId : String)
      (deviceType : Int32) (nickname : Option String) (clientVersion : String)
  | sendVerificationCode (target : String) (targetType purpose : Int32) (deviceId : String)
  | login (account password deviceId : String) (deviceType : Int32) (clientVersion : String)
  | logout (deviceId : String)
  | changePassword (deviceId oldPassword newPassword : String)
  | resetPassword (account verifyCode newPassword : String)

/-- The JSON library on these types. -/
structure AccountJson where
  readUnit : String → ResponseBody Unit
  readToken : String → ResponseBody AuthTokenPayload
  readVerificationCode : String → ResponseBody VerificationCodePayload
  write : AccountRequestBody → Except String String
  deriving Inhabited

/-- What contains an at sign is an email address. -/
def accountName (phoneOrEmail : String) : AccountName :=
  if '@' ∈ phoneOrEmail.toList then .email phoneOrEmail else .phoneNumber phoneOrEmail

namespace AuthManager

variable (json : AccountJson) (deviceId : String)

/-- A request whose response brings a token. -/
def tokenCall (request : Except (Int32 × String) HttpRequest)
    (readToken : String → ResponseBody AuthTokenPayload) :
    ManagerCall ListenedAuthManager AuthToken where
  Data := AuthTokenPayload
  request := request
  decoding := { read := readToken, fallbackError := "auth failed" }
  handle raw auth :=
    ((auth.manager.handleAuthResponse (raw.read readToken)).1,
      { auth with manager := (auth.manager.handleAuthResponse (raw.read readToken)).2 })

def requestToken (path : String) (body : AccountRequestBody) :
    ManagerCall ListenedAuthManager AuthToken :=
  tokenCall (withBody .post path json.write body) json.readToken

/-- `handleResultResponse` for a response that carries nothing. -/
def requestResult (path : String) (body : AccountRequestBody) (fallbackMessage : String) :
    ManagerCall ListenedAuthManager Unit :=
  .completing (withBody .post path json.write body)
    { read := json.readUnit, fallbackError := fallbackMessage }

def registerUser (phoneOrEmail password verifyCode : String) (deviceType : Int32)
    (nickname clientVersion : String) : ManagerCall ListenedAuthManager AuthToken :=
  requestToken json "/auth/register"
    (.registerUser (accountName phoneOrEmail) password verifyCode deviceId deviceType
      (if nickname = "" then none else some nickname) clientVersion)

def login (account password : String) (deviceType : Int32) (clientVersion : String) :
    ManagerCall ListenedAuthManager AuthToken :=
  requestToken json "/auth/login" (.login account password deviceId deviceType clientVersion)

def sendVerificationCode (target : String) (targetType purpose : Int32) :
    ManagerCall ListenedAuthManager VerificationCodeResult :=
  .fetching
    (withBody .post "/auth/send-code" json.write
      (.sendVerificationCode target targetType purpose deviceId))
    { read := json.readVerificationCode, fallbackError := "send code failed" } .ok

def logout : ManagerCall ListenedAuthManager Unit where
  Data := Unit
  request := withBody .post "/auth/logout" json.write (.logout deviceId)
  decoding := { read := json.readUnit, fallbackError := "logout failed" }
  handle raw auth :=
    ((auth.manager.logoutResponse (raw.read json.readUnit)).1,
      { auth with manager := (auth.manager.logoutResponse (raw.read json.readUnit)).2 })

def changePassword (oldPassword newPassword : String) : ManagerCall ListenedAuthManager Unit :=
  requestResult json "/auth/password/change" (.changePassword deviceId oldPassword newPassword)
    "change password failed"

def resetPassword (account verifyCode newPassword : String) :
    ManagerCall ListenedAuthManager Unit :=
  requestResult json "/auth/password/reset" (.resetPassword account verifyCode newPassword)
    "reset password failed"

end AuthManager

/-- `refreshToken` when its callback is that of the caller. -/
def ListenedAuthManager.refreshTokenCall (json : AuthJson) (token : String) :
    ManagerCall ListenedAuthManager AuthToken :=
  AuthManager.tokenCall (withBody .post "/auth/refresh" json.write (.refreshToken token))
    json.readToken

theorem ListenedAuthManager.code_refreshTokenCall (json : AuthJson) (token : String) :
    (refreshTokenCall json token).code = refreshToken json token callBack := by
  rw [refreshToken, ManagerCall.code, refreshTokenCall, AuthManager.tokenCall, withBody]
  cases writeJson json.write (.refreshToken token) <;> rfl

/-! ## The file manager -/

structure DownloadUrlPayload where
  downloadUrl : String := ""

structure FileListDataPayload where
  files : Option (List FileInfoPayload) := none
  total : Option IntegerValue := none

structure DeleteFilePayload where
  success : Option BooleanValue := none

structure FileListResult where
  files : List FileInfo
  total : Int64
  page : Int32
  pageSize : Int32

/-- A total of 0 beside a list that is not empty is replaced by its length. -/
def parseFileList (page pageSize : Int32) (data : FileListDataPayload) : FileListResult :=
  let files := (data.files.getD []).map parseFileInfoPayload
  let total := parseInt64Value data.total 0
  { files := files
    total := if total = 0 then Int64.ofNat files.length else total
    page := page
    pageSize := pageSize }

/-- The JSON library on the types of these functions. -/
structure FileQueryJson where
  readDownloadUrl : String → ResponseBody DownloadUrlPayload
  readFileInfo : String → ResponseBody FileInfoDataValue
  readFileList : String → ResponseBody FileListDataPayload
  readDeleteFile : String → ResponseBody DeleteFilePayload
  deriving Inhabited

namespace FileManager

variable (json : FileQueryJson)

/-- `parseTypedDataResponse`: any status from 200 to 299 will do. -/
def typedData {α : Type} (read : String → ResponseBody α) (fallbackError : String) :
    Decoding α where
  read := read
  fallbackError := fallbackError
  requireHttp2xx := true

def getDownloadUrl (fileId : String) : ManagerCall Unit String :=
  .fetching (.ok { method := .get, path := "/files/" ++ fileId ++ "/download" })
    (typedData json.readDownloadUrl "getDownloadUrl failed")
    fun data =>
      if data.downloadUrl = "" then .error (-1, "download url missing in response")
      else .ok data.downloadUrl

def getFileInfo (fileId : String) : ManagerCall Unit FileInfo :=
  .fetching (.ok { method := .get, path := "/files/" ++ fileId })
    (typedData json.readFileInfo "getFileInfo failed")
    fun data =>
      let info := parseFileInfoData data
      .ok (if info.fileId = "" then { info with fileId := fileId } else info)

/-- Pages start at 1 and have 20 entries unless something else is asked for. -/
def listFiles (fileType page pageSize : Int32) : ManagerCall Unit FileListResult :=
  let page := if 0 < page then page else 1
  let pageSize := if 0 < pageSize then pageSize else 20
  let fileType := normalizeFileType fileType fileTypeUnspecified
  .fetching
    (.ok
      { method := .get
        path := "/files?page=" ++ toString page ++ "&page_size=" ++ toString pageSize ++
          if fileType = fileTypeUnspecified then "" else "&file_type=" ++ toString fileType })
    (typedData json.readFileList "listFiles failed")
    fun data => .ok (parseFileList page pageSize data)

/-- A response may say that the file was not deleted. -/
def deleteFile (fileId : String) : ManagerCall Unit Unit :=
  .fetching (.ok { method := .del, path := "/files/" ++ fileId })
    (typedData json.readDeleteFile "deleteFile failed")
    fun data =>
      if parseBoolValue data.success true then .ok () else .error (-1, "deleteFile failed")

end FileManager

/-! ## All functions with one request -/

inductive AccountCall : Type → Type where
  | registerUser (phoneOrEmail password verifyCode : String) (deviceType : Int32)
      (nickname clientVersion : String) : AccountCall AuthToken
  | login (account password : String) (deviceType : Int32) (clientVersion : String) :
      AccountCall AuthToken
  | sendVerificationCode (target : String) (targetType purpose : Int32) :
      AccountCall VerificationCodeResult
  | logout : AccountCall Unit
  | changePassword (oldPassword newPassword : String) : AccountCall Unit
  | resetPassword (account verifyCode newPassword : String) : AccountCall Unit

namespace AccountCall

variable (json : AccountJson) (deviceId : String) {ρ : Type}

def call : AccountCall ρ → ManagerCall ListenedAuthManager ρ
  | registerUser phoneOrEmail password verifyCode deviceType nickname clientVersion =>
      AuthManager.registerUser json deviceId phoneOrEmail password verifyCode deviceType nickname
        clientVersion
  | login account password deviceType clientVersion =>
      AuthManager.login json deviceId account password deviceType clientVersion
  | sendVerificationCode target targetType purpose =>
      AuthManager.sendVerificationCode json deviceId target targetType purpose
  | logout => AuthManager.logout json deviceId
  | changePassword oldPassword newPassword =>
      AuthManager.changePassword json deviceId oldPassword newPassword
  | resetPassword account verifyCode newPassword =>
      AuthManager.resetPassword json account verifyCode newPassword

theorem rooted (call : AccountCall ρ) : (call.call json deviceId).Rooted := by
  cases call <;> exact fun _ => rooted_of_withBody (by decide)

end AccountCall

inductive FileCall : Type → Type where
  | getDownloadUrl (fileId : String) : FileCall String
  | getFileInfo (fileId : String) : FileCall FileInfo
  | listFiles (fileType page pageSize : Int32) : FileCall FileListResult
  | deleteFile (fileId : String) : FileCall Unit

namespace FileCall

variable (json : FileQueryJson) {ρ : Type}

def call : FileCall ρ → ManagerCall Unit ρ
  | getDownloadUrl fileId => FileManager.getDownloadUrl json fileId
  | getFileInfo fileId => FileManager.getFileInfo json fileId
  | listFiles fileType page pageSize => FileManager.listFiles json fileType page pageSize
  | deleteFile fileId => FileManager.deleteFile json fileId

theorem rooted (call : FileCall ρ) : (call.call json).Rooted := by
  have file : ∀ fileId, RootedPath ("/files/" ++ fileId) :=
    fun fileId => RootedPath.append (by decide) fileId
  cases call with
  | getDownloadUrl fileId => exact ManagerCall.rooted_of_ok rfl ((file fileId).append _)
  | getFileInfo fileId | deleteFile fileId => exact ManagerCall.rooted_of_ok rfl (file fileId)
  | listFiles fileType page pageSize =>
      have paged : RootedPath ("/files?page=" ++ toString (if 0 < page then page else 1)) :=
        RootedPath.append (by decide) _
      exact ManagerCall.rooted_of_ok rfl (((paged.append _).append _).append _)

end FileCall

end AnychatSdk
