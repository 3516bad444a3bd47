import AnychatSdk.MessageRequests
import AnychatSdk.Network.ManagerCalls

/-!
# The version manager

Which versions of the application there are.
-/

namespace AnychatSdk

/-! ## Payloads -/

structure VersionUpdateInfo where
  title : String := ""
  content : String := ""
  downloadUrl : String := ""
  fileSize : Int64 := 0
  fileHash : String := ""

/-- `VersionUpdatePayload` has the same fields. -/
abbrev VersionUpdatePayload := VersionUpdateInfo

structure VersionCheckPayload where
  hasUpdate : Bool := false
  latestVersion : String := ""
  latestBuildNumber : Int32 := 0
  forceUpdate : Bool := false
  minVersion : String := ""
  minBuildNumber : Int32 := 0
  updateInfo : Option VersionUpdatePayload := none

structure VersionCheckResult where
  hasUpdate : Bool
  latestVersion : String
  latestBuildNumber : Int32
  forceUpdate : Bool
  minVersion : String
  minBuildNumber : Int32
  updateInfo : VersionUpdateInfo

def toCheckResult (payload : VersionCheckPayload) : VersionCheckResult where
  hasUpdate := payload.hasUpdate
  latestVersion := payload.latestVersion
  latestBuildNumber := payload.latestBuildNumber
  forceUpdate := payload.forceUpdate
  minVersion := payload.minVersion
  minBuildNumber := payload.minBuildNumber
  updateInfo := payload.updateInfo.getD {}

structure VersionInfoPayload where
  id : Int64 := 0
  platform : Int32 := 0
  version : String := ""
  buildNumber : Int32 := 0
  versionCode : Int32 := 0
  minVersion : String := ""
  minBuildNumber : Int32 := 0
  forceUpdate : Bool := false
  releaseType : Int32 := 0
  title : String := ""
  content : String := ""
  downloadUrl : String := ""
  fileSize : Int64 := 0
  fileHash : String := ""
  publishedAt : Option TimestampValue := none

structure AppVersionInfo where
  id : Int64
  platform : Int32
  version : String
  buildNumber : Int32
  versionCode : Int32
  minVersion : String
  minBuildNumber : Int32
  forceUpdate : Bool
  releaseType : Int32
  title : String
  content : String
  downloadUrl : String
  fileSize : Int64
  fileHash : String
  publishedAtMs : Int64

def toVersionInfo (payload : VersionInfoPayload) : AppVersionInfo where
  id := payload.id
  platform := payload.platform
  version := payload.version
  buildNumber := payload.buildNumber
  versionCode := payload.versionCode
  minVersion := payload.minVersion
  minBuildNumber := payload.minBuildNumber
  forceUpdate := payload.forceUpdate
  releaseType := payload.releaseType
  title := payload.title
  content := payload.content
  downloadUrl := payload.downloadUrl
  fileSize := payload.fileSize
  fileHash := payload.fileHash
  publishedAtMs := parseTimestampMs payload.publishedAt

structure LatestVersionWrappedPayload where
  version : Option VersionInfoPayload := none

structure VersionListDataPayload where
  total : Int64 := 0
  versions : Option (List VersionInfoPayload) := none

structure VersionListResult where
  versions : List AppVersionInfo
  total : Int64
  page : Int32
  pageSize : Int32

/-! ## Functions -/

structure ReportVersionRequestPayload where
  platform : Int32
  version : String
  buildNumber : Option Int32
  deviceId : Option String
  osVersion : Option String
  sdkVersion : Option String

/-- The JSON library on the types of the version manager. -/
structure VersionJson where
  readUnit : String → ResponseBody Unit
  readVersionCheck : String → ResponseBody VersionCheckPayload
  readLatestVersion : String → ResponseBody LatestVersionWrappedPayload
  readVersionList : String → ResponseBody VersionListDataPayload
  write : ReportVersionRequestPayload → Except String String
  deriving Inhabited

/-- From `kVersionPlatformIOS` to `kVersionPlatformH5`. -/
def isValidRequiredPlatform (platform : Int32) : Bool :=
  1 ≤ platform && platform ≤ 5

/-- From `kVersionReleaseTypeStable` to `kVersionReleaseTypeAlpha`. -/
def isValidLatestReleaseType (releaseType : Int32) : Bool :=
  1 ≤ releaseType && releaseType ≤ 3

/-- A list may be of any release type. -/
def isValidListReleaseType (releaseType : Int32) : Bool :=
  0 ≤ releaseType && releaseType ≤ 3

namespace VersionManager

variable (json : VersionJson)

def checkVersion (platform : Int32) (version : String) (buildNumber : Int32) :
    ManagerCall Unit VersionCheckResult :=
  .fetching
    (if !isValidRequiredPlatform platform || version = "" then
      refuse "platform and version are required"
    else
      .ok
        { method := .get
          path := "/versions/check?platform=" ++ toString platform ++ "&version=" ++
            urlEncode version ++
            if 0 < buildNumber then "&build_number=" ++ toString buildNumber else "" })
    { read := json.readVersionCheck } fun data => .ok (toCheckResult data)

def getLatestVersion (platform releaseType : Int32) : ManagerCall Unit AppVersionInfo :=
  .fetching
    (if !isValidRequiredPlatform platform || !isValidLatestReleaseType releaseType then
      refuse "invalid platform or release_type"
    else
      .ok
        { method := .get
          path := "/versions/latest?platform=" ++ toString platform ++ "&release_type=" ++
            toString releaseType })
    { read := json.readLatestVersion }
    fun data =>
      match data.version with
      | none => .error (-1, "missing version")
      | some version => .ok (toVersionInfo version)

/-- Pages start at 1 and have 20 entries unless something else is asked for. -/
def listVersions (platform releaseType page pageSize : Int32) :
    ManagerCall Unit VersionListResult :=
  let page := if page < 1 then 1 else page
  let pageSize := if pageSize < 1 then 20 else pageSize
  .fetching
    (if !isValidRequiredPlatform platform || !isValidListReleaseType releaseType then
      refuse "invalid platform or release_type"
    else
      .ok
        { method := .get
          path := "/versions/list?page=" ++ toString page ++ "&page_size=" ++ toString pageSize ++
            "&platform=" ++ toString platform ++ "&release_type=" ++ toString releaseType })
    { read := json.readVersionList }
    fun data => .ok
      { versions := (data.versions.getD []).map toVersionInfo
        total := data.total
        page := page
        pageSize := pageSize }

def reportVersion (platform : Int32) (version : String) (buildNumber : Int32)
    (deviceId osVersion sdkVersion : String) : ManagerCall Unit Unit :=
  let given := fun text : String => if text = "" then none else some text
  .completing
    (if !isValidRequiredPlatform platform || version = "" then
      refuse "platform and version are required"
    else
      withBody .post "/versions/report" json.write
        { platform := platform
          version := version
          buildNumber := if 0 < buildNumber then some buildNumber else none
          deviceId := given deviceId
          osVersion := given osVersion
          sdkVersion := given sdkVersion })
    { read := json.readUnit }

end VersionManager

/-- The functions, with what they call back with. -/
inductive VersionCall : Type → Type where
  | checkVersion (platform : Int32) (version : String) (buildNumber : Int32) :
      VersionCall VersionCheckResult
  | getLatestVersion (platform releaseType : Int32) : VersionCall AppVersionInfo
  | listVersions (platform releaseType page pageSize : Int32) : VersionCall VersionListResult
  | reportVersion (platform : Int32) (version : String) (buildNumber : Int32)
      (deviceId osVersion sdkVersion : String) : VersionCall Unit

namespace VersionCall

def call (json : VersionJson) {ρ : Type} : VersionCall ρ → ManagerCall Unit ρ
  | checkVersion platform version buildNumber =>
      VersionManager.checkVersion json platform version buildNumber
  | getLatestVersion platform releaseType =>
      VersionManager.getLatestVersion json platform releaseType
  | listVersions platform releaseType page pageSize =>
      VersionManager.listVersions json platform releaseType page pageSize
  | reportVersion platform version buildNumber deviceId osVersion sdkVersion =>
      VersionManager.reportVersion json platform version buildNumber deviceId osVersion sdkVersion

theorem rooted (json : VersionJson) {ρ : Type} (call : VersionCall ρ) :
    (call.call json).Rooted := by
  cases call with
  | reportVersion => exact fun _ => rooted_of_checked fun _ => rooted_of_withBody (by decide)
  | checkVersion platform version buildNumber =>
      refine fun _ => rooted_of_checked fun _ made => ?_
      cases made
      have checked : RootedPath ("/versions/check?platform=" ++ toString platform) :=
        RootedPath.append (by decide) _
      exact ((checked.append _).append _).append _
  | getLatestVersion platform releaseType =>
      refine fun _ => rooted_of_checked fun _ made => ?_
      cases made
      have latest : RootedPath ("/versions/latest?platform=" ++ toString platform) :=
        RootedPath.append (by decide) _
      exact (latest.append _).append _
  | listVersions platform releaseType page pageSize =>
      refine fun _ => rooted_of_checked fun _ made => ?_
      cases made
      have listed :
          RootedPath ("/versions/list?page=" ++ toString (if page < 1 then 1 else page)) :=
        RootedPath.append (by decide) _
      exact (((((listed.append _).append _).append _).append _).append _).append _

end VersionCall

end AnychatSdk
