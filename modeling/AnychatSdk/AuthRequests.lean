import AnychatSdk.AuthManager
import AnychatSdk.Network.HttpRequests

/-!
# Requests of the auth manager

The device list and the logout of a device fall back to older endpoints, and a
token that is about to expire is refreshed before it counts as valid.
-/

namespace AnychatSdk

structure AuthDevicePayload where
  deviceId : String := ""
  deviceType : Option BooleanValue := none
  clientVersion : String := ""
  lastLoginIp : String := ""
  lastLoginAt : Option TimestampValue := none
  isCurrent : Option BooleanValue := none

structure DeviceListDataPayload where
  devices : Option (List AuthDevicePayload) := none

structure AuthDevice where
  deviceId : String
  deviceType : Int32
  clientVersion : String
  lastLoginIp : String
  lastLoginAtMs : Int64
  isCurrent : Bool

/-- `parseInt32Value` on a value that may also be a truth value. -/
def parseDeviceType (value : Option BooleanValue) (default : Int32) : Int32 :=
  match value with
  | none => default
  | some (.bool value) => if value then 1 else 0
  | some (.int64 value) => value.toInt32
  | some (.double value) => value.toInt64.toInt32
  | some (.string text) => (parseInt64String text default.toInt64).toInt32

def AuthDevicePayload.toDevice (payload : AuthDevicePayload) : AuthDevice where
  deviceId := payload.deviceId
  deviceType := parseDeviceType payload.deviceType 0
  clientVersion := payload.clientVersion
  lastLoginIp := payload.lastLoginIp
  lastLoginAtMs := parseTimestampMs payload.lastLoginAt
  isCurrent := parseBoolValue payload.isCurrent false

/-- The bodies of auth requests. -/
inductive AuthRequestBody where
  | logoutDevice (deviceId : String)
  | refreshToken (refreshToken : String)

/-- The JSON library on the types of the auth manager. -/
structure AuthJson where
  readUnit : String → ResponseBody Unit
  readDeviceList : String → ResponseBody DeviceListDataPayload
  readToken : String → ResponseBody AuthTokenPayload
  write : AuthRequestBody → Except String String
  deriving Inhabited

/-- The manager, and whether it has a listener. -/
structure ListenedAuthManager where
  manager : AuthManager
  listening : Bool

/-- The listener is told that the session has expired. -/
inductive AuthReport where
  | authExpired
  deriving DecidableEq

namespace ListenedAuthManager

variable {ρ : Type} (json : AuthJson)

/-- Tell the listener, if there is one. -/
def onAuthExpired (rest : Operation ListenedAuthManager AuthReport ρ) :
    Operation ListenedAuthManager AuthReport ρ :=
  .act id fun auth => if auth.listening then .emit .authExpired rest else rest

def parseDevices (raw : RawResponse) :
    Operation ListenedAuthManager AuthReport (List AuthDevice) :=
  match parseApiEnvelopeResponse (raw.read json.readDeviceList) "get device list failed" false false
  with
  | .error failure => callBack (.error failure)
  | .ok data => callBack (.ok ((data.devices.getD []).map AuthDevicePayload.toDevice))

/-- Statuses on which an older endpoint is tried; a transport error is not one. -/
def fallsBack (raw : RawResponse) : Bool :=
  raw.error = "" && (raw.statusCode = 404 || raw.statusCode = 405)

def getDeviceList : Operation ListenedAuthManager AuthReport (List AuthDevice) :=
  sendRequest { method := .post, path := "/auth/device/list", body := .text "{}" } fun raw =>
    if fallsBack raw then
      sendRequest { method := .get, path := "/auth/devices" } (parseDevices json)
    else parseDevices json raw

def handleResultResponse (fallbackMessage : String) (raw : RawResponse) :
    Operation ListenedAuthManager AuthReport Unit :=
  callBack (parseApiEnvelopeResponse (raw.read json.readUnit) fallbackMessage false false)

def logoutDevice (deviceId : String) : Operation ListenedAuthManager AuthReport Unit :=
  match writeJson json.write (.logoutDevice deviceId) with
  | .error failure => callBack (.error failure)
  | .ok body =>
      sendRequest { method := .post, path := "/auth/device/logout", body := .text body } fun raw =>
        if fallsBack raw then
          sendRequest { method := .post, path := "/auth/devices/logout", body := .text body }
            (handleResultResponse json "logout device failed")
        else handleResultResponse json "logout device failed" raw

/-- `handleAuthResponse`, with the callback of its caller. -/
def authResponse (callback : Outcome AuthToken → Operation ListenedAuthManager AuthReport ρ)
    (raw : RawResponse) : Operation ListenedAuthManager AuthReport ρ :=
  let response := raw.read json.readToken
  .act (fun auth => { auth with manager := (auth.manager.handleAuthResponse response).2 })
    fun auth => callback (auth.manager.handleAuthResponse response).1

/-- `refreshToken`, with the callback of its caller. -/
def refreshToken (token : String)
    (callback : Outcome AuthToken → Operation ListenedAuthManager AuthReport ρ) :
    Operation ListenedAuthManager AuthReport ρ :=
  match writeJson json.write (.refreshToken token) with
  | .error failure => callback (.error failure)
  | .ok body =>
      sendRequest { method := .post, path := "/auth/refresh", body := .text body }
        (authResponse json callback)

/-- The clock is read first. -/
def ensureValidToken : Operation ListenedAuthManager AuthReport Unit :=
  .act (fun auth =>
      { auth with manager := { auth.manager with clockReads := auth.manager.clockReads + 1 } })
    fun auth =>
      match auth.manager.ensureValidToken (auth.manager.wallClock auth.manager.clockReads) with
      | .valid => callBack (.ok ())
      | .expired => onAuthExpired (callBack (.error (-1, "no refresh token")))
      | .refresh token =>
          refreshToken json token fun outcome =>
            match outcome with
            | .ok _ => callBack (.ok ())
            | .error failure => onAuthExpired (callBack (.error failure))

/-! ## Completion -/

@[simp]
theorem onAuthExpired_completes (rest : Operation ListenedAuthManager AuthReport ρ) (bound : Nat) :
    (onAuthExpired rest).CompletesWithin bound ↔ rest.CompletesWithin bound := by
  rw [onAuthExpired, AsyncCode.completesWithin_act]
  constructor
  · intro completes
    exact completes ⟨.start (fun _ => 0) "" none 0, false⟩
  · intro completes auth
    split
    · rw [AsyncCode.completesWithin_emit]
      exact completes
    · exact completes

theorem parseDevices_completes (raw : RawResponse) (bound : Nat) :
    (parseDevices json raw).CompletesWithin bound := by
  rw [parseDevices]
  split <;> exact completesWithin_callBack _ bound

theorem getDeviceList_completes : (getDeviceList json).CompletesWithin 2 := by
  rw [getDeviceList, completesWithin_sendRequest]
  intro raw
  split
  · rw [completesWithin_sendRequest]
    exact fun raw => parseDevices_completes json raw 0
  · exact parseDevices_completes json raw 1

theorem logoutDevice_completes (deviceId : String) :
    (logoutDevice json deviceId).CompletesWithin 2 := by
  rw [logoutDevice]
  split
  · exact completesWithin_callBack _ 2
  rw [completesWithin_sendRequest]
  intro raw
  split
  · rw [completesWithin_sendRequest]
    exact fun raw => completesWithin_callBack _ 0
  · exact completesWithin_callBack _ 1

/-- A refresh completes if its callback does. -/
theorem refreshToken_completes (token : String)
    {callback : Outcome AuthToken → Operation ListenedAuthManager AuthReport ρ}
    (completes : ∀ outcome bound, (callback outcome).CompletesWithin bound) :
    (refreshToken json token callback).CompletesWithin 1 := by
  rw [refreshToken]
  split
  · exact completes _ 1
  rw [completesWithin_sendRequest]
  intro raw
  rw [authResponse, AsyncCode.completesWithin_act]
  exact fun auth => completes _ 0

theorem ensureValidToken_completes : (ensureValidToken json).CompletesWithin 1 := by
  rw [ensureValidToken, AsyncCode.completesWithin_act]
  intro auth
  split
  · exact completesWithin_callBack _ 1
  · simp
  · apply refreshToken_completes
    intro outcome bound
    cases outcome with
    | ok token => exact completesWithin_callBack _ bound
    | error failure => simp

end ListenedAuthManager

end AnychatSdk
