import AnychatSdk.Db.Rows

/-!
# The auth manager

The session is held in three places: the token in memory, the bearer token of
the shared `HttpClient`, and three entries of the `metadata` table from which
the next process restores it.  An HTTP handler is modelled at the moment its
response arrives.
-/

namespace AnychatSdk

structure AuthToken where
  accessToken : String := ""
  refreshToken : String := ""
  expiresAtMs : Int64 := 0
  deriving DecidableEq, Repr

structure AuthTokenPayload where
  accessToken : String := ""
  refreshToken : String := ""
  expiresIn : Int64 := 0

structure ForceLogoutPayload where
  deviceId : String := ""

/-- `wallClock` gives the readings of the clock in milliseconds; `authToken` is
the bearer token of the `HttpClient`.  There may be no database. -/
structure AuthManager where
  wallClock : Nat → Int64
  clockReads : Nat := 0
  deviceId : String
  db : Option Db
  token : AuthToken := {}
  authToken : String := ""

/-- What `ensureValidToken` does: report success, report an expired session, or
send a refresh request. -/
inductive TokenCheck where
  | valid
  | expired
  | refresh (refreshToken : String)
  deriving DecidableEq

/-- The metadata entries of a token, in the order in which they are written. -/
def AuthToken.entries (token : AuthToken) : List (String × String) :=
  [("auth.access_token", token.accessToken),
   ("auth.refresh_token", token.refreshToken),
   ("auth.expires_at_ms", toString token.expiresAtMs)]

/-- Run `setMeta` for every entry. -/
def Db.setEntries (entries : List (String × String)) (db : Db) : Db :=
  entries.foldl (fun db entry => (Stmt.setMeta entry.1 entry.2).run db) db

/-- The token the constructor reads: without an access token it is blank. -/
def Db.restoredToken (db : Db) : AuthToken :=
  let accessToken := db.getMeta "auth.access_token" ""
  if accessToken = "" then {}
  else
    { accessToken := accessToken
      refreshToken := db.getMeta "auth.refresh_token" ""
      expiresAtMs := strtoll (db.getMeta "auth.expires_at_ms" "0") }

namespace AuthManager

/-- `kTokenRefreshLeewayMs`. -/
def tokenRefreshLeewayMs : Int64 := 5 * 60 * 1000

/-- The constructor, in a process whose `HttpClient` has no bearer token yet. -/
def start (wallClock : Nat → Int64) (deviceId : String) (db : Option Db) (clockReads : Nat) :
    AuthManager :=
  let token := (db.map Db.restoredToken).getD {}
  { wallClock := wallClock
    clockReads := clockReads
    deviceId := deviceId
    db := db
    token := token
    authToken := token.accessToken }

/-- Another process on the same database. -/
def restart (manager : AuthManager) : AuthManager :=
  start manager.wallClock manager.deviceId manager.db manager.clockReads

def isLoggedIn (now : Int64) (manager : AuthManager) : Bool :=
  manager.token.accessToken ≠ "" && now < manager.token.expiresAtMs

/-- A token counts as valid until five minutes before it expires. -/
def ensureValidToken (now : Int64) (manager : AuthManager) : TokenCheck :=
  if manager.token.accessToken ≠ "" ∧ now + tokenRefreshLeewayMs < manager.token.expiresAtMs then
    .valid
  else if manager.token.refreshToken = "" then .expired
  else .refresh manager.token.refreshToken

/-- Memory first, then the metadata entries one by one. -/
def storeToken (token : AuthToken) (manager : AuthManager) : AuthManager :=
  { manager with
    token := token
    db := manager.db.map (Db.setEntries token.entries) }

def clearToken (manager : AuthManager) : AuthManager :=
  { manager with
    token := {}
    db := manager.db.map (Db.setEntries
      [("auth.access_token", ""), ("auth.refresh_token", ""), ("auth.expires_at_ms", "0")]) }

/-- The token a successful response brings; the clock is read only for a
positive lifetime. -/
def receivedToken (payload : AuthTokenPayload) (manager : AuthManager) :
    AuthToken × AuthManager :=
  if 0 < payload.expiresIn then
    ({ accessToken := payload.accessToken
       refreshToken := payload.refreshToken
       expiresAtMs := manager.wallClock manager.clockReads + payload.expiresIn * 1000 },
      { manager with clockReads := manager.clockReads + 1 })
  else
    ({ accessToken := payload.accessToken, refreshToken := payload.refreshToken }, manager)

/-- The response to `registerUser`, `login` and `refreshToken`. -/
def handleAuthResponse (response : HttpResponse AuthTokenPayload) (manager : AuthManager) :
    Except (Int32 × String) AuthToken × AuthManager :=
  match parseApiEnvelopeResponse response "auth failed" false false with
  | .error failure => (.error failure, manager)
  | .ok payload =>
      let (token, manager) := manager.receivedToken payload
      if token.accessToken = "" then
        (.error (-1, "auth failed: access_token is empty"), manager)
      else (.ok token, { manager.storeToken token with authToken := token.accessToken })

/-- Clear the token everywhere. -/
def signOut (manager : AuthManager) : AuthManager :=
  { manager.clearToken with authToken := "" }

def logoutResponse (response : HttpResponse Unit) (manager : AuthManager) :
    Except (Int32 × String) Unit × AuthManager :=
  match parseApiEnvelopeResponse response "logout failed" false false with
  | .error failure => (.error failure, manager)
  | .ok () => (.ok (), manager.signOut)

/-- A forced logout is for this device when it names it or names none; `payload`
is `none` when the data is no such object. -/
def isForceLogout (notificationType : String) (payload : Option ForceLogoutPayload)
    (manager : AuthManager) : Bool :=
  let targetDeviceId := (payload.map ForceLogoutPayload.deviceId).getD ""
  notificationType = "auth.force_logout" &&
    (targetDeviceId = "" || targetDeviceId = manager.deviceId)

/-- The first component tells whether `onAuthExpired` is called. -/
def handleAuthNotification (notificationType : String) (payload : Option ForceLogoutPayload)
    (manager : AuthManager) : Bool × AuthManager :=
  if manager.isForceLogout notificationType payload then (true, manager.signOut)
  else (false, manager)

theorem accessToken_receivedToken (payload : AuthTokenPayload) (manager : AuthManager) :
    (manager.receivedToken payload).1.accessToken = payload.accessToken := by
  rw [receivedToken]
  split <;> rfl

end AuthManager

/-! ## Metadata entries -/

theorem AuthToken.entries_blank :
    AuthToken.entries {} =
      [("auth.access_token", ""), ("auth.refresh_token", ""), ("auth.expires_at_ms", "0")] := by
  decide

/-- Clearing stores the blank token. -/
theorem AuthManager.clearToken_eq_storeToken (manager : AuthManager) :
    manager.clearToken = manager.storeToken {} := by
  rw [clearToken, storeToken, AuthToken.entries_blank]

end AnychatSdk
