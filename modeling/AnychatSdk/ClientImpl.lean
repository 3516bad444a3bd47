import AnychatSdk.ConnectionManager
import AnychatSdk.OutboundQueue
import AnychatSdk.SessionRevocation

/-!
# The client

The client joins the auth manager, which owns the token, to the connection
manager, which owns the wish for a connection.  A successful login builds a new
socket and a new connection manager; until the first login there is none.
-/

namespace AnychatSdk

/-- `AnyChatClient::buildWsUrl`. -/
def buildWsUrl (gatewayUrl token : String) : String :=
  let url :=
    if gatewayUrl ≠ "" ∧ gatewayUrl.toList.getLast? ≠ some '/' then gatewayUrl ++ "/"
    else gatewayUrl
  let url := url ++ "api/v1/ws"
  if token ≠ "" then url ++ "?token=" ++ token else url

/-- The requests of the client; `auth` is a call made on the auth manager
directly. -/
inductive ClientRequest where
  | login
  | logout
  | auth (request : AuthRequest)
  deriving DecidableEq

namespace ClientRequest

def toAuthRequest : ClientRequest → AuthRequest
  | login => .login
  | logout => .logout
  | auth request => request

/-- The response goes to `handleAuthResponse`. -/
abbrev BringsToken (request : ClientRequest) : Prop :=
  request.toAuthRequest.BringsToken

end ClientRequest

/-- A request in flight, with the access token and the wish for a connection
before its call. -/
structure PendingRequest where
  request : ClientRequest
  tokenBefore : String
  wantedBefore : Bool
  deriving DecidableEq

/-- `store` holds what the other managers share, the outbound queue among it;
`wsUrl` is the URL of the current socket, `loginToken` the access token of the
last login.  Every call of `onReady` makes a send function of its own. -/
structure AnyChatClient where
  gatewayUrl : String
  authMgr : AuthManager
  connMgr : Option ConnectionManager := none
  wsUrl : String := ""
  loginToken : String := ""
  store : Client
  readyCalls : Nat := 0
  inFlight : List PendingRequest := []

/-- A response with a token of one hour. -/
def tokenResponse (accessToken refreshToken : String) : HttpResponse AuthTokenPayload where
  statusCode := 200
  body := .parsed
    { code := 0
      data := { accessToken := accessToken, refreshToken := refreshToken, expiresIn := 3600 } }

/-- What reaches the client.  A response names its request by the place in the
list of those in flight; `reachable` is what the network monitor says when a
connection manager is built. -/
inductive AnyChatEvent where
  | call (request : ClientRequest)
  | ensureValidToken (now : Int64)
  | authResponse (index : Nat) (response : HttpResponse AuthTokenPayload) (reachable : Bool)
  | logoutResponse (index : Nat) (response : HttpResponse Unit)
  | otherResponse (index : Nat)
  | authNotification (notificationType : String) (payload : Option ForceLogoutPayload)
  | socket (event : ConnectionEvent)

namespace AnyChatClient

def start (gatewayUrl : String) (authMgr : AuthManager) (store : Client) : AnyChatClient where
  gatewayUrl := gatewayUrl
  authMgr := authMgr
  store := store

def connectionState (client : AnyChatClient) : ConnectionState :=
  match client.connMgr with
  | none => .disconnected
  | some manager => manager.state

/-- An exception has ended the process. -/
def terminated (client : AnyChatClient) : Bool :=
  client.connMgr.any ConnectionManager.terminated

/-- A new client on an empty database. -/
def blank : AnyChatClient :=
  start "wss://gateway" (.start (fun _ => 0) "d1" (some {}) 0) (.start default {} 0)

def accessToken (client : AnyChatClient) : String :=
  client.authMgr.token.accessToken

def wantConnected (client : AnyChatClient) : Bool :=
  client.connMgr.any ConnectionManager.wantConnected

/-- `before` is the client as its caller found it. -/
def issue (request : ClientRequest) (client before : AnyChatClient) : AnyChatClient :=
  { client with
    inFlight := client.inFlight ++ [⟨request, before.accessToken, before.wantConnected⟩] }

/-- The request is answered. -/
def answered (index : Nat) (authMgr : AuthManager) (client : AnyChatClient) : AnyChatClient :=
  { client with authMgr := authMgr, inFlight := client.inFlight.eraseIdx index }

/-- The new manager starts disconnected; the old one goes, and its socket with
it. -/
def initializeWebSocket (accessToken : String) (reachable : Bool) (client : AnyChatClient) :
    AnyChatClient :=
  { client with
    wsUrl := buildWsUrl client.gatewayUrl accessToken
    loginToken := accessToken
    connMgr := some { networkOk := reachable } }

/-- `conn_mgr_->connect()`. -/
def connect (client : AnyChatClient) : AnyChatClient :=
  { client with connMgr := client.connMgr.map ConnectionManager.connect }

/-- The wish for a connection ends before the request goes out. -/
def logout (client : AnyChatClient) : AnyChatClient :=
  match client.connMgr with
  | none => client.issue .logout client
  | some manager =>
      { client with
        connMgr := some manager.disconnect
        store := client.store.onDisconnected }.issue .logout client

/-- `sync` waits for the database; its response does not come here. -/
def onReady (client : AnyChatClient) : AnyChatClient :=
  { client with
    store := (client.store.onConnected client.readyCalls).querySync
    readyCalls := client.readyCalls + 1 }

/-- The success callback of `login`. -/
def onLogin (token : AuthToken) (reachable : Bool) (client : AnyChatClient) : AnyChatClient :=
  (client.initializeWebSocket token.accessToken reachable).connect

def authResponse (index : Nat) (response : HttpResponse AuthTokenPayload) (reachable : Bool)
    (client : AnyChatClient) : AnyChatClient :=
  match client.inFlight[index]? with
  | none => client
  | some pending =>
      if pending.request.BringsToken then
        let (outcome, authMgr) := client.authMgr.handleAuthResponse response
        match pending.request, outcome with
        | .login, .ok token => (client.answered index authMgr).onLogin token reachable
        | _, _ => client.answered index authMgr
      else client

def logoutResponse (index : Nat) (response : HttpResponse Unit) (client : AnyChatClient) :
    AnyChatClient :=
  match client.inFlight[index]? with
  | none => client
  | some pending =>
      if pending.request.toAuthRequest = .logout then
        client.answered index (client.authMgr.logoutResponse response).2
      else client

def otherResponse (index : Nat) (client : AnyChatClient) : AnyChatClient :=
  match client.inFlight[index]? with
  | none => client
  | some pending =>
      if pending.request = .auth .other then client.answered index client.authMgr else client

/-- A handler of the connection manager, and the hook it may call. -/
def onSocket (event : ConnectionEvent) (client : AnyChatClient) : AnyChatClient :=
  match client.connMgr with
  | none => client
  | some manager =>
      let next := event.apply manager
      let client := { client with connMgr := some next }
      if manager.readyCalls < next.readyCalls then client.onReady else client

/-- Only the client calls `connect` and `disconnect` of its manager. -/
def step (client : AnyChatClient) (event : AnyChatEvent) : AnyChatClient :=
  if client.terminated then client
  else
    match event with
    | .call .logout => client.logout
    | .call request => client.issue request client
    | .ensureValidToken now =>
        match client.authMgr.ensureValidToken now with
        | .refresh _ => client.issue (.auth .refreshToken) client
        | _ => client
    | .authResponse index response reachable => client.authResponse index response reachable
    | .logoutResponse index response => client.logoutResponse index response
    | .otherResponse index => client.otherResponse index
    | .authNotification notificationType payload =>
        { client with
          authMgr := (client.authMgr.handleAuthNotification notificationType payload).2 }
    | .socket .connect | .socket .disconnect => client
    | .socket event => client.onSocket event

theorem logout_of_none {client : AnyChatClient} (none : client.connMgr = .none) :
    client.logout = client.issue .logout client := by
  rw [logout, none]

theorem logout_of_some {client : AnyChatClient} {manager : ConnectionManager}
    (current : client.connMgr = some manager) :
    client.logout =
      { client with
        connMgr := some manager.disconnect
        store := client.store.onDisconnected }.issue .logout client := by
  rw [logout, current]

/-! ## Responses that bring a token -/

/-- The request that a response answers with a token, and the access token. -/
def installed (index : Nat) (response : HttpResponse AuthTokenPayload) (client : AnyChatClient) :
    Option (ClientRequest × String) :=
  match client.inFlight[index]? with
  | none => none
  | some pending =>
      if pending.request.BringsToken then
        match (client.authMgr.handleAuthResponse response).1 with
        | .ok token => some (pending.request, token.accessToken)
        | .error _ => none
      else none

/-- The requests left in flight when a response with a token has come. -/
def unanswered (index : Nat) (client : AnyChatClient) : List PendingRequest :=
  match client.inFlight[index]? with
  | none => client.inFlight
  | some pending =>
      if pending.request.BringsToken then client.inFlight.eraseIdx index else client.inFlight

/-- The manager that a login leaves. -/
def freshManager (reachable : Bool) : ConnectionManager :=
  ({ networkOk := reachable } : ConnectionManager).connect

theorem handleAuthResponse_token (authMgr : AuthManager)
    (response : HttpResponse AuthTokenPayload) :
    match (authMgr.handleAuthResponse response).1 with
    | .ok token => token.accessToken ≠ "" ∧ (authMgr.handleAuthResponse response).2.token = token
    | .error _ => (authMgr.handleAuthResponse response).2.token = authMgr.token := by
  rw [AuthManager.handleAuthResponse]
  cases parsed : parseApiEnvelopeResponse response "auth failed" false false with
  | error failure => rfl
  | ok payload =>
      rcases authMgr.receivedToken_snd payload with ⟨clockReads, rest⟩
      by_cases empty : (authMgr.receivedToken payload).1.accessToken = ""
      · simp only [if_pos empty]
        rw [rest]
      · simp only [if_neg empty]
        exact ⟨empty, rfl⟩

/-- A response that installs no token leaves the connection and the token. -/
theorem authResponse_of_not_installed {client : AnyChatClient} {index : Nat}
    {response : HttpResponse AuthTokenPayload} (reachable : Bool)
    (refused : client.installed index response = none) :
    ∃ authMgr, authMgr.token = client.authMgr.token ∧
      client.authResponse index response reachable =
        { client with authMgr := authMgr, inFlight := client.unanswered index } := by
  have token := handleAuthResponse_token client.authMgr response
  rw [installed] at refused
  rw [authResponse, unanswered]
  cases found : client.inFlight[index]? with
  | none => exact ⟨client.authMgr, rfl, rfl⟩
  | some pending =>
      rw [found] at refused
      dsimp only at refused ⊢
      by_cases brings : pending.request.BringsToken
      · rw [if_pos brings] at refused
        simp only [if_pos brings]
        cases outcome : (client.authMgr.handleAuthResponse response).1 with
        | ok given => simp [outcome] at refused
        | error failure =>
            rw [outcome] at token
            refine ⟨(client.authMgr.handleAuthResponse response).2, token, ?_⟩
            cases pending.request <;> rfl
      · simp only [if_neg brings]
        exact ⟨client.authMgr, rfl, rfl⟩

/-- A response that installs a token; a login connects with it. -/
theorem authResponse_of_installed {client : AnyChatClient} {index : Nat}
    {response : HttpResponse AuthTokenPayload} (reachable : Bool) {request : ClientRequest}
    {accessToken : String}
    (installs : client.installed index response = some (request, accessToken)) :
    accessToken ≠ "" ∧ ∃ authMgr, authMgr.token.accessToken = accessToken ∧
      client.authResponse index response reachable =
        if request = .login then
          { client with
            authMgr := authMgr
            inFlight := client.unanswered index
            wsUrl := buildWsUrl client.gatewayUrl accessToken
            loginToken := accessToken
            connMgr := some (freshManager reachable) }
        else { client with authMgr := authMgr, inFlight := client.unanswered index } := by
  have token := handleAuthResponse_token client.authMgr response
  rw [installed] at installs
  rw [authResponse, unanswered]
  cases found : client.inFlight[index]? with
  | none => simp [found] at installs
  | some pending =>
      rw [found] at installs
      dsimp only at installs ⊢
      by_cases brings : pending.request.BringsToken
      · rw [if_pos brings] at installs
        simp only [if_pos brings]
        cases outcome : (client.authMgr.handleAuthResponse response).1 with
        | error failure => simp [outcome] at installs
        | ok given =>
            rw [outcome] at token installs
            rcases Prod.mk.inj (Option.some.inj installs) with ⟨rfl, rfl⟩
            refine ⟨token.1, (client.authMgr.handleAuthResponse response).2,
              congrArg AuthToken.accessToken token.2, ?_⟩
            cases pending.request <;> rfl
      · rw [if_neg brings] at installs
        exact nomatch installs

theorem state_freshManager_ne_connected (reachable : Bool) :
    (freshManager reachable).state ≠ .connected := by
  cases reachable <;> decide

theorem wantConnected_freshManager (reachable : Bool) :
    (freshManager reachable).wantConnected = true := by
  cases reachable <;> rfl

end AnyChatClient

/-! ## What the events of the socket do -/

namespace ConnectionManager

variable (manager : ConnectionManager)

theorem readyCalls_onWsDisconnected :
    manager.onWsDisconnected.readyCalls = manager.readyCalls := by
  simp only [onWsDisconnected]
  split
  · rfl
  · split <;> rfl

end ConnectionManager

namespace ConnectionEvent

/-- The event establishes a connection. -/
def Connects (manager : ConnectionManager) : ConnectionEvent → Prop
  | established handle => manager.terminated = false ∧ handle ∈ manager.ws.attempting
  | _ => False

/-- Only an established connection calls `onReady`. -/
theorem readyCalls_apply (manager : ConnectionManager) (event : ConnectionEvent) :
    manager.readyCalls < (event.apply manager).readyCalls ↔ event.Connects manager := by
  unfold apply
  split
  · next terminated =>
      refine iff_of_false (Nat.lt_irrefl _) fun connects => ?_
      cases event with
      | established handle => exact Bool.noConfusion (connects.1.symm.trans terminated)
      | _ => exact connects
  · next alive =>
      cases event with
      | established handle =>
          dsimp only
          split
          · next member =>
              exact iff_of_true (Nat.lt_succ_self _) ⟨Bool.eq_false_iff.mpr alive, member⟩
          · next absent => exact iff_of_false (Nat.lt_irrefl _) fun connects => absent connects.2
      | connectionError handle =>
          refine iff_of_false ?_ id
          dsimp only
          split
          · rw [ConnectionManager.onWsError_onWsDisconnected,
              ConnectionManager.readyCalls_onWsDisconnected]
            exact Nat.lt_irrefl _
          · exact Nat.lt_irrefl _
      | closed handle =>
          refine iff_of_false ?_ id
          dsimp only
          split
          · rw [ConnectionManager.readyCalls_onWsDisconnected]
            exact Nat.lt_irrefl _
          · exact Nat.lt_irrefl _
      | connect =>
          refine iff_of_false ?_ id
          simp only [ConnectionManager.connect]
          split <;> exact Nat.lt_irrefl _
      | networkChanged status =>
          refine iff_of_false ?_ id
          simp only [ConnectionManager.onNetworkChanged]
          split
          · exact Nat.lt_irrefl _
          · split <;> split <;> exact Nat.lt_irrefl _
      | timerTaken =>
          refine iff_of_false ?_ id
          simp only [ConnectionManager.takeReconnect]
          split <;> exact Nat.lt_irrefl _
      | timerExpired =>
          refine iff_of_false ?_ id
          simp only [ConnectionManager.endReconnectWait]
          split
          · exact Nat.lt_irrefl _
          · split
            · exact Nat.lt_irrefl _
            · split <;> exact Nat.lt_irrefl _
      | heartbeatExpired =>
          refine iff_of_false ?_ id
          simp only [ConnectionManager.expireHeartbeat]
          split <;> exact Nat.lt_irrefl _
      | disconnect | backOff => exact iff_of_false (Nat.lt_irrefl _) id

end ConnectionEvent

end AnychatSdk
