import AnychatSdk.Network.WebSocketClient
import AnychatSdk.Lib.EventRun
import AnychatSdk.Types

/-!
# The connection manager

The manager turns the events of the socket and of the network into a connection
state, and retries in its turn, with longer delays, when the socket reports that
a connection or an attempt has ended.  Handlers run one at a time; the thread of
the reconnect timer and the heartbeat thread are part of the state.
-/

namespace AnychatSdk

inductive NetworkStatus where
  | unknown
  | notReachable
  | reachableViaWiFi
  | reachableViaCellular
  deriving DecidableEq

def NetworkStatus.isReachable : NetworkStatus → Bool
  | reachableViaWiFi | reachableViaCellular => true
  | unknown | notReachable => false

/-- The manager together with its socket. -/
structure ConnectionManager where
  ws : WebSocketClient := {}
  state : ConnectionState := .disconnected
  wantConnected : Bool := false
  networkOk : Bool := true
  superRetryCount : Nat := 0
  reconnectPending : Bool := false
  reconnectCancel : Bool := false
  reconnectDelayMs : Nat := 0
  /-- The reconnect thread has taken a request up and waits for its delay. -/
  reconnectWaiting : Bool := false
  /-- The heartbeat thread exists. -/
  heartbeat : Bool := false
  /-- The arguments of `on_state_changed` so far. -/
  stateChanges : List ConnectionState := []
  /-- The number of calls of `on_ready` so far. -/
  readyCalls : Nat := 0
  /-- The process was terminated by an exception that left a thread. -/
  terminated : Bool := false
  deriving DecidableEq

namespace ConnectionManager

/-- `kSuperBaseDelayMs`. -/
def superBaseDelayMs : Nat := 30000

/-- `kMaxSuperRetries`. -/
def maxSuperRetries : Nat := 5

def setState (state : ConnectionState) (manager : ConnectionManager) : ConnectionManager :=
  { manager with
    state := state
    stateChanges :=
      if manager.state = state then manager.stateChanges else manager.stateChanges ++ [state] }

def scheduleReconnect (delayMs : Nat) (manager : ConnectionManager) : ConnectionManager :=
  { manager with reconnectDelayMs := delayMs, reconnectCancel := false, reconnectPending := true }

def cancelReconnect (manager : ConnectionManager) : ConnectionManager :=
  { manager with reconnectCancel := true, reconnectPending := false }

/-- `stopHeartbeat`, called from another thread. -/
def stopHeartbeat (manager : ConnectionManager) : ConnectionManager :=
  { manager with heartbeat := false }

def startHeartbeat (manager : ConnectionManager) : ConnectionManager :=
  { manager.stopHeartbeat with heartbeat := true }

def doConnect (manager : ConnectionManager) : ConnectionManager :=
  let manager := manager.setState .connecting
  { manager with ws := manager.ws.connect }

/-- `doDisconnect`.  The handles that end with the loop report to
`onWsDisconnected`, which sets the same state. -/
def doDisconnect (manager : ConnectionManager) : ConnectionManager :=
  { manager with ws := manager.ws.disconnect }.setState .disconnected

def connect (manager : ConnectionManager) : ConnectionManager :=
  let manager := { manager with wantConnected := true, superRetryCount := 0 }.cancelReconnect
  if manager.networkOk then manager.doConnect else manager.setState .disconnected

def disconnect (manager : ConnectionManager) : ConnectionManager :=
  { manager with wantConnected := false }.cancelReconnect.stopHeartbeat.doDisconnect

def onNetworkChanged (status : NetworkStatus) (manager : ConnectionManager) : ConnectionManager :=
  let reachable := status.isReachable
  let wasOk := manager.networkOk
  let manager := { manager with networkOk := reachable }
  if reachable = wasOk then manager
  else if reachable then
    if manager.wantConnected ∧ (manager.state = .disconnected ∨ manager.state = .reconnecting) then
      { manager with superRetryCount := 0 }.cancelReconnect.doConnect
    else manager
  else
    let manager := manager.cancelReconnect
    if manager.state ≠ .disconnected then manager.stopHeartbeat.doDisconnect else manager

def onWsConnected (manager : ConnectionManager) : ConnectionManager :=
  let manager := ({ manager with superRetryCount := 0 }.setState .connected).startHeartbeat
  { manager with readyCalls := manager.readyCalls + 1 }

def onWsDisconnected (manager : ConnectionManager) : ConnectionManager :=
  let manager := manager.stopHeartbeat
  if ¬manager.wantConnected ∨ ¬manager.networkOk then manager.setState .disconnected
  else
    let retries := manager.superRetryCount
    let manager := { manager with superRetryCount := retries + 1 }
    if maxSuperRetries ≤ retries then manager.setState .disconnected
    else
      (manager.setState .reconnecting).scheduleReconnect (superBaseDelayMs * (1 <<< min retries 4))

def onWsError (manager : ConnectionManager) : ConnectionManager :=
  if manager.state = .connected then manager.setState .reconnecting else manager

/-- The reconnect thread takes a request up. -/
def takeReconnect (manager : ConnectionManager) : ConnectionManager :=
  if ¬manager.reconnectWaiting ∧ manager.reconnectPending then
    { manager with reconnectWaiting := true, reconnectCancel := false }
  else manager

/-- The wait of the reconnect thread ends: at once when it is cancelled, and with
a connection otherwise. -/
def endReconnectWait (manager : ConnectionManager) : ConnectionManager :=
  if ¬manager.reconnectWaiting then manager
  else
    let cancelled := manager.reconnectCancel
    let manager := { manager with reconnectWaiting := false, reconnectPending := false }
    if cancelled then manager
    else if manager.wantConnected ∧ manager.networkOk then manager.doConnect
    else manager

/-- The heartbeat thread misses the pongs of a live connection.  It calls
`onWsDisconnected` itself, and so `stopHeartbeat` joins the thread that runs it:
the exception ends the process. -/
def expireHeartbeat (manager : ConnectionManager) : ConnectionManager :=
  if manager.heartbeat ∧ manager.state = .connected then { manager with terminated := true }
  else manager

/-! ## What the handlers do -/

section Handlers

variable (manager : ConnectionManager)

@[simp]
theorem ws_setState (state : ConnectionState) : (manager.setState state).ws = manager.ws :=
  rfl

@[simp]
theorem state_setState (state : ConnectionState) : (manager.setState state).state = state :=
  rfl

@[simp]
theorem state_doConnect : manager.doConnect.state = .connecting :=
  rfl

@[simp]
theorem ws_doConnect : manager.doConnect.ws = manager.ws.connect :=
  rfl

@[simp]
theorem state_doDisconnect : manager.doDisconnect.state = .disconnected :=
  rfl

@[simp]
theorem ws_doDisconnect : manager.doDisconnect.ws = manager.ws.disconnect :=
  rfl

@[simp]
theorem terminated_connect : manager.connect.terminated = manager.terminated := by
  simp only [connect]
  split <;> rfl

@[simp]
theorem terminated_onNetworkChanged (status : NetworkStatus) :
    (manager.onNetworkChanged status).terminated = manager.terminated := by
  simp only [onNetworkChanged]
  split
  · rfl
  · split <;> split <;> rfl

@[simp]
theorem terminated_endReconnectWait :
    manager.endReconnectWait.terminated = manager.terminated := by
  simp only [endReconnectWait]
  split
  · rfl
  · split
    · rfl
    · split <;> rfl

@[simp]
theorem state_onWsConnected : manager.onWsConnected.state = .connected :=
  rfl

theorem state_onWsDisconnected :
    manager.onWsDisconnected.state =
      if manager.wantConnected ∧ manager.networkOk ∧ manager.superRetryCount < maxSuperRetries then
        .reconnecting
      else .disconnected := by
  simp only [onWsDisconnected]
  split
  · next given =>
      rw [if_neg, state_setState]
      rintro ⟨wanted, online, _⟩
      exact given.elim (fun unwanted => unwanted wanted) fun offline => offline online
  · next pursued =>
      rcases not_or.mp pursued with ⟨wanted, online⟩
      split
      · next spent =>
          rw [if_neg, state_setState]
          exact fun pursuing => absurd pursuing.2.2 (Nat.not_lt.mpr spent)
      · next unspent =>
          rw [if_pos ⟨not_not.mp wanted, not_not.mp online, Nat.lt_of_not_le unspent⟩]
          rfl

@[simp]
theorem ws_onWsDisconnected : manager.onWsDisconnected.ws = manager.ws := by
  simp only [onWsDisconnected]
  split
  · rfl
  · split <;> rfl

@[simp]
theorem wantConnected_onWsDisconnected :
    manager.onWsDisconnected.wantConnected = manager.wantConnected := by
  simp only [onWsDisconnected]
  split
  · rfl
  · split <;> rfl

@[simp]
theorem networkOk_onWsDisconnected : manager.onWsDisconnected.networkOk = manager.networkOk := by
  simp only [onWsDisconnected]
  split
  · rfl
  · split <;> rfl

@[simp]
theorem terminated_onWsDisconnected :
    manager.onWsDisconnected.terminated = manager.terminated := by
  simp only [onWsDisconnected]
  split
  · rfl
  · split <;> rfl

theorem state_onWsDisconnected_ne_connected : manager.onWsDisconnected.state ≠ .connected := by
  rw [state_onWsDisconnected]
  split <;> decide

/-- The error callback comes after the callback for the end of the connection,
and finds nothing left to do. -/
@[simp]
theorem onWsError_onWsDisconnected :
    manager.onWsDisconnected.onWsError = manager.onWsDisconnected := by
  rw [onWsError, if_neg manager.state_onWsDisconnected_ne_connected]

end Handlers

end ConnectionManager

/-! ## Events -/

inductive ConnectionEvent where
  | connect
  | disconnect
  | networkChanged (status : NetworkStatus)
  | established (handle : Nat)
  | connectionError (handle : Nat)
  | closed (handle : Nat)
  | backOff
  | timerTaken
  | timerExpired
  | heartbeatExpired
  deriving DecidableEq

open ConnectionManager in
/-- The handler of an event.  The library reports only on handles that are in the
matching phase. -/
def ConnectionEvent.apply (manager : ConnectionManager) (event : ConnectionEvent) :
    ConnectionManager :=
  if manager.terminated then manager
  else
    match event with
    | connect => manager.connect
    | disconnect => manager.disconnect
    | networkChanged status => manager.onNetworkChanged status
    | established handle =>
        if handle ∈ manager.ws.attempting then
          { manager with ws := manager.ws.onEstablished handle }.onWsConnected
        else manager
    | connectionError handle =>
        if handle ∈ manager.ws.attempting then
          { manager with ws := manager.ws.onConnectionError handle }.onWsDisconnected.onWsError
        else manager
    | closed handle =>
        if handle ∈ manager.ws.established then
          { manager with ws := manager.ws.onClosed handle }.onWsDisconnected
        else manager
    | backOff => { manager with ws := manager.ws.backOff }
    | timerTaken => manager.takeReconnect
    | timerExpired => manager.endReconnectWait
    | heartbeatExpired => manager.expireHeartbeat

/-! ## Invariants -/

/-- While the manager pursues a connection the loop of the socket runs, and
without a network it pursues none. -/
structure ConnectionManager.Sound (manager : ConnectionManager) : Prop where
  ws : manager.ws.Sound
  pursuing : manager.state = .connecting ∨ manager.state = .reconnecting →
    manager.ws.running = true
  offline : manager.networkOk = false →
    manager.state = .disconnected ∨ manager.state = .connected

namespace ConnectionManager.Sound

variable {manager : ConnectionManager}

/-- A manager that has not been asked to connect. -/
theorem start (networkOk : Bool) : ({ networkOk := networkOk } : ConnectionManager).Sound where
  ws := ⟨fun _ => ⟨rfl, rfl⟩, fun connected => Bool.noConfusion connected⟩
  pursuing pursued := absurd pursued (by simp)
  offline _ := .inl rfl

/-- A connection is pursued only with a network. -/
theorem doConnect (sound : manager.Sound) (online : manager.networkOk = true) :
    manager.doConnect.Sound where
  ws := sound.ws.connect
  pursuing _ := manager.ws.running_connect
  offline offline := Bool.noConfusion (online.symm.trans offline)

theorem doDisconnect (manager : ConnectionManager) : manager.doDisconnect.Sound where
  ws := .disconnect manager.ws
  pursuing pursued := absurd pursued (by simp)
  offline _ := .inl rfl

/-- A handle has ended while the loop runs. -/
theorem onWsDisconnected {ws : WebSocketClient} (sound : ws.Sound) (running : ws.running = true) :
    ({ manager with ws := ws }.onWsDisconnected).Sound where
  ws := by
    rw [ws_onWsDisconnected]
    exact sound
  pursuing _ := by
    rw [ws_onWsDisconnected]
    exact running
  offline offline := by
    rw [networkOk_onWsDisconnected] at offline
    refine .inl ?_
    rw [state_onWsDisconnected, if_neg]
    rintro ⟨_, online, _⟩
    exact Bool.noConfusion (online.symm.trans offline)

theorem apply (sound : manager.Sound) (event : ConnectionEvent) :
    (event.apply manager).Sound := by
  unfold ConnectionEvent.apply
  split
  · exact sound
  cases event with
  | connect =>
      simp only [ConnectionManager.connect]
      split
      · next online => exact .doConnect ⟨sound.ws, sound.pursuing, sound.offline⟩ online
      · exact ⟨sound.ws, fun pursued => absurd pursued (by simp), fun _ => .inl rfl⟩
  | disconnect => exact .doDisconnect _
  | networkChanged status =>
      simp only [onNetworkChanged]
      split
      · next same => exact ⟨sound.ws, sound.pursuing, fun offline =>
          sound.offline (same.symm.trans offline)⟩
      · split
        · next reachable =>
            split
            · next pursued =>
                refine .doConnect ⟨sound.ws, sound.pursuing, fun offline => ?_⟩ reachable
                exact Bool.noConfusion (Eq.trans reachable.symm offline)
            · exact ⟨sound.ws, sound.pursuing, fun offline =>
                Bool.noConfusion (Eq.trans reachable.symm offline)⟩
        · split
          · exact .doDisconnect _
          · next idle =>
              have disconnected : manager.state = .disconnected := not_not.mp idle
              exact ⟨sound.ws, sound.pursuing, fun _ => .inl disconnected⟩
  | established handle =>
      dsimp only
      split
      · next member =>
          exact ⟨sound.ws.onEstablished member, fun pursued => absurd pursued (by
            simp [onWsConnected, startHeartbeat, stopHeartbeat]), fun _ => .inr rfl⟩
      · exact sound
  | connectionError handle =>
      dsimp only
      split
      · next member =>
          rw [onWsError_onWsDisconnected]
          exact .onWsDisconnected (sound.ws.onConnectionError member)
            (sound.ws.running_of_attempting member)
      · exact sound
  | closed handle =>
      dsimp only
      split
      · next member =>
          exact .onWsDisconnected (sound.ws.onClosed member)
            (sound.ws.running_of_established member)
      · exact sound
  | backOff =>
      refine ⟨sound.ws.backOff, fun pursued => ?_, sound.offline⟩
      have running := sound.pursuing pursued
      dsimp only
      rw [WebSocketClient.backOff]
      split
      · exact running
      · exact running
  | timerTaken =>
      simp only [takeReconnect]
      split
      · exact ⟨sound.ws, sound.pursuing, sound.offline⟩
      · exact sound
  | timerExpired =>
      simp only [endReconnectWait]
      split
      · exact sound
      split
      · exact ⟨sound.ws, sound.pursuing, sound.offline⟩
      split
      · next pursued => exact .doConnect ⟨sound.ws, sound.pursuing, sound.offline⟩ pursued.2
      · exact ⟨sound.ws, sound.pursuing, sound.offline⟩
  | heartbeatExpired =>
      simp only [expireHeartbeat]
      split
      · exact ⟨sound.ws, sound.pursuing, sound.offline⟩
      · exact sound

end ConnectionManager.Sound

end AnychatSdk
