/-!
# The WebSocket client

The client owns a thread that runs the event loop of the socket library.  Each
call of `doConnect` creates a handle; the library reports for it either that the
connection is established or that the attempt failed, and later that it is
closed.  Handles are numbered in the order in which they are created.
-/

namespace AnychatSdk

structure WebSocketClient where
  running : Bool := false
  connected : Bool := false
  reconnectCount : Nat := 0
  wsi : Option Nat := none
  /-- The number of handles created so far. -/
  created : Nat := 0
  /-- Handles whose attempt is under way. -/
  attempting : List Nat := []
  /-- Handles of established connections. -/
  established : List Nat := []
  deriving DecidableEq

namespace WebSocketClient

/-- `MAX_RECONNECT`. -/
def maxReconnect : Nat := 5

/-- `Impl::do_connect`. -/
def doConnect (ws : WebSocketClient) : WebSocketClient :=
  { ws with
    wsi := some ws.created
    created := ws.created + 1
    attempting := ws.created :: ws.attempting }

/-- `connect`: no effect while the loop runs. -/
def connect (ws : WebSocketClient) : WebSocketClient :=
  if ws.running then ws else doConnect { ws with running := true }

/-- `disconnect` returns when the loop has ended, and with it every handle.  The
retry counter stays as it is. -/
def disconnect (ws : WebSocketClient) : WebSocketClient :=
  { ws with
    running := false
    connected := false
    wsi := none
    attempting := []
    established := [] }

/-- The end of one turn of the loop: while not connected it tries again, whether
or not an earlier attempt is still under way. -/
def backOff (ws : WebSocketClient) : WebSocketClient :=
  if !ws.connected && ws.running && ws.reconnectCount < maxReconnect then
    doConnect { ws with reconnectCount := ws.reconnectCount + 1 }
  else ws

/-- `LWS_CALLBACK_CLIENT_ESTABLISHED`, before the callback of the user. -/
def onEstablished (handle : Nat) (ws : WebSocketClient) : WebSocketClient :=
  { ws with
    connected := true
    reconnectCount := 0
    attempting := ws.attempting.erase handle
    established := handle :: ws.established }

/-- `LWS_CALLBACK_CLIENT_CONNECTION_ERROR`, before the callbacks of the user. -/
def onConnectionError (handle : Nat) (ws : WebSocketClient) : WebSocketClient :=
  { ws with connected := false, wsi := none, attempting := ws.attempting.erase handle }

/-- `LWS_CALLBACK_CLOSED`, before the callback of the user. -/
def onClosed (handle : Nat) (ws : WebSocketClient) : WebSocketClient :=
  { ws with connected := false, wsi := none, established := ws.established.erase handle }

/-- No handle is left and no retry either, but the loop still runs. -/
def Exhausted (ws : WebSocketClient) : Prop :=
  ws.running = true ∧ ws.attempting = [] ∧ ws.established = [] ∧ maxReconnect ≤ ws.reconnectCount

instance decidableExhausted (ws : WebSocketClient) : Decidable ws.Exhausted :=
  inferInstanceAs (Decidable (_ ∧ _ ∧ _ ∧ _))

/-- Handles exist only while the loop runs, and the flag says `true` only while a
connection is established. -/
structure Sound (ws : WebSocketClient) : Prop where
  stopped : ws.running = false → ws.attempting = [] ∧ ws.established = []
  connected : ws.connected = true → ws.established ≠ []

namespace Sound

variable {ws : WebSocketClient}

theorem running_of_attempting (sound : ws.Sound) {handle : Nat} (member : handle ∈ ws.attempting) :
    ws.running = true := by
  cases stopped : ws.running with
  | true => rfl
  | false =>
      rw [(sound.stopped stopped).1] at member
      exact absurd member List.not_mem_nil

theorem running_of_established (sound : ws.Sound) {handle : Nat}
    (member : handle ∈ ws.established) : ws.running = true := by
  cases stopped : ws.running with
  | true => rfl
  | false =>
      rw [(sound.stopped stopped).2] at member
      exact absurd member List.not_mem_nil

theorem doConnect (sound : ws.Sound) (running : ws.running = true) : ws.doConnect.Sound where
  stopped stopped := Bool.noConfusion (running.symm.trans stopped)
  connected := sound.connected

theorem connect (sound : ws.Sound) : ws.connect.Sound := by
  rw [WebSocketClient.connect]
  split
  · exact sound
  · exact ⟨fun stopped => Bool.noConfusion stopped, sound.connected⟩

theorem disconnect (ws : WebSocketClient) : ws.disconnect.Sound :=
  ⟨fun _ => ⟨rfl, rfl⟩, fun connected => Bool.noConfusion connected⟩

theorem backOff (sound : ws.Sound) : ws.backOff.Sound := by
  rw [WebSocketClient.backOff]
  split
  · next due =>
      have running : ws.running = true := by simp_all
      exact ⟨fun stopped => Bool.noConfusion (running.symm.trans stopped), sound.connected⟩
  · exact sound

theorem onEstablished (sound : ws.Sound) {handle : Nat} (member : handle ∈ ws.attempting) :
    (ws.onEstablished handle).Sound where
  stopped stopped := Bool.noConfusion ((sound.running_of_attempting member).symm.trans stopped)
  connected _ := List.cons_ne_nil handle ws.established

theorem onConnectionError (sound : ws.Sound) {handle : Nat} (member : handle ∈ ws.attempting) :
    (ws.onConnectionError handle).Sound where
  stopped stopped := Bool.noConfusion ((sound.running_of_attempting member).symm.trans stopped)
  connected connected := Bool.noConfusion connected

theorem onClosed (sound : ws.Sound) {handle : Nat} (member : handle ∈ ws.established) :
    (ws.onClosed handle).Sound where
  stopped stopped := Bool.noConfusion ((sound.running_of_established member).symm.trans stopped)
  connected connected := Bool.noConfusion connected

end Sound

/-- A socket that has stopped is not exhausted: it will start anew. -/
theorem exhausted_connect_iff (ws : WebSocketClient) : ws.connect.Exhausted ↔ ws.Exhausted := by
  rw [connect]
  split
  · exact Iff.rfl
  · next stopped =>
      refine iff_of_false (fun exhausted => ?_) fun exhausted => stopped exhausted.1
      exact absurd exhausted.2.1 (List.cons_ne_nil _ _)

/-- The loop goes on trying until it is exhausted. -/
theorem exhausted_backOff_iff (ws : WebSocketClient) : ws.backOff.Exhausted ↔ ws.Exhausted := by
  rw [backOff]
  split
  · next due =>
      have retries : ws.reconnectCount < maxReconnect := by simp_all
      refine iff_of_false (fun exhausted => ?_) fun exhausted => ?_
      · exact absurd exhausted.2.1 (List.cons_ne_nil _ _)
      · exact absurd exhausted.2.2.2 (Nat.not_le.mpr retries)
  · exact Iff.rfl

/-- `connect` changes no established connection. -/
@[simp]
theorem established_connect (ws : WebSocketClient) : ws.connect.established = ws.established := by
  rw [connect]
  split <;> rfl

@[simp]
theorem running_connect (ws : WebSocketClient) : ws.connect.running = true := by
  rw [connect]
  split
  · assumption
  · rfl

@[simp]
theorem established_backOff (ws : WebSocketClient) : ws.backOff.established = ws.established := by
  rw [backOff]
  split <;> rfl

end WebSocketClient

end AnychatSdk
