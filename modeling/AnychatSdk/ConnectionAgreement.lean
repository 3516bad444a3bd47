import AnychatSdk.ConnectionManager

/-!
# Connection state and socket

The state should be `connected` exactly while a connection is established.  Two
things break this: an attempt to connect where a connection exists, which sets
`connecting` and is then ignored by the socket, and the end of one handle while
another one is connected.
-/

namespace AnychatSdk

namespace ConnectionManager

/-- Between two handlers the state is `connected` exactly while a connection is
established. -/
def Agrees (manager : ConnectionManager) : Prop :=
  manager.terminated = true ∨ (manager.state = .connected ↔ manager.ws.established ≠ [])

instance decidableAgrees (manager : ConnectionManager) : Decidable manager.Agrees :=
  inferInstanceAs (Decidable (_ ∨ _))

theorem agrees_iff_of_not_connected {manager : ConnectionManager}
    (running : manager.terminated = false) (notConnected : manager.state ≠ .connected) :
    manager.Agrees ↔ manager.ws.established = [] := by
  simp [Agrees, running, notConnected]

end ConnectionManager

/-- The states in which an event keeps the connection state true to the socket:
no connection is established when the manager is to connect, and no other one
when a handle ends. -/
def ConnectionEvent.KeepsAgreement (manager : ConnectionManager) (event : ConnectionEvent) :
    Prop :=
  manager.terminated = true ∨
    match event with
    | connect => manager.ws.established = []
    | connectionError handle =>
        handle ∈ manager.ws.attempting → manager.ws.established = []
    | closed handle =>
        handle ∈ manager.ws.established → manager.ws.established.erase handle = []
    | timerExpired =>
        manager.reconnectWaiting = true → manager.reconnectCancel = false →
          manager.wantConnected = true → manager.networkOk = true → manager.ws.established = []
    | _ => True

namespace ConnectionManager

/-! ## One handler -/

section Handlers

variable {manager : ConnectionManager} (alive : manager.terminated = false)

include alive

theorem agrees_connect_iff : manager.connect.Agrees ↔ manager.ws.established = [] := by
  have notConnected : manager.connect.state ≠ .connected := by
    simp only [connect]
    split <;> exact ConnectionState.noConfusion
  have sameSockets : manager.connect.ws.established = manager.ws.established := by
    simp only [connect]
    split
    · exact WebSocketClient.established_connect manager.ws
    · rfl
  have stillAlive : manager.connect.terminated = false :=
    (terminated_connect manager).trans alive
  rw [agrees_iff_of_not_connected stillAlive notConnected, sameSockets]

/-- The end of a handle leaves an agreement only if no connection is left. -/
theorem agrees_onWsDisconnected_iff (ws : WebSocketClient) :
    { manager with ws := ws }.onWsDisconnected.Agrees ↔ ws.established = [] := by
  have stillAlive : { manager with ws := ws }.onWsDisconnected.terminated = false :=
    (terminated_onWsDisconnected _).trans alive
  rw [agrees_iff_of_not_connected stillAlive (state_onWsDisconnected_ne_connected _),
    ws_onWsDisconnected]

/-- A change of the network connects in states without a connection only. -/
theorem Agrees.onNetworkChanged (agrees : manager.Agrees) (status : NetworkStatus) :
    (manager.onNetworkChanged status).Agrees := by
  have same : manager.state = .connected ↔ manager.ws.established ≠ [] :=
    agrees.resolve_left (by simp [alive])
  simp only [ConnectionManager.onNetworkChanged]
  split
  · exact agrees
  · split
    · split
      · next pursued =>
          have notConnected : manager.state ≠ .connected := by
            rcases pursued.2 with idle | idle <;> exact idle ▸ ConnectionState.noConfusion
          have noSocket : manager.ws.connect.established = [] := by
            rw [WebSocketClient.established_connect]
            exact not_not.mp fun some => notConnected (same.mpr some)
          exact .inr (iff_of_false ConnectionState.noConfusion fun some => some noSocket)
      · exact agrees
    · split
      · exact .inr (iff_of_false ConnectionState.noConfusion fun some => some rfl)
      · exact agrees

theorem agrees_endReconnectWait_iff (agrees : manager.Agrees) :
    manager.endReconnectWait.Agrees ↔
      (manager.reconnectWaiting = true → manager.reconnectCancel = false →
        manager.wantConnected = true → manager.networkOk = true →
          manager.ws.established = []) := by
  simp only [endReconnectWait]
  split
  · next idle => exact iff_of_true agrees fun waiting => absurd waiting idle
  · next waiting =>
      split
      · next cancelled =>
          exact iff_of_true agrees fun _ kept => Bool.noConfusion (cancelled.symm.trans kept)
      · next kept =>
          split
          · next pursued =>
              rw [agrees_iff_of_not_connected]
              · simp only [ws_doConnect, WebSocketClient.established_connect]
                constructor
                · exact fun noSocket _ _ _ _ => noSocket
                · exact fun noSocket => noSocket (not_not.mp waiting)
                    (Bool.eq_false_iff.mpr kept) pursued.1 pursued.2
              · exact alive
              · exact ConnectionState.noConfusion
          · next unpursued =>
              exact iff_of_true agrees fun _ _ wanted online =>
                absurd ⟨wanted, online⟩ unpursued

end Handlers

end ConnectionManager

open ConnectionManager

/-! ## One event -/

/-- One event keeps the agreement exactly in the states that
`KeepsAgreement` describes. -/
theorem agrees_apply_iff {manager : ConnectionManager} (agrees : manager.Agrees)
    (event : ConnectionEvent) :
    (event.apply manager).Agrees ↔ event.KeepsAgreement manager := by
  unfold ConnectionEvent.apply ConnectionEvent.KeepsAgreement
  split
  · next terminated => exact iff_of_true agrees (.inl terminated)
  · next notTerminated =>
      have alive : manager.terminated = false := Bool.eq_false_iff.mpr notTerminated
      rw [or_iff_right notTerminated]
      cases event with
      | connect => exact agrees_connect_iff alive
      | disconnect =>
          exact iff_of_true (.inr (iff_of_false ConnectionState.noConfusion fun some => some rfl))
            trivial
      | networkChanged status => exact iff_of_true (agrees.onNetworkChanged alive status) trivial
      | established handle =>
          dsimp only
          split
          · exact iff_of_true (.inr (iff_of_true rfl (List.cons_ne_nil handle _))) trivial
          · exact iff_of_true agrees trivial
      | connectionError handle =>
          dsimp only
          split
          · next member =>
              rw [onWsError_onWsDisconnected, agrees_onWsDisconnected_iff alive]
              exact ⟨fun noSocket _ => noSocket, fun noSocket => noSocket member⟩
          · next absent => exact iff_of_true agrees fun member => absurd member absent
      | closed handle =>
          dsimp only
          split
          · next member =>
              rw [agrees_onWsDisconnected_iff alive]
              exact ⟨fun noSocket _ => noSocket, fun noSocket => noSocket member⟩
          · next absent => exact iff_of_true agrees fun member => absurd member absent
      | backOff =>
          rw [Agrees, WebSocketClient.established_backOff]
          exact iff_of_true agrees trivial
      | timerTaken =>
          simp only [takeReconnect]
          split <;> exact iff_of_true agrees trivial
      | timerExpired => exact agrees_endReconnectWait_iff alive agrees
      | heartbeatExpired =>
          simp only [expireHeartbeat]
          split
          · exact iff_of_true (.inl rfl) trivial
          · exact iff_of_true agrees trivial

/-! ## Runs -/

/-- In every run the state agrees with the socket throughout exactly when every
event of the run keeps the agreement. -/
theorem agrees_always_iff (networkOk : Bool) (events : List ConnectionEvent) :
    EventRun.Always ConnectionEvent.apply Agrees { networkOk := networkOk } events ↔
      EventRun.Guarded ConnectionEvent.apply ConnectionEvent.KeepsAgreement
        { networkOk := networkOk } events :=
  EventRun.always_iff_guarded (fun _ _ _ _ => trivial)
    (fun _ event (_ : True) agrees => agrees_apply_iff agrees event) trivial
    (.inr (iff_of_false ConnectionState.noConfusion fun some => some rfl)) events

/-- The second of two calls of `connect` comes when the connection is there. -/
theorem not_agrees_always_connect_twice :
    ¬EventRun.Always ConnectionEvent.apply Agrees {} [.connect, .established 0, .connect] := by
  intro always
  exact absurd always.last (by decide)

end AnychatSdk
