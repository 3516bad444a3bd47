import AnychatSdk.ClientImpl
import AnychatSdk.MessageManager

/-!
# The transient channel

The send function of the outbound queue is set when a connection comes up, and
only `logout` clears it.  On every other way out of `connected` it stays, and
the calls that use it go on reporting success.
-/

namespace AnychatSdk

namespace Client

/-- On the path over the WebSocket the calls report success exactly when
`connected` holds. -/
structure Reports (connected : Prop) (client : Client) : Prop where
  transient : ∀ frame, (client.sendTransient frame).1 = true ↔ connected
  typing : ∀ conversationId typing ttlSeconds, conversationId ≠ "" →
    ((client.sendTyping conversationId typing ttlSeconds).1 = .ok () ↔ connected)
  recalls : ∀ messageId response failure, messageId ≠ "" →
    parseApiEnvelopeResponse response "recall message failed" true false = .error failure →
      isUnsupported response = true →
        ((client.recallMessageResponse messageId response).1 = .ok () ↔ connected)
  deletes : ∀ messageId response failure, messageId ≠ "" →
    parseApiEnvelopeResponse response "delete message failed" true false = .error failure →
      isUnsupported response = true →
        ((client.deleteMessageResponse messageId response).1 = .ok () ↔ connected)
  edits : ∀ messageId content response failure, messageId ≠ "" →
    parseApiEnvelopeResponse response "edit message failed" true false = .error failure →
      isUnsupported response = true →
        ((client.editMessageResponse messageId content response).1 = .ok () ↔ connected)

theorem sendTransient_fst (frame : Frame) (client : Client) :
    (client.sendTransient frame).1 = client.outbound.sendFn.isSome := by
  rw [sendTransient]
  cases client.outbound.sendFn <;> rfl

/-- The fallback of a refused request succeeds with the frame. -/
theorem sendInstead_fst_eq_ok_iff {α : Type} (frame : Frame) {response : HttpResponse α}
    (failure : Int32 × String) (unsupported : isUnsupported response = true) (client : Client) :
    (client.sendInstead frame response failure).1 = .ok () ↔
      client.outbound.sendFn.isSome = true := by
  rw [sendInstead, if_pos unsupported, ← sendTransient_fst frame]
  dsimp only
  split
  · next sent => exact iff_of_true rfl sent
  · next unsent => exact iff_of_false (fun same => nomatch same) unsent

/-- All the reports follow the send function. -/
theorem reports_iff (connected : Prop) (client : Client) :
    client.Reports connected ↔ (client.outbound.sendFn.isSome = true ↔ connected) := by
  constructor
  · intro reports
    have sent := reports.transient { payload := .other "" }
    rwa [sendTransient_fst] at sent
  · intro follows
    constructor
    · intro frame
      rw [sendTransient_fst]
      exact follows
    · intro conversationId typing ttlSeconds named
      rw [sendTyping, if_neg named, ← follows]
      dsimp only
      rw [sendTransient_fst]
      split
      · next sent => exact iff_of_true rfl sent
      · next unsent => exact iff_of_false (fun same => nomatch same) unsent
    · intro messageId response failure named refused unsupported
      rw [recallMessageResponse, if_neg named, refused, ← follows]
      exact client.sendInstead_fst_eq_ok_iff _ failure unsupported
    · intro messageId response failure named refused unsupported
      rw [deleteMessageResponse, if_neg named, refused, ← follows]
      exact client.sendInstead_fst_eq_ok_iff _ failure unsupported
    · intro messageId content response failure named refused unsupported
      rw [editMessageResponse, if_neg named, refused, ← follows]
      exact client.sendInstead_fst_eq_ok_iff _ failure unsupported

/-! ## The send function of the queue -/

@[simp]
theorem sendFn_sendRow (convId convType : String) (contentType : Int32)
    (content localId : String) (client : Client) :
    (client.sendRow convId convType contentType content localId).outbound.sendFn =
      client.outbound.sendFn := by
  rw [sendRow]
  split
  · rfl
  · next sendFn current => exact current.symm ▸ rfl

@[simp]
theorem sendFn_resendRow (row : Row) (client : Client) :
    (client.resendRow row).outbound.sendFn = client.outbound.sendFn := by
  rw [resendRow]
  split
  · split
    · exact client.sendFn_sendRow _ _ _ _ _
    · rfl
  · rfl

theorem sendFn_enqueue (convId convType : String) (contentType : Int32)
    (content localId : String) (callback : AnyChatCallback) (client : Client) :
    (client.enqueue convId convType contentType content localId callback).outbound.sendFn =
      client.outbound.sendFn := by
  simp only [enqueue]
  split
  · rw [sendFn_sendRow, sendFn_registerCallback]
    rfl
  · rw [sendFn_registerCallback]
    rfl

theorem sendFn_onMessageSentAck (localId : String) (client : Client) :
    (client.onMessageSentAck localId).outbound.sendFn = client.outbound.sendFn := by
  rw [onMessageSentAck]
  split
  · rfl
  · rw [completeCallback]
    split <;> rfl

/-- The flush keeps the function it was started with. -/
theorem sendFn_onConnected (sendFn : Nat) (client : Client) :
    (client.onConnected sendFn).outbound.sendFn = some sendFn := by
  have kept : ∀ (rows : List Row) (client : Client),
      (rows.foldl (fun client row => client.resendRow row) client).outbound.sendFn =
        client.outbound.sendFn := by
    intro rows
    induction rows with
    | nil => exact fun _ => rfl
    | cons row rows inductionHypothesis =>
        intro client
        exact (inductionHypothesis _).trans (client.sendFn_resendRow row)
  exact kept _ _

end Client

/-! ## Ways out of the connected state -/

/-- The event leaves a connected manager connected. -/
def ConnectionEvent.StaysConnected (manager : ConnectionManager) : ConnectionEvent → Prop
  | connect | disconnect => False
  | networkChanged status => manager.networkOk = true → status.isReachable = true
  | connectionError handle => handle ∉ manager.ws.attempting
  | closed handle => handle ∉ manager.ws.established
  | timerExpired =>
      ¬(manager.reconnectWaiting = true ∧ manager.reconnectCancel = false ∧
        manager.wantConnected = true ∧ manager.networkOk = true)
  | established _ | backOff | timerTaken | heartbeatExpired => True

namespace ConnectionManager

theorem state_onNetworkChanged_eq_connected_iff (status : NetworkStatus)
    (manager : ConnectionManager) :
    (manager.onNetworkChanged status).state = .connected ↔
      manager.state = .connected ∧
        (manager.networkOk = true → status.isReachable = true) := by
  simp only [onNetworkChanged]
  split
  · next same => simp [same]
  · next changed =>
      split
      · next reachable =>
          split
          · next pursued =>
              refine iff_of_false ConnectionState.noConfusion fun kept => ?_
              rcases pursued.2 with idle | idle <;>
                exact ConnectionState.noConfusion (idle.symm.trans kept.1)
          · simp [reachable]
      · next lost =>
          have online : manager.networkOk = true := by
            cases wasOk : manager.networkOk with
            | true => rfl
            | false => simp_all
          have left : ¬(manager.networkOk = true → status.isReachable = true) :=
            fun kept => lost (kept online)
          refine iff_of_false ?_ fun kept => left kept.2
          split
          · exact ConnectionState.noConfusion
          · next idle =>
              intro kept
              exact ConnectionState.noConfusion ((not_not.mp idle).symm.trans kept)

theorem state_endReconnectWait_eq_connected_iff (manager : ConnectionManager) :
    manager.endReconnectWait.state = .connected ↔
      manager.state = .connected ∧ ConnectionEvent.timerExpired.StaysConnected manager := by
  rw [endReconnectWait, ConnectionEvent.StaysConnected]
  split
  · next idle => simp [idle]
  · next waiting =>
      dsimp only
      split
      · next cancelled => simp [cancelled]
      · next kept =>
          split
          · next pursued =>
              refine iff_of_false ConnectionState.noConfusion fun stays => stays.2 ?_
              exact ⟨not_not.mp waiting, Bool.eq_false_iff.mpr kept, pursued⟩
          · next unpursued =>
              exact ⟨fun same => ⟨same, fun due => unpursued due.2.2⟩, fun stays => stays.1⟩

end ConnectionManager

open ConnectionManager in
/-- A manager is connected after an event when the event connects it, or finds it
connected and leaves it so. -/
theorem ConnectionEvent.state_apply_eq_connected_iff {manager : ConnectionManager}
    (alive : manager.terminated = false) (event : ConnectionEvent) :
    (event.apply manager).state = .connected ↔
      event.Connects manager ∨ manager.state = .connected ∧ event.StaysConnected manager := by
  have running : ¬manager.terminated = true := Bool.eq_false_iff.mp alive
  unfold apply
  rw [if_neg running]
  cases event with
  | established handle =>
      dsimp only [Connects, StaysConnected]
      split
      · next member => exact iff_of_true rfl (.inl ⟨alive, member⟩)
      · next absent =>
          exact ⟨fun same => .inr ⟨same, trivial⟩,
            fun either => either.elim (fun connects => absurd connects.2 absent) And.left⟩
  | connectionError handle =>
      dsimp only [Connects, StaysConnected]
      rw [false_or]
      split
      · next member =>
          rw [onWsError_onWsDisconnected]
          exact iff_of_false (state_onWsDisconnected_ne_connected _) fun stays => stays.2 member
      · next absent => exact ⟨fun same => ⟨same, absent⟩, And.left⟩
  | closed handle =>
      dsimp only [Connects, StaysConnected]
      rw [false_or]
      split
      · next member =>
          exact iff_of_false (state_onWsDisconnected_ne_connected _) fun stays => stays.2 member
      · next absent => exact ⟨fun same => ⟨same, absent⟩, And.left⟩
  | networkChanged status =>
      dsimp only [Connects, StaysConnected]
      rw [false_or]
      exact manager.state_onNetworkChanged_eq_connected_iff status
  | timerExpired =>
      dsimp only [Connects]
      rw [false_or]
      exact manager.state_endReconnectWait_eq_connected_iff
  | connect =>
      refine iff_of_false ?_ fun either => either.elim id And.right
      simp only [ConnectionManager.connect]
      split <;> exact ConnectionState.noConfusion
  | disconnect =>
      exact iff_of_false ConnectionState.noConfusion fun either => either.elim id And.right
  | backOff => simp [Connects, StaysConnected]
  | timerTaken =>
      dsimp only [takeReconnect]
      split <;> simp [Connects, StaysConnected]
  | heartbeatExpired =>
      dsimp only [expireHeartbeat]
      split <;> simp [Connects, StaysConnected]

open ConnectionManager in
/-- Only the heartbeat thread ends the process. -/
theorem ConnectionEvent.eq_heartbeatExpired_of_terminated {manager : ConnectionManager}
    (alive : manager.terminated = false) {event : ConnectionEvent}
    (ended : (event.apply manager).terminated = true) : event = heartbeatExpired := by
  have running : ¬manager.terminated = true := Bool.eq_false_iff.mp alive
  unfold apply at ended
  rw [if_neg running] at ended
  cases event with
  | heartbeatExpired => rfl
  | connect => exact absurd ((terminated_connect manager).symm.trans ended) running
  | disconnect => exact absurd ended running
  | networkChanged status =>
      exact absurd ((manager.terminated_onNetworkChanged status).symm.trans ended) running
  | established handle =>
      dsimp only at ended
      split at ended <;> exact absurd ended running
  | connectionError handle =>
      dsimp only at ended
      split at ended
      · rw [onWsError_onWsDisconnected, terminated_onWsDisconnected] at ended
        exact absurd ended running
      · exact absurd ended running
  | closed handle =>
      dsimp only at ended
      split at ended
      · rw [terminated_onWsDisconnected] at ended
        exact absurd ended running
      · exact absurd ended running
  | backOff => exact absurd ended running
  | timerTaken =>
      dsimp only [takeReconnect] at ended
      split at ended <;> exact absurd ended running
  | timerExpired =>
      exact absurd (manager.terminated_endReconnectWait.symm.trans ended) running

/-! ## One step of the client -/

/-- An event leaves the channel with the connection unless it ends the connected
state other than by `logout`. -/
def AnyChatEvent.KeepsChannel (client : AnyChatClient) (event : AnyChatEvent) : Prop :=
  client.terminated = false → client.connectionState = .connected →
    match event with
    | authResponse index response _ =>
        ∀ token, client.installed index response ≠ some (.login, token)
    | socket .connect | socket .disconnect => True
    | socket event => ∀ manager ∈ client.connMgr, event.StaysConnected manager
    | _ => True

namespace AnyChatClient

/-- The queue holds a send function exactly while the state is `connected`, and
the calls on its path report accordingly. -/
def ChannelFollows (client : AnyChatClient) : Prop :=
  client.terminated = true ∨
    (client.store.outbound.sendFn.isSome = true ↔ client.connectionState = .connected) ∧
      client.store.Reports (client.connectionState = .connected)

theorem channelFollows_iff {client : AnyChatClient} (alive : client.terminated = false) :
    client.ChannelFollows ↔
      (client.store.outbound.sendFn.isSome = true ↔ client.connectionState = .connected) := by
  have running : ¬client.terminated = true := Bool.eq_false_iff.mp alive
  rw [ChannelFollows, or_iff_right running, Client.reports_iff, and_self]

/-- The send function stays; the channel follows if the state does. -/
theorem channelFollows_of_sendFn_eq {client next : AnyChatClient}
    (follows : client.ChannelFollows) (alive : client.terminated = false)
    (nextAlive : next.terminated = false)
    (sendFn : next.store.outbound.sendFn = client.store.outbound.sendFn) :
    next.ChannelFollows ↔
      (next.connectionState = .connected ↔ client.connectionState = .connected) := by
  rw [channelFollows_iff nextAlive, sendFn, (channelFollows_iff alive).mp follows]
  exact iff_comm

theorem channelFollows_onSocket_iff {client : AnyChatClient} (follows : client.ChannelFollows)
    (alive : client.terminated = false) (event : ConnectionEvent) :
    (client.onSocket event).ChannelFollows ↔
      (client.connectionState = .connected →
        ∀ manager ∈ client.connMgr, event.StaysConnected manager) := by
  rw [onSocket]
  cases current : client.connMgr with
  | none => exact iff_of_true follows fun _ manager member => nomatch member
  | some manager =>
      have managerAlive : manager.terminated = false := by simpa [terminated, current] using alive
      have same : client.connectionState = manager.state := by rw [connectionState, current]
      have after := event.state_apply_eq_connected_iff managerAlive
      have condition : (∀ other ∈ some manager, event.StaysConnected other) ↔
          event.StaysConnected manager := by simp
      rw [same, condition]
      dsimp only
      by_cases connects : event.Connects manager
      · rw [if_pos ((ConnectionEvent.readyCalls_apply manager event).mpr connects)]
        have stays : event.StaysConnected manager := by
          cases event with
          | established handle => trivial
          | _ => exact connects.elim
        refine iff_of_true ?_ fun _ => stays
        have connected : (event.apply manager).state = .connected := after.mpr (.inl connects)
        have installed := client.store.sendFn_onConnected client.readyCalls
        by_cases ended : (event.apply manager).terminated = true
        · exact .inl ended
        · have nextAlive : ({ client with connMgr := some (event.apply manager) } :
              AnyChatClient).onReady.terminated = false := Bool.eq_false_iff.mpr ended
          refine (channelFollows_iff nextAlive).mpr (iff_of_true ?_ connected)
          rw [onReady, Client.outbound_querySync, installed]
          rfl
      · rw [if_neg fun called =>
          connects ((ConnectionEvent.readyCalls_apply manager event).mp called)]
        rw [or_iff_right connects] at after
        by_cases ended : (event.apply manager).terminated = true
        · obtain rfl := event.eq_heartbeatExpired_of_terminated managerAlive ended
          exact iff_of_true (.inl ended) fun _ => trivial
        · have nextAlive : ({ client with connMgr := some (event.apply manager) } :
              AnyChatClient).terminated = false := Bool.eq_false_iff.mpr ended
          rw [channelFollows_of_sendFn_eq follows alive nextAlive rfl, same]
          change ((event.apply manager).state = .connected ↔ _) ↔ _
          rw [after]
          exact and_iff_left_iff_imp

theorem channelFollows_authResponse_iff {client : AnyChatClient}
    (follows : client.ChannelFollows) (alive : client.terminated = false) (index : Nat)
    (response : HttpResponse AuthTokenPayload) (reachable : Bool) :
    (client.authResponse index response reachable).ChannelFollows ↔
      (client.connectionState = .connected →
        ∀ token, client.installed index response ≠ some (.login, token)) := by
  cases installs : client.installed index response with
  | none =>
      rcases authResponse_of_not_installed reachable installs with ⟨authMgr, _, result⟩
      rw [result]
      exact iff_of_true follows fun _ _ same => nomatch same
  | some given =>
      rcases given with ⟨request, token⟩
      rcases authResponse_of_installed reachable installs with ⟨_, authMgr, _, result⟩
      by_cases login : request = .login
      · rw [if_pos login] at result
        have freshAlive : (client.authResponse index response reachable).terminated = false := by
          rw [result]
          cases reachable <;> rfl
        have sameSendFn : (client.authResponse index response reachable).store.outbound.sendFn =
            client.store.outbound.sendFn := by rw [result]
        rw [channelFollows_of_sendFn_eq follows alive freshAlive sameSendFn, result]
        have fresh := state_freshManager_ne_connected reachable
        constructor
        · intro same connected
          exact absurd (same.mpr connected) fresh
        · intro kept
          have disconnected : client.connectionState ≠ .connected :=
            fun connected => kept connected token (by rw [login])
          exact iff_of_false fresh disconnected
      · rw [result, if_neg login]
        refine iff_of_true follows fun _ other same => login ?_
        exact (Prod.mk.inj (Option.some.inj same)).1

/-- `logout` ends the connected state and clears the send function. -/
theorem ChannelFollows.logout {client : AnyChatClient} (follows : client.ChannelFollows)
    (alive : client.terminated = false) : client.logout.ChannelFollows := by
  cases current : client.connMgr with
  | none =>
      rw [AnyChatClient.logout, current]
      exact follows
  | some manager =>
      have stillAlive : client.logout.terminated = false := by
        rw [terminated, current] at alive
        rw [AnyChatClient.logout, current]
        exact alive
      have cleared : client.logout.store.outbound.sendFn = none := by
        rw [AnyChatClient.logout, current]
        rfl
      have disconnected : client.logout.connectionState = .disconnected := by
        rw [AnyChatClient.logout, current]
        rfl
      rw [channelFollows_iff stillAlive, cleared, disconnected]
      decide

/-- One event leaves the channel with the connection exactly when
`KeepsChannel` holds. -/
theorem channelFollows_step_iff {client : AnyChatClient} (follows : client.ChannelFollows)
    (event : AnyChatEvent) :
    (client.step event).ChannelFollows ↔ event.KeepsChannel client := by
  unfold step AnyChatEvent.KeepsChannel
  split
  · next ended => exact iff_of_true follows fun alive => Bool.noConfusion (alive.symm.trans ended)
  · next running =>
      have alive : client.terminated = false := Bool.eq_false_iff.mpr running
      rw [imp_iff_right alive]
      cases event with
      | call request =>
          refine iff_of_true ?_ fun _ => trivial
          cases request with
          | logout => exact follows.logout alive
          | login | auth request => exact follows
      | ensureValidToken now =>
          refine iff_of_true ?_ fun _ => trivial
          dsimp only
          split <;> exact follows
      | authResponse index response reachable =>
          exact channelFollows_authResponse_iff follows alive index response reachable
      | logoutResponse index response =>
          refine iff_of_true ?_ fun _ => trivial
          dsimp only [logoutResponse]
          split
          · exact follows
          · split <;> exact follows
      | otherResponse index =>
          refine iff_of_true ?_ fun _ => trivial
          dsimp only [otherResponse]
          split
          · exact follows
          · split <;> exact follows
      | authNotification notificationType payload => exact iff_of_true follows fun _ => trivial
      | socket event =>
          have handled := channelFollows_onSocket_iff follows alive event
          cases event with
          | connect | disconnect => exact iff_of_true follows fun _ => trivial
          | _ => exact handled

/-! ## Runs -/

/-- In every run the channel follows the connection throughout exactly when no
event ends the connected state and leaves the send function. -/
theorem channelFollows_always_iff (gatewayUrl : String) (authMgr : AuthManager)
    (platform : Platform) (db : Db) (events : List AnyChatEvent) :
    EventRun.Always step ChannelFollows (start gatewayUrl authMgr (.start platform db 0)) events ↔
      EventRun.Guarded step (fun client event => event.KeepsChannel client)
        (start gatewayUrl authMgr (.start platform db 0)) events := by
  have initially : (start gatewayUrl authMgr (.start platform db 0)).ChannelFollows :=
    (channelFollows_iff rfl).mpr
      (iff_of_false (fun some => nomatch some) ConnectionState.noConfusion)
  have exactGuard : ∀ (client : AnyChatClient) (event : AnyChatEvent), True →
      client.ChannelFollows → ((client.step event).ChannelFollows ↔ event.KeepsChannel client) :=
    fun _ event _ follows => channelFollows_step_iff follows event
  exact EventRun.always_iff_guarded (fun _ _ _ _ => trivial) exactGuard trivial initially events

/-- The peer closes the connection, and no retry has begun. -/
def peerCloses : List AnyChatEvent :=
  [.call .login,
    .authResponse 0 (tokenResponse "a1" "r1") true,
    .socket (.established 0), .socket (.closed 0)]

/-- The send function is still there. -/
theorem not_channelFollows_always_peerCloses :
    ¬EventRun.Always step ChannelFollows blank peerCloses := by
  intro always
  have alive : (EventRun.exec step blank peerCloses).terminated = false := by decide
  have connected := ((channelFollows_iff alive).mp always.last).mp rfl
  exact absurd connected (by decide)

end AnyChatClient

end AnychatSdk
