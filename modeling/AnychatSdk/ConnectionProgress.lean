import AnychatSdk.ConnectionManager

/-!
# No stuck connection

A manager that is connecting or reconnecting should have something under way
that can still lead to a connection.  It has nothing once the socket has used up
its retries: the loop of the socket still runs, so that a further attempt to
connect is ignored.
-/

namespace AnychatSdk

namespace ConnectionManager

/-- Something can still lead to a connection: an attempt or a connection, a retry
of the socket, or a reconnect timer at whose end the socket will really start. -/
def Armed (manager : ConnectionManager) : Prop :=
  manager.ws.attempting ≠ [] ∨ manager.ws.established ≠ [] ∨
    (manager.ws.running = true ∧ manager.ws.connected = false ∧
      manager.ws.reconnectCount < WebSocketClient.maxReconnect) ∨
        (manager.reconnectPending = true ∧ manager.ws.running = false)

/-- A connection is wanted, possible and under way as far as the state says. -/
def Pursues (manager : ConnectionManager) : Prop :=
  manager.wantConnected = true ∧ manager.networkOk = true ∧
    (manager.state = .connecting ∨ manager.state = .reconnecting)

/-- The manager is not stuck: what it pursues can still come about. -/
def Progresses (manager : ConnectionManager) : Prop :=
  manager.terminated = true ∨ (manager.Pursues → manager.Armed)

instance decidableProgresses (manager : ConnectionManager) : Decidable manager.Progresses :=
  inferInstanceAs (Decidable (_ ∨ (_ ∧ _ ∧ (_ ∨ _) → _ ∨ _ ∨ (_ ∧ _ ∧ _) ∨ _ ∧ _)))

/-- With the loop running, only an exhausted socket leaves nothing armed. -/
theorem armed_iff_not_exhausted {manager : ConnectionManager} (sound : manager.ws.Sound)
    (running : manager.ws.running = true) : manager.Armed ↔ ¬manager.ws.Exhausted := by
  constructor
  · rintro (attempting | established | ⟨_, _, retries⟩ | ⟨_, stopped⟩) exhausted
    · exact attempting exhausted.2.1
    · exact established exhausted.2.2.1
    · exact absurd exhausted.2.2.2 (Nat.not_le.mpr retries)
    · exact Bool.noConfusion (running.symm.trans stopped)
  · intro notExhausted
    by_contra unarmed
    simp only [Armed, not_or, not_not] at unarmed
    rcases unarmed with ⟨attempting, established, noRetry, _⟩
    have disconnected : manager.ws.connected = false :=
      Bool.eq_false_iff.mpr fun connected => sound.connected connected established
    refine notExhausted ⟨running, attempting, established, Nat.le_of_not_lt fun retries => ?_⟩
    exact noRetry ⟨running, disconnected, retries⟩

/-- No exhausted socket keeps the manager from what it pursues. -/
def Unhindered (manager : ConnectionManager) : Prop :=
  manager.Pursues → ¬manager.ws.Exhausted

theorem progresses_iff {manager : ConnectionManager} (sound : manager.Sound) :
    manager.Progresses ↔ manager.terminated = true ∨ manager.Unhindered :=
  or_congr_right (forall_congr' fun pursues =>
    armed_iff_not_exhausted sound.ws (sound.pursuing pursues.2.2))

/-- The manager answers the end of a handle with a retry of its own. -/
def Retries (manager : ConnectionManager) : Prop :=
  manager.wantConnected = true ∧ manager.networkOk = true ∧
    manager.superRetryCount < maxSuperRetries

end ConnectionManager

/-- The states in which an event leaves no manager stuck: the socket is not
exhausted when the manager is to connect, and when the last handle ends a retry
is left or the manager gives up. -/
def ConnectionEvent.KeepsProgress (manager : ConnectionManager) (event : ConnectionEvent) : Prop :=
  manager.terminated = true ∨
    match event with
    | connect => manager.networkOk = true → ¬manager.ws.Exhausted
    | networkChanged status =>
        status.isReachable = true → manager.networkOk = false → manager.wantConnected = true →
          manager.state = .disconnected → ¬manager.ws.Exhausted
    | connectionError handle =>
        handle ∈ manager.ws.attempting → manager.ws.attempting.erase handle = [] →
          manager.ws.established = [] → manager.Retries →
            manager.ws.reconnectCount < WebSocketClient.maxReconnect
    | closed handle =>
        handle ∈ manager.ws.established → manager.ws.established.erase handle = [] →
          manager.ws.attempting = [] → manager.Retries →
            manager.ws.reconnectCount < WebSocketClient.maxReconnect
    | timerExpired =>
        manager.reconnectWaiting = true → manager.reconnectCancel = false →
          manager.wantConnected = true → manager.networkOk = true → ¬manager.ws.Exhausted
    | _ => True

namespace ConnectionManager

/-! ## One handler -/

section Handlers

variable {manager : ConnectionManager}

/-- An attempt to connect is of use unless the socket is exhausted. -/
theorem unhindered_doConnect_iff (wanted : manager.wantConnected = true)
    (online : manager.networkOk = true) :
    manager.doConnect.Unhindered ↔ ¬manager.ws.Exhausted := by
  have pursues : manager.doConnect.Pursues := ⟨wanted, online, .inl rfl⟩
  rw [Unhindered, ws_doConnect, WebSocketClient.exhausted_connect_iff]
  exact ⟨fun unhindered => unhindered pursues, fun unspent _ => unspent⟩

theorem unhindered_connect_iff :
    manager.connect.Unhindered ↔ (manager.networkOk = true → ¬manager.ws.Exhausted) := by
  simp only [connect]
  split
  · next online =>
      rw [unhindered_doConnect_iff rfl online]
      exact ⟨fun unspent _ => unspent, fun unspent => unspent online⟩
  · next offline =>
      exact iff_of_true (fun pursues => absurd pursues.2.1 offline)
        fun online => absurd online offline

/-- After the end of a handle the manager pursues a connection if it retries. -/
theorem pursues_onWsDisconnected_iff (manager : ConnectionManager) :
    manager.onWsDisconnected.Pursues ↔ manager.Retries := by
  rw [Pursues, Retries, wantConnected_onWsDisconnected, networkOk_onWsDisconnected,
    state_onWsDisconnected]
  constructor
  · rintro ⟨wanted, online, state⟩
    split at state
    · next retries => exact retries
    · simp at state
  · intro retries
    rw [if_pos retries]
    exact ⟨retries.1, retries.2.1, .inr rfl⟩

/-- The end of a handle while the loop runs: a last one needs a retry of the
socket, unless the manager gives up. -/
theorem unhindered_onWsDisconnected_iff {ws : WebSocketClient} (running : ws.running = true) :
    { manager with ws := ws }.onWsDisconnected.Unhindered ↔
      (ws.attempting = [] → ws.established = [] → manager.Retries →
        ws.reconnectCount < WebSocketClient.maxReconnect) := by
  rw [Unhindered, ws_onWsDisconnected, pursues_onWsDisconnected_iff]
  constructor
  · intro unhindered attempting established retries
    by_contra spent
    exact unhindered retries ⟨running, attempting, established, Nat.not_lt.mp spent⟩
  · intro left retries exhausted
    have unspent := left exhausted.2.1 exhausted.2.2.1 retries
    exact absurd exhausted.2.2.2 (Nat.not_le.mpr unspent)

/-- Without a network the manager pursues nothing that a recovery could find
under way. -/
theorem unhindered_onNetworkChanged_iff (sound : manager.Sound) (unhindered : manager.Unhindered)
    (status : NetworkStatus) :
    (manager.onNetworkChanged status).Unhindered ↔
      (status.isReachable = true → manager.networkOk = false → manager.wantConnected = true →
        manager.state = .disconnected → ¬manager.ws.Exhausted) := by
  simp only [onNetworkChanged]
  split
  · next same =>
      apply iff_of_true
      · exact fun pursues => unhindered ⟨pursues.1, same.symm.trans pursues.2.1, pursues.2.2⟩
      · exact fun reachable offline =>
          Bool.noConfusion (offline.symm.trans (same.symm.trans reachable))
  · next different =>
      split
      · next reachable =>
          have offline : manager.networkOk = false :=
            Bool.eq_false_iff.mpr fun online => different (reachable.trans online.symm)
          have settled := sound.offline offline
          split
          · next pursued =>
              have disconnected : manager.state = .disconnected := by
                rcases pursued.2 with idle | retrying
                · exact idle
                · exact absurd settled (by simp [retrying])
              rw [unhindered_doConnect_iff]
              · constructor
                · exact fun unspent _ _ _ _ => unspent
                · exact fun unspent => unspent reachable offline pursued.1 disconnected
              · exact pursued.1
              · exact reachable
          · next unpursued =>
              apply iff_of_true
              · intro pursues
                have pursuing : manager.state = .connecting ∨ manager.state = .reconnecting :=
                  pursues.2.2
                rcases settled with state | state <;> simp [state] at pursuing
              · exact fun _ _ wanted disconnected =>
                  absurd ⟨wanted, .inl disconnected⟩ unpursued
      · next unreachable =>
          split <;> exact iff_of_true (fun pursues => absurd pursues.2.1 unreachable)
            fun reachable => absurd reachable unreachable

theorem unhindered_endReconnectWait_iff (unhindered : manager.Unhindered) :
    manager.endReconnectWait.Unhindered ↔
      (manager.reconnectWaiting = true → manager.reconnectCancel = false →
        manager.wantConnected = true → manager.networkOk = true → ¬manager.ws.Exhausted) := by
  simp only [endReconnectWait]
  split
  · next idle => exact iff_of_true unhindered fun waiting => absurd waiting idle
  · next waiting =>
      split
      · next cancelled =>
          exact iff_of_true unhindered fun _ kept => Bool.noConfusion (cancelled.symm.trans kept)
      · next kept =>
          split
          · next pursued =>
              rw [unhindered_doConnect_iff]
              · constructor
                · exact fun unspent _ _ _ _ => unspent
                · exact fun unspent => unspent (not_not.mp waiting) (Bool.eq_false_iff.mpr kept)
                    pursued.1 pursued.2
              · exact pursued.1
              · exact pursued.2
          · next unpursued =>
              exact iff_of_true (fun pursues => absurd ⟨pursues.1, pursues.2.1⟩ unpursued)
                fun _ _ wanted online => absurd ⟨wanted, online⟩ unpursued

end Handlers

end ConnectionManager

open ConnectionManager

/-! ## One event -/

/-- One event keeps the manager from being stuck exactly in those states. -/
theorem progresses_apply_iff {manager : ConnectionManager} (sound : manager.Sound)
    (progresses : manager.Progresses) (event : ConnectionEvent) :
    (event.apply manager).Progresses ↔ event.KeepsProgress manager := by
  rw [progresses_iff (sound.apply event)]
  rw [progresses_iff sound] at progresses
  unfold ConnectionEvent.apply ConnectionEvent.KeepsProgress
  split
  · next terminated => exact iff_of_true (.inl terminated) (.inl terminated)
  · next alive =>
      have unhindered : manager.Unhindered := progresses.resolve_left alive
      rw [or_iff_right alive]
      cases event with
      | connect => simpa [alive] using unhindered_connect_iff
      | disconnect => exact iff_of_true (.inr fun pursues => Bool.noConfusion pursues.1) trivial
      | networkChanged status =>
          simpa [alive] using unhindered_onNetworkChanged_iff sound unhindered status
      | established handle =>
          dsimp only
          split
          · exact iff_of_true (.inr fun pursues => absurd pursues.2.2 (by simp)) trivial
          · exact iff_of_true (.inr unhindered) trivial
      | connectionError handle =>
          dsimp only
          split
          · next member =>
              have running : (manager.ws.onConnectionError handle).running = true :=
                sound.ws.running_of_attempting member
              rw [onWsError_onWsDisconnected, terminated_onWsDisconnected, or_iff_right alive,
                unhindered_onWsDisconnected_iff running]
              exact ⟨fun kept _ => kept, fun kept => kept member⟩
          · next absent =>
              exact iff_of_true (.inr unhindered) fun member => absurd member absent
      | closed handle =>
          dsimp only
          split
          · next member =>
              have running : (manager.ws.onClosed handle).running = true :=
                sound.ws.running_of_established member
              rw [terminated_onWsDisconnected, or_iff_right alive,
                unhindered_onWsDisconnected_iff running]
              exact ⟨fun kept _ established attempting => kept attempting established,
                fun kept attempting established => kept member established attempting⟩
          · next absent =>
              exact iff_of_true (.inr unhindered) fun member => absurd member absent
      | backOff =>
          refine iff_of_true (.inr fun pursues => ?_) trivial
          rw [WebSocketClient.exhausted_backOff_iff]
          exact unhindered pursues
      | timerTaken =>
          simp only [takeReconnect]
          split <;> exact iff_of_true (.inr unhindered) trivial
      | timerExpired => simpa [alive] using unhindered_endReconnectWait_iff unhindered
      | heartbeatExpired =>
          simp only [expireHeartbeat]
          split
          · exact iff_of_true (.inl rfl) trivial
          · exact iff_of_true (.inr unhindered) trivial

/-! ## Runs -/

/-- In every run no manager is stuck in any state exactly when every event of the
run keeps it from being stuck. -/
theorem progresses_always_iff (networkOk : Bool) (events : List ConnectionEvent) :
    EventRun.Always ConnectionEvent.apply Progresses { networkOk := networkOk } events ↔
      EventRun.Guarded ConnectionEvent.apply ConnectionEvent.KeepsProgress
        { networkOk := networkOk } events := by
  have preserved : ∀ (manager : ConnectionManager) (event : ConnectionEvent), manager.Sound →
      manager.Progresses → (event.apply manager).Sound := fun _ event sound _ => sound.apply event
  have exact_guard : ∀ (manager : ConnectionManager) (event : ConnectionEvent), manager.Sound →
      manager.Progresses → ((event.apply manager).Progresses ↔ event.KeepsProgress manager) :=
    fun _ event sound progresses => progresses_apply_iff sound progresses event
  have initially : ({ networkOk := networkOk } : ConnectionManager).Progresses :=
    .inr fun pursues => absurd pursues.2.2 (by simp)
  exact EventRun.always_iff_guarded preserved exact_guard (.start networkOk) initially events

/-- Six attempts fail.  The timer that the first failure has set expires
afterwards, and the manager waits in `connecting` for nothing. -/
theorem not_progresses_always_stale_timer :
    ¬EventRun.Always ConnectionEvent.apply Progresses {}
      [.connect, .connectionError 0, .timerTaken, .backOff, .connectionError 1, .backOff,
        .connectionError 2, .backOff, .connectionError 3, .backOff, .connectionError 4, .backOff,
        .connectionError 5, .timerExpired] := by
  intro always
  exact absurd always.last (by decide)

end AnychatSdk
