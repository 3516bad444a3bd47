import AnychatSdk.ConnectionManager
import Mathlib.Algebra.Order.Group.Nat

/-!
# The reconnect timer

What each event does to the retry counter and to the timer.  The counter is raised
by the end of every handle, also while the timer already waits with an older
delay, and to give up leaves the timer alone.
-/

namespace AnychatSdk

/-- What an event does to the retry counter and to the reconnect timer. -/
inductive RetryEffect where
  | none
  | reset (cancels : Bool)
  | cancelled
  | scheduled
  /-- The state is `Disconnected` and the intent still set: the retries are spent,
  or there is no network. -/
  | gaveUp (spent : Bool)
  | taken
  | waitEnded (connects : Bool)
  deriving DecidableEq

def RetryEffect.isReset : RetryEffect → Bool
  | reset _ => true
  | _ => false

namespace ConnectionManager

def disconnectedEffect (manager : ConnectionManager) : RetryEffect :=
  if ¬manager.wantConnected then .none
  else if ¬manager.networkOk then .gaveUp false
  else if maxSuperRetries ≤ manager.superRetryCount then .gaveUp true
  else .scheduled

def networkEffect (status : NetworkStatus) (manager : ConnectionManager) : RetryEffect :=
  if status.isReachable = manager.networkOk then .none
  else if status.isReachable then
    if manager.wantConnected ∧ (manager.state = .disconnected ∨ manager.state = .reconnecting) then
      .reset true
    else .none
  else .cancelled

/-- A reconnect timer is pending: a request waits for the thread, or the thread
waits for the delay of one that is not cancelled. -/
def TimerPending (manager : ConnectionManager) : Prop :=
  manager.reconnectPending = true ∨
    (manager.reconnectWaiting = true ∧ manager.reconnectCancel = false)

instance decidableTimerPending (manager : ConnectionManager) : Decidable manager.TimerPending :=
  inferInstanceAs (Decidable (_ ∨ _ ∧ _))

/-- What the retries use of the manager. -/
structure RetryTimer where
  count : Nat
  pending : Bool
  cancel : Bool
  delayMs : Nat
  waiting : Bool

def timer (manager : ConnectionManager) : RetryTimer where
  count := manager.superRetryCount
  pending := manager.reconnectPending
  cancel := manager.reconnectCancel
  delayMs := manager.reconnectDelayMs
  waiting := manager.reconnectWaiting

end ConnectionManager

open ConnectionManager in
def ConnectionEvent.retryEffect (manager : ConnectionManager) (event : ConnectionEvent) :
    RetryEffect :=
  if manager.terminated then .none
  else
    match event with
    | connect => .reset true
    | disconnect => .cancelled
    | networkChanged status => manager.networkEffect status
    | established handle => if handle ∈ manager.ws.attempting then .reset false else .none
    | connectionError handle =>
        if handle ∈ manager.ws.attempting then manager.disconnectedEffect else .none
    | closed handle =>
        if handle ∈ manager.ws.established then manager.disconnectedEffect else .none
    | timerTaken =>
        if ¬manager.reconnectWaiting ∧ manager.reconnectPending then .taken else .none
    | timerExpired =>
        if manager.reconnectWaiting then
          .waitEnded (!manager.reconnectCancel && manager.wantConnected && manager.networkOk)
        else .none
    | backOff | heartbeatExpired => .none

/-- The event makes the manager call `doConnect`. -/
def ConnectionEvent.CallsDoConnect (manager : ConnectionManager) (event : ConnectionEvent) :
    Prop :=
  manager.terminated = false ∧
    match event with
    | connect => manager.networkOk = true
    | networkChanged status =>
        status.isReachable = true ∧ manager.networkOk = false ∧ manager.wantConnected = true ∧
          (manager.state = .disconnected ∨ manager.state = .reconnecting)
    | timerExpired =>
        manager.reconnectWaiting = true ∧ manager.reconnectCancel = false ∧
          manager.wantConnected = true ∧ manager.networkOk = true
    | _ => False

open ConnectionManager in
def RetryEffect.apply (timer : RetryTimer) : RetryEffect → RetryTimer
  | none => timer
  | reset true => { timer with count := 0, cancel := true, pending := false }
  | reset false => { timer with count := 0 }
  | cancelled => { timer with cancel := true, pending := false }
  | scheduled =>
      { timer with
        count := timer.count + 1
        delayMs := superBaseDelayMs * 2 ^ min timer.count 4
        cancel := false
        pending := true }
  | gaveUp true => { timer with count := timer.count + 1 }
  | gaveUp false => timer
  | taken => { timer with waiting := true, cancel := false }
  | waitEnded _ => { timer with waiting := false, pending := false }

/-! ## The handlers and the timer -/

namespace ConnectionManager

section Handlers

variable (manager : ConnectionManager)

theorem timer_onWsDisconnected :
    manager.onWsDisconnected.timer = manager.disconnectedEffect.apply manager.timer := by
  simp only [onWsDisconnected, disconnectedEffect]
  cases wanted : manager.wantConnected with
  | false => simp [wanted, stopHeartbeat, setState, timer, RetryEffect.apply]
  | true =>
      cases online : manager.networkOk with
      | false => simp [wanted, online, stopHeartbeat, setState, timer, RetryEffect.apply]
      | true =>
          simp only [stopHeartbeat, wanted, online, not_true_eq_false, or_self, if_false]
          split
          · rfl
          · simp [setState, scheduleReconnect, timer, RetryEffect.apply, Nat.shiftLeft_eq]

theorem timer_onNetworkChanged (status : NetworkStatus) :
    (manager.onNetworkChanged status).timer =
      (manager.networkEffect status).apply manager.timer := by
  simp only [onNetworkChanged, networkEffect]
  split
  · rfl
  · split
    · split <;> rfl
    · split <;> rfl

/-- Given up: the manager is idle, and no end of a handle makes it retry. -/
structure GivenUp : Prop where
  idle : manager.state = .disconnected
  spent : manager.wantConnected = true → manager.networkOk = true →
    maxSuperRetries ≤ manager.superRetryCount

variable {manager}

theorem GivenUp.disconnectedEffect_ne (givenUp : manager.GivenUp) :
    manager.disconnectedEffect ≠ .scheduled := by
  rw [disconnectedEffect]
  split
  · exact RetryEffect.noConfusion
  · next wanted =>
      split
      · exact RetryEffect.noConfusion
      · next online =>
          rw [if_pos (givenUp.spent (not_not.mp wanted) (not_not.mp online))]
          exact RetryEffect.noConfusion

/-- Unless it schedules a retry, the end of a handle leaves nothing to retry. -/
theorem givenUp_onWsDisconnected (unscheduled : manager.disconnectedEffect ≠ .scheduled) :
    manager.onWsDisconnected.GivenUp := by
  simp only [disconnectedEffect] at unscheduled
  simp only [onWsDisconnected]
  cases wanted : manager.wantConnected with
  | false => exact ⟨by simp [stopHeartbeat, wanted], fun wanting => by
      simp [stopHeartbeat, setState, wanted] at wanting⟩
  | true =>
      cases online : manager.networkOk with
      | false => exact ⟨by simp [stopHeartbeat, online], fun _ reachable => by
          simp [stopHeartbeat, setState, wanted, online] at reachable⟩
      | true =>
          simp only [stopHeartbeat, wanted, online, not_true_eq_false, or_self, if_false]
            at unscheduled ⊢
          split
          · next spent => exact ⟨rfl, fun _ _ => Nat.le_succ_of_le spent⟩
          · next unspent => exact absurd (if_neg unspent) unscheduled

theorem GivenUp.onNetworkChanged (givenUp : manager.GivenUp) {status : NetworkStatus}
    (unreset : (manager.networkEffect status).isReset = false) :
    (manager.onNetworkChanged status).GivenUp := by
  simp only [networkEffect] at unreset
  simp only [ConnectionManager.onNetworkChanged]
  split at unreset
  · next same =>
      rw [if_pos same]
      exact ⟨givenUp.idle, fun wanted reachable =>
        givenUp.spent wanted (same.symm.trans reachable)⟩
  · next different =>
      rw [if_neg different]
      split at unreset
      · next reachable =>
          split at unreset
          · exact Bool.noConfusion unreset
          · next unpursued =>
              rw [if_pos reachable, if_neg unpursued]
              exact ⟨givenUp.idle, fun wanted _ =>
                absurd ⟨wanted, .inl givenUp.idle⟩ unpursued⟩
      · next unreachable =>
          rw [if_neg unreachable, if_neg]
          · exact ⟨givenUp.idle, fun _ reachable => absurd reachable unreachable⟩
          · exact not_not.mpr givenUp.idle

theorem GivenUp.takeReconnect (givenUp : manager.GivenUp) : manager.takeReconnect.GivenUp := by
  simp only [ConnectionManager.takeReconnect]
  split
  · exact ⟨givenUp.idle, givenUp.spent⟩
  · exact givenUp

/-- The reconnect thread stays idle unless its wait ends uncancelled, with a
connection wanted and a network. -/
theorem GivenUp.endReconnectWait (givenUp : manager.GivenUp)
    (silent : manager.reconnectWaiting = true → manager.reconnectCancel = false →
      ¬(manager.wantConnected = true ∧ manager.networkOk = true)) :
    manager.endReconnectWait.GivenUp := by
  simp only [ConnectionManager.endReconnectWait]
  split
  · exact givenUp
  · next waiting =>
      split
      · exact ⟨givenUp.idle, givenUp.spent⟩
      · next uncancelled =>
          rw [if_neg (silent (not_not.mp waiting) (Bool.eq_false_iff.mpr uncancelled))]
          exact ⟨givenUp.idle, givenUp.spent⟩

theorem GivenUp.expireHeartbeat (givenUp : manager.GivenUp) :
    manager.expireHeartbeat.GivenUp := by
  simp only [ConnectionManager.expireHeartbeat]
  split
  · exact ⟨givenUp.idle, givenUp.spent⟩
  · exact givenUp

/-! ### Pending timers -/

theorem not_timerPending_of_cancelled (cancel : manager.reconnectCancel = true)
    (pending : manager.reconnectPending = false) : ¬manager.TimerPending := by
  rintro (requested | ⟨_, uncancelled⟩)
  · exact Bool.noConfusion (pending.symm.trans requested)
  · exact Bool.noConfusion (cancel.symm.trans uncancelled)

theorem not_timerPending_onWsDisconnected
    (quiet : manager.networkOk = false → ¬manager.TimerPending)
    (offline : manager.onWsDisconnected.networkOk = false) :
    ¬manager.onWsDisconnected.TimerPending := by
  rw [networkOk_onWsDisconnected] at offline
  simp only [onWsDisconnected]
  rw [if_pos (.inr (by simpa [stopHeartbeat] using offline))]
  exact quiet offline

theorem not_timerPending_onNetworkChanged
    (quiet : manager.networkOk = false → ¬manager.TimerPending) (status : NetworkStatus)
    (offline : (manager.onNetworkChanged status).networkOk = false) :
    ¬(manager.onNetworkChanged status).TimerPending := by
  simp only [onNetworkChanged] at offline ⊢
  split
  · next same =>
      rw [if_pos same] at offline
      exact quiet (same.symm.trans offline)
  · next different =>
      rw [if_neg different] at offline
      split
      · next reachable =>
          rw [if_pos reachable] at offline
          split at offline <;>
            exact Bool.noConfusion (Eq.trans reachable.symm offline)
      · split <;> exact not_timerPending_of_cancelled rfl rfl

theorem not_timerPending_takeReconnect
    (quiet : manager.networkOk = false → ¬manager.TimerPending)
    (offline : manager.takeReconnect.networkOk = false) :
    ¬manager.takeReconnect.TimerPending := by
  simp only [takeReconnect] at offline ⊢
  split
  · next requested =>
      rw [if_pos requested] at offline
      exact absurd (.inl requested.2) (quiet offline)
  · next unrequested =>
      rw [if_neg unrequested] at offline
      exact quiet offline

theorem not_timerPending_endReconnectWait
    (quiet : manager.networkOk = false → ¬manager.TimerPending)
    (offline : manager.endReconnectWait.networkOk = false) :
    ¬manager.endReconnectWait.TimerPending := by
  simp only [endReconnectWait] at offline ⊢
  split
  · next unwaiting =>
      rw [if_pos unwaiting] at offline
      exact quiet offline
  · next waiting =>
      rw [if_neg waiting] at offline
      split
      · simp [TimerPending]
      · next uncancelled =>
          rw [if_neg uncancelled] at offline
          split
          · next pursued =>
              rw [if_pos pursued] at offline
              exact absurd pursued.2 (Bool.eq_false_iff.mp offline)
          · simp [TimerPending]

/-! ### Connecting -/

theorem state_onWsDisconnected_ne_connecting : manager.onWsDisconnected.state ≠ .connecting := by
  rw [state_onWsDisconnected]
  split <;> exact ConnectionState.noConfusion

theorem state_onNetworkChanged_eq_connecting_iff (idle : manager.state ≠ .connecting)
    (status : NetworkStatus) :
    (manager.onNetworkChanged status).state = .connecting ↔
      status.isReachable = true ∧ manager.networkOk = false ∧ manager.wantConnected = true ∧
        (manager.state = .disconnected ∨ manager.state = .reconnecting) := by
  simp only [onNetworkChanged]
  split
  · next same =>
      exact iff_of_false idle fun calls =>
        Bool.noConfusion (calls.2.1.symm.trans (same.symm.trans calls.1))
  · next different =>
      split
      · next reachable =>
          have offline : manager.networkOk = false :=
            Bool.eq_false_iff.mpr fun online => different (reachable.trans online.symm)
          split
          · next pursued => exact iff_of_true rfl ⟨reachable, offline, pursued⟩
          · next unpursued => exact iff_of_false idle fun calls => unpursued calls.2.2
      · next unreachable =>
          split
          · exact iff_of_false ConnectionState.noConfusion fun calls => unreachable calls.1
          · exact iff_of_false idle fun calls => unreachable calls.1

theorem state_endReconnectWait_eq_connecting_iff (idle : manager.state ≠ .connecting) :
    manager.endReconnectWait.state = .connecting ↔
      manager.reconnectWaiting = true ∧ manager.reconnectCancel = false ∧
        manager.wantConnected = true ∧ manager.networkOk = true := by
  simp only [endReconnectWait]
  split
  · next unwaiting => exact iff_of_false idle fun calls => unwaiting calls.1
  · next waiting =>
      split
      · next cancelled =>
          exact iff_of_false idle fun calls => Bool.noConfusion (calls.2.1.symm.trans cancelled)
      · next uncancelled =>
          split
          · next pursued =>
              exact iff_of_true rfl
                ⟨not_not.mp waiting, Bool.eq_false_iff.mpr uncancelled, pursued⟩
          · next unpursued => exact iff_of_false idle fun calls => unpursued calls.2.2

end Handlers

end ConnectionManager

open ConnectionManager

namespace ConnectionEvent

variable {manager : ConnectionManager}

/-- Where each effect comes from. -/
def Permits (manager : ConnectionManager) (event : ConnectionEvent) : RetryEffect → Prop
  | .scheduled =>
      manager.wantConnected = true ∧ manager.networkOk = true ∧
        manager.superRetryCount < maxSuperRetries
  | .gaveUp false => manager.networkOk = false
  | .taken => manager.reconnectPending = true ∧ manager.reconnectWaiting = false
  | .waitEnded connects =>
      event = timerExpired ∧ (connects = true → manager.reconnectCancel = false)
  | _ => True

theorem permits_disconnectedEffect (manager : ConnectionManager) (event : ConnectionEvent) :
    event.Permits manager manager.disconnectedEffect := by
  rw [disconnectedEffect]
  split
  · trivial
  · next wanted =>
      split
      · next offline => exact Bool.eq_false_iff.mpr offline
      · next online =>
          split
          · trivial
          · next unspent => exact ⟨not_not.mp wanted, not_not.mp online, Nat.lt_of_not_le unspent⟩

theorem permits_retryEffect (manager : ConnectionManager) (event : ConnectionEvent) :
    event.Permits manager (event.retryEffect manager) := by
  unfold retryEffect
  split
  · trivial
  cases event with
  | networkChanged status =>
      dsimp only [networkEffect]
      split
      · trivial
      · split
        · split <;> trivial
        · trivial
  | established handle =>
      dsimp only
      split <;> trivial
  | connectionError handle | closed handle =>
      dsimp only
      split
      · exact permits_disconnectedEffect manager _
      · trivial
  | timerTaken =>
      dsimp only
      split
      · next requested => exact ⟨requested.2, Bool.eq_false_iff.mpr requested.1⟩
      · trivial
  | timerExpired =>
      dsimp only
      split
      · refine ⟨rfl, fun connects => ?_⟩
        rw [Bool.and_eq_true, Bool.and_eq_true, Bool.not_eq_true'] at connects
        exact connects.1.1
      · trivial
  | connect | disconnect | backOff | heartbeatExpired => trivial

/-- What an event does to the timer. -/
theorem timer_apply (manager : ConnectionManager) (event : ConnectionEvent) :
    (event.apply manager).timer = (event.retryEffect manager).apply manager.timer := by
  unfold apply retryEffect
  split
  · rfl
  cases event with
  | connect =>
      simp only [ConnectionManager.connect]
      split <;> rfl
  | disconnect => rfl
  | networkChanged status => exact manager.timer_onNetworkChanged status
  | established handle =>
      dsimp only
      split <;> rfl
  | connectionError handle =>
      dsimp only
      split
      · rw [onWsError_onWsDisconnected]
        exact timer_onWsDisconnected _
      · rfl
  | closed handle =>
      dsimp only
      split
      · exact timer_onWsDisconnected _
      · rfl
  | backOff => rfl
  | timerTaken =>
      simp only [takeReconnect]
      split <;> rfl
  | timerExpired =>
      simp only [endReconnectWait]
      cases manager.reconnectWaiting with
      | false => rfl
      | true =>
          simp only [not_true_eq_false, if_false, if_true]
          split
          · rfl
          · split <;> rfl
  | heartbeatExpired =>
      simp only [expireHeartbeat]
      split <;> rfl

/-- A manager that has given up stays so until a reset, or until its timer connects. -/
theorem givenUp_apply (givenUp : manager.GivenUp) {event : ConnectionEvent}
    (unreset : (event.retryEffect manager).isReset = false)
    (silent : event.retryEffect manager ≠ .waitEnded true) : (event.apply manager).GivenUp := by
  unfold retryEffect at unreset silent
  unfold apply
  split
  · exact givenUp
  next alive =>
  simp only [if_neg alive] at unreset silent
  cases event with
  | connect => exact Bool.noConfusion unreset
  | disconnect => exact ⟨rfl, fun wanted => Bool.noConfusion wanted⟩
  | networkChanged status => exact givenUp.onNetworkChanged unreset
  | established handle =>
      dsimp only at unreset ⊢
      split at unreset
      · exact Bool.noConfusion unreset
      · next absent =>
          rw [if_neg absent]
          exact givenUp
  | connectionError handle =>
      dsimp only
      split
      · rw [onWsError_onWsDisconnected]
        exact givenUp_onWsDisconnected givenUp.disconnectedEffect_ne
      · exact givenUp
  | closed handle =>
      dsimp only
      split
      · exact givenUp_onWsDisconnected givenUp.disconnectedEffect_ne
      · exact givenUp
  | backOff => exact ⟨givenUp.idle, givenUp.spent⟩
  | timerTaken => exact givenUp.takeReconnect
  | timerExpired =>
      refine givenUp.endReconnectWait fun waiting uncancelled pursued => silent ?_
      dsimp only
      rw [if_pos waiting, uncancelled, pursued.1, pursued.2]
      rfl
  | heartbeatExpired => exact givenUp.expireHeartbeat

/-- Events other than the end of a handle do not give up. -/
theorem givenUp_of_gaveUp {event : ConnectionEvent} {spent : Bool}
    (gaveUp : event.retryEffect manager = .gaveUp spent) : (event.apply manager).GivenUp := by
  unfold retryEffect at gaveUp
  unfold apply
  split at gaveUp
  · exact RetryEffect.noConfusion gaveUp
  next alive =>
  rw [if_neg alive]
  cases event with
  | connectionError handle =>
      dsimp only at gaveUp ⊢
      split at gaveUp
      · next member =>
          rw [if_pos member, onWsError_onWsDisconnected]
          exact givenUp_onWsDisconnected fun scheduled =>
            RetryEffect.noConfusion (scheduled.symm.trans gaveUp)
      · exact RetryEffect.noConfusion gaveUp
  | closed handle =>
      dsimp only at gaveUp ⊢
      split at gaveUp
      · next member =>
          rw [if_pos member]
          exact givenUp_onWsDisconnected fun scheduled =>
            RetryEffect.noConfusion (scheduled.symm.trans gaveUp)
      · exact RetryEffect.noConfusion gaveUp
  | networkChanged status =>
      simp only [networkEffect] at gaveUp
      split at gaveUp
      · exact RetryEffect.noConfusion gaveUp
      · split at gaveUp
        · split at gaveUp <;> exact RetryEffect.noConfusion gaveUp
        · exact RetryEffect.noConfusion gaveUp
  | established handle | timerTaken | timerExpired =>
      dsimp only at gaveUp
      split at gaveUp <;> exact RetryEffect.noConfusion gaveUp
  | connect | disconnect | backOff | heartbeatExpired => exact RetryEffect.noConfusion gaveUp

/-- Without a network no timer is pending. -/
theorem not_timerPending_apply (quiet : manager.networkOk = false → ¬manager.TimerPending)
    (event : ConnectionEvent) :
    (event.apply manager).networkOk = false → ¬(event.apply manager).TimerPending := by
  unfold apply
  split
  · exact quiet
  cases event with
  | connect =>
      simp only [ConnectionManager.connect]
      split <;> exact fun _ => not_timerPending_of_cancelled rfl rfl
  | disconnect => exact fun _ => not_timerPending_of_cancelled rfl rfl
  | networkChanged status => exact not_timerPending_onNetworkChanged quiet status
  | established handle =>
      dsimp only
      split <;> exact quiet
  | connectionError handle =>
      dsimp only
      split
      · rw [onWsError_onWsDisconnected]
        exact not_timerPending_onWsDisconnected quiet
      · exact quiet
  | closed handle =>
      dsimp only
      split
      · exact not_timerPending_onWsDisconnected quiet
      · exact quiet
  | backOff => exact quiet
  | timerTaken => exact not_timerPending_takeReconnect quiet
  | timerExpired => exact not_timerPending_endReconnectWait quiet
  | heartbeatExpired =>
      simp only [expireHeartbeat]
      split <;> exact quiet

/-- `doConnect` is called with a reset of the counter, or by the timer. -/
theorem CallsDoConnect.effect {event : ConnectionEvent} (calls : event.CallsDoConnect manager) :
    (event.retryEffect manager).isReset = true ∨ event.retryEffect manager = .waitEnded true := by
  rcases calls with ⟨alive, calls⟩
  unfold retryEffect
  rw [if_neg (Bool.eq_false_iff.mp alive)]
  cases event with
  | connect => exact .inl rfl
  | networkChanged status =>
      rcases calls with ⟨reachable, offline, wanted, state⟩
      refine .inl ?_
      dsimp only [networkEffect]
      rw [reachable, offline, if_neg Bool.noConfusion, if_pos rfl, if_pos ⟨wanted, state⟩]
      rfl
  | timerExpired =>
      rcases calls with ⟨waiting, uncancelled, wanted, online⟩
      refine .inr ?_
      dsimp only
      rw [if_pos waiting, uncancelled, wanted, online]
      rfl
  | _ => exact calls.elim

/-- The handlers that call `doConnect` are those that leave the manager connecting. -/
theorem connecting_apply_iff (idle : manager.state ≠ .connecting) (event : ConnectionEvent) :
    (event.apply manager).state = .connecting ↔ event.CallsDoConnect manager := by
  unfold apply CallsDoConnect
  split
  · next terminated =>
      exact iff_of_false idle fun calls => Bool.noConfusion (calls.1.symm.trans terminated)
  next alive =>
  rw [Bool.not_eq_true] at alive
  cases event with
  | connect =>
      simp only [ConnectionManager.connect, alive, true_and]
      split
      · next online => exact iff_of_true rfl online
      · next offline => exact iff_of_false ConnectionState.noConfusion offline
  | disconnect => exact iff_of_false ConnectionState.noConfusion And.right
  | networkChanged status =>
      simp only [alive, true_and]
      exact state_onNetworkChanged_eq_connecting_iff idle status
  | established handle =>
      dsimp only
      split
      · exact iff_of_false ConnectionState.noConfusion And.right
      · exact iff_of_false idle And.right
  | connectionError handle =>
      dsimp only
      split
      · rw [onWsError_onWsDisconnected]
        exact iff_of_false state_onWsDisconnected_ne_connecting And.right
      · exact iff_of_false idle And.right
  | closed handle =>
      dsimp only
      split
      · exact iff_of_false state_onWsDisconnected_ne_connecting And.right
      · exact iff_of_false idle And.right
  | backOff => exact iff_of_false idle And.right
  | timerTaken =>
      simp only [takeReconnect]
      split <;> exact iff_of_false idle And.right
  | timerExpired =>
      simp only [alive, true_and]
      exact state_endReconnectWait_eq_connecting_iff idle
  | heartbeatExpired =>
      simp only [expireHeartbeat]
      split <;> exact iff_of_false idle And.right

theorem retryEffect_ne_scheduled (givenUp : manager.GivenUp) (event : ConnectionEvent) :
    event.retryEffect manager ≠ .scheduled := by
  intro scheduled
  have permitted := scheduled ▸ event.permits_retryEffect manager
  exact Nat.not_lt.mpr (givenUp.spent permitted.1 permitted.2.1) permitted.2.2

theorem not_timerPending_of_timer {before : ConnectionManager}
    (quiet : ¬before.TimerPending) (pending : manager.timer.pending = before.timer.pending)
    (waiting : manager.timer.waiting = before.timer.waiting)
    (cancel : manager.timer.cancel = before.timer.cancel) : ¬manager.TimerPending := by
  rintro (asked | ⟨waits, uncancelled⟩)
  · exact quiet (.inl (pending.symm.trans asked))
  · exact quiet (.inr ⟨waiting.symm.trans waits, cancel.symm.trans uncancelled⟩)

/-- The timer of a manager that has given up stays quiet until the next reset. -/
theorem not_timerPending_effect {before : ConnectionManager} {event : ConnectionEvent}
    {effect : RetryEffect} (applied : manager.timer = effect.apply before.timer)
    (permitted : event.Permits before effect) (quiet : ¬before.TimerPending)
    (unscheduled : effect ≠ .scheduled) : ¬manager.TimerPending := by
  have pending := congrArg RetryTimer.pending applied
  have cancel := congrArg RetryTimer.cancel applied
  have waiting := congrArg RetryTimer.waiting applied
  cases effect with
  | none => exact not_timerPending_of_timer quiet pending waiting cancel
  | gaveUp spent =>
      cases spent <;> exact not_timerPending_of_timer quiet pending waiting cancel
  | reset cancels =>
      cases cancels with
      | false => exact not_timerPending_of_timer quiet pending waiting cancel
      | true => exact not_timerPending_of_cancelled cancel pending
  | cancelled => exact not_timerPending_of_cancelled cancel pending
  | scheduled => exact absurd rfl unscheduled
  | taken => exact absurd (.inl permitted.1) quiet
  | waitEnded connects =>
      rintro (asked | ⟨waits, _⟩)
      · exact Bool.noConfusion (pending.symm.trans asked)
      · exact Bool.noConfusion (waiting.symm.trans waits)

end ConnectionEvent

end AnychatSdk
