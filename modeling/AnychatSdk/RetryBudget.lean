import AnychatSdk.ReconnectTimer
import Mathlib.Algebra.Order.Group.Nat
import Mathlib.Data.Option.Basic

/-!
# The budget of the outer retries

A clock beside the manager tells when `scheduleReconnect` was called and when the
wait of the reconnect thread is over.  Between two resets the delays of the waits
grow with the counter, as long as no wait outlives a reset.
-/

namespace AnychatSdk

open ConnectionManager

/-! ## The clock -/

/-- The wait of the reconnect thread for the delay of a request. -/
structure TimerWait where
  deadline : Nat
  scheduledAt : Nat
  /-- The request came after the last reset. -/
  current : Bool
  deriving DecidableEq

/-- The manager with a clock in milliseconds, and what happened since the last
reset of the counter. -/
structure RetryClock where
  manager : ConnectionManager := {}
  now : Nat := 0
  /-- When `scheduleReconnect` was last called, and whether since the last reset. -/
  scheduledAt : Nat := 0
  current : Bool := false
  /-- The wait that has begun. -/
  wait : Option TimerWait := none
  timerConnects : Nat := 0
  gaveUp : Bool := false
  deriving DecidableEq

inductive ClockEvent where
  | elapse (ms : Nat)
  /-- The thread reads the delay and begins to wait. -/
  | waitBegins
  | event (event : ConnectionEvent)
  deriving DecidableEq

namespace RetryClock

def start (networkOk : Bool) : RetryClock :=
  { manager := { networkOk := networkOk } }

/-- The wait is over: cancelled, or its time has come. -/
def Due (clock : RetryClock) : Prop :=
  ∃ wait ∈ clock.wait, clock.manager.reconnectCancel = true ∨ wait.deadline ≤ clock.now

instance decidableDue (clock : RetryClock) : Decidable clock.Due :=
  match known : clock.wait with
  | none => isFalse (by simp [Due, known])
  | some wait =>
      decidable_of_iff (clock.manager.reconnectCancel = true ∨ wait.deadline ≤ clock.now)
        (by simp [Due, known])

def record (clock : RetryClock) : RetryEffect → RetryClock
  | .none | .cancelled | .taken => clock
  | .reset _ =>
      { clock with
        current := false
        wait := clock.wait.map fun wait => { wait with current := false }
        timerConnects := 0
        gaveUp := false }
  | .scheduled => { clock with scheduledAt := clock.now, current := true }
  | .gaveUp _ => { clock with gaveUp := true }
  | .waitEnded connects =>
      { clock with wait := none, timerConnects := clock.timerConnects + connects.toNat }

def handle (clock : RetryClock) (event : ConnectionEvent) : RetryClock :=
  ({ clock with manager := event.apply clock.manager }).record (event.retryEffect clock.manager)

def step (clock : RetryClock) : ClockEvent → RetryClock
  | .elapse ms => { clock with now := clock.now + ms }
  | .waitBegins =>
      if clock.manager.reconnectWaiting ∧ clock.wait = none then
        { clock with
          wait := some
            { deadline := clock.now + clock.manager.reconnectDelayMs
              scheduledAt := clock.scheduledAt
              current := clock.current } }
      else clock
  | .event event => if event = .timerExpired ∧ ¬clock.Due then clock else clock.handle event

/-- The effect of an event that happens at this time. -/
def effect (clock : RetryClock) : ClockEvent → RetryEffect
  | .elapse _ | .waitBegins => .none
  | .event event =>
      if event = .timerExpired ∧ ¬clock.Due then .none else event.retryEffect clock.manager

/-- Since the last reset the timer has connected at most as often as there are
retries, and after the manager has given up no timer is pending. -/
structure WithinBudget (clock : RetryClock) : Prop where
  connects : clock.timerConnects ≤ maxSuperRetries
  gaveUp : clock.gaveUp = true → ¬clock.manager.TimerPending

/-- The event makes the manager call `doConnect` at this time. -/
def CallsDoConnect (clock : RetryClock) : ClockEvent → Prop
  | .elapse _ | .waitBegins => False
  | .event event =>
      (event = .timerExpired → clock.Due) ∧ event.CallsDoConnect clock.manager

/-- A connection of the timer comes no earlier than its place in the row allows,
and after the manager has given up only a reset connects or makes the state connecting. -/
structure InTime (clock : RetryClock) (event : ClockEvent) : Prop where
  spaced : clock.effect event = .waitEnded true → ∃ wait ∈ clock.wait,
    wait.scheduledAt + superBaseDelayMs * 2 ^ min clock.timerConnects 4 ≤ clock.now
  afterGiveUp : clock.gaveUp = true → clock.CallsDoConnect event →
    (clock.effect event).isReset = true
  stateAfterGiveUp : clock.gaveUp = true → clock.manager.state ≠ .connecting →
    (clock.step event).manager.state = .connecting → (clock.effect event).isReset = true

/-- The manager gives up for want of retries only when no timer is pending, and the timer
connects only for a request that came after the last reset. -/
structure RetrySafe (clock : RetryClock) (event : ClockEvent) : Prop where
  givesUp : clock.effect event = .gaveUp true → ¬clock.manager.TimerPending
  connects : clock.effect event = .waitEnded true → ∀ wait ∈ clock.wait, wait.current = true

instance decidableRetrySafe (clock : RetryClock) (event : ClockEvent) :
    Decidable (clock.RetrySafe event) :=
  decidable_of_iff
    ((clock.effect event = .gaveUp true → ¬clock.manager.TimerPending) ∧
      (clock.effect event = .waitEnded true → ∀ wait ∈ clock.wait, wait.current = true))
    ⟨fun safe => ⟨safe.1, safe.2⟩, fun safe => ⟨safe.givesUp, safe.connects⟩⟩

/-! ## The invariant -/

/-- A retry that the counter has passed, and whose place in the row is not taken by
a connection of the timer. -/
structure Counted (connects count retry : Nat) : Prop where
  ahead : connects ≤ retry
  unspent : retry < maxSuperRetries
  counted : retry < count

/-- A request or a wait that came after the last reset keeps the delay of a
counted retry. -/
structure TimerSound (clock : RetryClock) : Prop where
  connects : clock.timerConnects ≤ maxSuperRetries
  counted : clock.timerConnects ≤ clock.manager.superRetryCount
  past : clock.scheduledAt ≤ clock.now
  requested : clock.wait = none → clock.current = true →
    clock.manager.reconnectPending = true ∨ clock.manager.reconnectWaiting = true →
      ∃ retry, Counted clock.timerConnects clock.manager.superRetryCount retry ∧
        clock.manager.reconnectDelayMs = superBaseDelayMs * 2 ^ min retry 4
  waiting : ∀ wait ∈ clock.wait, clock.manager.reconnectWaiting = true
  delayed : ∀ wait ∈ clock.wait, wait.current = true →
    ∃ retry, Counted clock.timerConnects clock.manager.superRetryCount retry ∧
      wait.scheduledAt + superBaseDelayMs * 2 ^ min retry 4 ≤ wait.deadline

/-- What every safe step keeps. -/
structure Sound (clock : RetryClock) : Prop where
  timer : clock.TimerSound
  quiet : clock.manager.networkOk = false → ¬clock.manager.TimerPending
  gaveUp : clock.gaveUp = true → clock.manager.GivenUp ∧ ¬clock.manager.TimerPending

section Step

variable {clock : RetryClock}

theorem Counted.mono {connects count more retry : Nat} (counted : Counted connects count retry)
    (grown : count ≤ more) : Counted connects more retry where
  ahead := counted.ahead
  unspent := counted.unspent
  counted := counted.counted.trans_le grown

/-- The timer is left alone, and the counter does not go back. -/
theorem TimerSound.keep (sound : clock.TimerSound) {manager : ConnectionManager}
    (count : clock.manager.superRetryCount ≤ manager.superRetryCount)
    (pending : manager.reconnectPending = true → clock.manager.reconnectPending = true)
    (delayMs : manager.reconnectDelayMs = clock.manager.reconnectDelayMs)
    (waiting : manager.reconnectWaiting = clock.manager.reconnectWaiting) {gaveUp : Bool} :
    ({ clock with manager := manager, gaveUp := gaveUp } : RetryClock).TimerSound where
  connects := sound.connects
  counted := sound.counted.trans count
  past := sound.past
  requested := by
    intro unbegun current asked
    rcases sound.requested unbegun current (asked.imp pending fun waits => waiting ▸ waits) with
      ⟨retry, counted, delay⟩
    exact ⟨retry, counted.mono count, delayMs.trans delay⟩
  waiting wait begun := waiting.trans (sound.waiting wait begun)
  delayed := by
    intro wait begun current
    rcases sound.delayed wait begun current with ⟨retry, counted, due⟩
    exact ⟨retry, counted.mono count, due⟩

/-- After a reset neither the request nor the wait is current. -/
theorem TimerSound.reset (sound : clock.TimerSound) {manager : ConnectionManager}
    (waiting : manager.reconnectWaiting = clock.manager.reconnectWaiting) (cancels : Bool) :
    (({ clock with manager := manager } : RetryClock).record (.reset cancels)).TimerSound where
  connects := Nat.zero_le _
  counted := Nat.zero_le _
  past := sound.past
  requested _ current := Bool.noConfusion current
  waiting wait begun := by
    rcases Option.map_eq_some_iff.mp begun with ⟨before, begunBefore, _⟩
    exact waiting.trans (sound.waiting before begunBefore)
  delayed wait begun current := by
    rcases Option.map_eq_some_iff.mp begun with ⟨before, _, rfl⟩
    exact Bool.noConfusion current

/-- A request keeps the delay of the retry that it counts. -/
theorem TimerSound.scheduled (sound : clock.TimerSound) {manager : ConnectionManager}
    (unspent : clock.manager.superRetryCount < maxSuperRetries)
    (count : manager.superRetryCount = clock.manager.superRetryCount + 1)
    (delayMs : manager.reconnectDelayMs =
      superBaseDelayMs * 2 ^ min clock.manager.superRetryCount 4)
    (waiting : manager.reconnectWaiting = clock.manager.reconnectWaiting) :
    (({ clock with manager := manager } : RetryClock).record .scheduled).TimerSound where
  connects := sound.connects
  counted := sound.counted.trans (count ▸ Nat.le_succ _)
  past := le_rfl
  requested _ _ _ :=
    ⟨clock.manager.superRetryCount,
      ⟨sound.counted, unspent, (Nat.lt_succ_self _).trans_eq count.symm⟩, delayMs⟩
  waiting wait begun := waiting.trans (sound.waiting wait begun)
  delayed := by
    intro wait begun current
    rcases sound.delayed wait begun current with ⟨retry, counted, due⟩
    exact ⟨retry, counted.mono (count ▸ Nat.le_succ _), due⟩

/-- A connection of the timer takes the place of the retry whose delay it kept. -/
theorem TimerSound.waitEnded (sound : clock.TimerSound) {manager : ConnectionManager}
    {connects : Bool} (count : manager.superRetryCount = clock.manager.superRetryCount)
    (pending : manager.reconnectPending = false) (waiting : manager.reconnectWaiting = false)
    (current : connects = true → ∃ wait ∈ clock.wait, wait.current = true) :
    (({ clock with manager := manager } : RetryClock).record (.waitEnded connects)).TimerSound := by
  have place : clock.timerConnects + connects.toNat ≤ maxSuperRetries ∧
      clock.timerConnects + connects.toNat ≤ clock.manager.superRetryCount := by
    cases connects with
    | false => exact ⟨sound.connects, sound.counted⟩
    | true =>
        rcases current rfl with ⟨wait, begun, waitCurrent⟩
        rcases sound.delayed wait begun waitCurrent with ⟨retry, counted, _⟩
        exact ⟨(Nat.succ_le_succ counted.ahead).trans counted.unspent,
          (Nat.succ_le_succ counted.ahead).trans counted.counted⟩
  constructor
  · exact place.1
  · exact place.2.trans_eq count.symm
  · exact sound.past
  · rintro _ _ (asked | waits)
    · exact Bool.noConfusion (pending.symm.trans asked)
    · exact Bool.noConfusion (waiting.symm.trans waits)
  · exact fun _ begun => absurd begun (by simp [RetryClock.record])
  · exact fun _ begun => absurd begun (by simp [RetryClock.record])

/-- The thread takes up a request that was pending. -/
theorem TimerSound.taken (sound : clock.TimerSound) {manager : ConnectionManager}
    (asked : clock.manager.reconnectPending = true)
    (count : manager.superRetryCount = clock.manager.superRetryCount)
    (delayMs : manager.reconnectDelayMs = clock.manager.reconnectDelayMs)
    (waiting : manager.reconnectWaiting = true) :
    ({ clock with manager := manager } : RetryClock).TimerSound where
  connects := sound.connects
  counted := sound.counted.trans_eq count.symm
  past := sound.past
  requested := by
    intro unbegun current _
    rcases sound.requested unbegun current (.inl asked) with ⟨retry, counted, delay⟩
    exact ⟨retry, counted.mono count.ge, delayMs.trans delay⟩
  waiting _ _ := waiting
  delayed := by
    intro wait begun current
    rcases sound.delayed wait begun current with ⟨retry, counted, due⟩
    exact ⟨retry, counted.mono count.ge, due⟩

/-- The wait keeps the delay of the request that it is for. -/
theorem TimerSound.waitBegins (sound : clock.TimerSound)
    (waiting : clock.manager.reconnectWaiting = true) (unbegun : clock.wait = none) :
    ({ clock with
        wait := some
          { deadline := clock.now + clock.manager.reconnectDelayMs
            scheduledAt := clock.scheduledAt
            current := clock.current } } : RetryClock).TimerSound where
  connects := sound.connects
  counted := sound.counted
  past := sound.past
  requested begun := nomatch begun
  waiting _ _ := waiting
  delayed := by
    rintro wait begun current
    obtain rfl := Option.some.inj begun
    rcases sound.requested unbegun current (.inr waiting) with ⟨retry, counted, delay⟩
    exact ⟨retry, counted, Nat.add_le_add sound.past delay.ge⟩

/-- What an effect does to the timer keeps the delays. -/
theorem TimerSound.record (sound : clock.TimerSound) {manager : ConnectionManager}
    {event : ConnectionEvent} {effect : RetryEffect}
    (applied : manager.timer = effect.apply clock.manager.timer)
    (permitted : event.Permits clock.manager effect)
    (current : effect = .waitEnded true → ∃ wait ∈ clock.wait, wait.current = true) :
    (({ clock with manager := manager }).record effect).TimerSound := by
  have count := congrArg RetryTimer.count applied
  have pending := congrArg RetryTimer.pending applied
  have delayMs := congrArg RetryTimer.delayMs applied
  have waiting := congrArg RetryTimer.waiting applied
  cases effect with
  | none => exact sound.keep count.ge (fun asked => pending.symm.trans asked) delayMs waiting
  | reset cancels => cases cancels <;> exact sound.reset waiting _
  | cancelled =>
      exact sound.keep count.ge (fun asked => Bool.noConfusion (pending.symm.trans asked))
        delayMs waiting
  | scheduled => exact sound.scheduled permitted.2.2 count delayMs waiting
  | gaveUp spent =>
      cases spent with
      | false => exact sound.keep count.ge (fun asked => pending.symm.trans asked) delayMs waiting
      | true =>
          exact sound.keep ((Nat.le_succ _).trans_eq count.symm)
            (fun asked => pending.symm.trans asked) delayMs waiting
  | taken => exact sound.taken permitted.1 count delayMs waiting
  | waitEnded connects =>
      exact sound.waitEnded count pending waiting fun connected => current (by rw [connected])

@[simp]
theorem manager_record (clock : RetryClock) (effect : RetryEffect) :
    (clock.record effect).manager = clock.manager := by
  cases effect <;> rfl

/-- A quiet timer does not connect. -/
theorem Sound.not_waitEnded (sound : clock.Sound) (quiet : ¬clock.manager.TimerPending)
    {event : ConnectionEvent} (due : event = .timerExpired → clock.Due) :
    event.retryEffect clock.manager ≠ .waitEnded true := by
  intro ended
  have permitted := ended ▸ event.permits_retryEffect clock.manager
  rcases due permitted.1 with ⟨wait, begun, _⟩
  exact quiet (.inr ⟨sound.timer.waiting wait begun, permitted.2 rfl⟩)

theorem Sound.handle (sound : clock.Sound) {event : ConnectionEvent}
    (due : event = .timerExpired → clock.Due)
    (givesUp : event.retryEffect clock.manager = .gaveUp true → ¬clock.manager.TimerPending)
    (connects : event.retryEffect clock.manager = .waitEnded true →
      ∀ wait ∈ clock.wait, wait.current = true) : (clock.handle event).Sound := by
  have applied := event.timer_apply clock.manager
  have permitted := event.permits_retryEffect clock.manager
  constructor
  · refine sound.timer.record applied permitted fun ended => ?_
    rcases due (ended ▸ permitted).1 with ⟨wait, begun, _⟩
    exact ⟨wait, begun, connects ended wait begun⟩
  · rw [RetryClock.handle, manager_record]
    exact ConnectionEvent.not_timerPending_apply sound.quiet event
  · intro gaveUp
    rw [RetryClock.handle, manager_record]
    have stays (before : clock.gaveUp = true)
        (unreset : (event.retryEffect clock.manager).isReset = false) :
        (event.apply clock.manager).GivenUp ∧ ¬(event.apply clock.manager).TimerPending := by
      rcases sound.gaveUp before with ⟨givenUp, quiet⟩
      exact ⟨ConnectionEvent.givenUp_apply givenUp unreset (sound.not_waitEnded quiet due),
        ConnectionEvent.not_timerPending_effect applied permitted quiet
          (ConnectionEvent.retryEffect_ne_scheduled givenUp event)⟩
    cases effect : event.retryEffect clock.manager with
    | reset cancels =>
        rw [RetryClock.handle, effect] at gaveUp
        exact Bool.noConfusion gaveUp
    | gaveUp spent =>
        have quiet : ¬clock.manager.TimerPending := by
          cases spent with
          | true => exact givesUp effect
          | false =>
              rw [effect] at permitted
              exact sound.quiet permitted
        exact ⟨ConnectionEvent.givenUp_of_gaveUp effect,
          ConnectionEvent.not_timerPending_effect applied permitted quiet
            (effect ▸ RetryEffect.noConfusion)⟩
    | none | cancelled | scheduled | taken | waitEnded =>
        rw [RetryClock.handle, effect] at gaveUp
        exact stays gaveUp (effect ▸ rfl)

theorem Sound.step (sound : clock.Sound) {event : ClockEvent} (safe : clock.RetrySafe event) :
    (clock.step event).Sound := by
  cases event with
  | elapse ms =>
      exact ⟨{ sound.timer with past := sound.timer.past.trans (Nat.le_add_right _ _) },
        sound.quiet, sound.gaveUp⟩
  | waitBegins =>
      rw [RetryClock.step]
      split
      · next begins => exact ⟨sound.timer.waitBegins begins.1 begins.2, sound.quiet, sound.gaveUp⟩
      · exact sound
  | event event =>
      rw [RetryClock.step]
      split
      · exact sound
      · next happens =>
          have effect : clock.effect (.event event) = event.retryEffect clock.manager :=
            if_neg happens
          exact sound.handle (fun expired => by_contra fun early => happens ⟨expired, early⟩)
            (effect ▸ safe.givesUp) (effect ▸ safe.connects)

theorem Sound.withinBudget (sound : clock.Sound) : clock.WithinBudget :=
  ⟨sound.timer.connects, fun gaveUp => (sound.gaveUp gaveUp).2⟩

/-- Only a call of `doConnect` makes the state connecting. -/
theorem callsDoConnect_of_step (idle : clock.manager.state ≠ .connecting) {event : ClockEvent}
    (connecting : (clock.step event).manager.state = .connecting) : clock.CallsDoConnect event := by
  cases event with
  | elapse ms => exact absurd connecting idle
  | waitBegins =>
      rw [RetryClock.step] at connecting
      split at connecting <;> exact absurd connecting idle
  | event event =>
      rw [RetryClock.step] at connecting
      split at connecting
      · exact absurd connecting idle
      · next happens =>
          rw [RetryClock.handle, manager_record] at connecting
          exact ⟨fun expired => by_contra fun early => happens ⟨expired, early⟩,
            (ConnectionEvent.connecting_apply_iff idle event).mp connecting⟩

theorem Sound.isReset_effect (sound : clock.Sound) {event : ClockEvent}
    (gaveUp : clock.gaveUp = true) (calls : clock.CallsDoConnect event) :
    (clock.effect event).isReset = true := by
  cases event with
  | elapse ms => exact calls.elim
  | waitBegins => exact calls.elim
  | event event =>
      rw [effect, if_neg fun early => early.2 (calls.1 early.1)]
      exact calls.2.effect.resolve_right (sound.not_waitEnded (sound.gaveUp gaveUp).2 calls.1)

theorem Sound.inTime (sound : clock.Sound) {event : ClockEvent} (safe : clock.RetrySafe event) :
    clock.InTime event := by
  constructor
  · intro ended
    cases event with
    | elapse ms => exact RetryEffect.noConfusion ended
    | waitBegins => exact RetryEffect.noConfusion ended
    | event event =>
        have connects := safe.connects ended
        rw [effect] at ended
        split at ended
        · exact RetryEffect.noConfusion ended
        · next happens =>
            have permitted := ended ▸ event.permits_retryEffect clock.manager
            have due : clock.Due := by_contra fun early => happens ⟨permitted.1, early⟩
            rcases due with ⟨wait, begun, cancelled | waited⟩
            · exact Bool.noConfusion (cancelled.symm.trans (permitted.2 rfl))
            · rcases sound.timer.delayed wait begun (connects wait begun) with
                ⟨retry, counted, delayed⟩
              refine ⟨wait, begun, le_trans (Nat.add_le_add_left ?_ _) (delayed.trans waited)⟩
              apply Nat.mul_le_mul_left
              exact Nat.pow_le_pow_right Nat.two_pos (min_le_min_right 4 counted.ahead)
  · exact sound.isReset_effect
  · intro gaveUp idle connecting
    exact sound.isReset_effect gaveUp (callsDoConnect_of_step idle connecting)

end Step

/-! ## Runs -/

theorem sound_start (networkOk : Bool) : (start networkOk).Sound where
  timer := ⟨Nat.zero_le _, Nat.zero_le _, le_rfl, fun _ current => Bool.noConfusion current,
    (fun _ begun => nomatch begun), (fun _ begun => nomatch begun)⟩
  quiet _ := by simp [start, TimerPending]
  gaveUp gaveUp := Bool.noConfusion gaveUp

/-- A connection is lost, and the timer connects after its delay. -/
def oneRetry : List ClockEvent :=
  [.event .connect, .event (.established 0), .event (.closed 0), .event .timerTaken, .waitBegins,
    .elapse 30000, .event .timerExpired]

/-- The server answers no attempt, and each fails after five seconds: the retries
of the socket use up those of the manager before the first wait is over. -/
def silentServer : List ClockEvent :=
  [.event .connect, .elapse 1000, .event .backOff, .elapse 2000, .event .backOff,
    .elapse 4000, .event .backOff, .event (.connectionError 0), .event .timerTaken, .waitBegins,
    .event (.connectionError 1), .elapse 8000, .event .backOff, .event (.connectionError 2),
    .event (.connectionError 3), .elapse 16000, .event .backOff, .event (.connectionError 4),
    .elapse 5000, .event (.connectionError 5)]

end RetryClock

end AnychatSdk
