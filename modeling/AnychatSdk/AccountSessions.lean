import AnychatSdk.FlushOrder
import AnychatSdk.SessionConnection
import AnychatSdk.SessionView
import AnychatSdk.TransientChannel

/-!
# Sessions of accounts

While an account is in use the stores see the events of its session: connections
that come up, what its handlers do, and the logout that ends the connection.  The
sessions of a client are those its own events lead to.
-/

namespace AnychatSdk

/-! ## Sessions -/

/-- The event is neither one of the connection nor the end of the process. -/
def Event.WithinSession : Event → Prop
  | queue (.connected _) | queue .disconnected | queue (.transient _) | restart => False
  | _ => True

/-- What happens to the stores while an account is in use.  `ready` is the call
of `onReady` for a new connection, `logout` the part of `logout` that concerns
the queue, and `restart` opens the same database file in another process. -/
inductive SessionEvent where
  | ready (sendFn : Nat)
  | store (event : { event : Event // event.WithinSession })
  | getHistory (convId : String) (beforeTimestamp : Int64)
  | logout
  | restart

namespace SessionEvent

def apply (client : Client) : SessionEvent → Client
  | ready sendFn => (client.onConnected sendFn).querySync
  | store event => event.val.apply client
  | getHistory _ _ => client
  | logout => client.onDisconnected
  | restart => client.restart

/-- The account logs out, and no connection comes up after that. -/
def LogsOut (events : List SessionEvent) : Prop :=
  ∃ before after, events = before ++ logout :: after ∧ ∀ sendFn, ready sendFn ∉ after

end SessionEvent

open SessionEvent (LogsOut)

/-! ## What the handlers of a session keep -/

/-- A property that the operations on the stores and the frames without a message
keep is kept by every event that enqueues nothing. -/
theorem Event.apply_invariant (Invariant : Client → Prop)
    (stores : ∀ before after, Invariant before → Client.SameBesidesStores before after →
      Invariant after)
    (transient : ∀ client frame, Invariant client → Frame.CarriesNone frame →
      Invariant (client.sendTransient frame).2)
    {event : Event} (leaves : event.LeavesQueue) {client : Client} (holds : Invariant client) :
    Invariant (event.apply client) := by
  have preserved : ∀ (client : Client) (action : Action), Invariant client → action.Handled →
      Invariant (action.apply client) := by
    rintro client action holds ⟨_, apart | ⟨frame, carriesNone, rfl⟩⟩
    · exact stores client _ holds (Action.tandem (.refl client) apart).same
    · exact transient client frame holds carriesNone
  have handled : EventRun.Guarded Action.apply (fun _ action => action.Handled) client
      event.actions :=
    EventRun.Guarded.of_forall fun _ => Event.handled_actions leaves
  rw [Event.apply_eq_exec_actions]
  exact EventRun.exec_invariant_of_guarded preserved holds handled

/-- The events of a session that do not leave the queue alone. -/
theorem Event.WithinSession.cases {event : Event} (within : event.WithinSession) :
    event.LeavesQueue ∨
      (∃ convId content callback, event = .sendTextMessage convId content callback) ∨
      (∃ convId convType contentType content localId callback,
        event = .queue (.enqueue convId convType contentType content localId callback)) ∨
      (∃ localId, event = .queue (.messageSentAck localId)) ∨ event = .queue .work := by
  cases event with
  | sendTextMessage convId content callback => exact .inr (.inl ⟨_, _, _, rfl⟩)
  | queue event =>
      cases event with
      | enqueue => exact .inr (.inr (.inl ⟨_, _, _, _, _, _, rfl⟩))
      | messageSentAck localId => exact .inr (.inr (.inr (.inl ⟨localId, rfl⟩)))
      | work => exact .inr (.inr (.inr (.inr rfl)))
      | connected | disconnected | transient => exact within.elim
  | restart => exact within.elim
  | _ => exact .inl trivial

namespace SessionEvent

/-- No event changes the surroundings. -/
theorem platform_apply (client : Client) (event : SessionEvent) :
    (event.apply client).platform = client.platform := by
  cases event with
  | ready sendFn => exact (Client.SameClock.resendRows _ _).1
  | store event =>
      rcases event with ⟨event, within⟩
      rcases within.cases with leaves | ⟨convId, content, callback, rfl⟩ |
        ⟨convId, convType, contentType, content, localId, callback, rfl⟩ | ⟨localId, rfl⟩ | rfl
      · have transient : ∀ (later : Client) (frame : Frame), later.platform = client.platform →
            frame.CarriesNone → (later.sendTransient frame).2.platform = client.platform := by
          intro later frame holds _
          rw [Client.sendTransient]
          split <;> exact holds
        exact Event.apply_invariant (fun later => later.platform = client.platform)
          (fun _ _ holds same => same.platform.trans holds) transient leaves rfl
      · exact (Client.SameClock.enqueue _ _ _ _ _ _ client.generateLocalId.2).1
      · exact (Client.SameClock.enqueue _ _ _ _ _ _ client).1
      · exact (Client.SameClock.onMessageSentAck localId client).1
      · rfl
  | getHistory | logout | restart => rfl

theorem platform_exec (client : Client) (events : List SessionEvent) :
    (EventRun.exec apply client events).platform = client.platform :=
  EventRun.exec_invariant (fun later event holds => (platform_apply later event).trans holds) rfl
    events

/-- Without `ready` the queue stays without a send function. -/
theorem sendFn_apply {client : Client} (disconnected : client.outbound.sendFn = none)
    {event : SessionEvent} (notReady : ∀ sendFn, event ≠ ready sendFn) :
    (event.apply client).outbound.sendFn = none := by
  cases event with
  | ready sendFn => exact absurd rfl (notReady sendFn)
  | store event =>
      rcases event with ⟨event, within⟩
      rcases within.cases with leaves | ⟨convId, content, callback, rfl⟩ |
        ⟨convId, convType, contentType, content, localId, callback, rfl⟩ | ⟨localId, rfl⟩ | rfl
      · have transient : ∀ (later : Client) (frame : Frame), later.outbound.sendFn = none →
            frame.CarriesNone → (later.sendTransient frame).2.outbound.sendFn = none := by
          intro later frame holds _
          rw [Client.sendTransient, holds]
          exact holds
        exact Event.apply_invariant (fun later => later.outbound.sendFn = none)
          (fun _ _ holds same => (congrArg Outbound.sendFn same.outbound).trans holds) transient
          leaves disconnected
      · exact (Client.sendFn_enqueue _ _ _ _ _ _ client.generateLocalId.2).trans disconnected
      · exact (Client.sendFn_enqueue _ _ _ _ _ _ client).trans disconnected
      · exact (client.sendFn_onMessageSentAck localId).trans disconnected
      · exact disconnected
  | getHistory => exact disconnected
  | logout | restart => rfl

/-- A logout leaves the queue without a send function. -/
theorem LogsOut.sendFn {events : List SessionEvent} (logsOut : LogsOut events) (client : Client) :
    (EventRun.exec apply client events).outbound.sendFn = none := by
  rcases logsOut with ⟨before, after, rfl, noReady⟩
  rw [EventRun.exec_append, EventRun.exec_cons]
  have preserved : ∀ (client : Client) (event : SessionEvent), client.outbound.sendFn = none →
      (∀ sendFn, event ≠ ready sendFn) → (event.apply client).outbound.sendFn = none :=
    fun _ _ disconnected notReady => sendFn_apply disconnected notReady
  refine EventRun.exec_invariant_of_guarded preserved rfl (.of_forall fun event member sendFn => ?_)
  rintro rfl
  exact noReady sendFn member

end SessionEvent

/-! ## The client on its connection -/

/-- What happens to a client in use: an event of its own, or one of the stores. -/
inductive ClientEvent where
  | account (event : AnyChatEvent)
  | store (event : { event : Event // event.WithinSession })
  | getHistory (convId : String) (beforeTimestamp : Int64)

/-- No login succeeds with the event. -/
def ClientEvent.LogsNobodyIn (client : AnyChatClient) : ClientEvent → Prop
  | account (.authResponse index response _) =>
      ∀ token, client.installed index response ≠ some (.login, token)
  | _ => True

namespace AnyChatClient

def use (client : AnyChatClient) : ClientEvent → AnyChatClient
  | .account event => client.step event
  | .store event =>
      if client.terminated then client else { client with store := event.val.apply client.store }
  | .getHistory _ _ => client

/-- What the stores notice of an event of the socket. -/
def socketEvents (client : AnyChatClient) (event : ConnectionEvent) : List SessionEvent :=
  match client.connMgr with
  | none => []
  | some manager =>
      if manager.readyCalls < (event.apply manager).readyCalls then [.ready client.readyCalls]
      else []

/-- What the stores notice of an event. -/
def sessionEvents (client : AnyChatClient) (event : ClientEvent) : List SessionEvent :=
  if client.terminated then []
  else
    match event with
    | .account (.call .logout) => if client.connMgr.isSome then [.logout] else []
    | .account (.socket .connect) | .account (.socket .disconnect) => []
    | .account (.socket event) => client.socketEvents event
    | .account _ => []
    | .store event => [.store event]
    | .getHistory convId beforeTimestamp => [.getHistory convId beforeTimestamp]

variable {client : AnyChatClient}

theorem store_onSocket (client : AnyChatClient) (event : ConnectionEvent) :
    (client.onSocket event).store =
      EventRun.exec SessionEvent.apply client.store (client.socketEvents event) := by
  rw [onSocket, socketEvents]
  cases client.connMgr with
  | none => rfl
  | some manager =>
      dsimp only
      split <;> rfl

/-- A response reaches no store. -/
theorem store_authResponse (index : Nat) (response : HttpResponse AuthTokenPayload)
    (reachable : Bool) : (client.authResponse index response reachable).store = client.store := by
  cases installs : client.installed index response with
  | none =>
      rcases authResponse_of_not_installed reachable installs with ⟨authMgr, _, result⟩
      rw [result]
  | some given =>
      rcases authResponse_of_installed reachable installs with ⟨_, authMgr, _, result⟩
      rw [result]
      split <;> rfl

/-- The stores of a client see a session event for what concerns them, and nothing
else. -/
theorem store_use (client : AnyChatClient) (event : ClientEvent) :
    (client.use event).store =
      EventRun.exec SessionEvent.apply client.store (client.sessionEvents event) := by
  by_cases ended : client.terminated = true
  · have same : (client.use event).store = client.store := by
      cases event with
      | account event =>
          rw [use]
          unfold step
          rw [if_pos ended]
      | store event => rw [use, if_pos ended]
      | getHistory => rfl
    unfold sessionEvents
    rw [same, if_pos ended]
    rfl
  · unfold sessionEvents
    rw [if_neg ended]
    cases event with
    | store event =>
        rw [use, if_neg ended]
        rfl
    | getHistory => rfl
    | account event =>
        rw [use]
        unfold step
        rw [if_neg ended]
        cases event with
        | call request =>
            cases request with
            | logout =>
                cases current : client.connMgr with
                | none =>
                    rw [logout_of_none current]
                    rfl
                | some manager =>
                    rw [logout_of_some current]
                    rfl
            | login | auth => rfl
        | ensureValidToken now =>
            dsimp only
            split <;> rfl
        | authResponse index response reachable => exact store_authResponse index response reachable
        | logoutResponse index response =>
            dsimp only
            rw [logoutResponse]
            split
            · rfl
            · split <;> rfl
        | otherResponse index =>
            dsimp only
            rw [otherResponse]
            split
            · rfl
            · split <;> rfl
        | authNotification => rfl
        | socket event =>
            cases event with
            | connect | disconnect => rfl
            | _ => exact client.store_onSocket _

/-- The stores at the end of a run are those of a run of session events. -/
theorem store_exec (client : AnyChatClient) (events : List ClientEvent) :
    (EventRun.exec use client events).store =
      EventRun.exec SessionEvent.apply client.store
        (EventRun.outputs use sessionEvents client events) :=
  EventRun.exec_outputs store_use client events

namespace SessionEnded

theorem of_connMgr (ended : client.SessionEnded) {next : AnyChatClient}
    (same : next.connMgr = client.connMgr) : next.SessionEnded := by
  refine ⟨(wantConnected_congr same).trans ended.1, ?_⟩
  rw [same]
  exact ended.2

theorem logout {manager : ConnectionManager} (current : client.connMgr = some manager) :
    client.logout.SessionEnded := by
  rw [logout_of_some current]
  refine ⟨rfl, fun later same => ?_⟩
  obtain rfl := Option.some.inj same
  exact ⟨rfl, rfl, rfl, rfl⟩

/-- A manager that rests makes no connection. -/
theorem socketEvents (ended : client.SessionEnded) (event : ConnectionEvent) :
    client.socketEvents event = [] := by
  rw [AnyChatClient.socketEvents]
  cases current : client.connMgr with
  | none => rfl
  | some manager =>
      refine if_neg ?_
      rw [ConnectionEvent.readyCalls_apply]
      intro connected
      cases event with
      | established handle =>
          have attempted := connected.2
          rw [(ended.2 manager current).attempting] at attempted
          exact absurd attempted List.not_mem_nil
      | _ => exact connected

theorem onSocket (ended : client.SessionEnded) {event : ConnectionEvent}
    (connects : event ≠ .connect) (disconnects : event ≠ .disconnect) :
    (client.onSocket event).SessionEnded := by
  rw [AnyChatClient.onSocket]
  cases current : client.connMgr with
  | none => exact ended
  | some manager =>
      have unwanted : manager.wantConnected = false := by
        have wanted := ended.1
        rw [wantConnected, current] at wanted
        exact wanted
      have next : ({ client with connMgr := some (event.apply manager) } :
          AnyChatClient).SessionEnded := by
        refine ⟨(manager.wantConnected_apply connects disconnects).trans unwanted, ?_⟩
        intro later same
        obtain rfl := Option.some.inj same
        exact (ended.2 manager current).apply unwanted connects disconnects
      dsimp only
      split
      · exact next.of_connMgr rfl
      · exact next

/-- The session stays ended until a login succeeds. -/
theorem use (ended : client.SessionEnded) {event : ClientEvent}
    (nobody : event.LogsNobodyIn client) : (client.use event).SessionEnded := by
  cases event with
  | getHistory => exact ended
  | store event =>
      rw [AnyChatClient.use]
      split
      · exact ended
      · exact ended.of_connMgr rfl
  | account event =>
      rw [AnyChatClient.use]
      unfold step
      split
      · exact ended
      cases event with
      | call request =>
          cases request with
          | logout =>
              cases current : client.connMgr with
              | none =>
                  dsimp only
                  rw [logout_of_none current]
                  exact ended.of_connMgr rfl
              | some manager => exact logout current
          | login | auth => exact ended.of_connMgr rfl
      | ensureValidToken now =>
          dsimp only
          split
          · exact ended.of_connMgr rfl
          · exact ended
      | authResponse index response reachable =>
          dsimp only
          cases installs : client.installed index response with
          | none =>
              rcases authResponse_of_not_installed reachable installs with ⟨authMgr, _, result⟩
              rw [result]
              exact ended.of_connMgr rfl
          | some given =>
              rcases given with ⟨request, token⟩
              rcases authResponse_of_installed reachable installs with ⟨_, authMgr, _, result⟩
              have other : request ≠ .login := by
                rintro rfl
                exact nobody token installs
              rw [result, if_neg other]
              exact ended.of_connMgr rfl
      | logoutResponse index response =>
          dsimp only
          rw [logoutResponse]
          split
          · exact ended
          · split
            · exact ended.of_connMgr rfl
            · exact ended
      | otherResponse index =>
          dsimp only
          rw [otherResponse]
          split
          · exact ended
          · split
            · exact ended.of_connMgr rfl
            · exact ended
      | authNotification => exact ended.of_connMgr rfl
      | socket event =>
          cases event with
          | connect | disconnect => exact ended
          | _ => exact ended.onSocket ConnectionEvent.noConfusion ConnectionEvent.noConfusion

theorem not_ready (ended : client.SessionEnded) (event : ClientEvent) (sendFn : Nat) :
    .ready sendFn ∉ client.sessionEvents event := by
  unfold sessionEvents
  split
  · exact List.not_mem_nil
  · split
    · split
      · exact fun member => SessionEvent.noConfusion (List.mem_singleton.mp member)
      · exact List.not_mem_nil
    · exact List.not_mem_nil
    · exact List.not_mem_nil
    · next event _ _ =>
        rw [ended.socketEvents event]
        exact List.not_mem_nil
    · exact List.not_mem_nil
    · exact fun member => SessionEvent.noConfusion (List.mem_singleton.mp member)
    · exact fun member => SessionEvent.noConfusion (List.mem_singleton.mp member)

end SessionEnded

/-- A run with a logout after which nobody logs in is, for the stores, a session
that logs out. -/
theorem logsOut_sessionEvents {before after : List ClientEvent}
    (alive : (EventRun.exec use client before).terminated = false)
    {manager : ConnectionManager}
    (current : (EventRun.exec use client before).connMgr = some manager)
    (nobody : EventRun.Guarded use (fun client event => event.LogsNobodyIn client)
      (EventRun.exec use client before).logout after) :
    LogsOut (EventRun.outputs use sessionEvents client
      (before ++ .account (.call .logout) :: after)) := by
  have running : ¬(EventRun.exec use client before).terminated = true := Bool.eq_false_iff.mp alive
  have loggedOut : (EventRun.exec use client before).use (.account (.call .logout)) =
      (EventRun.exec use client before).logout := by
    rw [use]
    unfold step
    rw [if_neg running]
  have noticed : (EventRun.exec use client before).sessionEvents (.account (.call .logout)) =
      [.logout] := by
    unfold sessionEvents
    rw [if_neg running, current]
    rfl
  refine ⟨EventRun.outputs use sessionEvents client before,
    EventRun.outputs use sessionEvents (EventRun.exec use client before).logout after, ?_, ?_⟩
  · rw [EventRun.outputs_append, EventRun.outputs_cons, loggedOut, noticed]
    rfl
  · have kept : ∀ (client : AnyChatClient) (event : ClientEvent), client.SessionEnded →
        event.LogsNobodyIn client → (client.use event).SessionEnded :=
      fun _ _ ended nobody => ended.use nobody
    have silent : ∀ (client : AnyChatClient) (event : ClientEvent), client.SessionEnded →
        event.LogsNobodyIn client →
          ∀ noticed ∈ client.sessionEvents event, ∀ sendFn, noticed ≠ .ready sendFn := by
      rintro client event ended _ noticed member sendFn rfl
      exact ended.not_ready event sendFn member
    have quiet := EventRun.guarded_of_guarded kept silent (.logout current) nobody
    intro sendFn member
    exact EventRun.guarded_iff_forall_outputs.mp quiet _ member sendFn rfl

end AnyChatClient

end AnychatSdk
