import AnychatSdk.ClientImpl

/-!
# Session and connection

The token belongs to the auth manager and the wish for a connection to the
connection manager.  `logout` ends the wish before its request goes out; a forced
logout, a refresh and a late response reach the auth manager alone.
-/

namespace AnychatSdk

namespace ConnectionManager

/-- A manager that wants no connection has none and makes none. -/
structure Resting (manager : ConnectionManager) : Prop where
  state : manager.state = .disconnected
  running : manager.ws.running = false
  attempting : manager.ws.attempting = []
  established : manager.ws.established = []

/-- What holds between two handlers of the manager. -/
def RestsUnwanted (manager : ConnectionManager) : Prop :=
  manager.wantConnected = false → manager.Resting

theorem wantConnected_onNetworkChanged (status : NetworkStatus) (manager : ConnectionManager) :
    (manager.onNetworkChanged status).wantConnected = manager.wantConnected := by
  simp only [onNetworkChanged]
  split
  · rfl
  · split <;> split <;> rfl

theorem wantConnected_endReconnectWait (manager : ConnectionManager) :
    manager.endReconnectWait.wantConnected = manager.wantConnected := by
  simp only [endReconnectWait]
  split
  · rfl
  · split
    · rfl
    · split <;> rfl

theorem restsUnwanted_freshManager (reachable : Bool) :
    (AnyChatClient.freshManager reachable).RestsUnwanted := by
  intro unwanted
  exact Bool.noConfusion
    ((AnyChatClient.wantConnected_freshManager reachable).symm.trans unwanted)

/-- Handlers other than `connect` and `disconnect` keep the wish. -/
theorem wantConnected_apply (manager : ConnectionManager) {event : ConnectionEvent}
    (connects : event ≠ .connect) (disconnects : event ≠ .disconnect) :
    (event.apply manager).wantConnected = manager.wantConnected := by
  unfold ConnectionEvent.apply
  split
  · rfl
  cases event with
  | connect => exact absurd rfl connects
  | disconnect => exact absurd rfl disconnects
  | networkChanged status => exact manager.wantConnected_onNetworkChanged status
  | established handle =>
      dsimp only
      split <;> rfl
  | connectionError handle =>
      dsimp only
      split
      · rw [onWsError_onWsDisconnected, wantConnected_onWsDisconnected]
      · rfl
  | closed handle =>
      dsimp only
      split
      · rw [wantConnected_onWsDisconnected]
      · rfl
  | backOff => rfl
  | timerTaken =>
      dsimp only [takeReconnect]
      split <;> rfl
  | timerExpired => exact manager.wantConnected_endReconnectWait
  | heartbeatExpired =>
      dsimp only [expireHeartbeat]
      split <;> rfl

/-- No event of the socket, the network or the timer wakes a manager that rests
and wants no connection. -/
theorem Resting.apply {manager : ConnectionManager} (resting : manager.Resting)
    (unwanted : manager.wantConnected = false) {event : ConnectionEvent}
    (connects : event ≠ .connect) (disconnects : event ≠ .disconnect) :
    (event.apply manager).Resting := by
  have unpursued {other : Prop} : ¬(manager.wantConnected = true ∧ other) :=
    fun pursued => Bool.noConfusion (unwanted.symm.trans pursued.1)
  have same {later : ConnectionManager} (state : later.state = manager.state)
      (ws : later.ws = manager.ws) : later.Resting :=
    ⟨state.trans resting.state, ws ▸ resting.running, ws ▸ resting.attempting,
      ws ▸ resting.established⟩
  unfold ConnectionEvent.apply
  split
  · exact resting
  cases event with
  | connect => exact absurd rfl connects
  | disconnect => exact absurd rfl disconnects
  | networkChanged status =>
      dsimp only [onNetworkChanged]
      split
      · exact same rfl rfl
      · split
        · split
          · next pursued => exact absurd pursued unpursued
          · exact same rfl rfl
        · split
          · next busy => exact absurd resting.state busy
          · exact same rfl rfl
  | established handle =>
      dsimp only
      rw [resting.attempting, if_neg List.not_mem_nil]
      exact resting
  | connectionError handle =>
      dsimp only
      rw [resting.attempting, if_neg List.not_mem_nil]
      exact resting
  | closed handle =>
      dsimp only
      rw [resting.established, if_neg List.not_mem_nil]
      exact resting
  | backOff =>
      refine same rfl ?_
      simp [WebSocketClient.backOff, resting.running]
  | timerTaken =>
      dsimp only [takeReconnect]
      split <;> exact same rfl rfl
  | timerExpired =>
      dsimp only [endReconnectWait]
      split
      · exact resting
      · split
        · exact same rfl rfl
        · split
          · next pursued => exact absurd pursued unpursued
          · exact same rfl rfl
  | heartbeatExpired =>
      dsimp only [expireHeartbeat]
      split <;> exact same rfl rfl

theorem RestsUnwanted.apply {manager : ConnectionManager} (rests : manager.RestsUnwanted)
    {event : ConnectionEvent} (connects : event ≠ .connect) (disconnects : event ≠ .disconnect) :
    (event.apply manager).RestsUnwanted := by
  intro unwanted
  rw [manager.wantConnected_apply connects disconnects] at unwanted
  exact (rests unwanted).apply unwanted connects disconnects

end ConnectionManager

/-! ## What a step does to the session -/

/-- A response to some logout is still to come. -/
def LogoutPending (requests : List PendingRequest) : Prop :=
  ∃ pending ∈ requests, pending.request.toAuthRequest = .logout

/-- The wish and the token agree, up to a logout under way. -/
structure SessionAgreement (accessToken : String) (wanted : Bool)
    (requests : List PendingRequest) : Prop where
  token : wanted = true → accessToken ≠ ""
  leaving : wanted = false → accessToken ≠ "" → LogoutPending requests

/-- The wish as the call of a logout leaves it. -/
def PendingRequest.wantedAfter (pending : PendingRequest) : Bool :=
  if pending.request = .logout then false else pending.wantedBefore

/-- The response refuses the logout. -/
def LogoutFails (response : HttpResponse Unit) : Prop :=
  ∃ failure, parseApiEnvelopeResponse response "logout failed" false false = .error failure

namespace AnyChatClient

/-- No request that touches the session is in flight. -/
def Quiet (client : AnyChatClient) : Prop :=
  ∀ pending ∈ client.inFlight, pending.request = .auth .other

instance decidableQuiet (client : AnyChatClient) : Decidable client.Quiet :=
  inferInstanceAs (Decidable (∀ _ ∈ _, _))

/-- Once a login has succeeded, and while nothing is under way, a connection is
wanted exactly when there is a token. -/
def SessionAgrees (client : AnyChatClient) : Prop :=
  client.Quiet → client.connMgr.isSome = true →
    (client.wantConnected = true ↔ client.accessToken ≠ "")

/-- No connection is wanted, and none is left. -/
def SessionEnded (client : AnyChatClient) : Prop :=
  client.wantConnected = false ∧ ∀ manager ∈ client.connMgr, manager.Resting

/-- After a forced logout of this device the WebSocket session has ended. -/
def ForcedLogoutEnds (client : AnyChatClient) (event : AnyChatEvent) : Prop :=
  client.terminated = false →
    ∀ notificationType payload, event = .authNotification notificationType payload →
      client.authMgr.isForceLogout notificationType payload = true →
        (client.step event).SessionEnded

/-- A logout that fails leaves token and wish as they were before its call, unless
they are no longer as the call left them. -/
def FailedLogoutKeeps (client : AnyChatClient) (event : AnyChatEvent) : Prop :=
  client.terminated = false →
    ∀ index response pending, event = .logoutResponse index response → LogoutFails response →
      client.inFlight[index]? = some pending → pending.request.toAuthRequest = .logout →
        client.accessToken = pending.tokenBefore → client.wantConnected = pending.wantedAfter →
          (client.step event).accessToken = pending.tokenBefore ∧
            (client.step event).wantConnected = pending.wantedBefore

/-- The conditions on a step: a token other than a login's comes while a
connection is wanted or a logout is under way; the token is cleared while none is
wanted; and when a logout fails a connection is wanted again, the token has gone,
or another logout is under way and this one had nothing to take back. -/
def SessionSafe (client : AnyChatClient) (event : AnyChatEvent) : Prop :=
  client.terminated = false →
    match event with
    | .authResponse index response _ =>
        ∀ request token, client.installed index response = some (request, token) →
          request ≠ .login → client.connMgr.isSome = true →
            client.wantConnected = true ∨ LogoutPending client.inFlight
    | .logoutResponse index response =>
        ∀ pending, client.inFlight[index]? = some pending →
          pending.request.toAuthRequest = .logout →
            (¬LogoutFails response → client.wantConnected = false) ∧
              (LogoutFails response → client.connMgr.isSome = true →
                client.wantConnected = true ∨ client.accessToken = "" ∨
                  (pending.wantedBefore = false ∨ client.accessToken ≠ pending.tokenBefore) ∧
                    LogoutPending (client.inFlight.eraseIdx index))
    | .authNotification notificationType payload =>
        client.authMgr.isForceLogout notificationType payload = true →
          client.wantConnected = false
    | _ => True

/-! ## One step -/

/-- What every safe step keeps. -/
structure SessionInvariant (client : AnyChatClient) : Prop where
  agreement : client.connMgr.isSome = true →
    SessionAgreement client.accessToken client.wantConnected client.inFlight
  before : ∀ pending ∈ client.inFlight, pending.wantedBefore = true →
    pending.tokenBefore ≠ "" ∧ client.connMgr.isSome = true
  rests : ∀ manager ∈ client.connMgr, manager.RestsUnwanted

variable {client next : AnyChatClient}

theorem wantConnected_congr (same : next.connMgr = client.connMgr) :
    next.wantConnected = client.wantConnected := by
  rw [wantConnected, same]
  rfl

namespace SessionInvariant

/-- A wish needs a connection manager, and so a token. -/
theorem token_of_wanted (invariant : client.SessionInvariant)
    (wanted : client.wantConnected = true) :
    client.accessToken ≠ "" ∧ client.connMgr.isSome = true := by
  have connected : client.connMgr.isSome = true := by
    rw [wantConnected] at wanted
    cases current : client.connMgr with
    | none => exact nomatch current ▸ wanted
    | some manager => rfl
  exact ⟨(invariant.agreement connected).token wanted, connected⟩

theorem sessionAgrees (invariant : client.SessionInvariant) : client.SessionAgrees := by
  intro quiet connected
  refine ⟨(invariant.agreement connected).token, fun given => ?_⟩
  cases wanted : client.wantConnected with
  | true => rfl
  | false =>
      rcases (invariant.agreement connected).leaving wanted given with ⟨pending, member, logout⟩
      rw [quiet pending member] at logout
      exact nomatch logout

/-- Requests end, and a logout under way does not end with the wish gone and the
token there. -/
theorem keep (invariant : client.SessionInvariant) (connMgr : next.connMgr = client.connMgr)
    (token : next.accessToken = client.accessToken)
    (subset : ∀ pending ∈ next.inFlight, pending ∈ client.inFlight)
    (leaving : client.connMgr.isSome = true → client.wantConnected = false →
      client.accessToken ≠ "" → LogoutPending client.inFlight → LogoutPending next.inFlight) :
    next.SessionInvariant where
  agreement connected := by
    rw [connMgr] at connected
    have agreement := invariant.agreement connected
    rw [token, wantConnected_congr connMgr]
    exact ⟨agreement.token, fun unwanted given =>
      leaving connected unwanted given (agreement.leaving unwanted given)⟩
  before pending member := by
    rw [connMgr]
    exact invariant.before pending (subset pending member)
  rests := by
    rw [connMgr]
    exact invariant.rests

/-- The token is cleared while no connection is wanted. -/
theorem clear (invariant : client.SessionInvariant) (connMgr : next.connMgr = client.connMgr)
    (token : next.accessToken = "") (unwanted : client.wantConnected = false)
    (subset : ∀ pending ∈ next.inFlight, pending ∈ client.inFlight) :
    next.SessionInvariant where
  agreement _ := by
    rw [token, wantConnected_congr connMgr, unwanted]
    exact ⟨Bool.noConfusion, fun _ given => absurd rfl given⟩
  before pending member := by
    rw [connMgr]
    exact invariant.before pending (subset pending member)
  rests := by
    rw [connMgr]
    exact invariant.rests

theorem before_issue (invariant : client.SessionInvariant) (request : ClientRequest)
    (requests : next.inFlight = client.inFlight) :
    ∀ pending ∈ (next.issue request client).inFlight, pending.wantedBefore = true →
      pending.tokenBefore ≠ "" ∧ client.connMgr.isSome = true := by
  intro pending member wanted
  rw [issue, requests] at member
  rcases List.mem_append.mp member with earlier | added
  · exact invariant.before pending earlier wanted
  · obtain rfl := List.mem_singleton.mp added
    exact invariant.token_of_wanted wanted

theorem issue (invariant : client.SessionInvariant) (request : ClientRequest) :
    (client.issue request client).SessionInvariant where
  agreement connected := by
    have agreement := invariant.agreement connected
    refine ⟨agreement.token, fun unwanted given => ?_⟩
    rcases agreement.leaving unwanted given with ⟨pending, member, logout⟩
    exact ⟨pending, List.mem_append_left _ member, logout⟩
  before := invariant.before_issue request rfl
  rests := invariant.rests

theorem logout (invariant : client.SessionInvariant) : client.logout.SessionInvariant := by
  cases current : client.connMgr with
  | none =>
      rw [logout_of_none current]
      exact invariant.issue .logout
  | some manager =>
      rw [logout_of_some current]
      constructor
      · exact fun _ => ⟨Bool.noConfusion, fun _ _ =>
          ⟨_, List.mem_append_right _ (List.mem_singleton_self _), rfl⟩⟩
      · intro pending member wanted
        have before := invariant.before_issue .logout rfl pending member wanted
        exact ⟨before.1, rfl⟩
      · intro other same _
        obtain rfl := Option.some.inj same
        exact ⟨rfl, rfl, rfl, rfl⟩

end SessionInvariant

/-! ### Responses -/

/-- Another request than the answered one stays in flight. -/
theorem logoutPending_eraseIdx {requests : List PendingRequest} {index : Nat}
    {answered : PendingRequest} (found : requests[index]? = some answered)
    (other : answered.request.toAuthRequest ≠ .logout) (pending : LogoutPending requests) :
    LogoutPending (requests.eraseIdx index) := by
  rcases pending with ⟨request, member, logout⟩
  rcases List.mem_iff_getElem?.mp member with ⟨place, here⟩
  refine ⟨request, List.mem_eraseIdx_iff_getElem?.mpr ⟨place, ?_, here⟩, logout⟩
  rintro rfl
  obtain rfl := Option.some.inj (found.symm.trans here)
  exact other logout

theorem logoutPending_unanswered (index : Nat) (pending : LogoutPending client.inFlight) :
    LogoutPending (client.unanswered index) := by
  rw [unanswered]
  cases found : client.inFlight[index]? with
  | none => exact pending
  | some answered =>
      dsimp only
      split
      · next brings =>
          refine logoutPending_eraseIdx found (fun logout => ?_) pending
          rw [ClientRequest.BringsToken, logout] at brings
          exact brings
      · exact pending

theorem mem_of_mem_unanswered {index : Nat} {pending : PendingRequest}
    (member : pending ∈ client.unanswered index) : pending ∈ client.inFlight := by
  rw [unanswered] at member
  split at member
  · exact member
  · split at member
    · exact List.mem_of_mem_eraseIdx member
    · exact member

namespace SessionInvariant

theorem authResponse (invariant : client.SessionInvariant) {index : Nat}
    {response : HttpResponse AuthTokenPayload} (reachable : Bool)
    (safe : ∀ request token, client.installed index response = some (request, token) →
      request ≠ .login → client.connMgr.isSome = true →
        client.wantConnected = true ∨ LogoutPending client.inFlight) :
    (client.authResponse index response reachable).SessionInvariant := by
  cases installs : client.installed index response with
  | none =>
      rcases authResponse_of_not_installed reachable installs with ⟨authMgr, stored, result⟩
      rw [result]
      exact invariant.keep rfl (congrArg AuthToken.accessToken stored)
        (fun _ => mem_of_mem_unanswered) fun _ _ _ => logoutPending_unanswered index
  | some given =>
      rcases given with ⟨request, token⟩
      rcases authResponse_of_installed reachable installs with ⟨given, authMgr, stored, result⟩
      rw [result]
      by_cases login : request = .login
      · rw [if_pos login]
        have wanted := wantConnected_freshManager reachable
        constructor
        · refine fun _ => ⟨fun _ => ?_, fun unwanted => ?_⟩
          · exact stored.symm ▸ given
          · exact Bool.noConfusion (wanted.symm.trans unwanted)
        · intro pending member wantedBefore
          exact ⟨(invariant.before pending (mem_of_mem_unanswered member) wantedBefore).1, rfl⟩
        · intro manager same
          obtain rfl := Option.some.inj same
          exact ConnectionManager.restsUnwanted_freshManager reachable
      · rw [if_neg login]
        constructor
        · intro connected
          refine ⟨fun _ => (congrArg (· ≠ "") stored).mpr given, fun unwanted _ => ?_⟩
          rcases safe request token installs login connected with wanted | pending
          · exact Bool.noConfusion (Eq.trans wanted.symm unwanted)
          · exact logoutPending_unanswered index pending
        · exact fun pending member => invariant.before pending (mem_of_mem_unanswered member)
        · exact invariant.rests

theorem logoutResponse (invariant : client.SessionInvariant) {index : Nat}
    {response : HttpResponse Unit} (alive : client.terminated = false)
    (safe : client.SessionSafe (.logoutResponse index response)) :
    (client.logoutResponse index response).SessionInvariant := by
  rw [AnyChatClient.logoutResponse]
  cases found : client.inFlight[index]? with
  | none => exact invariant
  | some pending =>
      dsimp only
      split
      · next logout =>
          rcases safe alive pending found logout with ⟨succeeds, fails⟩
          have subset : ∀ other ∈ client.inFlight.eraseIdx index, other ∈ client.inFlight :=
            fun _ => List.mem_of_mem_eraseIdx
          cases parsed : parseApiEnvelopeResponse response "logout failed" false false with
          | ok data =>
              have accepted : ¬LogoutFails response := by
                rintro ⟨failure, refused⟩
                exact nomatch parsed.symm.trans refused
              rw [AuthManager.logoutResponse, parsed]
              exact invariant.clear rfl rfl (succeeds accepted) subset
          | error failure =>
              rw [AuthManager.logoutResponse, parsed]
              refine invariant.keep rfl rfl subset fun connected unwanted given _ => ?_
              rcases fails ⟨failure, parsed⟩ connected with wanted | cleared | another
              · exact Bool.noConfusion (wanted.symm.trans unwanted)
              · exact absurd cleared given
              · exact another.2
      · exact invariant

theorem otherResponse (invariant : client.SessionInvariant) (index : Nat) :
    (client.otherResponse index).SessionInvariant := by
  rw [AnyChatClient.otherResponse]
  cases found : client.inFlight[index]? with
  | none => exact invariant
  | some pending =>
      dsimp only
      split
      · next other =>
          refine invariant.keep rfl rfl (fun _ => List.mem_of_mem_eraseIdx) fun _ _ _ => ?_
          refine logoutPending_eraseIdx found fun logout => ?_
          rw [other] at logout
          exact nomatch logout
      · exact invariant

theorem onSocket (invariant : client.SessionInvariant) {event : ConnectionEvent}
    (connects : event ≠ .connect) (disconnects : event ≠ .disconnect) :
    (client.onSocket event).SessionInvariant := by
  rw [AnyChatClient.onSocket]
  cases current : client.connMgr with
  | none => exact invariant
  | some manager =>
      have wanted : client.wantConnected = (event.apply manager).wantConnected := by
        rw [wantConnected, current, manager.wantConnected_apply connects disconnects]
        rfl
      have agreement := invariant.agreement (by rw [current]; rfl)
      rw [wanted] at agreement
      have rests : ∀ later ∈ some (event.apply manager), later.RestsUnwanted := by
        intro later same
        obtain rfl := Option.some.inj same
        exact (invariant.rests manager current).apply connects disconnects
      have before : ∀ pending ∈ client.inFlight, pending.wantedBefore = true →
          pending.tokenBefore ≠ "" ∧ (some (event.apply manager)).isSome = true :=
        fun pending member wantedBefore =>
          ⟨(invariant.before pending member wantedBefore).1, rfl⟩
      dsimp only
      split
      · exact ⟨fun _ => agreement, before, rests⟩
      · exact ⟨fun _ => agreement, before, rests⟩

theorem step (invariant : client.SessionInvariant) {event : AnyChatEvent}
    (safe : client.SessionSafe event) : (client.step event).SessionInvariant := by
  unfold AnyChatClient.step
  split
  · exact invariant
  next running =>
    have alive : client.terminated = false := Bool.eq_false_iff.mpr running
    cases event with
    | call request =>
        cases request with
        | logout => exact invariant.logout
        | login | auth request => exact invariant.issue _
    | ensureValidToken now =>
        dsimp only
        split
        · exact invariant.issue _
        · exact invariant
    | authResponse index response reachable => exact invariant.authResponse reachable (safe alive)
    | logoutResponse index response => exact invariant.logoutResponse alive safe
    | otherResponse index => exact invariant.otherResponse index
    | authNotification notificationType payload =>
        dsimp only [AuthManager.handleAuthNotification]
        split
        · next forced => exact invariant.clear rfl rfl (safe alive forced) fun _ member => member
        · exact invariant.keep rfl rfl (fun _ member => member) fun _ _ _ pending => pending
    | socket event =>
        cases event with
        | connect | disconnect => exact invariant
        | _ => exact invariant.onSocket (fun same => nomatch same) fun same => nomatch same

/-- A forced logout that comes when no connection is wanted finds none. -/
theorem forcedLogoutEnds (invariant : client.SessionInvariant) {event : AnyChatEvent}
    (safe : client.SessionSafe event) : client.ForcedLogoutEnds event := by
  rintro alive notificationType payload rfl forced
  have unwanted : client.wantConnected = false := safe alive forced
  have running : ¬client.terminated = true := Bool.eq_false_iff.mp alive
  unfold AnyChatClient.step
  rw [if_neg running]
  refine ⟨unwanted, fun manager current => invariant.rests manager current ?_⟩
  have same : client.connMgr = some manager := current
  rw [wantConnected, same] at unwanted
  exact unwanted

theorem failedLogoutKeeps (invariant : client.SessionInvariant) {event : AnyChatEvent}
    (safe : client.SessionSafe event) : client.FailedLogoutKeeps event := by
  rintro alive index response pending rfl ⟨failure, refused⟩ found logout token wanted
  have running : ¬client.terminated = true := Bool.eq_false_iff.mp alive
  have unchanged : client.step (.logoutResponse index response) =
      client.answered index client.authMgr := by
    unfold AnyChatClient.step
    rw [if_neg running]
    simp only [AnyChatClient.logoutResponse, found, if_pos logout, AuthManager.logoutResponse,
      refused]
  rw [unchanged]
  refine ⟨token, wanted.trans ?_⟩
  by_cases own : pending.request = .logout
  · have gone : pending.wantedAfter = false := if_pos own
    rw [gone] at wanted ⊢
    cases wantedBefore : pending.wantedBefore with
    | false => rfl
    | true =>
        have before := invariant.before pending (List.mem_of_getElem? found) wantedBefore
        rcases (safe alive pending found logout).2 ⟨failure, refused⟩ before.2 with
          still | cleared | another
        · exact still.symm.trans wanted |>.symm
        · exact absurd (token.symm.trans cleared) before.1
        · rcases another.1 with unwantedBefore | replaced
          · exact unwantedBefore.symm.trans wantedBefore
          · exact absurd token replaced
  · exact if_neg own

end SessionInvariant

/-! ## Runs -/

/-- In a run of safe steps session and connection agree whenever nothing is under
way, forced logouts end the session, and failed logouts leave it. -/
theorem sessionAgrees_of_guarded (gatewayUrl : String) (authMgr : AuthManager) (store : Client)
    (events : List AnyChatEvent)
    (safe : EventRun.Guarded step SessionSafe (start gatewayUrl authMgr store) events) :
    EventRun.Always step SessionAgrees (start gatewayUrl authMgr store) events ∧
      EventRun.Guarded step ForcedLogoutEnds (start gatewayUrl authMgr store) events ∧
        EventRun.Guarded step FailedLogoutKeeps (start gatewayUrl authMgr store) events := by
  have initially : (start gatewayUrl authMgr store).SessionInvariant := by
    constructor
    · exact fun connected => nomatch connected
    · exact fun _ member => nomatch member
    · exact fun _ current => nomatch current
  have kept : ∀ (client : AnyChatClient) (event : AnyChatEvent), client.SessionInvariant →
      client.SessionSafe event → (client.step event).SessionInvariant :=
    fun _ _ invariant safe => invariant.step safe
  have always := EventRun.always_of_guarded kept initially safe
  refine ⟨always.mono fun _ invariant => invariant.sessionAgrees, ?_, ?_⟩
  · exact EventRun.guarded_of_guarded kept
      (fun _ _ invariant safe => invariant.forcedLogoutEnds safe) initially safe
  · exact EventRun.guarded_of_guarded kept
      (fun _ _ invariant safe => invariant.failedLogoutKeeps safe) initially safe

/-- A login, a logout and the answers to both. -/
def loginAndLogout : List AnyChatEvent :=
  [.call .login,
    .authResponse 0 (tokenResponse "a1" "r1") true,
    .call .logout,
    .logoutResponse 0 { statusCode := 200, body := .parsed { code := 0, data := () } }]

theorem sessionAgrees_loginAndLogout :
    EventRun.Always step SessionAgrees blank loginAndLogout ∧
      EventRun.Guarded step ForcedLogoutEnds blank loginAndLogout ∧
        EventRun.Guarded step FailedLogoutKeeps blank loginAndLogout := by
  have safe : EventRun.Guarded step SessionSafe blank loginAndLogout := by
    refine ⟨fun _ => trivial, ?_, fun _ => trivial, ?_, trivial⟩
    · exact fun _ request token installs other connected => nomatch connected
    · exact fun _ pending found logout =>
        ⟨fun _ => rfl, fun fails => fails.elim fun failure refused => nomatch refused⟩
  exact sessionAgrees_of_guarded _ _ _ _ safe

/-- A forced logout after a login. -/
def loginAndForcedLogout : List AnyChatEvent :=
  [.call .login,
    .authResponse 0 (tokenResponse "a1" "r1") true,
    .authNotification "auth.force_logout" none]

/-- The token is gone and the connection is still wanted. -/
theorem not_sessionAgrees_loginAndForcedLogout :
    ¬(EventRun.Always step SessionAgrees blank loginAndForcedLogout ∧
      EventRun.Guarded step ForcedLogoutEnds blank loginAndForcedLogout ∧
      EventRun.Guarded step FailedLogoutKeeps blank loginAndForcedLogout) := by
  rintro ⟨always, _, _⟩
  have agrees := always.last (by decide) rfl
  exact absurd agrees (by decide)

end AnyChatClient

end AnychatSdk
