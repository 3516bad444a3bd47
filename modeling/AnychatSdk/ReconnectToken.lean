import AnychatSdk.RequestTargets

/-!
# The token of a reconnect

The URL of a socket is built once, when a login succeeds, and every retry uses
it again.  A refresh replaces the stored token and leaves the URL.  The token is
not encoded, so a separator in it ends the value, and a NUL ends the URL.
-/

namespace AnychatSdk

open PercentCode UrlTarget

/-- The token in the query of a URL whose parts go out by `c_str()`. -/
def tokenQuery (url : String) : Option (List UInt8) :=
  parameter? (bytesOf "token") ((bytesOf url).takeWhile (· ≠ 0))

/-- A token that a query carries as it is. -/
def PlainToken (token : String) : Prop :=
  0 ∉ bytesOf token ∧ ampersand ∉ bytesOf token ∧ hash ∉ bytesOf token ∧ percent ∉ bytesOf token

/-- What arrives of a token: a NUL, `&` or `#` ends it, and the rest is decoded. -/
def arrivingToken (sent : String) : Option (List UInt8) :=
  parameter? (bytesOf "token")
    (question :: (bytesOf "token" ++ equals :: (bytesOf sent).takeWhile (· ≠ 0)))

/-- A token that was sent arrives as the stored one: it is this one and plain, or
another of which by chance this one arrives. -/
def ArrivesAs (stored sent : String) : Prop :=
  (sent = stored ∧ PlainToken sent) ∨
    (sent ≠ stored ∧ arrivingToken sent = some (bytesOf stored))

/-- A token arrives as it was sent exactly if it is plain. -/
theorem arrivingToken_eq_iff (token : String) :
    arrivingToken token = some (bytesOf token) ↔ PlainToken token := by
  have noShorter : ((bytesOf token).takeWhile (· ≠ 0)).length ≤ (bytesOf token).length :=
    (List.takeWhile_prefix _).length_le
  have inPath : InPath [] := ⟨List.not_mem_nil, List.not_mem_nil⟩
  refine (parameter?_eq_some_iff inPath (by decide) (by decide) (by decide) (by decide)
    noShorter).trans (and_congr_left fun _ => ?_)
  rw [List.takeWhile_eq_self_iff]
  constructor
  · intro kept nul
    exact absurd (kept 0 nul) (by decide)
  · rintro absent byte member
    exact decide_eq_true fun same => absent (same ▸ member)

theorem arrivesAs_iff (stored sent : String) :
    ArrivesAs stored sent ↔ arrivingToken sent = some (bytesOf stored) := by
  by_cases same : sent = stored
  · subst same
    simp [ArrivesAs, arrivingToken_eq_iff]
  · simp [ArrivesAs, same]

/-- A gateway has no query, no fragment and no NUL. -/
structure ReadableGateway (gatewayUrl : String) : Prop where
  inPath : InPath (bytesOf gatewayUrl)
  noNul : 0 ∉ bytesOf gatewayUrl

/-- What the query of `buildWsUrl` carries. -/
theorem tokenQuery_buildWsUrl {gatewayUrl token : String} (readable : ReadableGateway gatewayUrl)
    (given : token ≠ "") :
    tokenQuery (buildWsUrl gatewayUrl token) = arrivingToken token := by
  rcases exists_wsUrl_eq ⟨bytesOf gatewayUrl, readable.inPath⟩ with
    ⟨front, inPath, noNul, url⟩
  have someBytes : bytesOf token ≠ [] := bytesOf_eq_nil_iff.not.mpr given
  have kept : ∀ byte ∈ front ++ question :: (bytesOf "token" ++ [equals]),
      decide (byte ≠ 0) = true := by
    have rest : 0 ∉ question :: (bytesOf "token" ++ [equals]) := by decide
    intro byte member
    refine decide_eq_true fun nul => ?_
    rcases List.mem_append.mp member with inFront | inRest
    · exact noNul readable.noNul (nul ▸ inFront)
    · exact rest (nul ▸ inRest)
  have apart : front ++ question :: (bytesOf "token" ++ equals :: bytesOf token) =
      (front ++ question :: (bytesOf "token" ++ [equals])) ++ bytesOf token := by
    simp
  have queries (rest : List UInt8) :
      parameter? (bytesOf "token") (front ++ question :: rest) =
        parameter? (bytesOf "token") (question :: rest) := by
    have inNothing : InPath [] := ⟨List.not_mem_nil, List.not_mem_nil⟩
    rw [parameter?, parameter?, parameters?, parameters?, query_append inPath]
  rw [tokenQuery, bytesOf_buildWsUrl, url, if_pos someBytes, apart,
    List.takeWhile_append_of_pos kept, arrivingToken, ← queries]
  simp

/-- The event makes the socket call `doConnect`. -/
def ConnectionEvent.Dials (manager : ConnectionManager) (event : ConnectionEvent) : Prop :=
  manager.ws.created < (event.apply manager).ws.created

instance decidableDials (manager : ConnectionManager) (event : ConnectionEvent) :
    Decidable (event.Dials manager) :=
  inferInstanceAs (Decidable (_ < _))

/-- The event starts a connection attempt: a login on the new socket, or a retry
on the current one. -/
def AnyChatEvent.Dials (client : AnyChatClient) (event : AnyChatEvent) : Prop :=
  client.terminated = false ∧
    match event with
    | authResponse index response reachable =>
        reachable = true ∧ ∃ token, client.installed index response = some (.login, token)
    | socket .connect | socket .disconnect => False
    | socket event => ∃ manager ∈ client.connMgr, event.Dials manager
    | _ => False

namespace AnyChatClient

/-- An attempt is made to a URL with the token stored at that moment. -/
def DialsWithToken (client : AnyChatClient) (event : AnyChatEvent) : Prop :=
  event.Dials client →
    tokenQuery (client.step event).wsUrl = some (bytesOf (client.step event).accessToken)

/-- A login brings a plain token, and on a retry the token of the last login arrives
as the stored one. -/
def AttemptsCurrent (client : AnyChatClient) (event : AnyChatEvent) : Prop :=
  event.Dials client →
    match event with
    | .authResponse index response _ =>
        ∀ token, client.installed index response = some (.login, token) → PlainToken token
    | _ => ArrivesAs client.accessToken client.loginToken

/-! ## One step -/

/-- A client that has a socket has it for the token of its last login. -/
structure LoginUrl (client : AnyChatClient) : Prop where
  readable : ReadableGateway client.gatewayUrl
  built : client.connMgr.isSome = true →
    client.wsUrl = buildWsUrl client.gatewayUrl client.loginToken ∧ client.loginToken ≠ ""

theorem LoginUrl.tokenQuery {client : AnyChatClient} (url : client.LoginUrl)
    (socket : client.connMgr.isSome = true) :
    tokenQuery client.wsUrl = arrivingToken client.loginToken := by
  rcases url.built socket with ⟨built, given⟩
  rw [built, tokenQuery_buildWsUrl url.readable given]

/-- Nothing has happened to the URL. -/
structure SameUrl (client next : AnyChatClient) : Prop where
  gatewayUrl : next.gatewayUrl = client.gatewayUrl
  wsUrl : next.wsUrl = client.wsUrl
  loginToken : next.loginToken = client.loginToken
  connMgr : next.connMgr.isSome = client.connMgr.isSome

variable {client next : AnyChatClient}

theorem SameUrl.loginUrl (same : SameUrl client next) (url : client.LoginUrl) : next.LoginUrl := by
  constructor
  · rw [same.gatewayUrl]
    exact url.readable
  · rw [same.connMgr, same.wsUrl, same.gatewayUrl, same.loginToken]
    exact url.built

/-- The handlers of the socket change neither the URL nor the token. -/
theorem sameUrl_onSocket (client : AnyChatClient) (event : ConnectionEvent) :
    SameUrl client (client.onSocket event) ∧
      (client.onSocket event).accessToken = client.accessToken := by
  rw [onSocket]
  cases current : client.connMgr with
  | none => exact ⟨⟨rfl, rfl, rfl, rfl⟩, rfl⟩
  | some manager =>
      dsimp only
      split <;> exact ⟨⟨rfl, rfl, rfl, by rw [current]; rfl⟩, rfl⟩

/-- Only a login changes the URL. -/
theorem sameUrl_step (client : AnyChatClient) {event : AnyChatEvent}
    (noLogin : ∀ index response reachable token,
      event = .authResponse index response reachable →
        client.installed index response ≠ some (.login, token)) :
    SameUrl client (client.step event) := by
  unfold step
  split
  · exact ⟨rfl, rfl, rfl, rfl⟩
  cases event with
  | call request =>
      cases request with
      | logout =>
          cases current : client.connMgr with
          | none =>
              rw [logout_of_none current]
              exact ⟨rfl, rfl, rfl, rfl⟩
          | some manager =>
              rw [logout_of_some current]
              exact ⟨rfl, rfl, rfl, by rw [current]; rfl⟩
      | login | auth request => exact ⟨rfl, rfl, rfl, rfl⟩
  | ensureValidToken now =>
      dsimp only
      split <;> exact ⟨rfl, rfl, rfl, rfl⟩
  | authResponse index response reachable =>
      dsimp only
      cases installs : client.installed index response with
      | none =>
          rcases authResponse_of_not_installed reachable installs with ⟨authMgr, _, result⟩
          rw [result]
          exact ⟨rfl, rfl, rfl, rfl⟩
      | some given =>
          rcases given with ⟨request, token⟩
          rcases authResponse_of_installed reachable installs with ⟨_, authMgr, _, result⟩
          have other : request ≠ .login := fun login =>
            noLogin index response reachable token rfl (by rw [installs, login])
          rw [result, if_neg other]
          exact ⟨rfl, rfl, rfl, rfl⟩
  | logoutResponse index response =>
      dsimp only [logoutResponse]
      split
      · exact ⟨rfl, rfl, rfl, rfl⟩
      · split <;> exact ⟨rfl, rfl, rfl, rfl⟩
  | otherResponse index =>
      dsimp only [otherResponse]
      split
      · exact ⟨rfl, rfl, rfl, rfl⟩
      · split <;> exact ⟨rfl, rfl, rfl, rfl⟩
  | authNotification notificationType payload => exact ⟨rfl, rfl, rfl, rfl⟩
  | socket event =>
      cases event with
      | connect | disconnect => exact ⟨rfl, rfl, rfl, rfl⟩
      | _ => exact (sameUrl_onSocket client _).1

/-- A login that succeeds leaves the URL for its token, and its token stored. -/
theorem login_step (readable : ReadableGateway client.gatewayUrl)
    (alive : client.terminated = false) {index : Nat}
    {response : HttpResponse AuthTokenPayload} (reachable : Bool) {token : String}
    (installs : client.installed index response = some (.login, token)) :
    (client.step (.authResponse index response reachable)).LoginUrl ∧
      (client.step (.authResponse index response reachable)).connMgr.isSome = true ∧
        (client.step (.authResponse index response reachable)).loginToken = token ∧
          (client.step (.authResponse index response reachable)).accessToken = token := by
  have running : ¬client.terminated = true := Bool.eq_false_iff.mp alive
  rcases authResponse_of_installed reachable installs with ⟨given, authMgr, stored, result⟩
  rw [if_pos rfl] at result
  unfold step
  rw [if_neg running]
  dsimp only
  rw [result]
  exact ⟨⟨readable, fun _ => ⟨rfl, given⟩⟩, rfl, rfl, stored⟩

/-- An event is a login that succeeds, or keeps the URL. -/
theorem login_or_sameUrl (client : AnyChatClient) (event : AnyChatEvent) :
    (∃ index response reachable token, event = .authResponse index response reachable ∧
      client.terminated = false ∧ client.installed index response = some (.login, token)) ∨
      SameUrl client (client.step event) := by
  by_cases login : ∃ index response reachable token,
      event = .authResponse index response reachable ∧
        client.terminated = false ∧ client.installed index response = some (.login, token)
  · exact .inl login
  · right
    cases ended : client.terminated with
    | true =>
        unfold step
        rw [if_pos ended]
        exact ⟨rfl, rfl, rfl, rfl⟩
    | false =>
        refine client.sameUrl_step fun index response reachable token same installs => login ?_
        exact ⟨index, response, reachable, token, same, ended, installs⟩

theorem LoginUrl.step (url : client.LoginUrl) (event : AnyChatEvent) :
    (client.step event).LoginUrl := by
  rcases client.login_or_sameUrl event with login | same
  · rcases login with ⟨index, response, reachable, token, rfl, alive, installs⟩
    exact (login_step url.readable alive reachable installs).1
  · exact same.loginUrl url

/-- An attempt is made with the stored token exactly when the token of the login it
belongs to arrives as that. -/
theorem dialsWithToken_iff (url : client.LoginUrl) (event : AnyChatEvent) :
    client.DialsWithToken event ↔ client.AttemptsCurrent event := by
  refine forall_congr' fun dials => ?_
  cases event with
  | authResponse index response reachable =>
      rcases dials with ⟨alive, _, token, installs⟩
      rcases login_step url.readable alive reachable installs with
        ⟨loginUrl, socket, login, stored⟩
      rw [loginUrl.tokenQuery socket, login, stored, arrivingToken_eq_iff]
      constructor
      · intro plain other same
        obtain rfl := (Prod.mk.inj (Option.some.inj (installs.symm.trans same))).2
        exact plain
      · exact fun plain => plain token installs
  | socket retry =>
      have kept : SameUrl client (client.step (.socket retry)) ∧
          (client.step (.socket retry)).accessToken = client.accessToken := by
        unfold step
        split
        · exact ⟨⟨rfl, rfl, rfl, rfl⟩, rfl⟩
        cases retry with
        | connect | disconnect => exact ⟨⟨rfl, rfl, rfl, rfl⟩, rfl⟩
        | _ => exact client.sameUrl_onSocket _
      have socket : client.connMgr.isSome = true := by
        rcases dials with ⟨_, attempt⟩
        cases retry with
        | connect | disconnect => exact attempt.elim
        | _ =>
            rcases attempt with ⟨manager, current, _⟩
            rw [current]
            rfl
      rw [kept.1.wsUrl, kept.2, url.tokenQuery socket]
      exact (arrivesAs_iff client.accessToken client.loginToken).symm
  | _ => exact dials.2.elim

/-! ## Runs -/

/-- A refresh after the first attempt has failed. -/
def refreshBetweenAttempts : List AnyChatEvent :=
  [.call .login,
    .authResponse 0 (tokenResponse "a1" "r1") true,
    .socket (.connectionError 0), .call (.auth .refreshToken),
    .authResponse 0 (tokenResponse "a2" "r2") true,
    .socket .backOff]

end AnyChatClient

end AnychatSdk
