import AnychatSdk.SdkReplay
import AnychatSdk.SessionRevocation

/-!
# The tokens of whole sessions

Of all calls only five change the tokens: the ones that sign in or refresh install
what the server sends, and a logout that the server accepts clears them.  The tokens
after a session are a replay of these responses and of what others have done.  A
handler counts as one step here; where another thread comes between the moment at
which it stores a token and the one at which it sets the bearer token is a matter
of `SdkSession.manage`.
-/

namespace AnychatSdk

/-- The texts of the token in memory, and the bearer token. -/
structure SessionTokens where
  accessToken : String := ""
  refreshToken : String := ""
  bearer : String := ""

/-- A token without an access token is refused. -/
def SessionTokens.receive (payload : AuthTokenPayload) (tokens : SessionTokens) : SessionTokens :=
  if payload.accessToken = "" then tokens
  else ⟨payload.accessToken, payload.refreshToken, payload.accessToken⟩

def SessionTokens.clear (_ : Unit) (_ : SessionTokens) : SessionTokens :=
  {}

/-! ## What a response writes -/

namespace AuthManager

def tokens (manager : AuthManager) : SessionTokens where
  accessToken := manager.token.accessToken
  refreshToken := manager.token.refreshToken
  bearer := manager.authToken

/-- How `handleAuthResponse` decodes a response. -/
def tokenDecoding (readToken : String → ResponseBody AuthTokenPayload) :
    Decoding AuthTokenPayload where
  read := readToken
  fallbackError := "auth failed"

def logoutDecoding (readUnit : String → ResponseBody Unit) : Decoding Unit where
  read := readUnit
  fallbackError := "logout failed"

theorem refreshToken_receivedToken (payload : AuthTokenPayload) (manager : AuthManager) :
    (manager.receivedToken payload).1.refreshToken = payload.refreshToken := by
  rw [receivedToken]
  split <;> rfl

theorem tokens_handleAuthResponse (readToken : String → ResponseBody AuthTokenPayload)
    (raw : RawResponse) (manager : AuthManager) :
    (manager.handleAuthResponse (raw.read readToken)).2.tokens =
      (tokenDecoding readToken).write SessionTokens.receive raw manager.tokens := by
  have same : parseApiEnvelopeResponse (raw.read readToken) "auth failed" false false =
      (tokenDecoding readToken).parse raw := rfl
  rw [handleAuthResponse, same, Decoding.write]
  cases (tokenDecoding readToken).parse raw with
  | error failure => rfl
  | ok payload =>
      have access := manager.accessToken_receivedToken payload
      have refresh := manager.refreshToken_receivedToken payload
      rcases manager.receivedToken_snd payload with ⟨clockReads, rest⟩
      by_cases blank : payload.accessToken = ""
      · simp only [access, blank, rest, SessionTokens.receive, if_true]
        rfl
      · simp only [access, blank, rest, SessionTokens.receive, if_false]
        simp only [tokens, storeToken, access, refresh]

theorem tokens_logoutResponse (readUnit : String → ResponseBody Unit) (raw : RawResponse)
    (manager : AuthManager) :
    (manager.logoutResponse (raw.read readUnit)).2.tokens =
      (logoutDecoding readUnit).write SessionTokens.clear raw manager.tokens := by
  have same : parseApiEnvelopeResponse (raw.read readUnit) "logout failed" false false =
      (logoutDecoding readUnit).parse raw := rfl
  rw [logoutResponse, same, Decoding.write]
  cases (logoutDecoding readUnit).parse raw <;> rfl

end AuthManager

open AuthManager

section Writes

variable {ρ : Type}

/-- Registering and logging in install a token, and a logout clears it. -/
def AccountCall.writeTokens (json : AccountJson) :
    AccountCall ρ → RawResponse → SessionTokens → SessionTokens
  | .registerUser .., raw, tokens | .login .., raw, tokens =>
      (tokenDecoding json.readToken).write SessionTokens.receive raw tokens
  | .logout, raw, tokens => (logoutDecoding json.readUnit).write SessionTokens.clear raw tokens
  | _, _, tokens => tokens

def SdkCall.writeTokens (env : SdkEnvironment) :
    SdkCall ρ → RawResponse → SessionTokens → SessionTokens
  | .single (.account call), raw, tokens => call.writeTokens env.account raw tokens
  | .single (.refreshToken _), raw, tokens | .ensureValidToken, raw, tokens =>
      (tokenDecoding env.auth.readToken).write SessionTokens.receive raw tokens
  | _, _, tokens => tokens

end Writes

/-! ## What the calls do -/

namespace ListenedAuthManager

variable {ρ : Type} (json : AuthJson)

/-- The tokens that the manager holds. -/
def tokens (auth : ListenedAuthManager) : SessionTokens :=
  auth.manager.tokens

/-- What a response to a refresh writes. -/
def writeRefreshed (raw : RawResponse) (tokens : SessionTokens) : SessionTokens :=
  (tokenDecoding json.readToken).write SessionTokens.receive raw tokens

variable {write : RawResponse → SessionTokens → SessionTokens}

theorem onAuthExpired_does {rest : Operation ListenedAuthManager AuthReport ρ}
    (does : rest.Does tokens write id) : (onAuthExpired rest).Does tokens write id := by
  refine ⟨id, id, rfl, fun _ => rfl, fun auth => ?_⟩
  dsimp only
  split <;> exact does

theorem refreshToken_does (token : String)
    {callback : Outcome AuthToken → Operation ListenedAuthManager AuthReport ρ}
    (does : ∀ outcome, (callback outcome).Does tokens (writeRefreshed json) id) :
    (refreshToken json token callback).Does tokens (writeRefreshed json) id := by
  rw [refreshToken]
  split
  · exact does _
  · exact ⟨fun raw => ⟨writeRefreshed json raw, id, rfl,
      fun auth => tokens_handleAuthResponse json.readToken raw auth.manager, fun _ => does _⟩, rfl⟩

theorem ensureValidToken_does :
    (ensureValidToken json).Does tokens (writeRefreshed json) id := by
  refine ⟨id, id, rfl, fun _ => rfl, fun auth => ?_⟩
  dsimp only
  split
  · exact rfl
  · exact onAuthExpired_does rfl
  · refine refreshToken_does json _ fun outcome => ?_
    cases outcome with
    | ok token => exact rfl
    | error failure => exact onAuthExpired_does rfl

theorem parseDevices_does (raw : RawResponse) :
    (parseDevices json raw).Does tokens (fun _ => id) id := by
  rw [parseDevices]
  split <;> exact rfl

theorem getDeviceList_does : (getDeviceList json).Does tokens (fun _ => id) id := by
  refine ⟨fun raw => ?_, rfl⟩
  dsimp only
  split
  · exact ⟨fun raw => parseDevices_does json raw, rfl⟩
  · exact parseDevices_does json raw

theorem logoutDevice_does (deviceId : String) :
    (logoutDevice json deviceId).Does tokens (fun _ => id) id := by
  rw [logoutDevice]
  split
  · exact rfl
  · refine ⟨fun raw => ?_, rfl⟩
    dsimp only
    split
    · exact ⟨fun _ => rfl, rfl⟩
    · exact rfl

end ListenedAuthManager

namespace SdkState

def tokens (state : SdkState) : SessionTokens :=
  state.auth.tokens

end SdkState

section Calls

variable {ρ : Type} (env : SdkEnvironment)

theorem AccountCall.handle_eq_writeTokens (json : AccountJson) (deviceId : String)
    (call : AccountCall ρ) (raw : RawResponse) (auth : ListenedAuthManager) :
    ((call.call json deviceId).handle raw auth).2.tokens =
      call.writeTokens json raw auth.tokens := by
  cases call with
  | registerUser | login => exact tokens_handleAuthResponse json.readToken raw auth.manager
  | logout => exact tokens_logoutResponse json.readUnit raw auth.manager
  | sendVerificationCode | changePassword | resetPassword =>
      exact congrArg ListenedAuthManager.tokens (ManagerCall.handle_fetching _ _ _ raw auth)

namespace SdkCall

theorem onClient_does_tokens (operation : Operation Client Empty ρ) :
    (onClient operation).Does SdkState.tokens (fun _ => id) id :=
  AsyncCode.does_within_apart (fun client state => show (state.withClient client).tokens = _ from
    rfl) operation

theorem onNothing_does_tokens (operation : Operation Unit UploadProgress ρ) :
    (onNothing operation).Does SdkState.tokens (fun _ => id) id :=
  AsyncCode.does_within_apart (fun _ _ => rfl) operation

/-- What code of the auth manager does to its tokens it does to those of the state. -/
theorem onAuth_does_tokens {operation : Operation ListenedAuthManager AuthReport ρ}
    {write : RawResponse → SessionTokens → SessionTokens}
    (does : operation.Does ListenedAuthManager.tokens write id) :
    (onAuth operation).Does SdkState.tokens write id :=
  does.within fun auth state => show (state.withAuth auth).tokens = _ from rfl

/-- No call touches the tokens before its response. -/
theorem code_does_tokens (call : SdkCall ρ) :
    (call.code env).Does SdkState.tokens (call.writeTokens env) id := by
  cases call with
  | single call =>
      refine ManagerCall.code_does fun raw state => ?_
      cases call with
      | account call =>
          exact call.handle_eq_writeTokens env.account env.deviceId raw state.auth
      | refreshToken token =>
          exact tokens_handleAuthResponse env.auth.readToken raw state.auth.manager
      | friend | group | user | calling | version | chat | file => rfl
  | getConversationList | getHistory | ackMessages | markAsRead | recallMessage | deleteMessage
  | editMessage => exact onClient_does_tokens _
  | getDeviceList => exact onAuth_does_tokens (ListenedAuthManager.getDeviceList_does env.auth)
  | logoutDevice deviceId =>
      exact onAuth_does_tokens (ListenedAuthManager.logoutDevice_does env.auth deviceId)
  | ensureValidToken =>
      exact onAuth_does_tokens (ListenedAuthManager.ensureValidToken_does env.auth)
  | upload | uploadClientLog => exact onNothing_does_tokens _

end SdkCall

/-- The tokens as a part of the state. -/
def SdkPart.tokens : SdkPart env SessionTokens where
  view := SdkState.tokens
  write call := call.writeTokens env
  does call := call.code_does_tokens env

/-- The tokens that a response brings. -/
inductive SdkCall.BringsToken :
    {α : Type} → SdkCall α → RawResponse → AuthTokenPayload → Prop
  | registered {phoneOrEmail password verifyCode : String} {deviceType : Int32}
      {nickname clientVersion : String} {raw : RawResponse} {payload : AuthTokenPayload}
      (accepts : (tokenDecoding env.account.readToken).Accepts raw payload) :
      BringsToken (.single (.account (.registerUser phoneOrEmail password verifyCode deviceType
        nickname clientVersion))) raw payload
  | loggedIn {account password : String} {deviceType : Int32} {clientVersion : String}
      {raw : RawResponse} {payload : AuthTokenPayload}
      (accepts : (tokenDecoding env.account.readToken).Accepts raw payload) :
      BringsToken (.single (.account (.login account password deviceType clientVersion))) raw
        payload
  | refreshed {token : String} {raw : RawResponse} {payload : AuthTokenPayload}
      (accepts : (tokenDecoding env.auth.readToken).Accepts raw payload) :
      BringsToken (.single (.refreshToken token)) raw payload
  | ensured {raw : RawResponse} {payload : AuthTokenPayload}
      (accepts : (tokenDecoding env.auth.readToken).Accepts raw payload) :
      BringsToken .ensureValidToken raw payload

/-- The response to a call issues a token. -/
def SdkCall.Issues (access refresh : String) {α : Type} (call : SdkCall α) (raw : RawResponse) :
    Prop :=
  ∃ payload, BringsToken env call raw payload ∧ payload.accessToken = access ∧
    payload.refreshToken = refresh

/-- The response to a call issues an access token. -/
def SdkCall.IssuesAccess (token : String) {α : Type} (call : SdkCall α) (raw : RawResponse) :
    Prop :=
  ∃ payload, BringsToken env call raw payload ∧ payload.accessToken = token

/-- The calls whose responses may bring a token. -/
def SdkCall.signsIn : SdkCall ρ → Bool
  | .single (.account (.registerUser ..)) | .single (.account (.login ..))
  | .single (.refreshToken _) | .ensureValidToken => true
  | _ => false

/-- All that a response can do to the tokens. -/
inductive SdkCall.WritesTokens (tokens : SessionTokens) (call : SdkCall ρ) (raw : RawResponse) :
    SessionTokens → Prop
  | nothing : WritesTokens tokens call raw tokens
  | cleared : WritesTokens tokens call raw {}
  | brought (payload : AuthTokenPayload) (signsIn : call.signsIn = true)
      (brings : BringsToken env call raw payload) (nonempty : payload.accessToken ≠ "") :
      WritesTokens tokens call raw
        ⟨payload.accessToken, payload.refreshToken, payload.accessToken⟩

/-- An accepted response brings its token, if that has an access token. -/
theorem SdkCall.WritesTokens.receive {tokens : SessionTokens} {call : SdkCall ρ}
    {raw : RawResponse} {decoding : Decoding AuthTokenPayload} (signsIn : call.signsIn = true)
    (brings : ∀ payload, decoding.Accepts raw payload → BringsToken env call raw payload) :
    WritesTokens env tokens call raw (decoding.write SessionTokens.receive raw tokens) := by
  refine Decoding.holds_write .nothing fun payload accepts => ?_
  rw [SessionTokens.receive]
  split
  · exact .nothing
  · next nonempty => exact .brought payload signsIn (brings payload accepts) nonempty

theorem SdkCall.writesTokens (call : SdkCall ρ) (raw : RawResponse) (tokens : SessionTokens) :
    WritesTokens env tokens call raw (call.writeTokens env raw tokens) := by
  cases call with
  | single call =>
      cases call with
      | account call =>
          cases call with
          | registerUser => exact .receive env rfl fun payload accepts => .registered accepts
          | login => exact .receive env rfl fun payload accepts => .loggedIn accepts
          | logout =>
              exact Decoding.holds_write (motive := WritesTokens env tokens _ raw) .nothing
                fun _ _ => .cleared
          | sendVerificationCode | changePassword | resetPassword => exact .nothing
      | refreshToken => exact .receive env rfl fun payload accepts => .refreshed accepts
      | friend | group | user | calling | version | chat | file => exact .nothing
  | ensureValidToken => exact .receive env rfl fun payload accepts => .ensured accepts
  | getConversationList | getHistory | ackMessages | markAsRead | recallMessage | deleteMessage
  | editMessage | getDeviceList | logoutDevice | upload | uploadClientLog => exact .nothing

namespace SdkCall.WritesTokens

variable {env : SdkEnvironment} {call : SdkCall ρ} {raw : RawResponse}
  {tokens later : SessionTokens}

theorem issues (wrote : WritesTokens env tokens call raw later) {access refresh : String}
    (nonempty : access ≠ "") (held : later.accessToken = access ∧ later.refreshToken = refresh) :
    (tokens.accessToken = access ∧ tokens.refreshToken = refresh) ∨
      Issues env access refresh call raw := by
  cases wrote with
  | nothing => exact .inl held
  | cleared => exact absurd held.1.symm nonempty
  | brought payload _ brings _ => exact .inr ⟨payload, brings, held⟩

theorem issuesAccess (wrote : WritesTokens env tokens call raw later) {token : String}
    (nonempty : token ≠ "") (held : later.bearer = token) :
    tokens.bearer = token ∨ IssuesAccess env token call raw := by
  cases wrote with
  | nothing => exact .inl held
  | cleared => exact absurd held.symm nonempty
  | brought payload _ brings _ => exact .inr ⟨payload, brings, held⟩

theorem agrees (wrote : WritesTokens env tokens call raw later)
    (same : tokens.bearer = tokens.accessToken) : later.bearer = later.accessToken := by
  cases wrote with
  | nothing => exact same
  | cleared => rfl
  | brought => rfl

theorem signedOut (wrote : WritesTokens env tokens call raw later) (other : call.signsIn = false)
    (blank : tokens.accessToken = "") : later.accessToken = "" := by
  cases wrote with
  | nothing => exact blank
  | cleared => rfl
  | brought payload signsIn => exact absurd (signsIn.symm.trans other) nofun

end SdkCall.WritesTokens

end Calls

/-! ## Sessions -/

namespace SdkSession

variable {ρ : Type} (env : SdkEnvironment) (text : List UInt8 → String) (baseUrl : String)
  (state : SdkState) (events : List (SdkEvent ρ))

/-- What holds of the tokens after a session. -/
structure TokensReplayed : Prop where
  /-- They are a replay of the responses in order, and of what others have done. -/
  replayed : (after env text baseUrl state events).state.tokens =
    ((SdkPart.tokens env).happened text baseUrl state events).foldl
      (HttpSession.Happened.apply ((SdkPart.tokens env).writes events)) state.tokens
  /-- A token was there, or a server has issued it, or it is from others. -/
  issued : ∀ access refresh, access ≠ "" →
    (after env text baseUrl state events).state.tokens.accessToken = access →
    (after env text baseUrl state events).state.tokens.refreshToken = refresh →
      (state.tokens.accessToken = access ∧ state.tokens.refreshToken = refresh) ∨
      (∃ id raw call,
        .answered id raw ∈ (SdkPart.tokens env).happened text baseUrl state events ∧
        (calls events)[id]? = some call ∧ SdkCall.Issues env access refresh call.2 raw) ∨
      ∃ tokens, .changed tokens ∈ (SdkPart.tokens env).happened text baseUrl state events ∧
        tokens.accessToken = access ∧ tokens.refreshToken = refresh
  /-- The requests carry the token in memory, unless others part the two. -/
  agrees : (∀ change, .other change ∈ events → ∀ state : SdkState,
      state.tokens.bearer = state.tokens.accessToken →
        (change state).tokens.bearer = (change state).tokens.accessToken) →
    state.tokens.bearer = state.tokens.accessToken →
      (after env text baseUrl state events).state.tokens.bearer =
        (after env text baseUrl state events).state.tokens.accessToken
  /-- Without a call for it nobody is signed in, whatever the server answers. -/
  signedOut : (∀ call ∈ calls events, call.2.signsIn = false) →
    (∀ change, .other change ∈ events → ∀ state : SdkState,
      state.tokens.accessToken = "" → (change state).tokens.accessToken = "") →
    state.tokens.accessToken = "" →
      (after env text baseUrl state events).state.tokens.accessToken = ""

/-- Any calls on any threads, in any order of steps and with any responses. -/
theorem tokensReplayed : TokensReplayed env text baseUrl state events := by
  refine ⟨(SdkPart.tokens env).replayed text baseUrl state events,
    fun access refresh nonempty sameAccess sameRefresh => ?_, fun others agrees => ?_,
    fun none others blank => ?_⟩
  · exact (SdkPart.tokens env).origin
      (fun tokens : SessionTokens => tokens.accessToken = access ∧ tokens.refreshToken = refresh)
      (fun call raw tokens held => (call.writesTokens env raw tokens).issues nonempty held)
      ⟨sameAccess, sameRefresh⟩
  · exact (SdkPart.tokens env).holds_after
      (fun tokens : SessionTokens => tokens.bearer = tokens.accessToken)
      (fun call _ raw tokens same => (call.2.writesTokens env raw tokens).agrees same) others agrees
  · exact (SdkPart.tokens env).holds_after (fun tokens : SessionTokens => tokens.accessToken = "")
      (fun call listed raw tokens empty =>
        (call.2.writesTokens env raw tokens).signedOut (none call listed) empty) others blank

end SdkSession

end AnychatSdk
