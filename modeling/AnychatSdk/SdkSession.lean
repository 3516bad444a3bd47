import AnychatSdk.Lib.UrlAuthority
import AnychatSdk.Network.RequestOrigins
import AnychatSdk.SdkCalls

/-!
# Sessions of the SDK

Any threads call any functions of the managers over the one HTTP client, which
works at its own pace, while the bearer token is set and cleared and the
notifications change what the managers keep.  Every call completes once, unless the
file that it is to upload cannot be read, and the bearer token leaves only for the
host of the base URL, unless the server itself names another one for an upload.
-/

namespace AnychatSdk

open UrlAuthority

/-- What happens in a session; `report` is what a caller makes of a result. -/
inductive SdkEvent (ρ : Type) : Type 1 where
  | call {α : Type} (function : SdkCall α) (report : α → ρ)
  | other (change : SdkState → SdkState)
  | client (event : HttpClient.Event (SessionHandler SdkState SdkReport ρ))

namespace SdkEvent

variable {ρ : Type}

def toEvent (env : SdkEnvironment) : SdkEvent ρ → HttpSession.Event SdkState SdkReport ρ
  | call function report =>
      .start ((function.code env).within id (fun state _ => state) id (·.map report))
  | other change => .other change
  | client event => .client event

def isCall : SdkEvent ρ → Bool
  | call _ _ => true
  | other _ | client _ => false

/-- A call that uploads a file finds one that can be read. -/
def ReadsFile (env : SdkEnvironment) : SdkEvent ρ → Prop
  | call function _ => function.ReadsFile env
  | other _ | client _ => True

end SdkEvent

namespace SdkSession

variable {ρ : Type} (env : SdkEnvironment) (text : List UInt8 → String) (baseUrl : String)
  (state : SdkState)

/-- The session after some events. -/
def after (events : List (SdkEvent ρ)) : HttpSession SdkState SdkReport ρ :=
  HttpSession.after text baseUrl state (events.map (SdkEvent.toEvent env))

/-- All operations of a session are calls of the SDK. -/
theorem exists_call {events : List (SdkEvent ρ)} {code : Operation SdkState SdkReport ρ}
    (started : .start code ∈ events.map (SdkEvent.toEvent env)) :
    ∃ (α : Type) (function : SdkCall α) (report : α → ρ), .call function report ∈ events ∧
      code = (function.code env).within id (fun state _ => state) id (·.map report) := by
  rcases List.mem_map.mp started with ⟨event, listed, same⟩
  cases event with
  | call function report =>
      cases same
      exact ⟨_, function, report, listed, rfl⟩
  | other change => cases same
  | client event => cases same

/-! ## Completion -/

/-- While the client exists every call counts as started. -/
theorem started_exec {events : List (SdkEvent ρ)} {session : HttpSession SdkState SdkReport ρ}
    (alive : (EventRun.exec (HttpSession.step text) session
      (events.map (SdkEvent.toEvent env))).client.destroyed = false) :
    session.client.destroyed = false ∧
      (EventRun.exec (HttpSession.step text) session
        (events.map (SdkEvent.toEvent env))).started =
        session.started + events.countP SdkEvent.isCall := by
  induction events generalizing session with
  | nil => exact ⟨alive, rfl⟩
  | cons event events ih =>
      rcases ih alive with ⟨alive', counted⟩
      rcases HttpSession.started_step text alive' with ⟨alive'', one⟩
      refine ⟨alive'', counted.trans ?_⟩
      rw [one, List.countP_cons]
      cases event with
      | call function report =>
          change session.started + 1 + _ = session.started + (_ + 1)
          omega
      | other change => rfl
      | client event => rfl

/-- What holds of the calls of a session. -/
structure CallsComplete (events : List (SdkEvent ρ)) : Prop where
  /-- No call is lost before the client ends. -/
  started : (after env text baseUrl state events).client.destroyed = false →
    (after env text baseUrl state events).started = events.countP SdkEvent.isCall
  /-- A call completes at most once, and exactly once if none of its requests is open. -/
  once : ∀ id < (after env text baseUrl state events).started,
    ((after env text baseUrl state events).alone id).CompletesOnce 3
  /-- Until the client is told to stop it has only to go on for every call to complete. -/
  settles : (after env text baseUrl state events).client.running = true → ∀ results, ∃ later,
    (∀ event ∈ later, event.GoesOn results) ∧
      ∀ id < (after env text baseUrl state events).started,
        (((after env text baseUrl state events).goOn text later).alone id).completions = 1

/-- Any calls on any threads, in any order of steps and with any responses. -/
theorem callsComplete {events : List (SdkEvent ρ)}
    (reads : ∀ event ∈ events, event.ReadsFile env) :
    CallsComplete env text baseUrl state events := by
  have completes : ∀ code, .start code ∈ events.map (SdkEvent.toEvent env) →
      code.CompletesWithin 3 := by
    intro code started
    rcases exists_call env started with ⟨α, function, report, listed, rfl⟩
    exact (function.code_completes env (reads _ listed)).within _ _ _ _
  rcases HttpSession.operations_complete text baseUrl state completes with ⟨once, settles⟩
  refine ⟨fun alive => ?_, once, settles⟩
  have counted := (started_exec env text alive).2
  exact counted.trans (Nat.zero_add _)

/-- An upload of two bytes. -/
theorem callsComplete_upload :
    CallsComplete { (default : SdkEnvironment) with files := fun _ => .content [104, 105] }
      (fun _ => "") "https://api.anychat.io/api/v1"
      ⟨.start default {} 0, ⟨.start (fun _ => 0) "d1" (some {}) 0, false⟩, {}⟩
      [.call (.upload "/tmp/hi" 4 true) fun _ => ()] := by
  refine callsComplete _ _ _ _ fun event listed => ?_
  obtain rfl := List.mem_singleton.mp listed
  exact FileRead.noConfusion

/-! ## The bearer token -/

end SdkSession

/-- The header that carries a bearer token. -/
def RequestCtx.Carries {κ : Type} (ctx : RequestCtx κ) (token : String) : Prop :=
  "Authorization: Bearer " ++ token ∈ ctx.headers

/-- The request goes to a path on the base URL, as far as libcurl reads the two. -/
def RequestCtx.OnBase {κ : Type} (ctx : RequestCtx κ) (baseUrl : String) : Prop :=
  ∃ path, RootedPath path ∧ ctx.url = cString (baseUrl ++ path)

/-- Bytes go to a relative URL that does not begin with a slash; what is appended to
the base URL may belong to its host. -/
def RequestCtx.Strays {κ : Type} (ctx : RequestCtx κ) (baseUrl : String) : Prop :=
  ∃ target content, ctx.url = cString (baseUrl ++ target) ∧ isAbsoluteUrl target = false ∧
    ¬RootedPath target ∧ ctx.options = HttpMethod.put.options (.bytes content)

namespace HttpClient

variable {κ : Type} {baseUrl token given : String} {request : HttpRequest} {ctx : RequestCtx κ}

variable (token) in
theorem bearer_ne {header : String} (other : header.toList.take 2 ≠ ['A', 'u']) :
    "Authorization: Bearer " ++ token ≠ header := by
  rintro rfl
  refine other ?_
  rw [String.toList_append]
  rfl

/-- The token goes only where the path is relative, and it is the one in force up to
its first NUL. -/
theorem mem_headers_iff {method : HttpMethod} {path : String} :
    "Authorization: Bearer " ++ token ∈ headers method path given ↔
      isAbsoluteUrl path = false ∧ given ≠ "" ∧ token = cString given := by
  have octets := bearer_ne token
    (show "Content-Type: application/octet-stream".toList.take 2 ≠ ['A', 'u'] by decide)
  have json := bearer_ne token
    (show "Content-Type: application/json".toList.take 2 ≠ ['A', 'u'] by decide)
  have accept := bearer_ne token
    (show "Accept: application/json".toList.take 2 ≠ ['A', 'u'] by decide)
  have bearer : cString ("Authorization: Bearer " ++ given) =
      "Authorization: Bearer " ++ cString given :=
    cString_append_of_nulFree (by decide) given
  rw [headers, bearer]
  cases isAbsoluteUrl path with
  | true => by_cases put : method = .put <;> simp [put, octets]
  | false => by_cases blank : given = "" <;> simp [blank, json, accept]

/-- A request of the API that carries a token goes to a path on the base URL, or it is
an upload that strays. -/
theorem MadeOf.addressed (made : MadeOf baseUrl given request ctx) (ofApi : request.OfApi)
    (carries : ctx.Carries token) :
    given ≠ "" ∧ token = cString given ∧ (ctx.OnBase baseUrl ∨ ctx.Strays baseUrl) := by
  rw [RequestCtx.Carries, made.headers, mem_headers_iff] at carries
  rcases carries with ⟨relative, nonempty, same⟩
  have url : ctx.url = cString (baseUrl ++ request.path) := by
    rw [made.url, requestUrl, relative]
    rfl
  refine ⟨nonempty, same, ?_⟩
  by_cases rooted : RootedPath request.path
  · exact .inl ⟨request.path, rooted, url⟩
  · rcases ofApi with isRooted | ⟨put, content, body⟩
    · exact absurd isRooted rooted
    · refine .inr ⟨request.path, content, url, relative, rooted, ?_⟩
      rw [made.options, put, body]
      rfl

end HttpClient

theorem RootedPath.cString {path : String} (rooted : RootedPath path) :
    RootedPath (cString path) := by
  rw [RootedPath] at rooted ⊢
  rw [AnychatSdk.cString, String.toList_ofList]
  cases chars : path.toList with
  | nil =>
      rw [chars] at rooted
      cases rooted
  | cons first rest =>
      rw [chars] at rooted
      cases rooted
      rfl

/-- Where libcurl reads the base URL to its end, the path begins behind its host. -/
theorem RequestCtx.OnBase.authority {κ : Type} {ctx : RequestCtx κ} {baseUrl : String}
    {home : List Char} (onBase : ctx.OnBase baseUrl)
    (found : UrlAuthority.authority (cString baseUrl).toList = some home) :
    UrlAuthority.authority ctx.url.toList = some home := by
  rcases onBase with ⟨path, rooted, url⟩
  rw [url]
  by_cases nulFree : NulFree baseUrl
  · rw [cString_eq_self nulFree] at found
    rw [cString_append_of_nulFree nulFree, String.toList_append, authority_append_iff found]
    refine .inr fun char first => ?_
    rw [rooted.cString] at first
    cases first
    rfl
  · rw [cString_append_of_not_nulFree nulFree]
    exact found

namespace SdkSession

variable {ρ : Type} (env : SdkEnvironment) (text : List UInt8 → String) (baseUrl : String)
  (state : SdkState)

/-- A token on a request is the beginning of one that was set, up to its first NUL, and
the request goes to a path on the base URL or strays. -/
theorem traced_of_carries {events : List (SdkEvent ρ)}
    {ctx : RequestCtx (SessionHandler SdkState SdkReport ρ)}
    (opened : ctx ∈ (after env text baseUrl state events).client.openCtxs) {token : String}
    (carries : ctx.Carries token) :
    (∃ given ≠ "", .client (.setAuthToken given) ∈ events ∧ token = cString given) ∧
      (ctx.OnBase baseUrl ∨ ctx.Strays baseUrl) := by
  have asks : ∀ code, .start code ∈ events.map (SdkEvent.toEvent env) →
      code.Asks HttpRequest.OfApi := by
    intro code started
    rcases exists_call env started with ⟨α, function, report, _, rfl⟩
    exact (function.code_asks env).within _ _ _ _
  have addressed := HttpSession.addressed_after text baseUrl state
    (events.map (SdkEvent.toEvent env))
  rcases addressed.opened ctx opened with ⟨id, request, given, asked, known, made⟩
  have ofApi := HttpSession.asked_after text baseUrl state asks asked
  rcases made.addressed ofApi carries with ⟨nonempty, rfl, goes⟩
  refine ⟨⟨given, nonempty, ?_, rfl⟩, goes⟩
  rcases known with blank | set
  · exact absurd blank nonempty
  · rcases List.mem_map.mp set with ⟨event, listed, same⟩
    cases event with
    | call function report => cases same
    | other change => cases same
    | client event =>
        cases same
        exact listed

theorem home_of_carries {events : List (SdkEvent ρ)}
    {ctx : RequestCtx (SessionHandler SdkState SdkReport ρ)}
    (opened : ctx ∈ (after env text baseUrl state events).client.openCtxs) {token : String}
    (carries : ctx.Carries token) {home : List Char}
    (found : authority (cString baseUrl).toList = some home) :
    authority ctx.url.toList = some home ∨ ctx.Strays baseUrl :=
  (traced_of_carries env text baseUrl state opened carries).2.imp_left
    fun onBase => onBase.authority found

/-- Where the bearer tokens of a session go. -/
structure TokensStay (events : List (SdkEvent ρ)) : Prop where
  /-- Only tokens that were set are sent, each up to its first NUL. -/
  known : ∀ ctx ∈ (after env text baseUrl state events).client.openCtxs, ∀ token,
    ctx.Carries token →
      ∃ given ≠ "", .client (.setAuthToken given) ∈ events ∧ token = cString given
  /-- They go to paths on the base URL, but for uploads that stray. -/
  addressed : ∀ ctx ∈ (after env text baseUrl state events).client.openCtxs, ∀ token,
    ctx.Carries token → ctx.OnBase baseUrl ∨ ctx.Strays baseUrl
  /-- So the host they reach is that of the base URL. -/
  home : ∀ ctx ∈ (after env text baseUrl state events).client.openCtxs, ∀ token,
    ctx.Carries token → ∀ home, authority (cString baseUrl).toList = some home →
      authority ctx.url.toList = some home ∨ ctx.Strays baseUrl

/-- The tokens of every request that the client ever holds, whatever is called and
whatever the server answers. -/
theorem tokensStay (events : List (SdkEvent ρ)) : TokensStay env text baseUrl state events := by
  refine ⟨fun ctx opened token carries => ?_, fun ctx opened token carries => ?_,
    fun ctx opened token carries home found => ?_⟩
  · exact (traced_of_carries env text baseUrl state opened carries).1
  · exact (traced_of_carries env text baseUrl state opened carries).2
  · exact home_of_carries env text baseUrl state opened carries found

end SdkSession

end AnychatSdk
