import AnychatSdk.Lib.AsyncScope
import AnychatSdk.Network.HttpSession

/-!
# Where the requests of a session come from

Every request that the client holds was asked for by an operation.  Its URL and
its headers are made of what was asked, of the base URL and of a token that was in
force at that time.
-/

namespace AnychatSdk

namespace HttpClient

variable {κ : Type}

/-- The URL that `enqueue` sends a request to. -/
def requestUrl (baseUrl path : String) : String :=
  cString (if isAbsoluteUrl path then path else baseUrl ++ path)

/-- What `enqueue` makes of a request, but for its callback. -/
structure MadeOf (baseUrl token : String) (request : HttpRequest) (ctx : RequestCtx κ) :
    Prop where
  url : ctx.url = requestUrl baseUrl request.path
  headers : ctx.headers = headers request.method request.path token
  options : ctx.options = request.method.options (request.method.body request.body)

theorem madeOf_context (client : HttpClient κ) (request : HttpRequest) (callback : Option κ) :
    MadeOf client.baseUrl client.authToken request (client.context request callback) :=
  ⟨rfl, rfl, rfl⟩

/-- Received bytes do not touch what a request is made of. -/
theorem MadeOf.receive {baseUrl token : String} {request : HttpRequest} {ctx : RequestCtx κ}
    (made : MadeOf baseUrl token request ctx) (bytes : List UInt8) :
    MadeOf baseUrl token request { ctx with responseBody := ctx.responseBody ++ bytes } :=
  ⟨made.url, made.headers, made.options⟩

section Open

variable {client next : HttpClient κ} {outputs : List (Output κ)} {Holds : RequestCtx κ → Prop}

theorem mem_openCtxs {ctx : RequestCtx κ} :
    ctx ∈ client.openCtxs ↔ ctx ∈ client.waiting ∨ ∃ result, (ctx, result) ∈ client.done := by
  simp [openCtxs]

/-- What received bytes leave alone holds of every open request if it holds of
every request that is issued. -/
theorem Move.forall_openCtxs (move : client.Move next outputs)
    (stable : ∀ ctx bytes, Holds ctx →
      Holds { ctx with responseBody := ctx.responseBody ++ bytes })
    (issued : ∀ ctx, .issued ctx ∈ outputs → Holds ctx)
    (held : ∀ ctx ∈ client.openCtxs, Holds ctx) : ∀ ctx ∈ next.openCtxs, Holds ctx := by
  have waits : ∀ ctx ∈ client.waiting, Holds ctx :=
    fun ctx member => held ctx (mem_openCtxs.mpr (.inl member))
  have ends : ∀ ctx result, (ctx, result) ∈ client.done → Holds ctx :=
    fun ctx result member => held ctx (mem_openCtxs.mpr (.inr ⟨result, member⟩))
  intro ctx member
  rw [mem_openCtxs] at member
  cases move with
  | quiet _ waiting done _ =>
      rw [waiting.mem_iff, done] at member
      exact member.elim (waits ctx) fun ⟨result, ended⟩ => ends ctx result ended
  | issue _ fresh _ _ waiting done _ =>
      rw [waiting.mem_iff, done, List.mem_cons] at member
      rcases member with (rfl | waited) | ⟨result, ended⟩
      · exact issued ctx List.mem_cons_self
      · exact waits ctx waited
      · exact ends ctx result ended
  | receive receiver bytes _ =>
      rcases member with waited | ⟨result, ended⟩
      · rcases List.mem_append.mp waited with before | transferred
        · exact waits ctx (List.mem_append_left client.multi before)
        · rcases List.mem_map.mp transferred with ⟨old, inMulti, rfl⟩
          have kept : Holds old := waits old (List.mem_append_right _ inMulti)
          rw [writeCb]
          split
          · exact stable old bytes kept
          · exact kept
      · exact ends ctx result ended
  | finish _ finished result waiting done _ =>
      rw [done] at member
      rcases member with waited | ⟨other, ended⟩
      · exact waits ctx (waiting.mem_iff.mpr (List.mem_cons_of_mem finished waited))
      · rcases List.mem_append.mp ended with before | last
        · exact ends ctx other before
        · cases List.mem_singleton.mp last
          exact waits ctx (waiting.mem_iff.mpr List.mem_cons_self)
  | answer _ answered result waiting done _ =>
      rcases member with waited | ⟨other, ended⟩
      · exact waits ctx (waiting ▸ waited)
      · exact ends ctx other (done ▸ List.mem_cons_of_mem _ ended)

end Open

/-- The base URL stays, and the token changes only as it is told to. -/
theorem settings_react (client : HttpClient κ) (event : Event κ) :
    (client.react event).1.baseUrl = client.baseUrl ∧
      ((client.react event).1.authToken = client.authToken ∨
        (client.react event).1.authToken = "" ∨
          event = .setAuthToken (client.react event).1.authToken) := by
  cases event with
  | setAuthToken token => exact ⟨rfl, .inr (.inr rfl)⟩
  | clearAuthToken => exact ⟨rfl, .inr (.inl rfl)⟩
  | enqueue | stop | cleanup => exact ⟨rfl, .inl rfl⟩
  | advance =>
      rw [react, loop]
      split <;> try exact ⟨rfl, .inl rfl⟩
      split <;> exact ⟨rfl, .inl rfl⟩
  | push serial =>
      rw [react]
      split <;> exact ⟨rfl, .inl rfl⟩
  | receive serial bytes =>
      rw [react]
      split <;> exact ⟨rfl, .inl rfl⟩
  | finish serial result =>
      rw [react]
      split
      · exact ⟨rfl, .inl rfl⟩
      · split <;> exact ⟨rfl, .inl rfl⟩

theorem settings_step (client : HttpClient κ) (event : Event κ) :
    (client.step event).baseUrl = client.baseUrl ∧
      ((client.step event).authToken = client.authToken ∨ (client.step event).authToken = "" ∨
        event = .setAuthToken (client.step event).authToken) := by
  rw [step, handle]
  split
  · exact ⟨rfl, .inl rfl⟩
  · exact client.settings_react event

/-- `enqueue` issues the context that it has built, if the client still exists. -/
theorem eq_context_of_issued {client : HttpClient κ} {request : HttpRequest} {callback : Option κ}
    {ctx : RequestCtx κ} (issued : .issued ctx ∈ client.emit (.enqueue request callback)) :
    ctx = client.context request callback := by
  rw [emit, handle] at issued
  split at issued
  · cases issued
  · exact Output.issued.inj (List.mem_singleton.mp issued)

end HttpClient

namespace HttpSession

open HttpClient (MadeOf)

variable {σ ε ρ : Type} {Known : String → Prop} {baseUrl : String}

/-- The settings of the client are known, and so is what every request that it
holds is made of. -/
structure Addressed (Known : String → Prop) (baseUrl : String) (session : HttpSession σ ε ρ) :
    Prop where
  base : session.client.baseUrl = baseUrl
  token : Known session.client.authToken
  opened : ∀ ctx ∈ session.client.openCtxs, ∃ id request token,
    (id, .asked request) ∈ session.log ∧ Known token ∧ MadeOf baseUrl token request ctx

theorem Addressed.concat {session : HttpSession σ ε ρ} (addressed : session.Addressed Known baseUrl)
    (entry : Nat × AsyncLogEntry HttpRequest RawResponse ε (Outcome ρ)) :
    Addressed Known baseUrl { session with log := session.log ++ [entry] } := by
  refine ⟨addressed.base, addressed.token, fun ctx opened => ?_⟩
  rcases addressed.opened ctx opened with ⟨id, request, token, logged, known, made⟩
  exact ⟨id, request, token, List.mem_append_left [entry] logged, known, made⟩

/-- A step of the client that issues only what is in the log. -/
theorem Addressed.client {session : HttpSession σ ε ρ} (addressed : session.Addressed Known baseUrl)
    (event : HttpClient.Event (SessionHandler σ ε ρ)) (blank : Known "")
    (set : ∀ token, event = .setAuthToken token → Known token)
    (issued : ∀ ctx, .issued ctx ∈ session.client.emit event → ∃ id request token,
      (id, .asked request) ∈ session.log ∧ Known token ∧ MadeOf baseUrl token request ctx) :
    Addressed Known baseUrl { session with client := session.client.step event } := by
  rcases session.client.settings_step event with ⟨base, token⟩
  refine ⟨base.trans addressed.base, ?_, ?_⟩
  · rcases token with same | cleared | told
    · exact same ▸ addressed.token
    · exact cleared ▸ blank
    · exact set _ told
  · refine (session.client.move_step event).forall_openCtxs ?_ issued addressed.opened
    rintro ctx bytes ⟨id, request, token, logged, known, made⟩
    exact ⟨id, request, token, logged, known, made.receive bytes⟩

theorem Addressed.run {session : HttpSession σ ε ρ} (addressed : session.Addressed Known baseUrl)
    (blank : Known "") (id : Nat) (code : Operation σ ε ρ) :
    (session.run id code).Addressed Known baseUrl := by
  induction code generalizing session with
  | stop => exact addressed
  | complete _ _ ih => exact ih (addressed.concat _)
  | emit _ _ ih => exact ih (addressed.concat _)
  | act _ _ ih => exact ih session.state ⟨addressed.base, addressed.token, addressed.opened⟩
  | ask request handler _ _ ih =>
      have logged := addressed.concat (id, .asked request)
      refine ih (logged.client (.enqueue request (some (id, handler))) blank nofun ?_)
      intro ctx issued
      obtain rfl := HttpClient.eq_context_of_issued issued
      have made := session.client.madeOf_context request (some (id, handler))
      rw [addressed.base] at made
      exact ⟨id, request, _, List.mem_append_right _ List.mem_cons_self, addressed.token, made⟩

theorem Addressed.callBack {session : HttpSession σ ε ρ}
    (addressed : session.Addressed Known baseUrl) (blank : Known "")
    (text : List UInt8 → String) (outputs : List (HttpClient.Output (SessionHandler σ ε ρ))) :
    (session.callBack text outputs).Addressed Known baseUrl := by
  unfold HttpSession.callBack
  split
  · exact (addressed.concat _).run blank _ _
  · exact addressed

theorem Addressed.step {session : HttpSession σ ε ρ} (addressed : session.Addressed Known baseUrl)
    (blank : Known "") (text : List UInt8 → String) {event : Event σ ε ρ}
    (set : ∀ token, event = .client (.setAuthToken token) → Known token) :
    (session.step text event).Addressed Known baseUrl := by
  cases event with
  | start code =>
      rw [HttpSession.step]
      split
      · exact addressed
      · have opened : Addressed Known baseUrl { session with started := session.started + 1 } :=
          ⟨addressed.base, addressed.token, addressed.opened⟩
        exact opened.run blank _ code
  | other change => exact ⟨addressed.base, addressed.token, addressed.opened⟩
  | client event =>
      by_cases enqueued : ∃ request callback, event = .enqueue request callback
      · rcases enqueued with ⟨request, callback, rfl⟩
        exact addressed
      · have given : ∀ request callback, event ≠ .enqueue request callback :=
          fun request callback same => enqueued ⟨request, callback, same⟩
        rw [session.step_client text given]
        refine (addressed.client event blank (fun token same => set token (same ▸ rfl)) ?_).callBack
          blank text _
        exact fun ctx issued => absurd issued (HttpClient.unissued_of_emit given ctx)

section Runs

variable (text : List UInt8 → String) (baseUrl : String) (state : σ)

/-- In every session, what the client holds was asked for, and the tokens in the
headers are among those that were set. -/
theorem addressed_after (events : List (Event σ ε ρ)) :
    (after text baseUrl state events).Addressed
      (fun token => token = "" ∨ .client (.setAuthToken token) ∈ events) baseUrl := by
  have told : ∀ event ∈ events, ∀ token, event = .client (.setAuthToken token) →
      token = "" ∨ .client (.setAuthToken token) ∈ events :=
    fun event member token same => .inr (same ▸ member)
  have initially : (fresh baseUrl state : HttpSession σ ε ρ).Addressed
      (fun token => token = "" ∨ .client (.setAuthToken token) ∈ events) baseUrl :=
    ⟨rfl, .inl rfl, nofun⟩
  exact EventRun.exec_invariant_of_guarded
    (fun session event addressed given => addressed.step (.inl rfl) text given)
    initially (EventRun.Guarded.of_forall told)

/-- What all started operations may ask is all that is asked in a session. -/
theorem asked_after {events : List (Event σ ε ρ)} {Allowed : HttpRequest → Prop}
    (asks : ∀ code, .start code ∈ events → code.Asks Allowed) {id : Nat} {request : HttpRequest}
    (asked : (id, .asked request) ∈ (after text baseUrl state events).log) : Allowed request := by
  have splits : (after text baseUrl state events).Splits (.start · ∈ events) :=
    splits_after text baseUrl state events
  have own : .asked request ∈ (after text baseUrl state events).logOf id :=
    List.mem_filterMap.mpr ⟨(id, .asked request), asked, if_pos rfl⟩
  rcases Nat.lt_or_ge id (after text baseUrl state events).started with started | unstarted
  · rcases splits.shown id started with ⟨code, from', answers, known, shows'⟩
    rw [← shows'.log] at own
    exact AsyncRun.asks_exec (asks code known) from' answers request own
  · rw [(splits.blank id unstarted).1] at own
    cases own

end Runs

end HttpSession

end AnychatSdk
