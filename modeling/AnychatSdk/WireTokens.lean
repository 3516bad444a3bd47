import AnychatSdk.TokenSessions

/-!
# Bearer tokens on the wire

Only the auth manager sets the bearer token of the HTTP client, to one that it holds
or has held: another thread may be between the two.  So a request never carries
a token but one of the first state, one that the server has issued in the session, or
one that others have put into the manager, and it carries it up to its first NUL.
-/

namespace AnychatSdk

/-- What happens in a session in which the manager sets the bearer token. -/
inductive ManagedEvent (ρ : Type) : Type 1 where
  | event (event : SdkEvent ρ)
  /-- Set the bearer token that the manager held after some of the events -/
  | push (read : Nat)

namespace SdkSession

variable {ρ : Type} (env : SdkEnvironment) (text : List UInt8 → String) (baseUrl : String)
  (state : SdkState)

/-- The events of a session after which there is one more.  Nobody else sets a token. -/
def manage (done : List (SdkEvent ρ)) : ManagedEvent ρ → List (SdkEvent ρ)
  | .event (.client (.setAuthToken _)) => done
  | .event event => done ++ [event]
  | .push read =>
      done ++ [.client (.setAuthToken
        (after env text baseUrl state (done.take read)).state.tokens.bearer)]

/-- The events of a session that the manager takes part in. -/
def managed (events : List (ManagedEvent ρ)) : List (SdkEvent ρ) :=
  EventRun.exec (manage env text baseUrl state) [] events

/-- Each token that is set was held after some of the events. -/
def SetsHeld (events : List (SdkEvent ρ)) : Prop :=
  ∀ token, .client (.setAuthToken token) ∈ events →
    ∃ first, first <+: events ∧
      (after env text baseUrl state first).state.tokens.bearer = token

variable {env text baseUrl state}

theorem SetsHeld.concat {done : List (SdkEvent ρ)} (held : SetsHeld env text baseUrl state done)
    {event : SdkEvent ρ}
    (sets : ∀ token, event = .client (.setAuthToken token) →
      ∃ first, first <+: done ∧ (after env text baseUrl state first).state.tokens.bearer = token) :
    SetsHeld env text baseUrl state (done ++ [event]) := by
  intro token member
  rcases List.mem_append.mp member with before | last
  · rcases held token before with ⟨first, starts, same⟩
    exact ⟨first, starts.trans (List.prefix_append _ _), same⟩
  · rcases sets token (List.mem_singleton.mp last).symm with ⟨first, starts, same⟩
    exact ⟨first, starts.trans (List.prefix_append _ _), same⟩

theorem SetsHeld.manage {done : List (SdkEvent ρ)} (held : SetsHeld env text baseUrl state done)
    (event : ManagedEvent ρ) :
    SetsHeld env text baseUrl state (manage env text baseUrl state done event) := by
  unfold SdkSession.manage
  split
  · exact held
  · next event other =>
      exact held.concat fun token same => absurd same (other token)
  · next read =>
      refine held.concat fun token same => ?_
      cases same
      exact ⟨done.take read, List.take_prefix read done, rfl⟩

variable (env text baseUrl state)

theorem setsHeld_managed (events : List (ManagedEvent ρ)) :
    SetsHeld env text baseUrl state (managed env text baseUrl state events) :=
  EventRun.exec_invariant (fun _ event held => held.manage event) nofun events

/-! ## Where tokens come from -/

/-- A token was there, or a server has issued it in the session, or it is from others. -/
def Sourced (events : List (SdkEvent ρ)) (token : String) : Prop :=
  state.tokens.bearer = token ∨
  (∃ id raw call, .answered id raw ∈ (SdkPart.tokens env).happened text baseUrl state events ∧
    (calls events)[id]? = some call ∧ SdkCall.IssuesAccess env token call.2 raw) ∨
  ∃ tokens, .changed tokens ∈ (SdkPart.tokens env).happened text baseUrl state events ∧
    tokens.bearer = token

variable {env text baseUrl state} {events first : List (SdkEvent ρ)} {token : String}

theorem sourced_of_held (nonempty : token ≠ "")
    (held : (after env text baseUrl state events).state.tokens.bearer = token) :
    Sourced env text baseUrl state events token :=
  (SdkPart.tokens env).origin (fun tokens : SessionTokens => tokens.bearer = token)
    (fun call raw tokens found => (call.writesTokens env raw tokens).issuesAccess nonempty found)
    held

/-- What has happened up to some point is part of what has happened. -/
theorem Sourced.later (sourced : Sourced env text baseUrl state first token)
    (starts : first <+: events) : Sourced env text baseUrl state events token := by
  rcases starts with ⟨rest, rfl⟩
  have longer : ∀ item ∈ (SdkPart.tokens env).happened text baseUrl state first,
      item ∈ (SdkPart.tokens env).happened text baseUrl state (first ++ rest) := by
    intro item member
    rw [SdkPart.happened, List.map_append, EventRun.outputs_append]
    exact List.mem_append_left _ member
  rcases sourced with initially | ⟨id, raw, call, listed, called, brings⟩ | ⟨tokens, listed, same⟩
  · exact .inl initially
  · refine .inr (.inl ⟨id, raw, call, longer _ listed, ?_, brings⟩)
    rw [calls, List.filterMap_append, List.getElem?_append_left]
    · exact called
    · exact (List.getElem?_eq_some_iff.mp called).1
  · exact .inr (.inr ⟨tokens, longer _ listed, same⟩)

variable (env text baseUrl state)

/-- What holds of the tokens that the requests of a session carry. -/
structure TokensSourced (events : List (ManagedEvent ρ)) : Prop where
  sourced : ∀ ctx ∈ (after env text baseUrl state
      (managed env text baseUrl state events)).client.openCtxs, ∀ token,
    ctx.Carries token → ∃ given ≠ "",
      Sourced env text baseUrl state (managed env text baseUrl state events) given ∧
        token = cString given
  /-- And they reach the host of the base URL, but for uploads that stray. -/
  home : ∀ ctx ∈ (after env text baseUrl state
      (managed env text baseUrl state events)).client.openCtxs, ∀ token,
    ctx.Carries token → ∀ home, UrlAuthority.authority (cString baseUrl).toList = some home →
      UrlAuthority.authority ctx.url.toList = some home ∨ ctx.Strays baseUrl

/-- However the threads interleave, and whatever the server answers. -/
theorem tokensSourced (events : List (ManagedEvent ρ)) :
    TokensSourced env text baseUrl state events := by
  refine ⟨fun ctx opened token carries => ?_, fun ctx opened token carries home found => ?_⟩
  · rcases (traced_of_carries env text baseUrl state opened carries).1 with
      ⟨given, nonempty, set, same⟩
    rcases setsHeld_managed env text baseUrl state events given set with ⟨first, starts, held⟩
    exact ⟨given, nonempty, (sourced_of_held nonempty held).later starts, same⟩
  · exact home_of_carries env text baseUrl state opened carries found

end SdkSession

end AnychatSdk
