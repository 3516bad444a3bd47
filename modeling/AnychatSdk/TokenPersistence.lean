import AnychatSdk.AuthManager
import AnychatSdk.Lib.EventRun

/-!
# The token across restarts

A token is written as three metadata entries, one statement each, and a process
can end between any two of them.  The next process then restores a token from a
mixture of old and new entries.
-/

namespace AnychatSdk

/-- What the auth manager reacts to by storing or clearing a token. -/
inductive TokenInput where
  | authResponse (response : HttpResponse AuthTokenPayload)
  | logoutResponse (response : HttpResponse Unit)
  | notification (notificationType : String) (payload : Option ForceLogoutPayload)

/-- A handler that runs to its end, a process that ends after some of the writes
of a handler and is restarted, and a restart between handlers. -/
inductive TokenEvent where
  | completed (input : TokenInput)
  | interrupted (input : TokenInput) (writes : Nat)
  | restarted

namespace TokenInput

/-- The handler. -/
def apply (manager : AuthManager) : TokenInput → AuthManager
  | authResponse response => (manager.handleAuthResponse response).2
  | logoutResponse response => (manager.logoutResponse response).2
  | notification notificationType payload =>
      (manager.handleAuthNotification notificationType payload).2

/-- The token the handler writes, if it writes one; clearing writes the blank
token. -/
def written? (manager : AuthManager) : TokenInput → Option AuthToken
  | authResponse response =>
      match parseApiEnvelopeResponse response "auth failed" false false with
      | .error _ => none
      | .ok payload =>
          if payload.accessToken = "" then none else some (manager.receivedToken payload).1
  | logoutResponse response =>
      match parseApiEnvelopeResponse response "logout failed" false false with
      | .error _ => none
      | .ok () => some {}
  | notification notificationType payload =>
      if manager.isForceLogout notificationType payload then some {} else none

/-- The entries the handler writes, in order. -/
def entries (manager : AuthManager) (input : TokenInput) : List (String × String) :=
  (input.written? manager).elim [] AuthToken.entries

end TokenInput

namespace AuthManager

/-- The next process after the handler of `input` was cut off. -/
def restartAfter (input : TokenInput) (writes : Nat) (manager : AuthManager) : AuthManager :=
  { manager with
    db := manager.db.map (Db.setEntries ((input.entries manager).take writes)) }.restart

def stepToken (manager : AuthManager) : TokenEvent → AuthManager
  | .completed input => input.apply manager
  | .interrupted input writes => manager.restartAfter input writes
  | .restarted => manager.restart

/-- A process on this database would restore the token held in memory. -/
def Persisted (manager : AuthManager) : Prop :=
  manager.db.map Db.restoredToken = some manager.token

/-- A process that ends within a handler leaves the token of before or after. -/
def RestoresOneSide (manager : AuthManager) : TokenEvent → Prop
  | .interrupted input writes =>
      (manager.restartAfter input writes).token = manager.token ∨
        (manager.restartAfter input writes).token = (input.apply manager).token
  | _ => True

/-! ## When it does -/

/-- The stored entries that a cut-off write of `token` leaves are those of the
token before, or complete it.  The text of a token is read back as a C string. -/
def SurvivesCut (token : AuthToken) (db : Db) (manager : AuthManager) : Nat → Prop
  | 0 => True
  | 1 =>
      cString token.accessToken = manager.token.accessToken ∨
        NulFree token.accessToken ∧ db.getMeta "auth.refresh_token" "" = token.refreshToken ∧
          strtoll (db.getMeta "auth.expires_at_ms" "0") = token.expiresAtMs
  | 2 =>
      cString token.accessToken = manager.token.accessToken ∧
          (manager.token.accessToken = "" ∨
            cString token.refreshToken = manager.token.refreshToken) ∨
        NulFree token.accessToken ∧ NulFree token.refreshToken ∧
          strtoll (db.getMeta "auth.expires_at_ms" "0") = token.expiresAtMs
  | _ + 3 =>
      cString token.accessToken = manager.token.accessToken ∧
          (manager.token.accessToken = "" ∨
            cString token.refreshToken = manager.token.refreshToken ∧
              token.expiresAtMs = manager.token.expiresAtMs) ∨
        NulFree token.accessToken ∧ NulFree token.refreshToken

/-- The tokens that come in contain no NUL, and a process ends within a handler
only where the cut does no harm. -/
def KeepsTokenWhole (manager : AuthManager) : TokenEvent → Prop
  | .completed input =>
      ∀ token, input.written? manager = some token → token.accessToken ≠ "" →
        NulFree token.accessToken ∧ NulFree token.refreshToken
  | .interrupted input writes =>
      ∀ token, input.written? manager = some token → token.accessToken ≠ "" →
        ∀ db, manager.db = some db → manager.SurvivesCut token db writes
  | .restarted => True

end AuthManager

/-! ## Reading the entries back -/

/-- The token three entries are restored as. -/
def AuthToken.restore (accessToken refreshToken : String) (expiresAtMs : Int64) : AuthToken :=
  if accessToken = "" then {} else ⟨accessToken, refreshToken, expiresAtMs⟩

namespace AuthToken

theorem take_entries (token : AuthToken) (writes : Nat) :
    token.entries.take (writes + 3) = token.entries :=
  List.take_of_length_le (Nat.le_add_left 3 writes)

theorem accessToken_restore (accessToken refreshToken : String) (expiresAtMs : Int64) :
    (restore accessToken refreshToken expiresAtMs).accessToken = accessToken := by
  rw [restore]
  split
  · next empty => exact empty.symm
  · rfl

theorem restore_eq_iff {access refresh otherAccess otherRefresh : String}
    {expires otherExpires : Int64} :
    restore access refresh expires = restore otherAccess otherRefresh otherExpires ↔
      access = otherAccess ∧
        (otherAccess = "" ∨ refresh = otherRefresh ∧ expires = otherExpires) := by
  constructor
  · intro same
    have sameAccess : access = otherAccess := by
      have projected := congrArg AuthToken.accessToken same
      rwa [accessToken_restore, accessToken_restore] at projected
    refine ⟨sameAccess, ?_⟩
    by_cases empty : otherAccess = ""
    · exact .inl empty
    · rw [restore, restore, if_neg empty, if_neg (sameAccess ▸ empty)] at same
      exact .inr (AuthToken.mk.inj same).2
  · rintro ⟨rfl, empty | ⟨rfl, rfl⟩⟩
    · rw [restore, restore, if_pos empty, if_pos empty]
    · rfl

theorem restore_eq_self_iff {token : AuthToken} (hasToken : token.accessToken ≠ "")
    {access refresh : String} {expires : Int64} :
    restore access refresh expires = token ↔
      access = token.accessToken ∧ refresh = token.refreshToken ∧ expires = token.expiresAtMs := by
  have self : token = restore token.accessToken token.refreshToken token.expiresAtMs := by
    rw [restore, if_neg hasToken]
  conv_lhs => rw [self]
  rw [restore_eq_iff, or_iff_right hasToken]

end AuthToken

namespace Db

theorem restoredToken_eq_restore (db : Db) :
    db.restoredToken =
      .restore (db.getMeta "auth.access_token" "") (db.getMeta "auth.refresh_token" "")
        (strtoll (db.getMeta "auth.expires_at_ms" "0")) :=
  rfl

section Cuts

variable (token : AuthToken) (db : Db)

theorem restoredToken_cut_one :
    (db.setEntries (token.entries.take 1)).restoredToken =
      .restore (cString token.accessToken) (db.getMeta "auth.refresh_token" "")
        (strtoll (db.getMeta "auth.expires_at_ms" "0")) := by
  simp [restoredToken_eq_restore, setEntries, AuthToken.entries, getMeta_setMeta]

theorem restoredToken_cut_two :
    (db.setEntries (token.entries.take 2)).restoredToken =
      .restore (cString token.accessToken) (cString token.refreshToken)
        (strtoll (db.getMeta "auth.expires_at_ms" "0")) := by
  simp [restoredToken_eq_restore, setEntries, AuthToken.entries, getMeta_setMeta]

theorem restoredToken_setEntries :
    (db.setEntries token.entries).restoredToken =
      .restore (cString token.accessToken) (cString token.refreshToken) token.expiresAtMs := by
  have expires : cString (toString token.expiresAtMs) = toString token.expiresAtMs :=
    cString_eq_self (nulFree_toString token.expiresAtMs.toInt)
  simp [restoredToken_eq_restore, setEntries, AuthToken.entries, getMeta_setMeta, expires]

end Cuts

end Db

/-! ## What the handlers write -/

namespace TokenInput

variable {manager : AuthManager} {input : TokenInput}

theorem apply_of_written_none (nothing : input.written? manager = none) :
    (input.apply manager).token = manager.token ∧ (input.apply manager).db = manager.db := by
  cases input with
  | authResponse response =>
      simp only [written?] at nothing
      simp only [apply, AuthManager.handleAuthResponse]
      cases parsed : parseApiEnvelopeResponse response "auth failed" false false with
      | error failure => exact ⟨rfl, rfl⟩
      | ok payload =>
          simp only [parsed, ite_eq_left_iff, reduceCtorEq, imp_false, not_not] at nothing
          simp only [AuthManager.receivedToken]
          split <;> simp
  | logoutResponse response =>
      simp only [written?] at nothing
      simp only [apply, AuthManager.logoutResponse]
      cases parsed : parseApiEnvelopeResponse response "logout failed" false false with
      | error failure => exact ⟨rfl, rfl⟩
      | ok data => simp [parsed] at nothing
  | notification notificationType payload =>
      simp only [written?] at nothing
      simp only [apply, AuthManager.handleAuthNotification]
      split
      · next forced => simp [forced] at nothing
      · exact ⟨rfl, rfl⟩

theorem written?_authResponse {response : HttpResponse AuthTokenPayload} {token : AuthToken}
    (written : (authResponse response).written? manager = some token) :
    ∃ payload, parseApiEnvelopeResponse response "auth failed" false false = .ok payload ∧
      payload.accessToken ≠ "" ∧ token = (manager.receivedToken payload).1 := by
  rw [written?] at written
  cases parsed : parseApiEnvelopeResponse response "auth failed" false false with
  | error failure => simp [parsed] at written
  | ok payload =>
      simp only [parsed, Option.ite_none_left_eq_some, Option.some.injEq] at written
      exact ⟨payload, rfl, written.1, written.2.symm⟩

theorem apply_of_written {token : AuthToken} (written : input.written? manager = some token) :
    (input.apply manager).token = token ∧
      (input.apply manager).db = manager.db.map (Db.setEntries token.entries) := by
  have signedOut : manager.signOut.token = {} ∧
      manager.signOut.db = manager.db.map (Db.setEntries (AuthToken.entries {})) := by
    rw [AuthManager.signOut, AuthManager.clearToken_eq_storeToken]
    exact ⟨rfl, rfl⟩
  cases input with
  | authResponse response =>
      rcases written?_authResponse written with ⟨payload, parsed, hasToken, rfl⟩
      simp only [apply, AuthManager.handleAuthResponse, parsed, AuthManager.receivedToken]
      split <;> simp [AuthManager.storeToken]
  | logoutResponse response =>
      simp only [written?] at written
      simp only [apply, AuthManager.logoutResponse]
      cases parsed : parseApiEnvelopeResponse response "logout failed" false false with
      | error failure => simp [parsed] at written
      | ok data =>
          simp only [parsed, Option.some.injEq] at written
          subst written
          exact signedOut
  | notification notificationType payload =>
      simp only [written?, Option.ite_none_right_eq_some, Option.some.injEq] at written
      rcases written with ⟨forced, rfl⟩
      simp only [apply, AuthManager.handleAuthNotification, if_pos forced]
      exact signedOut

/-- A token without an access token is written only to clear the session. -/
theorem written_blank {token : AuthToken} (written : input.written? manager = some token)
    (empty : token.accessToken = "") : token = {} := by
  cases input with
  | authResponse response =>
      rcases written?_authResponse written with ⟨payload, _, hasToken, rfl⟩
      simp only [AuthManager.receivedToken] at empty
      split at empty <;> exact absurd empty hasToken
  | logoutResponse response =>
      simp only [written?] at written
      split at written
      · exact absurd written (by simp)
      · exact (Option.some.inj written).symm
  | notification notificationType payload =>
      simp only [written?, Option.ite_none_right_eq_some, Option.some.injEq] at written
      exact written.2.symm

end TokenInput

/-! ## One event -/

namespace AuthManager

variable {manager : AuthManager}

theorem persisted_restart {db : Db} (stored : manager.db = some db) :
    manager.restart.Persisted := by
  rw [Persisted, restart, start]
  simp [stored]

theorem Persisted.exists_db (persisted : manager.Persisted) :
    ∃ db, manager.db = some db ∧ db.restoredToken = manager.token :=
  Option.map_eq_some_iff.mp persisted

/-- The three entries restore the token in memory exactly when they read as its
parts; a blank token has no parts but the empty access token. -/
theorem restore_eq_token_iff {db : Db} (restored : db.restoredToken = manager.token)
    {access refresh : String} {expires : Int64} :
    AuthToken.restore access refresh expires = manager.token ↔
      access = manager.token.accessToken ∧
        (manager.token.accessToken = "" ∨
          refresh = manager.token.refreshToken ∧ expires = manager.token.expiresAtMs) := by
  have self : manager.token = .restore manager.token.accessToken manager.token.refreshToken
      manager.token.expiresAtMs := by
    by_cases loggedIn : manager.token.accessToken = ""
    · rw [Db.restoredToken_eq_restore] at restored
      have blank : db.getMeta "auth.access_token" "" = "" :=
        (AuthToken.accessToken_restore _ _ _).symm.trans
          ((congrArg AuthToken.accessToken restored).trans loggedIn)
      rw [AuthToken.restore, if_pos loggedIn, ← restored, AuthToken.restore, if_pos blank]
    · rw [AuthToken.restore, if_neg loggedIn]
  conv_lhs => rw [self]
  exact AuthToken.restore_eq_iff

/-- The cut leaves one of the two tokens exactly under the stated condition. -/
theorem restored_cut_iff {token : AuthToken} {db : Db}
    (restored : db.restoredToken = manager.token) (hasToken : token.accessToken ≠ "")
    (writes : Nat) :
    ((db.setEntries (token.entries.take writes)).restoredToken = manager.token ∨
        (db.setEntries (token.entries.take writes)).restoredToken = token) ↔
      manager.SurvivesCut token db writes := by
  have parts := (restore_eq_token_iff restored).mp restored
  match writes with
  | 0 => exact iff_of_true (.inl restored) trivial
  | 1 =>
      rw [Db.restoredToken_cut_one, restore_eq_token_iff restored,
        AuthToken.restore_eq_self_iff hasToken, cString_eq_self_iff, and_iff_left parts.2]
      exact Iff.rfl
  | 2 =>
      rw [Db.restoredToken_cut_two, restore_eq_token_iff restored,
        AuthToken.restore_eq_self_iff hasToken, cString_eq_self_iff, cString_eq_self_iff]
      have sameExpiry : (manager.token.accessToken = "" ∨
          cString token.refreshToken = manager.token.refreshToken ∧
            strtoll (db.getMeta "auth.expires_at_ms" "0") = manager.token.expiresAtMs) ↔
          (manager.token.accessToken = "" ∨
            cString token.refreshToken = manager.token.refreshToken) := by
        rcases parts.2 with blank | ⟨_, expires⟩
        · simp [blank]
        · rw [and_iff_left expires]
      rw [sameExpiry]
      exact Iff.rfl
  | writes + 3 =>
      rw [AuthToken.take_entries, Db.restoredToken_setEntries, restore_eq_token_iff restored,
        AuthToken.restore_eq_self_iff hasToken, cString_eq_self_iff, cString_eq_self_iff,
        and_iff_left rfl]
      exact Iff.rfl

/-- Clearing takes effect with its first write. -/
theorem restored_blank_cut {db : Db} (restored : db.restoredToken = manager.token)
    (writes : Nat) :
    (db.setEntries (AuthToken.entries {} |>.take writes)).restoredToken = manager.token ∨
      (db.setEntries (AuthToken.entries {} |>.take writes)).restoredToken = {} := by
  have blank : ∀ refresh expires, AuthToken.restore (cString "") refresh expires = {} := by
    intro refresh expires
    rw [cString_eq_self nulFree_empty]
    exact if_pos rfl
  match writes with
  | 0 => exact .inl restored
  | 1 => exact .inr ((Db.restoredToken_cut_one {} db).trans (blank _ _))
  | 2 => exact .inr ((Db.restoredToken_cut_two {} db).trans (blank _ _))
  | writes + 3 =>
      rw [AuthToken.take_entries]
      exact .inr ((Db.restoredToken_setEntries {} db).trans (blank _ _))

theorem restoresOneSide_iff (persisted : manager.Persisted) (event : TokenEvent) :
    (manager.RestoresOneSide event ∧ (manager.stepToken event).Persisted) ↔
      manager.KeepsTokenWhole event := by
  rcases persisted.exists_db with ⟨db, stored, restored⟩
  cases event with
  | restarted => exact iff_of_true ⟨trivial, persisted_restart stored⟩ trivial
  | completed input =>
      simp only [RestoresOneSide, true_and, stepToken, KeepsTokenWhole]
      cases written : input.written? manager with
      | none =>
          rcases TokenInput.apply_of_written_none written with ⟨sameToken, sameDb⟩
          refine iff_of_true ?_ (fun _ absent => nomatch absent)
          rw [Persisted, sameToken, sameDb]
          exact persisted
      | some token =>
          rcases TokenInput.apply_of_written written with ⟨newToken, newDb⟩
          rw [Persisted, newToken, newDb, stored]
          simp only [Option.map_some, Option.some.injEq, forall_eq']
          rw [Db.restoredToken_setEntries]
          by_cases empty : token.accessToken = ""
          · refine iff_of_true ?_ (fun hasToken => absurd empty hasToken)
            rw [TokenInput.written_blank written empty]
            decide
          · rw [AuthToken.restore_eq_self_iff empty, cString_eq_self_iff, cString_eq_self_iff,
              and_iff_left rfl, imp_iff_right empty]
  | interrupted input writes =>
      have next : (manager.stepToken (.interrupted input writes)).Persisted :=
        persisted_restart (by rw [stored]; rfl)
      rw [and_iff_left next]
      have token_eq : (manager.restartAfter input writes).token =
          (db.setEntries ((input.entries manager).take writes)).restoredToken := by
        rw [restartAfter, stored]
        rfl
      simp only [RestoresOneSide, KeepsTokenWhole, token_eq, stored, Option.some.injEq, forall_eq']
      cases written : input.written? manager with
      | none =>
          refine iff_of_true (.inl ?_) (fun _ absent => nomatch absent)
          rw [TokenInput.entries, written, Option.elim_none, List.take_nil]
          exact restored
      | some token =>
          rw [(TokenInput.apply_of_written written).1, TokenInput.entries, written,
            Option.elim_some]
          simp only [Option.some.injEq, forall_eq']
          by_cases empty : token.accessToken = ""
          · refine iff_of_true ?_ (fun hasToken => absurd empty hasToken)
            rw [TokenInput.written_blank written empty]
            exact restored_blank_cut restored writes
          · rw [restored_cut_iff restored empty, imp_iff_right empty]

/-! ## Runs -/

/-- In every run from the constructor, the stored token is the one in memory and
every interruption leaves the token of before or after, exactly when the token
is kept whole at every event. -/
theorem persisted_and_restoresOneSide_iff (wallClock : Nat → Int64) (deviceId : String) (db : Db)
    (events : List TokenEvent) :
    (EventRun.Always stepToken Persisted (start wallClock deviceId (some db) 0) events ∧
        EventRun.Guarded stepToken RestoresOneSide (start wallClock deviceId (some db) 0) events) ↔
      EventRun.Guarded stepToken KeepsTokenWhole (start wallClock deviceId (some db) 0) events := by
  have initially : (start wallClock deviceId (some db) 0).Persisted := rfl
  have agree : ∀ (manager : AuthManager) event, manager.Persisted →
      (manager.RestoresOneSide event ∧ (manager.stepToken event).Persisted ↔
        manager.KeepsTokenWhole event) :=
    fun _ event persisted => restoresOneSide_iff persisted event
  have kept : ∀ (manager : AuthManager) event, manager.Persisted →
      manager.KeepsTokenWhole event → (manager.stepToken event).Persisted :=
    fun manager event persisted whole => ((agree manager event persisted).mpr whole).2
  rw [EventRun.always_iff_guarded_step initially, and_comm, ← EventRun.Guarded.and]
  exact EventRun.guarded_iff_guarded agree kept initially events

/-- A login response, and another one whose handler is cut off after its first
write. -/
def cutLogin : List TokenEvent :=
  [.completed (.authResponse
      { statusCode := 200
        body := .parsed { code := 0, data := { accessToken := "a1", refreshToken := "r1" } } }),
    .interrupted (.authResponse
      { statusCode := 200
        body := .parsed { code := 0, data := { accessToken := "a2", refreshToken := "r2" } } }) 1]

/-- The next process has the new access token and the old refresh token. -/
theorem not_restoresOneSide_cutLogin :
    ¬(EventRun.Always stepToken Persisted (start (fun _ => 0) "d1" (some {}) 0) cutLogin ∧
      EventRun.Guarded stepToken RestoresOneSide (start (fun _ => 0) "d1" (some {}) 0)
        cutLogin) := by
  rintro ⟨_, _, before | after, _⟩
  · exact absurd before (by decide)
  · exact absurd after (by decide)

end AuthManager

end AnychatSdk
