import AnychatSdk.AuthManager
import AnychatSdk.Lib.EventRun

/-!
# Revoked sessions

Requests are answered in any order, and the handler of a response does not know
whether the token has been cleared since its request went out.  The system below
keeps that knowledge next to the manager: every request carries the number of
clearings before it.
-/

namespace AnychatSdk

/-- The requests of the auth manager; `other` is any that leaves the session
alone. -/
inductive AuthRequest where
  | registerUser
  | login
  | refreshToken
  | logout
  | other
  deriving DecidableEq

/-- The response goes to `handleAuthResponse`. -/
def AuthRequest.BringsToken : AuthRequest → Prop
  | registerUser | login | refreshToken => True
  | logout | other => False

instance : DecidablePred AuthRequest.BringsToken
  | .registerUser | .login | .refreshToken => isTrue trivial
  | .logout | .other => isFalse id

/-- The manager and its requests in flight, each with the number of clearings
before it.  `revoked` says that no call issued after the last clearing has
completed yet. -/
structure AuthSystem where
  manager : AuthManager
  inFlight : List (AuthRequest × Nat) := []
  clearings : Nat := 0
  revoked : Bool := false

inductive AuthEvent where
  | call (request : AuthRequest)
  | ensureValidToken (now : Int64)
  | authResponse (index : Nat) (response : HttpResponse AuthTokenPayload)
  | logoutResponse (index : Nat) (response : HttpResponse Unit)
  | otherResponse (index : Nat)
  | notification (notificationType : String) (payload : Option ForceLogoutPayload)
  | restart

namespace AuthSystem

def start (wallClock : Nat → Int64) (deviceId : String) (db : Option Db) : AuthSystem where
  manager := .start wallClock deviceId db 0

def issue (request : AuthRequest) (system : AuthSystem) : AuthSystem :=
  { system with inFlight := system.inFlight ++ [(request, system.clearings)] }

/-- The token has been cleared. -/
def cleared (manager : AuthManager) (system : AuthSystem) : AuthSystem :=
  { system with manager := manager, clearings := system.clearings + 1, revoked := true }

/-- A response to a request issued before the last clearing. -/
def Late (index : Nat) (system : AuthSystem) : Prop :=
  ∃ request issued, system.inFlight[index]? = some (request, issued) ∧
    request.BringsToken ∧ issued < system.clearings

/-- A completed call ends the revocation if it was issued after the clearing. -/
def deliver (index : Nat) (response : HttpResponse AuthTokenPayload) (system : AuthSystem) :
    AuthSystem :=
  match system.inFlight[index]? with
  | some (request, issued) =>
      if request.BringsToken then
        let (outcome, manager) := system.manager.handleAuthResponse response
        { system with
          manager := manager
          inFlight := system.inFlight.eraseIdx index
          revoked := system.revoked && (!outcome.isOk || issued < system.clearings) }
      else system
  | none => system

def step (system : AuthSystem) : AuthEvent → AuthSystem
  | .call request => system.issue request
  | .ensureValidToken now =>
      match system.manager.ensureValidToken now with
      | .refresh _ => system.issue .refreshToken
      | _ => system
  | .authResponse index response => system.deliver index response
  | .logoutResponse index response =>
      match system.inFlight[index]? with
      | some (.logout, _) =>
          let answered := { system with inFlight := system.inFlight.eraseIdx index }
          match system.manager.logoutResponse response with
          | (.ok (), manager) => answered.cleared manager
          | (.error _, _) => answered
      | _ => system
  | .otherResponse index =>
      match system.inFlight[index]? with
      | some (.other, _) => { system with inFlight := system.inFlight.eraseIdx index }
      | _ => system
  | .notification notificationType payload =>
      match system.manager.handleAuthNotification notificationType payload with
      | (true, manager) => system.cleared manager
      | (false, _) => system
  | .restart => { system with manager := system.manager.restart, inFlight := [] }

end AuthSystem

/-! ## The property -/

/-- What the session consists of: the token in memory, the access token in the
metadata table and the bearer token. -/
structure Session where
  token : AuthToken
  storedAccessToken : Option String
  authToken : String
  deriving DecidableEq

namespace AuthManager

def storedAccessToken (manager : AuthManager) : Option String :=
  manager.db.bind fun db => db.metadata.lookup "auth.access_token"

def session (manager : AuthManager) : Session :=
  ⟨manager.token, manager.storedAccessToken, manager.authToken⟩

/-- The session that a token is installed as. -/
def sessionOf (token : AuthToken) (manager : AuthManager) : Session :=
  ⟨token, manager.db.map fun _ => token.accessToken, token.accessToken⟩

/-- Nobody is logged in, now or later, and no access token is kept. -/
def SignedOut (manager : AuthManager) : Prop :=
  (∀ now, manager.isLoggedIn now = false) ∧
    manager.storedAccessToken.getD "" = "" ∧ manager.authToken = ""

end AuthManager

namespace AuthSystem

/-- A revoked session is signed out. -/
def StaysRevoked (system : AuthSystem) : Prop :=
  system.revoked = true → system.manager.SignedOut

/-- A late response leaves the session as it is. -/
def LateKeepsSession (system : AuthSystem) : AuthEvent → Prop
  | .authResponse index response =>
      system.Late index →
        (system.step (.authResponse index response)).manager.session = system.manager.session
  | _ => True

/-- A late response is refused, or carries no access token, or brings the very
token that is installed. -/
def LateIsHarmless (system : AuthSystem) : AuthEvent → Prop
  | .authResponse index response =>
      system.Late index →
        ∀ payload, parseApiEnvelopeResponse response "auth failed" false false = .ok payload →
          payload.accessToken ≠ "" →
            system.manager.session =
              system.manager.sessionOf (system.manager.receivedToken payload).1
  | _ => True

end AuthSystem

/-! ## What the handlers do to the session -/

namespace AuthManager

theorem storedAccessToken_storeToken (token : AuthToken) (manager : AuthManager) :
    (manager.storeToken token).storedAccessToken = manager.db.map fun _ => token.accessToken := by
  rw [storedAccessToken, storeToken]
  cases manager.db with
  | none => rfl
  | some db =>
      have written : (db.setEntries token.entries).metadata.lookup "auth.access_token" =
          some token.accessToken := by
        simp only [Db.setEntries, AuthToken.entries, List.foldl_cons, List.foldl_nil, Stmt.run,
          KeyTable.lookup_upsert]
        cases db.metadata.lookup "auth.access_token" <;> rfl
      exact written

/-- Receiving a token reads the clock and changes nothing else. -/
theorem receivedToken_snd (payload : AuthTokenPayload) (manager : AuthManager) :
    ∃ clockReads, (manager.receivedToken payload).2 =
      { manager with clockReads := clockReads } := by
  rw [receivedToken]
  split
  · exact ⟨_, rfl⟩
  · exact ⟨manager.clockReads, rfl⟩

section Responses

variable (manager : AuthManager) {response : HttpResponse AuthTokenPayload}

/-- A successful response with an access token installs it. -/
theorem handleAuthResponse_installs {payload : AuthTokenPayload}
    (parsed : parseApiEnvelopeResponse response "auth failed" false false = .ok payload)
    (hasToken : payload.accessToken ≠ "") :
    (manager.handleAuthResponse response).1 = .ok (manager.receivedToken payload).1 ∧
      (manager.handleAuthResponse response).2.session =
        manager.sessionOf (manager.receivedToken payload).1 := by
  have received := manager.accessToken_receivedToken payload
  rcases manager.receivedToken_snd payload with ⟨clockReads, rest⟩
  have nonempty : (manager.receivedToken payload).1.accessToken ≠ "" := by rwa [received]
  have handled : manager.handleAuthResponse response =
      (.ok (manager.receivedToken payload).1,
        { (manager.receivedToken payload).2.storeToken (manager.receivedToken payload).1 with
          authToken := (manager.receivedToken payload).1.accessToken }) := by
    rw [handleAuthResponse, parsed]
    exact if_neg nonempty
  rw [handled]
  refine ⟨rfl, ?_⟩
  have stored := storedAccessToken_storeToken (manager.receivedToken payload).1
    (manager.receivedToken payload).2
  rw [rest] at stored ⊢
  exact congrArg (Session.mk _ · _) stored

/-- Any other response is refused, and the session stays. -/
theorem handleAuthResponse_refused
    (refused : ∀ payload,
      parseApiEnvelopeResponse response "auth failed" false false = .ok payload →
        payload.accessToken = "") :
    (manager.handleAuthResponse response).1.isOk = false ∧
      (manager.handleAuthResponse response).2.session = manager.session := by
  rw [handleAuthResponse]
  cases parsed : parseApiEnvelopeResponse response "auth failed" false false with
  | error failure => exact ⟨rfl, rfl⟩
  | ok payload =>
      have empty : (manager.receivedToken payload).1.accessToken = "" :=
        (manager.accessToken_receivedToken payload).trans (refused payload parsed)
      rcases manager.receivedToken_snd payload with ⟨clockReads, rest⟩
      simp only [if_pos empty, rest]
      exact ⟨rfl, rfl⟩

end Responses

/-- No access token in any of the three places. -/
def Blank (manager : AuthManager) : Prop :=
  manager.token.accessToken = "" ∧ manager.storedAccessToken.getD "" = "" ∧ manager.authToken = ""

theorem Blank.signedOut {manager : AuthManager} (blank : manager.Blank) : manager.SignedOut := by
  refine ⟨fun now => ?_, blank.2⟩
  simp [isLoggedIn, blank.1]

theorem Blank.of_session_eq {first second : AuthManager} (blank : first.Blank)
    (same : second.session = first.session) : second.Blank := by
  rcases Session.mk.inj same with ⟨token, stored, authToken⟩
  rw [Blank, token, stored, authToken]
  exact blank

theorem blank_signOut (manager : AuthManager) : manager.signOut.Blank := by
  have stored := manager.storedAccessToken_storeToken {}
  rw [← clearToken_eq_storeToken] at stored
  refine ⟨rfl, ?_, rfl⟩
  change manager.clearToken.storedAccessToken.getD "" = ""
  rw [stored]
  cases manager.db <;> rfl

theorem Blank.restart {manager : AuthManager} (blank : manager.Blank) : manager.restart.Blank := by
  have restored : ((manager.db.map Db.restoredToken).getD {}).accessToken = "" := by
    have stored := blank.2.1
    rw [storedAccessToken] at stored
    cases found : manager.db with
    | none => rfl
    | some db =>
        rw [found] at stored
        have read : db.getMeta "auth.access_token" "" = "" := by
          rw [Db.getMeta]
          cases entry : db.metadata.lookup "auth.access_token" with
          | none => rfl
          | some value =>
              have empty : value = "" := by simpa [entry] using stored
              rw [empty]
              exact columnText_none
        change db.restoredToken.accessToken = ""
        rw [Db.restoredToken, if_pos read]
  exact ⟨restored, blank.2.1, restored⟩

end AuthManager

/-! ## Steps and runs -/

namespace AuthSystem

variable {system : AuthSystem}

theorem late_iff {index : Nat} {request : AuthRequest} {issued : Nat}
    (found : system.inFlight[index]? = some (request, issued)) :
    system.Late index ↔ request.BringsToken ∧ issued < system.clearings := by
  constructor
  · rintro ⟨_, _, lookup, late⟩
    rcases Prod.mk.inj (Option.some.inj (found.symm.trans lookup)) with ⟨rfl, rfl⟩
    exact late
  · intro late
    exact ⟨request, issued, found, late⟩

theorem lateKeepsSession_iff (event : AuthEvent) :
    system.LateKeepsSession event ↔ system.LateIsHarmless event := by
  cases event with
  | authResponse index response =>
      refine imp_congr_right fun late => ?_
      rcases late with ⟨request, issued, found, bringsToken, _⟩
      have delivered : (system.step (.authResponse index response)).manager =
          (system.manager.handleAuthResponse response).2 := by
        simp only [step, deliver, found, if_pos bringsToken]
      rw [delivered]
      by_cases refused : ∀ payload,
          parseApiEnvelopeResponse response "auth failed" false false = .ok payload →
            payload.accessToken = ""
      · refine iff_of_true (system.manager.handleAuthResponse_refused refused).2 ?_
        intro payload parsed hasToken
        exact absurd (refused payload parsed) hasToken
      · simp only [not_forall] at refused
        rcases refused with ⟨payload, parsed, hasToken⟩
        rw [(system.manager.handleAuthResponse_installs parsed hasToken).2]
        constructor
        · intro same other otherParsed _
          rcases Except.ok.inj (parsed.symm.trans otherParsed)
          exact same.symm
        · intro harmless
          exact (harmless payload parsed hasToken).symm
  | _ => exact Iff.rfl

/-- The invariant behind `StaysRevoked`. -/
def RevokedBlank (system : AuthSystem) : Prop :=
  system.revoked = true → system.manager.Blank

theorem RevokedBlank.deliver (blank : system.RevokedBlank) {index : Nat}
    {response : HttpResponse AuthTokenPayload}
    (harmless : system.LateIsHarmless (.authResponse index response)) :
    (system.deliver index response).RevokedBlank := by
  rw [AuthSystem.deliver]
  split
  · next request issued found =>
      split
      · next bringsToken =>
          intro stillRevoked
          simp only [Bool.and_eq_true, Bool.or_eq_true, Bool.not_eq_true', decide_eq_true_eq]
            at stillRevoked
          rcases stillRevoked with ⟨revoked, unfinished⟩
          by_cases refused : ∀ payload,
              parseApiEnvelopeResponse response "auth failed" false false = .ok payload →
                payload.accessToken = ""
          · exact (blank revoked).of_session_eq
              (system.manager.handleAuthResponse_refused refused).2
          · simp only [not_forall] at refused
            rcases refused with ⟨payload, parsed, hasToken⟩
            have installed := system.manager.handleAuthResponse_installs parsed hasToken
            rw [installed.1] at unfinished
            rcases unfinished with failed | late
            · exact absurd failed (by simp [Except.isOk, Except.toBool])
            · have same := harmless ((late_iff found).mpr ⟨bringsToken, late⟩) payload parsed
                hasToken
              exact (blank revoked).of_session_eq (installed.2.trans same.symm)
      · exact blank
  · exact blank

theorem RevokedBlank.step (blank : system.RevokedBlank) {event : AuthEvent}
    (harmless : system.LateIsHarmless event) : (system.step event).RevokedBlank := by
  cases event with
  | call request => exact blank
  | ensureValidToken now =>
      rw [AuthSystem.step]
      split <;> exact blank
  | authResponse index response => exact blank.deliver harmless
  | logoutResponse index response =>
      simp only [AuthSystem.step]
      split
      · rw [AuthManager.logoutResponse]
        cases parseApiEnvelopeResponse response "logout failed" false false with
        | error failure => exact blank
        | ok data => exact fun _ => AuthManager.blank_signOut system.manager
      · exact blank
  | otherResponse index =>
      rw [AuthSystem.step]
      split <;> exact blank
  | notification notificationType payload =>
      simp only [AuthSystem.step, AuthManager.handleAuthNotification]
      cases system.manager.isForceLogout notificationType payload with
      | false => exact blank
      | true => exact fun _ => AuthManager.blank_signOut system.manager
  | restart => exact fun revoked => (blank revoked).restart

/-- In every run, a revoked session stays revoked and no late response changes
the session exactly when every late response is harmless. -/
theorem staysRevoked_iff (wallClock : Nat → Int64) (deviceId : String) (db : Option Db)
    (events : List AuthEvent) :
    (EventRun.Always step StaysRevoked (start wallClock deviceId db) events ∧
        EventRun.Guarded step LateKeepsSession (start wallClock deviceId db) events) ↔
      EventRun.Guarded step LateIsHarmless (start wallClock deviceId db) events := by
  have guards : EventRun.Guarded step LateKeepsSession (start wallClock deviceId db) events ↔
      EventRun.Guarded step LateIsHarmless (start wallClock deviceId db) events := by
    have agree : ∀ (system : AuthSystem) event, True →
        (system.LateKeepsSession event ↔ system.LateIsHarmless event) :=
      fun _ event _ => lateKeepsSession_iff event
    exact EventRun.guarded_iff_guarded agree (fun _ _ _ _ => trivial) trivial events
  constructor
  · rintro ⟨_, keeps⟩
    exact guards.mp keeps
  · intro harmless
    have kept : ∀ (system : AuthSystem) event, system.RevokedBlank →
        system.LateIsHarmless event → (system.step event).RevokedBlank :=
      fun _ _ blank harmless => blank.step harmless
    have initially : (start wallClock deviceId db).RevokedBlank := fun revoked => nomatch revoked
    have blank := EventRun.always_of_guarded kept initially harmless
    exact ⟨blank.mono fun _ blank revoked => (blank revoked).signedOut, guards.mpr harmless⟩

/-- A refresh request, a forced logout, and then the response to the request. -/
def lateRefresh : List AuthEvent :=
  [.call .refreshToken, .notification "auth.force_logout" none,
    .authResponse 0
      { statusCode := 200
        body := .parsed
          { code := 0
            data := { accessToken := "a1", refreshToken := "r1", expiresIn := 3600 } } }]

/-- The response logs the revoked session in again. -/
theorem not_staysRevoked_lateRefresh :
    ¬(EventRun.Always step StaysRevoked (start (fun _ => 0) "d1" (some {})) lateRefresh ∧
      EventRun.Guarded step LateKeepsSession (start (fun _ => 0) "d1" (some {})) lateRefresh) := by
  rintro ⟨always, _⟩
  have loggedIn : (EventRun.exec step (start (fun _ => 0) "d1" (some {}))
      lateRefresh).manager.isLoggedIn 0 = true := by decide
  have signedOut := always.last rfl
  exact absurd (loggedIn.symm.trans (signedOut.1 0)) (by decide)

end AuthSystem

end AnychatSdk
