import AnychatSdk.TokenPersistence

/-!
# How long a login lasts

A token is good until its lifetime is over, or until it is cleared when the server
sets no lifetime.  Both tests of a token compare its expiry with the clock, also when
no expiry is set.
-/

namespace AnychatSdk

/-- When the lifetime of a token is over, in milliseconds; nothing when the response
sets no lifetime. -/
def AuthTokenPayload.expiry? (payload : AuthTokenPayload) (reportedAt : Int64) : Option Int :=
  if 0 < payload.expiresIn then some (reportedAt.toInt + payload.expiresIn.toInt * 1000) else none

namespace AuthManager

/-- The time of the response that is handled next. -/
def reportedAt (manager : AuthManager) : Int64 :=
  manager.wallClock manager.clockReads

/-- The token is neither cleared nor replaced; a process ends only where there is a
database to restore the token from. -/
def KeepsToken (manager : AuthManager) : TokenEvent → Prop
  | .completed input => input.written? manager = none
  | .interrupted input _ => input.written? manager = none ∧ manager.db ≠ none
  | .restarted => manager.db ≠ none

/-- Both tests accept the token for its lifetime; `ensureValidToken` stops five
minutes earlier. -/
structure LoggedInFor (manager : AuthManager) (reportedAt : Int64) (expiry? : Option Int) :
    Prop where
  loggedIn : ∀ now, reportedAt ≤ now → (∀ expiry ∈ expiry?, now.toInt < expiry) →
    manager.isLoggedIn now = true
  valid : ∀ now, reportedAt ≤ now →
    (∀ expiry ∈ expiry?, now.toInt + tokenRefreshLeewayMs.toInt < expiry) →
    manager.ensureValidToken now = .valid

/-- After the response, whatever happens that keeps the token, restarts included. -/
def StaysLoggedIn (manager : AuthManager) (response : HttpResponse AuthTokenPayload)
    (payload : AuthTokenPayload) : Prop :=
  ∀ later, EventRun.Guarded stepToken KeepsToken (manager.handleAuthResponse response).2 later →
    (EventRun.exec stepToken (manager.handleAuthResponse response).2 later).LoggedInFor
      manager.reportedAt (payload.expiry? manager.reportedAt)

/-! ## Holding a token -/

/-- A token that expires at `expiresAtMs` is held, in memory and by any next process. -/
structure Holds (manager : AuthManager) (expiresAtMs : Int64) : Prop where
  accessToken : manager.token.accessToken ≠ ""
  expires : manager.token.expiresAtMs = expiresAtMs
  restoredAccess : ∀ db, manager.db = some db → db.restoredToken.accessToken ≠ ""
  restoredExpires : ∀ db, manager.db = some db → db.restoredToken.expiresAtMs = expiresAtMs

theorem Holds.restart {manager : AuthManager} {expiresAtMs : Int64}
    (holds : manager.Holds expiresAtMs) (stored : manager.db ≠ none) :
    manager.restart.Holds expiresAtMs := by
  obtain ⟨db, isStored⟩ := Option.ne_none_iff_exists'.mp stored
  have sameDb : manager.restart.db = manager.db := rfl
  have token : manager.restart.token = db.restoredToken := by
    rw [AuthManager.restart, start, isStored]
    rfl
  constructor
  · rw [token]
    exact holds.restoredAccess db isStored
  · rw [token]
    exact holds.restoredExpires db isStored
  · rw [sameDb]
    exact holds.restoredAccess
  · rw [sameDb]
    exact holds.restoredExpires

/-- What keeps the token keeps it in both places. -/
theorem Holds.stepToken {manager : AuthManager} {expiresAtMs : Int64}
    (holds : manager.Holds expiresAtMs) {event : TokenEvent} (keeps : manager.KeepsToken event) :
    (manager.stepToken event).Holds expiresAtMs := by
  cases event with
  | completed input =>
      obtain ⟨sameToken, sameDb⟩ := TokenInput.apply_of_written_none keeps
      change (input.apply manager).Holds expiresAtMs
      constructor
      · rw [sameToken]
        exact holds.accessToken
      · rw [sameToken]
        exact holds.expires
      · rw [sameDb]
        exact holds.restoredAccess
      · rw [sameDb]
        exact holds.restoredExpires
  | interrupted input writes =>
      have noEntries : (input.entries manager).take writes = [] := by
        rw [TokenInput.entries, keeps.1, Option.elim_none, List.take_nil]
      have sameDb : manager.db.map (Db.setEntries []) = manager.db := by
        cases manager.db <;> rfl
      change (manager.restartAfter input writes).Holds expiresAtMs
      rw [restartAfter, noEntries, sameDb]
      exact holds.restart keeps.2
  | restarted => exact holds.restart keeps

theorem Holds.exec {manager : AuthManager} {expiresAtMs : Int64}
    (holds : manager.Holds expiresAtMs) {later : List TokenEvent}
    (keeps : EventRun.Guarded AuthManager.stepToken KeepsToken manager later) :
    (EventRun.exec AuthManager.stepToken manager later).Holds expiresAtMs := by
  induction later generalizing manager with
  | nil => exact holds
  | cons event later ih => exact ih (holds.stepToken keeps.1) keeps.2

/-- A held token that expires at a time of the clock is accepted until then. -/
theorem Holds.loggedInFor {manager : AuthManager} {expiresAtMs : Int64}
    (holds : manager.Holds expiresAtMs) (reportedAt : Int64) :
    manager.LoggedInFor reportedAt (some expiresAtMs.toInt) := by
  constructor
  · intro now _ before
    have early : now < expiresAtMs := Int64.lt_iff_toInt_lt.mpr (before _ rfl)
    rw [isLoggedIn, holds.expires]
    simp [holds.accessToken, early]
  · intro now _ before
    have early := before _ rfl
    have leeway : tokenRefreshLeewayMs.toInt = 300000 := rfl
    have expiry := expiresAtMs.toInt_lt
    have start := now.le_toInt
    have sum : (now + tokenRefreshLeewayMs).toInt = now.toInt + tokenRefreshLeewayMs.toInt := by
      rw [Int64.toInt_add]
      exact Int.bmod_eq_of_le (by omega) (by omega)
    have inTime : now + tokenRefreshLeewayMs < expiresAtMs := by
      rw [Int64.lt_iff_toInt_lt, sum]
      exact early
    rw [ensureValidToken, holds.expires, if_pos ⟨holds.accessToken, inTime⟩]

/-! ## The response -/

/-- No token is accepted at the end of the clock. -/
theorem not_isLoggedIn_maxValue (manager : AuthManager) :
    manager.isLoggedIn Int64.maxValue = false := by
  simp [isLoggedIn]

/-- A lifetime that ends within the clock's range is kept as it is. -/
theorem expiresAtMs_receivedToken {manager : AuthManager} {payload : AuthTokenPayload}
    (lifetime : 0 < payload.expiresIn)
    (inRange : manager.reportedAt.toInt + payload.expiresIn.toInt * 1000 ≤ Int64.maxValue.toInt) :
    payload.expiry? manager.reportedAt =
      some (manager.receivedToken payload).1.expiresAtMs.toInt := by
  have positive : 0 < payload.expiresIn.toInt := Int64.lt_iff_toInt_lt.mp lifetime
  have notBefore := manager.reportedAt.le_toInt
  rw [Int64.toInt_maxValue] at inRange
  have sum : manager.reportedAt + payload.expiresIn * 1000 =
      Int64.ofInt (manager.reportedAt.toInt + payload.expiresIn.toInt * 1000) := by
    rw [Int64.ofInt_add, Int64.ofInt_mul, Int64.ofInt_toInt, Int64.ofInt_toInt]
    rfl
  have value : (manager.reportedAt + payload.expiresIn * 1000).toInt =
      manager.reportedAt.toInt + payload.expiresIn.toInt * 1000 := by
    rw [sum]
    exact Int64.toInt_ofInt_of_le (by omega) (by omega)
  rw [AuthTokenPayload.expiry?, if_pos lifetime, receivedToken, if_pos lifetime]
  exact congrArg some value.symm

section Response

variable {manager : AuthManager} {response : HttpResponse AuthTokenPayload}
  {payload : AuthTokenPayload}
  (accepted : parseApiEnvelopeResponse response "auth failed" false false = .ok payload)
  (hasToken : payload.accessToken ≠ "")

include accepted hasToken

theorem state_handleAuthResponse :
    (manager.handleAuthResponse response).2.token = (manager.receivedToken payload).1 ∧
      (manager.handleAuthResponse response).2.db =
        manager.db.map (Db.setEntries (manager.receivedToken payload).1.entries) := by
  have written : (TokenInput.authResponse response).written? manager =
      some (manager.receivedToken payload).1 := by
    simp only [TokenInput.written?, accepted, if_neg hasToken]
  exact TokenInput.apply_of_written written

/-- The next process finds the access token as a C string. -/
theorem restoredToken_handleAuthResponse {db : Db} (stored : manager.db = some db) :
    (manager.handleAuthResponse response).2.db.map Db.restoredToken =
      some (.restore (cString payload.accessToken)
        (cString (manager.receivedToken payload).1.refreshToken)
        (manager.receivedToken payload).1.expiresAtMs) := by
  rw [(state_handleAuthResponse accepted hasToken).2, stored, Option.map_some, Option.map_some,
    Db.restoredToken_setEntries, accessToken_receivedToken]

theorem holds_handleAuthResponse
    (readBack : manager.db ≠ none → cString payload.accessToken ≠ "") :
    (manager.handleAuthResponse response).2.Holds
      (manager.receivedToken payload).1.expiresAtMs := by
  have state := @state_handleAuthResponse manager response payload accepted hasToken
  have restored : ∀ db, (manager.handleAuthResponse response).2.db = some db →
      db.restoredToken.accessToken ≠ "" ∧
        db.restoredToken.expiresAtMs = (manager.receivedToken payload).1.expiresAtMs := by
    intro db isStored
    cases stored : manager.db with
    | none =>
        rw [state.2, stored, Option.map_none] at isStored
        exact absurd isStored.symm (Option.some_ne_none db)
    | some before =>
        have named : cString payload.accessToken ≠ "" :=
          readBack (by rw [stored]; exact Option.some_ne_none before)
        have found := restoredToken_handleAuthResponse accepted hasToken stored
        rw [isStored, Option.map_some, AuthToken.restore, if_neg named] at found
        rw [Option.some.inj found]
        exact ⟨named, rfl⟩
  constructor
  · rw [state.1, accessToken_receivedToken]
    exact hasToken
  · rw [state.1]
  · exact fun db isStored => (restored db isStored).1
  · exact fun db isStored => (restored db isStored).2

/-- A login lasts exactly when the response sets a lifetime that ends within the range
of the clock and, where there is a database, the access token does not begin with a
NUL. -/
theorem staysLoggedIn_iff : manager.StaysLoggedIn response payload ↔
    0 < payload.expiresIn ∧
      manager.reportedAt.toInt + payload.expiresIn.toInt * 1000 ≤ Int64.maxValue.toInt ∧
      (manager.db ≠ none → cString payload.accessToken ≠ "") := by
  constructor
  · intro stays
    have atEnd := (stays [] EventRun.guarded_nil).loggedIn Int64.maxValue (Int64.le_maxValue _)
    have refused : ¬ ∀ expiry ∈ payload.expiry? manager.reportedAt,
        Int64.maxValue.toInt < expiry := by
      intro before
      exact Bool.false_ne_true ((not_isLoggedIn_maxValue _).symm.trans (atEnd before))
    have lifetime : 0 < payload.expiresIn := by
      by_contra noLifetime
      apply refused
      rintro expiry isExpiry
      rw [AuthTokenPayload.expiry?, if_neg noLifetime] at isExpiry
      exact absurd isExpiry (Option.not_mem_none expiry)
    have positive : 0 < payload.expiresIn.toInt := Int64.lt_iff_toInt_lt.mp lifetime
    have expiry : payload.expiry? manager.reportedAt =
        some (manager.reportedAt.toInt + payload.expiresIn.toInt * 1000) := if_pos lifetime
    refine ⟨lifetime, ?_, ?_⟩
    · by_contra outOfRange
      apply refused
      rintro last isLast
      rw [expiry, Option.mem_some_iff] at isLast
      rw [← isLast]
      exact Int.not_le.mp outOfRange
    · intro hasDb empty
      obtain ⟨db, stored⟩ := Option.ne_none_iff_exists'.mp hasDb
      have found := restoredToken_handleAuthResponse accepted hasToken stored
      rw [AuthToken.restore, if_pos empty] at found
      obtain ⟨after, isAfter, blank⟩ := Option.map_eq_some_iff.mp found
      have keeps : KeepsToken (manager.handleAuthResponse response).2 .restarted := by
        rw [KeepsToken, isAfter]
        exact Option.some_ne_none after
      have started : ∀ expiry ∈ payload.expiry? manager.reportedAt,
          manager.reportedAt.toInt < expiry := by
        rintro last isLast
        rw [expiry, Option.mem_some_iff] at isLast
        omega
      have restarted := (stays [.restarted] ⟨keeps, trivial⟩).loggedIn manager.reportedAt
        (Int64.le_refl _) started
      have noToken : (EventRun.exec stepToken (manager.handleAuthResponse response).2
          [.restarted]).token = {} := by
        change (((manager.handleAuthResponse response).2.db.map Db.restoredToken).getD {}) = {}
        rw [isAfter, Option.map_some, blank]
        rfl
      rw [isLoggedIn, noToken] at restarted
      exact absurd restarted (by simp)
  · rintro ⟨lifetime, inRange, readBack⟩ later keeps
    rw [expiresAtMs_receivedToken lifetime inRange]
    exact ((holds_handleAuthResponse accepted hasToken readBack).exec keeps).loggedInFor _

end Response

/-! ## Two responses -/

/-- A process on an empty database, in November 2023. -/
def inNovember : AuthManager :=
  .start (fun _ => 1700000000000) "device" (some {}) 0

/-- The response with a token for some seconds. -/
def tokenResponse (payload : AuthTokenPayload) : HttpResponse AuthTokenPayload where
  statusCode := 200
  body := .parsed { code := 0, data := payload }

theorem staysLoggedIn_iff_oneHour :
    inNovember.StaysLoggedIn (tokenResponse ⟨"access", "refresh", 3600⟩)
      ⟨"access", "refresh", 3600⟩ := by
  have accepted : parseApiEnvelopeResponse (tokenResponse ⟨"access", "refresh", 3600⟩)
      "auth failed" false false = .ok ⟨"access", "refresh", 3600⟩ := rfl
  have hasToken : (⟨"access", "refresh", 3600⟩ : AuthTokenPayload).accessToken ≠ "" := by decide
  exact (staysLoggedIn_iff accepted hasToken).mpr ⟨by decide, by decide, fun _ => by decide⟩

/-- A token without an expiry is refused from the start. -/
theorem not_staysLoggedIn_noLifetime :
    (inNovember.handleAuthResponse (tokenResponse ⟨"access", "refresh", 0⟩)).1 =
        .ok ⟨"access", "refresh", 0⟩ ∧
      (inNovember.handleAuthResponse (tokenResponse ⟨"access", "refresh", 0⟩)).2.isLoggedIn
        1700000000000 = false ∧
      (inNovember.handleAuthResponse (tokenResponse ⟨"access", "refresh", 0⟩)).2.ensureValidToken
        1700000000000 = .refresh "refresh" ∧
      ¬ inNovember.StaysLoggedIn (tokenResponse ⟨"access", "refresh", 0⟩)
        ⟨"access", "refresh", 0⟩ := by
  refine ⟨rfl, rfl, rfl, ?_⟩
  intro stays
  have noExpiry : ∀ expiry ∈ (⟨"access", "refresh", 0⟩ : AuthTokenPayload).expiry?
      inNovember.reportedAt, (1700000000000 : Int64).toInt < expiry := by
    rintro expiry isExpiry
    exact absurd isExpiry (Option.not_mem_none expiry)
  have loggedIn := (stays [] EventRun.guarded_nil).loggedIn 1700000000000 (Int64.le_refl _) noExpiry
  exact Bool.false_ne_true loggedIn

end AuthManager

end AnychatSdk
