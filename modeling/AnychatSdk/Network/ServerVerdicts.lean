import AnychatSdk.Network.ManagerCalls

/-!
# The server decides

A function with one request reports success only after a response that the server
has marked as a success, and until then it leaves no trace in what the managers
keep, whatever the others do to it in the meantime.
-/

namespace AnychatSdk

/-- A response with data that the server has marked as a success. -/
structure Decoding.Accepts {α : Type} (decoding : Decoding α) (raw : RawResponse) (data : α) :
    Prop where
  sent : raw.error = ""
  body : raw.body ≠ ""
  success : ∃ message, decoding.read raw.body = .parsed ⟨0, message, data⟩
  status200 : decoding.requireHttp200 = true → raw.statusCode = 200
  status2xx : decoding.requireHttp2xx = true → 200 ≤ raw.statusCode ∧ raw.statusCode < 300

theorem Decoding.accepts_of_parse {α : Type} {decoding : Decoding α} {raw : RawResponse} {data : α}
    (parsed : decoding.parse raw = .ok data) : decoding.Accepts raw data := by
  rw [Decoding.parse, parseApiEnvelopeResponse] at parsed
  split at parsed
  · cases parsed
  next sent =>
    have sent : raw.error = "" := Decidable.not_not.mp sent
    dsimp only at parsed
    split at parsed
    · next envelope body =>
        split at parsed
        · cases parsed
        split at parsed
        · cases parsed
        next success passed =>
          have read : (if raw.body = "" then ResponseBody.empty
            else decoding.read raw.body) = .parsed envelope := body
          by_cases blank : raw.body = ""
          · rw [if_pos blank] at read
            cases read
          · rw [if_neg blank] at read
            rcases envelope with ⟨status, message, content⟩
            obtain rfl : status = 0 := Decidable.not_not.mp success
            cases parsed
            simp only [RawResponse.read, Bool.or_eq_true, Bool.and_eq_true, not_or, not_and,
              Bool.not_eq_true] at passed
            refine ⟨sent, blank, ⟨message, read⟩, fun required => ?_, fun required => ?_⟩
            · exact Decidable.not_not.mp (of_decide_eq_false (passed.1 required))
            · rcases passed.2 required with ⟨low, high⟩
              exact ⟨Int32.not_lt.mp (of_decide_eq_false low),
                Int32.not_le.mp (of_decide_eq_false high)⟩
    · split at parsed <;> cases parsed
    · split at parsed <;> cases parsed

namespace ManagerCall

variable {σ τ ε α ρ : Type}

/-- The handler passes on every error of the decoding and keeps nothing then. -/
def PassesErrors (call : ManagerCall σ ρ) : Prop :=
  ∀ request, call.request = .ok request → ∀ raw failure, call.decoding.parse raw = .error failure →
    ∀ state, call.handle raw state = (.error failure, state)

theorem passesErrors_storing (request : Except (Int32 × String) HttpRequest)
    (decoding : Decoding α) (store : α → σ → σ) (result : α → Outcome ρ) :
    (storing request decoding store result).PassesErrors := by
  intro _ _ raw failure refused state
  have refused : decoding.parse raw = .error failure := refused
  dsimp only [storing]
  rw [refused]

theorem PassesErrors.within {call : ManagerCall σ ρ} (passes : call.PassesErrors)
    {read : τ → σ} {write : σ → τ → τ} (same : ∀ state, write (read state) state = state) :
    (call.within read write).PassesErrors := by
  intro request made raw failure refused state
  dsimp only [ManagerCall.within]
  rw [passes request made raw failure refused, same]

/-- One of the responses has been accepted. -/
def AcceptedIn (call : ManagerCall σ ρ)
    (log : List (AsyncLogEntry HttpRequest RawResponse ε (Outcome ρ))) : Prop :=
  ∃ raw data, .answered raw ∈ log ∧ call.decoding.Accepts raw data

/-- How far the call has come; `kept` is what the others have made of the state. -/
inductive Stage (call : ManagerCall σ ρ) (kept : σ) :
    AsyncRun σ HttpRequest RawResponse ε (Outcome ρ) → Prop
  | refused (failure : Int32 × String) :
      Stage call kept ⟨kept, [], [.completed (.error failure)]⟩
  | waiting {request : HttpRequest} (made : call.request = .ok request) :
      Stage call kept
        ⟨kept, [fun raw => .act (fun state => (call.handle raw state).2) fun state =>
          callBack (call.handle raw state).1], [.asked request]⟩
  | failed (request : HttpRequest) (raw : RawResponse) (failure : Int32 × String) :
      Stage call kept ⟨kept, [], [.asked request, .answered raw, .completed (.error failure)]⟩
  | accepted (state : σ) (request : HttpRequest) {raw : RawResponse} {data : call.Data}
      (accepts : call.decoding.Accepts raw data) (outcome : Outcome ρ) :
      Stage call kept ⟨state, [], [.asked request, .answered raw, .completed outcome]⟩

theorem stage_start (call : ManagerCall σ ρ) (state : σ) :
    Stage call state (AsyncRun.start (call.code : Operation σ ε ρ) state) := by
  rw [code]
  split
  · next failure _ => exact .refused failure
  · next request made => exact .waiting made

/-- What the others do to the state. -/
def keptBy (kept : σ) : AsyncEvent σ RawResponse → σ
  | .answer _ _ => kept
  | .other change => change kept

theorem Stage.step {call : ManagerCall σ ρ} (passes : call.PassesErrors) {kept : σ}
    {operation : AsyncRun σ HttpRequest RawResponse ε (Outcome ρ)}
    (stage : Stage call kept operation) (event : AsyncEvent σ RawResponse) :
    Stage call (keptBy kept event) (operation.step event) := by
  cases event with
  | other change =>
      cases stage with
      | refused failure => exact .refused failure
      | waiting made => exact .waiting made
      | failed request raw failure => exact .failed request raw failure
      | accepted state request accepts outcome =>
          exact .accepted (change state) request accepts outcome
  | answer index raw =>
      cases stage with
      | refused failure => exact .refused failure
      | failed request raw failure => exact .failed request raw failure
      | accepted state request accepts outcome => exact .accepted state request accepts outcome
      | @waiting request made =>
          cases index with
          | succ index => exact .waiting made
          | zero =>
              change Stage call kept
                ⟨(call.handle raw kept).2, [],
                  [.asked request, .answered raw, .completed (call.handle raw kept).1]⟩
              cases parsed : call.decoding.parse raw with
              | error failure =>
                  rw [passes request made raw failure parsed]
                  exact .failed request raw failure
              | ok data => exact .accepted _ request (Decoding.accepts_of_parse parsed) _

/-- What holds of a run of the call among others. -/
structure Decided (call : ManagerCall σ ρ) (kept : σ)
    (operation : AsyncRun σ HttpRequest RawResponse ε (Outcome ρ)) : Prop where
  /-- Success needs a response that the server has marked as one. -/
  succeeds : ∀ value, .completed (.ok value) ∈ operation.log → call.AcceptedIn operation.log
  /-- Without one the call has done nothing to the state. -/
  keeps : ¬call.AcceptedIn operation.log → operation.state = kept

theorem Stage.decided {call : ManagerCall σ ρ} {kept : σ}
    {operation : AsyncRun σ HttpRequest RawResponse ε (Outcome ρ)}
    (stage : Stage call kept operation) : Decided call kept operation := by
  cases stage with
  | refused failure => exact ⟨fun value listed => by simp at listed, fun _ => rfl⟩
  | waiting made => exact ⟨fun value listed => by simp at listed, fun _ => rfl⟩
  | failed request raw failure => exact ⟨fun value listed => by simp at listed, fun _ => rfl⟩
  | @accepted state request raw data accepts outcome =>
      have found : call.AcceptedIn
          ([.asked request, .answered raw, .completed outcome] :
            List (AsyncLogEntry HttpRequest RawResponse ε (Outcome ρ))) :=
        ⟨raw, data, by simp, accepts⟩
      exact ⟨fun _ _ => found, fun none => absurd found none⟩

theorem decided_exec {call : ManagerCall σ ρ} (passes : call.PassesErrors) {kept : σ}
    {operation : AsyncRun σ HttpRequest RawResponse ε (Outcome ρ)}
    (stage : Stage call kept operation) (events : List (AsyncEvent σ RawResponse)) :
    Decided call (events.foldl keptBy kept) (EventRun.exec AsyncRun.step operation events) := by
  induction events generalizing kept operation with
  | nil => exact stage.decided
  | cons event events ih => exact ih (stage.step passes event)

end ManagerCall

end AnychatSdk
