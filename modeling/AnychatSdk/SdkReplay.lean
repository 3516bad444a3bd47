import AnychatSdk.Network.ServerVerdicts
import AnychatSdk.Network.SessionReplay
import AnychatSdk.SdkSession

/-!
# Replays of the sessions of the SDK

What a session makes of a part of the state is a replay of the responses to its
calls and of what others have done, if every call changes that part only as its
responses say.
-/

namespace AnychatSdk

/-! ## What a response writes -/

section Writes

variable {α σ ε ρ ω : Type}

/-- What a response adds to a state, if it is accepted. -/
def Decoding.write (decoding : Decoding α) (store : α → σ → σ) (raw : RawResponse) (state : σ) :
    σ :=
  match decoding.parse raw with
  | .ok data => store data state
  | .error _ => state

/-- Nothing is added, or the data of an accepted response. -/
theorem Decoding.holds_write {decoding : Decoding α} {store : α → σ → σ} {raw : RawResponse}
    {state : σ} {motive : σ → Prop} (nothing : motive state)
    (stored : ∀ data, decoding.Accepts raw data → motive (store data state)) :
    motive (decoding.write store raw state) := by
  rw [Decoding.write]
  cases parsed : decoding.parse raw with
  | error failure => exact nothing
  | ok data => exact stored data (accepts_of_parse parsed)

namespace ManagerCall

/-- The state after the handler of a function that stores what it decodes. -/
theorem handle_storing (request : Except (Int32 × String) HttpRequest) (decoding : Decoding α)
    (store : α → σ → σ) (result : α → Outcome ρ) (raw : RawResponse) (state : σ) :
    ((storing request decoding store result).handle raw state).2 =
      decoding.write store raw state := by
  dsimp only [storing, Decoding.write]
  cases decoding.parse raw <;> rfl

theorem handle_fetching (request : Except (Int32 × String) HttpRequest) (decoding : Decoding α)
    (result : α → Outcome ρ) (raw : RawResponse) (state : σ) :
    ((fetching request decoding result).handle raw state).2 = state := by
  rw [fetching, handle_storing, Decoding.write]
  cases decoding.parse raw <;> rfl

/-- The code of a function does to a view what its handler does. -/
theorem code_does {call : ManagerCall σ ρ} {view : σ → ω} {write : RawResponse → ω → ω}
    (same : ∀ raw state, view (call.handle raw state).2 = write raw (view state)) :
    (call.code : Operation σ ε ρ).Does view write id := by
  rw [code]
  split
  · rfl
  · exact ⟨fun raw => ⟨write raw, id, rfl, same raw, fun _ => rfl⟩, rfl⟩

end ManagerCall

end Writes

/-! ## Calls -/

/-- A call without its type. -/
abbrev AnyCall := (α : Type) × SdkCall α

def SdkEvent.call? {ρ : Type} : SdkEvent ρ → Option AnyCall
  | call function _ => some ⟨_, function⟩
  | other _ => none
  | client _ => none

namespace SdkSession

variable {ρ : Type} (env : SdkEnvironment) (events : List (SdkEvent ρ))

/-- The calls of a session; their places in the list are their ids. -/
def calls : List AnyCall :=
  events.filterMap SdkEvent.call?

/-- The calls are what a session starts. -/
theorem exists_call_of_started {index : Nat} {operation : Operation SdkState SdkReport ρ}
    (started : ((events.map (SdkEvent.toEvent env)).filterMap
      HttpSession.Event.operation?)[index]? = some operation) :
    ∃ (α : Type) (function : SdkCall α) (report : α → ρ),
      (calls events)[index]? = some ⟨α, function⟩ ∧
        operation = (function.code env).within id (fun state _ => state) id (·.map report) := by
  induction events generalizing index with
  | nil => cases started
  | cons event events ih =>
      cases event with
      | other change => exact ih started
      | client event => exact ih started
      | call function report =>
          cases index with
          | succ index => exact ih started
          | zero =>
              cases started
              exact ⟨_, function, report, rfl, rfl⟩

end SdkSession

/-! ## Parts of the state -/

/-- A part of the state, with what the response to a call writes to it.  No call
touches it before its response. -/
structure SdkPart (env : SdkEnvironment) (ω : Type) where
  view : SdkState → ω
  write : {α : Type} → SdkCall α → RawResponse → ω → ω
  does : ∀ {α : Type} (call : SdkCall α), (call.code env).Does view (write call) id

namespace SdkPart

variable {env : SdkEnvironment} {ω ρ : Type} (part : SdkPart env ω) (text : List UInt8 → String)
  (baseUrl : String) (state : SdkState) (events : List (SdkEvent ρ))

/-- What a response to the call with some id writes. -/
def writes (id : Nat) (raw : RawResponse) (kept : ω) : ω :=
  (SdkSession.calls events)[id]?.elim kept fun call => part.write call.2 raw kept

/-- What has happened to the part. -/
def happened : List (HttpSession.Happened ω) :=
  EventRun.outputs (HttpSession.step text) (HttpSession.happens part.view text)
    (HttpSession.fresh baseUrl state) (events.map (SdkEvent.toEvent env))

/-- The part after a session. -/
def after : ω :=
  part.view (SdkSession.after env text baseUrl state events).state

/-- The calls do to the part what is said of them. -/
theorem announced_fresh :
    (HttpSession.fresh baseUrl state).Announced part.view (part.writes events)
      (events.map (SdkEvent.toEvent env)) := by
  intro _ index operation started
  rcases SdkSession.exists_call_of_started env events started with
    ⟨α, function, report, listed, rfl⟩
  have same : part.writes events ((HttpSession.fresh baseUrl state :
      HttpSession SdkState SdkReport ρ).started + index) = part.write function := by
    funext raw kept
    change (SdkSession.calls events)[0 + index]?.elim _ _ = _
    rw [Nat.zero_add, listed]
    rfl
  rw [same]
  exact (part.does function).within fun _ _ => rfl

/-- The part is a replay of the responses in order, and of what others have done. -/
theorem replayed :
    part.after text baseUrl state events =
      (part.happened text baseUrl state events).foldl
        (HttpSession.Happened.apply (part.writes events)) (part.view state) :=
  HttpSession.view_exec text (HttpSession.handles_fresh baseUrl state)
    (part.announced_fresh baseUrl state events)

variable {text baseUrl state events}

/-- A preorder that all responses and all others go along with. -/
theorem rel_after (Le : ω → ω → Prop) (le_refl : ∀ kept, Le kept kept)
    (le_trans : ∀ {first middle last}, Le first middle → Le middle last → Le first last)
    (le_write : ∀ call ∈ SdkSession.calls events, ∀ raw kept, Le kept (part.write call.2 raw kept))
    (le_others : ∀ change, .other change ∈ events →
      ∀ state, Le (part.view state) (part.view (change state))) :
    Le (part.view state) (part.after text baseUrl state events) := by
  refine HttpSession.rel_exec text le_refl le_trans (fun id raw kept => ?_) ?_
    (HttpSession.handles_fresh baseUrl state) (part.announced_fresh baseUrl state events)
  · rw [writes]
    cases called : (SdkSession.calls events)[id]? with
    | none => exact le_refl kept
    | some call => exact le_write call (List.mem_of_getElem? called) raw kept
  · intro change listed
    rcases List.mem_map.mp listed with ⟨event, member, same⟩
    cases event with
    | call function report => cases same
    | client event => cases same
    | other own =>
        obtain rfl := HttpSession.Event.other.inj same
        exact le_others own member

/-- What all responses and all others keep holds after a session. -/
theorem holds_after (Holds : ω → Prop)
    (kept : ∀ call ∈ SdkSession.calls events, ∀ raw kept,
      Holds kept → Holds (part.write call.2 raw kept))
    (others : ∀ change, .other change ∈ events →
      ∀ state, Holds (part.view state) → Holds (part.view (change state)))
    (start : Holds (part.view state)) : Holds (part.after text baseUrl state events) :=
  part.rel_after (fun first last => Holds first → Holds last) (fun _ => id)
    (fun before later => later ∘ before) kept others start

/-- What holds after a session held before it, or came with a response, or from others. -/
theorem origin (Holds : ω → Prop) {Brings : {α : Type} → SdkCall α → RawResponse → Prop}
    (brought : ∀ {α : Type} (call : SdkCall α) raw kept,
      Holds (part.write call raw kept) → Holds kept ∨ Brings call raw)
    (holds : Holds (part.after text baseUrl state events)) :
    Holds (part.view state) ∨
      (∃ id raw call, .answered id raw ∈ part.happened text baseUrl state events ∧
        (SdkSession.calls events)[id]? = some call ∧ Brings call.2 raw) ∨
      ∃ kept, .changed kept ∈ part.happened text baseUrl state events ∧ Holds kept := by
  have brought' : ∀ id raw kept, Holds (part.writes events id raw kept) →
      Holds kept ∨ ∃ call, (SdkSession.calls events)[id]? = some call ∧ Brings call.2 raw := by
    intro id raw kept held
    rw [writes] at held
    cases called : (SdkSession.calls events)[id]? with
    | none =>
        rw [called] at held
        exact .inl held
    | some call =>
        rw [called] at held
        exact (brought call.2 raw kept held).imp_right fun brings => ⟨call, rfl, brings⟩
  rw [part.replayed] at holds
  rcases HttpSession.Happened.origin Holds brought' holds with
    initially | ⟨id, raw, listed, call, called, brings⟩ | changed
  · exact .inl initially
  · exact .inr (.inl ⟨id, raw, call, listed, called, brings⟩)
  · exact .inr (.inr changed)

end SdkPart

end AnychatSdk
