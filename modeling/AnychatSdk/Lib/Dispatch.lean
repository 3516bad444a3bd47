import Mathlib.Data.List.Nodup
import Mathlib.Data.List.Perm.Basic

/-!
# Handlers on topics

Every event is given to all handlers, one after another.  If each handler minds
only the events of one topic and no two have the same, then the handlers may be
called in any order, and an event moves one of them at most.
-/

universe u v w x

/-- What a handler tells of an event, and what it makes of the state. -/
abbrev Handler (σ : Type u) (ε : Type v) (ο : Type w) :=
  ε → σ → List ο × σ

namespace Handler

variable {σ : Type u} {ε : Type v} {ο : Type w} {κ : Type x}

/-- The event is nothing to the handler. -/
def Idle (handler : Handler σ ε ο) (event : ε) : Prop :=
  ∀ state, handler event state = ([], state)

def callNext (event : ε) (reached : List ο × σ) (handler : Handler σ ε ο) : List ο × σ :=
  (reached.1 ++ (handler event reached.2).1, (handler event reached.2).2)

/-- All handlers, in their order. -/
def dispatch (handlers : List (Handler σ ε ο)) (event : ε) (state : σ) : List ο × σ :=
  handlers.foldl (callNext event) ([], state)

theorem callNext_of_idle {handler : Handler σ ε ο} {event : ε} (idle : handler.Idle event)
    (reached : List ο × σ) : callNext event reached handler = reached := by
  rw [callNext, idle]
  exact Prod.ext (List.append_nil _) rfl

theorem foldl_of_idle {handlers : List (Handler σ ε ο)} {event : ε}
    (idle : ∀ handler ∈ handlers, handler.Idle event) (reached : List ο × σ) :
    handlers.foldl (callNext event) reached = reached := by
  induction handlers generalizing reached with
  | nil => rfl
  | cons handler handlers ih =>
      rw [List.foldl_cons, callNext_of_idle (idle handler List.mem_cons_self)]
      exact ih (fun other member => idle other (List.mem_cons_of_mem _ member)) reached

/-- The handlers mind one topic each, and no two the same. -/
structure OnTopics (topic : ε → κ) (handlers : List (κ × Handler σ ε ο)) : Prop where
  nodup : (handlers.map Prod.fst).Nodup
  idle : ∀ entry ∈ handlers, ∀ event, topic event ≠ entry.1 → entry.2.Idle event

namespace OnTopics

variable {topic : ε → κ} {handlers : List (κ × Handler σ ε ο)}

theorem perm {other : List (κ × Handler σ ε ο)} (onTopics : OnTopics topic handlers)
    (perm : other.Perm handlers) : OnTopics topic other :=
  ⟨((perm.map Prod.fst).nodup_iff).mpr onTopics.nodup,
    fun entry member => onTopics.idle entry (perm.mem_iff.mp member)⟩

theorem tail {entry : κ × Handler σ ε ο} (onTopics : OnTopics topic (entry :: handlers)) :
    OnTopics topic handlers :=
  ⟨onTopics.nodup.of_cons, fun other member => onTopics.idle other (List.mem_cons_of_mem _ member)⟩

/-- Nobody is moved, or the handler of the topic is. -/
theorem dispatch_cases (onTopics : OnTopics topic handlers) (event : ε) (state : σ) :
    dispatch (handlers.map Prod.snd) event state = ([], state) ∨
      ∃ entry ∈ handlers, entry.1 = topic event ∧
        dispatch (handlers.map Prod.snd) event state = entry.2 event state := by
  induction handlers with
  | nil => exact .inl rfl
  | cons entry handlers ih =>
      by_cases own : entry.1 = topic event
      · refine .inr ⟨entry, List.mem_cons_self, own, ?_⟩
        have others : ∀ handler ∈ handlers.map Prod.snd, handler.Idle event := by
          intro handler member
          rcases List.mem_map.mp member with ⟨other, listed, rfl⟩
          refine onTopics.tail.idle other listed event fun same => ?_
          have distinct := (List.nodup_cons.mp onTopics.nodup).1
          exact distinct (List.mem_map.mpr ⟨other, listed, same.symm.trans own.symm⟩)
        exact foldl_of_idle others _
      · have idle := onTopics.idle entry List.mem_cons_self event (Ne.symm own)
        have skipped : dispatch ((entry :: handlers).map Prod.snd) event state =
            dispatch (handlers.map Prod.snd) event state :=
          congrArg ((handlers.map Prod.snd).foldl (callNext event)) (callNext_of_idle idle _)
        rw [skipped]
        rcases ih onTopics.tail with nothing | ⟨other, listed, own', same⟩
        · exact .inl nothing
        · exact .inr ⟨other, List.mem_cons_of_mem _ listed, own', same⟩

/-- The order of the handlers does not matter. -/
theorem dispatch_perm (onTopics : OnTopics topic handlers) {other : List (κ × Handler σ ε ο)}
    (perm : other.Perm handlers) (event : ε) (state : σ) :
    dispatch (other.map Prod.snd) event state = dispatch (handlers.map Prod.snd) event state := by
  have commutes : ∀ first ∈ other, ∀ second ∈ other, ∀ reached,
      callNext event (callNext event reached first.2) second.2 =
        callNext event (callNext event reached second.2) first.2 := by
    intro first listed second listed' reached
    by_cases same : first.1 = second.1
    · rw [List.inj_on_of_nodup_map (onTopics.perm perm).nodup listed listed' same]
    · by_cases own : topic event = first.1
      · have idle : second.2.Idle event :=
          (onTopics.perm perm).idle second listed' event (own ▸ same)
        rw [callNext_of_idle idle, callNext_of_idle idle]
      · have idle : first.2.Idle event := (onTopics.perm perm).idle first listed event own
        rw [callNext_of_idle idle, callNext_of_idle idle]
  rw [dispatch, dispatch, List.foldl_map, List.foldl_map]
  exact perm.foldl_eq' commutes _

end OnTopics

/-! ## Runs -/

/-- A sequence of events, with all that is told of them. -/
def deliver (handlers : List (Handler σ ε ο)) : List ε → σ → List ο × σ
  | [], state => ([], state)
  | event :: events, state =>
      let first := dispatch handlers event state
      let later := deliver handlers events first.2
      (first.1 ++ later.1, later.2)

section Runs

variable {topic : ε → κ} {handlers : List (κ × Handler σ ε ο)} (onTopics : OnTopics topic handlers)

include onTopics

theorem OnTopics.deliver_perm {other : List (κ × Handler σ ε ο)} (perm : other.Perm handlers)
    (events : List ε) (state : σ) :
    deliver (other.map Prod.snd) events state = deliver (handlers.map Prod.snd) events state := by
  induction events generalizing state with
  | nil => rfl
  | cons event events ih => rw [deliver, deliver, onTopics.dispatch_perm perm, ih]

/-- Handlers that tell at most one thing of an event tell no more together. -/
theorem OnTopics.length_deliver_le
    (single : ∀ entry ∈ handlers, ∀ event state, (entry.2 event state).1.length ≤ 1)
    (events : List ε) (state : σ) :
    (deliver (handlers.map Prod.snd) events state).1.length ≤ events.length := by
  induction events generalizing state with
  | nil => exact Nat.le_refl 0
  | cons event events ih =>
      have told : (dispatch (handlers.map Prod.snd) event state).1.length ≤ 1 := by
        rcases onTopics.dispatch_cases event state with nothing | ⟨entry, listed, _, same⟩
        · rw [nothing]
          exact Nat.zero_le 1
        · rw [same]
          exact single entry listed event state
      rw [deliver, List.length_append, List.length_cons]
      have later := ih (dispatch (handlers.map Prod.snd) event state).2
      omega

/-- What the handlers of the topics that occur leave alone is left alone. -/
theorem OnTopics.deliver_keeps {α : Type*} (part : σ → α) {events : List ε}
    (keeps : ∀ entry ∈ handlers, (∃ event ∈ events, topic event = entry.1) →
      ∀ event state, part (entry.2 event state).2 = part state) (state : σ) :
    part (deliver (handlers.map Prod.snd) events state).2 = part state := by
  induction events generalizing state with
  | nil => rfl
  | cons event events ih =>
      have first : part (dispatch (handlers.map Prod.snd) event state).2 = part state := by
        rcases onTopics.dispatch_cases event state with nothing | ⟨entry, listed, own, same⟩
        · rw [nothing]
        · rw [same]
          exact keeps entry listed ⟨event, List.mem_cons_self, own.symm⟩ event state
      refine (ih ?_ _).trans first
      rintro entry listed ⟨other, member, own⟩
      exact keeps entry listed ⟨other, List.mem_cons_of_mem _ member, own⟩

end Runs

end Handler
