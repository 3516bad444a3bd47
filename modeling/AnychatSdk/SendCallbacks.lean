import AnychatSdk.PendingMessages

/-!
# Completion of sent messages

The callback of a message waits under its `local_id` until the first
acknowledgement of that `local_id` takes it out and runs its success function.
The callback map is a slot for every `local_id`, beside the slot in the table,
and both are cleared by the same acknowledgement.
-/

namespace AnychatSdk

/-! ## Calls of the application's functions -/

/-- A call of one of the two functions that came with a message. -/
inductive CallbackCall where
  | onSuccess (localId : String) (function : Nat)
  | onError (localId : String) (function : Nat)
  deriving DecidableEq

namespace CallbackCall

def localId : CallbackCall → String
  | onSuccess localId _ => localId
  | onError localId _ => localId

/-- The function, if it is a success function. -/
def success? : CallbackCall → Option Nat
  | onSuccess _ function => some function
  | onError _ _ => none

/-- The call that completes a message, if its callback has a success function. -/
def completions (localId : String) (callback : AnyChatCallback) : List CallbackCall :=
  callback.onSuccess.toList.map (onSuccess localId)

end CallbackCall

open CallbackCall (completions)

/-- The calls `onMessageSentAck` makes. -/
def Client.ackCalls (localId : String) (client : Client) : List CallbackCall :=
  if localId = "" then []
  else
    match client.outbound.callbacks.lookup localId with
    | none => []
    | some callback => completions localId callback

namespace QueueEvent

/-- The calls a handler makes.  Only an acknowledgement makes any: a failed
insertion, a lost connection and a full socket are reported to nobody. -/
def calls (client : Client) : QueueEvent → List CallbackCall
  | messageSentAck localId => client.ackCalls localId
  | _ => []

/-- The calls of a run, oldest first. -/
abbrev runCalls (client : Client) (events : List QueueEvent) : List CallbackCall :=
  EventRun.outputs apply calls client events

/-- The callback an enqueue registers under the given `local_id`. -/
def registers (localId : String) : QueueEvent → Option AnyChatCallback
  | enqueue _ _ _ _ newId callback =>
      if newId = localId ∧ (callback.onSuccess.isSome ∨ callback.onError.isSome) then some callback
      else none
  | _ => none

/-- The `local_id`s of the messages enqueued in a run. -/
def enqueuedIds (events : List QueueEvent) : List String :=
  (events.filterMap enqueued?).map SendMessagePayload.localId

end QueueEvent

/-! ## The callback map as a slot -/

namespace Client

theorem lookup_registerCallback (localId other : String) (callback : AnyChatCallback)
    (client : Client) :
    (client.registerCallback localId callback).outbound.callbacks.lookup other =
      (client.outbound.callbacks.lookup other).or
        (if localId = other ∧ (callback.onSuccess.isSome ∨ callback.onError.isSome) then
          some callback else none) := by
  rw [registerCallback]
  by_cases given : callback.onSuccess.isSome ∨ callback.onError.isSome
  · rw [if_pos given]
    by_cases same : other = localId
    · subst same
      simp only [KeyTable.lookup_insertOrIgnore, given, and_self, if_true]
      cases client.outbound.callbacks.lookup other <;> rfl
    · simp [KeyTable.lookup_insertOrIgnore, same, Ne.symm same]
  · simp [given]

@[simp]
theorem callbacks_sendRow (convId convType : String) (contentType : Int32)
    (content localId : String) (client : Client) :
    (client.sendRow convId convType contentType content localId).outbound.callbacks =
      client.outbound.callbacks := by
  rw [sendRow]
  split <;> rfl

theorem callbacks_enqueue (convId convType : String) (contentType : Int32)
    (content localId : String) (callback : AnyChatCallback) (client : Client) :
    (client.enqueue convId convType contentType content localId callback).outbound.callbacks =
      (client.registerCallback localId callback).outbound.callbacks := by
  simp only [enqueue]
  split
  · rw [callbacks_sendRow]
    simp only [registerCallback]
    split <;> rfl
  · simp only [registerCallback]
    split <;> rfl

theorem callbacks_resendRow (row : Row) (client : Client) :
    (client.resendRow row).outbound.callbacks = client.outbound.callbacks := by
  rw [resendRow]
  split
  · split
    · exact callbacks_sendRow _ _ _ _ _ client
    · rfl
  · rfl

/-- A flush leaves the callbacks where they are. -/
theorem callbacks_onConnected (sendFn : Nat) (client : Client) :
    (client.onConnected sendFn).outbound.callbacks = client.outbound.callbacks := by
  have resent : ∀ (rows : List Row) (start : Client),
      (rows.foldl (fun client row => client.resendRow row) start).outbound.callbacks =
        start.outbound.callbacks := by
    intro rows
    induction rows with
    | nil => intro start; rfl
    | cons row rest ih =>
        intro start
        rw [List.foldl_cons, ih, callbacks_resendRow]
  exact resent _ _

theorem lookup_onMessageSentAck (localId other : String) (client : Client) :
    (client.onMessageSentAck localId).outbound.callbacks.lookup other =
      if localId = other ∧ other ≠ "" then none
      else client.outbound.callbacks.lookup other := by
  rw [onMessageSentAck]
  by_cases empty : localId = ""
  · rw [if_pos empty]
    by_cases same : localId = other
    · subst same
      simp [empty]
    · simp [same]
  · rw [if_neg empty, completeCallback, outbound_exec]
    by_cases same : localId = other
    · subst same
      cases found : client.outbound.callbacks.lookup localId <;> simp [found, empty]
    · cases client.outbound.callbacks.lookup localId with
      | none => simp [same]
      | some callback => simp [same, Ne.symm same]

end Client

/-- The callback under a `local_id` is a slot: the first registration stays until
the `local_id` is acknowledged. -/
theorem callbacks_isSlot (localId : String) :
    EventRun.IsSlot QueueEvent.apply (fun client => client.outbound.callbacks.lookup localId)
      (QueueEvent.acks localId) fun _ event => event.registers localId := by
  intro client event
  cases event with
  | enqueue convId convType contentType content newId callback =>
      simp only [QueueEvent.apply, QueueEvent.acks, QueueEvent.registers,
        Client.callbacks_enqueue]
      exact Client.lookup_registerCallback newId localId callback client
  | connected sendFn =>
      simp [QueueEvent.apply, QueueEvent.acks, QueueEvent.registers,
        Client.callbacks_onConnected]
  | disconnected => simp [QueueEvent.apply, QueueEvent.acks, QueueEvent.registers,
      Client.onDisconnected, Client.setSendFn]
  | transient frame =>
      simp only [QueueEvent.apply, Client.sendTransient]
      split <;> simp [QueueEvent.acks, QueueEvent.registers, Client.callSendFn]
  | messageSentAck acked =>
      simp [QueueEvent.apply, QueueEvent.acks, QueueEvent.registers,
        Client.lookup_onMessageSentAck]
  | work => simp [QueueEvent.apply, QueueEvent.acks, QueueEvent.registers]

/-! ## Calls and the callback map -/

namespace Client

theorem completed_sendRow (convId convType : String) (contentType : Int32)
    (content localId : String) (client : Client) :
    (client.sendRow convId convType contentType content localId).outbound.completed =
      client.outbound.completed := by
  rw [sendRow]
  split <;> rfl

theorem completed_enqueue (convId convType : String) (contentType : Int32)
    (content localId : String) (callback : AnyChatCallback) (client : Client) :
    (client.enqueue convId convType contentType content localId callback).outbound.completed =
      client.outbound.completed := by
  simp only [enqueue]
  split
  · rw [completed_sendRow, registerCallback]
    split <;> rfl
  · rw [registerCallback]
    split <;> rfl

theorem completed_onConnected (sendFn : Nat) (client : Client) :
    (client.onConnected sendFn).outbound.completed = client.outbound.completed := by
  have resent : ∀ (rows : List Row) (start : Client),
      (rows.foldl (fun client row => client.resendRow row) start).outbound.completed =
        start.outbound.completed := by
    intro rows
    induction rows with
    | nil => intro start; rfl
    | cons row rest ih =>
        intro start
        rw [List.foldl_cons, ih, resendRow]
        split
        · split
          · exact completed_sendRow _ _ _ _ _ start
          · rfl
        · rfl
  exact resent _ _

theorem completed_onMessageSentAck (localId : String) (client : Client) :
    (client.onMessageSentAck localId).outbound.completed =
      client.outbound.completed ++ (client.ackCalls localId).filterMap CallbackCall.success? := by
  rw [onMessageSentAck, ackCalls]
  by_cases empty : localId = ""
  · simp [empty]
  · rw [if_neg empty, if_neg empty, completeCallback, outbound_exec]
    cases client.outbound.callbacks.lookup localId with
    | none => simp
    | some callback =>
        cases found : callback.onSuccess <;> simp [found, completions, CallbackCall.success?]

end Client

theorem completed_apply (client : Client) (event : QueueEvent) :
    (event.apply client).outbound.completed =
      client.outbound.completed ++
        (event.calls client).flatMap fun call => call.success?.toList := by
  rw [← List.filterMap_eq_flatMap_toList]
  cases event with
  | enqueue => simp [QueueEvent.apply, QueueEvent.calls, Client.completed_enqueue]
  | connected => simp [QueueEvent.apply, QueueEvent.calls, Client.completed_onConnected]
  | disconnected =>
      simp [QueueEvent.apply, QueueEvent.calls, Client.onDisconnected, Client.setSendFn]
  | transient frame =>
      simp only [QueueEvent.apply, Client.sendTransient]
      split <;> simp [QueueEvent.calls, Client.callSendFn]
  | messageSentAck localId => exact Client.completed_onMessageSentAck localId client
  | work => simp [QueueEvent.apply, QueueEvent.calls]

/-- The success functions that ran are those of the calls of the run. -/
theorem completed_exec (client : Client) (events : List QueueEvent) :
    (EventRun.exec QueueEvent.apply client events).outbound.completed =
      client.outbound.completed ++
        (QueueEvent.runCalls client events).filterMap CallbackCall.success? := by
  rw [List.filterMap_eq_flatMap_toList, QueueEvent.runCalls, ← EventRun.outputs_flatMap]
  exact EventRun.exec_log (fun client : Client => client.outbound.completed) completed_apply

/-- The calls that name a message complete the callback which the handler takes
out of its slot. -/
theorem QueueEvent.calls_filter (localId : String) (client : Client) (event : QueueEvent) :
    (event.calls client).filter (fun call => call.localId = localId) =
      (EventRun.taken (fun client => client.outbound.callbacks.lookup localId)
        (QueueEvent.acks localId) client event).flatMap (completions localId) := by
  cases event with
  | messageSentAck acked =>
      simp only [QueueEvent.calls, Client.ackCalls, EventRun.taken, QueueEvent.acks]
      by_cases empty : acked = ""
      · simp [empty]
      · rw [if_neg empty]
        by_cases same : acked = localId
        · subst same
          cases client.outbound.callbacks.lookup acked with
          | none => simp
          | some callback => simp [empty, completions, CallbackCall.localId]
        · cases client.outbound.callbacks.lookup acked with
          | none => simp [same]
          | some callback => simp [same, completions, CallbackCall.localId]
  | enqueue | connected | disconnected | transient | work =>
      simp [QueueEvent.calls, EventRun.taken, QueueEvent.acks]

theorem QueueEvent.filter_runCalls (localId : String) (client : Client)
    (events : List QueueEvent) :
    (runCalls client events).filter (fun call => call.localId = localId) =
      (EventRun.outputs apply
        (EventRun.taken (fun client => client.outbound.callbacks.lookup localId) (acks localId))
        client events).flatMap (completions localId) := by
  rw [runCalls, EventRun.filter_outputs, ← EventRun.outputs_flatMap]
  congr 1
  funext client event
  exact calls_filter localId client event

/-- A call is made by the acknowledgement of its own message, with the success
function that waits for it. -/
theorem QueueEvent.of_mem_calls {client : Client} {event : QueueEvent} {call : CallbackCall}
    (called : call ∈ event.calls client) :
    event = .messageSentAck call.localId ∧ call.localId ≠ "" ∧
      ∃ callback function, client.outbound.callbacks.lookup call.localId = some callback ∧
        callback.onSuccess = some function ∧ call = .onSuccess call.localId function := by
  cases event with
  | messageSentAck acked =>
      simp only [calls, Client.ackCalls] at called
      split at called
      · exact absurd called List.not_mem_nil
      · next nonempty =>
          split at called
          · exact absurd called List.not_mem_nil
          · next callback found =>
              rcases List.mem_map.mp called with ⟨function, given, rfl⟩
              exact ⟨rfl, nonempty, callback, function, found, Option.mem_toList.mp given, rfl⟩
  | enqueue | connected | disconnected | transient | work => exact absurd called List.not_mem_nil

/-! ## Exactly one completion -/

namespace QueueEvent

theorem enqueuedIds_append (first second : List QueueEvent) :
    enqueuedIds (first ++ second) = enqueuedIds first ++ enqueuedIds second := by
  simp [enqueuedIds]

theorem enqueuedIds_enqueue (convId convType : String) (contentType : Int32)
    (content localId : String) (callback : AnyChatCallback) (events : List QueueEvent) :
    enqueuedIds (enqueue convId convType contentType content localId callback :: events) =
      localId :: enqueuedIds events :=
  rfl

/-- Only an enqueue registers a callback, and it registers its own. -/
theorem of_registers {localId : String} {event : QueueEvent} {callback : AnyChatCallback}
    (registered : event.registers localId = some callback) :
    ∃ convId convType contentType content,
      event = enqueue convId convType contentType content localId callback := by
  cases event with
  | enqueue convId convType contentType content newId given =>
      simp only [registers] at registered
      split at registered
      · next both =>
          obtain rfl := Option.some.inj registered
          obtain rfl := both.1
          exact ⟨convId, convType, contentType, content, rfl⟩
      · exact absurd registered.symm (Option.some_ne_none callback)
  | connected | disconnected | transient | messageSentAck | work =>
      exact absurd registered.symm (Option.some_ne_none callback)

theorem registers_eq_none_of_not_mem {localId : String} {events : List QueueEvent}
    (absent : localId ∉ enqueuedIds events) :
    ∀ event ∈ events, event.registers localId = none := by
  intro event member
  by_contra registers
  rcases Option.ne_none_iff_exists'.mp registers with ⟨callback, registered⟩
  rcases of_registers registered with ⟨convId, convType, contentType, content, rfl⟩
  apply absent
  exact List.mem_map.mpr ⟨_, List.mem_filterMap.mpr ⟨_, member, rfl⟩, rfl⟩

theorem completions_registers (convId convType : String) (contentType : Int32)
    (content localId : String) (callback : AnyChatCallback) :
    ((enqueue convId convType contentType content localId callback).registers
        localId).toList.flatMap (completions localId) = completions localId callback := by
  rcases callback with ⟨onSuccess, onError⟩
  cases onSuccess <;> cases onError <;> simp [registers, completions]

end QueueEvent

open QueueEvent (enqueuedIds runCalls)

/-- In a run every call completes a message by its own acknowledgement, each
enqueued message is completed by the first acknowledgement that follows its
enqueue and by nothing else, and no error function is called.  At every time the
success functions that the handlers have run are those of the calls. -/
structure CompletesOnce (client : Client) (events : List QueueEvent) : Prop where
  ran : ∀ before after, events = before ++ after →
    (EventRun.exec QueueEvent.apply client before).outbound.completed =
      client.outbound.completed ++
        (runCalls client before).filterMap CallbackCall.success?
  noError : ∀ localId function, .onError localId function ∉ runCalls client events
  ownAck : ∀ before event after, events = before ++ event :: after →
    ∀ call ∈ event.calls (EventRun.exec QueueEvent.apply client before),
      event = .messageSentAck call.localId ∧
        ∃ convId convType contentType content callback,
          .enqueue convId convType contentType content call.localId callback ∈ before ∧
            call ∈ completions call.localId callback
  firstAck : ∀ before convId convType contentType content localId callback middle event after,
    events = before ++ .enqueue convId convType contentType content localId callback ::
        (middle ++ event :: after) →
      (event.calls (EventRun.exec QueueEvent.apply client
          (before ++ .enqueue convId convType contentType content localId callback ::
            middle))).filter (fun call => call.localId = localId) =
        if event.acks localId ∧ ¬middle.any (QueueEvent.acks localId) then
          completions localId callback
        else []
  once : ∀ before convId convType contentType content localId callback after,
    events = before ++ .enqueue convId convType contentType content localId callback :: after →
      (runCalls client events).filter (fun call => call.localId = localId) =
        if after.any (QueueEvent.acks localId) then completions localId callback else []

/-- Before its enqueue no callback waits under a `local_id`. -/
theorem lookup_callbacks_of_not_enqueued {client : Client}
    (fresh : client.outbound.callbacks = ∅) {localId : String} {events : List QueueEvent}
    (absent : localId ∉ enqueuedIds events) :
    (EventRun.exec QueueEvent.apply client events).outbound.callbacks.lookup localId = none := by
  have kept := (callbacks_isSlot localId).exec_of_no_offers client
    fun event member _ => QueueEvent.registers_eq_none_of_not_mem absent event member
  have empty : client.outbound.callbacks.lookup localId = none := by
    rw [fresh]
    rfl
  rw [empty, ite_self] at kept
  exact kept

/-- After its enqueue the callback of a message waits under its `local_id`. -/
theorem lookup_callbacks_enqueue {client : Client} (fresh : client.outbound.callbacks = ∅)
    {localId : String} {before : List QueueEvent}
    (absent : localId ∉ enqueuedIds before) (convId convType : String) (contentType : Int32)
    (content : String) (callback : AnyChatCallback) :
    ((QueueEvent.enqueue convId convType contentType content localId callback).apply
        (EventRun.exec QueueEvent.apply client before)).outbound.callbacks.lookup localId =
      (QueueEvent.enqueue convId convType contentType content localId callback).registers
        localId := by
  have step := callbacks_isSlot localId (EventRun.exec QueueEvent.apply client before)
    (.enqueue convId convType contentType content localId callback)
  dsimp only at step
  rw [step, lookup_callbacks_of_not_enqueued fresh absent]
  rfl

theorem onError_not_mem_runCalls (client : Client) (events : List QueueEvent) (localId : String)
    (function : Nat) : .onError localId function ∉ runCalls client events := by
  intro called
  rcases EventRun.mem_outputs.mp called with ⟨before, event, after, _, given⟩
  rcases QueueEvent.of_mem_calls given with ⟨_, _, _, _, _, _, same⟩
  exact CallbackCall.noConfusion same

/-- For every run of a fresh process in which the `local_id`s of the enqueued
messages are distinct, every message completes once, by its own first
acknowledgement. -/
theorem completesOnce (platform : Platform) (db : Db) (clockReads : Nat)
    (events : List QueueEvent) (distinct : (enqueuedIds events).Nodup) :
    CompletesOnce (.start platform db clockReads) events := by
  have fresh : (Client.start platform db clockReads).outbound.callbacks = ∅ := rfl
  -- Around an enqueue no other event brings a message under its `local_id`.
  have alone : ∀ before convId convType contentType content localId callback after,
      events = before ++ .enqueue convId convType contentType content localId callback :: after →
        localId ∉ enqueuedIds before ∧ localId ∉ enqueuedIds after := by
    intro before convId convType contentType content localId callback after split
    rw [split, QueueEvent.enqueuedIds_append, QueueEvent.enqueuedIds_enqueue,
      List.nodup_middle, List.nodup_cons, List.mem_append, not_or] at distinct
    exact distinct.1
  constructor
  · intro before after split
    exact completed_exec _ before
  · exact onError_not_mem_runCalls _ events
  · intro before event after split call called
    rcases QueueEvent.of_mem_calls called with
      ⟨isAck, _, callback, function, waiting, given, isSuccess⟩
    have empty : (Client.start platform db clockReads).outbound.callbacks.lookup call.localId =
        none := rfl
    rcases (callbacks_isSlot call.localId).offered_of_exec empty waiting with
      ⟨earlier, offer, later, before_eq, registered, _⟩
    rcases QueueEvent.of_registers registered with ⟨convId, convType, contentType, content, rfl⟩
    refine ⟨isAck, convId, convType, contentType, content, callback, ?_, ?_⟩
    · rw [before_eq]
      exact List.mem_append_right earlier List.mem_cons_self
    · rw [isSuccess]
      exact List.mem_map_of_mem (Option.mem_toList.mpr given)
  · intro before convId convType contentType content localId callback middle event after split
    rcases alone _ _ _ _ _ _ _ _ split with ⟨notBefore, notAfter⟩
    rw [QueueEvent.enqueuedIds_append, List.mem_append, not_or] at notAfter
    have kept := (callbacks_isSlot localId).exec_of_no_offers
      ((QueueEvent.enqueue convId convType contentType content localId callback).apply
        (EventRun.exec QueueEvent.apply (.start platform db clockReads) before))
      fun event member _ => QueueEvent.registers_eq_none_of_not_mem notAfter.1 event member
    rw [lookup_callbacks_enqueue fresh notBefore] at kept
    rw [QueueEvent.calls_filter, EventRun.taken, EventRun.exec_append, EventRun.exec_cons, kept]
    cases event.acks localId <;> cases middle.any (QueueEvent.acks localId) <;>
      simp [QueueEvent.completions_registers]
  · intro before convId convType contentType content localId callback after split
    rcases alone _ _ _ _ _ _ _ _ split with ⟨notBefore, notAfter⟩
    have quietBefore := (callbacks_isSlot localId).outputs_taken_of_no_offers
      (.start platform db clockReads)
      fun event member _ => QueueEvent.registers_eq_none_of_not_mem notBefore event member
    have takenAfter := (callbacks_isSlot localId).outputs_taken_of_no_offers
      ((QueueEvent.enqueue convId convType contentType content localId callback).apply
        (EventRun.exec QueueEvent.apply (.start platform db clockReads) before))
      fun event member _ => QueueEvent.registers_eq_none_of_not_mem notAfter event member
    have nothing : (Client.start platform db clockReads).outbound.callbacks.lookup localId =
        none := rfl
    rw [lookup_callbacks_enqueue fresh notBefore] at takenAfter
    rw [nothing, Option.toList_none, ite_self] at quietBefore
    rw [QueueEvent.filter_runCalls, split, EventRun.outputs_append, EventRun.outputs_cons,
      quietBefore, takenAfter]
    cases after.any (QueueEvent.acks localId) <;>
      simp [EventRun.taken, QueueEvent.acks, QueueEvent.completions_registers]

/-- Two messages, a reconnect, a stray, an empty and a repeated acknowledgement. -/
theorem completesOnce_two_messages :
    CompletesOnce (.start default {} 0)
      [.enqueue "c1" "private" 1 "a" "local_1" { onSuccess := some 1, onError := some 2 },
        .messageSentAck "local_2", .connected 7,
        .enqueue "c1" "private" 1 "b" "local_2" { onSuccess := some 3 }, .disconnected,
        .connected 8, .messageSentAck "", .messageSentAck "local_2",
        .messageSentAck "local_1", .messageSentAck "local_1"] :=
  completesOnce default {} 0 _ (by decide)

end AnychatSdk
