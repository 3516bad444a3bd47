import AnychatSdk.DurableSettings
import AnychatSdk.SyncedConversationCache

/-!
# Operations on conversations that race

Responses are handled in the HTTP thread, notifications in the WebSocket thread,
and the list is loaded in the thread of its caller.  The cache is locked for one
call at a time, and a row is posted when the lock is free again, so a handler that
changes a record first takes a copy of it, and the handler of a list has posted all
its rows when it fills the cache.  A schedule says whose atomic step comes next.
-/

namespace AnychatSdk

/-! ## Threads -/

/-- What a thread does once its response is accepted, its notification names a
conversation, or its method is called. -/
inductive ConversationCall where
  | set (convId : String) (setting : Setting)
  | markAllRead (convId : String)
  | unreadCount (convId : String) (count : Int64)
  | sequence (convId : String) (seq : Int64)
  | patch (notificationType : String) (payload : NotificationConversationPayload)
  | delete (convId : String)
  | list
  | listResponse (payloads : List ConversationPayload)

/-- How far a call has come: it has a copy of the record, or its statement is to
be posted; the list has been found empty; the records of a list that came are
posted, the first of them already; its records are all there, or they fill the
cache; the call has returned. -/
inductive CallPoint where
  | called
  | found (copy : Option Conversation)
  | posting (stmt : Stmt)
  | querying
  | storing (payloads : List ConversationPayload) (convs : List Conversation)
  | loading (convs : List Conversation)
  | loaded (convs : List Conversation)
  | returned

/-- A record stamped with the time. -/
def Client.stamp (conv : Conversation) (client : Client) : Conversation × Client :=
  let (now, client) := client.nowMs
  ({ conv with updatedAtMs := now }, client)

/-- The record that the handler of a setting makes of its copy. -/
def Setting.change (conv : Conversation) (client : Client) : Setting → Conversation × Client
  | pinned value =>
      let (pinTime, client) := if value then client.nowMs else (0, client)
      client.stamp { conv with isPinned := value, pinTimeMs := pinTime }
  | muted value => client.stamp { conv with isMuted := value }
  | burnAfterReading duration => client.stamp { conv with burnAfterReading := duration }
  | autoDelete duration => client.stamp { conv with autoDeleteDuration := duration }

namespace ConversationCall

/-- The conversation that the call is about. -/
def convId : ConversationCall → Option String
  | set convId _ | markAllRead convId | unreadCount convId _ | sequence convId _
  | delete convId => some convId
  | patch _ payload => some (notificationConversationId payload)
  | list | listResponse _ => none

/-- The copy, or else a blank record, with what the notification carries. -/
def patchedCopy (payload : NotificationConversationPayload) (copy : Option Conversation) :
    Conversation :=
  applyNotificationPatch payload
    { copy.getD {} with convId := notificationConversationId payload }

/-- The record that the call makes of its copy, if it writes one. -/
def change (copy : Option Conversation) (client : Client) :
    ConversationCall → Option (Conversation × Client)
  | set _ setting => copy.map fun conv => setting.change conv client
  | unreadCount _ count =>
      copy.map fun conv => ({ conv with unreadCount := count.toInt32 }, client)
  | sequence _ seq =>
      copy.bind fun conv =>
        if conv.localSeq < seq then some ({ conv with localSeq := seq }, client) else none
  | patch notificationType payload =>
      let (conv, client) :=
        client.patchPinTime notificationType payload (patchedCopy payload copy)
      some (client.stampUpdated conv)
  | markAllRead _ | delete _ | list | listResponse _ => none

/-- The step after the copy: a new record goes into the cache. -/
def write (copy : Option Conversation) (client : Client) (call : ConversationCall) :
    CallPoint × Client :=
  match call.change copy client with
  | some (conv, client) =>
      (.posting (.upsertConversation conv.convId conv.toRow), client.mapConvCache (·.upsert conv))
  | none =>
      match call, copy with
      | sequence convId seq, none =>
          (if 0 < seq then .posting (.raiseLocalSeq convId seq) else .returned, client)
      | delete convId, _ =>
          (.posting (.deleteConversation convId), client.mapConvCache (·.remove convId))
      | _, _ => (.returned, client)

/-- The next atomic step of a call. -/
def step (client : Client) (call : ConversationCall) : CallPoint → CallPoint × Client
  | .called =>
      match call with
      | markAllRead convId =>
          (.posting (.clearUnread convId), client.mapConvCache (·.clearUnread convId))
      | set convId _ | unreadCount convId _ | sequence convId _ | delete convId =>
          (.found (client.convCache.get convId), client)
      | patch _ payload =>
          (.found (client.convCache.get (notificationConversationId payload)), client)
      | list => (if client.convCache.getAll ≠ [] then .returned else .querying, client)
      | listResponse payloads => (.storing payloads [], client)
  | .found copy => call.write copy client
  | .posting stmt => (.returned, client.exec stmt)
  | .querying =>
      let client := client.querySync
      let rows := client.platform.orderByPinned.sort client.table.conversations.rows
      (if rows ≠ [] then .loading (rows.map fun row => rowToConversation (row.2.toRow row.1))
        else .returned, client)
  | .storing [] convs => (.loading convs, client)
  | .storing (payload :: payloads) convs =>
      let conv := parseConversationPayload payload
      if conv.convId = "" then (.storing payloads convs, client)
      else
        let (conv, client) := client.stampUpdated conv
        (.storing payloads (convs ++ [conv]), client.upsertDb conv)
  | .loading convs => (.loaded convs, client.mapConvCache fun _ => .setAll convs)
  | .loaded convs => (.loaded convs, client)
  | .returned => (.returned, client)

end ConversationCall

/-! ## Schedules -/

inductive Side where
  | first
  | second
  deriving DecidableEq

def Side.other : Side → Side
  | first => second
  | second => first

@[simp]
theorem Side.other_other (side : Side) : side.other.other = side := by
  cases side <;> rfl

@[simp]
theorem Side.other_ne (side : Side) : side.other ≠ side := by
  cases side <;> exact Side.noConfusion

theorem forall_side {Property : Side → Prop} :
    (∀ side, Property side) ↔ Property .first ∧ Property .second :=
  ⟨fun all => ⟨all .first, all .second⟩, fun both side => by
    cases side
    · exact both.1
    · exact both.2⟩

theorem Side.eq_or_eq_other (side mover : Side) : side = mover ∨ side = mover.other := by
  cases side <;> cases mover <;> decide

/-- Two calls that share one process. -/
structure ConversationRace where
  client : Client
  points : Side → CallPoint := fun _ => .called

namespace ConversationRace

/-- One step of a schedule. -/
def step (calls : Side → ConversationCall) (race : ConversationRace) (mover : Side) :
    ConversationRace :=
  let (point, client) := (calls mover).step race.client (race.points mover)
  { client := client, points := Function.update race.points mover point }

end ConversationRace

/-! ## Calls that are not interrupted -/

namespace ConversationCall

/-- What the handler does. -/
def action : ConversationCall → Action
  | set convId setting => setting.action convId
  | markAllRead convId => .clearUnread convId
  | unreadCount convId count => .applyUnreadCount convId count
  | sequence convId seq => .applyServerSequence convId seq
  | patch notificationType payload => .patchConversation notificationType payload
  | delete convId => .removeConversation convId
  | list => .loadConversations
  | listResponse payloads => .replaceConversations payloads

/-- In how many steps a call ends. -/
def length : ConversationCall → Nat
  | listResponse payloads => payloads.length + 3
  | _ => 3

/-- Steps in a row. -/
def steps (call : ConversationCall) : Nat → CallPoint × Client → CallPoint × Client
  | 0, state => state
  | count + 1, state => call.steps count (call.step state.2 state.1)

def run (call : ConversationCall) (client : Client) : CallPoint × Client :=
  call.steps call.length (.called, client)

theorem run_set (convId : String) (setting : Setting) (client : Client) :
    ((set convId setting).run client).2 = (setting.action convId).apply client := by
  cases cached : client.convCache.get convId with
  | none =>
      cases setting <;>
        simp [run, length, steps, step, write, change, cached, Setting.action, Action.apply,
          Client.changeCached, Client.applyPinned]
  | some conv =>
      cases setting with
      | pinned value =>
          cases value <;>
            simp [run, length, steps, step, write, change, cached, Setting.action, Action.apply,
              Setting.change, Client.stamp, Client.applyPinned, Client.saveConversation,
              Client.upsertDb]
      | muted | burnAfterReading | autoDelete =>
          simp [run, length, steps, step, write, change, cached, Setting.action, Action.apply,
            Setting.change, Client.stamp, Client.changeCached, Client.saveConversation,
            Client.upsertDb]

theorem run_sequence (convId : String) (seq : Int64) (client : Client) :
    ((sequence convId seq).run client).2 = client.applyServerSequence convId seq := by
  cases cached : client.convCache.get convId with
  | none =>
      by_cases positive : 0 < seq <;>
        simp [run, length, steps, step, write, change, cached, Client.applyServerSequence, positive]
  | some conv =>
      by_cases less : conv.localSeq < seq <;>
        simp [run, length, steps, step, write, change, cached, Client.applyServerSequence, less,
          Client.saveConversation, Client.upsertDb]

theorem run_list (client : Client) : (list.run client).2 = client.getConversationList.2 := by
  by_cases empty : client.convCache.getAll = []
  · by_cases stored : client.querySync.platform.orderByPinned.sort
        client.querySync.table.conversations.rows = []
    · simp only [run, length, steps, step, Client.getConversationList, empty, stored, ne_eq,
        not_true_eq_false, if_false]
    · simp only [run, length, steps, step, Client.getConversationList, empty, stored, ne_eq,
        not_true_eq_false, not_false_eq_true, if_false, if_true]
  · simp [run, length, steps, step, Client.getConversationList, empty]

theorem steps_storing (call : ConversationCall) (payloads : List ConversationPayload)
    (convs : List Conversation) (client : Client) :
    (call.steps (payloads.length + 2) (.storing payloads convs, client)).2 =
      (client.storeListedConversations payloads).2.mapConvCache fun _ =>
        .setAll (convs ++ (client.storeListedConversations payloads).1) := by
  induction payloads generalizing convs client with
  | nil =>
      rw [Client.storeListedConversations, List.append_nil]
      rfl
  | cons payload payloads ih =>
      rw [List.length_cons, Nat.succ_add, steps, step, Client.storeListedConversations]
      by_cases unnamed : (parseConversationPayload payload).convId = ""
      · simp only [if_pos unnamed]
        exact ih convs client
      · simp only [if_neg unnamed]
        rw [ih, List.append_assoc]
        rfl

/-- The steps of a call add up to its handler. -/
theorem run_eq_apply (call : ConversationCall) (client : Client) :
    (call.run client).2 = call.action.apply client := by
  cases call with
  | set convId setting => exact run_set convId setting client
  | markAllRead convId => rfl
  | unreadCount convId count =>
      cases cached : client.convCache.get convId <;>
        simp [run, length, steps, step, write, change, cached, action, Action.apply,
          Client.applyUnreadCount, Client.saveConversation, Client.upsertDb]
  | sequence convId seq => exact run_sequence convId seq client
  | patch notificationType payload => rfl
  | delete convId => rfl
  | list => exact run_list client
  | listResponse payloads => exact steps_storing _ payloads [] client

end ConversationCall

namespace ConversationRace

theorem exec_replicate (calls : Side → ConversationCall) (mover : Side) (count : Nat)
    (race : ConversationRace) :
    (EventRun.exec (step calls) race (List.replicate count mover)).client =
      ((calls mover).steps count (race.points mover, race.client)).2 := by
  induction count generalizing race with
  | zero => rfl
  | succ count ih =>
      rw [List.replicate_succ, EventRun.exec_cons, ih, ConversationCall.steps]
      simp [step]

/-- A call that is not interrupted does what its handler does. -/
theorem exec_call_steps (calls : Side → ConversationCall) {race : ConversationRace} {mover : Side}
    (atStart : race.points mover = .called) :
    (EventRun.exec (step calls) race (List.replicate (calls mover).length mover)).client =
      (calls mover).action.apply race.client := by
  rw [exec_replicate, atStart, ← ConversationCall.run_eq_apply]
  rfl

end ConversationRace

end AnychatSdk
