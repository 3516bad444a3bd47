import AnychatSdk.PendingMessages

/-!
# A message on the wire

Between its first enqueue and its acknowledgement a message is sent once for each
connection, and at once where an enqueue finds a connection.  An enqueue sends what
it is called with, a flush what it reads back from the table; both are to send what
waits there.
-/

namespace AnychatSdk

open Client (sendFrame sentSince)

/-! ## What is handed over for one message -/

namespace QueueEvent

/-- The frames that the event hands to the send function for a `local_id`: those of an
enqueue are for the message enqueued, those of a flush for the rows that it goes through. -/
def handedFor (localId : String) (client : Client) (event : QueueEvent) : List Frame :=
  match event with
  | enqueue _ _ _ _ newId _ =>
      if newId = localId then sentSince client (event.apply client) else []
  | connected _ =>
      ((client.pendingRows.zip (sentSince client (event.apply client))).filter
        fun handed => handed.1.1 = localId).map Prod.snd
  | _ => []

/-- The event sends nothing for the `local_id` that is not in the row: an enqueue that is
sent at once finds no other message waiting, and a flush reads back what was stored. -/
def Repeats (localId : String) (client : Client) : QueueEvent → Prop
  | enqueue convId convType contentType content newId _ =>
      newId = localId → client.outbound.sendFn.isSome →
        ∀ waiting, client.table.pending localId = some waiting →
          waiting =
            { conversationId := convId, conversationType := convType, contentType := contentType,
              content := content, localId := newId }
  | connected _ =>
      ∀ waiting, client.table.pending localId = some waiting →
        NulFree localId ∧ waiting.TextNulFree
  | _ => True

end QueueEvent

/-- A run with a record of the frames handed over for one message since it was last
acknowledged. -/
structure Recording where
  client : Client
  frames : List Frame

namespace Recording

def step (localId : String) (recording : Recording) (event : QueueEvent) : Recording where
  client := event.apply recording.client
  frames :=
    if event.acks localId then []
    else recording.frames ++ event.handedFor localId recording.client

/-- All frames are the frame of the row that waits. -/
def AllTheRow (localId : String) (recording : Recording) : Prop :=
  ∀ frame ∈ recording.frames,
    (recording.client.table.pending localId).map sendFrame = some frame

end Recording

/-- In every state of the run, all frames that were handed over for a message since its last
acknowledgement are the frame of its row. -/
def NeverChanges (client : Client) (events : List QueueEvent) : Prop :=
  ∀ localId, EventRun.Always (Recording.step localId) (Recording.AllTheRow localId) ⟨client, []⟩
    events

/-! ## Frames and rows -/

theorem sendFrame_inj {first second : SendMessagePayload} :
    sendFrame first = sendFrame second ↔ first = second := by
  constructor
  · intro same
    exact FramePayload.sendMessage.inj (Frame.mk.inj same).2
  · rintro rfl
    rfl

theorem SendMessagePayload.readBack_eq_self {payload : SendMessagePayload} :
    payload.readBack = payload ↔ NulFree payload.localId ∧ payload.TextNulFree := by
  constructor
  · intro same
    have idNulFree := cString_eq_self_iff.mp (congrArg SendMessagePayload.localId same)
    exact ⟨idNulFree, (readBack_eq_self_iff idNulFree).mp same⟩
  · rintro ⟨idNulFree, textNulFree⟩
    exact (readBack_eq_self_iff idNulFree).mpr textNulFree

theorem localId_of_pending {db : Db} {localId : String} {waiting : SendMessagePayload}
    (pending : db.pending localId = some waiting) : waiting.localId = localId := by
  rcases Option.map_eq_some_iff.mp pending with ⟨row, _, rfl⟩
  rfl

namespace QueueEvent

theorem handedFor_enqueue (localId convId convType content newId : String)
    (contentType : Int32) (callback : AnyChatCallback) (client : Client) :
    (enqueue convId convType contentType content newId callback).handedFor localId client =
      if newId = localId then
        client.outbound.sendFn.toList.map fun _ =>
          sendFrame
            { conversationId := convId, conversationType := convType, contentType := contentType,
              content := content, localId := newId }
      else [] := by
  rw [handedFor, apply,
    Client.sentSince_of_append (client.sent_enqueue _ _ _ _ _ _), List.map_map]
  rfl

/-- A flush hands over the frame read back from the row. -/
theorem mem_handedFor_connected {localId : String} {sendFn : Nat} {client : Client}
    {frame : Frame} :
    frame ∈ (connected sendFn).handedFor localId client ↔
      ∃ waiting, client.table.pending localId = some waiting ∧
        frame = sendFrame waiting.readBack := by
  have zipped : ∀ rows : List (String × OutboundRow),
      rows.zip (rows.map fun row => sendFrame (row.2.toPayload row.1).readBack) =
        rows.map fun row => (row, sendFrame (row.2.toPayload row.1).readBack) := by
    intro rows
    induction rows with
    | nil => rfl
    | cons row rest inductionHypothesis => exact congrArg (_ :: ·) inductionHypothesis
  rw [handedFor, apply, Client.sentSince_of_append (client.sent_onConnected sendFn), List.map_map]
  simp only [Function.comp_def, zipped, List.mem_map, List.mem_filter, decide_eq_true_eq]
  constructor
  · rintro ⟨_, ⟨⟨⟨rowId, row⟩, listed, rfl⟩, same⟩, rfl⟩
    obtain rfl : rowId = localId := same
    have inTable := client.platform.orderByCreatedAt.mem_sort.mp listed
    exact ⟨_, Client.pending_of_mem_rows inTable, rfl⟩
  · rintro ⟨waiting, pending, rfl⟩
    rcases Option.map_eq_some_iff.mp pending with ⟨row, found, rfl⟩
    have inTable := KeyTable.lookup_eq_some_iff_mem_rows.mp found
    have listed := client.platform.orderByCreatedAt.mem_sort.mpr inTable
    exact ⟨_, ⟨⟨_, listed, rfl⟩, rfl⟩, rfl⟩

end QueueEvent

/-! ## The run -/

namespace Recording

variable {localId : String} {recording : Recording}

/-- What waits stays until it is acknowledged, so only the new frames can differ. -/
theorem allTheRow_step_iff_new (holds : recording.AllTheRow localId) {event : QueueEvent}
    (notAcked : event.acks localId = false) :
    (recording.step localId event).AllTheRow localId ↔
      ∀ frame ∈ event.handedFor localId recording.client,
        ((event.apply recording.client).table.pending localId).map sendFrame = some frame := by
  have after : (event.apply recording.client).table.pending localId =
      (recording.client.table.pending localId).or (event.enqueuedAs localId) := by
    have slot := pending_isSlot localId recording.client event
    rwa [notAcked, if_neg Bool.false_ne_true] at slot
  have frames : (recording.step localId event).frames =
      recording.frames ++ event.handedFor localId recording.client :=
    if_neg (by simp [notAcked])
  rw [AllTheRow, frames]
  constructor
  · intro all frame handed
    exact all frame (List.mem_append_right _ handed)
  · intro new frame listed
    rcases List.mem_append.mp listed with earlier | handed
    · rcases Option.map_eq_some_iff.mp (holds frame earlier) with ⟨waiting, pending, rfl⟩
      change ((event.apply recording.client).table.pending localId).map sendFrame = _
      rw [after, pending]
      rfl
    · exact new frame handed

theorem allTheRow_step_of_silent (holds : recording.AllTheRow localId) {event : QueueEvent}
    (silent : event.handedFor localId recording.client = []) :
    (recording.step localId event).AllTheRow localId := by
  by_cases acked : event.acks localId = true
  · have noFrames : (recording.step localId event).frames = [] := if_pos acked
    rw [AllTheRow, noFrames]
    exact fun _ listed => absurd listed List.not_mem_nil
  · rw [allTheRow_step_iff_new holds (Bool.eq_false_iff.mpr acked), silent]
    exact fun _ listed => absurd listed List.not_mem_nil

theorem allTheRow_step_iff (holds : recording.AllTheRow localId) (event : QueueEvent) :
    (recording.step localId event).AllTheRow localId ↔
      event.Repeats localId recording.client := by
  cases event with
  | enqueue convId convType contentType content newId callback =>
      rw [allTheRow_step_iff_new holds rfl, QueueEvent.handedFor_enqueue, QueueEvent.apply,
        Client.pending_enqueue]
      by_cases same : newId = localId
      · subst same
        simp only [QueueEvent.Repeats]
        cases connected : recording.client.outbound.sendFn with
        | none => simp
        | some sendFn =>
            cases pending : recording.client.table.pending newId with
            | none => simp
            | some waiting => simp [sendFrame_inj]
      · simp [same, QueueEvent.Repeats]
  | connected sendFn =>
      rw [allTheRow_step_iff_new holds rfl, QueueEvent.apply, Client.pending_onConnected]
      simp only [QueueEvent.mem_handedFor_connected, QueueEvent.Repeats]
      constructor
      · intro all waiting pending
        have same := all _ ⟨waiting, pending, rfl⟩
        rw [pending, Option.map_some, Option.some_inj, sendFrame_inj] at same
        have unchanged := SendMessagePayload.readBack_eq_self.mp same.symm
        rwa [localId_of_pending pending] at unchanged
      · rintro repeats _ ⟨waiting, pending, rfl⟩
        have unchanged := repeats waiting pending
        rw [← localId_of_pending pending] at unchanged
        rw [pending, SendMessagePayload.readBack_eq_self.mpr unchanged]
        rfl
  | disconnected => exact iff_of_true (allTheRow_step_of_silent holds rfl) trivial
  | transient frame => exact iff_of_true (allTheRow_step_of_silent holds rfl) trivial
  | messageSentAck acked => exact iff_of_true (allTheRow_step_of_silent holds rfl) trivial
  | work => exact iff_of_true (allTheRow_step_of_silent holds rfl) trivial

end Recording

/-- Frames never change exactly if every event repeats what waits. -/
theorem neverChanges_iff (client : Client) (events : List QueueEvent) :
    NeverChanges client events ↔
      EventRun.Guarded QueueEvent.apply
        (fun client event => ∀ localId, event.Repeats localId client) client events := by
  rw [EventRun.guarded_forall, NeverChanges]
  refine forall_congr' fun localId => ?_
  have noFrames : (Recording.mk client []).AllTheRow localId :=
    fun _ listed => absurd listed List.not_mem_nil
  have exactGuard : ∀ (recording : Recording) (event : QueueEvent), True →
      recording.AllTheRow localId →
      ((recording.step localId event).AllTheRow localId ↔
        event.Repeats localId recording.client) :=
    fun recording event _ holds => Recording.allTheRow_step_iff holds event
  have sameRun : ∀ (recording : Recording) (event : QueueEvent),
      (recording.step localId event).client = event.apply recording.client :=
    fun _ _ => rfl
  rw [EventRun.always_iff_guarded (fun _ _ _ _ => trivial) exactGuard trivial noFrames]
  exact EventRun.guarded_comp sameRun

/-- A second message under the same `local_id` is sent while the first one waits. -/
theorem not_neverChanges_duplicate :
    ¬NeverChanges (.start default {} 0)
      [.connected 7, .enqueue "c1" "private" 1 "first" "local_1" {},
        .enqueue "c1" "private" 1 "second" "local_1" {}] := by
  intro never
  rcases never "local_1" with ⟨_, _, holds, after⟩
  have repeats := (Recording.allTheRow_step_iff holds _).mp after
  have same := repeats rfl rfl
    { conversationId := "c1", conversationType := "private", contentType := 1, content := "first",
      localId := "local_1" } rfl
  exact absurd same (by decide)

end AnychatSdk
