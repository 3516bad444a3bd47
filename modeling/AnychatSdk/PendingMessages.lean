import AnychatSdk.Lib.Slot
import AnychatSdk.OutboundQueue

/-!
# The pending messages of one process

Seen through `Db.pending`, every `local_id` is a slot that an acknowledgement
clears and an enqueue fills.  So the table is determined by the history of the
queue.  The frames of a flush are built from text the database hands back, which
is the text stored only as far as its first NUL.
-/

namespace AnychatSdk

/-! ## History -/

namespace QueueEvent

/-- The event acknowledges the message. -/
def acks (localId : String) : QueueEvent → Bool
  | messageSentAck acked => acked = localId && localId ≠ ""
  | _ => false

/-- The payload an enqueue brings. -/
def enqueued? : QueueEvent → Option SendMessagePayload
  | enqueue convId convType contentType content localId _ =>
      some
        { conversationId := convId, conversationType := convType, contentType := contentType,
          content := content, localId := localId }
  | _ => none

/-- The payload an enqueue brings under the given `local_id`. -/
def enqueuedAs (localId : String) (event : QueueEvent) : Option SendMessagePayload :=
  event.enqueued?.filter fun payload => payload.localId = localId

theorem enqueuedAs_enqueue (localId convId convType content newId : String)
    (contentType : Int32) (callback : AnyChatCallback) :
    (enqueue convId convType contentType content newId callback).enqueuedAs localId =
      if newId = localId then
        some
          { conversationId := convId, conversationType := convType, contentType := contentType,
            content := content, localId := newId }
      else none := by
  by_cases same : newId = localId
  · rw [if_pos same]
    exact Option.filter_eq_some_iff.mpr ⟨rfl, decide_eq_true same⟩
  · rw [if_neg same]
    exact Option.filter_eq_none_iff.mpr fun payload offered => by
      obtain rfl := Option.some.inj offered
      simpa using same

/-- Identifiers of enqueued messages are non-empty and free of NULs. -/
def WellFormed (event : QueueEvent) : Prop :=
  ∀ payload, event.enqueued? = some payload → payload.localId ≠ "" ∧ NulFree payload.localId

/-- The first payload enqueued under a `local_id` since its last
acknowledgement. -/
def firstSinceAck (localId : String) (events : List QueueEvent) : Option SendMessagePayload :=
  (events.rtakeWhile fun event => !event.acks localId).findSome? (enqueuedAs localId)

end QueueEvent

open QueueEvent (firstSinceAck)

theorem pending_isSlot (localId : String) :
    EventRun.IsSlot QueueEvent.apply (fun client => client.table.pending localId)
      (QueueEvent.acks localId) fun _ event => event.enqueuedAs localId := by
  intro client event
  cases event with
  | enqueue convId convType contentType content newId callback =>
      simp only [QueueEvent.apply, QueueEvent.acks, Client.pending_enqueue]
      by_cases same : localId = newId
      · subst same
        simp [QueueEvent.enqueuedAs_enqueue]
      · simp [QueueEvent.enqueuedAs_enqueue, same, Ne.symm same]
  | connected sendFn =>
      simp [QueueEvent.apply, QueueEvent.acks, QueueEvent.enqueuedAs, QueueEvent.enqueued?,
        Client.pending_onConnected]
  | disconnected =>
      simp [QueueEvent.apply, QueueEvent.acks, QueueEvent.enqueuedAs, QueueEvent.enqueued?,
        Client.onDisconnected]
  | transient frame =>
      simp only [QueueEvent.apply, Client.sendTransient]
      split <;> simp [QueueEvent.acks, QueueEvent.enqueuedAs, QueueEvent.enqueued?]
  | messageSentAck acked =>
      simp only [QueueEvent.apply, QueueEvent.acks, Client.pending_onMessageSentAck]
      by_cases same : localId = acked
      · subst same
        simp [QueueEvent.enqueuedAs, QueueEvent.enqueued?]
      · simp [QueueEvent.enqueuedAs, QueueEvent.enqueued?, same, Ne.symm same]
  | work => simp [QueueEvent.apply, QueueEvent.acks, QueueEvent.enqueuedAs, QueueEvent.enqueued?]

/-- The table is the history: under each `local_id` waits the first payload
enqueued since its last acknowledgement. -/
theorem pending_exec (localId : String) {client : Client}
    (empty : client.table.outboundQueue = ∅) (events : List QueueEvent) :
    (EventRun.exec QueueEvent.apply client events).table.pending localId =
      firstSinceAck localId events := by
  refine (pending_isSlot localId).exec_eq_findSome ?_ events
  simp [Db.pending, empty]

theorem localId_of_firstSinceAck {localId : String} {events : List QueueEvent}
    {payload : SendMessagePayload} (first : firstSinceAck localId events = some payload) :
    payload.localId = localId ∧ ∃ event ∈ events, event.enqueued? = some payload := by
  rcases List.exists_of_findSome?_eq_some first with ⟨event, member, offered⟩
  rcases Option.filter_eq_some_iff.mp offered with ⟨enqueued, sameId⟩
  exact ⟨by simpa using sameId, event, (List.rtakeWhile_suffix _ _).mem member, enqueued⟩

/-- Only well-formed identifiers wait in the table. -/
theorem nulFree_of_pending {client : Client} (empty : client.table.outboundQueue = ∅)
    {events : List QueueEvent} (wellFormed : ∀ event ∈ events, event.WellFormed)
    {localId : String} {payload : SendMessagePayload}
    (waiting : (EventRun.exec QueueEvent.apply client events).table.pending localId =
      some payload) : NulFree localId := by
  rw [pending_exec localId empty] at waiting
  rcases localId_of_firstSinceAck waiting with ⟨rfl, event, member, enqueued⟩
  exact (wellFormed event member payload enqueued).2

/-! ## Flushes -/

/-- The payload as it comes back from the database. -/
def SendMessagePayload.readBack (payload : SendMessagePayload) : SendMessagePayload where
  conversationId := cString payload.conversationId
  conversationType := cString payload.conversationType
  contentType := payload.contentType
  content := cString payload.content
  localId := cString payload.localId

/-- The texts beside the `local_id` contain no NUL. -/
def SendMessagePayload.TextNulFree (payload : SendMessagePayload) : Prop :=
  NulFree payload.conversationId ∧ NulFree payload.conversationType ∧ NulFree payload.content

instance SendMessagePayload.decidableTextNulFree (payload : SendMessagePayload) :
    Decidable payload.TextNulFree :=
  inferInstanceAs (Decidable (_ ∧ _ ∧ _))

theorem SendMessagePayload.readBack_eq_self_iff {payload : SendMessagePayload}
    (idNulFree : NulFree payload.localId) : payload.readBack = payload ↔ payload.TextNulFree := by
  constructor
  · intro same
    rcases SendMessagePayload.mk.inj same with ⟨convId_eq, convType_eq, _, content_eq, _⟩
    exact ⟨cString_eq_self_iff.mp convId_eq, cString_eq_self_iff.mp convType_eq,
      cString_eq_self_iff.mp content_eq⟩
  · rintro ⟨convId, convType, content⟩
    rw [readBack, cString_eq_self convId, cString_eq_self convType, cString_eq_self content,
      cString_eq_self idNulFree]

namespace Client

theorem resendRow_toRow (localId : String) (row : OutboundRow) {client : Client} {sendFn : Nat}
    (connected : client.outbound.sendFn = some sendFn) :
    client.resendRow (row.toRow localId) =
      (client.exec (.bumpRetryCount (cString localId))).callSendFn sendFn
        (sendFrame (row.toPayload localId).readBack) := by
  have localIdText : (row.toRow localId).lookup "local_id" = some (cString localId) := rfl
  have convIdText : (row.toRow localId).lookup "conv_id" = some (cString row.convId) := rfl
  have convTypeText : (row.toRow localId).lookup "conv_type" = some (cString row.convType) := rfl
  have contentTypeText :
      (row.toRow localId).lookup "content_type" = some (toString row.contentType) := rfl
  have contentText : (row.toRow localId).lookup "content" = some (cString row.content) := rfl
  rw [resendRow, localIdText, convIdText, convTypeText, contentTypeText, contentText]
  simp only [stoll_toString, sendRow, connected]
  rfl

theorem sent_resendRows (rows : List (String × OutboundRow)) {client : Client} {sendFn : Nat}
    (connected : client.outbound.sendFn = some sendFn) :
    ((rows.map fun row => row.2.toRow row.1).foldl
        (fun client row => client.resendRow row) client).outbound.sent =
      client.outbound.sent ++
        rows.map fun row => (sendFn, sendFrame (row.2.toPayload row.1).readBack) := by
  induction rows generalizing client with
  | nil => simp
  | cons row rest ih =>
      have stillConnected : ((client.exec (.bumpRetryCount (cString row.1))).callSendFn sendFn
          (sendFrame (row.2.toPayload row.1).readBack)).outbound.sendFn = some sendFn := connected
      rw [List.map_cons, List.foldl_cons, resendRow_toRow row.1 row.2 connected,
        ih stillConnected]
      simp [callSendFn]

/-- A row of the table waits under its `local_id`. -/
theorem pending_of_mem_rows {db : Db} {localId : String} {row : OutboundRow}
    (member : (localId, row) ∈ db.outboundQueue.rows) :
    db.pending localId = some (row.toPayload localId) := by
  rw [Db.pending, KeyTable.lookup_eq_some_iff_mem_rows.mpr member]
  rfl

/-- A flush sends one frame per pending row, built from the text read back. -/
theorem sent_onConnected (sendFn : Nat) (client : Client) :
    (client.onConnected sendFn).outbound.sent =
      client.outbound.sent ++
        client.pendingRows.map fun row =>
          (sendFn, sendFrame (row.2.toPayload row.1).readBack) :=
  sent_resendRows client.pendingRows rfl

/-- A flush hands the send function exactly one frame per pending row, with the
payload of that row. -/
def FlushesPending (client : Client) (sendFn : Nat) : Prop :=
  ∃ frames : List Frame,
    (client.onConnected sendFn).outbound.sent =
        client.outbound.sent ++ frames.map (fun frame => (sendFn, frame)) ∧
      frames.Perm (client.table.outboundQueue.rows.map fun row =>
        sendFrame (row.2.toPayload row.1))

theorem flushesPending_iff (client : Client) (sendFn : Nat)
    (idsNulFree : ∀ localId payload, client.table.pending localId = some payload →
      NulFree localId) :
    client.FlushesPending sendFn ↔
      ∀ localId payload, client.table.pending localId = some payload → payload.TextNulFree := by
  constructor
  · rintro ⟨frames, sent, perm⟩ localId payload waiting
    rcases Option.map_eq_some_iff.mp waiting with ⟨row, found, rfl⟩
    have member := KeyTable.lookup_eq_some_iff_mem_rows.mp found
    have frames_eq : frames = client.pendingRows.map fun row =>
        sendFrame (row.2.toPayload row.1).readBack := by
      rw [sent_onConnected] at sent
      have pairs_eq := List.append_cancel_left sent
      have second := congrArg (List.map Prod.snd) pairs_eq
      simpa [List.map_map, Function.comp_def] using second.symm
    -- The row's full frame is one of the frames sent; its `local_id` says from which row.
    have inFrames := perm.mem_iff.mpr (List.mem_map_of_mem
      (f := fun row : String × OutboundRow => sendFrame (row.2.toPayload row.1)) member)
    rw [frames_eq] at inFrames
    rcases List.mem_map.mp inFrames with ⟨⟨otherId, other⟩, otherMem, sameFrame⟩
    have otherRow : (otherId, other) ∈ client.table.outboundQueue.rows :=
      client.platform.orderByCreatedAt.mem_sort.mp otherMem
    have samePayload : (other.toPayload otherId).readBack = row.toPayload localId :=
      FramePayload.sendMessage.inj (Frame.mk.inj sameFrame).2
    have sameId : otherId = localId := by
      have read := congrArg SendMessagePayload.localId samePayload
      exact (cString_eq_self (idsNulFree otherId _ (pending_of_mem_rows otherRow))).symm.trans read
    subst sameId
    have sameRow : other = row := by
      have lookupOther := KeyTable.lookup_eq_some_iff_mem_rows.mpr otherRow
      exact Option.some.inj (lookupOther.symm.trans found)
    subst sameRow
    exact (SendMessagePayload.readBack_eq_self_iff (idsNulFree otherId _ waiting)).mp samePayload
  · intro textNulFree
    refine ⟨client.pendingRows.map fun row => sendFrame (row.2.toPayload row.1), ?_, ?_⟩
    · rw [sent_onConnected, List.map_map]
      congr 1
      refine List.map_congr_left fun row member => ?_
      have waiting := pending_of_mem_rows (client.platform.orderByCreatedAt.mem_sort.mp member)
      have unchanged := (SendMessagePayload.readBack_eq_self_iff
        (idsNulFree row.1 _ waiting)).mpr (textNulFree row.1 _ waiting)
      simp [unchanged]
    · exact (client.platform.orderByCreatedAt.perm _).map _

end Client

/-! ## The queue over a whole run -/

/-- After every part of a run the table is the history of that part, and every
flush in the run sends the rows it finds. -/
def TracksPending (client : Client) (events : List QueueEvent) : Prop :=
  ∀ before after, events = before ++ after →
    (∀ localId, (EventRun.exec QueueEvent.apply client before).table.pending localId =
      firstSinceAck localId before) ∧
    ∀ sendFn rest, after = .connected sendFn :: rest →
      (EventRun.exec QueueEvent.apply client before).FlushesPending sendFn

/-- In a process that starts with nothing queued, the queue tracks the pending
messages exactly when no flush finds a pending message with a NUL in its
conversation id, conversation type or content. -/
theorem tracksPending_iff {client : Client} (empty : client.table.outboundQueue = ∅)
    {events : List QueueEvent} (wellFormed : ∀ event ∈ events, event.WellFormed) :
    TracksPending client events ↔
      ∀ before sendFn after, events = before ++ .connected sendFn :: after →
        ∀ localId payload, firstSinceAck localId before = some payload →
          payload.TextNulFree := by
  have idsNulFree : ∀ before after, events = before ++ after → ∀ localId payload,
      (EventRun.exec QueueEvent.apply client before).table.pending localId = some payload →
        NulFree localId := by
    intro before after split localId payload waiting
    exact nulFree_of_pending empty
      (fun event member => wellFormed event (split ▸ List.mem_append_left after member)) waiting
  constructor
  · intro tracks before sendFn after split localId payload first
    have flushes := (tracks before (.connected sendFn :: after) split).2 sendFn after rfl
    refine (Client.flushesPending_iff _ sendFn (idsNulFree before _ split)).mp flushes
      localId payload ?_
    rw [pending_exec localId empty]
    exact first
  · intro textNulFree before after split
    refine ⟨fun localId => pending_exec localId empty before, fun sendFn rest after_eq => ?_⟩
    subst after_eq
    apply (Client.flushesPending_iff _ sendFn (idsNulFree before _ split)).mpr
    intro localId payload waiting
    rw [pending_exec localId empty] at waiting
    exact textNulFree before sendFn rest split localId payload waiting

/-- A message enqueued twice, flushed, acknowledged and flushed again. -/
theorem tracksPending_iff_resent :
    let events : List QueueEvent :=
      [.enqueue "c1" "private" 1 "first" "local_1" {},
        .enqueue "c2" "group" 1 "second" "local_1" {}, .connected 7,
        .messageSentAck "local_1", .disconnected, .connected 8]
    TracksPending (.start default {} 0) events ↔
      ∀ before sendFn after, events = before ++ .connected sendFn :: after →
        ∀ localId payload, firstSinceAck localId before = some payload →
          payload.TextNulFree := by
  refine tracksPending_iff rfl fun event member payload enqueued => ?_
  have sameId : payload.localId = "local_1" := by
    simp only [List.mem_cons, List.not_mem_nil, or_false] at member
    rcases member with rfl | rfl | rfl | rfl | rfl | rfl <;>
      simp [QueueEvent.enqueued?] at enqueued
    all_goals rw [← enqueued]
  rw [sameId]
  exact ⟨by decide, by decide⟩

/-- A message whose content holds a NUL goes out cut short on the next flush. -/
theorem not_tracksPending_nul_content :
    ¬TracksPending (.start default {} 0)
      [.enqueue "c1" "private" 1 "a\x00b" "local_1" {}, .connected 7] := by
  intro tracks
  have flushes := (tracks [.enqueue "c1" "private" 1 "a\x00b" "local_1" {}] [.connected 7] rfl).2 7
    [] rfl
  have idsNulFree : ∀ localId payload,
      (EventRun.exec QueueEvent.apply (.start default {} 0)
        [.enqueue "c1" "private" 1 "a\x00b" "local_1" {}]).table.pending localId = some payload →
        NulFree localId := by
    intro localId payload waiting
    rw [pending_exec localId rfl] at waiting
    rcases localId_of_firstSinceAck waiting with ⟨rfl, event, member, enqueued⟩
    obtain rfl := List.mem_singleton.mp member
    obtain rfl := Option.some.inj enqueued
    decide
  have textNulFree := (Client.flushesPending_iff _ 7 idsNulFree).mp flushes "local_1"
    { conversationId := "c1", conversationType := "private", contentType := 1,
      content := "a\x00b", localId := "local_1" } (by rfl)
  exact absurd textNulFree (by decide)

end AnychatSdk
