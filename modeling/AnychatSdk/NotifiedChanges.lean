import AnychatSdk.BucketPartition

/-!
# What a notified change carries

A notification of an edit, a recall or a deletion names a message and some of its
fields; the others are to stay.  The decoder fills in what is missing, and each
handler compares with a sentinel to see what was given.  The content type that is
filled in is a real one.
-/

namespace AnychatSdk

/-! ## Places in the cache -/

namespace MessageCache

structure Place where
  convId : String
  index : Nat

/-- The message at a place. -/
def messageAt (cache : MessageCache) (place : Place) : Option Message :=
  (cache.get place.convId)[place.index]?

/-- The place whose message an update by id changes. -/
def Reaches (cache : MessageCache) (messageId : String) (place : Place) : Prop :=
  ∃ message, cache.find? messageId = some (place.convId, message) ∧
    ((cache.get place.convId).findIdx? fun message => message.messageId = messageId) =
      some place.index

variable {cache : MessageCache} {messageId convId : String} {message : Message}
  {change : Message → Message} {place : Place}

theorem getElem?_modifyFirst (bucket : List Message) (index : Nat) :
    (modifyFirst messageId change bucket)[index]? =
      if (bucket.findIdx? fun message => message.messageId = messageId) = some index then
        bucket[index]?.map change
      else bucket[index]? := by
  induction bucket generalizing index with
  | nil => simp [modifyFirst]
  | cons first rest ih =>
      by_cases matched : first.messageId = messageId
      · cases index with
        | zero => simp [modifyFirst, matched, List.findIdx?_cons]
        | succ index => simp [modifyFirst, matched, List.findIdx?_cons]
      · cases index with
        | zero => simp [modifyFirst, matched, List.findIdx?_cons]
        | succ index => simp [modifyFirst, matched, List.findIdx?_cons, ih]

theorem messageAt_update_of_reaches (reaches : cache.Reaches messageId place) :
    (cache.updateMessageById messageId change).2.messageAt place =
      (cache.messageAt place).map change := by
  rcases reaches with ⟨message, found, index⟩
  rw [messageAt, get_updateMessageById found, if_pos rfl, getElem?_modifyFirst, if_pos index]
  rfl

theorem messageAt_update_of_not_reaches (elsewhere : ¬cache.Reaches messageId place) :
    (cache.updateMessageById messageId change).2.messageAt place = cache.messageAt place := by
  cases found : cache.find? messageId with
  | none => rw [updateMessageById, found]
  | some entry =>
      rcases entry with ⟨convId, message⟩
      rw [messageAt, get_updateMessageById found]
      split
      · next here =>
          have otherIndex : ((cache.get place.convId).findIdx? fun message =>
              message.messageId = messageId) ≠ some place.index :=
            fun index => elsewhere ⟨message, here ▸ found, index⟩
          rw [← here, getElem?_modifyFirst, if_neg otherIndex]
          rfl
      · rfl

/-- The message that is found lies at the place that is reached. -/
theorem exists_reaches (found : cache.find? messageId = some (convId, message)) :
    ∃ place, cache.Reaches messageId place ∧ cache.messageAt place = some message := by
  rcases find?_bucket found with ⟨bucket, bucketFound, firstFound⟩
  rw [List.find?_eq_bind_findIdx?_getElem?] at firstFound
  rcases Option.bind_eq_some_iff.mp firstFound with ⟨index, indexFound, here⟩
  have isBucket : cache.get convId = bucket := by
    rw [get, bucketFound]
    rfl
  refine ⟨⟨convId, index⟩, ⟨message, found, ?_⟩, ?_⟩
  · rw [isBucket]
    exact indexFound
  · rw [messageAt, isBucket]
    exact here

theorem Reaches.unique {other : Place} (reaches : cache.Reaches messageId place)
    (again : cache.Reaches messageId other) : place = other := by
  rcases reaches with ⟨message, found, index⟩
  rcases again with ⟨otherMessage, otherFound, otherIndex⟩
  have sameConv : place.convId = other.convId :=
    congrArg Prod.fst (Option.some.inj (found.symm.trans otherFound))
  rw [sameConv] at index
  have sameIndex := Option.some.inj (index.symm.trans otherIndex)
  cases place
  cases other
  exact congrArg₂ Place.mk sameConv sameIndex

theorem holds_of_messageAt (here : cache.messageAt place = some message) : cache.Holds message :=
  holds_of_mem_get (List.mem_of_getElem? here)

end MessageCache

/-! ## Notifications of a change -/

inductive ChangeKind where
  | recalled
  | deleted
  | edited
  deriving DecidableEq

/-- What the status becomes. -/
def ChangeKind.status (kind : ChangeKind) (old : Int32) : Int32 :=
  match kind with
  | recalled => 1
  | deleted => 2
  | edited => old

/-- A notification that names its message. -/
structure ChangeNotification where
  kind : ChangeKind
  timestamp : Int64
  payload : NotificationMessagePayload
  names : payload.messageId ≠ ""

namespace ChangeNotification

variable (notification : ChangeNotification) (client : Client)

def messageId : String :=
  notification.payload.messageId

/-- The message passed to the listener and the client afterwards. -/
def handle : Option Message × Client :=
  match notification.kind with
  | .recalled => client.handleMessageRecalled notification.timestamp notification.payload
  | .deleted => client.handleMessageDeleted notification.timestamp notification.payload
  | .edited => client.handleMessageEdited notification.payload

/-- What a cached message becomes. -/
def change : Message → Message :=
  match notification.kind with
  | .recalled => Client.recallCached (parseMessageFromNotification notification.payload)
  | .deleted => Client.deleteCached (parseMessageFromNotification notification.payload)
  | .edited => Client.editCached (parseMessageFromNotification notification.payload)

/-- What is written to the content column. -/
def written (changed : Message) : Option String :=
  match notification.kind with
  | .deleted => none
  | _ => Client.contentToWrite changed

/-- A cached message keeps every field that the payload does not bring, changes its status as
the kind of the notification says, agrees with its row, and is what the listener gets.  A text
that is missing in the payload is empty there. -/
structure OnlyCarried (handled : Option Message × Client) (before after : Message) : Prop where
  content : notification.payload.content = "" → after.content = before.content
  contentType : notification.payload.contentType = none → after.contentType = before.contentType
  convId : notification.payload.conversationId = "" → after.convId = before.convId
  senderId : notification.payload.fromUserId = "" → after.senderId = before.senderId
  localId : notification.payload.localId = "" → after.localId = before.localId
  replyTo : notification.payload.replyTo = "" → after.replyTo = before.replyTo
  seq : notification.payload.seq = none → after.seq = before.seq
  timestampMs : notification.payload.sentAt = none → after.timestampMs = before.timestampMs
  sameId : after.messageId = before.messageId
  type : after.type = before.type
  sendState : after.sendState = before.sendState
  isRead : after.isRead = before.isRead
  status : after.status = notification.kind.status before.status
  stored : ∀ row, handled.2.table.messages.lookup notification.messageId = some row →
    row.status = after.status.toInt64 ∧ row.content = after.content
  shown : handled.1 = some after

/-- After the notification has been handled, every cached copy of its message has changed only
so. -/
def ChangesOnlyCarried : Prop :=
  ∀ place before, client.msgCache.messageAt place = some before →
    before.messageId = notification.messageId →
    ∃ after, (notification.handle client).2.msgCache.messageAt place = some after ∧
      notification.OnlyCarried (notification.handle client) before after

/-- The message with everything that a notification of this kind takes from its payload. -/
def applied (cached : Message) : Message :=
  { cached with
    convId :=
      if notification.kind ≠ .edited ∧ notification.payload.conversationId ≠ "" then
        notification.payload.conversationId
      else cached.convId
    contentType :=
      if notification.kind = .edited then
        normalizeMessageContentType notification.payload.contentType
      else cached.contentType
    content :=
      if notification.kind ≠ .deleted ∧ notification.payload.content ≠ "" then
        notification.payload.content
      else cached.content
    status := notification.kind.status cached.status }

/-- An edit brings the content type or is of a text; the row has the content of the cached
message unless that is written; and the copies that the update does not reach have everything
already. -/
structure IsHarmlessFor (first : Message) : Prop where
  contentType : notification.kind = .edited → notification.payload.contentType = none →
    first.contentType = Client.messageContentTypeText
  row : ∀ row, client.table.messages.lookup notification.messageId = some row →
    row.content = first.content ∨ notification.kind ≠ .deleted ∧
      (notification.payload.content ≠ "" ∨ first.content ≠ "")
  others : ∀ place copy, client.msgCache.messageAt place = some copy →
    copy.messageId = notification.messageId →
    ¬client.msgCache.Reaches notification.messageId place → copy = notification.applied first

/-- The notification is harmless for the copy that an update reaches, if there is one. -/
def IsHarmless : Prop :=
  ∀ convId first, client.msgCache.find? notification.messageId = some (convId, first) →
    notification.IsHarmlessFor client first

/-! ## The effect on cache and row -/

/-- The common part of the three handlers, for a message that is cached. -/
theorem merge_of_found {client : Client} {first : Message} {convId : String} (message : Message)
    (change : Message → Message)
    (found : client.msgCache.find? message.messageId = some (convId, first))
    (sameId : (change first).messageId = message.messageId)
    (status : Message → Int32) (content : Message → Option String) :
    (client.mergeNotified change message).1 = change first ∧
      ((client.mergeNotified change message).2.updateMessageDbStatusAndContent
          (client.mergeNotified change message).1.messageId
          (status (client.mergeNotified change message).1)
          (content (client.mergeNotified change message).1)).msgCache =
        (client.msgCache.updateMessageById message.messageId change).2 ∧
      ((client.mergeNotified change message).2.updateMessageDbStatusAndContent
          (client.mergeNotified change message).1.messageId
          (status (client.mergeNotified change message).1)
          (content (client.mergeNotified change message).1)).table.messages =
        (client.table.runOption (Action.messageStmt.statusStmt message.messageId
          (status (change first)) (content (change first)))).messages := by
  rcases Client.mergeNotified_of_found found with ⟨merged, cached⟩
  refine ⟨merged, ?_, ?_⟩
  · rw [Client.msgCache_updateMessageDbStatusAndContent, cached]
  · rw [Client.table_updateMessageDbStatusAndContent, Client.table_mergeNotified, merged, sameId]

theorem exists_withdrawnMessage (status : Int32) (withdrawnAt : Option TimestampValue) :
    ∃ timestampMs, Client.withdrawnMessage status withdrawnAt notification.timestamp
        notification.payload =
      some
        { parseMessageFromNotification notification.payload with
          status := status, timestampMs := timestampMs } := by
  have named : (parseMessageFromNotification notification.payload).messageId ≠ "" :=
    notification.names
  simp only [Client.withdrawnMessage, if_neg named]
  split
  · exact ⟨_, rfl⟩
  · exact ⟨_, rfl⟩

/-! ## The changed message -/

/-- The decoder never leaves the content type unspecified. -/
theorem normalizeMessageContentType_ne (value : Option IntegerValue) :
    normalizeMessageContentType value ≠ messageContentTypeUnspecified := by
  rw [normalizeMessageContentType]
  split
  · decide
  · next inRange =>
      intro unspecified
      exact inRange (Or.inl (by rw [unspecified]; decide))

/-- So an edit always writes the content type. -/
theorem change_eq_applied (cached : Message) :
    notification.change cached = notification.applied cached := by
  have specified := normalizeMessageContentType_ne notification.payload.contentType
  rw [change, applied]
  by_cases named : notification.payload.conversationId = "" <;>
    by_cases given : notification.payload.content = ""
  all_goals
    cases notification.kind with
    | recalled =>
        simp [Client.recallCached, parseMessageFromNotification, ChangeKind.status, named, given]
    | deleted =>
        simp [Client.deleteCached, parseMessageFromNotification, ChangeKind.status, named]
    | edited =>
        simp [Client.editCached, parseMessageFromNotification, ChangeKind.status, given, specified]

/-- The content column has the content of the changed message if it had that of the cached one,
or if there is something to write. -/
theorem written_getD_iff (cached : Message) (stored : String) :
    (notification.written (notification.change cached)).getD stored =
        (notification.change cached).content ↔
      stored = cached.content ∨ notification.kind ≠ .deleted ∧
        (notification.payload.content ≠ "" ∨ cached.content ≠ "") := by
  rw [written, Client.contentToWrite, change_eq_applied, applied]
  simp only
  by_cases given : notification.payload.content = ""
  · by_cases blank : cached.content = ""
    · cases notification.kind <;> simp [given, blank]
    · cases notification.kind <;> simp [given, blank]
  · cases notification.kind <;> simp [given]

section Found

variable {notification client} {convId : String} {first : Message}
  (found : client.msgCache.find? notification.messageId = some (convId, first))

include found

theorem messageId_of_found : first.messageId = notification.messageId :=
  (MessageCache.find?_spec found).2

theorem handle_of_found :
    (notification.handle client).1 = some (notification.change first) ∧
      (notification.handle client).2.msgCache =
        (client.msgCache.updateMessageById notification.messageId notification.change).2 ∧
      (notification.handle client).2.table.messages =
        (client.table.runOption (Action.messageStmt.statusStmt notification.messageId
          (notification.change first).status
          (notification.written (notification.change first)))).messages := by
  have sameId := messageId_of_found found
  cases kind : notification.kind with
  | recalled =>
      rcases notification.exists_withdrawnMessage 1 notification.payload.recalledAt with
        ⟨timestampMs, withdrawn⟩
      simp only [handle, change, written, kind, Client.handleMessageRecalled, withdrawn]
      exact (merge_of_found
        { parseMessageFromNotification notification.payload with
          status := 1, timestampMs := timestampMs } _ found sameId (fun _ => 1)
        Client.contentToWrite).imp_left (congrArg some)
  | deleted =>
      rcases notification.exists_withdrawnMessage 2 notification.payload.deletedAt with
        ⟨timestampMs, withdrawn⟩
      simp only [handle, change, written, kind, Client.handleMessageDeleted, withdrawn]
      exact (merge_of_found
        { parseMessageFromNotification notification.payload with
          status := 2, timestampMs := timestampMs } _ found sameId (fun _ => 2)
        fun _ => none).imp_left (congrArg some)
  | edited =>
      have edits : Client.editedNotification notification.payload =
          some (parseMessageFromNotification notification.payload) :=
        if_neg notification.names
      simp only [handle, change, written, kind, Client.handleMessageEdited, edits]
      exact (merge_of_found (parseMessageFromNotification notification.payload) _ found sameId
        Message.status Client.contentToWrite).imp_left (congrArg some)

/-- The row afterwards agrees with the changed message exactly if it has the content of the
message before, or the content is written. -/
theorem stored_iff :
    (∀ row, (notification.handle client).2.table.messages.lookup notification.messageId =
          some row →
        row.status = (notification.change first).status.toInt64 ∧
          row.content = (notification.change first).content) ↔
      ∀ row, client.table.messages.lookup notification.messageId = some row →
        row.content = first.content ∨ notification.kind ≠ .deleted ∧
          (notification.payload.content ≠ "" ∨ first.content ≠ "") := by
  have names : notification.messageId ≠ "" := notification.names
  rw [(handle_of_found found).2.2, Db.lookup_statusStmt names, if_pos rfl]
  cases client.table.messages.lookup notification.messageId with
  | none => simp
  | some row => simpa using written_getD_iff notification first row.content

/-- The first copy. -/
theorem onlyCarried_change_iff :
    notification.OnlyCarried (notification.handle client) first (notification.change first) ↔
      (notification.kind = .edited → notification.payload.contentType = none →
          first.contentType = Client.messageContentTypeText) ∧
        ∀ row, client.table.messages.lookup notification.messageId = some row →
          row.content = first.content ∨ notification.kind ≠ .deleted ∧
            (notification.payload.content ≠ "" ∨ first.content ≠ "") := by
  have stored_iff := stored_iff found
  have shown := (handle_of_found found).1
  rw [← stored_iff]
  rw [change_eq_applied] at shown ⊢
  constructor
  · intro carried
    refine ⟨fun edited absent => ?_, carried.stored⟩
    have kept := carried.contentType absent
    rw [applied, if_pos edited, absent] at kept
    exact kept.symm
  · rintro ⟨contentType, stored⟩
    constructor
    · exact fun absent => if_neg fun given => given.2 absent
    · intro absent
      change (if _ then _ else _) = _
      split
      · next edited =>
          rw [contentType edited absent, absent]
          rfl
      · rfl
    · exact fun absent => if_neg fun given => given.2 absent
    · exact fun _ => rfl
    · exact fun _ => rfl
    · exact fun _ => rfl
    · exact fun _ => rfl
    · exact fun _ => rfl
    · rfl
    · rfl
    · rfl
    · rfl
    · rfl
    · exact stored
    · exact shown

end Found

/-- A copy that the update does not reach. -/
theorem onlyCarried_self_iff {handled : Option Message × Client} {changed : Message}
    (shown : handled.1 = some changed)
    (stored : ∀ row, handled.2.table.messages.lookup notification.messageId = some row →
      row.status = changed.status.toInt64 ∧ row.content = changed.content)
    (status : changed.status = notification.kind.status changed.status) (copy : Message) :
    notification.OnlyCarried handled copy copy ↔ copy = changed := by
  constructor
  · intro carried
    exact Option.some.inj (carried.shown.symm.trans shown)
  · rintro rfl
    exact
      { content := fun _ => rfl
        contentType := fun _ => rfl
        convId := fun _ => rfl
        senderId := fun _ => rfl
        localId := fun _ => rfl
        replyTo := fun _ => rfl
        seq := fun _ => rfl
        timestampMs := fun _ => rfl
        sameId := rfl
        type := rfl
        sendState := rfl
        isRead := rfl
        status := status
        stored := stored
        shown := shown }

theorem status_status (kind : ChangeKind) (old : Int32) :
    kind.status (kind.status old) = kind.status old := by
  cases kind with
  | recalled => rfl
  | deleted => rfl
  | edited => rfl

/-- A notification changes only what it carries exactly if it is harmless. -/
theorem changesOnlyCarried_iff_isHarmless :
    notification.ChangesOnlyCarried client ↔ notification.IsHarmless client := by
  cases found : client.msgCache.find? notification.messageId with
  | none =>
      have noCopy := MessageCache.find?_eq_none_iff.mp found
      constructor
      · intro _ convId first here
        exact absurd (found.symm.trans here) (Option.some_ne_none _).symm
      · intro _ place before here sameId
        exact absurd sameId (noCopy before (MessageCache.holds_of_messageAt here))
  | some entry =>
      rcases entry with ⟨convId, first⟩
      have ⟨shown, cached, _⟩ := handle_of_found found
      rcases MessageCache.exists_reaches found with ⟨firstPlace, reaches, firstHere⟩
      have firstAfter : (notification.handle client).2.msgCache.messageAt firstPlace =
          some (notification.change first) := by
        rw [cached, MessageCache.messageAt_update_of_reaches reaches, firstHere]
        rfl
      have stays : ∀ place, ¬client.msgCache.Reaches notification.messageId place →
          (notification.handle client).2.msgCache.messageAt place =
            client.msgCache.messageAt place := by
        intro place elsewhere
        rw [cached, MessageCache.messageAt_update_of_not_reaches elsewhere]
      have settled : (notification.change first).status =
          notification.kind.status (notification.change first).status := by
        rw [change_eq_applied]
        exact (status_status notification.kind first.status).symm
      constructor
      · intro changes otherId other here
        obtain rfl : first = other :=
          congrArg Prod.snd (Option.some.inj (found.symm.trans here))
        rcases changes firstPlace first firstHere (messageId_of_found found) with
          ⟨after, afterHere, carried⟩
        obtain rfl := Option.some.inj (afterHere.symm.trans firstAfter)
        rcases (onlyCarried_change_iff found).mp carried with ⟨contentType, row⟩
        refine ⟨contentType, row, ?_⟩
        intro place copy copyHere sameId elsewhere
        rcases changes place copy copyHere sameId with ⟨copyAfter, copyAfterHere, copyCarried⟩
        rw [stays place elsewhere, copyHere] at copyAfterHere
        obtain rfl := Option.some.inj copyAfterHere
        rw [← change_eq_applied]
        exact (notification.onlyCarried_self_iff shown carried.stored settled copy).mp copyCarried
      · intro isHarmless place before here sameId
        have harmless := isHarmless convId first found
        have carried := (onlyCarried_change_iff found).mpr ⟨harmless.contentType, harmless.row⟩
        by_cases reached : client.msgCache.Reaches notification.messageId place
        · obtain rfl := reaches.unique reached
          obtain rfl := Option.some.inj (here.symm.trans firstHere)
          exact ⟨_, firstAfter, carried⟩
        · have same := harmless.others place before here sameId reached
          rw [← change_eq_applied] at same
          refine ⟨before, (stays place reached).trans here, ?_⟩
          exact (notification.onlyCarried_self_iff shown carried.stored settled before).mpr same

end ChangeNotification

/-- An edit without a content type makes a text of a cached image. -/
theorem not_changesOnlyCarried_image :
    ¬(⟨.edited, 0, { messageId := "m1", content := "new caption" }, by decide⟩ :
        ChangeNotification).ChangesOnlyCarried
      ((Client.start default {} 0).receiveMessage
        { messageId := "m1", convId := "c1", contentType := 2, content := "caption" }) := by
  intro changes
  rcases changes ⟨"c1", 0⟩
    { messageId := "m1", convId := "c1", contentType := 2, content := "caption" } (by decide) rfl
    with ⟨after, afterHere, carried⟩
  have contentType := carried.contentType rfl
  obtain rfl := Option.some.inj afterHere
  exact absurd contentType (by decide)

end AnychatSdk
