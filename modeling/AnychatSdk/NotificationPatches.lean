import AnychatSdk.CacheAgreement

/-!
# Conversation notifications as patches

A notification carries a few fields of a conversation.  The handler puts them
into the cached record, or into a blank one when there is none, and writes that
record over the whole row.
-/

namespace AnychatSdk

/-! ## What a notification may change -/

section Agreement

variable (notificationType : String) (payload : NotificationConversationPayload)

/-- The rows differ at most in what the notification may change.  `NULL` and the
empty text are the same to every reader of the column. -/
structure RowsAgree (first second : ConversationRow) : Prop where
  convType : first.convType = second.convType
  targetId : first.targetId = second.targetId
  lastMsgId : first.lastMsgId.getD "" = second.lastMsgId.getD ""
  lastMsgText : first.lastMsgText = second.lastMsgText
  lastMsgTimeMs : first.lastMsgTimeMs = second.lastMsgTimeMs
  unreadCount : payload.unreadCount = none → first.unreadCount = second.unreadCount
  isPinned : payload.isPinned = none → first.isPinned = second.isPinned
  isMuted : payload.isMuted = none → first.isMuted = second.isMuted
  burnAfterReading :
    payload.burnAfterReading = none → first.burnAfterReading = second.burnAfterReading
  autoDeleteDuration :
    payload.autoDeleteDuration = none → first.autoDeleteDuration = second.autoDeleteDuration
  pinTimeMs :
    notificationType ≠ "conversation.pin_updated" → first.pinTimeMs = second.pinTimeMs
  localSeq : first.localSeq = second.localSeq

/-- The records differ at most in what the notification may change. -/
structure RecordsAgree (first second : Conversation) : Prop where
  convId : first.convId = second.convId
  convType : first.convType = second.convType
  targetId : first.targetId = second.targetId
  lastMsgId : first.lastMsgId = second.lastMsgId
  lastMsgText : first.lastMsgText = second.lastMsgText
  lastMsgTimeMs : first.lastMsgTimeMs = second.lastMsgTimeMs
  unreadCount : payload.unreadCount = none → first.unreadCount = second.unreadCount
  isPinned : payload.isPinned = none → first.isPinned = second.isPinned
  isMuted : payload.isMuted = none → first.isMuted = second.isMuted
  burnAfterReading :
    payload.burnAfterReading = none → first.burnAfterReading = second.burnAfterReading
  autoDeleteDuration :
    payload.autoDeleteDuration = none → first.autoDeleteDuration = second.autoDeleteDuration
  pinTimeMs :
    notificationType ≠ "conversation.pin_updated" → first.pinTimeMs = second.pinTimeMs
  localSeq : first.localSeq = second.localSeq

end Agreement

section Relations

variable {notificationType : String} {payload : NotificationConversationPayload}

theorem RowsAgree.refl (row : ConversationRow) : RowsAgree notificationType payload row row := by
  constructor <;> simp

theorem RowsAgree.symm {first second : ConversationRow}
    (agree : RowsAgree notificationType payload first second) :
    RowsAgree notificationType payload second first where
  convType := agree.convType.symm
  targetId := agree.targetId.symm
  lastMsgId := agree.lastMsgId.symm
  lastMsgText := agree.lastMsgText.symm
  lastMsgTimeMs := agree.lastMsgTimeMs.symm
  unreadCount absent := (agree.unreadCount absent).symm
  isPinned absent := (agree.isPinned absent).symm
  isMuted absent := (agree.isMuted absent).symm
  burnAfterReading absent := (agree.burnAfterReading absent).symm
  autoDeleteDuration absent := (agree.autoDeleteDuration absent).symm
  pinTimeMs other := (agree.pinTimeMs other).symm
  localSeq := agree.localSeq.symm

theorem RowsAgree.trans {first second third : ConversationRow}
    (agree : RowsAgree notificationType payload first second)
    (next : RowsAgree notificationType payload second third) :
    RowsAgree notificationType payload first third where
  convType := agree.convType.trans next.convType
  targetId := agree.targetId.trans next.targetId
  lastMsgId := agree.lastMsgId.trans next.lastMsgId
  lastMsgText := agree.lastMsgText.trans next.lastMsgText
  lastMsgTimeMs := agree.lastMsgTimeMs.trans next.lastMsgTimeMs
  unreadCount absent := (agree.unreadCount absent).trans (next.unreadCount absent)
  isPinned absent := (agree.isPinned absent).trans (next.isPinned absent)
  isMuted absent := (agree.isMuted absent).trans (next.isMuted absent)
  burnAfterReading absent :=
    (agree.burnAfterReading absent).trans (next.burnAfterReading absent)
  autoDeleteDuration absent :=
    (agree.autoDeleteDuration absent).trans (next.autoDeleteDuration absent)
  pinTimeMs other := (agree.pinTimeMs other).trans (next.pinTimeMs other)
  localSeq := agree.localSeq.trans next.localSeq

/-- Records that agree are written as rows that agree. -/
theorem RecordsAgree.toRow {first second : Conversation}
    (agree : RecordsAgree notificationType payload first second) :
    RowsAgree notificationType payload first.toRow second.toRow where
  convType := congrArg conversationTypeText agree.convType
  targetId := agree.targetId
  lastMsgId := agree.lastMsgId
  lastMsgText := agree.lastMsgText
  lastMsgTimeMs := agree.lastMsgTimeMs
  unreadCount absent := congrArg Int32.toInt64 (agree.unreadCount absent)
  isPinned absent := congrArg (fun pinned : Bool => if pinned then 1 else 0) (agree.isPinned absent)
  isMuted absent := congrArg (fun muted : Bool => if muted then 1 else 0) (agree.isMuted absent)
  burnAfterReading absent := congrArg Int32.toInt64 (agree.burnAfterReading absent)
  autoDeleteDuration absent := congrArg Int32.toInt64 (agree.autoDeleteDuration absent)
  pinTimeMs := agree.pinTimeMs
  localSeq := agree.localSeq

end Relations

/-! ## The handler -/

/-- The record the handler starts from. -/
def Client.patchBase (convId : String) (client : Client) : Conversation :=
  { (client.convCache.get convId).getD {} with convId := convId }

/-- The record that the process knows of the conversation: the cached one, or
else what its row reads as. -/
def Client.knownRecord (convId : String) (row : ConversationRow) (client : Client) :
    Conversation :=
  (client.convCache.get convId).getD
    { rowToConversation (row.toRow convId) with convId := convId }

/-- Of a stored conversation, the handling has changed in the row and in the
cached record only what the notification may change, and nothing of others. -/
structure OnlyPatches (notificationType : String) (payload : NotificationConversationPayload)
    (before after : Client) : Prop where
  stored : ∀ row,
    before.table.conversations.lookup (notificationConversationId payload) = some row →
      ∃ next, after.table.conversations.lookup (notificationConversationId payload) = some next ∧
        RowsAgree notificationType payload row next
  cached : ∀ row,
    before.table.conversations.lookup (notificationConversationId payload) = some row →
      ∀ conv ∈ after.convCache.convs, conv ∈ before.convCache.convs ∨
        RecordsAgree notificationType payload
          (before.knownRecord (notificationConversationId payload) row) conv
  otherRows : ∀ convId ≠ notificationConversationId payload,
    after.table.conversations.lookup convId = before.table.conversations.lookup convId
  otherRecords : ∀ conv ∈ before.convCache.convs,
    conv.convId ≠ notificationConversationId payload → conv ∈ after.convCache.convs

section Handler

variable {notificationType : String} {payload : NotificationConversationPayload} {client : Client}

theorem Client.patchedConversation_agrees (pinTime updatedAt : Int64)
    (keepsPinTime : notificationType ≠ "conversation.pin_updated" →
      pinTime = (client.patchedConversation payload).pinTimeMs) :
    RecordsAgree notificationType payload
      (client.patchBase (notificationConversationId payload))
      { client.patchedConversation payload with
        pinTimeMs := pinTime, updatedAtMs := updatedAt } where
  convId := (client.convId_patchedConversation payload).symm
  convType := rfl
  targetId := rfl
  lastMsgId := rfl
  lastMsgText := rfl
  lastMsgTimeMs := rfl
  unreadCount absent := by
    simp only [patchedConversation, applyNotificationPatch, absent]
    rfl
  isPinned absent := by
    simp only [patchedConversation, applyNotificationPatch, absent]
    rfl
  isMuted absent := by
    simp only [patchedConversation, applyNotificationPatch, absent]
    rfl
  burnAfterReading absent := by
    simp only [patchedConversation, applyNotificationPatch, absent]
    rfl
  autoDeleteDuration absent := by
    simp only [patchedConversation, applyNotificationPatch, absent]
    rfl
  pinTimeMs other := (keepsPinTime other).symm
  localSeq := rfl

/-- The handler saves a record that agrees with the one it starts from. -/
theorem Action.storeOp_patch_agrees :
    ∃ conv, (Action.patchConversation notificationType payload).storeOp client = .save conv ∧
      RecordsAgree notificationType payload
        (client.patchBase (notificationConversationId payload)) conv := by
  by_cases pins : notificationType = "conversation.pin_updated"
  · rcases client.storeOp_patchConversation notificationType payload with
      ⟨pinTime, updatedAt, saved⟩
    exact ⟨_, saved, Client.patchedConversation_agrees pinTime updatedAt fun other =>
      absurd pins other⟩
  · rcases Client.stampUpdated_fst (client.patchedConversation payload) client with
      ⟨updatedAt, stamped⟩
    have saved : (Action.patchConversation notificationType payload).storeOp client =
        .save { client.patchedConversation payload with updatedAtMs := updatedAt } := by
      simp only [storeOp, Client.patchPinTime, if_neg pins, stamped]
    exact ⟨_, saved, Client.patchedConversation_agrees _ updatedAt fun _ => rfl⟩

/-- An update notification of a conversation runs the patch and nothing else, or
nothing at all if it names no conversation. -/
theorem Event.actions_patch {event : NotificationEvent}
    (carried : event.conversation = some payload)
    (isUpdate : isConversationNotification event.notificationType = true)
    (notDeleted : event.notificationType ≠ "conversation.deleted") :
    (Event.notification event).actions =
      if notificationConversationId payload = "" then []
      else [.patchConversation event.notificationType payload] := by
  have noMessage : event.messageActions = [] := by
    simp only [isConversationNotification, Bool.or_eq_true, decide_eq_true_eq] at isUpdate
    rcases isUpdate with ((((same | same) | same) | same) | same) | same <;>
      simp [NotificationEvent.messageActions, same]
  have patches : event.conversationActions =
      if notificationConversationId payload = "" then []
      else [.patchConversation event.notificationType payload] := by
    simp [NotificationEvent.conversationActions, isUpdate, carried, notDeleted]
  rw [Event.actions, noMessage, patches]
  rfl

theorem parseConversationType_private :
    parseConversationType (cString "private") = .Private := by
  decide

/-- What is known of a stored conversation agrees with the record the handler
starts from, if that record agrees with the row. -/
theorem Client.knownRecord_agrees {row : ConversationRow}
    (agree : RowsAgree notificationType payload row
      (client.patchBase (notificationConversationId payload)).toRow) :
    RecordsAgree notificationType payload
      (client.knownRecord (notificationConversationId payload) row)
      (client.patchBase (notificationConversationId payload)) := by
  cases cached : client.convCache.get (notificationConversationId payload) with
  | some conv =>
      have sameId := ConversationCache.get_convId cached
      rw [knownRecord, patchBase, cached]
      constructor <;> simp [sameId]
  | none =>
      rw [patchBase, cached] at agree
      rw [knownRecord, patchBase, cached, rowToConversation_toRow]
      have convType : row.convType = "private" := agree.convType
      have targetId : row.targetId = "" := agree.targetId
      have lastMsgId : row.lastMsgId.getD "" = "" := agree.lastMsgId
      have lastMsgText : row.lastMsgText = "" := agree.lastMsgText
      have blank : cString "" = "" := cString_eq_self nulFree_empty
      have number : (0 : Int32).toInt64 = 0 := by decide
      constructor
      case convId => rfl
      case convType =>
        rw [convType]
        exact parseConversationType_private
      case targetId => exact (congrArg cString targetId).trans blank
      case lastMsgId => exact (congrArg cString lastMsgId).trans blank
      case lastMsgText => exact (congrArg cString lastMsgText).trans blank
      case lastMsgTimeMs => exact agree.lastMsgTimeMs
      case unreadCount =>
        intro absent
        exact congrArg Int64.toInt32 ((agree.unreadCount absent).trans number)
      case isPinned =>
        intro absent
        exact decide_eq_false (not_not_intro (agree.isPinned absent))
      case isMuted =>
        intro absent
        exact decide_eq_false (not_not_intro (agree.isMuted absent))
      case burnAfterReading =>
        intro absent
        exact congrArg Int64.toInt32 ((agree.burnAfterReading absent).trans number)
      case autoDeleteDuration =>
        intro absent
        exact congrArg Int64.toInt32 ((agree.autoDeleteDuration absent).trans number)
      case pinTimeMs => exact agree.pinTimeMs
      case localSeq => exact agree.localSeq

end Handler

theorem RecordsAgree.trans {notificationType : String} {payload : NotificationConversationPayload}
    {first second third : Conversation} (agree : RecordsAgree notificationType payload first second)
    (next : RecordsAgree notificationType payload second third) :
    RecordsAgree notificationType payload first third where
  convId := agree.convId.trans next.convId
  convType := agree.convType.trans next.convType
  targetId := agree.targetId.trans next.targetId
  lastMsgId := agree.lastMsgId.trans next.lastMsgId
  lastMsgText := agree.lastMsgText.trans next.lastMsgText
  lastMsgTimeMs := agree.lastMsgTimeMs.trans next.lastMsgTimeMs
  unreadCount absent := (agree.unreadCount absent).trans (next.unreadCount absent)
  isPinned absent := (agree.isPinned absent).trans (next.isPinned absent)
  isMuted absent := (agree.isMuted absent).trans (next.isMuted absent)
  burnAfterReading absent :=
    (agree.burnAfterReading absent).trans (next.burnAfterReading absent)
  autoDeleteDuration absent :=
    (agree.autoDeleteDuration absent).trans (next.autoDeleteDuration absent)
  pinTimeMs other := (agree.pinTimeMs other).trans (next.pinTimeMs other)
  localSeq := agree.localSeq.trans next.localSeq

theorem OnlyPatches.refl (notificationType : String) (payload : NotificationConversationPayload)
    (client : Client) : OnlyPatches notificationType payload client client where
  stored row found := ⟨row, found, .refl row⟩
  cached _ _ _ member := .inl member
  otherRows _ _ := rfl
  otherRecords _ member _ := member

/-- An update notification only patches exactly when it names no conversation, and
is ignored, or the record the handler starts from agrees with the row, if there is
one, on everything the notification may not change. -/
theorem onlyPatches_iff (client : Client) (event : NotificationEvent)
    (payload : NotificationConversationPayload)
    (carried : event.conversation = some payload)
    (isUpdate : isConversationNotification event.notificationType = true)
    (notDeleted : event.notificationType ≠ "conversation.deleted") :
    OnlyPatches event.notificationType payload client
        ((Event.notification event).apply client) ↔
      (notificationConversationId payload ≠ "" → ∀ row,
        client.table.conversations.lookup (notificationConversationId payload) = some row →
          RowsAgree event.notificationType payload row
            (client.patchBase (notificationConversationId payload)).toRow) := by
  have actions := Event.actions_patch carried isUpdate notDeleted
  by_cases unnamed : notificationConversationId payload = ""
  · have ignored : (Event.notification event).apply client = client := by
      rw [Event.apply_eq_exec_actions, actions, if_pos unnamed]
      rfl
    rw [ignored]
    exact iff_of_true (.refl _ _ client) fun named => absurd unnamed named
  rw [imp_iff_right unnamed]
  rw [if_neg unnamed] at actions
  obtain ⟨conv, saved, changed⟩ :
      ∃ conv, (Action.patchConversation event.notificationType payload).storeOp client =
        .save conv ∧
          RecordsAgree event.notificationType payload
            (client.patchBase (notificationConversationId payload)) conv :=
    Action.storeOp_patch_agrees
  have sameId : conv.convId = notificationConversationId payload := changed.convId.symm
  have after : ((Event.notification event).apply client).stores =
      ⟨client.table.conversations.write conv.convId conv.toRow, client.convCache.upsert conv⟩ := by
    rw [Event.apply_eq_exec_actions, actions, EventRun.exec_cons, EventRun.exec_nil,
      Action.stores_apply, saved]
    rfl
  have rows : ((Event.notification event).apply client).table.conversations =
      client.table.conversations.write conv.convId conv.toRow :=
    congrArg ConversationStores.rows after
  have records : ((Event.notification event).apply client).convCache =
      client.convCache.upsert conv :=
    congrArg ConversationStores.cache after
  constructor
  · intro only row stored
    rcases only.stored row stored with ⟨next, found, agree⟩
    rw [rows, KeyTable.lookup_write, if_pos sameId.symm] at found
    obtain rfl := Option.some.inj found
    exact agree.trans changed.toRow.symm
  · intro agree
    constructor
    · intro row stored
      refine ⟨conv.toRow, ?_, (agree row stored).trans changed.toRow⟩
      rw [rows, KeyTable.lookup_write, if_pos sameId.symm]
    · intro row stored record member
      rw [records] at member
      rcases ConversationCache.mem_upsert member with rfl | old
      · exact .inr ((Client.knownRecord_agrees (agree row stored)).trans changed)
      · exact .inl old
    · intro convId other
      rw [rows, KeyTable.lookup_write, if_neg (sameId ▸ other)]
    · intro record member other
      rw [records]
      exact ConversationCache.mem_upsert_of_ne member (sameId ▸ other)

/-- A notification of unread messages in a conversation. -/
def unreadUpdated : NotificationEvent where
  notificationType := "conversation.unread_updated"
  conversation := some { conversationId := some "c1", unreadCount := some 3 }

/-- A synced conversation, which is cached. -/
theorem onlyPatches_synced :
    OnlyPatches "conversation.unread_updated"
      { conversationId := some "c1", unreadCount := some 3 }
      (EventRun.exec Event.apply (.start default {} 0)
        [syncOf { conversationId := "c1", targetId := "u1" }])
      ((Event.notification unreadUpdated).apply (EventRun.exec Event.apply (.start default {} 0)
        [syncOf { conversationId := "c1", targetId := "u1" }])) := by
  refine (onlyPatches_iff _ unreadUpdated { conversationId := some "c1", unreadCount := some 3 }
    rfl (by decide) (by decide)).mpr fun _ row found => ?_
  have stored : (EventRun.exec Event.apply (.start default {} 0)
      [syncOf { conversationId := "c1", targetId := "u1" }]).table.conversations.lookup "c1" =
      some { convType := "private", targetId := "u1", lastMsgText := "", lastMsgTimeMs := 0,
             updatedAtMs := 0 } := by decide
  obtain rfl := Option.some.inj (stored.symm.trans found)
  constructor <;> decide

/-- After a restart the handler starts from a blank record, and the conversation
loses its target. -/
theorem not_onlyPatches_restarted :
    ¬OnlyPatches "conversation.unread_updated"
      { conversationId := some "c1", unreadCount := some 3 }
      (EventRun.exec Event.apply (.start default {} 0)
        [syncOf { conversationId := "c1", targetId := "u1" }, .restart])
      ((Event.notification unreadUpdated).apply (EventRun.exec Event.apply (.start default {} 0)
        [syncOf { conversationId := "c1", targetId := "u1" }, .restart])) := by
  intro only
  have stored : (EventRun.exec Event.apply (.start default {} 0)
      [syncOf { conversationId := "c1", targetId := "u1" },
        .restart]).table.conversations.lookup "c1" =
      some { convType := "private", targetId := "u1", lastMsgText := "", lastMsgTimeMs := 0,
             updatedAtMs := 0 } := by decide
  have overwritten : ((Event.notification unreadUpdated).apply
      (EventRun.exec Event.apply (.start default {} 0)
        [syncOf { conversationId := "c1", targetId := "u1" },
          .restart])).table.conversations.lookup "c1" =
      some { convType := "private", targetId := "", lastMsgId := some "", lastMsgText := "",
             lastMsgTimeMs := 0, unreadCount := 3, updatedAtMs := 0 } := by decide
  rcases only.stored _ stored with ⟨next, found, agree⟩
  obtain rfl := Option.some.inj (overwritten.symm.trans found)
  exact absurd agree.targetId (by decide)

end AnychatSdk
