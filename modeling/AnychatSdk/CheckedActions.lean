import AnychatSdk.Effects

/-!
# What handlers check

The handlers of a recall, a delete and an edit act only on a message id that is
not empty, and a notification of them brings the status it stands for and an
unread message.  No handler of a response or a notification enqueues a message;
what some of them send are frames of other kinds.
-/

namespace AnychatSdk

/-- What the handlers make sure of before they act. -/
def Action.Checked : Action → Prop
  | applyMessageStatus messageId _ | applyEdit messageId _ => messageId ≠ ""
  | recallNotified message =>
      message.messageId ≠ "" ∧ message.status = 1 ∧ message.isRead = false
  | deleteNotified message =>
      message.messageId ≠ "" ∧ message.status = 2 ∧ message.isRead = false
  | editNotified message => message.messageId ≠ "" ∧ message.isRead = false
  | _ => True

/-- The action has nothing to do with the outbound queue. -/
def Action.LeavesQueue : Action → Prop
  | sendTextMessage .. | queue _ | restart => False
  | _ => True

/-- The frame carries no message. -/
def Frame.CarriesNone (frame : Frame) : Prop :=
  ∀ payload, frame.payload ≠ .sendMessage payload

/-- An action of a handler: it is checked, and it leaves the queue alone but for
a frame that carries no message. -/
structure Action.Handled (action : Action) : Prop where
  checked : action.Checked
  apart : action.LeavesQueue ∨
    ∃ frame : Frame, frame.CarriesNone ∧ action = .queue (.transient frame)

/-- The event is a response, a notification or a request of the application that
enqueues nothing. -/
def Event.LeavesQueue : Event → Prop
  | sendTextMessage .. | queue _ | restart => False
  | _ => True

/-! ## Notifications -/

theorem Client.withdrawnMessage_spec {status : Int32} {withdrawnAt : Option TimestampValue}
    {timestamp : Int64} {payload : NotificationMessagePayload} {message : Message}
    (withdrawn : message ∈ withdrawnMessage status withdrawnAt timestamp payload) :
    message.messageId ≠ "" ∧ message.status = status ∧ message.isRead = false := by
  simp only [withdrawnMessage] at withdrawn
  split at withdrawn
  · exact nomatch withdrawn
  · next named =>
      split at withdrawn
      · obtain rfl := Option.some.inj withdrawn
        exact ⟨named, rfl, rfl⟩
      · obtain rfl := Option.some.inj withdrawn
        exact ⟨named, rfl, rfl⟩

theorem Client.editedNotification_spec {payload : NotificationMessagePayload} {message : Message}
    (edited : message ∈ editedNotification payload) :
    message.messageId ≠ "" ∧ message.isRead = false := by
  simp only [editedNotification] at edited
  split at edited
  · exact nomatch edited
  · next named =>
      obtain rfl := Option.some.inj edited
      exact ⟨named, rfl⟩

theorem NotificationEvent.handled_messageActions {event : NotificationEvent} {action : Action}
    (member : action ∈ event.messageActions) : action.Handled := by
  cases found : event.message with
  | none =>
      -- Every branch that reads the message is empty without one.
      simp only [messageActions, found, ite_self] at member
      exact absurd member List.not_mem_nil
  | some payload =>
      have decoded : ∀ {decode : NotificationMessagePayload → Option Message}
          {act : Message → Action}, action ∈ (decode payload).toList.map act →
          (∀ message ∈ decode payload, (act message).Handled) → action.Handled := by
        intro decode act carried handled
        rcases List.mem_map.mp carried with ⟨message, messageMem, rfl⟩
        exact handled message (Option.mem_toList.mp messageMem)
      simp only [messageActions, found] at member
      split at member
      · exact decoded member (fun _ _ => ⟨trivial, .inl trivial⟩)
      split at member
      · exact absurd member List.not_mem_nil
      split at member
      · exact decoded member (fun _ withdrawn =>
          ⟨Client.withdrawnMessage_spec withdrawn, .inl trivial⟩)
      split at member
      · exact decoded member (fun _ withdrawn =>
          ⟨Client.withdrawnMessage_spec withdrawn, .inl trivial⟩)
      split at member
      · exact decoded member (fun _ edited =>
          ⟨Client.editedNotification_spec edited, .inl trivial⟩)
      split at member
      · exact absurd member List.not_mem_nil
      split at member
      · exact decoded member (fun _ _ => ⟨trivial, .inl trivial⟩)
      · exact absurd member List.not_mem_nil

theorem NotificationEvent.handled_conversationActions {event : NotificationEvent}
    {action : Action} (member : action ∈ event.conversationActions) : action.Handled := by
  rw [conversationActions] at member
  split at member
  · split at member
    · exact absurd member List.not_mem_nil
    · split at member
      · exact absurd member List.not_mem_nil
      · split at member
        · obtain rfl := List.mem_singleton.mp member
          exact ⟨trivial, .inl trivial⟩
        · obtain rfl := List.mem_singleton.mp member
          exact ⟨trivial, .inl trivial⟩
  · exact absurd member List.not_mem_nil

/-! ## Responses -/

theorem Outcome.handled_actions {α : Type} {outcome : Outcome α} {onData : α → List Action}
    {action : Action} (member : action ∈ outcome.actions onData)
    (handled : ∀ data, ∀ action ∈ onData data, action.Handled) : action.Handled := by
  cases outcome with
  | ok data => exact handled data action member
  | error failure => exact absurd member List.not_mem_nil

theorem Outcome.handled_actionsOr {α : Type} {outcome : Outcome α} {onData : α → List Action}
    {response : HttpResponse α} {frame : Frame} {action : Action}
    (member : action ∈ outcome.actionsOr onData response frame)
    (handled : ∀ data, ∀ action ∈ onData data, action.Handled)
    (carriesNone : frame.CarriesNone) : action.Handled := by
  cases outcome with
  | ok data => exact handled data action member
  | error failure =>
      simp only [actionsOr] at member
      split at member
      · obtain rfl := List.mem_singleton.mp member
        exact ⟨trivial, .inr ⟨frame, carriesNone, rfl⟩⟩
      · exact absurd member List.not_mem_nil

/-- Actions of one kind. -/
theorem handled_of_mem_map {α : Type} {act : α → Action} {items : List α} {action : Action}
    (member : action ∈ items.map act) (handled : ∀ item, (act item).Handled) :
    action.Handled := by
  rcases List.mem_map.mp member with ⟨item, _, rfl⟩
  exact handled item

theorem SyncResponseDataPayload.handled_actions {data : SyncResponseDataPayload}
    {action : Action} (member : action ∈ data.actions) : action.Handled := by
  rw [SyncResponseDataPayload.actions] at member
  rcases List.mem_append.mp member with friend | member
  · exact handled_of_mem_map friend fun _ => ⟨trivial, .inl trivial⟩
  rcases List.mem_append.mp member with group | member
  · exact handled_of_mem_map group fun _ => ⟨trivial, .inl trivial⟩
  rcases List.mem_append.mp member with session | member
  · exact handled_of_mem_map session fun _ => ⟨trivial, .inl trivial⟩
  rcases List.mem_append.mp member with ofConversation | syncTime
  · rcases List.mem_flatMap.mp ofConversation with ⟨payload, _, actionMem⟩
    rw [ConversationMessagesPayload.actions] at actionMem
    split at actionMem
    · exact absurd actionMem List.not_mem_nil
    · rcases List.mem_append.mp actionMem with message | raise
      · exact handled_of_mem_map message fun _ => ⟨trivial, .inl trivial⟩
      · split at raise
        · obtain rfl := List.mem_singleton.mp raise
          exact ⟨trivial, .inl trivial⟩
        · exact absurd raise List.not_mem_nil
  · obtain rfl := List.mem_singleton.mp syncTime
    exact ⟨trivial, .inl trivial⟩

theorem handled_of_mem_singleton {act action : Action} (member : action ∈ [act])
    (handled : act.Handled) : action.Handled :=
  List.mem_singleton.mp member ▸ handled

theorem Event.handled_actions {event : Event} (leaves : event.LeavesQueue) {action : Action}
    (member : action ∈ event.actions) : action.Handled := by
  cases event with
  | notification event =>
      rcases List.mem_append.mp member with ofMessage | ofConversation
      · exact NotificationEvent.handled_messageActions ofMessage
      · exact NotificationEvent.handled_conversationActions ofConversation
  | syncResponse response =>
      simp only [Event.actions, syncActions] at member
      split at member
      · exact absurd member List.not_mem_nil
      split at member
      · split at member
        · exact absurd member List.not_mem_nil
        · exact SyncResponseDataPayload.handled_actions member
      · exact absurd member List.not_mem_nil
  | getHistoryResponse convId primary fallback =>
      exact Outcome.handled_actions member
        fun _ _ listed => handled_of_mem_map listed fun _ => ⟨trivial, .inl trivial⟩
  | getOfflineMessagesResponse response =>
      exact Outcome.handled_actions member
        fun _ _ listed => handled_of_mem_map listed fun _ => ⟨trivial, .inl trivial⟩
  | searchMessagesResponse keyword contentType response =>
      simp only [Event.actions] at member
      split at member
      · exact absurd member List.not_mem_nil
      split at member
      · exact absurd member List.not_mem_nil
      · exact Outcome.handled_actions member
          fun _ _ listed => handled_of_mem_map listed fun _ => ⟨trivial, .inl trivial⟩
  | ackMessagesResponse convId messageIds primary fallback =>
      simp only [Event.actions, ackActions] at member
      split at member
      · exact absurd member List.not_mem_nil
      split at member
      · exact handled_of_mem_map member fun _ => ⟨trivial, .inl trivial⟩
      split at member
      · exact absurd member List.not_mem_nil
      split at member
      · exact absurd member List.not_mem_nil
      · exact Outcome.handled_actions member
          fun _ _ acked => handled_of_mem_map acked fun _ => ⟨trivial, .inl trivial⟩
  | recallMessageResponse | deleteMessageResponse | editMessageResponse =>
      simp only [Event.actions] at member
      split at member
      · exact absurd member List.not_mem_nil
      · next named =>
          exact Outcome.handled_actionsOr member
            (fun _ _ listed => handled_of_mem_singleton listed ⟨named, .inl trivial⟩)
            fun _ => FramePayload.noConfusion
  | sendTyping conversationId typing ttlSeconds =>
      simp only [Event.actions] at member
      split at member
      · exact absurd member List.not_mem_nil
      · exact handled_of_mem_singleton member
          ⟨trivial, .inr ⟨_, fun _ => FramePayload.noConfusion, rfl⟩⟩
  | getConversationListResponse | getConversationResponse | deleteConversationResponse
  | markAllReadResponse | setPinnedResponse | setMutedResponse
  | setBurnAfterReadingResponse | setAutoDeleteResponse
  | getMessageUnreadCountResponse | getMessageSequenceResponse =>
      exact Outcome.handled_actions member
        fun _ _ single => handled_of_mem_singleton single ⟨trivial, .inl trivial⟩
  | syncRequested | getConversationList =>
      exact handled_of_mem_singleton member ⟨trivial, .inl trivial⟩
  | sendTextMessage | queue | restart => exact leaves.elim

theorem Event.checked_actions {event : Event} {action : Action}
    (member : action ∈ event.actions) : action.Checked := by
  cases event with
  | sendTextMessage | queue | restart =>
      obtain rfl := List.mem_singleton.mp member
      trivial
  | _ => exact (handled_actions (by trivial) member).checked

end AnychatSdk
