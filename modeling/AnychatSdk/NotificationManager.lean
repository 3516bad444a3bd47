import AnychatSdk.System

/-!
# The notification manager

A raw frame is dispatched by its type: an acknowledgement goes to the outbound
queue, and a notification to the handlers of all managers.  The model starts
from what the JSON library reads in the frame.
-/

namespace AnychatSdk

/-! ## Frames -/

structure MsgSentAckPayload where
  messageId : String := ""
  sequence : Option IntegerValue := none
  timestamp : Option IntegerValue := none
  localId : String := ""

/-- The data of a notification, as it reads for each kind of payload; `none`
where it does not. -/
structure NotificationData where
  message : Option NotificationMessagePayload := none
  readReceipt : Option NotificationReadReceiptPayload := none
  typing : Option NotificationTypingPayload := none
  conversation : Option NotificationConversationPayload := none

/-- `payload` is `none` when the frame has no data. -/
structure NotificationEnvelopePayload where
  type : String := ""
  timestamp : Option IntegerValue := none
  payload : Option NotificationData := none

/-- A frame, with what its payload reads as for either kind of frame. -/
structure WsFramePayload where
  type : String := ""
  msgSentAck : Option MsgSentAckPayload := none
  notification : Option NotificationEnvelopePayload := none

structure MsgSentAck where
  messageId : String := ""
  sequence : Int64 := 0
  timestamp : Int64 := 0
  localId : String := ""

/-- The handlers that a frame is given to. -/
inductive FrameDispatch where
  | ignored
  | pong
  | messageSent (ack : MsgSentAck)
  | notification (event : NotificationEvent)

/-- The data `"{}"`: every field of every payload has its default. -/
def NotificationData.blank : NotificationData where
  message := some {}
  readReceipt := some {}
  typing := some {}
  conversation := some {}

/-- The event of a notification; without a type there is none. -/
def NotificationEnvelopePayload.toEvent (payload : NotificationEnvelopePayload) :
    Option NotificationEvent :=
  if payload.type = "" then none
  else
    let data := payload.payload.getD .blank
    some
      { notificationType := payload.type
        timestamp := parseInt64Value payload.timestamp 0
        message := data.message
        readReceipt := data.readReceipt
        typing := data.typing
        conversation := data.conversation }

/-- The dispatch of `handleRaw`; `none` is a text that is no frame. -/
def dispatchFrame (raw : Option WsFramePayload) : FrameDispatch :=
  match raw with
  | none => .ignored
  | some frame =>
      if frame.type = "" then .ignored
      else if frame.type = "pong" then .pong
      else if frame.type = "message.sent" then
        match frame.msgSentAck with
        | none => .ignored
        | some payload =>
            .messageSent
              { messageId := payload.messageId
                sequence := parseInt64Value payload.sequence 0
                timestamp := parseInt64Value payload.timestamp 0
                localId := payload.localId }
      else if frame.type = "notification" then
        match frame.notification.bind NotificationEnvelopePayload.toEvent with
        | none => .ignored
        | some event => .notification event
      else .ignored

/-! ## Handling -/

namespace Client

/-- `handleRaw`, with the handlers that the client registers: the reports to
listeners and the client afterwards.  A pong is only for the connection. -/
def handleRaw (raw : Option WsFramePayload) (client : Client) : List ListenerEvent × Client :=
  match dispatchFrame raw with
  | .ignored => ([], client)
  | .pong => ([], client)
  | .messageSent ack => ([], client.onMessageSentAck ack.localId)
  | .notification event => client.handleNotification event

/-- The reports over a sequence of frames, oldest first. -/
def reports : Client → List (Option WsFramePayload) → List ListenerEvent
  | _, [] => []
  | client, raw :: rest => (client.handleRaw raw).1 ++ (client.handleRaw raw).2.reports rest

end Client

/-! ## Received messages -/

/-- The id of the message that `onMessageReceived` is called with. -/
def ListenerEvent.receivedId? : ListenerEvent → Option String
  | messageReceived message => some message.messageId
  | _ => none

/-- The id in a frame that delivers a new message. -/
def deliveredId? (raw : Option WsFramePayload) : Option String :=
  match dispatchFrame raw with
  | .notification event =>
      if event.notificationType = "message.new" then
        event.message.bind fun payload =>
          if payload.messageId = "" then none else some payload.messageId
      else none
  | _ => none

namespace Client

/-- The message of a notification that has an id keeps it. -/
theorem map_messageId_incomingMessage (timestamp : Int64)
    (payload : NotificationMessagePayload) :
    (incomingMessage timestamp payload).map Message.messageId =
      if payload.messageId = "" then none else some payload.messageId := by
  have sameId : (withEnvelopeTime timestamp (parseMessageFromNotification payload)).messageId =
      payload.messageId := by
    rw [withEnvelopeTime]
    split <;> rfl
  have incoming : incomingMessage timestamp payload =
      if payload.messageId = "" then none
      else some (withEnvelopeTime timestamp (parseMessageFromNotification payload)) := rfl
  rw [incoming]
  split
  · rfl
  · exact congrArg some sameId

theorem handleIncoming_fst (timestamp : Int64) (payload : NotificationMessagePayload)
    (client : Client) :
    (client.handleIncoming timestamp payload).1 = incomingMessage timestamp payload := by
  rw [handleIncoming]
  cases incomingMessage timestamp payload <;> rfl

/-- A report that is not of a received message has no received id. -/
theorem receivedId_map_eq_none {α : Type} (report : α → ListenerEvent)
    (other : ∀ item, (report item).receivedId? = none) (item : Option α) :
    (item.map report).bind ListenerEvent.receivedId? = none := by
  cases item with
  | none => rfl
  | some item => exact other item

/-- The message handler reports the message of a `message.new` notification,
whatever the cache and the tables hold. -/
theorem receivedId_handleMessageNotification (event : NotificationEvent) (client : Client) :
    (client.handleMessageNotification event).1.bind ListenerEvent.receivedId? =
      if event.notificationType = "message.new" then
        event.message.bind fun payload =>
          if payload.messageId = "" then none else some payload.messageId
      else none := by
  cases found : event.message with
  | none =>
      simp only [handleMessageNotification, found, Option.bind_none, ite_self]
      split
      · rfl
      split
      · exact receivedId_map_eq_none _ (fun _ => rfl) event.readReceipt
      split
      · rfl
      split
      · rfl
      split
      · rfl
      split
      · exact receivedId_map_eq_none _ (fun _ => rfl) event.typing
      · rfl
  | some payload =>
      simp only [handleMessageNotification, found]
      split
      · have reported : (client.handleIncomingMessage event.timestamp payload).1 =
            incomingMessage event.timestamp payload :=
          client.handleIncoming_fst event.timestamp payload
        rw [Option.bind_some, ← map_messageId_incomingMessage event.timestamp payload, ← reported]
        change ((client.handleIncomingMessage event.timestamp payload).1.map
          ListenerEvent.messageReceived).bind ListenerEvent.receivedId? = _
        cases (client.handleIncomingMessage event.timestamp payload).1 <;> rfl
      split
      · exact receivedId_map_eq_none _ (fun _ => rfl) event.readReceipt
      split
      · exact receivedId_map_eq_none _ (fun _ => rfl) _
      split
      · exact receivedId_map_eq_none _ (fun _ => rfl) _
      split
      · exact receivedId_map_eq_none _ (fun _ => rfl) _
      split
      · exact receivedId_map_eq_none _ (fun _ => rfl) event.typing
      split
      · exact receivedId_map_eq_none _ (fun _ => rfl) _
      · rfl

theorem receivedId_handleConversationEvent (event : NotificationEvent) (client : Client) :
    (client.handleConversationEvent event).1.bind ListenerEvent.receivedId? = none := by
  rw [handleConversationEvent]
  split
  · cases event.conversation with
    | none => rfl
    | some payload => exact receivedId_map_eq_none _ (fun _ => rfl) _
  · rfl

/-- What one frame adds to the received ids. -/
theorem receivedIds_handleRaw (raw : Option WsFramePayload) (client : Client) :
    (client.handleRaw raw).1.filterMap ListenerEvent.receivedId? = (deliveredId? raw).toList := by
  have toList : ∀ report : Option ListenerEvent,
      report.toList.filterMap ListenerEvent.receivedId? =
        (report.bind ListenerEvent.receivedId?).toList := by
    intro report
    cases report with
    | none => rfl
    | some report => cases received : report.receivedId? <;> simp [received]
  rw [handleRaw, deliveredId?]
  cases dispatchFrame raw with
  | ignored => rfl
  | pong => rfl
  | messageSent ack => rfl
  | notification event =>
      simp only [handleNotification, List.filterMap_append, toList,
        receivedId_handleConversationEvent, receivedId_handleMessageNotification,
        Option.toList_none, List.append_nil]

/-- The received ids of a run are the delivered ones. -/
theorem receivedIds_reports (client : Client) (frames : List (Option WsFramePayload)) :
    (client.reports frames).filterMap ListenerEvent.receivedId? =
      frames.filterMap deliveredId? := by
  induction frames generalizing client with
  | nil => rfl
  | cons raw rest ih =>
      rw [reports, List.filterMap_append, ih, receivedIds_handleRaw, List.filterMap_cons]
      cases deliveredId? raw <;> rfl

end Client

/-- No message is reported as received twice exactly when no id is delivered by
two frames. -/
theorem receivedOnce_iff (client : Client) (frames : List (Option WsFramePayload)) :
    (∀ messageId,
        ((client.reports frames).filterMap ListenerEvent.receivedId?).count messageId ≤ 1) ↔
      (frames.filterMap deliveredId?).Nodup := by
  rw [client.receivedIds_reports, List.nodup_iff_count_le_one]

/-- A frame with a new message. -/
def messageNew : WsFramePayload where
  type := "notification"
  notification := some
    { type := "message.new"
      payload := some { message := some { messageId := "m1", conversationId := "c1" } } }

/-- The frame, delivered twice. -/
theorem not_receivedOnce_redelivered :
    ¬∀ messageId,
      (((Client.start default {} 0).reports [some messageNew, some messageNew]).filterMap
        ListenerEvent.receivedId?).count messageId ≤ 1 := by
  intro once
  exact absurd (once "m1") (by decide)

end AnychatSdk
