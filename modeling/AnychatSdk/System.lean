import AnychatSdk.Lib.EventRun
import AnychatSdk.SyncEngine

/-!
# Events and actions

An event is what reaches the client from outside: a response, a notification, a
call of the application, a turn of the database worker, a restart.  Its handler
is composed of *actions*, the smallest steps that the handlers loop over, and a
run of events unfolds into a run of actions.  Invariants are proved action by
action.
-/

namespace AnychatSdk

/-! ## Notifications -/

/-- A notification, with what the JSON library makes of its data for each kind
of payload. -/
structure NotificationEvent where
  notificationType : String := ""
  timestamp : Int64 := 0
  message : Option NotificationMessagePayload := none
  readReceipt : Option NotificationReadReceiptPayload := none
  typing : Option NotificationTypingPayload := none
  conversation : Option NotificationConversationPayload := none

/-- What a notification handler reports to a listener. -/
inductive ListenerEvent where
  | messageReceived (message : Message)
  | messageReadReceipt (receipt : MessageReadReceiptEvent)
  | messageRecalled (message : Message)
  | messageDeleted (message : Message)
  | messageEdited (message : Message)
  | messageTyping (typing : MessageTypingEvent)
  | messageMentioned (message : Message)
  | conversationUpdated (conv : Conversation)

namespace Client

/-- The handler that `MessageManagerImpl` registers. -/
def handleMessageNotification (event : NotificationEvent) (client : Client) :
    Option ListenerEvent × Client :=
  let onMessage (handler : NotificationMessagePayload → Client → Option Message × Client)
      (report : Message → ListenerEvent) : Option ListenerEvent × Client :=
    match event.message with
    | none => (none, client)
    | some payload => (handler payload client).map (Option.map report) id
  if event.notificationType = "message.new" then
    onMessage (handleIncomingMessage event.timestamp) .messageReceived
  else if event.notificationType = "message.read_receipt" then
    (event.readReceipt.map fun payload =>
      .messageReadReceipt (handleReadReceipt event.timestamp payload), client)
  else if event.notificationType = "message.recalled" then
    onMessage (handleMessageRecalled event.timestamp) .messageRecalled
  else if event.notificationType = "message.deleted" then
    onMessage (handleMessageDeleted event.timestamp) .messageDeleted
  else if event.notificationType = "message.edited" then
    onMessage handleMessageEdited .messageEdited
  else if event.notificationType = "message.typing" then
    (event.typing.map fun payload => .messageTyping (handleTyping event.timestamp payload), client)
  else if event.notificationType = "message.mentioned" then
    onMessage (handleMentioned event.timestamp) .messageMentioned
  else (none, client)

/-- The handler that `ConversationManagerImpl` registers. -/
def handleConversationEvent (event : NotificationEvent) (client : Client) :
    Option ListenerEvent × Client :=
  if isConversationNotification event.notificationType then
    match event.conversation with
    | none => (none, client)
    | some payload =>
        (client.handleConversationNotification event.notificationType payload).map
          (Option.map .conversationUpdated) id
  else (none, client)

/-- Both handlers, in the order in which a notification reaches them. -/
def handleNotification (event : NotificationEvent) (client : Client) :
    List ListenerEvent × Client :=
  let (messageReport, client) := client.handleMessageNotification event
  let (conversationReport, client) := client.handleConversationEvent event
  (messageReport.toList ++ conversationReport.toList, client)

end Client

/-! ## Events -/

inductive Event where
  | syncRequested
  | syncResponse (response : HttpResponse SyncResponseDataPayload)
  | notification (event : NotificationEvent)
  | getHistoryResponse (convId : String)
      (primary fallback : HttpResponse MessageListDataPayload)
  | getOfflineMessagesResponse (response : HttpResponse MessageListDataPayload)
  | searchMessagesResponse (keyword : String) (contentType : Int32)
      (response : HttpResponse MessageListDataPayload)
  | ackMessagesResponse (convId : String) (messageIds : List String)
      (primary fallback : HttpResponse Unit)
  | recallMessageResponse (messageId : String) (response : HttpResponse Unit)
  | deleteMessageResponse (messageId : String) (response : HttpResponse Unit)
  | editMessageResponse (messageId content : String)
      (response : HttpResponse EditMessageDataValue)
  | sendTyping (conversationId : String) (typing : Bool) (ttlSeconds : Int32)
  | sendTextMessage (convId content : String) (callback : AnyChatCallback)
  | getConversationList
  | getConversationListResponse (response : HttpResponse ConversationListDataPayload)
  | getConversationResponse (convId : String) (response : HttpResponse ConversationPayload)
  | deleteConversationResponse (convId : String) (response : HttpResponse Unit)
  | markAllReadResponse (convId : String) (response : HttpResponse Unit)
  | setPinnedResponse (convId : String) (pinned : Bool) (response : HttpResponse Unit)
  | setMutedResponse (convId : String) (muted : Bool) (response : HttpResponse Unit)
  | setBurnAfterReadingResponse (convId : String) (duration : Int32)
      (response : HttpResponse Unit)
  | setAutoDeleteResponse (convId : String) (duration : Int32) (response : HttpResponse Unit)
  | getMessageUnreadCountResponse (convId : String)
      (response : HttpResponse ConversationUnreadStatePayload)
  | getMessageSequenceResponse (convId : String) (response : HttpResponse MessageSequencePayload)
  | queue (event : QueueEvent)
  | restart

/-- The handler of an event. -/
def Event.apply (client : Client) : Event → Client
  | syncRequested => client.querySync
  | syncResponse response => client.syncResponse response
  | notification event => (client.handleNotification event).2
  | getHistoryResponse convId primary fallback =>
      (client.getHistoryResponse convId primary fallback).2
  | getOfflineMessagesResponse response => (client.getOfflineMessagesResponse response).2
  | searchMessagesResponse keyword contentType response =>
      (client.searchMessagesResponse keyword contentType response).2
  | ackMessagesResponse convId messageIds primary fallback =>
      (client.ackMessagesResponse convId messageIds primary fallback).2
  | recallMessageResponse messageId response =>
      (client.recallMessageResponse messageId response).2
  | deleteMessageResponse messageId response =>
      (client.deleteMessageResponse messageId response).2
  | editMessageResponse messageId content response =>
      (client.editMessageResponse messageId content response).2
  | sendTyping conversationId typing ttlSeconds =>
      (client.sendTyping conversationId typing ttlSeconds).2
  | sendTextMessage convId content callback => client.sendTextMessage convId content callback
  | getConversationList => client.getConversationList.2
  | getConversationListResponse response => (client.getConversationListResponse response).2
  | getConversationResponse convId response => (client.getConversationResponse convId response).2
  | deleteConversationResponse convId response =>
      (client.deleteConversationResponse convId response).2
  | markAllReadResponse convId response => (client.markAllReadResponse convId response).2
  | setPinnedResponse convId pinned response =>
      (client.setPinnedResponse convId pinned response).2
  | setMutedResponse convId muted response => (client.setMutedResponse convId muted response).2
  | setBurnAfterReadingResponse convId duration response =>
      (client.setBurnAfterReadingResponse convId duration response).2
  | setAutoDeleteResponse convId duration response =>
      (client.setAutoDeleteResponse convId duration response).2
  | getMessageUnreadCountResponse convId response =>
      (client.getMessageUnreadCountResponse convId response).2
  | getMessageSequenceResponse convId response =>
      (client.getMessageSequenceResponse convId response).2
  | queue event => event.apply client
  | restart => client.restart

/-! ## Actions -/

inductive Action where
  | mergeFriend (payload : FriendDeltaPayload)
  | mergeGroup (payload : GroupDeltaPayload)
  | mergeSession (payload : ConversationDeltaPayload)
  | storeSyncedMessage (message : Message)
  | raiseSequence (convId : String) (seq : Int64)
  | setSyncTime (syncTime : Int64)
  | storeListedMessage (message : Message)
  | receiveMessage (message : Message)
  | markMessageRead (messageId : String)
  | applyMessageStatus (messageId : String) (status : Int32)
  | applyEdit (messageId : String) (edited : Message)
  | recallNotified (message : Message)
  | deleteNotified (message : Message)
  | editNotified (message : Message)
  | loadConversations
  | replaceConversations (payloads : List ConversationPayload)
  | fetchConversation (convId : String) (payload : ConversationPayload)
  | removeConversation (convId : String)
  | clearUnread (convId : String)
  | applyPinned (convId : String) (pinned : Bool)
  | setMuted (convId : String) (muted : Bool)
  | setBurnAfterReading (convId : String) (duration : Int32)
  | setAutoDelete (convId : String) (duration : Int32)
  | applyUnreadCount (convId : String) (unreadCount : Int64)
  | applyServerSequence (convId : String) (seq : Int64)
  | patchConversation (notificationType : String) (payload : NotificationConversationPayload)
  | sendTextMessage (convId content : String) (callback : AnyChatCallback)
  | queue (event : QueueEvent)
  | querySync
  | restart

namespace Client

/-- The success branch of `getConversationResponse`. -/
def storeFetchedConversation (convId : String) (payload : ConversationPayload)
    (client : Client) : Client :=
  let (conv, client) := client.stampUpdated (fetchedConversation convId payload)
  client.saveConversation conv

/-- The update branch of `handleConversationNotification`. -/
def storePatchedConversation (notificationType : String)
    (payload : NotificationConversationPayload) (client : Client) : Client :=
  let (conv, client) :=
    client.patchPinTime notificationType payload (client.patchedConversation payload)
  let (conv, client) := client.stampUpdated conv
  client.saveConversation conv

end Client

def Action.apply (client : Client) : Action → Client
  | mergeFriend payload => client.mergeFriend payload
  | mergeGroup payload => client.mergeGroup payload
  | mergeSession payload => client.mergeSession payload
  | storeSyncedMessage message => client.storeSyncedMessage message
  | raiseSequence convId seq => client.raiseSequence convId seq
  | setSyncTime syncTime => client.setSyncTime syncTime
  | storeListedMessage message => client.storeListedMessage message
  | receiveMessage message => client.receiveMessage message
  | markMessageRead messageId => client.markMessageRead messageId
  | applyMessageStatus messageId status => client.applyMessageStatus messageId status
  | applyEdit messageId edited => client.applyEdit messageId edited
  | recallNotified message => (client.recallNotified message).2
  | deleteNotified message => (client.deleteNotified message).2
  | editNotified message => (client.editNotified message).2
  | loadConversations => client.getConversationList.2
  | replaceConversations payloads => client.replaceConversations payloads
  | fetchConversation convId payload => client.storeFetchedConversation convId payload
  | removeConversation convId => client.removeConversation convId
  | clearUnread convId => client.clearUnread convId
  | applyPinned convId pinned => client.applyPinned convId pinned
  | setMuted convId muted =>
      client.changeCached convId fun conv => { conv with isMuted := muted }
  | setBurnAfterReading convId duration =>
      client.changeCached convId fun conv => { conv with burnAfterReading := duration }
  | setAutoDelete convId duration =>
      client.changeCached convId fun conv => { conv with autoDeleteDuration := duration }
  | applyUnreadCount convId unreadCount => client.applyUnreadCount convId unreadCount
  | applyServerSequence convId seq => client.applyServerSequence convId seq
  | patchConversation notificationType payload =>
      client.storePatchedConversation notificationType payload
  | sendTextMessage convId content callback => client.sendTextMessage convId content callback
  | queue event => event.apply client
  | querySync => client.querySync
  | restart => client.restart

/-! ## From events to actions -/

/-- The actions on a parsed response; a failed one leads to none. -/
def Outcome.actions {α : Type} (outcome : Outcome α) (onData : α → List Action) : List Action :=
  match outcome with
  | .ok data => onData data
  | .error _ => []

/-- The actions of an operation that falls back on the WebSocket. -/
def Outcome.actionsOr {α : Type} (outcome : Outcome α) (onData : α → List Action)
    (response : HttpResponse α) (frame : Frame) : List Action :=
  match outcome with
  | .ok data => onData data
  | .error _ => if isUnsupported response then [.queue (.transient frame)] else []

/-- The actions of one conversation in a sync response. -/
def ConversationMessagesPayload.actions (payload : ConversationMessagesPayload) : List Action :=
  if payload.conversationId = "" then []
  else
    let messages := Client.syncedMessages payload
    messages.map .storeSyncedMessage ++
      if 0 < Client.maxSeqSeen messages then
        [.raiseSequence payload.conversationId (Client.maxSeqSeen messages)]
      else []

def SyncResponseDataPayload.actions (data : SyncResponseDataPayload) : List Action :=
  (data.friends.getD []).map .mergeFriend ++
    ((data.groups.getD []).map .mergeGroup ++
      ((data.conversationData.getD []).map .mergeSession ++
        ((data.conversations.getD []).flatMap ConversationMessagesPayload.actions ++
          [.setSyncTime (parseInt64Value data.syncTime 0)])))

def syncActions (response : HttpResponse SyncResponseDataPayload) : List Action :=
  if response.error ≠ "" ∨ response.statusCode ≠ 200 then []
  else
    match response.body with
    | .parsed envelope => if envelope.code ≠ 0 then [] else envelope.data.actions
    | _ => []

def NotificationEvent.messageActions (event : NotificationEvent) : List Action :=
  let onMessage (decode : NotificationMessagePayload → Option Message)
      (action : Message → Action) : List Action :=
    match event.message with
    | none => []
    | some payload => (decode payload).toList.map action
  if event.notificationType = "message.new" then
    onMessage (Client.incomingMessage event.timestamp) .receiveMessage
  else if event.notificationType = "message.read_receipt" then []
  else if event.notificationType = "message.recalled" then
    onMessage (fun payload => Client.withdrawnMessage 1 payload.recalledAt event.timestamp payload)
      .recallNotified
  else if event.notificationType = "message.deleted" then
    onMessage (fun payload => Client.withdrawnMessage 2 payload.deletedAt event.timestamp payload)
      .deleteNotified
  else if event.notificationType = "message.edited" then
    onMessage Client.editedNotification .editNotified
  else if event.notificationType = "message.typing" then []
  else if event.notificationType = "message.mentioned" then
    onMessage (Client.incomingMessage event.timestamp) .receiveMessage
  else []

def NotificationEvent.conversationActions (event : NotificationEvent) : List Action :=
  if isConversationNotification event.notificationType then
    match event.conversation with
    | none => []
    | some payload =>
        if notificationConversationId payload = "" then []
        else if event.notificationType = "conversation.deleted" then
          [.removeConversation (notificationConversationId payload)]
        else [.patchConversation event.notificationType payload]
  else []

def ackActions (convId : String) (messageIds : List String)
    (primary fallback : HttpResponse Unit) : List Action :=
  if convId = "" then []
  else
    match parseApiEnvelopeResponse primary "ack messages failed" true false with
    | .ok () => messageIds.map .markMessageRead
    | .error _ =>
        if !isUnsupported primary then []
        else if messageIds = [] then []
        else
          Outcome.actions
            (parseApiEnvelopeResponse fallback "mark messages read failed" true false)
            fun () => messageIds.map .markMessageRead

def Event.actions : Event → List Action
  | syncRequested => [.querySync]
  | syncResponse response => syncActions response
  | notification event => event.messageActions ++ event.conversationActions
  | getHistoryResponse convId primary fallback =>
      Outcome.actions
        (parseApiEnvelopeResponse (if isUnsupported primary then fallback else primary)
          "get history failed" true false)
        fun data => (Client.listedMessages data convId).map .storeListedMessage
  | getOfflineMessagesResponse response =>
      Outcome.actions (parseApiEnvelopeResponse response "get offline messages failed" true false)
        fun data => (Client.listedMessages data "").map .storeListedMessage
  | searchMessagesResponse keyword contentType response =>
      if keyword = "" then []
      else if contentType ≠ 0 ∧ (contentType < 1 ∨ 7 < contentType) then []
      else
        Outcome.actions (parseApiEnvelopeResponse response "search messages failed" true false)
          fun data => (Client.listedMessages data "").map .storeListedMessage
  | ackMessagesResponse convId messageIds primary fallback =>
      ackActions convId messageIds primary fallback
  | recallMessageResponse messageId response =>
      if messageId = "" then []
      else
        Outcome.actionsOr (parseApiEnvelopeResponse response "recall message failed" true false)
          (fun () => [.applyMessageStatus messageId 1]) response
          { type := "message.recall", payload := .messageRecall messageId }
  | deleteMessageResponse messageId response =>
      if messageId = "" then []
      else
        Outcome.actionsOr (parseApiEnvelopeResponse response "delete message failed" true false)
          (fun () => [.applyMessageStatus messageId 2]) response
          { type := "message.delete", payload := .messageDelete messageId }
  | editMessageResponse messageId content response =>
      if messageId = "" then []
      else
        Outcome.actionsOr (parseApiEnvelopeResponse response "edit message failed" true false)
          (fun data => [.applyEdit messageId (Client.editedMessage messageId content data)])
          response
          { type := "message.edit", payload := .messageEdit messageId content }
  | sendTyping conversationId typing ttlSeconds =>
      if conversationId = "" then []
      else
        [.queue (.transient
          { type := "message.typing"
            payload := .messageTyping conversationId typing
              (if 0 < ttlSeconds then some ttlSeconds else none) })]
  | sendTextMessage convId content callback => [.sendTextMessage convId content callback]
  | getConversationList => [.loadConversations]
  | getConversationListResponse response =>
      Outcome.actions (parseApiEnvelopeResponse response "get conversations failed" true false)
        fun data => [.replaceConversations (data.conversations.getD [])]
  | getConversationResponse convId response =>
      Outcome.actions (parseApiEnvelopeResponse response "get conversation failed" true false)
        fun payload => [.fetchConversation convId payload]
  | deleteConversationResponse convId response =>
      Outcome.actions (parseApiEnvelopeResponse response "delete conversation failed" true false)
        fun () => [.removeConversation convId]
  | markAllReadResponse convId response =>
      Outcome.actions (parseApiEnvelopeResponse response "mark read failed" true false)
        fun () => [.clearUnread convId]
  | setPinnedResponse convId pinned response =>
      Outcome.actions (parseApiEnvelopeResponse response "set pinned failed" true false)
        fun () => [.applyPinned convId pinned]
  | setMutedResponse convId muted response =>
      Outcome.actions (parseApiEnvelopeResponse response "set muted failed" true false)
        fun () => [.setMuted convId muted]
  | setBurnAfterReadingResponse convId duration response =>
      Outcome.actions
        (parseApiEnvelopeResponse response "set burn_after_reading failed" true false)
        fun () => [.setBurnAfterReading convId duration]
  | setAutoDeleteResponse convId duration response =>
      Outcome.actions (parseApiEnvelopeResponse response "set auto_delete failed" true false)
        fun () => [.setAutoDelete convId duration]
  | getMessageUnreadCountResponse convId response =>
      Outcome.actions (parseApiEnvelopeResponse response "get unread count failed" true false)
        fun payload => [.applyUnreadCount convId (parseUnreadState payload convId).unreadCount]
  | getMessageSequenceResponse convId response =>
      Outcome.actions (parseApiEnvelopeResponse response "get message sequence failed" true false)
        fun payload => [.applyServerSequence convId (payload.currentSeq.getD 0)]
  | queue event => [.queue event]
  | restart => [.restart]

namespace Client

theorem exec_map_action {α : Type} (action : α → Action) (act : α → Client → Client)
    (acts : ∀ client item, (action item).apply client = act item client) (items : List α)
    (client : Client) :
    EventRun.exec Action.apply client (items.map action) =
      items.foldl (fun client item => act item client) client := by
  induction items generalizing client with
  | nil => rfl
  | cons item rest ih => rw [List.map_cons, EventRun.exec_cons, acts, ih, List.foldl_cons]

theorem mergeConversationMessages_eq_exec (payload : ConversationMessagesPayload)
    (client : Client) :
    client.mergeConversationMessages payload =
      EventRun.exec Action.apply client payload.actions := by
  rw [mergeConversationMessages, ConversationMessagesPayload.actions]
  split
  · rfl
  · simp only [EventRun.exec_append]
    rw [exec_map_action .storeSyncedMessage storeSyncedMessage (fun _ _ => rfl)]
    split <;> rfl

theorem mergeConvMessages_eq_exec (payloads : List ConversationMessagesPayload)
    (client : Client) :
    client.mergeConvMessages payloads =
      EventRun.exec Action.apply client
        (payloads.flatMap ConversationMessagesPayload.actions) := by
  induction payloads generalizing client with
  | nil => rfl
  | cons payload rest ih =>
      rw [List.flatMap_cons, EventRun.exec_append, ← mergeConversationMessages_eq_exec, ← ih]
      rfl

theorem syncResponse_eq_exec (response : HttpResponse SyncResponseDataPayload)
    (client : Client) :
    client.syncResponse response = EventRun.exec Action.apply client (syncActions response) := by
  rw [syncResponse, syncActions]
  split
  · rfl
  · cases response.body with
    | parsed envelope =>
        simp only [handleSyncResponse]
        split
        · rfl
        · simp only [SyncResponseDataPayload.actions, EventRun.exec_append]
          rw [exec_map_action .mergeFriend mergeFriend (fun _ _ => rfl),
            exec_map_action .mergeGroup mergeGroup (fun _ _ => rfl),
            exec_map_action .mergeSession mergeSession (fun _ _ => rfl),
            ← mergeConvMessages_eq_exec]
          rfl
    | empty => rfl
    | malformed => rfl

theorem storeListedMessages_eq_exec (messages : List Message) (client : Client) :
    client.storeListedMessages messages =
      EventRun.exec Action.apply client (messages.map .storeListedMessage) :=
  (exec_map_action .storeListedMessage storeListedMessage (fun _ _ => rfl) messages client).symm

theorem markMessageIdsRead_eq_exec (messageIds : List String) (client : Client) :
    client.markMessageIdsRead messageIds =
      EventRun.exec Action.apply client (messageIds.map .markMessageRead) :=
  (exec_map_action .markMessageRead markMessageRead (fun _ _ => rfl) messageIds client).symm

theorem ackMessagesResponse_eq_exec (convId : String) (messageIds : List String)
    (primary fallback : HttpResponse Unit) (client : Client) :
    (client.ackMessagesResponse convId messageIds primary fallback).2 =
      EventRun.exec Action.apply client (ackActions convId messageIds primary fallback) := by
  rw [ackMessagesResponse, ackActions]
  split
  · rfl
  · cases parseApiEnvelopeResponse primary "ack messages failed" true false with
    | ok => exact markMessageIdsRead_eq_exec messageIds client
    | error failure =>
        simp only
        split
        · rfl
        · split
          · rfl
          · cases parseApiEnvelopeResponse fallback "mark messages read failed" true false with
            | ok => exact markMessageIdsRead_eq_exec messageIds client
            | error failure => rfl

/-- A request that falls back on the WebSocket runs the actions of its success
or hands over the frame. -/
theorem exec_actionsOr {α : Type} (outcome : Outcome α) (onData : α → List Action)
    (response : HttpResponse α) (frame : Frame) (client : Client) :
    EventRun.exec Action.apply client (outcome.actionsOr onData response frame) =
      match outcome with
      | .ok data => EventRun.exec Action.apply client (onData data)
      | .error failure => (client.sendInstead frame response failure).2 := by
  cases outcome with
  | ok data => rfl
  | error failure =>
      simp only [Outcome.actionsOr, sendInstead]
      split <;> rfl

theorem handleMessageNotification_eq_exec (event : NotificationEvent) (client : Client) :
    (client.handleMessageNotification event).2 =
      EventRun.exec Action.apply client event.messageActions := by
  have decoded : ∀ (decode : NotificationMessagePayload → Option Message)
      (action : Message → Action) (handler : NotificationMessagePayload → Client →
        Option Message × Client) (report : Message → ListenerEvent),
      (∀ payload, (handler payload client).2 =
        EventRun.exec Action.apply client ((decode payload).toList.map action)) →
      (match event.message with
        | none => (none, client)
        | some payload => (handler payload client).map (Option.map report) id : Option _ × _).2 =
        EventRun.exec Action.apply client
          (match event.message with
            | none => []
            | some payload => (decode payload).toList.map action) := by
    intro decode action handler report handled
    cases event.message with
    | none => rfl
    | some payload => exact handled payload
  simp only [handleMessageNotification, NotificationEvent.messageActions]
  split
  · refine decoded _ _ _ _ fun payload => ?_
    simp only [handleIncomingMessage, handleIncoming]
    cases incomingMessage event.timestamp payload <;> rfl
  split
  · rfl
  split
  · refine decoded _ _ _ _ fun payload => ?_
    simp only [handleMessageRecalled]
    cases withdrawnMessage 1 payload.recalledAt event.timestamp payload <;> rfl
  split
  · refine decoded _ _ _ _ fun payload => ?_
    simp only [handleMessageDeleted]
    cases withdrawnMessage 2 payload.deletedAt event.timestamp payload <;> rfl
  split
  · refine decoded _ _ _ _ fun payload => ?_
    simp only [handleMessageEdited]
    cases editedNotification payload <;> rfl
  split
  · rfl
  split
  · refine decoded _ _ _ _ fun payload => ?_
    simp only [handleMentioned, handleIncoming]
    cases incomingMessage event.timestamp payload <;> rfl
  · rfl

theorem handleConversationEvent_eq_exec (event : NotificationEvent) (client : Client) :
    (client.handleConversationEvent event).2 =
      EventRun.exec Action.apply client event.conversationActions := by
  rw [handleConversationEvent, NotificationEvent.conversationActions]
  split
  · cases event.conversation with
    | none => rfl
    | some payload =>
        simp only [handleConversationNotification]
        split
        · rfl
        · split <;> rfl
  · rfl

end Client

theorem Outcome.exec_actions {α : Type} (outcome : Outcome α) (onData : α → List Action)
    (client : Client) :
    EventRun.exec Action.apply client (outcome.actions onData) =
      match outcome with
      | .ok data => EventRun.exec Action.apply client (onData data)
      | .error _ => client := by
  cases outcome <;> rfl

theorem exec_acknowledged (response : HttpResponse Unit) (fallbackError : String)
    (action : Action) (client : Client) :
    EventRun.exec Action.apply client
        (Outcome.actions (parseApiEnvelopeResponse response fallbackError true false)
          fun () => [action]) =
      (client.acknowledged response fallbackError fun client => action.apply client).2 := by
  rw [Outcome.exec_actions, Client.acknowledged]
  cases parseApiEnvelopeResponse response fallbackError true false <;> rfl

/-- The handler of an event runs the actions of the event. -/
theorem Event.apply_eq_exec_actions (client : Client) (event : Event) :
    event.apply client = EventRun.exec Action.apply client event.actions := by
  cases event with
  | syncRequested => rfl
  | syncResponse response => exact client.syncResponse_eq_exec response
  | notification event =>
      simp only [Event.apply, Event.actions, EventRun.exec_append, Client.handleNotification]
      rw [← Client.handleMessageNotification_eq_exec, ← Client.handleConversationEvent_eq_exec]
  | getHistoryResponse convId primary fallback =>
      simp only [Event.apply, Event.actions, Client.getHistoryResponse, Outcome.exec_actions]
      cases parseApiEnvelopeResponse (if isUnsupported primary then fallback else primary)
          "get history failed" true false with
      | error => rfl
      | ok data => exact client.storeListedMessages_eq_exec _
  | getOfflineMessagesResponse response =>
      simp only [Event.apply, Event.actions, Client.getOfflineMessagesResponse,
        Outcome.exec_actions]
      cases parseApiEnvelopeResponse response "get offline messages failed" true false with
      | error => rfl
      | ok data => exact client.storeListedMessages_eq_exec _
  | searchMessagesResponse keyword contentType response =>
      simp only [Event.apply, Event.actions, Client.searchMessagesResponse]
      split
      · rfl
      split
      · rfl
      rw [Outcome.exec_actions]
      cases parseApiEnvelopeResponse response "search messages failed" true false with
      | error => rfl
      | ok data => exact client.storeListedMessages_eq_exec _
  | ackMessagesResponse convId messageIds primary fallback =>
      exact client.ackMessagesResponse_eq_exec convId messageIds primary fallback
  | recallMessageResponse messageId response =>
      simp only [Event.apply, Event.actions, Client.recallMessageResponse]
      split
      · rfl
      rw [Client.exec_actionsOr]
      cases parseApiEnvelopeResponse response "recall message failed" true false <;> rfl
  | deleteMessageResponse messageId response =>
      simp only [Event.apply, Event.actions, Client.deleteMessageResponse]
      split
      · rfl
      rw [Client.exec_actionsOr]
      cases parseApiEnvelopeResponse response "delete message failed" true false <;> rfl
  | editMessageResponse messageId content response =>
      simp only [Event.apply, Event.actions, Client.editMessageResponse]
      split
      · rfl
      rw [Client.exec_actionsOr]
      cases parseApiEnvelopeResponse response "edit message failed" true false <;> rfl
  | sendTyping conversationId typing ttlSeconds =>
      simp only [Event.apply, Event.actions, Client.sendTyping]
      split <;> rfl
  | sendTextMessage => rfl
  | getConversationList => rfl
  | getConversationListResponse response =>
      simp only [Event.apply, Event.actions, Client.getConversationListResponse,
        Outcome.exec_actions]
      cases parseApiEnvelopeResponse response "get conversations failed" true false <;> rfl
  | getConversationResponse convId response =>
      simp only [Event.apply, Event.actions, Client.getConversationResponse, Outcome.exec_actions]
      cases parseApiEnvelopeResponse response "get conversation failed" true false <;> rfl
  | deleteConversationResponse convId response =>
      exact (exec_acknowledged response _ (.removeConversation convId) client).symm
  | markAllReadResponse convId response =>
      exact (exec_acknowledged response _ (.clearUnread convId) client).symm
  | setPinnedResponse convId pinned response =>
      exact (exec_acknowledged response _ (.applyPinned convId pinned) client).symm
  | setMutedResponse convId muted response =>
      exact (exec_acknowledged response _ (.setMuted convId muted) client).symm
  | setBurnAfterReadingResponse convId duration response =>
      exact (exec_acknowledged response _ (.setBurnAfterReading convId duration) client).symm
  | setAutoDeleteResponse convId duration response =>
      exact (exec_acknowledged response _ (.setAutoDelete convId duration) client).symm
  | getMessageUnreadCountResponse convId response =>
      simp only [Event.apply, Event.actions, Client.getMessageUnreadCountResponse,
        Outcome.exec_actions]
      cases parseApiEnvelopeResponse response "get unread count failed" true false <;> rfl
  | getMessageSequenceResponse convId response =>
      simp only [Event.apply, Event.actions, Client.getMessageSequenceResponse,
        Outcome.exec_actions]
      cases parseApiEnvelopeResponse response "get message sequence failed" true false <;> rfl
  | queue => rfl
  | restart => rfl

/-- A run of events is the run of their actions. -/
theorem exec_events_eq_exec_actions (client : Client) (events : List Event) :
    EventRun.exec Event.apply client events =
      EventRun.exec Action.apply client (events.flatMap Event.actions) := by
  induction events generalizing client with
  | nil => rfl
  | cons event rest ih =>
      rw [EventRun.exec_cons, List.flatMap_cons, EventRun.exec_append,
        ← Event.apply_eq_exec_actions, ih]

/-- An invariant of guarded actions holds in every state of a run of events
whose actions are guarded. -/
theorem always_events_of_guarded {Invariant : Client → Prop} {Guard : Client → Action → Prop}
    (preserved : ∀ client action, Invariant client → Guard client action →
      Invariant (action.apply client))
    {client : Client} (initially : Invariant client) {events : List Event}
    (guarded : EventRun.Guarded Action.apply Guard client (events.flatMap Event.actions)) :
    EventRun.Always Event.apply Invariant client events := by
  induction events generalizing client with
  | nil => exact initially
  | cons event rest ih =>
      rw [List.flatMap_cons] at guarded
      rcases EventRun.Guarded.append.mp guarded with ⟨now, later⟩
      have next := EventRun.exec_invariant_of_guarded preserved initially now
      rw [← Event.apply_eq_exec_actions] at next later
      exact ⟨initially, ih next later⟩

end AnychatSdk
