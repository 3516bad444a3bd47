import AnychatSdk.Lib.Dispatch
import AnychatSdk.ManagerNotifications
import AnychatSdk.SdkCalls
import AnychatSdk.System

/-!
# Notifications to all managers

The notification manager gives every notification to the handlers of seven
managers.  A notification is the business of one of them at most, so the order in
which the managers have registered does not matter, and no notification reaches
the application twice.
-/

namespace AnychatSdk

/-- A notification, with what its data reads as for the payloads of all managers. -/
structure SdkNotification where
  event : NotificationEvent
  forceLogout : Option ForceLogoutPayload := none
  friend : Option NotificationFriendEventPayload := none
  group : Option NotificationGroupEventPayload := none
  userInfo : Option UserInfoPayload := none
  userStatus : Option NotificationUserStatusPayload := none
  callSession : Option CallSessionPayload := none
  callStatus : Option CallStatusNotificationPayload := none

/-- What is told of notifications. -/
inductive SdkNotice where
  | auth (report : AuthReport)
  | client (report : ListenerEvent)
  | friend (report : FriendReport)
  | group (report : GroupReport)
  | user (report : UserReport)
  | call (report : CallReport)

/-- Which of the managers without a state have a listener. -/
structure Listening where
  friend : Bool
  group : Bool
  user : Bool
  call : Bool

/-- A type up to its first dot. -/
def topicOf (type : String) : String :=
  String.ofList (type.toList.takeWhile (· ≠ '.'))

namespace SdkNotification

abbrev Handles := Handler SdkState SdkNotification SdkNotice

/-- The type of a notification. -/
def type (notification : SdkNotification) : String :=
  notification.event.notificationType

def topic (notification : SdkNotification) : String :=
  topicOf notification.type

/-! ## The handlers -/

def handleAuth : Handles := fun notification state =>
  let (expired, manager) :=
    state.auth.manager.handleAuthNotification notification.type notification.forceLogout
  (if expired && state.auth.listening then [.auth .authExpired] else [],
    state.withAuth { state.auth with manager := manager })

def handleMessage : Handles := fun notification state =>
  let (report, client) := state.client.handleMessageNotification notification.event
  (report.toList.map .client, state.withClient client)

def handleConversation : Handles := fun notification state =>
  let (report, client) := state.client.handleConversationEvent notification.event
  (report.toList.map .client, state.withClient client)

def handleFriend (listening : Listening) : Handles := fun notification state =>
  (((handleFriendNotification listening.friend notification.type notification.friend).map
    SdkNotice.friend).toList, state)

def handleGroup (listening : Listening) : Handles := fun notification state =>
  (((handleGroupNotification listening.group notification.type notification.group).map
    SdkNotice.group).toList, state)

def handleUser (listening : Listening) : Handles := fun notification state =>
  (((handleUserNotification listening.user notification.type notification.userInfo
    notification.userStatus).map SdkNotice.user).toList, state)

def handleCall (listening : Listening) : Handles := fun notification state =>
  (((handleCallNotification listening.call notification.type notification.callSession
    notification.callStatus).map SdkNotice.call).toList, state)

/-- The handlers with their topics, in the order in which the client registers them. -/
def handlers (listening : Listening) : List (String × Handles) :=
  [("auth", handleAuth), ("message", handleMessage), ("conversation", handleConversation),
    ("friend", handleFriend listening), ("group", handleGroup listening),
    ("user", handleUser listening), ("livekit", handleCall listening)]

/-! ## Topics -/

section Topics

variable {notification : SdkNotification}

/-- Types on other topics are others. -/
theorem type_ne {topic type : String} (other : notification.topic ≠ topic)
    (own : topicOf type = topic) : notification.type ≠ type := by
  rintro rfl
  exact other own

theorem not_hasPrefix {topic start : String} (other : notification.topic ≠ topic)
    (dotted : start.toList = topic.toList ++ ['.']) (single : '.' ∉ topic.toList) :
    hasPrefix start notification.type = false := by
  by_contra starts
  have starts : start.toList.isPrefixOf notification.type.toList = true :=
    Bool.eq_true_of_not_eq_false starts
  rcases List.isPrefixOf_iff_prefix.mp starts with ⟨rest, same⟩
  refine other ?_
  rw [SdkNotification.topic, topicOf, ← same, dotted, List.append_assoc,
    List.takeWhile_append_of_pos]
  · simp
  · intro char member
    simp only [decide_eq_true_eq]
    exact fun dot => single (dot ▸ member)

theorem idle_auth (other : notification.topic ≠ "auth") : handleAuth.Idle notification := by
  intro state
  have kept : state.auth.manager.handleAuthNotification notification.type
      notification.forceLogout = (false, state.auth.manager) := by
    rw [AuthManager.handleAuthNotification, AuthManager.isForceLogout,
      decide_eq_false (type_ne other (by decide))]
    rfl
  rw [handleAuth, kept]
  rfl

theorem idle_message (other : notification.topic ≠ "message") :
    handleMessage.Idle notification := by
  intro state
  have kept : state.client.handleMessageNotification notification.event = (none, state.client) := by
    have unlike : ∀ {type : String}, topicOf type = "message" →
        notification.event.notificationType ≠ type := fun own => type_ne other own
    rw [Client.handleMessageNotification, if_neg (unlike (by decide)), if_neg (unlike (by decide)),
      if_neg (unlike (by decide)), if_neg (unlike (by decide)), if_neg (unlike (by decide)),
      if_neg (unlike (by decide)), if_neg (unlike (by decide))]
  rw [handleMessage, kept]
  rfl

theorem idle_conversation (other : notification.topic ≠ "conversation") :
    handleConversation.Idle notification := by
  intro state
  have kept : state.client.handleConversationEvent notification.event = (none, state.client) := by
    have unlike : ∀ {type : String}, topicOf type = "conversation" →
        decide (notification.event.notificationType = type) = false :=
      fun own => decide_eq_false (type_ne other own)
    rw [Client.handleConversationEvent, isConversationNotification, unlike (by decide),
      unlike (by decide), unlike (by decide), unlike (by decide), unlike (by decide),
      unlike (by decide)]
    rfl
  rw [handleConversation, kept]
  rfl

theorem idle_friend (listening : Listening) (other : notification.topic ≠ "friend") :
    (handleFriend listening).Idle notification := by
  intro state
  rw [handleFriend, handleFriendNotification, not_hasPrefix other (by decide) (by decide)]
  rfl

theorem idle_group (listening : Listening) (other : notification.topic ≠ "group") :
    (handleGroup listening).Idle notification := by
  intro state
  rw [handleGroup, handleGroupNotification, not_hasPrefix other (by decide) (by decide)]
  rfl

theorem idle_user (listening : Listening) (other : notification.topic ≠ "user") :
    (handleUser listening).Idle notification := by
  intro state
  rw [handleUser, handleUserNotification, if_neg (type_ne other (by decide)),
    if_neg (type_ne other (by decide)), if_neg (type_ne other (by decide))]
  rfl

theorem idle_call (listening : Listening) (other : notification.topic ≠ "livekit") :
    (handleCall listening).Idle notification := by
  intro state
  rw [handleCall, handleCallNotification, if_neg (type_ne other (by decide)),
    if_neg (not_or.mpr ⟨type_ne other (by decide), type_ne other (by decide)⟩)]
  rfl

end Topics

/-- Each manager has a topic of its own. -/
theorem onTopics_handlers (listening : Listening) :
    Handler.OnTopics topic (handlers listening) := by
  have distinct : ["auth", "message", "conversation", "friend", "group", "user",
      "livekit"].Nodup := by decide
  refine ⟨distinct, fun entry listed notification other => ?_⟩
  simp only [handlers, List.mem_cons, List.not_mem_nil, or_false] at listed
  rcases listed with rfl | rfl | rfl | rfl | rfl | rfl | rfl
  · exact idle_auth other
  · exact idle_message other
  · exact idle_conversation other
  · exact idle_friend listening other
  · exact idle_group listening other
  · exact idle_user listening other
  · exact idle_call listening other

/-- All that the handler of a topic can do. -/
structure Minds (topic : String) (handler : Handles) : Prop where
  single : ∀ notification state, (handler notification state).1.length ≤ 1
  contacts : ∀ notification state, (handler notification state).2.contacts = state.contacts
  auth : topic ≠ "auth" → ∀ notification state, (handler notification state).2.auth = state.auth
  client : topic ≠ "message" → topic ≠ "conversation" →
    ∀ notification state, (handler notification state).2.client = state.client

theorem minds_of_mem {listening : Listening} {entry : String × Handles}
    (listed : entry ∈ handlers listening) : Minds entry.1 entry.2 := by
  have one : ∀ {α β : Type} (report : Option α) (tell : α → β),
      (report.toList.map tell).length ≤ 1 := by
    intro α β report tell
    cases report <;> simp
  have told : ∀ {α β : Type} (report : Option α) (tell : α → β),
      (report.map tell).toList.length ≤ 1 := by
    intro α β report tell
    cases report <;> simp
  simp only [handlers, List.mem_cons, List.not_mem_nil, or_false] at listed
  rcases listed with rfl | rfl | rfl | rfl | rfl | rfl | rfl
  · refine ⟨fun notification state => ?_, fun _ _ => rfl, fun other => absurd rfl other,
      fun _ _ _ _ => rfl⟩
    dsimp only [handleAuth]
    split <;> simp
  · exact ⟨fun _ _ => one _ _, fun _ _ => rfl, fun _ _ _ => rfl, fun other => absurd rfl other⟩
  · exact ⟨fun _ _ => one _ _, fun _ _ => rfl, fun _ _ _ => rfl, fun _ other => absurd rfl other⟩
  all_goals exact ⟨fun _ _ => told _ _, fun _ _ => rfl, fun _ _ _ => rfl, fun _ _ _ _ => rfl⟩

/-- What the handlers tell of a sequence of notifications, and the state after it. -/
def deliver (listening : Listening) (notifications : List SdkNotification) (state : SdkState) :
    List SdkNotice × SdkState :=
  Handler.deliver ((handlers listening).map Prod.snd) notifications state

/-- What holds of a sequence of notifications. -/
structure Routed (listening : Listening) (notifications : List SdkNotification)
    (state : SdkState) : Prop where
  /-- The handlers may be registered in any order. -/
  order : ∀ other : List (String × Handles), other.Perm (handlers listening) →
    Handler.deliver (other.map Prod.snd) notifications state =
      deliver listening notifications state
  /-- No notification is told twice. -/
  once : (deliver listening notifications state).1.length ≤ notifications.length
  /-- Notifications of friends and groups leave the stored contacts as they are. -/
  contacts : (deliver listening notifications state).2.contacts = state.contacts
  /-- The session ends with a notification on the account only. -/
  session : (∀ notification ∈ notifications, notification.topic ≠ "auth") →
    (deliver listening notifications state).2.auth = state.auth
  /-- Messages and conversations change with their own notifications only. -/
  stores : (∀ notification ∈ notifications,
      notification.topic ≠ "message" ∧ notification.topic ≠ "conversation") →
    (deliver listening notifications state).2.client = state.client

theorem routed (listening : Listening) (notifications : List SdkNotification) (state : SdkState) :
    Routed listening notifications state := by
  have onTopics := onTopics_handlers listening
  have minds : ∀ entry ∈ handlers listening, Minds entry.1 entry.2 := fun _ => minds_of_mem
  refine ⟨fun other perm => onTopics.deliver_perm perm notifications state,
    onTopics.length_deliver_le (fun entry listed => (minds entry listed).single) notifications
      state,
    onTopics.deliver_keeps SdkState.contacts (fun entry listed _ => (minds entry listed).contacts)
      state,
    fun others => ?_, fun others => ?_⟩
  · refine onTopics.deliver_keeps SdkState.auth (fun entry listed occurs => ?_) state
    rcases occurs with ⟨notification, member, own⟩
    exact (minds entry listed).auth (own ▸ others notification member)
  · refine onTopics.deliver_keeps SdkState.client (fun entry listed occurs => ?_) state
    rcases occurs with ⟨notification, member, own⟩
    exact (minds entry listed).client (own ▸ (others notification member).1)
      (own ▸ (others notification member).2)

end SdkNotification

end AnychatSdk
