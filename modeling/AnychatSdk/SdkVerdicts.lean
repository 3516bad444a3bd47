import AnychatSdk.Network.ServerVerdicts
import AnychatSdk.SdkCalls

/-!
# Success of the calls of the SDK

All functions that send one request and go by its response leave the verdict to the
server.
-/

namespace AnychatSdk

open ManagerCall

theorem ListenedAuthManager.passesErrors_tokenCall
    (request : Except (Int32 × String) HttpRequest)
    (readToken : String → ResponseBody AuthTokenPayload) :
    (AuthManager.tokenCall request readToken).PassesErrors := by
  intro _ _ raw failure refused auth
  have refused : parseApiEnvelopeResponse (raw.read readToken) "auth failed" false false =
      .error failure := refused
  dsimp only [AuthManager.tokenCall, AuthManager.handleAuthResponse]
  rw [refused]

theorem ListenedAuthManager.passesErrors_logout (json : AccountJson) (deviceId : String) :
    (AuthManager.logout json deviceId).PassesErrors := by
  intro _ _ raw failure refused auth
  have refused : parseApiEnvelopeResponse (raw.read json.readUnit) "logout failed" false false =
      .error failure := refused
  dsimp only [AuthManager.logout, AuthManager.logoutResponse]
  rw [refused]

/-- A response that carries nothing. -/
theorem Client.acknowledged_error {raw : RawResponse} {read : String → ResponseBody Unit}
    {fallbackError : String} {failure : Int32 × String}
    (refused : (Decoding.with200 read fallbackError).parse raw = .error failure)
    (apply : Client → Client) (client : Client) :
    client.acknowledged (raw.read read) fallbackError apply = (.error failure, client) := by
  have refused : parseApiEnvelopeResponse (raw.read read) fallbackError true false =
      .error failure := refused
  rw [Client.acknowledged, refused]

theorem FriendCall.passesErrors (json : FriendJson) {ρ : Type} (call : FriendCall ρ) :
    (call.call json).PassesErrors := by
  cases call <;> exact passesErrors_storing _ _ _ _

theorem GroupCall.passesErrors (json : GroupJson) {ρ : Type} (call : GroupCall ρ) :
    (call.call json).PassesErrors := by
  cases call <;> exact passesErrors_storing _ _ _ _

theorem UserCall.passesErrors (json : UserJson) (deviceId : String) {ρ : Type}
    (call : UserCall ρ) : (call.call json deviceId).PassesErrors := by
  cases call <;> exact passesErrors_storing _ _ _ _

theorem CallingCall.passesErrors (json : CallJson) {ρ : Type} (call : CallingCall ρ) :
    (call.call json).PassesErrors := by
  cases call <;> exact passesErrors_storing _ _ _ _

theorem VersionCall.passesErrors (json : VersionJson) {ρ : Type} (call : VersionCall ρ) :
    (call.call json).PassesErrors := by
  cases call <;> exact passesErrors_storing _ _ _ _

theorem FileCall.passesErrors (json : FileQueryJson) {ρ : Type} (call : FileCall ρ) :
    (call.call json).PassesErrors := by
  cases call <;> exact passesErrors_storing _ _ _ _

theorem AccountCall.passesErrors (json : AccountJson) (deviceId : String) {ρ : Type}
    (call : AccountCall ρ) : (call.call json deviceId).PassesErrors := by
  cases call with
  | registerUser | login => exact ListenedAuthManager.passesErrors_tokenCall _ _
  | logout => exact ListenedAuthManager.passesErrors_logout json deviceId
  | sendVerificationCode | changePassword | resetPassword => exact passesErrors_storing _ _ _ _

theorem ChatCall.passesErrors (json : ConversationJson) (messageJson : MessageJson)
    (readReadState : String → ResponseBody GroupReadStatePayload) {ρ : Type} (call : ChatCall ρ) :
    (call.call json messageJson readReadState).PassesErrors := by
  cases call with
  | markMessagesRead | getTotalUnread | getMessageReadReceipts | getGroupMessageReadState =>
      exact passesErrors_storing _ _ _ _
  | deleteConversation | markAllRead | setPinned | setMuted | setBurnAfterReading
  | setAutoDelete =>
      exact fun _ _ raw failure refused client => Client.acknowledged_error refused _ client
  | fetchConversationList =>
      intro _ _ raw failure refused client
      have refused : parseApiEnvelopeResponse (raw.read json.readConversationList)
        "get conversations failed" true false = .error failure := refused
      dsimp only [call, ConversationManager.fetchConversationList]
      rw [Client.getConversationListResponse, refused]
  | getConversation convId =>
      intro _ _ raw failure refused client
      have refused : parseApiEnvelopeResponse (raw.read json.readConversation)
        "get conversation failed" true false = .error failure := refused
      dsimp only [call, ConversationManager.getConversation]
      rw [Client.getConversationResponse, refused]
  | getMessageUnreadCount convId lastReadSeq =>
      intro _ _ raw failure refused client
      have refused : parseApiEnvelopeResponse (raw.read json.readUnreadState)
        "get unread count failed" true false = .error failure := refused
      dsimp only [call, ConversationManager.getMessageUnreadCount]
      rw [Client.getMessageUnreadCountResponse, refused]
  | getMessageSequence convId =>
      intro _ _ raw failure refused client
      have refused : parseApiEnvelopeResponse (raw.read json.readMessageSequence)
        "get message sequence failed" true false = .error failure := refused
      dsimp only [call, ConversationManager.getMessageSequence]
      rw [Client.getMessageSequenceResponse, refused]
  | getOfflineMessages lastSeq limit =>
      intro _ _ raw failure refused client
      have refused : parseApiEnvelopeResponse (raw.read messageJson.readMessageList)
        "get offline messages failed" true false = .error failure := refused
      dsimp only [call, MessageManager.getOfflineMessages]
      rw [Client.getOfflineMessagesResponse, refused]
  | searchMessages keyword conversationId contentType limit offset =>
      intro _ made raw failure refused client
      have refused : parseApiEnvelopeResponse (raw.read messageJson.readMessageList)
        "search messages failed" true false = .error failure := refused
      dsimp only [call, MessageManager.searchMessages] at made ⊢
      by_cases unasked : keyword = ""
      · rw [if_pos unasked] at made
        cases made
      rw [if_neg unasked] at made
      by_cases outOfRange : contentType ≠ 0 ∧ (contentType < 1 ∨ 7 < contentType)
      · rw [if_pos outOfRange] at made
        cases made
      · rw [Client.searchMessagesResponse, if_neg unasked, if_neg outOfRange, refused]

theorem SingleCall.passesErrors (env : SdkEnvironment) {ρ : Type} (call : SingleCall ρ) :
    (call.call env).PassesErrors := by
  cases call with
  | friend call => exact (call.passesErrors env.friend).within fun _ => rfl
  | group call => exact (call.passesErrors env.group).within fun _ => rfl
  | user call => exact (call.passesErrors env.user env.deviceId).within fun _ => rfl
  | calling call => exact (call.passesErrors env.call).within fun _ => rfl
  | version call => exact (call.passesErrors env.version).within fun _ => rfl
  | chat call =>
      exact (call.passesErrors env.conversation env.message env.readReadState).within fun _ => rfl
  | account call => exact (call.passesErrors env.account env.deviceId).within fun _ => rfl
  | refreshToken token =>
      exact (ListenedAuthManager.passesErrors_tokenCall _ _).within fun _ => rfl
  | file call => exact (call.passesErrors env.fileQuery).within fun _ => rfl

/-- Any call with one request, among any changes that others make and with any
responses. -/
theorem SingleCall.serverDecides (env : SdkEnvironment) {ρ : Type} (call : SingleCall ρ)
    (state : SdkState) (events : List (AsyncEvent SdkState RawResponse)) :
    Decided (call.call env) (events.foldl keptBy state)
      (EventRun.exec AsyncRun.step
        (AsyncRun.start ((SdkCall.single call).code env) state) events) :=
  decided_exec (call.passesErrors env) (stage_start _ state) events

end AnychatSdk
