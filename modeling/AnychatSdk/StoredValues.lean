import AnychatSdk.BlockingCalls
import AnychatSdk.ConversationEffects
import AnychatSdk.PendingMessages

/-!
# Values written and read back

Values are bound with their length and read as C strings.  Integers survive the way
through decimal text; texts do so exactly when they contain no NUL.
-/

namespace AnychatSdk

/-- What a query hands over for a bound value; `realText` is how SQLite prints a
double. -/
def DbValue.column (realText : Float → String) : DbValue → String
  | null => columnText none
  | integer value => toString value
  | real value => columnText (some (realText value))
  | text value => columnText (some value)

theorem stoll_column_integer (realText : Float → String) (value : Int64) :
    stoll ((DbValue.integer value).column realText) = some value :=
  stoll_toString value

theorem column_text_eq_self_iff (realText : Float → String) (value : String) :
    (DbValue.text value).column realText = value ↔ NulFree value :=
  cString_eq_self_iff

theorem getMeta_setMeta_eq_iff (db : Db) (key value default : String) :
    ((Stmt.setMeta key value).run db).getMeta key default = value ↔ NulFree value := by
  rw [Db.getMeta_setMeta, if_pos rfl]
  exact cString_eq_self_iff

/-! ## Conversations -/

theorem stored_upsertDb (client : Client) (conv : Conversation) :
    (client.upsertDb conv).stored conv.convId =
      some (rowToConversation (conv.toRow.toRow conv.convId)) := by
  have written : (client.upsertDb conv).table.conversations.lookup conv.convId =
      some conv.toRow := by
    rw [Client.upsertDb, Client.table_exec]
    exact (KeyTable.lookup_write _ _ _ _).trans (if_pos rfl)
  rw [Client.stored, written, Option.map_some]

theorem rowToConversation_eq_self_iff (conv : Conversation) :
    rowToConversation (conv.toRow.toRow conv.convId) = conv ↔ conv.TextNulFree := by
  constructor
  · intro same
    rw [rowToConversation_toRow] at same
    have convId := congrArg Conversation.convId same
    have targetId := congrArg Conversation.targetId same
    have lastMsgId := congrArg Conversation.lastMsgId same
    have lastMsgText := congrArg Conversation.lastMsgText same
    exact ⟨cString_eq_self_iff.mp convId, cString_eq_self_iff.mp targetId,
      cString_eq_self_iff.mp lastMsgId, cString_eq_self_iff.mp lastMsgText⟩
  · exact rowToConversation_self

/-! ## Frames -/

namespace Client

/-- The frames that a new connection makes the queue send. -/
def flushed (sendFn : Nat) (client : Client) : List (Nat × Frame) :=
  (client.onConnected sendFn).outbound.sent.drop client.outbound.sent.length

theorem flushed_eq (sendFn : Nat) (client : Client) :
    client.flushed sendFn =
      client.pendingRows.map fun row => (sendFn, sendFrame (row.2.toPayload row.1).readBack) := by
  rw [flushed, sent_onConnected, List.drop_left]

/-- Enqueue what a payload says. -/
def enqueuePayload (payload : SendMessagePayload) (callback : AnyChatCallback) (client : Client) :
    Client :=
  client.enqueue payload.conversationId payload.conversationType payload.contentType
    payload.content payload.localId callback

/-- A flush rebuilds a payload that was enqueued under a new id exactly when it has no
NUL. -/
theorem mem_flushed_enqueuePayload_iff {client : Client} {payload : SendMessagePayload}
    (unused : client.table.pending payload.localId = none) (callback : AnyChatCallback)
    (sendFn : Nat) :
    (sendFn, sendFrame payload) ∈ (client.enqueuePayload payload callback).flushed sendFn ↔
      payload.TextNulFree ∧ NulFree payload.localId := by
  rw [flushed_eq]
  constructor
  · intro member
    obtain ⟨row, _, same⟩ := List.mem_map.mp member
    have samePayload : (row.2.toPayload row.1).readBack = payload :=
      FramePayload.sendMessage.inj (congrArg Frame.payload (Prod.mk.inj same).2)
    rw [← samePayload]
    exact ⟨⟨nulFree_cString _, nulFree_cString _, nulFree_cString _⟩, nulFree_cString _⟩
  · rintro ⟨textNulFree, idNulFree⟩
    have waiting : (client.enqueuePayload payload callback).table.pending payload.localId =
        some payload := by
      rw [enqueuePayload, pending_enqueue, if_pos rfl, unused]
      rfl
    obtain ⟨row, stored, isPayload⟩ := Option.map_eq_some_iff.mp waiting
    have rowMem : (payload.localId, row) ∈ (client.enqueuePayload payload callback).pendingRows :=
      (OrderBy.mem_sort _).mpr (KeyTable.lookup_eq_some_iff_mem_rows.mp stored)
    have unchanged : payload.readBack = payload :=
      (SendMessagePayload.readBack_eq_self_iff idNulFree).mpr textNulFree
    apply List.mem_map.mpr
    refine ⟨(payload.localId, row), rowMem, ?_⟩
    rw [isPayload, unchanged]

end Client

/-- Integers always, and texts, conversations, metadata and queued messages exactly
without NULs. -/
theorem readsBack_iff_nulFree (realText : Float → String) :
    (∀ value, stoll ((DbValue.integer value).column realText) = some value) ∧
      (∀ value, (DbValue.text value).column realText = value ↔ NulFree value) ∧
      (∀ (client : Client) (conv : Conversation),
        (client.upsertDb conv).stored conv.convId = some conv ↔ conv.TextNulFree) ∧
      (∀ (db : Db) (key value default : String),
        ((Stmt.setMeta key value).run db).getMeta key default = value ↔ NulFree value) ∧
      ∀ (client : Client) (payload : SendMessagePayload) (callback : AnyChatCallback)
        (sendFn : Nat), client.table.pending payload.localId = none →
          ((sendFn, Client.sendFrame payload) ∈
              (client.enqueuePayload payload callback).flushed sendFn ↔
            payload.TextNulFree ∧ NulFree payload.localId) := by
  refine ⟨stoll_column_integer realText, column_text_eq_self_iff realText, ?_,
    getMeta_setMeta_eq_iff, ?_⟩
  · intro client conv
    rw [stored_upsertDb, Option.some.injEq]
    exact rowToConversation_eq_self_iff conv
  · intro client payload callback sendFn unused
    exact Client.mem_flushed_enqueuePayload_iff unused callback sendFn

/-- A value is cut at its NUL. -/
theorem not_readsBack_nul :
    ((Stmt.setMeta "k" "a\x00b").run {}).getMeta "k" "" = "a" ∧ "a" ≠ "a\x00b" := by
  rw [Db.getMeta_setMeta]
  decide

end AnychatSdk
