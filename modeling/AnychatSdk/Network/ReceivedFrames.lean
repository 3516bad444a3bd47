import AnychatSdk.Lib.EventRun
import AnychatSdk.NotificationManager

/-!
# Received messages and their chunks

The socket library delivers a text message in consecutive callbacks once it is
longer than the receive buffer of the protocol.  The client takes every callback
for a message of its own and hands it to the notification manager.
-/

namespace AnychatSdk

/-! ## Deliveries -/

/-- The size of the receive buffer in the protocol table. -/
def rxBufferSize : Nat := 4096

/-- A text message of the server and the chunks in which the library delivers it:
a message that fits the buffer comes whole. -/
structure Delivery where
  message : List UInt8
  chunks : List (List UInt8)
  flatten_chunks : chunks.flatten = message
  whole : message.length ≤ rxBufferSize → chunks = [message]

namespace Delivery

theorem chunks_ne_nil (delivery : Delivery) : delivery.chunks ≠ [] := by
  intro none
  have empty : delivery.message = [] := by
    rw [← delivery.flatten_chunks, none]
    rfl
  have one := delivery.whole (by rw [empty]; exact Nat.zero_le rxBufferSize)
  exact absurd (none.symm.trans one) (List.cons_ne_nil _ _).symm

theorem one_le_length_chunks (delivery : Delivery) : 1 ≤ delivery.chunks.length :=
  List.length_pos_iff.mpr delivery.chunks_ne_nil

/-- The only single chunk is the message. -/
theorem length_chunks_eq_one_iff {delivery : Delivery} :
    delivery.chunks.length = 1 ↔ delivery.chunks = [delivery.message] := by
  constructor
  · intro single
    rcases List.length_eq_one_iff.mp single with ⟨chunk, chunks⟩
    have joined := delivery.flatten_chunks
    rw [chunks, List.flatten_singleton] at joined
    rw [chunks, joined]
  · intro chunks
    rw [chunks]
    rfl

/-- The callbacks of a sequence of messages. -/
def callbacks (deliveries : List Delivery) : List (List UInt8) :=
  deliveries.flatMap chunks

theorem length_le_length_callbacks (deliveries : List Delivery) :
    deliveries.length ≤ (callbacks deliveries).length := by
  induction deliveries with
  | nil => exact Nat.zero_le _
  | cons delivery rest ih =>
      have one := delivery.one_le_length_chunks
      rw [callbacks, List.flatMap_cons, List.length_append, List.length_cons]
      rw [callbacks] at ih
      omega

/-- The callbacks are the messages exactly when every message comes in a single
chunk. -/
theorem callbacks_eq_iff (deliveries : List Delivery) :
    callbacks deliveries = deliveries.map message ↔
      ∀ delivery ∈ deliveries, delivery.chunks.length = 1 := by
  constructor
  · intro same
    have lengths := congrArg List.length same
    rw [List.length_map] at lengths
    clear same
    induction deliveries with
    | nil => intro delivery member; exact absurd member List.not_mem_nil
    | cons delivery rest ih =>
        have one := delivery.one_le_length_chunks
        have others := length_le_length_callbacks rest
        rw [callbacks, List.flatMap_cons, List.length_append, List.length_cons,
          ← callbacks] at lengths
        intro other member
        rcases List.mem_cons.mp member with rfl | later
        · omega
        · exact ih (by omega) other later
  · intro single
    induction deliveries with
    | nil => rfl
    | cons delivery rest ih =>
        have here := length_chunks_eq_one_iff.mp (single delivery List.mem_cons_self)
        have later := ih fun other member => single other (List.mem_cons_of_mem delivery member)
        rw [callbacks, List.flatMap_cons, here, List.map_cons, ← callbacks, later]
        rfl

end Delivery

/-! ## The receiving side -/

/-- `LWS_CALLBACK_CLIENT_RECEIVE`: the handler of the user, if there is one, is
called with what the callback brings. -/
def WebSocketClient.onReceive {σ : Type} (onMessage : Option (List UInt8 → σ → σ))
    (chunk : List UInt8) (state : σ) : σ :=
  match onMessage with
  | none => state
  | some handler => handler chunk state

/-- The client and what `handleRaw` was called with, what it dispatched and what
the listeners were told, oldest first. -/
structure Inbox where
  client : Client
  raws : List (List UInt8) := []
  dispatched : List FrameDispatch := []
  reported : List ListenerEvent := []

namespace Inbox

variable (readFrame : List UInt8 → Option WsFramePayload)

/-- The handler that `initializeWebSocket` sets; `readFrame` is what the JSON
library reads. -/
def onMessage (raw : List UInt8) (inbox : Inbox) : Inbox :=
  let (reports, client) := inbox.client.handleRaw (readFrame raw)
  { client := client
    raws := inbox.raws ++ [raw]
    dispatched := inbox.dispatched ++ [dispatchFrame (readFrame raw)]
    reported := inbox.reported ++ reports }

/-- The callbacks of the library, one after another. -/
def receive (inbox : Inbox) (chunks : List (List UInt8)) : Inbox :=
  EventRun.exec (fun inbox chunk =>
    WebSocketClient.onReceive (some (onMessage readFrame)) chunk inbox) inbox chunks

theorem raws_receive (inbox : Inbox) (chunks : List (List UInt8)) :
    (inbox.receive readFrame chunks).raws = inbox.raws ++ chunks := by
  have appends : ∀ (inbox : Inbox) (chunk : List UInt8),
      (WebSocketClient.onReceive (some (onMessage readFrame)) chunk inbox).raws =
        inbox.raws ++ [id chunk] := fun _ _ => rfl
  rw [receive, EventRun.exec_log Inbox.raws appends, EventRun.outputs_eq_map, List.map_id]

theorem dispatched_receive (inbox : Inbox) (chunks : List (List UInt8)) :
    (inbox.receive readFrame chunks).dispatched =
      inbox.dispatched ++ chunks.map fun chunk => dispatchFrame (readFrame chunk) := by
  have appends : ∀ (inbox : Inbox) (chunk : List UInt8),
      (WebSocketClient.onReceive (some (onMessage readFrame)) chunk inbox).dispatched =
        inbox.dispatched ++ [dispatchFrame (readFrame chunk)] := fun _ _ => rfl
  rw [receive, EventRun.exec_log Inbox.dispatched appends, EventRun.outputs_eq_map]

end Inbox

/-! ## Whole messages -/

/-- `handleRaw` is called once for each message, in order and with the whole of
it, and so each message is dispatched once. -/
structure FramesSurvive (readFrame : List UInt8 → Option WsFramePayload) (client : Client)
    (deliveries : List Delivery) : Prop where
  raws : (Inbox.receive readFrame { client := client } (Delivery.callbacks deliveries)).raws =
    deliveries.map Delivery.message
  dispatched :
    (Inbox.receive readFrame { client := client } (Delivery.callbacks deliveries)).dispatched =
      deliveries.map fun delivery => dispatchFrame (readFrame delivery.message)

/-- The messages survive exactly when the library splits none of them. -/
theorem framesSurvive_iff (readFrame : List UInt8 → Option WsFramePayload) (client : Client)
    (deliveries : List Delivery) :
    FramesSurvive readFrame client deliveries ↔
      ∀ delivery ∈ deliveries, delivery.chunks.length = 1 := by
  rw [← Delivery.callbacks_eq_iff]
  constructor
  · intro survive
    have raws := survive.raws
    rw [Inbox.raws_receive] at raws
    exact raws
  · intro whole
    constructor
    · rw [Inbox.raws_receive]
      exact whole
    · rw [Inbox.dispatched_receive, whole, List.map_map]
      rfl

/-- Messages that fit the receive buffer survive. -/
theorem framesSurvive_of_length_le (readFrame : List UInt8 → Option WsFramePayload)
    (client : Client) {deliveries : List Delivery}
    (fits : ∀ delivery ∈ deliveries, delivery.message.length ≤ rxBufferSize) :
    FramesSurvive readFrame client deliveries := by
  apply (framesSurvive_iff readFrame client deliveries).mpr
  intro delivery member
  exact Delivery.length_chunks_eq_one_iff.mpr (delivery.whole (fits delivery member))

/-- The bytes of a pong frame with a run of blanks before its closing brace. -/
def blankPong (blanks : Nat) : List UInt8 :=
  [123, 34, 116, 121, 112, 101, 34, 58, 34, 112, 111, 110, 103, 34] ++ List.replicate blanks 32 ++
    [125]

theorem length_blankPong (blanks : Nat) : (blankPong blanks).length = blanks + 15 := by
  rw [blankPong, List.length_append, List.length_append, List.length_replicate]
  exact Nat.add_right_comm 14 blanks 1 |>.trans (Nat.add_comm 15 blanks)

/-- A pong frame of 5000 bytes, in a full buffer and the rest. -/
def splitPong : Delivery where
  message := blankPong 4985
  chunks := [(blankPong 4985).take 4096, (blankPong 4985).drop 4096]
  flatten_chunks := by
    simp only [List.flatten_cons, List.flatten_nil, List.append_nil, List.take_append_drop]
  whole fits := by
    rw [length_blankPong] at fits
    exact absurd fits (by decide)

/-- What the JSON library reads in the split pong and its parts. -/
def readSplitPong (raw : List UInt8) : Option WsFramePayload :=
  if raw = splitPong.message then some { type := "pong" } else none

/-- The split pong reaches `handleRaw` as two texts, neither of which is a frame. -/
theorem not_framesSurvive_splitPong :
    ¬FramesSurvive readSplitPong (.start default {} 0) [splitPong] := by
  intro survive
  have raws := congrArg List.length survive.raws
  rw [Inbox.raws_receive, List.nil_append, List.length_map] at raws
  have twoCallbacks : (Delivery.callbacks [splitPong]).length = 2 := rfl
  exact absurd (twoCallbacks.symm.trans raws) (by decide)

end AnychatSdk
