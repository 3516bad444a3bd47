import AnychatSdk.Client
import AnychatSdk.Network.EventLoop

/-!
# The send queue of the socket

`send` puts a frame at the back of a queue that outlives every connection, and
each writable event writes the frame at its front on the connection that is
writable.  A message goes out once on each connection, and never after its
acknowledgement, as long as `send` is not called for it while a frame of it is
queued or has gone out on a connection that is still up.
-/

namespace AnychatSdk

/-- The `local_id` of a `message.send` frame. -/
def Frame.sentId (frame : Frame) : Option String :=
  match frame.payload with
  | .sendMessage payload => some payload.localId
  | _ => none

/-- A frame that is written on a connection, or an acknowledgement that has been
processed. -/
inductive SocketLogEntry where
  | written (handle : Nat) (frame : Frame)
  | acked (localId : String)
  deriving DecidableEq

/-- The entry is a frame of the message on the connection. -/
def SocketLogEntry.writes (handle : Nat) (localId : String) : SocketLogEntry → Bool
  | written other frame => other = handle && frame.sentId = some localId
  | acked _ => false

/-- A message is written at most once on each connection, and on none after its
acknowledgement. -/
structure SendsOnce (log : List SocketLogEntry) : Prop where
  once : ∀ handle localId, log.countP (SocketLogEntry.writes handle localId) ≤ 1
  notAfterAck : ∀ before localId after, log = before ++ .acked localId :: after →
    ∀ handle frame, .written handle frame ∈ after → frame.sentId ≠ some localId

/-- The socket with its queue; the log tells what has happened, oldest first. -/
structure SendingSocket where
  loop : EventLoop := {}
  sendQueue : List Frame := []
  log : List SocketLogEntry := []

namespace SendingSocket

/-- `WebSocketClient::send`. -/
def send (frame : Frame) (socket : SendingSocket) : SendingSocket :=
  { socket with sendQueue := socket.sendQueue ++ [frame] }

/-- `LWS_CALLBACK_CLIENT_WRITEABLE`; pings do not go through the queue. -/
def onWriteable (handle : Nat) (socket : SendingSocket) : SendingSocket :=
  match socket.sendQueue with
  | [] => socket
  | frame :: rest =>
      { socket with sendQueue := rest, log := socket.log ++ [.written handle frame] }

/-- An event of the loop; none of them touches the queue. -/
def onLoop (event : LoopEvent) (socket : SendingSocket) : SendingSocket :=
  { socket with loop := socket.loop.step event }

/-- Note an acknowledgement. -/
def noteAck (localId : String) (socket : SendingSocket) : SendingSocket :=
  { socket with log := socket.log ++ [.acked localId] }

/-- The library may deliver events of the connection. -/
def Serves (handle : Nat) (socket : SendingSocket) : Prop :=
  socket.loop.point = .serving ∧ handle ∈ socket.loop.socket.established

instance decidableServes (handle : Nat) (socket : SendingSocket) :
    Decidable (socket.Serves handle) :=
  inferInstanceAs (Decidable (_ ∧ _))

/-- How many frames of the message are queued. -/
def copies (localId : String) (socket : SendingSocket) : Nat :=
  socket.sendQueue.countP fun frame => frame.sentId = some localId

/-- How many frames of the message were written on the connection. -/
def writes (handle : Nat) (localId : String) (socket : SendingSocket) : Nat :=
  socket.log.countP (SocketLogEntry.writes handle localId)

/-- No frame of the message is queued or has gone out on a connection that is
still up. -/
structure Unsent (localId : String) (socket : SendingSocket) : Prop where
  notQueued : socket.copies localId = 0
  notWritten : ∀ handle ∈ socket.loop.socket.established, socket.writes handle localId = 0

instance decidableUnsent (localId : String) (socket : SendingSocket) :
    Decidable (socket.Unsent localId) :=
  decidable_of_iff (socket.copies localId = 0 ∧
      ∀ handle ∈ socket.loop.socket.established, socket.writes handle localId = 0)
    ⟨fun ⟨notQueued, notWritten⟩ => ⟨notQueued, notWritten⟩,
      fun ⟨notQueued, notWritten⟩ => ⟨notQueued, notWritten⟩⟩

/-- A connection that is up has seen or will see at most one frame of a message,
and none is queued once the message has been acknowledged. -/
structure Sound (socket : SendingSocket) : Prop where
  numbered : socket.loop.Numbered
  fresh : ∀ handle, socket.loop.Fresh handle → ∀ localId, socket.writes handle localId = 0
  queued : ∀ localId, socket.copies localId ≤ 1
  onWire : ∀ handle ∈ socket.loop.socket.established, ∀ localId,
    socket.writes handle localId + socket.copies localId ≤ 1
  acked : ∀ localId, .acked localId ∈ socket.log → socket.copies localId = 0
  sendsOnce : SendsOnce socket.log

theorem sound_start : ({} : SendingSocket).Sound where
  numbered := ⟨List.nodup_nil, fun _ member => absurd member List.not_mem_nil⟩
  fresh _ _ _ := rfl
  queued _ := Nat.zero_le 1
  onWire _ member := absurd member List.not_mem_nil
  acked _ member := absurd member List.not_mem_nil
  sendsOnce :=
    ⟨fun _ _ => Nat.zero_le 1, fun before _ _ split => by
      cases before <;> exact absurd split.symm (List.cons_ne_nil _ _)⟩

/-! ## Counting -/

section Counting

variable (socket : SendingSocket) (frame : Frame) (handle other : Nat) (localId acked : String)

theorem copies_send :
    (socket.send frame).copies localId =
      socket.copies localId + if frame.sentId = some localId then 1 else 0 := by
  simp [copies, send, List.countP_singleton]

@[simp]
theorem writes_send : (socket.send frame).writes handle localId = socket.writes handle localId :=
  rfl

@[simp]
theorem writes_noteAck :
    (socket.noteAck acked).writes handle localId = socket.writes handle localId := by
  simp [writes, noteAck, SocketLogEntry.writes]

variable {socket frame}

theorem copies_of_cons {rest : List Frame} (front : socket.sendQueue = frame :: rest) :
    socket.copies localId =
      (socket.onWriteable handle).copies localId +
        if frame.sentId = some localId then 1 else 0 := by
  simp [copies, onWriteable, front, List.countP_cons]

theorem writes_of_cons {rest : List Frame} (front : socket.sendQueue = frame :: rest) :
    (socket.onWriteable handle).writes other localId =
      socket.writes other localId +
        if handle = other ∧ frame.sentId = some localId then 1 else 0 := by
  simp [writes, onWriteable, front, List.countP_singleton, SocketLogEntry.writes]

end Counting

/-! ## Logs -/

theorem notAfterAck_concat {log : List SocketLogEntry} {entry : SocketLogEntry}
    (earlier : ∀ before localId after, log = before ++ .acked localId :: after →
      ∀ handle frame, .written handle frame ∈ after → frame.sentId ≠ some localId)
    (last : ∀ handle frame, entry = .written handle frame →
      ∀ localId, .acked localId ∈ log → frame.sentId ≠ some localId)
    {before : List SocketLogEntry} {localId : String} {after : List SocketLogEntry}
    (split : log ++ [entry] = before ++ .acked localId :: after) {handle : Nat} {frame : Frame}
    (written : .written handle frame ∈ after) : frame.sentId ≠ some localId := by
  rcases List.eq_nil_or_concat after with rfl | ⟨rest, final, rfl⟩
  · exact absurd written List.not_mem_nil
  · rw [List.concat_eq_append, ← List.cons_append, ← List.append_assoc] at split
    rcases List.append_inj' split rfl with ⟨log_eq, final_eq⟩
    obtain rfl := List.singleton_inj.mp final_eq
    rw [List.concat_eq_append] at written
    rcases List.mem_append.mp written with old | new
    · exact earlier before localId rest log_eq handle frame old
    · refine last handle frame (List.mem_singleton.mp new).symm localId ?_
      rw [log_eq]
      exact List.mem_append_right before List.mem_cons_self

/-! ## Steps -/

section Steps

variable {socket : SendingSocket}

/-- A message may be queued when no frame of it is about and it has not been
acknowledged. -/
theorem Sound.send (sound : socket.Sound) {frame : Frame}
    (ready : ∀ localId, frame.sentId = some localId →
      socket.Unsent localId ∧ .acked localId ∉ socket.log) : (socket.send frame).Sound where
  numbered := sound.numbered
  fresh := sound.fresh
  queued localId := by
    rw [copies_send]
    split
    · next carries => rw [(ready localId carries).1.notQueued]
    · exact sound.queued localId
  onWire handle member localId := by
    rw [copies_send, writes_send]
    split
    · next carries =>
        rw [(ready localId carries).1.notQueued, (ready localId carries).1.notWritten handle member]
    · exact sound.onWire handle member localId
  acked localId acked := by
    rw [copies_send]
    split
    · next carries => exact absurd acked (ready localId carries).2
    · exact sound.acked localId acked
  sendsOnce := sound.sendsOnce

theorem onWriteable_of_empty (handle : Nat) (empty : socket.sendQueue = []) :
    socket.onWriteable handle = socket := by
  rw [SendingSocket.onWriteable, empty]

/-- The frame at the front was still allowed on the connection. -/
theorem Sound.onWriteable (sound : socket.Sound) {handle : Nat} (serves : socket.Serves handle) :
    (socket.onWriteable handle).Sound := by
  cases front : socket.sendQueue with
  | nil =>
      rw [onWriteable_of_empty handle front]
      exact sound
  | cons frame rest =>
      have copies := fun localId => copies_of_cons handle localId front
      have writes := fun other localId => writes_of_cons handle other localId front
      have sameLoop : (socket.onWriteable handle).loop = socket.loop := by
        rw [SendingSocket.onWriteable, front]
      have log_eq : (socket.onWriteable handle).log = socket.log ++ [.written handle frame] := by
        rw [SendingSocket.onWriteable, front]
      constructor
      · rw [sameLoop]
        exact sound.numbered
      · intro other fresh localId
        rw [sameLoop] at fresh
        have notServed : handle ≠ other := by
          rintro rfl
          exact sound.numbered.not_fresh serves.2 fresh
        rw [writes, sound.fresh other fresh localId, if_neg fun both => notServed both.1]
      · intro localId
        have queued := sound.queued localId
        have before := copies localId
        omega
      · intro other member localId
        rw [sameLoop] at member
        have onWire := sound.onWire other member localId
        have before := copies localId
        rw [writes]
        split
        · next both =>
            rw [if_pos both.2] at before
            omega
        · omega
      · intro localId acked
        rw [log_eq] at acked
        have before := copies localId
        rcases List.mem_append.mp acked with earlier | last
        · have none := sound.acked localId earlier
          omega
        · exact absurd (List.mem_singleton.mp last) SocketLogEntry.noConfusion
      · constructor
        · intro other localId
          change (socket.onWriteable handle).writes other localId ≤ 1
          rw [writes]
          split
          · next both =>
              rcases both with ⟨rfl, carries⟩
              have onWire := sound.onWire handle serves.2 localId
              have before := copies localId
              rw [if_pos carries] at before
              omega
          · exact sound.sendsOnce.once other localId
        · rw [log_eq]
          intro before localId after split other written
          refine notAfterAck_concat sound.sendsOnce.notAfterAck ?_ split
          intro _ last entry ackedId acked carries
          obtain ⟨_, rfl⟩ := SocketLogEntry.written.inj entry
          have none := sound.acked ackedId acked
          have before := copies ackedId
          rw [if_pos carries] at before
          omega

/-- A new connection has seen no frame, and at most one is queued. -/
theorem Sound.onLoop (sound : socket.Sound) (event : LoopEvent) : (socket.onLoop event).Sound where
  numbered := sound.numbered.step event
  fresh handle fresh := sound.fresh handle fresh.of_step
  queued := sound.queued
  onWire handle member localId := by
    rcases EventLoop.established_step member with earlier | fresh
    · exact sound.onWire handle earlier localId
    · change socket.writes handle localId + socket.copies localId ≤ 1
      rw [sound.fresh handle fresh localId, Nat.zero_add]
      exact sound.queued localId
  acked := sound.acked
  sendsOnce := sound.sendsOnce

theorem Sound.noteAck (sound : socket.Sound) {localId : String}
    (notQueued : socket.copies localId = 0) : (socket.noteAck localId).Sound where
  numbered := sound.numbered
  fresh handle fresh other := (writes_noteAck socket handle other localId).trans
    (sound.fresh handle fresh other)
  queued := sound.queued
  onWire handle member other := by
    rw [writes_noteAck]
    exact sound.onWire handle member other
  acked other acked := by
    rcases List.mem_append.mp acked with earlier | last
    · exact sound.acked other earlier
    · obtain rfl := SocketLogEntry.acked.inj (List.mem_singleton.mp last)
      exact notQueued
  sendsOnce := by
    constructor
    · intro handle other
      exact (writes_noteAck socket handle other localId).trans_le
        (sound.sendsOnce.once handle other)
    · intro before other after split handle frame
      refine notAfterAck_concat sound.sendsOnce.notAfterAck ?_ split
      intro _ _ entry
      exact absurd entry SocketLogEntry.noConfusion

/-! ## What stays unsent -/

theorem Unsent.send {localId : String} (unsent : socket.Unsent localId) {frame : Frame}
    (other : frame.sentId ≠ some localId) : (socket.send frame).Unsent localId where
  notQueued := by rw [copies_send, if_neg other, unsent.notQueued]
  notWritten := unsent.notWritten

theorem Unsent.onWriteable {localId : String} (unsent : socket.Unsent localId) (handle : Nat) :
    (socket.onWriteable handle).Unsent localId := by
  cases front : socket.sendQueue with
  | nil =>
      rw [onWriteable_of_empty handle front]
      exact unsent
  | cons frame rest =>
      have before := copies_of_cons handle localId front
      rw [unsent.notQueued] at before
      have other : frame.sentId ≠ some localId := by
        intro carries
        rw [if_pos carries] at before
        omega
      constructor
      · omega
      · intro served member
        have sameLoop : (socket.onWriteable handle).loop = socket.loop := by
          rw [SendingSocket.onWriteable, front]
        rw [sameLoop] at member
        rw [writes_of_cons handle served localId front, if_neg fun both => other both.2]
        exact unsent.notWritten served member

theorem Unsent.onLoop {localId : String} (unsent : socket.Unsent localId) (sound : socket.Sound)
    (event : LoopEvent) : (socket.onLoop event).Unsent localId where
  notQueued := unsent.notQueued
  notWritten handle member := by
    rcases EventLoop.established_step member with earlier | fresh
    · exact unsent.notWritten handle earlier
    · exact sound.fresh handle fresh localId

theorem Unsent.noteAck {localId : String} (unsent : socket.Unsent localId) (acked : String) :
    (socket.noteAck acked).Unsent localId where
  notQueued := unsent.notQueued
  notWritten handle member := (writes_noteAck socket handle localId acked).trans
    (unsent.notWritten handle member)

end Steps

end SendingSocket

end AnychatSdk
