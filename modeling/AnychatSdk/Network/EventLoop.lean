import AnychatSdk.Lib.EventRun
import AnychatSdk.Network.WebSocketClient

/-!
# The event loop, step by step

A turn of the loop ends with a test: without a connection the loop sleeps and
then calls `doConnect`, however the last attempt stands.  The library delivers
events only inside the service call, so none arrives during the sleep.
-/

namespace AnychatSdk

/-- Where the thread of the loop is: it does not exist, it is in the service
call, or it sleeps before its next attempt. -/
inductive LoopPoint where
  | stopped
  | serving
  | sleeping
  deriving DecidableEq

structure EventLoop where
  socket : WebSocketClient := {}
  point : LoopPoint := .stopped
  deriving DecidableEq

/-- What moves the loop.  `disconnect` stands for the flag that the call clears
before it waits for the thread; `turn` is the end of a service call. -/
inductive LoopEvent where
  | connect
  | disconnect
  | established (handle : Nat)
  | connectionError (handle : Nat)
  | closed (handle : Nat)
  | turn
  | wake
  deriving DecidableEq

namespace EventLoop

/-- Back at the head of the loop.  When it is to stop, the context is destroyed,
and every handle with it. -/
def next (loop : EventLoop) : EventLoop :=
  if loop.socket.running then { loop with point := .serving }
  else { socket := loop.socket.disconnect, point := .stopped }

def step (loop : EventLoop) : LoopEvent → EventLoop
  | .connect =>
      if loop.point = .stopped then
        { socket := { loop.socket with running := true }.doConnect, point := .serving }
      else loop
  | .disconnect => { loop with socket := { loop.socket with running := false } }
  | .established handle =>
      if loop.point = .serving ∧ handle ∈ loop.socket.attempting then
        { loop with socket := loop.socket.onEstablished handle }
      else loop
  | .connectionError handle =>
      if loop.point = .serving ∧ handle ∈ loop.socket.attempting then
        { loop with socket := loop.socket.onConnectionError handle }
      else loop
  | .closed handle =>
      if loop.point = .serving ∧ handle ∈ loop.socket.established then
        { loop with socket := loop.socket.onClosed handle }
      else loop
  | .turn =>
      if loop.point ≠ .serving then loop
      else if !loop.socket.connected && loop.socket.running &&
          loop.socket.reconnectCount < WebSocketClient.maxReconnect then
        { loop with point := .sleeping }
      else loop.next
  | .wake =>
      if loop.point = .sleeping then
        { loop with
          socket := { loop.socket with
            reconnectCount := loop.socket.reconnectCount + 1 }.doConnect }.next
      else loop

/-- The event makes the loop call `doConnect`. -/
def Dials (loop : EventLoop) : LoopEvent → Prop
  | .connect => loop.point = .stopped
  | .wake => loop.point = .sleeping
  | _ => False

/-- The handles that have not ended. -/
def live (loop : EventLoop) : List Nat :=
  loop.socket.attempting ++ loop.socket.established

/-- At most one handle is live, the flag says whether it is established, and the
pointer denotes it. -/
structure OneHandle (loop : EventLoop) : Prop where
  atMostOne : loop.live.length ≤ 1
  connected : loop.socket.connected = true ↔ loop.socket.established ≠ []
  wsi : ∀ handle ∈ loop.live, loop.socket.wsi = some handle

/-- `doConnect` is called only when every earlier handle has ended. -/
def DialsAlone (loop : EventLoop) (event : LoopEvent) : Prop :=
  loop.Dials event → loop.live = []

/-- No attempt is under way when a back-off sleep ends. -/
def RetriesAfterEnd (loop : EventLoop) (event : LoopEvent) : Prop :=
  event = .wake → loop.point = .sleeping → loop.socket.attempting = []

/-! ## The loop and the socket -/

/-- A turn that is not interrupted does what `backOff` says. -/
theorem exec_turn_wake {loop : EventLoop} (serving : loop.point = .serving)
    (running : loop.socket.running = true) :
    EventRun.exec step loop [.turn, .wake] =
      { socket := loop.socket.backOff, point := .serving } := by
  rcases loop with ⟨socket, point⟩
  obtain rfl := serving
  simp only [EventRun.exec_cons, EventRun.exec_nil, step, ne_eq, not_true_eq_false, if_false,
    WebSocketClient.backOff, next]
  split
  · simp only [if_true, WebSocketClient.doConnect]
    exact if_pos running
  · exact if_neg LoopPoint.noConfusion

/-- `disconnect` waits for the turn in which the loop sees the flag. -/
theorem exec_disconnect_turn {loop : EventLoop} (serving : loop.point = .serving) :
    EventRun.exec step loop [.disconnect, .turn] =
      { socket := loop.socket.disconnect, point := .stopped } := by
  simp [step, serving, next, WebSocketClient.disconnect]

/-! ## One step -/

/-- A stopped loop has no handle, and a sleeping one no connection. -/
structure Sound (loop : EventLoop) : Prop where
  stopped : loop.point = .stopped → loop.live = []
  sleeping : loop.point = .sleeping → loop.socket.connected = false

section OneStep

variable {loop : EventLoop}

theorem sound_next (loop : EventLoop) : loop.next.Sound := by
  rw [next]
  split
  · exact ⟨LoopPoint.noConfusion, LoopPoint.noConfusion⟩
  · exact ⟨fun _ => rfl, LoopPoint.noConfusion⟩

/-- Steps inside the service call keep the point. -/
theorem Sound.of_serving {socket : WebSocketClient} (serving : loop.point = .serving) :
    ({ loop with socket := socket } : EventLoop).Sound where
  stopped stopped := nomatch serving.symm.trans stopped
  sleeping sleeping := nomatch serving.symm.trans sleeping

theorem Sound.step (sound : loop.Sound) (event : LoopEvent) : (loop.step event).Sound := by
  cases event with
  | connect =>
      rw [EventLoop.step]
      split
      · exact ⟨LoopPoint.noConfusion, LoopPoint.noConfusion⟩
      · exact sound
  | disconnect => exact ⟨sound.stopped, sound.sleeping⟩
  | established handle | connectionError handle | closed handle =>
      rw [EventLoop.step]
      split
      · next given => exact .of_serving given.1
      · exact sound
  | turn =>
      rw [EventLoop.step]
      split
      · exact sound
      · split
        · next due =>
            have disconnected : loop.socket.connected = false := by simp_all
            exact ⟨LoopPoint.noConfusion, fun _ => disconnected⟩
        · exact sound_next loop
  | wake =>
      rw [EventLoop.step]
      split
      · exact sound_next _
      · exact sound

/-- A first handle. -/
theorem oneHandle_doConnect {socket : WebSocketClient} {point : LoopPoint}
    (attempting : socket.attempting = []) (established : socket.established = [])
    (disconnected : socket.connected = false) :
    (⟨socket.doConnect, point⟩ : EventLoop).OneHandle := by
  have live : (⟨socket.doConnect, point⟩ : EventLoop).live = [socket.created] := by
    simp [EventLoop.live, WebSocketClient.doConnect, attempting, established]
  constructor
  · rw [live]
    exact Nat.le_refl 1
  · simp [WebSocketClient.doConnect, established, disconnected]
  · intro handle member
    rw [live] at member
    rw [List.mem_singleton.mp member]
    rfl

theorem OneHandle.next (one : loop.OneHandle) : loop.next.OneHandle := by
  rw [EventLoop.next]
  split
  · exact ⟨one.atMostOne, one.connected, one.wsi⟩
  · exact ⟨Nat.zero_le 1, by simp [WebSocketClient.disconnect], fun _ member => nomatch member⟩

/-- Of two lists with one entry in all, the one that has it is all there is. -/
theorem eq_singleton_of_length_le_one {handle : Nat} {handles others : List Nat}
    (few : handles.length + others.length ≤ 1) (member : handle ∈ handles) :
    handles = [handle] ∧ others = [] := by
  have positive := List.length_pos_of_mem member
  have length : handles.length = 1 := by omega
  obtain ⟨only, single⟩ := List.length_eq_one_iff.mp length
  rw [single] at member
  obtain rfl := List.mem_singleton.mp member
  exact ⟨single, List.length_eq_zero_iff.mp (by omega)⟩

/-- With one handle, an attempt under way is the only handle. -/
theorem OneHandle.of_attempting (one : loop.OneHandle) {handle : Nat}
    (member : handle ∈ loop.socket.attempting) :
    loop.socket.attempting = [handle] ∧ loop.socket.established = [] := by
  have few := one.atMostOne
  rw [live, List.length_append] at few
  exact eq_singleton_of_length_le_one few member

theorem OneHandle.of_established (one : loop.OneHandle) {handle : Nat}
    (member : handle ∈ loop.socket.established) :
    loop.socket.established = [handle] ∧ loop.socket.attempting = [] := by
  have few := one.atMostOne
  rw [live, List.length_append, Nat.add_comm] at few
  exact eq_singleton_of_length_le_one few member

/-- No handle is left and the flag is down. -/
theorem oneHandle_of_none {socket : WebSocketClient} (attempting : socket.attempting = [])
    (established : socket.established = []) (disconnected : socket.connected = false) :
    ({ loop with socket := socket } : EventLoop).OneHandle := by
  have live : ({ loop with socket := socket } : EventLoop).live = [] := by
    simp [EventLoop.live, attempting, established]
  constructor
  · rw [live]
    exact Nat.zero_le 1
  · simp [established, disconnected]
  · intro handle member
    rw [live] at member
    exact nomatch member

/-- The attempt succeeds: its handle is still the only one. -/
theorem OneHandle.onEstablished (one : loop.OneHandle) {handle : Nat}
    (member : handle ∈ loop.socket.attempting) :
    ({ loop with socket := loop.socket.onEstablished handle } : EventLoop).OneHandle := by
  have ⟨attempting, established⟩ := one.of_attempting member
  have wsi := one.wsi handle (List.mem_append_left _ member)
  constructor
  · simp [live, WebSocketClient.onEstablished, attempting, established]
  · simp [WebSocketClient.onEstablished]
  · intro other listed
    simp only [live, WebSocketClient.onEstablished, attempting, established,
      List.erase_cons_head, List.nil_append, List.mem_singleton] at listed
    rw [listed]
    exact wsi

theorem OneHandle.step (one : loop.OneHandle) (sound : loop.Sound) {event : LoopEvent}
    (alone : loop.RetriesAfterEnd event) : (loop.step event).OneHandle := by
  cases event with
  | connect =>
      rw [EventLoop.step]
      split
      · next stopped =>
          have ended := List.append_eq_nil_iff.mp (sound.stopped stopped)
          have disconnected : loop.socket.connected = false := by
            rw [← Bool.not_eq_true, one.connected]
            exact not_not_intro ended.2
          exact oneHandle_doConnect ended.1 ended.2 disconnected
      · exact one
  | disconnect => exact ⟨one.atMostOne, one.connected, one.wsi⟩
  | established handle =>
      rw [EventLoop.step]
      split
      · next given => exact one.onEstablished given.2
      · exact one
  | connectionError handle =>
      rw [EventLoop.step]
      split
      · next given =>
          have ⟨attempting, established⟩ := one.of_attempting given.2
          refine oneHandle_of_none ?_ established rfl
          simp [WebSocketClient.onConnectionError, attempting]
      · exact one
  | closed handle =>
      rw [EventLoop.step]
      split
      · next given =>
          have ⟨established, attempting⟩ := one.of_established given.2
          refine oneHandle_of_none attempting ?_ rfl
          simp [WebSocketClient.onClosed, established]
      · exact one
  | turn =>
      rw [EventLoop.step]
      split
      · exact one
      · split
        · exact ⟨one.atMostOne, one.connected, one.wsi⟩
        · exact one.next
  | wake =>
      rw [EventLoop.step]
      split
      · next sleeping =>
          have disconnected := sound.sleeping sleeping
          have established : loop.socket.established = [] := by
            by_contra some
            exact Bool.noConfusion (disconnected.symm.trans (one.connected.mpr some))
          have dialled : ({ loop with
              socket := { loop.socket with
                reconnectCount := loop.socket.reconnectCount + 1 }.doConnect } :
              EventLoop).OneHandle :=
            oneHandle_doConnect (alone rfl sleeping) established disconnected
          exact dialled.next
      · exact one

/-- A call of `doConnect` finds no live handle exactly when no attempt is under
way at the end of a sleep. -/
theorem dialsAlone_iff (one : loop.OneHandle) (sound : loop.Sound) (event : LoopEvent) :
    loop.DialsAlone event ↔ loop.RetriesAfterEnd event := by
  cases event with
  | connect => exact iff_of_true sound.stopped fun wakes => nomatch wakes
  | wake =>
      constructor
      · exact fun alone _ sleeping => (List.append_eq_nil_iff.mp (alone sleeping)).1
      · intro alone sleeping
        have disconnected := sound.sleeping sleeping
        refine List.append_eq_nil_iff.mpr ⟨alone rfl sleeping, ?_⟩
        by_contra some
        exact Bool.noConfusion (disconnected.symm.trans (one.connected.mpr some))
  | _ => exact iff_of_true (fun dials => dials.elim) fun wakes => nomatch wakes

end OneStep

/-! ## Handle numbers -/

/-- No connection has been established on the handle yet. -/
def Fresh (loop : EventLoop) (handle : Nat) : Prop :=
  handle ∈ loop.socket.attempting ∨ loop.socket.created ≤ handle

/-- The live handles have distinct numbers, given out before. -/
structure Numbered (loop : EventLoop) : Prop where
  nodup : loop.live.Nodup
  used : ∀ handle ∈ loop.live, handle < loop.socket.created

/-- What an event can do to the handles: some end, a new one comes and some end,
or an attempt succeeds. -/
inductive HandleChange (before after : WebSocketClient) : Prop where
  | ended (created : after.created = before.created)
      (attempting : after.attempting.Sublist before.attempting)
      (established : after.established.Sublist before.established)
  | dialled (created : after.created = before.created + 1)
      (attempting : after.attempting.Sublist (before.created :: before.attempting))
      (established : after.established.Sublist before.established)
  | established (handle : Nat) (member : handle ∈ before.attempting)
      (change : after = before.onEstablished handle)

section Numbers

variable {loop : EventLoop}

theorem HandleChange.refl (socket : WebSocketClient) : HandleChange socket socket :=
  .ended rfl (List.Sublist.refl _) (List.Sublist.refl _)

theorem handleChange_step (event : LoopEvent) :
    HandleChange loop.socket (loop.step event).socket := by
  cases event with
  | connect =>
      rw [step]
      split
      · exact .dialled rfl (List.Sublist.refl _) (List.Sublist.refl _)
      · exact .refl _
  | disconnect => exact .ended rfl (List.Sublist.refl _) (List.Sublist.refl _)
  | established handle =>
      rw [step]
      split
      · next given => exact .established handle given.2 rfl
      · exact .refl _
  | connectionError handle =>
      rw [step]
      split
      · exact .ended rfl List.erase_sublist (List.Sublist.refl _)
      · exact .refl _
  | closed handle =>
      rw [step]
      split
      · exact .ended rfl (List.Sublist.refl _) List.erase_sublist
      · exact .refl _
  | turn =>
      rw [step]
      split
      · exact .refl _
      · split
        · exact .refl _
        · rw [next]
          split
          · exact .refl _
          · exact .ended rfl (List.nil_sublist _) (List.nil_sublist _)
  | wake =>
      rw [step]
      split
      · rw [next]
        split
        · exact .dialled rfl (List.Sublist.refl _) (List.Sublist.refl _)
        · exact .dialled rfl (List.nil_sublist _) (List.nil_sublist _)
      · exact .refl _

/-- A handle is fresh from the start until its connection is established. -/
theorem Fresh.of_step {event : LoopEvent} {handle : Nat}
    (fresh : (loop.step event).Fresh handle) : loop.Fresh handle := by
  rw [Fresh] at fresh ⊢
  cases loop.handleChange_step event with
  | ended created attempting _ =>
      rw [created] at fresh
      exact fresh.imp_left fun member => attempting.mem member
  | dialled created attempting _ =>
      rw [created] at fresh
      rcases fresh with member | unused
      · rcases List.mem_cons.mp (attempting.mem member) with rfl | earlier
        · exact .inr (Nat.le_refl _)
        · exact .inl earlier
      · exact .inr (Nat.le_of_succ_le unused)
  | established other _ change =>
      rw [change] at fresh
      exact fresh.imp_left List.mem_of_mem_erase

theorem established_step {event : LoopEvent} {handle : Nat}
    (member : handle ∈ (loop.step event).socket.established) :
    handle ∈ loop.socket.established ∨ loop.Fresh handle := by
  cases loop.handleChange_step event with
  | ended _ _ established => exact .inl (established.mem member)
  | dialled _ _ established => exact .inl (established.mem member)
  | established other attempting change =>
      rw [change] at member
      rcases List.mem_cons.mp member with rfl | earlier
      · exact .inr (.inl attempting)
      · exact .inl earlier

theorem Numbered.not_fresh (numbered : loop.Numbered) {handle : Nat}
    (member : handle ∈ loop.socket.established) : ¬loop.Fresh handle := by
  rintro (attempting | unused)
  · exact (List.nodup_append.mp numbered.nodup).2.2 handle attempting handle member rfl
  · exact Nat.not_le_of_lt (numbered.used handle (List.mem_append_right _ member)) unused

theorem Numbered.step (numbered : loop.Numbered) (event : LoopEvent) :
    (loop.step event).Numbered := by
  cases loop.handleChange_step event with
  | ended created attempting established =>
      have fewer := attempting.append established
      refine ⟨numbered.nodup.sublist fewer, fun handle member => ?_⟩
      rw [created]
      exact numbered.used handle (fewer.mem member)
  | dialled created attempting established =>
      have fewer := attempting.append established
      have unused : loop.socket.created ∉ loop.live :=
        fun member => Nat.lt_irrefl _ (numbered.used _ member)
      refine ⟨(List.nodup_cons.mpr ⟨unused, numbered.nodup⟩).sublist fewer,
        fun handle member => ?_⟩
      rw [created]
      rcases List.mem_cons.mp (fewer.mem member) with rfl | earlier
      · exact Nat.lt_succ_self _
      · exact Nat.lt_succ_of_lt (numbered.used handle earlier)
  | established handle member change =>
      have moved : (loop.step event).live.Perm loop.live := by
        rw [live, change]
        refine List.perm_middle.trans ?_
        exact (List.perm_cons_erase member).symm.append_right loop.socket.established
      refine ⟨moved.nodup_iff.mpr numbered.nodup, fun other live => ?_⟩
      rw [change]
      exact numbered.used other (moved.mem_iff.mp live)

end Numbers

/-! ## Runs -/

/-- In every run there is at most one live handle, and `doConnect` is called only
without one, exactly when no back-off sleep ends while an attempt is under way. -/
theorem oneHandle_always_iff (events : List LoopEvent) :
    (EventRun.Always step OneHandle {} events ∧ EventRun.Guarded step DialsAlone {} events) ↔
      EventRun.Guarded step RetriesAfterEnd {} events := by
  have initially : ({} : EventLoop).OneHandle ∧ ({} : EventLoop).Sound :=
    ⟨⟨Nat.zero_le 1, by decide, fun _ member => nomatch member⟩,
      ⟨fun _ => rfl, LoopPoint.noConfusion⟩⟩
  have preserved : ∀ (loop : EventLoop) (event : LoopEvent), loop.OneHandle ∧ loop.Sound →
      loop.RetriesAfterEnd event → (loop.step event).OneHandle ∧ (loop.step event).Sound :=
    fun _ event invariant alone =>
      ⟨invariant.1.step invariant.2 alone, invariant.2.step event⟩
  have agree : ∀ (loop : EventLoop) (event : LoopEvent), loop.OneHandle ∧ loop.Sound →
      (loop.DialsAlone event ↔ loop.RetriesAfterEnd event) :=
    fun _ event invariant => dialsAlone_iff invariant.1 invariant.2 event
  have guards := EventRun.guarded_iff_guarded agree preserved initially events
  constructor
  · exact fun holds => guards.mp holds.2
  · intro alone
    have always := EventRun.always_of_guarded preserved initially alone
    exact ⟨always.mono fun _ invariant => invariant.1, guards.mpr alone⟩

/-- The first attempt takes longer than one service call. -/
theorem not_oneHandle_always_slow_attempt :
    ¬(EventRun.Always step OneHandle {} [.connect, .turn, .wake] ∧
      EventRun.Guarded step DialsAlone {} [.connect, .turn, .wake]) := by
  rintro ⟨_, alone⟩
  have retries := alone.2.2.1 (show Dials _ LoopEvent.wake from rfl)
  exact absurd retries (by decide)

end EventLoop

end AnychatSdk
