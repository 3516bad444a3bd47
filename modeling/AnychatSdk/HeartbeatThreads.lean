import AnychatSdk.ConnectionThreads

/-!
# Starting and stopping the heartbeat

`stopHeartbeat` joins the heartbeat thread and is called from every thread, the
heartbeat thread itself included.  Only the callback for an established
connection creates the thread, and it may do so while the destructor runs.
-/

namespace AnychatSdk

namespace ConnectionThreads

open Op

/-- No thread has joined itself, no joinable thread object has been assigned, and
none is left when the members go. -/
structure HeartbeatSound (pool : ConnectionThreads) : Prop where
  noSelfJoin : pool.shared.selfJoined = false
  noAssignOver : pool.shared.assignedOver = false
  notLeft : pool.shared.destroyed = true → pool.shared.manager.heartbeat = false

/-- A heartbeat thread that has found the pong overdue goes on, and in the end the
socket is torn down and the state says so. -/
def TimeoutEnds (pool : ConnectionThreads) (event : ThreadEvent) : Prop :=
  ¬pool.shared.Over → pool.shared.timedOut = true → event = .run .heartbeat →
    pool.todo .heartbeat ≠ [] →
      (pool.step event).shared.manager.terminated = false ∧
        ((pool.step event).todo .heartbeat = [] →
          (pool.step event).shared.manager.ws.running = false ∧
            ((pool.step event).shared.manager.state = .reconnecting ∨
              (pool.step event).shared.manager.state = .disconnected))

/-- The destructor is past its `stopHeartbeat`. -/
def Destroying (pool : ConnectionThreads) : Prop :=
  destroyMembers ∈ pool.todo .caller ∧ joinHeartbeat ∉ pool.todo .caller

instance decidableDestroying (pool : ConnectionThreads) : Decidable pool.Destroying :=
  inferInstanceAs (Decidable (_ ∧ _))

/-- No heartbeat check finds the pong of a live connection overdue, and no
callback for an established connection begins or goes on to create a heartbeat
thread once the destructor is past its `stopHeartbeat`. -/
def HeartbeatSafe (pool : ConnectionThreads) : ThreadEvent → Prop
  | .onWsConnected => ¬pool.Destroying
  | .run worker =>
      ((pool.todo worker).head? = some checkPong →
          ¬(pool.shared.manager.state = .connected ∧ pool.shared.pongOverdue = true)) ∧
        ((pool.todo worker).head? = some joinHeartbeat → worker = .caller →
          destroyMembers ∈ pool.todo worker → createHeartbeat ∉ pool.todo .events)
  | _ => True

instance decidableHeartbeatSafe (pool : ConnectionThreads) :
    ∀ event, Decidable (pool.HeartbeatSafe event)
  | .onWsConnected => inferInstanceAs (Decidable (¬_))
  | .run _ => inferInstanceAs (Decidable (_ ∧ _))
  | .connect | .disconnect | .destroy | .networkChanged _ | .onWsDisconnected | .onWsError
  | .takeReconnect | .pong | .silence => isTrue trivial

/-! ## The invariant -/

/-- Between the join of `startHeartbeat` and its assignment there is no heartbeat
thread, and none is made once the destructor has joined it. -/
structure Calm (pool : ConnectionThreads) : Prop where
  formed : pool.WellFormed
  looping : pool.todo .heartbeat <:+ heartbeatOps
  creating : createHeartbeat ∈ pool.todo .events → joinHeartbeat ∉ pool.todo .events →
    pool.shared.manager.heartbeat = false
  destroying : pool.Destroying →
    pool.shared.manager.heartbeat = false ∧ createHeartbeat ∉ pool.todo .events

/-- What every safe step keeps. -/
structure HeartbeatInvariant (pool : ConnectionThreads) : Prop where
  sound : pool.HeartbeatSound
  running : pool.shared.manager.terminated = false
  inTime : pool.shared.timedOut = false
  calm : pool.shared.destroyed = false → pool.Calm

theorem not_over_iff {pool : ConnectionThreads} (running : pool.shared.manager.terminated = false) :
    ¬pool.shared.Over ↔ pool.shared.destroyed = false := by
  simp [ThreadState.Over, running]

theorem mem_of_mem_next {op made : Op} {rest : List Op} {shared : ThreadState}
    (special : made = createHeartbeat ∨ made = destroyMembers)
    (member : made ∈ op.next shared rest) : made ∈ rest ∧ op.next shared rest = rest := by
  rcases next_eq_or_branches op shared rest with same | branches
  · exact ⟨same ▸ member, same⟩
  · have absent := not_mem_of_branches branches
    rcases special with rfl | rfl
    · exact absurd member absent.1
    · exact absurd member absent.2

namespace Calm

variable {pool : ConnectionThreads}

theorem of_shared (calm : pool.Calm) {shared : ThreadState}
    (same : shared.manager.heartbeat = pool.shared.manager.heartbeat) :
    Calm { pool with shared := shared } where
  formed := ⟨calm.formed.program, fun some => same.trans (calm.formed.joinable some)⟩
  looping := calm.looping
  creating member joined := same.trans (calm.creating member joined)
  destroying destroying := (calm.destroying destroying).imp same.trans id

theorem assign (calm : pool.Calm) {worker : Worker} {ops : List Op}
    (program : Program worker ops) (other : worker ≠ .heartbeat)
    (creates : createHeartbeat ∈ ops → joinHeartbeat ∈ ops ∧ worker = .events ∧ ¬pool.Destroying)
    (destroys : destroyMembers ∈ ops → joinHeartbeat ∈ ops) :
    Calm (pool.assign worker ops) where
  formed := calm.formed.assign program other
  looping := by
    rw [ThreadPool.todo_assign_of_ne _ _ _ other.symm]
    exact calm.looping
  creating member joined := by
    by_cases same : Worker.events = worker
    · rw [same, ThreadPool.todo_assign_self] at member joined
      exact absurd (creates member).1 joined
    · rw [ThreadPool.todo_assign_of_ne _ _ _ same] at member joined
      exact calm.creating member joined
  destroying destroying := by
    have before : pool.Destroying := by
      rw [Destroying] at destroying
      by_cases same : Worker.caller = worker
      · rw [same, ThreadPool.todo_assign_self] at destroying
        exact absurd (destroys destroying.1) destroying.2
      · rwa [ThreadPool.todo_assign_of_ne _ _ _ same] at destroying
    refine ⟨(calm.destroying before).1, ?_⟩
    by_cases same : Worker.events = worker
    · rw [same, ThreadPool.todo_assign_self]
      exact fun member => (creates member).2.2 before
    · rw [ThreadPool.todo_assign_of_ne _ _ _ same]
      exact (calm.destroying before).2

theorem call (calm : pool.Calm) {worker : Worker} {ops : List Op}
    (program : Program worker ops) (other : worker ≠ .heartbeat)
    (creates : createHeartbeat ∈ ops → joinHeartbeat ∈ ops ∧ worker = .events ∧ ¬pool.Destroying)
    (destroys : destroyMembers ∈ ops → joinHeartbeat ∈ ops) : (pool.call worker ops).Calm := by
  rw [ConnectionThreads.call]
  split
  · exact calm.assign program other creates destroys
  · exact calm

end Calm

/-! ## Steps of a thread -/

/-- The marks of a failure, and the end of the process. -/
theorem marks_effect (worker : Worker) {op : Op} {shared : ThreadState}
    (join : op ≠ joinHeartbeat) (create : op ≠ createHeartbeat)
    (inTime : op = checkPong →
      ¬(shared.manager.state = .connected ∧ shared.pongOverdue = true)) :
    (op.effect worker shared).selfJoined = shared.selfJoined ∧
      (op.effect worker shared).assignedOver = shared.assignedOver ∧
        (op.effect worker shared).timedOut = shared.timedOut ∧
          (op.effect worker shared).manager.terminated = shared.manager.terminated := by
  cases op with
  | joinHeartbeat => exact absurd rfl join
  | createHeartbeat => exact absurd rfl create
  | checkPong =>
      dsimp only [Op.effect]
      rw [if_neg (inTime rfl)]
      exact ⟨rfl, rfl, rfl, rfl⟩
  | _ => exact ⟨rfl, rfl, rfl, rfl⟩

theorem destroyed_effect {worker : Worker} {op : Op} (other : op ≠ destroyMembers)
    (shared : ThreadState) : (op.effect worker shared).destroyed = shared.destroyed := by
  cases op with
  | destroyMembers => exact absurd rfl other
  | joinHeartbeat | createHeartbeat | checkPong =>
      dsimp only [Op.effect]
      split <;> rfl
  | _ => rfl

/-- One thread has moved on, and no heartbeat thread has been created. -/
theorem Calm.move {pool next : ConnectionThreads} (calm : pool.Calm) (formed : next.WellFormed)
    {worker : Worker} {ops : List Op} (own : next.todo worker = ops)
    (others : ∀ third, third ≠ worker → next.todo third = pool.todo third)
    (heartbeat : next.shared.manager.heartbeat = false ∨
      next.shared.manager.heartbeat = pool.shared.manager.heartbeat)
    (looping : worker = .heartbeat → ops <:+ heartbeatOps)
    (creating : worker = .events → createHeartbeat ∈ ops → createHeartbeat ∈ pool.todo .events ∧
      (joinHeartbeat ∉ ops → next.shared.manager.heartbeat = false))
    (destroying : worker = .caller → destroyMembers ∈ ops → joinHeartbeat ∉ ops →
      pool.Destroying ∨
        next.shared.manager.heartbeat = false ∧ createHeartbeat ∉ pool.todo .events) :
    next.Calm where
  formed := formed
  looping := by
    by_cases same : Worker.heartbeat = worker
    · rw [same, own]
      exact looping same.symm
    · rw [others _ same]
      exact calm.looping
  creating member joined := by
    by_cases same : Worker.events = worker
    · rw [same, own] at member joined
      exact (creating same.symm member).2 joined
    · rw [others _ same] at member joined
      exact heartbeat.elim id fun kept => kept.trans (calm.creating member joined)
  destroying past := by
    have before : next.shared.manager.heartbeat = false ∧
        createHeartbeat ∉ pool.todo .events := by
      have earlier (past : pool.Destroying) : next.shared.manager.heartbeat = false ∧
          createHeartbeat ∉ pool.todo .events :=
        ⟨heartbeat.elim id fun kept => kept.trans (calm.destroying past).1,
          (calm.destroying past).2⟩
      rw [Destroying] at past
      by_cases same : Worker.caller = worker
      · rw [same, own] at past
        exact (destroying same.symm past.1 past.2).elim earlier id
      · rw [others _ same] at past
        exact earlier past
    refine ⟨before.1, fun member => before.2 ?_⟩
    by_cases same : Worker.events = worker
    · rw [same, own] at member
      exact (creating same.symm member).1
    · rwa [others _ same] at member

/-- A thread has moved on with a step that touches no heartbeat thread. -/
theorem Calm.advance {pool next : ConnectionThreads} (calm : pool.Calm) (formed : next.WellFormed)
    {worker : Worker} {op : Op} {rest : List Op} (todo : pool.todo worker = op :: rest)
    (own : next.todo worker = op.next pool.shared rest)
    (others : ∀ third, third ≠ worker → next.todo third = pool.todo third)
    (isJoin : op ≠ joinHeartbeat) (isCreate : op ≠ createHeartbeat)
    (heartbeat : next.shared.manager.heartbeat = pool.shared.manager.heartbeat)
    (inTime : op = checkPong →
      ¬(pool.shared.manager.state = .connected ∧ pool.shared.pongOverdue = true)) :
    next.Calm := by
  refine calm.move formed own others (.inr heartbeat) ?_ ?_ ?_
  · rintro rfl
    have turn := calm.looping
    rw [todo] at turn
    have looped : rest <:+ heartbeatOps := (List.suffix_cons op rest).trans turn
    rcases next_eq_or_branches op pool.shared rest with same | branches
    · rw [same]
      exact looped
    · have point : op = waitHeartbeat ∨ op = checkPong := by
        simpa [heartbeatOps] using turn.subset List.mem_cons_self
      rcases point with rfl | rfl
      · rw [branches]
        exact List.nil_suffix
      · dsimp only [Op.next]
        rewrite [if_neg (inTime rfl)]
        exact List.suffix_rfl
  · rintro rfl member
    rcases mem_of_mem_next (.inl rfl) member with ⟨earlier, same⟩
    rw [same, heartbeat, todo]
    refine ⟨List.mem_cons_of_mem op earlier, fun joined => calm.creating ?_ ?_⟩
    · rw [todo]
      exact List.mem_cons_of_mem op earlier
    · rw [todo]
      exact List.not_mem_cons_of_ne_of_not_mem isJoin.symm joined
  · rintro rfl member joined
    rcases mem_of_mem_next (.inr rfl) member with ⟨earlier, same⟩
    rw [same] at joined
    left
    rw [Destroying, todo]
    exact ⟨List.mem_cons_of_mem op earlier,
      List.not_mem_cons_of_ne_of_not_mem isJoin.symm joined⟩

namespace HeartbeatInvariant

variable {pool next : ConnectionThreads} {worker : Worker} {rest : List Op}
  (invariant : pool.HeartbeatInvariant) (alive : pool.shared.destroyed = false)
  (sound : next.Sound)

include invariant alive sound

/-- A join finds the thread ended: the heartbeat thread itself makes none. -/
theorem join (todo : pool.todo worker = joinHeartbeat :: rest)
    (committed : next =
      pool.commit worker
        { shared := joinHeartbeat.effect worker pool.shared
          rest := rest
          spawn := none })
    (safe : worker = .caller → destroyMembers ∈ rest →
      createHeartbeat ∉ pool.todo .events) : next.HeartbeatInvariant := by
  have calm := invariant.calm alive
  have other : worker ≠ .heartbeat := by
    rintro rfl
    have member := calm.looping.subset (todo ▸ List.mem_cons_self)
    exact absurd member (by decide)
  have shared : next.shared =
      { pool.shared with manager := pool.shared.manager.stopHeartbeat } := by
    rw [committed, ThreadPool.shared_commit]
    exact if_neg fun own => other own.2
  have own : next.todo worker = rest := by
    rw [committed]
    exact ThreadPool.todo_commit_self _ _ rfl
  have others (third : Worker) (apart : third ≠ worker) : next.todo third = pool.todo third := by
    rw [committed]
    exact ThreadPool.todo_commit_of_ne _ _ rfl apart
  have gone : next.shared.manager.heartbeat = false := by rw [shared]; rfl
  have running : next.shared.manager.terminated = false := by
    rw [shared]
    exact invariant.running
  have stillAlive : next.shared.destroyed = false := by
    rw [shared]
    exact alive
  have formed := sound.resolve_left ((not_over_iff running).mpr stillAlive)
  refine ⟨⟨?_, ?_, fun _ => gone⟩, running, ?_, fun _ => ?_⟩
  · rw [shared]
    exact invariant.sound.noSelfJoin
  · rw [shared]
    exact invariant.sound.noAssignOver
  · rw [shared]
    exact invariant.inTime
  · refine calm.move formed own others (.inl gone) (fun same => absurd same other) ?_ ?_
    · rintro rfl member
      rw [todo]
      exact ⟨List.mem_cons_of_mem _ member, fun _ => gone⟩
    · exact fun same member _ => .inr ⟨gone, safe same member⟩

/-- `startHeartbeat` has joined the last thread, and the destructor is not past
its own join. -/
theorem create (todo : pool.todo worker = createHeartbeat :: rest)
    (committed : next =
      pool.commit worker
        { shared := createHeartbeat.effect worker pool.shared
          rest := rest
          spawn := createHeartbeat.spawn pool.shared }) : next.HeartbeatInvariant := by
  have calm := invariant.calm alive
  have program : Program worker (createHeartbeat :: rest) := todo ▸ calm.formed.program worker
  obtain rfl := program.eq_owner rfl
  obtain rfl := program.eq_of_createHeartbeat
  have absent : pool.shared.manager.heartbeat = false := by
    refine calm.creating ?_ ?_ <;> rw [todo] <;> decide
  have spawn : createHeartbeat.spawn pool.shared = some (.heartbeat, heartbeatOps) := by
    simp [Op.spawn, absent]
  have shared : next.shared =
      { pool.shared with
        manager := { pool.shared.manager with heartbeat := true }
        pongOverdue := false
        timedOut := false } := by
    rw [committed, ThreadPool.shared_commit]
    exact if_neg (Bool.eq_false_iff.mp absent)
  have running : next.shared.manager.terminated = false := by
    rw [shared]
    exact invariant.running
  have stillAlive : next.shared.destroyed = false := by
    rw [shared]
    exact alive
  have events : next.todo .events = [callReady] := by
    rw [committed, ThreadPool.todo_commit_of_ne_spawned _ _ spawn Worker.noConfusion]
    rfl
  have caller : next.todo .caller = pool.todo .caller := by
    rw [committed]
    exact todo_commit_other Worker.noConfusion Worker.noConfusion
  refine ⟨⟨?_, ?_, fun destroyed => ?_⟩, running, ?_, fun _ => ⟨?_, ?_, ?_, ?_⟩⟩
  · rw [shared]
    exact invariant.sound.noSelfJoin
  · rw [shared]
    exact invariant.sound.noAssignOver
  · exact Bool.noConfusion (stillAlive.symm.trans destroyed)
  · rw [shared]
  · exact sound.resolve_left ((not_over_iff running).mpr stillAlive)
  · rewrite [committed, ThreadPool.todo_commit_spawned _ _ spawn]
    exact List.suffix_rfl
  · rw [events]
    exact fun member => absurd member (by decide)
  · rw [Destroying, caller]
    intro past
    have noCreate := (calm.destroying past).2
    rw [todo] at noCreate
    exact absurd List.mem_cons_self noCreate

/-- Any other step. -/
theorem other {op : Op} (todo : pool.todo worker = op :: rest) (isJoin : op ≠ joinHeartbeat)
    (isCreate : op ≠ createHeartbeat)
    (committed : next =
      pool.commit worker
        { shared := op.effect worker pool.shared
          rest := op.next pool.shared rest
          spawn := op.spawn pool.shared })
    (inTime : op = checkPong →
      ¬(pool.shared.manager.state = .connected ∧ pool.shared.pongOverdue = true)) :
    next.HeartbeatInvariant := by
  have calm := invariant.calm alive
  have program : Program worker (op :: rest) := todo ▸ calm.formed.program worker
  have alone := spawn_of_ne isCreate pool.shared
  have shared : next.shared = op.effect worker pool.shared := by
    rw [committed, ThreadPool.shared_commit]
  have own : next.todo worker = op.next pool.shared rest := by
    rw [committed]
    exact ThreadPool.todo_commit_self _ _ alone
  have others (third : Worker) (apart : third ≠ worker) : next.todo third = pool.todo third := by
    rw [committed]
    exact ThreadPool.todo_commit_of_ne _ _ alone apart
  have heartbeat : next.shared.manager.heartbeat = pool.shared.manager.heartbeat := by
    rw [shared]
    exact heartbeat_effect isJoin isCreate pool.shared
  rcases marks_effect worker isJoin isCreate inTime with
    ⟨selfJoined, assignedOver, timedOut, terminated⟩
  rw [← shared] at selfJoined assignedOver timedOut terminated
  have running : next.shared.manager.terminated = false := terminated.trans invariant.running
  refine ⟨⟨selfJoined.trans invariant.sound.noSelfJoin,
    assignedOver.trans invariant.sound.noAssignOver, fun destroyed => ?_⟩, running,
    timedOut.trans invariant.inTime, fun stillAlive => ?_⟩
  · by_cases members : op = destroyMembers
    · subst members
      obtain rfl := program.eq_owner rfl
      obtain rfl := program.eq_nil_of_destroyMembers
      have past : pool.Destroying := by
        rw [Destroying, todo]
        decide
      exact heartbeat.trans (calm.destroying past).1
    · rw [shared, destroyed_effect members, alive] at destroyed
      exact nomatch destroyed
  · have formed := sound.resolve_left ((not_over_iff running).mpr stillAlive)
    exact calm.advance formed todo own others isJoin isCreate heartbeat inTime

end HeartbeatInvariant

namespace HeartbeatInvariant

variable {pool : ConnectionThreads} (invariant : pool.HeartbeatInvariant)

include invariant

theorem run (alive : pool.shared.destroyed = false) {worker : Worker}
    (safe : pool.HeartbeatSafe (.run worker)) :
    HeartbeatInvariant (ThreadPool.step semantics worker pool) := by
  have sound := Sound.run (invariant.calm alive).formed worker
  rcases ThreadPool.step_eq_or_commit semantics worker pool with idle | moves
  · rw [idle]
    exact invariant
  · rcases moves with ⟨op, rest, effect, todo, result, step⟩
    rcases semantics_eq_some_iff.mp result with ⟨_, rfl⟩
    rw [HeartbeatSafe, todo] at safe
    rcases safe with ⟨checks, joins⟩
    by_cases isJoin : op = joinHeartbeat
    · subst isJoin
      exact invariant.join alive sound todo step fun caller member =>
        joins rfl caller (List.mem_cons_of_mem _ member)
    · by_cases isCreate : op = createHeartbeat
      · subst isCreate
        exact invariant.create alive sound todo step
      · refine invariant.other alive sound todo isJoin isCreate step ?_
        rintro rfl
        exact checks rfl

/-- A step that leaves the marks and the thread object. -/
theorem remain {next : ConnectionThreads}
    (selfJoined : next.shared.selfJoined = pool.shared.selfJoined)
    (assignedOver : next.shared.assignedOver = pool.shared.assignedOver)
    (destroyed : next.shared.destroyed = pool.shared.destroyed)
    (timedOut : next.shared.timedOut = pool.shared.timedOut)
    (terminated : next.shared.manager.terminated = pool.shared.manager.terminated)
    (heartbeat : next.shared.manager.heartbeat = pool.shared.manager.heartbeat)
    (calm : next.Calm) : next.HeartbeatInvariant where
  sound := by
    refine ⟨selfJoined.trans invariant.sound.noSelfJoin,
      assignedOver.trans invariant.sound.noAssignOver, ?_⟩
    rw [destroyed, heartbeat]
    exact invariant.sound.notLeft
  running := terminated.trans invariant.running
  inTime := timedOut.trans invariant.inTime
  calm _ := calm

/-- A thread begins a function. -/
theorem call (alive : pool.shared.destroyed = false) {worker : Worker} {ops : List Op}
    (program : Program worker ops) (other : worker ≠ .heartbeat)
    (creates : createHeartbeat ∈ ops →
      joinHeartbeat ∈ ops ∧ worker = .events ∧ ¬pool.Destroying)
    (destroys : destroyMembers ∈ ops → joinHeartbeat ∈ ops) :
    (pool.call worker ops).HeartbeatInvariant := by
  have after := (invariant.calm alive).call program other creates destroys
  rw [ConnectionThreads.call] at after ⊢
  split at after
  · next idle =>
      rw [if_pos idle]
      exact invariant.remain rfl rfl rfl rfl rfl rfl after
  · next busy =>
      rw [if_neg busy]
      exact invariant

/-- The socket calls back. -/
theorem callBack (alive : pool.shared.destroyed = false) {ops : List Op}
    (program : Program .events ops)
    (creates : createHeartbeat ∈ ops → joinHeartbeat ∈ ops ∧ ¬pool.Destroying)
    (destroys : destroyMembers ∈ ops → joinHeartbeat ∈ ops) :
    (pool.callBack ops).HeartbeatInvariant := by
  rw [ConnectionThreads.callBack]
  split
  · refine invariant.call alive program Worker.noConfusion (fun member => ?_) destroys
    exact ⟨(creates member).1, rfl, (creates member).2⟩
  · exact invariant

theorem step {event : ThreadEvent} (safe : pool.HeartbeatSafe event) :
    (pool.step event).HeartbeatInvariant := by
  unfold ConnectionThreads.step
  split
  · exact invariant
  · next going =>
      have alive := (not_over_iff invariant.running).mp going
      have calm := invariant.calm alive
      cases event with
      | connect =>
          exact invariant.call alive (.inl List.suffix_rfl) Worker.noConfusion
            (fun member => absurd member (by decide)) fun member => absurd member (by decide)
      | disconnect =>
          exact invariant.call alive (.inr (.inr (.inr (.inl List.suffix_rfl)))) Worker.noConfusion
            (fun member => absurd member (by decide)) fun member => absurd member (by decide)
      | destroy =>
          exact invariant.call alive (.inr (.inr (.inr (.inr List.suffix_rfl)))) Worker.noConfusion
            (fun member => absurd member (by decide)) fun _ => by decide
      | networkChanged status =>
          exact invariant.call alive (.inl ⟨_, List.suffix_rfl⟩) Worker.noConfusion
            (fun member => absurd member (by simp)) fun member => absurd member (by simp)
      | onWsConnected =>
          exact invariant.callBack alive (.inl List.suffix_rfl) (fun _ => ⟨by decide, safe⟩)
            fun member => absurd member (by decide)
      | onWsDisconnected =>
          exact invariant.callBack alive (.inr (.inl List.suffix_rfl))
            (fun member => absurd member (by decide)) fun member => absurd member (by decide)
      | onWsError =>
          exact invariant.callBack alive (.inr (.inr (.inl List.suffix_rfl)))
            (fun member => absurd member (by decide)) fun member => absurd member (by decide)
      | takeReconnect =>
          dsimp only [ConnectionThreads.takeReconnect]
          split
          · have taken : Calm { pool with
                shared := { pool.shared with
                  manager := { pool.shared.manager with
                    reconnectWaiting := true, reconnectCancel := false } } } :=
              calm.of_shared rfl
            refine invariant.remain rfl rfl rfl rfl rfl rfl
              (taken.assign List.suffix_rfl Worker.noConfusion ?_ ?_)
            · exact fun member => absurd member (by decide)
            · exact fun member => absurd member (by decide)
          · exact invariant
      | pong | silence => exact invariant.remain rfl rfl rfl rfl rfl rfl (calm.of_shared rfl)
      | run worker => exact invariant.run alive safe

/-- Without an overdue pong there is no timeout to end. -/
theorem timeoutEnds (event : ThreadEvent) : pool.TimeoutEnds event :=
  fun _ timedOut => Bool.noConfusion (invariant.inTime.symm.trans timedOut)

end HeartbeatInvariant

/-! ## Runs -/

theorem heartbeatInvariant_start (networkOk : Bool) : (start networkOk).HeartbeatInvariant where
  sound := ⟨rfl, rfl, fun destroyed => nomatch destroyed⟩
  running := rfl
  inTime := rfl
  calm _ :=
    { formed := (sound_start networkOk).resolve_left (by simp [ThreadState.Over, start])
      looping := List.nil_suffix
      creating := fun member => nomatch member
      destroying := fun past => nomatch past.1 }

/-- In a run of safe steps the heartbeat thread is started and stopped soundly
throughout, and every timeout ends as it should. -/
theorem heartbeatSound_of_guarded (networkOk : Bool) (events : List ThreadEvent)
    (safe : EventRun.Guarded step HeartbeatSafe (start networkOk) events) :
    EventRun.Always step HeartbeatSound (start networkOk) events ∧
      EventRun.Guarded step TimeoutEnds (start networkOk) events := by
  have kept : ∀ (pool : ConnectionThreads) (event : ThreadEvent), pool.HeartbeatInvariant →
      pool.HeartbeatSafe event → (pool.step event).HeartbeatInvariant :=
    fun _ _ invariant safe => invariant.step safe
  have initially := heartbeatInvariant_start networkOk
  constructor
  · exact (EventRun.always_of_guarded kept initially safe).mono fun _ invariant => invariant.sound
  · exact EventRun.guarded_of_guarded kept (fun _ event invariant _ => invariant.timeoutEnds event)
      initially safe

/-- The steps of a `connect` to its end. -/
def connecting : List ThreadEvent :=
  .connect :: List.replicate 6 (.run .caller)

/-- The steps of the callback for an established connection. -/
def establishing : List ThreadEvent :=
  .onWsConnected :: List.replicate 7 (.run .events)

/-- A connection, one turn of the heartbeat, and the destructor. -/
def connectAndDestroy : List ThreadEvent :=
  connecting ++ establishing ++ [.run .heartbeat, .run .heartbeat, .destroy, .run .caller,
    .run .heartbeat] ++ List.replicate 6 (.run .caller)

theorem heartbeatSound_connectAndDestroy :
    EventRun.Always step HeartbeatSound (start true) connectAndDestroy ∧
      EventRun.Guarded step TimeoutEnds (start true) connectAndDestroy :=
  heartbeatSound_of_guarded true connectAndDestroy (by decide)

/-- The server falls silent. -/
def silentServer : List ThreadEvent :=
  connecting ++ establishing ++
    [.silence, .run .heartbeat, .run .heartbeat, .run .heartbeat, .run .heartbeat]

/-- The heartbeat thread joins itself. -/
theorem not_heartbeatSound_silentServer :
    ¬(EventRun.Always step HeartbeatSound (start true) silentServer ∧
      EventRun.Guarded step TimeoutEnds (start true) silentServer) := by
  rintro ⟨always, _⟩
  exact absurd always.last.noSelfJoin (by decide)

end ConnectionThreads

end AnychatSdk
