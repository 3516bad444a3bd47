import AnychatSdk.ConnectionThreads

/-!
# Functions that no other thread interrupts

A function whose steps are taken one after the other does what the handler of the
same name does at once, and the pool takes these steps when every other thread is
idle.
-/

namespace AnychatSdk

namespace ConnectionThreads

open Op

section Alone

variable {shared : ThreadState}

/-- The handlers of the manager are what the functions do uninterrupted. -/
theorem alone_connect : (alone .caller 6 connectOps shared).manager = shared.manager.connect := by
  cases online : shared.manager.networkOk <;>
    simp only [alone_cons, alone_nil, connectOps, effect, next.eq_def, online, doConnectOps,
      ConnectionManager.connect, ConnectionManager.cancelReconnect, ConnectionManager.doConnect,
      if_true, if_false, Bool.false_eq_true]

theorem alone_disconnect :
    (alone .caller 7 disconnectOps shared).manager = shared.manager.disconnect := by
  simp only [alone_cons, alone_nil, disconnectOps, stopHeartbeatOps, doDisconnectOps,
    List.cons_append, List.nil_append, effect, next.eq_def, reduceCtorEq, and_false, if_false]
  rfl

theorem alone_onNetworkChanged (status : NetworkStatus) :
    (alone .monitor 7 [exchangeNetwork status.isReachable] shared).manager =
      shared.manager.onNetworkChanged status := by
  simp only [alone_cons, effect, next.eq_def, ConnectionManager.onNetworkChanged]
  split
  · rfl
  · split
    · simp only [networkRecoveredOps, doConnectOps, List.cons_append, List.nil_append, alone_cons,
        effect, next.eq_def]
      split <;> rfl
    · simp only [networkLostOps, stopHeartbeatOps, doDisconnectOps, List.cons_append,
        List.nil_append, alone_cons, effect, next.eq_def, ConnectionManager.cancelReconnect]
      by_cases idle : shared.manager.state = .disconnected
      · simp only [idle, ne_eq, not_true_eq_false, if_false, alone_nil]
      · simp only [idle, ne_eq, not_false_eq_true, if_true, alone_cons, alone_nil, effect,
          next.eq_def, reduceCtorEq, and_false, if_false]
        rfl

theorem alone_onWsConnected (shared : ThreadState) :
    (alone .events 7 onWsConnectedOps shared).manager = shared.manager.onWsConnected := by
  simp only [alone_cons, alone_nil, onWsConnectedOps, startHeartbeatOps, stopHeartbeatOps,
    List.cons_append, List.nil_append, effect, next.eq_def, reduceCtorEq, and_false, if_false]
  rfl

theorem alone_onWsDisconnected :
    (alone .events 6 onWsDisconnectedOps shared).manager = shared.manager.onWsDisconnected := by
  simp only [alone_cons, onWsDisconnectedOps, stopHeartbeatOps, List.cons_append, List.nil_append,
    effect, next.eq_def, reduceCtorEq, and_false, if_false, ConnectionManager.onWsDisconnected,
    ConnectionManager.stopHeartbeat]
  by_cases given : ¬shared.manager.wantConnected = true ∨ ¬shared.manager.networkOk = true
  · simp only [if_pos given, alone_cons, alone_nil, effect, next.eq_def]
    exact (if_pos given).symm
  · by_cases spent : ConnectionManager.maxSuperRetries ≤ shared.manager.superRetryCount
    · simp only [if_neg given, if_pos spent, alone_cons, alone_nil, effect, next.eq_def]
      exact ((if_neg given).trans (if_pos spent)).symm
    · simp only [if_neg given, if_neg spent, alone_cons, alone_nil, effect, next.eq_def]
      exact ((if_neg given).trans (if_neg spent)).symm

theorem alone_onWsError :
    (alone .events 2 onWsErrorOps shared).manager = shared.manager.onWsError := by
  by_cases connected : shared.manager.state = .connected <;>
    simp only [alone_cons, alone_nil, onWsErrorOps, effect, next.eq_def,
      ConnectionManager.onWsError, connected, if_true, if_false]

/-- A turn of the reconnect thread, in a manager that is not being destroyed. -/
theorem alone_reconnect (waiting : shared.manager.reconnectWaiting = true)
    (kept : shared.stopping = false) :
    (alone .timer 4 reconnectOps shared).manager = shared.manager.endReconnectWait := by
  simp only [alone_cons, reconnectOps, doConnectOps, List.cons_append, List.nil_append, effect,
    next.eq_def, ConnectionManager.endReconnectWait, waiting, kept, Bool.false_eq_true, or_false,
    not_true_eq_false, if_false]
  by_cases cancelled : shared.manager.reconnectCancel = true
  · simp only [if_pos cancelled, alone_nil]
  · by_cases pursued : shared.manager.wantConnected = true ∧ shared.manager.networkOk = true
    · simp only [if_neg cancelled, if_pos pursued, alone_cons, alone_nil, effect, next.eq_def,
        ConnectionManager.doConnect]
    · simp only [if_neg cancelled, if_neg pursued, alone_cons, alone_nil, effect, next.eq_def]

end Alone

/-- The thread of a function that neither creates a heartbeat thread nor destroys
the members, while every other thread is idle. -/
structure Alone (worker : Worker) (pool : ConnectionThreads) : Prop where
  going : ¬pool.shared.Over
  notHeartbeat : worker ≠ .heartbeat
  others : ∀ other, other ≠ worker → pool.todo other = []
  program : Program worker (pool.todo worker)
  plain : createHeartbeat ∉ pool.todo worker ∧ destroyMembers ∉ pool.todo worker

section Alone

variable {worker : Worker} {pool : ConnectionThreads}

/-- An idle thread has nothing to wait for. -/
theorem Alone.free (isAlone : Alone worker pool) {op : Op} {rest : List Op}
    (todo : pool.todo worker = op :: rest) : op.blocked worker pool = false := by
  have program : Program worker (op :: rest) := todo ▸ isAlone.program
  have ended : pool.todo .heartbeat = [] := isAlone.others _ isAlone.notHeartbeat.symm
  cases op with
  | closeSocket =>
      have other : Worker.events ≠ worker := by
        rintro rfl
        simp [Program, List.suffix_cons_iff, onWsConnectedOps, startHeartbeatOps,
          stopHeartbeatOps, onWsDisconnectedOps, onWsErrorOps] at program
      simp [blocked, isAlone.others _ other]
  | joinHeartbeat => simp [blocked, ended]
  | joinTimer =>
      have other : Worker.timer ≠ worker := by
        rintro rfl
        simp [Program, List.suffix_cons_iff, reconnectOps, doConnectOps] at program
      simp [blocked, isAlone.others _ other]
  | _ => rfl

theorem Alone.going_effect (isAlone : Alone worker pool) {op : Op} {rest : List Op}
    (todo : pool.todo worker = op :: rest) : ¬(op.effect worker pool.shared).Over := by
  have plain := isAlone.plain
  rw [todo] at plain
  cases op with
  | createHeartbeat => exact absurd List.mem_cons_self plain.1
  | destroyMembers => exact absurd List.mem_cons_self plain.2
  | joinHeartbeat =>
      dsimp only [Op.effect]
      rw [if_neg fun own => isAlone.notHeartbeat own.2]
      exact isAlone.going
  | checkPong =>
      dsimp only [Op.effect]
      split <;> exact isAlone.going
  | _ => exact isAlone.going

theorem Alone.step (isAlone : Alone worker pool) {op : Op} {rest : List Op}
    (todo : pool.todo worker = op :: rest) :
    Alone worker (pool.step (.run worker)) ∧
      (pool.step (.run worker)).todo worker = op.next pool.shared rest ∧
        (pool.step (.run worker)).shared = op.effect worker pool.shared := by
  have plain := isAlone.plain
  rw [todo] at plain
  have program : Program worker (op :: rest) := todo ▸ isAlone.program
  have create : op ≠ createHeartbeat := fun same => plain.1 (same ▸ List.mem_cons_self)
  have alone := spawn_of_ne create pool.shared
  rw [step_run isAlone.going todo (isAlone.free todo)]
  have own : (pool.commit worker
      { shared := op.effect worker pool.shared
        rest := op.next pool.shared rest
        spawn := op.spawn pool.shared }).todo worker = op.next pool.shared rest :=
    ThreadPool.todo_commit_self _ _ alone
  refine ⟨⟨?_, isAlone.notHeartbeat, fun other apart => ?_, ?_, ?_⟩, own, ?_⟩
  · rw [ThreadPool.shared_commit]
    exact isAlone.going_effect todo
  · rw [ThreadPool.todo_commit_of_ne _ _ alone apart]
    exact isAlone.others other apart
  · rw [own]
    exact program.next (fun same => absurd same isAlone.notHeartbeat) pool.shared
  · rw [own]
    rcases next_eq_or_branches op pool.shared rest with same | branches
    · rw [same]
      exact ⟨fun member => plain.1 (List.mem_cons_of_mem op member),
        fun member => plain.2 (List.mem_cons_of_mem op member)⟩
    · exact not_mem_of_branches branches
  · rw [ThreadPool.shared_commit]

/-- The next steps of such a thread are those of its function alone. -/
theorem Alone.exec_run (isAlone : Alone worker pool) (steps : Nat) :
    (EventRun.exec ConnectionThreads.step pool (List.replicate steps (.run worker))).shared =
      alone worker steps (pool.todo worker) pool.shared := by
  induction steps generalizing pool with
  | zero => rfl
  | succ steps inductionHypothesis =>
      rw [List.replicate_succ, EventRun.exec_cons]
      cases todo : pool.todo worker with
      | nil =>
          have stays : pool.step (.run worker) = pool := by
            unfold ConnectionThreads.step
            rw [if_neg isAlone.going]
            simp only [ThreadPool.step, todo]
          rw [stays, inductionHypothesis isAlone, todo]
          cases steps <;> rfl
      | cons op rest =>
          rcases isAlone.step todo with ⟨stillAlone, own, shared⟩
          rw [inductionHypothesis stillAlone, own, shared]
          rfl

end Alone

end ConnectionThreads

end AnychatSdk
