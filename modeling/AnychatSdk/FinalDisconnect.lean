import AnychatSdk.ConnectionThreads

/-!
# The end of a connection is final

Every thread asks whether a connection is wanted before it makes one, but the
question and the call are separate steps.  A `disconnect` between the two ends
the wish too late.
-/

namespace AnychatSdk

namespace ConnectionThreads

open Op

/-- `disconnect` has come to its call of the socket, which can return. -/
structure Closing (pool : ConnectionThreads) : Prop where
  going : ¬pool.shared.Over
  caller : pool.todo .caller = [closeSocket, setState .disconnected, stopMonitor]
  noCallback : pool.todo .events = []

/-- The event is a call of the socket's `connect`. -/
def Opens (pool : ConnectionThreads) (event : ThreadEvent) : Prop :=
  ¬pool.shared.Over ∧
    ∃ worker rest, event = .run worker ∧ pool.todo worker = openSocket :: rest

/-- Once the caller has returned, the state is `disconnected` and the socket is
not opened. -/
def FinalAlong : Bool → ConnectionThreads → List ThreadEvent → Prop
  | returned, pool, [] => returned = true → pool.shared.manager.state = .disconnected
  | returned, pool, event :: later =>
      (returned = true → pool.shared.manager.state = .disconnected ∧ ¬pool.Opens event) ∧
        FinalAlong (returned || ((pool.step event).todo .caller).isEmpty) (pool.step event) later

/-- The thread has passed its test of the intent and has not opened the socket
yet. -/
def PastTest (ops : List Op) : Prop :=
  openSocket ∈ ops ∧ testIntent ∉ ops ∧ testRecovered ∉ ops

instance decidablePastTest (ops : List Op) : Decidable (PastTest ops) :=
  inferInstanceAs (Decidable (_ ∧ _ ∧ _))

/-! ## Without the wish -/

/-- Without the wish for a connection, the steps open no socket and set no state
but `disconnected`. -/
def Harmless : List Op → Prop
  | [] => True
  | setWant wanted :: rest => wanted = false ∧ Harmless rest
  | setState state :: rest => state = .disconnected ∧ Harmless rest
  | openSocket :: _ | testReachable :: _ | countRetry :: _ => False
  | exchangeNetwork _ :: _ | testRecovered :: _ | testIntent :: _ | testPursued :: _
  | checkPong :: _ => True
  | _ :: rest => Harmless rest

/-- No connection is wanted and the thread of the socket has ended. -/
def Ended (shared : ThreadState) : Prop :=
  shared.manager.wantConnected = false ∧ shared.manager.ws.running = false

/-- The threads stay harmless, and the socket calls nothing back. -/
def Inert (worker : Worker) (ops : List Op) : Prop :=
  Harmless ops ∧ (worker = .events → ops = [])

variable {worker : Worker} {op : Op} {rest : List Op} {shared : ThreadState}

theorem Harmless.next (harmless : Harmless (op :: rest)) (ended : Ended shared) :
    Harmless (op.next shared rest) := by
  cases op with
  | testReachable | openSocket | countRetry => exact harmless.elim
  | setWant wanted | setState state => exact harmless.2
  | exchangeNetwork reachable =>
      dsimp only [Op.next]
      split
      · trivial
      · split
        · trivial
        · exact ⟨rfl, trivial⟩
  | testRecovered =>
      dsimp only [Op.next]
      rw [if_neg fun wanted => Bool.noConfusion (wanted.1.symm.trans ended.1)]
      trivial
  | testIntent =>
      dsimp only [Op.next]
      rw [if_neg fun wanted => Bool.noConfusion (wanted.1.symm.trans ended.1)]
      trivial
  | testPursued =>
      dsimp only [Op.next]
      rw [if_pos (.inl (Bool.eq_false_iff.mp ended.1))]
      exact ⟨rfl, trivial⟩
  | checkPong =>
      dsimp only [Op.next]
      split <;> trivial
  | testLost | testConnected | expireWait | waitHeartbeat =>
      dsimp only [Op.next]
      split
      all_goals first | exact harmless | trivial
  | _ => exact harmless

theorem Ended.effect (ended : Ended shared) (harmless : Harmless (op :: rest)) :
    Ended (op.effect worker shared) := by
  cases op with
  | setWant wanted => exact ⟨harmless.1, ended.2⟩
  | openSocket => exact harmless.elim
  | closeSocket => exact ⟨ended.1, rfl⟩
  | joinHeartbeat | createHeartbeat | checkPong =>
      dsimp only [Op.effect]
      split <;> exact ended
  | _ => exact ended

/-- A harmless step sets the state to `disconnected` or leaves it. -/
theorem state_effect_of_harmless (harmless : Harmless (op :: rest)) :
    (op.effect worker shared).manager.state =
      if op = setState .disconnected then .disconnected else shared.manager.state := by
  cases op with
  | setState state =>
      obtain rfl := harmless.1
      exact (if_pos rfl).symm
  | joinHeartbeat | createHeartbeat | checkPong =>
      dsimp only [Op.effect]
      split <;> rfl
  | _ => rfl

/-- What holds once the call of the socket has returned, and `returned` says that
`disconnect` has. -/
structure AfterClose (returned : Bool) (pool : ConnectionThreads) : Prop where
  inert : pool.Satisfies Ended Inert
  state : pool.shared.manager.state = .disconnected ∨
    returned = false ∧ pool.todo .caller = [setState .disconnected, stopMonitor]

namespace AfterClose

variable {pool : ConnectionThreads} {returned : Bool}

/-- The caller returns with the state `disconnected`. -/
theorem observe (after : AfterClose returned pool) :
    AfterClose (returned || (pool.todo .caller).isEmpty) pool where
  inert := after.inert
  state := by
    refine after.state.imp_right fun closing => ?_
    rw [closing.1, closing.2]
    exact ⟨rfl, rfl⟩

theorem state_of_returned (after : AfterClose true pool) :
    pool.shared.manager.state = .disconnected :=
  after.state.resolve_right fun closing => nomatch closing.1

theorem not_opens (after : AfterClose returned pool) (event : ThreadEvent) :
    ¬pool.Opens event := by
  rintro ⟨_, worker, rest, _, todo⟩
  have inert := after.inert.todo worker
  rw [todo] at inert
  exact inert.1

theorem assign (after : AfterClose returned pool) {worker : Worker} {ops : List Op}
    (harmless : Harmless ops) (other : worker ≠ .events)
    (idle : worker = .caller → pool.todo .caller = []) :
    AfterClose returned (pool.assign worker ops) where
  inert := after.inert.assign ⟨harmless, fun same => absurd same other⟩
  state := by
    refine after.state.imp_right fun closing => ?_
    have apart : Worker.caller ≠ worker := fun same =>
      nomatch (idle same.symm).symm.trans closing.2
    rw [ThreadPool.todo_assign_of_ne _ _ _ apart]
    exact closing

theorem call (after : AfterClose returned pool) {worker : Worker} {ops : List Op}
    (harmless : Harmless ops) (other : worker ≠ .events) :
    AfterClose returned (pool.call worker ops) := by
  rw [ConnectionThreads.call]
  split
  · next idle => exact after.assign harmless other fun same => same ▸ idle
  · exact after

theorem callBack (after : AfterClose returned pool) (ops : List Op) :
    AfterClose returned (pool.callBack ops) := by
  rw [ConnectionThreads.callBack, if_neg]
  · exact after
  · exact Bool.eq_false_iff.mp after.inert.shared.2

theorem run (after : AfterClose returned pool) (worker : Worker) :
    AfterClose returned (ThreadPool.step semantics worker pool) := by
  constructor
  · refine after.inert.step fun op rest effect todo result => ?_
    rcases semantics_eq_some_iff.mp result with ⟨_, rfl⟩
    have inert := after.inert.todo worker
    rw [todo] at inert
    have notEvents : worker ≠ .events := fun same => List.cons_ne_nil _ _ (inert.2 same)
    refine ⟨after.inert.shared.effect inert.1, ?_, fun other ops spawn => ?_⟩
    · exact ⟨inert.1.next after.inert.shared, fun same => absurd same notEvents⟩
    · simp only [Op.spawn] at spawn
      split at spawn
      · rcases Prod.mk.inj (Option.some.inj spawn) with ⟨rfl, rfl⟩
        exact ⟨trivial, Worker.noConfusion⟩
      · exact absurd spawn.symm (Option.some_ne_none _)
  · rcases ThreadPool.step_eq_or_commit semantics worker pool with idle | moves
    · rw [idle]
      exact after.state
    · rcases moves with ⟨op, rest, effect, todo, result, step⟩
      rcases semantics_eq_some_iff.mp result with ⟨_, rfl⟩
      have harmless := (after.inert.todo worker).1
      rw [todo] at harmless
      rw [step, ThreadPool.shared_commit, state_effect_of_harmless harmless]
      by_cases sets : op = setState .disconnected
      · exact .inl (if_pos sets)
      · rw [if_neg sets]
        refine after.state.imp_right fun closing => ⟨closing.1, ?_⟩
        have apart : Worker.caller ≠ worker := by
          rintro rfl
          exact sets (List.cons_eq_cons.mp (todo.symm.trans closing.2)).1
        rw [todo_commit_other apart Worker.noConfusion]
        exact closing.2

theorem step (after : AfterClose returned pool) {event : ThreadEvent}
    (noConnect : event ≠ .connect) : AfterClose returned (pool.step event) := by
  unfold ConnectionThreads.step
  split
  · exact after
  · cases event with
    | connect => exact absurd rfl noConnect
    | disconnect => exact after.call ⟨rfl, rfl, trivial⟩ Worker.noConfusion
    | destroy => exact after.call trivial Worker.noConfusion
    | networkChanged status => exact after.call trivial Worker.noConfusion
    | onWsConnected => exact after.callBack _
    | onWsDisconnected => exact after.callBack _
    | onWsError => exact after.callBack _
    | takeReconnect =>
        dsimp only [ConnectionThreads.takeReconnect]
        split
        · have taken : AfterClose returned { pool with
              shared := { pool.shared with
                manager := { pool.shared.manager with
                  reconnectWaiting := true, reconnectCancel := false } } } :=
            ⟨after.inert.withShared after.inert.shared, after.state⟩
          exact taken.assign trivial Worker.noConfusion fun same => nomatch same
        · exact after
    | pong | silence => exact ⟨after.inert.withShared after.inert.shared, after.state⟩
    | run worker => exact after.run worker

/-- From there on the connection has ended for good. -/
theorem finalAlong (after : AfterClose returned pool) {later : List ThreadEvent}
    (noConnect : ThreadEvent.connect ∉ later) : FinalAlong returned pool later := by
  induction later generalizing pool returned with
  | nil =>
      rintro rfl
      exact after.state_of_returned
  | cons event later inductionHypothesis =>
      have other := List.ne_of_not_mem_cons noConnect
      have rest := List.not_mem_of_not_mem_cons noConnect
      constructor
      · rintro rfl
        exact ⟨after.state_of_returned, after.not_opens event⟩
      · exact inductionHypothesis (after.step fun same => other same.symm).observe rest

end AfterClose

/-! ## With a thread past its test -/

/-- The next steps of the thread lead to the socket, whatever happens. -/
def Opening : List Op → Prop
  | openSocket :: _ => True
  | resetRetries :: rest | cancelReconnect :: rest | setState _ :: rest => Opening rest
  | _ => False

section Violation

variable {pool : ConnectionThreads} {worker : Worker}

/-- The thread opens the socket in the end. -/
theorem not_finalAlong_of_opening (going : ¬pool.shared.Over) {ops : List Op}
    (todo : pool.todo worker = ops) (opening : Opening ops) :
    ¬FinalAlong true pool (List.replicate ops.length (.run worker)) := by
  induction ops generalizing pool with
  | nil => exact opening.elim
  | cons op rest inductionHypothesis =>
      rintro ⟨here, later⟩
      by_cases opens : op = openSocket
      · subst opens
        exact (here rfl).2 ⟨going, worker, rest, rfl, todo⟩
      · have moves : op.blocked worker pool = false ∧ op.next pool.shared rest = rest ∧
            op.spawn pool.shared = none ∧ ¬(op.effect worker pool.shared).Over ∧ Opening rest := by
          cases op with
          | openSocket => exact absurd rfl opens
          | resetRetries | cancelReconnect | setState state =>
              exact ⟨rfl, rfl, rfl, going, opening⟩
          | _ => exact opening.elim
        rcases moves with ⟨free, next, alone, stillGoing, stillOpening⟩
        rw [step_run going todo free] at later
        refine inductionHypothesis ?_ ?_ stillOpening later
        · rw [ThreadPool.shared_commit]
          exact stillGoing
        · rw [ThreadPool.todo_commit_self _ _ alone]
          exact next

end Violation

/-! ## The wish during a `disconnect` -/

/-- The rest of a `disconnect` that has ended the wish and not yet the socket. -/
def Leaving (ops : List Op) : Prop :=
  closeSocket ∈ ops ∧ setState .disconnected ∈ ops ∧ setWant false ∉ ops

instance decidableLeaving (ops : List Op) : Decidable (Leaving ops) :=
  inferInstanceAs (Decidable (_ ∧ _ ∧ _))

/-- The wish stays ended until `disconnect` is through. -/
def Unwanting (pool : ConnectionThreads) : Prop :=
  pool.shared.Over ∨
    pool.WellFormed ∧
      (Leaving (pool.todo .caller) → pool.shared.manager.wantConnected = false)

theorem wantConnected_effect {worker : Worker} {op : Op}
    (other : ∀ wanted, op ≠ setWant wanted) (shared : ThreadState) :
    (op.effect worker shared).manager.wantConnected = shared.manager.wantConnected := by
  cases op with
  | setWant wanted => exact absurd rfl (other wanted)
  | joinHeartbeat | createHeartbeat | checkPong =>
      dsimp only [Op.effect]
      split <;> rfl
  | _ => rfl

/-- A step of the caller on its way out of `disconnect`. -/
theorem wantConnected_of_leaving {op : Op} {rest : List Op} {shared : ThreadState}
    (program : Program .caller (op :: rest))
    (unwanted : Leaving (op :: rest) → shared.manager.wantConnected = false)
    (leaving : Leaving (op.next shared rest)) :
    (op.effect .caller shared).manager.wantConnected = false := by
  rcases next_eq_or_branches op shared rest with same | branches
  · rw [same] at leaving
    by_cases wish : ∃ wanted, op = setWant wanted
    · rcases wish with ⟨wanted, rfl⟩
      cases wanted with
      | false => rfl
      | true =>
          simp_all [Program, List.suffix_cons_iff, Leaving, doConnectOps, connectOps,
            disconnectOps, destructorOps, stopHeartbeatOps, doDisconnectOps]
    · rw [wantConnected_effect fun wanted same => wish ⟨wanted, same⟩]
      refine unwanted ⟨List.mem_cons_of_mem op leaving.1, List.mem_cons_of_mem op leaving.2.1, ?_⟩
      rw [List.mem_cons, not_or]
      exact ⟨fun same => wish ⟨false, same.symm⟩, leaving.2.2⟩
  · exfalso
    cases op with
    | exchangeNetwork reachable =>
        exact Worker.noConfusion (program.eq_owner rfl)
    | testReachable | testPursued | checkPong =>
        rcases branches with branch | branch <;> rw [branch] at leaving <;>
          simp [Leaving, doConnectOps, heartbeatOps, onWsDisconnectedOps, stopHeartbeatOps]
            at leaving
    | countRetry =>
        rcases branches with branch | ⟨delayMs, branch⟩ <;> rw [branch] at leaving <;>
          simp [Leaving] at leaving
    | _ =>
        dsimp only [Branches] at branches
        rw [branches] at leaving
        exact absurd leaving.1 List.not_mem_nil

section Unwanting

variable {pool : ConnectionThreads}
  (unwanted : Leaving (pool.todo .caller) → pool.shared.manager.wantConnected = false)

include unwanted

theorem unwanted_call {worker : Worker} {ops : List Op}
    (fresh : worker = .caller → ¬Leaving ops)
    (leaving : Leaving ((pool.call worker ops).todo .caller)) :
    (pool.call worker ops).shared.manager.wantConnected = false := by
  rw [call] at leaving ⊢
  split at leaving
  · next idle =>
      rw [if_pos idle]
      by_cases same : Worker.caller = worker
      · rw [same, ThreadPool.todo_assign_self] at leaving
        exact absurd leaving (fresh same.symm)
      · rw [ThreadPool.todo_assign_of_ne _ _ _ same] at leaving
        exact unwanted leaving
  · next busy =>
      rw [if_neg busy]
      exact unwanted leaving

theorem unwanted_callBack {ops : List Op}
    (leaving : Leaving ((pool.callBack ops).todo .caller)) :
    (pool.callBack ops).shared.manager.wantConnected = false := by
  rw [callBack] at leaving ⊢
  split at leaving
  · next running =>
      rw [if_pos running]
      exact unwanted_call unwanted (fun same => Worker.noConfusion same) leaving
  · next stopped =>
      rw [if_neg stopped]
      exact unwanted leaving

theorem unwanted_run (formed : pool.WellFormed) (worker : Worker)
    (leaving : Leaving ((ThreadPool.step semantics worker pool).todo .caller)) :
    (ThreadPool.step semantics worker pool).shared.manager.wantConnected = false := by
  rcases ThreadPool.step_eq_or_commit semantics worker pool with idle | moves
  · rw [idle] at leaving ⊢
    exact unwanted leaving
  · rcases moves with ⟨op, rest, effect, todo, result, step⟩
    rcases semantics_eq_some_iff.mp result with ⟨_, rfl⟩
    have program : Program worker (op :: rest) := todo ▸ formed.program worker
    rw [step] at leaving ⊢
    rw [ThreadPool.shared_commit]
    by_cases own : worker = .caller
    · subst own
      rw [todo] at unwanted
      refine wantConnected_of_leaving program unwanted ?_
      by_cases create : op = createHeartbeat
      · subst create
        exact nomatch program.eq_owner rfl
      · rwa [ThreadPool.todo_commit_self _ _ (spawn_of_ne create pool.shared)] at leaving
    · have other : ∀ wanted, op ≠ setWant wanted := by
        rintro wanted rfl
        exact own (program.eq_owner rfl)
      rw [todo_commit_other (fun same => own same.symm) Worker.noConfusion] at leaving
      rw [wantConnected_effect other]
      exact unwanted leaving

end Unwanting

theorem Unwanting.step {pool : ConnectionThreads} (unwanting : pool.Unwanting)
    (event : ThreadEvent) : (pool.step event).Unwanting := by
  rcases unwanting with isOver | ⟨formed, unwanted⟩
  · left
    unfold ConnectionThreads.step
    rw [if_pos isOver]
    exact isOver
  · refine (Sound.step (.inr formed) event).imp_right fun after => ⟨after, ?_⟩
    unfold ConnectionThreads.step
    split
    · exact unwanted
    · cases event with
      | connect | disconnect | destroy => exact unwanted_call unwanted fun _ => by decide
      | networkChanged status =>
          exact unwanted_call unwanted fun same => Worker.noConfusion same
      | onWsConnected | onWsDisconnected | onWsError => exact unwanted_callBack unwanted
      | takeReconnect =>
          dsimp only [ConnectionThreads.takeReconnect]
          split
          · rw [ThreadPool.todo_assign_of_ne _ _ _ Worker.noConfusion]
            exact unwanted
          · exact unwanted
      | pong | silence => exact unwanted
      | run worker => exact unwanted_run unwanted formed worker

/-! ## Runs -/

/-- The reconnect thread is past its test exactly when it will open the socket;
otherwise it is harmless. -/
theorem timer_cases {ops : List Op} (program : Program .timer ops) :
    PastTest ops ∧ Opening ops ∨ ¬PastTest ops ∧ Harmless ops := by
  have points : ops = reconnectOps ∨ ops = testIntent :: doConnectOps ∨ ops = doConnectOps ∨
      ops = [openSocket] ∨ ops = [] := by
    simpa [Program, reconnectOps, doConnectOps, List.suffix_cons_iff] using program
  rcases points with rfl | rfl | rfl | rfl | rfl
  · exact .inr ⟨by decide, trivial⟩
  · exact .inr ⟨by decide, trivial⟩
  · exact .inl ⟨by decide, trivial⟩
  · exact .inl ⟨by decide, trivial⟩
  · exact .inr ⟨by decide, trivial⟩

/-- So is the callback of the monitor. -/
theorem monitor_cases {ops : List Op} (program : Program .monitor ops) :
    PastTest ops ∧ Opening ops ∨ ¬PastTest ops ∧ Harmless ops := by
  rcases program with changed | recovered | lost
  · rcases changed with ⟨reachable, suffix⟩
    have points : ops = [exchangeNetwork reachable] ∨ ops = [] := by
      simpa [List.suffix_cons_iff] using suffix
    rcases points with rfl | rfl
    · exact .inr ⟨by simp [PastTest], trivial⟩
    · exact .inr ⟨by decide, trivial⟩
  · have points : ops = networkRecoveredOps ∨
        ops = [resetRetries, cancelReconnect] ++ doConnectOps ∨
          ops = cancelReconnect :: doConnectOps ∨ ops = doConnectOps ∨ ops = [openSocket] ∨
            ops = [] := by
      simpa [networkRecoveredOps, doConnectOps, List.suffix_cons_iff] using recovered
    rcases points with rfl | rfl | rfl | rfl | rfl | rfl
    · exact .inr ⟨by decide, trivial⟩
    · exact .inl ⟨by decide, trivial⟩
    · exact .inl ⟨by decide, trivial⟩
    · exact .inl ⟨by decide, trivial⟩
    · exact .inl ⟨by decide, trivial⟩
    · exact .inr ⟨by decide, trivial⟩
  · have members := lost.subset
    have untested : ¬PastTest ops := fun tested =>
      absurd (members tested.1) (by decide)
    have points : ops = networkLostOps ∨ ops = [testLost] ++ stopHeartbeatOps ++ doDisconnectOps ∨
        ops = stopHeartbeatOps ++ doDisconnectOps ∨ ops = joinHeartbeat :: doDisconnectOps ∨
          ops = doDisconnectOps ∨ ops = [setState .disconnected] ∨ ops = [] := by
      simpa [networkLostOps, stopHeartbeatOps, doDisconnectOps, List.suffix_cons_iff] using lost
    refine .inr ⟨untested, ?_⟩
    rcases points with rfl | rfl | rfl | rfl | rfl | rfl | rfl
    · exact ⟨rfl, trivial⟩
    · exact ⟨rfl, trivial⟩
    · exact ⟨rfl, trivial⟩
    · exact ⟨rfl, trivial⟩
    · exact ⟨rfl, trivial⟩
    · exact ⟨rfl, trivial⟩
    · trivial

theorem harmless_heartbeat {ops : List Op} (program : Program .heartbeat ops) :
    Harmless ops := by
  rcases program with turn | rfl | rfl
  · have points : ops = heartbeatOps ∨ ops = [checkPong] ∨ ops = [] := by
      simpa [heartbeatOps, List.suffix_cons_iff] using turn
    rcases points with rfl | rfl | rfl
    · trivial
    · trivial
    · trivial
  · trivial
  · trivial

/-- The call of the socket has returned. -/
def closed (pool : ConnectionThreads) : ConnectionThreads :=
  pool.step (.run .caller)

section Closed

variable {pool : ConnectionThreads} (closing : pool.Closing)

include closing

theorem closed_eq :
    pool.closed =
      pool.commit .caller
        { shared := closeSocket.effect .caller pool.shared
          rest := [setState .disconnected, stopMonitor] } := by
  have free : closeSocket.blocked .caller pool = false := by
    simp [blocked, closing.noCallback]
  exact step_run closing.going closing.caller free

theorem todo_caller_closed : pool.closed.todo .caller = [setState .disconnected, stopMonitor] := by
  rw [closed_eq closing]
  exact ThreadPool.todo_commit_self _ _ rfl

theorem todo_closed {worker : Worker} (other : worker ≠ .caller) :
    pool.closed.todo worker = pool.todo worker := by
  rw [closed_eq closing]
  exact ThreadPool.todo_commit_of_ne _ _ rfl other

theorem afterClose_closed (formed : pool.WellFormed)
    (unwanted : pool.shared.manager.wantConnected = false)
    (timer : ¬PastTest (pool.todo .timer)) (monitor : ¬PastTest (pool.todo .monitor)) :
    AfterClose false pool.closed := by
  have untested {ops : List Op} (untested : ¬PastTest ops)
      (cases : PastTest ops ∧ Opening ops ∨ ¬PastTest ops ∧ Harmless ops) : Harmless ops :=
    cases.elim (fun tested => absurd tested.1 untested) And.right
  refine ⟨⟨?_, fun worker => ?_⟩, .inr ⟨rfl, todo_caller_closed closing⟩⟩
  · rw [closed_eq closing, ThreadPool.shared_commit]
    exact ⟨unwanted, rfl⟩
  · cases worker with
    | caller =>
        rw [todo_caller_closed closing]
        exact ⟨⟨rfl, trivial⟩, Worker.noConfusion⟩
    | timer =>
        rw [todo_closed closing Worker.noConfusion]
        exact ⟨untested timer (timer_cases (formed.program .timer)), Worker.noConfusion⟩
    | monitor =>
        rw [todo_closed closing Worker.noConfusion]
        exact ⟨untested monitor (monitor_cases (formed.program .monitor)), Worker.noConfusion⟩
    | events =>
        rw [todo_closed closing Worker.noConfusion, closing.noCallback]
        exact ⟨trivial, fun _ => rfl⟩
    | heartbeat =>
        rw [todo_closed closing Worker.noConfusion]
        exact ⟨harmless_heartbeat (formed.program .heartbeat), Worker.noConfusion⟩

/-- The caller returns, and then the thread opens the socket. -/
theorem not_finalAlong_closed {worker : Worker} (other : worker ≠ .caller)
    (opening : Opening (pool.todo worker)) :
    ¬FinalAlong false pool.closed
      (.run .caller :: .run .caller ::
        List.replicate (pool.todo worker).length (.run worker)) := by
  have going : ¬pool.closed.shared.Over := by
    rw [closed_eq closing, ThreadPool.shared_commit]
    exact closing.going
  have first := step_run going (todo_caller_closed closing) rfl
  have firstCaller : (pool.closed.step (.run .caller)).todo .caller = [stopMonitor] := by
    rw [first]
    exact ThreadPool.todo_commit_self _ _ rfl
  have stillGoing : ¬(pool.closed.step (.run .caller)).shared.Over := by
    rw [first, ThreadPool.shared_commit]
    exact going
  have second := step_run stillGoing firstCaller rfl
  have secondCaller :
      ((pool.closed.step (.run .caller)).step (.run .caller)).todo .caller = [] := by
    rw [second]
    exact ThreadPool.todo_commit_self _ _ rfl
  have finallyGoing :
      ¬((pool.closed.step (.run .caller)).step (.run .caller)).shared.Over := by
    rw [second, ThreadPool.shared_commit]
    exact stillGoing
  have kept : ((pool.closed.step (.run .caller)).step (.run .caller)).todo worker =
      pool.todo worker := by
    rw [second, ThreadPool.todo_commit_of_ne _ _ rfl other, first,
      ThreadPool.todo_commit_of_ne _ _ rfl other]
    exact todo_closed closing other
  rintro ⟨_, _, later⟩
  rw [firstCaller, secondCaller] at later
  exact not_finalAlong_of_opening finallyGoing kept opening later

end Closed

theorem unwanting_start (networkOk : Bool) : (start networkOk).Unwanting :=
  .inr ⟨(sound_start networkOk).resolve_left (by simp [ThreadState.Over, start]),
    fun leaving => nomatch leaving.1⟩

/-- From the return of the socket's `disconnect` on the connection has ended for
good, in every order of later steps without a `connect`, exactly when no other
thread is past its test by then. -/
theorem finalAlong_iff (networkOk : Bool) (before : List ThreadEvent)
    (closing : Closing (EventRun.exec step (start networkOk) before)) :
    (∀ later, ThreadEvent.connect ∉ later →
        FinalAlong false (EventRun.exec step (start networkOk) before).closed later) ↔
      ¬PastTest ((EventRun.exec step (start networkOk) before).todo .timer) ∧
        ¬PastTest ((EventRun.exec step (start networkOk) before).todo .monitor) := by
  have kept : ∀ (pool : ConnectionThreads) (event : ThreadEvent), pool.Unwanting →
      (pool.step event).Unwanting := fun _ event unwanting => unwanting.step event
  have reached : (EventRun.exec step (start networkOk) before).Unwanting :=
    EventRun.exec_invariant kept (unwanting_start networkOk) before
  generalize EventRun.exec step (start networkOk) before = pool at closing reached ⊢
  rcases reached.resolve_left closing.going with ⟨formed, unwanted⟩
  constructor
  · intro final
    have harmless {worker : Worker} (other : worker ≠ .caller)
        (cases : PastTest (pool.todo worker) ∧ Opening (pool.todo worker) ∨
          ¬PastTest (pool.todo worker) ∧ Harmless (pool.todo worker)) :
        ¬PastTest (pool.todo worker) := by
      rcases cases with tested | untested
      · refine absurd (final _ ?_) (not_finalAlong_closed closing other tested.2)
        simp [List.mem_replicate]
      · exact untested.1
    exact ⟨harmless Worker.noConfusion (timer_cases (formed.program .timer)),
      harmless Worker.noConfusion (monitor_cases (formed.program .monitor))⟩
  · rintro ⟨timer, monitor⟩ later noConnect
    have leaving : Leaving (pool.todo .caller) := by
      rw [closing.caller]
      decide
    exact (afterClose_closed closing formed (unwanted leaving) timer monitor).finalAlong noConnect

/-- A reconnect is due after a lost connection; the caller disconnects when the
reconnect thread waits. -/
def disconnectDuringWait : List ThreadEvent :=
  [.connect, .run .caller, .run .caller, .run .caller, .run .caller, .run .caller, .run .caller,
    .onWsDisconnected, .run .events, .run .events, .run .events, .run .events, .run .events,
    .run .events, .takeReconnect,
    .disconnect, .run .caller, .run .caller, .run .caller, .run .caller]

/-- Here `disconnect` is final. -/
theorem finalAlong_disconnectDuringWait :
    FinalAlong false (EventRun.exec step (start true) disconnectDuringWait).closed
      [.run .caller, .run .caller, .run .timer, .run .timer] := by
  have closing : Closing (EventRun.exec step (start true) disconnectDuringWait) :=
    ⟨by decide, by decide, by decide⟩
  exact (finalAlong_iff true disconnectDuringWait closing).mpr ⟨by decide, by decide⟩ _ (by simp)

/-- The same, but the reconnect thread has passed its test before the wish ends. -/
def disconnectAfterTest : List ThreadEvent :=
  [.connect, .run .caller, .run .caller, .run .caller, .run .caller, .run .caller, .run .caller,
    .onWsDisconnected, .run .events, .run .events, .run .events, .run .events, .run .events,
    .run .events, .takeReconnect, .run .timer, .run .timer,
    .disconnect, .run .caller, .run .caller, .run .caller, .run .caller]

/-- After `disconnect` has returned, the reconnect thread sets `connecting` and
opens the socket. -/
theorem not_finalAlong_disconnectAfterTest :
    Closing (EventRun.exec step (start true) disconnectAfterTest) ∧
      ¬FinalAlong false (EventRun.exec step (start true) disconnectAfterTest).closed
        [.run .caller, .run .caller, .run .timer, .run .timer] := by
  refine ⟨⟨by decide, by decide, by decide⟩, fun final => ?_⟩
  have state := (final.2.2.2.1 rfl).1
  exact absurd state (by decide)

end ConnectionThreads

end AnychatSdk
