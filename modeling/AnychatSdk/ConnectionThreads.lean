import AnychatSdk.ConnectionManager
import AnychatSdk.Lib.ThreadPool

/-!
# The threads of the connection manager

The manager is called by its owner, by the network monitor and by the thread of
the socket, and has a reconnect thread and a heartbeat thread of its own.  Here
every function is the list of its atomic steps, and the threads take their steps
in any order.  The socket may call back in any order while its thread runs, and
`disconnect` of the socket returns when that thread is in no callback.
-/

namespace AnychatSdk

inductive Worker where
  | caller
  | timer
  | monitor
  | events
  | heartbeat
  deriving DecidableEq

/-- The atomic steps.  A step named after a test leaves the function when the
test fails. -/
inductive Op where
  | setWant (wanted : Bool)
  | resetRetries
  | cancelReconnect
  | testReachable
  | setState (state : ConnectionState)
  | openSocket
  | closeSocket
  | flagHeartbeat (stopping : Bool)
  | joinHeartbeat
  | createHeartbeat
  | exchangeNetwork (reachable : Bool)
  | testRecovered
  | testLost
  | callReady
  | testPursued
  | countRetry
  | scheduleReconnect (delayMs : Nat)
  | testConnected
  | expireWait
  | testIntent
  | waitHeartbeat
  | checkPong
  | stopTimer
  | joinTimer
  | stopMonitor
  | destroyMembers
  deriving DecidableEq

/-- The manager's members and what its threads have done to the process.
`heartbeat` of the manager says that the thread object is joinable. -/
structure ThreadState where
  manager : ConnectionManager := {}
  heartbeatStopping : Bool := false
  /-- The last pong is older than `kPongTimeoutMs`. -/
  pongOverdue : Bool := false
  stopping : Bool := false
  destroyed : Bool := false
  /-- The heartbeat thread has found the pong overdue. -/
  timedOut : Bool := false
  /-- A thread has joined itself. -/
  selfJoined : Bool := false
  /-- A thread object was assigned while it was joinable. -/
  assignedOver : Bool := false
  deriving DecidableEq

abbrev ConnectionThreads :=
  ThreadPool Worker ThreadState Op

/-! ## Functions as lists of steps -/

namespace Op

def stopHeartbeatOps : List Op :=
  [flagHeartbeat true, joinHeartbeat]

def startHeartbeatOps : List Op :=
  stopHeartbeatOps ++ [flagHeartbeat false, createHeartbeat]

def doConnectOps : List Op :=
  [setState .connecting, openSocket]

def doDisconnectOps : List Op :=
  [closeSocket, setState .disconnected]

def connectOps : List Op :=
  [setWant true, resetRetries, cancelReconnect, testReachable]

def disconnectOps : List Op :=
  [setWant false, cancelReconnect] ++ stopHeartbeatOps ++ doDisconnectOps ++ [stopMonitor]

/-- The destructor, and the end of the members. -/
def destructorOps : List Op :=
  stopHeartbeatOps ++ [stopTimer, joinTimer, stopMonitor, closeSocket, destroyMembers]

def networkRecoveredOps : List Op :=
  [testRecovered, resetRetries, cancelReconnect] ++ doConnectOps

def networkLostOps : List Op :=
  [cancelReconnect, testLost] ++ stopHeartbeatOps ++ doDisconnectOps

def onWsConnectedOps : List Op :=
  [resetRetries, setState .connected] ++ startHeartbeatOps ++ [callReady]

def onWsDisconnectedOps : List Op :=
  stopHeartbeatOps ++ [testPursued]

def onWsErrorOps : List Op :=
  [testConnected, setState .reconnecting]

/-- One turn of the reconnect thread after it has taken a request up. -/
def reconnectOps : List Op :=
  [expireWait, testIntent] ++ doConnectOps

/-- One turn of the heartbeat thread. -/
def heartbeatOps : List Op :=
  [waitHeartbeat, checkPong]

end Op

/-! ## Steps -/

namespace ThreadState

/-- An exception leaves a thread function. -/
def terminate (shared : ThreadState) : ThreadState :=
  { shared with manager := { shared.manager with terminated := true } }

/-- Nothing moves any more: the process or the object has ended. -/
def Over (shared : ThreadState) : Prop :=
  shared.manager.terminated = true ∨ shared.destroyed = true

instance decidableOver (shared : ThreadState) : Decidable shared.Over :=
  inferInstanceAs (Decidable (_ ∨ _))

end ThreadState

namespace Op

/-- What a step does to the members. -/
def effect (worker : Worker) (op : Op) (shared : ThreadState) : ThreadState :=
  let manager := shared.manager
  match op with
  | setWant wanted => { shared with manager := { manager with wantConnected := wanted } }
  | resetRetries => { shared with manager := { manager with superRetryCount := 0 } }
  | cancelReconnect => { shared with manager := manager.cancelReconnect }
  | setState state => { shared with manager := manager.setState state }
  | openSocket => { shared with manager := { manager with ws := manager.ws.connect } }
  | closeSocket => { shared with manager := { manager with ws := manager.ws.disconnect } }
  | flagHeartbeat stopping => { shared with heartbeatStopping := stopping }
  | joinHeartbeat =>
      if manager.heartbeat ∧ worker = .heartbeat then
        { shared.terminate with selfJoined := true }
      else { shared with manager := manager.stopHeartbeat }
  | createHeartbeat =>
      if manager.heartbeat then { shared.terminate with assignedOver := true }
      else
        { shared with
          manager := { manager with heartbeat := true }
          pongOverdue := false
          timedOut := false }
  | exchangeNetwork reachable =>
      { shared with manager := { manager with networkOk := reachable } }
  | callReady => { shared with manager := { manager with readyCalls := manager.readyCalls + 1 } }
  | countRetry =>
      { shared with manager := { manager with superRetryCount := manager.superRetryCount + 1 } }
  | scheduleReconnect delayMs => { shared with manager := manager.scheduleReconnect delayMs }
  | expireWait =>
      { shared with
        manager := { manager with reconnectWaiting := false, reconnectPending := false } }
  | checkPong =>
      if manager.state = .connected ∧ shared.pongOverdue then { shared with timedOut := true }
      else shared
  | stopTimer =>
      { shared with
        manager := { manager with reconnectCancel := true, reconnectPending := true }
        stopping := true }
  | destroyMembers => { shared with destroyed := true }
  | testReachable | testRecovered | testLost | testPursued | testConnected | testIntent
  | waitHeartbeat | joinTimer | stopMonitor => shared

/-- Where the thread goes on. -/
def next (op : Op) (shared : ThreadState) (rest : List Op) : List Op :=
  let manager := shared.manager
  match op with
  | testReachable => if manager.networkOk then doConnectOps else [setState .disconnected]
  | exchangeNetwork reachable =>
      if reachable = manager.networkOk then []
      else if reachable then networkRecoveredOps
      else networkLostOps
  | testRecovered =>
      if manager.wantConnected ∧
          (manager.state = .disconnected ∨ manager.state = .reconnecting) then rest
      else []
  | testLost => if manager.state ≠ .disconnected then rest else []
  | testPursued =>
      if ¬manager.wantConnected ∨ ¬manager.networkOk then [setState .disconnected]
      else [countRetry]
  | countRetry =>
      let retries := manager.superRetryCount
      if ConnectionManager.maxSuperRetries ≤ retries then [setState .disconnected]
      else
        [setState .reconnecting,
          scheduleReconnect (ConnectionManager.superBaseDelayMs * (1 <<< min retries 4))]
  | testConnected => if manager.state = .connected then rest else []
  | expireWait => if manager.reconnectCancel ∨ shared.stopping then [] else rest
  | testIntent => if manager.wantConnected ∧ manager.networkOk then rest else []
  | waitHeartbeat => if shared.heartbeatStopping then [] else rest
  | checkPong =>
      if manager.state = .connected ∧ shared.pongOverdue then onWsDisconnectedOps
      else heartbeatOps
  | _ => rest

/-- A join waits for the thread, except for the thread itself; the socket waits
for its callbacks. -/
def blocked (worker : Worker) (op : Op) (pool : ConnectionThreads) : Bool :=
  match op with
  | closeSocket => pool.todo .events ≠ []
  | joinHeartbeat =>
      pool.shared.manager.heartbeat ∧ worker ≠ .heartbeat ∧ pool.todo .heartbeat ≠ []
  | joinTimer => pool.todo .timer ≠ []
  | _ => false

/-- The thread that a step starts. -/
def spawn (op : Op) (shared : ThreadState) : Option (Worker × List Op) :=
  if op = createHeartbeat ∧ shared.manager.heartbeat = false then some (.heartbeat, heartbeatOps)
  else none

end Op

namespace ConnectionThreads

open Op

def start (networkOk : Bool) : ConnectionThreads where
  shared := { manager := { networkOk := networkOk } }
  todo _ := []

def semantics : ThreadPool.Semantics Worker ThreadState Op := fun worker op rest pool =>
  if op.blocked worker pool then none
  else
    some
      { shared := op.effect worker pool.shared
        rest := op.next pool.shared rest
        spawn := op.spawn pool.shared }

end ConnectionThreads

/-- What starts a function, what happens around the manager, and the next step of
a thread. -/
inductive ThreadEvent where
  | connect
  | disconnect
  | destroy
  | networkChanged (status : NetworkStatus)
  | onWsConnected
  | onWsDisconnected
  | onWsError
  | takeReconnect
  | pong
  | silence
  | run (worker : Worker)
  deriving DecidableEq

namespace ConnectionThreads

open Op

/-- A thread that has nothing to do starts a function. -/
def call (worker : Worker) (ops : List Op) (pool : ConnectionThreads) : ConnectionThreads :=
  if pool.todo worker = [] then pool.assign worker ops else pool

/-- The socket calls back while its thread runs. -/
def callBack (ops : List Op) (pool : ConnectionThreads) : ConnectionThreads :=
  if pool.shared.manager.ws.running then pool.call .events ops else pool

/-- The reconnect thread takes a request up, unless it is to stop. -/
def takeReconnect (pool : ConnectionThreads) : ConnectionThreads :=
  if pool.todo .timer = [] ∧ ¬pool.shared.stopping ∧ pool.shared.manager.reconnectPending then
    { pool with
      shared := { pool.shared with
        manager := { pool.shared.manager with
          reconnectWaiting := true, reconnectCancel := false } } }.assign .timer reconnectOps
  else pool

def step (pool : ConnectionThreads) (event : ThreadEvent) : ConnectionThreads :=
  if pool.shared.Over then pool
  else
    match event with
    | .connect => pool.call .caller connectOps
    | .disconnect => pool.call .caller disconnectOps
    | .destroy => pool.call .caller destructorOps
    | .networkChanged status => pool.call .monitor [exchangeNetwork status.isReachable]
    | .onWsConnected => pool.callBack onWsConnectedOps
    | .onWsDisconnected => pool.callBack onWsDisconnectedOps
    | .onWsError => pool.callBack onWsErrorOps
    | .takeReconnect => pool.takeReconnect
    | .pong => { pool with shared := { pool.shared with pongOverdue := false } }
    | .silence => { pool with shared := { pool.shared with pongOverdue := true } }
    | .run worker => ThreadPool.step semantics worker pool

/-! ## Program points -/

/-- The functions a step goes over to, apart from the rest of its own. -/
def Branches : Op → List Op → Prop
  | testReachable, ops => ops = doConnectOps ∨ ops = [setState .disconnected]
  | exchangeNetwork _, ops => ops = [] ∨ ops = networkRecoveredOps ∨ ops = networkLostOps
  | testPursued, ops => ops = [setState .disconnected] ∨ ops = [countRetry]
  | countRetry, ops =>
      ops = [setState .disconnected] ∨
        ∃ delayMs, ops = [setState .reconnecting, scheduleReconnect delayMs]
  | checkPong, ops => ops = heartbeatOps ∨ ops = onWsDisconnectedOps
  | _, ops => ops = []

/-- A thread goes on with its function, or goes over to another one. -/
theorem next_eq_or_branches (op : Op) (shared : ThreadState) (rest : List Op) :
    op.next shared rest = rest ∨ Branches op (op.next shared rest) := by
  cases op with
  | testReachable =>
      right
      dsimp only [next, Branches]
      split
      · exact .inl rfl
      · exact .inr rfl
  | exchangeNetwork reachable =>
      right
      dsimp only [next, Branches]
      split
      · exact .inl rfl
      · split
        · exact .inr (.inl rfl)
        · exact .inr (.inr rfl)
  | testPursued =>
      right
      dsimp only [next, Branches]
      split
      · exact .inl rfl
      · exact .inr rfl
  | countRetry =>
      right
      dsimp only [next, Branches]
      split
      · exact .inl rfl
      · exact .inr ⟨_, rfl⟩
  | checkPong =>
      right
      dsimp only [next, Branches]
      split
      · exact .inr rfl
      · exact .inl rfl
  | testRecovered | testLost | testConnected | testIntent =>
      dsimp only [next, Branches]
      split
      · exact .inl rfl
      · exact .inr rfl
  | expireWait | waitHeartbeat =>
      dsimp only [next, Branches]
      split
      · exact .inr rfl
      · exact .inl rfl
  | _ => exact .inl rfl

/-- No function that a step goes over to creates a heartbeat thread or destroys
the members. -/
theorem not_mem_of_branches {op : Op} {ops : List Op} (branches : Branches op ops) :
    createHeartbeat ∉ ops ∧ destroyMembers ∉ ops := by
  cases op with
  | testReachable | testPursued | checkPong =>
      rcases branches with rfl | rfl <;> decide
  | exchangeNetwork reachable => rcases branches with rfl | rfl | rfl <;> decide
  | countRetry =>
      rcases branches with rfl | ⟨delayMs, rfl⟩
      · decide
      · simp
  | _ =>
      dsimp only [Branches] at branches
      subst branches
      simp

/-- What a thread can have left: the rest of one of its functions.  The heartbeat
thread does not come back from a join, for it would join itself. -/
def Program : Worker → List Op → Prop
  | .caller, ops =>
      ops <:+ connectOps ∨ ops <:+ doConnectOps ∨ ops <:+ [setState .disconnected] ∨
        ops <:+ disconnectOps ∨ ops <:+ destructorOps
  | .timer, ops => ops <:+ reconnectOps
  | .monitor, ops =>
      (∃ reachable, ops <:+ [exchangeNetwork reachable]) ∨ ops <:+ networkRecoveredOps ∨
        ops <:+ networkLostOps
  | .events, ops =>
      ops <:+ onWsConnectedOps ∨ ops <:+ onWsDisconnectedOps ∨ ops <:+ onWsErrorOps ∨
        ops <:+ [setState .disconnected] ∨ ops <:+ [countRetry] ∨
          ∃ delayMs, ops <:+ [setState .reconnecting, scheduleReconnect delayMs]
  | .heartbeat, ops =>
      ops <:+ heartbeatOps ∨ ops = onWsDisconnectedOps ∨ ops = [joinHeartbeat, testPursued]

theorem program_nil (worker : Worker) : Program worker [] := by
  cases worker <;> simp [Program]

theorem Program.tail {worker : Worker} {op : Op} {rest : List Op}
    (program : Program worker (op :: rest))
    (returns : worker = .heartbeat → op ≠ joinHeartbeat) : Program worker rest := by
  have shorter {ops : List Op} (suffix : op :: rest <:+ ops) : rest <:+ ops :=
    (List.suffix_cons op rest).trans suffix
  cases worker with
  | caller => exact program.imp shorter (.imp shorter (.imp shorter (.imp shorter shorter)))
  | timer => exact shorter program
  | monitor =>
      exact program.imp (.imp fun _ => shorter) (.imp shorter shorter)
  | events =>
      exact program.imp shorter (.imp shorter (.imp shorter (.imp shorter (.imp shorter
        (.imp fun _ => shorter)))))
  | heartbeat =>
      rcases program with turn | called | joins
      · exact .inl (shorter turn)
      · obtain ⟨rfl, rfl⟩ := List.cons_eq_cons.mp called
        exact .inr (.inr rfl)
      · obtain ⟨rfl, rfl⟩ := List.cons_eq_cons.mp joins
        exact absurd rfl (returns rfl)

section Owners

variable {worker : Worker} {rest : List Op}

/-- The points at which a thread can stand. -/
def standsAt : Worker → Op → Bool
  | .caller, op =>
      op ∈ connectOps ++ doConnectOps ++ [setState .disconnected] ++ disconnectOps ++ destructorOps
  | .timer, op => op ∈ reconnectOps
  | .monitor, exchangeNetwork _ => true
  | .monitor, op => op ∈ networkRecoveredOps ++ networkLostOps
  | .events, scheduleReconnect _ => true
  | .events, op =>
      op ∈ onWsConnectedOps ++ onWsDisconnectedOps ++ onWsErrorOps ++
        [setState .disconnected, countRetry]
  | .heartbeat, op => op ∈ heartbeatOps ++ stopHeartbeatOps

theorem Program.stands {op : Op} (program : Program worker (op :: rest)) :
    standsAt worker op = true := by
  have within {ops : List Op} (known : ∀ other ∈ ops, standsAt worker other = true)
      (suffix : op :: rest <:+ ops) : standsAt worker op = true :=
    known op (suffix.subset List.mem_cons_self)
  cases worker with
  | caller =>
      rcases program with suffix | suffix | suffix | suffix | suffix <;>
        exact within (by decide) suffix
  | timer => exact within (by decide) program
  | monitor =>
      rcases program with ⟨reachable, suffix⟩ | suffix | suffix
      · exact within (by simp [standsAt]) suffix
      · exact within (by decide) suffix
      · exact within (by decide) suffix
  | events =>
      rcases program with suffix | suffix | suffix | suffix | suffix | ⟨delayMs, suffix⟩
      · exact within (by decide) suffix
      · exact within (by decide) suffix
      · exact within (by decide) suffix
      · exact within (by decide) suffix
      · exact within (by decide) suffix
      · exact within (by simp [standsAt, onWsErrorOps]) suffix
  | heartbeat =>
      rcases program with suffix | called | joins
      · exact within (by decide) suffix
      · obtain ⟨rfl, _⟩ := List.cons_eq_cons.mp called
        rfl
      · obtain ⟨rfl, _⟩ := List.cons_eq_cons.mp joins
        rfl

/-- The only thread that comes to a point, if there is one. -/
def owner? : Op → Option Worker
  | setWant _ | testReachable | destroyMembers => some .caller
  | exchangeNetwork _ => some .monitor
  | testPursued | countRetry | createHeartbeat => some .events
  | checkPong => some .heartbeat
  | _ => none

theorem Program.eq_owner {op : Op} {owner : Worker} (program : Program worker (op :: rest))
    (owned : owner? op = some owner) : worker = owner := by
  have stands := program.stands
  cases op with
  | setWant value | exchangeNetwork value =>
      obtain rfl := Option.some.inj owned
      cases value <;> cases worker <;> first | rfl | exact absurd stands (by decide)
  | testReachable | destroyMembers | testPursued | countRetry | createHeartbeat | checkPong =>
      obtain rfl := Option.some.inj owned
      cases worker <;> first | rfl | exact absurd stands (by decide)
  | _ => exact nomatch owned

/-- The members go last. -/
theorem Program.eq_nil_of_destroyMembers (program : Program .caller (destroyMembers :: rest)) :
    rest = [] := by
  simpa [Program, List.suffix_cons_iff, connectOps, doConnectOps, disconnectOps, stopHeartbeatOps,
    doDisconnectOps, destructorOps] using program

/-- `startHeartbeat` has joined before it creates. -/
theorem Program.eq_of_createHeartbeat (program : Program .events (createHeartbeat :: rest)) :
    rest = [callReady] := by
  simpa [Program, List.suffix_cons_iff, onWsConnectedOps, startHeartbeatOps, stopHeartbeatOps,
    onWsDisconnectedOps, onWsErrorOps] using program

end Owners

/-- A step other than a join of the heartbeat thread leads to a program point of
the same thread. -/
theorem Program.next {worker : Worker} {op : Op} {rest : List Op}
    (program : Program worker (op :: rest))
    (returns : worker = .heartbeat → op ≠ joinHeartbeat) (shared : ThreadState) :
    Program worker (op.next shared rest) := by
  rcases next_eq_or_branches op shared rest with same | branches
  · rw [same]
    exact program.tail returns
  · cases op with
    | testReachable =>
        obtain rfl := program.eq_owner rfl
        rcases branches with connects | offline
        · exact .inr (.inl ⟨[], connects⟩)
        · exact .inr (.inr (.inl ⟨[], offline⟩))
    | exchangeNetwork reachable =>
        obtain rfl := program.eq_owner rfl
        rcases branches with same | recovered | lost
        · rw [same]
          exact program_nil .monitor
        · exact .inr (.inl ⟨[], recovered⟩)
        · exact .inr (.inr ⟨[], lost⟩)
    | testPursued =>
        obtain rfl := program.eq_owner rfl
        rcases branches with left | pursued
        · exact .inr (.inr (.inr (.inl ⟨[], left⟩)))
        · exact .inr (.inr (.inr (.inr (.inl ⟨[], pursued⟩))))
    | countRetry =>
        obtain rfl := program.eq_owner rfl
        rcases branches with spent | ⟨delayMs, retries⟩
        · exact .inr (.inr (.inr (.inl ⟨[], spent⟩)))
        · exact .inr (.inr (.inr (.inr (.inr ⟨delayMs, [], retries⟩))))
    | checkPong =>
        obtain rfl := program.eq_owner rfl
        rcases branches with turn | expired
        · exact .inl ⟨[], turn⟩
        · exact .inr (.inl expired)
    | _ =>
        dsimp only [Branches] at branches
        rw [branches]
        exact program_nil worker

/-- Every thread is at a point of its functions, and a heartbeat thread that has
not ended is joinable. -/
structure WellFormed (pool : ConnectionThreads) : Prop where
  program : ∀ worker, Program worker (pool.todo worker)
  joinable : pool.todo .heartbeat ≠ [] → pool.shared.manager.heartbeat = true

/-- The well-formed states, as long as there are any. -/
def Sound (pool : ConnectionThreads) : Prop :=
  pool.shared.Over ∨ pool.WellFormed

theorem sound_start (networkOk : Bool) : (start networkOk).Sound :=
  .inr ⟨program_nil, fun some => absurd rfl some⟩

section OneStep

variable {pool : ConnectionThreads} {worker : Worker}

/-- A step is blocked, or does what the three functions of its operation say. -/
theorem semantics_eq_some_iff {op : Op} {rest : List Op}
    {effect : ThreadPool.Effect Worker ThreadState Op} :
    semantics worker op rest pool = some effect ↔
      op.blocked worker pool = false ∧
        effect =
          { shared := op.effect worker pool.shared
            rest := op.next pool.shared rest
            spawn := op.spawn pool.shared } := by
  rw [semantics]
  split
  · next blocked =>
      refine iff_of_false (fun same => nomatch same) fun free => ?_
      exact Bool.noConfusion (blocked.symm.trans free.1)
  · next free =>
      rw [Option.some.injEq, and_iff_right (Bool.eq_false_iff.mpr free)]
      exact eq_comm

/-- What a thread does whose next step is not blocked. -/
theorem step_run (going : ¬pool.shared.Over) {op : Op} {rest : List Op}
    (todo : pool.todo worker = op :: rest) (free : op.blocked worker pool = false) :
    pool.step (.run worker) =
      pool.commit worker
        { shared := op.effect worker pool.shared
          rest := op.next pool.shared rest
          spawn := op.spawn pool.shared } := by
  unfold ConnectionThreads.step
  rw [if_neg going]
  exact ThreadPool.step_of_some todo (semantics_eq_some_iff.mpr ⟨free, rfl⟩)

theorem heartbeat_effect {op : Op} (join : op ≠ joinHeartbeat) (create : op ≠ createHeartbeat)
    (shared : ThreadState) :
    (op.effect worker shared).manager.heartbeat = shared.manager.heartbeat := by
  cases op with
  | joinHeartbeat => exact absurd rfl join
  | createHeartbeat => exact absurd rfl create
  | checkPong =>
      dsimp only [effect]
      split <;> rfl
  | _ => rfl

theorem spawn_of_ne {op : Op} (create : op ≠ createHeartbeat) (shared : ThreadState) :
    op.spawn shared = none := by
  rw [spawn, if_neg fun both => create both.1]

/-- A step changes what its own thread has left, and may start the heartbeat
thread. -/
theorem todo_commit_other {op : Op} {shared : ThreadState} {rest : List Op} {third : Worker}
    (apart : third ≠ worker) (other : third ≠ .heartbeat) :
    (pool.commit worker { shared := shared, rest := rest, spawn := op.spawn pool.shared }).todo
      third = pool.todo third := by
  by_cases create : op = createHeartbeat ∧ pool.shared.manager.heartbeat = false
  · have spawn : op.spawn pool.shared = some (.heartbeat, heartbeatOps) := if_pos create
    rw [ThreadPool.todo_commit_of_ne_spawned _ _ spawn other, if_neg apart]
  · have alone : op.spawn pool.shared = none := if_neg create
    exact ThreadPool.todo_commit_of_ne _ _ alone apart

theorem WellFormed.assign (formed : pool.WellFormed) {ops : List Op}
    (program : Program worker ops) (other : worker ≠ .heartbeat) :
    WellFormed (pool.assign worker ops) where
  program third := by
    by_cases same : third = worker
    · rw [same, ThreadPool.todo_assign_self]
      exact program
    · rw [ThreadPool.todo_assign_of_ne _ _ _ same]
      exact formed.program third
  joinable := by
    rw [ThreadPool.todo_assign_of_ne _ _ _ other.symm]
    exact formed.joinable

theorem WellFormed.call (formed : pool.WellFormed) {ops : List Op}
    (program : Program worker ops) (other : worker ≠ .heartbeat) :
    (pool.call worker ops).WellFormed := by
  rw [ConnectionThreads.call]
  split
  · exact formed.assign program other
  · exact formed

/-- A step that neither joins nor creates the heartbeat thread. -/
theorem WellFormed.commit (formed : pool.WellFormed) {op : Op} {rest : List Op}
    (todo : pool.todo worker = op :: rest) (join : op ≠ joinHeartbeat)
    (create : op ≠ createHeartbeat) :
    WellFormed (pool.commit worker
      { shared := op.effect worker pool.shared
        rest := op.next pool.shared rest
        spawn := op.spawn pool.shared }) := by
  have alone := spawn_of_ne create pool.shared
  have program : Program worker (op :: rest) := todo ▸ formed.program worker
  constructor
  · intro third
    by_cases same : third = worker
    · rw [same, ThreadPool.todo_commit_self _ _ alone]
      exact program.next (fun _ => join) pool.shared
    · rw [ThreadPool.todo_commit_of_ne _ _ alone same]
      exact formed.program third
  · intro some
    rw [ThreadPool.shared_commit, heartbeat_effect join create]
    refine formed.joinable ?_
    by_cases same : .heartbeat = worker
    · rw [same, todo]
      exact List.cons_ne_nil op rest
    · rw [ThreadPool.todo_commit_of_ne _ _ alone same] at some
      exact some

/-- A join by the heartbeat thread ends the process; any other one finds it
ended. -/
theorem Sound.join (formed : pool.WellFormed) {rest : List Op}
    (todo : pool.todo worker = joinHeartbeat :: rest)
    (free : joinHeartbeat.blocked worker pool = false) :
    Sound (pool.commit worker
      { shared := joinHeartbeat.effect worker pool.shared
        rest := rest
        spawn := none }) := by
  by_cases own : worker = .heartbeat
  · left
    subst own
    have joinable : pool.shared.manager.heartbeat = true := by
      refine formed.joinable ?_
      rw [todo]
      exact List.cons_ne_nil joinHeartbeat rest
    rw [ThreadPool.shared_commit]
    simp [effect, joinable, ThreadState.terminate, ThreadState.Over]
  · right
    have ended : pool.todo .heartbeat = [] := by
      by_contra some
      have joinable := formed.joinable some
      simp [blocked, joinable, own, some] at free
    have program : Program worker (joinHeartbeat :: rest) := todo ▸ formed.program worker
    constructor
    · intro third
      by_cases same : third = worker
      · rw [same, ThreadPool.todo_commit_self _ _ rfl]
        exact program.tail fun isHeartbeat => absurd isHeartbeat own
      · rw [ThreadPool.todo_commit_of_ne _ _ rfl same]
        exact formed.program third
    · intro some
      have other : Worker.heartbeat ≠ worker := fun same => own same.symm
      rw [ThreadPool.todo_commit_of_ne _ _ rfl other] at some
      exact absurd ended some

/-- A new heartbeat thread is at the head of its loop. -/
theorem Sound.create (formed : pool.WellFormed) {rest : List Op}
    (todo : pool.todo worker = createHeartbeat :: rest) :
    Sound (pool.commit worker
      { shared := createHeartbeat.effect worker pool.shared
        rest := rest
        spawn := createHeartbeat.spawn pool.shared }) := by
  have program : Program worker (createHeartbeat :: rest) := todo ▸ formed.program worker
  cases joinable : pool.shared.manager.heartbeat with
  | true =>
      left
      rw [ThreadPool.shared_commit]
      simp [effect, joinable, ThreadState.terminate, ThreadState.Over]
  | false =>
      right
      have spawn : createHeartbeat.spawn pool.shared = some (.heartbeat, heartbeatOps) := by
        simp [Op.spawn, joinable]
      constructor
      · intro third
        by_cases started : third = .heartbeat
        · rw [started, ThreadPool.todo_commit_spawned _ _ spawn]
          exact .inl List.suffix_rfl
        · rw [ThreadPool.todo_commit_of_ne_spawned _ _ spawn started]
          split
          · next same =>
              rw [same]
              exact program.tail fun _ => Op.noConfusion
          · exact formed.program third
      · intro _
        rw [ThreadPool.shared_commit]
        simp [effect, joinable]

theorem Sound.run (formed : pool.WellFormed) (worker : Worker) :
    Sound (ThreadPool.step semantics worker pool) := by
  rcases ThreadPool.step_eq_or_commit semantics worker pool with idle | moves
  · rw [idle]
    exact .inr formed
  · rcases moves with ⟨op, rest, effect, todo, result, step⟩
    rcases semantics_eq_some_iff.mp result with ⟨free, rfl⟩
    rw [step]
    have program : Program worker (op :: rest) := todo ▸ formed.program worker
    by_cases join : op = joinHeartbeat
    · subst join
      exact .join formed todo free
    · by_cases create : op = createHeartbeat
      · subst create
        exact .create formed todo
      · exact .inr (formed.commit todo join create)

theorem Sound.step (sound : pool.Sound) (event : ThreadEvent) : (pool.step event).Sound := by
  unfold ConnectionThreads.step
  split
  · exact sound
  · next running =>
      have formed : pool.WellFormed := sound.resolve_left running
      have callBack {ops : List Op} (program : Program .events ops) :
          (pool.callBack ops).Sound := by
        rw [ConnectionThreads.callBack]
        split
        · exact .inr (formed.call program Worker.noConfusion)
        · exact .inr formed
      cases event with
      | connect =>
          exact .inr (formed.call (.inl List.suffix_rfl) Worker.noConfusion)
      | disconnect =>
          exact .inr (formed.call (.inr (.inr (.inr (.inl List.suffix_rfl)))) Worker.noConfusion)
      | destroy =>
          exact .inr (formed.call (.inr (.inr (.inr (.inr List.suffix_rfl)))) Worker.noConfusion)
      | networkChanged status =>
          exact .inr (formed.call (.inl ⟨_, List.suffix_rfl⟩) Worker.noConfusion)
      | onWsConnected => exact callBack (.inl List.suffix_rfl)
      | onWsDisconnected => exact callBack (.inr (.inl List.suffix_rfl))
      | onWsError => exact callBack (.inr (.inr (.inl List.suffix_rfl)))
      | takeReconnect =>
          dsimp only [ConnectionThreads.takeReconnect]
          split
          · have taken : WellFormed { pool with
                shared := { pool.shared with
                  manager := { pool.shared.manager with
                    reconnectWaiting := true, reconnectCancel := false } } } :=
              ⟨formed.program, formed.joinable⟩
            exact .inr (taken.assign List.suffix_rfl Worker.noConfusion)
          · exact .inr formed
      | pong | silence => exact .inr ⟨formed.program, formed.joinable⟩
      | run worker => exact .run formed worker

end OneStep

/-! ## One thread alone -/

/-- What the first steps of a function do when no other thread moves. -/
def alone (worker : Worker) : Nat → List Op → ThreadState → ThreadState
  | steps + 1, op :: rest, shared =>
      alone worker steps (op.next shared rest) (op.effect worker shared)
  | _, _, shared => shared

@[simp]
theorem alone_nil (worker : Worker) (steps : Nat) (shared : ThreadState) :
    alone worker steps [] shared = shared := by
  cases steps <;> rfl

@[simp]
theorem alone_cons (worker : Worker) (steps : Nat) (op : Op) (rest : List Op)
    (shared : ThreadState) :
    alone worker (steps + 1) (op :: rest) shared =
      alone worker steps (op.next shared rest) (op.effect worker shared) :=
  rfl

end ConnectionThreads

end AnychatSdk
