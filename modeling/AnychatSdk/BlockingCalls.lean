import AnychatSdk.Db.Database

/-!
# Blocking calls on the database

The synchronous calls post a task and wait for its future, which only the worker
fulfills.  The client opens the database, and so starts the worker, while it is
being constructed, unless its path is empty; the constructor of the auth manager
reads the stored token from the database in any case.  The destructor of the
database lets the worker leave, and the threads of `http_` and `ws_`, which are
declared before `db_`, run on after that.
-/

namespace AnychatSdk

/-- `DbValue`. -/
inductive DbValue where
  | null
  | integer (value : Int64)
  | real (value : Float)
  | text (value : String)

/-- An SQL text with its parameters. -/
structure Statement where
  sql : String
  params : List DbValue := []

/-! ## Calls of the client -/

/-- The calls that the components of the client make on the database. -/
inductive ClientDbCall where
  | exec (stmt : Statement)
  | execSync (stmt : Statement)
  | querySync (stmt : Statement)
  | transactionSync (fn : TxFunction Statement)
  | getMeta (key defaultVal : String)
  | setMeta (key value : String)

namespace ClientDbCall

def dbCall : ClientDbCall → DbCall Statement
  | exec stmt => .exec stmt
  | execSync stmt => .execSync stmt
  | querySync stmt => .querySync stmt
  | transactionSync fn => .transactionSync fn
  | getMeta key _ => .querySync ⟨"SELECT value FROM metadata WHERE key = ?", [.text key]⟩
  | setMeta key value =>
      .execSync
        ⟨"INSERT INTO metadata (key, value) VALUES (?, ?) " ++
          "ON CONFLICT(key) DO UPDATE SET value = excluded.value", [.text key, .text value]⟩

/-- Whether the caller waits for the future of the task. -/
def waits : ClientDbCall → Bool
  | exec _ => false
  | execSync _ | querySync _ | transactionSync _ | getMeta _ _ | setMeta _ _ => true

/-- Whether the task calls back: every `exec` of the client leaves out the
callback or passes `nullptr`. -/
def callsBack : ClientDbCall → Bool
  | exec _ | execSync _ | querySync _ | transactionSync _ | getMeta _ _ | setMeta _ _ => false

@[simp]
theorem callsBack_eq_false (dbCall : ClientDbCall) : dbCall.callsBack = false := by
  cases dbCall <;> rfl

end ClientDbCall

/-! ## The constructor -/

/-- The fields of `ClientConfig` that decide whether the constructor accepts it and
what it does with the database. -/
structure ClientConfig where
  gatewayUrl : String
  apiBaseUrl : String
  deviceId : String
  dbPath : String := ""

/-- A step of the constructor that involves the database. -/
inductive ConstructorStep where
  | openDatabase
  | call (dbCall : ClientDbCall)

/-- `AuthManagerImpl::AuthManagerImpl` reads the stored token. -/
def AuthManager.constructorSteps : List ConstructorStep :=
  [.call (.getMeta "auth.access_token" ""), .call (.getMeta "auth.refresh_token" ""),
    .call (.getMeta "auth.expires_at_ms" "0")]

/-- `AnyChatClient::AnyChatClient`: the exception it throws, or its steps. -/
def ClientConfig.constructorSteps (config : ClientConfig) :
    Except String (List ConstructorStep) :=
  if config.gatewayUrl = "" then .error "ClientConfig::gateway_url must not be empty"
  else if config.apiBaseUrl = "" then .error "ClientConfig::api_base_url must not be empty"
  else if config.deviceId = "" then .error "ClientConfig::device_id must not be empty"
  else .ok ((if config.dbPath ≠ "" then [.openDatabase] else []) ++
    AuthManager.constructorSteps)

/-- The steps of an accepted configuration depend on its path alone. -/
theorem ClientConfig.constructorSteps_eq {config : ClientConfig} {steps : List ConstructorStep}
    (accepted : config.constructorSteps = .ok steps) :
    steps = (if config.dbPath ≠ "" then [.openDatabase] else []) ++
      AuthManager.constructorSteps := by
  rw [constructorSteps] at accepted
  split at accepted
  · cases accepted
  split at accepted
  · cases accepted
  split at accepted
  · cases accepted
  exact (Except.ok.inj accepted).symm

/-! ## Threads -/

/-- A thread that calls the database: the one that constructs the client, the
worker itself inside a callback, or any other, such as the one that runs the
response handlers. -/
inductive Caller where
  | constructor
  | worker
  | thread (id : Nat)
  deriving DecidableEq

/-- A synchronous call when its task is posted. -/
structure SyncPost where
  caller : Caller
  phase : WorkerPhase

/-- The database of a client and the threads that call it. -/
structure ClientDatabase (δ : Type) where
  worker : DbWorker Statement δ := { state := none }
  constructing : List ConstructorStep
  /-- The task whose future a thread waits for, by its place among the posted. -/
  waiting : Caller → Option Nat := fun _ => none
  /-- For each posted task, whether it calls back. -/
  callbacks : List Bool := []
  syncPosts : List SyncPost := []
  destroyed : Bool := false

inductive ClientDatabaseEvent where
  | construct
  | call (caller : Caller) (dbCall : ClientDbCall)
  | turn
  | resume (caller : Caller)
  | destroy

namespace ClientDatabase

variable {δ : Type} (sqlite : Sqlite Statement δ)

/-- `Impl::post`. -/
def post (task : DbTask Statement) (callsBack : Bool) (database : ClientDatabase δ) :
    ClientDatabase δ :=
  { database with
    worker := database.worker.post task
    callbacks := database.callbacks ++ [callsBack] }

/-- `Impl::postSync`: post the task and wait for its future. -/
def postSync (caller : Caller) (task : DbTask Statement) (callsBack : Bool)
    (database : ClientDatabase δ) : ClientDatabase δ :=
  { database.post task callsBack with
    waiting := fun other =>
      if other = caller then some database.callbacks.length else database.waiting other
    syncPosts := database.syncPosts ++ [⟨caller, database.worker.phase⟩] }

/-- A call of a component. -/
def call (caller : Caller) (dbCall : ClientDbCall) (database : ClientDatabase δ) :
    ClientDatabase δ :=
  if dbCall.waits then database.postSync caller dbCall.dbCall.task dbCall.callsBack
  else database.post dbCall.dbCall.task dbCall.callsBack

/-- `Database::open`. -/
def openDatabase (caller : Caller) (database : ClientDatabase δ) : ClientDatabase δ :=
  { database with worker := database.worker.start }.postSync caller openTask false

/-- Whether the constructor has returned. -/
def built (database : ClientDatabase δ) : Bool :=
  database.constructing.isEmpty && (database.waiting .constructor).isNone

/-- Whether a thread can make a call: the worker only inside a callback, any other
also when the database is being destroyed. -/
def mayCall (caller : Caller) (database : ClientDatabase δ) : Bool :=
  database.built && (database.waiting caller).isNone &&
    match caller with
    | .constructor => false
    | .thread _ => true
    | .worker =>
        database.worker.current.isSome &&
          database.callbacks.getD database.worker.results.length false

/-- Whether the future that a thread waits for is fulfilled. -/
def ready (caller : Caller) (database : ClientDatabase δ) : Bool :=
  match database.waiting caller with
  | none => false
  | some task => decide (task < database.worker.results.length)

def step (database : ClientDatabase δ) : ClientDatabaseEvent → ClientDatabase δ
  | .construct =>
      if (database.waiting .constructor).isSome then database
      else
        match database.constructing with
        | [] => database
        | .openDatabase :: steps =>
            { database with constructing := steps }.openDatabase .constructor
        | .call dbCall :: steps =>
            { database with constructing := steps }.call .constructor dbCall
  | .call caller dbCall =>
      if database.mayCall caller then database.call caller dbCall else database
  | .turn =>
      if (database.waiting .worker).isSome then database
      else { database with worker := database.worker.turn sqlite.perform }
  | .resume caller =>
      if database.ready caller then
        { database with
          waiting := fun other => if other = caller then none else database.waiting other }
      else database
  | .destroy =>
      if database.built && !database.destroyed then
        { database with worker := database.worker.stop, destroyed := true }
      else database

/-! ## A database that was opened -/

/-- The worker was started and runs until the constructor has returned at least,
every thread waits for a task that was posted, and no task calls back. -/
structure Answering (database : ClientDatabase δ) : Prop where
  opened : ∀ next ∈ database.constructing, next ≠ .openDatabase
  building : database.constructing ≠ [] →
    database.worker.phase = .running ∧ database.worker.stopping = false
  started : database.worker.phase ≠ .unstarted
  posted : database.callbacks.length = database.worker.size
  silent : ∀ callsBack ∈ database.callbacks, callsBack = false
  waiting_lt : ∀ caller task, database.waiting caller = some task →
    task < database.callbacks.length
  worker_free : database.waiting .worker = none

/-- The tasks that an event posts. -/
def tasks (database : ClientDatabase δ) : ClientDatabaseEvent → List (DbTask Statement)
  | .construct =>
      if (database.waiting .constructor).isSome then []
      else
        match database.constructing with
        | [] => []
        | .openDatabase :: _ => [openTask]
        | .call dbCall :: _ => [dbCall.dbCall.task]
  | .call caller dbCall => if database.mayCall caller then [dbCall.dbCall.task] else []
  | .turn | .resume _ | .destroy => []

theorem posts_call (caller : Caller) (dbCall : ClientDbCall) (database : ClientDatabase δ) :
    JobWorker.Posts [dbCall.dbCall.task] database.worker (database.call caller dbCall).worker := by
  rw [call]
  split <;> exact JobWorker.posts_post dbCall.dbCall.task database.worker

section Answering

variable {database : ClientDatabase δ}

/-- The worker never calls the database itself. -/
theorem Answering.mayCall_worker (answering : database.Answering) :
    database.mayCall .worker = false := by
  have quiet : database.callbacks.getD database.worker.results.length false = false := by
    rw [List.getD_eq_getElem?_getD]
    cases found : database.callbacks[database.worker.results.length]? with
    | none => rfl
    | some callsBack => exact answering.silent callsBack (List.mem_of_getElem? found)
  simp only [mayCall, quiet, Bool.and_false]

/-- Posting a task that does not call back keeps the invariant. -/
theorem Answering.post (answering : database.Answering) (task : DbTask Statement) :
    (database.post task false).Answering := by
  constructor
  · exact answering.opened
  · exact answering.building
  · exact answering.started
  · rw [ClientDatabase.post, List.length_append, answering.posted]
    exact (JobWorker.size_posts (JobWorker.posts_post task database.worker)).symm
  · intro callsBack member
    rcases List.mem_append.mp member with earlier | here
    · exact answering.silent callsBack earlier
    · exact List.mem_singleton.mp here
  · intro caller index waits
    have lt := answering.waiting_lt caller index waits
    simp only [ClientDatabase.post, List.length_append, List.length_singleton]
    omega
  · exact answering.worker_free

/-- So does waiting for it on any thread but the worker. -/
theorem Answering.postSync (answering : database.Answering) {caller : Caller}
    (other : caller ≠ .worker) (task : DbTask Statement) :
    (database.postSync caller task false).Answering := by
  have post := answering.post task
  constructor
  · exact post.opened
  · exact post.building
  · exact post.started
  · exact post.posted
  · exact post.silent
  · intro thread index waits
    change (if thread = caller then some database.callbacks.length
      else database.waiting thread) = some index at waits
    split at waits
    · obtain rfl := Option.some.inj waits
      simp [ClientDatabase.postSync, ClientDatabase.post]
    · exact post.waiting_lt thread index waits
  · change (if Caller.worker = caller then some database.callbacks.length
      else database.waiting .worker) = none
    rw [if_neg (Ne.symm other)]
    exact answering.worker_free

theorem Answering.call (answering : database.Answering) {caller : Caller}
    (other : caller ≠ .worker) (dbCall : ClientDbCall) :
    (database.call caller dbCall).Answering := by
  rw [ClientDatabase.call, ClientDbCall.callsBack_eq_false]
  split
  · exact answering.postSync other _
  · exact answering.post _

/-- The worker may run a task, finish one or leave. -/
theorem Answering.turn (answering : database.Answering) :
    { database with worker := database.worker.turn sqlite.perform }.Answering := by
  constructor
  · exact answering.opened
  · intro building
    rcases answering.building building with ⟨running, wanted⟩
    exact JobWorker.running_turn_of_not_stopping running wanted
  · rcases JobWorker.phase_turn sqlite.perform database.worker with same | ⟨_, exited⟩
    · rw [same]
      exact answering.started
    · rw [exited]
      decide
  · rw [answering.posted]
    exact (JobWorker.size_turn sqlite.perform database.worker).symm
  · exact answering.silent
  · exact answering.waiting_lt
  · exact answering.worker_free

theorem Answering.resume (answering : database.Answering) (caller : Caller) :
    { database with
      waiting := fun other => if other = caller then none
        else database.waiting other }.Answering := by
  constructor
  · exact answering.opened
  · exact answering.building
  · exact answering.started
  · exact answering.posted
  · exact answering.silent
  · intro other task waits
    dsimp only at waits
    split at waits
    · exact absurd waits.symm (Option.some_ne_none task)
    · exact answering.waiting_lt other task waits
  · dsimp only
    split
    · rfl
    · exact answering.worker_free

theorem Answering.destroy (answering : database.Answering)
    (built : database.constructing = []) :
    { database with worker := database.worker.stop, destroyed := true }.Answering := by
  constructor
  · exact answering.opened
  · exact fun building => absurd built building
  · exact answering.started
  · exact answering.posted
  · exact answering.silent
  · exact answering.waiting_lt
  · exact answering.worker_free

/-- The constructor's next step, when its first steps are done. -/
theorem Answering.advance (answering : database.Answering) {next : ConstructorStep}
    {steps : List ConstructorStep} (constructing : database.constructing = next :: steps) :
    { database with constructing := steps }.Answering := by
  constructor
  · intro later member
    exact answering.opened later (by rw [constructing]; exact List.mem_cons_of_mem next member)
  · intro _
    exact answering.building (by rw [constructing]; exact List.cons_ne_nil next steps)
  · exact answering.started
  · exact answering.posted
  · exact answering.silent
  · exact answering.waiting_lt
  · exact answering.worker_free

/-- Every step keeps the invariant. -/
theorem Answering.step (answering : database.Answering) (event : ClientDatabaseEvent) :
    (database.step sqlite event).Answering := by
  cases event with
  | construct =>
      rw [ClientDatabase.step]
      split
      · exact answering
      cases constructing : database.constructing with
      | nil => exact answering
      | cons next steps =>
          have advanced := answering.advance constructing
          cases next with
          | openDatabase =>
              exact absurd rfl (answering.opened .openDatabase
                (by rw [constructing]; exact List.mem_cons_self))
          | call dbCall => exact advanced.call (by decide) dbCall
  | call caller dbCall =>
      rw [ClientDatabase.step]
      split
      · next may =>
          refine answering.call ?_ dbCall
          rintro rfl
          rw [answering.mayCall_worker] at may
          exact Bool.false_ne_true may
      · exact answering
  | turn =>
      rw [ClientDatabase.step]
      split
      · exact answering
      · exact answering.turn sqlite
  | resume caller =>
      rw [ClientDatabase.step]
      split
      · exact answering.resume caller
      · exact answering
  | destroy =>
      rw [ClientDatabase.step]
      split
      · next usable =>
          refine answering.destroy ?_
          simp only [built, Bool.and_eq_true, List.isEmpty_iff] at usable
          exact usable.1.1
      · exact answering

end Answering

end ClientDatabase

namespace ClientDatabaseEvent

def isTurn : ClientDatabaseEvent → Bool
  | turn => true
  | construct | call _ _ | resume _ | destroy => false

end ClientDatabaseEvent

namespace ClientDatabase

variable {δ : Type} (sqlite : Sqlite Statement δ)

/-- A running database hosts its worker. -/
theorem hosts : JobWorker.Hosts sqlite.perform (step sqlite) Answering ClientDatabase.worker
    ClientDatabaseEvent.isTurn (tasks : ClientDatabase δ → _) := by
  constructor
  · intro database event answering
    exact answering.step sqlite event
  · intro database event answering isTurn
    cases event with
    | turn =>
        rw [step, answering.worker_free]
        exact ⟨rfl, rfl⟩
    | construct => exact absurd isTurn Bool.false_ne_true
    | call caller dbCall => exact absurd isTurn Bool.false_ne_true
    | resume caller => exact absurd isTurn Bool.false_ne_true
    | destroy => exact absurd isTurn Bool.false_ne_true
  · intro database event answering isTurn
    cases event with
    | turn => exact absurd isTurn.symm Bool.false_ne_true
    | construct =>
        rw [step, tasks]
        split
        · exact JobWorker.posts_refl database.worker
        · cases constructing : database.constructing with
          | nil => exact JobWorker.posts_refl database.worker
          | cons next steps =>
              cases next with
              | openDatabase =>
                  exact absurd rfl (answering.opened .openDatabase
                    (by rw [constructing]; exact List.mem_cons_self))
              | call dbCall =>
                  exact posts_call .constructor dbCall { database with constructing := steps }
    | call caller dbCall =>
        rw [step, tasks]
        split
        · exact posts_call caller dbCall database
        · exact JobWorker.posts_refl database.worker
    | resume caller =>
        rw [step]
        split <;> exact JobWorker.posts_refl database.worker
    | destroy =>
        rw [step]
        split
        · exact JobWorker.posts_stop database.worker
        · exact JobWorker.posts_refl database.worker

/-! ## Calls that return -/

/-- A waiting thread returns from its call after finitely many turns of the
worker, and synchronous calls are posted to a running worker by other threads. -/
structure CallsReturn (database : ClientDatabase δ) : Prop where
  posts : ∀ post ∈ database.syncPosts, post.caller ≠ .worker ∧ post.phase = .running
  returns : ∀ caller task, database.waiting caller = some task → ∃ turns, ∀ later,
    turns ≤ later.countP ClientDatabaseEvent.isTurn →
      (step sqlite (EventRun.exec (step sqlite) database later) (.resume caller)).waiting caller ≠
        some task

/-- A thread whose future is fulfilled returns from its call. -/
theorem waiting_resume_ne (database : ClientDatabase δ) (caller : Caller) {task : Nat}
    (finished : task < database.worker.results.length) :
    (step sqlite database (.resume caller)).waiting caller ≠ some task := by
  rw [step]
  split
  · dsimp only
    rw [if_pos rfl]
    exact (Option.some_ne_none task).symm
  · next unready =>
      intro waits
      rw [ready, waits] at unready
      exact unready (decide_eq_true finished)

/-- A task in the queue of a running worker is finished after finitely many turns. -/
theorem exists_turns_finishing {database : ClientDatabase δ} (answering : database.Answering)
    (running : database.worker.phase = .running) {task : Nat}
    (lt : task < database.callbacks.length) :
    ∃ turns, ∀ later, turns ≤ later.countP ClientDatabaseEvent.isTurn →
      task < (EventRun.exec (step sqlite) database later).worker.results.length := by
  rw [answering.posted] at lt
  exact ⟨_, fun later enough => (hosts sqlite).le_length_of_turns answering running lt enough⟩

/-- A step that posts no task to wait for. -/
theorem CallsReturn.quiet {database : ClientDatabase δ} {event : ClientDatabaseEvent}
    (returns : database.CallsReturn sqlite)
    (sameWaits : ∀ caller task, (step sqlite database event).waiting caller = some task →
      database.waiting caller = some task)
    (samePosts : (step sqlite database event).syncPosts = database.syncPosts) :
    (step sqlite database event).CallsReturn sqlite := by
  constructor
  · rw [samePosts]
    exact returns.posts
  · intro caller task waits
    rcases returns.returns caller task (sameWaits caller task waits) with ⟨turns, finishes⟩
    refine ⟨turns, fun later enough => ?_⟩
    exact finishes (event :: later)
      (enough.trans (List.Sublist.countP_le (List.sublist_cons_self event later)))

/-- A task that is posted to a running worker by another thread. -/
theorem CallsReturn.posting {database : ClientDatabase δ} {event : ClientDatabaseEvent}
    (returns : database.CallsReturn sqlite)
    (answering : (step sqlite database event).Answering) {caller : Caller}
    (other : caller ≠ .worker) (running : database.worker.phase = .running)
    (stillRunning : (step sqlite database event).worker.phase = .running)
    (waits : ∀ thread task, (step sqlite database event).waiting thread = some task →
      thread = caller ∨ database.waiting thread = some task)
    (posts : (step sqlite database event).syncPosts =
      database.syncPosts ++ [⟨caller, database.worker.phase⟩]) :
    (step sqlite database event).CallsReturn sqlite := by
  constructor
  · rw [posts]
    intro post member
    rcases List.mem_append.mp member with earlier | here
    · exact returns.posts post earlier
    · rw [List.mem_singleton.mp here]
      exact ⟨other, running⟩
  · intro thread task waiting
    rcases waits thread task waiting with rfl | before
    · rcases exists_turns_finishing sqlite answering stillRunning
        (answering.waiting_lt thread task waiting) with ⟨turns, finishes⟩
      exact ⟨turns, fun later enough => waiting_resume_ne sqlite _ thread (finishes later enough)⟩
    · rcases returns.returns thread task before with ⟨turns, finishes⟩
      refine ⟨turns, fun later enough => ?_⟩
      exact finishes (event :: later)
        (enough.trans (List.Sublist.countP_le (List.sublist_cons_self event later)))

/-- A step in which a thread makes a call returns to it exactly if the call does
not wait or the worker still runs. -/
theorem callsReturn_call_iff {database : ClientDatabase δ} {event : ClientDatabaseEvent}
    {caller : Caller} {dbCall : ClientDbCall} (answering : database.Answering)
    (returns : database.CallsReturn sqlite) (other : caller ≠ .worker)
    (calls : ∃ before : ClientDatabase δ, step sqlite database event = before.call caller dbCall ∧
      before.worker = database.worker ∧ before.waiting = database.waiting ∧
      before.syncPosts = database.syncPosts) :
    (step sqlite database event).CallsReturn sqlite ↔
      (dbCall.waits = true → database.worker.phase ≠ .exited) := by
  rcases calls with ⟨before, stepped, sameWorker, sameWaiting, samePosts⟩
  by_cases waits : dbCall.waits = true
  · have posts : (step sqlite database event).syncPosts =
        database.syncPosts ++ [⟨caller, database.worker.phase⟩] := by
      rw [stepped, ClientDatabase.call, if_pos waits, ← samePosts, ← sameWorker]
      rfl
    constructor
    · intro after _ exited
      have post := after.posts ⟨caller, database.worker.phase⟩ (by rw [posts]; simp)
      exact absurd (exited.symm.trans post.2) (by decide)
    · intro notExited
      have running : database.worker.phase = .running := by
        cases phase : database.worker.phase with
        | unstarted => exact absurd phase answering.started
        | running => rfl
        | exited => exact absurd phase (notExited waits)
      refine returns.posting sqlite (answering.step sqlite event) other running ?_ ?_ posts
      · rw [stepped, ClientDatabase.call, if_pos waits, ← running, ← sameWorker]
        rfl
      · intro thread task waiting
        rw [stepped, ClientDatabase.call, if_pos waits] at waiting
        change (if thread = caller then some before.callbacks.length
          else before.waiting thread) = some task at waiting
        split at waiting
        · next same => exact .inl same
        · exact .inr (by rw [← sameWaiting]; exact waiting)
  · refine iff_of_true (returns.quiet sqlite ?_ ?_) fun waiting => absurd waiting waits
    · intro thread task waiting
      rw [stepped, ClientDatabase.call, if_neg waits] at waiting
      rw [← sameWaiting]
      exact waiting
    · rw [stepped, ClientDatabase.call, if_neg waits]
      exact samePosts

/-! ## Runs of the client -/

/-- The client when its constructor begins. -/
def start (steps : List ConstructorStep) : ClientDatabase δ :=
  { constructing := steps }

/-- Opening the database starts the worker. -/
theorem answering_openDatabase {steps : List ConstructorStep}
    (opened : ∀ next ∈ steps, next ≠ .openDatabase) :
    (openDatabase .constructor (start steps : ClientDatabase δ)).Answering := by
  have running : ({ (start steps : ClientDatabase δ) with
      worker := (start steps : ClientDatabase δ).worker.start }).Answering := by
    constructor
    · exact opened
    · exact fun _ => ⟨rfl, rfl⟩
    · exact WorkerPhase.noConfusion
    · rfl
    · exact fun callsBack member => absurd member List.not_mem_nil
    · exact fun caller task waits => absurd waits.symm (Option.some_ne_none task)
    · rfl
  exact running.postSync (by decide) openTask

/-- Nothing happens before the constructor's first step. -/
theorem step_start {next : ConstructorStep} {steps : List ConstructorStep}
    {event : ClientDatabaseEvent} (other : event ≠ .construct) :
    step sqlite (start (next :: steps) : ClientDatabase δ) event = start (next :: steps) := by
  cases event with
  | construct => exact absurd rfl other
  | call caller dbCall => rfl
  | turn => rfl
  | resume caller => rfl
  | destroy => rfl

theorem callsReturn_start (steps : List ConstructorStep) :
    (start steps : ClientDatabase δ).CallsReturn sqlite := by
  constructor
  · exact fun post member => absurd member List.not_mem_nil
  · exact fun caller task waits => absurd waits.symm (Option.some_ne_none task)

/-- The database has a path when the constructor comes to it, and a call that
waits is made before the worker has left. -/
def Timely (config : ClientConfig) (database : ClientDatabase δ) : ClientDatabaseEvent → Prop
  | .construct => config.dbPath ≠ ""
  | .call caller dbCall =>
      database.mayCall caller = true → dbCall.waits = true → database.worker.phase ≠ .exited
  | .turn | .resume _ | .destroy => True

/-- With an open database a step returns from all calls exactly if it is timely. -/
theorem callsReturn_step_iff {config : ClientConfig} (path : config.dbPath ≠ "")
    {database : ClientDatabase δ} (answering : database.Answering)
    (returns : database.CallsReturn sqlite) (event : ClientDatabaseEvent) :
    (step sqlite database event).CallsReturn sqlite ↔ Timely config database event := by
  have unchanged : step sqlite database event = database →
      (step sqlite database event).CallsReturn sqlite := fun same => by rwa [same]
  cases event with
  | construct =>
      refine iff_of_true ?_ path
      by_cases busy : (database.waiting .constructor).isSome
      · exact unchanged (by rw [step, if_pos busy])
      cases constructing : database.constructing with
      | nil => exact unchanged (by rw [step, if_neg busy, constructing])
      | cons next steps =>
          cases next with
          | openDatabase =>
              exact absurd rfl (answering.opened .openDatabase
                (by rw [constructing]; exact List.mem_cons_self))
          | call dbCall =>
              have stepped : step sqlite database .construct =
                  { database with constructing := steps }.call .constructor dbCall := by
                rw [step, if_neg busy, constructing]
              refine (callsReturn_call_iff sqlite answering returns (by decide)
                ⟨_, stepped, rfl, rfl, rfl⟩).mpr fun _ exited => ?_
              have running := (answering.building
                (by rw [constructing]; exact List.cons_ne_nil _ _)).1
              exact absurd (running.symm.trans exited) (by decide)
  | call caller dbCall =>
      by_cases may : database.mayCall caller = true
      · have other : caller ≠ .worker := by
          rintro rfl
          rw [answering.mayCall_worker] at may
          exact Bool.false_ne_true may
        have stepped : step sqlite database (.call caller dbCall) =
            database.call caller dbCall := by
          rw [step, if_pos may]
        refine (callsReturn_call_iff sqlite answering returns other
          ⟨_, stepped, rfl, rfl, rfl⟩).trans ?_
        exact ⟨fun timely _ => timely, fun timely => timely may⟩
      · exact iff_of_true (unchanged (by rw [step, if_neg may])) fun mayCall => absurd mayCall may
  | turn =>
      refine iff_of_true (returns.quiet sqlite ?_ ?_) trivial
      · intro caller task waits
        rw [step] at waits
        split at waits <;> exact waits
      · rw [step]
        split <;> rfl
  | resume caller =>
      refine iff_of_true (returns.quiet sqlite ?_ ?_) trivial
      · intro other task waits
        rw [step] at waits
        split at waits
        · change (if other = caller then none else database.waiting other) = some task at waits
          split at waits
          · exact absurd waits.symm (Option.some_ne_none task)
          · exact waits
        · exact waits
      · rw [step]
        split <;> rfl
  | destroy =>
      refine iff_of_true (returns.quiet sqlite ?_ ?_) trivial
      · intro caller task waits
        rw [step] at waits
        split at waits <;> exact waits
      · rw [step]
        split <;> rfl

/-- Without a path the constructor waits for a worker that was never started. -/
theorem not_callsReturn_construct :
    ¬(step sqlite (start AuthManager.constructorSteps : ClientDatabase δ)
      .construct).CallsReturn sqlite := by
  intro returns
  exact absurd (returns.posts ⟨.constructor, .unstarted⟩ List.mem_cons_self).2 (by decide)

theorem answering_construct :
    (step sqlite (start (.openDatabase :: AuthManager.constructorSteps) : ClientDatabase δ)
      .construct).Answering :=
  answering_openDatabase (by simp [AuthManager.constructorSteps])

theorem callsReturn_construct :
    (step sqlite (start (.openDatabase :: AuthManager.constructorSteps) : ClientDatabase δ)
      .construct).CallsReturn sqlite := by
  have first : (step sqlite (start (.openDatabase :: AuthManager.constructorSteps) :
      ClientDatabase δ) .construct).Answering := answering_construct sqlite
  constructor
  · intro post member
    rw [List.mem_singleton.mp member]
    exact ⟨Caller.noConfusion, rfl⟩
  · intro caller task waits
    rcases exists_turns_finishing sqlite first rfl (first.waiting_lt caller task waits)
      with ⟨turns, finishes⟩
    exact ⟨turns, fun later enough => waiting_resume_ne sqlite _ caller (finishes later enough)⟩

/-- Before the constructor runs nobody can call. -/
theorem timely_start {config : ClientConfig} {next : ConstructorStep}
    {rest : List ConstructorStep} {event : ClientDatabaseEvent} (other : event ≠ .construct) :
    Timely config (start (next :: rest) : ClientDatabase δ) event := by
  cases event with
  | construct => exact absurd rfl other
  | call caller dbCall => exact fun may => absurd may Bool.false_ne_true
  | turn | resume _ | destroy => trivial

/-- A run of an accepted configuration returns from every synchronous call exactly
if its database has a path, or is not reached, and no call that waits is made once
the worker has left. -/
theorem callsReturn_always_iff {config : ClientConfig} {steps : List ConstructorStep}
    (accepted : config.constructorSteps = .ok steps) (events : List ClientDatabaseEvent) :
    EventRun.Always (step sqlite) (CallsReturn sqlite) (start steps : ClientDatabase δ) events ↔
      EventRun.Guarded (step sqlite) (Timely config) (start steps) events := by
  have steps_eq := ClientConfig.constructorSteps_eq accepted
  by_cases path : config.dbPath = ""
  · rw [if_neg (not_not_intro path), List.nil_append] at steps_eq
    obtain rfl := steps_eq
    -- Either the constructor has not run, or it waits for ever.
    let Stuck (database : ClientDatabase δ) : Prop :=
      database = start AuthManager.constructorSteps ∨ ¬database.CallsReturn sqlite
    have kept : ∀ (database : ClientDatabase δ) event, Stuck database →
        database.CallsReturn sqlite → Stuck (step sqlite database event) := by
      rintro database event (rfl | stuck) returns
      · by_cases construct : event = .construct
        · exact .inr (construct ▸ not_callsReturn_construct sqlite)
        · exact .inl (step_start sqlite construct)
      · exact absurd returns stuck
    have guards : ∀ (database : ClientDatabase δ) event, Stuck database →
        database.CallsReturn sqlite →
          ((step sqlite database event).CallsReturn sqlite ↔ Timely config database event) := by
      rintro database event (rfl | stuck) returns
      · by_cases construct : event = .construct
        · subst construct
          exact iff_of_false (not_callsReturn_construct sqlite) fun timely => timely path
        · have idle : step sqlite (start AuthManager.constructorSteps : ClientDatabase δ) event =
              start AuthManager.constructorSteps := step_start sqlite construct
          rw [idle]
          exact iff_of_true returns (timely_start construct)
      · exact absurd returns stuck
    exact EventRun.always_iff_guarded kept guards (.inl rfl) (callsReturn_start sqlite _) events
  · rw [if_pos path, List.singleton_append] at steps_eq
    obtain rfl := steps_eq
    let Open (database : ClientDatabase δ) : Prop :=
      database = start (.openDatabase :: AuthManager.constructorSteps) ∨ database.Answering
    have kept : ∀ (database : ClientDatabase δ) event, Open database →
        database.CallsReturn sqlite → Open (step sqlite database event) := by
      rintro database event (rfl | answering) _
      · by_cases construct : event = .construct
        · exact .inr (construct ▸ answering_construct sqlite)
        · exact .inl (step_start sqlite construct)
      · exact .inr (answering.step sqlite event)
    have guards : ∀ (database : ClientDatabase δ) event, Open database →
        database.CallsReturn sqlite →
          ((step sqlite database event).CallsReturn sqlite ↔ Timely config database event) := by
      rintro database event (rfl | answering) returns
      · by_cases construct : event = .construct
        · subst construct
          exact iff_of_true (callsReturn_construct sqlite) path
        · rw [step_start sqlite construct]
          exact iff_of_true returns (timely_start construct)
      · exact callsReturn_step_iff sqlite path answering returns event
    exact EventRun.always_iff_guarded kept guards (.inl rfl) (callsReturn_start sqlite _) events

/-- Without a worker nothing happens while the constructor waits. -/
theorem step_of_waits {database : ClientDatabase δ} {task : Nat}
    (unstarted : database.worker.phase = .unstarted) (none : database.worker.results = [])
    (waits : database.waiting .constructor = some task) (event : ClientDatabaseEvent) :
    step sqlite database event = database := by
  have building : database.built = false := by
    rw [built, waits]
    exact Bool.and_false _
  cases event with
  | construct => rw [step, waits]; rfl
  | call caller dbCall =>
      rw [step, if_neg]
      simp only [mayCall, building, Bool.false_and]
      exact Bool.false_ne_true
  | turn =>
      rw [step, JobWorker.turn_of_not_running (by rw [unstarted]; decide)]
      exact ite_self _
  | resume caller =>
      rw [step, if_neg]
      rw [ready, none]
      split
      · exact Bool.false_ne_true
      · next task _ => simp
  | destroy => rw [step, building, Bool.false_and, if_neg Bool.false_ne_true]

theorem exec_of_waits {database : ClientDatabase δ} {task : Nat}
    (unstarted : database.worker.phase = .unstarted) (none : database.worker.results = [])
    (waits : database.waiting .constructor = some task) (events : List ClientDatabaseEvent) :
    EventRun.exec (step sqlite) database events = database := by
  induction events with
  | nil => rfl
  | cons event events ih => rw [EventRun.exec_cons, step_of_waits sqlite unstarted none waits, ih]

/-- An SQLite with no data whose calls all succeed. -/
def emptySqlite : Sqlite Statement Unit where
  openFile := some ()
  statement _ _ data := (⟨[], ""⟩, data)
  beginError _ := ""
  commitError _ := ""
  rollsBack _ := false
  statement_of_error _ _ _ failed := absurd rfl failed

/-- The configuration of a client that keeps its database in a file. -/
def fileConfig : ClientConfig :=
  { gatewayUrl := "wss://api.anychat.io", apiBaseUrl := "https://api.anychat.io/api/v1",
    deviceId := "device", dbPath := "anychat.db" }

/-- The configuration that the Web platform is told to use. -/
def webConfig : ClientConfig :=
  { fileConfig with dbPath := "" }

/-- The constructor runs to its end, the database is destroyed, and its worker
leaves. -/
def wholeLife : List ClientDatabaseEvent :=
  (List.replicate 4 [.construct, .turn, .turn, .turn, .resume .constructor]).flatten ++
    [.destroy, .turn]

theorem callsReturn_always_fileConfig :
    EventRun.Always (step emptySqlite) (CallsReturn emptySqlite)
        (start (.openDatabase :: AuthManager.constructorSteps)) wholeLife ↔
      EventRun.Guarded (step emptySqlite) (Timely fileConfig)
        (start (.openDatabase :: AuthManager.constructorSteps)) wholeLife :=
  callsReturn_always_iff emptySqlite (show fileConfig.constructorSteps = .ok _ from rfl) wholeLife

/-- The constructor accepts the configuration of the Web and waits forever. -/
theorem not_callsReturn_webConfig :
    webConfig.constructorSteps = .ok AuthManager.constructorSteps ∧
      (∀ events, (EventRun.exec (step emptySqlite) (start AuthManager.constructorSteps)
        (.construct :: events)).waiting .constructor = some 0) ∧
      ¬∀ events, (EventRun.exec (step emptySqlite) (start AuthManager.constructorSteps)
        events).CallsReturn emptySqlite := by
  have first : (step emptySqlite (start AuthManager.constructorSteps) .construct).waiting
      .constructor = some 0 :=
    rfl
  have waits := exec_of_waits emptySqlite (by rfl) (by rfl) first
  constructor
  · rfl
  · constructor
    · intro events
      rw [EventRun.exec_cons, waits]
      rfl
    · intro returns
      rcases (returns [.construct]).returns .constructor 0 rfl with ⟨turns, finishes⟩
      refine absurd ?_ (finishes (List.replicate turns .turn) ?_)
      · rw [EventRun.exec_cons, EventRun.exec_nil, waits]
        rfl
      · rw [List.countP_replicate]
        exact Nat.le_refl turns

end ClientDatabase

end AnychatSdk
