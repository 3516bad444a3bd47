import AnychatSdk.Lib.Worker
import AnychatSdk.Db.Rows

/-!
# The database and its worker

`Database` owns a connection to SQLite and a worker thread.  Every call posts one
task, and the worker runs the tasks one after another; a transaction is a single
task that begins, runs the statements of the caller's function and commits or
rolls back.  SQLite may roll it back by itself when a statement fails; the
statements that the function goes on with then take effect one by one.
-/

namespace AnychatSdk

/-- What `execOrQuery` gives back: the rows it stepped through and the text of the
error, which is empty on success. -/
structure SqlResult where
  rows : List Row
  error : String

def SqlResult.ok (result : SqlResult) : Bool :=
  result.error == ""

/-- What SQLite makes of the statements of the callers, which control no
transaction.  The numbers count the calls on the connection and stand for
everything that is not in the data, such as a full disk.  A statement that fails
has no effect; upon some errors (`SQLITE_FULL`, `SQLITE_IOERR`, `SQLITE_NOMEM`,
`SQLITE_BUSY`, `SQLITE_INTERRUPT`) SQLite rolls back an open transaction besides. -/
structure Sqlite (τ δ : Type) where
  openFile : Option δ
  statement : Nat → τ → δ → SqlResult × δ
  beginError : Nat → String
  commitError : Nat → String
  rollsBack : Nat → Bool
  statement_of_error : ∀ call stmt data, (statement call stmt data).1.error ≠ "" →
    (statement call stmt data).2 = data

/-- A connection: its data and, inside a transaction, the data that a rollback
restores. -/
structure Connection (δ : Type) where
  data : δ
  saved : Option δ := none
  calls : Nat := 0

/-- What the tasks pass to `execOrQuery`: the texts that control a transaction, or
a statement of the caller with its parameters. -/
inductive SqlText (τ : Type) where
  | begin
  | commit
  | rollback
  | statement (stmt : τ)

/-- What the tasks do with the handle of SQLite. -/
inductive DbOp (τ : Type) where
  | openFile
  | execOrQuery (text : SqlText τ)

/-- The connection once the open transaction, if there is one, is undone. -/
def Connection.rolledBack {δ : Type} (connection : Connection δ) : Connection δ :=
  match connection.saved with
  | none => connection
  | some data => { connection with data := data, saved := none }

namespace Sqlite

variable {τ δ : Type} (sqlite : Sqlite τ δ)

/-- The connection after a call that fails. -/
def failed (call : Nat) (connection : Connection δ) : Connection δ :=
  if sqlite.rollsBack call then connection.rolledBack else connection

/-- `execOrQuery` on an open connection. -/
def execOrQuery (text : SqlText τ) (connection : Connection δ) : SqlResult × Connection δ :=
  let connection' := { connection with calls := connection.calls + 1 }
  match text, connection.saved with
  | .begin, none =>
      let error := sqlite.beginError connection.calls
      (⟨[], error⟩,
        if error = "" then { connection' with saved := some connection.data } else connection')
  | .begin, some _ => (⟨[], "cannot start a transaction within a transaction"⟩, connection')
  | .commit, some _ =>
      let error := sqlite.commitError connection.calls
      (⟨[], error⟩,
        if error = "" then { connection' with saved := none }
        else sqlite.failed connection.calls connection')
  | .commit, none => (⟨[], "cannot commit - no transaction is active"⟩, connection')
  | .rollback, some _ => (⟨[], ""⟩, connection'.rolledBack)
  | .rollback, none => (⟨[], "cannot rollback - no transaction is active"⟩, connection')
  | .statement stmt, _ =>
      let (result, data) := sqlite.statement connection.calls stmt connection.data
      (result,
        if result.ok then { connection' with data := data }
        else sqlite.failed connection.calls { connection' with data := data })

/-- One operation on the handle, which is null before the file is open. -/
def perform (op : DbOp τ) (rawDb : Option (Connection δ)) :
    SqlResult × Option (Connection δ) :=
  match op, rawDb with
  | .openFile, _ =>
      match sqlite.openFile with
      | none => (⟨[], "unable to open database file"⟩, none)
      | some data => (⟨[], ""⟩, some { data := data })
  | .execOrQuery _, none => (⟨[], "out of memory"⟩, none)
  | .execOrQuery text, some connection =>
      let (result, connection) := sqlite.execOrQuery text connection
      (result, some connection)

end Sqlite

/-- What the function of `transactionSync` does with its scope: it ends with a
value or an exception. -/
inductive TxFunction (τ : Type) where
  | returns (ok : Bool)
  | throws
  | execDirect (stmt : τ) (next : Bool → TxFunction τ)
  | queryDirect (stmt : τ) (next : List Row → TxFunction τ)

/-- The calls that post a task. -/
inductive DbCall (τ : Type) where
  | exec (stmt : τ)
  | query (stmt : τ)
  | execSync (stmt : τ)
  | querySync (stmt : τ)
  | transactionSync (fn : TxFunction τ)

/-- What a call learns: the arguments of the callback or the value it returns. -/
inductive DbAnswer where
  | opened (ok : Bool)
  | exec (ok : Bool) (error : String)
  | query (rows : List Row) (error : String)
  | execSync (ok : Bool)
  | querySync (rows : List Row)
  | transactionSync (committed : Bool)

/-- A task of the worker. -/
abbrev DbTask (τ : Type) := Program (DbOp τ) SqlResult DbAnswer

/-- The body of the `try` block: the value `ok` has after it. -/
def TxFunction.body {τ : Type} : TxFunction τ → Program (DbOp τ) SqlResult Bool
  | .returns ok => .done ok
  | .throws => .done false
  | .execDirect stmt next =>
      .perform (.execOrQuery (.statement stmt)) fun result => (next result.ok).body
  | .queryDirect stmt next =>
      .perform (.execOrQuery (.statement stmt)) fun result => (next result.rows).body

/-- What follows the `try` block. -/
def finishTransaction {τ : Type} (ok : Bool) : DbTask τ :=
  if ok then
    .perform (.execOrQuery .commit) fun result =>
      if result.ok then .done (.transactionSync true)
      else .perform (.execOrQuery .rollback) fun _ => .done (.transactionSync false)
  else .perform (.execOrQuery .rollback) fun _ => .done (.transactionSync false)

/-- The task that `open` posts. -/
def openTask {τ : Type} : DbTask τ :=
  .perform .openFile fun result => .done (.opened result.ok)

/-- The task that a call posts. -/
def DbCall.task {τ : Type} : DbCall τ → DbTask τ
  | .exec stmt =>
      .perform (.execOrQuery (.statement stmt)) fun result =>
        .done (.exec result.ok result.error)
  | .query stmt =>
      .perform (.execOrQuery (.statement stmt)) fun result =>
        .done (.query result.rows result.error)
  | .execSync stmt =>
      .perform (.execOrQuery (.statement stmt)) fun result => .done (.execSync result.ok)
  | .querySync stmt =>
      .perform (.execOrQuery (.statement stmt)) fun result => .done (.querySync result.rows)
  | .transactionSync fn =>
      .perform (.execOrQuery .begin) fun result =>
        if result.ok then fn.body.bind finishTransaction
        else .done (.transactionSync false)

/-- The worker of a database. -/
abbrev DbWorker (τ δ : Type) := JobWorker (Option (Connection δ)) (DbOp τ) SqlResult DbAnswer

/-! ## A store without transactions -/

/-- A store that runs one call at a time. -/
structure Store (δ : Type) where
  data : δ
  calls : Nat := 0

/-- The connection to a store, with no transaction open. -/
def Store.connection {δ : Type} (store : Store δ) : Connection δ :=
  { data := store.data, calls := store.calls }

namespace Sqlite

variable {τ δ : Type} (sqlite : Sqlite τ δ)

/-- One statement on a store. -/
def onStore (stmt : τ) (store : Store δ) : SqlResult × Store δ :=
  let (result, data) := sqlite.statement store.calls stmt store.data
  (result, ⟨data, store.calls + 1⟩)

/-- The value of a transaction's function, none if it throws, and the connection
with the effects of its statements. -/
def effects : TxFunction τ → Connection δ → Option Bool × Connection δ
  | .returns ok, connection => (some ok, connection)
  | .throws, connection => (none, connection)
  | .execDirect stmt next, connection =>
      let (result, connection) := sqlite.execOrQuery (.statement stmt) connection
      effects (next result.ok) connection
  | .queryDirect stmt next, connection =>
      let (result, connection) := sqlite.execOrQuery (.statement stmt) connection
      effects (next result.rows) connection

/-- The statements of a transaction's function that succeed, on the connections
that count. -/
def successes (counts : Connection δ → Bool) : TxFunction τ → Connection δ → List (Nat × τ)
  | .returns _, _ | .throws, _ => []
  | .execDirect stmt next, connection =>
      let (result, connection') := sqlite.execOrQuery (.statement stmt) connection
      (if result.ok && counts connection then [(connection.calls, stmt)] else []) ++
        successes counts (next result.ok) connection'
  | .queryDirect stmt next, connection =>
      let (result, connection') := sqlite.execOrQuery (.statement stmt) connection
      (if result.ok && counts connection then [(connection.calls, stmt)] else []) ++
        successes counts (next result.rows) connection'

/-- The statements that succeed once SQLite has rolled back the transaction. -/
abbrev successesAfterLoss : TxFunction τ → Connection δ → List (Nat × τ) :=
  sqlite.successes fun connection => connection.saved.isNone

/-- The data after some statements. -/
def applyAll (stmts : List (Nat × τ)) (data : δ) : δ :=
  stmts.foldl (fun data stmt => (sqlite.statement stmt.1 stmt.2 data).2) data

/-- The connection after a BEGIN that succeeds. -/
def begun (store : Store δ) : Connection δ :=
  { data := store.data, saved := some store.data, calls := store.calls + 1 }

/-- A transaction on a store.  What is undone at its end is the open transaction,
if it is still open. -/
def transaction (fn : TxFunction τ) (store : Store δ) : Bool × Store δ :=
  if sqlite.beginError store.calls = "" then
    let (ok, after) := sqlite.effects fn (begun store)
    if ok = some true then
      if after.saved.isSome ∧ sqlite.commitError after.calls = "" then
        (true, ⟨after.data, after.calls + 1⟩)
      else (false, ⟨after.rolledBack.data, after.calls + 2⟩)
    else (false, ⟨after.rolledBack.data, after.calls + 1⟩)
  else (false, ⟨store.data, store.calls + 1⟩)

/-- The answer of a call, and the store after it. -/
def answer : DbCall τ → Store δ → DbAnswer × Store δ
  | .exec stmt, store =>
      let (result, store) := sqlite.onStore stmt store
      (.exec result.ok result.error, store)
  | .query stmt, store =>
      let (result, store) := sqlite.onStore stmt store
      (.query result.rows result.error, store)
  | .execSync stmt, store =>
      let (result, store) := sqlite.onStore stmt store
      (.execSync result.ok, store)
  | .querySync stmt, store =>
      let (result, store) := sqlite.onStore stmt store
      (.querySync result.rows, store)
  | .transactionSync fn, store =>
      let (committed, store) := sqlite.transaction fn store
      (.transactionSync committed, store)

/-- The answers of calls that run one at a time, and the store after them. -/
def answers : List (DbCall τ) → Store δ → List DbAnswer × Store δ
  | [], store => ([], store)
  | call :: calls, store =>
      let (answer, store) := sqlite.answer call store
      let (answers, store) := answers calls store
      (answer :: answers, store)

/-! ## Transactions -/

theorem applyAll_append (first second : List (Nat × τ)) (data : δ) :
    sqlite.applyAll (first ++ second) data = sqlite.applyAll second (sqlite.applyAll first data) :=
  List.foldl_append

/-- A statement that fails leaves the data as they are, or as they were before the
transaction. -/
theorem execOrQuery_of_failed {stmt : τ} {connection : Connection δ}
    (fails : (sqlite.statement connection.calls stmt connection.data).1.ok = false) :
    sqlite.execOrQuery (.statement stmt) connection =
      ((sqlite.statement connection.calls stmt connection.data).1,
        sqlite.failed connection.calls { connection with calls := connection.calls + 1 }) := by
  have unchanged := sqlite.statement_of_error connection.calls stmt connection.data
    (by simpa [SqlResult.ok] using fails)
  simp [execOrQuery, fails, unchanged]

theorem execOrQuery_of_ok {stmt : τ} {connection : Connection δ}
    (ok : (sqlite.statement connection.calls stmt connection.data).1.ok = true) :
    sqlite.execOrQuery (.statement stmt) connection =
      ((sqlite.statement connection.calls stmt connection.data).1,
        { connection with
          data := (sqlite.statement connection.calls stmt connection.data).2
          calls := connection.calls + 1 }) := by
  simp [execOrQuery, ok]

/-- A statement outside a transaction runs on its own. -/
theorem execOrQuery_on_store (stmt : τ) (store : Store δ) :
    sqlite.execOrQuery (.statement stmt) store.connection =
      ((sqlite.onStore stmt store).1, (sqlite.onStore stmt store).2.connection) := by
  cases ok : (sqlite.statement store.calls stmt store.data).1.ok with
  | true =>
      rw [execOrQuery_of_ok _ ok]
      rfl
  | false =>
      have unchanged := sqlite.statement_of_error store.calls stmt store.data
        (by simpa [SqlResult.ok] using ok)
      rw [execOrQuery_of_failed _ ok]
      cases rolls : sqlite.rollsBack store.calls <;>
        simp [failed, rolls, Connection.rolledBack, Store.connection, onStore, unchanged]

/-- What a function leaves behind: all its effects in a transaction that stays
open, and only those after the loss where the transaction is lost on the way or
before. -/
structure Leaves (fn : TxFunction τ) (connection after : Connection δ) : Prop where
  lost : connection.saved = none → after.saved = none ∧
    after.data = sqlite.applyAll (sqlite.successesAfterLoss fn connection) connection.data
  open_or_lost : ∀ saved, connection.saved = some saved →
    after.saved = some saved ∧
        after.data = sqlite.applyAll (sqlite.successes (fun _ => true) fn connection)
          connection.data ∧
        sqlite.successesAfterLoss fn connection = [] ∨
      after.saved = none ∧
        after.data = sqlite.applyAll (sqlite.successesAfterLoss fn connection) saved

/-- One statement, and the rest of the function behind it. -/
theorem Leaves.cons {fn rest : TxFunction τ} {stmt : τ} {connection after : Connection δ}
    (split : ∀ counts, sqlite.successes counts fn connection =
      (if (sqlite.execOrQuery (.statement stmt) connection).1.ok && counts connection then
          [(connection.calls, stmt)] else []) ++
        sqlite.successes counts rest (sqlite.execOrQuery (.statement stmt) connection).2)
    (leaves : sqlite.Leaves rest (sqlite.execOrQuery (.statement stmt) connection).2 after) :
    sqlite.Leaves fn connection after := by
  cases ok : (sqlite.statement connection.calls stmt connection.data).1.ok with
  | true =>
      rw [execOrQuery_of_ok _ ok] at split leaves
      constructor
      · intro none
        rcases leaves.lost none with ⟨unsaved, data⟩
        refine ⟨unsaved, data.trans ?_⟩
        rw [successesAfterLoss, split, applyAll_append]
        simp [ok, none, applyAll]
      · intro saved isSaved
        rcases leaves.open_or_lost saved isSaved with ⟨stays, data, nothing⟩ | ⟨unsaved, data⟩
        · refine .inl ⟨stays, data.trans ?_, ?_⟩
          · rw [split, applyAll_append]
            simp [ok, applyAll]
          · rw [successesAfterLoss, split]
            simpa [isSaved] using nothing
        · refine .inr ⟨unsaved, data.trans ?_⟩
          rw [successesAfterLoss, split]
          simp [isSaved]
  | false =>
      rw [execOrQuery_of_failed _ ok] at split leaves
      have same : ∀ counts, sqlite.successes counts fn connection =
          sqlite.successes counts rest (sqlite.failed connection.calls
            { connection with calls := connection.calls + 1 }) := fun counts => by
        rw [split, ok]
        rfl
      constructor
      · intro none
        have stays : sqlite.failed connection.calls
            { connection with calls := connection.calls + 1 } =
              { connection with calls := connection.calls + 1 } := by
          simp [failed, Connection.rolledBack, none]
        rw [successesAfterLoss, same, stays]
        rw [stays] at leaves
        exact leaves.lost none
      · intro saved isSaved
        rw [successesAfterLoss, same, same]
        cases rolls : sqlite.rollsBack connection.calls with
        | true =>
            have undone : sqlite.failed connection.calls
                { connection with calls := connection.calls + 1 } =
                  { data := saved, calls := connection.calls + 1 } := by
              simp [failed, rolls, Connection.rolledBack, isSaved]
            rw [undone] at leaves ⊢
            exact .inr (leaves.lost rfl)
        | false =>
            have stays : sqlite.failed connection.calls
                { connection with calls := connection.calls + 1 } =
                  { connection with calls := connection.calls + 1 } := by
              simp [failed, rolls]
            rw [stays] at leaves ⊢
            exact leaves.open_or_lost saved isSaved

theorem leaves_effects (fn : TxFunction τ) (connection : Connection δ) :
    sqlite.Leaves fn connection (sqlite.effects fn connection).2 := by
  induction fn generalizing connection with
  | returns ok =>
      exact ⟨fun none => ⟨none, rfl⟩, fun saved isSaved => .inl ⟨isSaved, rfl, rfl⟩⟩
  | throws =>
      exact ⟨fun none => ⟨none, rfl⟩, fun saved isSaved => .inl ⟨isSaved, rfl, rfl⟩⟩
  | execDirect stmt next ih => exact .cons sqlite (fun _ => rfl) (ih _ _)
  | queryDirect stmt next ih => exact .cons sqlite (fun _ => rfl) (ih _ _)

/-- Something keeps a transaction from taking effect: BEGIN or COMMIT fails, or
the function does not return true. -/
def Fails (fn : TxFunction τ) (store : Store δ) : Prop :=
  sqlite.beginError store.calls ≠ "" ∨
    (sqlite.effects fn (begun store)).1 ≠ some true ∨
    (sqlite.execOrQuery .commit (sqlite.effects fn (begun store)).2).1.ok = false

/-- A transaction commits exactly the effects of its successful statements, or it
fails and leaves the data as it was. -/
structure AllOrNothing (fn : TxFunction τ) (store : Store δ) : Prop where
  fails_iff : (sqlite.transaction fn store).1 = false ↔ sqlite.Fails fn store
  committed : (sqlite.transaction fn store).1 = true →
    (sqlite.transaction fn store).2.data =
      sqlite.applyAll (sqlite.successes (fun _ => true) fn (begun store)) store.data
  nothing : (sqlite.transaction fn store).1 = false →
    (sqlite.transaction fn store).2.data = store.data

/-- If a statement fails and SQLite rolls back the transaction with it, the
statements that the function goes on with leave the data as they were. -/
def LossIsFinal (fn : TxFunction τ) (store : Store δ) : Prop :=
  sqlite.beginError store.calls = "" →
    sqlite.applyAll (sqlite.successesAfterLoss fn (begun store)) store.data = store.data

theorem commit_ok_iff (connection : Connection δ) :
    (sqlite.execOrQuery .commit connection).1.ok = true ↔
      connection.saved.isSome ∧ sqlite.commitError connection.calls = "" := by
  rcases connection with ⟨data, _ | saved, calls⟩ <;> simp [execOrQuery, SqlResult.ok]

theorem transaction_fst_iff (fn : TxFunction τ) (store : Store δ) :
    (sqlite.transaction fn store).1 = false ↔ sqlite.Fails fn store := by
  have commits := sqlite.commit_ok_iff (sqlite.effects fn (begun store)).2
  rw [Fails, ← Bool.not_eq_true, ← Bool.not_eq_true, commits, transaction]
  by_cases begins : sqlite.beginError store.calls = ""
  · by_cases ok : (sqlite.effects fn (begun store)).1 = some true
    · by_cases commitOk : (sqlite.effects fn (begun store)).2.saved.isSome ∧
          sqlite.commitError (sqlite.effects fn (begun store)).2.calls = ""
      · simp [begins, ok, commitOk]
      · simp [begins, ok, commitOk]
    · simp [begins, ok]
  · simp [begins]

/-- What is left of a transaction that fails after its BEGIN. -/
theorem rolledBack_effects_data (fn : TxFunction τ) (store : Store δ) :
    (sqlite.effects fn (begun store)).2.rolledBack.data =
      sqlite.applyAll (sqlite.successesAfterLoss fn (begun store)) store.data := by
  rcases (sqlite.leaves_effects fn (begun store)).open_or_lost store.data rfl with
    ⟨stays, _, nothing⟩ | ⟨unsaved, data⟩
  · rw [Connection.rolledBack, stays, nothing]
    rfl
  · rw [Connection.rolledBack, unsaved]
    exact data

/-- A transaction is all or nothing exactly if nothing is changed behind a
transaction that SQLite has rolled back. -/
theorem allOrNothing_iff (fn : TxFunction τ) (store : Store δ) :
    sqlite.AllOrNothing fn store ↔ sqlite.LossIsFinal fn store := by
  have left := sqlite.rolledBack_effects_data fn store
  have leaves := (sqlite.leaves_effects fn (begun store)).open_or_lost store.data rfl
  constructor
  · intro all begins
    rcases leaves with ⟨_, _, nothing⟩ | ⟨unsaved, _⟩
    · rw [nothing]
      rfl
    · -- The transaction is lost, so that COMMIT fails too.
      have fails : (sqlite.transaction fn store).1 = false := by
        rw [transaction, if_pos begins]
        simp only [unsaved, Option.isSome_none, Bool.false_eq_true, false_and, if_false]
        split <;> rfl
      have data := all.nothing fails
      rw [transaction, if_pos begins] at data
      simp only [unsaved, Option.isSome_none, Bool.false_eq_true, false_and, if_false] at data
      rw [← left]
      split at data <;> exact data
  · intro isFinal
    refine ⟨sqlite.transaction_fst_iff fn store, ?_, ?_⟩
    · rw [transaction]
      split
      · dsimp only
        split
        · split
          · next commits =>
              intro _
              rcases leaves with ⟨_, data, _⟩ | ⟨unsaved, _⟩
              · exact data
              · rw [unsaved] at commits
                exact absurd commits.1 (by simp)
          · exact fun committed => absurd committed Bool.false_ne_true
        · exact fun committed => absurd committed Bool.false_ne_true
      · exact fun committed => absurd committed Bool.false_ne_true
    · rw [transaction]
      split
      · next begins =>
          have undone := left.trans (isFinal begins)
          dsimp only
          split
          · split
            · exact fun failed => absurd failed.symm Bool.false_ne_true
            · exact fun _ => undone
          · exact fun _ => undone
      · exact fun _ => rfl

/-! ## Tasks on the store -/

@[simp]
theorem perform_execOrQuery (text : SqlText τ) (connection : Connection δ) :
    sqlite.perform (.execOrQuery text) (some connection) =
      ((sqlite.execOrQuery text connection).1, some (sqlite.execOrQuery text connection).2) :=
  rfl

/-- The body of the `try` block has the effects of the function. -/
theorem run_body (fn : TxFunction τ) (connection : Connection δ) :
    fn.body.run sqlite.perform (some connection) =
      ((sqlite.effects fn connection).1 == some true, some (sqlite.effects fn connection).2) := by
  induction fn generalizing connection with
  | returns ok => cases ok <;> rfl
  | throws => rfl
  | execDirect stmt next ih => exact ih _ (sqlite.execOrQuery (.statement stmt) connection).2
  | queryDirect stmt next ih => exact ih _ (sqlite.execOrQuery (.statement stmt) connection).2

/-- What follows the `try` block leaves no transaction open. -/
theorem run_finishTransaction (ok : Bool) (connection : Connection δ) :
    (finishTransaction ok).run sqlite.perform (some connection) =
      if ok then
        if connection.saved.isSome ∧ sqlite.commitError connection.calls = "" then
          (.transactionSync true,
            some (Store.mk connection.data (connection.calls + 1)).connection)
        else
          (.transactionSync false,
            some (Store.mk connection.rolledBack.data (connection.calls + 2)).connection)
      else
        (.transactionSync false,
          some (Store.mk connection.rolledBack.data (connection.calls + 1)).connection) := by
  rcases connection with ⟨data, _ | saved, calls⟩
  · cases ok <;>
      simp [finishTransaction, execOrQuery, SqlResult.ok, Connection.rolledBack, Store.connection]
  · by_cases commits : sqlite.commitError calls = ""
    · cases ok <;>
        simp [finishTransaction, execOrQuery, SqlResult.ok, commits, Connection.rolledBack,
          Store.connection]
    · cases rolls : sqlite.rollsBack calls <;> cases ok <;>
        simp [finishTransaction, execOrQuery, SqlResult.ok, commits, failed, rolls,
          Connection.rolledBack, Store.connection]

/-- A transaction of the code is one of the store. -/
theorem run_transactionSync (fn : TxFunction τ) (store : Store δ) :
    (DbCall.transactionSync fn).task.run sqlite.perform (some store.connection) =
      (.transactionSync (sqlite.transaction fn store).1,
        some (sqlite.transaction fn store).2.connection) := by
  rw [DbCall.task, Program.run_perform, perform_execOrQuery, transaction]
  by_cases begins : sqlite.beginError store.calls = ""
  · have began : sqlite.execOrQuery .begin store.connection = (⟨[], ""⟩, begun store) := by
      simp [execOrQuery, Store.connection, begins, begun]
    have reply : SqlResult.ok ⟨[], ""⟩ = true := rfl
    rw [began, if_pos begins, reply, if_pos rfl, Program.run_bind, run_body,
      run_finishTransaction]
    by_cases ok : (sqlite.effects fn (begun store)).1 = some true
    · simp only [ok, BEq.rfl, if_true]
      split <;> rfl
    · simp [ok]
  · simp [execOrQuery, Store.connection, SqlResult.ok, begins]

/-- The task of a call does on the connection what the call does on the store, and
leaves no transaction open. -/
theorem run_task (call : DbCall τ) (store : Store δ) :
    call.task.run sqlite.perform (some store.connection) =
      ((sqlite.answer call store).1, some (sqlite.answer call store).2.connection) := by
  cases call with
  | exec stmt => simp [DbCall.task, execOrQuery_on_store, answer]
  | query stmt => simp [DbCall.task, execOrQuery_on_store, answer]
  | execSync stmt => simp [DbCall.task, execOrQuery_on_store, answer]
  | querySync stmt => simp [DbCall.task, execOrQuery_on_store, answer]
  | transactionSync fn => exact sqlite.run_transactionSync fn store

/-- Tasks that run one after another do what their calls do one at a time. -/
theorem serial_task (calls : List (DbCall τ)) (store : Store δ) :
    Program.serial sqlite.perform (calls.map DbCall.task) (some store.connection) =
      ((sqlite.answers calls store).1, some (sqlite.answers calls store).2.connection) := by
  induction calls generalizing store with
  | nil => rfl
  | cons call calls ih =>
      rw [List.map_cons, Program.serial, run_task]
      simp only [ih, answers]

end Sqlite

/-! ## Runs of the database -/

/-- The worker, and whether SQLite is still open. -/
structure Database (τ δ : Type) where
  worker : DbWorker τ δ
  isOpen : Bool := true

/-- A thread makes a call or closes the database, the worker takes a turn, or
`join` returns to the thread that closes. -/
inductive DatabaseEvent (τ : Type) where
  | call (call : DbCall τ)
  | close
  | turn
  | joined

namespace DatabaseEvent

variable {τ : Type}

/-- The call whose task an event posts. -/
def posted : DatabaseEvent τ → List (DbCall τ)
  | .call dbCall => [dbCall]
  | .close | .turn | .joined => []

def isTurn : DatabaseEvent τ → Bool
  | .turn => true
  | .call _ | .close | .joined => false

def isClose : DatabaseEvent τ → Bool
  | .close => true
  | .call _ | .turn | .joined => false

end DatabaseEvent

namespace Database

variable {τ δ : Type} (sqlite : Sqlite τ δ)

/-- A database after `open` has returned. -/
def opened (store : Store δ) : Database τ δ :=
  { worker := { state := some store.connection, phase := .running } }

def step (database : Database τ δ) : DatabaseEvent τ → Database τ δ
  | .call call => { database with worker := database.worker.post call.task }
  | .close => { database with worker := database.worker.stop }
  | .turn => { database with worker := database.worker.turn sqlite.perform }
  | .joined =>
      if database.worker.phase = .exited then { database with isOpen := false } else database

/-- SQLite is closed only after the worker has left. -/
def ClosedLast (database : Database τ δ) : Prop :=
  database.isOpen = false → database.worker.phase = .exited

theorem closedLast_opened (store : Store δ) : (opened store : Database τ δ).ClosedLast :=
  fun shut => absurd shut.symm Bool.false_ne_true

/-- A database hosts its worker, and its calls post their tasks. -/
theorem hosts : JobWorker.Hosts sqlite.perform (step sqlite) ClosedLast Database.worker
    DatabaseEvent.isTurn fun _ event => event.posted.map DbCall.task := by
  constructor
  · intro database event closed
    cases event with
    | call call => exact closed
    | close => exact closed
    | turn =>
        intro shut
        rw [step, JobWorker.turn_of_not_running]
        · exact closed shut
        · rw [closed shut]
          decide
    | joined =>
        rw [step]
        split
        · next exited => exact fun _ => exited
        · exact closed
  · intro database event _ isTurn
    cases event with
    | turn => exact ⟨rfl, rfl⟩
    | call call => exact absurd isTurn Bool.false_ne_true
    | close => exact absurd isTurn Bool.false_ne_true
    | joined => exact absurd isTurn Bool.false_ne_true
  · intro database event _ isTurn
    cases event with
    | call call => exact JobWorker.posts_post call.task database.worker
    | close => exact JobWorker.posts_stop database.worker
    | turn => exact absurd isTurn.symm Bool.false_ne_true
    | joined =>
        rw [step]
        split <;> exact JobWorker.posts_refl database.worker

/-- The calls of a run, in the order in which their tasks are posted. -/
def posted (events : List (DatabaseEvent τ)) : List (DbCall τ) :=
  events.flatMap DatabaseEvent.posted

theorem outputs_posted (database : Database τ δ) (events : List (DatabaseEvent τ)) :
    EventRun.outputs (step sqlite) (fun _ event => event.posted.map DbCall.task) database events =
      (posted events).map DbCall.task := by
  induction events generalizing database with
  | nil => rfl
  | cons event events ih =>
      rw [EventRun.outputs_cons, ih, posted, posted, List.flatMap_cons, List.map_append]

theorem follows_exec (store : Store δ) (events : List (DatabaseEvent τ)) :
    JobWorker.Follows sqlite.perform (some store.connection) ((posted events).map DbCall.task)
      (EventRun.exec (step sqlite) (opened store) events).worker := by
  have start : JobWorker.Follows sqlite.perform (some store.connection) [] (opened store).worker :=
    JobWorker.follows_idle _ _ _
  have follows := (hosts sqlite).follows (closedLast_opened store) start events
  rw [outputs_posted] at follows
  exact follows

/-- The calls that are finished have the answers of calls that run one at a time,
and so has the data whenever no task is under way; no transaction is open then. -/
structure SerialHistory (store : Store δ) (posted : List (DbCall τ)) (worker : DbWorker τ δ) :
    Prop where
  finished_le : worker.results.length ≤ posted.length
  answers : worker.results = (sqlite.answers (posted.take worker.results.length) store).1
  between : worker.current = none → worker.state =
    some (sqlite.answers (posted.take worker.results.length) store).2.connection
  final : worker.results.length = posted.length →
    worker.results = (sqlite.answers posted store).1 ∧
      worker.state = some (sqlite.answers posted store).2.connection

/-- The database runs the calls one at a time and each transaction as a whole, at
its place among the calls; the first `close` returns after every call before it
has been answered, and a call of an open database is answered after finitely many
turns. -/
structure RunsSerially (store : Store δ) (events : List (DatabaseEvent τ)) : Prop where
  history : SerialHistory sqlite store (posted events)
    (EventRun.exec (step sqlite) (opened store) events).worker
  transactions : ∀ before fn after, posted events = before ++ .transactionSync fn :: after →
    sqlite.AllOrNothing fn (sqlite.answers before store).2
  drains : ∀ before after, events = before ++ .close :: after →
    (∀ event ∈ before, event.isClose = false) →
    (EventRun.exec (step sqlite) (opened store) events).isOpen = false →
      (posted before).length ≤
        (EventRun.exec (step sqlite) (opened store) events).worker.results.length
  answered : (∀ event ∈ events, event.isClose = false) → ∃ turns, ∀ later,
    turns ≤ later.countP DatabaseEvent.isTurn → (posted events).length ≤
      (EventRun.exec (step sqlite) (opened store) (events ++ later)).worker.results.length

theorem serialHistory_exec (store : Store δ) (events : List (DatabaseEvent τ)) :
    SerialHistory sqlite store (posted events)
      (EventRun.exec (step sqlite) (opened store) events).worker := by
  have follows := follows_exec sqlite store events
  have answers := follows.results_eq
  rw [← List.map_take, Sqlite.serial_task] at answers
  have between := follows.state_eq
  rw [← List.map_take, Sqlite.serial_task] at between
  have le := follows.length_results_le
  rw [List.length_map] at le
  constructor
  · exact le
  · exact answers
  · exact between
  · intro all
    have free := follows.current_eq_none (by rw [List.length_map]; exact all)
    rw [all, List.take_length] at answers between
    exact ⟨answers, between free⟩

/-- A database that nobody closes keeps its worker. -/
theorem running_exec (store : Store δ) {events : List (DatabaseEvent τ)}
    (unclosed : ∀ event ∈ events, event.isClose = false) :
    (EventRun.exec (step sqlite) (opened store) events).worker.phase = .running ∧
      (EventRun.exec (step sqlite) (opened store) events).worker.stopping = false := by
  have stays : ∀ (database : Database τ δ) (event : DatabaseEvent τ),
      (database.worker.phase = .running ∧ database.worker.stopping = false) →
      event.isClose = false →
      (step sqlite database event).worker.phase = .running ∧
        (step sqlite database event).worker.stopping = false := by
    intro database event present notClose
    cases event with
    | call call => exact present
    | close => exact absurd notClose.symm Bool.false_ne_true
    | turn => exact JobWorker.running_turn_of_not_stopping present.1 present.2
    | joined =>
        rw [step]
        split <;> exact present
  have initially : (opened store : Database τ δ).worker.phase = .running ∧
      (opened store : Database τ δ).worker.stopping = false :=
    ⟨rfl, rfl⟩
  exact EventRun.exec_invariant_of_guarded stays initially (EventRun.Guarded.of_forall unclosed)

/-- The calls before the first `close` are answered when it returns. -/
theorem posted_le_of_closed (store : Store δ) {before after : List (DatabaseEvent τ)}
    (unclosed : ∀ event ∈ before, event.isClose = false)
    (shut : (EventRun.exec (step sqlite) (opened store) (before ++ .close :: after)).isOpen =
      false) :
    (posted before).length ≤
      (EventRun.exec (step sqlite) (opened store)
        (before ++ .close :: after)).worker.results.length := by
  have initially := closedLast_opened (τ := τ) store
  have exited := (hosts sqlite).invariant_exec initially (before ++ .close :: after) shut
  have running := (running_exec sqlite store unclosed).1
  have follows := follows_exec sqlite store before
  have here := (hosts sqlite).invariant_exec initially before
  rw [EventRun.exec_append] at exited ⊢
  refine (hosts sqlite).le_length_of_exited here follows ?_ ?_ exited
  · rw [List.length_map]
  · rw [running]
    exact fun left => absurd left (by decide)

/-- The calls of a database that nobody closed are answered after finitely many
turns of the worker. -/
theorem exists_turns_answering (store : Store δ) {events : List (DatabaseEvent τ)}
    (unclosed : ∀ event ∈ events, event.isClose = false) :
    ∃ turns, ∀ later, turns ≤ later.countP DatabaseEvent.isTurn → (posted events).length ≤
      (EventRun.exec (step sqlite) (opened store) (events ++ later)).worker.results.length := by
  have here := (hosts sqlite).invariant_exec (closedLast_opened store) events
  have running := (running_exec sqlite store unclosed).1
  have length_eq := (follows_exec sqlite store events).length_eq
  rw [List.length_map] at length_eq
  refine ⟨(EventRun.exec (step sqlite) (opened store) events).worker.turnsUntil sqlite.perform
    (posted events).length, ?_⟩
  intro later enough
  rw [EventRun.exec_append]
  exact (hosts sqlite).le_length_of_turns here running (Nat.le_of_eq length_eq) enough

/-- Rows are numbers, and 0 does not fit on the disk. -/
def fullDisk : Sqlite Nat (List Nat) where
  openFile := some []
  statement _ row rows :=
    if row = 0 then (⟨[], "database or disk is full"⟩, rows) else (⟨[], ""⟩, rows ++ [row])
  beginError _ := ""
  commitError _ := ""
  rollsBack _ := true
  statement_of_error _ row rows failed := by
    by_cases full : row = 0
    · simp [full]
    · simp [full] at failed

end Database

end AnychatSdk
