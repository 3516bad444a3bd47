import AnychatSdk.Lib.Journal
import AnychatSdk.Lib.KeyTable

/-!
# Schema migrations

When a database is opened, `runMigrations` brings its file to version 1 of the
schema.  Every call of SQLite may fail, and the process may end at any time.
Whatever happens, over any number of attempts, the file has either not been
touched or has all of version 1.
-/

namespace AnychatSdk

/-- An entry of the schema: the column definitions of a table, or the columns
that an index is on. -/
inductive SchemaObject where
  | table (columns : List String)
  | index (on : String)
  deriving DecidableEq

/-- What the migrations see of a database file, and the rows. -/
structure SchemaFile (α : Type) where
  userVersion : Int32
  objects : KeyTable String SchemaObject
  rows : α

/-- The statements of the migrations that write. -/
inductive SchemaStmt where
  /-- `CREATE TABLE IF NOT EXISTS` or `CREATE INDEX IF NOT EXISTS` -/
  | createIfNotExists (name : String) (object : SchemaObject)
  /-- `PRAGMA user_version = ?` -/
  | setUserVersion (version : Int32)

/-- The calls that read `PRAGMA user_version`. -/
inductive VersionQuery where
  | prepare
  | step

def SchemaStmt.run {α : Type} (stmt : SchemaStmt) (file : SchemaFile α) : SchemaFile α :=
  match stmt with
  | .createIfNotExists name object =>
      { file with objects := file.objects.insertOrIgnore name object }
  | .setUserVersion version => { file with userVersion := version }

/-- What a statement creates. -/
def SchemaStmt.created? : SchemaStmt → Option String
  | .createIfNotExists name _ => some name
  | .setUserVersion _ => none

def VersionQuery.run {α : Type} (query : VersionQuery) (file : SchemaFile α) : Int32 :=
  match query with
  | .prepare => 0
  | .step => file.userVersion

namespace Migrations

/-- A program that calls SQLite. -/
abbrev Calls (ρ : Type) :=
  Program (JournalOp SchemaStmt VersionQuery) (JournalReply Int32) ρ

/-- `kSchemav1`. -/
def kSchemav1 : List SchemaStmt :=
  [.createIfNotExists "users"
      (.table
        ["user_id TEXT PRIMARY KEY", "nickname TEXT", "avatar_url TEXT", "signature TEXT",
          "updated_at_ms INTEGER"]),
    .createIfNotExists "friends"
      (.table
        ["user_id TEXT PRIMARY KEY", "remark TEXT", "updated_at_ms INTEGER",
          "is_deleted INTEGER DEFAULT 0", "friend_nickname TEXT", "friend_avatar TEXT"]),
    .createIfNotExists "conversations"
      (.table
        ["conv_id TEXT PRIMARY KEY", "conv_type TEXT", "target_id TEXT", "last_msg_id TEXT",
          "last_msg_text TEXT", "last_msg_time_ms INTEGER", "unread_count INTEGER DEFAULT 0",
          "is_pinned INTEGER DEFAULT 0", "is_muted INTEGER DEFAULT 0",
          "burn_after_reading INTEGER DEFAULT 0", "auto_delete_duration INTEGER DEFAULT 0",
          "pin_time_ms INTEGER DEFAULT 0", "local_seq INTEGER DEFAULT 0",
          "updated_at_ms INTEGER"]),
    .createIfNotExists "messages"
      (.table
        ["message_id TEXT PRIMARY KEY", "local_id TEXT UNIQUE", "conv_id TEXT NOT NULL",
          "sender_id TEXT", "content_type INTEGER", "content TEXT", "seq INTEGER",
          "reply_to TEXT", "status INTEGER DEFAULT 0", "send_state INTEGER DEFAULT 0",
          "is_read INTEGER DEFAULT 0", "timestamp_ms INTEGER",
          "FOREIGN KEY (conv_id) REFERENCES conversations(conv_id)"]),
    .createIfNotExists "idx_messages_conv_seq" (.index "messages (conv_id, seq DESC)"),
    .createIfNotExists "groups"
      (.table
        ["group_id TEXT PRIMARY KEY", "name TEXT", "avatar_url TEXT", "owner_id TEXT",
          "member_count INTEGER", "my_role TEXT", "updated_at_ms INTEGER"]),
    .createIfNotExists "outbound_queue"
      (.table
        ["local_id TEXT PRIMARY KEY", "conv_id TEXT", "conv_type TEXT", "content_type INTEGER",
          "content TEXT", "retry_count INTEGER DEFAULT 0", "created_at INTEGER"]),
    .createIfNotExists "metadata" (.table ["key TEXT PRIMARY KEY", "value TEXT"])]

/-- `execRaw`: the statements of one text. -/
def execRaw (text : List (JournalOp SchemaStmt VersionQuery)) : Calls Bool :=
  Journal.execAll text

/-- `getUserVersion`. -/
def getUserVersion : Calls Int32 :=
  .perform (.read .prepare) fun
    | .failed => .done (-1)
    | .done | .value _ =>
        .perform (.read .step) fun
          | .value version => .done version
          -- Every result of `sqlite3_step` but a row leaves `ver` at 0.
          | .failed | .done => .done 0

/-- `migrateToV1`. -/
def migrateToV1 : Calls Bool :=
  let rollback : Calls Bool := (execRaw [.rollback]).bind fun _ => .done false
  (execRaw [.begin]).bind fun begun =>
    if !begun then .done false
    else
      (execRaw (kSchemav1.map .write)).bind fun created =>
        if !created then rollback
        else
          (execRaw [.write (.setUserVersion 1)]).bind fun updated =>
            if !updated then rollback
            else
              (execRaw [.commit]).bind fun committed =>
                if !committed then rollback else .done true

/-- `runMigrations`. -/
def runMigrations : Calls Bool :=
  getUserVersion.bind fun ver =>
    if ver < 0 then .done false
    else if ver < 1 then
      migrateToV1.bind fun migrated => if !migrated then .done false else .done true
    else .done true

/-- One process that opens the file: the faults of its calls, and how many of them
it makes before it ends. -/
structure Attempt where
  faults : Nat → Fault
  calls : Nat

variable {α : Type}

/-- What the process reports, if it gets that far, and the file it leaves.  A
transaction that is open when the process closes the file or ends is undone. -/
def Attempt.run (attempt : Attempt) (file : SchemaFile α) : Option Bool × SchemaFile α :=
  let (result, journal) :=
    runMigrations.runFor (Journal.perform SchemaStmt.run VersionQuery.run attempt.faults)
      attempt.calls { durable := file }
  (result, journal.durable)

/-- The file after several processes. -/
def afterAttempts (attempts : List Attempt) (file : SchemaFile α) : SchemaFile α :=
  EventRun.exec (fun file attempt => (attempt.run file).2) file attempts

/-! ## One attempt -/

/-- The file with all of version 1. -/
def upgrade (file : SchemaFile α) : SchemaFile α :=
  (kSchemav1 ++ [SchemaStmt.setUserVersion 1]).foldl (fun file stmt => stmt.run file) file

/-- The version cannot be read although the statement for it was prepared. -/
def Attempt.Misreads (attempt : Attempt) : Prop :=
  attempt.faults 0 = .none ∧ attempt.faults 1 ≠ .none

/-- The version that an attempt works with: 0 if it cannot be read after all, and
-1 if that cannot even be tried. -/
def Attempt.Reads (attempt : Attempt) (file : SchemaFile α) (ver : Int32) : Prop :=
  (attempt.Misreads ∧ ver = 0) ∨ (¬attempt.Misreads ∧ (ver = file.userVersion ∨ ver = -1))

theorem migrateToV1_eq_transaction :
    migrateToV1 = Journal.transaction (kSchemav1 ++ [.setUserVersion 1]) := by
  rw [Journal.transaction, List.map_append, Journal.bind_execAll_append, migrateToV1]
  refine congrArg (Program.bind _) (funext fun begun => ?_)
  cases begun with
  | false => rfl
  | true =>
      refine congrArg (Program.bind _) (funext fun created => ?_)
      cases created with
      | false => rfl
      | true =>
          refine congrArg (Program.bind _) (funext fun updated => ?_)
          cases updated with
          | false => rfl
          | true =>
              refine congrArg (Program.bind _) (funext fun committed => ?_)
              cases committed <;> rfl

/-- What `runMigrations` does with a version. -/
def withVersion (ver : Int32) : Calls Bool :=
  if ver < 0 then .done false
  else if ver < 1 then Journal.transaction (kSchemav1 ++ [.setUserVersion 1])
  else .done true

theorem runMigrations_eq :
    runMigrations = getUserVersion.bind withVersion := by
  refine congrArg (Program.bind _) (funext fun ver => ?_)
  have same : (fun migrated => if !migrated then .done false else .done true : Bool → Calls Bool) =
      .done := by
    funext migrated
    cases migrated <;> rfl
  rw [same, Program.bind_done, migrateToV1_eq_transaction]
  rfl

/-- An attempt ends in one of three ways: the file is not changed and the attempt
does not succeed, the version read is good enough, or it is 0 and the file gets
all of version 1. -/
inductive Ends (attempt : Attempt) (file : SchemaFile α) : Prop
  | unchanged (failed : (attempt.run file).1 ≠ some true) (same : (attempt.run file).2 = file)
  | current (read : ¬attempt.Misreads) (version : 1 ≤ file.userVersion)
      (succeeded : (attempt.run file).1 = some true) (same : (attempt.run file).2 = file)
  | upgraded (version : attempt.Misreads ∨ file.userVersion = 0)
      (succeeded : (attempt.run file).1 = some true) (all : (attempt.run file).2 = upgrade file)

theorem eq_zero_of_lt_one {ver : Int32} (nonnegative : ¬ver < 0) (old : ver < 1) : ver = 0 := by
  rw [Int32.lt_iff_toInt_lt] at nonnegative old
  have zero : (0 : Int32).toInt = 0 := rfl
  have one : (1 : Int32).toInt = 1 := rfl
  rw [← Int32.toInt_inj]
  omega

section Version

variable {attempt : Attempt} {file : SchemaFile α} {ver : Int32} {count : Nat}
  {journal : Journal (SchemaFile α)}

/-- The calls of an attempt. -/
abbrev Attempt.perform (attempt : Attempt) :
    JournalOp SchemaStmt VersionQuery → Journal (SchemaFile α) →
      JournalReply Int32 × Journal (SchemaFile α) :=
  Journal.perform SchemaStmt.run VersionQuery.run attempt.faults

/-- What follows when the version is read as `ver`. -/
theorem ends_withVersion
    (reads : attempt.Reads file ver) (idle : journal.working = none)
    (found : journal.durable = file) {outcome : Option Bool × Journal (SchemaFile α)}
    (runs : (withVersion ver).runFor attempt.perform count journal = outcome)
    (result : (attempt.run file).1 = outcome.1)
    (left : (attempt.run file).2 = outcome.2.durable) : Ends attempt file := by
  subst runs
  by_cases negative : ver < 0
  · rw [withVersion, if_pos negative, Program.runFor_done] at result left
    exact .unchanged (result ▸ nofun) (left.trans found)
  by_cases old : ver < 1
  · have zero := eq_zero_of_lt_one negative old
    have version : attempt.Misreads ∨ file.userVersion = 0 := by
      rcases reads with ⟨misreads, _⟩ | ⟨_, rfl | rfl⟩
      · exact .inl misreads
      · exact .inr zero
      · exact absurd (by decide) negative
    have whole : Journal.AllOrNothing journal.durable
        ((kSchemav1 ++ [SchemaStmt.setUserVersion 1]).foldl (fun file stmt => stmt.run file)
          journal.durable) ((withVersion ver).runFor attempt.perform count journal) := by
      rw [withVersion, if_neg negative, if_pos old]
      exact Journal.allOrNothing_transaction count idle _
    rcases whole with ⟨succeeded, all⟩ | ⟨failed, same⟩
    · refine .upgraded version (result.trans succeeded) ((left.trans all).trans ?_)
      rw [found]
      rfl
    · exact .unchanged (fun succeeded => failed (result.symm.trans succeeded))
        ((left.trans same).trans found)
  · rw [withVersion, if_neg negative, if_neg old, Program.runFor_done] at result left
    rcases reads with ⟨_, rfl⟩ | ⟨given, rfl | rfl⟩
    · exact absurd (by decide) old
    · exact .current given (Int32.not_lt.mp old) result (left.trans found)
    · exact absurd (by decide) old

end Version

/-- The process ends while it reads the version, or goes on with one. -/
theorem runFor_getUserVersion (attempt : Attempt) (file : SchemaFile α)
    (next : Int32 → Calls Bool) (count : Nat) :
    (∃ journal : Journal (SchemaFile α), journal.durable = file ∧
      (getUserVersion.bind next).runFor attempt.perform count { durable := file } =
        (none, journal)) ∨
    ∃ ver rest, ∃ journal : Journal (SchemaFile α), attempt.Reads file ver ∧
      journal.working = none ∧ journal.durable = file ∧
      (getUserVersion.bind next).runFor attempt.perform count { durable := file } =
        (next ver).runFor attempt.perform rest journal := by
  let opened : Journal (SchemaFile α) := { durable := file }
  have first : (attempt.perform (.read .prepare) opened).2.durable = file ∧ _ :=
    Journal.perform_read _
  have idle := first.2.1 rfl
  have called : (attempt.perform (.read .prepare) opened).2.calls = 1 := Journal.calls_perform _
  have reply := first.2.2
  rw [getUserVersion, Program.bind]
  cases count with
  | zero => exact .inl ⟨opened, rfl, rfl⟩
  | succ count =>
      rw [Program.runFor_succ_perform]
      by_cases prepares : attempt.faults 0 = .none
      · rw [show (attempt.perform (.read .prepare) opened).1 = .value 0 from
          reply.trans (if_pos prepares)]
        let prepared := (attempt.perform (.read .prepare) opened).2
        have second : (attempt.perform (.read .step) prepared).2.durable = prepared.durable ∧ _ :=
          Journal.perform_read _
        have found := second.1.trans first.1
        have reply' := second.2.2
        rw [show prepared.calls = 1 from called] at reply'
        cases count with
        | zero => exact .inl ⟨prepared, first.1, rfl⟩
        | succ count =>
            rw [Program.bind, Program.runFor_succ_perform]
            by_cases steps : attempt.faults 1 = .none
            · rw [show (attempt.perform (.read .step) prepared).1 = _ from
                reply'.trans (if_pos steps)]
              refine .inr ⟨_, count, _, .inr ⟨fun misreads => misreads.2 steps, .inl ?_⟩,
                second.2.1 idle, found, rfl⟩
              have same : prepared.current = file := by
                rw [Journal.current, show prepared.working = none from idle]
                exact first.1
              exact congrArg SchemaFile.userVersion same
            · rw [show (attempt.perform (.read .step) prepared).1 = _ from
                reply'.trans (if_neg steps)]
              exact .inr ⟨0, count, _, .inl ⟨⟨prepares, steps⟩, rfl⟩, second.2.1 idle, found, rfl⟩
      · rw [show (attempt.perform (.read .prepare) opened).1 = .failed from
          reply.trans (if_neg prepares)]
        exact .inr ⟨-1, count, _, .inr ⟨fun misreads => prepares misreads.1, .inr rfl⟩, idle,
          first.1, rfl⟩

theorem run_eq (attempt : Attempt) (file : SchemaFile α) :
    attempt.run file =
      (((getUserVersion.bind withVersion).runFor attempt.perform attempt.calls
          { durable := file }).1,
        ((getUserVersion.bind withVersion).runFor attempt.perform attempt.calls
          { durable := file }).2.durable) := by
  rw [Attempt.run, runMigrations_eq]

theorem ends (attempt : Attempt) (file : SchemaFile α) : Ends attempt file := by
  have runs := run_eq attempt file
  rcases runFor_getUserVersion attempt file withVersion attempt.calls with
    ⟨journal, found, cut⟩ | ⟨ver, rest, journal, reads, idle, found, goesOn⟩
  · rw [cut] at runs
    exact .unchanged (runs ▸ nofun) (runs ▸ found)
  · exact ends_withVersion reads idle found goesOn.symm (congrArg Prod.fst runs)
      (congrArg Prod.snd runs)

/-! ## Any number of attempts -/

/-- Nothing of a file is lost: its rows and the entries of its schema stay. -/
structure Extends (file later : SchemaFile α) : Prop where
  rows : later.rows = file.rows
  objects : ∀ name object, file.objects.lookup name = some object →
    later.objects.lookup name = some object

theorem Extends.refl (file : SchemaFile α) : Extends file file :=
  ⟨rfl, fun _ _ found => found⟩

theorem Extends.trans {first second third : SchemaFile α} (former : Extends first second)
    (latter : Extends second third) : Extends first third :=
  ⟨latter.rows.trans former.rows,
    fun name object found => latter.objects name object (former.objects name object found)⟩

theorem extends_run (stmt : SchemaStmt) (file : SchemaFile α) : Extends file (stmt.run file) := by
  cases stmt with
  | setUserVersion version => exact ⟨rfl, fun _ _ found => found⟩
  | createIfNotExists created definition =>
      refine ⟨rfl, fun name object found => ?_⟩
      change (file.objects.insertOrIgnore created definition).lookup name = some object
      rw [KeyTable.lookup_insertOrIgnore]
      split
      · next same =>
          subst same
          rw [found]
          rfl
      · exact found

theorem extends_foldl (stmts : List SchemaStmt) (file : SchemaFile α) :
    Extends file (stmts.foldl (fun file stmt => stmt.run file) file) := by
  induction stmts generalizing file with
  | nil => exact .refl file
  | cons stmt stmts ih => exact (extends_run stmt file).trans (ih (stmt.run file))

theorem Extends.mem {file later : SchemaFile α} (extends' : Extends file later) {name : String}
    (member : name ∈ file.objects) : name ∈ later.objects := by
  rcases KeyTable.mem_iff_exists_lookup.mp member with ⟨object, found⟩
  exact KeyTable.mem_iff_exists_lookup.mpr ⟨object, extends'.objects name object found⟩

theorem extends_upgrade (file : SchemaFile α) : Extends file (upgrade file) :=
  extends_foldl _ file

theorem userVersion_upgrade (file : SchemaFile α) : (upgrade file).userVersion = 1 := by
  rw [upgrade, List.foldl_append]
  rfl

/-- What statements create is there after them. -/
theorem mem_objects_foldl {stmts : List SchemaStmt} (file : SchemaFile α) {name : String}
    (listed : name ∈ stmts.filterMap SchemaStmt.created?) :
    name ∈ (stmts.foldl (fun file stmt => stmt.run file) file).objects := by
  induction stmts generalizing file with
  | nil => exact absurd listed List.not_mem_nil
  | cons stmt stmts ih =>
      rcases List.mem_filterMap.mp listed with ⟨other, member, created⟩
      rcases List.mem_cons.mp member with rfl | later
      · refine (extends_foldl stmts (other.run file)).mem ?_
        cases other with
        | setUserVersion version => exact nomatch created
        | createIfNotExists made definition =>
            obtain rfl := Option.some.inj created
            exact KeyTable.mem_insertOrIgnore.mpr (.inl rfl)
      · exact ih (stmt.run file) (List.mem_filterMap.mpr ⟨other, later, created⟩)

/-- Statements that create what is there change nothing. -/
theorem foldl_eq_of_mem {stmts : List SchemaStmt} {file : SchemaFile α}
    (there : ∀ stmt ∈ stmts, ∃ name ∈ stmt.created?, name ∈ file.objects) :
    stmts.foldl (fun file stmt => stmt.run file) file = file := by
  induction stmts with
  | nil => rfl
  | cons stmt stmts ih =>
      rw [List.forall_mem_cons] at there
      rcases there with ⟨⟨name, created, member⟩, later⟩
      have same : stmt.run file = file := by
        cases stmt with
        | setUserVersion version => exact nomatch created
        | createIfNotExists made definition =>
            obtain rfl := Option.some.inj created
            have ignored : file.objects.insertOrIgnore made definition = file.objects :=
              if_pos member
            rw [SchemaStmt.run, ignored]
      rw [List.foldl_cons, same]
      exact ih later

/-- The names of version 1. -/
def schemaNames : List String :=
  kSchemav1.filterMap SchemaStmt.created?

theorem mem_objects_upgrade (file : SchemaFile α) {name : String} (listed : name ∈ schemaNames) :
    name ∈ (upgrade file).objects := by
  refine mem_objects_foldl file ?_
  rw [List.filterMap_append]
  exact List.mem_append_left _ listed

theorem run_setUserVersion_self (file : SchemaFile α) :
    (SchemaStmt.setUserVersion file.userVersion).run file = file :=
  rfl

/-- A file that has all of version 1 is not changed by it. -/
theorem upgrade_upgrade (file : SchemaFile α) : upgrade (upgrade file) = upgrade file := by
  have there : ∀ stmt ∈ kSchemav1, ∃ name ∈ stmt.created?, name ∈ (upgrade file).objects := by
    intro stmt member
    have creates : stmt.created?.isSome = true :=
      List.all_eq_true.mp (by rfl : kSchemav1.all (·.created?.isSome) = true) stmt member
    rcases Option.isSome_iff_exists.mp creates with ⟨name, created⟩
    exact ⟨name, created,
      mem_objects_upgrade file (List.mem_filterMap.mpr ⟨stmt, member, created⟩)⟩
  have same := run_setUserVersion_self (upgrade file)
  rw [userVersion_upgrade] at same
  rw [upgrade, List.foldl_append, foldl_eq_of_mem there, List.foldl_cons, List.foldl_nil]
  exact same

/-- What the attempts make of a file. -/
structure MigrationsAtomic (attempts : List Attempt) (file : SchemaFile α) : Prop where
  /-- The file is not touched or has all of version 1. -/
  whole : afterAttempts attempts file = file ∨ afterAttempts attempts file = upgrade file
  /-- A file that is touched has every table and index of version 1. -/
  named : afterAttempts attempts file ≠ file →
    ∀ name ∈ schemaNames, name ∈ (afterAttempts attempts file).objects
  /-- Whatever was in the file is still there. -/
  kept : Extends file (afterAttempts attempts file)
  /-- After a successful attempt there is a version, and all of it unless the file
  came with one. -/
  opened : ∀ before last, attempts = before ++ [last] →
    (last.run (afterAttempts before file)).1 = some true →
      1 ≤ (afterAttempts attempts file).userVersion ∧
        (file.userVersion < 1 → afterAttempts attempts file = upgrade file)
  /-- A file of a later version, or of a negative one, is not touched as long as its
  version can be read. -/
  untouched : (∀ attempt ∈ attempts, ¬attempt.Misreads) → file.userVersion ≠ 0 →
    afterAttempts attempts file = file

theorem whole_afterAttempts (attempts : List Attempt) (file : SchemaFile α) :
    afterAttempts attempts file = file ∨ afterAttempts attempts file = upgrade file := by
  have preserved : ∀ (later : SchemaFile α) (attempt : Attempt),
      later = file ∨ later = upgrade file →
      (attempt.run later).2 = file ∨ (attempt.run later).2 = upgrade file := by
    intro later attempt whole
    cases ends attempt later with
    | unchanged _ same => exact whole.imp same.trans same.trans
    | current _ _ _ same => exact whole.imp same.trans same.trans
    | upgraded _ _ all =>
        rcases whole with same | done
        · exact .inr (all.trans (congrArg upgrade same))
        · exact .inr (all.trans ((congrArg upgrade done).trans (upgrade_upgrade file)))
  exact EventRun.exec_invariant preserved (.inl rfl) attempts

/-- The file after a successful attempt. -/
theorem opened_of_succeeded (attempt : Attempt) {file later : SchemaFile α}
    (whole : later = file ∨ later = upgrade file) (succeeded : (attempt.run later).1 = some true) :
    1 ≤ (attempt.run later).2.userVersion ∧
      (file.userVersion < 1 → (attempt.run later).2 = upgrade file) := by
  cases ends attempt later with
  | unchanged failed _ => exact absurd succeeded failed
  | current _ version _ same =>
      rw [same]
      refine ⟨version, fun old => whole.resolve_left fun unchanged => ?_⟩
      exact absurd (unchanged ▸ version) (Int32.not_le.mpr old)
  | upgraded _ _ all =>
      rw [all, userVersion_upgrade]
      refine ⟨by decide, fun _ => ?_⟩
      rcases whole with same | done
      · exact congrArg upgrade same
      · exact (congrArg upgrade done).trans (upgrade_upgrade file)

theorem migrationsAtomic (attempts : List Attempt) (file : SchemaFile α) :
    MigrationsAtomic attempts file := by
  constructor
  · exact whole_afterAttempts attempts file
  · intro touched name listed
    rw [(whole_afterAttempts attempts file).resolve_left touched]
    exact mem_objects_upgrade file listed
  · rcases whole_afterAttempts attempts file with same | done
    · rw [same]
      exact .refl file
    · rw [done]
      exact extends_upgrade file
  · intro before last split succeeded
    rw [split, afterAttempts, EventRun.exec_concat]
    exact opened_of_succeeded last (whole_afterAttempts before file) succeeded
  · intro readable version
    have preserved : ∀ (later : SchemaFile α) (attempt : Attempt), later = file →
        ¬attempt.Misreads → (attempt.run later).2 = file := by
      rintro _ attempt rfl reads
      cases ends attempt _ with
      | unchanged _ same => exact same
      | current _ _ _ same => exact same
      | upgraded read _ _ => exact absurd read (not_or.mpr ⟨reads, version⟩)
    exact EventRun.exec_invariant_of_guarded preserved rfl (EventRun.Guarded.of_forall readable)

end Migrations

end AnychatSdk
