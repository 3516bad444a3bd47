import AnychatSdk.Lib.Worker

/-!
# Files with a rollback journal

A program reads and writes a file, in a transaction or outside of one.  Any
operation may fail, and a failure may cost the transaction; the process may end
between any two operations, and then the file is what was committed last.
A transaction that gives up at the first failure takes effect as a whole or not
at all.
-/

universe u v w x y

namespace Program

variable {σ : Type x} {ω : Type u} {β : Type v} {ρ : Type w} (apply : ω → σ → β × σ)

/-- Run the first operations of a program, for a process that ends after them. -/
def runFor : Nat → Program ω β ρ → σ → Option ρ × σ
  | _, done result, state => (some result, state)
  | 0, perform _ _, state => (none, state)
  | count + 1, perform op next, state =>
      (next (apply op state).1).runFor count (apply op state).2

@[simp]
theorem runFor_done (count : Nat) (result : ρ) (state : σ) :
    (done result : Program ω β ρ).runFor apply count state = (some result, state) := by
  cases count <;> rfl

@[simp]
theorem runFor_zero_perform (op : ω) (next : β → Program ω β ρ) (state : σ) :
    (perform op next).runFor apply 0 state = (none, state) :=
  rfl

@[simp]
theorem runFor_succ_perform (count : Nat) (op : ω) (next : β → Program ω β ρ) (state : σ) :
    (perform op next).runFor apply (count + 1) state =
      (next (apply op state).1).runFor apply count (apply op state).2 :=
  rfl

@[simp]
theorem bind_done (program : Program ω β ρ) : program.bind done = program := by
  induction program with
  | done result => rfl
  | perform op next ih => exact congrArg (perform op) (funext ih)

end Program

/-- How an operation goes: well, or it fails and the transaction is kept or lost. -/
inductive Fault where
  | none
  | kept
  | lost
  deriving DecidableEq

inductive JournalOp (ω : Type u) (θ : Type v) where
  | begin
  | commit
  | rollback
  | write (op : ω)
  | read (query : θ)

inductive JournalReply (β : Type u) where
  | failed
  | done
  | value (answer : β)

def JournalReply.ok {β : Type u} : JournalReply β → Bool
  | failed => false
  | done | value _ => true

/-- A file, and what the transaction makes of it while one is open. -/
structure Journal (δ : Type u) where
  durable : δ
  working : Option δ := none
  calls : Nat := 0

namespace Journal

variable {δ : Type u} {ω : Type v} {θ : Type w} {β : Type x}

/-- What a reader on the same connection sees. -/
def current (journal : Journal δ) : δ :=
  journal.working.getD journal.durable

section Perform

variable (apply : ω → δ → δ) (answer : θ → δ → β) (faults : Nat → Fault)

/-- An operation in which nothing goes wrong. -/
def succeed (op : JournalOp ω θ) (journal : Journal δ) : JournalReply β × Journal δ :=
  match op, journal.working with
  | .begin, none => (.done, { journal with working := some journal.durable })
  | .begin, some _ => (.failed, journal)
  | .commit, some data => (.done, { journal with durable := data, working := none })
  | .commit, none => (.failed, journal)
  | .rollback, some _ => (.done, { journal with working := none })
  | .rollback, none => (.failed, journal)
  | .write op, some data => (.done, { journal with working := some (apply op data) })
  | .write op, none => (.done, { journal with durable := apply op journal.durable })
  | .read query, _ => (.value (answer query journal.current), journal)

/-- One operation. -/
def perform (op : JournalOp ω θ) (journal : Journal δ) : JournalReply β × Journal δ :=
  let called := { journal with calls := journal.calls + 1 }
  match faults journal.calls with
  | .none => succeed apply answer op called
  | .kept => (.failed, called)
  | .lost => (.failed, { called with working := none })

end Perform

/-! ## Transactions -/

/-- Operations up to the first that fails. -/
def execAll : List (JournalOp ω θ) → Program (JournalOp ω θ) (JournalReply β) Bool
  | [] => .done true
  | op :: ops => .perform op fun reply => if reply.ok then execAll ops else .done false

/-- Give up. -/
def giveUp : Program (JournalOp ω θ) (JournalReply β) Bool :=
  (execAll [.rollback]).bind fun _ => .done false

/-- Writes as one transaction. -/
def transaction (writes : List ω) : Program (JournalOp ω θ) (JournalReply β) Bool :=
  (execAll [.begin]).bind fun begun =>
    if begun then
      (execAll (writes.map .write)).bind fun written =>
        if written then
          (execAll [.commit]).bind fun committed => if committed then .done true else giveUp
        else giveUp
    else .done false

theorem bind_execAll_append {ρ : Type} (first second : List (JournalOp ω θ))
    (next : Bool → Program (JournalOp ω θ) (JournalReply β) ρ) :
    (execAll (first ++ second)).bind next =
      (execAll first).bind fun ok => if ok then (execAll second).bind next else next false := by
  induction first with
  | nil => rfl
  | cons op ops ih =>
      refine congrArg (Program.perform op) (funext fun reply => ?_)
      cases ok : reply.ok with
      | true => simpa [ok] using ih
      | false => simp [ok, Program.bind]

section Atomic

variable {apply : ω → δ → δ} {answer : θ → δ → β} {faults : Nat → Fault} {journal : Journal δ}
  {data : δ}

theorem calls_perform (op : JournalOp ω θ) :
    (perform apply answer faults op journal).2.calls = journal.calls + 1 := by
  rw [perform]
  split
  · cases op <;> cases journal.working <;> rfl
  · rfl
  · rfl

theorem perform_begin (idle : journal.working = none) :
    (perform apply answer faults .begin journal).2.durable = journal.durable ∧
      ((perform apply answer faults .begin journal).1.ok = true →
        (perform apply answer faults .begin journal).2.working = some journal.durable) := by
  rw [perform]
  split
  · simp [succeed, idle]
  · exact ⟨rfl, nofun⟩
  · exact ⟨rfl, nofun⟩

theorem perform_write (opened : journal.working = some data) (op : ω) :
    (perform apply answer faults (.write op) journal).2.durable = journal.durable ∧
      ((perform apply answer faults (.write op) journal).1.ok = true →
        (perform apply answer faults (.write op) journal).2.working = some (apply op data)) := by
  rw [perform]
  split
  · simp [succeed, opened]
  · exact ⟨rfl, nofun⟩
  · exact ⟨rfl, nofun⟩

theorem perform_commit (opened : journal.working = some data) :
    (perform apply answer faults .commit journal).2.durable =
      if (perform apply answer faults .commit journal).1.ok then data else journal.durable := by
  rw [perform]
  split
  · simp [succeed, opened, JournalReply.ok]
  · rfl
  · rfl

theorem perform_rollback :
    (perform apply answer faults .rollback journal).2.durable = journal.durable := by
  rw [perform]
  split
  · cases opened : journal.working <;> simp [succeed]
  · rfl
  · rfl

theorem perform_read (query : θ) :
    (perform apply answer faults (.read query) journal).2.durable = journal.durable ∧
      (journal.working = none →
        (perform apply answer faults (.read query) journal).2.working = none) ∧
      (perform apply answer faults (.read query) journal).1 =
        if faults journal.calls = .none then .value (answer query journal.current)
        else .failed := by
  rw [perform]
  split
  · next fault => exact ⟨rfl, fun idle => idle, (if_pos fault).symm⟩
  · next fault => exact ⟨rfl, fun idle => idle, by rw [fault]; rfl⟩
  · next fault => exact ⟨rfl, fun _ => rfl, by rw [fault]; rfl⟩

/-- What a process has made of a file that it found as `before`: it reports
success and the file is as wanted, or it does not and the file is as before. -/
def AllOrNothing (before wanted : δ) (outcome : Option Bool × Journal δ) : Prop :=
  (outcome.1 = some true ∧ outcome.2.durable = wanted) ∨
    (outcome.1 ≠ some true ∧ outcome.2.durable = before)

/-- A rollback leaves the file alone. -/
theorem allOrNothing_giveUp (count : Nat) (journal : Journal δ) (wanted : δ) :
    AllOrNothing journal.durable wanted
      (giveUp.runFor (perform apply answer faults) count journal) := by
  refine .inr ?_
  cases count with
  | zero => exact ⟨nofun, rfl⟩
  | succ count =>
      have kept : (perform apply answer faults .rollback journal).2.durable = journal.durable :=
        perform_rollback
      rw [giveUp, execAll, Program.bind, Program.runFor_succ_perform]
      split
      · simpa [execAll, Program.bind] using kept
      · simpa [Program.bind] using kept

/-- The end of a transaction. -/
theorem allOrNothing_commit (count : Nat) (opened : journal.working = some data) :
    AllOrNothing journal.durable data
      (((execAll [.commit]).bind fun committed =>
        if committed then .done true else giveUp).runFor (perform apply answer faults) count
          journal) := by
  cases count with
  | zero => exact .inr ⟨nofun, rfl⟩
  | succ count =>
      have committed : (perform apply answer faults .commit journal).2.durable = _ :=
        perform_commit opened
      rw [execAll, Program.bind, Program.runFor_succ_perform]
      split
      · next ok =>
          rw [if_pos ok] at committed
          exact .inl ⟨by simp [execAll, Program.bind],
            by simpa [execAll, Program.bind] using committed⟩
      · next failed =>
          rw [if_neg failed] at committed
          rw [← committed]
          exact allOrNothing_giveUp count _ data

variable (apply answer faults) in
/-- Writes in an open transaction, with the end of the transaction. -/
theorem allOrNothing_writes (count : Nat) (opened : journal.working = some data)
    (writes : List ω) :
    AllOrNothing journal.durable (writes.foldl (fun data op => apply op data) data)
      (((execAll (writes.map .write)).bind fun written =>
        if written then
          (execAll [.commit]).bind fun committed => if committed then .done true else giveUp
        else giveUp).runFor (perform apply answer faults) count journal) := by
  induction writes generalizing count journal data with
  | nil => exact allOrNothing_commit count opened
  | cons op writes ih =>
      cases count with
      | zero => exact .inr ⟨nofun, rfl⟩
      | succ count =>
          have written : (perform apply answer faults (.write op) journal).2.durable = _ ∧ _ :=
            perform_write opened op
          rw [List.map_cons, execAll, Program.bind, Program.runFor_succ_perform]
          split
          · next ok =>
              rw [← written.1]
              exact ih count (written.2 ok)
          · rw [← written.1]
            exact allOrNothing_giveUp count _ _

/-- A transaction that any operation may spoil and any interruption may end. -/
theorem allOrNothing_transaction (count : Nat) (idle : journal.working = none) (writes : List ω) :
    AllOrNothing journal.durable (writes.foldl (fun data op => apply op data) journal.durable)
      ((transaction writes).runFor (perform apply answer faults) count journal) := by
  cases count with
  | zero => exact .inr ⟨nofun, rfl⟩
  | succ count =>
      have begun : (perform apply answer faults .begin journal).2.durable = _ ∧ _ :=
        perform_begin idle
      rw [transaction, execAll, Program.bind, Program.runFor_succ_perform]
      split
      · next ok =>
          have written := allOrNothing_writes apply answer faults count (begun.2 ok) writes
          rw [begun.1] at written
          exact written
      · exact .inr ⟨by simp [Program.bind], by simpa [Program.bind] using begun.1⟩

end Atomic

end Journal
