import Clawdentity.Lib.Sql

/-!
# The migrations of the database

An open of the database runs the scripts whose marker is not there, in order, and inserts the
marker of each after its last statement. The statements are not in a transaction: each of them is
durable once it has run, and the process can stop between any two.

The time in a marker is left out, since no statement reads it.

## Main definitions

* `MigrationName.sql`, `applyMigrations` — the scripts, and the open.
* `AtVersion` — a database that an earlier version has left.
* `Clean` — where a stop does not leave half of a script that cannot be run again.
* `recovers_iff` — when the next open succeeds.
-/

namespace Clawdentity.Rust.Migrations

open Lib.Sql

/-! ## The scripts -/

inductive TableName
  | peers
  | outboundQueue
  | inboundPending
  | inboundDeadLetter
  | inboundEvents
  | verifyCache
  | outboundDeadLetter
  | peersNext
  deriving DecidableEq

inductive ColumnName
  | peerAlias
  | did
  | proxyUrl
  | agentName
  | humanName
  | displayName
  | framework
  | description
  | lastSyncedAtMs
  | createdAtMs
  | updatedAtMs
  | frameId
  | frameVersion
  | frameType
  | toAgentDid
  | fromAgentDid
  | payloadJson
  | payloadBytes
  | conversationId
  | replyTo
  | requestId
  | receivedAtMs
  | nextAttemptAtMs
  | attemptCount
  | lastError
  | lastAttemptAtMs
  | deadLetteredAtMs
  | deadLetterReason
  | id
  | atMs
  | eventType
  | detailsJson
  | cacheKey
  | registryUrl
  | fetchedAtMs
  | deliverySource
  | groupId
  deriving DecidableEq

inductive IndexName
  | outboundCreatedAtMs
  | inboundPendingNextAttempt
  | inboundDeadLetterDeadLetteredAt
  | verifyCacheFetchedAtMs
  | outboundDeadLetterDeadLetteredAt
  deriving DecidableEq

inductive MigrationName
  | phase3PersistenceModel
  | outboundDeadLetter
  | inboundDeliverySource
  | outboundRetryPolicy
  | outboundGroupId
  | peerProfileCutover
  deriving DecidableEq

abbrev Db := Database TableName ColumnName IndexName MigrationName

abbrev Sql := Statement TableName ColumnName IndexName MigrationName

/-- A column that may be null. -/
def optional (name : ColumnName) (type : ColumnType) : Column ColumnName where
  name := name
  type := type
  notNull := false
  primaryKey := false
  default := .null

def required (name : ColumnName) (type : ColumnType) : Column ColumnName where
  name := name
  type := type
  notNull := true
  primaryKey := false
  default := .null

def key (name : ColumnName) (type : ColumnType) : Column ColumnName where
  name := name
  type := type
  notNull := false
  primaryKey := true
  default := .null

def peersColumns : List (Column ColumnName) := [
  key .peerAlias .text,
  required .did .text,
  required .proxyUrl .text,
  optional .agentName .text,
  optional .humanName .text,
  required .createdAtMs .integer,
  required .updatedAtMs .integer]

def outboundQueueColumns : List (Column ColumnName) := [
  key .frameId .text,
  required .frameVersion .integer,
  required .frameType .text,
  required .toAgentDid .text,
  required .payloadJson .text,
  optional .conversationId .text,
  optional .replyTo .text,
  required .createdAtMs .integer]

def inboundPendingColumns : List (Column ColumnName) := [
  key .requestId .text,
  required .frameId .text,
  required .fromAgentDid .text,
  required .toAgentDid .text,
  required .payloadJson .text,
  required .payloadBytes .integer,
  required .receivedAtMs .integer,
  required .nextAttemptAtMs .integer,
  required .attemptCount .integer,
  optional .lastError .text,
  optional .lastAttemptAtMs .integer,
  optional .conversationId .text,
  optional .replyTo .text]

def inboundDeadLetterColumns : List (Column ColumnName) := [
  key .requestId .text,
  required .frameId .text,
  required .fromAgentDid .text,
  required .toAgentDid .text,
  required .payloadJson .text,
  required .payloadBytes .integer,
  required .receivedAtMs .integer,
  required .attemptCount .integer,
  optional .lastError .text,
  optional .lastAttemptAtMs .integer,
  optional .conversationId .text,
  optional .replyTo .text,
  required .deadLetteredAtMs .integer,
  required .deadLetterReason .text]

def inboundEventsColumns : List (Column ColumnName) := [
  key .id .integer,
  required .atMs .integer,
  required .eventType .text,
  optional .requestId .text,
  optional .detailsJson .text]

def verifyCacheColumns : List (Column ColumnName) := [
  key .cacheKey .text,
  required .registryUrl .text,
  required .fetchedAtMs .integer,
  required .payloadJson .text]

def outboundDeadLetterColumns : List (Column ColumnName) := [
  key .frameId .text,
  required .frameVersion .integer,
  required .frameType .text,
  required .toAgentDid .text,
  required .payloadJson .text,
  optional .conversationId .text,
  optional .replyTo .text,
  required .createdAtMs .integer,
  required .deadLetteredAtMs .integer,
  required .deadLetterReason .text]

def peersNextColumns : List (Column ColumnName) := [
  key .peerAlias .text,
  required .did .text,
  required .proxyUrl .text,
  optional .agentName .text,
  optional .displayName .text,
  optional .framework .text,
  optional .description .text,
  optional .lastSyncedAtMs .integer,
  required .createdAtMs .integer,
  required .updatedAtMs .integer]

/-- The columns of `peers_next` with what is selected for them from `peers`. -/
def peersNextValues : List (ColumnName × Option ColumnName) := [
  (.peerAlias, some .peerAlias),
  (.did, some .did),
  (.proxyUrl, some .proxyUrl),
  (.agentName, some .agentName),
  (.displayName, some .humanName),
  (.framework, none),
  (.description, none),
  (.lastSyncedAtMs, some .updatedAtMs),
  (.createdAtMs, some .createdAtMs),
  (.updatedAtMs, some .updatedAtMs)]

/-- `NOT NULL DEFAULT 0`. -/
def counter (name : ColumnName) : Column ColumnName where
  name := name
  type := .integer
  notNull := true
  primaryKey := false
  default := .integer 0

/-- The statements of a migration. -/
def MigrationName.sql : MigrationName → List Sql
  | .phase3PersistenceModel => [
      .createTable true .peers peersColumns,
      .createTable true .outboundQueue outboundQueueColumns,
      .createTable true .inboundPending inboundPendingColumns,
      .createTable true .inboundDeadLetter inboundDeadLetterColumns,
      .createTable true .inboundEvents inboundEventsColumns,
      .createTable true .verifyCache verifyCacheColumns,
      .createIndex .outboundCreatedAtMs .outboundQueue .createdAtMs,
      .createIndex .inboundPendingNextAttempt .inboundPending .nextAttemptAtMs,
      .createIndex .inboundDeadLetterDeadLetteredAt .inboundDeadLetter .deadLetteredAtMs,
      .createIndex .verifyCacheFetchedAtMs .verifyCache .fetchedAtMs]
  | .outboundDeadLetter => [
      .createTable true .outboundDeadLetter outboundDeadLetterColumns,
      .createIndex .outboundDeadLetterDeadLetteredAt .outboundDeadLetter .deadLetteredAtMs]
  | .inboundDeliverySource => [
      .addColumn .inboundPending (optional .deliverySource .text),
      .addColumn .inboundDeadLetter (optional .deliverySource .text)]
  | .outboundRetryPolicy => [
      .addColumn .outboundQueue (counter .attemptCount),
      .addColumn .outboundQueue (counter .nextAttemptAtMs),
      .addColumn .outboundQueue (optional .lastAttemptAtMs .integer),
      .addColumn .outboundQueue (optional .lastError .text),
      .updateZero .outboundQueue .nextAttemptAtMs .createdAtMs]
  | .outboundGroupId => [
      .addColumn .outboundQueue (optional .groupId .text),
      .addColumn .outboundDeadLetter (optional .groupId .text)]
  | .peerProfileCutover => [
      .addColumn .inboundPending (optional .groupId .text),
      .addColumn .inboundDeadLetter (optional .groupId .text),
      .createTable false .peersNext peersNextColumns,
      .insertSelect .peersNext .peers peersNextValues,
      .dropTable .peers,
      .renameTable .peersNext .peers]

/-- The migrations, in the order in which an open applies them. -/
def migrations : List MigrationName := [
  .phase3PersistenceModel,
  .outboundDeadLetter,
  .inboundDeliverySource,
  .outboundRetryPolicy,
  .outboundGroupId,
  .peerProfileCutover]

/-! ## The open -/

/-- The process that opens the database. -/
structure Process where
  db : Db
  /-- How many more statements it executes before it stops; `none` where nothing stops it. -/
  remaining : Option ℕ

/-- How an open ends that does not succeed, and the database that it leaves. -/
inductive Exit
  | stopped (db : Db)
  | failed (db : Db) (e : SqlError)

def execute (s : Sql) (p : Process) : Except Exit Process :=
  match p.remaining with
  | some 0 => .error (.stopped p.db)
  | remaining =>
      match s.run p.db with
      | .error e => .error (.failed p.db e)
      | .ok db => .ok { db, remaining := remaining.map (· - 1) }

/-- The statements are executed one by one; each of them is durable. -/
def executeBatch : List Sql → Process → Except Exit Process
  | [], p => .ok p
  | s :: rest, p => do
      let p ← execute s p
      executeBatch rest p

def applyMigrationIfNeeded (name : MigrationName) (p : Process) : Except Exit Process :=
  match p.db.applied with
  | none => .error (.failed p.db .noSuchTable)
  | some names =>
      if name ∈ names then .ok p
      else do
        let p ← executeBatch name.sql p
        execute (.insertMark name) p

/-- The migrations of a list, one after the other. -/
def applyEach : List MigrationName → Process → Except Exit Process
  | [], p => .ok p
  | name :: rest, p => do
      let p ← applyMigrationIfNeeded name p
      applyEach rest p

def applyMigrations (p : Process) : Except Exit Process := do
  let p ← execute .createMarks p
  applyEach migrations p

/-- The database that is left. -/
def leaves : Except Exit Process → Db
  | .error (.stopped db) => db
  | .error (.failed db _) => db
  | .ok p => p.db

/-- An open that nothing stops. -/
def openDatabase (db : Db) : Except Exit Process := applyMigrations { db, remaining := none }

/-- The database after an open that stops once it has executed `n` statements. -/
def stoppedAfter (n : ℕ) (db : Db) : Db := leaves (applyMigrations { db, remaining := some n })

/-! ## Databases of earlier versions -/

def emptyDb : Db where
  schema := { tables := fun _ => none, indexes := fun _ => none }
  rows := fun _ => []
  applied := none

/-- The catalogue that the first `k` migrations leave. -/
def schemaAt (k : ℕ) : Schema TableName ColumnName IndexName :=
  match runAll ((migrations.take k).flatMap MigrationName.sql) emptyDb with
  | .ok db => db.schema
  | .error _ => emptyDb.schema

/-- The database of the version that knows the first `k` migrations, with any rows. Where `k` is
zero, no version has opened it. -/
structure AtVersion (k : ℕ) (db : Db) : Prop where
  schema : db.schema = schemaAt k
  applied : db.applied = if k = 0 then none else some (migrations.take k)
  wellFormed : WellFormed db

/-- An open after the stop succeeds, and so does one that is not stopped, with one schema. -/
def Recovers (n : ℕ) (db : Db) : Prop :=
  ∃ p p', openDatabase db = .ok p ∧ openDatabase (stoppedAfter n db) = .ok p' ∧
    p'.db.schema = p.db.schema ∧ p'.db.applied = p.db.applied

/-- The script creates only what does not exist. -/
def MigrationName.repeatable (name : MigrationName) : Bool := name.sql.all Statement.guarded

/-- Of the statements of these migrations with their markers, the first `n` do not end inside a
migration that cannot be run again. -/
def CleanFrom : List MigrationName → ℕ → Prop
  | [], _ => True
  | name :: rest, n =>
      if n ≤ name.sql.length then n = 0 ∨ name.repeatable = true
      else CleanFrom rest (n - (name.sql.length + 1))

/-- The stop after `n` statements of an open, from the version that knows the first `k` migrations.
The first statement creates the table of markers. -/
def Clean (k n : ℕ) : Prop := n = 0 ∨ CleanFrom (migrations.drop k) (n - 1)

/-! ## Executing the statements -/

theorem execute_none {s : Sql} {db next : Db} (h : s.run db = .ok next) :
    execute s { db, remaining := none } = .ok { db := next, remaining := none } := by
  simp [execute, h]

theorem execute_succ {s : Sql} {db next : Db} {n : ℕ} (h : s.run db = .ok next) :
    execute s { db, remaining := some (n + 1) } = .ok { db := next, remaining := some n } := by
  simp [execute, h]

theorem executeBatch_none {script : List Sql} {db next : Db} (h : runAll script db = .ok next) :
    executeBatch script { db, remaining := none } = .ok { db := next, remaining := none } := by
  induction script generalizing db with
  | nil =>
      cases h
      rfl
  | cons s rest ih =>
      obtain ⟨mid, hmid, hrest⟩ := runAll_cons_eq_ok.mp h
      rw [executeBatch, execute_none hmid]
      exact ih hrest

/-- A process that does not stop inside the script executes all of it. -/
theorem executeBatch_of_le {script : List Sql} {db next : Db} {n : ℕ}
    (h : runAll script db = .ok next) (hn : script.length ≤ n) :
    executeBatch script { db, remaining := some n } =
      .ok { db := next, remaining := some (n - script.length) } := by
  induction script generalizing db n with
  | nil =>
      cases h
      rfl
  | cons s rest ih =>
      obtain ⟨mid, hmid, hrest⟩ := runAll_cons_eq_ok.mp h
      obtain ⟨n, rfl⟩ : ∃ m, n = m + 1 := Nat.exists_eq_succ_of_ne_zero (by simp at hn; omega)
      rw [executeBatch, execute_succ hmid, List.length_cons, Nat.add_sub_add_right]
      exact ih hrest (by simpa using hn)

/-- A process that stops inside the script leaves the database after the statements before. -/
theorem executeBatch_of_lt {script : List Sql} {db mid : Db} {n : ℕ}
    (h : runAll (script.take n) db = .ok mid) (hn : n < script.length) :
    executeBatch script { db, remaining := some n } = .error (.stopped mid) := by
  induction script generalizing db n with
  | nil => cases hn
  | cons s rest ih =>
      cases n with
      | zero =>
          cases h
          rfl
      | succ n =>
          obtain ⟨next, hnext, hrest⟩ := runAll_cons_eq_ok.mp h
          rw [executeBatch, execute_succ hnext]
          exact ih hrest (by simpa using hn)

/-- A statement that fails ends the open. -/
theorem executeBatch_fails {s : Sql} {rest : List Sql} {db : Db} {e : SqlError}
    (h : s.run db = .error e) :
    executeBatch (s :: rest) { db, remaining := none } = .error (.failed db e) := by
  simp [executeBatch, execute, h, bind, Except.bind]

theorem apply_of_applied {name : MigrationName} {names : List MigrationName} {p : Process}
    (hnames : p.db.applied = some names) (h : name ∈ names) :
    applyMigrationIfNeeded name p = .ok p := by
  simp [applyMigrationIfNeeded, hnames, h]

theorem executeBatch_append (first rest : List Sql) (p : Process) :
    executeBatch (first ++ rest) p = executeBatch first p >>= executeBatch rest := by
  induction first generalizing p with
  | nil => rfl
  | cons s first ih =>
      rw [List.cons_append, executeBatch, executeBatch, bind_assoc]
      exact bind_congr fun p => ih p

/-- The statements of a migration that is applied, with its marker. -/
def MigrationName.script (name : MigrationName) : List Sql := name.sql ++ [.insertMark name]

theorem apply_of_new {name : MigrationName} {names : List MigrationName} {p : Process}
    (hnames : p.db.applied = some names) (h : name ∉ names) :
    applyMigrationIfNeeded name p = executeBatch name.script p := by
  have hlast : executeBatch [.insertMark name] = execute (.insertMark name) :=
    funext fun p => bind_pure (execute (.insertMark name) p)
  rw [MigrationName.script, executeBatch_append, hlast]
  simp only [applyMigrationIfNeeded, hnames, if_neg h]

/-- The migrations whose markers are there are skipped. -/
theorem applyEach_append {done rest names : List MigrationName} {p : Process}
    (hnames : p.db.applied = some names) (hdone : ∀ name ∈ done, name ∈ names) :
    applyEach (done ++ rest) p = applyEach rest p := by
  induction done with
  | nil => rfl
  | cons name done ih =>
      rw [List.cons_append, applyEach,
        apply_of_applied hnames (hdone name List.mem_cons_self)]
      exact ih fun other hother => hdone other (List.mem_cons_of_mem name hother)

/-! ## The two kinds of scripts -/

/-- The script first adds a column to a table that it does not take away. -/
def MigrationName.OneShot (name : MigrationName) : Prop :=
  ∃ table column rest, name.sql = .addColumn table column :: rest ∧
    ∀ s ∈ rest, s.keeps table = true

theorem repeatable_or_oneShot (name : MigrationName) : name.repeatable = true ∨ name.OneShot := by
  cases name with
  | phase3PersistenceModel | outboundDeadLetter => exact .inl rfl
  | inboundDeliverySource | outboundRetryPolicy | outboundGroupId | peerProfileCutover =>
      exact .inr ⟨_, _, _, rfl, by decide⟩

theorem sql_unmarked (name : MigrationName) : ∀ s ∈ name.sql, s.marks = false := by
  cases name <;> decide

/-- A script that can be run again does what is left of it. -/
theorem rerun_of_repeatable {name : MigrationName} {n : ℕ} {db mid next : Db}
    (hname : name.repeatable = true) (hmid : runAll (name.sql.take n) db = .ok mid)
    (hnext : runAll name.script db = .ok next) : runAll name.script mid = .ok next := by
  have hguarded : ∀ s ∈ name.sql.take n, s.guarded = true := fun s hs =>
    List.all_eq_true.mp hname s (List.mem_of_mem_take hs)
  have hscript : name.script = name.sql.take n ++ (name.sql.drop n ++ [.insertMark name]) := by
    rw [← List.append_assoc, List.take_append_drop, MigrationName.script]
  rw [hscript] at hnext ⊢
  rw [runAll_append (rerun_eq hguarded hmid), ← runAll_append hmid, hnext]

/-- A script that first adds a column fails once it has added it. -/
theorem rerun_of_oneShot {name : MigrationName} {n : ℕ} {db mid : Db} (hname : name.OneShot)
    (hmid : runAll (name.sql.take (n + 1)) db = .ok mid) :
    executeBatch name.sql { db := mid, remaining := none } =
      .error (.failed mid .duplicateColumn) := by
  obtain ⟨table, column, rest, hsql, hkeeps⟩ := hname
  rw [hsql, List.take_succ_cons] at hmid
  obtain ⟨first, hfirst, hrest⟩ := runAll_cons_eq_ok.mp hmid
  have hcolumn : HasColumn table column.name mid :=
    (hasColumn_addColumn hfirst).runAll (fun s hs => hkeeps s (List.mem_of_mem_take hs)) hrest
  rw [hsql]
  exact executeBatch_fails (addColumn_fails hcolumn)

/-! ## An open that nothing stops -/

/-- No script violates a constraint, from the catalogue that the ones before it leave. -/
def Checked : Schema TableName ColumnName IndexName → List MigrationName → Bool
  | _, [] => true
  | schema, name :: rest => (check [] schema name.sql).any fun next => Checked next rest

/-- The state of an open that has some migrations before it. -/
structure Pending (rest names : List MigrationName) (db : Db) : Prop where
  applied : db.applied = some names
  new : ∀ name ∈ rest, name ∉ names
  nodup : rest.Nodup
  wellFormed : WellFormed db
  checked : Checked db.schema rest = true

/-- What a migration does, in a process that does not stop. -/
theorem Pending.step {name : MigrationName} {rest names : List MigrationName} {db : Db}
    (h : Pending (name :: rest) names db) :
    ∃ mid, runAll name.sql db = .ok mid ∧ mid.applied = some names ∧
      Pending rest (names ++ [name]) { mid with applied := some (names ++ [name]) } := by
  have hchecked := h.checked
  rw [Checked, Option.any_eq_true] at hchecked
  obtain ⟨schema, hcheck, hrest⟩ := hchecked
  obtain ⟨mid, hmid, rfl, hwell⟩ := runAll_of_check h.wellFormed (by simp) hcheck
  have happlied := (applied_of_runAll (sql_unmarked name) hmid).trans h.applied
  obtain ⟨hname, hnodup⟩ := List.nodup_cons.mp h.nodup
  refine ⟨mid, hmid, happlied, rfl, fun other hother => ?_, hnodup, hwell, hrest⟩
  rw [List.mem_append, List.mem_singleton, not_or]
  exact ⟨h.new other (List.mem_cons_of_mem name hother), fun h => hname (h ▸ hother)⟩

/-- What a migration does, with its marker. -/
theorem Pending.run_script {name : MigrationName} {rest names : List MigrationName} {db : Db}
    (h : Pending (name :: rest) names db) :
    ∃ next, runAll name.script db = .ok next ∧ Pending rest (names ++ [name]) next := by
  obtain ⟨mid, hmid, happlied, hnext⟩ := h.step
  have hmark := run_insertMark happlied (h.new name List.mem_cons_self)
  refine ⟨_, ?_, hnext⟩
  rw [MigrationName.script, runAll_append hmid]
  exact runAll_cons_eq_ok.mpr ⟨_, hmark, rfl⟩

theorem Pending.applyEach_ok {rest names : List MigrationName} {db : Db}
    (h : Pending rest names db) :
    ∃ final, applyEach rest { db, remaining := none } = .ok { db := final, remaining := none } := by
  induction rest generalizing names db with
  | nil => exact ⟨db, rfl⟩
  | cons name rest ih =>
      obtain ⟨next, hnext, hpending⟩ := h.run_script
      obtain ⟨final, hfinal⟩ := ih hpending
      refine ⟨final, ?_⟩
      rw [applyEach, apply_of_new h.applied (h.new name List.mem_cons_self),
        executeBatch_none hnext]
      exact hfinal

/-! ## The open after a stop -/

/-- The database after the first `n` statements of these migrations with their markers. -/
def stoppedIn (rest : List MigrationName) (n : ℕ) (db : Db) : Db :=
  leaves (applyEach rest { db, remaining := some n })

/-- A stop inside a migration leaves what its statements before the stop have done. -/
theorem Pending.stop_inside {name : MigrationName} {rest names : List MigrationName} {db : Db}
    (h : Pending (name :: rest) names db) {n : ℕ} (hn : n ≤ name.sql.length) :
    ∃ mid, runAll (name.sql.take n) db = .ok mid ∧ stoppedIn (name :: rest) n db = mid ∧
      mid.applied = some names := by
  obtain ⟨next, hnext, happlied, -⟩ := h.step
  rw [← List.take_append_drop n name.sql] at hnext
  obtain ⟨mid, hmid, -⟩ := exists_runAll_append hnext
  have hstarts : runAll (name.script.take n) db = .ok mid := by
    rwa [MigrationName.script, List.take_append_of_le_length hn]
  have hlt : n < name.script.length := by
    rw [MigrationName.script, List.length_append, List.length_singleton]
    omega
  refine ⟨mid, hmid, ?_, ?_⟩
  · rw [stoppedIn, applyEach, apply_of_new h.applied (h.new name List.mem_cons_self),
      executeBatch_of_lt hstarts hlt]
    rfl
  · rw [applied_of_runAll (fun s hs => sql_unmarked name s (List.mem_of_mem_take hs)) hmid,
      h.applied]

/-- A stop behind a migration is a stop in the migrations after it. -/
theorem Pending.stop_behind {name : MigrationName} {rest names : List MigrationName} {db next : Db}
    (h : Pending (name :: rest) names db) (hnext : runAll name.script db = .ok next) {n : ℕ}
    (hn : ¬n ≤ name.sql.length) :
    stoppedIn (name :: rest) n db = stoppedIn rest (n - (name.sql.length + 1)) next := by
  have hlength : name.script.length = name.sql.length + 1 := by
    rw [MigrationName.script, List.length_append, List.length_singleton]
  rw [stoppedIn, applyEach, apply_of_new h.applied (h.new name List.mem_cons_self),
    executeBatch_of_le hnext (by omega), hlength]
  rfl

/-- The markers that are there at the stop. -/
theorem Pending.stopped_applied {rest names : List MigrationName} {db : Db}
    (h : Pending rest names db) (n : ℕ) :
    ∃ more, (stoppedIn rest n db).applied = some (names ++ more) := by
  induction rest generalizing names db n with
  | nil => exact ⟨[], by simpa [stoppedIn, applyEach, leaves] using h.applied⟩
  | cons name rest ih =>
      by_cases hn : n ≤ name.sql.length
      · obtain ⟨mid, -, hstopped, happlied⟩ := h.stop_inside hn
        exact ⟨[], by rw [hstopped, happlied, List.append_nil]⟩
      · obtain ⟨next, hnext, hpending⟩ := h.run_script
        obtain ⟨more, hmore⟩ := ih hpending (n - (name.sql.length + 1))
        exact ⟨name :: more, by rw [h.stop_behind hnext hn, hmore, List.append_assoc]; rfl⟩

/-- What the migrations do after the stop: what they do without it, or they fail, and leave the
database as it is. -/
theorem Pending.reopen {rest names : List MigrationName} {db : Db} (h : Pending rest names db)
    (n : ℕ) :
    (CleanFrom rest n → applyEach rest { db := stoppedIn rest n db, remaining := none } =
      applyEach rest { db, remaining := none }) ∧
    (¬CleanFrom rest n → applyEach rest { db := stoppedIn rest n db, remaining := none } =
      .error (.failed (stoppedIn rest n db) .duplicateColumn)) := by
  induction rest generalizing names db n with
  | nil => exact ⟨fun _ => rfl, fun hclean => (hclean trivial).elim⟩
  | cons name rest ih =>
      have hnew := h.new name List.mem_cons_self
      obtain ⟨next, hnext, hpending⟩ := h.run_script
      by_cases hn : n ≤ name.sql.length
      · obtain ⟨mid, hmid, hstopped, happlied⟩ := h.stop_inside hn
        rw [CleanFrom, if_pos hn, hstopped, applyEach, applyEach,
          apply_of_new (p := { db := mid, remaining := none }) happlied hnew,
          apply_of_new (p := { db, remaining := none }) h.applied hnew]
        refine ⟨fun hclean => ?_, fun hclean => ?_⟩
        · obtain rfl | hname := hclean
          · cases hmid
            rfl
          · rw [executeBatch_none hnext,
              executeBatch_none (rerun_of_repeatable hname hmid hnext)]
        · rw [not_or] at hclean
          obtain ⟨n, rfl⟩ := Nat.exists_eq_succ_of_ne_zero hclean.1
          have hname := (repeatable_or_oneShot name).resolve_left hclean.2
          rw [MigrationName.script, executeBatch_append, rerun_of_oneShot hname hmid]
          rfl
      · obtain ⟨hclean, hdirty⟩ := ih hpending (n - (name.sql.length + 1))
        obtain ⟨more, hmore⟩ := hpending.stopped_applied (n - (name.sql.length + 1))
        have hskip : ∀ p : Process, p.db.applied = some (names ++ [name] ++ more) →
            applyMigrationIfNeeded name p = .ok p := fun p hp =>
          apply_of_applied hp (by simp)
        rw [CleanFrom, if_neg hn, h.stop_behind hnext hn, applyEach, applyEach,
          apply_of_new (p := { db, remaining := none }) h.applied hnew, executeBatch_none hnext,
          hskip _ hmore]
        exact ⟨hclean, hdirty⟩

/-! ## When the next open succeeds -/

/-- Every script, from the catalogue of every version, violates no constraint. -/
theorem checked_versions : ∀ k ≤ migrations.length, Checked (schemaAt k) (migrations.drop k) := by
  decide

/-- The database of a version with the table of markers. -/
def marked (k : ℕ) (db : Db) : Db := { db with applied := some (migrations.take k) }

theorem AtVersion.pending {k : ℕ} (hk : k ≤ migrations.length) {db : Db} (h : AtVersion k db) :
    Pending (migrations.drop k) (migrations.take k) (marked k db) where
  applied := rfl
  new := by
    intro name hname hdone
    have hnodup : (migrations.take k ++ migrations.drop k).Nodup := by
      rw [List.take_append_drop]
      decide
    exact (List.nodup_append.mp hnodup).2.2 name hdone name hname rfl
  nodup := (List.drop_sublist k migrations).nodup (by decide)
  wellFormed := h.wellFormed
  checked := by
    rw [marked, h.schema]
    exact checked_versions k hk

theorem AtVersion.createMarks {k : ℕ} {db : Db} (h : AtVersion k db) :
    (Statement.createMarks : Sql).run db = .ok (marked k db) := by
  rw [run_createMarks, h.applied, marked]
  by_cases hk : k = 0
  · subst hk
    rfl
  · rw [if_neg hk]
    rfl

theorem AtVersion.openDatabase_eq {k : ℕ} {db : Db} (h : AtVersion k db) :
    openDatabase db =
      applyEach (migrations.drop k) { db := marked k db, remaining := none } := by
  rw [openDatabase, applyMigrations, execute_none h.createMarks]
  conv_lhs => rw [← List.take_append_drop k migrations]
  exact applyEach_append (p := { db := marked k db, remaining := none }) rfl fun _ => id

theorem AtVersion.stoppedAfter_succ {k : ℕ} {db : Db} (h : AtVersion k db) (n : ℕ) :
    stoppedAfter (n + 1) db = stoppedIn (migrations.drop k) n (marked k db) := by
  rw [stoppedAfter, applyMigrations, execute_succ h.createMarks]
  conv_lhs => rw [← List.take_append_drop k migrations]
  exact congrArg leaves
    (applyEach_append (p := { db := marked k db, remaining := some n }) rfl fun _ => id)

/-- An open of a database that has the first markers. -/
theorem openDatabase_of_applied {k : ℕ} {db : Db} {more : List MigrationName}
    (h : db.applied = some (migrations.take k ++ more)) :
    openDatabase db = applyEach (migrations.drop k) { db, remaining := none } := by
  have hmarks : (Statement.createMarks : Sql).run db = .ok db := run_of_present (by
    rw [Statement.Present, h]
    rfl)
  rw [openDatabase, applyMigrations, execute_none hmarks]
  conv_lhs => rw [← List.take_append_drop k migrations]
  exact applyEach_append (p := { db, remaining := none }) h fun _ => List.mem_append_left more

/-- After a stop that leaves nothing half done, the next open ends as one that was not stopped. -/
theorem openDatabase_of_clean {k n : ℕ} (hk : k ≤ migrations.length) {db : Db}
    (h : AtVersion k db) (hclean : Clean k n) :
    openDatabase (stoppedAfter n db) = openDatabase db := by
  cases n with
  | zero => rfl
  | succ n =>
      have hpending := h.pending hk
      obtain ⟨more, hmore⟩ := hpending.stopped_applied n
      rw [h.stoppedAfter_succ, openDatabase_of_applied hmore, h.openDatabase_eq]
      exact (hpending.reopen n).1 (by simpa [Clean] using hclean)

/-- After a stop inside a migration that cannot be run again, every later open fails, and leaves
the database as it is. -/
theorem openDatabase_of_not_clean {k n : ℕ} (hk : k ≤ migrations.length) {db : Db}
    (h : AtVersion k db) (hclean : ¬Clean k n) :
    openDatabase (stoppedAfter n db) = .error (.failed (stoppedAfter n db) .duplicateColumn) := by
  cases n with
  | zero => exact (hclean (.inl rfl)).elim
  | succ n =>
      have hpending := h.pending hk
      obtain ⟨more, hmore⟩ := hpending.stopped_applied n
      rw [h.stoppedAfter_succ, openDatabase_of_applied hmore]
      exact (hpending.reopen n).2 (by simpa [Clean] using hclean)

/-- The next open succeeds, with the catalogue of an open that was not stopped, exactly where the
stop is not inside a migration that cannot be run again. -/
theorem recovers_iff {k : ℕ} (hk : k ≤ migrations.length) {db : Db} (h : AtVersion k db) (n : ℕ) :
    Recovers n db ↔ Clean k n := by
  constructor
  · rintro ⟨p, p', -, hreopen, -⟩
    by_contra hclean
    rw [openDatabase_of_not_clean hk h hclean] at hreopen
    cases hreopen
  · intro hclean
    obtain ⟨final, hfinal⟩ := (h.pending hk).applyEach_ok
    have hopen : openDatabase db = .ok { db := final, remaining := none } :=
      h.openDatabase_eq.trans hfinal
    exact ⟨_, _, hopen, (openDatabase_of_clean hk h hclean).trans hopen, rfl, rfl⟩

instance decidableCleanFrom : (rest : List MigrationName) → (n : ℕ) → Decidable (CleanFrom rest n)
  | [], _ => .isTrue trivial
  | name :: rest, n =>
      have := decidableCleanFrom rest (n - (name.sql.length + 1))
      inferInstanceAs (Decidable (if n ≤ name.sql.length then n = 0 ∨ name.repeatable = true
        else CleanFrom rest (n - (name.sql.length + 1))))

instance (k n : ℕ) : Decidable (Clean k n) :=
  inferInstanceAs (Decidable (n = 0 ∨ CleanFrom (migrations.drop k) (n - 1)))

/-- A database of the second version, with a peer and a frame in the queue. -/
def exampleDb : Db where
  schema := schemaAt 2
  rows table :=
    match table with
    | .peers => [fun column => if column = .createdAtMs then .integer 5 else .text ['a']]
    | .outboundQueue => [fun column => if column = .createdAtMs then .integer 7 else .text ['b']]
    | _ => []
  applied := some [.phase3PersistenceModel, .outboundDeadLetter]

theorem exampleDb_atVersion : AtVersion 2 exampleDb where
  schema := rfl
  applied := rfl
  wellFormed := by
    have hall : ∀ table, (exampleDb.schema.tables table).all fun columns =>
        ConstraintsHold columns (exampleDb.rows table) := by
      intro table
      cases table <;> decide
    intro table columns hcolumns
    simpa [hcolumns] using hall table

/-- The stop after the marker of the third migration, and the one inside it. -/
theorem exampleDb_recovers : Recovers 4 exampleDb ∧ ¬Recovers 2 exampleDb :=
  ⟨(recovers_iff (by decide) exampleDb_atVersion 4).mpr (by decide),
    (recovers_iff (by decide) exampleDb_atVersion 2).not.mpr (by decide)⟩

theorem emptyDb_atVersion : AtVersion 0 emptyDb where
  schema := rfl
  applied := rfl
  wellFormed := fun _ _ h => by cases h

/-- A new database whose first open stops after the first column that it adds. -/
theorem not_recovers : ¬∀ k ≤ migrations.length, ∀ db, AtVersion k db → ∀ n, Recovers n db := by
  intro h
  obtain ⟨_, _, -, hreopen, -⟩ := h 0 (by decide) emptyDb emptyDb_atVersion 16
  rw [openDatabase_of_not_clean (by decide) emptyDb_atVersion (by decide)] at hreopen
  cases hreopen

end Clawdentity.Rust.Migrations
