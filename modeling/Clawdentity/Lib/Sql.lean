import Clawdentity.Lib.Fallible
import Mathlib.Data.Int.Notation
import Mathlib.Data.List.Basic
import Mathlib.Logic.Function.Basic

/-!
# Statements that change a database

The tables with their columns, the indexes, and the rows, and what the statements of a schema
script do to them. A statement that fails changes nothing. Beside the tables stands the list of the
scripts that have been applied, which is a table of its own.

The names of tables, columns, indexes and scripts are any types.

## Main definitions

* `Schema`, `Database`, `Statement` — the catalogue, the rows, and the statements.
* `Statement.alter`, `Statement.run`, `runAll`.
* `rerun_eq` — statements that create what does not exist can be run again.
* `addColumn_fails` — a column cannot be added twice.
* `check`, `runAll_of_check` — a script that cannot violate a constraint runs.
-/

namespace Lib.Sql

variable {τ κ ι μ : Type}

/-! ## Databases -/

inductive ColumnType
  | text
  | integer
  deriving DecidableEq

inductive Value
  | null
  | integer (n : ℤ)
  | text (s : List Char)
  deriving DecidableEq

structure Column (κ : Type) where
  name : κ
  type : ColumnType
  notNull : Bool
  primaryKey : Bool
  /-- The value after `DEFAULT`, or null. -/
  default : Value
  deriving DecidableEq

structure Schema (τ κ ι : Type) where
  tables : τ → Option (List (Column κ))
  /-- The table and the column of an index. -/
  indexes : ι → Option (τ × κ)

abbrev Row (κ : Type) := κ → Value

structure Database (τ κ ι μ : Type) where
  schema : Schema τ κ ι
  rows : τ → List (Row κ)
  /-- The scripts that have been applied; `none` where their table does not exist. -/
  applied : Option (List μ)

inductive SqlError
  | tableExists
  | noSuchTable
  | noSuchColumn
  | duplicateColumn
  /-- A key is added, or a column that is not null without a default. -/
  | cannotAddColumn
  | constraint
  deriving DecidableEq

inductive Statement (τ κ ι μ : Type)
  /-- `CREATE TABLE IF NOT EXISTS`, of the table of applied scripts. -/
  | createMarks
  | insertMark (name : μ)
  | createTable (ifNotExists : Bool) (table : τ) (columns : List (Column κ))
  /-- `CREATE INDEX IF NOT EXISTS`. -/
  | createIndex (index : ι) (table : τ) (column : κ)
  /-- `ALTER TABLE table ADD COLUMN column`. -/
  | addColumn (table : τ) (column : Column κ)
  /-- `UPDATE table SET column = source WHERE column = 0`. -/
  | updateZero (table : τ) (column source : κ)
  /-- `INSERT INTO table (...) SELECT ... FROM source`, with a column or `NULL` for each. -/
  | insertSelect (table source : τ) (values : List (κ × Option κ))
  | dropTable (table : τ)
  /-- `ALTER TABLE table RENAME TO name`. -/
  | renameTable (table name : τ)

section Statements
variable [DecidableEq τ] [DecidableEq κ] [DecidableEq ι] [DecidableEq μ]

def hasName (columns : List (Column κ)) (column : κ) : Bool := columns.any fun c => c.name = column

/-- The columns of a table that must exist. -/
def Schema.requireTable (s : Schema τ κ ι) (table : τ) : Except SqlError (List (Column κ)) :=
  (s.tables table).elim (.error .noSuchTable) .ok

/-- The catalogue after a statement. -/
def Statement.alter (s : Schema τ κ ι) : Statement τ κ ι μ → Except SqlError (Schema τ κ ι)
  | .createMarks => .ok s
  | .insertMark _ => .ok s
  | .createTable ifNotExists table columns =>
      match s.tables table with
      | some _ => if ifNotExists then .ok s else .error .tableExists
      | none => .ok { s with tables := Function.update s.tables table (some columns) }
  | .createIndex index table column =>
      match s.indexes index with
      | some _ => .ok s
      | none => do
          let columns ← s.requireTable table
          Lib.check (hasName columns column) .noSuchColumn
          return { s with indexes := Function.update s.indexes index (some (table, column)) }
  | .addColumn table column => do
      let columns ← s.requireTable table
      Lib.check (!hasName columns column.name) .duplicateColumn
      Lib.check (!column.primaryKey && (!column.notNull || column.default ≠ .null))
        .cannotAddColumn
      return { s with tables := Function.update s.tables table (some (columns ++ [column])) }
  | .updateZero table column source => do
      let columns ← s.requireTable table
      Lib.check (hasName columns column && hasName columns source) .noSuchColumn
      return s
  | .insertSelect table source values => do
      let columns ← s.requireTable table
      let sources ← s.requireTable source
      Lib.check (values.all fun v => hasName columns v.1 && v.2.all (hasName sources)) .noSuchColumn
      return s
  | .dropTable table => do
      let _ ← s.requireTable table
      return {
        tables := Function.update s.tables table none
        indexes := fun index => (s.indexes index).filter fun entry => entry.1 ≠ table }
  | .renameTable table name => do
      let columns ← s.requireTable table
      Lib.check (s.tables name).isNone .tableExists
      return {
        tables := Function.update (Function.update s.tables table none) name (some columns)
        indexes := fun index => (s.indexes index).map fun entry =>
          if entry.1 = table then (name, entry.2) else entry }

/-! ## Rows -/

/-- The row has the values that must be there. -/
def rowOk (columns : List (Column κ)) (row : Row κ) : Prop :=
  ∀ c ∈ columns, c.notNull = true → row c.name ≠ .null

instance (columns : List (Column κ)) (row : Row κ) : Decidable (rowOk columns row) :=
  inferInstanceAs (Decidable (∀ c ∈ columns, _))

/-- No two rows have one value of the column, other than null. -/
def KeyOk (column : κ) (rows : List (Row κ)) : Prop :=
  rows.Pairwise fun a b => a column = .null ∨ a column ≠ b column

instance (column : κ) (rows : List (Row κ)) : Decidable (KeyOk column rows) :=
  inferInstanceAs (Decidable (List.Pairwise _ _))

/-- The constraints of a table. -/
def ConstraintsHold (columns : List (Column κ)) (rows : List (Row κ)) : Prop :=
  (∀ row ∈ rows, rowOk columns row) ∧ ∀ c ∈ columns, c.primaryKey = true → KeyOk c.name rows

instance (columns : List (Column κ)) (rows : List (Row κ)) :
    Decidable (ConstraintsHold columns rows) :=
  inferInstanceAs (Decidable (_ ∧ _))

/-- The row that is inserted for a row of the source. -/
def selectRow (columns : List (Column κ)) (values : List (κ × Option κ)) (row : Row κ) : Row κ :=
  fun column =>
    match values.find? fun v => v.1 = column with
    | some (_, some source) => row source
    | some (_, none) => .null
    | none => ((columns.find? fun c => c.name = column).map Column.default).getD .null

/-- The rows after a statement, whose tables and columns exist. -/
def Statement.write (db : Database τ κ ι μ) : Statement τ κ ι μ → Except SqlError (τ → List (Row κ))
  | .createTable _ table _ =>
      .ok (if (db.schema.tables table).isSome then db.rows else Function.update db.rows table [])
  | .addColumn table column =>
      .ok (Function.update db.rows table
        ((db.rows table).map fun row => Function.update row column.name column.default))
  | .updateZero table column source => do
      let rows := (db.rows table).map fun row =>
        if row column = .integer 0 then Function.update row column (row source) else row
      Lib.check (decide (ConstraintsHold ((db.schema.tables table).getD []) rows)) .constraint
      return Function.update db.rows table rows
  | .insertSelect table source values => do
      let columns := (db.schema.tables table).getD []
      let rows := db.rows table ++ (db.rows source).map (selectRow columns values)
      Lib.check (decide (ConstraintsHold columns rows)) .constraint
      return Function.update db.rows table rows
  | .dropTable table => .ok (Function.update db.rows table [])
  | .renameTable table name =>
      .ok (Function.update (Function.update db.rows table []) name (db.rows table))
  | _ => .ok db.rows

/-- The table of applied scripts after a statement. -/
def Statement.mark (applied : Option (List μ)) :
    Statement τ κ ι μ → Except SqlError (Option (List μ))
  | .createMarks => .ok (some (applied.getD []))
  | .insertMark name =>
      match applied with
      | none => .error .noSuchTable
      | some names => if name ∈ names then .error .constraint else .ok (some (names ++ [name]))
  | _ => .ok applied

def Statement.run (s : Statement τ κ ι μ) (db : Database τ κ ι μ) :
    Except SqlError (Database τ κ ι μ) := do
  let schema ← s.alter db.schema
  let rows ← s.write db
  let applied ← s.mark db.applied
  return { schema, rows, applied }

/-- The statements of a script, one after the other. -/
def runAll : List (Statement τ κ ι μ) → Database τ κ ι μ → Except SqlError (Database τ κ ι μ)
  | [], db => .ok db
  | s :: rest, db => do
      let db ← s.run db
      runAll rest db

/-! ## Running a statement -/

theorem run_eq_ok {s : Statement τ κ ι μ} {db db' : Database τ κ ι μ} :
    s.run db = .ok db' ↔
      s.alter db.schema = .ok db'.schema ∧ s.write db = .ok db'.rows ∧
        s.mark db.applied = .ok db'.applied := by
  simp only [Statement.run, Lib.bind_eq_ok, pure, Except.pure, Except.ok.injEq]
  constructor
  · rintro ⟨schema, hschema, rows, hrows, applied, happlied, rfl⟩
    exact ⟨hschema, hrows, happlied⟩
  · rintro ⟨hschema, hrows, happlied⟩
    exact ⟨_, hschema, _, hrows, _, happlied, rfl⟩

theorem runAll_cons_eq_ok {s : Statement τ κ ι μ} {rest : List (Statement τ κ ι μ)}
    {db db' : Database τ κ ι μ} :
    runAll (s :: rest) db = .ok db' ↔ ∃ next, s.run db = .ok next ∧ runAll rest next = .ok db' := by
  simp only [runAll, Lib.bind_eq_ok]

theorem runAll_append {first rest : List (Statement τ κ ι μ)} {db next : Database τ κ ι μ}
    (h : runAll first db = .ok next) : runAll (first ++ rest) db = runAll rest next := by
  induction first generalizing db with
  | nil =>
      cases h
      rfl
  | cons s first ih =>
      obtain ⟨mid, hmid, hfirst⟩ := runAll_cons_eq_ok.mp h
      rw [List.cons_append, runAll, hmid]
      exact ih hfirst

/-- A prefix of a script that runs has run. -/
theorem exists_runAll_append {first rest : List (Statement τ κ ι μ)} {db db' : Database τ κ ι μ}
    (h : runAll (first ++ rest) db = .ok db') :
    ∃ next, runAll first db = .ok next ∧ runAll rest next = .ok db' := by
  induction first generalizing db with
  | nil => exact ⟨db, rfl, h⟩
  | cons s first ih =>
      obtain ⟨mid, hmid, hrest⟩ := runAll_cons_eq_ok.mp h
      obtain ⟨next, hfirst, hnext⟩ := ih hrest
      exact ⟨next, runAll_cons_eq_ok.mpr ⟨mid, hmid, hfirst⟩, hnext⟩

omit [DecidableEq τ] [DecidableEq κ] [DecidableEq ι] in
theorem requireTable_eq_ok {s : Schema τ κ ι} {table : τ} {columns : List (Column κ)} :
    s.requireTable table = .ok columns ↔ s.tables table = some columns :=
  Lib.elim_eq_ok

/-! ## Statements that can be run again -/

/-- What the statement creates is there. -/
def Statement.Present (db : Database τ κ ι μ) : Statement τ κ ι μ → Prop
  | .createMarks => db.applied.isSome
  | .createTable true table _ => (db.schema.tables table).isSome
  | .createIndex index _ _ => (db.schema.indexes index).isSome
  | _ => False

/-- The statement creates only what does not exist. -/
def Statement.guarded : Statement τ κ ι μ → Bool
  | .createMarks => true
  | .createTable ifNotExists _ _ => ifNotExists
  | .createIndex _ _ _ => true
  | _ => false

theorem run_of_present {s : Statement τ κ ι μ} {db : Database τ κ ι μ} (h : s.Present db) :
    s.run db = .ok db := by
  rw [run_eq_ok]
  cases s with
  | createMarks =>
      obtain ⟨names, hnames⟩ := Option.isSome_iff_exists.mp h
      simp [Statement.alter, Statement.write, Statement.mark, hnames]
  | createTable ifNotExists table columns =>
      cases ifNotExists with
      | false => exact h.elim
      | true =>
          obtain ⟨found, hfound⟩ := Option.isSome_iff_exists.mp h
          simp [Statement.alter, Statement.write, Statement.mark, hfound]
  | createIndex index table column =>
      obtain ⟨found, hfound⟩ := Option.isSome_iff_exists.mp h
      simp [Statement.alter, Statement.write, Statement.mark, hfound]
  | insertMark _ | addColumn _ _ | updateZero _ _ _ | insertSelect _ _ _ | dropTable _
  | renameTable _ _ => exact h.elim

omit [DecidableEq μ] in
/-- The catalogue after a statement that creates a table. -/
theorem alter_createTable {s s' : Schema τ κ ι} {ifNotExists : Bool} {table : τ}
    {columns : List (Column κ)}
    (h : (Statement.createTable ifNotExists table columns : Statement τ κ ι μ).alter s = .ok s') :
    ((s.tables table).isSome ∧ s' = s) ∨
      (s.tables table = none ∧
        s' = { s with tables := Function.update s.tables table (some columns) }) := by
  simp only [Statement.alter] at h
  split at h
  next hfound =>
    split at h
    · cases h
      exact .inl ⟨by simp [hfound], rfl⟩
    · cases h
  next hnone =>
    cases h
    exact .inr ⟨hnone, rfl⟩

omit [DecidableEq μ] in
/-- The catalogue after a statement that creates an index. -/
theorem alter_createIndex {s s' : Schema τ κ ι} {index : ι} {table : τ} {column : κ}
    (h : (Statement.createIndex index table column : Statement τ κ ι μ).alter s = .ok s') :
    ((s.indexes index).isSome ∧ s' = s) ∨
      (s.indexes index = none ∧
        s' = { s with indexes := Function.update s.indexes index (some (table, column)) }) := by
  simp only [Statement.alter] at h
  split at h
  next hfound =>
    cases h
    exact .inl ⟨by simp [hfound], rfl⟩
  next hnone =>
    simp only [Lib.bind_eq_ok, pure, Except.pure, Except.ok.injEq] at h
    obtain ⟨_, -, _, -, rfl⟩ := h
    exact .inr ⟨hnone, rfl⟩

/-- A guarded statement keeps every table and every index, and the table of applied scripts. -/
theorem guarded_keeps {s : Statement τ κ ι μ} {db db' : Database τ κ ι μ}
    (hguarded : s.guarded = true) (h : s.run db = .ok db') :
    (∀ table, (db.schema.tables table).isSome → (db'.schema.tables table).isSome) ∧
      (∀ index, (db.schema.indexes index).isSome → (db'.schema.indexes index).isSome) ∧
        (db.applied.isSome → db'.applied.isSome) := by
  obtain ⟨halter, -, hmark⟩ := run_eq_ok.mp h
  cases s with
  | createMarks =>
      have hschema := Except.ok.inj halter
      have happlied := Except.ok.inj hmark
      exact ⟨fun _ h => by rwa [← hschema], fun _ h => by rwa [← hschema],
        fun _ => by simp [← happlied]⟩
  | createTable ifNotExists table columns =>
      have happlied := Except.ok.inj hmark
      obtain ⟨-, hsame⟩ | ⟨-, hnew⟩ := alter_createTable halter
      · rw [hsame, happlied]
        exact ⟨fun _ => id, fun _ => id, id⟩
      · rw [hnew, happlied]
        refine ⟨fun other hother => ?_, fun _ => id, id⟩
        by_cases hname : other = table <;> simp [hname, hother]
  | createIndex index table column =>
      have happlied := Except.ok.inj hmark
      obtain ⟨-, hsame⟩ | ⟨-, hnew⟩ := alter_createIndex halter
      · rw [hsame, happlied]
        exact ⟨fun _ => id, fun _ => id, id⟩
      · rw [hnew, happlied]
        refine ⟨fun _ => id, fun other hother => ?_, id⟩
        by_cases hname : other = index <;> simp [hname, hother]
  | insertMark _ | addColumn _ _ | updateZero _ _ _ | insertSelect _ _ _ | dropTable _
  | renameTable _ _ => cases hguarded

theorem present_after {s : Statement τ κ ι μ} {db db' : Database τ κ ι μ}
    (hguarded : s.guarded = true) (h : s.run db = .ok db') : s.Present db' := by
  obtain ⟨halter, -, hmark⟩ := run_eq_ok.mp h
  cases s with
  | createMarks =>
      have happlied := Except.ok.inj hmark
      simp [Statement.Present, ← happlied]
  | createTable ifNotExists table columns =>
      cases ifNotExists with
      | false => cases hguarded
      | true =>
          obtain ⟨hfound, hsame⟩ | ⟨-, hnew⟩ := alter_createTable halter
          · simpa only [Statement.Present, hsame] using hfound
          · simp [Statement.Present, hnew]
  | createIndex index table column =>
      obtain ⟨hfound, hsame⟩ | ⟨-, hnew⟩ := alter_createIndex halter
      · simpa only [Statement.Present, hsame] using hfound
      · simp [Statement.Present, hnew]
  | insertMark _ | addColumn _ _ | updateZero _ _ _ | insertSelect _ _ _ | dropTable _
  | renameTable _ _ => cases hguarded

theorem present_keeps {s created : Statement τ κ ι μ} {db db' : Database τ κ ι μ}
    (hguarded : s.guarded = true) (h : s.run db = .ok db') (hpresent : created.Present db) :
    created.Present db' := by
  obtain ⟨htables, hindexes, happlied⟩ := guarded_keeps hguarded h
  cases created with
  | createMarks => exact happlied hpresent
  | createTable ifNotExists table columns =>
      cases ifNotExists with
      | false => exact hpresent.elim
      | true => exact htables table hpresent
  | createIndex index table column => exact hindexes index hpresent
  | insertMark _ | addColumn _ _ | updateZero _ _ _ | insertSelect _ _ _ | dropTable _
  | renameTable _ _ => exact hpresent.elim

/-- What a script of guarded statements creates, and what was there, is there afterwards. -/
theorem present_runAll {script : List (Statement τ κ ι μ)} {db db' : Database τ κ ι μ}
    (hguarded : ∀ s ∈ script, s.guarded = true) (h : runAll script db = .ok db')
    {created : Statement τ κ ι μ} (hcreated : created ∈ script ∨ created.Present db) :
    created.Present db' := by
  induction script generalizing db with
  | nil =>
      cases h
      exact hcreated.resolve_left List.not_mem_nil
  | cons s rest ih =>
      obtain ⟨next, hnext, hrest⟩ := runAll_cons_eq_ok.mp h
      have hs := hguarded s List.mem_cons_self
      refine ih (fun x hx => hguarded x (List.mem_cons_of_mem s hx)) hrest ?_
      rcases hcreated with hmem | hpresent
      · rcases List.mem_cons.mp hmem with rfl | hmem
        · exact .inr (present_after hs hnext)
        · exact .inl hmem
      · exact .inr (present_keeps hs hnext hpresent)

theorem runAll_of_present {script : List (Statement τ κ ι μ)} {db : Database τ κ ι μ}
    (h : ∀ s ∈ script, s.Present db) : runAll script db = .ok db := by
  induction script with
  | nil => rfl
  | cons s rest ih =>
      have hs := run_of_present (h s List.mem_cons_self)
      exact runAll_cons_eq_ok.mpr ⟨db, hs, ih fun x hx => h x (List.mem_cons_of_mem s hx)⟩

/-- Guarded statements that have run change nothing when they run again. -/
theorem rerun_eq {script : List (Statement τ κ ι μ)} {db db' : Database τ κ ι μ}
    (hguarded : ∀ s ∈ script, s.guarded = true) (h : runAll script db = .ok db') :
    runAll script db' = .ok db' :=
  runAll_of_present fun _ hs => present_runAll hguarded h (.inl hs)

/-! ## Columns -/

/-- The table exists and has the column. -/
def HasColumn (table : τ) (column : κ) (db : Database τ κ ι μ) : Prop :=
  ∃ columns, db.schema.tables table = some columns ∧ hasName columns column = true

/-- The statement does not take the table away. -/
def Statement.keeps (table : τ) : Statement τ κ ι μ → Bool
  | .dropTable other => other ≠ table
  | .renameTable other _ => other ≠ table
  | _ => true

omit [DecidableEq μ] in
/-- The catalogue after a column has been added. -/
theorem alter_addColumn {s s' : Schema τ κ ι} {table : τ} {column : Column κ} :
    (Statement.addColumn table column : Statement τ κ ι μ).alter s = .ok s' ↔
      ∃ columns, s.tables table = some columns ∧ hasName columns column.name = false ∧
        (column.primaryKey = false ∧ (column.notNull = true → column.default ≠ .null)) ∧
          s' = { s with tables := Function.update s.tables table (some (columns ++ [column])) } := by
  simp only [Statement.alter, Lib.bind_eq_ok, requireTable_eq_ok, Lib.check_eq_ok, pure,
    Except.pure, Except.ok.injEq, Bool.not_eq_true', Bool.and_eq_true, Bool.or_eq_true,
    decide_eq_true_eq, exists_const]
  constructor
  · rintro ⟨columns, hcolumns, hnew, ⟨hkey, hnull⟩, rfl⟩
    refine ⟨columns, hcolumns, hnew, ⟨hkey, fun h => ?_⟩, rfl⟩
    simpa [h] using hnull
  · rintro ⟨columns, hcolumns, hnew, ⟨hkey, hnull⟩, rfl⟩
    refine ⟨columns, hcolumns, hnew, ⟨hkey, ?_⟩, rfl⟩
    cases hc : column.notNull with
    | false => exact .inl rfl
    | true => exact .inr (hnull hc)

theorem hasColumn_addColumn {table : τ} {column : Column κ} {db db' : Database τ κ ι μ}
    (h : (Statement.addColumn table column : Statement τ κ ι μ).run db = .ok db') :
    HasColumn table column.name db' := by
  obtain ⟨columns, -, -, -, hschema⟩ := alter_addColumn.mp (run_eq_ok.mp h).1
  rw [HasColumn, hschema]
  exact ⟨columns ++ [column], by simp, by simp [hasName]⟩

/-- A column cannot be added twice. -/
theorem addColumn_fails {table : τ} {column : Column κ} {db : Database τ κ ι μ}
    (h : HasColumn table column.name db) :
    (Statement.addColumn table column : Statement τ κ ι μ).run db = .error .duplicateColumn := by
  obtain ⟨columns, htable, hname⟩ := h
  simp [Statement.run, Statement.alter, Schema.requireTable, htable, hname, Lib.check, bind,
    Except.bind]

theorem HasColumn.run {table : τ} {column : κ} {s : Statement τ κ ι μ} {db db' : Database τ κ ι μ}
    (hkeeps : s.keeps table = true) (h : s.run db = .ok db') (hcolumn : HasColumn table column db) :
    HasColumn table column db' := by
  obtain ⟨columns, htable, hname⟩ := hcolumn
  obtain ⟨halter, -, -⟩ := run_eq_ok.mp h
  cases s with
  | createMarks | insertMark _ =>
      have hschema := Except.ok.inj halter
      exact ⟨columns, by rw [← hschema, htable], hname⟩
  | createTable ifNotExists other added =>
      obtain ⟨-, hsame⟩ | ⟨hnone, hnew⟩ := alter_createTable halter
      · exact ⟨columns, by rw [hsame, htable], hname⟩
      · have hne : table ≠ other := by
          rintro rfl
          simp [htable] at hnone
        exact ⟨columns, by simp [hnew, hne, htable], hname⟩
  | createIndex index other added =>
      obtain ⟨-, hsame⟩ | ⟨-, hnew⟩ := alter_createIndex halter
      · exact ⟨columns, by rw [hsame, htable], hname⟩
      · exact ⟨columns, by rw [hnew, htable], hname⟩
  | addColumn other added =>
      obtain ⟨found, hfound, -, -, hnew⟩ := alter_addColumn.mp halter
      by_cases hother : table = other
      · subst hother
        obtain rfl : columns = found := Option.some.inj (htable.symm.trans hfound)
        exact ⟨columns ++ [added], by simp [hnew], by simp [hasName] at hname ⊢; simp [hname]⟩
      · exact ⟨columns, by simp [hnew, hother, htable], hname⟩
  | updateZero other target source | insertSelect other source values =>
      simp only [Statement.alter, Lib.bind_eq_ok, pure, Except.pure, Except.ok.injEq] at halter
      have hsame : db.schema = db'.schema := by tauto
      exact ⟨columns, by rw [← hsame, htable], hname⟩
  | dropTable other =>
      simp only [Statement.alter, Lib.bind_eq_ok, pure, Except.pure, Except.ok.injEq] at halter
      obtain ⟨_, -, hnew⟩ := halter
      have hne : table ≠ other := fun h => by simp [Statement.keeps, h] at hkeeps
      exact ⟨columns, by simp [← hnew, hne, htable], hname⟩
  | renameTable other name =>
      simp only [Statement.alter, Lib.bind_eq_ok, Lib.check_eq_ok, pure, Except.pure,
        Except.ok.injEq] at halter
      obtain ⟨_, -, _, hfree, hnew⟩ := halter
      have hne : table ≠ other := fun h => by simp [Statement.keeps, h] at hkeeps
      have hname' : table ≠ name := by
        rintro rfl
        simp [htable] at hfree
      exact ⟨columns, by simp [← hnew, hne, hname', htable], hname⟩

theorem HasColumn.runAll {table : τ} {column : κ} {script : List (Statement τ κ ι μ)}
    {db db' : Database τ κ ι μ} (hkeeps : ∀ s ∈ script, s.keeps table = true)
    (h : runAll script db = .ok db') (hcolumn : HasColumn table column db) :
    HasColumn table column db' := by
  induction script generalizing db with
  | nil =>
      cases h
      exact hcolumn
  | cons s rest ih =>
      obtain ⟨next, hnext, hrest⟩ := runAll_cons_eq_ok.mp h
      exact ih (fun x hx => hkeeps x (List.mem_cons_of_mem s hx)) hrest
        (hcolumn.run (hkeeps s List.mem_cons_self) hnext)

/-! ## The table of applied scripts -/

/-- The statement writes to the table of applied scripts. -/
def Statement.marks : Statement τ κ ι μ → Bool
  | .createMarks => true
  | .insertMark _ => true
  | _ => false

omit [DecidableEq τ] [DecidableEq κ] [DecidableEq ι] in
theorem mark_of_unmarked {s : Statement τ κ ι μ} (h : s.marks = false) (applied : Option (List μ)) :
    s.mark applied = .ok applied := by
  cases s <;> first | rfl | cases h

theorem applied_of_runAll {script : List (Statement τ κ ι μ)} {db db' : Database τ κ ι μ}
    (hscript : ∀ s ∈ script, s.marks = false) (h : runAll script db = .ok db') :
    db'.applied = db.applied := by
  induction script generalizing db with
  | nil =>
      cases h
      rfl
  | cons s rest ih =>
      obtain ⟨next, hnext, hrest⟩ := runAll_cons_eq_ok.mp h
      have hmark := (run_eq_ok.mp hnext).2.2
      rw [mark_of_unmarked (hscript s List.mem_cons_self)] at hmark
      rw [ih (fun x hx => hscript x (List.mem_cons_of_mem s hx)) hrest, ← Except.ok.inj hmark]

theorem run_createMarks (db : Database τ κ ι μ) :
    (Statement.createMarks : Statement τ κ ι μ).run db =
      .ok { db with applied := some (db.applied.getD []) } := rfl

theorem run_insertMark {name : μ} {names : List μ} {db : Database τ κ ι μ}
    (hnames : db.applied = some names) (hnew : name ∉ names) :
    (Statement.insertMark name : Statement τ κ ι μ).run db =
      .ok { db with applied := some (names ++ [name]) } := by
  rw [run_eq_ok]
  exact ⟨rfl, rfl, by simp [Statement.mark, hnames, hnew]⟩

/-! ## Scripts that violate no constraint -/

/-- Every table meets its constraints. -/
def WellFormed (db : Database τ κ ι μ) : Prop :=
  ∀ table columns, db.schema.tables table = some columns → ConstraintsHold columns (db.rows table)

/-- The column takes a value that meets its constraints, from a row of a source that meets its
own. -/
def Column.filled (sources : List (Column κ)) (values : List (κ × Option κ)) (c : Column κ) :
    Bool :=
  match values.find? fun v => v.1 = c.name with
  | some (_, some source) =>
      (!c.notNull || sources.any fun d => d.name = source && d.notNull) &&
        (!c.primaryKey || sources.any fun d => d.name = source && d.primaryKey)
  | some (_, none) => !c.notNull
  | none => !c.notNull && !c.primaryKey

/-- The column meets its constraints where another column is copied into `target`. -/
def Column.copied (columns : List (Column κ)) (target source : κ) (c : Column κ) : Bool :=
  c.name ≠ target ||
    (!c.primaryKey && (!c.notNull || columns.any fun d => d.name = source && d.notNull))

/-- The statement can violate no constraint, where the tables of the list have no rows. It writes
no mark. -/
def Statement.safe (empty : List τ) (s : Schema τ κ ι) : Statement τ κ ι μ → Bool
  | .createMarks => false
  | .insertMark _ => false
  | .updateZero table target source =>
      (s.tables table).all fun columns => columns.all (Column.copied columns target source)
  | .insertSelect table source values =>
      table ∈ empty && (s.tables table).all fun columns =>
        (s.tables source).all fun sources => columns.all (Column.filled sources values)
  | _ => true

/-- The tables that have no rows after the statement. -/
def Statement.empties (empty : List τ) (s : Schema τ κ ι) : Statement τ κ ι μ → List τ
  | .createTable _ table _ => if (s.tables table).isNone then table :: empty else empty
  | .insertSelect _ _ _ => []
  | .renameTable _ _ => []
  | _ => empty

/-- The catalogue after a script that can violate no constraint. -/
def check (empty : List τ) (s : Schema τ κ ι) : List (Statement τ κ ι μ) → Option (Schema τ κ ι)
  | [] => some s
  | statement :: rest =>
      if statement.safe empty s then
        match statement.alter s with
        | .ok s' => check (statement.empties empty s) s' rest
        | .error _ => none
      else none

omit [DecidableEq κ] in
theorem keyOk_map {column column' : κ} {f : Row κ → Row κ} {rows : List (Row κ)}
    (hf : ∀ row, f row column' = row column) (h : KeyOk column rows) :
    KeyOk column' (rows.map f) := by
  simp only [KeyOk, List.pairwise_map, hf]
  exact h

/-- The rows of a table with a column more. -/
theorem constraintsHold_addColumn {columns : List (Column κ)} {column : Column κ}
    {rows : List (Row κ)} (hnew : hasName columns column.name = false)
    (hkey : column.primaryKey = false) (hnull : column.notNull = true → column.default ≠ .null)
    (h : ConstraintsHold columns rows) :
    ConstraintsHold (columns ++ [column])
      (rows.map fun row => Function.update row column.name column.default) := by
  have hne : ∀ c ∈ columns, c.name ≠ column.name := by simpa [hasName] using hnew
  obtain ⟨hrows, hkeys⟩ := h
  refine ⟨?_, ?_⟩
  · intro row hrow c hc hcnull
    obtain ⟨old, hold, rfl⟩ := List.mem_map.mp hrow
    rcases List.mem_append.mp hc with hc | hc
    · simpa [hne c hc] using hrows old hold c hc hcnull
    · obtain rfl := List.mem_singleton.mp hc
      simpa using hnull hcnull
  · intro c hc hckey
    rcases List.mem_append.mp hc with hc | hc
    · exact keyOk_map (fun row => by simp [hne c hc]) (hkeys c hc hckey)
    · obtain rfl := List.mem_singleton.mp hc
      rw [hkey] at hckey
      cases hckey

/-- The rows of a table where one column is copied into another. -/
theorem constraintsHold_updateZero {columns : List (Column κ)} {target source : κ}
    {rows : List (Row κ)} (hcopied : ∀ c ∈ columns, c.copied columns target source = true)
    (h : ConstraintsHold columns rows) :
    ConstraintsHold columns (rows.map fun row =>
      if row target = .integer 0 then Function.update row target (row source) else row) := by
  obtain ⟨hrows, hkeys⟩ := h
  refine ⟨?_, ?_⟩
  · intro row hrow c hc hcnull
    obtain ⟨old, hold, rfl⟩ := List.mem_map.mp hrow
    have hsame := hrows old hold c hc hcnull
    split
    · by_cases htarget : c.name = target
      · have hsource := hcopied c hc
        simp only [Column.copied, htarget, hcnull] at hsource
        simp only [ne_eq, not_true_eq_false, decide_false, Bool.not_true, Bool.false_or,
          Bool.and_eq_true, List.any_eq_true, decide_eq_true_eq] at hsource
        obtain ⟨-, d, hd, rfl, hdnull⟩ := hsource
        simpa [htarget] using hrows old hold d hd hdnull
      · simpa [htarget] using hsame
    · exact hsame
  · intro c hc hckey
    have htarget : c.name ≠ target := by
      intro htarget
      have hsource := hcopied c hc
      simp [Column.copied, htarget, hckey] at hsource
    refine keyOk_map (fun row => ?_) (hkeys c hc hckey)
    split
    · simp [htarget]
    · rfl

/-- The rows that are copied from another table. -/
theorem constraintsHold_insertSelect {columns sources : List (Column κ)}
    {values : List (κ × Option κ)} {rows : List (Row κ)}
    (hfilled : ∀ c ∈ columns, c.filled sources values = true) (h : ConstraintsHold sources rows) :
    ConstraintsHold columns (rows.map (selectRow columns values)) := by
  obtain ⟨hrows, hkeys⟩ := h
  refine ⟨?_, ?_⟩
  · intro row hrow c hc hcnull
    obtain ⟨old, hold, rfl⟩ := List.mem_map.mp hrow
    have hvalue := hfilled c hc
    simp only [Column.filled] at hvalue
    simp only [selectRow]
    split at hvalue
    next key source hfind =>
      simp only [hcnull, Bool.not_true, Bool.false_or, Bool.and_eq_true, List.any_eq_true,
        decide_eq_true_eq] at hvalue
      obtain ⟨⟨d, hd, rfl, hdnull⟩, -⟩ := hvalue
      simpa [hfind] using hrows old hold d hd hdnull
    next key hfind => simp [hcnull] at hvalue
    next hfind => simp [hcnull] at hvalue
  · intro c hc hckey
    have hvalue := hfilled c hc
    simp only [Column.filled] at hvalue
    split at hvalue
    next key source hfind =>
      simp only [hckey, Bool.not_true, Bool.false_or, Bool.and_eq_true, List.any_eq_true,
        decide_eq_true_eq] at hvalue
      obtain ⟨-, d, hd, rfl, hdkey⟩ := hvalue
      exact keyOk_map (fun row => by simp [selectRow, hfind]) (hkeys d hd hdkey)
    next key hfind =>
      simp only [KeyOk, List.pairwise_map, selectRow, hfind, true_or]
      exact List.pairwise_of_forall fun _ _ => trivial
    next hfind => simp [hckey] at hvalue

omit [DecidableEq ι] [DecidableEq μ] in
theorem safe_unmarked {empty : List τ} {schema : Schema τ κ ι} {s : Statement τ κ ι μ}
    (h : s.safe empty schema = true) : s.marks = false := by
  cases s <;> first | rfl | cases h

omit [DecidableEq κ] [DecidableEq ι] [DecidableEq μ] in
/-- Well-formed tables stay so where one of them is replaced. -/
theorem WellFormed.update {db : Database τ κ ι μ} (h : WellFormed db) (table : τ)
    {columns : List (Column κ)} {rows : List (Row κ)} (hrows : ConstraintsHold columns rows)
    (indexes : ι → Option (τ × κ)) (applied : Option (List μ)) :
    WellFormed ({
      schema := {
        tables := Function.update db.schema.tables table (some columns)
        indexes := indexes }
      rows := Function.update db.rows table rows
      applied := applied } : Database τ κ ι μ) := by
  intro other found hfound
  by_cases hother : other = table
  · subst hother
    obtain rfl : columns = found := by simpa using hfound
    simpa using hrows
  · simp only [ne_eq, hother, not_false_eq_true, Function.update_of_ne] at hfound ⊢
    exact h other found hfound

omit [DecidableEq κ] [DecidableEq ι] [DecidableEq μ] in
/-- Well-formed tables stay so where one of them is taken away. -/
theorem WellFormed.remove {db : Database τ κ ι μ} (h : WellFormed db) (table : τ)
    (indexes : ι → Option (τ × κ)) (applied : Option (List μ)) :
    WellFormed ({
      schema := {
        tables := Function.update db.schema.tables table none
        indexes := indexes }
      rows := Function.update db.rows table []
      applied := applied } : Database τ κ ι μ) := by
  intro other found hfound
  by_cases hother : other = table
  · simp [hother] at hfound
  · simp only [ne_eq, hother, not_false_eq_true, Function.update_of_ne] at hfound ⊢
    exact h other found hfound

omit [DecidableEq κ] in
theorem constraintsHold_nil (columns : List (Column κ)) : ConstraintsHold columns [] :=
  ⟨fun _ h => absurd h List.not_mem_nil, fun _ _ _ => List.Pairwise.nil⟩

omit [DecidableEq κ] in
/-- A table without rows has none where a table is written with rows only if it had some. -/
theorem update_eq_nil {rows : τ → List (Row κ)} {table other : τ} {written : List (Row κ)}
    (hwritten : other = table → written = []) (hother : rows other = []) :
    Function.update rows table written other = [] := by
  by_cases hname : other = table
  · rw [hname, Function.update_self, hwritten hname]
  · rw [Function.update_of_ne hname, hother]

/-- A statement that can violate no constraint, and that the catalogue allows, runs. -/
theorem run_of_safe {empty : List τ} {s : Statement τ κ ι μ} {db : Database τ κ ι μ}
    {schema' : Schema τ κ ι} (hdb : WellFormed db) (hempty : ∀ table ∈ empty, db.rows table = [])
    (hsafe : s.safe empty db.schema = true) (halter : s.alter db.schema = .ok schema') :
    ∃ db', s.run db = .ok db' ∧ db'.schema = schema' ∧ WellFormed db' ∧
      ∀ table ∈ s.empties empty db.schema, db'.rows table = [] := by
  have hmark := mark_of_unmarked (safe_unmarked hsafe) db.applied
  -- the rows that the statement writes decide what is left to show
  suffices hrows : ∃ rows, s.write db = .ok rows ∧
      WellFormed ({ schema := schema', rows, applied := db.applied } : Database τ κ ι μ) ∧
        ∀ table ∈ s.empties empty db.schema, rows table = [] by
    obtain ⟨rows, hwrite, hwell, hrest⟩ := hrows
    exact ⟨{ schema := schema', rows, applied := db.applied },
      run_eq_ok.mpr ⟨halter, hwrite, hmark⟩, rfl, hwell, hrest⟩
  cases s with
  | createMarks | insertMark _ => cases hsafe
  | createTable ifNotExists table columns =>
      obtain ⟨hfound, rfl⟩ | ⟨hnone, rfl⟩ := alter_createTable halter
      · refine ⟨db.rows, by simp [Statement.write, hfound], hdb, fun other hother => ?_⟩
        simp only [Statement.empties, Option.isNone_iff_eq_none] at hother
        rw [if_neg fun hnone => by simp [hnone] at hfound] at hother
        exact hempty other hother
      · refine ⟨Function.update db.rows table [], by simp [Statement.write, hnone],
          hdb.update table (constraintsHold_nil columns) _ _, fun other hother => ?_⟩
        simp only [Statement.empties, hnone, Option.isNone_none, if_true] at hother
        by_cases hname : other = table
        · simp [hname]
        · exact update_eq_nil (fun _ => rfl)
            (hempty other ((List.mem_cons.mp hother).resolve_left hname))
  | createIndex index table column =>
      refine ⟨db.rows, rfl, ?_, hempty⟩
      obtain ⟨-, rfl⟩ | ⟨-, rfl⟩ := alter_createIndex halter
      · exact hdb
      · exact hdb
  | addColumn table column =>
      obtain ⟨columns, hcolumns, hnew, ⟨hkey, hnull⟩, rfl⟩ := alter_addColumn.mp halter
      refine ⟨_, rfl, hdb.update table (constraintsHold_addColumn hnew hkey hnull
        (hdb table columns hcolumns)) _ _, fun other hother => ?_⟩
      refine update_eq_nil ?_ (hempty other hother)
      rintro rfl
      simp [hempty other hother]
  | updateZero table target source =>
      simp only [Statement.alter, Lib.bind_eq_ok, requireTable_eq_ok, pure, Except.pure,
        Except.ok.injEq] at halter
      obtain ⟨columns, hcolumns, _, -, rfl⟩ := halter
      simp only [Statement.safe, hcolumns, Option.all_some, List.all_eq_true] at hsafe
      have hconstraints := constraintsHold_updateZero hsafe (hdb table columns hcolumns)
      have hwrite : (Statement.updateZero table target source : Statement τ κ ι μ).write db =
          .ok (Function.update db.rows table ((db.rows table).map fun row =>
            if row target = .integer 0 then Function.update row target (row source) else row)) := by
        simp [Statement.write, hcolumns, hconstraints, Lib.check, bind, Except.bind, pure,
          Except.pure]
      refine ⟨_, hwrite, ?_, fun other hother => ?_⟩
      · have hupdate := hdb.update table hconstraints db.schema.indexes db.applied
        rwa [← hcolumns, Function.update_eq_self] at hupdate
      · refine update_eq_nil ?_ (hempty other hother)
        rintro rfl
        simp [hempty other hother]
  | insertSelect table source values =>
      simp only [Statement.alter, Lib.bind_eq_ok, requireTable_eq_ok, pure, Except.pure,
        Except.ok.injEq] at halter
      obtain ⟨columns, hcolumns, sources, hsources, _, -, rfl⟩ := halter
      simp only [Statement.safe, hcolumns, hsources, Option.all_some, List.all_eq_true,
        Bool.and_eq_true, decide_eq_true_eq] at hsafe
      obtain ⟨hnorows, hfilled⟩ := hsafe
      have hconstraints := constraintsHold_insertSelect hfilled (hdb source sources hsources)
      have hwrite : (Statement.insertSelect table source values : Statement τ κ ι μ).write db =
          .ok (Function.update db.rows table
            ((db.rows source).map (selectRow columns values))) := by
        simp [Statement.write, hcolumns, hempty table hnorows, hconstraints, Lib.check, bind,
          Except.bind, pure, Except.pure]
      refine ⟨_, hwrite, ?_, fun other hother => ?_⟩
      · have hupdate := hdb.update table hconstraints db.schema.indexes db.applied
        rwa [← hcolumns, Function.update_eq_self] at hupdate
      · simp [Statement.empties] at hother
  | dropTable table =>
      simp only [Statement.alter, Lib.bind_eq_ok, pure, Except.pure, Except.ok.injEq] at halter
      obtain ⟨_, -, rfl⟩ := halter
      exact ⟨_, rfl, hdb.remove table _ _, fun other hother =>
        update_eq_nil (fun _ => rfl) (hempty other hother)⟩
  | renameTable table name =>
      simp only [Statement.alter, Lib.bind_eq_ok, requireTable_eq_ok, pure, Except.pure,
        Except.ok.injEq] at halter
      obtain ⟨columns, hcolumns, _, -, rfl⟩ := halter
      refine ⟨_, rfl, ?_, fun other hother => ?_⟩
      · exact (hdb.remove table db.schema.indexes db.applied).update name
          (hdb table columns hcolumns) _ _
      · simp [Statement.empties] at hother

/-- A script that can violate no constraint runs, from any rows that meet theirs. -/
theorem runAll_of_check {script : List (Statement τ κ ι μ)} {empty : List τ}
    {db : Database τ κ ι μ} {schema' : Schema τ κ ι} (hdb : WellFormed db)
    (hempty : ∀ table ∈ empty, db.rows table = [])
    (h : check empty db.schema script = some schema') :
    ∃ db', runAll script db = .ok db' ∧ db'.schema = schema' ∧ WellFormed db' := by
  induction script generalizing empty db with
  | nil => exact ⟨db, rfl, Option.some.inj h, hdb⟩
  | cons s rest ih =>
      simp only [check] at h
      split at h
      next hsafe =>
        split at h
        next next halter =>
          obtain ⟨mid, hrun, rfl, hmid, hrows⟩ := run_of_safe hdb hempty hsafe halter
          obtain ⟨db', hrest, hschema, hwell⟩ := ih hmid hrows h
          exact ⟨db', runAll_cons_eq_ok.mpr ⟨mid, hrun, hrest⟩, hschema, hwell⟩
        next => cases h
      next => cases h

end Statements

end Lib.Sql
