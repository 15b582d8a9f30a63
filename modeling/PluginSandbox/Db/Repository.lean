/-
  `db/db.go`: the two records the server stores and the `Repository` interface.

  A database is a table of plugins and a table of executions, each with its primary key.
  A call that writes returns the new database or an error, so a failed statement changes
  nothing. `DeletePlugin` is two statements in every backend; the interface lists them
  separately because other requests can act between them, and `deletePlugin` composes them.

  Columns hold what Go passes: text as `String`, byte slices as `Bytes` (a nil slice and an
  empty one are both `[]`), an instant as an `Int`. `duration_ms` is held as whole microseconds:
  the server computes it from those, so it is finite. A version counts status writes and is an
  `Int` too: 64 bits do not run out.
-/
import PluginSandbox.Lib.Bytes
import PluginSandbox.Lib.Table

namespace PluginSandbox.Db

open PluginSandbox.Lib

/-! ## Records -/

structure Plugin where
  id : String
  name : String
  sourceCode : String
  compiledWasm : Bytes
  version : Int
  status : String
  compileErrors : String
  createdAt : Int
  deriving DecidableEq, Repr

structure Execution where
  id : String
  pluginID : String
  durationMicros : Int
  memoryBytes : Int
  fuelConsumed : Int
  status : String
  logs : Bytes
  createdAt : Int
  deriving DecidableEq, Repr

/-- Both tables, as `migrate` declares them. -/
@[ext] structure Database where
  plugins : Table Plugin Plugin.id
  executions : Table Execution Execution.id

def Database.empty : Database := ⟨Table.empty, Table.empty⟩

/-! ## Instants

A column may keep less of an instant than Go passes: `keep` is what is left of it. -/

def storedPlugin (keep : Int → Int) (p : Plugin) : Plugin :=
  { p with createdAt := keep p.createdAt }

def storedExecution (keep : Int → Int) (x : Execution) : Execution :=
  { x with createdAt := keep x.createdAt }

theorem storedPlugin_eq_iff {keep : Int → Int} (p : Plugin) :
    storedPlugin keep p = p ↔ keep p.createdAt = p.createdAt := by
  obtain ⟨id, name, sourceCode, compiledWasm, version, status, compileErrors, createdAt⟩ := p
  simp [storedPlugin]

theorem storedExecution_eq_iff {keep : Int → Int} (x : Execution) :
    storedExecution keep x = x ↔ keep x.createdAt = x.createdAt := by
  obtain ⟨id, pluginID, duration, memory, fuel, status, logs, createdAt⟩ := x
  simp [storedExecution]

/-! ## Errors -/

/-- Why a driver refuses a statement. -/
inductive DriverError where
  | uniqueViolation
  | foreignKeyViolation
  | outOfRange
  | invalidText
  | fault
  deriving DecidableEq, Repr

inductive DbError where
  | notFound (id : String)
  | driver (cause : DriverError)
  deriving DecidableEq, Repr

/-! ## Slices and row streams -/

/-- A Go slice of rows: `none` is the nil slice. -/
abbrev Slice (ρ : Type) := Option (List ρ)

def Slice.append {ρ : Type} (s : Slice ρ) (r : ρ) : Slice ρ := some (s.getD [] ++ [r])

/-- What a query delivers row by row. A row is read by `Scan`, which may fail; the stream
    may also break off instead of ending. -/
inductive RowStream (ρ : Type) where
  | done
  | broken (e : DriverError)
  | row (scan : Except DriverError ρ) (rest : RowStream ρ)

def RowStream.ofList {ρ : Type} : List ρ → RowStream ρ
  | [] => .done
  | r :: rs => .row (.ok r) (ofList rs)

/-- The loop `for rows.Next() { … rows.Scan … append }`. `rows.Next` is false at the end and
    on a broken stream alike, and `rows.Err` is not consulted. -/
def scanRows {ρ : Type} (acc : Slice ρ) : RowStream ρ → Except DbError (Slice ρ)
  | .done => .ok acc
  | .broken _ => .ok acc
  | .row (.error e) _ => .error (.driver e)
  | .row (.ok r) rest => scanRows (acc.append r) rest

theorem scanRows_ofList {ρ : Type} (l rs : List ρ) :
    scanRows (some l) (RowStream.ofList rs) = .ok (some (l ++ rs)) := by
  induction rs generalizing l with
  | nil => rw [List.append_nil]; rfl
  | cons r rs ih =>
      have h := ih (l ++ [r])
      rw [List.append_assoc] at h
      exact h

/-- The slice the loop builds from a stream without failures: nil when there is no row. -/
def Slice.ofRows {ρ : Type} (rs : List ρ) : Slice ρ := if rs.isEmpty then none else some rs

theorem getD_ofRows {ρ : Type} (rs : List ρ) : (Slice.ofRows rs).getD [] = rs := by
  cases rs <;> rfl

theorem scanRows_none_ofList {ρ : Type} (rs : List ρ) :
    scanRows none (RowStream.ofList rs) = .ok (Slice.ofRows rs) := by
  cases rs with
  | nil => rfl
  | cons r rs => exact scanRows_ofList [r] rs

/-! ## Column writes -/

/-- A status write keeps the primary key. -/
theorem id_statusWrite (status : String) (compiledWasm : Bytes) (compileErrors : String)
    (p : Plugin) :
    ({ p with status, compiledWasm, compileErrors, version := p.version + 1 } : Plugin).id =
      p.id := rfl

/-- A code write keeps the primary key. -/
theorem id_codeWrite (name sourceCode : String) (p : Plugin) :
    ({ p with name, sourceCode, status := "pending", compileErrors := "" } : Plugin).id =
      p.id := rfl

/-! ## The interface -/

structure Repository where
  savePlugin : Database → Plugin → Except DbError Database
  getPlugin : Database → String → Except DbError Plugin
  listPlugins : Database → Except DbError (Slice Plugin)
  updatePluginStatus (db : Database) (id status : String) (compiledWasm : Bytes)
    (compileErrors : String) : Except DbError Database
  updatePluginCode (db : Database) (id name sourceCode : String) : Except DbError Database
  saveExecution : Database → Execution → Except DbError Database
  getExecutions : Database → String → Except DbError (Slice Execution)
  /-- `DELETE FROM executions WHERE plugin_id = ?`, first in `DeletePlugin`. -/
  deleteExecutions : Database → String → Except DbError Database
  /-- `DELETE FROM plugins WHERE id = ?`, second in `DeletePlugin`. -/
  deletePluginRow : Database → String → Except DbError Database

/-- `DeletePlugin`: there is no transaction, so an error of the second statement leaves the
    effect of the first. -/
def Repository.deletePlugin (R : Repository) (db : Database) (id : String) :
    Except DbError Unit × Database :=
  match R.deleteExecutions db id with
  | .error e => (.error e, db)
  | .ok db₁ =>
    match R.deletePluginRow db₁ id with
    | .error e => (.error e, db₁)
    | .ok db₂ => (.ok (), db₂)

end PluginSandbox.Db
