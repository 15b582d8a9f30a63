/-
  The list queries of `db/sqlite.go` and `db/postgres.go`, over any stream of rows that the
  driver may deliver.

  `query` is what `ListPlugins` and `GetExecutions` share: an error of the query is
  returned, then `scanRows` reads the stream. A stream is cut (`Cut`) when rows that all
  scan are followed by a failed fetch; `rows.Next` is false there as it is at the end, and
  the rows read so far are returned as if they were all. `query_completeOrError` says that
  this is the only way to lose rows: a list is complete or an error on every stream that is
  not cut, and on no other.
-/
import PluginSandbox.Db.Sqlite
import PluginSandbox.Db.Postgres

namespace PluginSandbox.Db

open PluginSandbox.Lib

variable {γ ρ : Type}

/-! ## Columns -/

/-- The columns that both `ListPlugins` queries name. -/
structure PluginColumns where
  id : String
  name : String
  sourceCode : String
  version : Int
  status : String
  compileErrors : String
  createdAt : Int
  deriving DecidableEq, Repr

def PluginColumns.of (p : Plugin) : PluginColumns :=
  ⟨p.id, p.name, p.sourceCode, p.version, p.status, p.compileErrors, p.createdAt⟩

/-- `var p Plugin` filled by `rows.Scan`; `CompiledWasm` is not among the columns. -/
def PluginColumns.scan (c : PluginColumns) : Plugin where
  id := c.id
  name := c.name
  sourceCode := c.sourceCode
  compiledWasm := []
  version := c.version
  status := c.status
  compileErrors := c.compileErrors
  createdAt := c.createdAt

/-! ## Streams -/

/-- What the driver answers to a query: an error, or a stream of rows. -/
abbrev Answer (γ : Type) := Except DriverError (RowStream γ)

def RowStream.map (f : γ → ρ) : RowStream γ → RowStream ρ
  | .done => .done
  | .broken e => .broken e
  | .row scan rest => .row (scan.map f) (rest.map f)

/-- Rows that scan, then `tail`. -/
def RowStream.after (tail : RowStream γ) : List γ → RowStream γ
  | [] => tail
  | c :: cs => .row (.ok c) (tail.after cs)

theorem RowStream.after_done (cs : List γ) : RowStream.after .done cs = .ofList cs := by
  induction cs with
  | nil => rfl
  | cons c cs ih => exact congrArg (RowStream.row (.ok c)) ih

theorem RowStream.map_after (f : γ → ρ) (tail : RowStream γ) (cs : List γ) :
    (tail.after cs).map f = (tail.map f).after (cs.map f) := by
  induction cs with
  | nil => rfl
  | cons c cs ih => exact congrArg (RowStream.row (.ok (f c))) ih

theorem RowStream.map_ofList (f : γ → ρ) (cs : List γ) :
    (RowStream.ofList cs).map f = .ofList (cs.map f) := by
  rw [← RowStream.after_done, RowStream.map_after, ← RowStream.after_done]
  rfl

/-- Every stream is a run of rows that scan, then the end, a failed fetch or a failed scan. -/
theorem RowStream.eq_after (s : RowStream γ) :
    (∃ cs, s = .ofList cs) ∨ (∃ cs e, s = RowStream.after (.broken e) cs) ∨
      ∃ cs e rest, s = RowStream.after (.row (.error e) rest) cs := by
  induction s with
  | done => exact .inl ⟨[], rfl⟩
  | broken e => exact .inr (.inl ⟨[], e, rfl⟩)
  | row scan rest ih =>
      cases scan with
      | error e => exact .inr (.inr ⟨[], e, rest, rfl⟩)
      | ok c =>
          obtain ⟨cs, rfl⟩ | ⟨cs, e, rfl⟩ | ⟨cs, e, rest', rfl⟩ := ih
          · exact .inl ⟨c :: cs, rfl⟩
          · exact .inr (.inl ⟨c :: cs, e, rfl⟩)
          · exact .inr (.inr ⟨c :: cs, e, rest', rfl⟩)

/-- Where the end of one stream and a failed fetch are told apart, so are the streams. -/
theorem RowStream.after_broken_ne_ofList (e : DriverError) (cs ds : List γ) :
    RowStream.after (.broken e) cs ≠ .ofList ds := by
  induction cs generalizing ds with
  | nil => cases ds <;> exact nofun
  | cons c cs ih =>
      cases ds with
      | nil => exact nofun
      | cons d ds =>
          intro h
          injection h with _ hrest
          exact ih ds hrest

theorem RowStream.after_broken_ne_row (e e' : DriverError) (rest : RowStream γ)
    (cs ds : List γ) :
    RowStream.after (.broken e) cs ≠ RowStream.after (.row (.error e') rest) ds := by
  induction cs generalizing ds with
  | nil => cases ds <;> exact nofun
  | cons c cs ih =>
      cases ds with
      | nil =>
          intro h
          injection h with hscan _
          cases hscan
      | cons d ds =>
          intro h
          injection h with _ hrest
          exact ih ds hrest

/-! ## The loop -/

/-- Rows that scan are appended before the loop goes on. -/
theorem scanRows_after (acc : Slice ρ) (tail : RowStream ρ) (rs : List ρ) :
    scanRows acc (tail.after rs) = scanRows (rs.foldl Slice.append acc) tail := by
  induction rs generalizing acc with
  | nil => rfl
  | cons r rs ih => exact ih (acc.append r)

theorem foldl_append_none (rs : List ρ) : rs.foldl Slice.append none = Slice.ofRows rs := by
  have h := scanRows_after none .done rs
  rw [RowStream.after_done, scanRows_none_ofList] at h
  exact (Except.ok.inj h).symm

/-- A cut stream is read like the rows before the cut. -/
theorem scanRows_broken (rs : List ρ) (e : DriverError) :
    scanRows none (RowStream.after (.broken e) rs) = .ok (Slice.ofRows rs) := by
  rw [scanRows_after, foldl_append_none]
  rfl

theorem scanRows_failed (rs : List ρ) (e : DriverError) (rest : RowStream ρ) :
    scanRows none (RowStream.after (.row (.error e) rest) rs) = .error (.driver e) :=
  scanRows_after none _ rs

/-! ## The four queries -/

/-- `rows, err := r.db.Query(…)`, then the loop over `rows`. -/
def query (scan : γ → ρ) : Answer γ → Except DbError (Slice ρ)
  | .error e => .error (.driver e)
  | .ok rows => scanRows none (rows.map scan)

theorem query_ok (scan : γ → ρ) (rows : RowStream γ) :
    query scan (.ok rows) = scanRows none (rows.map scan) := rfl

def SQLiteRepository.listPluginsFrom (answer : Answer PluginColumns) :
    Except DbError (Slice Plugin) :=
  query PluginColumns.scan answer

def SQLiteRepository.getExecutionsFrom (answer : Answer Execution) :
    Except DbError (Slice Execution) :=
  query id answer

def PostgresRepository.listPluginsFrom (answer : Answer PluginColumns) :
    Except DbError (Slice Plugin) :=
  query PluginColumns.scan answer

def PostgresRepository.getExecutionsFrom (answer : Answer Execution) :
    Except DbError (Slice Execution) :=
  query id answer

theorem query_ofList (scan : γ → ρ) (cs : List γ) :
    query scan (.ok (.ofList cs)) = .ok (Slice.ofRows (cs.map scan)) := by
  rw [query_ok, RowStream.map_ofList, scanRows_none_ofList]

/-- The list calls of the repository are the queries over the rows that the tables hold. -/
theorem SQLiteRepository.listPlugins_eq (order : OrderBy Plugin Plugin.createdAt)
    (db : Database) :
    SQLiteRepository.listPlugins order db =
      SQLiteRepository.listPluginsFrom
        (.ok (.ofList ((order.sort db.plugins.rows).map PluginColumns.of))) := by
  unfold SQLiteRepository.listPlugins SQLiteRepository.listPluginsFrom
  rw [scanRows_none_ofList, query_ofList, List.map_map]
  rfl

theorem SQLiteRepository.getExecutions_eq (order : OrderBy Execution Execution.createdAt)
    (db : Database) (pluginID : String) :
    SQLiteRepository.getExecutions order db pluginID =
      SQLiteRepository.getExecutionsFrom (.ok (.ofList
        (order.sort (db.executions.select fun x => x.pluginID == pluginID)))) := by
  unfold SQLiteRepository.getExecutions SQLiteRepository.getExecutionsFrom
  rw [scanRows_none_ofList, query_ofList, List.map_id]

theorem PostgresRepository.listPlugins_eq (order : OrderBy Plugin Plugin.createdAt)
    (db : Database) :
    PostgresRepository.listPlugins order db =
      PostgresRepository.listPluginsFrom
        (.ok (.ofList ((order.sort db.plugins.rows).map PluginColumns.of))) :=
  SQLiteRepository.listPlugins_eq order db

theorem PostgresRepository.getExecutions_eq (order : OrderBy Execution Execution.createdAt)
    (db : Database) (pluginID : String) :
    PostgresRepository.getExecutions order db pluginID =
      PostgresRepository.getExecutionsFrom
        (if PostgresRepository.text pluginID then
          .ok (.ofList (order.sort (db.executions.select fun x => x.pluginID == pluginID)))
        else .error .invalidText) := by
  unfold PostgresRepository.getExecutions
  cases PostgresRepository.text pluginID with
  | true => exact SQLiteRepository.getExecutions_eq order db pluginID
  | false => rfl

/-! ## Complete or an error -/

/-- A result that is an error, or every row of an answer that ended, in order. -/
def CompleteOrError (scan : γ → ρ) (answer : Answer γ) (result : Except DbError (Slice ρ)) :
    Prop :=
  (∃ e, result = .error e) ∨
    ∃ cs s, answer = .ok (.ofList cs) ∧ result = .ok s ∧ s.getD [] = cs.map scan

/-- A fetch of a next row fails after rows that all scanned. -/
def Cut (answer : Answer γ) : Prop :=
  ∃ cs e, answer = .ok (RowStream.after (.broken e) cs)

theorem query_completeOrError (scan : γ → ρ) (answer : Answer γ) :
    CompleteOrError scan answer (query scan answer) ↔ ¬ Cut answer := by
  cases answer with
  | error e => exact iff_of_true (.inl ⟨_, rfl⟩) (by rintro ⟨cs, e', h⟩; cases h)
  | ok rows =>
      obtain ⟨cs, rfl⟩ | ⟨cs, e, rfl⟩ | ⟨cs, e, rest, rfl⟩ := rows.eq_after
      · refine iff_of_true (.inr ⟨cs, _, rfl, query_ofList scan cs, getD_ofRows _⟩) ?_
        rintro ⟨ds, e, h⟩
        exact RowStream.after_broken_ne_ofList e ds cs (Except.ok.inj h).symm
      · have hread : query scan (.ok (RowStream.after (.broken e) cs)) =
            .ok (Slice.ofRows (cs.map scan)) := by
          rw [query_ok, RowStream.map_after]
          exact scanRows_broken _ e
        refine iff_of_false ?_ (not_not.mpr ⟨cs, e, rfl⟩)
        rintro (⟨e', h⟩ | ⟨ds, s, h, -, -⟩)
        · rw [hread] at h
          cases h
        · exact RowStream.after_broken_ne_ofList e cs ds (Except.ok.inj h)
      · have hread : query scan (.ok (RowStream.after (.row (.error e) rest) cs)) =
            .error (.driver e) := by
          rw [query_ok, RowStream.map_after]
          exact scanRows_failed _ e _
        refine iff_of_true (.inl ⟨_, hread⟩) ?_
        rintro ⟨ds, e', h⟩
        exact RowStream.after_broken_ne_row e' e rest ds cs (Except.ok.inj h).symm

/-- All four list queries are complete or an error exactly on the answers that are not cut. -/
theorem lists_completeOrError_iff (plugins : Answer PluginColumns)
    (executions : Answer Execution) :
    (CompleteOrError PluginColumns.scan plugins (SQLiteRepository.listPluginsFrom plugins) ↔
      ¬ Cut plugins) ∧
    (CompleteOrError id executions (SQLiteRepository.getExecutionsFrom executions) ↔
      ¬ Cut executions) ∧
    (CompleteOrError PluginColumns.scan plugins (PostgresRepository.listPluginsFrom plugins) ↔
      ¬ Cut plugins) ∧
    (CompleteOrError id executions (PostgresRepository.getExecutionsFrom executions) ↔
      ¬ Cut executions) :=
  ⟨query_completeOrError _ _, query_completeOrError _ _, query_completeOrError _ _,
    query_completeOrError _ _⟩

/-- Two executions are stored; the connection drops after the first row was fetched. -/
def droppedAfterOne : Answer Execution :=
  .ok (.row (.ok ⟨"x-2", "p-1", 120, 65536, 900, "success", [], 20⟩) (.broken .fault))

/-- The call answers a list of one row and no error, although the stream did not end. -/
theorem getExecutions_truncated :
    SQLiteRepository.getExecutionsFrom droppedAfterOne =
        .ok (some [⟨"x-2", "p-1", 120, 65536, 900, "success", [], 20⟩]) ∧
      ¬ CompleteOrError id droppedAfterOne
        (SQLiteRepository.getExecutionsFrom droppedAfterOne) := by
  refine ⟨rfl, fun h => ?_⟩
  exact (query_completeOrError id droppedAfterOne).mp h ⟨[_], .fault, rfl⟩

end PluginSandbox.Db
