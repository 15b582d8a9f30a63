/-
  `db/postgres.go`. PostgreSQL keeps the primary keys and enforces `plugin_id TEXT NOT NULL
  REFERENCES plugins(id)`: an execution needs its plugin, and a plugin with executions cannot
  be deleted. Three column types hold less than Go passes:
  * `version INTEGER` is four bytes wide, and what is beyond is refused;
  * `TEXT` refuses a zero byte, and logs that are not UTF-8, in a row as in a `WHERE` clause;
  * `created_at TIMESTAMP` has microseconds and no zone. It takes any instant and cuts it: `keep`
    is what is left.
-/
import PluginSandbox.Db.Repository

namespace PluginSandbox.Db.PostgresRepository

open PluginSandbox.Lib

/-! ## Columns -/

/-- The values of a four-byte `INTEGER`. -/
def int4 (n : Int) : Bool := decide (-2147483648 ≤ n ∧ n ≤ 2147483647)

/-- The strings that `TEXT` takes. -/
def text (s : String) : Bool := s.toList.all fun c => c.toNat != 0

/-- The bytes that `TEXT` takes. -/
def textBytes (bs : Bytes) : Bool := (fromUtf8 bs).isSome && bs.all fun b => b != 0

def pluginTexts (p : Plugin) : Bool :=
  text p.id && text p.name && text p.sourceCode && text p.status && text p.compileErrors

def executionTexts (x : Execution) : Bool :=
  text x.id && text x.pluginID && text x.status && textBytes x.logs

/-! ## Calls -/

/-- A version out of range does not leave the driver; text is checked when the statement is
    bound, before it runs. -/
def savePlugin (keep : Int → Int) (db : Database) (plugin : Plugin) : Except DbError Database :=
  if int4 plugin.version then
    if pluginTexts plugin then
      match db.plugins.insert (storedPlugin keep plugin) with
      | none => .error (.driver .uniqueViolation)
      | some plugins => .ok { db with plugins }
    else .error (.driver .invalidText)
  else .error (.driver .outOfRange)

/-- No row is stored under an id that is not text, so an id is found or refused. -/
def getPlugin (db : Database) (id : String) : Except DbError Plugin :=
  match db.plugins.find? id with
  | none => if text id then .error (.notFound id) else .error (.driver .invalidText)
  | some plugin => .ok plugin

/-- The query names every column but `compiled_wasm`, which stays nil. -/
def listPlugins (order : OrderBy Plugin Plugin.createdAt) (db : Database) :
    Except DbError (Slice Plugin) :=
  scanRows none (.ofList ((order.sort db.plugins.rows).map fun p => { p with compiledWasm := [] }))

/-- `version + 1` fails the whole statement when it leaves the column's range. -/
def updatePluginStatus (db : Database) (id status : String) (compiledWasm : Bytes)
    (compileErrors : String) : Except DbError Database :=
  if text id && text status && text compileErrors then
    if db.plugins.rows.any fun p => p.id == id && !int4 (p.version + 1) then
      .error (.driver .outOfRange)
    else
      .ok { db with
        plugins := db.plugins.update (fun p => p.id == id)
          (fun p => { p with status, compiledWasm, compileErrors, version := p.version + 1 })
          (id_statusWrite status compiledWasm compileErrors) }
  else .error (.driver .invalidText)

def updatePluginCode (db : Database) (id name sourceCode : String) : Except DbError Database :=
  if text id && text name && text sourceCode then
    .ok { db with
      plugins := db.plugins.update (fun p => p.id == id)
        (fun p => { p with name, sourceCode, status := "pending", compileErrors := "" })
        (id_codeWrite name sourceCode) }
  else .error (.driver .invalidText)

def saveExecution (keep : Int → Int) (db : Database) (exec : Execution) :
    Except DbError Database :=
  if executionTexts exec then
    match db.executions.insert (storedExecution keep exec) with
    | none => .error (.driver .uniqueViolation)
    | some executions =>
      if (db.plugins.find? exec.pluginID).isSome then .ok { db with executions }
      else .error (.driver .foreignKeyViolation)
  else .error (.driver .invalidText)

def getExecutions (order : OrderBy Execution Execution.createdAt) (db : Database)
    (pluginID : String) : Except DbError (Slice Execution) :=
  if text pluginID then
    scanRows none (.ofList (order.sort (db.executions.select fun x => x.pluginID == pluginID)))
  else .error (.driver .invalidText)

def deleteExecutions (db : Database) (id : String) : Except DbError Database :=
  if text id then .ok { db with executions := db.executions.delete fun x => x.pluginID == id }
  else .error (.driver .invalidText)

def deletePluginRow (db : Database) (id : String) : Except DbError Database :=
  if text id then
    if (db.plugins.find? id).isSome && db.executions.rows.any fun x => x.pluginID == id then
      .error (.driver .foreignKeyViolation)
    else .ok { db with plugins := db.plugins.delete fun p => p.id == id }
  else .error (.driver .invalidText)

def repository (keep : Int → Int) (plugins : OrderBy Plugin Plugin.createdAt)
    (executions : OrderBy Execution Execution.createdAt) : Repository where
  savePlugin := savePlugin keep
  getPlugin := getPlugin
  listPlugins := listPlugins plugins
  updatePluginStatus := updatePluginStatus
  updatePluginCode := updatePluginCode
  saveExecution := saveExecution keep
  getExecutions := getExecutions executions
  deleteExecutions := deleteExecutions
  deletePluginRow := deletePluginRow

end PluginSandbox.Db.PostgresRepository
