/-
  `db/sqlite.go`. SQLite keeps the primary keys. It parses the `FOREIGN KEY` clause of
  `executions` and does not enforce it, since nothing switches `foreign_keys` on. An
  `INTEGER` column holds every Go `int`.
-/
import PluginSandbox.Db.Repository

namespace PluginSandbox.Db.SQLiteRepository

open PluginSandbox.Lib

def savePlugin (db : Database) (plugin : Plugin) : Except DbError Database :=
  match db.plugins.insert plugin with
  | none => .error (.driver .uniqueViolation)
  | some plugins => .ok { db with plugins }

def getPlugin (db : Database) (id : String) : Except DbError Plugin :=
  match db.plugins.find? id with
  | none => .error (.notFound id)
  | some plugin => .ok plugin

/-- The query names every column but `compiled_wasm`, which stays nil. -/
def listPlugins (order : OrderBy Plugin Plugin.createdAt) (db : Database) :
    Except DbError (Slice Plugin) :=
  scanRows none (.ofList ((order.sort db.plugins.rows).map fun p => { p with compiledWasm := [] }))

def updatePluginStatus (db : Database) (id status : String) (compiledWasm : Bytes)
    (compileErrors : String) : Except DbError Database :=
  .ok { db with
    plugins := db.plugins.update (fun p => p.id == id)
      (fun p => { p with status, compiledWasm, compileErrors, version := p.version + 1 })
      (id_statusWrite status compiledWasm compileErrors) }

def updatePluginCode (db : Database) (id name sourceCode : String) : Except DbError Database :=
  .ok { db with
    plugins := db.plugins.update (fun p => p.id == id)
      (fun p => { p with name, sourceCode, status := "pending", compileErrors := "" })
      (id_codeWrite name sourceCode) }

def saveExecution (db : Database) (exec : Execution) : Except DbError Database :=
  match db.executions.insert exec with
  | none => .error (.driver .uniqueViolation)
  | some executions => .ok { db with executions }

def getExecutions (order : OrderBy Execution Execution.createdAt) (db : Database)
    (pluginID : String) : Except DbError (Slice Execution) :=
  scanRows none (.ofList (order.sort (db.executions.select fun x => x.pluginID == pluginID)))

def deleteExecutions (db : Database) (id : String) : Except DbError Database :=
  .ok { db with executions := db.executions.delete fun x => x.pluginID == id }

def deletePluginRow (db : Database) (id : String) : Except DbError Database :=
  .ok { db with plugins := db.plugins.delete fun p => p.id == id }

def repository (plugins : OrderBy Plugin Plugin.createdAt)
    (executions : OrderBy Execution Execution.createdAt) : Repository where
  savePlugin := savePlugin
  getPlugin := getPlugin
  listPlugins := listPlugins plugins
  updatePluginStatus := updatePluginStatus
  updatePluginCode := updatePluginCode
  saveExecution := saveExecution
  getExecutions := getExecutions executions
  deleteExecutions := deleteExecutions
  deletePluginRow := deletePluginRow

end PluginSandbox.Db.SQLiteRepository
