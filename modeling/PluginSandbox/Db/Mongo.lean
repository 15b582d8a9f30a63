/-
  `db/mongo.go`. A collection is a table keyed by `_id`; there are no foreign keys, and
  `$inc` widens a counter as needed. The lists fetch whole documents, and an empty answer
  is an empty slice, not nil.
-/
import PluginSandbox.Db.Repository

namespace PluginSandbox.Db.MongoRepository

open PluginSandbox.Lib

/-- `InsertOne` into `plugins`. -/
def savePlugin (db : Database) (plugin : Plugin) : Except DbError Database :=
  match db.plugins.insert plugin with
  | none => .error (.driver .uniqueViolation)
  | some plugins => .ok { db with plugins }

def getPlugin (db : Database) (id : String) : Except DbError Plugin :=
  match db.plugins.find? id with
  | none => .error (.notFound id)
  | some plugin => .ok plugin

/-- `cursor.All` fills a nil slice only with documents; nil is then replaced. -/
def listPlugins (order : OrderBy Plugin Plugin.createdAt) (db : Database) :
    Except DbError (Slice Plugin) :=
  .ok (some (order.sort db.plugins.rows))

def updatePluginStatus (db : Database) (id status : String) (compiledWasm : Bytes)
    (compileErrors : String) : Except DbError Database :=
  .ok { db with
    plugins := db.plugins.update (fun p => p.id == id)
      (fun p => { p with status, compiledWasm, compileErrors, version := p.version + 1 })
      (id_statusWrite status compiledWasm compileErrors) }

def updatePluginCode (db : Database) (id name sourceCode : String) : Except DbError Database :=
  .ok { db with
    plugins := db.plugins.update (fun p => p.id == id)
      (fun p => { p with name, sourceCode, status := "pending", compileErrors := "" })
      (id_codeWrite name sourceCode) }

def saveExecution (db : Database) (exec : Execution) : Except DbError Database :=
  match db.executions.insert exec with
  | none => .error (.driver .uniqueViolation)
  | some executions => .ok { db with executions }

def getExecutions (order : OrderBy Execution Execution.createdAt) (db : Database)
    (pluginID : String) : Except DbError (Slice Execution) :=
  .ok (some (order.sort (db.executions.select fun x => x.pluginID == pluginID)))

/-- `DeleteMany`. -/
def deleteExecutions (db : Database) (id : String) : Except DbError Database :=
  .ok { db with executions := db.executions.delete fun x => x.pluginID == id }

/-- `DeleteOne`; `_id` is unique. -/
def deletePluginRow (db : Database) (id : String) : Except DbError Database :=
  .ok { db with plugins := db.plugins.delete fun p => p.id == id }

def repository (plugins : OrderBy Plugin Plugin.createdAt)
    (executions : OrderBy Execution Execution.createdAt) : Repository where
  savePlugin := savePlugin
  getPlugin := getPlugin
  listPlugins := listPlugins plugins
  updatePluginStatus := updatePluginStatus
  updatePluginCode := updatePluginCode
  saveExecution := saveExecution
  getExecutions := getExecutions executions
  deleteExecutions := deleteExecutions
  deletePluginRow := deletePluginRow

end PluginSandbox.Db.MongoRepository
