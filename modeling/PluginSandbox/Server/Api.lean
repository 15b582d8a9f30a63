/-
  The HTTP interface of `main.go`: the seven requests, what they answer, and how far a
  handler has come.

  A handler is cut at every call into something shared: the repository, the compile queue
  and the module cache. Decoding and checking a body happen on the way to the next call. The
  answer to an execute request is a step of its own, behind `SaveExecution`.
  `encoding/json` is a parameter; a path value and a body arrive as the client sent them.
-/
import PluginSandbox.Db.Repository
import PluginSandbox.Sandbox.Run

namespace PluginSandbox.Server

open PluginSandbox.Lib PluginSandbox.Db PluginSandbox.Sandbox

/-! ## Requests -/

/-- A request body: the bytes that arrive, and whether reading then ends with an error. -/
structure Body where
  bytes : Bytes
  readFails : Bool

/-- `CreatePluginRequest` and `UpdatePluginRequest`. -/
structure PluginRequest where
  name : String
  sourceCode : String

/-- Both fields are required. -/
def PluginRequest.complete (req : PluginRequest) : Bool := req.name != "" && req.sourceCode != ""

/-- What the handlers use of `encoding/json`. -/
structure Json where
  /-- `json.NewDecoder(r.Body).Decode`, `none` on an error. -/
  decode : Body → Option PluginRequest
  /-- `json.Unmarshal` into an `ExecuteRequest`: its `InputJSON`. -/
  unmarshal : Bytes → Option Bytes

inductive Request where
  | createPlugin (body : Body)
  | updatePlugin (id : String) (body : Body)
  | listPlugins
  | getPlugin (id : String)
  | executePlugin (id : String) (body : Body)
  | getMetrics (id : String)
  | deletePlugin (id : String)

/-- The plugin a request is about. That of a create request is the new plugin. -/
def Request.target (uuid : String) : Request → Option String
  | .createPlugin _ => some uuid
  | .updatePlugin id _ => some id
  | .listPlugins => none
  | .getPlugin id => some id
  | .executePlugin id _ => some id
  | .getMetrics id => some id
  | .deletePlugin id => some id

/-- The input that an execute request hands to the engine. -/
def executeInput (json : Json) (body : Body) : Bytes :=
  let inputJSON :=
    if body.readFails = false ∧ body.bytes.length > 0 then
      match json.unmarshal body.bytes with
      | some inputJSON => inputJSON
      | none => body.bytes
    else []
  if inputJSON = [] then utf8 "{}" else inputJSON

/-! ## Responses -/

structure ExecuteResponse where
  output : Bytes
  status : String
  durationMicros : Int
  memoryBytes : Int
  fuelConsumed : Int
  logs : Bytes
  deriving DecidableEq

inductive Response where
  | error (code : Nat) (message : String)
  /-- The error of a repository call follows the message. -/
  | repositoryError (code : Nat) (message : String) (err : DbError)
  | engineError (code : Nat) (message : String) (err : Bytes)
  | plugin (code : Nat) (plugin : Plugin)
  | plugins (plugins : List Plugin)
  | executed (result : ExecuteResponse)
  /-- A nil slice is encoded as `null`. -/
  | executions (executions : Slice Execution)
  | noContent
  /-- The connection is closed without an answer. -/
  | aborted
  deriving DecidableEq

/-- A row as JSON: `compiled_wasm` is left out. -/
def encodePlugin (plugin : Plugin) : Plugin := { plugin with compiledWasm := [] }

/-- The row that `handleExecutePlugin` saves. -/
def executionOf (id pluginID : String) (now : Int) (res : ExecutionResult) : Execution where
  id := id
  pluginID := pluginID
  durationMicros := res.duration.toInt.tdiv 1000
  memoryBytes := res.memoryUsed.toInt
  fuelConsumed := res.fuelConsumed.toInt
  status := res.status.text
  logs := res.logs
  createdAt := now

def executeResponse (res : ExecutionResult) : ExecuteResponse where
  output := res.output
  status := res.status.text
  durationMicros := res.duration.toInt.tdiv 1000
  memoryBytes := res.memoryUsed.toInt
  fuelConsumed := res.fuelConsumed.toInt
  logs := res.logs

/-! ## Handlers -/

/-- The call a handler makes next, with the local variables it needs from there on. -/
inductive Phase (M : Type) where
  | createQueueCompile (plugin : Plugin)
  | updatePluginCode (name sourceCode : String)
  | updateQueueCompile
  | updateGetPlugin
  /-- `GetModule` reads the cache, compiles on a miss, and reads again. -/
  | getModule (plugin : Plugin) (input : Bytes)
  | compile (plugin : Plugin) (input : Bytes)
  | getCompiled (plugin : Plugin) (input : Bytes)
  | run (plugin : Plugin) (input : Bytes) (loaded : Except Bytes (Option M))
  | saveExecution (plugin : Plugin) (result : ExecutionResult)
  /-- The result is saved, or could not be, and is encoded for the client. -/
  | encodeResult (result : ExecutionResult)
  | deletePluginRow
  | done (response : Response)

structure Handler (M : Type) where
  target : Option String
  phase : Phase M

/-- The id a handler is about to pass to `QueueCompile`. -/
def Handler.job {M : Type} (h : Handler M) : Option String :=
  match h.phase with
  | .createQueueCompile plugin => some plugin.id
  | .updateQueueCompile => h.target
  | _ => none

/-- What the end of the process leaves of a handler: an answer already sent stays sent. -/
def Handler.abort {M : Type} (h : Handler M) : Handler M :=
  match h.phase with
  | .done _ => h
  | _ => { h with phase := .done .aborted }

theorem Handler.job_abort {M : Type} (h : Handler M) : h.abort.job = none := by
  obtain ⟨target, phase⟩ := h
  cases phase <;> rfl

theorem Handler.target_abort {M : Type} (h : Handler M) : h.abort.target = h.target := by
  obtain ⟨target, phase⟩ := h
  cases phase <;> rfl

end PluginSandbox.Server
