/-
  The running server: its state, and one step of one of its goroutines.

  A step takes a handler or the worker from one call into something shared to the next
  (`Phase`, `Worker`). The schedule is a list of events. An event names the goroutine and the
  plugin it works for, and brings what the environment decides in that step: a fresh UUID, the
  clock, the operating system under a guest, and whether a repository call fails.

  The database survives `restart`; the queue, the module cache and the goroutines do not.
  `issued` records every UUID drawn so far and is part of no decision but freshness.
-/
import PluginSandbox.Compiler.Worker
import PluginSandbox.Db.Contract
import PluginSandbox.Sandbox.Engine
import PluginSandbox.Server.Api

namespace PluginSandbox.Server

open PluginSandbox.Lib PluginSandbox.Db PluginSandbox.Sandbox PluginSandbox.Compiler

/-! ## State and events -/

/-- What the server is built on: a backend, the toolchain, `encoding/json`, and wasmtime as
    a compiler of modules and a meaning for each module. -/
structure Platform (M σ : Type) where
  repo : LawfulRepository
  toolchain : Toolchain
  json : Json
  newModule : Bytes → Except Bytes M
  guest : M → Guest σ

structure State (M : Type) where
  db : Database
  queue : List String
  worker : Worker
  engine : Engine M
  issued : List String
  /-- The handlers by request, finished ones with their response. -/
  handlers : Nat → Option (Handler M)

/-- `NewCompileWorker(repo, 100)`. -/
def queueSize : Nat := 100

/-- The first start, on an empty database. -/
def State.start (M : Type) : State M where
  db := .empty
  queue := []
  worker := .idle
  engine := .new M
  issued := []
  handlers := fun _ => none

structure Env where
  repoFails : Bool
  uuid : String
  now : Int
  host : Host

inductive Action where
  | request (rid : Nat) (req : Request)
  | advance (rid : Nat) (id : String)
  | worker (id : String)
  | restart

structure Event where
  action : Action
  env : Env

/-- The plugin that a step is about. -/
def Event.target (e : Event) : Option String :=
  match e.action with
  | .request _ req => req.target e.env.uuid
  | .advance _ id => some id
  | .worker id => some id
  | .restart => none

/-- A repository call that the environment may fail. -/
def Env.call {α : Type} (env : Env) (r : Except DbError α) : Except DbError α :=
  if env.repoFails then .error (.driver .fault) else r

theorem Env.call_eq {α : Type} {env : Env} (h : env.repoFails = false) (r : Except DbError α) :
    env.call r = r := by
  unfold Env.call
  rw [h]
  rfl

theorem Env.call_ok_iff {α : Type} {env : Env} {r : Except DbError α} {a : α} :
    env.call r = .ok a ↔ env.repoFails = false ∧ r = .ok a := by
  unfold Env.call
  cases env.repoFails <;> simp

section Step

variable {M σ : Type} (A : Platform M σ)

/-- What a handler step leaves: the shared state and where the handler stands. -/
abbrev Next (M : Type) := State M × Phase M

/-- A response without a change. -/
def answer (s : State M) (response : Response) : Next M := (s, .done response)

def missingID : Response := .error 400 "Missing plugin ID parameter"

def pluginNotFound (err : DbError) : Response := .repositoryError 404 "Plugin not found: " err

/-! ## Create and update -/

/-- Up to `SavePlugin`. -/
def handleCreatePlugin (s : State M) (env : Env) (body : Body) : Option (Next M) :=
  match A.json.decode body with
  | none => some (answer s (.error 400 "Invalid request body JSON"))
  | some req =>
    if req.complete = false then
      some (answer s (.error 400 "Fields 'name' and 'source_code' are required"))
    else if env.uuid ∈ s.issued then none
    else
      let plugin : Plugin := {
        id := env.uuid, name := req.name, sourceCode := req.sourceCode, compiledWasm := []
        version := 1, status := "pending", compileErrors := "", createdAt := env.now }
      let s₁ := { s with issued := env.uuid :: s.issued }
      match env.call (A.repo.savePlugin s.db plugin) with
      | .error err => some (answer s₁ (.repositoryError 500 "Failed to save plugin: " err))
      | .ok db => some ({ s₁ with db }, .createQueueCompile plugin)

/-- `QueueCompile` waits while the channel is full. -/
def queueCompile (s : State M) (id : String) (next : Phase M) : Option (Next M) :=
  if s.queue.length < queueSize then some ({ s with queue := s.queue ++ [id] }, next) else none

/-- Up to the check of the body. -/
def handleUpdatePlugin (s : State M) (env : Env) (id : String) (body : Body) : Next M :=
  if id = "" then answer s missingID
  else
    match env.call (A.repo.getPlugin s.db id) with
    | .error err => answer s (pluginNotFound err)
    | .ok _ =>
      match A.json.decode body with
      | none => answer s (.error 400 "Invalid request body JSON")
      | some req =>
        if req.complete = false then
          answer s (.error 400 "Fields 'name' and 'source_code' are required")
        else (s, .updatePluginCode req.name req.sourceCode)

def updateWrite (s : State M) (env : Env) (id name sourceCode : String) : Next M :=
  match env.call (A.repo.updatePluginCode s.db id name sourceCode) with
  | .error err => answer s (.repositoryError 500 "Failed to update plugin: " err)
  | .ok db => ({ s with db }, .updateQueueCompile)

def updateReread (s : State M) (env : Env) (id : String) : Next M :=
  match env.call (A.repo.getPlugin s.db id) with
  | .error err => answer s (.repositoryError 500 "Failed to retrieve updated plugin: " err)
  | .ok plugin => answer s (.plugin 200 (encodePlugin plugin))

/-! ## Reads -/

def handleListPlugins (s : State M) (env : Env) : Next M :=
  match env.call (A.repo.listPlugins s.db) with
  | .error err => answer s (.repositoryError 500 "Failed to list plugins: " err)
  | .ok plugins => answer s (.plugins ((plugins.getD []).map encodePlugin))

def handleGetPlugin (s : State M) (env : Env) (id : String) : Next M :=
  if id = "" then answer s missingID
  else
    match env.call (A.repo.getPlugin s.db id) with
    | .error err => answer s (pluginNotFound err)
    | .ok plugin => answer s (.plugin 200 (encodePlugin plugin))

def handleGetMetrics (s : State M) (env : Env) (id : String) : Next M :=
  if id = "" then answer s missingID
  else
    match env.call (A.repo.getExecutions s.db id) with
    | .error err => answer s (.repositoryError 500 "Failed to fetch metrics: " err)
    | .ok executions => answer s (.executions executions)

/-! ## Execute -/

/-- Up to `Engine.Run`. -/
def handleExecutePlugin (s : State M) (env : Env) (id : String) (body : Body) : Next M :=
  if id = "" then answer s missingID
  else
    match env.call (A.repo.getPlugin s.db id) with
    | .error err => answer s (pluginNotFound err)
    | .ok plugin =>
      if plugin.status ≠ "compiled" then
        answer s (.error 409
          ("Plugin is not ready for execution (status: " ++ plugin.status ++ ")"))
      else (s, .getModule plugin (executeInput A.json body))

/-- The first read of `GetModule`, under the read lock. -/
def getModuleRead (s : State M) (plugin : Plugin) (input : Bytes) : Next M :=
  match s.engine.modules plugin.id with
  | some m => (s, .run plugin input (.ok (some m)))
  | none => (s, .compile plugin input)

def getModuleCompile (s : State M) (plugin : Plugin) (input : Bytes) : Next M :=
  match s.engine.compile A.newModule plugin.id plugin.compiledWasm with
  | (.error err, engine) => ({ s with engine }, .run plugin input (.error err))
  | (.ok (), engine) => ({ s with engine }, .getCompiled plugin input)

/-- The guest runs in a store of its own. -/
def executeRun (s : State M) (env : Env) (plugin : Plugin) (input : Bytes)
    (loaded : Except Bytes (Option M)) : Next M :=
  match runLoaded env.host A.guest input loaded with
  | .error _ => answer s .aborted
  | .ok (.error err) => answer s (.engineError 500 "Internal sandbox execution engine error: " err)
  | .ok (.ok res) => (s, .saveExecution plugin res)

/-- An error of `SaveExecution` is only printed. -/
def executeSave (s : State M) (env : Env) (plugin : Plugin) (res : ExecutionResult) :
    Option (Next M) :=
  if env.uuid ∈ s.issued then none
  else
    let s₁ := { s with issued := env.uuid :: s.issued }
    match env.call (A.repo.saveExecution s.db (executionOf env.uuid plugin.id env.now res)) with
    | .error _ => some (s₁, .encodeResult res)
    | .ok db => some ({ s₁ with db }, .encodeResult res)

/-! ## Delete -/

def deleteFailed (err : DbError) : Response :=
  .repositoryError 500 "Failed to delete plugin: " err

/-- The first statement of `DeletePlugin`. -/
def handleDeletePlugin (s : State M) (env : Env) (id : String) : Next M :=
  if id = "" then answer s missingID
  else
    match env.call (A.repo.deleteExecutions s.db id) with
    | .error err => answer s (deleteFailed err)
    | .ok db => ({ s with db }, .deletePluginRow)

/-- The second statement of `DeletePlugin`. -/
def deleteRow (s : State M) (env : Env) (id : String) : Next M :=
  match env.call (A.repo.deletePluginRow s.db id) with
  | .error err => answer s (deleteFailed err)
  | .ok db => answer { s with db } .noContent

/-! ## Steps -/

/-- The first step of a request. -/
def serve (s : State M) (env : Env) : Request → Option (Next M)
  | .createPlugin body => handleCreatePlugin A s env body
  | .updatePlugin id body => some (handleUpdatePlugin A s env id body)
  | .listPlugins => some (handleListPlugins A s env)
  | .getPlugin id => some (handleGetPlugin A s env id)
  | .executePlugin id body => some (handleExecutePlugin A s env id body)
  | .getMetrics id => some (handleGetMetrics A s env id)
  | .deletePlugin id => some (handleDeletePlugin A s env id)

/-- The next step of a handler. -/
def resume (s : State M) (env : Env) (id : String) : Phase M → Option (Next M)
  | .createQueueCompile plugin =>
    queueCompile s plugin.id (.done (.plugin 201 (encodePlugin plugin)))
  | .updatePluginCode name sourceCode => some (updateWrite A s env id name sourceCode)
  | .updateQueueCompile => queueCompile s id .updateGetPlugin
  | .updateGetPlugin => some (updateReread A s env id)
  | .getModule plugin input => some (getModuleRead s plugin input)
  | .compile plugin input => some (getModuleCompile A s plugin input)
  | .getCompiled plugin input => some (s, .run plugin input (.ok (s.engine.modules plugin.id)))
  | .run plugin input loaded => some (executeRun A s env plugin input loaded)
  | .saveExecution plugin res => executeSave A s env plugin res
  | .encodeResult res => some (answer s (.executed (executeResponse res)))
  | .deletePluginRow => some (deleteRow A s env id)
  | .done _ => none

/-- The id the worker is on, or takes from the queue next. -/
def State.nextJob (s : State M) : Option String :=
  match s.worker with
  | .idle => s.queue.head?
  | w => w.current

/-- One step of `compilePlugin`, or the receive before it. Failed status writes are ignored
    or printed. -/
def workerStep (s : State M) (env : Env) : State M :=
  match s.worker with
  | .idle =>
    match s.queue with
    | [] => s
    | id :: queue => { s with queue, worker := .received id }
  | .received id =>
    match env.call (A.repo.getPlugin s.db id) with
    | .error _ => { s with worker := .idle }
    | .ok plugin => { s with worker := .building id plugin.sourceCode }
  | .building id sourceCode =>
    { s with worker := .writing id sourceCode (A.toolchain.build sourceCode) }
  | .writing id _ build =>
    match env.call (A.repo.updatePluginStatus s.db id build.status build.compiledWasm
      build.compileErrors) with
    | .error _ => { s with worker := .idle }
    | .ok db => { s with db, worker := .idle }

def State.restart (s : State M) : State M where
  db := s.db
  queue := []
  worker := .idle
  engine := .new M
  issued := s.issued
  handlers := fun rid => (s.handlers rid).map Handler.abort

/-- Stores where a handler stands. -/
def State.put (rid : Nat) (target : Option String) (next : Next M) : State M :=
  { next.1 with handlers := Function.update next.1.handlers rid (some ⟨target, next.2⟩) }

theorem handlers_put (rid : Nat) (target : Option String) (next : Next M) (k : Nat) :
    (State.put rid target next).handlers k =
      if k = rid then some ⟨target, next.2⟩ else next.1.handlers k :=
  Function.update_apply next.1.handlers rid _ k

/-- One step of the server, `none` when the event is not enabled. -/
def step (s : State M) (e : Event) : Option (State M) :=
  match e.action with
  | .request rid req =>
    match s.handlers rid with
    | some _ => none
    | none => (serve A s e.env req).map (State.put rid e.target)
  | .advance rid id =>
    match s.handlers rid with
    | none => none
    | some h =>
      if h.target = some id then (resume A s e.env id h.phase).map (State.put rid e.target)
      else none
  | .worker id => if s.nextJob = some id then some (workerStep A s e.env) else none
  | .restart => some s.restart

/-! ## Enabled steps -/

variable {A} {s t : State M} {e : Event} {rid : Nat} {id : String}

theorem step_request {req : Request} (haction : e.action = .request rid req) :
    step A s e = some t ↔ s.handlers rid = none ∧
      ∃ next, serve A s e.env req = some next ∧ State.put rid e.target next = t := by
  unfold step
  rw [haction]
  dsimp only
  cases hfree : s.handlers rid with
  | some h => simp only [reduceCtorEq, false_and]
  | none => simp only [Option.map_eq_some_iff, true_and]

theorem step_advance (haction : e.action = .advance rid id) :
    step A s e = some t ↔ ∃ phase, s.handlers rid = some ⟨some id, phase⟩ ∧
      ∃ next, resume A s e.env id phase = some next ∧ State.put rid e.target next = t := by
  unfold step
  rw [haction]
  dsimp only
  cases hh : s.handlers rid with
  | none => simp only [reduceCtorEq, false_and, exists_false]
  | some h =>
      obtain ⟨target, phase⟩ := h
      by_cases htarget : target = some id
      · simp only [htarget, if_true, Option.map_eq_some_iff, Option.some.injEq, Handler.mk.injEq,
          true_and, exists_eq_left']
      · simp only [htarget, if_false, reduceCtorEq, Option.some.injEq, Handler.mk.injEq, false_and,
          exists_false]

theorem step_worker (haction : e.action = .worker id) :
    step A s e = some t ↔ s.nextJob = some id ∧ workerStep A s e.env = t := by
  unfold step
  rw [haction]
  by_cases hjob : s.nextJob = some id
  · simp [hjob]
  · simp [hjob]

theorem step_restart (haction : e.action = .restart) : step A s e = some t ↔ s.restart = t := by
  unfold step
  rw [haction]
  simp

end Step

/-! ## A small platform -/

/-- SQLite, a toolchain whose artifact is the source, and guests that trap. A body asks for
    the source `a` when it is the byte 1 and for `b` otherwise. -/
def Platform.small : Platform Bytes Unit where
  repo := sqlite (.stable _ _) (.stable _ _)
  toolchain := {
    setupTempCargoProject := fun _ => none
    runCargoBuild := fun _ => ("", false)
    readFile := fun sourceCode => .ok (utf8 sourceCode)
    readFileAgain := fun sourceCode => .ok (utf8 sourceCode) }
  json := {
    decode := fun body => some ⟨"plugin", if body.bytes = [1] then "a" else "b"⟩
    unmarshal := some }
  newModule := .ok
  guest := fun _ => ⟨(), fun store => (.error [], store)⟩

/-- An event in which nothing fails. -/
def Action.quietly (action : Action) (uuid : String) : Event := ⟨action, ⟨false, uuid, 0, .quiet⟩⟩

/-- The same with a failing repository call. -/
def Action.faulty (action : Action) (uuid : String) : Event := ⟨action, ⟨true, uuid, 0, .quiet⟩⟩

end PluginSandbox.Server
