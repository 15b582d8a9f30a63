/-
  What a handler can do in one step, in full: the inversion of `serve` and `resume`.

  `Transition` keeps what the shared state shows. Here every way through a handler is a case of its
  own, with what was checked on the way, the answer given and the place reached: `Opened` for
  the first step of a request, `Continued` for a later one. Facts about answers and about what
  a handler holds are derived from these two.
-/
import PluginSandbox.Server.Transition

namespace PluginSandbox.Server

open PluginSandbox.Lib PluginSandbox.Db PluginSandbox.Sandbox PluginSandbox.Compiler

variable {M σ : Type} {A : Platform M σ} {s : State M} {env : Env} {next : Next M}

/-! ## Requests -/

/-- The plugin that a request names in its path. -/
def Request.path : Request → Option String
  | .createPlugin _ => none
  | .listPlugins => none
  | .updatePlugin id _ => some id
  | .getPlugin id => some id
  | .executePlugin id _ => some id
  | .getMetrics id => some id
  | .deletePlugin id => some id

/-- The body of a request that is decoded as a plugin. -/
def Request.pluginBody : Request → Option Body
  | .createPlugin body => some body
  | .updatePlugin _ body => some body
  | _ => none

/-- The requests that look the plugin up and answer with 404 when that fails. -/
def Request.looksUp : Request → Bool
  | .updatePlugin _ _ => true
  | .getPlugin _ => true
  | .executePlugin _ _ => true
  | _ => false

/-- The text before the error of a failed repository call that is answered with 500. -/
def Request.failure : Request → List String
  | .createPlugin _ => ["Failed to save plugin: "]
  | .updatePlugin _ _ => ["Failed to update plugin: ", "Failed to retrieve updated plugin: "]
  | .listPlugins => ["Failed to list plugins: "]
  | .getPlugin _ => []
  | .executePlugin _ _ => []
  | .getMetrics _ => ["Failed to fetch metrics: "]
  | .deletePlugin _ => ["Failed to delete plugin: "]

/-- The plugin that a create request saves. -/
def newPlugin (env : Env) (content : PluginRequest) : Plugin where
  id := env.uuid
  name := content.name
  sourceCode := content.sourceCode
  compiledWasm := []
  version := 1
  status := "pending"
  compileErrors := ""
  createdAt := env.now

/-- A body that passes both checks. -/
structure Accepts (json : Json) (body : Body) (content : PluginRequest) : Prop where
  decoded : json.decode body = some content
  name : content.name ≠ ""
  sourceCode : content.sourceCode ≠ ""

theorem complete_eq_false_iff {content : PluginRequest} :
    content.complete = false ↔ content.name = "" ∨ content.sourceCode = "" := by
  unfold PluginRequest.complete
  simp only [Bool.and_eq_false_iff, bne_eq_false_iff_eq]

theorem accepts_of_complete {json : Json} {body : Body} {content : PluginRequest}
    (hdecoded : json.decode body = some content) (h : ¬ content.complete = false) :
    Accepts json body content := by
  rw [complete_eq_false_iff, not_or] at h
  exact ⟨hdecoded, h.1, h.2⟩

/-! ## The first step -/

inductive Opened (A : Platform M σ) (s : State M) (env : Env) : Request → Next M → Prop
  | missingID (req : Request) (hpath : req.path = some "") :
      Opened A s env req (answer s (.error 400 "Missing plugin ID parameter"))
  | notFound (req : Request) (hlooks : req.looksUp) (err : DbError) :
      Opened A s env req (answer s (.repositoryError 404 "Plugin not found: " err))
  | invalidBody (req : Request) (body : Body) (hbody : req.pluginBody = some body)
      (hdecode : A.json.decode body = none) :
      Opened A s env req (answer s (.error 400 "Invalid request body JSON"))
  | incomplete (req : Request) (body : Body) (content : PluginRequest)
      (hbody : req.pluginBody = some body) (hdecode : A.json.decode body = some content)
      (hcomplete : content.name = "" ∨ content.sourceCode = "") :
      Opened A s env req (answer s (.error 400 "Fields 'name' and 'source_code' are required"))
  | failed (req : Request) (message : String) (hmessage : message ∈ req.failure) (err : DbError)
      (issued : List String) :
      Opened A s env req (answer { s with issued } (.repositoryError 500 message err))
  | saved (body : Body) (content : PluginRequest) (haccepts : Accepts A.json body content)
      (hfresh : env.uuid ∉ s.issued) (plugins : Table Plugin Plugin.id)
      (hinsert : s.db.plugins.insert (newPlugin env content) = some plugins) :
      Opened A s env (.createPlugin body)
        ({ s with db := { s.db with plugins }, issued := env.uuid :: s.issued },
          .createQueueCompile (newPlugin env content))
  | accepted (id : String) (body : Body) (content : PluginRequest)
      (haccepts : Accepts A.json body content) :
      Opened A s env (.updatePlugin id body) (s, .updatePluginCode content.name content.sourceCode)
  | listed (plugins : Slice Plugin) (hread : A.repo.listPlugins s.db = .ok plugins) :
      Opened A s env .listPlugins (answer s (.plugins ((plugins.getD []).map encodePlugin)))
  | got (plugin : Plugin) (hrow : plugin ∈ s.db.plugins.rows) :
      Opened A s env (.getPlugin plugin.id) (answer s (.plugin 200 (encodePlugin plugin)))
  | metrics (id : String) (executions : Slice Execution)
      (hread : A.repo.getExecutions s.db id = .ok executions) :
      Opened A s env (.getMetrics id) (answer s (.executions executions))
  | notReady (body : Body) (plugin : Plugin) (hrow : plugin ∈ s.db.plugins.rows)
      (hstatus : plugin.status ≠ "compiled") :
      Opened A s env (.executePlugin plugin.id body) (answer s (.error 409
        ("Plugin is not ready for execution (status: " ++ plugin.status ++ ")")))
  | ready (body : Body) (plugin : Plugin) (hrow : plugin ∈ s.db.plugins.rows)
      (hstatus : plugin.status = "compiled") :
      Opened A s env (.executePlugin plugin.id body)
        (s, .getModule plugin (executeInput A.json body))
  | executionsDeleted (id : String) :
      Opened A s env (.deletePlugin id)
        ({ s with db := s.db.dropExecutions id }, .deletePluginRow)

theorem getPlugin_row {id : String} {plugin : Plugin}
    (h : env.call (A.repo.getPlugin s.db id) = .ok plugin) :
    plugin ∈ s.db.plugins.rows ∧ plugin.id = id :=
  Table.find?_some (A.repo.sound.getPlugin.mp (Env.call_ok_iff.mp h).2)

theorem handleCreatePlugin_opened {body : Body} (h : handleCreatePlugin A s env body = some next) :
    Opened A s env (.createPlugin body) next := by
  unfold handleCreatePlugin at h
  split at h
  · next hdecode =>
      cases h
      exact .invalidBody _ body rfl hdecode
  · next content hdecode =>
      split at h
      · next hincomplete =>
          cases h
          exact .incomplete _ body content rfl hdecode (complete_eq_false_iff.mp hincomplete)
      · next hcomplete =>
          split at h
          · cases h
          · next hfresh =>
              dsimp only at h
              split at h
              · next err herr =>
                  cases h
                  exact .failed _ _ List.mem_cons_self err _
              · next db hdb =>
                  cases h
                  obtain ⟨plugins, hinsert, rfl⟩ :=
                    A.repo.sound.savePlugin (Env.call_ok_iff.mp hdb).2
                  exact .saved body content (accepts_of_complete hdecode hcomplete) hfresh plugins
                    hinsert

theorem handleUpdatePlugin_opened {id : String} {body : Body} :
    Opened A s env (.updatePlugin id body) (handleUpdatePlugin A s env id body) := by
  unfold handleUpdatePlugin
  split
  · next hid =>
      subst hid
      exact .missingID _ rfl
  · split
    · next err herr => exact .notFound _ rfl err
    · split
      · next hdecode => exact .invalidBody _ body rfl hdecode
      · next content hdecode =>
          split
          · next hincomplete =>
              exact .incomplete _ body content rfl hdecode (complete_eq_false_iff.mp hincomplete)
          · next hcomplete =>
              exact .accepted id body content (accepts_of_complete hdecode hcomplete)

theorem handleListPlugins_opened : Opened A s env .listPlugins (handleListPlugins A s env) := by
  unfold handleListPlugins
  split
  · next err herr => exact .failed _ _ List.mem_cons_self err s.issued
  · next plugins hread => exact .listed plugins (Env.call_ok_iff.mp hread).2

theorem handleGetPlugin_opened {id : String} :
    Opened A s env (.getPlugin id) (handleGetPlugin A s env id) := by
  unfold handleGetPlugin
  split
  · next hid =>
      subst hid
      exact .missingID _ rfl
  · split
    · next err herr => exact .notFound _ rfl err
    · next plugin hread =>
        obtain ⟨hrow, rfl⟩ := getPlugin_row hread
        exact .got plugin hrow

theorem handleGetMetrics_opened {id : String} :
    Opened A s env (.getMetrics id) (handleGetMetrics A s env id) := by
  unfold handleGetMetrics
  split
  · next hid =>
      subst hid
      exact .missingID _ rfl
  · split
    · next err herr => exact .failed _ _ List.mem_cons_self err s.issued
    · next executions hread => exact .metrics id executions (Env.call_ok_iff.mp hread).2

theorem handleExecutePlugin_opened {id : String} {body : Body} :
    Opened A s env (.executePlugin id body) (handleExecutePlugin A s env id body) := by
  unfold handleExecutePlugin
  split
  · next hid =>
      subst hid
      exact .missingID _ rfl
  · split
    · next err herr => exact .notFound _ rfl err
    · next plugin hread =>
        obtain ⟨hrow, rfl⟩ := getPlugin_row hread
        split
        · next hstatus => exact .notReady body plugin hrow hstatus
        · next hstatus => exact .ready body plugin hrow (not_not.mp hstatus)

theorem handleDeletePlugin_opened {id : String} :
    Opened A s env (.deletePlugin id) (handleDeletePlugin A s env id) := by
  unfold handleDeletePlugin
  split
  · next hid =>
      subst hid
      exact .missingID _ rfl
  · split
    · next err herr => exact .failed _ _ List.mem_cons_self err s.issued
    · next db hdb =>
        obtain rfl := A.repo.sound.deleteExecutions (Env.call_ok_iff.mp hdb).2
        exact .executionsDeleted id

theorem serve_opened {req : Request} (h : serve A s env req = some next) :
    Opened A s env req next := by
  cases req with
  | createPlugin body => exact handleCreatePlugin_opened h
  | updatePlugin id body =>
      cases h
      exact handleUpdatePlugin_opened
  | listPlugins =>
      cases h
      exact handleListPlugins_opened
  | getPlugin id =>
      cases h
      exact handleGetPlugin_opened
  | executePlugin id body =>
      cases h
      exact handleExecutePlugin_opened
  | getMetrics id =>
      cases h
      exact handleGetMetrics_opened
  | deletePlugin id =>
      cases h
      exact handleDeletePlugin_opened

/-! ## The later steps -/

inductive Continued (A : Platform M σ) (s : State M) (env : Env) (id : String) :
    Phase M → Next M → Prop
  | createQueued (plugin : Plugin) (hroom : s.queue.length < queueSize) :
      Continued A s env id (.createQueueCompile plugin)
        ({ s with queue := s.queue ++ [plugin.id] }, .done (.plugin 201 (encodePlugin plugin)))
  | codeFailed (name sourceCode : String) (err : DbError) :
      Continued A s env id (.updatePluginCode name sourceCode)
        (answer s (.repositoryError 500 "Failed to update plugin: " err))
  | codeWritten (name sourceCode : String) :
      Continued A s env id (.updatePluginCode name sourceCode)
        ({ s with db := s.db.setCode id name sourceCode }, .updateQueueCompile)
  | updateQueued (hroom : s.queue.length < queueSize) :
      Continued A s env id .updateQueueCompile
        ({ s with queue := s.queue ++ [id] }, .updateGetPlugin)
  | rereadFailed (err : DbError) :
      Continued A s env id .updateGetPlugin
        (answer s (.repositoryError 500 "Failed to retrieve updated plugin: " err))
  | reread (plugin : Plugin) (hrow : plugin ∈ s.db.plugins.rows) (hid : plugin.id = id) :
      Continued A s env id .updateGetPlugin (answer s (.plugin 200 (encodePlugin plugin)))
  | hit (plugin : Plugin) (input : Bytes) (m : M) (hm : s.engine.modules plugin.id = some m) :
      Continued A s env id (.getModule plugin input) (s, .run plugin input (.ok (some m)))
  | miss (plugin : Plugin) (input : Bytes) (hm : s.engine.modules plugin.id = none) :
      Continued A s env id (.getModule plugin input) (s, .compile plugin input)
  | compiled (plugin : Plugin) (input : Bytes) (engine : Engine M)
      (hcompile : s.engine.compile A.newModule plugin.id plugin.compiledWasm = (.ok (), engine)) :
      Continued A s env id (.compile plugin input) ({ s with engine }, .getCompiled plugin input)
  | rejected (plugin : Plugin) (input : Bytes) (err : Bytes) (engine : Engine M)
      (hcompile : s.engine.compile A.newModule plugin.id plugin.compiledWasm =
        (.error err, engine)) :
      Continued A s env id (.compile plugin input)
        ({ s with engine }, .run plugin input (.error err))
  | fetched (plugin : Plugin) (input : Bytes) :
      Continued A s env id (.getCompiled plugin input)
        (s, .run plugin input (.ok (s.engine.modules plugin.id)))
  | panicked (plugin : Plugin) (input : Bytes) (loaded : Except Bytes (Option M)) (cause : Panic)
      (hrun : runLoaded env.host A.guest input loaded = .error cause) :
      Continued A s env id (.run plugin input loaded) (answer s .aborted)
  | engineFailed (plugin : Plugin) (input : Bytes) (loaded : Except Bytes (Option M)) (err : Bytes)
      (hrun : runLoaded env.host A.guest input loaded = .ok (.error err)) :
      Continued A s env id (.run plugin input loaded)
        (answer s (.engineError 500 "Internal sandbox execution engine error: " err))
  | ran (plugin : Plugin) (input : Bytes) (loaded : Except Bytes (Option M))
      (res : ExecutionResult)
      (hrun : runLoaded env.host A.guest input loaded = .ok (.ok res)) :
      Continued A s env id (.run plugin input loaded) (s, .saveExecution plugin res)
  | unsaved (plugin : Plugin) (res : ExecutionResult) (hfresh : env.uuid ∉ s.issued) (err : DbError)
      (hcall : env.call (A.repo.saveExecution s.db
        (executionOf env.uuid plugin.id env.now res)) = .error err) :
      Continued A s env id (.saveExecution plugin res)
        ({ s with issued := env.uuid :: s.issued }, .encodeResult res)
  | saved (plugin : Plugin) (res : ExecutionResult) (hfresh : env.uuid ∉ s.issued)
      (executions : Table Execution Execution.id)
      (hinsert : s.db.executions.insert (executionOf env.uuid plugin.id env.now res) =
        some executions) :
      Continued A s env id (.saveExecution plugin res)
        ({ s with db := { s.db with executions }, issued := env.uuid :: s.issued },
          .encodeResult res)
  | encoded (res : ExecutionResult) :
      Continued A s env id (.encodeResult res) (answer s (.executed (executeResponse res)))
  | deleteFailed (err : DbError) :
      Continued A s env id .deletePluginRow
        (answer s (.repositoryError 500 "Failed to delete plugin: " err))
  | deleted :
      Continued A s env id .deletePluginRow
        (answer { s with db := s.db.dropPlugin id } .noContent)

theorem queueCompile_some {id : String} {phase : Phase M}
    (h : queueCompile s id phase = some next) :
    s.queue.length < queueSize ∧ next = ({ s with queue := s.queue ++ [id] }, phase) := by
  unfold queueCompile at h
  split at h
  · next hroom =>
      cases h
      exact ⟨hroom, rfl⟩
  · cases h

theorem executeSave_continued {id : String} {plugin : Plugin} {res : ExecutionResult}
    (h : executeSave A s env plugin res = some next) :
    Continued A s env id (.saveExecution plugin res) next := by
  unfold executeSave at h
  split at h
  · cases h
  · next hfresh =>
      dsimp only at h
      split at h
      · next err hcall =>
          cases h
          exact .unsaved plugin res hfresh err hcall
      · next db hdb =>
          cases h
          obtain ⟨executions, hinsert, rfl⟩ := A.repo.sound.saveExecution (Env.call_ok_iff.mp hdb).2
          exact .saved plugin res hfresh executions hinsert

theorem resume_continued {id : String} {phase : Phase M} (h : resume A s env id phase = some next) :
    Continued A s env id phase next := by
  cases phase with
  | createQueueCompile plugin =>
      obtain ⟨hroom, rfl⟩ := queueCompile_some h
      exact .createQueued plugin hroom
  | updatePluginCode name sourceCode =>
      obtain rfl : updateWrite A s env id name sourceCode = next := Option.some.inj h
      unfold updateWrite
      split
      · next err herr => exact .codeFailed name sourceCode err
      · next db hdb =>
          obtain rfl := A.repo.sound.updatePluginCode (Env.call_ok_iff.mp hdb).2
          exact .codeWritten name sourceCode
  | updateQueueCompile =>
      obtain ⟨hroom, rfl⟩ := queueCompile_some h
      exact .updateQueued hroom
  | updateGetPlugin =>
      obtain rfl : updateReread A s env id = next := Option.some.inj h
      unfold updateReread
      split
      · next err herr => exact .rereadFailed err
      · next plugin hread =>
          obtain ⟨hrow, hid⟩ := getPlugin_row hread
          exact .reread plugin hrow hid
  | getModule plugin input =>
      obtain rfl : getModuleRead s plugin input = next := Option.some.inj h
      unfold getModuleRead
      split
      · next m hm => exact .hit plugin input m hm
      · next hm => exact .miss plugin input hm
  | compile plugin input =>
      obtain rfl : getModuleCompile A s plugin input = next := Option.some.inj h
      unfold getModuleCompile
      split
      · next err engine hcompile => exact .rejected plugin input err engine hcompile
      · next engine hcompile => exact .compiled plugin input engine hcompile
  | getCompiled plugin input =>
      cases h
      exact .fetched plugin input
  | run plugin input loaded =>
      obtain rfl : executeRun A s env plugin input loaded = next := Option.some.inj h
      unfold executeRun
      split
      · next cause hrun => exact .panicked plugin input loaded cause hrun
      · next err hrun => exact .engineFailed plugin input loaded err hrun
      · next res hrun => exact .ran plugin input loaded res hrun
  | saveExecution plugin res => exact executeSave_continued h
  | encodeResult res =>
      cases h
      exact .encoded res
  | deletePluginRow =>
      obtain rfl : deleteRow A s env id = next := Option.some.inj h
      unfold deleteRow
      split
      · next err herr => exact .deleteFailed err
      · next db hdb =>
          obtain rfl := A.repo.sound.deletePluginRow (Env.call_ok_iff.mp hdb).2
          exact .deleted
  | done response => cases h

/-! ## The worker -/

/-- What the worker leaves alone. -/
structure WorkerFrame (s t : State M) : Prop where
  engine : t.engine = s.engine
  handlers : t.handlers = s.handlers
  issued : t.issued = s.issued
  executions : t.db.executions = s.db.executions

theorem workerStep_frame (A : Platform M σ) (s : State M) (env : Env) :
    WorkerFrame s (workerStep A s env) := by
  unfold workerStep
  split
  · split <;> exact ⟨rfl, rfl, rfl, rfl⟩
  · split <;> exact ⟨rfl, rfl, rfl, rfl⟩
  · exact ⟨rfl, rfl, rfl, rfl⟩
  · split
    · exact ⟨rfl, rfl, rfl, rfl⟩
    · next db hdb =>
        obtain rfl := A.repo.sound.updatePluginStatus (Env.call_ok_iff.mp hdb).2
        exact ⟨rfl, rfl, rfl, rfl⟩

end PluginSandbox.Server
