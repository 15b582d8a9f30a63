/-
  The server on PostgreSQL.

  The handlers are the same as on SQLite and race in the same ways, but a step makes at most one
  call that writes (`step_writes`), and PostgreSQL refuses what does not conform. So no run leaves
  an execution without its plugin, and deletes are final, under any interleaving, failing calls
  and restarts (`foreign_key_keeps`).
-/
import PluginSandbox.Db.Constraints
import PluginSandbox.Server.Orphans

namespace PluginSandbox.Server

open PluginSandbox.Lib PluginSandbox.Db PluginSandbox.Sandbox PluginSandbox.Compiler

variable {M σ : Type} {A : Platform M σ} {s t : State M} {e : Event} {env : Env} {next : Next M}
  {plugins : OrderBy Plugin Plugin.createdAt} {executions : OrderBy Execution Execution.createdAt}

/-- The same server on PostgreSQL. -/
def Platform.onPostgres (A : Platform M σ) (plugins : OrderBy Plugin Plugin.createdAt)
    (executions : OrderBy Execution Execution.createdAt) : Platform M σ :=
  { A with repo := postgres plugins executions }

/-! ## What a step writes -/

/-- `next` was left by at most one call that writes. -/
def WritesOnce (A : Platform M σ) (s : State M) (next : Next M) : Prop :=
  Writes A.repo.toRepository s.db next.1.db

theorem writes_answer (response : Response) : WritesOnce A s (answer s response) := .nothing

theorem writes_handleCreatePlugin {body : Body}
    (h : handleCreatePlugin A s env body = some next) : WritesOnce A s next := by
  unfold handleCreatePlugin at h
  split at h
  · cases h
    exact writes_answer _
  · split at h
    · cases h
      exact writes_answer _
    · split at h
      · cases h
      · dsimp only at h
        split at h
        · cases h
          exact .nothing
        · next db hdb =>
            cases h
            exact .savePlugin _ _ (Env.call_ok_iff.mp hdb).2

theorem writes_handleUpdatePlugin (id : String) (body : Body) :
    WritesOnce A s (handleUpdatePlugin A s env id body) := by
  unfold handleUpdatePlugin
  split
  · exact writes_answer _
  · split
    · exact writes_answer _
    · split
      · exact writes_answer _
      · split
        · exact writes_answer _
        · exact .nothing

theorem writes_handleListPlugins : WritesOnce A s (handleListPlugins A s env) := by
  unfold handleListPlugins
  split <;> exact writes_answer _

theorem writes_handleGetPlugin (id : String) : WritesOnce A s (handleGetPlugin A s env id) := by
  unfold handleGetPlugin
  split
  · exact writes_answer _
  · split <;> exact writes_answer _

theorem writes_handleGetMetrics (id : String) : WritesOnce A s (handleGetMetrics A s env id) := by
  unfold handleGetMetrics
  split
  · exact writes_answer _
  · split <;> exact writes_answer _

theorem writes_handleExecutePlugin (id : String) (body : Body) :
    WritesOnce A s (handleExecutePlugin A s env id body) := by
  unfold handleExecutePlugin
  split
  · exact writes_answer _
  · split
    · exact writes_answer _
    · split
      · exact writes_answer _
      · exact .nothing

theorem writes_handleDeletePlugin (id : String) :
    WritesOnce A s (handleDeletePlugin A s env id) := by
  unfold handleDeletePlugin
  split
  · exact writes_answer _
  · split
    · exact writes_answer _
    · next db hdb => exact .deleteExecutions id db (Env.call_ok_iff.mp hdb).2

theorem writes_serve {req : Request} (h : serve A s env req = some next) :
    WritesOnce A s next := by
  cases req with
  | createPlugin body => exact writes_handleCreatePlugin h
  | updatePlugin id body =>
      cases h
      exact writes_handleUpdatePlugin id body
  | listPlugins =>
      cases h
      exact writes_handleListPlugins
  | getPlugin id =>
      cases h
      exact writes_handleGetPlugin id
  | executePlugin id body =>
      cases h
      exact writes_handleExecutePlugin id body
  | getMetrics id =>
      cases h
      exact writes_handleGetMetrics id
  | deletePlugin id =>
      cases h
      exact writes_handleDeletePlugin id

theorem writes_queueCompile {id : String} {phase : Phase M}
    (h : queueCompile s id phase = some next) : WritesOnce A s next := by
  unfold queueCompile at h
  split at h
  · cases h
    exact .nothing
  · cases h

theorem writes_updateWrite (id name sourceCode : String) :
    WritesOnce A s (updateWrite A s env id name sourceCode) := by
  unfold updateWrite
  split
  · exact writes_answer _
  · next db hdb => exact .updatePluginCode id name sourceCode db (Env.call_ok_iff.mp hdb).2

theorem writes_updateReread (id : String) : WritesOnce A s (updateReread A s env id) := by
  unfold updateReread
  split <;> exact writes_answer _

theorem writes_getModuleRead (plugin : Plugin) (input : Bytes) :
    WritesOnce A s (getModuleRead s plugin input) := by
  unfold getModuleRead
  split <;> exact .nothing

theorem writes_getModuleCompile (plugin : Plugin) (input : Bytes) :
    WritesOnce A s (getModuleCompile A s plugin input) := by
  unfold getModuleCompile
  split <;> exact .nothing

theorem writes_executeRun (plugin : Plugin) (input : Bytes) (loaded : Except Bytes (Option M)) :
    WritesOnce A s (executeRun A s env plugin input loaded) := by
  unfold executeRun
  split
  · exact writes_answer _
  · exact writes_answer _
  · exact .nothing

theorem writes_executeSave {plugin : Plugin} {res : ExecutionResult}
    (h : executeSave A s env plugin res = some next) : WritesOnce A s next := by
  unfold executeSave at h
  split at h
  · cases h
  · dsimp only at h
    split at h
    · cases h
      exact .nothing
    · next db hdb =>
        cases h
        exact .saveExecution _ db (Env.call_ok_iff.mp hdb).2

theorem writes_deleteRow (id : String) : WritesOnce A s (deleteRow A s env id) := by
  unfold deleteRow
  split
  · exact writes_answer _
  · next db hdb => exact .deletePluginRow id db (Env.call_ok_iff.mp hdb).2

theorem writes_resume {id : String} {phase : Phase M} (h : resume A s env id phase = some next) :
    WritesOnce A s next := by
  cases phase with
  | createQueueCompile plugin => exact writes_queueCompile h
  | updateQueueCompile => exact writes_queueCompile h
  | saveExecution plugin res => exact writes_executeSave h
  | encodeResult res =>
      cases h
      exact writes_answer _
  | updatePluginCode name sourceCode =>
      cases h
      exact writes_updateWrite id name sourceCode
  | updateGetPlugin =>
      cases h
      exact writes_updateReread id
  | getModule plugin input =>
      cases h
      exact writes_getModuleRead plugin input
  | compile plugin input =>
      cases h
      exact writes_getModuleCompile plugin input
  | getCompiled plugin input =>
      cases h
      exact .nothing
  | run plugin input loaded =>
      cases h
      exact writes_executeRun plugin input loaded
  | deletePluginRow =>
      cases h
      exact writes_deleteRow id
  | done response => cases h

theorem writes_workerStep : Writes A.repo.toRepository s.db (workerStep A s env).db := by
  unfold workerStep
  split
  · split <;> exact .nothing
  · split <;> exact .nothing
  · exact .nothing
  · split
    · exact .nothing
    · next db hdb => exact .updatePluginStatus _ _ _ _ db (Env.call_ok_iff.mp hdb).2

theorem step_writes (h : step A s e = some t) : Writes A.repo.toRepository s.db t.db := by
  cases haction : e.action with
  | request rid req =>
      obtain ⟨-, next, hserve, rfl⟩ := (step_request haction).mp h
      exact writes_serve hserve
  | advance rid id =>
      obtain ⟨phase, -, next, hresume, rfl⟩ := (step_advance haction).mp h
      exact writes_resume hresume
  | worker id =>
      obtain ⟨-, rfl⟩ := (step_worker haction).mp h
      exact writes_workerStep
  | restart =>
      cases (step_restart haction).mp h
      exact .nothing

/-! ## No orphans on PostgreSQL -/

theorem conforms_step (h : s.db.Conforms)
    (hstep : step (A.onPostgres plugins executions) s e = some t) : t.db.Conforms :=
  postgres_conforms h (step_writes hstep)

/-- On PostgreSQL, in every run every execution belongs to a plugin in every state, and deletes are
    final. -/
theorem foreign_key_keeps (A : Platform M σ) (plugins : OrderBy Plugin Plugin.createdAt)
    (executions : OrderBy Execution Execution.createdAt) (es : List Event) :
    Throughout (step (A.onPostgres plugins executions)) (State.start M) es NoOrphans ∧
      DeletesAreFinal (A.onPostgres plugins executions) es := by
  have hstep : ∀ s e t, s.db.Conforms → True →
      step (A.onPostgres plugins executions) s e = some t → t.db.Conforms :=
    fun s e t hs _ h => conforms_step hs h
  have hnone : Throughout (step (A.onPostgres plugins executions)) (State.start M) es
      NoOrphans := by
    intro pre post u _ hrun
    have hconforms : u.db.Conforms :=
      run_invariant hstep (fun _ _ => trivial) conforms_empty hrun
    exact hconforms.references
  exact ⟨hnone, deletesAreFinal_of_noOrphans hnone⟩

end PluginSandbox.Server
