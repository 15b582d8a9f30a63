/-
  The server on Mongo against the server on SQLite.

  Both run the same events. A BSON date keeps less of an instant than SQLite does (`keep`: it
  has whole milliseconds). Instants are only stored and shown, so the Mongo server is given the
  clock as its dates keep it (`Event.stored`); only the answer to a create request, which is not
  compared, shows the clock itself.

  Step by step the two servers stay in `Sim`: the same rows up to `keep`, and the same queue,
  worker, cache and handlers. The answers to a read are the same exactly when the read is
  `Shown`: what it shows has instants that are kept, and a metrics request finds an execution.
  Without one SQLite answers `null` and Mongo `[]`; `handleListPlugins` replaces a nil slice,
  `handleGetMetrics` does not.
-/
import PluginSandbox.Db.Agreement
import PluginSandbox.Server.Progress

namespace PluginSandbox.Server

open PluginSandbox.Lib PluginSandbox.Db PluginSandbox.Sandbox PluginSandbox.Compiler

/-! ## The clock and the calls -/

section Stored

variable (keep : Int → Int)

/-- The environment of a step, with the clock as the columns keep it. -/
def Env.stored (env : Env) : Env := { env with now := keep env.now }

def Event.stored (e : Event) : Event := { e with env := e.env.stored keep }

theorem target_stored (e : Event) : (e.stored keep).target = e.target := rfl

/-- Each call of `R'` on stored rows does what the call of `R` does. -/
structure Mirrors (R R' : Repository) : Prop where
  savePlugin : ∀ db p, R'.savePlugin (storedDatabase keep db) (storedPlugin keep p) =
    (R.savePlugin db p).map (storedDatabase keep)
  getPlugin : ∀ db id, R'.getPlugin (storedDatabase keep db) id =
    (R.getPlugin db id).map (storedPlugin keep)
  updatePluginStatus : ∀ db id status wasm errors,
    R'.updatePluginStatus (storedDatabase keep db) id status wasm errors =
      (R.updatePluginStatus db id status wasm errors).map (storedDatabase keep)
  updatePluginCode : ∀ db id name sourceCode,
    R'.updatePluginCode (storedDatabase keep db) id name sourceCode =
      (R.updatePluginCode db id name sourceCode).map (storedDatabase keep)
  saveExecution : ∀ db x, R'.saveExecution (storedDatabase keep db) (storedExecution keep x) =
    (R.saveExecution db x).map (storedDatabase keep)
  deleteExecutions : ∀ db id, R'.deleteExecutions (storedDatabase keep db) id =
    (R.deleteExecutions db id).map (storedDatabase keep)
  deletePluginRow : ∀ db id, R'.deletePluginRow (storedDatabase keep db) id =
    (R.deletePluginRow db id).map (storedDatabase keep)

/-- A call that mirrors another fails with it or follows it. -/
theorem call_stored {α β : Type} (env : Env) {f : α → β} {r : Except DbError α}
    {r' : Except DbError β} (h : r' = r.map f) :
    (∃ err, env.call r = .error err ∧ (env.stored keep).call r' = .error err) ∨
      ∃ a, env.call r = .ok a ∧ (env.stored keep).call r' = .ok (f a) := by
  have hfails : (env.stored keep).repoFails = env.repoFails := rfl
  subst h
  unfold Env.call
  rw [hfails]
  cases env.repoFails with
  | true => exact .inl ⟨_, rfl, rfl⟩
  | false =>
      cases r with
      | error err => exact .inl ⟨err, rfl, rfl⟩
      | ok a => exact .inr ⟨a, rfl, rfl⟩

variable {keep}

/-- Mongo runs the calls of SQLite, on the stored rows. -/
theorem mongo_mirrors_sqlite (plugins plugins' : OrderBy Plugin Plugin.createdAt)
    (executions executions' : OrderBy Execution Execution.createdAt) :
    Mirrors keep (SQLiteRepository.repository plugins executions)
      (MongoRepository.repository plugins' executions') where
  savePlugin := stored_savePlugin
  getPlugin := stored_getPlugin
  updatePluginStatus := stored_updatePluginStatus
  updatePluginCode := stored_updatePluginCode
  saveExecution := stored_saveExecution
  deleteExecutions := stored_deleteExecutions
  deletePluginRow := stored_deletePluginRow

end Stored

/-! ## Two servers -/

section Sim

variable {M σ : Type} (keep : Int → Int)

def Phase.stored : Phase M → Phase M
  | .createQueueCompile plugin => .createQueueCompile (storedPlugin keep plugin)
  | .updatePluginCode name sourceCode => .updatePluginCode name sourceCode
  | .updateQueueCompile => .updateQueueCompile
  | .updateGetPlugin => .updateGetPlugin
  | .getModule plugin input => .getModule (storedPlugin keep plugin) input
  | .compile plugin input => .compile (storedPlugin keep plugin) input
  | .getCompiled plugin input => .getCompiled (storedPlugin keep plugin) input
  | .run plugin input loaded => .run (storedPlugin keep plugin) input loaded
  | .saveExecution plugin result => .saveExecution (storedPlugin keep plugin) result
  | .encodeResult result => .encodeResult result
  | .deletePluginRow => .deletePluginRow
  | .done response => .done response

/-- The same phase, or both have answered. -/
inductive PhaseSim : Phase M → Phase M → Prop where
  | same (phase : Phase M) : PhaseSim phase (phase.stored keep)
  | done (response response' : Response) : PhaseSim (.done response) (.done response')

def HandlerSim (h h' : Handler M) : Prop := h'.target = h.target ∧ PhaseSim keep h.phase h'.phase

structure Sim (s t : State M) : Prop where
  db : t.db = storedDatabase keep s.db
  queue : t.queue = s.queue
  worker : t.worker = s.worker
  engine : t.engine = s.engine
  issued : t.issued = s.issued
  handlers : ∀ rid, Option.Rel (HandlerSim keep) (s.handlers rid) (t.handlers rid)

structure NextSim (next next' : Next M) : Prop where
  state : Sim keep next.1 next'.1
  phase : PhaseSim keep next.2 next'.2

variable {keep} {s t : State M}

theorem sim_start : Sim keep (State.start M) (State.start M) where
  db := rfl
  queue := rfl
  worker := rfl
  engine := rfl
  issued := rfl
  handlers _ := .none

theorem sim_put {rid : Nat} {target : Option String} {next next' : Next M}
    (h : NextSim keep next next') :
    Sim keep (State.put rid target next) (State.put rid target next') where
  db := h.state.db
  queue := h.state.queue
  worker := h.state.worker
  engine := h.state.engine
  issued := h.state.issued
  handlers k := by
    rw [handlers_put, handlers_put]
    split
    · exact .some ⟨rfl, h.phase⟩
    · exact h.state.handlers k

theorem sim_db (h : Sim keep s t) (db : Database) :
    Sim keep { s with db } { t with db := storedDatabase keep db } :=
  ⟨rfl, h.queue, h.worker, h.engine, h.issued, h.handlers⟩

theorem sim_issued (h : Sim keep s t) (id : String) :
    Sim keep { s with issued := id :: s.issued } { t with issued := id :: t.issued } :=
  ⟨h.db, h.queue, h.worker, h.engine, congrArg (id :: ·) h.issued, h.handlers⟩

theorem abort_sim {h h' : Handler M} (hsim : HandlerSim keep h h') :
    HandlerSim keep h.abort h'.abort := by
  obtain ⟨target, phase⟩ := h
  obtain ⟨target', phase'⟩ := h'
  obtain ⟨htarget, hphase⟩ := hsim
  cases hphase with
  | same => cases phase <;> exact ⟨htarget, .done _ _⟩
  | done response response' => exact ⟨htarget, .done _ _⟩

theorem sim_restart (h : Sim keep s t) : Sim keep s.restart t.restart where
  db := h.db
  queue := rfl
  worker := rfl
  engine := rfl
  issued := h.issued
  handlers rid := rel_map abort_sim (h.handlers rid)

end Sim

/-! ## Steps -/

/-- The same server on another backend. -/
def Platform.on {M σ : Type} (A : Platform M σ) (repo : LawfulRepository) : Platform M σ :=
  { A with repo }

section Steps

variable {M σ : Type} {keep : Int → Int} {A : Platform M σ} {R : LawfulRepository}
  (hmirror : Mirrors keep A.repo.toRepository R.toRepository) {s t : State M}
  (h : Sim keep s t) (env : Env)

section

include h

theorem answer_sim (response response' : Response) :
    NextSim keep (answer s response) (answer t response') :=
  ⟨h, .done response response'⟩

theorem next_sim (phase : Phase M) : NextSim keep (s, phase) (t, phase.stored keep) :=
  ⟨h, .same phase⟩

theorem queueCompile_sim (id : String) {next next' : Phase M} (hphase : PhaseSim keep next next') :
    Option.Rel (NextSim keep) (queueCompile s id next) (queueCompile t id next') := by
  unfold queueCompile
  rw [h.queue]
  split
  · exact .some ⟨⟨h.db, rfl, h.worker, h.engine, h.issued, h.handlers⟩, hphase⟩
  · exact .none

theorem handleListPlugins_sim :
    NextSim keep (handleListPlugins A s env) (handleListPlugins (A.on R) t (env.stored keep)) := by
  unfold handleListPlugins
  split <;> split <;> exact answer_sim h _ _

theorem handleGetPlugin_sim (id : String) :
    NextSim keep (handleGetPlugin A s env id)
      (handleGetPlugin (A.on R) t (env.stored keep) id) := by
  unfold handleGetPlugin
  split
  · exact answer_sim h _ _
  · split <;> split <;> exact answer_sim h _ _

theorem handleGetMetrics_sim (id : String) :
    NextSim keep (handleGetMetrics A s env id)
      (handleGetMetrics (A.on R) t (env.stored keep) id) := by
  unfold handleGetMetrics
  split
  · exact answer_sim h _ _
  · split <;> split <;> exact answer_sim h _ _

theorem updateReread_sim (id : String) :
    NextSim keep (updateReread A s env id) (updateReread (A.on R) t (env.stored keep) id) := by
  unfold updateReread
  split <;> split <;> exact answer_sim h _ _

theorem getModuleRead_sim (plugin : Plugin) (input : Bytes) :
    NextSim keep (getModuleRead s plugin input)
      (getModuleRead t (storedPlugin keep plugin) input) := by
  have hid : (storedPlugin keep plugin).id = plugin.id := rfl
  unfold getModuleRead
  rw [hid, h.engine]
  cases s.engine.modules plugin.id with
  | some m => exact next_sim h (.run plugin input (.ok (some m)))
  | none => exact next_sim h (.compile plugin input)

theorem getModuleCompile_sim (plugin : Plugin) (input : Bytes) :
    NextSim keep (getModuleCompile A s plugin input)
      (getModuleCompile (A.on R) t (storedPlugin keep plugin) input) := by
  have hmodule : (A.on R).newModule = A.newModule := rfl
  have hid : (storedPlugin keep plugin).id = plugin.id := rfl
  have hwasm : (storedPlugin keep plugin).compiledWasm = plugin.compiledWasm := rfl
  have hstate : ∀ engine, Sim keep { s with engine } { t with engine } :=
    fun engine => ⟨h.db, h.queue, h.worker, rfl, h.issued, h.handlers⟩
  unfold getModuleCompile
  rw [hmodule, hid, hwasm, h.engine]
  split
  · exact next_sim (hstate _) (.run plugin input _)
  · exact next_sim (hstate _) (.getCompiled plugin input)

theorem executeRun_sim (plugin : Plugin) (input : Bytes) (loaded : Except Bytes (Option M)) :
    NextSim keep (executeRun A s env plugin input loaded)
      (executeRun (A.on R) t (env.stored keep) (storedPlugin keep plugin) input loaded) := by
  have hguest : (A.on R).guest = A.guest := rfl
  have hhost : (env.stored keep).host = env.host := rfl
  unfold executeRun
  rw [hguest, hhost]
  split
  · exact answer_sim h _ _
  · exact answer_sim h _ _
  · exact next_sim h (.saveExecution plugin _)

end

include hmirror h

theorem handleCreatePlugin_sim (body : Body) :
    Option.Rel (NextSim keep) (handleCreatePlugin A s env body)
      (handleCreatePlugin (A.on R) t (env.stored keep) body) := by
  have hjson : (A.on R).json = A.json := rfl
  have hrepo : (A.on R).repo = R := rfl
  have huuid : (env.stored keep).uuid = env.uuid := rfl
  have hnow : (env.stored keep).now = keep env.now := rfl
  unfold handleCreatePlugin
  rw [hjson, huuid, hnow, h.issued, h.db, hrepo]
  cases A.json.decode body with
  | none => exact .some (answer_sim h _ _)
  | some req =>
      dsimp only
      split
      · exact .some (answer_sim h _ _)
      · split
        · exact .none
        · have hsave := hmirror.savePlugin s.db {
            id := env.uuid, name := req.name, sourceCode := req.sourceCode, compiledWasm := []
            version := 1, status := "pending", compileErrors := "", createdAt := env.now }
          unfold storedPlugin at hsave
          have hissued := sim_issued h env.uuid
          rw [h.issued] at hissued
          rcases call_stored keep env hsave with ⟨err, hs, ht⟩ | ⟨db, hs, ht⟩
          · rw [hs, ht]
            rw [← h.db]
            exact .some (answer_sim hissued _ _)
          · rw [hs, ht]
            exact .some ⟨sim_db hissued db, .same (.createQueueCompile _)⟩

theorem handleUpdatePlugin_sim (id : String) (body : Body) :
    NextSim keep (handleUpdatePlugin A s env id body)
      (handleUpdatePlugin (A.on R) t (env.stored keep) id body) := by
  have hjson : (A.on R).json = A.json := rfl
  have hrepo : (A.on R).repo = R := rfl
  unfold handleUpdatePlugin
  rw [hjson, hrepo, h.db]
  split
  · exact answer_sim h _ _
  · rcases call_stored keep env (hmirror.getPlugin s.db id) with ⟨err, hs, ht⟩ | ⟨p, hs, ht⟩
    · rw [hs, ht]
      exact answer_sim h _ _
    · rw [hs, ht]
      dsimp only
      cases A.json.decode body with
      | none => exact answer_sim h _ _
      | some req =>
          dsimp only
          split
          · exact answer_sim h _ _
          · exact next_sim h (.updatePluginCode req.name req.sourceCode)

theorem handleExecutePlugin_sim (id : String) (body : Body) :
    NextSim keep (handleExecutePlugin A s env id body)
      (handleExecutePlugin (A.on R) t (env.stored keep) id body) := by
  have hjson : (A.on R).json = A.json := rfl
  have hrepo : (A.on R).repo = R := rfl
  unfold handleExecutePlugin
  rw [hjson, hrepo, h.db]
  split
  · exact answer_sim h _ _
  · rcases call_stored keep env (hmirror.getPlugin s.db id) with ⟨err, hs, ht⟩ | ⟨p, hs, ht⟩
    · rw [hs, ht]
      exact answer_sim h _ _
    · rw [hs, ht]
      dsimp only
      have hstatus : (storedPlugin keep p).status = p.status := rfl
      rw [hstatus]
      split
      · exact answer_sim h _ _
      · exact next_sim h (.getModule p _)

theorem handleDeletePlugin_sim (id : String) :
    NextSim keep (handleDeletePlugin A s env id)
      (handleDeletePlugin (A.on R) t (env.stored keep) id) := by
  have hrepo : (A.on R).repo = R := rfl
  unfold handleDeletePlugin
  rw [hrepo, h.db]
  split
  · exact answer_sim h _ _
  · rcases call_stored keep env (hmirror.deleteExecutions s.db id) with
      ⟨err, hs, ht⟩ | ⟨db, hs, ht⟩
    · rw [hs, ht]
      exact answer_sim h _ _
    · rw [hs, ht]
      exact ⟨sim_db h db, .same .deletePluginRow⟩

theorem serve_sim (req : Request) :
    Option.Rel (NextSim keep) (serve A s env req) (serve (A.on R) t (env.stored keep) req) := by
  cases req with
  | createPlugin body => exact handleCreatePlugin_sim hmirror h env body
  | updatePlugin id body => exact .some (handleUpdatePlugin_sim hmirror h env id body)
  | listPlugins => exact .some (handleListPlugins_sim h env)
  | getPlugin id => exact .some (handleGetPlugin_sim h env id)
  | executePlugin id body => exact .some (handleExecutePlugin_sim hmirror h env id body)
  | getMetrics id => exact .some (handleGetMetrics_sim h env id)
  | deletePlugin id => exact .some (handleDeletePlugin_sim hmirror h env id)

theorem updateWrite_sim (id name sourceCode : String) :
    NextSim keep (updateWrite A s env id name sourceCode)
      (updateWrite (A.on R) t (env.stored keep) id name sourceCode) := by
  have hrepo : (A.on R).repo = R := rfl
  unfold updateWrite
  rw [hrepo, h.db]
  rcases call_stored keep env (hmirror.updatePluginCode s.db id name sourceCode) with
    ⟨err, hs, ht⟩ | ⟨db, hs, ht⟩
  · rw [hs, ht]
    exact answer_sim h _ _
  · rw [hs, ht]
    exact ⟨sim_db h db, .same .updateQueueCompile⟩

theorem executeSave_sim (plugin : Plugin) (result : ExecutionResult) :
    Option.Rel (NextSim keep) (executeSave A s env plugin result)
      (executeSave (A.on R) t (env.stored keep) (storedPlugin keep plugin) result) := by
  have hrepo : (A.on R).repo = R := rfl
  have huuid : (env.stored keep).uuid = env.uuid := rfl
  have hrow : executionOf env.uuid (storedPlugin keep plugin).id (env.stored keep).now result =
      storedExecution keep (executionOf env.uuid plugin.id env.now result) := rfl
  have hissued := sim_issued h env.uuid
  unfold executeSave
  rw [hrepo, huuid, hrow, h.issued, h.db]
  rw [h.issued] at hissued
  split
  · exact .none
  · dsimp only
    rcases call_stored keep env (hmirror.saveExecution s.db
      (executionOf env.uuid plugin.id env.now result)) with ⟨err, hs, ht⟩ | ⟨db, hs, ht⟩
    · rw [hs, ht, ← h.db]
      exact .some (next_sim hissued (.encodeResult result))
    · rw [hs, ht]
      exact .some (next_sim (sim_db hissued db) (.encodeResult result))

theorem deleteRow_sim (id : String) :
    NextSim keep (deleteRow A s env id) (deleteRow (A.on R) t (env.stored keep) id) := by
  have hrepo : (A.on R).repo = R := rfl
  unfold deleteRow
  rw [hrepo, h.db]
  rcases call_stored keep env (hmirror.deletePluginRow s.db id) with ⟨err, hs, ht⟩ | ⟨db, hs, ht⟩
  · rw [hs, ht]
    exact answer_sim h _ _
  · rw [hs, ht]
    exact answer_sim (sim_db h db) _ _

theorem resume_sim (id : String) {phase phase' : Phase M} (hphase : PhaseSim keep phase phase') :
    Option.Rel (NextSim keep) (resume A s env id phase)
      (resume (A.on R) t (env.stored keep) id phase') := by
  cases hphase with
  | done response response' => exact .none
  | same =>
      cases phase with
      | createQueueCompile plugin => exact queueCompile_sim h plugin.id (.done _ _)
      | updatePluginCode name sourceCode =>
          exact .some (updateWrite_sim hmirror h env id name sourceCode)
      | updateQueueCompile => exact queueCompile_sim h id (.same .updateGetPlugin)
      | updateGetPlugin => exact .some (updateReread_sim h env id)
      | getModule plugin input => exact .some (getModuleRead_sim h plugin input)
      | compile plugin input => exact .some (getModuleCompile_sim h plugin input)
      | getCompiled plugin input =>
          have hmodules : t.engine.modules (storedPlugin keep plugin).id =
              s.engine.modules plugin.id := by
            rw [h.engine]
            rfl
          refine .some ⟨h, ?_⟩
          rw [hmodules]
          exact .same (.run plugin input _)
      | run plugin input loaded => exact .some (executeRun_sim h env plugin input loaded)
      | saveExecution plugin result => exact executeSave_sim hmirror h env plugin result
      | encodeResult result => exact .some (answer_sim h _ _)
      | deletePluginRow => exact .some (deleteRow_sim hmirror h env id)
      | done response => exact .none

theorem workerStep_sim :
    Sim keep (workerStep A s env) (workerStep (A.on R) t (env.stored keep)) := by
  have hrepo : (A.on R).repo = R := rfl
  have htoolchain : (A.on R).toolchain = A.toolchain := rfl
  have hworker : ∀ worker, Sim keep { s with worker } { t with queue := s.queue, worker } :=
    fun worker => ⟨h.db, rfl, rfl, h.engine, h.issued, h.handlers⟩
  unfold workerStep
  rw [hrepo, htoolchain, h.worker, h.queue]
  cases s.worker with
  | idle =>
      cases s.queue with
      | nil => exact h
      | cons id queue => exact ⟨h.db, rfl, rfl, h.engine, h.issued, h.handlers⟩
  | received id =>
      dsimp only
      have hread := hmirror.getPlugin s.db id
      rw [← h.db] at hread
      rcases call_stored keep env hread with ⟨err, hs, ht⟩ | ⟨p, hs, ht⟩
      · rw [hs, ht]
        exact hworker .idle
      · rw [hs, ht]
        exact hworker (.building id p.sourceCode)
  | building id sourceCode => exact hworker (.writing id sourceCode (A.toolchain.build sourceCode))
  | writing id sourceCode build =>
      dsimp only
      have hwrite := hmirror.updatePluginStatus s.db id build.status build.compiledWasm
        build.compileErrors
      rw [← h.db] at hwrite
      rcases call_stored keep env hwrite with ⟨err, hs, ht⟩ | ⟨db, hs, ht⟩
      · rw [hs, ht]
        exact hworker .idle
      · rw [hs, ht]
        exact ⟨rfl, rfl, rfl, h.engine, h.issued, h.handlers⟩

omit env in
/-- The servers step together. -/
theorem step_sim (e : Event) :
    Option.Rel (Sim keep) (step A s e) (step (A.on R) t (e.stored keep)) := by
  have haction : (e.stored keep).action = e.action := rfl
  have henv : (e.stored keep).env = e.env.stored keep := rfl
  unfold step
  rw [haction, henv, target_stored]
  cases e.action with
  | request rid req =>
      dsimp only
      rcases rel_cases (h.handlers rid) with ⟨hs, ht⟩ | ⟨h₀, h', hs, ht, -⟩
      · rw [hs, ht]
        exact rel_map sim_put (serve_sim hmirror h e.env req)
      · rw [hs, ht]
        exact .none
  | advance rid id =>
      dsimp only
      rcases rel_cases (h.handlers rid) with ⟨hs, ht⟩ | ⟨h₀, h', hs, ht, htarget, hphase⟩
      · rw [hs, ht]
        exact .none
      · rw [hs, ht]
        dsimp only
        rw [htarget]
        split
        · exact rel_map sim_put (resume_sim hmirror h e.env id hphase)
        · exact .none
  | worker id =>
      have hjob : t.nextJob = s.nextJob := by
        unfold State.nextJob
        rw [h.worker, h.queue]
      dsimp only
      rw [hjob]
      split
      · exact .some (workerStep_sim hmirror h e.env)
      · exact .none
  | restart => exact .some (sim_restart h)

end Steps

/-! ## Answers to reads -/

/-- The requests that only show what is stored. -/
def Request.reads : Request → Bool
  | .listPlugins | .getPlugin _ | .getMetrics _ => true
  | _ => false

/-- The same HTTP status and the same JSON body, lists up to the order of equal `created_at`. -/
def Response.SameJson : Response → Response → Prop
  | .plugins ps, .plugins qs => SameUpToTies Plugin.createdAt ps qs
  | .executions xs, .executions ys => Slice.Same Execution.createdAt xs ys
  | r, r' => r = r'

/-- The answer to a request, once it is there. -/
def State.answered {M : Type} (s : State M) (rid : Nat) : Option Response :=
  (s.handlers rid).bind fun h =>
    match h.phase with
    | .done response => some response
    | _ => none

/-- Every read in the events is answered by the two servers with the same status and JSON. -/
def SameAnswers {M σ : Type} (A B : Platform M σ) (keep : Int → Int) (es : List Event) : Prop :=
  ∀ pre rid req env post s t, es = pre ++ ⟨.request rid req, env⟩ :: post → req.reads = true →
    run (step A) (State.start M) (pre ++ [⟨.request rid req, env⟩]) = some s →
    run (step B) (State.start M) ((pre ++ [⟨.request rid req, env⟩]).map (Event.stored keep)) =
      some t →
    ∃ r r', s.answered rid = some r ∧ t.answered rid = some r' ∧ r.SameJson r'

/-- A read shows instants that Mongo keeps, and a metrics request finds an execution. -/
def Shown {M : Type} (keep : Int → Int) (s : State M) (e : Event) : Prop :=
  match e.action with
  | .request _ .listPlugins => ∀ p ∈ s.db.plugins.rows, keep p.createdAt = p.createdAt
  | .request _ (.getPlugin id) =>
    id ≠ "" → ∀ p, s.db.plugins.find? id = some p → keep p.createdAt = p.createdAt
  | .request _ (.getMetrics id) =>
    id ≠ "" → s.db.executions.select (fun x => x.pluginID == id) ≠ [] ∧
      ∀ x ∈ s.db.executions.select fun x => x.pluginID == id, keep x.createdAt = x.createdAt
  | _ => True

section Reads

variable {M σ : Type} {keep : Int → Int} {A : Platform M σ}
  {plugins plugins' : OrderBy Plugin Plugin.createdAt}
  {executions executions' : OrderBy Execution Execution.createdAt} {s t : State M} {env : Env}

theorem id_encodePlugin (p : Plugin) : (encodePlugin p).id = p.id := rfl

theorem encodePlugin_shows (p : Plugin) (h : encodePlugin (storedPlugin keep p) = encodePlugin p) :
    storedPlugin keep p = p :=
  (storedPlugin_eq_iff p).mpr (congrArg Plugin.createdAt h)

/-- Only SQLite answers nil where there is no execution. -/
theorem ofRows_same_iff (order order' : OrderBy Execution Execution.createdAt)
    {l : List Execution} (hl : (l.map Execution.id).Nodup) :
    Slice.Same Execution.createdAt (Slice.ofRows (order.sort l))
        (some (order'.sort (l.map (storedExecution keep)))) ↔
      l ≠ [] ∧ ∀ x ∈ l, keep x.createdAt = x.createdAt := by
  rw [← sameExecutions_iff order order' hl]
  unfold Slice.ofRows
  cases hsort : order.sort l with
  | nil =>
      have hnil : l = [] := List.nil_perm.mp (hsort ▸ order.perm l)
      exact iff_of_false id fun h => h.1 hnil
  | cons x rest =>
      have hne : l ≠ [] := by
        rintro rfl
        have hperm := order.perm []
        rw [hsort] at hperm
        exact absurd hperm.length_eq (by simp)
      exact ⟨fun h => ⟨hne, h⟩, fun h => h.2⟩

/-- Two handlers answer at once, with the same JSON exactly when `shown` holds. -/
def AnswersAlike (s t : State M) (next next' : Next M) (shown : Prop) : Prop :=
  ∃ r r', next = answer s r ∧ next' = answer t r' ∧ (r.SameJson r' ↔ shown)

variable (h : Sim keep s t) (henv : env.repoFails = false)
include h henv

theorem listPlugins_alike :
    AnswersAlike s t (handleListPlugins (A.on (sqlite plugins executions)) s env)
      (handleListPlugins (A.on (mongo plugins' executions')) t (env.stored keep))
      (∀ p ∈ s.db.plugins.rows, keep p.createdAt = p.createdAt) := by
  have hkept : (env.stored keep).repoFails = false := henv
  have hsqlite : (A.on (sqlite plugins executions)).repo.listPlugins s.db =
      .ok (Slice.ofRows ((plugins.sort s.db.plugins.rows).map encodePlugin)) :=
    scanRows_none_ofList _
  have hmongo : (A.on (mongo plugins' executions')).repo.listPlugins t.db =
      .ok (some (plugins'.sort (s.db.plugins.rows.map (storedPlugin keep)))) := by
    rw [h.db]
    rfl
  unfold handleListPlugins
  rw [Env.call_eq henv, Env.call_eq hkept, hsqlite, hmongo]
  refine ⟨_, _, rfl, rfl, ?_⟩
  have htwice : encodePlugin ∘ encodePlugin = encodePlugin := rfl
  have hsame := sameUpToTies_map_iff (id_storedPlugin keep) id_encodePlugin (fun _ => rfl)
    encodePlugin_shows plugins plugins' s.db.plugins.nodup
  simp only [storedPlugin_eq_iff] at hsame
  rw [getD_ofRows, List.map_map, htwice]
  exact hsame

theorem getPlugin_alike (id : String) :
    AnswersAlike s t (handleGetPlugin (A.on (sqlite plugins executions)) s env id)
      (handleGetPlugin (A.on (mongo plugins' executions')) t (env.stored keep) id)
      (id ≠ "" → ∀ p, s.db.plugins.find? id = some p → keep p.createdAt = p.createdAt) := by
  have hkept : (env.stored keep).repoFails = false := henv
  have hsqlite : (A.on (sqlite plugins executions)).repo.getPlugin s.db id =
      SQLiteRepository.getPlugin s.db id := rfl
  have hmongo : (A.on (mongo plugins' executions')).repo.getPlugin t.db id =
      (SQLiteRepository.getPlugin s.db id).map (storedPlugin keep) := by
    rw [h.db]
    exact stored_getPlugin s.db id
  unfold handleGetPlugin
  by_cases hid : id = ""
  · rw [if_pos hid, if_pos hid]
    exact ⟨_, _, rfl, rfl, iff_of_true rfl fun hne => absurd hid hne⟩
  · rw [if_neg hid, if_neg hid, Env.call_eq henv, Env.call_eq hkept, hsqlite, hmongo]
    unfold SQLiteRepository.getPlugin
    cases s.db.plugins.find? id with
    | none => exact ⟨_, _, rfl, rfl, iff_of_true rfl nofun⟩
    | some p =>
        refine ⟨_, _, rfl, rfl, ?_⟩
        constructor
        · intro hsame hne q hq
          cases hq
          injection hsame with hcode hplugin
          exact (congrArg Plugin.createdAt hplugin).symm
        · intro hshown
          have hstored := (storedPlugin_eq_iff p).mpr (hshown hid p rfl)
          show Response.plugin 200 _ = Response.plugin 200 _
          rw [hstored]

theorem getMetrics_alike (id : String) :
    AnswersAlike s t (handleGetMetrics (A.on (sqlite plugins executions)) s env id)
      (handleGetMetrics (A.on (mongo plugins' executions')) t (env.stored keep) id)
      (id ≠ "" → s.db.executions.select (fun x => x.pluginID == id) ≠ [] ∧
        ∀ x ∈ s.db.executions.select fun x => x.pluginID == id,
          keep x.createdAt = x.createdAt) := by
  have hkept : (env.stored keep).repoFails = false := henv
  have hsqlite : (A.on (sqlite plugins executions)).repo.getExecutions s.db id =
      .ok (Slice.ofRows (executions.sort (s.db.executions.select fun x => x.pluginID == id))) :=
    scanRows_none_ofList _
  have hselect : t.db.executions.select (fun x => x.pluginID == id) =
      (s.db.executions.select fun x => x.pluginID == id).map (storedExecution keep) := by
    rw [h.db]
    exact select_storedDatabase s.db id
  have hmongo : (A.on (mongo plugins' executions')).repo.getExecutions t.db id =
      .ok (some (executions'.sort
        ((s.db.executions.select fun x => x.pluginID == id).map (storedExecution keep)))) := by
    rw [← hselect]
    rfl
  have hnodup : ((s.db.executions.select fun x => x.pluginID == id).map Execution.id).Nodup :=
    (List.filter_sublist.map Execution.id).nodup s.db.executions.nodup
  unfold handleGetMetrics
  by_cases hid : id = ""
  · rw [if_pos hid, if_pos hid]
    exact ⟨_, _, rfl, rfl, iff_of_true rfl fun hne => absurd hid hne⟩
  · rw [if_neg hid, if_neg hid, Env.call_eq henv, Env.call_eq hkept, hsqlite, hmongo]
    refine ⟨_, _, rfl, rfl, ?_⟩
    rw [forall_prop_of_true hid]
    exact ofRows_same_iff executions executions' hnodup

/-- A read is answered by its first step. -/
theorem read_alike {rid : Nat} {req : Request} (hreads : req.reads = true)
    (hfree : s.handlers rid = none) :
    ∃ s' t' r r', step (A.on (sqlite plugins executions)) s ⟨.request rid req, env⟩ = some s' ∧
      step (A.on (mongo plugins' executions')) t (Event.stored keep ⟨.request rid req, env⟩) =
        some t' ∧
      s'.answered rid = some r ∧ t'.answered rid = some r' ∧
      (r.SameJson r' ↔ Shown keep s ⟨.request rid req, env⟩) := by
  have hfree' : t.handlers rid = none := by
    rcases rel_cases (h.handlers rid) with ⟨-, ht⟩ | ⟨h₀, h', hs, -, -⟩
    · exact ht
    · rw [hfree] at hs
      cases hs
  have hput : ∀ (u : State M) (target : Option String) (r : Response),
      (State.put rid target (answer u r)).answered rid = some r := by
    intro u target r
    unfold State.answered
    rw [handlers_put_self]
    rfl
  have hstep : ∀ {next next' : Next M} {shown : Prop}, AnswersAlike s t next next' shown →
      serve (A.on (sqlite plugins executions)) s env req = some next →
      serve (A.on (mongo plugins' executions')) t (env.stored keep) req = some next' →
      ∃ s' t' r r', step (A.on (sqlite plugins executions)) s ⟨.request rid req, env⟩ = some s' ∧
        step (A.on (mongo plugins' executions')) t (Event.stored keep ⟨.request rid req, env⟩) =
          some t' ∧
        s'.answered rid = some r ∧ t'.answered rid = some r' ∧ (r.SameJson r' ↔ shown) := by
    rintro next next' shown ⟨r, r', rfl, rfl, hsame⟩ hs ht
    exact ⟨_, _, r, r', (step_request rfl).mpr ⟨hfree, _, hs, rfl⟩,
      (step_request rfl).mpr ⟨hfree', _, ht, rfl⟩, hput s _ r, hput t _ r', hsame⟩
  cases req with
  | listPlugins => exact hstep (listPlugins_alike h henv) rfl rfl
  | getPlugin id => exact hstep (getPlugin_alike h henv id) rfl rfl
  | getMetrics id => exact hstep (getMetrics_alike h henv id) rfl rfl
  | createPlugin | updatePlugin | executePlugin | deletePlugin => cases hreads

omit h henv in
theorem shown_of_not_read {e : Event}
    (hreads : ∀ rid req, e.action = .request rid req → req.reads = false) : Shown keep s e := by
  unfold Shown
  split
  · next haction => cases hreads _ _ haction
  · next haction => cases hreads _ _ haction
  · next haction => cases hreads _ _ haction
  · trivial

end Reads

/-! ## Runs -/

section Runs

variable {M σ : Type} (A : Platform M σ) (keep : Int → Int)
  (plugins plugins' : OrderBy Plugin Plugin.createdAt)
  (executions executions' : OrderBy Execution Execution.createdAt)

theorem run_sim (es : List Event) :
    Option.Rel (Sim keep) (run (step (A.on (sqlite plugins executions))) (State.start M) es)
      (run (step (A.on (mongo plugins' executions'))) (State.start M)
        (es.map (Event.stored keep))) := by
  have hmirror : Mirrors keep (A.on (sqlite plugins executions)).repo.toRepository
      (mongo plugins' executions').toRepository :=
    mongo_mirrors_sqlite plugins plugins' executions executions'
  exact run_lockstep (fun s t e h => step_sim hmirror h e) es sim_start

/-- A read that is the last event so far. -/
theorem last_alike {pre : List Event} {rid : Nat} {req : Request} {env : Env} {s : State M}
    (henv : env.repoFails = false) (hreads : req.reads = true)
    (hrun : run (step (A.on (sqlite plugins executions))) (State.start M) pre = some s)
    (hfree : s.handlers rid = none) :
    ∃ s' t' r r',
      run (step (A.on (sqlite plugins executions))) (State.start M)
        (pre ++ [⟨.request rid req, env⟩]) = some s' ∧
      run (step (A.on (mongo plugins' executions'))) (State.start M)
        (List.map (Event.stored keep) (pre ++ [⟨.request rid req, env⟩])) = some t' ∧
      s'.answered rid = some r ∧ t'.answered rid = some r' ∧
      (r.SameJson r' ↔ Shown keep s ⟨.request rid req, env⟩) := by
  rcases rel_cases (run_sim A keep plugins plugins' executions executions' pre) with
    ⟨hs, -⟩ | ⟨s₀, t, hs, ht, hsim⟩
  · rw [hrun] at hs
    cases hs
  · cases hrun.symm.trans hs
    obtain ⟨s', t', r, r', hs', ht', hanswers⟩ :=
      @read_alike M σ keep A plugins plugins' executions executions' s t env hsim henv rid req
        hreads hfree
    refine ⟨s', t', r, r', ?_, ?_, hanswers⟩
    · exact run_append_iff.mpr ⟨s, hrun, run_cons_iff.mpr ⟨s', hs', rfl⟩⟩
    · rw [List.map_append]
      exact run_append_iff.mpr ⟨t, ht, run_cons_iff.mpr ⟨t', ht', rfl⟩⟩

/-- The server on Mongo takes every step that the server on SQLite takes, and they answer all
    reads the same exactly in the runs where every read is `Shown`. -/
theorem sameAnswers_iff {es : List Event} (hfaults : ∀ e ∈ es, e.env.repoFails = false) :
    (run (step (A.on (mongo plugins' executions'))) (State.start M)
        (es.map (Event.stored keep))).isSome =
      (run (step (A.on (sqlite plugins executions))) (State.start M) es).isSome ∧
    (SameAnswers (A.on (sqlite plugins executions)) (A.on (mongo plugins' executions')) keep es ↔
      EachStep (step (A.on (sqlite plugins executions))) (State.start M) es (Shown keep)) := by
  have henv : ∀ {pre e post}, es = pre ++ e :: post → e.env.repoFails = false := by
    rintro pre e post rfl
    exact hfaults e (List.mem_append_right pre List.mem_cons_self)
  have hlast := @last_alike M σ A keep plugins plugins' executions executions'
  refine ⟨(rel_isSome (run_sim A keep plugins plugins' executions executions' es)).symm, ?_, ?_⟩
  · intro hsame pre e post s u he hrun hstep
    by_cases hread : ∃ rid req, e.action = .request rid req ∧ req.reads = true
    · obtain ⟨rid, req, haction, hreads⟩ := hread
      obtain ⟨action, env⟩ := e
      cases haction
      have hfree := ((step_request rfl).mp hstep).1
      obtain ⟨s', t', r, r', hs', ht', hr, hr', hiff⟩ := hlast (henv he) hreads hrun hfree
      obtain ⟨r₁, r₁', hr₁, hr₁', hjson⟩ := hsame pre rid req env post s' t' he hreads hs' ht'
      cases hr.symm.trans hr₁
      cases hr'.symm.trans hr₁'
      exact hiff.mp hjson
    · refine shown_of_not_read fun rid req haction => ?_
      cases hreads : req.reads with
      | false => rfl
      | true => exact absurd ⟨rid, req, haction, hreads⟩ hread
  · intro hshown pre rid req env post s t he hreads hs ht
    obtain ⟨s₀, hrun, hstep⟩ := run_append_iff.mp hs
    obtain ⟨u, hu, -⟩ := run_cons_iff.mp hstep
    have hfree := ((step_request rfl).mp hu).1
    obtain ⟨s', t', r, r', hs', ht', hr, hr', hiff⟩ := hlast (henv he) hreads hrun hfree
    obtain rfl : s' = s := Option.some.inj (hs'.symm.trans hs)
    obtain rfl : t' = t := Option.some.inj (ht'.symm.trans ht)
    exact ⟨r, r', hr, hr', hiff.mpr (hshown pre _ post s₀ u he hrun hu)⟩

end Runs

/-! ## Two small runs -/

/-- The plugin `p` is created at instant 0 and queued. -/
def createdQueued : List Event :=
  [(Action.request 0 (.createPlugin ⟨[1], false⟩)).quietly "p", (Action.advance 0 "p").quietly ""]

/-- The metrics of a plugin without executions: SQLite answers `null`, Mongo `[]`. -/
theorem metrics_differ :
    ¬ ∀ (M σ : Type) (A : Platform M σ) (keep : Int → Int)
      (plugins plugins' : OrderBy Plugin Plugin.createdAt)
      (executions executions' : OrderBy Execution Execution.createdAt) (es : List Event),
      (∀ e ∈ es, e.env.repoFails = false) →
        SameAnswers (A.on (sqlite plugins executions)) (A.on (mongo plugins' executions')) keep
          es := by
  intro h
  have hsame := h _ _ .small id (.stable _ _) (.stable _ _) (.stable _ _) (.stable _ _)
    (createdQueued ++ [(Action.request 1 (.getMetrics "p")).quietly ""]) (by decide)
  have hrun : ∃ s : State Bytes, run (step (Platform.small.on (sqlite (.stable _ _) (.stable _ _))))
      (State.start Bytes) createdQueued = some s ∧ s.handlers 1 = none ∧
      s.db.executions.rows = [] := ⟨_, rfl, rfl, rfl⟩
  obtain ⟨s₀, hrun, hfree, hrows⟩ := hrun
  obtain ⟨s, t, r, r', hs, ht, hr, hr', hiff⟩ :=
    @last_alike _ _ .small id (.stable _ _) (.stable _ _) (.stable _ _) (.stable _ _) createdQueued
      1 (.getMetrics "p") ⟨false, "", 0, .quiet⟩ s₀ rfl rfl hrun hfree
  obtain ⟨r₁, r₁', hr₁, hr₁', hjson⟩ :=
    hsame createdQueued 1 (.getMetrics "p") _ [] s t rfl rfl hs ht
  cases hr.symm.trans hr₁
  cases hr'.symm.trans hr₁'
  obtain ⟨hsome, -⟩ := hiff.mp hjson (by decide)
  refine hsome ?_
  unfold Table.select
  rw [hrows]
  rfl

/-- A plugin created at a whole millisecond is shown alike. -/
theorem created_shown_alike :
    SameAnswers (Platform.small.on (sqlite (.stable _ _) (.stable _ _)))
      (Platform.small.on (mongo (.stable _ _) (.stable _ _))) (fun t => t / 1000000 * 1000000)
      (createdQueued ++ [(Action.request 1 (.getPlugin "p")).quietly ""]) := by
  have hfaults : ∀ e ∈ createdQueued ++ [(Action.request 1 (.getPlugin "p")).quietly ""],
      e.env.repoFails = false := by decide
  refine (sameAnswers_iff .small _ _ _ _ _ hfaults).2.mpr ?_
  refine (eachStep_cons rfl).mpr ⟨trivial, (eachStep_cons rfl).mpr ⟨trivial, ?_⟩⟩
  refine (eachStep_cons rfl).mpr ⟨?_, eachStep_nil⟩
  intro _ p hp
  cases hp
  rfl

end PluginSandbox.Server
