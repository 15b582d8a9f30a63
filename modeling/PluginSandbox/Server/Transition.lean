/-
  What one step can do: the inversion of `step`.

  `Transition` lists the changes of the shared state with everything a step is known to have
  checked. All invariants are derived from `step_transition` and none unfolds a handler.
-/
import PluginSandbox.Server.Step

namespace PluginSandbox.Server

open PluginSandbox.Lib PluginSandbox.Db PluginSandbox.Sandbox PluginSandbox.Compiler

variable {M σ : Type} {A : Platform M σ} {s t : State M} {e : Event}

/-! ## The handler of a request -/

/-- What holds of the handler found there holds of every handler there. -/
theorem held {rid : Nat} {h₀ : Handler M} {P : Handler M → Prop} (hold : s.handlers rid = some h₀)
    (hp : P h₀) : ∀ h, s.handlers rid = some h → P h := by
  intro h hh
  have heq : h₀ = h := Option.some.inj (hold.symm.trans hh)
  exact heq ▸ hp

theorem held_none {rid : Nat} {P : Handler M → Prop} (hfree : s.handlers rid = none) :
    ∀ h, s.handlers rid = some h → P h := by
  intro h hh
  rw [hfree] at hh
  simp at hh

/-! ## Transitions -/

/-- The plugin a handler holds on to. -/
def Phase.subject : Phase M → Option Plugin
  | .createQueueCompile plugin => some plugin
  | .getModule plugin _ => some plugin
  | .compile plugin _ => some plugin
  | .getCompiled plugin _ => some plugin
  | .run plugin _ _ => some plugin
  | .saveExecution plugin _ => some plugin
  | _ => none

theorem subject_abort (h : Handler M) : h.abort.phase.subject = none := by
  obtain ⟨target, phase⟩ := h
  cases phase <;> rfl

/-- The request whose handler takes the step. -/
def Action.rid : Action → Option Nat
  | .request rid _ => some rid
  | .advance rid _ => some rid
  | .worker _ => none
  | .restart => none

inductive Transition (A : Platform M σ) (s : State M) (e : Event) : State M → Prop
  /-- A handler goes on and leaves the tables, the queue and the cache. -/
  | quiet (rid : Nat) (phase : Phase M) (issued : List String) (hrid : e.action.rid = some rid)
      (hold : ∀ h, s.handlers rid = some h → h.target = e.target ∧ h.job = none)
      (hnew : Handler.job ⟨e.target, phase⟩ = none)
      (hsubject : ∀ p, phase.subject = some p →
        (∃ h, s.handlers rid = some h ∧ h.phase.subject = some p) ∨ e.target = some p.id)
      (hissued : s.issued ⊆ issued) :
      Transition A s e (.put rid e.target ({ s with issued }, phase))
  | savePlugin (rid : Nat) (plugin : Plugin) (plugins : Table Plugin Plugin.id)
      (hrid : e.action.rid = some rid) (hfree : s.handlers rid = none)
      (htarget : e.target = some plugin.id)
      (hfresh : plugin.id ∉ s.issued) (hstatus : plugin.status = "pending")
      (hwasm : plugin.compiledWasm = [])
      (hinsert : s.db.plugins.insert plugin = some plugins) :
      Transition A s e (.put rid e.target
        ({ s with db := { s.db with plugins }, issued := plugin.id :: s.issued },
          .createQueueCompile plugin))
  | updatePluginCode (rid : Nat) (id name sourceCode : String)
      (haction : e.action = .advance rid id)
      (hold : s.handlers rid = some ⟨some id, .updatePluginCode name sourceCode⟩) :
      Transition A s e (.put rid e.target
        ({ s with db := s.db.setCode id name sourceCode }, .updateQueueCompile))
  | queueCompile (rid : Nat) (h : Handler M) (id : String) (phase : Phase M)
      (hrid : e.action.rid = some rid) (hold : s.handlers rid = some h)
      (htarget : h.target = e.target) (hjob : h.job = some id)
      (hnew : Handler.job ⟨e.target, phase⟩ = none) (hsubject : phase.subject = none)
      (hroom : s.queue.length < queueSize) :
      Transition A s e (.put rid e.target ({ s with queue := s.queue ++ [id] }, phase))
  | compile (rid : Nat) (plugin : Plugin) (input : Bytes) (engine : Engine M) (phase : Phase M)
      (hrid : e.action.rid = some rid)
      (hold : s.handlers rid = some ⟨e.target, .compile plugin input⟩)
      (hengine : ∀ k, k ≠ plugin.id → engine.modules k = s.engine.modules k)
      (hnew : Handler.job ⟨e.target, phase⟩ = none) (hsubject : phase.subject = some plugin) :
      Transition A s e (.put rid e.target ({ s with engine }, phase))
  | saveExecution (rid : Nat) (id : String) (plugin : Plugin) (result : ExecutionResult)
      (x : Execution) (executions : Table Execution Execution.id)
      (haction : e.action = .advance rid id)
      (hold : s.handlers rid = some ⟨some id, .saveExecution plugin result⟩)
      (hcall : e.env.repoFails = false) (hplugin : x.pluginID = plugin.id)
      (hfresh : x.id ∉ s.issued) (hinsert : s.db.executions.insert x = some executions) :
      Transition A s e (.put rid e.target
        ({ s with db := { s.db with executions }, issued := x.id :: s.issued },
          .encodeResult result))
  | deleteExecutions (rid : Nat) (id : String) (hrid : e.action.rid = some rid)
      (hfree : s.handlers rid = none) (htarget : e.target = some id) :
      Transition A s e (.put rid e.target
        ({ s with db := s.db.dropExecutions id }, .deletePluginRow))
  | deletePluginRow (rid : Nat) (id : String) (haction : e.action = .advance rid id)
      (hold : s.handlers rid = some ⟨some id, .deletePluginRow⟩)
      (hcall : e.env.repoFails = false) :
      Transition A s e (.put rid e.target ({ s with db := s.db.dropPlugin id }, .done .noContent))
  | receive (id : String) (queue : List String) (haction : e.action = .worker id)
      (hworker : s.worker = .idle) (hqueue : s.queue = id :: queue) :
      Transition A s e { s with queue, worker := .received id }
  | read (id : String) (plugin : Plugin) (haction : e.action = .worker id)
      (hworker : s.worker = .received id)
      (hread : e.env.call (A.repo.getPlugin s.db id) = .ok plugin)
      (hrow : s.db.plugins.find? id = some plugin) :
      Transition A s e { s with worker := .building id plugin.sourceCode }
  | skip (id : String) (err : DbError) (haction : e.action = .worker id)
      (hworker : s.worker = .received id)
      (hfailed : e.env.call (A.repo.getPlugin s.db id) = .error err) :
      Transition A s e { s with worker := .idle }
  | build (id sourceCode : String) (haction : e.action = .worker id)
      (hworker : s.worker = .building id sourceCode) :
      Transition A s e
        { s with worker := .writing id sourceCode (A.toolchain.build sourceCode) }
  | writeStatus (id sourceCode : String) (build : Build) (db : Database)
      (haction : e.action = .worker id) (hworker : s.worker = .writing id sourceCode build)
      (hwritten : e.env.call (A.repo.updatePluginStatus s.db id build.status build.compiledWasm
        build.compileErrors) = .ok db)
      (hdb : db = s.db.setStatus id build.status build.compiledWasm build.compileErrors) :
      Transition A s e { s with db, worker := .idle }
  | dropStatus (id sourceCode : String) (build : Build) (err : DbError)
      (haction : e.action = .worker id) (hworker : s.worker = .writing id sourceCode build)
      (hfailed : e.env.call (A.repo.updatePluginStatus s.db id build.status build.compiledWasm
        build.compileErrors) = .error err) :
      Transition A s e { s with worker := .idle }
  | restart (haction : e.action = .restart) : Transition A s e s.restart

/-! ## Handlers -/

theorem target_advance {rid : Nat} {id : String} (h : e.action = .advance rid id) :
    e.target = some id := by
  unfold Event.target
  rw [h]

theorem target_worker {id : String} (h : e.action = .worker id) : e.target = some id := by
  unfold Event.target
  rw [h]

theorem rid_advance {rid : Nat} {id : String} (h : e.action = .advance rid id) :
    e.action.rid = some rid := by
  rw [h]
  rfl

theorem getPlugin_id {db : Database} {id : String} {env : Env} {plugin : Plugin}
    (h : env.call (A.repo.getPlugin db id) = .ok plugin) : plugin.id = id :=
  (Table.find?_some (A.repo.sound.getPlugin.mp (Env.call_ok_iff.mp h).2)).2

section Request

variable {rid : Nat} (hrid : e.action.rid = some rid) (hfree : s.handlers rid = none)
include hrid hfree

/-- A first step that only answers or goes on. -/
theorem quiet_request {phase : Phase M}
    (hnew : Handler.job ⟨e.target, phase⟩ = none)
    (hsubject : ∀ p, phase.subject = some p → e.target = some p.id) :
    Transition A s e (.put rid e.target (s, phase)) :=
  .quiet rid phase s.issued hrid (held_none hfree) hnew (fun p hp => Or.inr (hsubject p hp))
    (List.Subset.refl _)

theorem quiet_answer (response : Response) :
    Transition A s e (.put rid e.target (answer s response)) :=
  quiet_request hrid hfree rfl nofun

theorem handleCreatePlugin_transition {body : Body} {next : Next M}
    (htarget : e.target = some e.env.uuid) (h : handleCreatePlugin A s e.env body = some next) :
    Transition A s e (.put rid e.target next) := by
  unfold handleCreatePlugin at h
  split at h
  · cases h
    exact quiet_answer hrid hfree _
  · next req hreq =>
      split at h
      · cases h
        exact quiet_answer hrid hfree _
      · split at h
        · cases h
        · next hfresh =>
            dsimp only at h
            split at h
            · cases h
              exact .quiet rid _ (e.env.uuid :: s.issued) hrid (held_none hfree) rfl nofun
                (List.subset_cons_self _ _)
            · next db hdb =>
                cases h
                obtain ⟨plugins, hins, rfl⟩ := A.repo.sound.savePlugin (Env.call_ok_iff.mp hdb).2
                exact .savePlugin rid _ plugins hrid hfree htarget hfresh rfl rfl hins

theorem handleUpdatePlugin_transition {id : String} {body : Body} :
    Transition A s e (.put rid e.target (handleUpdatePlugin A s e.env id body)) := by
  unfold handleUpdatePlugin
  split
  · exact quiet_answer hrid hfree _
  · split
    · exact quiet_answer hrid hfree _
    · split
      · exact quiet_answer hrid hfree _
      · split
        · exact quiet_answer hrid hfree _
        · exact quiet_request hrid hfree rfl nofun

theorem handleListPlugins_transition :
    Transition A s e (.put rid e.target (handleListPlugins A s e.env)) := by
  unfold handleListPlugins
  split
  · exact quiet_answer hrid hfree _
  · exact quiet_answer hrid hfree _

theorem handleGetPlugin_transition {id : String} :
    Transition A s e (.put rid e.target (handleGetPlugin A s e.env id)) := by
  unfold handleGetPlugin
  split
  · exact quiet_answer hrid hfree _
  · split
    · exact quiet_answer hrid hfree _
    · exact quiet_answer hrid hfree _

theorem handleGetMetrics_transition {id : String} :
    Transition A s e (.put rid e.target (handleGetMetrics A s e.env id)) := by
  unfold handleGetMetrics
  split
  · exact quiet_answer hrid hfree _
  · split
    · exact quiet_answer hrid hfree _
    · exact quiet_answer hrid hfree _

theorem handleExecutePlugin_transition {id : String} {body : Body} (htarget : e.target = some id) :
    Transition A s e (.put rid e.target (handleExecutePlugin A s e.env id body)) := by
  unfold handleExecutePlugin
  split
  · exact quiet_answer hrid hfree _
  · split
    · exact quiet_answer hrid hfree _
    · next plugin hplugin =>
        split
        · exact quiet_answer hrid hfree _
        · refine quiet_request hrid hfree rfl fun p hp => ?_
          cases hp
          rw [htarget, getPlugin_id hplugin]

theorem handleDeletePlugin_transition {id : String} (htarget : e.target = some id) :
    Transition A s e (.put rid e.target (handleDeletePlugin A s e.env id)) := by
  unfold handleDeletePlugin
  split
  · exact quiet_answer hrid hfree _
  · split
    · exact quiet_answer hrid hfree _
    · next db hdb =>
        have hdrop := A.repo.sound.deleteExecutions (Env.call_ok_iff.mp hdb).2
        subst hdrop
        exact .deleteExecutions rid id hrid hfree htarget

end Request

theorem serve_transition {rid : Nat} {req : Request} {next : Next M}
    (hfree : s.handlers rid = none) (haction : e.action = .request rid req)
    (h : serve A s e.env req = some next) : Transition A s e (.put rid e.target next) := by
  have hrid : e.action.rid = some rid := by
    rw [haction]
    rfl
  have htarget : e.target = req.target e.env.uuid := by
    unfold Event.target
    rw [haction]
  cases req with
  | createPlugin body => exact handleCreatePlugin_transition hrid hfree htarget h
  | updatePlugin id body =>
      cases h
      exact handleUpdatePlugin_transition hrid hfree
  | listPlugins =>
      cases h
      exact handleListPlugins_transition hrid hfree
  | getPlugin id =>
      cases h
      exact handleGetPlugin_transition hrid hfree
  | executePlugin id body =>
      cases h
      exact handleExecutePlugin_transition hrid hfree htarget
  | getMetrics id =>
      cases h
      exact handleGetMetrics_transition hrid hfree
  | deletePlugin id =>
      cases h
      exact handleDeletePlugin_transition hrid hfree htarget

section Advance

variable {rid : Nat} {id : String} (haction : e.action = .advance rid id)
include haction

/-- A later step that only goes on, with the plugin it held. -/
theorem quiet_advance {old phase : Phase M} (hh : s.handlers rid = some ⟨some id, old⟩)
    (hjob : Handler.job ⟨some id, old⟩ = none) (hnew : Handler.job ⟨e.target, phase⟩ = none)
    (hsubject : ∀ p, phase.subject = some p → old.subject = some p) :
    Transition A s e (.put rid e.target (s, phase)) :=
  .quiet rid phase s.issued (rid_advance haction)
    (held hh ⟨(target_advance haction).symm, hjob⟩) hnew
    (fun p hp => Or.inl ⟨_, hh, hsubject p hp⟩) (List.Subset.refl _)

theorem queueCompile_transition {old phase : Phase M} {job : String} {next : Next M}
    (hh : s.handlers rid = some ⟨some id, old⟩) (hjob : Handler.job ⟨some id, old⟩ = some job)
    (hnew : Handler.job ⟨e.target, phase⟩ = none) (hsubject : phase.subject = none)
    (h : queueCompile s job phase = some next) : Transition A s e (.put rid e.target next) := by
  unfold queueCompile at h
  split at h
  · next hroom =>
      cases h
      exact .queueCompile rid _ job phase (rid_advance haction) hh (target_advance haction).symm
        hjob hnew hsubject hroom
  · cases h

theorem updateWrite_transition {name source : String}
    (hh : s.handlers rid = some ⟨some id, .updatePluginCode name source⟩) :
    Transition A s e (.put rid e.target (updateWrite A s e.env id name source)) := by
  unfold updateWrite
  split
  · exact quiet_advance haction hh rfl rfl nofun
  · next db hdb =>
      have hset := A.repo.sound.updatePluginCode (Env.call_ok_iff.mp hdb).2
      subst hset
      exact .updatePluginCode rid id name source haction hh

theorem updateReread_transition (hh : s.handlers rid = some ⟨some id, .updateGetPlugin⟩) :
    Transition A s e (.put rid e.target (updateReread A s e.env id)) := by
  unfold updateReread
  split
  · exact quiet_advance haction hh rfl rfl nofun
  · exact quiet_advance haction hh rfl rfl nofun

theorem getModuleRead_transition {plugin : Plugin} {input : Bytes}
    (hh : s.handlers rid = some ⟨some id, .getModule plugin input⟩) :
    Transition A s e (.put rid e.target (getModuleRead s plugin input)) := by
  unfold getModuleRead
  split
  · exact quiet_advance haction hh rfl rfl fun p hp => hp
  · exact quiet_advance haction hh rfl rfl fun p hp => hp

theorem getModuleCompile_transition {plugin : Plugin} {input : Bytes}
    (hh : s.handlers rid = some ⟨some id, .compile plugin input⟩) :
    Transition A s e (.put rid e.target (getModuleCompile A s plugin input)) := by
  have hothers : ∀ k, k ≠ plugin.id →
      (s.engine.compile A.newModule plugin.id plugin.compiledWasm).2.modules k =
        s.engine.modules k := by
    intro k hk
    rw [modules_compile, if_neg (Ne.symm hk), Option.or_none]
  have hrid := rid_advance haction
  rw [← target_advance haction] at hh
  unfold getModuleCompile
  split
  · next err engine hcompile =>
      rw [hcompile] at hothers
      exact .compile rid plugin input engine _ hrid hh hothers rfl rfl
  · next engine hcompile =>
      rw [hcompile] at hothers
      exact .compile rid plugin input engine _ hrid hh hothers rfl rfl

theorem executeRun_transition {plugin : Plugin} {input : Bytes} {loaded : Except Bytes (Option M)}
    (hh : s.handlers rid = some ⟨some id, .run plugin input loaded⟩) :
    Transition A s e (.put rid e.target (executeRun A s e.env plugin input loaded)) := by
  unfold executeRun
  split
  · exact quiet_advance haction hh rfl rfl nofun
  · exact quiet_advance haction hh rfl rfl nofun
  · exact quiet_advance haction hh rfl rfl fun p hp => hp

theorem executeSave_transition {plugin : Plugin} {res : ExecutionResult} {next : Next M}
    (hh : s.handlers rid = some ⟨some id, .saveExecution plugin res⟩)
    (h : executeSave A s e.env plugin res = some next) :
    Transition A s e (.put rid e.target next) := by
  unfold executeSave at h
  split at h
  · cases h
  · next hfresh =>
      dsimp only at h
      split at h
      · cases h
        exact .quiet rid _ (e.env.uuid :: s.issued) (rid_advance haction)
          (held hh ⟨(target_advance haction).symm, rfl⟩) rfl nofun (List.subset_cons_self _ _)
      · next db hdb =>
          cases h
          obtain ⟨executions, hins, rfl⟩ := A.repo.sound.saveExecution (Env.call_ok_iff.mp hdb).2
          exact .saveExecution rid id plugin res
            (executionOf e.env.uuid plugin.id e.env.now res) executions haction hh
            (Env.call_ok_iff.mp hdb).1 rfl hfresh hins

theorem deleteRow_transition (hh : s.handlers rid = some ⟨some id, .deletePluginRow⟩) :
    Transition A s e (.put rid e.target (deleteRow A s e.env id)) := by
  unfold deleteRow
  split
  · exact quiet_advance haction hh rfl rfl nofun
  · next db hdb =>
      have hdrop := A.repo.sound.deletePluginRow (Env.call_ok_iff.mp hdb).2
      subst hdrop
      exact .deletePluginRow rid id haction hh (Env.call_ok_iff.mp hdb).1

end Advance

theorem resume_transition {rid : Nat} {id : String} {phase : Phase M} {next : Next M}
    (haction : e.action = .advance rid id) (hh : s.handlers rid = some ⟨some id, phase⟩)
    (h : resume A s e.env id phase = some next) : Transition A s e (.put rid e.target next) := by
  cases phase with
  | createQueueCompile plugin => exact queueCompile_transition haction hh rfl rfl rfl h
  | updatePluginCode name source =>
      cases h
      exact updateWrite_transition haction hh
  | updateQueueCompile => exact queueCompile_transition haction hh rfl rfl rfl h
  | updateGetPlugin =>
      cases h
      exact updateReread_transition haction hh
  | getModule plugin input =>
      cases h
      exact getModuleRead_transition haction hh
  | compile plugin input =>
      cases h
      exact getModuleCompile_transition haction hh
  | getCompiled plugin input =>
      cases h
      exact quiet_advance haction hh rfl rfl fun p hp => hp
  | run plugin input loaded =>
      cases h
      exact executeRun_transition haction hh
  | saveExecution plugin res => exact executeSave_transition haction hh h
  | encodeResult res =>
      cases h
      exact quiet_advance haction hh rfl rfl nofun
  | deletePluginRow =>
      cases h
      exact deleteRow_transition haction hh
  | done response => cases h

/-! ## The worker -/

theorem workerStep_transition {id : String} (haction : e.action = .worker id)
    (hjob : s.nextJob = some id) : Transition A s e (workerStep A s e.env) := by
  unfold State.nextJob at hjob
  unfold workerStep
  cases hw : s.worker with
  | idle =>
      rw [hw] at hjob
      cases hq : s.queue with
      | nil =>
          rw [hq] at hjob
          cases hjob
      | cons q queue =>
          rw [hq] at hjob
          cases hjob
          exact .receive id queue haction hw hq
  | received q =>
      rw [hw] at hjob
      cases hjob
      dsimp only
      split
      · next err herr => exact .skip id err haction hw herr
      · next plugin hplugin =>
          exact .read id plugin haction hw hplugin
            (A.repo.sound.getPlugin.mp (Env.call_ok_iff.mp hplugin).2)
  | building q source =>
      rw [hw] at hjob
      cases hjob
      exact .build id source haction hw
  | writing q source build =>
      rw [hw] at hjob
      cases hjob
      dsimp only
      split
      · next err herr => exact .dropStatus id source build err haction hw herr
      · next db hdb =>
          exact .writeStatus id source build db haction hw hdb
            (A.repo.sound.updatePluginStatus (Env.call_ok_iff.mp hdb).2)

/-! ## Inversion -/

/-- Every step is one of the transitions. -/
theorem step_transition (h : step A s e = some t) : Transition A s e t := by
  cases haction : e.action with
  | request rid req =>
      obtain ⟨hfree, next, hserve, rfl⟩ := (step_request haction).mp h
      exact serve_transition hfree haction hserve
  | advance rid id =>
      obtain ⟨phase, hh, next, hresume, rfl⟩ := (step_advance haction).mp h
      exact resume_transition haction hh hresume
  | worker id =>
      obtain ⟨hjob, rfl⟩ := (step_worker haction).mp h
      exact workerStep_transition haction hjob
  | restart =>
      obtain rfl := (step_restart haction).mp h
      exact .restart haction

end PluginSandbox.Server
