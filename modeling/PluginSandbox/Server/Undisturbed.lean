/-
  Handlers that nobody disturbs.

  A delete whose two statements follow each other is `Repository.deletePlugin`, and an execute
  request whose three visits to the module cache follow each other is `Engine.run`. So the
  handlers refine the calls of the repository and of the engine as their packages define
  them; other requests act between these steps and nowhere else.
-/
import PluginSandbox.Server.Step

namespace PluginSandbox.Server

open PluginSandbox.Lib PluginSandbox.Db PluginSandbox.Sandbox PluginSandbox.Compiler

variable {M σ : Type} (A : Platform M σ) (s : State M)

/-! ## Delete -/

/-- Both statements of a delete request in a row. -/
def deleteUndisturbed (env env' : Env) (id : String) : Next M :=
  match handleDeletePlugin A s env id with
  | (s₁, .deletePluginRow) => deleteRow A s₁ env' id
  | next => next

/-- The answer to the result of `DeletePlugin`. -/
def deleteResponse : Except DbError Unit → Response
  | .error err => deleteFailed err
  | .ok () => .noContent

theorem delete_undisturbed {env env' : Env} (henv : env.repoFails = false)
    (henv' : env'.repoFails = false) {id : String} (hid : id ≠ "") :
    deleteUndisturbed A s env env' id =
      ({ s with db := (A.repo.deletePlugin s.db id).2 },
        .done (deleteResponse (A.repo.deletePlugin s.db id).1)) := by
  unfold deleteUndisturbed handleDeletePlugin Repository.deletePlugin
  rw [if_neg hid, Env.call_eq henv]
  cases A.repo.deleteExecutions s.db id with
  | error err => rfl
  | ok db =>
      show deleteRow A { s with db } env' id = _
      unfold deleteRow
      rw [Env.call_eq henv']
      dsimp only
      cases A.repo.deletePluginRow db id with
      | error err => rfl
      | ok db' => rfl

/-! ## Execute -/

/-- The visits to the module cache in a row. -/
def lookupUndisturbed (plugin : Plugin) (input : Bytes) : Next M :=
  match getModuleRead s plugin input with
  | (s₁, .compile _ _) =>
    match getModuleCompile A s₁ plugin input with
    | (s₂, .getCompiled _ _) => (s₂, .run plugin input (.ok (s₂.engine.modules plugin.id)))
    | next => next
  | next => next

/-- They are `GetModule`. -/
theorem lookup_undisturbed (plugin : Plugin) (input : Bytes) :
    lookupUndisturbed A s plugin input =
      ({ s with engine := (s.engine.getModule A.newModule plugin.id plugin.compiledWasm).2 },
        .run plugin input (s.engine.getModule A.newModule plugin.id plugin.compiledWasm).1) := by
  unfold lookupUndisturbed getModuleRead Engine.getModule
  cases hm : s.engine.modules plugin.id with
  | some m => rfl
  | none =>
      dsimp only
      unfold getModuleCompile
      cases hc : s.engine.compile A.newModule plugin.id plugin.compiledWasm with
      | mk result engine =>
          cases result with
          | error err => rfl
          | ok _ => rfl

/-- The lookup and the guest run in a row. -/
def executeUndisturbed (env : Env) (plugin : Plugin) (input : Bytes) : Next M :=
  match lookupUndisturbed A s plugin input with
  | (s₁, .run plugin input loaded) => executeRun A s₁ env plugin input loaded
  | next => next

/-- How the handler goes on from the result of `Engine.run`. -/
def afterRun (plugin : Plugin) :
    Except Panic (Except Bytes ExecutionResult) × Engine M → Next M
  | (.error _, engine) => answer { s with engine } .aborted
  | (.ok (.error err), engine) =>
    answer { s with engine } (.engineError 500 "Internal sandbox execution engine error: " err)
  | (.ok (.ok res), engine) => ({ s with engine }, .saveExecution plugin res)

theorem execute_undisturbed (env : Env) (plugin : Plugin) (input : Bytes) :
    executeUndisturbed A s env plugin input =
      afterRun s plugin
        (s.engine.run A.newModule env.host A.guest plugin.id plugin.compiledWasm input) := by
  unfold executeUndisturbed
  rw [lookup_undisturbed]
  unfold executeRun Engine.run
  dsimp only
  cases runLoaded env.host A.guest input
      (s.engine.getModule A.newModule plugin.id plugin.compiledWasm).1 with
  | error panic => rfl
  | ok result =>
      cases result with
      | error err => rfl
      | ok res => rfl

end PluginSandbox.Server
