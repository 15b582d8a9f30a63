/-
  Executions without a plugin, on the SQLite repository.

  `executions` declares a foreign key that SQLite does not enforce, and no handler looks again
  before it writes. `no_orphans_iff`: every execution belongs to a plugin in every state, and
  no execution of a deleted plugin is seen again, in exactly those runs where each
  `SaveExecution` finds its plugin still there and each `DELETE FROM plugins` finds the
  executions of the plugin still gone.
-/
import PluginSandbox.Server.Versions

namespace PluginSandbox.Server

open PluginSandbox.Lib PluginSandbox.Db PluginSandbox.Sandbox PluginSandbox.Compiler

variable {M σ : Type} {A : Platform M σ} {s t : State M} {e : Event}
  {plugins : OrderBy Plugin Plugin.createdAt} {executions : OrderBy Execution Execution.createdAt}

/-- The same server on SQLite. -/
def Platform.onSqlite (A : Platform M σ) (plugins : OrderBy Plugin Plugin.createdAt)
    (executions : OrderBy Execution Execution.createdAt) : Platform M σ :=
  { A with repo := sqlite plugins executions }

/-! ## Orphans -/

/-- Every execution belongs to a plugin. -/
def NoOrphans (s : State M) : Prop :=
  ∀ x ∈ s.db.executions.rows, ∃ p ∈ s.db.plugins.rows, p.id = x.pluginID

/-- After a delete request is answered with success, no execution of its plugin is in any
    later state. An id that no plugin had may still be drawn for a new plugin afterwards. -/
def DeletesAreFinal (A : Platform M σ) (es : List Event) : Prop :=
  ∀ pre e post s t rid id, es = pre ++ e :: post → run (step A) (State.start M) pre = some s →
    e.action = .advance rid id → s.handlers rid = some ⟨some id, .deletePluginRow⟩ →
    step A s e = some t → t.handlers rid = some ⟨some id, .done .noContent⟩ →
    Throughout (step A) t post fun u =>
      (id ∈ u.issued → id ∈ t.issued) → ∀ x ∈ u.db.executions.rows, x.pluginID ≠ id

/-- A statement that inserts an execution finds the plugin, and one that deletes a plugin finds
    none of its executions. -/
def LeavesNoOrphan (s : State M) (e : Event) : Prop :=
  ∀ rid id, e.action = .advance rid id → e.env.repoFails = false →
    (∀ plugin result, s.handlers rid = some ⟨some id, .saveExecution plugin result⟩ →
      ∃ p ∈ s.db.plugins.rows, p.id = id) ∧
    (s.handlers rid = some ⟨some id, .deletePluginRow⟩ →
      ∀ x ∈ s.db.executions.rows, x.pluginID ≠ id)

/-- Steps that keep the ids of the plugins and add no execution. -/
theorem noOrphans_keep (hinv : NoOrphans s)
    (hplugins : ∀ p ∈ s.db.plugins.rows, ∃ q ∈ t.db.plugins.rows, q.id = p.id)
    (hexecutions : ∀ x ∈ t.db.executions.rows, x ∈ s.db.executions.rows) : NoOrphans t := by
  intro x hx
  obtain ⟨p, hp, hid⟩ := hinv x (hexecutions x hx)
  obtain ⟨q, hq, hqp⟩ := hplugins p hp
  exact ⟨q, hq, hqp.trans hid⟩

/-! ## The two critical statements -/

/-- On SQLite `SaveExecution` always inserts a fresh row. -/
theorem executeSave_sqlite {env : Env} {plugin : Plugin} {res : ExecutionResult} {next : Next M}
    (hids : IdsIssued s) (hcall : env.repoFails = false)
    (h : executeSave (A.onSqlite plugins executions) s env plugin res = some next) :
    ∃ x table, x.pluginID = plugin.id ∧ s.db.executions.insert x = some table ∧
      next.1.db = { s.db with executions := table } := by
  unfold executeSave at h
  split at h
  · cases h
  · next hfresh =>
      let x := executionOf env.uuid plugin.id env.now res
      obtain ⟨table, htable⟩ := Table.exists_insert (r := x) (find?_execution_of_fresh hids hfresh)
      have hsave : (A.onSqlite plugins executions).repo.saveExecution s.db x =
          .ok { s.db with executions := table } := by
        show SQLiteRepository.saveExecution s.db x = _
        unfold SQLiteRepository.saveExecution
        rw [htable]
      rw [Env.call_eq hcall, hsave] at h
      cases h
      exact ⟨x, table, rfl, htable, rfl⟩

theorem deleteRow_sqlite {env : Env} {id : String} (hcall : env.repoFails = false) :
    (deleteRow (A.onSqlite plugins executions) s env id).1.db = s.db.dropPlugin id := by
  have hdelete : (A.onSqlite plugins executions).repo.deletePluginRow s.db id =
      .ok (s.db.dropPlugin id) := rfl
  unfold deleteRow
  rw [Env.call_eq hcall, hdelete]
  rfl

/-- Only the row's deletion is answered with success. -/
theorem deleteRow_noContent {env : Env} {id : String}
    (h : (deleteRow A s env id).2 = .done .noContent) :
    (deleteRow A s env id).1.db = s.db.dropPlugin id := by
  unfold deleteRow at h ⊢
  split at h
  · cases h
  · next db hdb => exact A.repo.sound.deletePluginRow (Env.call_ok_iff.mp hdb).2

/-- The step of a handler whose phase is known. -/
theorem resumed {rid : Nat} {id : String} {phase : Phase M} (haction : e.action = .advance rid id)
    (hh : s.handlers rid = some ⟨some id, phase⟩) (h : step A s e = some t) :
    ∃ next, resume A s e.env id phase = some next ∧ State.put rid e.target next = t := by
  obtain ⟨phase', hh', next, hnext, ht⟩ := (step_advance haction).mp h
  rw [hh] at hh'
  cases hh'
  exact ⟨next, hnext, ht⟩

/-! ## One step -/

/-- An execution is inserted: nothing is orphaned exactly when its plugin is there. -/
theorem noOrphans_save {rid : Nat} {id : String} {plugin : Plugin} {res : ExecutionResult}
    (hreach : Reachable s) (hinv : NoOrphans s) (haction : e.action = .advance rid id)
    (hh : s.handlers rid = some ⟨some id, .saveExecution plugin res⟩)
    (hcall : e.env.repoFails = false)
    (h : step (A.onSqlite plugins executions) s e = some t) :
    NoOrphans t ↔ ∃ p ∈ s.db.plugins.rows, p.id = id := by
  have hid : id = plugin.id :=
    Option.some.inj (hreach.addressed rid _ plugin hh rfl)
  obtain ⟨next, hnext, rfl⟩ := resumed haction hh h
  obtain ⟨x, table, hx, htable, hdb⟩ := executeSave_sqlite hreach.ids hcall hnext
  have hplugins : next.1.db.plugins = s.db.plugins := by rw [hdb]
  have hexecutions : next.1.db.executions = table := by rw [hdb]
  constructor
  · intro ht
    obtain ⟨p, hp, hpx⟩ := ht x (by
      show x ∈ next.1.db.executions.rows
      rw [hexecutions]
      exact (Table.mem_rows_insert htable).mpr (Or.inr rfl))
    exact ⟨p, hplugins ▸ hp, by rw [hpx, hx, hid]⟩
  · intro hplugin y hy
    have hy' : y ∈ next.1.db.executions.rows := hy
    show ∃ p ∈ next.1.db.plugins.rows, p.id = y.pluginID
    rw [hplugins]
    rw [hexecutions] at hy'
    rcases (Table.mem_rows_insert htable).mp hy' with hy' | rfl
    · exact hinv y hy'
    · rw [hx, ← hid]
      exact hplugin

/-- A plugin is deleted: nothing is orphaned exactly when it has no executions. -/
theorem noOrphans_delete {rid : Nat} {id : String} (hinv : NoOrphans s)
    (haction : e.action = .advance rid id)
    (hh : s.handlers rid = some ⟨some id, .deletePluginRow⟩) (hcall : e.env.repoFails = false)
    (h : step (A.onSqlite plugins executions) s e = some t) :
    NoOrphans t ↔ ∀ x ∈ s.db.executions.rows, x.pluginID ≠ id := by
  obtain ⟨next, hnext, rfl⟩ := resumed haction hh h
  cases hnext
  have hdb : (State.put rid e.target
      (deleteRow (A.onSqlite plugins executions) s e.env id)).db = s.db.dropPlugin id :=
    deleteRow_sqlite hcall
  unfold NoOrphans
  rw [hdb]
  constructor
  · intro ht x hx hid
    obtain ⟨p, hp, hpx⟩ := ht x hx
    exact (mem_dropPlugin.mp hp).2 (hpx.trans hid)
  · intro hnone x hx
    obtain ⟨p, hp, hpx⟩ := hinv x hx
    exact ⟨p, mem_dropPlugin.mpr ⟨hp, hpx ▸ hnone x hx⟩, hpx⟩

/-- The other steps orphan nothing. -/
theorem noOrphans_other (hinv : NoOrphans s)
    (hsave : ∀ rid id plugin result, e.action = .advance rid id → e.env.repoFails = false →
      s.handlers rid ≠ some ⟨some id, .saveExecution plugin result⟩)
    (hdelete : ∀ rid id, e.action = .advance rid id → e.env.repoFails = false →
      s.handlers rid ≠ some ⟨some id, .deletePluginRow⟩)
    (h : Transition A s e t) : NoOrphans t := by
  cases h with
  | quiet | queueCompile | compile | receive | read | skip | build | dropStatus | restart =>
      exact hinv
  | savePlugin rid plugin plugins hrid hfree htarget hfresh hstatus hwasm hinsert =>
      refine noOrphans_keep hinv (fun p hp => ⟨p, ?_, rfl⟩) fun x hx => hx
      exact (Table.mem_rows_insert hinsert).mpr (Or.inl hp)
  | updatePluginCode rid id name source =>
      refine noOrphans_keep hinv (fun p hp => ?_) fun x hx => hx
      by_cases hid : p.id = id
      · exact ⟨p.edited name source, mem_setCode.mpr (Or.inr ⟨p, hp, hid, rfl⟩), rfl⟩
      · exact ⟨p, mem_setCode.mpr (Or.inl ⟨hp, hid⟩), rfl⟩
  | saveExecution rid id plugin result x table haction hold hcall =>
      exact absurd hold (hsave rid id plugin result haction hcall)
  | deleteExecutions rid id =>
      exact noOrphans_keep hinv (fun p hp => ⟨p, hp, rfl⟩)
        fun x hx => (mem_dropExecutions.mp hx).1
  | deletePluginRow rid id haction hold hcall => exact absurd hold (hdelete rid id haction hcall)
  | writeStatus id source build db haction hworker hwritten hdb =>
      subst hdb
      refine noOrphans_keep hinv (fun p hp => ?_) fun x hx => hx
      by_cases hid : p.id = id
      · exact ⟨p.built build.status build.compiledWasm build.compileErrors,
          mem_setStatus.mpr (Or.inr ⟨p, hp, hid, rfl⟩), rfl⟩
      · exact ⟨p, mem_setStatus.mpr (Or.inl ⟨hp, hid⟩), rfl⟩

/-- One step orphans nothing exactly when it meets the condition. -/
theorem noOrphans_step (hreach : Reachable s) (hinv : NoOrphans s)
    (h : step (A.onSqlite plugins executions) s e = some t) :
    NoOrphans t ↔ LeavesNoOrphan s e := by
  by_cases hsave : ∃ rid id plugin result, e.action = .advance rid id ∧
      e.env.repoFails = false ∧ s.handlers rid = some ⟨some id, .saveExecution plugin result⟩
  · obtain ⟨rid, id, plugin, result, haction, hcall, hh⟩ := hsave
    rw [noOrphans_save hreach hinv haction hh hcall h]
    constructor
    · intro hplugin rid' id' haction' _
      rw [haction] at haction'
      obtain ⟨rfl, rfl⟩ := Action.advance.inj haction'
      refine ⟨fun _ _ _ => hplugin, fun hh' => ?_⟩
      rw [hh] at hh'
      cases hh'
    · intro hok
      exact (hok rid id haction hcall).1 plugin result hh
  · by_cases hdelete : ∃ rid id, e.action = .advance rid id ∧ e.env.repoFails = false ∧
        s.handlers rid = some ⟨some id, .deletePluginRow⟩
    · obtain ⟨rid, id, haction, hcall, hh⟩ := hdelete
      rw [noOrphans_delete hinv haction hh hcall h]
      constructor
      · intro hnone rid' id' haction' _
        rw [haction] at haction'
        obtain ⟨rfl, rfl⟩ := Action.advance.inj haction'
        refine ⟨fun _ _ hh' => ?_, fun _ => hnone⟩
        rw [hh] at hh'
        cases hh'
      · intro hok
        exact (hok rid id haction hcall).2 hh
    · refine iff_of_true ?_ ?_
      · exact noOrphans_other hinv
          (fun rid id plugin result ha hc hh => hsave ⟨rid, id, plugin, result, ha, hc, hh⟩)
          (fun rid id ha hc hh => hdelete ⟨rid, id, ha, hc, hh⟩) (step_transition h)
      · intro rid id ha hc
        exact ⟨fun plugin result hh => absurd ⟨rid, id, plugin, result, ha, hc, hh⟩ hsave,
          fun hh => absurd ⟨rid, id, ha, hc, hh⟩ hdelete⟩

/-! ## Runs -/

/-- A deleted plugin stays deleted, so without orphans its executions stay away too. -/
theorem deletesAreFinal_of_noOrphans {es : List Event}
    (hnone : Throughout (step A) (State.start M) es NoOrphans) : DeletesAreFinal A es := by
  intro pre e post s t rid id hes hrun haction hh hstep hdone mid rest u hpost hmid hdrawn x hx hxid
  have htu : Inherits t u :=
    run_related inherits_refl inherits_trans
      (fun s e t h => inherits_step (step_transition h)) hmid
  have hgone : t.db.plugins.find? id = none := by
    obtain ⟨next, hnext, rfl⟩ := resumed haction hh hstep
    cases hnext
    rw [handlers_put, if_pos rfl] at hdone
    have hphase := congrArg Handler.phase (Option.some.inj hdone)
    show (deleteRow A s e.env id).1.db.plugins.find? id = none
    rw [deleteRow_noContent hphase, find?_dropPlugin, if_pos rfl]
  have hrunu : run (step A) (State.start M) (pre ++ e :: mid) = some u :=
    run_append_iff.mpr ⟨s, hrun, run_cons_iff.mpr ⟨t, hstep, hmid⟩⟩
  obtain ⟨p, hp, hpx⟩ := hnone (pre ++ e :: mid) rest u (by rw [hes, hpost]; simp) hrunu x hx
  have hrow : u.db.plugins.find? id = some p := by
    rw [← hxid, ← hpx]
    exact Table.find?_of_mem hp
  have hissued : id ∈ u.issued := by
    rw [← hxid, ← hpx]
    exact (reachable_run hrunu).ids.plugins p hp
  obtain ⟨q, hq, -⟩ := htu.2 id (hdrawn hissued) p hrow
  rw [hgone] at hq
  cases hq

/-- On SQLite, every execution belongs to a plugin in every state and deletes are final exactly
    in the runs whose steps leave no orphan. -/
theorem no_orphans_iff (A : Platform M σ) (plugins : OrderBy Plugin Plugin.createdAt)
    (executions : OrderBy Execution Execution.createdAt) (es : List Event) :
    (Throughout (step (A.onSqlite plugins executions)) (State.start M) es NoOrphans ∧
        DeletesAreFinal (A.onSqlite plugins executions) es) ↔
      EachStep (step (A.onSqlite plugins executions)) (State.start M) es LeavesNoOrphan := by
  have haux : ∀ s e t, Reachable s → step (A.onSqlite plugins executions) s e = some t →
      Reachable t := fun s e t hs h => reachable_step hs (step_transition h)
  have hiff : Throughout (step (A.onSqlite plugins executions)) (State.start M) es NoOrphans ↔
      EachStep (step (A.onSqlite plugins executions)) (State.start M) es LeavesNoOrphan := by
    refine throughout_iff_eachStep haux ?_ es reachable_start fun _ hx => (nomatch hx)
    intro s e t hs hinv hstep
    exact noOrphans_step hs hinv hstep
  rw [← hiff]
  constructor
  · intro h
    exact h.1
  · intro h
    exact ⟨h, deletesAreFinal_of_noOrphans h⟩

/-- A plugin is deleted while it runs: the execution is inserted after it. -/
theorem orphan_after_delete :
    ¬ ∀ (M σ : Type) (A : Platform M σ) (plugins : OrderBy Plugin Plugin.createdAt)
      (executions : OrderBy Execution Execution.createdAt) (es : List Event),
      Throughout (step (A.onSqlite plugins executions)) (State.start M) es NoOrphans ∧
        DeletesAreFinal (A.onSqlite plugins executions) es := by
  intro h
  let es : List Event := createAndBuild ++
    [(Action.request 1 (.executePlugin "p" ⟨[], false⟩)).quietly "",
      (Action.advance 1 "p").quietly "", (Action.advance 1 "p").quietly "",
      (Action.advance 1 "p").quietly "", (Action.advance 1 "p").quietly "",
      (Action.request 2 (.deletePlugin "p")).quietly "", (Action.advance 2 "p").quietly "",
      (Action.advance 1 "p").quietly "x"]
  obtain ⟨s, hrun, hplugins, hexecutions⟩ :
      ∃ s, run (step (Platform.small.onSqlite (.stable _ _) (.stable _ _)))
          (State.start Bytes) es = some s ∧
        s.db.plugins.rows = [] ∧ s.db.executions.rows.map Execution.pluginID = ["p"] :=
    ⟨_, rfl, rfl, rfl⟩
  have hinv := (h _ _ .small (.stable _ _) (.stable _ _) es).1 es [] s (List.append_nil _).symm hrun
  obtain ⟨x, hx, -⟩ := List.mem_map.mp (hexecutions ▸ List.mem_singleton.mpr rfl)
  obtain ⟨p, hp, -⟩ := hinv x hx
  rw [hplugins] at hp
  cases hp

end PluginSandbox.Server
