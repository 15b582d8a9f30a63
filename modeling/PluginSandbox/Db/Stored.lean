/-
  A database whose columns keep less of an instant.

  Instants are only stored and shown: a call neither selects rows by them nor computes with them.
  So each call commutes with cutting all instants of the database (`storedDatabase`). What a call
  shows, and what a run of calls leaves, tells the two databases apart as soon as an instant in it
  is not kept (`sameRows_stored_iff` and the lemmas about lists).
-/
import PluginSandbox.Db.Sqlite

namespace PluginSandbox.Db

open PluginSandbox.Lib

section Stored

variable (keep : Int → Int)

theorem id_storedPlugin (p : Plugin) : (storedPlugin keep p).id = p.id := rfl

theorem id_storedExecution (x : Execution) : (storedExecution keep x).id = x.id := rfl

/-- The database with every instant as its columns keep it. -/
def storedDatabase (db : Database) : Database where
  plugins := db.plugins.mapRows (storedPlugin keep) (id_storedPlugin keep)
  executions := db.executions.mapRows (storedExecution keep) (id_storedExecution keep)

/-- Its columns keep all instants of the database. -/
structure Database.Kept (db : Database) : Prop where
  plugins : ∀ p ∈ db.plugins.rows, keep p.createdAt = p.createdAt
  executions : ∀ x ∈ db.executions.rows, keep x.createdAt = x.createdAt

/-! ## The calls -/

variable {keep} (db : Database)

theorem stored_savePlugin (p : Plugin) :
    SQLiteRepository.savePlugin (storedDatabase keep db) (storedPlugin keep p) =
      (SQLiteRepository.savePlugin db p).map (storedDatabase keep) := by
  unfold SQLiteRepository.savePlugin
  have hinsert : (storedDatabase keep db).plugins.insert (storedPlugin keep p) =
      (db.plugins.insert p).map fun t => t.mapRows (storedPlugin keep) (id_storedPlugin keep) :=
    Table.insert_mapRows (id_storedPlugin keep) db.plugins p
  rw [hinsert]
  cases db.plugins.insert p <;> rfl

theorem find?_storedDatabase (id : String) :
    (storedDatabase keep db).plugins.find? id = (db.plugins.find? id).map (storedPlugin keep) :=
  Table.find?_mapRows (id_storedPlugin keep) db.plugins id

theorem find?_storedExecutions (id : String) :
    (storedDatabase keep db).executions.find? id =
      (db.executions.find? id).map (storedExecution keep) :=
  Table.find?_mapRows (id_storedExecution keep) db.executions id

theorem select_storedDatabase (id : String) :
    (storedDatabase keep db).executions.select (fun x => x.pluginID == id) =
      (db.executions.select fun x => x.pluginID == id).map (storedExecution keep) :=
  Table.select_mapRows (id_storedExecution keep) db.executions fun _ => rfl

theorem stored_getPlugin (id : String) :
    SQLiteRepository.getPlugin (storedDatabase keep db) id =
      (SQLiteRepository.getPlugin db id).map (storedPlugin keep) := by
  unfold SQLiteRepository.getPlugin
  rw [find?_storedDatabase]
  cases db.plugins.find? id <;> rfl

theorem stored_updatePluginStatus (id status : String) (wasm : Bytes) (errors : String) :
    SQLiteRepository.updatePluginStatus (storedDatabase keep db) id status wasm errors =
      (SQLiteRepository.updatePluginStatus db id status wasm errors).map (storedDatabase keep) := by
  refine congrArg Except.ok (Database.ext ?_ rfl)
  exact Table.update_mapRows (id_storedPlugin keep) db.plugins (id_statusWrite status wasm errors)
    (fun _ => rfl) fun _ => rfl

theorem stored_updatePluginCode (id name sourceCode : String) :
    SQLiteRepository.updatePluginCode (storedDatabase keep db) id name sourceCode =
      (SQLiteRepository.updatePluginCode db id name sourceCode).map (storedDatabase keep) := by
  refine congrArg Except.ok (Database.ext ?_ rfl)
  exact Table.update_mapRows (id_storedPlugin keep) db.plugins (id_codeWrite name sourceCode)
    (fun _ => rfl) fun _ => rfl

theorem stored_saveExecution (x : Execution) :
    SQLiteRepository.saveExecution (storedDatabase keep db) (storedExecution keep x) =
      (SQLiteRepository.saveExecution db x).map (storedDatabase keep) := by
  unfold SQLiteRepository.saveExecution
  have hinsert : (storedDatabase keep db).executions.insert (storedExecution keep x) =
      (db.executions.insert x).map fun t =>
        t.mapRows (storedExecution keep) (id_storedExecution keep) :=
    Table.insert_mapRows (id_storedExecution keep) db.executions x
  rw [hinsert]
  cases db.executions.insert x <;> rfl

theorem stored_deleteExecutions (id : String) :
    SQLiteRepository.deleteExecutions (storedDatabase keep db) id =
      (SQLiteRepository.deleteExecutions db id).map (storedDatabase keep) := by
  refine congrArg Except.ok (Database.ext rfl ?_)
  exact Table.delete_mapRows (id_storedExecution keep) db.executions fun _ => rfl

theorem stored_deletePluginRow (id : String) :
    SQLiteRepository.deletePluginRow (storedDatabase keep db) id =
      (SQLiteRepository.deletePluginRow db id).map (storedDatabase keep) := by
  refine congrArg Except.ok (Database.ext ?_ rfl)
  exact Table.delete_mapRows (id_storedPlugin keep) db.plugins fun _ => rfl

end Stored

/-! ## Rows that are shown -/

section Shown

variable {keep : Int → Int}

theorem id_withoutWasm (p : Plugin) : ({ p with compiledWasm := [] } : Plugin).id = p.id := rfl

/-- A list shows the instants of its plugins. -/
theorem samePlugins_iff (order order' : OrderBy Plugin Plugin.createdAt) {l : List Plugin}
    (hl : (l.map Plugin.id).Nodup) :
    SameUpToTies Plugin.createdAt ((order.sort l).map fun p => { p with compiledWasm := [] })
        ((order'.sort (l.map (storedPlugin keep))).map fun p => { p with compiledWasm := [] }) ↔
      ∀ p ∈ l, keep p.createdAt = p.createdAt := by
  have hsame := sameUpToTies_map_iff (id_storedPlugin keep) id_withoutWasm (fun _ => rfl)
    (fun p hshown => (storedPlugin_eq_iff p).mpr (congrArg Plugin.createdAt hshown))
    order order' hl
  simp only [storedPlugin_eq_iff] at hsame
  exact hsame

/-- A list shows the instants of its executions. -/
theorem sameExecutions_iff (order order' : OrderBy Execution Execution.createdAt)
    {l : List Execution} (hl : (l.map Execution.id).Nodup) :
    SameUpToTies Execution.createdAt (order.sort l) (order'.sort (l.map (storedExecution keep))) ↔
      ∀ x ∈ l, keep x.createdAt = x.createdAt := by
  have hsame := sameUpToTies_map_iff (id_storedExecution keep) (fun _ => rfl) (fun _ => rfl)
    (fun _ hshown => hshown) order order' hl
  rw [List.map_id', List.map_id'] at hsame
  simp only [storedExecution_eq_iff] at hsame
  exact hsame

/-- Both databases hold the same rows exactly when all instants are kept. -/
theorem perm_stored_iff (db : Database) :
    (db.plugins.rows.Perm (storedDatabase keep db).plugins.rows ∧
        db.executions.rows.Perm (storedDatabase keep db).executions.rows) ↔ db.Kept keep := by
  have hplugins := perm_map_iff (id_storedPlugin keep) (fun _ => rfl) (fun _ hshown => hshown)
    db.plugins.nodup
  have hexecutions := perm_map_iff (id_storedExecution keep) (fun _ => rfl)
    (fun _ hshown => hshown) db.executions.nodup
  simp only [List.map_id'] at hplugins hexecutions
  simp only [storedPlugin_eq_iff] at hplugins
  simp only [storedExecution_eq_iff] at hexecutions
  rw [show (storedDatabase keep db).plugins.rows = db.plugins.rows.map (storedPlugin keep) from rfl,
    show (storedDatabase keep db).executions.rows =
      db.executions.rows.map (storedExecution keep) from rfl, hplugins, hexecutions]
  exact ⟨fun h => ⟨h.1, h.2⟩, fun h => ⟨h.plugins, h.executions⟩⟩

end Shown

end PluginSandbox.Db
