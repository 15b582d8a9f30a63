/-
  What the two list queries return, on every backend: all rows that are asked for, and no others.

  `Sound` of the contract covers the writes and `GetPlugin`. A list of plugins may come without
  the bytes (SQLite and PostgreSQL leave `compiled_wasm` out of the query), so lists are compared
  without them.
-/
import PluginSandbox.Db.Contract

namespace PluginSandbox.Db

open PluginSandbox.Lib

def Plugin.withoutWasm (p : Plugin) : Plugin := { p with compiledWasm := [] }

/-- The lists are the tables, in some order. -/
structure Reads (R : Repository) : Prop where
  listPlugins : ∀ {db data}, R.listPlugins db = .ok data →
    ((data.getD []).map Plugin.withoutWasm).Perm (db.plugins.rows.map Plugin.withoutWasm)
  getExecutions : ∀ {db id data}, R.getExecutions db id = .ok data →
    (data.getD []).Perm (db.executions.select fun x => x.pluginID == id)

theorem getD_scanRows {ρ : Type} {rows : List ρ} {data : Slice ρ}
    (h : scanRows none (RowStream.ofList rows) = .ok data) : data.getD [] = rows := by
  rw [scanRows_none_ofList] at h
  cases h
  exact getD_ofRows rows

section Backends

variable (plugins : OrderBy Plugin Plugin.createdAt)
  (executions : OrderBy Execution Execution.createdAt)

theorem sqlite_reads : Reads (sqlite plugins executions).toRepository where
  listPlugins {db data} h := by
    have hlist : SQLiteRepository.listPlugins plugins db = .ok data := h
    rw [getD_scanRows hlist, List.map_map]
    have hsame : Plugin.withoutWasm ∘ (fun p => { p with compiledWasm := [] }) =
        Plugin.withoutWasm := rfl
    rw [hsame]
    exact (plugins.perm db.plugins.rows).map _
  getExecutions {db id data} h := by
    have hlist : SQLiteRepository.getExecutions executions db id = .ok data := h
    rw [getD_scanRows hlist]
    exact executions.perm _

theorem postgres_reads : Reads (postgres plugins executions).toRepository where
  listPlugins := (sqlite_reads plugins executions).listPlugins
  getExecutions {db id data} h := by
    have hlist : PostgresRepository.getExecutions executions db id = .ok data := h
    rw [postgres_getExecutions, guarded_ok_iff] at hlist
    exact (sqlite_reads plugins executions).getExecutions hlist.2

theorem mongo_reads : Reads (mongo plugins executions).toRepository where
  listPlugins {db data} h := by
    cases h
    exact (plugins.perm db.plugins.rows).map _
  getExecutions {db id data} h := by
    cases h
    exact executions.perm _

/-- The list does not fail by itself. -/
theorem sqlite_lists (db : Database) :
    ∃ data, (sqlite plugins executions).listPlugins db = .ok data :=
  ⟨_, scanRows_none_ofList _⟩

end Backends

variable {R : Repository} {db : Database}

/-- A listed plugin is a row. -/
theorem mem_of_listed (hreads : Reads R) {data : Slice Plugin} (h : R.listPlugins db = .ok data)
    {p : Plugin} (hp : p ∈ data.getD []) :
    ∃ row ∈ db.plugins.rows, row.withoutWasm = p.withoutWasm :=
  List.mem_map.mp ((hreads.listPlugins h).mem_iff.mp (List.mem_map_of_mem hp))

/-- A listed execution is a row of its plugin. -/
theorem mem_of_getExecutions (hreads : Reads R) {id : String} {data : Slice Execution}
    (h : R.getExecutions db id = .ok data) {x : Execution} (hx : x ∈ data.getD []) :
    x ∈ db.executions.rows ∧ x.pluginID = id := by
  have hselected := (hreads.getExecutions h).mem_iff.mp hx
  obtain ⟨hmem, hid⟩ := List.mem_filter.mp hselected
  exact ⟨hmem, beq_iff_eq.mp hid⟩

end PluginSandbox.Db
