/-
  What the server relies on from a `Repository`, and that the three backends provide it.

  * `Sound`: a write that returns no error has exactly its documented effect on the tables;
    reads report the table as it is.
  * `Isolated`: a call about one plugin is decided by that plugin's row and executions
    (`Database.view`), changes nothing else, and treats equal views alike.
  * `Reliable`: a status write does not fail. SQLite and Mongo are reliable without driver
    faults; PostgreSQL is not (`version` can run out of range, output can have a zero byte).

  The PostgreSQL calls are those of SQLite behind checks (`postgres_savePlugin` and the lemmas
  after it), with the instants as its columns keep them, so its contract is that of SQLite.
  `LawfulRepository` bundles a repository with the first two, so every result about a lawful
  repository is one about all three backends. Columns that keep less of an instant are left to
  the clock there: the server is given it as the column keeps it.
-/
import PluginSandbox.Db.Sqlite
import PluginSandbox.Db.Postgres
import PluginSandbox.Db.Mongo

namespace PluginSandbox.Db

open PluginSandbox.Lib

/-! ## The effects -/

/-- The row after a status write. -/
def Plugin.built (status : String) (compiledWasm : Bytes) (compileErrors : String)
    (p : Plugin) : Plugin :=
  { p with status, compiledWasm, compileErrors, version := p.version + 1 }

/-- The row after a code update. -/
def Plugin.edited (name sourceCode : String) (p : Plugin) : Plugin :=
  { p with name, sourceCode, status := "pending", compileErrors := "" }

def Database.setStatus (db : Database) (id status : String) (compiledWasm : Bytes)
    (compileErrors : String) : Database :=
  { db with
    plugins := db.plugins.update (fun p => p.id == id)
      (Plugin.built status compiledWasm compileErrors) fun _ => rfl }

def Database.setCode (db : Database) (id name sourceCode : String) : Database :=
  { db with
    plugins := db.plugins.update (fun p => p.id == id) (Plugin.edited name sourceCode)
      fun _ => rfl }

def Database.dropExecutions (db : Database) (id : String) : Database :=
  { db with executions := db.executions.delete fun x => x.pluginID == id }

def Database.dropPlugin (db : Database) (id : String) : Database :=
  { db with plugins := db.plugins.delete fun p => p.id == id }

/-- Rewriting the rows with an id rewrites the row under that id. -/
theorem find?_update_id (t : Table Plugin Plugin.id) (id : String) (f : Plugin → Plugin)
    (hf : ∀ p, (f p).id = p.id) (k : String) :
    (t.update (fun p => p.id == id) f hf).find? k =
      if k = id then (t.find? k).map f else t.find? k := by
  rw [Table.find?_update]
  cases hk : t.find? k with
  | none => simp
  | some p =>
      have hp : p.id = k := (Table.find?_some hk).2
      subst hp
      by_cases h : p.id = id <;> simp [h]

theorem find?_setStatus (db : Database) (id status : String) (wasm : Bytes) (errors : String)
    (k : String) :
    (db.setStatus id status wasm errors).plugins.find? k =
      if k = id then (db.plugins.find? k).map (Plugin.built status wasm errors)
      else db.plugins.find? k :=
  find?_update_id db.plugins id (Plugin.built status wasm errors) (fun _ => rfl) k

theorem find?_setCode (db : Database) (id name sourceCode k : String) :
    (db.setCode id name sourceCode).plugins.find? k =
      if k = id then (db.plugins.find? k).map (Plugin.edited name sourceCode)
      else db.plugins.find? k :=
  find?_update_id db.plugins id (Plugin.edited name sourceCode) (fun _ => rfl) k

theorem find?_dropPlugin (db : Database) (id k : String) :
    (db.dropPlugin id).plugins.find? k = if k = id then none else db.plugins.find? k := by
  unfold Database.dropPlugin
  rw [Table.find?_delete]
  cases hk : db.plugins.find? k with
  | none => simp
  | some p =>
      have hp : p.id = k := (Table.find?_some hk).2
      subst hp
      by_cases h : p.id = id <;> simp [h]

theorem mem_update_id {t : Table Plugin Plugin.id} {id : String} (f : Plugin → Plugin)
    (hf : ∀ p, (f p).id = p.id) {p : Plugin} :
    p ∈ (t.update (fun p => p.id == id) f hf).rows ↔
      (p ∈ t.rows ∧ p.id ≠ id) ∨ ∃ q ∈ t.rows, q.id = id ∧ p = f q := by
  rw [Table.mem_rows_update]
  constructor
  · intro h
    obtain ⟨q, hq, rfl⟩ := h
    by_cases hid : q.id = id
    · refine Or.inr ⟨q, hq, hid, ?_⟩
      simp [hid]
    · refine Or.inl ?_
      simp [hid, hq]
  · intro h
    rcases h with ⟨hp, hid⟩ | ⟨q, hq, hid, rfl⟩
    · exact ⟨p, hp, by simp [hid]⟩
    · exact ⟨q, hq, by simp [hid]⟩

theorem mem_setStatus {db : Database} {id status : String} {wasm : Bytes} {errors : String}
    {p : Plugin} :
    p ∈ (db.setStatus id status wasm errors).plugins.rows ↔
      (p ∈ db.plugins.rows ∧ p.id ≠ id) ∨
        ∃ q ∈ db.plugins.rows, q.id = id ∧ p = q.built status wasm errors :=
  mem_update_id (Plugin.built status wasm errors) fun _ => rfl

theorem mem_setCode {db : Database} {id name sourceCode : String} {p : Plugin} :
    p ∈ (db.setCode id name sourceCode).plugins.rows ↔
      (p ∈ db.plugins.rows ∧ p.id ≠ id) ∨
        ∃ q ∈ db.plugins.rows, q.id = id ∧ p = q.edited name sourceCode :=
  mem_update_id (Plugin.edited name sourceCode) fun _ => rfl

theorem mem_dropPlugin {db : Database} {id : String} {p : Plugin} :
    p ∈ (db.dropPlugin id).plugins.rows ↔ p ∈ db.plugins.rows ∧ p.id ≠ id := by
  unfold Database.dropPlugin
  rw [Table.mem_rows_delete, beq_eq_false_iff_ne]

theorem mem_dropExecutions {db : Database} {id : String} {x : Execution} :
    x ∈ (db.dropExecutions id).executions.rows ↔ x ∈ db.executions.rows ∧ x.pluginID ≠ id := by
  unfold Database.dropExecutions
  rw [Table.mem_rows_delete, beq_eq_false_iff_ne]

/-! ## Sound -/

structure Sound (R : Repository) : Prop where
  savePlugin : ∀ {db p db'}, R.savePlugin db p = .ok db' →
    ∃ plugins, db.plugins.insert p = some plugins ∧ db' = { db with plugins }
  getPlugin : ∀ {db id p}, R.getPlugin db id = .ok p ↔ db.plugins.find? id = some p
  updatePluginStatus : ∀ {db id status wasm errors db'},
    R.updatePluginStatus db id status wasm errors = .ok db' →
      db' = db.setStatus id status wasm errors
  updatePluginCode : ∀ {db id name source db'},
    R.updatePluginCode db id name source = .ok db' → db' = db.setCode id name source
  saveExecution : ∀ {db x db'}, R.saveExecution db x = .ok db' →
    ∃ executions, db.executions.insert x = some executions ∧ db' = { db with executions }
  deleteExecutions : ∀ {db id db'}, R.deleteExecutions db id = .ok db' →
    db' = db.dropExecutions id
  deletePluginRow : ∀ {db id db'}, R.deletePluginRow db id = .ok db' → db' = db.dropPlugin id

/-! ## Isolated -/

/-- What the database holds of one plugin: its row and its executions in order. -/
def Database.view (db : Database) (id : String) : Option Plugin × List Execution :=
  (db.plugins.find? id, db.executions.select fun x => x.pluginID == id)

/-- The outcome of a write, seen by one plugin. -/
def viewed (id : String) (r : Except DbError Database) :
    Except DbError (Option Plugin × List Execution) :=
  r.map fun db => db.view id

structure Isolated (R : Repository) : Prop where
  savePlugin : ∀ {db₁ db₂ : Database} {p}, db₁.view p.id = db₂.view p.id →
    viewed p.id (R.savePlugin db₁ p) = viewed p.id (R.savePlugin db₂ p)
  getPlugin : ∀ {db₁ db₂ : Database} {id}, db₁.view id = db₂.view id →
    R.getPlugin db₁ id = R.getPlugin db₂ id
  updatePluginStatus : ∀ {db₁ db₂ : Database} {id status wasm errors},
    db₁.view id = db₂.view id →
      viewed id (R.updatePluginStatus db₁ id status wasm errors) =
        viewed id (R.updatePluginStatus db₂ id status wasm errors)
  updatePluginCode : ∀ {db₁ db₂ : Database} {id name source}, db₁.view id = db₂.view id →
    viewed id (R.updatePluginCode db₁ id name source) =
      viewed id (R.updatePluginCode db₂ id name source)
  /-- The primary key of `executions` spans all plugins, so the row needs a fresh id. -/
  saveExecution : ∀ {db₁ db₂ : Database} {x : Execution},
    db₁.executions.find? x.id = none → db₂.executions.find? x.id = none →
      db₁.view x.pluginID = db₂.view x.pluginID →
        viewed x.pluginID (R.saveExecution db₁ x) = viewed x.pluginID (R.saveExecution db₂ x)
  getExecutions : ∀ {db₁ db₂ : Database} {id}, db₁.view id = db₂.view id →
    R.getExecutions db₁ id = R.getExecutions db₂ id
  deleteExecutions : ∀ {db₁ db₂ : Database} {id}, db₁.view id = db₂.view id →
    viewed id (R.deleteExecutions db₁ id) = viewed id (R.deleteExecutions db₂ id)
  deletePluginRow : ∀ {db₁ db₂ : Database} {id}, db₁.view id = db₂.view id →
    viewed id (R.deletePluginRow db₁ id) = viewed id (R.deletePluginRow db₂ id)

/-! ## Views under the effects -/

theorem view_setStatus (db : Database) (id status : String) (wasm : Bytes) (errors k : String) :
    (db.setStatus id status wasm errors).view k =
      if k = id then ((db.view k).1.map (Plugin.built status wasm errors), (db.view k).2)
      else db.view k := by
  unfold Database.view
  rw [find?_setStatus]
  split <;> rfl

theorem view_setCode (db : Database) (id name sourceCode k : String) :
    (db.setCode id name sourceCode).view k =
      if k = id then ((db.view k).1.map (Plugin.edited name sourceCode), (db.view k).2)
      else db.view k := by
  unfold Database.view
  rw [find?_setCode]
  split <;> rfl

theorem view_dropPlugin (db : Database) (id k : String) :
    (db.dropPlugin id).view k = if k = id then (none, (db.view k).2) else db.view k := by
  unfold Database.view
  rw [find?_dropPlugin]
  split <;> rfl

theorem view_dropExecutions (db : Database) (id k : String) :
    (db.dropExecutions id).view k = if k = id then ((db.view k).1, []) else db.view k := by
  unfold Database.view Database.dropExecutions Table.select Table.delete
  rw [List.filter_filter]
  split
  · next h =>
      subst h
      congr 1
      refine List.filter_eq_nil_iff.mpr fun x _ => ?_
      simp
  · next h =>
      congr 1
      refine List.filter_congr fun x _ => ?_
      by_cases hx : x.pluginID = k
      · simp [hx, h]
      · simp [hx]

theorem view_insertPlugin {db : Database} {p : Plugin} {plugins : Table Plugin Plugin.id}
    (h : db.plugins.insert p = some plugins) (k : String) :
    ({ db with plugins } : Database).view k =
      if k = p.id then (some p, (db.view k).2) else db.view k := by
  unfold Database.view
  rw [Table.find?_insert h]
  split <;> rfl

theorem view_insertExecution {db : Database} {x : Execution}
    {executions : Table Execution Execution.id}
    (h : db.executions.insert x = some executions) (k : String) :
    ({ db with executions } : Database).view k =
      if k = x.pluginID then ((db.view k).1, (db.view k).2 ++ [x]) else db.view k := by
  unfold Database.view Table.select
  rw [Table.rows_insert h, List.filter_append]
  split
  · next hk => simp [hk]
  · next hk => simp [Ne.symm hk]

/-! ## PostgreSQL as SQLite behind checks -/

/-- A call behind a check. -/
def guarded {α : Type} (ok : Bool) (cause : DriverError) (r : Except DbError α) :
    Except DbError α := if ok then r else .error (.driver cause)

theorem guarded_ok_iff {α : Type} {ok : Bool} {cause : DriverError} {r : Except DbError α} {a : α} :
    guarded ok cause r = .ok a ↔ ok = true ∧ r = .ok a := by
  unfold guarded
  cases ok <;> simp

theorem viewed_guarded {ok : Bool} {cause : DriverError} {id : String}
    {r₁ r₂ : Except DbError Database} (h : viewed id r₁ = viewed id r₂) :
    viewed id (guarded ok cause r₁) = viewed id (guarded ok cause r₂) := by
  unfold guarded
  split
  · exact h
  · rfl

/-- A check of the rows with an id looks only at the row under the id. -/
theorem any_row_id (t : Table Plugin Plugin.id) (id : String) (q : Plugin → Bool) :
    (t.rows.any fun p => p.id == id && q p) = ((t.find? id).any q) := by
  rw [Bool.eq_iff_iff, List.any_eq_true, Option.any_eq_true]
  constructor
  · rintro ⟨p, hp, hq⟩
    rw [Bool.and_eq_true, beq_iff_eq] at hq
    obtain ⟨rfl, hq⟩ := hq
    exact ⟨p, Table.find?_of_mem hp, hq⟩
  · rintro ⟨p, hp, hq⟩
    obtain ⟨hmem, hid⟩ := Table.find?_some hp
    exact ⟨p, hmem, by rw [hid, beq_self_eq_true, Bool.true_and]; exact hq⟩

theorem any_execution (db : Database) (id : String) :
    (db.executions.rows.any fun x => x.pluginID == id) = !(db.view id).2.isEmpty := by
  unfold Database.view Table.select
  rw [Bool.eq_iff_iff, List.any_eq_true, Bool.not_eq_true', List.isEmpty_eq_false_iff_exists_mem]
  simp only [List.mem_filter]

section Guards

open PostgresRepository (int4 text pluginTexts executionTexts)

theorem postgres_savePlugin (keep : Int → Int) (db : Database) (p : Plugin) :
    PostgresRepository.savePlugin keep db p =
      guarded (int4 p.version) .outOfRange (guarded (pluginTexts p) .invalidText
        (SQLiteRepository.savePlugin db (storedPlugin keep p))) := rfl

/-- Every row has its check behind it. -/
theorem postgres_getPlugin (db : Database) (id : String) :
    PostgresRepository.getPlugin db id =
      guarded ((db.plugins.find? id).isSome || text id) .invalidText
        (SQLiteRepository.getPlugin db id) := by
  unfold PostgresRepository.getPlugin SQLiteRepository.getPlugin guarded
  cases db.plugins.find? id with
  | none => rfl
  | some p => rfl

theorem postgres_updatePluginStatus (db : Database) (id status : String) (wasm : Bytes)
    (errors : String) :
    PostgresRepository.updatePluginStatus db id status wasm errors =
      guarded (text id && text status && text errors) .invalidText
        (guarded ((db.plugins.find? id).all fun p => int4 (p.version + 1)) .outOfRange
          (SQLiteRepository.updatePluginStatus db id status wasm errors)) := by
  have hguard : PostgresRepository.updatePluginStatus db id status wasm errors =
      guarded (text id && text status && text errors) .invalidText
        (if db.plugins.rows.any fun p => p.id == id && !int4 (p.version + 1) then
          .error (.driver .outOfRange)
        else SQLiteRepository.updatePluginStatus db id status wasm errors) := rfl
  have hrange : (if db.plugins.rows.any fun p => p.id == id && !int4 (p.version + 1) then
        .error (.driver .outOfRange)
      else SQLiteRepository.updatePluginStatus db id status wasm errors) =
      guarded ((db.plugins.find? id).all fun p => int4 (p.version + 1)) .outOfRange
        (SQLiteRepository.updatePluginStatus db id status wasm errors) := by
    rw [any_row_id]
    unfold guarded
    cases db.plugins.find? id with
    | none => rfl
    | some p =>
        rw [Option.any_some, Option.all_some]
        cases int4 (p.version + 1) with
        | false => rfl
        | true => rfl
  rw [hguard, hrange]

theorem postgres_updatePluginCode (db : Database) (id name sourceCode : String) :
    PostgresRepository.updatePluginCode db id name sourceCode =
      guarded (text id && text name && text sourceCode) .invalidText
        (SQLiteRepository.updatePluginCode db id name sourceCode) := rfl

theorem postgres_saveExecution (keep : Int → Int) (db : Database) (x : Execution) :
    PostgresRepository.saveExecution keep db x =
      guarded (executionTexts x) .invalidText
        (guarded ((db.executions.find? x.id).isSome || (db.plugins.find? x.pluginID).isSome)
          .foreignKeyViolation (SQLiteRepository.saveExecution db (storedExecution keep x))) := by
  have hkey : (storedExecution keep x).id = x.id := rfl
  unfold PostgresRepository.saveExecution SQLiteRepository.saveExecution guarded
  cases ht : db.executions.insert (storedExecution keep x) with
  | none => rw [← hkey, Table.insert_eq_none.mp ht, Bool.true_or, if_pos rfl]
  | some t =>
      rw [← hkey, Table.find?_of_insert ht, Option.isSome_none, Bool.false_or]

theorem postgres_getExecutions (order : OrderBy Execution Execution.createdAt) (db : Database)
    (pluginID : String) :
    PostgresRepository.getExecutions order db pluginID =
      guarded (text pluginID) .invalidText
        (SQLiteRepository.getExecutions order db pluginID) := rfl

theorem postgres_deleteExecutions (db : Database) (id : String) :
    PostgresRepository.deleteExecutions db id =
      guarded (text id) .invalidText (SQLiteRepository.deleteExecutions db id) := rfl

theorem postgres_deletePluginRow (db : Database) (id : String) :
    PostgresRepository.deletePluginRow db id =
      guarded (text id) .invalidText
        (guarded (!(db.plugins.find? id).isSome || (db.view id).2.isEmpty) .foreignKeyViolation
          (SQLiteRepository.deletePluginRow db id)) := by
  unfold PostgresRepository.deletePluginRow guarded
  rw [any_execution]
  cases (db.plugins.find? id).isSome with
  | false => rfl
  | true =>
      cases (db.view id).2.isEmpty with
      | false => rfl
      | true => rfl

end Guards

/-! ## The backends -/

section Backends

variable (plugins : OrderBy Plugin Plugin.createdAt)
  (executions : OrderBy Execution Execution.createdAt)

theorem getPlugin_ok_iff {db : Database} {id : String} {p : Plugin} :
    SQLiteRepository.getPlugin db id = .ok p ↔ db.plugins.find? id = some p := by
  unfold SQLiteRepository.getPlugin
  cases db.plugins.find? id with
  | none => simp
  | some q => simp

theorem sqlite_sound : Sound (SQLiteRepository.repository plugins executions) where
  savePlugin {db p db'} h := by
    have hcall : SQLiteRepository.savePlugin db p = .ok db' := h
    unfold SQLiteRepository.savePlugin at hcall
    split at hcall
    · cases hcall
    · next t ht => exact ⟨t, ht, (Except.ok.inj hcall).symm⟩
  getPlugin := getPlugin_ok_iff
  updatePluginStatus h := (Except.ok.inj h).symm
  updatePluginCode h := (Except.ok.inj h).symm
  saveExecution {db x db'} h := by
    have hcall : SQLiteRepository.saveExecution db x = .ok db' := h
    unfold SQLiteRepository.saveExecution at hcall
    split at hcall
    · cases hcall
    · next t ht => exact ⟨t, ht, (Except.ok.inj hcall).symm⟩
  deleteExecutions h := (Except.ok.inj h).symm
  deletePluginRow h := (Except.ok.inj h).symm

theorem mongo_sound : Sound (MongoRepository.repository plugins executions) where
  savePlugin := (sqlite_sound plugins executions).savePlugin
  getPlugin := (sqlite_sound plugins executions).getPlugin
  updatePluginStatus := (sqlite_sound plugins executions).updatePluginStatus
  updatePluginCode := (sqlite_sound plugins executions).updatePluginCode
  saveExecution := (sqlite_sound plugins executions).saveExecution
  deleteExecutions := (sqlite_sound plugins executions).deleteExecutions
  deletePluginRow := (sqlite_sound plugins executions).deletePluginRow

theorem postgres_sound : Sound (PostgresRepository.repository id plugins executions) where
  savePlugin {db p db'} h := by
    have hcall : PostgresRepository.savePlugin id db p = .ok db' := h
    rw [postgres_savePlugin, guarded_ok_iff, guarded_ok_iff] at hcall
    exact (sqlite_sound plugins executions).savePlugin hcall.2.2
  getPlugin {db key p} := by
    show PostgresRepository.getPlugin db key = .ok p ↔ _
    rw [postgres_getPlugin, guarded_ok_iff, getPlugin_ok_iff]
    constructor
    · exact fun h => h.2
    · intro h
      rw [h]
      exact ⟨rfl, rfl⟩
  updatePluginStatus {db key status wasm errors db'} h := by
    have hcall : PostgresRepository.updatePluginStatus db key status wasm errors = .ok db' := h
    rw [postgres_updatePluginStatus, guarded_ok_iff, guarded_ok_iff] at hcall
    exact (sqlite_sound plugins executions).updatePluginStatus hcall.2.2
  updatePluginCode {db key name source db'} h := by
    have hcall : PostgresRepository.updatePluginCode db key name source = .ok db' := h
    rw [postgres_updatePluginCode, guarded_ok_iff] at hcall
    exact (sqlite_sound plugins executions).updatePluginCode hcall.2
  saveExecution {db x db'} h := by
    have hcall : PostgresRepository.saveExecution id db x = .ok db' := h
    rw [postgres_saveExecution, guarded_ok_iff, guarded_ok_iff] at hcall
    exact (sqlite_sound plugins executions).saveExecution hcall.2.2
  deleteExecutions {db key db'} h := by
    have hcall : PostgresRepository.deleteExecutions db key = .ok db' := h
    rw [postgres_deleteExecutions, guarded_ok_iff] at hcall
    exact (sqlite_sound plugins executions).deleteExecutions hcall.2
  deletePluginRow {db key db'} h := by
    have hcall : PostgresRepository.deletePluginRow db key = .ok db' := h
    rw [postgres_deletePluginRow, guarded_ok_iff, guarded_ok_iff] at hcall
    exact (sqlite_sound plugins executions).deletePluginRow hcall.2.2

theorem view_fst {db₁ db₂ : Database} {id : String} (h : db₁.view id = db₂.view id) :
    db₁.plugins.find? id = db₂.plugins.find? id := congrArg Prod.fst h

theorem view_snd {db₁ db₂ : Database} {id : String} (h : db₁.view id = db₂.view id) :
    db₁.executions.select (fun x => x.pluginID == id) =
      db₂.executions.select (fun x => x.pluginID == id) := congrArg Prod.snd h

/-- Inserting a plugin succeeds or fails by its own view. -/
theorem viewed_insertPlugin {db₁ db₂ : Database} {p : Plugin}
    (h : db₁.view p.id = db₂.view p.id) :
    viewed p.id (SQLiteRepository.savePlugin db₁ p) =
      viewed p.id (SQLiteRepository.savePlugin db₂ p) := by
  unfold SQLiteRepository.savePlugin
  have hnone : db₁.plugins.insert p = none ↔ db₂.plugins.insert p = none := by
    rw [Table.insert_eq_none, Table.insert_eq_none, view_fst h]
  cases h₁ : db₁.plugins.insert p with
  | none => rw [hnone.mp h₁]
  | some t₁ =>
      cases h₂ : db₂.plugins.insert p with
      | none => rw [hnone.mpr h₂] at h₁; cases h₁
      | some t₂ =>
          have e₁ := view_insertPlugin h₁ p.id
          have e₂ := view_insertPlugin h₂ p.id
          simp only [viewed, Except.map, e₁, e₂, h]

/-- A fresh execution is inserted in both databases. -/
theorem viewed_insertExecution {db₁ db₂ : Database} {x : Execution}
    (hf₁ : db₁.executions.find? x.id = none) (hf₂ : db₂.executions.find? x.id = none)
    (h : db₁.view x.pluginID = db₂.view x.pluginID) :
    viewed x.pluginID (SQLiteRepository.saveExecution db₁ x) =
      viewed x.pluginID (SQLiteRepository.saveExecution db₂ x) := by
  obtain ⟨t₁, h₁⟩ := Table.exists_insert hf₁
  obtain ⟨t₂, h₂⟩ := Table.exists_insert hf₂
  have e₁ := view_insertExecution h₁ x.pluginID
  have e₂ := view_insertExecution h₂ x.pluginID
  unfold SQLiteRepository.saveExecution
  rw [h₁, h₂]
  simp only [viewed, Except.map, e₁, e₂, h]

theorem sqlite_isolated : Isolated (SQLiteRepository.repository plugins executions) where
  savePlugin h := viewed_insertPlugin h
  getPlugin {db₁ db₂ id} h := by
    show SQLiteRepository.getPlugin db₁ id = SQLiteRepository.getPlugin db₂ id
    unfold SQLiteRepository.getPlugin
    rw [view_fst h]
  updatePluginStatus {db₁ db₂ id status wasm errors} h := by
    show Except.ok ((db₁.setStatus id status wasm errors).view id) =
      .ok ((db₂.setStatus id status wasm errors).view id)
    rw [view_setStatus, view_setStatus, h]
  updatePluginCode {db₁ db₂ id name source} h := by
    show Except.ok ((db₁.setCode id name source).view id) =
      .ok ((db₂.setCode id name source).view id)
    rw [view_setCode, view_setCode, h]
  saveExecution hf₁ hf₂ h := viewed_insertExecution hf₁ hf₂ h
  getExecutions {db₁ db₂ id} h := by
    show SQLiteRepository.getExecutions executions db₁ id =
      SQLiteRepository.getExecutions executions db₂ id
    unfold SQLiteRepository.getExecutions
    rw [view_snd h]
  deleteExecutions {db₁ db₂ id} h := by
    show Except.ok ((db₁.dropExecutions id).view id) = .ok ((db₂.dropExecutions id).view id)
    rw [view_dropExecutions, view_dropExecutions, h]
  deletePluginRow {db₁ db₂ id} h := by
    show Except.ok ((db₁.dropPlugin id).view id) = .ok ((db₂.dropPlugin id).view id)
    rw [view_dropPlugin, view_dropPlugin, h]

theorem mongo_isolated : Isolated (MongoRepository.repository plugins executions) where
  savePlugin := (sqlite_isolated plugins executions).savePlugin
  getPlugin := (sqlite_isolated plugins executions).getPlugin
  updatePluginStatus := (sqlite_isolated plugins executions).updatePluginStatus
  updatePluginCode := (sqlite_isolated plugins executions).updatePluginCode
  saveExecution := (sqlite_isolated plugins executions).saveExecution
  getExecutions {db₁ db₂ id} h := by
    show MongoRepository.getExecutions executions db₁ id =
      MongoRepository.getExecutions executions db₂ id
    unfold MongoRepository.getExecutions
    rw [view_snd h]
  deleteExecutions := (sqlite_isolated plugins executions).deleteExecutions
  deletePluginRow := (sqlite_isolated plugins executions).deletePluginRow

theorem postgres_isolated : Isolated (PostgresRepository.repository id plugins executions) where
  savePlugin {db₁ db₂ p} h := by
    show viewed p.id (PostgresRepository.savePlugin id db₁ p) =
      viewed p.id (PostgresRepository.savePlugin id db₂ p)
    rw [postgres_savePlugin, postgres_savePlugin]
    exact viewed_guarded (viewed_guarded (viewed_insertPlugin h))
  getPlugin {db₁ db₂ key} h := by
    show PostgresRepository.getPlugin db₁ key = PostgresRepository.getPlugin db₂ key
    unfold PostgresRepository.getPlugin
    rw [view_fst h]
  updatePluginStatus {db₁ db₂ key status wasm errors} h := by
    show viewed key (PostgresRepository.updatePluginStatus db₁ key status wasm errors) =
      viewed key (PostgresRepository.updatePluginStatus db₂ key status wasm errors)
    rw [postgres_updatePluginStatus, postgres_updatePluginStatus, view_fst h]
    exact viewed_guarded
      (viewed_guarded ((sqlite_isolated plugins executions).updatePluginStatus h))
  updatePluginCode h := viewed_guarded ((sqlite_isolated plugins executions).updatePluginCode h)
  saveExecution {db₁ db₂ x} hf₁ hf₂ h := by
    show viewed x.pluginID (PostgresRepository.saveExecution id db₁ x) =
      viewed x.pluginID (PostgresRepository.saveExecution id db₂ x)
    rw [postgres_saveExecution, postgres_saveExecution, hf₁, hf₂, view_fst h]
    exact viewed_guarded (viewed_guarded (viewed_insertExecution hf₁ hf₂ h))
  getExecutions {db₁ db₂ key} h := by
    show PostgresRepository.getExecutions executions db₁ key =
      PostgresRepository.getExecutions executions db₂ key
    unfold PostgresRepository.getExecutions
    rw [view_snd h]
  deleteExecutions h := viewed_guarded ((sqlite_isolated plugins executions).deleteExecutions h)
  deletePluginRow {db₁ db₂ key} h := by
    show viewed key (PostgresRepository.deletePluginRow db₁ key) =
      viewed key (PostgresRepository.deletePluginRow db₂ key)
    rw [postgres_deletePluginRow, postgres_deletePluginRow, view_fst h, h]
    exact viewed_guarded (viewed_guarded ((sqlite_isolated plugins executions).deletePluginRow h))

end Backends

/-! ## Lawful and reliable repositories -/

/-- A repository with its contract. -/
structure LawfulRepository extends Repository where
  sound : Sound toRepository
  isolated : Isolated toRepository

section Lawful

variable (plugins : OrderBy Plugin Plugin.createdAt)
  (executions : OrderBy Execution Execution.createdAt)

def sqlite : LawfulRepository where
  toRepository := SQLiteRepository.repository plugins executions
  sound := sqlite_sound plugins executions
  isolated := sqlite_isolated plugins executions

/-- Its instants are the ones that `TIMESTAMP` keeps. -/
def postgres : LawfulRepository where
  toRepository := PostgresRepository.repository id plugins executions
  sound := postgres_sound plugins executions
  isolated := postgres_isolated plugins executions

def mongo : LawfulRepository where
  toRepository := MongoRepository.repository plugins executions
  sound := mongo_sound plugins executions
  isolated := mongo_isolated plugins executions

end Lawful

/-- A status write does not fail. -/
def Reliable (R : Repository) : Prop :=
  ∀ db id status wasm errors, ∃ db', R.updatePluginStatus db id status wasm errors = .ok db'

theorem sqlite_reliable (plugins : OrderBy Plugin Plugin.createdAt)
    (executions : OrderBy Execution Execution.createdAt) :
    Reliable (sqlite plugins executions).toRepository := fun _ _ _ _ _ => ⟨_, rfl⟩

theorem mongo_reliable (plugins : OrderBy Plugin Plugin.createdAt)
    (executions : OrderBy Execution Execution.createdAt) :
    Reliable (mongo plugins executions).toRepository := fun _ _ _ _ _ => ⟨_, rfl⟩

end PluginSandbox.Db
