/-
  SQLite against PostgreSQL, over sequences of `Repository` calls from empty databases.

  `replies` and `final` run the same calls on one backend. Two backends agree on a sequence
  (`Agree`) when every call gives the same answer, lists compared up to the order of equal
  `created_at`, and both end with the same rows. PostgreSQL keeps less of an instant, so it may
  hold what SQLite holds with all instants cut (`storedDatabase`). From there one call gets the
  same answer exactly when it is `Portable`, and then the databases stay in step
  (`call_same_iff`); so do sequences (`sqlite_postgres_agree_iff`). What is not portable:
  * an execution of a plugin that does not exist: SQLite declares the foreign key and does
    not enforce it, PostgreSQL refuses the row;
  * a version outside four bytes, saved or reached by a status write;
  * an instant that `TIMESTAMP` does not keep, once it is read;
  * text that PostgreSQL cannot store, in a row or as an id.
-/
import PluginSandbox.Db.Contract
import PluginSandbox.Db.Stored
import PluginSandbox.Lib.Runs

namespace PluginSandbox.Db

open PluginSandbox.Lib

/-! ## Calls and replies -/

inductive Call where
  | savePlugin (plugin : Plugin)
  | getPlugin (id : String)
  | listPlugins
  | updatePluginStatus (id status : String) (compiledWasm : Bytes) (compileErrors : String)
  | updatePluginCode (id name sourceCode : String)
  | saveExecution (exec : Execution)
  | getExecutions (pluginID : String)
  | deletePlugin (id : String)

/-- What a call returns: an error, nothing, a row or a list. -/
inductive Reply where
  | error
  | unit
  | plugin (p : Plugin)
  | plugins (ps : Slice Plugin)
  | executions (xs : Slice Execution)

/-- A write moves to its database or keeps the old one and reports an error. -/
def written (db : Database) : Except DbError Database → Reply × Database
  | .error _ => (.error, db)
  | .ok db' => (.unit, db')

def Repository.call (R : Repository) (db : Database) : Call → Reply × Database
  | .savePlugin p => written db (R.savePlugin db p)
  | .getPlugin id =>
    match R.getPlugin db id with
    | .error _ => (.error, db)
    | .ok p => (.plugin p, db)
  | .listPlugins =>
    match R.listPlugins db with
    | .error _ => (.error, db)
    | .ok ps => (.plugins ps, db)
  | .updatePluginStatus id status wasm errors =>
    written db (R.updatePluginStatus db id status wasm errors)
  | .updatePluginCode id name source => written db (R.updatePluginCode db id name source)
  | .saveExecution x => written db (R.saveExecution db x)
  | .getExecutions id =>
    match R.getExecutions db id with
    | .error _ => (.error, db)
    | .ok xs => (.executions xs, db)
  | .deletePlugin id =>
    match R.deletePlugin db id with
    | (.error _, db') => (.error, db')
    | (.ok (), db') => (.unit, db')

def Repository.replies (R : Repository) : Database → List Call → List Reply
  | _, [] => []
  | db, c :: cs => (R.call db c).1 :: R.replies (R.call db c).2 cs

def Repository.final (R : Repository) (db : Database) (cs : List Call) : Database :=
  cs.foldl (fun db c => (R.call db c).2) db

/-- A list call leaves the database. -/
theorem call_listPlugins_snd (R : Repository) (db : Database) :
    (R.call db .listPlugins).2 = db := by
  simp only [Repository.call]
  split <;> rfl

theorem call_getPlugin_snd (R : Repository) (db : Database) (id : String) :
    (R.call db (.getPlugin id)).2 = db := by
  simp only [Repository.call]
  split <;> rfl

theorem call_getExecutions_snd (R : Repository) (db : Database) (id : String) :
    (R.call db (.getExecutions id)).2 = db := by
  simp only [Repository.call]
  split <;> rfl

/-! ## Agreement -/

/-- Two slices are both nil or hold the same rows up to ties. -/
def Slice.Same {ρ : Type} (rank : ρ → Int) : Slice ρ → Slice ρ → Prop
  | none, none => True
  | some l, some m => SameUpToTies rank l m
  | _, _ => False

def Reply.Same : Reply → Reply → Prop
  | .error, .error => True
  | .unit, .unit => True
  | .plugin p, .plugin q => p = q
  | .plugins ps, .plugins qs => Slice.Same Plugin.createdAt ps qs
  | .executions xs, .executions ys => Slice.Same Execution.createdAt xs ys
  | _, _ => False

def Database.SameRows (db₁ db₂ : Database) : Prop :=
  db₁.plugins.rows.Perm db₂.plugins.rows ∧ db₁.executions.rows.Perm db₂.executions.rows

/-- Same answers to every call and the same rows at the end. -/
def Agree (R₁ R₂ : Repository) (cs : List Call) : Prop :=
  List.Forall₂ Reply.Same (R₁.replies .empty cs) (R₂.replies .empty cs) ∧
    (R₁.final .empty cs).SameRows (R₂.final .empty cs)

section Portable

open PostgresRepository (int4 text pluginTexts executionTexts)

/-- What a call needs of the database so that both backends answer it alike. -/
def Portable (keep : Int → Int) (db : Database) : Call → Prop
  | .savePlugin p =>
    db.plugins.find? p.id = none → int4 p.version = true ∧ pluginTexts p = true
  | .getPlugin id => ∀ p, db.plugins.find? id = some p → keep p.createdAt = p.createdAt
  | .listPlugins => ∀ p ∈ db.plugins.rows, keep p.createdAt = p.createdAt
  | .updatePluginStatus id status _ errors =>
    (text id && text status && text errors) = true ∧
      ∀ p, db.plugins.find? id = some p → int4 (p.version + 1) = true
  | .updatePluginCode id name source => (text id && text name && text source) = true
  | .saveExecution x =>
    db.executions.find? x.id = none →
      (db.plugins.find? x.pluginID).isSome = true ∧ executionTexts x = true
  | .getExecutions id =>
    text id = true ∧ ∀ x ∈ db.executions.select fun x => x.pluginID == id,
      keep x.createdAt = x.createdAt
  | .deletePlugin id => text id = true

end Portable

/-! ## One call -/

section Calls

variable (keep : Int → Int) (ps₁ ps₂ : OrderBy Plugin Plugin.createdAt)
  (xs₁ xs₂ : OrderBy Execution Execution.createdAt)

variable {keep} {db : Database}

/-! ### Writes -/

/-- Two checks, one behind the other, are one. -/
theorem guarded_guarded {α : Type} (ok₁ ok₂ : Bool) (cause₁ cause₂ : DriverError)
    (r : Except DbError α) :
    ∃ cause, guarded ok₁ cause₁ (guarded ok₂ cause₂ r) = guarded (ok₁ && ok₂) cause r := by
  cases ok₁ with
  | true => exact ⟨cause₂, rfl⟩
  | false => exact ⟨cause₁, rfl⟩

/-- A write on PostgreSQL is the one on SQLite behind a check. The two answer alike when the check
    passes or SQLite fails as well, and not otherwise. -/
theorem written_guarded {ok : Bool} {cause : DriverError} {r r' : Except DbError Database}
    {alike : Prop} (hr : r' = guarded ok cause (r.map (storedDatabase keep)))
    (halike : alike ↔ (r.toOption ≠ none → ok = true)) :
    (Reply.Same (written db r).1 (written (storedDatabase keep db) r').1 ↔ alike) ∧
      (alike → (written (storedDatabase keep db) r').2 = storedDatabase keep (written db r).2) := by
  subst hr
  rw [halike]
  cases r with
  | error e => cases ok <;> exact ⟨iff_of_true trivial fun hne => absurd rfl hne, fun _ => rfl⟩
  | ok db' =>
      cases ok with
      | true => exact ⟨iff_of_true trivial fun _ => rfl, fun _ => rfl⟩
      | false => exact ⟨iff_of_false id fun h => (nomatch h nofun), fun h => (nomatch h nofun)⟩

/-- An insert goes through where the key is free. -/
theorem savePlugin_toOption {p : Plugin} :
    (SQLiteRepository.savePlugin db p).toOption ≠ none ↔ db.plugins.find? p.id = none := by
  unfold SQLiteRepository.savePlugin
  cases hinsert : db.plugins.insert p with
  | none =>
      have htaken := Option.isSome_iff_ne_none.mp (Table.insert_eq_none.mp hinsert)
      exact iff_of_false (fun hne => hne rfl) htaken
  | some t => exact iff_of_true nofun (Table.find?_of_insert hinsert)

theorem saveExecution_toOption {x : Execution} :
    (SQLiteRepository.saveExecution db x).toOption ≠ none ↔ db.executions.find? x.id = none := by
  unfold SQLiteRepository.saveExecution
  cases hinsert : db.executions.insert x with
  | none =>
      have htaken := Option.isSome_iff_ne_none.mp (Table.insert_eq_none.mp hinsert)
      exact iff_of_false (fun hne => hne rfl) htaken
  | some t => exact iff_of_true nofun (Table.find?_of_insert hinsert)

theorem savePlugin_stored (p : Plugin) :
    ∃ cause, PostgresRepository.savePlugin keep (storedDatabase keep db) p =
      guarded (PostgresRepository.int4 p.version && PostgresRepository.pluginTexts p) cause
        ((SQLiteRepository.savePlugin db p).map (storedDatabase keep)) := by
  rw [postgres_savePlugin, stored_savePlugin]
  exact guarded_guarded _ _ _ _ _

theorem updatePluginStatus_stored (id status : String) (wasm : Bytes) (errors : String) :
    ∃ cause, PostgresRepository.updatePluginStatus (storedDatabase keep db) id status wasm errors =
      guarded ((PostgresRepository.text id && PostgresRepository.text status &&
          PostgresRepository.text errors) &&
        (db.plugins.find? id).all fun p => PostgresRepository.int4 (p.version + 1)) cause
        ((SQLiteRepository.updatePluginStatus db id status wasm errors).map
          (storedDatabase keep)) := by
  rw [postgres_updatePluginStatus, stored_updatePluginStatus, find?_storedDatabase, Option.all_map]
  exact guarded_guarded _ _ _ _ _

theorem saveExecution_stored (x : Execution) :
    ∃ cause, PostgresRepository.saveExecution keep (storedDatabase keep db) x =
      guarded (PostgresRepository.executionTexts x &&
        ((db.executions.find? x.id).isSome || (db.plugins.find? x.pluginID).isSome)) cause
        ((SQLiteRepository.saveExecution db x).map (storedDatabase keep)) := by
  rw [postgres_saveExecution, stored_saveExecution, find?_storedDatabase, find?_storedExecutions,
    Option.isSome_map, Option.isSome_map]
  exact guarded_guarded _ _ _ _ _

/-! ### Reads -/

theorem same_ofRows {ρ : Type} {rank : ρ → Int} {l m : List ρ} :
    Slice.Same rank (Slice.ofRows l) (Slice.ofRows m) ↔ SameUpToTies rank l m := by
  unfold Slice.ofRows
  cases l with
  | nil =>
      cases m with
      | nil => exact iff_of_true trivial ⟨List.Perm.refl _, rfl⟩
      | cons b m => exact iff_of_false id fun h => absurd h.1.length_eq (by simp)
  | cons a l =>
      cases m with
      | nil => exact iff_of_false id fun h => absurd h.1.length_eq (by simp)
      | cons b m => exact Iff.rfl

theorem same_getPlugin (id : String) :
    Reply.Same ((SQLiteRepository.repository ps₁ xs₁).call db (.getPlugin id)).1
        ((PostgresRepository.repository keep ps₂ xs₂).call (storedDatabase keep db)
          (.getPlugin id)).1 ↔
      Portable keep db (.getPlugin id) := by
  have h₁ : (SQLiteRepository.repository ps₁ xs₁).getPlugin db id =
      SQLiteRepository.getPlugin db id := rfl
  have h₂ : (PostgresRepository.repository keep ps₂ xs₂).getPlugin (storedDatabase keep db) id =
      PostgresRepository.getPlugin (storedDatabase keep db) id := rfl
  simp only [Portable, Repository.call, h₁, h₂]
  unfold SQLiteRepository.getPlugin PostgresRepository.getPlugin
  rw [find?_storedDatabase]
  cases db.plugins.find? id with
  | none =>
      dsimp only [Option.map_none]
      have hnone : ∀ p, (none : Option Plugin) = some p → keep p.createdAt = p.createdAt := by
        intro p hp
        cases hp
      cases PostgresRepository.text id with
      | true => exact iff_of_true trivial hnone
      | false => exact iff_of_true trivial hnone
  | some p =>
      refine (eq_comm.trans (storedPlugin_eq_iff p)).trans ?_
      exact ⟨fun h q hq => Option.some.inj hq ▸ h, fun h => h p rfl⟩

theorem same_listPlugins :
    Reply.Same ((SQLiteRepository.repository ps₁ xs₁).call db .listPlugins).1
        ((PostgresRepository.repository keep ps₂ xs₂).call (storedDatabase keep db)
          .listPlugins).1 ↔
      Portable keep db .listPlugins := by
  have h₁ : (SQLiteRepository.repository ps₁ xs₁).listPlugins db =
      .ok (Slice.ofRows ((ps₁.sort db.plugins.rows).map fun p => { p with compiledWasm := [] })) :=
    scanRows_none_ofList _
  have h₂ : (PostgresRepository.repository keep ps₂ xs₂).listPlugins (storedDatabase keep db) =
      .ok (Slice.ofRows ((ps₂.sort (db.plugins.rows.map (storedPlugin keep))).map
        fun p => { p with compiledWasm := [] })) :=
    scanRows_none_ofList _
  simp only [Portable, Repository.call, h₁, h₂]
  exact same_ofRows.trans (samePlugins_iff ps₁ ps₂ db.plugins.nodup)

theorem same_getExecutions (id : String) :
    Reply.Same ((SQLiteRepository.repository ps₁ xs₁).call db (.getExecutions id)).1
        ((PostgresRepository.repository keep ps₂ xs₂).call (storedDatabase keep db)
          (.getExecutions id)).1 ↔
      Portable keep db (.getExecutions id) := by
  have h₁ : (SQLiteRepository.repository ps₁ xs₁).getExecutions db id =
      .ok (Slice.ofRows (xs₁.sort (db.executions.select fun x => x.pluginID == id))) :=
    scanRows_none_ofList _
  have h₂ : (PostgresRepository.repository keep ps₂ xs₂).getExecutions (storedDatabase keep db) id =
      guarded (PostgresRepository.text id) .invalidText (.ok (Slice.ofRows (xs₂.sort
        ((db.executions.select fun x => x.pluginID == id).map (storedExecution keep))))) := by
    rw [← select_storedDatabase, ← scanRows_none_ofList]
    rfl
  have hnodup : ((db.executions.select fun x => x.pluginID == id).map Execution.id).Nodup :=
    (List.filter_sublist.map Execution.id).nodup db.executions.nodup
  simp only [Portable, Repository.call, h₁, h₂]
  cases PostgresRepository.text id with
  | false => exact iff_of_false (fun h => h) fun h => Bool.false_ne_true h.1
  | true =>
      rw [and_iff_right rfl]
      exact same_ofRows.trans (sameExecutions_iff xs₁ xs₂ hnodup)

/-! ### `DeletePlugin` -/

/-- After the first statement no execution is left for the foreign key to protect. -/
theorem deletePlugin_stored {id : String} (hid : PostgresRepository.text id = true) :
    (PostgresRepository.repository keep ps₂ xs₂).deletePlugin (storedDatabase keep db) id =
      (.ok (), storedDatabase keep ((db.dropExecutions id).dropPlugin id)) := by
  have hfirst : PostgresRepository.deleteExecutions (storedDatabase keep db) id =
      .ok (storedDatabase keep (db.dropExecutions id)) := by
    rw [postgres_deleteExecutions, hid, stored_deleteExecutions]
    rfl
  have hnone : ((storedDatabase keep (db.dropExecutions id)).view id).2 = [] := by
    unfold Database.view
    have hdropped := congrArg Prod.snd (view_dropExecutions db id id)
    rw [if_pos rfl] at hdropped
    rw [select_storedDatabase]
    exact congrArg (List.map (storedExecution keep)) hdropped
  have hsecond : PostgresRepository.deletePluginRow (storedDatabase keep (db.dropExecutions id))
      id = .ok (storedDatabase keep ((db.dropExecutions id).dropPlugin id)) := by
    rw [postgres_deletePluginRow, hid, hnone, stored_deletePluginRow, List.isEmpty_nil,
      Bool.or_true]
    rfl
  have hfirst' : (PostgresRepository.repository keep ps₂ xs₂).deleteExecutions
      (storedDatabase keep db) id = .ok (storedDatabase keep (db.dropExecutions id)) := hfirst
  have hsecond' : (PostgresRepository.repository keep ps₂ xs₂).deletePluginRow
      (storedDatabase keep (db.dropExecutions id)) id =
        .ok (storedDatabase keep ((db.dropExecutions id).dropPlugin id)) := hsecond
  unfold Repository.deletePlugin
  rw [hfirst']
  dsimp only
  rw [hsecond']

theorem deletePlugin_refused {id : String} (hid : PostgresRepository.text id = false) :
    (PostgresRepository.repository keep ps₂ xs₂).deletePlugin (storedDatabase keep db) id =
      (.error (.driver .invalidText), storedDatabase keep db) := by
  have hfirst : (PostgresRepository.repository keep ps₂ xs₂).deleteExecutions
      (storedDatabase keep db) id = .error (.driver .invalidText) := by
    show PostgresRepository.deleteExecutions (storedDatabase keep db) id = _
    rw [postgres_deleteExecutions, hid]
    rfl
  unfold Repository.deletePlugin
  rw [hfirst]

/-! ### Every call -/

/-- One call answers alike exactly when it is portable, and then the databases stay in step. -/
theorem call_same_iff (c : Call) :
    (Reply.Same ((SQLiteRepository.repository ps₁ xs₁).call db c).1
        ((PostgresRepository.repository keep ps₂ xs₂).call (storedDatabase keep db) c).1 ↔
      Portable keep db c) ∧
    (Portable keep db c →
      ((PostgresRepository.repository keep ps₂ xs₂).call (storedDatabase keep db) c).2 =
        storedDatabase keep ((SQLiteRepository.repository ps₁ xs₁).call db c).2) := by
  cases c with
  | savePlugin p =>
      obtain ⟨cause, hcall⟩ := @savePlugin_stored keep db p
      have halike : Portable keep db (.savePlugin p) ↔
          ((SQLiteRepository.savePlugin db p).toOption ≠ none →
            (PostgresRepository.int4 p.version && PostgresRepository.pluginTexts p) = true) := by
        rw [savePlugin_toOption, Bool.and_eq_true]
        exact Iff.rfl
      exact written_guarded hcall halike
  | getPlugin id =>
      refine ⟨same_getPlugin ps₁ ps₂ xs₁ xs₂ id, fun _ => ?_⟩
      rw [call_getPlugin_snd, call_getPlugin_snd]
  | listPlugins =>
      refine ⟨same_listPlugins ps₁ ps₂ xs₁ xs₂, fun _ => ?_⟩
      rw [call_listPlugins_snd, call_listPlugins_snd]
  | updatePluginStatus id status wasm errors =>
      obtain ⟨cause, hcall⟩ :=
        @updatePluginStatus_stored keep db id status wasm errors
      refine written_guarded hcall (Iff.trans ?_ (forall_prop_of_true (Option.some_ne_none _)).symm)
      rw [Bool.and_eq_true, Option.all_eq_true]
      exact Iff.rfl
  | updatePluginCode id name source =>
      have hcall := postgres_updatePluginCode (storedDatabase keep db) id name source
      rw [stored_updatePluginCode] at hcall
      exact written_guarded hcall ⟨fun h _ => h, fun h => h (Option.some_ne_none _)⟩
  | saveExecution x =>
      obtain ⟨cause, hcall⟩ := @saveExecution_stored keep db x
      have halike : Portable keep db (.saveExecution x) ↔
          ((SQLiteRepository.saveExecution db x).toOption ≠ none →
            (PostgresRepository.executionTexts x && ((db.executions.find? x.id).isSome ||
              (db.plugins.find? x.pluginID).isSome)) = true) := by
        rw [saveExecution_toOption]
        refine forall_congr' fun hfree => ?_
        rw [hfree, Option.isSome_none, Bool.false_or, Bool.and_eq_true, and_comm]
      exact written_guarded hcall halike
  | getExecutions id =>
      refine ⟨same_getExecutions ps₁ ps₂ xs₁ xs₂ id, fun _ => ?_⟩
      rw [call_getExecutions_snd, call_getExecutions_snd]
  | deletePlugin id =>
      cases hid : PostgresRepository.text id with
      | true =>
          simp only [Repository.call, Portable, deletePlugin_stored ps₂ xs₂ hid, hid]
          exact ⟨iff_of_true trivial trivial, fun _ => rfl⟩
      | false =>
          simp only [Repository.call, Portable, deletePlugin_refused ps₂ xs₂ hid, hid]
          exact ⟨iff_of_false (fun h => h) Bool.false_ne_true, fun h => absurd h Bool.false_ne_true⟩

/-! ## Sequences of calls -/

/-- One call on SQLite, as a step that is always enabled. -/
def sqliteStep (db : Database) (c : Call) : Option Database :=
  some ((SQLiteRepository.repository ps₁ xs₁).call db c).2

/-- From databases in step, the two backends agree exactly when every call is portable where it
    stands and all instants left at the end are kept. -/
theorem replies_same_iff (cs : List Call) (db : Database) :
    (List.Forall₂ Reply.Same ((SQLiteRepository.repository ps₁ xs₁).replies db cs)
        ((PostgresRepository.repository keep ps₂ xs₂).replies (storedDatabase keep db) cs) ∧
      ((SQLiteRepository.repository ps₁ xs₁).final db cs).SameRows
        ((PostgresRepository.repository keep ps₂ xs₂).final (storedDatabase keep db) cs)) ↔
      EachStep (sqliteStep ps₁ xs₁) db cs (Portable keep) ∧
        ((SQLiteRepository.repository ps₁ xs₁).final db cs).Kept keep := by
  induction cs generalizing db with
  | nil =>
      rw [and_iff_right eachStep_nil]
      exact (and_iff_right List.Forall₂.nil).trans (perm_stored_iff db)
  | cons c cs ih =>
      obtain ⟨hsame, hstep⟩ := @call_same_iff keep ps₁ ps₂ xs₁ xs₂ db c
      rw [eachStep_cons rfl, and_assoc]
      simp only [Repository.replies, Repository.final, List.foldl_cons, List.forall₂_cons,
        and_assoc]
      refine (and_congr_left' hsame).trans (and_congr_right fun hportable => ?_)
      rw [hstep hportable]
      exact ih _

/-- The two backends agree on a sequence of calls from empty databases exactly when every
    call is portable in the database SQLite holds at that moment, and PostgreSQL keeps all
    instants of the last one. -/
theorem sqlite_postgres_agree_iff (keep : Int → Int) (cs : List Call) :
    Agree (SQLiteRepository.repository ps₁ xs₁) (PostgresRepository.repository keep ps₂ xs₂) cs ↔
      EachStep (sqliteStep ps₁ xs₁) .empty cs (Portable keep) ∧
        ((SQLiteRepository.repository ps₁ xs₁).final .empty cs).Kept keep :=
  replies_same_iff ps₁ ps₂ xs₁ xs₂ cs .empty

end Calls

/-- One execution of a plugin that was never saved: SQLite stores it, PostgreSQL refuses it,
    whatever it keeps of an instant. -/
theorem sqlite_postgres_differ :
    ¬ ∃ keep : Int → Int, ∀ (ps₁ ps₂ : OrderBy Plugin Plugin.createdAt)
      (xs₁ xs₂ : OrderBy Execution Execution.createdAt) (cs : List Call),
      Agree (SQLiteRepository.repository ps₁ xs₁)
        (PostgresRepository.repository keep ps₂ xs₂) cs := by
  rintro ⟨keep, h⟩
  have hagree := h (.stable _ _) (.stable _ _) (.stable _ _) (.stable _ _)
    [.saveExecution ⟨"e", "p", 0, 0, 0, "success", [], 0⟩]
  exact (List.forall₂_cons.mp hagree.1).1

end PluginSandbox.Db
