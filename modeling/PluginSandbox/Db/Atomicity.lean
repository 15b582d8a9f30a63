/-
  `DeletePlugin` on an error, in the three backends.

  The two statements are not in a transaction. `deletePluginAmid` runs one call with a fault
  at either statement and any work of other requests between them (`others`). A failed
  statement may have had its effect, or part of it: an SQL statement removes all of its rows
  or none, and its reply can be lost; `DeleteMany` can stop half way.

  `deletePlugin_atomic_iff`: an error means that the call changed nothing exactly in the
  cases of `Harmless`. The usual case is outside of it: a fault of the second statement, or on
  PostgreSQL an execution saved in between, after the first statement removed the executions.
-/
import PluginSandbox.Db.Contract

namespace PluginSandbox.Db

open PluginSandbox.Lib

/-! ## Backends -/

inductive Backend where
  | sqlite
  | postgres
  | mongo
  deriving DecidableEq, Repr

section Backends

variable (keep : Int → Int) (plugins : OrderBy Plugin Plugin.createdAt)
  (executions : OrderBy Execution Execution.createdAt)

def Backend.repository : Backend → Repository
  | .sqlite => SQLiteRepository.repository plugins executions
  | .postgres => PostgresRepository.repository keep plugins executions
  | .mongo => MongoRepository.repository plugins executions

/-- Both statements are refused for an id that is no text. -/
def Backend.binds (b : Backend) (id : String) : Bool :=
  b != .postgres || PostgresRepository.text id

/-- The foreign key keeps a plugin row that has executions. -/
def Backend.refuses (b : Backend) (db : Database) (id : String) : Bool :=
  b == .postgres && (db.plugins.find? id).isSome && !(db.view id).2.isEmpty

theorem backend_deleteExecutions (b : Backend) (db : Database) (id : String) :
    (b.repository keep plugins executions).deleteExecutions db id =
      guarded (b.binds id) .invalidText (.ok (db.dropExecutions id)) := by
  cases b <;> rfl

theorem backend_deletePluginRow (b : Backend) (db : Database) (id : String) :
    (b.repository keep plugins executions).deletePluginRow db id =
      guarded (b.binds id) .invalidText
        (if b.refuses db id then .error (.driver .foreignKeyViolation)
        else .ok (db.dropPlugin id)) := by
  cases b with
  | sqlite => rfl
  | mongo => rfl
  | postgres =>
      show PostgresRepository.deletePluginRow db id = _
      rw [postgres_deletePluginRow]
      unfold guarded Backend.refuses
      cases (db.plugins.find? id).isSome with
      | false => rfl
      | true =>
          cases (db.view id).2.isEmpty with
          | false => rfl
          | true => rfl

end Backends

/-! ## One call with faults -/

/-- What goes wrong in one call of `DeletePlugin`. -/
structure Faults where
  /-- The first statement fails, with the rows it has removed by then. -/
  executions : Option (Execution → Bool)
  /-- The second statement fails, with or without having taken effect. -/
  pluginRow : Option Bool

/-- The error of a statement and the database it leaves. -/
abbrev Outcome := Except DbError Unit × Database

/-- A statement that no fault hits. -/
def settled (db : Database) : Except DbError Database → Outcome
  | .error e => (.error e, db)
  | .ok db' => (.ok (), db')

def Faults.deleteExecutions (faults : Faults) (R : Repository) (db : Database) (id : String) :
    Outcome :=
  match faults.executions with
  | none => settled db (R.deleteExecutions db id)
  | some removed =>
    (.error (.driver .fault),
      { db with executions := db.executions.delete fun x => x.pluginID == id && removed x })

def Faults.deletePluginRow (faults : Faults) (R : Repository) (db : Database) (id : String) :
    Outcome :=
  match faults.pluginRow with
  | none => settled db (R.deletePluginRow db id)
  | some tookEffect =>
    (.error (.driver .fault),
      if tookEffect then (settled db (R.deletePluginRow db id)).2 else db)

/-- One call: what it returns, and the database before and after each of its statements. -/
structure DeleteRun where
  result : Except DbError Unit
  statements : List (Database × Database)

def DeleteRun.Unchanged (r : DeleteRun) : Prop := ∀ st ∈ r.statements, st.2 = st.1

/-- `DeletePlugin` with `others` at work between the statements. -/
def Repository.deletePluginAmid (R : Repository) (faults : Faults)
    (others : Database → Database) (db : Database) (id : String) : DeleteRun :=
  match faults.deleteExecutions R db id with
  | (.error e, db₁) => ⟨.error e, [(db, db₁)]⟩
  | (.ok (), db₁) =>
    match faults.deletePluginRow R (others db₁) id with
    | (result, db₂) => ⟨result, [(db, db₁), (others db₁, db₂)]⟩

/-- Without faults and other requests it is `deletePlugin`. -/
theorem deletePluginAmid_alone (R : Repository) (db : Database) (id : String) :
    (R.deletePluginAmid ⟨none, none⟩ (fun db => db) db id).result = (R.deletePlugin db id).1 := by
  have hsecond : ∀ (db₁ : Database) (r : Except DbError Database), (settled db₁ r).1 =
      (match r with
        | .error e => (.error e, db₁)
        | .ok db₂ => (.ok (), db₂) : Outcome).1 := by
    intro db₁ r
    cases r <;> rfl
  unfold Repository.deletePluginAmid Faults.deleteExecutions Faults.deletePluginRow
    Repository.deletePlugin
  cases R.deleteExecutions db id with
  | error e => rfl
  | ok db₁ => exact hsecond db₁ (R.deletePluginRow db₁ id)

/-! ## What a statement leaves alone -/

theorem delete_eq_self {ρ κ : Type} {key : ρ → κ} {t : Table ρ key} {p : ρ → Bool} :
    t.delete p = t ↔ ∀ r ∈ t.rows, p r = false := by
  rw [Table.ext_iff]
  unfold Table.delete
  rw [List.filter_eq_self]
  simp only [Bool.not_eq_true']

theorem deleteExecutions_eq_self {db : Database} {p : Execution → Bool} :
    { db with executions := db.executions.delete p } = db ↔
      ∀ x ∈ db.executions.rows, p x = false := by
  rw [Database.ext_iff, delete_eq_self]
  exact and_iff_right rfl

theorem dropExecutions_eq_self {db : Database} {id : String} :
    db.dropExecutions id = db ↔ ∀ x ∈ db.executions.rows, x.pluginID ≠ id := by
  refine deleteExecutions_eq_self.trans ?_
  simp only [beq_eq_false_iff_ne]

theorem dropPlugin_eq_self {db : Database} {id : String} :
    db.dropPlugin id = db ↔ db.plugins.find? id = none := by
  unfold Database.dropPlugin
  rw [Database.ext_iff, delete_eq_self, Table.find?_eq_none, List.mem_map]
  simp only [beq_eq_false_iff_ne, not_exists, not_and, and_true]

/-! ## Errors that changed nothing -/

/-- No execution of the plugin is stored. -/
def NoHistory (db : Database) (id : String) : Prop :=
  ∀ x ∈ db.executions.rows, x.pluginID ≠ id

/-- The faults and the databases on which an error of `DeletePlugin` means no change:
    * a first statement that failed before it removed any row, or that was refused;
    * a second statement that failed, or that the foreign key refused, after a first one that
      had no row to remove. If its effect stands behind a lost reply, there was no plugin row
      to remove either. -/
def Harmless (b : Backend) (faults : Faults) (others : Database → Database) (db : Database)
    (id : String) : Prop :=
  match faults.executions, faults.pluginRow with
  | some removed, _ => ∀ x ∈ db.executions.rows, x.pluginID = id → removed x = false
  | none, none =>
    b.binds id = true → b.refuses (others (db.dropExecutions id)) id = true → NoHistory db id
  | none, some tookEffect =>
    b.binds id = true → NoHistory db id ∧
      (tookEffect = true → b.refuses (others (db.dropExecutions id)) id = true ∨
        (others (db.dropExecutions id)).plugins.find? id = none)

section Atomic

variable (keep : Int → Int) (plugins : OrderBy Plugin Plugin.createdAt)
  (executions : OrderBy Execution Execution.createdAt)

theorem unchanged_two {r : Except DbError Unit} {a b c d : Database} :
    DeleteRun.Unchanged ⟨r, [(a, b), (c, d)]⟩ ↔ b = a ∧ d = c := by
  unfold DeleteRun.Unchanged
  simp only [List.mem_cons, List.not_mem_nil, or_false, forall_eq_or_imp, forall_eq]

theorem unchanged_one {r : Except DbError Unit} {a b : Database} :
    DeleteRun.Unchanged ⟨r, [(a, b)]⟩ ↔ b = a := by
  unfold DeleteRun.Unchanged
  simp only [List.mem_cons, List.not_mem_nil, or_false, forall_eq]

/-- What the second statement leaves when no fault keeps it from the database. -/
theorem settled_deletePluginRow {b : Backend} (db : Database) {id : String}
    (hbinds : b.binds id = true) :
    (settled db ((b.repository keep plugins executions).deletePluginRow db id)).2 = db ↔
      b.refuses db id = true ∨ db.plugins.find? id = none := by
  rw [backend_deletePluginRow, hbinds, guarded, if_pos rfl]
  cases b.refuses db id with
  | true => exact iff_of_true rfl (.inl rfl)
  | false =>
      rw [← dropPlugin_eq_self]
      exact (or_iff_right Bool.false_ne_true).symm

/-- A call that a fault or the foreign key ends with an error has changed nothing. -/
def ErrorUnchanged (r : DeleteRun) : Prop := ∀ e, r.result = .error e → r.Unchanged

/-- The first statement fails. -/
theorem errorUnchanged_first (b : Backend) (removed : Execution → Bool) (fault₂ : Option Bool)
    (others : Database → Database) (db : Database) (id : String) :
    ErrorUnchanged ((b.repository keep plugins executions).deletePluginAmid ⟨some removed, fault₂⟩
        others db id) ↔
      Harmless b ⟨some removed, fault₂⟩ others db id := by
  have hrun : (b.repository keep plugins executions).deletePluginAmid ⟨some removed, fault₂⟩
      others db id = ⟨.error (.driver .fault), [(db, { db with
        executions := db.executions.delete fun x => x.pluginID == id && removed x })]⟩ := rfl
  unfold ErrorUnchanged Harmless
  rw [hrun, unchanged_one, deleteExecutions_eq_self]
  simp only [Bool.and_eq_false_imp, beq_iff_eq]
  exact ⟨fun h => h _ rfl, fun h _ _ => h⟩

/-- The first statement is refused, and nothing has happened. -/
theorem errorUnchanged_unbound {b : Backend} (fault₂ : Option Bool)
    (others : Database → Database) (db : Database) {id : String} (hbinds : b.binds id = false) :
    ErrorUnchanged ((b.repository keep plugins executions).deletePluginAmid ⟨none, fault₂⟩
      others db id) := by
  have hfirst : Faults.deleteExecutions ⟨none, fault₂⟩ (b.repository keep plugins executions) db
      id = (.error (.driver .invalidText), db) := by
    unfold Faults.deleteExecutions
    rw [backend_deleteExecutions, hbinds]
    rfl
  unfold Repository.deletePluginAmid
  rw [hfirst]
  exact fun _ _ => unchanged_one.mpr rfl

/-- The first statement goes through. -/
theorem deletePluginAmid_second {b : Backend} (fault₂ : Option Bool)
    (others : Database → Database) (db : Database) {id : String} (hbinds : b.binds id = true) :
    (b.repository keep plugins executions).deletePluginAmid ⟨none, fault₂⟩ others db id =
      match Faults.deletePluginRow ⟨none, fault₂⟩ (b.repository keep plugins executions)
          (others (db.dropExecutions id)) id with
      | (result, db₂) =>
        ⟨result, [(db, db.dropExecutions id), (others (db.dropExecutions id), db₂)]⟩ := by
  have hfirst : Faults.deleteExecutions ⟨none, fault₂⟩ (b.repository keep plugins executions) db
      id = (.ok (), db.dropExecutions id) := by
    unfold Faults.deleteExecutions
    rw [backend_deleteExecutions, hbinds]
    rfl
  unfold Repository.deletePluginAmid
  rw [hfirst]

/-- The second statement fails on its own. -/
theorem errorUnchanged_second {b : Backend} (tookEffect : Bool)
    (others : Database → Database) (db : Database) {id : String} (hbinds : b.binds id = true) :
    ErrorUnchanged ((b.repository keep plugins executions).deletePluginAmid
        ⟨none, some tookEffect⟩ others db id) ↔
      Harmless b ⟨none, some tookEffect⟩ others db id := by
  unfold ErrorUnchanged
  rw [deletePluginAmid_second keep plugins executions _ others db hbinds]
  unfold Faults.deletePluginRow Harmless
  dsimp only
  generalize others (db.dropExecutions id) = db₁
  rw [unchanged_two, dropExecutions_eq_self, forall_prop_of_true hbinds]
  constructor
  · intro h
    obtain ⟨hnone, hsecond⟩ := h _ rfl
    refine ⟨hnone, fun heffect => ?_⟩
    rw [heffect, if_pos rfl] at hsecond
    exact (settled_deletePluginRow keep plugins executions db₁ hbinds).mp hsecond
  · rintro ⟨hnone, hsecond⟩ _ _
    refine ⟨hnone, ?_⟩
    cases tookEffect with
    | false => rfl
    | true => exact (settled_deletePluginRow keep plugins executions db₁ hbinds).mpr (hsecond rfl)

/-- Without a fault an error can only come from the foreign key. -/
theorem errorUnchanged_refused {b : Backend} (others : Database → Database) (db : Database)
    {id : String} (hbinds : b.binds id = true) :
    ErrorUnchanged ((b.repository keep plugins executions).deletePluginAmid ⟨none, none⟩
        others db id) ↔
      Harmless b ⟨none, none⟩ others db id := by
  unfold ErrorUnchanged
  rw [deletePluginAmid_second keep plugins executions _ others db hbinds]
  unfold Faults.deletePluginRow Harmless
  dsimp only
  generalize others (db.dropExecutions id) = db₁
  rw [unchanged_two, dropExecutions_eq_self, backend_deletePluginRow, hbinds, guarded, if_pos rfl,
    forall_prop_of_true rfl]
  cases b.refuses db₁ id with
  | true => exact ⟨fun h _ => (h _ rfl).1, fun h _ _ => ⟨h rfl, rfl⟩⟩
  | false =>
      refine iff_of_true (fun e herror => ?_) (fun hrefused => absurd hrefused ?_)
      · cases herror
      · exact Bool.false_ne_true

/-- On every backend, with any fault at either statement and anything done by other requests
    between them: an error means that the call changed nothing, exactly when the case is
    `Harmless`. -/
theorem deletePlugin_atomic_iff (b : Backend) (faults : Faults)
    (others : Database → Database) (db : Database) (id : String) :
    (∀ e, ((b.repository keep plugins executions).deletePluginAmid faults others db id).result =
        .error e →
      ((b.repository keep plugins executions).deletePluginAmid faults others db id).Unchanged) ↔
    Harmless b faults others db id := by
  obtain ⟨fault₁, fault₂⟩ := faults
  cases fault₁ with
  | some removed => exact errorUnchanged_first keep plugins executions b removed fault₂ others db id
  | none =>
      cases hbinds : b.binds id with
      | false =>
          refine iff_of_true
            (errorUnchanged_unbound keep plugins executions fault₂ others db hbinds) ?_
          unfold Harmless
          cases fault₂ <;> exact fun h => absurd (hbinds.symm.trans h) Bool.false_ne_true
      | true =>
          cases fault₂ with
          | some tookEffect =>
              exact errorUnchanged_second keep plugins executions tookEffect others db hbinds
          | none => exact errorUnchanged_refused keep plugins executions others db hbinds

end Atomic

/-- A plugin that ran once. -/
def ranOnce : Database where
  plugins := ⟨[⟨"p-1", "doubler", "fn handler", [0], 2, "compiled", "", 10⟩], by decide⟩
  executions := ⟨[⟨"x-1", "p-1", 120, 65536, 900, "success", [], 20⟩], by decide⟩

/-- `DeletePlugin` on SQLite whose second statement does not get through. -/
def deleteCutShort : DeleteRun :=
  (SQLiteRepository.repository (.stable _ _) (.stable _ _)).deletePluginAmid ⟨none, some false⟩
    (fun db => db) ranOnce "p-1"

/-- The call reports an error, the plugin is still there and its history is gone. -/
theorem deletePlugin_loses_history :
    deleteCutShort.result = .error (.driver .fault) ∧ ¬ deleteCutShort.Unchanged := by
  refine ⟨rfl, fun h => ?_⟩
  have hlost := (unchanged_two.mp h).1
  have hgone : (ranOnce.dropExecutions "p-1").executions.rows = [] := by decide
  rw [show ranOnce.dropExecutions "p-1" = ranOnce from hlost] at hgone
  cases hgone

end PluginSandbox.Db
