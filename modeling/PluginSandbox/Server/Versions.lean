/-
  The version of a plugin as the name of a build.

  `Later a b` relates a row to one that the same plugin has at a later moment. A status write
  raises the version; an edit keeps version and bytes and makes the row pending; nothing else
  touches a row. So of two rows with one version the later has the bytes of the earlier, and
  is the earlier unless it was edited (`Becomes`) and is pending. Ids are never issued twice, so
  a row read later goes back to the row read before (`Inherits`), through any interleaving of
  steps.
-/
import PluginSandbox.Server.Invariants

namespace PluginSandbox.Server

open PluginSandbox.Lib PluginSandbox.Db PluginSandbox.Sandbox PluginSandbox.Compiler

variable {M σ : Type} {A : Platform M σ} {s t : State M} {e : Event}

/-! ## Rows over time -/

/-- `b` is a row that `a` can become. -/
def Later (a b : Plugin) : Prop :=
  a.version < b.version ∨
    (a.version = b.version ∧ a.compiledWasm = b.compiledWasm ∧ (b.status ≠ "pending" → a = b))

theorem later_refl (a : Plugin) : Later a a := Or.inr ⟨rfl, rfl, fun _ => rfl⟩

theorem later_trans {a b c : Plugin} (hab : Later a b) (hbc : Later b c) : Later a c := by
  rcases hab with hab | ⟨hv, hw, hs⟩
  · rcases hbc with hbc | ⟨hv', -, -⟩
    · exact Or.inl (by omega)
    · exact Or.inl (by omega)
  · rcases hbc with hbc | ⟨hv', hw', hs'⟩
    · exact Or.inl (by omega)
    · refine Or.inr ⟨hv.trans hv', hw.trans hw', fun hc => ?_⟩
      have hbc := hs' hc
      subst hbc
      exact hs hc

theorem later_built (a : Plugin) (status : String) (wasm : Bytes) (errors : String) :
    Later a (a.built status wasm errors) := by
  refine Or.inl ?_
  show a.version < a.version + 1
  omega

theorem later_edited (a : Plugin) (name sourceCode : String) :
    Later a (a.edited name sourceCode) :=
  Or.inr ⟨rfl, rfl, fun h => absurd rfl h⟩

/-! ## States over time -/

/-- Every row of an id issued by `s` goes back to a row of `s`. -/
def Inherits (s t : State M) : Prop :=
  s.issued ⊆ t.issued ∧ ∀ id ∈ s.issued, ∀ b, t.db.plugins.find? id = some b →
    ∃ a, s.db.plugins.find? id = some a ∧ Later a b

theorem inherits_refl (s : State M) : Inherits s s :=
  ⟨List.Subset.refl _, fun _ _ b hb => ⟨b, hb, later_refl b⟩⟩

theorem inherits_trans {u : State M} (hst : Inherits s t) (htu : Inherits t u) :
    Inherits s u := by
  refine ⟨List.Subset.trans hst.1 htu.1, fun id hid c hc => ?_⟩
  obtain ⟨b, hb, hbc⟩ := htu.2 id (hst.1 hid) c hc
  obtain ⟨a, ha, hab⟩ := hst.2 id hid b hb
  exact ⟨a, ha, later_trans hab hbc⟩

/-! ## Steps -/

/-- The step is an update of `id` that writes its name and source. -/
def WritesCode (s : State M) (e : Event) (t : State M) (id : String) : Prop :=
  ∃ rid name sourceCode, e.action = .advance rid id ∧
    s.handlers rid = some ⟨some id, .updatePluginCode name sourceCode⟩ ∧
    t.db = s.db.setCode id name sourceCode

/-- `b` is a row that a step makes of `a`. -/
def Becomes (s : State M) (e : Event) (t : State M) (a b : Plugin) : Prop :=
  Later a b ∧ (a.version = b.version → a = b ∨ WritesCode s e t b.id)

theorem becomes_refl (s : State M) (e : Event) (t : State M) (a : Plugin) : Becomes s e t a a :=
  ⟨later_refl a, fun _ => .inl rfl⟩

/-- Every row of an id issued before a step goes back to a row from before it. -/
def Moves (s : State M) (e : Event) (t : State M) : Prop :=
  s.issued ⊆ t.issued ∧ ∀ id ∈ s.issued, ∀ b, t.db.plugins.find? id = some b →
    ∃ a, s.db.plugins.find? id = some a ∧ Becomes s e t a b

/-- Steps that leave the plugins alone. -/
theorem moves_of_plugins (hissued : s.issued ⊆ t.issued)
    (hplugins : t.db.plugins = s.db.plugins) : Moves s e t := by
  refine ⟨hissued, fun id _ b hb => ⟨b, ?_, becomes_refl s e t b⟩⟩
  rw [← hplugins]
  exact hb

/-- Steps that rewrite the row of one id. -/
theorem moves_of_rewrite {id : String} {f : Plugin → Plugin}
    (hf : ∀ a, a.id = id → Becomes s e t a (f a)) (hissued : s.issued ⊆ t.issued)
    (hfind : ∀ k, t.db.plugins.find? k =
      if k = id then (s.db.plugins.find? k).map f else s.db.plugins.find? k) : Moves s e t := by
  refine ⟨hissued, fun k _ b hb => ?_⟩
  rw [hfind] at hb
  split at hb
  · next hk =>
      obtain ⟨a, ha, rfl⟩ := Option.map_eq_some_iff.mp hb
      exact ⟨a, ha, hf a ((Table.find?_some ha).2.trans hk)⟩
  · exact ⟨b, hb, becomes_refl s e t b⟩

theorem moves_step (h : Transition A s e t) : Moves s e t := by
  have hrefl : s.issued ⊆ s.issued := List.Subset.refl _
  cases h with
  | quiet rid phase issued hrid hold hnew hsubject hissued =>
      exact moves_of_plugins hissued rfl
  | savePlugin rid plugin plugins hrid hfree htarget hfresh hstatus hwasm hinsert =>
      refine ⟨List.subset_cons_self _ _, fun id hid b hb => ⟨b, ?_, becomes_refl s e _ b⟩⟩
      have hne : id ≠ plugin.id := by
        intro h
        rw [h] at hid
        exact hfresh hid
      have hfind := Table.find?_insert hinsert id
      rw [if_neg hne] at hfind
      exact hfind.symm.trans hb
  | updatePluginCode rid id name source haction hold =>
      refine moves_of_rewrite (fun a ha => ⟨later_edited a name source, fun _ => .inr ?_⟩) hrefl
        (find?_setCode s.db id name source)
      have hid : (a.edited name source).id = id := ha
      rw [hid]
      exact ⟨rid, name, source, haction, hold, rfl⟩
  | queueCompile | compile | deleteExecutions | receive | read | skip | build | dropStatus
  | restart => exact moves_of_plugins hrefl rfl
  | saveExecution => exact moves_of_plugins (List.subset_cons_self _ _) rfl
  | deletePluginRow rid id =>
      refine ⟨hrefl, fun k _ b hb => ⟨b, ?_, becomes_refl s e _ b⟩⟩
      have hfind := (find?_dropPlugin s.db id k).symm.trans hb
      split at hfind
      · cases hfind
      · exact hfind
  | writeStatus id source build db haction hworker hwritten hdb =>
      subst hdb
      refine moves_of_rewrite (fun a _ => ?_) hrefl
        (find?_setStatus s.db id build.status build.compiledWasm build.compileErrors)
      refine ⟨later_built a build.status build.compiledWasm build.compileErrors, fun hsame => ?_⟩
      have hraised : (a.built build.status build.compiledWasm build.compileErrors).version =
          a.version + 1 := rfl
      omega

theorem inherits_step (h : Transition A s e t) : Inherits s t := by
  obtain ⟨hissued, hrows⟩ := moves_step h
  refine ⟨hissued, fun id hid b hb => ?_⟩
  obtain ⟨a, ha, hbecomes⟩ := hrows id hid b hb
  exact ⟨a, ha, hbecomes.1⟩

/-! ## Two reads -/

/-- Two reads of an id at any two moments of a run that return the same version return the
    same bytes, and the same row when neither is pending. -/
theorem version_identifies_build (A : Platform M σ) {es₁ es₂ : List Event} {s t : State M}
    (hrun₁ : run (step A) (State.start M) es₁ = some s) (hrun₂ : run (step A) s es₂ = some t)
    {id : String} {a b : Plugin} (ha : A.repo.getPlugin s.db id = .ok a)
    (hb : A.repo.getPlugin t.db id = .ok b) (hversion : a.version = b.version) :
    a.compiledWasm = b.compiledWasm ∧
      (a.status ≠ "pending" → b.status ≠ "pending" →
        a.name = b.name ∧ a.sourceCode = b.sourceCode ∧ a.status = b.status ∧
          a.compileErrors = b.compileErrors ∧ a.compiledWasm = b.compiledWasm) := by
  have hinherits : Inherits s t :=
    run_related inherits_refl inherits_trans
      (fun s e t h => inherits_step (step_transition h)) hrun₂
  have hfa := A.repo.sound.getPlugin.mp ha
  have hfb := A.repo.sound.getPlugin.mp hb
  obtain ⟨hmem, rfl⟩ := Table.find?_some hfa
  obtain ⟨a', ha', hlater⟩ := hinherits.2 a.id ((reachable_run hrun₁).ids.plugins a hmem) b hfb
  rw [hfa] at ha'
  cases ha'
  rcases hlater with hlt | ⟨-, hwasm, hsame⟩
  · omega
  · refine ⟨hwasm, fun _ hpending => ?_⟩
    have hab := hsame hpending
    subst hab
    exact ⟨rfl, rfl, rfl, rfl, rfl⟩

/-- A plugin is created and built. -/
def createAndBuild : List Event :=
  [(Action.request 0 (.createPlugin ⟨[1], false⟩)).quietly "p", (Action.advance 0 "p").quietly "",
    (Action.worker "p").quietly "", (Action.worker "p").quietly "",
    (Action.worker "p").quietly "", (Action.worker "p").quietly ""]

/-- It is read before and after an edit: one version, two sources, the same bytes. -/
theorem version_identifies_build_after_edit :
    ∃ s t a b, run (step .small) (State.start Bytes) createAndBuild = some s ∧
      run (step .small) s [(Action.request 1 (.updatePlugin "p" ⟨[2], false⟩)).quietly "",
        (Action.advance 1 "p").quietly ""] = some t ∧
      Platform.small.repo.getPlugin s.db "p" = .ok a ∧
      Platform.small.repo.getPlugin t.db "p" = .ok b ∧
      a.sourceCode ≠ b.sourceCode ∧ a.compiledWasm = b.compiledWasm := by
  obtain ⟨s, t, a, b, hs, ht, ha, hb, hsource, hversion⟩ :
      ∃ s t a b, run (step .small) (State.start Bytes) createAndBuild = some s ∧
        run (step .small) s [(Action.request 1 (.updatePlugin "p" ⟨[2], false⟩)).quietly "",
          (Action.advance 1 "p").quietly ""] = some t ∧
        Platform.small.repo.getPlugin s.db "p" = .ok a ∧
        Platform.small.repo.getPlugin t.db "p" = .ok b ∧
        a.sourceCode ≠ b.sourceCode ∧ a.version = b.version :=
    ⟨_, _, _, _, rfl, rfl, rfl, rfl, by decide, rfl⟩
  have hsame := version_identifies_build .small hs ht ha hb hversion
  exact ⟨s, t, a, b, hs, ht, ha, hb, hsource, hsame.1⟩

end PluginSandbox.Server
