/-
  What the server keeps of its plugins: the abstract catalog.

  A plugin is created with a content, is edited, has builds reported, and is deleted; its id is
  never used again. An `Entry` is that life so far: the contents sent, the builds reported, and
  whether an edit came after the last build. The row of the table is a function of the entry
  (`Entry.row`), so a row in which status, bytes, errors and version disagree has no entry. A build
  may report on any content the plugin has had, not only on the last one.

  `apply` is the whole specification; `Refinement` shows that every run of the server follows it.
-/
import PluginSandbox.Compiler.Worker
import PluginSandbox.Db.Contract
import PluginSandbox.Lib.Slots
import PluginSandbox.Server.Api

namespace PluginSandbox.Server

open PluginSandbox.Lib PluginSandbox.Db PluginSandbox.Compiler

/-! ## Entries -/

/-- A name and a source code that a request may set. -/
structure Content extends PluginRequest where
  hasName : name ≠ ""
  hasSource : sourceCode ≠ ""

/-- The last content and the last build come first. -/
structure Entry where
  content : Content
  earlier : List Content
  createdAt : Int
  builds : List Build
  edited : Bool

def Entry.contents (entry : Entry) : List Content := entry.content :: entry.earlier

def Entry.sources (entry : Entry) : List String := entry.contents.map fun c => c.sourceCode

/-- The build that the last content is judged by. -/
def Entry.verdict (entry : Entry) : Option Build :=
  if entry.edited then none else entry.builds.head?

/-- The row of the plugin `id`. -/
def Entry.row (id : String) (entry : Entry) : Plugin where
  id := id
  name := entry.content.name
  sourceCode := entry.content.sourceCode
  compiledWasm := (entry.builds.head?.map Build.compiledWasm).getD []
  version := entry.builds.length + 1
  status := (entry.verdict.map Build.status).getD "pending"
  compileErrors := (entry.verdict.map Build.compileErrors).getD ""
  createdAt := entry.createdAt

def Entry.create (content : Content) (createdAt : Int) : Entry where
  content := content
  earlier := []
  createdAt := createdAt
  builds := []
  edited := false

def Entry.edit (content : Content) (entry : Entry) : Entry :=
  { entry with content, earlier := entry.contents, edited := true }

/-- A build of a source that the plugin has had. -/
def Entry.settle (toolchain : Toolchain) (sourceCode : String) (entry : Entry) : Option Entry :=
  if sourceCode ∈ entry.sources then
    some { entry with builds := toolchain.build sourceCode :: entry.builds, edited := false }
  else none

theorem settle_of_source {sourceCode : String} {entry : Entry} (toolchain : Toolchain)
    (h : sourceCode ∈ entry.sources) :
    ∃ entry', entry.settle toolchain sourceCode = some entry' :=
  ⟨_, if_pos h⟩

theorem row_edit (id : String) (content : Content) (entry : Entry) :
    (entry.edit content).row id = (entry.row id).edited content.name content.sourceCode := rfl

theorem row_settle {toolchain : Toolchain} {sourceCode : String} {entry entry' : Entry}
    (h : entry.settle toolchain sourceCode = some entry') (id : String) :
    entry'.row id = (entry.row id).built (toolchain.build sourceCode).status
      (toolchain.build sourceCode).compiledWasm (toolchain.build sourceCode).compileErrors := by
  unfold Entry.settle at h
  split at h
  · cases h
    unfold Entry.row Plugin.built
    congr 1
  · cases h

/-- The columns of a row agree with each other. -/
structure Consistent (p : Plugin) : Prop where
  name : p.name ≠ ""
  sourceCode : p.sourceCode ≠ ""
  status : p.status = "pending" ∨ p.status = "compiled" ∨ p.status = "failed"
  version : 1 ≤ p.version
  unbuilt : p.version = 1 → p.status = "pending" ∧ p.compiledWasm = []
  failed : p.status = "failed" → p.compiledWasm = []
  compileErrors : p.status ≠ "failed" → p.compileErrors = ""

theorem row_pending {entry : Entry} (h : entry.verdict = none) (id : String) :
    (entry.row id).status = "pending" ∧ (entry.row id).compileErrors = "" := by
  unfold Entry.row
  rw [h]
  exact ⟨rfl, rfl⟩

theorem row_settled {entry : Entry} {build : Build} (h : entry.verdict = some build) (id : String) :
    entry.builds ≠ [] ∧ (entry.row id).status = build.status ∧
      (entry.row id).compiledWasm = build.compiledWasm ∧
      (entry.row id).compileErrors = build.compileErrors := by
  have hhead : entry.builds.head? = some build := by
    unfold Entry.verdict at h
    split at h
    · cases h
    · exact h
  refine ⟨fun hnone => ?_, ?_⟩
  · rw [hnone] at hhead
    cases hhead
  · unfold Entry.row
    rw [h, hhead]
    exact ⟨rfl, rfl, rfl⟩

theorem compiledWasm_of_failed {build : Build} (h : build.status = "failed") :
    build.compiledWasm = [] := by
  cases build with
  | built wasm => exact absurd h (show "compiled" ≠ "failed" by decide)
  | _ => rfl

theorem compileErrors_of_not_failed {build : Build} (h : build.status ≠ "failed") :
    build.compileErrors = "" := by
  cases build with
  | built wasm => rfl
  | _ => exact absurd rfl h

theorem row_consistent (id : String) (entry : Entry) : Consistent (entry.row id) := by
  have hversion : (entry.row id).version = entry.builds.length + 1 := rfl
  cases hverdict : entry.verdict with
  | none =>
      obtain ⟨hstatus, herrors⟩ := row_pending hverdict id
      refine ⟨entry.content.hasName, entry.content.hasSource, .inl hstatus, by omega,
        fun hone => ⟨hstatus, ?_⟩, fun hfailed => ?_, fun _ => herrors⟩
      · have hnone : entry.builds = [] := List.length_eq_zero_iff.mp (by omega)
        unfold Entry.row
        rw [hnone]
        rfl
      · rw [hstatus] at hfailed
        exact absurd hfailed (by decide)
  | some build =>
      obtain ⟨hsome, hstatus, hwasm, herrors⟩ := row_settled hverdict id
      have hlength := List.length_pos_iff.mpr hsome
      refine ⟨entry.content.hasName, entry.content.hasSource, ?_, by omega, by omega, ?_, ?_⟩
      · rw [hstatus]
        exact .inr build.status_eq
      · rw [hstatus, hwasm]
        exact compiledWasm_of_failed
      · rw [hstatus, herrors]
        exact compileErrors_of_not_failed

/-! ## Entries over time -/

/-- `b` is an entry that `a` can become. -/
structure Entry.Extends (a b : Entry) : Prop where
  createdAt : b.createdAt = a.createdAt
  contents : a.contents <:+ b.contents
  builds : a.builds <:+ b.builds

theorem Entry.extends_refl (a : Entry) : a.Extends a :=
  ⟨rfl, List.suffix_refl _, List.suffix_refl _⟩

theorem Entry.extends_trans (a b c : Entry) (hab : a.Extends b) (hbc : b.Extends c) :
    a.Extends c where
  createdAt := hbc.createdAt.trans hab.createdAt
  contents := hab.contents.trans hbc.contents
  builds := hab.builds.trans hbc.builds

theorem Entry.extends_edit (content : Content) (a : Entry) : a.Extends (a.edit content) :=
  ⟨rfl, List.suffix_cons _ _, List.suffix_refl _⟩

theorem Entry.extends_settle {toolchain : Toolchain} {sourceCode : String} (a b : Entry)
    (h : a.settle toolchain sourceCode = some b) : a.Extends b := by
  unfold Entry.settle at h
  split at h
  · cases h
    exact ⟨rfl, List.suffix_refl _, List.suffix_cons _ _⟩
  · cases h

theorem Entry.sources_subset {a b : Entry} (h : a.Extends b) : a.sources ⊆ b.sources :=
  List.map_subset _ h.contents.subset

theorem version_le {a b : Entry} (h : a.Extends b) (id : String) :
    (a.row id).version ≤ (b.row id).version := by
  have hlength := h.builds.length_le
  show (a.builds.length : Int) + 1 ≤ b.builds.length + 1
  omega

/-! ## Catalogs -/

abbrev Catalog := Slots String Entry

def Catalog.empty : Catalog := fun _ => .unused

inductive Operation where
  | create (id : String) (content : Content) (createdAt : Int)
  | edit (id : String) (content : Content)
  | settle (id sourceCode : String)
  | delete (id : String)

def Catalog.apply (toolchain : Toolchain) (c : Catalog) : Operation → Option Catalog
  | .create id content createdAt => c.create id (.create content createdAt)
  | .edit id content => c.change id fun entry => some (entry.edit content)
  | .settle id sourceCode => c.change id (Entry.settle toolchain sourceCode)
  | .delete id => c.remove id

variable {toolchain : Toolchain} {c c' : Catalog} {op : Operation} {ops : List Operation}

/-- Every operation moves the catalog forward. -/
theorem leads_apply (h : c.apply toolchain op = some c') : c.Leads Entry.Extends c' := by
  cases op with
  | create id content createdAt => exact Slots.leads_create Entry.extends_refl h
  | edit id content =>
      refine Slots.leads_change Entry.extends_refl (fun a b hb => ?_) h
      cases hb
      exact Entry.extends_edit content a
  | settle id sourceCode => exact Slots.leads_change Entry.extends_refl Entry.extends_settle h
  | delete id => exact Slots.leads_remove Entry.extends_refl h

theorem leads_ops (hrun : run (Catalog.apply toolchain) c ops = some c') :
    c.Leads Entry.Extends c' :=
  Slots.leads_run Entry.extends_refl Entry.extends_trans (fun _ _ _ h => leads_apply h) hrun

/-- The plugin has had the source, or is gone. -/
def Catalog.HasHad (c : Catalog) (id sourceCode : String) : Prop :=
  c id = .gone ∨ ∃ entry, c id = .live entry ∧ sourceCode ∈ entry.sources

theorem hasHad_leads {id sourceCode : String} (h : c.Leads Entry.Extends c')
    (hhad : c.HasHad id sourceCode) : c'.HasHad id sourceCode := by
  have hid := h id
  rcases hhad with hgone | ⟨entry, hlive, hsource⟩
  · rw [hgone] at hid
    exact .inl (Slot.gone_leads hid)
  · rw [hlive] at hid
    generalize hslot : c' id = slot at hid
    cases hid with
    | live _ entry' hgrows => exact .inr ⟨entry', hslot, Entry.sources_subset hgrows hsource⟩
    | dead => exact .inl hslot

/-- Only a deletion ends the life of an id. -/
theorem delete_mem {id : String} (hrun : run (Catalog.apply toolchain) c ops = some c')
    (hbefore : c id ≠ .gone) (hafter : c' id = .gone) : .delete id ∈ ops := by
  have hleft : ¬ (c' id ≠ .gone) := not_not.mpr hafter
  obtain ⟨pre, op, post, u, v, rfl, -, hu, hstep, hv, -⟩ :=
    run_leaves (P := fun c : Catalog => c id ≠ .gone) hbefore hleft hrun
  have hgone : v id = .gone := not_not.mp hv
  have hupdate : ∀ k (x : Slot Entry), v = Function.update u k x → x ≠ .gone → False := by
    rintro k x rfl hx
    rw [Function.update_apply] at hgone
    split at hgone
    · exact hx hgone
    · exact hu hgone
  cases op with
  | create k content createdAt =>
      exact (hupdate k _ (Slots.create_eq_some_iff.mp hstep).2 nofun).elim
  | edit k content =>
      obtain ⟨_, _, -, -, hv⟩ := Slots.change_eq_some_iff.mp hstep
      exact (hupdate k _ hv nofun).elim
  | settle k sourceCode =>
      obtain ⟨_, _, -, -, hv⟩ := Slots.change_eq_some_iff.mp hstep
      exact (hupdate k _ hv nofun).elim
  | delete k =>
      obtain ⟨-, rfl⟩ := Slots.remove_eq_some_iff.mp hstep
      by_cases hid : id = k
      · subst hid
        exact List.mem_append_right _ List.mem_cons_self
      · rw [Function.update_of_ne hid] at hgone
        exact absurd hgone hu

/-- Every content of an entry was set by an operation, and so was its creation time. -/
def Sourced (ops : List Operation) (c : Catalog) : Prop :=
  ∀ id entry, c id = .live entry →
    (∃ content, .create id content entry.createdAt ∈ ops) ∧
    ∀ content ∈ entry.contents,
      .create id content entry.createdAt ∈ ops ∨ .edit id content ∈ ops

theorem sourced_update {k : String} {entry : Entry} (hinv : Sourced ops c)
    (hentry : (∃ content, .create k content entry.createdAt ∈ ops) ∧
      ∀ content ∈ entry.contents,
        .create k content entry.createdAt ∈ ops ∨ .edit k content ∈ ops) :
    Sourced ops (Function.update c k (.live entry)) := by
  intro id entry' hlive
  rw [Function.update_apply] at hlive
  split at hlive
  · next hid =>
      cases hlive
      exact hid ▸ hentry
  · exact hinv id entry' hlive

theorem sourced_apply (hinv : Sourced ops c) (hop : op ∈ ops)
    (h : c.apply toolchain op = some c') : Sourced ops c' := by
  cases op with
  | create id content createdAt =>
      obtain ⟨-, rfl⟩ := Slots.create_eq_some_iff.mp h
      refine sourced_update hinv ⟨⟨content, hop⟩, fun content' hcontent => .inl ?_⟩
      rw [List.mem_singleton.mp hcontent]
      exact hop
  | edit id content =>
      obtain ⟨a, b, hlive, hb, rfl⟩ := Slots.change_eq_some_iff.mp h
      cases hb
      obtain ⟨hcreated, hcontents⟩ := hinv id a hlive
      refine sourced_update hinv ⟨hcreated, fun content' hcontent => ?_⟩
      rcases List.mem_cons.mp hcontent with rfl | hold
      · exact .inr hop
      · exact hcontents content' hold
  | settle id sourceCode =>
      obtain ⟨a, b, hlive, hb, rfl⟩ := Slots.change_eq_some_iff.mp h
      unfold Entry.settle at hb
      split at hb
      · cases hb
        exact sourced_update hinv (hinv id a hlive)
      · cases hb
  | delete id =>
      obtain ⟨-, rfl⟩ := Slots.remove_eq_some_iff.mp h
      intro k entry hlive
      rw [Function.update_apply] at hlive
      split at hlive
      · cases hlive
      · exact hinv k entry hlive

theorem sourced_ops (hrun : run (Catalog.apply toolchain) .empty ops = some c) :
    Sourced ops c :=
  run_invariant (P := (· ∈ ops)) (fun _ _ _ hinv hop h => sourced_apply hinv hop h)
    (fun _ h => h) (fun _ _ h => by cases h) hrun

end PluginSandbox.Server
