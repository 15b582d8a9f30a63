/-
  Where the code that runs comes from.

  The table, the worker, the cache and the handlers pass plugins and bytes on, each at its own
  time. `Origins` follows them back: the WebAssembly of a row, compiled or pending again after
  an edit, was built from a source that the table had for this plugin; the worker builds such a
  source, and the cache and the handlers hold such bytes and modules of them. What the table
  has had is what the run has seen (`Seen`), so the invariant holds across edits, deletions,
  failures and restarts (`origins_run`).

  A handler that is about to run a module has one: `GetModule` never hands out nil.
-/
import PluginSandbox.Lib.History
import PluginSandbox.Server.Termination

namespace PluginSandbox.Server

open PluginSandbox.Lib PluginSandbox.Db PluginSandbox.Sandbox PluginSandbox.Compiler

variable {M σ : Type} {A : Platform M σ} {s t : State M} {e : Event} {S S' : Plugin → Prop}

/-! ## Sources, bytes and modules -/

/-- The row is in the table. -/
def Stored (s : State M) (p : Plugin) : Prop := p ∈ s.db.plugins.rows

/-- The bytes were built from a source that the plugin `id` had. -/
def BuiltFrom (A : Platform M σ) (S : Plugin → Prop) (id : String) (wasm : Bytes) : Prop :=
  ∃ p, S p ∧ p.id = id ∧ A.toolchain.build p.sourceCode = .built wasm

/-- What `GetModule` gives to a run of the plugin `id`: the module of bytes that were built from
    one of its sources, or the error of compiling such bytes. -/
def Loaded (A : Platform M σ) (S : Plugin → Prop) (id : String) :
    Except Bytes (Option M) → Prop
  | .ok none => False
  | .ok (some m) => ∃ wasm, BuiltFrom A S id wasm ∧ A.newModule wasm = .ok m
  | .error err => ∃ wasm cause, BuiltFrom A S id wasm ∧ A.newModule wasm = .error cause ∧
      err = utf8 "failed to compile Wasm: " ++ cause

theorem builtFrom_mono (hS : ∀ p, S p → S' p) {id : String} {wasm : Bytes}
    (h : BuiltFrom A S id wasm) : BuiltFrom A S' id wasm := by
  obtain ⟨p, hp, hid, hbuild⟩ := h
  exact ⟨p, hS p hp, hid, hbuild⟩

theorem loaded_mono (hS : ∀ p, S p → S' p) {id : String} {loaded : Except Bytes (Option M)}
    (h : Loaded A S id loaded) : Loaded A S' id loaded := by
  match loaded, h with
  | .ok (some m), ⟨wasm, hbuilt, hm⟩ => exact ⟨wasm, builtFrom_mono hS hbuilt, hm⟩
  | .error err, ⟨wasm, cause, hbuilt, hcause, herr⟩ =>
      exact ⟨wasm, cause, builtFrom_mono hS hbuilt, hcause, herr⟩

/-! ## Handlers -/

/-- The WebAssembly of the plugin that a handler holds is built from a source of the plugin that
    its request is about, and what it has loaded is the module of such bytes. A plugin that is
    being created has none. -/
def Handler.Original (A : Platform M σ) (S : Plugin → Prop) (engine : Engine M)
    (h : Handler M) : Prop :=
  match h.phase with
  | .createQueueCompile plugin => plugin.compiledWasm = []
  | .getModule plugin _ => h.target = some plugin.id ∧ BuiltFrom A S plugin.id plugin.compiledWasm
  | .compile plugin _ => h.target = some plugin.id ∧ BuiltFrom A S plugin.id plugin.compiledWasm
  | .getCompiled plugin _ =>
    h.target = some plugin.id ∧ BuiltFrom A S plugin.id plugin.compiledWasm ∧
      ∃ m, engine.modules plugin.id = some m
  | .run plugin _ loaded =>
    h.target = some plugin.id ∧ BuiltFrom A S plugin.id plugin.compiledWasm ∧
      Loaded A S plugin.id loaded
  | .saveExecution plugin _ =>
    h.target = some plugin.id ∧ BuiltFrom A S plugin.id plugin.compiledWasm
  | _ => True

/-- A cache that keeps what it has. -/
def Grows (engine engine' : Engine M) : Prop :=
  ∀ id m, engine.modules id = some m → engine'.modules id = some m

theorem original_mono (hS : ∀ p, S p → S' p) {engine engine' : Engine M}
    (hgrows : Grows engine engine') {h : Handler M} (horiginal : h.Original A S engine) :
    h.Original A S' engine' := by
  obtain ⟨target, phase⟩ := h
  cases phase with
  | createQueueCompile plugin => exact horiginal
  | getModule plugin input => exact ⟨horiginal.1, builtFrom_mono hS horiginal.2⟩
  | compile plugin input => exact ⟨horiginal.1, builtFrom_mono hS horiginal.2⟩
  | getCompiled plugin input =>
      obtain ⟨htarget, hbuilt, m, hm⟩ := horiginal
      exact ⟨htarget, builtFrom_mono hS hbuilt, m, hgrows plugin.id m hm⟩
  | run plugin input loaded =>
      obtain ⟨htarget, hbuilt, hloaded⟩ := horiginal
      exact ⟨htarget, builtFrom_mono hS hbuilt, loaded_mono hS hloaded⟩
  | saveExecution plugin res => exact ⟨horiginal.1, builtFrom_mono hS horiginal.2⟩
  | _ => trivial

theorem original_abort {engine : Engine M} (h : Handler M) : h.abort.Original A S engine := by
  obtain ⟨target, phase⟩ := h
  cases phase <;> trivial

/-! ## The invariant -/

/-- A row that has been compiled: it says so, or it has kept WebAssembly across an edit. -/
def HasWasm (p : Plugin) : Prop := p.status = "compiled" ∨ p.compiledWasm ≠ []

structure Origins (A : Platform M σ) (S : Plugin → Prop) (s : State M) : Prop where
  rows : ∀ p ∈ s.db.plugins.rows, S p
  compiled : ∀ p ∈ s.db.plugins.rows, HasWasm p → BuiltFrom A S p.id p.compiledWasm
  snapshot : ∀ id source, snapshot s.worker = some (id, source) →
    ∃ p, S p ∧ p.id = id ∧ p.sourceCode = source
  outcome : BuildOfSnapshot A.toolchain s.worker
  modules : ∀ id m, s.engine.modules id = some m →
    ∃ wasm, BuiltFrom A S id wasm ∧ A.newModule wasm = .ok m
  handlers : ∀ rid h, s.handlers rid = some h → h.Original A S s.engine

theorem origins_start (A : Platform M σ) (S : Plugin → Prop) : Origins A S (State.start M) where
  rows _ hp := nomatch hp
  compiled _ hp := nomatch hp
  snapshot _ _ h := nomatch h
  outcome := nofun
  modules _ _ h := nomatch h
  handlers _ _ h := nomatch h

theorem origins_mono (hS : ∀ p, S p → S' p) (h : Origins A S s) : Origins A S' s where
  rows p hp := hS p (h.rows p hp)
  compiled p hp hwasm := builtFrom_mono hS (h.compiled p hp hwasm)
  snapshot id source hsnapshot := by
    obtain ⟨p, hp, hid, hsource⟩ := h.snapshot id source hsnapshot
    exact ⟨p, hS p hp, hid, hsource⟩
  outcome := h.outcome
  modules id m hm := by
    obtain ⟨wasm, hbuilt, hmodule⟩ := h.modules id m hm
    exact ⟨wasm, builtFrom_mono hS hbuilt, hmodule⟩
  handlers rid handler hh := original_mono hS (fun _ _ hm => hm) (h.handlers rid handler hh)

/-! ## Rows and worker -/

/-- Only a build that succeeded makes a row with WebAssembly. -/
theorem built_of_hasWasm {b : Build} (h : b.status = "compiled" ∨ b.compiledWasm ≠ []) :
    b = .built b.compiledWasm := by
  rcases h with hcompiled | hsome
  · exact Build.compiled_iff.mp hcompiled
  · cases b with
    | built wasm => rfl
    | _ => exact absurd rfl hsome

/-- A row that has WebAssembly after a step had it before, or was just written by the worker. -/
theorem compiled_step (hinv : Origins A S s) (h : Transition A s e t) :
    ∀ p ∈ t.db.plugins.rows, HasWasm p → BuiltFrom A S p.id p.compiledWasm := by
  cases h with
  | savePlugin rid plugin plugins hrid hfree htarget hfresh hstatus hempty hinsert =>
      intro p hp hwasm
      rcases (Table.mem_rows_insert hinsert).mp hp with hp | rfl
      · exact hinv.compiled p hp hwasm
      · rcases hwasm with hcompiled | hsome
        · rw [hstatus] at hcompiled
          exact absurd hcompiled (by decide)
        · exact absurd hempty hsome
  | updatePluginCode rid id name source =>
      intro p hp hwasm
      rcases mem_setCode.mp hp with ⟨hp, -⟩ | ⟨q, hq, hid, rfl⟩
      · exact hinv.compiled p hp hwasm
      · -- an edit leaves the WebAssembly of the row alone
        refine hinv.compiled q hq (.inr ?_)
        exact hwasm.resolve_left (show "pending" ≠ "compiled" by decide)
  | deletePluginRow rid id =>
      intro p hp
      exact hinv.compiled p (mem_dropPlugin.mp hp).1
  | writeStatus id source build db haction hworker hwritten hdb =>
      intro p hp hwasm
      subst hdb
      rcases mem_setStatus.mp hp with ⟨hp, -⟩ | ⟨q, -, hid, rfl⟩
      · exact hinv.compiled p hp hwasm
      · have hsnapshot : snapshot s.worker = some (id, source) := by rw [hworker]; rfl
        obtain ⟨origin, horigin, hsame, hsource⟩ := hinv.snapshot id source hsnapshot
        have hbuild : A.toolchain.build origin.sourceCode = .built build.compiledWasm := by
          rw [hsource, ← hinv.outcome id source build hworker]
          exact built_of_hasWasm hwasm
        exact ⟨origin, horigin, hsame.trans hid.symm, hbuild⟩
  | _ => exact hinv.compiled

/-- The worker reads its sources from the table. -/
theorem snapshot_step (hinv : Origins A S s) (h : Transition A s e t) :
    ∀ id source, snapshot t.worker = some (id, source) →
      ∃ p, S p ∧ p.id = id ∧ p.sourceCode = source := by
  cases h with
  | receive | skip | writeStatus | dropStatus | restart => exact nofun
  | read id plugin haction hworker hread hrow =>
      intro id' source hsnapshot
      obtain ⟨rfl, rfl⟩ := Prod.mk.inj (Option.some.inj hsnapshot)
      obtain ⟨hmem, hid⟩ := Table.find?_some hrow
      exact ⟨plugin, hinv.rows plugin hmem, hid, rfl⟩
  | build id source haction hworker =>
      intro id' source' hsnapshot
      have hbefore : snapshot s.worker = some (id, source) := by rw [hworker]; rfl
      exact hinv.snapshot id' source' (hbefore.trans hsnapshot)
  | _ => exact hinv.snapshot

/-! ## Cache and handlers -/

/-- What a handler's step leaves in the cache and in the handler. -/
structure Leaves (A : Platform M σ) (S : Plugin → Prop) (s : State M) (target : Option String)
    (next : Next M) : Prop where
  grows : Grows s.engine next.1.engine
  modules : ∀ id m, next.1.engine.modules id = some m →
    ∃ wasm, BuiltFrom A S id wasm ∧ A.newModule wasm = .ok m
  handler : Handler.Original A S next.1.engine ⟨target, next.2⟩

/-- A step that leaves the cache alone. -/
theorem leaves_of_engine {target : Option String} {next : Next M} (hinv : Origins A S s)
    (hengine : next.1.engine = s.engine)
    (hhandler : Handler.Original A S s.engine ⟨target, next.2⟩) : Leaves A S s target next where
  grows := by
    rw [hengine]
    exact fun _ _ hm => hm
  modules := by
    rw [hengine]
    exact hinv.modules
  handler := by
    rw [hengine]
    exact hhandler

theorem leaves_serve {env : Env} {req : Request} {next : Next M} (hinv : Origins A S s)
    (h : serve A s env req = some next) : Leaves A S s (req.target env.uuid) next := by
  cases serve_opened h with
  | ready body plugin hrow hstatus =>
      exact leaves_of_engine hinv rfl ⟨rfl, hinv.compiled plugin hrow (.inl hstatus)⟩
  | saved => exact leaves_of_engine hinv rfl rfl
  | _ => exact leaves_of_engine hinv rfl trivial

/-- `Compile` adds at most the module of the bytes it is called with. -/
theorem leaves_compile {target : Option String} {plugin : Plugin} {engine : Engine M}
    {phase : Phase M} {r : Except Bytes Unit} (hinv : Origins A S s)
    (hbuilt : BuiltFrom A S plugin.id plugin.compiledWasm)
    (hcompile : s.engine.compile A.newModule plugin.id plugin.compiledWasm = (r, engine))
    (hhandler : Handler.Original A S engine ⟨target, phase⟩) :
    Leaves A S s target ({ s with engine }, phase) := by
  have hmodules := modules_compile A.newModule s.engine plugin.id plugin.compiledWasm
  rw [hcompile] at hmodules
  refine ⟨fun id m hm => ?_, fun id m hm => ?_, hhandler⟩
  · show engine.modules id = some m
    rw [hmodules, hm, Option.some_or]
  · have hor : (s.engine.modules id).or
        (if plugin.id = id then (A.newModule plugin.compiledWasm).toOption else none) = some m :=
      (hmodules id).symm.trans hm
    rcases Option.or_eq_some_iff.mp hor with hold | ⟨-, hnew⟩
    · exact hinv.modules id m hold
    · split at hnew
      · next hid =>
          subst hid
          cases hmodule : A.newModule plugin.compiledWasm with
          | error err =>
              rw [hmodule] at hnew
              cases hnew
          | ok m' =>
              rw [hmodule] at hnew
              cases hnew
              exact ⟨plugin.compiledWasm, hbuilt, hmodule⟩
      · cases hnew

/-- When `Compile` succeeds the module is there. -/
theorem compile_ok {engine engine' : Engine M} {id : String} {wasm : Bytes}
    (h : engine.compile A.newModule id wasm = (.ok (), engine')) :
    ∃ m, engine'.modules id = some m := by
  unfold Engine.compile at h
  split at h
  · next m hm =>
      cases h
      exact ⟨m, hm⟩
  · split at h
    · cases h
    · next m hm =>
        cases h
        exact ⟨m, Function.update_self id (some m) engine.modules⟩

theorem compile_error {engine engine' : Engine M} {id : String} {wasm err : Bytes}
    (h : engine.compile A.newModule id wasm = (.error err, engine')) :
    ∃ cause, A.newModule wasm = .error cause ∧ err = utf8 "failed to compile Wasm: " ++ cause := by
  unfold Engine.compile at h
  split at h
  · cases h
  · split at h
    · next cause hcause =>
        cases h
        exact ⟨cause, hcause, rfl⟩
    · cases h

theorem leaves_resume {env : Env} {id : String} {phase : Phase M} {next : Next M}
    (hinv : Origins A S s) (horiginal : Handler.Original A S s.engine ⟨some id, phase⟩)
    (h : resume A s env id phase = some next) : Leaves A S s (some id) next := by
  cases resume_continued h with
  | hit plugin input m hm =>
      exact leaves_of_engine hinv rfl ⟨horiginal.1, horiginal.2, hinv.modules plugin.id m hm⟩
  | miss plugin input hm => exact leaves_of_engine hinv rfl horiginal
  | compiled plugin input engine hcompile =>
      exact leaves_compile hinv horiginal.2 hcompile
        ⟨horiginal.1, horiginal.2, compile_ok hcompile⟩
  | rejected plugin input err engine hcompile =>
      obtain ⟨cause, hcause, herr⟩ := compile_error hcompile
      exact leaves_compile hinv horiginal.2 hcompile
        ⟨horiginal.1, horiginal.2, plugin.compiledWasm, cause, horiginal.2, hcause, herr⟩
  | fetched plugin input =>
      obtain ⟨htarget, hbuilt, m, hm⟩ := horiginal
      refine leaves_of_engine hinv rfl ⟨htarget, hbuilt, ?_⟩
      rw [hm]
      exact hinv.modules plugin.id m hm
  | ran plugin input loaded res hran => exact leaves_of_engine hinv rfl ⟨horiginal.1, horiginal.2.1⟩
  | _ => exact leaves_of_engine hinv rfl trivial

/-! ## Steps and runs -/

/-- Storing a handler keeps the cache and the handlers original. -/
theorem original_put {rid : Nat} {target : Option String} {next : Next M} (hinv : Origins A S s)
    (hothers : next.1.handlers = s.handlers) (hleaves : Leaves A S s target next) :
    ∀ k h, (State.put rid target next).handlers k = some h →
      h.Original A S (State.put rid target next).engine := by
  intro k h hh
  rw [handlers_put, hothers] at hh
  split at hh
  · cases hh
    exact hleaves.handler
  · exact original_mono (fun _ hp => hp) hleaves.grows (hinv.handlers k h hh)

/-- The cache and the handlers after a step. -/
theorem cache_step (hinv : Origins A S s) (h : step A s e = some t) :
    (∀ id m, t.engine.modules id = some m →
      ∃ wasm, BuiltFrom A S id wasm ∧ A.newModule wasm = .ok m) ∧
    ∀ rid h, t.handlers rid = some h → h.Original A S t.engine := by
  cases haction : e.action with
  | request rid req =>
      obtain ⟨-, next, hserve, rfl⟩ := (step_request haction).mp h
      have htarget : e.target = req.target e.env.uuid := by
        unfold Event.target
        rw [haction]
      rw [htarget]
      have hleaves := leaves_serve hinv hserve
      exact ⟨hleaves.modules, original_put hinv (within_serve hserve).handlers hleaves⟩
  | advance rid id =>
      obtain ⟨phase, hh, next, hresume, rfl⟩ := (step_advance haction).mp h
      rw [target_advance haction]
      obtain ⟨budget, -, hwithin⟩ := within_resume hresume
      have hleaves := leaves_resume hinv (hinv.handlers rid _ hh) hresume
      exact ⟨hleaves.modules, original_put hinv hwithin.handlers hleaves⟩
  | worker id =>
      obtain ⟨-, rfl⟩ := (step_worker haction).mp h
      have hframe := workerStep_frame A s e.env
      rw [hframe.engine, hframe.handlers]
      exact ⟨hinv.modules, hinv.handlers⟩
  | restart =>
      obtain rfl := (step_restart haction).mp h
      refine ⟨nofun, fun rid h hh => ?_⟩
      obtain ⟨h₀, -, rfl⟩ := Option.map_eq_some_iff.mp hh
      exact original_abort h₀

theorem origins_historic (A : Platform M σ) : Historic (step A) Stored (Origins A) where
  mono hS h := origins_mono hS h
  step hinv hnow h := by
    have htransition := step_transition h
    obtain ⟨hmodules, hhandlers⟩ := cache_step hinv h
    exact ⟨hnow, compiled_step hinv htransition, snapshot_step hinv htransition,
      buildOfSnapshot_step hinv.outcome htransition, hmodules, hhandlers⟩

/-- In every run the code at hand goes back to sources that the run has seen in the table. -/
theorem origins_run {es : List Event} (hrun : run (step A) (State.start M) es = some s) :
    Origins A (Seen (step A) Stored (State.start M) es) s :=
  run_seen_start (origins_historic A) (origins_start A) hrun

/-- A plugin is created, built, loaded for a run and edited. -/
def loadAndEdit : List Event :=
  createAndBuild ++ [(Action.request 1 (.executePlugin "p" ⟨[], false⟩)).quietly "",
    (Action.advance 1 "p").quietly "", (Action.advance 1 "p").quietly "",
    (Action.request 2 (.updatePlugin "p" ⟨[2], false⟩)).quietly "",
    (Action.advance 2 "p").quietly ""]

/-- The row has the new source and is pending, with WebAssembly of the old one, and the cache has
    a module of it. -/
theorem origins_run_edited :
    ∃ s p m, run (step .small) (State.start Bytes) loadAndEdit = some s ∧
      s.db.plugins.rows = [p] ∧ p.sourceCode = "b" ∧ p.status = "pending" ∧
      BuiltFrom .small (Seen (step .small) Stored (State.start Bytes) loadAndEdit) p.id
        p.compiledWasm ∧
      s.engine.modules "p" = some m ∧
      ∃ wasm, BuiltFrom .small (Seen (step .small) Stored (State.start Bytes) loadAndEdit) "p"
        wasm ∧ Platform.small.newModule wasm = .ok m := by
  obtain ⟨s, p, m, hs, hp, hsource, hstatus, hwasm, hm⟩ :
      ∃ s p m, run (step .small) (State.start Bytes) loadAndEdit = some s ∧
        s.db.plugins.rows = [p] ∧ p.sourceCode = "b" ∧ p.status = "pending" ∧
        p.compiledWasm = utf8 "a" ∧ s.engine.modules "p" = some m :=
    ⟨_, _, _, rfl, rfl, rfl, rfl, rfl, rfl⟩
  have horigins := origins_run (A := .small) hs
  have hrow : p ∈ s.db.plugins.rows := hp ▸ List.mem_singleton_self p
  have hsome : p.compiledWasm ≠ [] := by
    rw [hwasm]
    decide
  exact ⟨s, p, m, hs, hp, hsource, hstatus, horigins.compiled p hrow (.inr hsome), hm,
    horigins.modules "p" m hm⟩

end PluginSandbox.Server
