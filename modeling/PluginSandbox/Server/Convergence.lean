/-
  Builds against sources: what a row's status says about its source, during a run and at rest.

  The worker builds a snapshot of the source and writes the outcome by id, whatever the row
  holds by then. `builds_match_iff`: rows and builds match in every state in exactly those runs
  where each status write meets a row whose source has the outcome being written.

  At rest the mismatches are gone. `Converging` ties each row to a job that will still read
  its source: a row is settled, or has a job waiting, or the worker holds its current source;
  and a worker that holds an older source leaves another job waiting. Without failures and
  restarts every step keeps it (`converging_step`), so a state without jobs has only settled
  rows (`settled_at_rest`).
-/
import PluginSandbox.Server.Jobs

namespace PluginSandbox.Server

open PluginSandbox.Lib PluginSandbox.Db PluginSandbox.Sandbox PluginSandbox.Compiler

variable {M σ : Type} {A : Platform M σ} {s t : State M} {e : Event}

/-! ## Rows and builds -/

/-- A row marked compiled holds the build of its source, and the source of a row marked failed
    does not build. -/
def Matches (toolchain : Toolchain) (p : Plugin) : Prop :=
  (p.status = "compiled" → toolchain.build p.sourceCode = .built p.compiledWasm) ∧
    (p.status = "failed" → ∀ wasm, toolchain.build p.sourceCode ≠ .built wasm)

/-- Both builds fail or both give the same bytes. -/
def SameOutcome (b₁ b₂ : Build) : Prop := ∀ wasm, b₁ = .built wasm ↔ b₂ = .built wasm

/-- Marked compiled or failed, as the build of the source has it. -/
def Settled (toolchain : Toolchain) (p : Plugin) : Prop :=
  (p.status = "compiled" ∧ toolchain.build p.sourceCode = .built p.compiledWasm) ∨
    (p.status = "failed" ∧ ∀ wasm, toolchain.build p.sourceCode ≠ .built wasm)

theorem matches_of_pending {toolchain : Toolchain} {p : Plugin} (h : p.status = "pending") :
    Matches toolchain p := by
  unfold Matches
  rw [h]
  exact ⟨fun hc => absurd hc (by decide), fun hf => absurd hf (by decide)⟩

/-- After a status write the row matches exactly when its source has the outcome written. -/
theorem matches_built_iff {toolchain : Toolchain} {p : Plugin} {b : Build} :
    Matches toolchain (p.built b.status b.compiledWasm b.compileErrors) ↔
      SameOutcome (toolchain.build p.sourceCode) b := by
  show (b.status = "compiled" → toolchain.build p.sourceCode = .built b.compiledWasm) ∧
    (b.status = "failed" → ∀ wasm, toolchain.build p.sourceCode ≠ .built wasm) ↔ _
  by_cases hb : b.status = "compiled"
  · have hfailed : b.status ≠ "failed" := by rw [hb]; decide
    have hbuilt := Build.compiled_iff.mp hb
    constructor
    · intro h wasm
      rw [h.1 hb, ← hbuilt]
    · intro h
      exact ⟨fun _ => (h b.compiledWasm).mpr hbuilt, fun hf => absurd hf hfailed⟩
  · have hfailed : b.status = "failed" := b.status_eq.resolve_left hb
    have hnot : ∀ wasm, b ≠ .built wasm := by
      intro wasm h
      rw [h] at hb
      exact hb rfl
    constructor
    · intro h wasm
      exact iff_of_false (h.2 hfailed wasm) (hnot wasm)
    · intro h
      exact ⟨fun hc => absurd hc hb, fun _ wasm hw => hnot wasm ((h wasm).mp hw)⟩

/-- The row after the status write of its own build. -/
theorem settled_built {toolchain : Toolchain} {p : Plugin} :
    Settled toolchain (p.built (toolchain.build p.sourceCode).status
      (toolchain.build p.sourceCode).compiledWasm
      (toolchain.build p.sourceCode).compileErrors) := by
  have hsame : SameOutcome (toolchain.build p.sourceCode) (toolchain.build p.sourceCode) :=
    fun _ => Iff.rfl
  have hmatches := matches_built_iff.mpr hsame
  rcases (toolchain.build p.sourceCode).status_eq with h | h
  · exact Or.inl ⟨h, hmatches.1 h⟩
  · exact Or.inr ⟨h, hmatches.2 h⟩

/-! ## The worker's snapshot -/

/-- The source that the worker has read and not yet written the outcome of. -/
def snapshot : Worker → Option (String × String)
  | .building id sourceCode => some (id, sourceCode)
  | .writing id sourceCode _ => some (id, sourceCode)
  | _ => none

/-- The outcome at hand is that of the source read. -/
def BuildOfSnapshot (toolchain : Toolchain) (worker : Worker) : Prop :=
  ∀ id sourceCode build, worker = .writing id sourceCode build → build = toolchain.build sourceCode

theorem buildOfSnapshot_step (hinv : BuildOfSnapshot A.toolchain s.worker)
    (h : Transition A s e t) : BuildOfSnapshot A.toolchain t.worker := by
  cases h with
  | quiet | savePlugin | updatePluginCode | queueCompile | compile | saveExecution
  | deleteExecutions | deletePluginRow => exact hinv
  | receive | read | skip | writeStatus | dropStatus | restart => exact nofun
  | build id source haction hworker =>
      intro id' source' build h
      cases h
      rfl

/-! ## In every state -/

/-- Every row matches the build of its source. -/
def BuildsMatch (toolchain : Toolchain) (s : State M) : Prop :=
  ∀ p ∈ s.db.plugins.rows, Matches toolchain p

/-- A status write that goes through meets, if any, a row whose source has the same outcome as
    the source the worker has read. -/
def WritesCurrent (A : Platform M σ) (s : State M) (e : Event) : Prop :=
  ∀ id sourceCode build db, e.action = .worker id → s.worker = .writing id sourceCode build →
    e.env.call (A.repo.updatePluginStatus s.db id build.status build.compiledWasm
      build.compileErrors) = .ok db →
    ∀ p ∈ s.db.plugins.rows, p.id = id →
      SameOutcome (A.toolchain.build p.sourceCode) (A.toolchain.build sourceCode)

theorem writesCurrent_of_rid {rid : Nat} (h : e.action.rid = some rid) : WritesCurrent A s e := by
  intro id source build db haction
  rw [haction] at h
  cases h

theorem writesCurrent_of_worker
    (h : ∀ id sourceCode build, s.worker ≠ .writing id sourceCode build) :
    WritesCurrent A s e := by
  intro id source build db _ hworker
  exact absurd hworker (h id source build)

/-- One step keeps rows and builds matching exactly when it writes no outdated outcome. -/
theorem buildsMatch_step (haux : BuildOfSnapshot A.toolchain s.worker)
    (hinv : BuildsMatch A.toolchain s) (h : Transition A s e t) :
    BuildsMatch A.toolchain t ↔ WritesCurrent A s e := by
  cases h with
  | quiet _ _ _ hrid | queueCompile _ _ _ _ hrid | compile _ _ _ _ _ hrid
  | deleteExecutions _ _ hrid => exact iff_of_true hinv (writesCurrent_of_rid hrid)
  | savePlugin rid plugin plugins hrid hfree htarget hfresh hstatus hwasm hinsert =>
      refine iff_of_true (fun p hp => ?_) (writesCurrent_of_rid hrid)
      rcases (Table.mem_rows_insert hinsert).mp hp with hp | rfl
      · exact hinv p hp
      · exact matches_of_pending hstatus
  | updatePluginCode rid id name source haction hold =>
      refine iff_of_true (fun p hp => ?_) (writesCurrent_of_rid (rid_advance haction))
      rcases mem_setCode.mp hp with ⟨hp, -⟩ | ⟨q, -, -, rfl⟩
      · exact hinv p hp
      · exact matches_of_pending rfl
  | saveExecution _ _ _ _ _ _ haction =>
      exact iff_of_true hinv (writesCurrent_of_rid (rid_advance haction))
  | deletePluginRow rid id haction =>
      refine iff_of_true (fun p hp => ?_) (writesCurrent_of_rid (rid_advance haction))
      exact hinv p (mem_dropPlugin.mp hp).1
  | receive _ _ _ hworker | read _ _ _ hworker | skip _ _ _ hworker | build _ _ _ hworker =>
      exact iff_of_true hinv (writesCurrent_of_worker (by rw [hworker]; exact nofun))
  | writeStatus id source build db haction hworker hwritten hdb =>
      have hbuild := haux id source build hworker
      subst hdb
      constructor
      · intro h id' source' build' db' haction' hworker' _ p hp hid
        rw [hworker] at hworker'
        obtain ⟨rfl, rfl, rfl⟩ := Worker.writing.inj hworker'
        rw [← hbuild, ← matches_built_iff]
        exact h _ (mem_setStatus.mpr (Or.inr ⟨p, hp, hid, rfl⟩))
      · intro h p hp
        rcases mem_setStatus.mp hp with ⟨hp, -⟩ | ⟨q, hq, hid, rfl⟩
        · exact hinv p hp
        · rw [matches_built_iff, hbuild]
          exact h id source build _ haction hworker hwritten q hq hid
  | dropStatus id source build err haction hworker hfailed =>
      refine iff_of_true hinv ?_
      intro id' source' build' db' haction' hworker' hwritten
      rw [hworker] at hworker'
      obtain ⟨rfl, rfl, rfl⟩ := Worker.writing.inj hworker'
      rw [hfailed] at hwritten
      cases hwritten
  | restart haction =>
      refine iff_of_true hinv ?_
      intro id source build db haction'
      rw [haction] at haction'
      cases haction'

/-- Rows match the builds of their sources in every state of a run exactly when no status
    write of the run is outdated. -/
theorem builds_match_iff (A : Platform M σ) (es : List Event) :
    Throughout (step A) (State.start M) es (BuildsMatch A.toolchain) ↔
      EachStep (step A) (State.start M) es (WritesCurrent A) := by
  have haux : ∀ (s : State M) e t, BuildOfSnapshot A.toolchain s.worker → step A s e = some t →
      BuildOfSnapshot A.toolchain t.worker :=
    fun s e t hs h => buildOfSnapshot_step hs (step_transition h)
  refine throughout_iff_eachStep haux ?_ es nofun ?_
  · intro s e t hs hinv hstep
    exact buildsMatch_step hs hinv (step_transition hstep)
  · intro p hp
    cases hp

/-- A plugin is edited while the worker builds its first source. -/
def editDuringBuild : List Event :=
  [(Action.request 0 (.createPlugin ⟨[1], false⟩)).quietly "p",
    (Action.advance 0 "p").quietly "", (Action.worker "p").quietly "",
    (Action.worker "p").quietly "", (Action.request 1 (.updatePlugin "p" ⟨[2], false⟩)).quietly "",
    (Action.advance 1 "p").quietly "", (Action.worker "p").quietly "",
    (Action.worker "p").quietly ""]

/-- After the edit the row is marked compiled with the build of the source it no longer has. -/
theorem stale_build_after_edit :
    ¬ ∀ (M σ : Type) (A : Platform M σ) (es : List Event),
      Throughout (step A) (State.start M) es (BuildsMatch A.toolchain) := by
  intro h
  obtain ⟨s, hrun, hrows⟩ : ∃ s, run (step .small) (State.start Bytes) editDuringBuild = some s ∧
      s.db.plugins.rows = [⟨"p", "plugin", "b", utf8 "a", 2, "compiled", "", 0⟩] := ⟨_, rfl, rfl⟩
  have hinv := h _ _ .small _ _ [] s (List.append_nil _).symm hrun
  have hrow : ⟨"p", "plugin", "b", utf8 "a", 2, "compiled", "", 0⟩ ∈ s.db.plugins.rows := by
    rw [hrows]
    exact List.mem_singleton.mpr rfl
  have hbuilt : Build.built (utf8 "b") = .built (utf8 "a") := (hinv _ hrow).1 rfl
  exact absurd hbuilt (by decide)

/-! ## At rest -/

/-- A job for the row that will still read, or has read, its current source. -/
def Covered (s : State M) (p : Plugin) : Prop :=
  s.Waiting p.id ∨ s.worker = .received p.id ∨ snapshot s.worker = some (p.id, p.sourceCode)

/-- Every row is settled or covered, and where the worker holds an older source of a row,
    another job is waiting. -/
structure Converging (toolchain : Toolchain) (s : State M) : Prop where
  covered : ∀ p ∈ s.db.plugins.rows, Settled toolchain p ∨ Covered s p
  overtaken : ∀ p ∈ s.db.plugins.rows, ∀ sourceCode,
    snapshot s.worker = some (p.id, sourceCode) → sourceCode = p.sourceCode ∨ s.Waiting p.id
  outcome : BuildOfSnapshot toolchain s.worker

/-- No handler is between its write and `QueueCompile`, the queue is empty, the worker idle. -/
def Quiescent (s : State M) : Prop :=
  (∀ rid h, s.handlers rid = some h → h.job = none) ∧ s.queue = [] ∧ s.worker = .idle

theorem not_waiting_of_quiescent (h : Quiescent s) (id : String) : ¬ s.Waiting id := by
  intro hw
  rcases hw with ⟨rid, handler, hh, hjob⟩ | hq
  · rw [h.1 rid handler hh] at hjob
    cases hjob
  · rw [h.2.1] at hq
    cases hq

/-- The steps that keep every waiting job and the worker, row by row. -/
theorem converging_keep (hinv : Converging A.toolchain s) (hworker : t.worker = s.worker)
    (hwaiting : ∀ id, s.Waiting id → t.Waiting id)
    (hrows : ∀ p ∈ t.db.plugins.rows, p ∈ s.db.plugins.rows ∨ t.Waiting p.id) :
    Converging A.toolchain t where
  covered p hp := by
    rcases hrows p hp with hp | hw
    · rcases hinv.covered p hp with h | hw | hw | hw
      · exact Or.inl h
      · exact Or.inr (Or.inl (hwaiting p.id hw))
      · exact Or.inr (Or.inr (Or.inl (by rw [hworker]; exact hw)))
      · exact Or.inr (Or.inr (Or.inr (by rw [hworker]; exact hw)))
    · exact Or.inr (Or.inl hw)
  overtaken p hp source hsnap := by
    rcases hrows p hp with hp | hw
    · rw [hworker] at hsnap
      exact (hinv.overtaken p hp source hsnap).imp_right (hwaiting p.id)
    · exact Or.inr hw
  outcome := by
    rw [hworker]
    exact hinv.outcome

/-- With an idle worker only a waiting job covers a row. -/
theorem covered_idle {p : Plugin} (hinv : Converging A.toolchain s) (hworker : s.worker = .idle)
    (hp : p ∈ s.db.plugins.rows) : Settled A.toolchain p ∨ s.Waiting p.id := by
  rcases hinv.covered p hp with h | hw | hw | hw
  · exact Or.inl h
  · exact Or.inr hw
  · rw [hworker] at hw
    cases hw
  · rw [hworker] at hw
    cases hw

/-- A worker that has just taken an id also covers the row of that id. -/
theorem covered_received {p : Plugin} {id : String} (hinv : Converging A.toolchain s)
    (hworker : s.worker = .received id) (hp : p ∈ s.db.plugins.rows) :
    Settled A.toolchain p ∨ s.Waiting p.id ∨ p.id = id := by
  rcases hinv.covered p hp with h | hw | hw | hw
  · exact Or.inl h
  · exact Or.inr (Or.inl hw)
  · rw [hworker] at hw
    exact Or.inr (Or.inr (Worker.received.inj hw).symm)
  · rw [hworker] at hw
    cases hw

/-- A worker that holds a source covers the row of the id as long as it has that source. -/
theorem covered_snapshot {p : Plugin} {id source : String} (hinv : Converging A.toolchain s)
    (hsnapshot : snapshot s.worker = some (id, source)) (hp : p ∈ s.db.plugins.rows) :
    Settled A.toolchain p ∨ s.Waiting p.id ∨ (p.id = id ∧ p.sourceCode = source) := by
  rcases hinv.covered p hp with h | hw | hw | hw
  · exact Or.inl h
  · exact Or.inr (Or.inl hw)
  · rw [hw] at hsnapshot
    cases hsnapshot
  · rw [hsnapshot] at hw
    obtain ⟨hid, hsource⟩ := Prod.mk.inj (Option.some.inj hw)
    exact Or.inr (Or.inr ⟨hid.symm, hsource.symm⟩)

/-- Without failures and restarts every step keeps rows and jobs together. -/
theorem converging_step (hR : Reliable A.repo.toRepository) (hcalls : e.env.repoFails = false)
    (hrestart : e.action ≠ .restart) (hinv : Converging A.toolchain s) (h : Transition A s e t) :
    Converging A.toolchain t := by
  have houtcome : BuildOfSnapshot A.toolchain t.worker := buildOfSnapshot_step hinv.outcome h
  have hstep := h
  cases h with
  | quiet _ _ _ hrid | savePlugin _ _ _ hrid | queueCompile _ _ _ _ hrid | compile _ _ _ _ _ hrid
  | deleteExecutions _ _ hrid =>
      obtain ⟨hworker, hwaiting, hrows⟩ := handler_step hrid hstep
      exact converging_keep hinv hworker hwaiting hrows
  | updatePluginCode _ _ _ _ haction | saveExecution _ _ _ _ _ _ haction
  | deletePluginRow _ _ haction =>
      obtain ⟨hworker, hwaiting, hrows⟩ := handler_step (rid_advance haction) hstep
      exact converging_keep hinv hworker hwaiting hrows
  | receive id queue haction hworker hqueue =>
      refine ⟨fun p hp => ?_, fun p _ source hsnap => (nomatch hsnap), houtcome⟩
      rcases covered_idle hinv hworker hp with h | hw
      · exact Or.inl h
      · rcases waiting_receive hqueue hw with hid | hw
        · exact Or.inr (Or.inr (Or.inl (by rw [hid])))
        · exact Or.inr (Or.inl hw)
  | read id plugin haction hworker hread hrow =>
      -- The worker now holds the source that the row has at this moment.
      obtain ⟨hmem, rfl⟩ := Table.find?_some hrow
      have hunique : ∀ p ∈ s.db.plugins.rows, p.id = plugin.id → p = plugin :=
        fun p hp hid => List.inj_on_of_nodup_map s.db.plugins.nodup hp hmem hid
      refine ⟨fun p hp => ?_, fun p hp source hsnap => ?_, houtcome⟩
      · rcases covered_received hinv hworker hp with h | hw | hid
        · exact Or.inl h
        · exact Or.inr (Or.inl hw)
        · rw [hunique p hp hid]
          exact Or.inr (Or.inr (Or.inr rfl))
      · obtain ⟨hid, hsource⟩ := Prod.mk.inj (Option.some.inj hsnap)
        rw [hunique p hp hid.symm]
        exact Or.inl hsource.symm
  | skip id err haction hworker hfailed =>
      -- The read fails only because the row is gone.
      have hgone : ∀ p ∈ s.db.plugins.rows, p.id ≠ id := by
        intro p hp hid
        have hread := A.repo.sound.getPlugin.mpr (hid ▸ Table.find?_of_mem hp)
        rw [Env.call_eq hcalls, hread] at hfailed
        cases hfailed
      refine ⟨fun p hp => ?_, fun p _ source hsnap => (nomatch hsnap), houtcome⟩
      rcases covered_received hinv hworker hp with h | hw | hid
      · exact Or.inl h
      · exact Or.inr (Or.inl hw)
      · exact absurd hid (hgone p hp)
  | build id source haction hworker =>
      have hsnapshot : snapshot s.worker = some (id, source) := by rw [hworker]; rfl
      refine ⟨fun p hp => ?_, fun p hp source' hsnap => ?_, houtcome⟩
      · rcases covered_snapshot hinv hsnapshot hp with h | hw | ⟨hid, hsource⟩
        · exact Or.inl h
        · exact Or.inr (Or.inl hw)
        · rw [← hid, ← hsource]
          exact Or.inr (Or.inr (Or.inr rfl))
      · exact hinv.overtaken p hp source' (hsnapshot.trans hsnap)
  | writeStatus id source build db haction hworker hwritten hdb =>
      have hsnapshot : snapshot s.worker = some (id, source) := by rw [hworker]; rfl
      have hbuild : build = A.toolchain.build source := hinv.outcome id source build hworker
      subst hdb
      refine ⟨fun p hp => ?_, fun p _ source hsnap => (nomatch hsnap), houtcome⟩
      rcases mem_setStatus.mp hp with ⟨hp, hid⟩ | ⟨q, hq, rfl, rfl⟩
      · rcases covered_snapshot hinv hsnapshot hp with h | hw | ⟨hid', -⟩
        · exact Or.inl h
        · exact Or.inr (Or.inl hw)
        · exact absurd hid' hid
      · -- An outdated outcome is written only while another job is waiting.
        rcases hinv.overtaken q hq source hsnapshot with hsource | hw
        · rw [hbuild, hsource]
          exact Or.inl settled_built
        · exact Or.inr (Or.inl hw)
  | dropStatus id source build err haction hworker hfailed =>
      obtain ⟨db, hdb⟩ := hR s.db id build.status build.compiledWasm
        build.compileErrors
      rw [Env.call_eq hcalls, hdb] at hfailed
      cases hfailed
  | restart haction => exact absurd haction hrestart

/-- With a repository that does not fail and without restarts, however requests and worker
    interleave, every row is settled by its latest source whenever no job is left. -/
theorem settled_at_rest (A : Platform M σ) (hR : Reliable A.repo.toRepository) {es : List Event}
    (hes : ∀ e ∈ es, e.env.repoFails = false ∧ e.action ≠ .restart) {s : State M}
    (hrun : run (step A) (State.start M) es = some s) (hrest : Quiescent s) :
    ∀ p ∈ s.db.plugins.rows, Settled A.toolchain p := by
  have hstart : Converging A.toolchain (State.start M) :=
    ⟨fun _ hp => (nomatch hp), fun _ hp => (nomatch hp), nofun⟩
  have hstep : ∀ s e t, Converging A.toolchain s →
      (e.env.repoFails = false ∧ e.action ≠ .restart) → step A s e = some t →
        Converging A.toolchain t :=
    fun s e t hs he h => converging_step hR he.1 he.2 hs (step_transition h)
  have hinv := run_invariant hstep hes hstart hrun
  intro p hp
  rcases covered_idle hinv hrest.2.2 hp with h | hw
  · exact h
  · exact absurd hw (not_waiting_of_quiescent hrest p.id)

/-- The same run, continued until nothing is left to do. -/
theorem settled_at_rest_after_edit :
    ∃ s, run (step .small) (State.start Bytes)
        (editDuringBuild ++
          [(Action.advance 1 "p").quietly "", (Action.worker "p").quietly "",
            (Action.worker "p").quietly "", (Action.worker "p").quietly "",
            (Action.worker "p").quietly ""]) = some s ∧
      s.db.plugins.rows = [⟨"p", "plugin", "b", utf8 "b", 3, "compiled", "", 0⟩] ∧
        ∀ p ∈ s.db.plugins.rows, Settled Platform.small.toolchain p := by
  obtain ⟨s, hrun, hrows, hrest⟩ : ∃ s, run (step .small) (State.start Bytes)
      (editDuringBuild ++
        [(Action.advance 1 "p").quietly "", (Action.worker "p").quietly "",
          (Action.worker "p").quietly "", (Action.worker "p").quietly "",
          (Action.worker "p").quietly ""]) = some s ∧
      s.db.plugins.rows = [⟨"p", "plugin", "b", utf8 "b", 3, "compiled", "", 0⟩] ∧
        Quiescent s := by
    refine ⟨_, rfl, rfl, fun rid handler hh => ?_, rfl, rfl⟩
    match rid, hh with
    | 0, hh =>
        cases hh
        rfl
    | 1, hh =>
        cases hh
        rfl
    | n + 2, hh =>
        have hnone : (none : Option (Handler Bytes)) = some handler := hh
        cases hnone
  refine ⟨s, hrun, hrows, settled_at_rest .small (sqlite_reliable _ _) ?_ hrun hrest⟩
  unfold editDuringBuild
  simp [Action.quietly]

end PluginSandbox.Server
