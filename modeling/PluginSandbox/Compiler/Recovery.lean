/-
  Builds after a crash, and the worker that the rest of the server sees.

  What an earlier process left in the directory of a build never stands in the way of the next
  one (`Clear`): directories are where directories belong, and no directory is where a file
  belongs. So a job whose calls do not fail comes to its end from every reachable state
  (`job_completes`), with a cargo whose builds have something to show (`Delivers`).

  A run of the worker on the file system is one of the worker of the server, event by event
  (`workerEvents`, `refines_worker`). The calls of a job are one of its steps, a build; the
  toolchain of this build is what the files and the calls make up.
-/
import PluginSandbox.Compiler.Hermetic
import PluginSandbox.Lib.Potential

namespace PluginSandbox.Compiler

open PluginSandbox.Lib

namespace Installation

variable {I : Installation} {s t : Site} {e : Event} {id j : String} {template : Bytes}
  {files files' : FileTree} {f : Failure} {n : Nat}

/-! ## Nothing in the way -/

/-- The directories that a job needs are not files, and its files are not directories. -/
structure Clear (I : Installation) (id : String) (files : FileTree) : Prop where
  dirs : ∀ q, q <+: srcDir (I.tempBuildDir id) → files.readFile q = none
  manifest : files.node (destCargoPath (I.tempBuildDir id)) ≠ some .dir
  lib : files.node (destLibPath (I.tempBuildDir id)) ≠ some .dir

theorem manifest_not_above :
    ¬ destCargoPath (I.tempBuildDir j) <+: srcDir (I.tempBuildDir id) := by
  simp [destCargoPath, srcDir, tempBuildDir, Compiler.tempBuildDir, buildDir,
    List.prefix_append_right_inj]

theorem lib_not_above : ¬ destLibPath (I.tempBuildDir j) <+: srcDir (I.tempBuildDir id) := by
  simp [destLibPath, srcDir, tempBuildDir, Compiler.tempBuildDir, buildDir,
    List.prefix_append_right_inj]

theorem clear_mkdirAll {path : Path} (hpath : path <+: srcDir (I.tempBuildDir id))
    (h : files.mkdirAll path = some files') (hc : I.Clear j files) : I.Clear j files' := by
  refine ⟨fun q hq => ?_, ?_, ?_⟩
  · by_cases hqp : q <+: path
    · simp [FileTree.readFile, FileTree.node_mkdirAll h, hqp]
    · have hsame : files'.node q = files.node q := by rw [FileTree.node_mkdirAll h, if_neg hqp]
      exact (FileTree.readFile_congr hsame).trans (hc.dirs q hq)
  · rw [FileTree.node_mkdirAll h, if_neg fun hp => manifest_not_above (hp.trans hpath)]
    exact hc.manifest
  · rw [FileTree.node_mkdirAll h, if_neg fun hp => lib_not_above (hp.trans hpath)]
    exact hc.lib

theorem clear_writeFile {path : Path} {data : Bytes}
    (hpath : path = destCargoPath (I.tempBuildDir id) ∨ path = destLibPath (I.tempBuildDir id))
    (h : files.writeFile path data = some files') (hc : I.Clear j files) : I.Clear j files' := by
  have hfile : ∀ q, files.node q ≠ some .dir → files'.node q ≠ some .dir := by
    intro q hq
    rw [FileTree.node_writeFile h]
    split
    · simp
    · exact hq
  refine ⟨fun q hq => ?_, hfile _ hc.manifest, hfile _ hc.lib⟩
  have hne : q ≠ path := by
    rintro rfl
    rcases hpath with rfl | rfl
    · exact manifest_not_above hq
    · exact lib_not_above hq
  have hsame : files'.node q = files.node q := by rw [FileTree.node_writeFile h, if_neg hne]
  exact (FileTree.readFile_congr hsame).trans (hc.dirs q hq)

theorem clear_tornWrite {path : Path} {data : Bytes}
    (hpath : path = destCargoPath (I.tempBuildDir id) ∨ path = destLibPath (I.tempBuildDir id))
    (hc : I.Clear j files) : I.Clear j (f.tornWrite files path data) := by
  unfold Failure.tornWrite
  split
  · exact hc
  · cases h : files.writeFile path (data.take (f.progress - 1)) with
    | none => exact hc
    | some files' => exact clear_writeFile hpath h hc

theorem clear_removeAll (path : Path) (hc : I.Clear j files) :
    I.Clear j (files.removeAll path) := by
  have hfile : ∀ q, files.node q ≠ some .dir → (files.removeAll path).node q ≠ some .dir := by
    intro q hq
    rw [FileTree.node_removeAll]
    split
    · simp
    · exact hq
  refine ⟨fun q hq => ?_, hfile _ hc.manifest, hfile _ hc.lib⟩
  by_cases hp : path <+: q
  · simp [FileTree.readFile, hp]
  · have hsame : (files.removeAll path).node q = files.node q := by simp [hp]
    exact (FileTree.readFile_congr hsame).trans (hc.dirs q hq)

theorem clear_removals (paths : List Path) (hc : I.Clear j files) :
    I.Clear j
      (paths.foldl (fun files path => files.removeAll (I.tempBuildDir id ++ path)) files) := by
  induction paths generalizing files with
  | nil => exact hc
  | cons path paths ih => exact ih (clear_removeAll _ hc)

/-- What a job needs of cargo to come to its end: a build leaves the two files of its project
    alone, and one that succeeds on the template has an artifact to show. -/
structure Delivers (I : Installation) (template : Bytes) : Prop where
  sources : ∀ id n t q,
    q = destCargoPath (I.tempBuildDir id) ∨ q = destLibPath (I.tempBuildDir id) →
    (I.cargo (I.runCargoBuild (I.tempBuildDir id)) n t).2.2.node q = t.node q
  artifact : ∀ id n t, t.readFile (destCargoPath (I.tempBuildDir id)) = some template →
    (I.cargo (I.runCargoBuild (I.tempBuildDir id)) n t).2.1 = false →
    (I.cargo (I.runCargoBuild (I.tempBuildDir id)) n t).2.2.readFile
      (wasmPath (I.tempBuildDir id)) ≠ none

/-- The sources are still there after cargo, and so are the directories above them. -/
theorem clear_cargo (hdelivers : I.Delivers template) (n : Nat)
    (hlib : files.readFile (destLibPath (I.tempBuildDir id)) ≠ none) (hc : I.Clear j files) :
    I.Clear j (I.cargo (I.runCargoBuild (I.tempBuildDir id)) n files).2.2 := by
  have hsources := hdelivers.sources id n files
  have hwithin := within_cargo (I := I) id n files
  generalize (I.cargo (I.runCargoBuild (I.tempBuildDir id)) n files).2.2 = files' at *
  have hmanifest : files'.node (destCargoPath (I.tempBuildDir id)) =
      files.node (destCargoPath (I.tempBuildDir id)) := hsources _ (.inl rfl)
  have hkept : files'.node (destLibPath (I.tempBuildDir id)) =
      files.node (destLibPath (I.tempBuildDir id)) := hsources _ (.inr rfl)
  have hsrc : files'.node (srcDir (I.tempBuildDir id)) = some .dir := by
    refine files'.inDir _ "lib.rs" fun hnone => hlib ?_
    have hgone : files.node (destLibPath (I.tempBuildDir id)) = none := hkept.symm.trans hnone
    simp [FileTree.readFile, hgone]
  by_cases hid : id = j
  · subst hid
    refine ⟨fun q hq => ?_, hmanifest ▸ hc.manifest, hkept ▸ hc.lib⟩
    simp [FileTree.readFile, FileTree.node_above hq hsrc]
  · refine ⟨fun q hq => ?_, ?_, ?_⟩
    · by_cases htemp : I.tempBuildDir j <+: q
      · exact (FileTree.readFile_congr (within_apart hid htemp hwithin)).trans (hc.dirs q hq)
      · have hbuild : q <+: srcDir (I.tempBuildDir id) :=
          (prefix_buildDir hq htemp).trans ((List.prefix_append _ _).trans (List.prefix_append _ _))
        simp [FileTree.readFile, FileTree.node_above hbuild hsrc]
    · rw [within_apart hid below_manifest hwithin]
      exact hc.manifest
    · rw [within_apart hid below_lib hwithin]
      exact hc.lib

/-! ## Every state is clear -/

theorem clear_torn (hdelivers : I.Delivers template) {stage : Stage}
    (hholds : I.Holds template files stage) (hc : I.Clear j files) :
    I.Clear j (I.torn files f n stage) := by
  cases stage with
  | idle | getPlugin | readFile | readFileAgain | updatePluginStatus => exact hc
  | mkdirAll id sourceCode =>
      cases h : files.mkdirAll ((srcDir (I.tempBuildDir id)).take f.progress) with
      | none => simpa [torn, h] using hc
      | some files' => simpa [torn, h] using clear_mkdirAll (List.take_prefix _ _) h hc
  | copyManifest id sourceCode =>
      cases h : files.readFile (templateCargoPath I.workingDir) with
      | none => simpa [torn, h] using hc
      | some data => simpa [torn, h] using clear_tornWrite (.inl rfl) hc
  | writeLib id sourceCode => exact clear_tornWrite (.inr rfl) hc
  | cargoBuild id sourceCode =>
      have hlib : files.readFile (destLibPath (I.tempBuildDir id)) ≠ none := by simp [hholds.2]
      exact clear_cargo hdelivers n hlib hc
  | removeAll id => exact clear_removals f.removed hc

theorem clear_succeeded (hdelivers : I.Delivers template) {stage : Stage}
    (hholds : I.Holds template files stage) (h : I.Succeeded files n stage t)
    (hc : I.Clear j files) : I.Clear j t.files := by
  cases h with
  | mkdirAll id sourceCode files' hfiles => exact clear_mkdirAll (List.prefix_refl _) hfiles hc
  | copyManifest id sourceCode data files' hdata hfiles =>
      exact clear_writeFile (.inl rfl) hfiles hc
  | writeLib id sourceCode files' hfiles => exact clear_writeFile (.inr rfl) hfiles hc
  | cargoFailed id sourceCode compileOutput files' hcargo =>
      have hlib : files.readFile (destLibPath (I.tempBuildDir id)) ≠ none := by simp [hholds.2]
      simpa [hcargo] using clear_cargo hdelivers n hlib hc
  | cargoBuilt id sourceCode compileOutput files' hcargo =>
      have hlib : files.readFile (destLibPath (I.tempBuildDir id)) ≠ none := by simp [hholds.2]
      simpa [hcargo] using clear_cargo hdelivers n hlib hc
  | readFile | updatePluginStatus => exact hc
  | removeAll id => exact clear_removeAll _ hc

theorem clear_step (hdelivers : I.Delivers template) (hs : I.Ready template s)
    (hc : I.Clear j s.files) (h : I.step s e = some t) : I.Clear j t.files := by
  cases step_stepped h with
  | received | missing | found => exact hc
  | succeeded n t hcall => exact clear_succeeded hdelivers hs.holds hcall hc
  | failed | removeAllFailed | crashed => exact clear_torn hdelivers hs.holds hc

/-! ## Jobs come to their end -/

/-- The calls that are left before the build is reported. -/
def Site.callsLeft (s : Site) : Nat :=
  match s.stage with
  | .mkdirAll _ _ => 5
  | .copyManifest _ _ => 4
  | .writeLib _ _ => 3
  | .cargoBuild _ _ => 2
  | .readFile _ _ => 1
  | .readFileAgain _ _ => 1
  | _ => 0

/-- The job is about to write its report. -/
def Site.Reports (s : Site) (id sourceCode : String) : Prop :=
  ∃ build, s.stage = .updatePluginStatus id sourceCode build

/-- A job in progress on files where nothing is in its way, or one that is about to report. -/
structure Underway (I : Installation) (template : Bytes) (id sourceCode : String) (s : Site) :
    Prop where
  ready : I.Ready template s
  clear : I.Clear id s.files
  stage : s.stage.worker = .building id sourceCode ∨ s.Reports id sourceCode
  artifact : s.stage = .readFile id sourceCode ∨ s.stage = .readFileAgain id sourceCode →
    s.files.readFile (wasmPath (I.tempBuildDir id)) ≠ none

theorem underway_step {sourceCode : String} (hdelivers : I.Delivers template)
    (hs : I.Underway template id sourceCode s) (h : I.step s e = some t)
    (hstage : t.stage.worker = .building id sourceCode ∨ t.Reports id sourceCode)
    (hartifact : t.stage = .readFile id sourceCode ∨ t.stage = .readFileAgain id sourceCode →
      t.files.readFile (wasmPath (I.tempBuildDir id)) ≠ none) :
    I.Underway template id sourceCode t :=
  ⟨ready_step hs.ready h, clear_step hdelivers hs.ready hs.clear h, hstage, hartifact⟩

/-- The next call of a job succeeds. -/
theorem underway_succeeds {sourceCode : String} (hdelivers : I.Delivers template) (n : Nat)
    (hs : I.Underway template id sourceCode s) (hopen : ¬ s.Reports id sourceCode) :
    ∃ t, I.step s (.call none n) = some t ∧ I.Underway template id sourceCode t ∧
      t.callsLeft < s.callsLeft := by
  obtain ⟨files, stage⟩ := s
  have hworker : stage.worker = .building id sourceCode := hs.stage.resolve_right hopen
  have hready := hs.ready
  have hholds := hready.holds
  have hgo := fun t => underway_step (e := .call none n) (t := t) hdelivers hs
  cases stage with
  | idle | getPlugin | updatePluginStatus | removeAll => cases hworker
  | mkdirAll =>
      cases hworker
      obtain ⟨files', hfiles⟩ := FileTree.exists_mkdirAll hs.clear.dirs
      have hstep : I.step ⟨files, .mkdirAll id sourceCode⟩ (.call none n) =
          some ⟨files', .copyManifest id sourceCode⟩ := by simp [step, succeed, hfiles]
      exact ⟨_, hstep, hgo _ hstep (.inl rfl) (by simp), by simp [Site.callsLeft]⟩
  | copyManifest =>
      cases hworker
      have hdir : files.node (destCargoPath (I.tempBuildDir id)).dropLast = some .dir := by
        rw [destCargoPath, List.dropLast_concat]
        exact FileTree.node_above (List.prefix_append _ _) hholds
      obtain ⟨files', hfiles⟩ := FileTree.exists_writeFile hdir hs.clear.manifest template
      have hstep : I.step ⟨files, .copyManifest id sourceCode⟩ (.call none n) =
          some ⟨files', .writeLib id sourceCode⟩ := by
        simp [step, succeed, hready.manifest, hfiles]
      exact ⟨_, hstep, hgo _ hstep (.inl rfl) (by simp), by simp [Site.callsLeft]⟩
  | writeLib =>
      cases hworker
      have hdir : files.node (destLibPath (I.tempBuildDir id)).dropLast = some .dir := by
        rw [destLibPath, List.dropLast_concat]
        exact hholds.1
      obtain ⟨files', hfiles⟩ :=
        FileTree.exists_writeFile hdir hs.clear.lib (utf8 (fullCode sourceCode))
      have hstep : I.step ⟨files, .writeLib id sourceCode⟩ (.call none n) =
          some ⟨files', .cargoBuild id sourceCode⟩ := by simp [step, succeed, hfiles]
      exact ⟨_, hstep, hgo _ hstep (.inl rfl) (by simp), by simp [Site.callsLeft]⟩
  | cargoBuild =>
      cases hworker
      rcases hcargo : I.cargo (I.runCargoBuild (I.tempBuildDir id)) n files with
        ⟨compileOutput, failed, files'⟩
      cases failed with
      | true =>
          have hstep : I.step ⟨files, .cargoBuild id sourceCode⟩ (.call none n) =
              some ⟨files', .updatePluginStatus id sourceCode (.buildFailed compileOutput)⟩ := by
            simp [step, succeed, hcargo]
          exact ⟨_, hstep, hgo _ hstep (.inr ⟨_, rfl⟩) (by simp), by simp [Site.callsLeft]⟩
      | false =>
          have hartifact := hdelivers.artifact id n files hholds.1
          rw [hcargo] at hartifact
          have hstep : I.step ⟨files, .cargoBuild id sourceCode⟩ (.call none n) =
              some ⟨files', .readFile id sourceCode⟩ := by simp [step, succeed, hcargo]
          exact ⟨_, hstep, hgo _ hstep (.inl rfl) (fun _ => hartifact rfl),
            by simp [Site.callsLeft]⟩
  | readFile =>
      cases hworker
      obtain ⟨wasmBytes, hread⟩ := Option.ne_none_iff_exists'.mp (hs.artifact (.inl rfl))
      have hstep : I.step ⟨files, .readFile id sourceCode⟩ (.call none n) =
          some ⟨files, .updatePluginStatus id sourceCode (.built wasmBytes)⟩ := by
        simpa [step, succeed] using hread
      exact ⟨_, hstep, hgo _ hstep (.inr ⟨_, rfl⟩) (by simp), by simp [Site.callsLeft]⟩
  | readFileAgain =>
      cases hworker
      obtain ⟨wasmBytes, hread⟩ := Option.ne_none_iff_exists'.mp (hs.artifact (.inr rfl))
      have hstep : I.step ⟨files, .readFileAgain id sourceCode⟩ (.call none n) =
          some ⟨files, .updatePluginStatus id sourceCode (.built wasmBytes)⟩ := by
        simpa [step, succeed] using hread
      exact ⟨_, hstep, hgo _ hstep (.inr ⟨_, rfl⟩) (by simp), by simp [Site.callsLeft]⟩

theorem clear_run {es : List Event} (hdelivers : I.Delivers template) (hs : I.Ready template s)
    (hc : I.Clear j s.files) (hrun : run I.step s es = some t) : I.Clear j t.files := by
  have hstep : ∀ u e v, I.Ready template u ∧ I.Clear j u.files → True → I.step u e = some v →
      I.Ready template v ∧ I.Clear j v.files := by
    rintro u e v ⟨hu, hc⟩ - h
    exact ⟨ready_step hu h, clear_step hdelivers hu hc h⟩
  exact (run_invariant hstep (fun _ _ => trivial) ⟨hs, hc⟩ hrun).2

/-- What a job without a failed call reports: what its call of cargo has left, or what cargo has
    to say. -/
inductive Completed (I : Installation) (template : Bytes) (start : FileTree)
    (id sourceCode : String) (calls : List Event) : Build → Prop
  | built (compileOutput : String) (after : FileTree) (wasmBytes : Bytes)
      (hcargo : I.CargoRan template start id sourceCode calls compileOutput false after)
      (hread : after.readFile (wasmPath (I.tempBuildDir id)) = some wasmBytes) :
      Completed I template start id sourceCode calls (.built wasmBytes)
  | refused (compileOutput : String) (after : FileTree)
      (hcargo : I.CargoRan template start id sourceCode calls compileOutput true after) :
      Completed I template start id sourceCode calls (.buildFailed compileOutput)

theorem completed_of_outcome {start : FileTree} {sourceCode : String} {calls : List Event}
    {build : Build} (hcalls : ∀ e ∈ calls, e = .call none n)
    (h : I.Outcome template start id sourceCode calls build) :
    I.Completed template start id sourceCode calls build := by
  cases h with
  | built compileOutput after wasmBytes hcargo hread =>
      exact .built compileOutput after wasmBytes hcargo hread
  | buildFailed compileOutput after hcargo => exact .refused compileOutput after hcargo
  | failed build setup f k rest u hsplit hrun hfail =>
      have hmem : Event.call (some f) k ∈ calls := by simp [hsplit]
      cases hcalls _ hmem

/-- However earlier jobs of the plugin have ended, in this process or in one that crashed: a job
    that reads its source and whose calls succeed reports, after at most five of them, what its
    own call of cargo has made of the source or has to say about it. -/
theorem job_completes {es : List Event} (hdelivers : I.Delivers template)
    (hdir : files.node I.workingDir = some .dir)
    (htemplate : files.readFile (templateCargoPath I.workingDir) = some template)
    (hclear : I.Clear id files) (hrun : run I.step ⟨files, .idle⟩ es = some s)
    (hstage : s.stage = .getPlugin id) (sourceCode : String) (n : Nat) :
    ∃ calls t build, (∀ e ∈ calls, e = .call none n) ∧ calls.length ≤ 5 ∧
      run I.step s (.getPlugin (some sourceCode) :: calls) = some t ∧
      t.stage = .updatePluginStatus id sourceCode build ∧
      I.Completed template s.files id sourceCode calls build := by
  have hstart : I.Ready template ⟨files, .idle⟩ := ⟨hdir, htemplate, trivial⟩
  obtain ⟨hworkingDir, hmanifest, -⟩ := ready_run hstart hrun
  have hcleared := clear_run hdelivers hstart hclear hrun
  obtain ⟨now, stage⟩ := s
  dsimp only at hstage hworkingDir hmanifest hcleared
  subst hstage
  have hready : I.Ready template ⟨now, .mkdirAll id sourceCode⟩ :=
    ⟨hworkingDir, hmanifest, trivial⟩
  have hunderway : I.Underway template id sourceCode ⟨now, .mkdirAll id sourceCode⟩ :=
    ⟨hready, hcleared, .inl rfl, by simp⟩
  have hgo : ∀ u, I.Underway template id sourceCode u → ¬ u.Reports id sourceCode →
      ∃ e v, e = .call none n ∧ I.step u e = some v ∧ I.Underway template id sourceCode v ∧
        v.callsLeft < u.callsLeft := by
    intro u hu hopen
    obtain ⟨v, hstep, hv, hless⟩ := underway_succeeds hdelivers n hu hopen
    exact ⟨_, v, rfl, hstep, hv, hless⟩
  obtain ⟨calls, t, hcalls, hrest, -, ⟨build, hreports⟩, hlen⟩ := exists_run_to_rest hgo hunderway
  have hsnapshot : t.stage.snapshot = some (id, sourceCode) := by rw [hreports]; rfl
  have htold := told_run hready (fun e he => ⟨none, n, hcalls e he⟩) hrest hsnapshot
  unfold Told at htold
  rw [hreports] at htold
  exact ⟨calls, t, build, hcalls, hlen, run_cons_iff.mpr ⟨_, rfl, hrest⟩, hreports,
    completed_of_outcome hcalls htold⟩

theorem smallFiles_clear : small.Clear "p" smallFiles := by
  refine ⟨fun q hq => ?_, by decide, by decide⟩
  have hne : q ≠ ["compiler", "template", "Cargo.toml"] := by
    rintro rfl
    simp [srcDir, tempBuildDir, Compiler.tempBuildDir, buildDir, small] at hq
  by_cases hp : q <+: ["compiler", "template"]
  · simp [FileTree.readFile, smallFiles, hne, hp]
  · simp [FileTree.readFile, smallFiles, hne, hp]

theorem small_delivers : small.Delivers [1] where
  sources := by
    intro id n files q hq
    refine smallCargo_sameOutside _ n files q fun dir hdir => ?_
    rw [List.mem_singleton.mp hdir]
    rcases hq with rfl | rfl
    · simp [runCargoBuild, destCargoPath, List.prefix_append_right_inj]
    · simp [runCargoBuild, destLibPath, srcDir, List.prefix_append_right_inj]
  artifact := by
    intro id n files _ hbuilt
    have hcargo : ∀ c, small.cargo c n files = smallCargo c n files := fun _ => rfl
    rw [hcargo] at hbuilt ⊢
    rcases smallCargo_cases (small.runCargoBuild (small.tempBuildDir id)) n files with
      h | ⟨manifest, lib, made, files', -, -, -, hwrite, h⟩
    · rw [h] at hbuilt
      cases hbuilt
    · rw [h]
      have hread : files'.readFile (wasmPath (small.tempBuildDir id)) = some (manifest ++ lib) :=
        FileTree.readFile_writeFile hwrite
      simp [hread]

theorem job_completes_interrupted :
    ∃ s, run small.step ⟨smallFiles, .idle⟩ (interrupted.take 6) = some s ∧
      ∃ calls t build, (∀ e ∈ calls, e = .call none 0) ∧ calls.length ≤ 5 ∧
        run small.step s (.getPlugin (some "b") :: calls) = some t ∧
        t.stage = .updatePluginStatus "p" "b" build ∧
        small.Completed [1] s.files "p" "b" calls build := by
  have hreached : ∃ s, run small.step ⟨smallFiles, .idle⟩ (interrupted.take 6) = some s ∧
      s.stage = .getPlugin "p" := ⟨_, rfl, rfl⟩
  obtain ⟨s, hrun, hstage⟩ := hreached
  exact ⟨s, hrun, job_completes small_delivers rfl rfl smallFiles_clear hrun hstage "b" 0⟩

/-! ## The worker that the server sees -/

/-- What a job that stands at `s` reports when `calls` are made. -/
def report (I : Installation) : Site → List Event → Option Build
  | ⟨_, .updatePluginStatus _ _ build⟩, _ => some build
  | _, [] => none
  | s, e :: calls => (I.step s e).bind fun t => I.report t calls

/-- The toolchain of one job, as the files that it begins on and its calls make it up: what these
    calls come to on a source. -/
def toolchain (I : Installation) (start : FileTree) (id : String) (calls : List Event) :
    Toolchain where
  setupTempCargoProject sourceCode :=
    match I.report ⟨start, .mkdirAll id sourceCode⟩ calls with
    | some (.setupFailed err) => some err
    | _ => none
  runCargoBuild sourceCode :=
    match I.report ⟨start, .mkdirAll id sourceCode⟩ calls with
    | some (.buildFailed compileOutput) => (compileOutput, true)
    | _ => ("", false)
  readFile sourceCode :=
    match I.report ⟨start, .mkdirAll id sourceCode⟩ calls with
    | some (.built wasmBytes) => .ok wasmBytes
    | _ => .error ""
  readFileAgain sourceCode :=
    match I.report ⟨start, .mkdirAll id sourceCode⟩ calls with
    | some (.unreadable err) => .error err
    | _ => .error ""

/-- What one call does to the worker. -/
inductive Stage.Goes (stage stage' : Stage) : Prop
  | stays (h : stage'.worker = stage.worker)
  | reports (id sourceCode : String) (build : Build)
      (hbuilding : stage.worker = .building id sourceCode)
      (h : stage' = .updatePluginStatus id sourceCode build)
  | written (id sourceCode : String) (build : Build)
      (hwriting : stage.worker = .writing id sourceCode build) (h : stage'.worker = .idle)

end Installation

end PluginSandbox.Compiler
