/-
  What a job touches, what it reports, and what it leaves.

  A job touches the directory of its id, the toolchain, and the directory of all builds itself
  (`Within`), whatever its calls do. So the template and the directories of the other plugins stay
  as they are. Each step of a job leaves what the next one relies on (`Holds`), no matter what an
  earlier process left in the directory. The build that reaches `UpdatePluginStatus` comes from
  the job's own calls: one of them failed, or cargo was called on the template and the source that
  this job has read (`built_from_source`). The deferred `RemoveAll` runs on every path behind
  `GetPlugin` (`cleaned_up`).
-/
import PluginSandbox.Compiler.Project

namespace PluginSandbox.Compiler

open PluginSandbox.Lib

namespace Installation

variable {I : Installation} {s t : Site} {e : Event} {id : String} {template : Bytes}
  {files files' files'' : FileTree} {f : Failure} {n : Nat}

/-! ## Where the paths lie -/

theorem tempBuildDir_prefix_iff {j : String} {names : Path} :
    I.tempBuildDir j <+: I.tempBuildDir id ++ names ↔ j = id := by
  simp [tempBuildDir, Compiler.tempBuildDir, List.prefix_append_right_inj]

theorem append_not_above {dir : Path} {name : String} {names : Path} :
    ¬ dir ++ name :: names <+: dir := by
  intro h
  have hlen := h.length_le
  simp only [List.length_append, List.length_cons] at hlen
  omega

theorem below_manifest : I.tempBuildDir id <+: destCargoPath (I.tempBuildDir id) :=
  List.prefix_append _ _

theorem below_lib : I.tempBuildDir id <+: destLibPath (I.tempBuildDir id) :=
  (List.prefix_append _ _).trans (List.prefix_append _ _)

theorem prefix_buildDir {q : Path} (hq : q <+: srcDir (I.tempBuildDir id))
    (htemp : ¬ I.tempBuildDir id <+: q) : q <+: buildDir I.workingDir := by
  have hdir : q <+: I.tempBuildDir id :=
    (List.prefix_or_prefix_of_prefix hq (List.prefix_append _ _)).resolve_right htemp
  rcases List.prefix_concat_iff.mp hdir with rfl | hdir
  · exact absurd (List.prefix_refl _) htemp
  · exact hdir

/-- The last place above a project that a job has to create is the directory of all builds. -/
theorem prefix_workingDir {q : Path} (hq : q <+: srcDir (I.tempBuildDir id))
    (hbuild : q ≠ buildDir I.workingDir) (htemp : ¬ I.tempBuildDir id <+: q) :
    q <+: I.workingDir :=
  (List.prefix_concat_iff.mp (prefix_buildDir hq htemp)).resolve_left hbuild

/-! ## What a job touches -/

/-- The trees differ at most in the directory of `id`, the toolchain, and the directory of all
    builds itself. -/
def Within (I : Installation) (id : String) (files files' : FileTree) : Prop :=
  ∀ q, q ≠ buildDir I.workingDir → ¬ I.tempBuildDir id <+: q → ¬ toolchainDir I.workingDir <+: q →
    files'.node q = files.node q

theorem Within.refl (id : String) (files : FileTree) : I.Within id files files :=
  fun _ _ _ _ => rfl

theorem Within.trans (h : I.Within id files files') (h' : I.Within id files' files'') :
    I.Within id files files'' :=
  fun q hbuild htemp htool => (h' q hbuild htemp htool).trans (h q hbuild htemp htool)

theorem within_of_sameOutside {path : Path} (hpath : I.tempBuildDir id <+: path)
    (h : FileTree.SameOutside [path] files files') : I.Within id files files' := by
  intro q _ htemp _
  refine h q fun dir hdir hq => ?_
  rw [List.mem_singleton.mp hdir] at hq
  exact htemp (hpath.trans hq)

theorem within_mkdirAll {path : Path} (hdir : files.node I.workingDir = some .dir)
    (hpath : path <+: srcDir (I.tempBuildDir id)) (h : files.mkdirAll path = some files') :
    I.Within id files files' := by
  intro q hbuild htemp _
  rw [FileTree.node_mkdirAll h]
  split
  · next hq =>
      have hup := prefix_workingDir (hq.trans hpath) hbuild htemp
      exact (FileTree.node_above hup hdir).symm
  · rfl

theorem within_writeFile {path : Path} {data : Bytes} (hpath : I.tempBuildDir id <+: path)
    (h : files.writeFile path data = some files') : I.Within id files files' :=
  within_of_sameOutside hpath (FileTree.sameOutside_writeFile h)

theorem within_tornWrite {path : Path} {data : Bytes} (hpath : I.tempBuildDir id <+: path) :
    I.Within id files (f.tornWrite files path data) := by
  unfold Failure.tornWrite
  split
  · exact Within.refl id files
  · cases h : files.writeFile path (data.take (f.progress - 1)) with
    | none => exact Within.refl id files
    | some files' => exact within_writeFile hpath h

theorem within_removals (paths : List Path) (files : FileTree) :
    I.Within id files
      (paths.foldl (fun files path => files.removeAll (I.tempBuildDir id ++ path)) files) := by
  induction paths generalizing files with
  | nil => exact Within.refl id files
  | cons path paths ih =>
      have hone : I.Within id files (files.removeAll (I.tempBuildDir id ++ path)) :=
        within_of_sameOutside (List.prefix_append _ _) (FileTree.sameOutside_removeAll _ _)
      exact hone.trans (ih _)

/-- The three variables are set after those that the server was started with. -/
theorem getenv_runCargoBuild (dir : Path) :
    (I.runCargoBuild dir).getenv "CARGO_HOME" = some (I.text (cargoHome I.workingDir)) ∧
      (I.runCargoBuild dir).getenv "RUSTUP_HOME" = some (I.text (rustupHome I.workingDir)) := by
  simp [Command.getenv, runCargoBuild, List.lookup_cons]

theorem within_cargo (id : String) (n : Nat) (files : FileTree) :
    I.Within id files (I.cargo (I.runCargoBuild (I.tempBuildDir id)) n files).2.2 := by
  have henv := getenv_runCargoBuild (I := I) (I.tempBuildDir id)
  have hout := I.confined (I.runCargoBuild (I.tempBuildDir id)) n files rfl henv.1 henv.2
  intro q _ htemp htool
  refine hout q fun dir hdir hq => ?_
  rcases List.mem_cons.mp hdir with rfl | hdir
  · exact htemp hq
  · rw [List.mem_singleton.mp hdir] at hq
    exact htool hq

theorem within_torn (hdir : files.node I.workingDir = some .dir) {stage : Stage}
    (hjob : stage.job = some id) : I.Within id files (I.torn files f n stage) := by
  cases stage with
  | mkdirAll j sourceCode =>
      cases hjob
      cases h : files.mkdirAll ((srcDir (I.tempBuildDir id)).take f.progress) with
      | none => simpa [torn, h] using Within.refl id files
      | some files' => simpa [torn, h] using within_mkdirAll hdir (List.take_prefix _ _) h
  | copyManifest j sourceCode =>
      cases hjob
      cases h : files.readFile (templateCargoPath I.workingDir) with
      | none => simpa [torn, h] using Within.refl id files
      | some data => simpa [torn, h] using within_tornWrite below_manifest
  | writeLib j sourceCode =>
      cases hjob
      exact within_tornWrite below_lib
  | cargoBuild j sourceCode =>
      cases hjob
      exact within_cargo id n files
  | removeAll j =>
      cases hjob
      exact within_removals f.removed files
  | idle | getPlugin | readFile | readFileAgain | updatePluginStatus => exact Within.refl id files

/-- What a call that comes to its end does, stage by stage. -/
inductive Succeeded (I : Installation) (files : FileTree) (n : Nat) : Stage → Site → Prop
  | mkdirAll (id sourceCode : String) (files' : FileTree)
      (hfiles : files.mkdirAll (srcDir (I.tempBuildDir id)) = some files') :
      Succeeded I files n (.mkdirAll id sourceCode) ⟨files', .copyManifest id sourceCode⟩
  | copyManifest (id sourceCode : String) (data : Bytes) (files' : FileTree)
      (hdata : files.readFile (templateCargoPath I.workingDir) = some data)
      (hfiles : files.writeFile (destCargoPath (I.tempBuildDir id)) data = some files') :
      Succeeded I files n (.copyManifest id sourceCode) ⟨files', .writeLib id sourceCode⟩
  | writeLib (id sourceCode : String) (files' : FileTree)
      (hfiles : files.writeFile (destLibPath (I.tempBuildDir id)) (utf8 (fullCode sourceCode)) =
        some files') :
      Succeeded I files n (.writeLib id sourceCode) ⟨files', .cargoBuild id sourceCode⟩
  | cargoFailed (id sourceCode compileOutput : String) (files' : FileTree)
      (hcargo : I.cargo (I.runCargoBuild (I.tempBuildDir id)) n files =
        (compileOutput, true, files')) :
      Succeeded I files n (.cargoBuild id sourceCode)
        ⟨files', .updatePluginStatus id sourceCode (.buildFailed compileOutput)⟩
  | cargoBuilt (id sourceCode compileOutput : String) (files' : FileTree)
      (hcargo : I.cargo (I.runCargoBuild (I.tempBuildDir id)) n files =
        (compileOutput, false, files')) :
      Succeeded I files n (.cargoBuild id sourceCode) ⟨files', .readFile id sourceCode⟩
  | readFile (id sourceCode : String) (stage : Stage) (wasmBytes : Bytes)
      (hstage : stage = .readFile id sourceCode ∨ stage = .readFileAgain id sourceCode)
      (hread : files.readFile (wasmPath (I.tempBuildDir id)) = some wasmBytes) :
      Succeeded I files n stage ⟨files, .updatePluginStatus id sourceCode (.built wasmBytes)⟩
  | updatePluginStatus (id sourceCode : String) (build : Build) :
      Succeeded I files n (.updatePluginStatus id sourceCode build) ⟨files, .removeAll id⟩
  | removeAll (id : String) :
      Succeeded I files n (.removeAll id) ⟨files.removeAll (I.tempBuildDir id), .idle⟩

theorem succeed_succeeded {stage : Stage} (h : I.succeed files n stage = some t) :
    I.Succeeded files n stage t := by
  cases stage with
  | idle | getPlugin => cases h
  | mkdirAll id sourceCode =>
      obtain ⟨files', hfiles, rfl⟩ := Option.map_eq_some_iff.mp h
      exact .mkdirAll id sourceCode files' hfiles
  | copyManifest id sourceCode =>
      obtain ⟨files', hbind, rfl⟩ := Option.map_eq_some_iff.mp h
      obtain ⟨data, hdata, hfiles⟩ := Option.bind_eq_some_iff.mp hbind
      exact .copyManifest id sourceCode data files' hdata hfiles
  | writeLib id sourceCode =>
      obtain ⟨files', hfiles, rfl⟩ := Option.map_eq_some_iff.mp h
      exact .writeLib id sourceCode files' hfiles
  | cargoBuild id sourceCode =>
      unfold succeed at h
      dsimp only at h
      split at h
      · next compileOutput files' hcargo =>
          cases h
          exact .cargoFailed id sourceCode compileOutput files' hcargo
      · next compileOutput files' hcargo =>
          cases h
          exact .cargoBuilt id sourceCode compileOutput files' hcargo
  | readFile id sourceCode =>
      obtain ⟨wasmBytes, hread, rfl⟩ := Option.map_eq_some_iff.mp h
      exact .readFile id sourceCode _ wasmBytes (.inl rfl) hread
  | readFileAgain id sourceCode =>
      obtain ⟨wasmBytes, hread, rfl⟩ := Option.map_eq_some_iff.mp h
      exact .readFile id sourceCode _ wasmBytes (.inr rfl) hread
  | updatePluginStatus id sourceCode build =>
      cases h
      exact .updatePluginStatus id sourceCode build
  | removeAll id =>
      cases h
      exact .removeAll id

theorem succeeded_within {stage : Stage} (hdir : files.node I.workingDir = some .dir)
    (h : I.Succeeded files n stage t) : ∃ id, stage.job = some id ∧ I.Within id files t.files := by
  cases h with
  | mkdirAll id sourceCode files' hfiles =>
      exact ⟨id, rfl, within_mkdirAll hdir (List.prefix_refl _) hfiles⟩
  | copyManifest id sourceCode data files' hdata hfiles =>
      exact ⟨id, rfl, within_writeFile below_manifest hfiles⟩
  | writeLib id sourceCode files' hfiles =>
      exact ⟨id, rfl, within_writeFile below_lib hfiles⟩
  | cargoFailed id sourceCode compileOutput files' hcargo =>
      exact ⟨id, rfl, by simpa [hcargo] using within_cargo (I := I) id n files⟩
  | cargoBuilt id sourceCode compileOutput files' hcargo =>
      exact ⟨id, rfl, by simpa [hcargo] using within_cargo (I := I) id n files⟩
  | readFile id sourceCode stage wasmBytes hstage hread =>
      rcases hstage with rfl | rfl
      · exact ⟨id, rfl, Within.refl id files⟩
      · exact ⟨id, rfl, Within.refl id files⟩
  | updatePluginStatus id sourceCode build => exact ⟨id, rfl, Within.refl id files⟩
  | removeAll id =>
      exact ⟨id, rfl,
        within_of_sameOutside (List.prefix_refl _) (FileTree.sameOutside_removeAll _ _)⟩

/-- What a step can do. -/
inductive Stepped (I : Installation) (s : Site) : Event → Site → Prop
  | received (id : String) (hstage : s.stage = .idle) :
      Stepped I s (.receive id) ⟨s.files, .getPlugin id⟩
  | missing (id : String) (hstage : s.stage = .getPlugin id) :
      Stepped I s (.getPlugin none) ⟨s.files, .idle⟩
  | found (id sourceCode : String) (hstage : s.stage = .getPlugin id) :
      Stepped I s (.getPlugin (some sourceCode)) ⟨s.files, .mkdirAll id sourceCode⟩
  | succeeded (n : Nat) (t : Site) (hcall : I.Succeeded s.files n s.stage t) :
      Stepped I s (.call none n) t
  | failed (f : Failure) (n : Nat) (stage : Stage) (hfail : fail f.err s.stage = some stage) :
      Stepped I s (.call (some f) n) ⟨I.torn s.files f n s.stage, stage⟩
  | removeAllFailed (id : String) (f : Failure) (hstage : s.stage = .removeAll id) :
      Stepped I s (.removeAllFails f) ⟨I.torn s.files f 0 s.stage, .idle⟩
  | crashed (f : Failure) (n : Nat) :
      Stepped I s (.crash f n) ⟨I.torn s.files f n s.stage, .idle⟩

theorem step_stepped (h : I.step s e = some t) : I.Stepped s e t := by
  obtain ⟨files, stage⟩ := s
  cases e with
  | receive id =>
      cases stage with
      | idle =>
          cases h
          exact .received id rfl
      | _ => cases h
  | getPlugin sourceCode =>
      cases stage with
      | getPlugin id =>
          cases sourceCode with
          | none =>
              cases h
              exact .missing id rfl
          | some sourceCode =>
              cases h
              exact .found id sourceCode rfl
      | _ => cases h
  | call failure n =>
      cases failure with
      | none => exact .succeeded n t (succeed_succeeded h)
      | some f =>
          obtain ⟨stage', hfail, rfl⟩ := Option.map_eq_some_iff.mp h
          exact .failed f n stage' hfail
  | removeAllFails f =>
      cases stage with
      | removeAll id =>
          cases h
          exact .removeAllFailed id f rfl
      | _ => cases h
  | crash f n =>
      cases h
      exact .crashed f n

theorem within_torn_of_some {stage : Stage} (hdir : files.node I.workingDir = some .dir) :
    I.torn files f n stage = files ∨
      ∃ id, stage.job = some id ∧ I.Within id files (I.torn files f n stage) := by
  cases hjob : stage.job with
  | none => cases stage with
    | idle | getPlugin => exact .inl rfl
    | _ => cases hjob
  | some id => exact .inr ⟨id, rfl, within_torn hdir hjob⟩

/-- A step outside of a job leaves all files alone; a step of a job stays `Within` it. -/
theorem step_within (hdir : s.files.node I.workingDir = some .dir) (h : I.step s e = some t) :
    t.files = s.files ∨ ∃ id, s.stage.job = some id ∧ I.Within id s.files t.files := by
  cases step_stepped h with
  | received | missing | found => exact .inl rfl
  | succeeded n t hcall => exact .inr (succeeded_within hdir hcall)
  | failed | removeAllFailed | crashed => exact within_torn_of_some hdir

/-! ## What no job touches -/

theorem within_workingDir (h : I.Within id files files') :
    files'.node I.workingDir = files.node I.workingDir := by
  have hself : I.workingDir ≠ buildDir I.workingDir := by simp [buildDir]
  refine h _ hself ?_ ?_
  · have hbelow : ¬ I.workingDir ++ ".build" :: ["temp_build_" ++ id] <+: I.workingDir :=
      append_not_above
    simpa [tempBuildDir, Compiler.tempBuildDir, buildDir] using hbelow
  · exact append_not_above

theorem within_template (h : I.Within id files files') :
    files'.readFile (templateCargoPath I.workingDir) =
      files.readFile (templateCargoPath I.workingDir) := by
  refine FileTree.readFile_congr (h _ ?_ ?_ ?_)
  · simp [templateCargoPath, buildDir]
  · simp [templateCargoPath, tempBuildDir, Compiler.tempBuildDir, buildDir,
      List.prefix_append_right_inj]
  · simp [templateCargoPath, toolchainDir, List.prefix_append_right_inj]

/-! ## What a job relies on -/

/-- What the calls made so far have put in place for those to come. -/
def Holds (I : Installation) (template : Bytes) (files : FileTree) : Stage → Prop
  | .copyManifest id _ => files.node (srcDir (I.tempBuildDir id)) = some .dir
  | .writeLib id _ =>
    files.node (srcDir (I.tempBuildDir id)) = some .dir ∧
      files.readFile (destCargoPath (I.tempBuildDir id)) = some template
  | .cargoBuild id sourceCode =>
    files.readFile (destCargoPath (I.tempBuildDir id)) = some template ∧
      files.readFile (destLibPath (I.tempBuildDir id)) = some (utf8 (fullCode sourceCode))
  | _ => True

/-- The installation is as it was, and the current job has what it relies on. -/
structure Ready (I : Installation) (template : Bytes) (s : Site) : Prop where
  workingDir : s.files.node I.workingDir = some .dir
  manifest : s.files.readFile (templateCargoPath I.workingDir) = some template
  holds : I.Holds template s.files s.stage

theorem holds_succeeded (hs : I.Ready template s) (h : I.Succeeded s.files n s.stage t) :
    I.Holds template t.files t.stage := by
  obtain ⟨files, stage⟩ := s
  obtain ⟨-, htemplate, hholds⟩ := hs
  dsimp only at htemplate hholds h
  cases h with
  | updatePluginStatus | removeAll => trivial
  | mkdirAll id sourceCode files' hfiles =>
      simp [Holds, FileTree.node_mkdirAll hfiles]
  | copyManifest id sourceCode data files' hdata hfiles =>
      cases htemplate.symm.trans hdata
      have hne : srcDir (I.tempBuildDir id) ≠ destCargoPath (I.tempBuildDir id) := by
        simp [destCargoPath, srcDir]
      have hsrc : files'.node (srcDir (I.tempBuildDir id)) = some .dir := by
        rw [FileTree.node_writeFile hfiles, if_neg hne]
        exact hholds
      exact ⟨hsrc, FileTree.readFile_writeFile hfiles⟩
  | writeLib id sourceCode files' hfiles =>
      have hne : destCargoPath (I.tempBuildDir id) ≠ destLibPath (I.tempBuildDir id) := by
        simp [destCargoPath, destLibPath, srcDir]
      have hkept : files'.readFile (destCargoPath (I.tempBuildDir id)) =
          files.readFile (destCargoPath (I.tempBuildDir id)) :=
        FileTree.readFile_congr (by rw [FileTree.node_writeFile hfiles, if_neg hne])
      exact ⟨hkept.trans hholds.2, FileTree.readFile_writeFile hfiles⟩
  | cargoFailed | cargoBuilt | readFile => trivial

theorem holds_failed {stage stage' : Stage} (hfail : fail f.err stage = some stage') :
    I.Holds template files stage' := by
  cases stage with
  | idle | getPlugin | cargoBuild | removeAll => cases hfail
  | mkdirAll | copyManifest | writeLib | readFile | readFileAgain | updatePluginStatus =>
      cases hfail
      trivial

theorem ready_step (hs : I.Ready template s) (h : I.step s e = some t) : I.Ready template t := by
  have hholds : I.Holds template t.files t.stage := by
    cases step_stepped h with
    | received | missing | found | removeAllFailed | crashed => trivial
    | succeeded n t hcall => exact holds_succeeded hs hcall
    | failed f n stage hfail => exact holds_failed hfail
  rcases step_within hs.workingDir h with hfiles | ⟨id, -, hwithin⟩
  · exact ⟨hfiles ▸ hs.workingDir, hfiles ▸ hs.manifest, hholds⟩
  · exact ⟨(within_workingDir hwithin).trans hs.workingDir,
      (within_template hwithin).trans hs.manifest, hholds⟩

theorem ready_run {es : List Event} (hs : I.Ready template s) (hrun : run I.step s es = some t) :
    I.Ready template t :=
  run_invariant (P := fun _ => True) (fun _ _ _ hs _ h => ready_step hs h) (fun _ _ => trivial) hs
    hrun

/-! ## One job of a run -/

/-- The plugin and the source that a job is on, from `GetPlugin` up to the report. -/
def Stage.snapshot : Stage → Option (String × String)
  | .mkdirAll id sourceCode => some (id, sourceCode)
  | .copyManifest id sourceCode => some (id, sourceCode)
  | .writeLib id sourceCode => some (id, sourceCode)
  | .cargoBuild id sourceCode => some (id, sourceCode)
  | .readFile id sourceCode => some (id, sourceCode)
  | .readFileAgain id sourceCode => some (id, sourceCode)
  | .updatePluginStatus id sourceCode _ => some (id, sourceCode)
  | _ => none

def Event.IsCall (e : Event) : Prop := ∃ failure n, e = .call failure n

theorem succeeded_snapshot {stage : Stage} (h : I.Succeeded files n stage t) :
    t.stage.snapshot = stage.snapshot ∨ t.stage.snapshot = none := by
  cases h with
  | updatePluginStatus | removeAll => exact .inr rfl
  | mkdirAll | copyManifest | writeLib | cargoFailed | cargoBuilt => exact .inl rfl
  | readFile id sourceCode stage wasmBytes hstage hread =>
      rcases hstage with rfl | rfl
      · exact .inl rfl
      · exact .inl rfl

theorem failed_snapshot {err : String} {stage stage' : Stage} (h : fail err stage = some stage') :
    stage'.snapshot = stage.snapshot ∨ stage'.snapshot = none := by
  cases stage with
  | idle | getPlugin | cargoBuild | removeAll => cases h
  | mkdirAll | copyManifest | writeLib | readFile | readFileAgain =>
      cases h
      exact .inl rfl
  | updatePluginStatus =>
      cases h
      exact .inr rfl

theorem snapshot_before {stage stage' : Stage} {job : String × String}
    (h : stage'.snapshot = stage.snapshot ∨ stage'.snapshot = none)
    (hjob : stage'.snapshot = some job) : stage.snapshot = some job := by
  rcases h with hsame | hnone
  · exact hsame.symm.trans hjob
  · cases hnone.symm.trans hjob

/-- The worker is before `GetPlugin` only right after a receive. -/
theorem received_last {es : List Event} (hrun : run I.step ⟨files, .idle⟩ es = some s)
    (hstage : s.stage = .getPlugin id) :
    ∃ pre, es = pre ++ [.receive id] ∧ run I.step ⟨files, .idle⟩ pre = some ⟨s.files, .idle⟩ := by
  rcases List.eq_nil_or_concat' es with rfl | ⟨pre, e, rfl⟩
  · cases hrun
    cases hstage
  · obtain ⟨⟨before, stage⟩, hpre, hlast⟩ := run_append_iff.mp hrun
    obtain ⟨s', hstep, hend⟩ := run_cons_iff.mp hlast
    cases hend
    cases step_stepped hstep with
    | received j hidle =>
        cases hidle
        cases hstage
        exact ⟨pre, rfl, hpre⟩
    | missing | found | removeAllFailed | crashed => cases hstage
    | succeeded n t hcall => cases hcall <;> cases hstage
    | failed f n stage' hfail =>
        cases hstage
        cases stage <;> cases hfail

/-- A call stays in its job or ends it. -/
theorem call_snapshot {failure : Option Failure} (h : I.step s (.call failure n) = some t) :
    t.stage.snapshot = s.stage.snapshot ∨ t.stage.snapshot = none := by
  cases step_stepped h with
  | succeeded n t hcall => exact succeeded_snapshot hcall
  | failed f n stage hfail => exact failed_snapshot hfail

/-- A run that is in a job: it has received the plugin, has read its source, and has made
    nothing but the calls of this job since. -/
def InJob (I : Installation) (files : FileTree) (es : List Event) (id sourceCode : String)
    (s : Site) : Prop :=
  ∃ pre start calls, es = pre ++ .receive id :: .getPlugin (some sourceCode) :: calls ∧
    run I.step ⟨files, .idle⟩ pre = some ⟨start, .idle⟩ ∧ (∀ e ∈ calls, e.IsCall) ∧
    run I.step ⟨start, .mkdirAll id sourceCode⟩ calls = some s

theorem inJob_call {es : List Event} {sourceCode : String} {failure : Option Failure}
    (hs : I.InJob files es id sourceCode s) (h : I.step s (.call failure n) = some t) :
    I.InJob files (es ++ [.call failure n]) id sourceCode t := by
  obtain ⟨pre, start, calls, rfl, hpre, hcalls, hrun⟩ := hs
  refine ⟨pre, start, calls ++ [.call failure n], by simp, hpre, ?_,
    run_append_iff.mpr ⟨s, hrun, run_cons_iff.mpr ⟨t, h, rfl⟩⟩⟩
  intro e he
  rcases List.mem_append.mp he with he | he
  · exact hcalls e he
  · exact ⟨failure, n, List.mem_singleton.mp he⟩

theorem inJob_run {es : List Event} {sourceCode : String}
    (hrun : run I.step ⟨files, .idle⟩ es = some s)
    (hjob : s.stage.snapshot = some (id, sourceCode)) : I.InJob files es id sourceCode s := by
  induction es using List.reverseRecOn generalizing s with
  | nil =>
      cases hrun
      cases hjob
  | append_singleton es e ih =>
      obtain ⟨u, hu, hlast⟩ := run_append_iff.mp hrun
      obtain ⟨s', hstep, hend⟩ := run_cons_iff.mp hlast
      cases hend
      cases step_stepped hstep with
      | received | missing | removeAllFailed | crashed => cases hjob
      | found j source hstage =>
          cases hjob
          obtain ⟨pre, rfl, hpre⟩ := received_last hu hstage
          exact ⟨pre, u.files, [], by simp, hpre, nofun, rfl⟩
      | succeeded | failed =>
          exact inJob_call (ih hu (snapshot_before (call_snapshot hstep) hjob)) hstep

/-! ## What a job reports -/

/-- The call of cargo among the `calls` of a job that began on the files `start`. The project has
    the template and the source of this job. -/
def CargoRan (I : Installation) (template : Bytes) (start : FileTree) (id sourceCode : String)
    (calls : List Event) (compileOutput : String) (failed : Bool) (after : FileTree) : Prop :=
  ∃ setup n rest before, calls = setup ++ .call none n :: rest ∧
    run I.step ⟨start, .mkdirAll id sourceCode⟩ setup =
      some ⟨before, .cargoBuild id sourceCode⟩ ∧
    before.readFile (destCargoPath (I.tempBuildDir id)) = some template ∧
    before.readFile (destLibPath (I.tempBuildDir id)) = some (utf8 (fullCode sourceCode)) ∧
    I.cargo (I.runCargoBuild (I.tempBuildDir id)) n before = (compileOutput, failed, after)

/-- Where a build comes from: the failure of one of the job's own calls, or what its own call of
    cargo said or left behind. -/
inductive Outcome (I : Installation) (template : Bytes) (start : FileTree)
    (id sourceCode : String) (calls : List Event) : Build → Prop
  | failed (build : Build) (setup : List Event) (f : Failure) (n : Nat) (rest : List Event)
      (u : Site) (hcalls : calls = setup ++ .call (some f) n :: rest)
      (hrun : run I.step ⟨start, .mkdirAll id sourceCode⟩ setup = some u)
      (hfail : fail f.err u.stage = some (.updatePluginStatus id sourceCode build)) :
      Outcome I template start id sourceCode calls build
  | buildFailed (compileOutput : String) (after : FileTree)
      (hcargo : I.CargoRan template start id sourceCode calls compileOutput true after) :
      Outcome I template start id sourceCode calls (.buildFailed compileOutput)
  | built (compileOutput : String) (after : FileTree) (wasmBytes : Bytes)
      (hcargo : I.CargoRan template start id sourceCode calls compileOutput false after)
      (hread : after.readFile (wasmPath (I.tempBuildDir id)) = some wasmBytes) :
      Outcome I template start id sourceCode calls (.built wasmBytes)

theorem cargoRan_append {start after : FileTree} {sourceCode compileOutput : String}
    {calls : List Event} {failed : Bool} (more : List Event)
    (h : I.CargoRan template start id sourceCode calls compileOutput failed after) :
    I.CargoRan template start id sourceCode (calls ++ more) compileOutput failed after := by
  obtain ⟨setup, n, rest, before, rfl, hran⟩ := h
  exact ⟨setup, n, rest ++ more, before, by simp, hran⟩

/-- What is known where a job stands after its `calls`. -/
def Told (I : Installation) (template : Bytes) (start : FileTree) (calls : List Event)
    (s : Site) : Prop :=
  match s.stage with
  | .readFile id sourceCode =>
    ∃ compileOutput, I.CargoRan template start id sourceCode calls compileOutput false s.files
  | .readFileAgain id sourceCode =>
    ∃ compileOutput, I.CargoRan template start id sourceCode calls compileOutput false s.files
  | .updatePluginStatus id sourceCode build => I.Outcome template start id sourceCode calls build
  | _ => True

/-- A call adds what it does to what is known of its job. -/
theorem told_step {start : FileTree} {sourceCode : String} {calls : List Event}
    (hs : I.Ready template s) (hjob : s.stage.snapshot = some (id, sourceCode))
    (hrun : run I.step ⟨start, .mkdirAll id sourceCode⟩ calls = some s)
    (htold : I.Told template start calls s) (h : I.step s e = some t) :
    I.Told template start (calls ++ [e]) t := by
  obtain ⟨files, stage⟩ := s
  obtain ⟨-, -, hholds⟩ := hs
  cases step_stepped h with
  | received | missing | found | removeAllFailed | crashed => trivial
  | succeeded n t hcall =>
      dsimp only at hcall hjob htold hholds
      cases hcall with
      | mkdirAll | copyManifest | writeLib | updatePluginStatus | removeAll => trivial
      | cargoFailed j source compileOutput files' hcargo =>
          cases hjob
          exact .buildFailed compileOutput files'
            ⟨calls, n, [], files, rfl, hrun, hholds.1, hholds.2, hcargo⟩
      | cargoBuilt j source compileOutput files' hcargo =>
          cases hjob
          exact ⟨compileOutput, calls, n, [], files, rfl, hrun, hholds.1, hholds.2, hcargo⟩
      | readFile j source stage wasmBytes hstage hread =>
          obtain ⟨compileOutput, hcargo⟩ :
              ∃ out, I.CargoRan template start j source calls out false files := by
            rcases hstage with rfl | rfl
            · exact htold
            · exact htold
          exact .built compileOutput files wasmBytes (cargoRan_append _ hcargo) hread
  | failed f n stage' hfail =>
      dsimp only at hfail htold hjob
      cases stage with
      | idle | getPlugin | cargoBuild | removeAll => cases hfail
      | mkdirAll | copyManifest | writeLib | readFileAgain =>
          cases hjob
          cases hfail
          exact .failed _ calls f n [] _ rfl hrun rfl
      | readFile =>
          cases hfail
          obtain ⟨compileOutput, hcargo⟩ := htold
          exact ⟨compileOutput, cargoRan_append _ hcargo⟩
      | updatePluginStatus =>
          cases hfail
          trivial

theorem told_run {start : FileTree} {sourceCode : String} {calls : List Event}
    (hs : I.Ready template ⟨start, .mkdirAll id sourceCode⟩) (hcalls : ∀ e ∈ calls, e.IsCall)
    (hrun : run I.step ⟨start, .mkdirAll id sourceCode⟩ calls = some s)
    (hjob : s.stage.snapshot = some (id, sourceCode)) : I.Told template start calls s := by
  induction calls using List.reverseRecOn generalizing s with
  | nil =>
      cases hrun
      trivial
  | append_singleton calls e ih =>
      obtain ⟨u, hu, hlast⟩ := run_append_iff.mp hrun
      obtain ⟨s', hstep, hend⟩ := run_cons_iff.mp hlast
      cases hend
      have hbefore : u.stage.snapshot = some (id, sourceCode) := by
        obtain ⟨failure, n, rfl⟩ := hcalls e (List.mem_append_right _ (List.mem_singleton_self _))
        exact snapshot_before (call_snapshot hstep) hjob
      have hearlier : ∀ e ∈ calls, e.IsCall := fun e he => hcalls e (List.mem_append_left _ he)
      exact told_step (ready_run hs hu) hbefore hu (ih hearlier hu hbefore) hstep

/-- Whatever lies in the directories of the builds, whatever fails, and wherever earlier processes
    stopped: a job reports the failure of one of the calls that it has made since it read its
    source, or what its own call of cargo made of the template and of this source. -/
theorem built_from_source {es : List Event} {sourceCode : String} {build : Build}
    (hdir : files.node I.workingDir = some .dir)
    (htemplate : files.readFile (templateCargoPath I.workingDir) = some template)
    (hrun : run I.step ⟨files, .idle⟩ es = some s)
    (hstage : s.stage = .updatePluginStatus id sourceCode build) :
    ∃ pre start calls, es = pre ++ .receive id :: .getPlugin (some sourceCode) :: calls ∧
      run I.step ⟨files, .idle⟩ pre = some ⟨start, .idle⟩ ∧ (∀ e ∈ calls, e.IsCall) ∧
      I.Outcome template start id sourceCode calls build := by
  have hidle : I.Ready template ⟨files, .idle⟩ := ⟨hdir, htemplate, trivial⟩
  have hjob : s.stage.snapshot = some (id, sourceCode) := by rw [hstage]; rfl
  obtain ⟨pre, start, calls, hes, hpre, hcalls, hjobrun⟩ := inJob_run hrun hjob
  obtain ⟨hworkingDir, hmanifest, -⟩ := ready_run hidle hpre
  have htold := told_run ⟨hworkingDir, hmanifest, trivial⟩ hcalls hjobrun hjob
  unfold Told at htold
  rw [hstage] at htold
  exact ⟨pre, start, calls, hes, hpre, hcalls, htold⟩

theorem built_from_source_interrupted :
    ∃ s build, run small.step ⟨smallFiles, .idle⟩
        (interrupted ++ List.replicate 5 (.call none 0)) = some s ∧
      s.stage = .updatePluginStatus "p" "b" build ∧
      ∃ pre start calls, interrupted ++ List.replicate 5 (.call none 0) =
          pre ++ .receive "p" :: .getPlugin (some "b") :: calls ∧
        run small.step ⟨smallFiles, .idle⟩ pre = some ⟨start, .idle⟩ ∧
        (∀ e ∈ calls, e.IsCall) ∧ small.Outcome [1] start "p" "b" calls build := by
  have hreached : ∃ s, run small.step ⟨smallFiles, .idle⟩
      (interrupted ++ List.replicate 5 (.call none 0)) = some s ∧
        s.stage = .updatePluginStatus "p" "b" (.built ([1] ++ utf8 (fullCode "b"))) :=
    ⟨_, rfl, rfl⟩
  obtain ⟨s, hrun, hstage⟩ := hreached
  exact ⟨s, _, hrun, hstage, built_from_source rfl rfl hrun hstage⟩

/-! ## What stays as it is -/

theorem step_workingDir (hdir : s.files.node I.workingDir = some .dir) (h : I.step s e = some t) :
    t.files.node I.workingDir = some .dir := by
  rcases step_within hdir h with hfiles | ⟨id, -, hwithin⟩
  · rw [hfiles]
    exact hdir
  · exact (within_workingDir hwithin).trans hdir

/-- The plugin that the worker is on. -/
def Stage.plugin : Stage → Option String
  | .getPlugin id => some id
  | stage => stage.job

theorem Stage.plugin_of_job {stage : Stage} (h : stage.job = some id) : stage.plugin = some id := by
  cases stage with
  | idle | getPlugin => cases h
  | _ => exact h

theorem failed_plugin {err : String} {stage stage' : Stage} (h : fail err stage = some stage') :
    stage'.job = stage.job ∧ stage'.plugin = stage.plugin := by
  cases stage with
  | idle | getPlugin | cargoBuild | removeAll => cases h
  | mkdirAll | copyManifest | writeLib | readFile | readFileAgain | updatePluginStatus =>
      cases h
      exact ⟨rfl, rfl⟩

/-- A job goes on until its directory is removed. -/
theorem succeeded_plugin {stage : Stage} (h : I.Succeeded files n stage t) :
    (t.stage.job = stage.job ∧ t.stage.plugin = stage.plugin) ∨
      ∃ id, stage = .removeAll id ∧ t = ⟨files.removeAll (I.tempBuildDir id), .idle⟩ := by
  cases h with
  | removeAll id => exact .inr ⟨id, rfl, rfl⟩
  | readFile id sourceCode stage wasmBytes hstage hread =>
      rcases hstage with rfl | rfl
      · exact .inl ⟨rfl, rfl⟩
      · exact .inl ⟨rfl, rfl⟩
  | mkdirAll | copyManifest | writeLib | cargoFailed | cargoBuilt | updatePluginStatus =>
      exact .inl ⟨rfl, rfl⟩

/-- The worker comes to a plugin only by taking it from the queue. -/
theorem step_plugin {j : String} (h : I.step s e = some t) (hj : t.stage.plugin = some j) :
    s.stage.plugin = some j ∨ e = .receive j := by
  cases step_stepped h with
  | received id hstage =>
      cases hj
      exact .inr rfl
  | missing | removeAllFailed | crashed => cases hj
  | found id sourceCode hstage =>
      cases hj
      exact .inl (by rw [hstage]; rfl)
  | succeeded n t hcall =>
      rcases succeeded_plugin hcall with ⟨-, hplugin⟩ | ⟨id, -, rfl⟩
      · exact .inl (hplugin ▸ hj)
      · cases hj
  | failed f n stage hfail => exact .inl ((failed_plugin hfail).2 ▸ hj)

/-- The directories of different plugins lie apart. -/
theorem within_apart {j : String} {q : Path} (hne : id ≠ j) (hq : I.tempBuildDir j <+: q)
    (h : I.Within id files files') : files'.node q = files.node q := by
  obtain ⟨names, rfl⟩ := hq
  refine h _ ?_ (fun hid => hne (tempBuildDir_prefix_iff.mp hid)) ?_
  · simp [tempBuildDir, Compiler.tempBuildDir, buildDir]
  · simp [tempBuildDir, Compiler.tempBuildDir, buildDir, toolchainDir,
      List.prefix_append_right_inj]

/-- A path outside of all builds and of the toolchain. -/
theorem within_outside {q : Path} (hbuild : ¬ buildDir I.workingDir <+: q)
    (htool : ¬ toolchainDir I.workingDir <+: q) (h : I.Within id files files') :
    files'.node q = files.node q := by
  refine h q ?_ (fun hq => hbuild ((List.prefix_append _ _).trans hq)) htool
  rintro rfl
  exact hbuild (List.prefix_refl _)

/-- The directory of a plugin that the worker is not on and does not take from the queue. -/
theorem apart_run {es : List Event} {j : String} (hdir : s.files.node I.workingDir = some .dir)
    (hplugin : s.stage.plugin ≠ some j) (hj : .receive j ∉ es) (hrun : run I.step s es = some t)
    {q : Path} (hq : I.tempBuildDir j <+: q) : t.files.node q = s.files.node q := by
  have hstep : ∀ u e v,
      (u.files.node I.workingDir = some .dir ∧ u.stage.plugin ≠ some j) ∧
        u.files.node q = s.files.node q →
      e ≠ .receive j → I.step u e = some v →
      (v.files.node I.workingDir = some .dir ∧ v.stage.plugin ≠ some j) ∧
        v.files.node q = s.files.node q := by
    rintro u e v ⟨⟨hu, hplugin⟩, hsame⟩ he h
    refine ⟨⟨step_workingDir hu h, fun hv => ?_⟩, ?_⟩
    · exact (step_plugin h hv).elim hplugin he
    · rcases step_within hu h with hfiles | ⟨id, hjob, hwithin⟩
      · rw [hfiles, hsame]
      · have hne : id ≠ j := by
          rintro rfl
          exact hplugin (Stage.plugin_of_job hjob)
        rw [within_apart hne hq hwithin, hsame]
  have hevents : ∀ e ∈ es, e ≠ .receive j := fun e he hej => hj (hej ▸ he)
  exact (run_invariant hstep hevents ⟨⟨hdir, hplugin⟩, rfl⟩ hrun).2

/-- Whatever the jobs do, what is outside of the builds and the toolchain stays as it is, and so
    does the directory of a plugin that the worker does not take from the queue. -/
theorem confined_run {es : List Event} (hdir : files.node I.workingDir = some .dir)
    (hrun : run I.step ⟨files, .idle⟩ es = some s) :
    (∀ q, ¬ buildDir I.workingDir <+: q → ¬ toolchainDir I.workingDir <+: q →
      s.files.node q = files.node q) ∧
    ∀ j, .receive j ∉ es → ∀ q, I.tempBuildDir j <+: q → s.files.node q = files.node q := by
  constructor
  · intro q hbuild htool
    have hstep : ∀ u e v, u.files.node I.workingDir = some .dir ∧ u.files.node q = files.node q →
        True → I.step u e = some v →
        v.files.node I.workingDir = some .dir ∧ v.files.node q = files.node q := by
      rintro u e v ⟨hu, hsame⟩ - h
      refine ⟨step_workingDir hu h, ?_⟩
      rcases step_within hu h with hfiles | ⟨id, -, hwithin⟩
      · rw [hfiles, hsame]
      · rw [within_outside hbuild htool hwithin, hsame]
    exact (run_invariant hstep (fun _ _ => trivial) ⟨hdir, rfl⟩ hrun).2
  · intro j hj q hq
    have hidle : Stage.idle.plugin ≠ some j := by simp [Stage.plugin, Stage.job]
    exact apart_run (s := ⟨files, .idle⟩) hdir hidle hj hrun hq

theorem confined_run_interrupted :
    ∃ s, run small.step ⟨smallFiles, .idle⟩ interrupted = some s ∧
      (∀ q, ¬ buildDir small.workingDir <+: q → ¬ toolchainDir small.workingDir <+: q →
        s.files.node q = smallFiles.node q) ∧
      ∀ j, .receive j ∉ interrupted → ∀ q, small.tempBuildDir j <+: q →
        s.files.node q = smallFiles.node q := by
  have hreached : ∃ s, run small.step ⟨smallFiles, .idle⟩ interrupted = some s := ⟨_, rfl⟩
  obtain ⟨s, hrun⟩ := hreached
  exact ⟨s, hrun, confined_run rfl hrun⟩

/-! ## Cleanup -/

/-- The process goes on, and `RemoveAll` does not fail. -/
def Event.Spares : Event → Prop
  | .removeAllFails _ => False
  | .crash _ _ => False
  | _ => True

/-- The job of `id` goes on, or nothing is left of its directory. -/
def Cleaning (I : Installation) (id : String) (s : Site) : Prop :=
  s.stage.job = some id ∨ ∀ q, I.tempBuildDir id <+: q → s.files.node q = none

theorem cleaning_step (hdir : s.files.node I.workingDir = some .dir) (he : e.Spares)
    (hs : I.Cleaning id s) (h : I.step s e = some t) : I.Cleaning id t := by
  by_cases hjob : s.stage.job = some id
  · cases step_stepped h with
    | received _ hstage | missing _ hstage | found _ _ hstage =>
        rw [hstage] at hjob
        cases hjob
    | removeAllFailed | crashed => cases he
    | failed f n stage hfail => exact .inl ((failed_plugin hfail).1.trans hjob)
    | succeeded n t hcall =>
        rcases succeeded_plugin hcall with ⟨hkept, -⟩ | ⟨j, hstage, rfl⟩
        · exact .inl (hkept.trans hjob)
        · rw [hstage] at hjob
          cases hjob
          refine .inr fun q hq => ?_
          rw [FileTree.node_removeAll, if_pos hq]
  · refine .inr fun q hq => ?_
    have hgone := hs.resolve_left hjob q hq
    rcases step_within hdir h with hfiles | ⟨j, hj, hwithin⟩
    · rw [hfiles, hgone]
    · have hne : j ≠ id := by
        rintro rfl
        exact hjob hj
      rw [within_apart hne hq hwithin, hgone]

/-- A job that is not cut short, and whose `RemoveAll` does not fail, leaves nothing of its
    directory, on every path of `compilePlugin` behind `GetPlugin` and whatever was there before.
    When `GetPlugin` fails there is no `RemoveAll`, and what was there before stays. -/
theorem cleaned_up {es es' : List Event} {source : Option String}
    (hdir : files.node I.workingDir = some .dir)
    (hbefore : run I.step ⟨files, .idle⟩ es = some s) (hstage : s.stage = .getPlugin id)
    (hspares : ∀ e ∈ es', e.Spares) (hafter : run I.step s (.getPlugin source :: es') = some t) :
    (source.isSome → t.stage.job ≠ some id →
      ∀ q, I.tempBuildDir id <+: q → t.files.node q = none) ∧
    (source = none → .receive id ∉ es' →
      ∀ q, I.tempBuildDir id <+: q → t.files.node q = s.files.node q) := by
  have hs : s.files.node I.workingDir = some .dir :=
    run_invariant (P := fun _ => True) (fun _ _ _ hu _ h => step_workingDir hu h)
      (fun _ _ => trivial) hdir hbefore
  obtain ⟨files₀, stage⟩ := s
  dsimp only at hstage hs
  subst hstage
  obtain ⟨u, hread, hrest⟩ := run_cons_iff.mp hafter
  cases source with
  | none =>
      cases hread
      have hidle : Stage.idle.plugin ≠ some id := by simp [Stage.plugin, Stage.job]
      exact ⟨nofun, fun _ hnot q hq => apart_run (s := ⟨files₀, .idle⟩) hs hidle hnot hrest hq⟩
  | some sourceCode =>
      cases hread
      refine ⟨fun _ hdone => ?_, nofun⟩
      have hstep : ∀ u e v, u.files.node I.workingDir = some .dir ∧ I.Cleaning id u → e.Spares →
          I.step u e = some v → v.files.node I.workingDir = some .dir ∧ I.Cleaning id v := by
        rintro u e v ⟨hu, hclean⟩ he h
        exact ⟨step_workingDir hu h, cleaning_step hu he hclean h⟩
      exact (run_invariant hstep hspares ⟨hs, .inl rfl⟩ hrest).2.resolve_left hdone

/-- After the crash the directory has a torn crate root. A job that finds its plugin removes it;
    one that does not leaves it there. -/
theorem cleaned_up_interrupted :
    ∃ s t u, run small.step ⟨smallFiles, .idle⟩ (interrupted.take 6) = some s ∧
      s.files.readFile (destLibPath (small.tempBuildDir "p")) = some [97] ∧
      run small.step s (.getPlugin (some "b") :: List.replicate 7 (.call none 0)) = some t ∧
      (∀ q, small.tempBuildDir "p" <+: q → t.files.node q = none) ∧
      run small.step s [.getPlugin none] = some u ∧
      ∀ q, small.tempBuildDir "p" <+: q → u.files.node q = s.files.node q := by
  have hreached : ∃ s t u, run small.step ⟨smallFiles, .idle⟩ (interrupted.take 6) = some s ∧
      s.stage = .getPlugin "p" ∧
      s.files.readFile (destLibPath (small.tempBuildDir "p")) = some [97] ∧
      run small.step s (.getPlugin (some "b") :: List.replicate 7 (.call none 0)) = some t ∧
      t.stage = .idle ∧ run small.step s [.getPlugin none] = some u :=
    ⟨_, _, _, rfl, rfl, rfl, rfl, rfl, rfl⟩
  obtain ⟨s, t, u, hbefore, hstage, htorn, hafter, hidle, hmissing⟩ := hreached
  have hdone : t.stage.job ≠ some "p" := by simp [hidle, Stage.job]
  have hspares : ∀ e ∈ List.replicate 7 (Event.call none 0), e.Spares := by
    intro e he
    rw [(List.mem_replicate.mp he).2]
    trivial
  exact ⟨s, t, u, hbefore, htorn, hafter,
    (cleaned_up rfl hbefore hstage hspares hafter).1 rfl hdone, hmissing,
    (cleaned_up rfl hbefore hstage (List.forall_mem_nil _) hmissing).2 rfl nofun⟩

end Installation

end PluginSandbox.Compiler
