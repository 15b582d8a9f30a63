/-
  The log files of `Engine.Run`.

  Every run creates two temporary files, hands them to its guest as stdout and stderr, reads them
  back and removes them in deferred calls, the last one first. Runs of concurrent requests share
  the directory. Here each call of a run that touches the file system is a step, in any
  interleaving with those of the other runs, and each may fail.

  What a run reads back is what its own guest has written, except for a file whose read has
  failed (`logs_own`), so that `readLogs` may take the output from the store of the guest. When
  no removal fails and the process is not stopped, finished runs leave the file system as they
  have found it (`files_restored`).
-/
import PluginSandbox.Lib.FileTree
import PluginSandbox.Lib.Runs
import PluginSandbox.Sandbox.Run

namespace PluginSandbox.Sandbox.TempFiles

open PluginSandbox.Lib

/-! ## One run -/

/-- The next call of a run, with the paths of its files. -/
inductive Stage where
  | createStdout
  | createStderr (stdout : Path)
  /-- The guest runs. So many bytes of its output are in the files. -/
  | running (stdout stderr : Path) (outWritten errWritten : Nat)
  | readStdout (stdout stderr : Path)
  | readStderr (stdout stderr : Path) (stdoutBytes : Bytes)
  | removeStderr (stdout stderr : Path) (logs : Option Bytes)
  | removeStdout (stdout : Path) (logs : Option Bytes)
  | returned (logs : Option Bytes)

/-- A run, with the output of its guest. -/
structure Run where
  stdout : Bytes
  stderr : Bytes
  stage : Stage

/-- The files a run has to remove, the last one first to go. -/
def Run.paths (r : Run) : List Path :=
  match r.stage with
  | .createStdout => []
  | .createStderr p => [p]
  | .running p q _ _ => [p, q]
  | .readStdout p q => [p, q]
  | .readStderr p q _ => [p, q]
  | .removeStderr p q _ => [p, q]
  | .removeStdout p _ => [p]
  | .returned _ => []

/-- `readLogs` on what was read from the files. -/
def joinLogs (stdoutBytes stderrBytes : Bytes) : Bytes :=
  let logs := if stdoutBytes.length > 0 then utf8 "STDOUT:\n" ++ stdoutBytes else []
  if stderrBytes.length > 0 then
    (if logs.length > 0 then logs ++ utf8 "\n" else logs) ++ utf8 "STDERR:\n" ++ stderrBytes
  else logs

inductive Call where
  /-- `os.CreateTemp` with this random part of the name. -/
  | createTemp (random : String)
  | createFails
  | writeStdout (n : Nat)
  | writeStderr (n : Nat)
  /-- The logs are read, unless an error or a panic ends the run before. -/
  | finish (reads : Bool)
  | read (fails : Bool)
  | remove (fails : Bool)

/-- Whether the reading of a file has failed, when a call is one. -/
def Call.fails : Call → List Bool
  | .read fails => [fails]
  | _ => []

def stdoutPath (tempDir : Path) (random : String) : Path :=
  tempDir ++ ["wasm-stdout-" ++ random ++ ".log"]

def stderrPath (tempDir : Path) (random : String) : Path :=
  tempDir ++ ["wasm-stderr-" ++ random ++ ".log"]

/-- The next call, `none` when the stage does not make it. -/
def Run.advance (tempDir : Path) (files : FileTree) (r : Run) : Call → Option (FileTree × Stage)
  | .createTemp random =>
    match r.stage with
    | .createStdout =>
      (files.createFile (stdoutPath tempDir random)).map fun files =>
        (files, .createStderr (stdoutPath tempDir random))
    | .createStderr p =>
      (files.createFile (stderrPath tempDir random)).map fun files =>
        (files, .running p (stderrPath tempDir random) 0 0)
    | _ => none
  | .createFails =>
    match r.stage with
    | .createStdout => some (files, .returned none)
    | .createStderr p => some (files, .removeStdout p none)
    | _ => none
  | .writeStdout n =>
    match r.stage with
    | .running p q i j =>
      (files.appendFile p ((r.stdout.drop i).take n)).map fun files =>
        (files, .running p q (i + n) j)
    | _ => none
  | .writeStderr n =>
    match r.stage with
    | .running p q i j =>
      (files.appendFile q ((r.stderr.drop j).take n)).map fun files =>
        (files, .running p q i (j + n))
    | _ => none
  | .finish true =>
    match r.stage with
    | .running p q i j =>
      if r.stdout.length ≤ i ∧ r.stderr.length ≤ j then some (files, .readStdout p q) else none
    | _ => none
  | .finish false =>
    match r.stage with
    | .running p q _ _ => some (files, .removeStderr p q none)
    | _ => none
  | .read fails =>
    match r.stage with
    | .readStdout p q =>
      if fails then some (files, .readStderr p q [])
      else (files.readFile p).map fun stdoutBytes => (files, .readStderr p q stdoutBytes)
    | .readStderr p q stdoutBytes =>
      if fails then some (files, .removeStderr p q (some (joinLogs stdoutBytes [])))
      else (files.readFile q).map fun stderrBytes =>
        (files, .removeStderr p q (some (joinLogs stdoutBytes stderrBytes)))
    | _ => none
  | .remove fails =>
    match r.stage with
    | .removeStderr p q logs =>
      if fails then some (files, .removeStdout p logs)
      else (files.remove q).map fun files => (files, .removeStdout p logs)
    | .removeStdout p logs =>
      if fails then some (files, .returned logs)
      else (files.remove p).map fun files => (files, .returned logs)
    | _ => none

/-! ## All runs -/

structure State where
  files : FileTree
  runs : Nat → Option Run

def State.start (files : FileTree) : State := ⟨files, fun _ => none⟩

inductive Event where
  | start (rid : Nat) (stdout stderr : Bytes)
  | call (rid : Nat) (c : Call)
  /-- The process stops. Files stay. -/
  | crash

def State.put (s : State) (files : FileTree) (rid : Nat) (r : Run) : State :=
  ⟨files, Function.update s.runs rid (some r)⟩

theorem runs_put (s : State) (files : FileTree) (rid : Nat) (r : Run) (i : Nat) :
    (s.put files rid r).runs i = if i = rid then some r else s.runs i :=
  Function.update_apply s.runs rid (some r) i

def step (tempDir : Path) (s : State) : Event → Option State
  | .start rid stdout stderr =>
    match s.runs rid with
    | none => some (s.put s.files rid ⟨stdout, stderr, .createStdout⟩)
    | some _ => none
  | .call rid c =>
    match s.runs rid with
    | none => none
    | some r =>
      (r.advance tempDir s.files c).map fun next => s.put next.1 rid { r with stage := next.2 }
  | .crash => some (.start s.files)

variable {tempDir : Path} {files files' : FileTree} {r r' : Run} {c : Call} {stage : Stage}
  {s t : State} {e : Event} {rid : Nat}

/-! ## What one call does -/

/-- A way through the stages that leaves the files alone. -/
inductive Goes (r : Run) (files : FileTree) : Call → Stage → Prop
  | unopened (hstage : r.stage = .createStdout) : Goes r files .createFails (.returned none)
  | unopenedAgain (p : Path) (hstage : r.stage = .createStderr p) :
      Goes r files .createFails (.removeStdout p none)
  | finished (p q : Path) (i j : Nat) (hstage : r.stage = .running p q i j)
      (hout : r.stdout.length ≤ i) (herr : r.stderr.length ≤ j) :
      Goes r files (.finish true) (.readStdout p q)
  | aborted (p q : Path) (i j : Nat) (hstage : r.stage = .running p q i j) :
      Goes r files (.finish false) (.removeStderr p q none)
  | readOut (p q : Path) (fails : Bool) (stdoutBytes : Bytes) (hstage : r.stage = .readStdout p q)
      (hread : if fails then stdoutBytes = [] else files.node p = some (.file stdoutBytes)) :
      Goes r files (.read fails) (.readStderr p q stdoutBytes)
  | readErr (p q : Path) (fails : Bool) (stdoutBytes stderrBytes : Bytes)
      (hstage : r.stage = .readStderr p q stdoutBytes)
      (hread : if fails then stderrBytes = [] else files.node q = some (.file stderrBytes)) :
      Goes r files (.read fails) (.removeStderr p q (some (joinLogs stdoutBytes stderrBytes)))
  | keptErr (p q : Path) (logs : Option Bytes) (hstage : r.stage = .removeStderr p q logs) :
      Goes r files (.remove true) (.removeStdout p logs)
  | keptOut (p : Path) (logs : Option Bytes) (hstage : r.stage = .removeStdout p logs) :
      Goes r files (.remove true) (.returned logs)

/-- What a call can do to the files and to the run. -/
inductive Advanced (r : Run) (files : FileTree) (c : Call) : FileTree → Stage → Prop
  | goes (stage : Stage) (h : Goes r files c stage) : Advanced r files c files stage
  | createdOut (p : Path) (files' : FileTree) (hstage : r.stage = .createStdout)
      (hfiles : files.createFile p = some files') (hc : c.fails = []) :
      Advanced r files c files' (.createStderr p)
  | createdErr (p q : Path) (files' : FileTree) (hstage : r.stage = .createStderr p)
      (hfiles : files.createFile q = some files') (hc : c.fails = []) :
      Advanced r files c files' (.running p q 0 0)
  | wroteOut (p q : Path) (i j n : Nat) (files' : FileTree) (hstage : r.stage = .running p q i j)
      (hfiles : files.appendFile p ((r.stdout.drop i).take n) = some files')
      (hc : c.fails = []) :
      Advanced r files c files' (.running p q (i + n) j)
  | wroteErr (p q : Path) (i j n : Nat) (files' : FileTree) (hstage : r.stage = .running p q i j)
      (hfiles : files.appendFile q ((r.stderr.drop j).take n) = some files')
      (hc : c.fails = []) :
      Advanced r files c files' (.running p q i (j + n))
  | removedErr (p q : Path) (logs : Option Bytes) (files' : FileTree)
      (hstage : r.stage = .removeStderr p q logs) (hfiles : files.remove q = some files')
      (hc : c.fails = []) :
      Advanced r files c files' (.removeStdout p logs)
  | removedOut (p : Path) (logs : Option Bytes) (files' : FileTree)
      (hstage : r.stage = .removeStdout p logs) (hfiles : files.remove p = some files')
      (hc : c.fails = []) :
      Advanced r files c files' (.returned logs)

theorem advance_advanced (h : r.advance tempDir files c = some (files', stage)) :
    Advanced r files c files' stage := by
  obtain ⟨stdout, stderr, stage₀⟩ := r
  cases c with
  | createTemp random =>
      cases stage₀ with
      | createStdout =>
          obtain ⟨_, hfiles, hpair⟩ := Option.map_eq_some_iff.mp h
          cases hpair
          exact .createdOut _ files' rfl hfiles rfl
      | createStderr p =>
          obtain ⟨_, hfiles, hpair⟩ := Option.map_eq_some_iff.mp h
          cases hpair
          exact .createdErr p _ files' rfl hfiles rfl
      | _ => cases h
  | createFails =>
      cases stage₀ with
      | createStdout =>
          cases h
          exact .goes _ (.unopened rfl)
      | createStderr p =>
          cases h
          exact .goes _ (.unopenedAgain p rfl)
      | _ => cases h
  | writeStdout n =>
      cases stage₀ with
      | running p q i j =>
          obtain ⟨_, hfiles, hpair⟩ := Option.map_eq_some_iff.mp h
          cases hpair
          exact .wroteOut p q i j n files' rfl hfiles rfl
      | _ => cases h
  | writeStderr n =>
      cases stage₀ with
      | running p q i j =>
          obtain ⟨_, hfiles, hpair⟩ := Option.map_eq_some_iff.mp h
          cases hpair
          exact .wroteErr p q i j n files' rfl hfiles rfl
      | _ => cases h
  | finish reads =>
      cases stage₀ with
      | running p q i j =>
          cases reads with
          | true =>
              unfold Run.advance at h
              dsimp only at h
              split at h
              · next hdone =>
                  cases h
                  exact .goes _ (.finished p q i j rfl hdone.1 hdone.2)
              · cases h
          | false =>
              cases h
              exact .goes _ (.aborted p q i j rfl)
      | _ => cases reads <;> cases h
  | read fails =>
      cases stage₀ with
      | readStdout p q =>
          cases fails with
          | true =>
              cases h
              exact .goes _ (.readOut p q true [] rfl rfl)
          | false =>
              obtain ⟨stdoutBytes, hread, hpair⟩ := Option.map_eq_some_iff.mp h
              cases hpair
              exact .goes _ (.readOut p q false stdoutBytes rfl
                (FileTree.readFile_eq_some_iff.mp hread))
      | readStderr p q stdoutBytes =>
          cases fails with
          | true =>
              cases h
              exact .goes _ (.readErr p q true stdoutBytes [] rfl rfl)
          | false =>
              obtain ⟨stderrBytes, hread, hpair⟩ := Option.map_eq_some_iff.mp h
              cases hpair
              exact .goes _ (.readErr p q false stdoutBytes stderrBytes rfl
                (FileTree.readFile_eq_some_iff.mp hread))
      | _ => cases h
  | remove fails =>
      cases stage₀ with
      | removeStderr p q logs =>
          cases fails with
          | true =>
              cases h
              exact .goes _ (.keptErr p q logs rfl)
          | false =>
              obtain ⟨_, hfiles, hpair⟩ := Option.map_eq_some_iff.mp h
              cases hpair
              exact .removedErr p q logs files' rfl hfiles rfl
      | removeStdout p logs =>
          cases fails with
          | true =>
              cases h
              exact .goes _ (.keptOut p logs rfl)
          | false =>
              obtain ⟨_, hfiles, hpair⟩ := Option.map_eq_some_iff.mp h
              cases hpair
              exact .removedOut p logs files' rfl hfiles rfl
      | _ => cases h

inductive Stepped (s : State) : Event → State → Prop
  | started (rid : Nat) (stdout stderr : Bytes) (hfree : s.runs rid = none) :
      Stepped s (.start rid stdout stderr) (s.put s.files rid ⟨stdout, stderr, .createStdout⟩)
  | called (rid : Nat) (c : Call) (r : Run) (files' : FileTree) (stage : Stage)
      (hr : s.runs rid = some r) (hcall : Advanced r s.files c files' stage) :
      Stepped s (.call rid c) (s.put files' rid { r with stage })
  | crashed : Stepped s .crash (.start s.files)

theorem step_stepped (h : step tempDir s e = some t) : Stepped s e t := by
  cases e with
  | start rid stdout stderr =>
      unfold step at h
      dsimp only at h
      split at h
      · next hfree =>
          cases h
          exact .started rid stdout stderr hfree
      · cases h
  | call rid c =>
      unfold step at h
      dsimp only at h
      split at h
      · cases h
      · next r hr =>
          obtain ⟨⟨files', stage⟩, hnext, rfl⟩ := Option.map_eq_some_iff.mp h
          exact .called rid c r files' stage hr (advance_advanced hnext)
  | crash =>
      cases h
      exact .crashed

/-! ## What it does to the files -/

/-- A call changes at most one file: a new one, or one of its run. -/
inductive Touched (c : Call) (files files' : FileTree) (r r' : Run) : Prop
  | nothing (hfiles : files' = files) (hpaths : r'.paths = r.paths)
  | creates (p : Path) (hnew : files.node p = none)
      (hnode : files'.node = Function.update files.node p (some (.file [])))
      (hpaths : r'.paths = r.paths ++ [p])
  | writes (p : Path) (data : Bytes) (hp : p ∈ r.paths)
      (hnode : files'.node = Function.update files.node p (some (.file data)))
      (hpaths : r'.paths = r.paths)
  | removes (p : Path) (hnode : files'.node = Function.update files.node p none)
      (hpaths : r.paths = r'.paths ++ [p])
  /-- A removal fails, and the file stays behind. -/
  | drops (p : Path) (hc : c = .remove true) (hfiles : files' = files)
      (hpaths : r.paths = r'.paths ++ [p])

theorem advanced_touched (h : Advanced r files c files' stage) :
    Touched c files files' r { r with stage } := by
  cases h with
  | goes stage h => cases h with
    | unopened hstage | unopenedAgain p hstage | finished p q i j hstage
    | aborted p q i j hstage | readOut p q fails stdoutBytes hstage
    | readErr p q fails stdoutBytes stderrBytes hstage =>
        exact .nothing rfl (by simp [Run.paths, hstage])
    | keptErr p q logs hstage => exact .drops q rfl rfl (by simp [Run.paths, hstage])
    | keptOut p logs hstage => exact .drops p rfl rfl (by simp [Run.paths, hstage])
  | createdOut p files' hstage hfiles =>
      obtain ⟨hnew, hnode⟩ := FileTree.update_createFile hfiles
      exact .creates p hnew hnode (by simp [Run.paths, hstage])
  | createdErr p q files' hstage hfiles =>
      obtain ⟨hnew, hnode⟩ := FileTree.update_createFile hfiles
      exact .creates q hnew hnode (by simp [Run.paths, hstage])
  | wroteOut p q i j n files' hstage hfiles =>
      obtain ⟨old, -, hnode⟩ := FileTree.update_appendFile hfiles
      exact .writes p _ (by simp [Run.paths, hstage]) hnode (by simp [Run.paths, hstage])
  | wroteErr p q i j n files' hstage hfiles =>
      obtain ⟨old, -, hnode⟩ := FileTree.update_appendFile hfiles
      exact .writes q _ (by simp [Run.paths, hstage]) hnode (by simp [Run.paths, hstage])
  | removedErr p q logs files' hstage hfiles =>
      exact .removes q (FileTree.update_remove hfiles) (by simp [Run.paths, hstage])
  | removedOut p logs files' hstage hfiles =>
      exact .removes p (FileTree.update_remove hfiles) (by simp [Run.paths, hstage])

/-! ## What a run knows about its files -/

/-- The files of a run hold what its guest has written so far. -/
def Run.Holds (files : FileTree) (r : Run) : Prop :=
  match r.stage with
  | .createStderr p => files.node p = some (.file [])
  | .running p q i j =>
    files.node p = some (.file (r.stdout.take i)) ∧ files.node q = some (.file (r.stderr.take j))
  | .readStdout p q =>
    files.node p = some (.file r.stdout) ∧ files.node q = some (.file r.stderr)
  | .readStderr _ q _ => files.node q = some (.file r.stderr)
  | _ => True

/-- It does so as long as its own files stay as they are. -/
theorem holds_congr (hsame : ∀ p ∈ r.paths, files'.node p = files.node p) (h : r.Holds files) :
    r.Holds files' := by
  obtain ⟨stdout, stderr, stage⟩ := r
  cases stage <;> simp_all [Run.Holds, Run.paths]

theorem advanced_holds (hr : r.Holds files) (hnodup : r.paths.Nodup)
    (h : Advanced r files c files' stage) : Run.Holds files' { r with stage } := by
  obtain ⟨stdout, stderr, stage₀⟩ := r
  cases h with
  | goes stage h => cases h with
    | unopened hstage | unopenedAgain p hstage | aborted p q i j hstage => trivial
    | finished p q i j hstage hout herr =>
        cases hstage
        have hout' : stdout.take i = stdout := List.take_of_length_le hout
        have herr' : stderr.take j = stderr := List.take_of_length_le herr
        simpa [Run.Holds, hout', herr'] using hr
    | readOut p q fails stdoutBytes hstage hread =>
        cases hstage
        exact hr.2
    | readErr | keptErr | keptOut => trivial
  | createdOut p files' hstage hfiles =>
      obtain ⟨-, hnode⟩ := FileTree.update_createFile hfiles
      simp [Run.Holds, hnode]
  | createdErr p q files' hstage hfiles =>
      cases hstage
      obtain ⟨hnew, hnode⟩ := FileTree.update_createFile hfiles
      have hne : p ≠ q := by
        rintro rfl
        simp [Run.Holds, hnew] at hr
      have hr' : files.node p = some (.file []) := hr
      simp [Run.Holds, hnode, hne, hr']
  | wroteOut p q i j n files' hstage hfiles =>
      cases hstage
      obtain ⟨old, hold, hnode⟩ := FileTree.update_appendFile hfiles
      have hne : q ≠ p := by
        rintro rfl
        simp [Run.paths] at hnodup
      cases hr.1.symm.trans hold
      simp [Run.Holds, hnode, hne, hr.2, List.take_add]
  | wroteErr p q i j n files' hstage hfiles =>
      cases hstage
      obtain ⟨old, hold, hnode⟩ := FileTree.update_appendFile hfiles
      have hne : p ≠ q := by
        rintro rfl
        simp [Run.paths] at hnodup
      cases hr.2.symm.trans hold
      simp [Run.Holds, hnode, hne, hr.1, List.take_add]
  | removedErr | removedOut => trivial

/-! ## Runs side by side -/

/-- No two runs have a file in common, none has one that was there before, and each knows what is
    in its own. -/
structure Apart (before : FileTree) (s : State) : Prop where
  holds : ∀ i r, s.runs i = some r → r.Holds s.files
  nodup : ∀ i r, s.runs i = some r → r.paths.Nodup
  there : ∀ i r, s.runs i = some r → ∀ p ∈ r.paths, s.files.node p ≠ none
  fresh : ∀ i r, s.runs i = some r → ∀ p ∈ r.paths, before.node p = none
  apart : ∀ i j r r', i ≠ j → s.runs i = some r → s.runs j = some r' → ∀ p ∈ r.paths, p ∉ r'.paths
  kept : ∀ p, before.node p ≠ none → s.files.node p = before.node p

theorem apart_start (files : FileTree) : Apart files (.start files) :=
  ⟨nofun, nofun, nofun, nofun, nofun, fun _ _ => rfl⟩

/-- A run moves to `r'`: its new files were not there, and it changes no files but its own. -/
theorem apart_put {before : FileTree} (h : Apart before s) (hholds : r'.Holds files')
    (hnodup : r'.paths.Nodup) (hthere : ∀ p ∈ r'.paths, files'.node p ≠ none)
    (hpaths : ∀ p ∈ r'.paths, (∃ r, s.runs rid = some r ∧ p ∈ r.paths) ∨ s.files.node p = none)
    (hsame : ∀ q, (∀ r, s.runs rid = some r → q ∉ r.paths) → q ∉ r'.paths →
      files'.node q = s.files.node q) : Apart before (s.put files' rid r') := by
  have hget : ∀ i u, (s.put files' rid r').runs i = some u →
      (i = rid ∧ u = r') ∨ (i ≠ rid ∧ s.runs i = some u) := by
    intro i u hu
    rw [runs_put] at hu
    split at hu
    · next hi => exact .inl ⟨hi, (Option.some.inj hu).symm⟩
    · next hi => exact .inr ⟨hi, hu⟩
  have hother : ∀ i u, i ≠ rid → s.runs i = some u → ∀ p ∈ u.paths, p ∉ r'.paths := by
    intro i u hi hu p hp hp'
    rcases hpaths p hp' with ⟨r, hr, hold⟩ | hnew
    · exact h.apart i rid u r hi hu hr p hp hold
    · exact h.there i u hu p hp hnew
  have hkeep : ∀ i u, i ≠ rid → s.runs i = some u → ∀ p ∈ u.paths,
      files'.node p = s.files.node p := by
    intro i u hi hu p hp
    exact hsame p (fun r hr => h.apart i rid u r hi hu hr p hp) (hother i u hi hu p hp)
  have hnew : ∀ p ∈ r'.paths, before.node p = none := by
    intro p hp
    rcases hpaths p hp with ⟨r, hr, hold⟩ | hnone
    · exact h.fresh rid r hr p hold
    · by_contra hbefore
      exact hbefore ((h.kept p hbefore).symm.trans hnone)
  refine ⟨fun i u hu => ?_, fun i u hu => ?_, fun i u hu => ?_, fun i u hu => ?_, ?_, ?_⟩
  · rcases hget i u hu with ⟨-, rfl⟩ | ⟨hi, hu⟩
    · exact hholds
    · exact holds_congr (hkeep i u hi hu) (h.holds i u hu)
  · rcases hget i u hu with ⟨-, rfl⟩ | ⟨-, hu⟩
    · exact hnodup
    · exact h.nodup i u hu
  · rcases hget i u hu with ⟨-, rfl⟩ | ⟨hi, hu⟩
    · exact hthere
    · intro p hp hnone
      exact h.there i u hu p hp ((hkeep i u hi hu p hp).symm.trans hnone)
  · rcases hget i u hu with ⟨-, rfl⟩ | ⟨-, hu⟩
    · exact hnew
    · exact h.fresh i u hu
  · intro i j u v hij hu hv p hp hq
    rcases hget i u hu with ⟨hi, rfl⟩ | ⟨hi, hu'⟩
    · rcases hget j v hv with ⟨hj, -⟩ | ⟨hj, hv'⟩
      · exact hij (hi.trans hj.symm)
      · exact hother j v hj hv' p hq hp
    · rcases hget j v hv with ⟨hj, rfl⟩ | ⟨hj, hv'⟩
      · exact hother i u hi hu' p hp hq
      · exact h.apart i j u v hij hu' hv' p hp hq
  · intro p hp
    have hown : ∀ r, s.runs rid = some r → p ∉ r.paths :=
      fun r hr hold => hp (h.fresh rid r hr p hold)
    exact (hsame p hown fun hq => hp (hnew p hq)).trans (h.kept p hp)

theorem touched_same (h : Touched c files files' r r') {q : Path} (hq : q ∉ r.paths)
    (hq' : q ∉ r'.paths) : files'.node q = files.node q := by
  cases h with
  | nothing hfiles hpaths | drops p hc hfiles hpaths => rw [hfiles]
  | creates p hnew hnode hpaths =>
      have hne : q ≠ p := by
        rintro rfl
        simp [hpaths] at hq'
      simp [hnode, hne]
  | writes p data hp hnode hpaths =>
      have hne : q ≠ p := by
        rintro rfl
        exact hq hp
      simp [hnode, hne]
  | removes p hnode hpaths =>
      have hne : q ≠ p := by
        rintro rfl
        simp [hpaths] at hq
      simp [hnode, hne]

/-- The files of the run after the call are there. -/
theorem touched_paths (h : Touched c files files' r r') (hnodup : r.paths.Nodup)
    (hthere : ∀ p ∈ r.paths, files.node p ≠ none) :
    r'.paths.Nodup ∧ (∀ p ∈ r'.paths, files'.node p ≠ none) ∧
      ∀ p ∈ r'.paths, p ∈ r.paths ∨ files.node p = none := by
  cases h with
  | nothing hfiles hpaths =>
      rw [hpaths, hfiles]
      exact ⟨hnodup, hthere, fun p hp => .inl hp⟩
  | creates p hnew hnode hpaths =>
      have hp : p ∉ r.paths := fun hp => hthere p hp hnew
      rw [hpaths, hnode]
      refine ⟨?_, fun q hq => ?_, fun q hq => ?_⟩
      · rw [List.nodup_append]
        simpa [hnodup] using fun q hq (h : q = p) => hp (h ▸ hq)
      · rw [Function.update_apply]
        split
        · simp
        · next hne => exact hthere q (by simpa [hne] using hq)
      · rcases List.mem_append.mp hq with hq | hq
        · exact .inl hq
        · rw [List.mem_singleton.mp hq]
          exact .inr hnew
  | writes p data hp hnode hpaths =>
      rw [hpaths, hnode]
      refine ⟨hnodup, fun q hq => ?_, fun q hq => .inl hq⟩
      rw [Function.update_apply]
      split
      · simp
      · exact hthere q hq
  | removes p hnode hpaths =>
      rw [hpaths] at hnodup hthere
      have hp : p ∉ r'.paths := fun hp => (List.nodup_append.mp hnodup).2.2 p hp p (by simp) rfl
      rw [hnode]
      refine ⟨(List.nodup_append.mp hnodup).1, fun q hq => ?_,
        fun q hq => .inl (by simp [hpaths, hq])⟩
      have hne : q ≠ p := by
        rintro rfl
        exact hp hq
      simpa [hne] using hthere q (List.mem_append_left _ hq)
  | drops p hc hfiles hpaths =>
      rw [hpaths] at hnodup hthere
      rw [hfiles]
      exact ⟨(List.nodup_append.mp hnodup).1, fun q hq => hthere q (List.mem_append_left _ hq),
        fun q hq => .inl (by simp [hpaths, hq])⟩

theorem apart_step {before : FileTree} (h : Apart before s) (hstep : step tempDir s e = some t) :
    Apart before t := by
  cases step_stepped hstep with
  | started rid stdout stderr hfree =>
      exact apart_put h trivial List.nodup_nil nofun nofun fun _ _ _ => rfl
  | called rid c r files' stage hr hcall =>
      have htouched := advanced_touched hcall
      obtain ⟨hnodup, hthere, hpaths⟩ :=
        touched_paths htouched (h.nodup rid r hr) (h.there rid r hr)
      have hholds := advanced_holds (h.holds rid r hr) (h.nodup rid r hr) hcall
      refine apart_put h hholds hnodup hthere (fun p hp => ?_) fun q hq hq' => ?_
      · exact (hpaths p hp).imp_left fun hold => ⟨r, hr, hold⟩
      · exact touched_same htouched (hq r hr) hq'
  | crashed => exact ⟨nofun, nofun, nofun, nofun, nofun, h.kept⟩

theorem apart_run {es : List Event} (hrun : run (step tempDir) (.start files) es = some t) :
    Apart files t :=
  run_invariant (P := fun _ => True) (fun _ _ _ hs _ h => apart_step hs h) (fun _ _ => trivial)
    (apart_start files) hrun

/-! ## Logs -/

/-- A run keeps to the output its guest was given at its start. -/
theorem started_step {es : List Event}
    (hs : ∀ i r, s.runs i = some r → .start i r.stdout r.stderr ∈ es) (he : e ∈ es)
    (h : step tempDir s e = some t) :
    ∀ i r, t.runs i = some r → .start i r.stdout r.stderr ∈ es := by
  intro i u hu
  cases step_stepped h with
  | started rid stdout stderr hfree =>
      rw [runs_put] at hu
      split at hu
      · next hi =>
          cases hu
          rw [hi]
          exact he
      · exact hs i u hu
  | called rid c r files' stage hr hcall =>
      rw [runs_put] at hu
      split at hu
      · next hi =>
          cases hu
          rw [hi]
          exact hs rid r hr
      · exact hs i u hu
  | crashed => cases hu

theorem started_run {es : List Event} (hrun : run (step tempDir) (.start files) es = some t)
    (hr : t.runs rid = some r) : .start rid r.stdout r.stderr ∈ es := by
  have hstarted : ∀ i u, t.runs i = some u → .start i u.stdout u.stderr ∈ es :=
    run_invariant (P := fun e => e ∈ es) (fun _ _ _ hs he h => started_step hs he h)
      (fun _ he => he) (fun _ _ hu => by cases hu) hrun
  exact hstarted rid r hr

/-- What the events say about the run `rid` that was started last: the output of its guest, and
    which of its reads have failed. -/
structure Record where
  stdout : Bytes
  stderr : Bytes
  fails : List Bool

def Record.note (rid : Nat) (record : Option Record) : Event → Option Record
  | .start i stdout stderr => if i = rid then some ⟨stdout, stderr, []⟩ else record
  | .call i c =>
    if i = rid then record.map fun r => { r with fails := r.fails ++ c.fails } else record
  | .crash => none

def record (rid : Nat) (es : List Event) : Option Record := es.foldl (Record.note rid) none

theorem record_append (rid : Nat) (es : List Event) (e : Event) :
    record rid (es ++ [e]) = Record.note rid (record rid es) e := by
  unfold record
  rw [List.foldl_append]
  rfl

/-- The bytes of a file as they were read. -/
def readBack (fails : Bool) (own : Bytes) : Bytes := if fails then [] else own

/-- Logs made of what the guest has written, less what could not be read. -/
def Run.Reads (r : Run) (fails : List Bool) (logs : Bytes) : Prop :=
  ∃ outFails errFails, fails = [outFails, errFails] ∧
    logs = joinLogs (readBack outFails r.stdout) (readBack errFails r.stderr)

/-- What a run has read, as far as it has come. -/
def Run.Told (fails : List Bool) (r : Run) : Prop :=
  match r.stage with
  | .createStdout => fails = []
  | .createStderr _ => fails = []
  | .running _ _ _ _ => fails = []
  | .readStdout _ _ => fails = []
  | .readStderr _ _ stdoutBytes =>
    ∃ outFails, fails = [outFails] ∧ stdoutBytes = readBack outFails r.stdout
  | .removeStderr _ _ logs => ∀ l, logs = some l → r.Reads fails l
  | .removeStdout _ logs => ∀ l, logs = some l → r.Reads fails l
  | .returned logs => ∀ l, logs = some l → r.Reads fails l

theorem readBack_of_read {p : Path} {fails : Bool} {bytes own : Bytes}
    (hread : if fails then bytes = [] else files.node p = some (.file bytes))
    (hown : files.node p = some (.file own)) : bytes = readBack fails own := by
  cases fails with
  | true => exact hread
  | false =>
      cases hown.symm.trans hread
      rfl

theorem advanced_told {fails : List Bool} (hr : r.Holds files) (htold : r.Told fails)
    (h : Advanced r files c files' stage) : Run.Told (fails ++ c.fails) { r with stage } := by
  obtain ⟨stdout, stderr, stage₀⟩ := r
  cases h with
  | goes stage h => cases h with
    | unopened hstage | unopenedAgain p hstage | aborted p q i j hstage => exact nofun
    | finished p q i j hstage =>
        cases hstage
        exact (List.append_nil fails).trans htold
    | readOut p q failed stdoutBytes hstage hread =>
        cases hstage
        have hnone : fails = [] := htold
        subst hnone
        exact ⟨failed, rfl, readBack_of_read hread hr.1⟩
    | readErr p q failed stdoutBytes stderrBytes hstage hread =>
        cases hstage
        obtain ⟨outFails, rfl, hout⟩ := htold
        rintro l ⟨⟩
        exact ⟨outFails, failed, rfl, by rw [hout, readBack_of_read hread hr]⟩
    | keptErr p q logs hstage | keptOut p logs hstage =>
        cases hstage
        have hnone : fails ++ (Call.remove true).fails = fails := List.append_nil fails
        rw [hnone]
        exact htold
  | createdOut p files' hstage hfiles hc | createdErr p q files' hstage hfiles hc
  | wroteOut p q i j n files' hstage hfiles hc | wroteErr p q i j n files' hstage hfiles hc
  | removedErr p q logs files' hstage hfiles hc | removedOut p logs files' hstage hfiles hc =>
      cases hstage
      rw [hc, List.append_nil]
      exact htold

/-- Every run is the one that was started last under its number, and has read what the events
    say. -/
theorem told_run {es : List Event} (hrun : run (step tempDir) (.start files) es = some t)
    (hr : t.runs rid = some r) :
    ∃ fails, record rid es = some ⟨r.stdout, r.stderr, fails⟩ ∧ r.Told fails := by
  induction es using List.reverseRecOn generalizing t rid r with
  | nil =>
      cases hrun
      cases hr
  | append_singleton es e ih =>
      obtain ⟨s, hs, hlast⟩ := run_append_iff.mp hrun
      obtain ⟨t', hstep, hend⟩ := run_cons_iff.mp hlast
      cases hend
      rw [record_append]
      cases step_stepped hstep with
      | started i stdout stderr hfree =>
          rw [runs_put] at hr
          split at hr
          · next hi =>
              cases hr
              exact ⟨[], if_pos hi.symm, rfl⟩
          · next hi =>
              obtain ⟨fails, hrecord, htold⟩ := ih hs hr
              exact ⟨fails, (if_neg (Ne.symm hi)).trans hrecord, htold⟩
      | called i c r₀ files' stage hr₀ hcall =>
          rw [runs_put] at hr
          split at hr
          · next hi =>
              cases hr
              subst hi
              obtain ⟨fails, hrecord, htold⟩ := ih hs hr₀
              have hholds := (apart_run hs).holds rid r₀ hr₀
              refine ⟨fails ++ c.fails, (if_pos rfl).trans ?_, advanced_told hholds htold hcall⟩
              rw [hrecord]
              rfl
          · next hi =>
              obtain ⟨fails, hrecord, htold⟩ := ih hs hr
              exact ⟨fails, (if_neg (Ne.symm hi)).trans hrecord, htold⟩
      | crashed => cases hr

/-- `readLogs` on the files is `readLogs` on the store of the guest. -/
theorem joinLogs_readBack {σ : Type} (host : Host) (store : Store σ) (outFails errFails : Bool) :
    joinLogs (readBack outFails store.stdout) (readBack errFails store.stderr) =
      readLogs { host with stdoutReadable := !outFails, stderrReadable := !errFails } store := by
  cases outFails <;> cases errFails <;> rfl

/-- Whatever the other guests write and whatever fails: the logs of a run are the output of its
    own guest, in full unless the reading of a file has failed, and then without that file. -/
theorem logs_own {σ : Type} {es : List Event} {logs : Bytes}
    (hrun : run (step tempDir) (.start files) es = some t) (hr : t.runs rid = some r)
    (hreturned : r.stage = .returned (some logs)) :
    ∃ stdout stderr outFails errFails,
      record rid es = some ⟨stdout, stderr, [outFails, errFails]⟩ ∧
      ∀ (host : Host) (store : Store σ), store.stdout = stdout → store.stderr = stderr →
        logs = readLogs
          { host with stdoutReadable := !outFails, stderrReadable := !errFails } store := by
  obtain ⟨fails, hrecord, htold⟩ := told_run hrun hr
  unfold Run.Told at htold
  rw [hreturned] at htold
  obtain ⟨outFails, errFails, rfl, rfl⟩ := htold logs rfl
  refine ⟨r.stdout, r.stderr, outFails, errFails, hrecord, fun host store hout herr => ?_⟩
  rw [← hout, ← herr]
  exact joinLogs_readBack host store outFails errFails

/-- Two runs, whose guests both write while the other does. -/
def interleaved : List Event := [
  .start 0 [1, 2] [], .call 0 (.createTemp "a"), .start 1 [3] [4], .call 0 (.createTemp "b"),
  .call 1 (.createTemp "c"), .call 0 (.writeStdout 1), .call 1 (.createTemp "d"),
  .call 1 (.writeStderr 1), .call 0 (.writeStdout 1), .call 1 (.writeStdout 1),
  .call 1 (.finish true), .call 0 (.finish true), .call 0 (.read false), .call 1 (.read false),
  .call 1 (.read true), .call 0 (.read false), .call 0 (.remove false), .call 0 (.remove false),
  .call 1 (.remove false), .call 1 (.remove false)]

/-- The reading of the second run's stderr fails. -/
theorem logs_own_interleaved :
    ∃ t r logs, run (step ["tmp"]) (.start (.only ["tmp"])) interleaved = some t ∧
      t.runs 1 = some r ∧ r.stage = .returned (some logs) ∧
      record 1 interleaved = some ⟨[3], [4], [false, true]⟩ ∧
      ∃ stdout stderr outFails errFails,
        record 1 interleaved = some ⟨stdout, stderr, [outFails, errFails]⟩ ∧
        ∀ (host : Host) (store : Store Unit), store.stdout = stdout → store.stderr = stderr →
          logs = readLogs
            { host with stdoutReadable := !outFails, stderrReadable := !errFails } store := by
  have hreached : ∃ t r logs, run (step ["tmp"]) (.start (.only ["tmp"])) interleaved = some t ∧
      t.runs 1 = some r ∧ r.stage = .returned (some logs) := ⟨_, _, _, rfl, rfl, rfl⟩
  obtain ⟨t, r, logs, hrun, hr, hreturned⟩ := hreached
  exact ⟨t, r, logs, hrun, hr, hreturned, rfl, logs_own hrun hr hreturned⟩

/-! ## Nothing is left -/

/-- The process goes on, and no removal fails. -/
def Event.Spares : Event → Prop
  | .call _ (.remove true) => False
  | .crash => False
  | _ => True

/-- Whatever is there was there before, or some run has yet to remove it. -/
def Clean (before : FileTree) (s : State) : Prop :=
  ∀ q, s.files.node q ≠ none → before.node q = none → ∃ i r, s.runs i = some r ∧ q ∈ r.paths

theorem touched_clean (h : Touched c files files' r r') (hc : c ≠ .remove true) {q : Path}
    (hq : files'.node q ≠ none) :
    q ∈ r'.paths ∨ (files.node q ≠ none ∧ (q ∈ r.paths → q ∈ r'.paths)) := by
  cases h with
  | nothing hfiles hpaths =>
      rw [hfiles] at hq
      exact .inr ⟨hq, fun h => hpaths ▸ h⟩
  | creates p hnew hnode hpaths =>
      by_cases hp : q = p
      · exact .inl (by simp [hpaths, hp])
      · exact .inr ⟨by simpa [hnode, hp] using hq, fun h => by simp [hpaths, h]⟩
  | writes p data hp hnode hpaths =>
      by_cases hqp : q = p
      · exact .inl (by simp [hpaths, hqp, hp])
      · exact .inr ⟨by simpa [hnode, hqp] using hq, fun h => hpaths ▸ h⟩
  | removes p hnode hpaths =>
      by_cases hqp : q = p
      · simp [hnode, hqp] at hq
      · exact .inr ⟨by simpa [hnode, hqp] using hq, fun h => by simpa [hpaths, hqp] using h⟩
  | drops p hremove => exact absurd hremove hc

theorem clean_step {before : FileTree} (hs : Clean before s) (he : e.Spares)
    (h : step tempDir s e = some t) : Clean before t := by
  intro q hq hbefore
  cases step_stepped h with
  | started rid stdout stderr hfree =>
      obtain ⟨i, u, hu, hmem⟩ := hs q hq hbefore
      have hi : i ≠ rid := by
        rintro rfl
        rw [hfree] at hu
        cases hu
      exact ⟨i, u, by rw [runs_put, if_neg hi, hu], hmem⟩
  | called rid c r files' stage hr hcall =>
      have hc : c ≠ .remove true := by
        rintro rfl
        exact he
      have hself : q ∈ Run.paths { r with stage } → ∃ i u,
          (s.put files' rid { r with stage }).runs i = some u ∧ q ∈ u.paths :=
        fun hmem => ⟨rid, _, by rw [runs_put, if_pos rfl], hmem⟩
      rcases touched_clean (advanced_touched hcall) hc hq with hmem | ⟨hold, hkept⟩
      · exact hself hmem
      · obtain ⟨i, u, hu, hmem⟩ := hs q hold hbefore
        by_cases hi : i = rid
        · subst hi
          cases hu.symm.trans hr
          exact hself (hkept hmem)
        · exact ⟨i, u, by rw [runs_put, if_neg hi, hu], hmem⟩
  | crashed => cases he

/-- Once all runs have returned, the files are those from before. -/
theorem files_restored {es : List Event} (hrun : run (step tempDir) (.start files) es = some t)
    (hspares : ∀ e ∈ es, e.Spares)
    (hdone : ∀ i r, t.runs i = some r → ∃ logs, r.stage = .returned logs) : t.files = files := by
  have hstart : Clean files (.start files) := fun q hq hnone => absurd hnone hq
  have hclean : Clean files t :=
    run_invariant (fun _ _ _ hs he h => clean_step hs he h) hspares hstart hrun
  have hkept := (apart_run hrun).kept
  refine FileTree.ext (funext fun q => ?_)
  by_cases hq : files.node q = none
  · rw [hq]
    by_contra hnode
    obtain ⟨i, r, hr, hmem⟩ := hclean q hnode hq
    obtain ⟨logs, hlogs⟩ := hdone i r hr
    simp [Run.paths, hlogs] at hmem
  · exact hkept q hq

theorem files_restored_interleaved :
    ∃ t, run (step ["tmp"]) (.start (.only ["tmp"])) interleaved = some t ∧
      t.files = .only ["tmp"] := by
  have hreached : ∃ t r r' l l', run (step ["tmp"]) (.start (.only ["tmp"])) interleaved = some t ∧
      t.runs 0 = some r ∧ r.stage = .returned l ∧ t.runs 1 = some r' ∧ r'.stage = .returned l' :=
    ⟨_, _, _, _, _, rfl, rfl, rfl, rfl, rfl⟩
  obtain ⟨t, r, r', l, l', hrun, hr, hreturned, hr', hreturned'⟩ := hreached
  have hspares : ∀ e ∈ interleaved, e.Spares := by simp [interleaved, Event.Spares]
  have hdone : ∀ i u, t.runs i = some u → ∃ logs, u.stage = .returned logs := by
    intro i u hu
    have hmem := started_run hrun hu
    simp only [interleaved, List.mem_cons, Event.start.injEq, reduceCtorEq, List.not_mem_nil,
      false_or, or_false] at hmem
    rcases hmem with ⟨rfl, -⟩ | ⟨rfl, -⟩
    · cases hu.symm.trans hr
      exact ⟨l, hreturned⟩
    · cases hu.symm.trans hr'
      exact ⟨l', hreturned'⟩
  exact ⟨t, hrun, files_restored hrun hspares hdone⟩

end PluginSandbox.Sandbox.TempFiles
