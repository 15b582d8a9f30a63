/-
  `compiler/worker.go` on a file system: the project that `compilePlugin` sets up, cargo, and the
  cleanup.

  A step is one call: `MkdirAll`, a copy, a write, cargo, a read, `RemoveAll`. A call may fail, and
  the process may stop in the middle of one; either leaves part of its work behind (`torn`), and
  what is left is still there when the next process builds the same plugin. The queue, the
  repository and the time of a crash are decided by the events.

  cargo is an external program, of which an `Installation` knows only where it writes: to its
  project and to its own home. What it builds, and from which files, is left open.
-/
import PluginSandbox.Compiler.Worker
import PluginSandbox.Lib.FileTree
import PluginSandbox.Lib.Runs

namespace PluginSandbox.Compiler

open PluginSandbox.Lib

/-! ## Paths -/

def buildDir (workingDir : Path) : Path := workingDir ++ [".build"]

/-- An id is a UUID, and so one element of a path. -/
def tempBuildDir (workingDir : Path) (id : String) : Path :=
  buildDir workingDir ++ ["temp_build_" ++ id]

def templateCargoPath (workingDir : Path) : Path :=
  workingDir ++ ["compiler", "template", "Cargo.toml"]

def toolchainDir (workingDir : Path) : Path := workingDir ++ [".toolchain"]

def cargoHome (workingDir : Path) : Path := toolchainDir workingDir ++ ["cargo"]

def rustupHome (workingDir : Path) : Path := toolchainDir workingDir ++ ["rustup"]

def goBin (workingDir : Path) : Path := toolchainDir workingDir ++ ["go", "bin"]

def mingwBin (workingDir : Path) : Path :=
  toolchainDir workingDir ++ ["w64devkit", "w64devkit", "bin"]

def srcDir (dir : Path) : Path := dir ++ ["src"]

def destCargoPath (dir : Path) : Path := dir ++ ["Cargo.toml"]

def destLibPath (dir : Path) : Path := srcDir dir ++ ["lib.rs"]

def wasmPath (dir : Path) : Path :=
  dir ++ ["target", "wasm32-wasip1", "release", "wasm_plugin.wasm"]

/-! ## The project -/

def guestBoilerplateSDK : String := "\n".intercalate [
  "",
  "use std::slice;",
  "use std::mem;",
  "",
  "#[no_mangle]",
  "pub extern \"C\" fn allocate(size: usize) -> *mut u8 \x7b",
  "    let mut buf = Vec::with_capacity(size);",
  "    let ptr = buf.as_mut_ptr();",
  "    mem::forget(buf);",
  "    ptr",
  "\x7d",
  "",
  "#[no_mangle]",
  "pub unsafe extern \"C\" fn deallocate(ptr: *mut u8, size: usize) \x7b",
  "    let _ = Vec::from_raw_parts(ptr, size, size);",
  "\x7d",
  "",
  "#[no_mangle]",
  "pub unsafe extern \"C\" fn process(ptr: *mut u8, len: usize) -> u64 \x7b",
  "    let input_slice = slice::from_raw_parts(ptr, len);",
  "    let input_str = match std::str::from_utf8(input_slice) \x7b",
  "        Ok(s) => s,",
  "        Err(_) => return 0,",
  "    \x7d;",
  "    let output_str = handler(input_str);",
  "    let out_bytes = output_str.into_bytes();",
  "    let out_ptr = out_bytes.as_ptr() as u64;",
  "    let out_len = out_bytes.len() as u64;",
  "    mem::forget(out_bytes);",
  "    (out_ptr << 32) | out_len",
  "\x7d",
  ""]

def fullCode (sourceCode : String) : String := sourceCode ++ "\n" ++ guestBoilerplateSDK

/-- `exec.Cmd`. -/
structure Command where
  path : Path
  args : List String
  dir : Path
  env : List (String × String)

/-- The last value of a duplicate key wins. -/
def Command.getenv (c : Command) (key : String) : Option String := c.env.reverse.lookup key

/-- What the worker is built on. `text` is the spelling of a path, and `n` is what decides about
    cargo besides its project: the network, the disk, the clock. -/
structure Installation where
  workingDir : Path
  environ : List (String × String)
  text : Path → String
  /-- Its combined output, whether it failed, and what it leaves. -/
  cargo : Command → (n : Nat) → FileTree → String × Bool × FileTree
  /-- cargo writes to its project and to its home. -/
  confined : ∀ (c : Command) n t, c.path = cargoHome workingDir ++ ["bin", "cargo.exe"] →
    c.getenv "CARGO_HOME" = some (text (cargoHome workingDir)) →
    c.getenv "RUSTUP_HOME" = some (text (rustupHome workingDir)) →
    FileTree.SameOutside [c.dir, toolchainDir workingDir] t (cargo c n t).2.2

namespace Installation

variable (I : Installation)

def tempBuildDir (id : String) : Path := Compiler.tempBuildDir I.workingDir id

/-- The command of `runCargoBuild`. -/
def runCargoBuild (dir : Path) : Command where
  path := cargoHome I.workingDir ++ ["bin", "cargo.exe"]
  args := ["build", "--target", "wasm32-wasip1", "--release"]
  dir := dir
  env := I.environ ++ [
    ("CARGO_HOME", I.text (cargoHome I.workingDir)),
    ("RUSTUP_HOME", I.text (rustupHome I.workingDir)),
    ("PATH", I.text (cargoHome I.workingDir) ++ "\\bin;" ++ I.text (goBin I.workingDir) ++ ";" ++
      I.text (mingwBin I.workingDir) ++ ";" ++ (I.environ.lookup "PATH").getD "")]

/-! ## One job -/

/-- The call that the worker makes next. -/
inductive Stage where
  | idle
  | getPlugin (id : String)
  | mkdirAll (id sourceCode : String)
  | copyManifest (id sourceCode : String)
  | writeLib (id sourceCode : String)
  | cargoBuild (id sourceCode : String)
  | readFile (id sourceCode : String)
  | readFileAgain (id sourceCode : String)
  | updatePluginStatus (id sourceCode : String) (build : Build)
  /-- The deferred call. -/
  | removeAll (id : String)

/-- The job whose directory the worker may have touched. -/
def Stage.job : Stage → Option String
  | .idle => none
  | .getPlugin _ => none
  | .mkdirAll id _ => some id
  | .copyManifest id _ => some id
  | .writeLib id _ => some id
  | .cargoBuild id _ => some id
  | .readFile id _ => some id
  | .readFileAgain id _ => some id
  | .updatePluginStatus id _ _ => some id
  | .removeAll id => some id

/-- What the rest of the server sees of it (`Worker`). -/
def Stage.worker : Stage → Worker
  | .idle => .idle
  | .getPlugin id => .received id
  | .mkdirAll id sourceCode => .building id sourceCode
  | .copyManifest id sourceCode => .building id sourceCode
  | .writeLib id sourceCode => .building id sourceCode
  | .cargoBuild id sourceCode => .building id sourceCode
  | .readFile id sourceCode => .building id sourceCode
  | .readFileAgain id sourceCode => .building id sourceCode
  | .updatePluginStatus id sourceCode build => .writing id sourceCode build
  | .removeAll _ => .idle

/-- A call that does not come to its end. -/
structure Failure where
  err : String
  /-- How far it came: directories made, or bytes written after the file was opened. -/
  progress : Nat
  /-- What `RemoveAll` has removed, below its directory. -/
  removed : List Path

/-- The file is not opened, or the first bytes are written. -/
def Failure.tornWrite (f : Failure) (files : FileTree) (path : Path) (data : Bytes) : FileTree :=
  if f.progress = 0 then files else (files.writeFile path (data.take (f.progress - 1))).getD files

/-- What the call of a stage leaves when it does not come to its end. -/
def torn (files : FileTree) (f : Failure) (n : Nat) : Stage → FileTree
  | .mkdirAll id _ =>
    (files.mkdirAll ((srcDir (I.tempBuildDir id)).take f.progress)).getD files
  | .copyManifest id _ =>
    match files.readFile (templateCargoPath I.workingDir) with
    | some data => f.tornWrite files (destCargoPath (I.tempBuildDir id)) data
    | none => files
  | .writeLib id sourceCode =>
    f.tornWrite files (destLibPath (I.tempBuildDir id)) (utf8 (fullCode sourceCode))
  | .cargoBuild id _ => (I.cargo (I.runCargoBuild (I.tempBuildDir id)) n files).2.2
  | .removeAll id =>
    f.removed.foldl (fun files path => files.removeAll (I.tempBuildDir id ++ path)) files
  | _ => files

/-- The files, and where the worker stands. -/
structure Site where
  files : FileTree
  stage : Stage

inductive Event where
  | receive (id : String)
  /-- The source code, if the repository finds the plugin. -/
  | getPlugin (sourceCode : Option String)
  /-- The next call, which may fail. -/
  | call (failure : Option Failure) (n : Nat)
  /-- `RemoveAll` fails; its error is dropped. -/
  | removeAllFails (failure : Failure)
  /-- The process stops in the middle of a call, and is started again. -/
  | crash (failure : Failure) (n : Nat)

/-- The next call comes to its end, when the files allow it. -/
def succeed (files : FileTree) (n : Nat) : Stage → Option Site
  | .mkdirAll id sourceCode =>
    (files.mkdirAll (srcDir (I.tempBuildDir id))).map fun files =>
      ⟨files, .copyManifest id sourceCode⟩
  | .copyManifest id sourceCode =>
    ((files.readFile (templateCargoPath I.workingDir)).bind
      (files.writeFile (destCargoPath (I.tempBuildDir id)))).map fun files =>
        ⟨files, .writeLib id sourceCode⟩
  | .writeLib id sourceCode =>
    (files.writeFile (destLibPath (I.tempBuildDir id)) (utf8 (fullCode sourceCode))).map
      fun files => ⟨files, .cargoBuild id sourceCode⟩
  | .cargoBuild id sourceCode =>
    match I.cargo (I.runCargoBuild (I.tempBuildDir id)) n files with
    | (compileOutput, true, files) =>
      some ⟨files, .updatePluginStatus id sourceCode (.buildFailed compileOutput)⟩
    | (_, false, files) => some ⟨files, .readFile id sourceCode⟩
  | .readFile id sourceCode =>
    (files.readFile (wasmPath (I.tempBuildDir id))).map fun wasmBytes =>
      ⟨files, .updatePluginStatus id sourceCode (.built wasmBytes)⟩
  | .readFileAgain id sourceCode =>
    (files.readFile (wasmPath (I.tempBuildDir id))).map fun wasmBytes =>
      ⟨files, .updatePluginStatus id sourceCode (.built wasmBytes)⟩
  | .updatePluginStatus id _ _ => some ⟨files, .removeAll id⟩
  | .removeAll id => some ⟨files.removeAll (I.tempBuildDir id), .idle⟩
  | _ => none

/-- Where a failed call leads. The error of `UpdatePluginStatus` is ignored or printed. -/
def fail (err : String) : Stage → Option Stage
  | .mkdirAll id sourceCode => some (.updatePluginStatus id sourceCode (.setupFailed err))
  | .copyManifest id sourceCode =>
    some (.updatePluginStatus id sourceCode
      (.setupFailed ("failed to copy Cargo.toml template: " ++ err)))
  | .writeLib id sourceCode =>
    some (.updatePluginStatus id sourceCode
      (.setupFailed ("failed to write src/lib.rs: " ++ err)))
  | .readFile id sourceCode => some (.readFileAgain id sourceCode)
  | .readFileAgain id sourceCode =>
    some (.updatePluginStatus id sourceCode (.unreadable err))
  | .updatePluginStatus id _ _ => some (.removeAll id)
  | _ => none

/-- One step, `none` when the event is not enabled. -/
def step (s : Site) : Event → Option Site
  | .receive id =>
    match s.stage with
    | .idle => some { s with stage := .getPlugin id }
    | _ => none
  | .getPlugin sourceCode =>
    match s.stage, sourceCode with
    | .getPlugin _, none => some { s with stage := .idle }
    | .getPlugin id, some sourceCode => some { s with stage := .mkdirAll id sourceCode }
    | _, _ => none
  | .call none n => I.succeed s.files n s.stage
  | .call (some f) n => (fail f.err s.stage).map fun stage => ⟨I.torn s.files f n s.stage, stage⟩
  | .removeAllFails f =>
    match s.stage with
    | .removeAll id => some ⟨I.torn s.files f 0 (.removeAll id), .idle⟩
    | _ => none
  | .crash f n => some ⟨I.torn s.files f n s.stage, .idle⟩

end Installation

/-! ## A small installation -/

/-- A cargo whose artifact is the manifest followed by the crate root. -/
def smallCargo (c : Command) (_n : Nat) (files : FileTree) : String × Bool × FileTree :=
  match files.readFile (destCargoPath c.dir), files.readFile (destLibPath c.dir) with
  | some manifest, some lib =>
    match (files.mkdirAll (wasmPath c.dir).dropLast).bind fun files =>
        files.writeFile (wasmPath c.dir) (manifest ++ lib) with
    | some files => ("", false, files)
    | none => ("error", true, files)
  | _, _ => ("error", true, files)

theorem smallCargo_cases (c : Command) (n : Nat) (files : FileTree) :
    smallCargo c n files = ("error", true, files) ∨
      ∃ manifest lib made files', files.readFile (destCargoPath c.dir) = some manifest ∧
        files.readFile (destLibPath c.dir) = some lib ∧
        files.mkdirAll (wasmPath c.dir).dropLast = some made ∧
        made.writeFile (wasmPath c.dir) (manifest ++ lib) = some files' ∧
        smallCargo c n files = ("", false, files') := by
  unfold smallCargo
  split
  · next manifest lib hmanifest hlib =>
      split
      · next files' hfiles =>
          obtain ⟨made, hmade, hwrite⟩ := Option.bind_eq_some_iff.mp hfiles
          exact .inr ⟨manifest, lib, made, files', hmanifest, hlib, hmade, hwrite, rfl⟩
      · exact .inl rfl
  · exact .inl rfl

theorem dropLast_wasmPath (dir : Path) :
    (wasmPath dir).dropLast = dir ++ ["target"] ++ ["wasm32-wasip1", "release"] := by
  simp [wasmPath, List.dropLast_append_of_ne_nil]

theorem smallCargo_sameOutside (c : Command) (n : Nat) (files : FileTree) :
    FileTree.SameOutside [c.dir ++ ["target"]] files (smallCargo c n files).2.2 := by
  rcases smallCargo_cases c n files with h | ⟨manifest, lib, made, files', hm, -, hmade, hwrite, h⟩
  · rw [h]
    exact FileTree.SameOutside.refl _ _
  · have hdir : files.node c.dir = some .dir := by
      refine files.inDir _ "Cargo.toml" ?_
      have hnode := FileTree.readFile_eq_some_iff.mp hm
      simp [destCargoPath] at hnode
      simp [hnode]
    rw [dropLast_wasmPath] at hmade
    have hbelow : c.dir ++ ["target"] <+: wasmPath c.dir := by
      simp [wasmPath, List.prefix_append_right_inj]
    have hfile : FileTree.SameOutside [c.dir ++ ["target"]] made files' :=
      (FileTree.sameOutside_writeFile hwrite).mono (by simpa using hbelow)
    rw [h]
    exact (FileTree.sameOutside_mkdirAll hdir (List.prefix_append _ _) hmade).trans hfile

def Installation.small : Installation where
  workingDir := []
  environ := []
  text := "/".intercalate
  cargo := smallCargo
  confined := by
    intro c n files _ _ _
    refine (smallCargo_sameOutside c n files).mono fun dir hdir => ?_
    rw [List.mem_singleton.mp hdir]
    exact ⟨c.dir, List.mem_cons_self, List.prefix_append _ _⟩

/-- The template, and nothing else. -/
def Installation.smallFiles : FileTree where
  node q :=
    if q = ["compiler", "template", "Cargo.toml"] then some (.file [1])
    else if q <+: ["compiler", "template"] then some .dir else none
  inDir := by
    intro dir name h
    have hdir : dir <+: ["compiler", "template"] := by
      by_cases hfile : dir ++ [name] = ["compiler", "template", "Cargo.toml"]
      · have hdrop := congrArg List.dropLast hfile
        rw [List.dropLast_concat] at hdrop
        rw [hdrop]
        exact List.prefix_refl _
      · by_cases hname : dir ++ [name] <+: ["compiler", "template"]
        · exact (List.prefix_append _ _).trans hname
        · simp [hfile, hname] at h
    have hne : dir ≠ ["compiler", "template", "Cargo.toml"] := by
      rintro rfl
      simpa using hdir.length_le
    rw [if_neg hne, if_pos hdir]

/-- The process stops while it writes the crate root, and the next one takes the plugin again. -/
def Installation.interrupted : List Installation.Event :=
  [.receive "p", .getPlugin (some "a"), .call none 0, .call none 0, .crash ⟨"", 2, []⟩ 0,
    .receive "p", .getPlugin (some "b")]

end PluginSandbox.Compiler
