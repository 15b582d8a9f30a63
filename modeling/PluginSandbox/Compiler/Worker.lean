/-
  `compiler/worker.go`: one build, and what the worker goroutine holds between its steps.

  `compilePlugin` reads the plugin, builds its source and writes the outcome by id. Setting up
  the project, cargo and reading the artifact back are functions of the source (`Toolchain`),
  and so is the whole build. A build ends at one of the three error returns or with bytes;
  `Build.status`, `Build.compiledWasm` and `Build.compileErrors` are the arguments that
  `UpdatePluginStatus` then gets.
-/
import PluginSandbox.Db.Repository

namespace PluginSandbox.Compiler

open PluginSandbox.Lib

/-! ## Builds -/

/-- The three stages of a build. An optional text is an error. -/
structure Toolchain where
  setupTempCargoProject : String → Option String
  /-- The combined output, and whether the command failed. -/
  runCargoBuild : String → String × Bool
  readFile : String → Except String Bytes
  /-- The second read of the same path. -/
  readFileAgain : String → Except String Bytes

/-- How a build ends. -/
inductive Build where
  | setupFailed (err : String)
  | buildFailed (compileOutput : String)
  | unreadable (err : String)
  | built (wasmBytes : Bytes)
  deriving DecidableEq, Repr

def Toolchain.build (toolchain : Toolchain) (sourceCode : String) : Build :=
  match toolchain.setupTempCargoProject sourceCode with
  | some err => .setupFailed err
  | none =>
    match toolchain.runCargoBuild sourceCode with
    | (compileOutput, true) => .buildFailed compileOutput
    | (_, false) =>
      match toolchain.readFile sourceCode with
      | .ok wasmBytes => .built wasmBytes
      | .error _ =>
        match toolchain.readFileAgain sourceCode with
        | .ok wasmBytes => .built wasmBytes
        | .error err => .unreadable err

def Build.status : Build → String
  | .built _ => "compiled"
  | _ => "failed"

def Build.compiledWasm : Build → Bytes
  | .built wasmBytes => wasmBytes
  | _ => []

def Build.compileErrors : Build → String
  | .setupFailed err => "Setup build failed: " ++ err
  | .buildFailed compileOutput => compileOutput
  | .unreadable err => "Failed to read compiled wasm file: " ++ err
  | .built _ => ""

theorem Build.status_eq (b : Build) : b.status = "compiled" ∨ b.status = "failed" := by
  cases b with
  | built wasm => exact Or.inl rfl
  | setupFailed err => exact Or.inr rfl
  | buildFailed out => exact Or.inr rfl
  | unreadable err => exact Or.inr rfl

theorem Build.status_ne_pending (b : Build) : b.status ≠ "pending" := by
  rcases b.status_eq with h | h
  · rw [h]
    decide
  · rw [h]
    decide

theorem Build.compiled_iff {b : Build} :
    b.status = "compiled" ↔ b = .built b.compiledWasm := by
  cases b with
  | built wasm => exact ⟨fun _ => rfl, fun _ => rfl⟩
  | setupFailed err => exact ⟨fun h => absurd h (by show "failed" ≠ "compiled"; decide), nofun⟩
  | buildFailed out => exact ⟨fun h => absurd h (by show "failed" ≠ "compiled"; decide), nofun⟩
  | unreadable err => exact ⟨fun h => absurd h (by show "failed" ≠ "compiled"; decide), nofun⟩

/-! ## The goroutine -/

/-- Where the worker stands: waiting for the queue, or inside `compilePlugin` before it reads
    the plugin, before it builds, or before it writes the status. -/
inductive Worker where
  | idle
  | received (id : String)
  | building (id sourceCode : String)
  | writing (id sourceCode : String) (build : Build)
  deriving DecidableEq

/-- The id that the worker is processing. -/
def Worker.current : Worker → Option String
  | .idle => none
  | .received id => some id
  | .building id _ => some id
  | .writing id _ _ => some id

/-- What moves the goroutine. Every build may use a toolchain of its own. -/
inductive WorkerEvent where
  | receive (id : String)
  | getPlugin (sourceCode : Option String)
  | build (toolchain : Toolchain)
  | updatePluginStatus
  /-- The process ends. -/
  | stop

def Worker.step : Worker → WorkerEvent → Option Worker
  | .idle, .receive id => some (.received id)
  | .received _, .getPlugin none => some .idle
  | .received id, .getPlugin (some sourceCode) => some (.building id sourceCode)
  | .building id sourceCode, .build toolchain =>
    some (.writing id sourceCode (toolchain.build sourceCode))
  | .writing _ _ _, .updatePluginStatus => some .idle
  | _, .stop => some .idle
  | _, _ => none

end PluginSandbox.Compiler
