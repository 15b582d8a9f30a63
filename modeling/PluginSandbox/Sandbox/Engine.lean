/-
  `sandbox/engine.go`: the module cache, and `Engine.Run` on top of it.

  `Compile` is one section under the write lock, `GetModule` reads, compiles on a miss and
  reads again. `wasmtime.NewModule` is a function `newModule` of the bytes.

  The cache is compared with an engine that compiles the bytes of every call (`fresh`).
  After any history the module stored for an id is that of the first bytes of the id that
  compiled (`modules_after`); later bytes never replace it. So the two engines answer a
  history alike exactly when it is `Stable`: no later call brings other bytes for an id
  that is already stored (`coherent_iff_stable`).
-/
import PluginSandbox.Lib.Runs
import PluginSandbox.Sandbox.Run
import Mathlib.Logic.Function.Basic

namespace PluginSandbox.Sandbox

open PluginSandbox.Lib

/-! ## The engine -/

structure Engine (M : Type) where
  modules : String → Option M

/-- `NewEngine`. -/
def Engine.new (M : Type) : Engine M := ⟨fun _ => none⟩

section Engine

variable {M σ : Type} (newModule : Bytes → Except Bytes M) (host : Host) (guest : M → Guest σ)

/-- The section under the write lock. -/
def Engine.compile (e : Engine M) (pluginID : String) (wasmBytes : Bytes) :
    Except Bytes Unit × Engine M :=
  match e.modules pluginID with
  | some _ => (.ok (), e)
  | none =>
    match newModule wasmBytes with
    | .error err => (.error (utf8 "failed to compile Wasm: " ++ err), e)
    | .ok module => (.ok (), ⟨Function.update e.modules pluginID (some module)⟩)

/-- The result is a pointer: `none` is nil. -/
def Engine.getModule (e : Engine M) (pluginID : String) (wasmBytes : Bytes) :
    Except Bytes (Option M) × Engine M :=
  match e.modules pluginID with
  | some mod => (.ok (some mod), e)
  | none =>
    match e.compile newModule pluginID wasmBytes with
    | (.error err, e₁) => (.error err, e₁)
    | (.ok (), e₁) => (.ok (e₁.modules pluginID), e₁)

/-- What `Run` does with the answer of `GetModule`. -/
def runLoaded (input : Bytes) :
    Except Bytes (Option M) → Except Panic (Except Bytes ExecutionResult)
  | .error err =>
    .ok (.ok {
      output := [], logs := utf8 "Compilation/Load error: " ++ err, duration := 0
      fuelConsumed := 0, memoryUsed := 0, status := .runtimeError })
  | .ok none => .error .nilDereference
  | .ok (some m) => (runModule host (guest m) input).map Prod.fst

def Engine.run (e : Engine M) (pluginID : String) (wasmBytes input : Bytes) :
    Except Panic (Except Bytes ExecutionResult) × Engine M :=
  (runLoaded host guest input (e.getModule newModule pluginID wasmBytes).1,
    (e.getModule newModule pluginID wasmBytes).2)

/-! ## Histories -/

inductive EngineCall where
  | compile (pluginID : String) (wasmBytes : Bytes)
  | getModule (pluginID : String) (wasmBytes : Bytes)
  | run (pluginID : String) (wasmBytes input : Bytes)

def EngineCall.pluginID : EngineCall → String
  | .compile id _ => id
  | .getModule id _ => id
  | .run id _ _ => id

def EngineCall.wasmBytes : EngineCall → Bytes
  | .compile _ wasm => wasm
  | .getModule _ wasm => wasm
  | .run _ wasm _ => wasm

/-- What a caller sees; for `Run` also the module it hands to the linker. -/
inductive EngineReply (M : Type) where
  | compiled (r : Except Bytes Unit)
  | module (r : Except Bytes (Option M))
  | ran (used : Except Bytes (Option M)) (result : Except Panic (Except Bytes ExecutionResult))

def Engine.call (e : Engine M) : EngineCall → EngineReply M × Engine M
  | .compile id wasm => (.compiled (e.compile newModule id wasm).1, (e.compile newModule id wasm).2)
  | .getModule id wasm =>
    (.module (e.getModule newModule id wasm).1, (e.getModule newModule id wasm).2)
  | .run id wasm input =>
    (.ran (e.getModule newModule id wasm).1 (e.run newModule host guest id wasm input).1,
      (e.run newModule host guest id wasm input).2)

/-- The answers of the cached engine along a history. -/
def Engine.replies (e : Engine M) : List EngineCall → List (EngineReply M)
  | [] => []
  | c :: cs =>
    (e.call newModule host guest c).1 :: Engine.replies (e.call newModule host guest c).2 cs

/-- The engine after a history. -/
def Engine.after (e : Engine M) (cs : List EngineCall) : Engine M :=
  cs.foldl (fun e c => (e.call newModule host guest c).2) e

/-! ## The uncached engine -/

/-- `NewModule` on the bytes of this call, with the error of `Compile`. -/
def freshModule (wasmBytes : Bytes) : Except Bytes (Option M) :=
  match newModule wasmBytes with
  | .error err => .error (utf8 "failed to compile Wasm: " ++ err)
  | .ok m => .ok (some m)

/-- The answer of an engine that compiles the bytes of every call. -/
def freshReply : EngineCall → EngineReply M
  | .compile _ wasm => .compiled ((freshModule newModule wasm).map fun _ => ())
  | .getModule _ wasm => .module (freshModule newModule wasm)
  | .run _ wasm input =>
    .ran (freshModule newModule wasm) (runLoaded host guest input (freshModule newModule wasm))

/-- The cached engine answers a history as the uncached one does. -/
def Coherent (cs : List EngineCall) : Prop :=
  (Engine.new M).replies newModule host guest cs = cs.map (freshReply newModule host guest)

/-- The module of the first bytes of an id that compile. -/
def firstModule (cs : List EngineCall) (id : String) : Option M :=
  cs.findSome? fun c => if c.pluginID = id then (newModule c.wasmBytes).toOption else none

/-- A call agrees with the module its id already has: the bytes of `GetModule` and `Run`
    compile to that very module, those of `Compile` compile at all. -/
def Keeps (stored : Option M) : EngineCall → Prop
  | .compile _ wasm => ∀ m, stored = some m → ∃ m', newModule wasm = .ok m'
  | .getModule _ wasm => ∀ m, stored = some m → newModule wasm = .ok m
  | .run _ wasm _ => ∀ m, stored = some m → newModule wasm = .ok m

/-- Every call keeps to the first module that earlier calls give its id. -/
def Stable (cs : List EngineCall) : Prop :=
  ∀ pre c post, cs = pre ++ c :: post → Keeps newModule (firstModule newModule pre c.pluginID) c

/-! ## What the cache holds -/

/-- What `Compile` and `GetModule` leave behind: the id's module if it has one, else that of
    the bytes if they compile. -/
theorem modules_compile (e : Engine M) (id : String) (wasm : Bytes) (k : String) :
    (e.compile newModule id wasm).2.modules k =
      (e.modules k).or (if id = k then (newModule wasm).toOption else none) := by
  unfold Engine.compile
  cases hm : e.modules id with
  | some m =>
      by_cases hk : id = k
      · subst hk
        rw [hm, Option.some_or]
      · rw [if_neg hk, Option.or_none]
  | none =>
      cases hn : newModule wasm with
      | error err =>
          have hnone : (if id = k then (none : Option M) else none) = none := by split <;> rfl
          simp only [Except.toOption, hnone, Option.or_none]
      | ok m =>
          by_cases hk : id = k
          · subst hk
            simp [Except.toOption, hm]
          · simp [Ne.symm hk, hk]

theorem getModule_snd (e : Engine M) (id : String) (wasm : Bytes) :
    (e.getModule newModule id wasm).2 = (e.compile newModule id wasm).2 := by
  unfold Engine.getModule
  cases hm : e.modules id with
  | some m =>
      unfold Engine.compile
      rw [hm]
  | none =>
      dsimp only
      split
      · next h => rw [h]
      · next h => rw [h]

theorem call_snd (e : Engine M) (c : EngineCall) :
    (e.call newModule host guest c).2 = (e.compile newModule c.pluginID c.wasmBytes).2 := by
  cases c with
  | compile id wasm => rfl
  | getModule id wasm => exact getModule_snd newModule e id wasm
  | run id wasm input => exact getModule_snd newModule e id wasm

/-- The module stored for an id is the first that its bytes gave. -/
theorem modules_after (cs : List EngineCall) (e : Engine M) (k : String) :
    (e.after newModule host guest cs).modules k =
      (e.modules k).or (firstModule newModule cs k) := by
  induction cs generalizing e with
  | nil => simp [Engine.after, firstModule]
  | cons c cs ih =>
      have hstep := modules_compile newModule e c.pluginID c.wasmBytes k
      have hrest := ih (e.call newModule host guest c).2
      unfold Engine.after at hrest ⊢
      rw [List.foldl_cons, hrest, call_snd, hstep, Option.or_assoc]
      congr 1
      unfold firstModule
      rw [List.findSome?_cons]
      cases hc : (if c.pluginID = k then (newModule c.wasmBytes).toOption else none) <;> simp

/-! ## One call against the uncached engine -/

theorem getModule_fst_none {e : Engine M} {id : String} (h : e.modules id = none) (wasm : Bytes) :
    (e.getModule newModule id wasm).1 = freshModule newModule wasm := by
  unfold Engine.getModule Engine.compile freshModule
  rw [h]
  dsimp only
  cases newModule wasm with
  | error err => rfl
  | ok m => simp

theorem getModule_fst_some {e : Engine M} {id : String} {m : M} (h : e.modules id = some m)
    (wasm : Bytes) : (e.getModule newModule id wasm).1 = .ok (some m) := by
  unfold Engine.getModule
  rw [h]

theorem freshModule_eq_iff {wasm : Bytes} {m : M} :
    .ok (some m) = freshModule newModule wasm ↔ newModule wasm = .ok m := by
  unfold freshModule
  cases newModule wasm with
  | error err => simp
  | ok m' => simp [eq_comm]

/-- An answer agrees with the uncached engine exactly when the call keeps to the stored
    module. -/
theorem call_fst_eq_iff (e : Engine M) (c : EngineCall) :
    (e.call newModule host guest c).1 = freshReply newModule host guest c ↔
      Keeps newModule (e.modules c.pluginID) c := by
  cases c with
  | compile id wasm =>
      simp only [Engine.call, freshReply, Keeps, EngineCall.pluginID, EngineReply.compiled.injEq]
      unfold Engine.compile freshModule
      cases e.modules id with
      | none => cases newModule wasm <;> simp [Except.map]
      | some m => cases newModule wasm <;> simp [Except.map]
  | getModule id wasm =>
      simp only [Engine.call, freshReply, Keeps, EngineCall.pluginID, EngineReply.module.injEq]
      cases hm : e.modules id with
      | none =>
          rw [getModule_fst_none newModule hm]
          simp
      | some m =>
          rw [getModule_fst_some newModule hm, freshModule_eq_iff]
          simp
  | run id wasm input =>
      simp only [Engine.call, freshReply, Keeps, EngineCall.pluginID, EngineReply.ran.injEq,
        Engine.run]
      cases hm : e.modules id with
      | none =>
          rw [getModule_fst_none newModule hm]
          simp
      | some m =>
          rw [getModule_fst_some newModule hm]
          constructor
          · rintro ⟨hused, -⟩ m' hm'
            cases hm'
            exact (freshModule_eq_iff newModule).mp hused
          · intro h
            have hused := (freshModule_eq_iff newModule).mpr (h m rfl)
            exact ⟨hused, congrArg (runLoaded host guest input) hused⟩

/-! ## Coherence -/

/-- From any engine: the answers are those of the uncached engine exactly when every call
    keeps to what the cache then holds. -/
theorem replies_eq_iff (cs : List EngineCall) (e : Engine M) :
    e.replies newModule host guest cs = cs.map (freshReply newModule host guest) ↔
      EachStep (fun e c => some (e.call newModule host guest c).2) e cs
        fun e c => Keeps newModule (e.modules c.pluginID) c := by
  induction cs generalizing e with
  | nil => exact iff_of_true rfl eachStep_nil
  | cons c cs ih =>
      rw [Engine.replies, List.map_cons, List.cons.injEq, call_fst_eq_iff, ih, eachStep_cons rfl]

/-- The cached engine is the uncached one on exactly the stable histories. -/
theorem coherent_iff_stable (cs : List EngineCall) :
    Coherent newModule host guest cs ↔ Stable newModule cs := by
  unfold Coherent Stable
  rw [replies_eq_iff, eachStep_total]
  have hstored : ∀ pre id, ((Engine.new M).after newModule host guest pre).modules id =
      firstModule newModule pre id := by
    intro pre id
    rw [modules_after]
    rfl
  unfold Engine.after at hstored
  simp only [hstored]

end Engine

/-- A host on which nothing fails. -/
def Host.quiet : Host where
  createStdout := none
  createStderr := none
  setFuel := none
  defineWasi := none
  stdoutReadable := true
  stderrReadable := true
  fuelReadable := true
  duration := 0
  floatToInt32 := fun _ => 0

/-- A plugin is run, rebuilt and run again: the second run uses the first build. -/
theorem not_coherent_after_update :
    ¬ ∀ (newModule : Bytes → Except Bytes Bytes) (host : Host) (guest : Bytes → Guest Unit)
      (cs : List EngineCall), Coherent newModule host guest cs := by
  intro h
  have hc := h .ok .quiet (fun _ => ⟨(), fun store => (.error [], store)⟩)
    [.run "p" [1] [], .run "p" [2] []]
  have hs := (replies_eq_iff Except.ok Host.quiet _ _ _).mp hc [.run "p" [1] []] (.run "p" [2] [])
    [] _ _ rfl rfl rfl [1] rfl
  cases hs

end PluginSandbox.Sandbox
