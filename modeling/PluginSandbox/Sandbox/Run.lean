/-
  `Engine.Run` of `sandbox/engine.go` from the module on: one instantiation, `allocate`, the
  copy of the input, `process`, the copy of the output, `deallocate`.

  `runModule` follows the source top to bottom and is cut where the guest is called:
  `runInstance` (exports), `afterAllocate` (host write and `process`), `afterProcess`
  (unpacking and host read). A run ends in a Go panic, or in a result or an error together
  with the store at that moment. What the operating system decides is the `Host`.
-/
import PluginSandbox.Lib.Words
import PluginSandbox.Sandbox.Guest

namespace PluginSandbox.Sandbox

open PluginSandbox.Lib

/-! ## Results -/

inductive Status where
  | success
  | runtimeError
  | outOfMemory
  | outOfFuel
  deriving DecidableEq, Repr

/-- The text the code uses. -/
def Status.text : Status → String
  | .success => "success"
  | .runtimeError => "runtime_error"
  | .outOfMemory => "out_of_memory"
  | .outOfFuel => "out_of_fuel"

structure ExecutionResult where
  output : Bytes
  logs : Bytes
  /-- Nanoseconds. -/
  duration : Int64
  fuelConsumed : Int64
  memoryUsed : Int64
  status : Status
  deriving DecidableEq

/-- How a run ends. -/
abbrev Outcome (σ : Type) := Except Panic (Except Bytes ExecutionResult × Store σ)

/-- What the operating system and the platform decide in one run. An optional text is an
    error; a log file that cannot be read counts as empty. -/
structure Host where
  createStdout : Option Bytes
  createStderr : Option Bytes
  setFuel : Option Bytes
  defineWasi : Option Bytes
  stdoutReadable : Bool
  stderrReadable : Bool
  fuelReadable : Bool
  duration : Int64
  /-- `int32` of a `float64`, given by its bits; the result is the platform's choice when
      the value is out of range. -/
  floatToInt32 : UInt64 → Int32

def maxMemory : Nat := 5 * 1024 * 1024

def maxFuel : UInt64 := 10000000

/-! ## Metrics and errors -/

/-- `int64(memory.Size(store) * 64 * 1024)`. -/
def memoryBytes (m : LinearMemory) : Int64 := (UInt64.ofNat m.pages * 64 * 1024).toInt64

def readLogs {σ : Type} (host : Host) (store : Store σ) : Bytes :=
  let stdoutBytes := if host.stdoutReadable then store.stdout else []
  let stderrBytes := if host.stderrReadable then store.stderr else []
  let logs := if stdoutBytes.length > 0 then utf8 "STDOUT:\n" ++ stdoutBytes else []
  if stderrBytes.length > 0 then
    (if logs.length > 0 then logs ++ utf8 "\n" else logs) ++ utf8 "STDERR:\n" ++ stderrBytes
  else logs

def getMetrics {σ : Type} (host : Host) (memoryUsed : Int64) (store : Store σ) (status : Status)
    (output : Bytes) (execErr : Option Bytes) : ExecutionResult where
  output := output
  logs :=
    let logs := readLogs host store
    match execErr with
    | none => logs
    | some err =>
      if logs.length > 0 then logs ++ utf8 "\n\nRUNTIME ERROR: " ++ err
      else utf8 "RUNTIME ERROR: " ++ err
  duration := host.duration
  fuelConsumed := if host.fuelReadable then (maxFuel - store.fuel).toInt64 else 0
  memoryUsed := memoryUsed
  status := status

/-- The status read off the text of an error. -/
def statusOfError (errMsg : Bytes) : Status :=
  if contains errMsg (utf8 "fuel") then .outOfFuel
  else if contains errMsg (utf8 "memory") || contains errMsg (utf8 "limit") ||
      contains errMsg (utf8 "out of bounds") then .outOfMemory
  else .runtimeError

def handleExecutionError {σ : Type} (host : Host) (memoryUsed : Int64) (store : Store σ)
    (err : Bytes) : ExecutionResult :=
  let res := getMetrics host memoryUsed store (statusOfError err) [] (some err)
  let status :=
    if res.status = .runtimeError ∧ (contains res.logs (utf8 "memory allocation") ||
        contains res.logs (utf8 "alloc") || contains res.logs (utf8 "out of memory")) then
      .outOfMemory
    else res.status
  { res with status, memoryUsed }

/-! ## Values and guest memory -/

def toInt32 (host : Host) : Value → Int32
  | .int32 v => v
  | .int64 v => v.toInt32
  | .float64 bits => host.floatToInt32 bits
  | _ => 0

/-- `copy(memBytes[ptr:ptr+n], input)`. -/
def hostWrite (memory : LinearMemory) (ptr n : Int32) (input : Bytes) :
    Except Panic LinearMemory :=
  if InSlice ptr.toInt (ptr + n).toInt memory.size then
    .ok (memory.write ptr.toInt.toNat (input.take ((ptr + n).toInt - ptr.toInt).toNat))
  else .error .sliceBounds

/-- `copy(outBytes, memBytes[ptr:ptr+n])` for a fresh `outBytes` of length `n`. -/
def hostRead (memory : LinearMemory) (ptr n : UInt32) : Except Panic Bytes :=
  if InSlice ptr.toNat (ptr + n).toNat memory.size then .ok (memory.read ptr.toNat n.toNat)
  else .error .sliceBounds

/-- `memoryExtern.Memory()`: a method call, so a missing export is a nil dereference; an
    export of another kind gives nil. -/
def externMemory : Option Extern → Except Panic Bool
  | none => .error .nilDereference
  | some e => .ok (e == .memory)

/-! ## The run -/

section Run

variable {σ : Type} (host : Host)

/-- From the result of `process` on. The error of `deallocate` is only printed. -/
def afterProcess (deallocate : GuestFunc σ) (res : Value) (store : Store σ) : Outcome σ :=
  match res with
  | .int64 packedResult =>
    let outPtr := upperWord packedResult
    let outLen := lowerWord packedResult
    let memoryUsed := memoryBytes store.memory
    if outLen > 0 then
      match hostRead store.memory outPtr outLen with
      | .error p => .error p
      | .ok output =>
        let store' := (deallocate [outPtr.toInt32, outLen.toInt32] store).2
        .ok (.ok { getMetrics host memoryUsed store' .success output none with memoryUsed }, store')
    else
      .ok (.ok { getMetrics host memoryUsed store .success [] none with memoryUsed }, store)
  | _ => .error .typeAssertion

/-- From the result of `allocate` on; `memoryUsed` is from before that call. -/
def afterAllocate (deallocate process : GuestFunc σ) (memoryUsed : Int64) (input : Bytes)
    (allocResult : Value) (store : Store σ) : Outcome σ :=
  let n := Int32.ofNat input.length
  let inputPtr := toInt32 host allocResult
  if inputPtr = 0 ∧ input.length > 0 then
    .ok (.ok (getMetrics host memoryUsed store .outOfMemory []
      (some (utf8 "failed to allocate memory in Wasm guest"))), store)
  else
    match hostWrite store.memory inputPtr n input with
    | .error p => .error p
    | .ok memory =>
      let store₁ := { store with memory }
      match process [inputPtr, n] store₁ with
      | (.error err, store₂) =>
        .ok (.ok (handleExecutionError host (memoryBytes store₁.memory) store₂ err), store₂)
      | (.ok res, store₂) => afterProcess host deallocate res store₂

/-- From the instance on. -/
def runInstance (inst : Instance σ) (input : Bytes) (store : Store σ) : Outcome σ :=
  let memoryUsed := if inst.memory = some .memory then memoryBytes store.memory else 0
  match externMemory inst.memory with
  | .error p => .error p
  | .ok hasMemory =>
    match inst.allocate, inst.deallocate, inst.process, hasMemory with
    | some allocate, some deallocate, some process, true =>
      match allocate [Int32.ofNat input.length] store with
      | (.error err, store₁) =>
        .ok (.ok (handleExecutionError host memoryUsed store₁ err), store₁)
      | (.ok allocResult, store₁) =>
        afterAllocate host deallocate process memoryUsed input allocResult store₁
    | _, _, _, _ =>
      .ok (.ok (getMetrics host memoryUsed store .runtimeError []
        (some (utf8 "wasm module missing required exports (allocate, deallocate, process, or memory)"))),
        store)

/-- A fresh store with the whole fuel budget. -/
def freshStore (guest : Guest σ) : Store σ :=
  { guest := guest.fresh, memory := ⟨0, fun _ => 0⟩, fuel := maxFuel, stdout := [], stderr := [] }

/-- `Engine.Run` once the module is at hand. -/
def runModule (guest : Guest σ) (input : Bytes) : Outcome σ :=
  let store := freshStore guest
  match host.createStdout, host.createStderr, host.setFuel with
  | some err, _, _ => .ok (.error (utf8 "failed to create temp stdout file: " ++ err), store)
  | none, some err, _ => .ok (.error (utf8 "failed to create temp stderr file: " ++ err), store)
  | none, none, some err => .ok (.error (utf8 "failed to configure CPU fuel: " ++ err), store)
  | none, none, none =>
    match host.defineWasi with
    | some err =>
      .ok (.ok (getMetrics host 0 store .runtimeError []
        (some (utf8 "linker error: " ++ err))), store)
    | none =>
      match guest.instantiate store with
      | (.error err, store₁) =>
        let status :=
          if contains err (utf8 "memory") || contains err (utf8 "limit") then .outOfMemory
          else .runtimeError
        .ok (.ok (getMetrics host 0 store₁ status [] (some err)), store₁)
      | (.ok inst, store₁) => runInstance host inst input store₁

end Run

end PluginSandbox.Sandbox
