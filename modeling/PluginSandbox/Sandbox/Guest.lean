/-
  What the sandbox sees of a guest: a module is instantiated on a fresh store, exports are
  looked up by name, and calling a function may change everything the guest owns.

  The guest is untrusted, so a function is any Lean function of its arguments and the store.
  It answers with a Go value or an error, and says what the store is afterwards. `σ` stands
  for whatever a guest keeps outside its exported memory (globals, tables, other memories).
-/
import PluginSandbox.Lib.Bytes

namespace PluginSandbox.Sandbox

open PluginSandbox.Lib

/-- The Go value that `Func.Call` returns: `nil` for no result, a slice for several. -/
inductive Value where
  | nil
  | int32 (v : Int32)
  | int64 (v : Int64)
  | float32 (bits : UInt32)
  | float64 (bits : UInt64)
  | reference
  | slice (vs : List Value)

/-- A store while the guest runs in it. -/
structure Store (σ : Type) where
  guest : σ
  /-- The memory exported as `memory`, when there is one. -/
  memory : LinearMemory
  fuel : UInt64
  stdout : Bytes
  stderr : Bytes

/-- A guest function called with `i32` arguments. The error is its text. -/
abbrev GuestFunc (σ : Type) := List Int32 → Store σ → Except Bytes Value × Store σ

/-- The kind of an export. -/
inductive Extern where
  | func
  | global
  | table
  | memory
  deriving DecidableEq, Repr

/-- The exports that `Engine.Run` asks for. A function export of the wrong kind is none. -/
structure Instance (σ : Type) where
  memory : Option Extern
  allocate : Option (GuestFunc σ)
  deallocate : Option (GuestFunc σ)
  process : Option (GuestFunc σ)

/-- A module, as far as a run of it goes. -/
structure Guest (σ : Type) where
  fresh : σ
  /-- `linker.Instantiate`: imports, data segments and the start function. -/
  instantiate : Store σ → Except Bytes (Instance σ) × Store σ

/-- A Go runtime panic. -/
inductive Panic where
  | nilDereference
  | typeAssertion
  | sliceBounds
  deriving DecidableEq, Repr

end PluginSandbox.Sandbox
