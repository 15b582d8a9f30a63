/-
  The guest side of the marshalling protocol: `guestBoilerplateSDK` of `compiler/worker.go`,
  the same text as `compiler/template/src/lib.rs`.

  The three exported functions are fixed by the SDK. What a plugin adds is its `Runtime`: the
  global allocator behind `Vec` and the compiled handler. Pointers and `usize` are 32 bits
  wide, and the host passes them as `i32`.

  Besides the runtime's own state the guest keeps two ghost logs that no code reads: the
  arguments the handler was called with, and the blocks that crossed the boundary, given away
  or taken back. A handler may take a block back as well: `deallocate` is `pub`, and the
  handler's own code may rebuild a `Vec` or a `String` from raw parts. What each
  function does to the runtime's state and to the logs is said once (`allocate_ok`,
  `deallocate_cases`, `process_ok`, `sdk_instantiate`).
-/
import PluginSandbox.Sandbox.Run

namespace PluginSandbox.Sandbox

open PluginSandbox.Lib

/-! ## The plugin's own part -/

/-- The raw parts of a `Vec<u8>`. -/
structure Buffer where
  ptr : UInt32
  len : UInt32
  capacity : UInt32

/-- What the SDK text calls into. An error is the text of a trap. -/
structure Runtime (σ : Type) where
  initial : σ
  /-- Instantiation: data segments, start function. -/
  start : Store σ → Except Bytes Unit × Store σ
  /-- `Vec::with_capacity(size)`, then `as_mut_ptr`. -/
  alloc : UInt32 → Store σ → Except Bytes UInt32 × Store σ
  /-- Dropping `Vec::from_raw_parts(ptr, size, size)`. -/
  release : UInt32 → UInt32 → Store σ → Except Bytes Unit × Store σ
  /-- `handler(input_str).into_bytes()`. -/
  handle : String → Store σ → Except Bytes Buffer × Store σ
  /-- The blocks that the handler takes back itself on its way, with the sizes it takes them
      for: those given away before its call. -/
  takesBack : String → Store σ → List (UInt32 × UInt32) := fun _ _ => []

inductive BoundaryEvent where
  /-- The guest gave up a block with `mem::forget`: its pointer, length and capacity. -/
  | forgotten (block : Buffer)
  | released (ptr size : UInt32)

structure SdkState (σ : Type) where
  runtime : σ
  handled : List String
  boundary : List BoundaryEvent

section Sdk

variable {σ α : Type}

/-- Lets the runtime act on the store; the logs stay. -/
def lift (f : Store σ → α × Store σ) (store : Store (SdkState σ)) : α × Store (SdkState σ) :=
  let r := f { store with guest := store.guest.runtime }
  (r.1, { r.2 with guest := { store.guest with runtime := r.2.guest } })

def Store.logHandled (store : Store (SdkState σ)) (input : String) : Store (SdkState σ) :=
  { store with guest := { store.guest with handled := store.guest.handled ++ [input] } }

def Store.logBoundary (store : Store (SdkState σ)) (es : List BoundaryEvent) :
    Store (SdkState σ) :=
  { store with guest := { store.guest with boundary := store.guest.boundary ++ es } }

/-- The store as the runtime sees it. -/
def Store.runtimeView (store : Store (SdkState σ)) : Store σ :=
  { store with guest := store.guest.runtime }

/-! ## The exported functions -/

variable (rt : Runtime σ)

def Runtime.allocate : GuestFunc (SdkState σ)
  | [size], store =>
    match lift (rt.alloc size.toUInt32) store with
    | (.error trap, store₁) => (.error trap, store₁)
    | (.ok ptr, store₁) =>
      (.ok (.int32 ptr.toInt32), store₁.logBoundary [.forgotten ⟨ptr, 0, size.toUInt32⟩])
  | _, store => (.error [], store)

def Runtime.deallocate : GuestFunc (SdkState σ)
  | [ptr, size], store =>
    match lift (rt.release ptr.toUInt32 size.toUInt32) store with
    | (.error trap, store₁) => (.error trap, store₁)
    | (.ok (), store₁) => (.ok .nil, store₁.logBoundary [.released ptr.toUInt32 size.toUInt32])
  | _, store => (.error [], store)

/-- What a call of the handler adds to the log, up to the `mem::forget` of its buffer. -/
def Runtime.handlerEvents (inputStr : String) (store : Store σ) (outBytes : Buffer) :
    List BoundaryEvent :=
  (rt.takesBack inputStr store).map (fun block => .released block.1 block.2) ++
    [.forgotten outBytes]

/-- Invalid UTF-8 makes `process` return 0 without calling the handler. -/
def Runtime.process : GuestFunc (SdkState σ)
  | [ptr, len], store =>
    match fromUtf8 (store.memory.read ptr.toUInt32.toNat len.toUInt32.toNat) with
    | none => (.ok (.int64 0), store)
    | some inputStr =>
      match lift (rt.handle inputStr) (store.logHandled inputStr) with
      | (.error trap, store₁) => (.error trap, store₁)
      | (.ok outBytes, store₁) =>
        (.ok (.int64 (packWords outBytes.ptr outBytes.len).toInt64),
          store₁.logBoundary (rt.handlerEvents inputStr store.runtimeView outBytes))
  | _, store => (.error [], store)

/-- The module built from the SDK and a plugin. -/
def Runtime.guest : Guest (SdkState σ) where
  fresh := ⟨rt.initial, [], []⟩
  instantiate store :=
    match lift rt.start store with
    | (.error err, store₁) => (.error err, store₁)
    | (.ok (), store₁) =>
      (.ok ⟨some .memory, some rt.allocate, some rt.deallocate, some rt.process⟩, store₁)

/-! ## What the functions do -/

variable {rt} {store store₁ : Store (SdkState σ)}

theorem lift_eq {f : Store σ → α × Store σ} {a : α} (h : lift f store = (a, store₁)) :
    f store.runtimeView = (a, store₁.runtimeView) ∧
      store₁.guest.handled = store.guest.handled ∧
      store₁.guest.boundary = store.guest.boundary := by
  unfold lift at h
  cases h
  exact ⟨rfl, rfl, rfl⟩

/-- `allocate` gives away the block that it answers. -/
theorem allocate_ok {size : Int32} {v : Value} (h : rt.allocate [size] store = (.ok v, store₁)) :
    ∃ ptr, v = .int32 ptr.toInt32 ∧
      rt.alloc size.toUInt32 store.runtimeView = (.ok ptr, store₁.runtimeView) ∧
      store₁.guest.handled = store.guest.handled ∧
      store₁.guest.boundary = store.guest.boundary ++ [.forgotten ⟨ptr, 0, size.toUInt32⟩] := by
  unfold Runtime.allocate at h
  dsimp only at h
  split at h
  · cases h
  · next ptr store₂ hl =>
      cases h
      obtain ⟨halloc, hhandled, hboundary⟩ := lift_eq hl
      exact ⟨ptr, rfl, halloc, hhandled, congrArg (· ++ [_]) hboundary⟩

/-- `deallocate` takes the block back unless it traps. -/
theorem deallocate_cases {ptr size : Int32} {r : Except Bytes Value}
    (h : rt.deallocate [ptr, size] store = (r, store₁)) :
    store₁.guest.handled = store.guest.handled ∧
      ((∃ trap, r = .error trap) ∨
        store₁.guest.boundary =
          store.guest.boundary ++ [.released ptr.toUInt32 size.toUInt32]) := by
  unfold Runtime.deallocate at h
  dsimp only at h
  split at h
  · next trap store₂ hl =>
      cases h
      exact ⟨(lift_eq hl).2.1, .inl ⟨trap, rfl⟩⟩
  · next hl =>
      cases h
      obtain ⟨-, hhandled, hboundary⟩ := lift_eq hl
      exact ⟨hhandled, .inr (congrArg (· ++ [_]) hboundary)⟩

/-- `process` passes what it can decode to the handler, and gives away the handler's buffer. -/
theorem process_ok {ptr len : Int32} {res : Value}
    (h : rt.process [ptr, len] store = (.ok res, store₁)) :
    (fromUtf8 (store.memory.read ptr.toUInt32.toNat len.toUInt32.toNat) = none ∧
      res = .int64 0 ∧ store₁ = store) ∨
    ∃ inputStr buf,
      fromUtf8 (store.memory.read ptr.toUInt32.toNat len.toUInt32.toNat) = some inputStr ∧
      res = .int64 (packWords buf.ptr buf.len).toInt64 ∧
      rt.handle inputStr store.runtimeView = (.ok buf, store₁.runtimeView) ∧
      store₁.guest.handled = store.guest.handled ++ [inputStr] ∧
      store₁.guest.boundary =
        store.guest.boundary ++ rt.handlerEvents inputStr store.runtimeView buf := by
  unfold Runtime.process at h
  dsimp only at h
  split at h
  · next hnone =>
      cases h
      exact .inl ⟨hnone, rfl, rfl⟩
  · next inputStr hsome =>
      split at h
      · cases h
      · next buf store₂ hl =>
          cases h
          obtain ⟨hhandle, hhandled, hboundary⟩ := lift_eq hl
          exact .inr ⟨inputStr, buf, hsome, rfl, hhandle, hhandled, congrArg (· ++ _) hboundary⟩

/-- An SDK module exports its memory and the three functions. Its start function calls none of
    them. -/
theorem sdk_instantiate {inst : Instance (SdkState σ)}
    (h : rt.guest.instantiate store = (.ok inst, store₁)) :
    inst = ⟨some .memory, some rt.allocate, some rt.deallocate, some rt.process⟩ ∧
      rt.start store.runtimeView = (.ok (), store₁.runtimeView) ∧
      store₁.guest.handled = store.guest.handled ∧
      store₁.guest.boundary = store.guest.boundary := by
  unfold Runtime.guest at h
  dsimp only at h
  split at h
  · cases h
  · next hl =>
      cases h
      exact ⟨rfl, lift_eq hl⟩

end Sdk

/-! ## Correct plugins -/

/-- A runtime whose allocator answers non-null blocks inside memory, whose handler computes
    `handler` and leaves the result in a block inside memory, and whose memory stays under
    the store's limit. -/
structure SdkPlugin (σ : Type) (handler : String → String) extends Runtime σ where
  alloc_block : ∀ {size store ptr store₁}, alloc size store = (.ok ptr, store₁) →
    ptr ≠ 0 ∧ ptr.toNat + size.toNat ≤ store₁.memory.size
  alloc_limit : ∀ {size store ptr store₁}, alloc size store = (.ok ptr, store₁) →
    store₁.memory.size ≤ maxMemory
  handle_block : ∀ {s store buf store₁}, handle s store = (.ok buf, store₁) →
    buf.len ≤ buf.capacity ∧ buf.ptr.toNat + buf.len.toNat ≤ store₁.memory.size
  handle_output : ∀ {s store buf store₁}, handle s store = (.ok buf, store₁) →
    store₁.memory.read buf.ptr.toNat buf.len.toNat = utf8 (handler s)
  handle_limit : ∀ {s store buf store₁}, handle s store = (.ok buf, store₁) →
    store₁.memory.size ≤ maxMemory

end PluginSandbox.Sandbox
