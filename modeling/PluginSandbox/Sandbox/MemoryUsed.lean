/-
  The memory that a run reports against the memory that the guest has when the run returns.

  `Engine.Run` reads the size of the exported memory three times: behind the instantiation,
  after the input was copied and after `process` returned. A guest call that is the last
  one before an exit is not read again: `allocate` when it traps or answers null, `process`
  when it traps, `deallocate`. `memoryUsed_exact_iff`: the report is exact on every exit
  exactly when no such call changes the size (`SizeSeen`).
-/
import PluginSandbox.Sandbox.Marshalling

namespace PluginSandbox.Sandbox

open PluginSandbox.Lib

variable {σ : Type}

/-! ## Sizes -/

/-- The bytes of the memory exported as `memory`, 0 when there is none. -/
def exportedBytes (inst : Instance σ) (store : Store σ) : Int64 :=
  if inst.memory = some .memory then memoryBytes store.memory else 0

/-- Below the range of `int64` the reading is the size. -/
theorem toInt_memoryBytes {m : LinearMemory} (h : m.size < 2 ^ 63) :
    (memoryBytes m).toInt = m.size := by
  have hsize : m.size = m.pages * 65536 := rfl
  have hnat : (UInt64.ofNat m.pages * 64 * 1024).toNat = m.size := by
    rw [UInt64.toNat_mul, UInt64.toNat_mul, UInt64.toNat_ofNat']
    have h64 : UInt64.toNat 64 = 64 := rfl
    have h1024 : UInt64.toNat 1024 = 1024 := rfl
    rw [h64, h1024]
    omega
  unfold memoryBytes
  have hbv : (UInt64.ofNat m.pages * 64 * 1024).toInt64.toInt =
      (UInt64.ofNat m.pages * 64 * 1024).toBitVec.toInt := rfl
  have hto : (UInt64.ofNat m.pages * 64 * 1024).toBitVec.toNat = m.size := hnat
  rw [hbv, BitVec.toInt_eq_toNat_of_lt (by rw [hto]; omega), hto]

/-- The memory reads the same in both stores. -/
def SameSize (store store' : Store σ) : Prop :=
  memoryBytes store.memory = memoryBytes store'.memory

/-- The calls after which the size is not read again leave it alone. -/
def SizeSeen (host : Host) (inst : Instance σ) (input : Bytes) (store : Store σ) : Prop :=
  ∀ allocate deallocate process,
    inst = ⟨some .memory, some allocate, some deallocate, some process⟩ →
    (∀ err store₁, allocate [Int32.ofNat input.length] store = (.error err, store₁) →
      SameSize store store₁) ∧
    ∀ v store₁, allocate [Int32.ofNat input.length] store = (.ok v, store₁) →
      (¬ (toInt32 host v ≠ 0 ∨ input = []) → SameSize store store₁) ∧
      ((toInt32 host v ≠ 0 ∨ input = []) →
        Writable store₁.memory (toInt32 host v) (Int32.ofNat input.length) →
        (∀ err store₂, process [toInt32 host v, Int32.ofNat input.length]
            (store₁.withInput (toInt32 host v) (Int32.ofNat input.length) input) =
              (.error err, store₂) →
          SameSize store₁ store₂) ∧
        ∀ packed store₂, process [toInt32 host v, Int32.ofNat input.length]
            (store₁.withInput (toInt32 host v) (Int32.ofNat input.length) input) =
              (.ok (.int64 packed), store₂) →
          lowerWord packed ≠ 0 → Readable store₂.memory (.int64 packed) →
            SameSize store₂ (deallocate [(upperWord packed).toInt32, (lowerWord packed).toInt32]
              store₂).2)

/-! ## Exact reports -/

/-- A result that is returned reports the memory at that moment. -/
def Exact (o : Outcome σ) : Prop :=
  ∀ result store, o = .ok (.ok result, store) → result.memoryUsed = memoryBytes store.memory

theorem exact_error (p : Panic) : Exact (.error p : Outcome σ) := by
  intro result store h
  cases h

theorem exact_ok {result : ExecutionResult} {store : Store σ} :
    Exact (.ok (.ok result, store)) ↔ result.memoryUsed = memoryBytes store.memory := by
  constructor
  · intro h
    exact h result store rfl
  · intro h result' store' heq
    cases heq
    exact h

section Run

variable (host : Host)

theorem exact_afterProcess (deallocate : GuestFunc σ) (packed : Int64) (store : Store σ) :
    Exact (afterProcess host deallocate (.int64 packed) store) ↔
      (lowerWord packed ≠ 0 → Readable store.memory (.int64 packed) →
        SameSize store (deallocate [(upperWord packed).toInt32, (lowerWord packed).toInt32]
          store).2) := by
  have hread := noPanic_afterProcess host deallocate (.int64 packed) store
  unfold afterProcess at hread ⊢
  dsimp only at hread ⊢
  by_cases hpos : lowerWord packed > 0
  · rw [if_pos hpos] at hread ⊢
    have hne : lowerWord packed ≠ 0 := UInt32.pos_iff_ne_zero.mp hpos
    cases hr : hostRead store.memory (upperWord packed) (lowerWord packed) with
    | error p =>
        rw [hr] at hread
        refine iff_of_true (exact_error p) fun _ hreadable => ?_
        exact absurd (hread.mpr hreadable) (not_noPanic_error p)
    | ok output =>
        rw [hr] at hread
        dsimp only
        rw [exact_ok]
        have hreadable : Readable store.memory (.int64 packed) := hread.mp (noPanic_ok _)
        exact ⟨fun h _ _ => h, fun h => h hne hreadable⟩
  · rw [if_neg hpos, exact_ok]
    exact iff_of_true rfl fun hne => absurd (UInt32.pos_iff_ne_zero.mpr hne) hpos

/-- A call whose error is reported with the size `m`, and whose result goes on with `next`. -/
theorem exact_call (m : Int64) (next : Value → Store σ → Outcome σ)
    (reply : Except Bytes Value × Store σ) :
    Exact (match reply with
      | (.error err, store₁) => .ok (.ok (handleExecutionError host m store₁ err), store₁)
      | (.ok res, store₁) => next res store₁) ↔
      (∀ err store₁, reply = (.error err, store₁) → m = memoryBytes store₁.memory) ∧
      ∀ res store₁, reply = (.ok res, store₁) → Exact (next res store₁) := by
  obtain ⟨r, store₁⟩ := reply
  cases r with
  | error err =>
      refine exact_ok.trans ⟨fun h => ⟨?_, nofun⟩, fun h => h.1 err store₁ rfl⟩
      intro err' store' heq
      cases heq
      exact h
  | ok res =>
      refine ⟨fun h => ⟨nofun, ?_⟩, fun h => h.2 res store₁ rfl⟩
      intro res' store' heq
      cases heq
      exact h

/-- Every result of `process` but an `i64` makes the host panic. -/
theorem exact_processReply (deallocate : GuestFunc σ) (reply : Except Bytes Value × Store σ) :
    (∀ res store₂, reply = (.ok res, store₂) →
      Exact (afterProcess host deallocate res store₂)) ↔
    ∀ packed store₂, reply = (.ok (.int64 packed), store₂) →
      lowerWord packed ≠ 0 → Readable store₂.memory (.int64 packed) →
        SameSize store₂ (deallocate [(upperWord packed).toInt32, (lowerWord packed).toInt32]
          store₂).2 := by
  constructor
  · intro h packed store₂ hreply
    exact (exact_afterProcess host deallocate packed store₂).mp (h _ store₂ hreply)
  · intro h res store₂ hreply
    cases res with
    | int64 packed =>
        exact (exact_afterProcess host deallocate packed store₂).mpr (h packed store₂ hreply)
    | nil | int32 _ | float32 _ | float64 _ | reference | slice _ => exact exact_error _

theorem exact_afterAllocate (deallocate process : GuestFunc σ) (memoryUsed : Int64)
    (input : Bytes) (v : Value) (store : Store σ) :
    Exact (afterAllocate host deallocate process memoryUsed input v store) ↔
      (¬ (toInt32 host v ≠ 0 ∨ input = []) → memoryUsed = memoryBytes store.memory) ∧
      ((toInt32 host v ≠ 0 ∨ input = []) →
        Writable store.memory (toInt32 host v) (Int32.ofNat input.length) →
        (∀ err store₂, process [toInt32 host v, Int32.ofNat input.length]
            (store.withInput (toInt32 host v) (Int32.ofNat input.length) input) =
              (.error err, store₂) →
          SameSize store store₂) ∧
        ∀ packed store₂, process [toInt32 host v, Int32.ofNat input.length]
            (store.withInput (toInt32 host v) (Int32.ofNat input.length) input) =
              (.ok (.int64 packed), store₂) →
          lowerWord packed ≠ 0 → Readable store₂.memory (.int64 packed) →
            SameSize store₂ (deallocate [(upperWord packed).toInt32, (lowerWord packed).toInt32]
              store₂).2) := by
  by_cases hcalled : toInt32 host v ≠ 0 ∨ input = []
  · rw [and_iff_right (fun h => absurd hcalled h), forall_prop_of_true hcalled]
    by_cases hw : Writable store.memory (toInt32 host v) (Int32.ofNat input.length)
    · rw [forall_prop_of_true hw,
        afterAllocate_writable host deallocate process memoryUsed hcalled hw,
        ← exact_processReply]
      exact exact_call host _ (afterProcess host deallocate) _
    · have hpanic : afterAllocate host deallocate process memoryUsed input v store =
          .error .sliceBounds := by
        unfold afterAllocate
        dsimp only
        rw [if_neg (not_null.mpr hcalled), hostWrite_of_not_writable hw input]
      rw [hpanic]
      exact iff_of_true (exact_error _) fun h => absurd h hw
  · have hnull : toInt32 host v = 0 ∧ input.length > 0 := not_not.mp (not_null.not.mpr hcalled)
    unfold afterAllocate
    dsimp only
    rw [if_pos hnull, exact_ok]
    exact ⟨fun h => ⟨fun _ => h, fun hc => absurd hc hcalled⟩, fun h => h.1 hcalled⟩

/-- With an export missing nothing is called. -/
theorem exact_missingExport {inst : Instance σ} {input : Bytes} {store : Store σ}
    (hmissing : ∀ a d p, inst ≠ ⟨some .memory, some a, some d, some p⟩) :
    ∀ result store', runInstance host inst input store = .ok (.ok result, store') →
      result.memoryUsed = exportedBytes inst store' := by
  obtain ⟨memory, allocate, deallocate, process⟩ := inst
  intro result store' hrun
  unfold runInstance at hrun
  cases memory with
  | none => cases hrun
  | some ext =>
      have hext : externMemory (some ext) = .ok (ext == .memory) := rfl
      rw [hext] at hrun
      dsimp only at hrun
      split at hrun
      · next a d p h =>
          have hx : ext = .memory := by simpa using h
          exact absurd (by rw [hx]) (hmissing a d p)
      · cases hrun
        rfl

theorem exact_runInstance (inst : Instance σ) (input : Bytes) (store : Store σ) :
    (∀ result store', runInstance host inst input store = .ok (.ok result, store') →
      result.memoryUsed = exportedBytes inst store') ↔ SizeSeen host inst input store := by
  by_cases hall : ∃ a d p, inst = ⟨some .memory, some a, some d, some p⟩
  · obtain ⟨a, d, p, rfl⟩ := hall
    have hseen : SizeSeen host ⟨some .memory, some a, some d, some p⟩ input store ↔
        (∀ err store₁, a [Int32.ofNat input.length] store = (.error err, store₁) →
          SameSize store store₁) ∧
        ∀ v store₁, a [Int32.ofNat input.length] store = (.ok v, store₁) →
          Exact (afterAllocate host d p (memoryBytes store.memory) input v store₁) := by
      simp only [exact_afterAllocate]
      constructor
      · exact fun h => h a d p rfl
      · intro h a' d' p' heq
        cases heq
        exact h
    rw [hseen]
    exact exact_call host _ (afterAllocate host d p (memoryBytes store.memory) input) _
  · refine iff_of_true (exact_missingExport host fun a d p heq => hall ⟨a, d, p, heq⟩) ?_
    intro a d p heq
    exact absurd ⟨a, d, p, heq⟩ hall

end Run

/-- Behind an instantiation that succeeded: on every exit the reported memory is the size of
    the exported memory at that moment, exactly when no call whose effect is not read again
    changes the size. -/
theorem memoryUsed_exact_iff {host : Host} (hready : host.Ready) {guest : Guest σ}
    {inst : Instance σ} {store : Store σ}
    (hinst : guest.instantiate (freshStore guest) = (.ok inst, store)) (input : Bytes) :
    (∀ result store', runModule host guest input = .ok (.ok result, store') →
      result.memoryUsed = exportedBytes inst store') ↔
    SizeSeen host inst input store := by
  rw [runModule_ready hready hinst]
  exact exact_runInstance host inst input store

/-! ## A guest that grows -/

/-- Three functions next to an exported memory; `process` resizes it to `pages` and runs on
    until the fuel is gone. -/
def resizingInstance (pages : Nat) : Instance Unit where
  memory := some .memory
  allocate := some fun _ store => (.ok (.int32 1024), store)
  deallocate := some fun _ store => (.ok .nil, store)
  process := some fun _ store =>
    (.error (utf8 "wasm trap: all fuel consumed by WebAssembly"),
      { store with memory := { store.memory with pages }, fuel := 0 })

/-- The memory starts with one page. -/
def resizingGuest (pages : Nat) : Guest Unit where
  fresh := ()
  instantiate store :=
    (.ok (resizingInstance pages), { store with memory := { store.memory with pages := 1 } })

/-- A guest that grows to two pages and is stopped: one page is reported. -/
theorem grown_memory_unreported :
    ∃ result store', runModule .quiet (resizingGuest 2) [123, 125] = .ok (.ok result, store') ∧
      result.status = .outOfFuel ∧ result.memoryUsed = 65536 ∧
      exportedBytes (resizingInstance 2) store' = 131072 :=
  ⟨_, _, rfl, by decide, rfl, rfl⟩

/-- The same guest without the growth. -/
theorem memoryUsed_exact_still :
    ∃ result store', runModule .quiet (resizingGuest 1) [123, 125] = .ok (.ok result, store') ∧
      result.memoryUsed = exportedBytes (resizingInstance 1) store' := by
  have hready : Host.quiet.Ready := ⟨rfl, rfl, rfl, rfl⟩
  have hexact : ∀ result store', runModule .quiet (resizingGuest 1) [123, 125] =
      .ok (.ok result, store') → result.memoryUsed = exportedBytes (resizingInstance 1) store' := by
    refine (memoryUsed_exact_iff hready rfl [123, 125]).mpr ?_
    intro allocate deallocate process heq
    cases heq
    refine ⟨nofun, fun v store₁ h => ?_⟩
    cases h
    refine ⟨fun _ => rfl, fun _ _ => ⟨fun err store₂ h => ?_, nofun⟩⟩
    cases h
    rfl
  exact ⟨_, _, rfl, hexact _ _ rfl⟩

end PluginSandbox.Sandbox
