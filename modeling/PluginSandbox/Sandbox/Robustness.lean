/-
  Which guests make `Engine.Run` panic.

  A run can panic in four places: the memory export is missing (`memoryExtern.Memory()` on a
  nil pointer), the block that `allocate` answered does not lie in memory, `process` did not
  return one `i64`, or the packed output block does not lie in memory. `Robust` says that
  the guest stays clear of all four, in exact arithmetic (no wrap-around left), and
  `run_noPanic_iff` that this is exactly when no panic is reached.
-/
import PluginSandbox.Sandbox.Engine

namespace PluginSandbox.Sandbox

open PluginSandbox.Lib

/-! ## What the host needs of the guest's answers -/

/-- The block at `ptr` of `n` bytes lies in memory and its end is an `int32`. -/
def Writable (memory : LinearMemory) (ptr n : Int32) : Prop :=
  0 ≤ ptr.toInt ∧ 0 ≤ n.toInt ∧ ptr.toInt + n.toInt < 2 ^ 31 ∧ ptr.toInt + n.toInt ≤ memory.size

/-- One `i64` whose upper and lower word are a block that lies in memory, unless it is empty. -/
def Readable (memory : LinearMemory) (res : Value) : Prop :=
  ∃ packed, res = .int64 packed ∧ (lowerWord packed ≠ 0 →
    (upperWord packed).toNat + (lowerWord packed).toNat < 2 ^ 32 ∧
      (upperWord packed).toNat + (lowerWord packed).toNat ≤ memory.size)

/-- The store in which `process` is called. -/
def Store.withInput {σ : Type} (store : Store σ) (ptr n : Int32) (input : Bytes) : Store σ :=
  { store with memory := store.memory.write ptr.toInt.toNat (input.take n.toInt.toNat) }

/-- An instance that answers the host's two calls with blocks in memory. Calls that trap, a
    null block for a non-empty input and missing functions are answered with a result. -/
def RobustInstance {σ : Type} (host : Host) (inst : Instance σ) (input : Bytes)
    (store : Store σ) : Prop :=
  inst.memory ≠ none ∧
    ∀ allocate deallocate process,
      inst = ⟨some .memory, some allocate, some deallocate, some process⟩ →
      ∀ v store₁, allocate [Int32.ofNat input.length] store = (.ok v, store₁) →
        (toInt32 host v ≠ 0 ∨ input = []) →
          Writable store₁.memory (toInt32 host v) (Int32.ofNat input.length) ∧
            ∀ res store₂, process [toInt32 host v, Int32.ofNat input.length]
                (store₁.withInput (toInt32 host v) (Int32.ofNat input.length) input) =
                  (.ok res, store₂) →
              Readable store₂.memory res

/-- A guest is robust when its instance is, if the run gets that far. -/
def Robust {σ : Type} (host : Host) (guest : Guest σ) (input : Bytes) : Prop :=
  host.createStdout = none → host.createStderr = none → host.setFuel = none →
    host.defineWasi = none →
      ∀ inst store, guest.instantiate (freshStore guest) = (.ok inst, store) →
        RobustInstance host inst input store

/-! ## Panics of the steps -/

/-- The outcome is not a Go panic. -/
def NoPanic {α : Type} (o : Except Panic α) : Prop := ∀ p, o ≠ .error p

theorem noPanic_ok {α : Type} (a : α) : NoPanic (.ok a) := by
  intro p h
  cases h

theorem not_noPanic_error {α : Type} (p : Panic) : ¬ NoPanic (.error p : Except Panic α) :=
  fun h => h p rfl

theorem noPanic_map {α β : Type} (f : α → β) (o : Except Panic α) :
    NoPanic (o.map f) ↔ NoPanic o := by
  cases o with
  | error p => exact iff_of_false (not_noPanic_error p) (not_noPanic_error p)
  | ok a => exact iff_of_true (noPanic_ok _) (noPanic_ok a)

theorem hostWrite_of_writable {memory : LinearMemory} {ptr n : Int32}
    (h : Writable memory ptr n) (input : Bytes) :
    hostWrite memory ptr n input =
      .ok (memory.write ptr.toInt.toNat (input.take n.toInt.toNat)) := by
  have hin : InSlice ptr.toInt (ptr + n).toInt memory.size :=
    (inSlice_add_int32 ptr n memory.size).mpr h
  have hsum : (ptr + n).toInt = ptr.toInt + n.toInt := by
    obtain ⟨h0, hn, hlt, -⟩ := h
    rw [Int32.toInt_add, Int.bmod_def]
    omega
  unfold hostWrite
  rw [if_pos hin, hsum, Int.add_comm, Int.add_sub_cancel]

theorem hostWrite_of_not_writable {memory : LinearMemory} {ptr n : Int32}
    (h : ¬ Writable memory ptr n) (input : Bytes) :
    hostWrite memory ptr n input = .error .sliceBounds := by
  unfold hostWrite
  exact if_neg fun hin => h ((inSlice_add_int32 ptr n memory.size).mp hin)

theorem noPanic_hostRead (memory : LinearMemory) (ptr n : UInt32) :
    NoPanic (hostRead memory ptr n) ↔
      ptr.toNat + n.toNat < 2 ^ 32 ∧ ptr.toNat + n.toNat ≤ memory.size := by
  rw [← inSlice_add_uint32]
  unfold hostRead
  split
  · next h => exact iff_of_true (noPanic_ok _) h
  · next h => exact iff_of_false (not_noPanic_error _) h

section Run

variable {σ : Type} (host : Host)

theorem noPanic_afterProcess (deallocate : GuestFunc σ) (res : Value) (store : Store σ) :
    NoPanic (afterProcess host deallocate res store) ↔ Readable store.memory res := by
  unfold afterProcess
  split
  · next packed =>
      have hread : Readable store.memory (.int64 packed) ↔ (lowerWord packed ≠ 0 →
          NoPanic (hostRead store.memory (upperWord packed) (lowerWord packed))) := by
        rw [noPanic_hostRead]
        constructor
        · rintro ⟨p, hp, h⟩
          cases hp
          exact h
        · exact fun h => ⟨packed, rfl, h⟩
      rw [hread]
      dsimp only
      split
      · next hpos =>
          have hne : lowerWord packed ≠ 0 := UInt32.pos_iff_ne_zero.mp hpos
          split
          · next p hp =>
              refine iff_of_false (not_noPanic_error p) fun h => ?_
              rw [hp] at h
              exact not_noPanic_error p (h hne)
          · next output hp =>
              refine iff_of_true (noPanic_ok _) fun _ => ?_
              rw [hp]
              exact noPanic_ok output
      · next hpos =>
          exact iff_of_true (noPanic_ok _) fun h => absurd (UInt32.pos_iff_ne_zero.mpr h) hpos
  · next hne =>
      refine iff_of_false (not_noPanic_error _) ?_
      rintro ⟨p, rfl, -⟩
      exact hne p rfl

theorem not_null {host : Host} {input : Bytes} {v : Value} :
    ¬ (toInt32 host v = 0 ∧ input.length > 0) ↔ toInt32 host v ≠ 0 ∨ input = [] := by
  rw [not_and_or, gt_iff_lt, List.length_pos_iff, ne_eq, not_not]

/-- With a block in memory the input is copied and `process` is called. -/
theorem afterAllocate_writable (deallocate process : GuestFunc σ) (memoryUsed : Int64)
    {input : Bytes} {v : Value} {store : Store σ} (hcalled : toInt32 host v ≠ 0 ∨ input = [])
    (hw : Writable store.memory (toInt32 host v) (Int32.ofNat input.length)) :
    afterAllocate host deallocate process memoryUsed input v store =
      match process [toInt32 host v, Int32.ofNat input.length]
          (store.withInput (toInt32 host v) (Int32.ofNat input.length) input) with
      | (.error err, store₂) =>
        .ok (.ok (handleExecutionError host (memoryBytes store.memory) store₂ err), store₂)
      | (.ok res, store₂) => afterProcess host deallocate res store₂ := by
  unfold afterAllocate
  dsimp only
  rw [if_neg (not_null.mpr hcalled), hostWrite_of_writable hw input]
  rfl

theorem noPanic_afterAllocate (deallocate process : GuestFunc σ) (memoryUsed : Int64)
    (input : Bytes) (v : Value) (store : Store σ) :
    NoPanic (afterAllocate host deallocate process memoryUsed input v store) ↔
      ((toInt32 host v ≠ 0 ∨ input = []) →
        Writable store.memory (toInt32 host v) (Int32.ofNat input.length) ∧
          ∀ res store₂, process [toInt32 host v, Int32.ofNat input.length]
              (store.withInput (toInt32 host v) (Int32.ofNat input.length) input) =
                (.ok res, store₂) →
            Readable store₂.memory res) := by
  by_cases hcalled : toInt32 host v ≠ 0 ∨ input = []
  · by_cases hw : Writable store.memory (toInt32 host v) (Int32.ofNat input.length)
    · rw [afterAllocate_writable host deallocate process memoryUsed hcalled hw]
      cases hp : process [toInt32 host v, Int32.ofNat input.length]
          (store.withInput (toInt32 host v) (Int32.ofNat input.length) input) with
      | mk r store₂ =>
          cases r with
          | error err =>
              refine iff_of_true (noPanic_ok _) fun _ => ⟨hw, fun res store₃ h => ?_⟩
              cases h
          | ok res =>
              rw [noPanic_afterProcess]
              constructor
              · intro hr _
                refine ⟨hw, fun res' store₃ h => ?_⟩
                cases h
                exact hr
              · intro h
                exact (h hcalled).2 res store₂ rfl
    · unfold afterAllocate
      dsimp only
      rw [if_neg (not_null.mpr hcalled), hostWrite_of_not_writable hw input]
      exact iff_of_false (not_noPanic_error _) fun h => hw (h hcalled).1
  · have hnull : toInt32 host v = 0 ∧ input.length > 0 := by
      rw [← not_null, not_not] at hcalled
      exact hcalled
    unfold afterAllocate
    dsimp only
    rw [if_pos hnull]
    exact iff_of_true (noPanic_ok _) fun h => absurd h hcalled

theorem noPanic_runInstance (inst : Instance σ) (input : Bytes) (store : Store σ) :
    NoPanic (runInstance host inst input store) ↔ RobustInstance host inst input store := by
  obtain ⟨memory, allocate, deallocate, process⟩ := inst
  unfold runInstance RobustInstance
  cases memory with
  | none => exact iff_of_false (not_noPanic_error _) fun h => h.1 rfl
  | some ext =>
      by_cases hall : ∃ a d p, allocate = some a ∧ deallocate = some d ∧ process = some p ∧
          ext = .memory
      · obtain ⟨a, d, p, rfl, rfl, rfl, rfl⟩ := hall
        have hmem : externMemory (some .memory) = .ok true := rfl
        rw [hmem]
        dsimp only
        constructor
        · intro hno
          refine ⟨Option.some_ne_none _, fun a' d' p' heq v store₁ hv => ?_⟩
          cases heq
          rw [hv] at hno
          exact (noPanic_afterAllocate host _ _ _ _ _ _).mp hno
        · rintro ⟨-, h⟩
          cases hv : a [Int32.ofNat input.length] store with
          | mk r store₁ =>
              cases r with
              | error err => exact noPanic_ok _
              | ok v =>
                  exact (noPanic_afterAllocate host _ _ _ _ _ _).mpr (h a d p rfl v store₁ hv)
      · have hres :
            NoPanic (runInstance host ⟨some ext, allocate, deallocate, process⟩ input store) := by
          unfold runInstance
          have hext : externMemory (some ext) = .ok (ext == .memory) := rfl
          rw [hext]
          dsimp only
          split
          · next a d p h =>
              have hx : ext = .memory := by simpa using h
              exact absurd ⟨a, d, p, rfl, rfl, rfl, hx⟩ hall
          · exact noPanic_ok _
        refine iff_of_true hres ⟨Option.some_ne_none _, fun a d p heq => ?_⟩
        cases heq
        exact absurd ⟨a, d, p, rfl, rfl, rfl, rfl⟩ hall

theorem noPanic_runModule (guest : Guest σ) (input : Bytes) :
    NoPanic (runModule host guest input) ↔ Robust host guest input := by
  unfold runModule Robust
  cases host.createStdout with
  | some err => exact iff_of_true (noPanic_ok _) fun h => by cases h
  | none =>
    cases host.createStderr with
    | some err => exact iff_of_true (noPanic_ok _) fun _ h => by cases h
    | none =>
      cases host.setFuel with
      | some err => exact iff_of_true (noPanic_ok _) fun _ _ h => by cases h
      | none =>
        cases host.defineWasi with
        | some err => exact iff_of_true (noPanic_ok _) fun _ _ _ h => by cases h
        | none =>
          dsimp only
          cases hi : guest.instantiate (freshStore guest) with
          | mk r store =>
            cases r with
            | error err =>
                refine iff_of_true (noPanic_ok _) fun _ _ _ _ inst store₁ h => ?_
                cases h
            | ok inst =>
                rw [noPanic_runInstance]
                constructor
                · intro h _ _ _ _ inst' store₁ heq
                  cases heq
                  exact h
                · exact fun h => h rfl rfl rfl rfl inst store rfl

/-! ## `Engine.Run` -/

variable {M : Type} (newModule : Bytes → Except Bytes M) (guest : M → Guest σ)

/-- `GetModule` without an error never answers nil. -/
theorem getModule_ne_nil (e : Engine M) (id : String) (wasm : Bytes) :
    (e.getModule newModule id wasm).1 ≠ .ok none := by
  cases hm : e.modules id with
  | some m =>
      rw [getModule_fst_some newModule hm]
      simp
  | none =>
      rw [getModule_fst_none newModule hm]
      unfold freshModule
      cases newModule wasm <;> simp

/-- `Engine.Run` reaches no panic exactly when the guest of the module it uses is robust on
    the input. -/
theorem run_noPanic_iff (e : Engine M) (id : String) (wasm input : Bytes) :
    NoPanic (e.run newModule host guest id wasm input).1 ↔
      ∀ m, (e.getModule newModule id wasm).1 = .ok (some m) → Robust host (guest m) input := by
  unfold Engine.run
  cases hg : (e.getModule newModule id wasm).1 with
  | error err =>
      refine iff_of_true (noPanic_ok _) fun m h => ?_
      cases h
  | ok r =>
      cases r with
      | none => exact absurd hg (getModule_ne_nil newModule e id wasm)
      | some m =>
          dsimp only [runLoaded]
          rw [noPanic_map, noPanic_runModule]
          constructor
          · intro h m' heq
            cases heq
            exact h
          · exact fun h => h m rfl

end Run

/-- A module that exports nothing: the missing memory is dereferenced. -/
theorem run_panics_without_memory :
    ¬ ∀ (newModule : Bytes → Except Bytes Unit) (host : Host) (guest : Unit → Guest Unit)
      (e : Engine Unit) (id : String) (wasm input : Bytes),
      NoPanic (e.run newModule host guest id wasm input).1 := by
  intro h
  exact h (fun _ => .ok ()) .quiet
    (fun _ => ⟨(), fun store => (.ok ⟨none, none, none, none⟩, store)⟩) (.new Unit) "p" [] []
    .nilDereference rfl

end PluginSandbox.Sandbox
