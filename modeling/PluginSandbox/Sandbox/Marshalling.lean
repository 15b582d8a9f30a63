/-
  A round trip through an SDK guest: the host allocates a block, copies the input into it,
  calls `process` and reads back the block that the packed result names.

  `sdk_allocate_block`: the pointer is positive as an `int32`, since it lies below the store's
  memory limit. `sdk_process_handles`: `process` sees the input and packs the handler's
  block. `run_sdk_success` composes the two with the host's side.
-/
import PluginSandbox.Sandbox.Sdk
import PluginSandbox.Sandbox.Robustness

namespace PluginSandbox.Sandbox

open PluginSandbox.Lib

variable {σ : Type} {handler : String → String}

/-! ## Machine integers below the limit -/

theorem toInt_toInt32 {p : UInt32} (h : p.toNat < 2 ^ 31) : p.toInt32.toInt = p.toNat := by
  have hbv : p.toInt32.toInt = p.toBitVec.toInt := rfl
  rw [hbv, BitVec.toInt_eq_toNat_of_lt (by rw [UInt32.toNat_toBitVec]; omega),
    UInt32.toNat_toBitVec]

theorem toUInt32_ofNat {n : Nat} (h : n < 2 ^ 31) : (Int32.ofNat n).toUInt32.toNat = n := by
  have hbv : (Int32.ofNat n).toUInt32.toNat = n % 2 ^ 32 := BitVec.toNat_ofNat n 32
  rw [hbv]
  omega

/-! ## The guest's side -/

/-- `allocate` answers a block that lies in memory, below the limit. -/
theorem sdk_allocate_block (plugin : SdkPlugin σ handler) {n : Nat} (hn : n < 2 ^ 31)
    {store store₁ : Store (SdkState σ)} {v : Value}
    (h : plugin.allocate [Int32.ofNat n] store = (.ok v, store₁)) :
    ∃ ptr : UInt32, v = .int32 ptr.toInt32 ∧ ptr ≠ 0 ∧ ptr.toNat + n ≤ store₁.memory.size ∧
      store₁.memory.size ≤ maxMemory := by
  obtain ⟨ptr, rfl, halloc, -, -⟩ := allocate_ok h
  obtain ⟨hne, hin⟩ := plugin.alloc_block halloc
  have hlimit := plugin.alloc_limit halloc
  rw [toUInt32_ofNat hn] at hin
  exact ⟨ptr, rfl, hne, hin, hlimit⟩

/-- On valid UTF-8, `process` packs the block that holds the handler's output. -/
theorem sdk_process_handles (plugin : SdkPlugin σ handler) {ptr len : Int32} {input : String}
    {store store₁ : Store (SdkState σ)} {res : Value}
    (hread : store.memory.read ptr.toUInt32.toNat len.toUInt32.toNat = utf8 input)
    (h : plugin.process [ptr, len] store = (.ok res, store₁)) :
    ∃ p l : UInt32, res = .int64 (packWords p l).toInt64 ∧
      p.toNat + l.toNat ≤ store₁.memory.size ∧ store₁.memory.size ≤ maxMemory ∧
      store₁.memory.read p.toNat l.toNat = utf8 (handler input) := by
  have hvalid :
      fromUtf8 (store.memory.read ptr.toUInt32.toNat len.toUInt32.toNat) = some input := by
    rw [hread, fromUtf8_utf8]
  rcases process_ok h with ⟨hnone, -, -⟩ | ⟨inputStr, buf, hsome, rfl, hhandle, -, -⟩
  · rw [hvalid] at hnone
    cases hnone
  · cases hvalid.symm.trans hsome
    have hin := (plugin.handle_block hhandle).2
    have hout := plugin.handle_output hhandle
    have hlimit := plugin.handle_limit hhandle
    exact ⟨buf.ptr, buf.len, rfl, hin, hlimit, hout⟩

/-! ## The host's side -/

/-- A block below the limit can be written. -/
theorem writable_of_block {memory : LinearMemory} {ptr : UInt32} {n : Nat}
    (hin : ptr.toNat + n ≤ memory.size) (hlimit : memory.size ≤ maxMemory) :
    Writable memory ptr.toInt32 (Int32.ofNat n) := by
  have hmax : maxMemory = 5242880 := rfl
  have hp : ptr.toInt32.toInt = ptr.toNat := toInt_toInt32 (by omega)
  have hn : (Int32.ofNat n).toInt = n := toInt_ofNat_of_lt (by omega)
  unfold Writable
  rw [hp, hn]
  omega

/-- Into a block below the limit the host copies the whole input, at its address. -/
theorem hostWrite_block {memory : LinearMemory} {ptr : UInt32} {input : Bytes}
    (hin : ptr.toNat + input.length ≤ memory.size) (hlimit : memory.size ≤ maxMemory) :
    hostWrite memory ptr.toInt32 (Int32.ofNat input.length) input =
      .ok (memory.write ptr.toNat input) := by
  have hmax : maxMemory = 5242880 := rfl
  have hptr : ptr.toInt32.toInt.toNat = ptr.toNat := by
    rw [toInt_toInt32 (by omega), Int.toNat_natCast]
  have hlen : (Int32.ofNat input.length).toInt.toNat = input.length := by
    rw [toInt_ofNat_of_lt (by omega), Int.toNat_natCast]
  rw [hostWrite_of_writable (writable_of_block hin hlimit), hptr, hlen, List.take_length]

/-- So the store that `process` is called in holds the input there. -/
theorem withInput_block {store : Store σ} {ptr : UInt32} {input : Bytes}
    (hin : ptr.toNat + input.length ≤ store.memory.size) (hlimit : store.memory.size ≤ maxMemory) :
    (store.withInput ptr.toInt32 (Int32.ofNat input.length) input).memory =
      store.memory.write ptr.toNat input := by
  have hwrite := hostWrite_block hin hlimit
  rw [hostWrite_of_writable (writable_of_block hin hlimit)] at hwrite
  exact Except.ok.inj hwrite

/-- A packed block in memory is read back and reported as a success. -/
theorem afterProcess_packed (host : Host) (deallocate : GuestFunc σ) {store : Store σ}
    {p l : UInt32} (hin : p.toNat + l.toNat ≤ store.memory.size)
    (hlimit : store.memory.size ≤ maxMemory) :
    ∃ result store', afterProcess host deallocate (.int64 (packWords p l).toInt64) store =
        .ok (.ok result, store') ∧
      result.status = .success ∧ result.output = store.memory.read p.toNat l.toNat := by
  have hmax : maxMemory = 5242880 := rfl
  unfold afterProcess
  dsimp only
  rw [upper_packWords, lower_packWords]
  split
  · have hbounds : InSlice p.toNat (p + l).toNat store.memory.size :=
      (inSlice_add_uint32 p l store.memory.size).mpr ⟨by omega, hin⟩
    have hread : hostRead store.memory p l = .ok (store.memory.read p.toNat l.toNat) :=
      if_pos hbounds
    rw [hread]
    exact ⟨_, _, rfl, rfl, rfl⟩
  · next hpos =>
      have h0 : l = 0 := by
        rw [gt_iff_lt, UInt32.pos_iff_ne_zero, ne_eq, not_not] at hpos
        exact hpos
      refine ⟨_, _, rfl, rfl, ?_⟩
      rw [h0]
      rfl

/-! ## The round trip -/

/-- Nothing fails before the guest is linked. -/
def Host.Ready (host : Host) : Prop :=
  host.createStdout = none ∧ host.createStderr = none ∧ host.setFuel = none ∧
    host.defineWasi = none

theorem runModule_ready {host : Host} (hready : host.Ready) {guest : Guest σ}
    {inst : Instance σ} {store : Store σ}
    (hinst : guest.instantiate (freshStore guest) = (.ok inst, store)) (input : Bytes) :
    runModule host guest input = runInstance host inst input store := by
  obtain ⟨h₁, h₂, h₃, h₄⟩ := hready
  unfold runModule
  rw [h₁, h₂, h₃, h₄]
  dsimp only
  rw [hinst]

/-- Once `allocate` has answered a block and `process` has returned, the rest of the run is
    `afterProcess`. -/
theorem runInstance_called (host : Host) {allocate process : GuestFunc σ} (deallocate : GuestFunc σ)
    {input : Bytes} {store store₁ store₂ : Store σ} {v res : Value}
    (halloc : allocate [Int32.ofNat input.length] store = (.ok v, store₁))
    (hcalled : toInt32 host v ≠ 0 ∨ input = [])
    (hw : Writable store₁.memory (toInt32 host v) (Int32.ofNat input.length))
    (hprocess : process [toInt32 host v, Int32.ofNat input.length]
      (store₁.withInput (toInt32 host v) (Int32.ofNat input.length) input) = (.ok res, store₂)) :
    runInstance host ⟨some .memory, some allocate, some deallocate, some process⟩ input store =
      afterProcess host deallocate res store₂ := by
  have hext : externMemory (some .memory) = .ok true := rfl
  unfold runInstance
  rw [hext]
  dsimp only
  rw [halloc]
  dsimp only
  rw [afterAllocate_writable host deallocate process _ hcalled hw, hprocess]

/-- Marshalling is correct. When a plugin of the SDK is instantiated and neither `allocate`
    nor `process` traps, the run succeeds with the handler's output; the input fills the
    allocated block and touches no other byte; and every pair of words survives packing. -/
theorem run_sdk_success {M : Type} (plugin : SdkPlugin σ handler) {host : Host}
    (hready : host.Ready) {newModule : Bytes → Except Bytes M}
    {guest : M → Guest (SdkState σ)} {e : Engine M} {id : String} {wasm : Bytes} {m : M}
    (hmodule : (e.getModule newModule id wasm).1 = .ok (some m)) (hguest : guest m = plugin.guest)
    {input : String} (hfit : (utf8 input).length ≤ maxMemory) {inst : Instance (SdkState σ)}
    {store store₁ store₂ : Store (SdkState σ)} {v res : Value}
    (hinst : plugin.guest.instantiate (freshStore plugin.guest) = (.ok inst, store))
    (halloc : plugin.allocate [Int32.ofNat (utf8 input).length] store = (.ok v, store₁))
    (hprocess : plugin.process [toInt32 host v, Int32.ofNat (utf8 input).length]
      (store₁.withInput (toInt32 host v) (Int32.ofNat (utf8 input).length) (utf8 input)) =
        (.ok res, store₂)) :
    (∃ result, (e.run newModule host guest id wasm (utf8 input)).1 = .ok (.ok result) ∧
      result.status = .success ∧ result.output = utf8 (handler input)) ∧
    (∃ (ptr : UInt32) (memory : LinearMemory), v = .int32 ptr.toInt32 ∧
      ptr.toNat + (utf8 input).length ≤ store₁.memory.size ∧
      hostWrite store₁.memory (toInt32 host v) (Int32.ofNat (utf8 input).length) (utf8 input) =
        .ok memory ∧
      memory.read ptr.toNat (utf8 input).length = utf8 input ∧
      ∀ a, a < ptr.toNat ∨ ptr.toNat + (utf8 input).length ≤ a →
        memory.byte a = store₁.memory.byte a) ∧
    ∀ p l : UInt32, upperWord (packWords p l).toInt64 = p ∧
      lowerWord (packWords p l).toInt64 = l := by
  have hmax : maxMemory = 5242880 := rfl
  obtain ⟨ptr, rfl, hne, hin, hlimit⟩ := sdk_allocate_block plugin (by omega) halloc
  have hptr : toInt32 host (.int32 ptr.toInt32) = ptr.toInt32 := rfl
  rw [hptr] at hprocess ⊢
  have hback : (store₁.memory.write ptr.toNat (utf8 input)).read ptr.toNat (utf8 input).length =
      utf8 input := LinearMemory.read_write _ _ _
  -- What the host wrote is what the guest reads.
  have hseen : (store₁.withInput ptr.toInt32 (Int32.ofNat (utf8 input).length)
      (utf8 input)).memory.read ptr.toInt32.toUInt32.toNat
        (Int32.ofNat (utf8 input).length).toUInt32.toNat = utf8 input := by
    have hp32 : ptr.toInt32.toUInt32 = ptr := rfl
    rw [withInput_block hin hlimit, hp32, toUInt32_ofNat (by omega)]
    exact hback
  obtain ⟨p, l, rfl, hpl, hlimit₂, hout⟩ := sdk_process_handles plugin hseen hprocess
  obtain ⟨result, store₃, hres, hstatus, houtput⟩ :=
    afterProcess_packed host plugin.deallocate hpl hlimit₂
  have hrun : runModule host plugin.guest (utf8 input) = .ok (.ok result, store₃) := by
    have hnonzero : toInt32 host (.int32 ptr.toInt32) ≠ 0 ∨ utf8 input = [] :=
      Or.inl fun h0 => hne (congrArg Int32.toUInt32 h0)
    rw [runModule_ready hready hinst, (sdk_instantiate hinst).1,
      runInstance_called host plugin.deallocate halloc hnonzero (writable_of_block hin hlimit)
        hprocess]
    exact hres
  refine ⟨⟨result, ?_, hstatus, houtput.trans hout⟩,
    ⟨ptr, store₁.memory.write ptr.toNat (utf8 input), rfl, hin, hostWrite_block hin hlimit, hback,
      fun a ha => LinearMemory.byte_write_outside _ _ _ _ ha⟩,
    fun p l => ⟨upper_packWords p l, lower_packWords p l⟩⟩
  unfold Engine.run
  dsimp only
  rw [hmodule]
  dsimp only [runLoaded]
  rw [hguest, hrun]
  rfl

theorem toNat_short_length {bs : Bytes} (h : bs.length ≤ 30000) :
    (UInt32.ofNat bs.length).toNat = bs.length := by
  have hsize : UInt32.size = 4294967296 := rfl
  exact UInt32.toNat_ofNat_of_lt' (by omega)

/-- A plugin that echoes: inputs go to one fixed block, outputs to another, in one page that
    the first allocation grows. -/
def echoPlugin : SdkPlugin Unit id where
  initial := ()
  start store := (.ok (), store)
  alloc size store :=
    if size.toNat ≤ 30000 then
      (.ok 1024, { store with memory := { store.memory with pages := 1 } })
    else (.error (utf8 "unreachable"), store)
  release _ _ store := (.ok (), store)
  handle s store :=
    if (utf8 s).length ≤ 30000 then
      (.ok ⟨32768, UInt32.ofNat (utf8 s).length, UInt32.ofNat (utf8 s).length⟩,
        { store with memory := LinearMemory.write ⟨1, store.memory.byte⟩ 32768 (utf8 s) })
    else (.error (utf8 "unreachable"), store)
  alloc_block {size store ptr store₁} h := by
    split at h
    · next hsize =>
        cases h
        refine ⟨by decide, ?_⟩
        have hptr : UInt32.toNat 1024 = 1024 := rfl
        have hmem : LinearMemory.size ⟨1, store.memory.byte⟩ = 1 * pageSize := rfl
        have hpage : pageSize = 65536 := rfl
        dsimp only
        omega
    · cases h
  alloc_limit {size store ptr store₁} h := by
    split at h
    · cases h
      exact (by decide : 1 * pageSize ≤ maxMemory)
    · cases h
  handle_block {s store buf store₁} h := by
    split at h
    · next hlen =>
        cases h
        refine ⟨UInt32.le_refl _, ?_⟩
        have hptr : UInt32.toNat 32768 = 32768 := rfl
        have hl := toNat_short_length hlen
        have hmem : (LinearMemory.write ⟨1, store.memory.byte⟩ 32768 (utf8 s)).size =
            1 * pageSize := rfl
        have hpage : pageSize = 65536 := rfl
        dsimp only
        omega
    · cases h
  handle_output {s store buf store₁} h := by
    split at h
    · next hlen =>
        cases h
        have hptr : UInt32.toNat 32768 = 32768 := rfl
        have hl := toNat_short_length hlen
        dsimp only
        rw [hptr, hl]
        exact LinearMemory.read_write _ _ _
    · cases h
  handle_limit {s store buf store₁} h := by
    split at h
    · cases h
      exact (by decide : 1 * pageSize ≤ maxMemory)
    · cases h

theorem run_sdk_success_echo :
    ∃ result, ((Engine.new Unit).run (fun _ => .ok ()) Host.quiet (fun _ => echoPlugin.guest) "echo"
        [] (utf8 "hi")).1 = .ok (.ok result) ∧
      result.status = .success ∧ result.output = utf8 "hi" :=
  (@run_sdk_success Unit id Unit echoPlugin Host.quiet ⟨rfl, rfl, rfl, rfl⟩ (fun _ => .ok ())
    (fun _ => echoPlugin.guest) (.new Unit) "echo" [] () rfl rfl "hi" (by decide) _ _ _ _ _ _
    rfl rfl rfl).1

end PluginSandbox.Sandbox
