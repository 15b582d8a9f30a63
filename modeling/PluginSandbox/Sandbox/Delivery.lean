/-
  What a success of an SDK guest says about the input.

  The host narrows the length to `int32`, so it copies and announces the first
  `length mod 2^32` bytes. `process` decodes them; invalid UTF-8 makes it return 0, which the
  host takes for an empty output. The guest's ghost log `handled` shows what reached the
  handler: `success_handled` says that it is the decoding of those bytes, once, or nothing.
  So a success means that the handler saw the whole input exactly for valid UTF-8 of less
  than 2^31 bytes (`success_delivered_iff`).
-/
import PluginSandbox.Sandbox.Marshalling

namespace PluginSandbox.Sandbox

open PluginSandbox.Lib

variable {σ : Type}

/-! ## Runs that succeed -/

theorem statusOfError_ne_success (err : Bytes) : statusOfError err ≠ .success := by
  unfold statusOfError
  split
  · exact nofun
  · split <;> exact nofun

theorem handleExecutionError_ne_success (host : Host) (memoryUsed : Int64) (store : Store σ)
    (err : Bytes) : (handleExecutionError host memoryUsed store err).status ≠ .success := by
  unfold handleExecutionError
  dsimp only
  split
  · exact nofun
  · exact statusOfError_ne_success err

/-- Behind a block that `allocate` answered, only a `process` that returns can succeed. -/
theorem afterAllocate_success {host : Host} {deallocate process : GuestFunc σ}
    {memoryUsed : Int64} {input : Bytes} {v : Value} {store store' : Store σ}
    {result : ExecutionResult}
    (hrun : afterAllocate host deallocate process memoryUsed input v store =
      .ok (.ok result, store')) (hsuccess : result.status = .success) :
    Writable store.memory (toInt32 host v) (Int32.ofNat input.length) ∧
      ∃ res store₂, process [toInt32 host v, Int32.ofNat input.length]
          (store.withInput (toInt32 host v) (Int32.ofNat input.length) input) =
            (.ok res, store₂) ∧
        afterProcess host deallocate res store₂ = .ok (.ok result, store') := by
  by_cases hcalled : toInt32 host v ≠ 0 ∨ input = []
  · by_cases hw : Writable store.memory (toInt32 host v) (Int32.ofNat input.length)
    · rw [afterAllocate_writable host deallocate process memoryUsed hcalled hw] at hrun
      refine ⟨hw, ?_⟩
      cases hp : process [toInt32 host v, Int32.ofNat input.length]
          (store.withInput (toInt32 host v) (Int32.ofNat input.length) input) with
      | mk r store₂ =>
          rw [hp] at hrun
          cases r with
          | error err =>
              cases hrun
              exact absurd hsuccess (handleExecutionError_ne_success _ _ _ _)
          | ok res => exact ⟨res, store₂, rfl, hrun⟩
    · unfold afterAllocate at hrun
      dsimp only at hrun
      rw [if_neg (not_null.mpr hcalled), hostWrite_of_not_writable hw input] at hrun
      cases hrun
  · have hnull : toInt32 host v = 0 ∧ input.length > 0 := not_not.mp (not_null.not.mpr hcalled)
    unfold afterAllocate at hrun
    dsimp only at hrun
    rw [if_pos hnull] at hrun
    cases hrun
    cases hsuccess

/-- A success has passed through `allocate`, the copy of the input and `process`. -/
theorem runInstance_success {host : Host} {allocate deallocate process : GuestFunc σ}
    {input : Bytes} {store store' : Store σ} {result : ExecutionResult}
    (hrun : runInstance host ⟨some .memory, some allocate, some deallocate, some process⟩ input
      store = .ok (.ok result, store')) (hsuccess : result.status = .success) :
    ∃ v store₁ res store₂, allocate [Int32.ofNat input.length] store = (.ok v, store₁) ∧
      Writable store₁.memory (toInt32 host v) (Int32.ofNat input.length) ∧
      process [toInt32 host v, Int32.ofNat input.length]
        (store₁.withInput (toInt32 host v) (Int32.ofNat input.length) input) =
          (.ok res, store₂) ∧
      afterProcess host deallocate res store₂ = .ok (.ok result, store') := by
  have hext : externMemory (some .memory) = .ok true := rfl
  unfold runInstance at hrun
  rw [hext] at hrun
  dsimp only at hrun
  cases ha : allocate [Int32.ofNat input.length] store with
  | mk r store₁ =>
      rw [ha] at hrun
      cases r with
      | error err =>
          cases hrun
          exact absurd hsuccess (handleExecutionError_ne_success _ _ _ _)
      | ok v =>
          obtain ⟨hw, res, store₂, hp, hafter⟩ := afterAllocate_success hrun hsuccess
          exact ⟨v, store₁, res, store₂, rfl, hw, hp, hafter⟩

/-- A success has passed through the instantiation. -/
theorem runModule_success {host : Host} {guest : Guest σ} {input : Bytes} {store' : Store σ}
    {result : ExecutionResult} (hrun : runModule host guest input = .ok (.ok result, store'))
    (hsuccess : result.status = .success) :
    ∃ inst store, guest.instantiate (freshStore guest) = (.ok inst, store) ∧
      runInstance host inst input store = .ok (.ok result, store') := by
  unfold runModule at hrun
  dsimp only at hrun
  split at hrun
  · cases hrun
  · cases hrun
  · cases hrun
  · split at hrun
    · cases hrun
      cases hsuccess
    · cases hi : guest.instantiate (freshStore guest) with
      | mk r store =>
          rw [hi] at hrun
          cases r with
          | error err =>
              cases hrun
              dsimp only [getMetrics] at hsuccess
              split at hsuccess <;> cases hsuccess
          | ok inst => exact ⟨inst, store, rfl, hrun⟩

/-- A result is a packed word; the host releases what it names unless that is empty. -/
theorem afterProcess_ok {host : Host} {deallocate : GuestFunc σ} {res : Value}
    {store store' : Store σ} {result : Except Bytes ExecutionResult}
    (h : afterProcess host deallocate res store = .ok (result, store')) :
    ∃ packed, res = .int64 packed ∧
      ((lowerWord packed = 0 ∧ store' = store) ∨
        (lowerWord packed ≠ 0 ∧
          store' =
            (deallocate [(upperWord packed).toInt32, (lowerWord packed).toInt32] store).2)) := by
  cases res with
  | int64 packed =>
      refine ⟨packed, rfl, ?_⟩
      unfold afterProcess at h
      dsimp only at h
      split at h
      · next hpos =>
          split at h
          · cases h
          · cases h
            exact .inr ⟨UInt32.pos_iff_ne_zero.mp hpos, rfl⟩
      · next hzero =>
          cases h
          exact .inl ⟨not_not.mp fun hne => hzero (UInt32.pos_iff_ne_zero.mpr hne), rfl⟩
  | _ => cases h

variable {rt : Runtime σ}

theorem afterProcess_handled {host : Host} {res : Value} {store store' : Store (SdkState σ)}
    {result : Except Bytes ExecutionResult}
    (h : afterProcess host rt.deallocate res store = .ok (result, store')) :
    store'.guest.handled = store.guest.handled := by
  obtain ⟨packed, -, ⟨-, rfl⟩ | ⟨-, rfl⟩⟩ := afterProcess_ok h
  · rfl
  · exact (deallocate_cases rfl).1

/-! ## What the guest reads -/

/-- A length that is not negative as an `int32` is its remainder. -/
theorem toInt_ofNat_of_nonneg {n : Nat} (h : 0 ≤ (Int32.ofNat n).toInt) :
    (Int32.ofNat n).toInt.toNat = n % 2 ^ 32 ∧ (Int32.ofNat n).toUInt32.toNat = n % 2 ^ 32 ∧
      n % 2 ^ 32 < 2 ^ 31 := by
  have hnat : (Int32.ofNat n).toUInt32.toNat = n % 2 ^ 32 := BitVec.toNat_ofNat n 32
  have hsize : Int32.size = 4294967296 := rfl
  rw [Int32.toInt_ofNat', Int.bmod_def, hsize] at h ⊢
  refine ⟨?_, hnat, ?_⟩ <;> omega

/-- `process` reads the bytes that the host copied. -/
theorem withInput_read {store : Store σ} {ptr : Int32} {input : Bytes}
    (hw : Writable store.memory ptr (Int32.ofNat input.length)) :
    (store.withInput ptr (Int32.ofNat input.length) input).memory.read ptr.toUInt32.toNat
        (Int32.ofNat input.length).toUInt32.toNat =
      input.take (input.length % 2 ^ 32) := by
  obtain ⟨hptr, hlen, -, -⟩ := hw
  obtain ⟨hn, hn', -⟩ := toInt_ofNat_of_nonneg hlen
  have haddr : ptr.toUInt32.toNat = ptr.toInt.toNat := by
    have hbv : ptr.toInt = ptr.toUInt32.toBitVec.toInt := rfl
    have hlt := ptr.toUInt32.toNat_lt
    rw [BitVec.toInt_eq_toNat_cond, UInt32.toNat_toBitVec] at hbv
    split at hbv <;> omega
  have htake : (input.take (input.length % 2 ^ 32)).length = input.length % 2 ^ 32 :=
    List.length_take_of_le (Nat.mod_le _ _)
  unfold Store.withInput
  rw [hn, hn', haddr]
  have hread := LinearMemory.read_write store.memory ptr.toInt.toNat
    (input.take (input.length % 2 ^ 32))
  rw [htake] at hread
  exact hread

/-- In a run that succeeds the handler is called with the decoding of the first
    `length mod 2^32` bytes, if there is one, and not again. -/
theorem success_handled {host : Host} {input : Bytes} {result : ExecutionResult}
    {store' : Store (SdkState σ)}
    (hrun : runModule host rt.guest input = .ok (.ok result, store'))
    (hsuccess : result.status = .success) :
    store'.guest.handled = (fromUtf8 (input.take (input.length % 2 ^ 32))).toList ∧
      input.length % 2 ^ 32 < 2 ^ 31 := by
  obtain ⟨inst, store, hinst, hrun⟩ := runModule_success hrun hsuccess
  obtain ⟨rfl, -, hnew, -⟩ := sdk_instantiate hinst
  obtain ⟨v, store₁, res, store₂, halloc, hw, hprocess, hafter⟩ :=
    runInstance_success hrun hsuccess
  obtain ⟨ptr, -, -, hkept, -⟩ := allocate_ok halloc
  have hread := withInput_read hw
  have hbefore : store₁.guest.handled = [] := hkept.trans hnew
  refine ⟨?_, (toInt_ofNat_of_nonneg hw.2.1).2.2⟩
  rw [afterProcess_handled hafter]
  rcases process_ok hprocess with ⟨hnone, -, rfl⟩ | ⟨inputStr, buf, hsome, -, -, hcalled, -⟩
  · rw [hread] at hnone
    rw [hnone]
    exact hbefore
  · rw [hread] at hsome
    rw [hsome, hcalled]
    exact congrArg (· ++ [inputStr]) hbefore

/-! ## Delivery -/

theorem utf8_of_fromUtf8 {bs : Bytes} {s : String} (h : fromUtf8 bs = some s) : utf8 s = bs := by
  unfold fromUtf8 String.fromUTF8? at h
  split at h
  · cases h
    rfl
  · cases h

/-- The handler was called once, with the whole input. -/
def Delivered (input : Bytes) (store : Store (SdkState σ)) : Prop :=
  ∃ s, store.guest.handled = [s] ∧ utf8 s = input

/-- A success means that the handler saw the input, exactly for valid UTF-8 of less than 2^31
    bytes. -/
theorem success_delivered_iff {host : Host} {input : Bytes} {result : ExecutionResult}
    {store' : Store (SdkState σ)}
    (hrun : runModule host rt.guest input = .ok (.ok result, store'))
    (hsuccess : result.status = .success) :
    Delivered input store' ↔ (fromUtf8 input).isSome ∧ input.length < 2 ^ 31 := by
  obtain ⟨hhandled, hlt⟩ := success_handled hrun hsuccess
  constructor
  · rintro ⟨s, hs, hwhole⟩
    rw [hhandled, Option.toList_eq_singleton_iff] at hs
    have hprefix := utf8_of_fromUtf8 hs
    have hall : input.take (input.length % 2 ^ 32) = input := hprefix.symm.trans hwhole
    have hlen := congrArg List.length hall
    rw [List.length_take_of_le (Nat.mod_le _ _)] at hlen
    rw [hall] at hs
    exact ⟨by rw [hs]; rfl, by omega⟩
  · rintro ⟨hvalid, hshort⟩
    obtain ⟨s, hs⟩ := Option.isSome_iff_exists.mp hvalid
    have hmod : input.length % 2 ^ 32 = input.length := Nat.mod_eq_of_lt (by omega)
    rw [hmod, List.take_length, hs] at hhandled
    exact ⟨s, hhandled, utf8_of_fromUtf8 hs⟩

/-- One byte that is not UTF-8: the run is a success and the handler was not called. -/
theorem undecodable_input_succeeds :
    ∃ result store', runModule .quiet echoPlugin.guest [255] = .ok (.ok result, store') ∧
      result.status = .success ∧ ¬ Delivered [255] store' := by
  refine ⟨_, _, rfl, rfl, ?_⟩
  rintro ⟨s, h, -⟩
  cases h

theorem success_delivered_echo :
    ∃ result store', runModule .quiet echoPlugin.guest [104, 105] = .ok (.ok result, store') ∧
      result.status = .success ∧ Delivered [104, 105] store' :=
  ⟨_, _, rfl, rfl, (@success_delivered_iff Unit echoPlugin.toRuntime .quiet _ _ _ rfl rfl).mpr
    ⟨by decide, by decide⟩⟩

end PluginSandbox.Sandbox
