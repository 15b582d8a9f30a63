/-
  The heap blocks that cross the guest boundary.

  `allocate` and `process` give a block away with `mem::forget`; `deallocate` takes one back,
  and so may the handler's own code. The guest's log `boundary` is read as a ledger of heap
  blocks, each with the size it was allocated with. A `Vec` of capacity 0 owns no block.

  `success_boundary`: a run that succeeds without a trap leaves the block of the input, what
  the handler takes back, the handler's buffer with its capacity, and the release of the
  buffer with its length unless the length is 0. The host never has the input's block taken
  back. So the ledger is reconciled exactly when the handler does it, and makes a buffer as
  large as its contents (`boundary_disciplined_iff`). A handler that leaves the block alone
  meets this on the empty input only, which needs no block.
-/
import PluginSandbox.Lib.Ledger
import PluginSandbox.Sandbox.Delivery
import PluginSandbox.Sandbox.Traced

namespace PluginSandbox.Sandbox

open PluginSandbox.Lib

variable {σ : Type}

/-! ## The ledger -/

/-- A block of the guest's heap, by the size it was allocated with. -/
structure HeapBlock where
  ptr : UInt32
  size : UInt32
  deriving DecidableEq

/-- A `Vec` of capacity 0 owns no block. -/
def HeapBlock.ofParts (ptr capacity : UInt32) : Option HeapBlock :=
  if capacity = 0 then none else some ⟨ptr, capacity⟩

/-- What giving away and taking back a `Vec` means for the heap. -/
def BoundaryEvent.ledgerEntry : BoundaryEvent → Option (Entry HeapBlock)
  | .forgotten block => (HeapBlock.ofParts block.ptr block.capacity).map .taken
  | .released ptr size => (HeapBlock.ofParts ptr size).map .returned

/-- Every block that crossed was released once, with the size it was allocated with, and
    nothing else was released. -/
def Disciplined (boundary : List BoundaryEvent) : Prop :=
  Reconciled (boundary.filterMap BoundaryEvent.ledgerEntry)

theorem ofParts_of_ne {ptr capacity : UInt32} (h : capacity ≠ 0) :
    HeapBlock.ofParts ptr capacity = some ⟨ptr, capacity⟩ := if_neg h

theorem ofParts_eq_none_iff {ptr capacity : UInt32} :
    HeapBlock.ofParts ptr capacity = none ↔ capacity = 0 := by
  constructor
  · intro h
    by_contra hne
    rw [ofParts_of_ne hne] at h
    cases h
  · intro h
    exact if_pos h

theorem capacity_ne_zero {buf : Buffer} (hcap : buf.len ≤ buf.capacity) (hlen : buf.len ≠ 0) :
    buf.capacity ≠ 0 := by
  intro hzero
  rw [hzero, UInt32.le_zero_iff] at hcap
  exact hlen hcap

/-- The handler's buffer, and what the host has `deallocate` take back for it. -/
def outputEvents (buf : Buffer) : List BoundaryEvent :=
  .forgotten buf :: if buf.len = 0 then [] else [.released buf.ptr buf.len]

/-- After them nothing is outstanding exactly when nothing was before and the buffer is as
    large as its contents. -/
theorem settle_outputEvents {buf : Buffer} (hcap : buf.len ≤ buf.capacity)
    (out : List HeapBlock) :
    run settle out ((outputEvents buf).filterMap BoundaryEvent.ledgerEntry) = some [] ↔
      out = [] ∧ buf.capacity = buf.len := by
  unfold outputEvents
  by_cases hlen : buf.len = 0
  · rw [if_pos hlen, hlen]
    by_cases hzero : buf.capacity = 0
    · have hnone : (BoundaryEvent.forgotten buf).ledgerEntry = none :=
        congrArg (Option.map Entry.taken) (ofParts_eq_none_iff.mpr hzero)
      rw [List.filterMap_cons_none hnone, List.filterMap_nil, and_iff_left hzero]
      exact Option.some_inj
    · have hsome : (BoundaryEvent.forgotten buf).ledgerEntry =
          some (.taken ⟨buf.ptr, buf.capacity⟩) :=
        congrArg (Option.map Entry.taken) (ofParts_of_ne hzero)
      rw [List.filterMap_cons_some hsome]
      refine iff_of_false (fun h => ?_) fun h => hzero h.2
      cases h
  · have hforgotten : (BoundaryEvent.forgotten buf).ledgerEntry =
        some (.taken ⟨buf.ptr, buf.capacity⟩) :=
      congrArg (Option.map Entry.taken) (ofParts_of_ne (capacity_ne_zero hcap hlen))
    have hreleased : (BoundaryEvent.released buf.ptr buf.len).ledgerEntry =
        some (.returned ⟨buf.ptr, buf.len⟩) :=
      congrArg (Option.map Entry.returned) (ofParts_of_ne hlen)
    rw [if_neg hlen, List.filterMap_cons_some hforgotten, List.filterMap_cons_some hreleased,
      List.filterMap_nil, run_settle_pair]
    refine and_congr_right fun _ => ⟨fun h => ?_, fun h => ?_⟩
    · exact (congrArg HeapBlock.size h).symm
    · rw [h]

/-- The blocks among the pairs of a pointer and a size that the handler takes back. -/
def heapBlocks (blocks : List (UInt32 × UInt32)) : List HeapBlock :=
  blocks.filterMap fun block => HeapBlock.ofParts block.1 block.2

theorem ledger_takenBack (blocks : List (UInt32 × UInt32)) :
    (blocks.map fun block => BoundaryEvent.released block.1 block.2).filterMap
        BoundaryEvent.ledgerEntry =
      (heapBlocks blocks).map .returned := by
  unfold heapBlocks
  rw [List.filterMap_map, List.map_filterMap]
  rfl

/-- The block of the input and what the handler takes back. -/
theorem reconciled_input {ptr size : UInt32} {blocks : List (UInt32 × UInt32)} :
    Reconciled ((BoundaryEvent.forgotten ⟨ptr, 0, size⟩ ::
        blocks.map fun block => BoundaryEvent.released block.1 block.2).filterMap
          BoundaryEvent.ledgerEntry) ↔
      heapBlocks blocks = (HeapBlock.ofParts ptr size).toList := by
  have hinput : (BoundaryEvent.forgotten ⟨ptr, 0, size⟩).ledgerEntry =
      (HeapBlock.ofParts ptr size).map .taken := rfl
  unfold Reconciled
  rw [List.filterMap_cons, hinput, ledger_takenBack]
  cases HeapBlock.ofParts ptr size with
  | none => exact run_settle_returned.trans List.perm_nil
  | some block =>
      have hstart : run settle [] (.taken block :: (heapBlocks blocks).map .returned) =
          run settle [block] ((heapBlocks blocks).map .returned) := rfl
      exact (iff_of_eq (congrArg (· = some []) hstart)).trans
        (run_settle_returned.trans List.perm_singleton)

/-! ## What crosses in a run -/

/-- The input block, what the handler takes back, and the handler's buffer. Without a call of
    the handler there is the input block alone. -/
def crossing (ptr size : UInt32) (call : Option (List (UInt32 × UInt32) × Buffer)) :
    List BoundaryEvent :=
  .forgotten ⟨ptr, 0, size⟩ ::
    match call with
    | none => []
    | some (blocks, buf) =>
      (blocks.map fun block => .released block.1 block.2) ++ outputEvents buf

theorem disciplined_uncalled {ptr size : UInt32} :
    Disciplined (crossing ptr size none) ↔ size = 0 := by
  have hempty : Disciplined (crossing ptr size none) ↔
      heapBlocks [] = (HeapBlock.ofParts ptr size).toList := @reconciled_input ptr size []
  rw [hempty, eq_comm]
  exact Option.toList_eq_nil_iff.trans ofParts_eq_none_iff

theorem disciplined_called {ptr size : UInt32} {blocks : List (UInt32 × UInt32)} {buf : Buffer}
    (hcap : buf.len ≤ buf.capacity) :
    Disciplined (crossing ptr size (some (blocks, buf))) ↔
      heapBlocks blocks = (HeapBlock.ofParts ptr size).toList ∧ buf.capacity = buf.len := by
  have hsplit : (crossing ptr size (some (blocks, buf))).filterMap BoundaryEvent.ledgerEntry =
      (BoundaryEvent.forgotten ⟨ptr, 0, size⟩ ::
        blocks.map fun block => BoundaryEvent.released block.1 block.2).filterMap
          BoundaryEvent.ledgerEntry ++
        (outputEvents buf).filterMap BoundaryEvent.ledgerEntry := by
    rw [← List.filterMap_append]
    rfl
  unfold Disciplined
  rw [hsplit, reconciled_append_iff (settle_outputEvents hcap), reconciled_input]

/-! ## Traced calls -/

theorem traced_call {f : GuestFunc σ} {args : List Int32} {store store₁ : Store (Traced σ)}
    {r : Except Bytes Value} (h : f.traced args store = (r, store₁)) :
    f args store.untraced = (r, store₁.untraced) ∧
      store₁.guest.answers = store.guest.answers ++ [r] := by
  unfold GuestFunc.traced at h
  cases h
  exact ⟨rfl, rfl⟩

theorem traced_instantiate {guest : Guest σ} {inst : Instance (Traced σ)} {store : Store (Traced σ)}
    (h : guest.traced.instantiate (freshStore guest.traced) = (.ok inst, store)) :
    ∃ inst', inst = inst'.traced ∧
      guest.instantiate (freshStore guest) = (.ok inst', store.untraced) := by
  have hinst : guest.traced.instantiate (freshStore guest.traced) =
      ((guest.instantiate (freshStore guest)).1.map Instance.traced,
        (guest.instantiate (freshStore guest)).2.traced []) := rfl
  rw [hinst] at h
  cases hg : guest.instantiate (freshStore guest) with
  | mk r store₀ =>
      rw [hg] at h
      cases r with
      | error err => cases h
      | ok inst' =>
          cases h
          exact ⟨inst', rfl, rfl⟩

/-! ## The run -/

variable {rt : Runtime σ}

/-- The runtime's store before the guest is instantiated. -/
def Runtime.freshStore (rt : Runtime σ) : Store σ :=
  { Sandbox.freshStore rt.guest with guest := rt.initial }

/-- The bytes that the guest is asked for: the length of the input modulo 2^32. -/
def inputSize (input : Bytes) : UInt32 := (Int32.ofNat input.length).toUInt32

/-- In a run on `input` the handler is called on `s`, in `store` and with the block of the
    input at `ptr`, and makes `buf`. -/
def Runtime.Handles (rt : Runtime σ) (input : Bytes) (ptr : UInt32) (s : String)
    (store : Store σ) (buf : Buffer) : Prop :=
  ∃ store₀ store₁ store₂, rt.start rt.freshStore = (.ok (), store₀) ∧
    rt.alloc (inputSize input) store₀ = (.ok ptr, store₁) ∧
    fromUtf8 (input.take (input.length % 2 ^ 32)) = some s ∧
    store = store₁.withInput ptr.toInt32 (Int32.ofNat input.length) input ∧
    rt.handle s store = (.ok buf, store₂)

/-- The handler is called; it takes back the block of the input, once and with its size, and
    no other, and makes a buffer that is as large as its contents. -/
def Runtime.Careful (rt : Runtime σ) (input : Bytes) : Prop :=
  ∃ ptr s store buf, rt.Handles input ptr s store buf ∧
    heapBlocks (rt.takesBack s store) = (HeapBlock.ofParts ptr (inputSize input)).toList ∧
    buf.capacity = buf.len

theorem handles_unique {input : Bytes} {ptr ptr' : UInt32} {s s' : String} {store store' : Store σ}
    {buf buf' : Buffer} (h : rt.Handles input ptr s store buf)
    (h' : rt.Handles input ptr' s' store' buf') :
    ptr' = ptr ∧ s' = s ∧ store' = store ∧ buf' = buf := by
  obtain ⟨store₀, store₁, store₂, hstart, halloc, hs, rfl, hhandle⟩ := h
  obtain ⟨store₀', store₁', store₂', hstart', halloc', hs', rfl, hhandle'⟩ := h'
  cases hstart.symm.trans hstart'
  cases halloc.symm.trans halloc'
  cases hs.symm.trans hs'
  cases hhandle.symm.trans hhandle'
  exact ⟨rfl, rfl, rfl, rfl⟩

theorem inputSize_eq_zero_iff {input : Bytes} :
    inputSize input = 0 ↔ input.length % 2 ^ 32 = 0 := by
  have hnat : (inputSize input).toNat = input.length % 2 ^ 32 :=
    BitVec.toNat_ofNat input.length 32
  rw [← hnat, ← UInt32.toNat_inj]
  rfl

/-- A packed buffer is released unless it is empty. -/
theorem afterProcess_boundary {host : Host} {buf : Buffer} {result : ExecutionResult}
    {store store' : Store (Traced (SdkState σ))}
    (h : afterProcess host rt.deallocate.traced (.int64 (packWords buf.ptr buf.len).toInt64) store =
      .ok (.ok result, store')) (hcalls : NoTrap store') :
    store'.guest.guest.boundary = store.guest.guest.boundary ++
      if buf.len = 0 then [] else [.released buf.ptr buf.len] := by
  obtain ⟨packed, hpacked, hcase⟩ := afterProcess_ok h
  cases hpacked
  rcases hcase with ⟨hzero, rfl⟩ | ⟨hlen, hstore⟩
  · rw [lower_packWords] at hzero
    rw [if_pos hzero, List.append_nil]
  · rw [lower_packWords] at hlen
    rw [upper_packWords, lower_packWords] at hstore
    rw [if_neg hlen]
    cases hd : rt.deallocate.traced [buf.ptr.toInt32, buf.len.toInt32] store with
    | mk r store₁ =>
        rw [hd] at hstore
        subst hstore
        obtain ⟨hdeallocate, hanswers⟩ := traced_call hd
        have hmem : r ∈ store'.guest.answers := by
          rw [hanswers]
          exact List.mem_append_right _ List.mem_cons_self
        obtain ⟨v, rfl⟩ := hcalls r hmem
        rcases (deallocate_cases hdeallocate).2 with ⟨trap, htrap⟩ | hreleased
        · cases htrap
        · exact hreleased

/-- In a run that succeeds without a trap the input block crosses. If the input can be
    decoded, the handler is called, and its buffer crosses and is released again unless it is
    empty. -/
theorem success_boundary {host : Host} {input : Bytes} {result : ExecutionResult}
    {store' : Store (Traced (SdkState σ))}
    (hrun : runModule host rt.guest.traced input = .ok (.ok result, store'))
    (hsuccess : result.status = .success) (hcalls : NoTrap store') :
    (∃ ptr, fromUtf8 (input.take (input.length % 2 ^ 32)) = none ∧
      store'.guest.guest.boundary = crossing ptr (inputSize input) none) ∨
    ∃ ptr s store buf, rt.Handles input ptr s store buf ∧
      store'.guest.guest.boundary =
        crossing ptr (inputSize input) (some (rt.takesBack s store, buf)) := by
  obtain ⟨inst, store, hinst, hrun⟩ := runModule_success hrun hsuccess
  obtain ⟨inst', rfl, hinst'⟩ := traced_instantiate hinst
  obtain ⟨rfl, hstart, -, hnew⟩ := sdk_instantiate hinst'
  obtain ⟨v, store₁, res, store₂, halloc, hw, hprocess, hafter⟩ :=
    runInstance_success hrun hsuccess
  obtain ⟨hprocess', -⟩ := traced_call hprocess
  obtain ⟨ptr, hv, halloc', -, hallocated⟩ := allocate_ok (traced_call halloc).1
  cases hv
  have hread := withInput_read hw
  have hinput : store₁.guest.guest.boundary = [.forgotten ⟨ptr, 0, inputSize input⟩] :=
    hallocated.trans (congrArg (· ++ [_]) hnew)
  rcases process_ok hprocess' with ⟨hnone, rfl, hkept⟩ |
    ⟨s, buf, hsome, rfl, hhandle, -, hgiven⟩
  · refine .inl ⟨ptr, (congrArg fromUtf8 hread).symm.trans hnone, ?_⟩
    · obtain ⟨packed, hpacked, hcase⟩ := afterProcess_ok hafter
      cases hpacked
      rcases hcase with ⟨-, rfl⟩ | ⟨hlen, -⟩
      · have hguest := congrArg (fun s : Store (SdkState σ) => s.guest.boundary) hkept
        exact hguest.trans hinput
      · exact absurd rfl hlen
  · refine .inr ⟨ptr, s, _, buf, ⟨_, _, _, hstart, halloc', hread ▸ hsome, rfl, hhandle⟩, ?_⟩
    rw [afterProcess_boundary hafter hcalls]
    have hoth : store₂.guest.guest.boundary =
        store₁.guest.guest.boundary ++ rt.handlerEvents s _ buf := hgiven
    rw [hoth, hinput, List.append_assoc]
    exact congrArg (_ :: ·) (List.append_assoc _ _ _)

/-- A successful run without a trap releases the blocks that crossed exactly when the handler
    is called and is careful: the host has only the buffer taken back, with its length. -/
theorem boundary_disciplined_iff
    (hbuffer : ∀ {s store buf store₁}, rt.handle s store = (.ok buf, store₁) →
      buf.len ≤ buf.capacity)
    {host : Host} {input : Bytes} {result : ExecutionResult} {store' : Store (Traced (SdkState σ))}
    (hrun : runModule host rt.guest.traced input = .ok (.ok result, store'))
    (hsuccess : result.status = .success) (hcalls : NoTrap store') :
    Disciplined store'.guest.guest.boundary ↔ rt.Careful input := by
  rcases success_boundary hrun hsuccess hcalls with ⟨ptr, hnone, hboundary⟩ |
    ⟨ptr, s, store, buf, hhandles, hboundary⟩
  · -- an input that is not UTF-8 is not empty, so its block is there
    rw [hboundary, disciplined_uncalled, inputSize_eq_zero_iff]
    refine iff_of_false (fun hzero => ?_) ?_
    · rw [hzero, List.take_zero] at hnone
      cases hnone
    · rintro ⟨ptr', s', store'', buf', ⟨_, _, _, -, -, hsome, -⟩, -⟩
      cases hnone.symm.trans hsome
  · have hcap : buf.len ≤ buf.capacity := by
      obtain ⟨_, _, _, -, -, -, -, hhandle⟩ := hhandles
      exact hbuffer hhandle
    rw [hboundary, disciplined_called hcap]
    constructor
    · rintro ⟨hblocks, hcapacity⟩
      exact ⟨ptr, s, store, buf, hhandles, hblocks, hcapacity⟩
    · rintro ⟨ptr', s', store'', buf', hhandles', hcareful⟩
      obtain ⟨rfl, rfl, rfl, rfl⟩ := handles_unique hhandles hhandles'
      exact hcareful

theorem noTrap_of_values {store : Store (Traced σ)} {values : List Value}
    (h : store.guest.answers = values.map .ok) : NoTrap store := by
  intro answer hmem
  rw [h] at hmem
  obtain ⟨v, -, rfl⟩ := List.mem_map.mp hmem
  exact ⟨v, rfl⟩

/-- The echo plugin on `hi`: the block of the input is never released. -/
theorem input_block_leaks :
    ∃ result store', runModule .quiet echoPlugin.guest.traced [104, 105] =
        .ok (.ok result, store') ∧
      result.status = .success ∧ NoTrap store' ∧ ¬ Disciplined store'.guest.guest.boundary := by
  obtain ⟨result, store', hrun, hsuccess, hanswers, hboundary⟩ : ∃ result store',
      runModule .quiet echoPlugin.guest.traced [104, 105] = .ok (.ok result, store') ∧
      result.status = .success ∧
      store'.guest.answers =
        [Value.int32 1024, .int64 (packWords 32768 2).toInt64, .nil].map .ok ∧
      store'.guest.guest.boundary = crossing 1024 2 (some ([], ⟨32768, 2, 2⟩)) :=
    ⟨_, _, rfl, rfl, rfl, rfl⟩
  refine ⟨result, store', hrun, hsuccess, noTrap_of_values hanswers, ?_⟩
  rw [hboundary, disciplined_called (UInt32.le_refl 2)]
  exact fun h => absurd h.1 (by decide)

/-- A plugin that takes the block of its input back and answers `ok` in a block of its own. -/
def okPlugin : Runtime Unit :=
  { echoPlugin.toRuntime with
    handle := fun _ store => (.ok ⟨32768, 2, 2⟩,
      { store with memory := LinearMemory.write ⟨1, store.memory.byte⟩ 32768 (utf8 "ok") })
    takesBack := fun s _ => [(1024, UInt32.ofNat (utf8 s).length)] }

/-- On `hi` two blocks cross and both are released; on the empty input only the output's. -/
theorem boundary_disciplined_ok :
    (∃ result store', runModule .quiet okPlugin.guest.traced [104, 105] =
        .ok (.ok result, store') ∧
      store'.guest.guest.boundary =
        [.forgotten ⟨1024, 0, 2⟩, .released 1024 2, .forgotten ⟨32768, 2, 2⟩,
          .released 32768 2] ∧
      Disciplined store'.guest.guest.boundary) ∧
    ∃ result store', runModule .quiet okPlugin.guest.traced [] = .ok (.ok result, store') ∧
      store'.guest.guest.boundary =
        [.forgotten ⟨1024, 0, 0⟩, .released 1024 0, .forgotten ⟨32768, 2, 2⟩,
          .released 32768 2] ∧
      Disciplined store'.guest.guest.boundary := by
  have hbuffer : ∀ {s : String} {store : Store Unit} {buf : Buffer} {store₁ : Store Unit},
      okPlugin.handle s store = (.ok buf, store₁) → buf.len ≤ buf.capacity := by
    rintro s store buf store₁ h
    cases h
    exact UInt32.le_refl 2
  constructor
  · obtain ⟨result, store', hrun, hsuccess, hanswers, hboundary⟩ : ∃ result store',
        runModule .quiet okPlugin.guest.traced [104, 105] = .ok (.ok result, store') ∧
        result.status = .success ∧
        store'.guest.answers =
          [Value.int32 1024, .int64 (packWords 32768 2).toInt64, .nil].map .ok ∧
        store'.guest.guest.boundary = [.forgotten ⟨1024, 0, 2⟩, .released 1024 2,
          .forgotten ⟨32768, 2, 2⟩, .released 32768 2] :=
      ⟨_, _, rfl, rfl, rfl, rfl⟩
    exact ⟨result, store', hrun, hboundary,
      (boundary_disciplined_iff hbuffer hrun hsuccess (noTrap_of_values hanswers)).mpr
        ⟨1024, "hi", _, ⟨32768, 2, 2⟩, ⟨_, _, _, rfl, rfl, rfl, rfl, rfl⟩, rfl, rfl⟩⟩
  · obtain ⟨result, store', hrun, hsuccess, hanswers, hboundary⟩ : ∃ result store',
        runModule .quiet okPlugin.guest.traced [] = .ok (.ok result, store') ∧
        result.status = .success ∧
        store'.guest.answers =
          [Value.int32 1024, .int64 (packWords 32768 2).toInt64, .nil].map .ok ∧
        store'.guest.guest.boundary = [.forgotten ⟨1024, 0, 0⟩, .released 1024 0,
          .forgotten ⟨32768, 2, 2⟩, .released 32768 2] :=
      ⟨_, _, rfl, rfl, rfl, rfl⟩
    exact ⟨result, store', hrun, hboundary,
      (boundary_disciplined_iff hbuffer hrun hsuccess (noTrap_of_values hanswers)).mpr
        ⟨1024, "", _, ⟨32768, 2, 2⟩, ⟨_, _, _, rfl, rfl, rfl, rfl, rfl⟩, rfl, rfl⟩⟩

end PluginSandbox.Sandbox
