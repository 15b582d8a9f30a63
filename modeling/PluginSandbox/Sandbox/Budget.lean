/-
  The budget of a run against the figures that are reported.

  wasmtime burns fuel and never gives any back, and the limiter refuses to grow a memory beyond
  `maxMemory`. That is all that is assumed of a guest here (`Metered`), whatever it exports
  and answers. `Engine.Run` turns the rest of the fuel and the pages of the memory into `int64`
  by subtraction and multiplication of unsigned words. On every path these stay in range, and
  what is reported lies within the budget (`budgeted_runModule`).
-/
import PluginSandbox.Sandbox.MemoryUsed

namespace PluginSandbox.Sandbox

open PluginSandbox.Lib

variable {σ : Type}

/-! ## Metered guests -/

/-- What a call may do to the resources of its store. -/
structure Spends (store store' : Store σ) : Prop where
  fuel : store'.fuel ≤ store.fuel
  memory : store.memory.size ≤ maxMemory → store'.memory.size ≤ maxMemory

def GuestFunc.Metered (f : GuestFunc σ) : Prop := ∀ args store, Spends store (f args store).2

structure Instance.Metered (inst : Instance σ) : Prop where
  allocate : ∀ f, inst.allocate = some f → GuestFunc.Metered f
  deallocate : ∀ f, inst.deallocate = some f → GuestFunc.Metered f
  process : ∀ f, inst.process = some f → GuestFunc.Metered f

structure Guest.Metered (guest : Guest σ) : Prop where
  instantiate : ∀ store, Spends store (guest.instantiate store).2
  exports : ∀ store inst store', guest.instantiate store = (.ok inst, store') → inst.Metered

/-- A store that is within the budget. -/
structure Solvent (store : Store σ) : Prop where
  fuel : store.fuel ≤ maxFuel
  memory : store.memory.size ≤ maxMemory

theorem solvent_spends {store store' : Store σ} (h : Solvent store)
    (hspends : Spends store store') : Solvent store' where
  fuel := UInt64.le_trans hspends.fuel h.fuel
  memory := hspends.memory h.memory

theorem solvent_call {f : GuestFunc σ} (hf : f.Metered) {args : List Int32} {store store' : Store σ}
    {r : Except Bytes Value} (hstore : Solvent store) (hcall : f args store = (r, store')) :
    Solvent store' := by
  have hspends := hf args store
  rw [hcall] at hspends
  exact solvent_spends hstore hspends

theorem solvent_fresh (guest : Guest σ) : Solvent (freshStore guest) where
  fuel := UInt64.le_refl _
  memory := by
    show 0 * pageSize ≤ maxMemory
    omega

theorem solvent_hostWrite {store : Store σ} {memory : LinearMemory} {ptr n : Int32} {input : Bytes}
    (hstore : Solvent store) (h : hostWrite store.memory ptr n input = .ok memory) :
    Solvent { store with memory } := by
  unfold hostWrite at h
  split at h
  · cases h
    exact ⟨hstore.fuel, hstore.memory⟩
  · cases h

/-! ## Figures -/

/-- The figures lie within the budget. -/
structure ExecutionResult.Budgeted (result : ExecutionResult) : Prop where
  fuel : 0 ≤ result.fuelConsumed.toInt ∧ result.fuelConsumed.toInt ≤ maxFuel.toNat
  memory : 0 ≤ result.memoryUsed.toInt ∧ result.memoryUsed.toInt ≤ maxMemory

/-- A figure for the memory that lies within the budget. -/
def Fits (memoryUsed : Int64) : Prop := 0 ≤ memoryUsed.toInt ∧ memoryUsed.toInt ≤ maxMemory

theorem fits_zero : Fits 0 := ⟨by decide, by decide⟩

theorem fits_memoryBytes {store : Store σ} (h : Solvent store) :
    Fits (memoryBytes store.memory) := by
  have hmemory := h.memory
  have hmax : maxMemory < 2 ^ 63 := by decide
  unfold Fits
  rw [toInt_memoryBytes (Nat.lt_of_le_of_lt hmemory hmax)]
  omega

/-- The subtraction of the fuel that is left does not wrap around. -/
theorem toInt_consumed {fuel : UInt64} (h : fuel ≤ maxFuel) :
    0 ≤ (maxFuel - fuel).toInt64.toInt ∧ (maxFuel - fuel).toInt64.toInt ≤ maxFuel.toNat := by
  have hsub : (maxFuel - fuel).toNat = maxFuel.toNat - fuel.toNat := UInt64.toNat_sub_of_le _ _ h
  have hmax : maxFuel.toNat = 10000000 := rfl
  have hint : (maxFuel - fuel).toInt64.toInt = (maxFuel - fuel).toNat := by
    refine BitVec.toInt_eq_toNat_of_lt ?_
    show 2 * (maxFuel - fuel).toNat < 2 ^ 64
    omega
  rw [hint]
  omega

theorem fuel_getMetrics {store : Store σ} (hstore : Solvent store) (host : Host)
    (memoryUsed : Int64) (status : Status) (output : Bytes) (execErr : Option Bytes) :
    0 ≤ (getMetrics host memoryUsed store status output execErr).fuelConsumed.toInt ∧
      (getMetrics host memoryUsed store status output execErr).fuelConsumed.toInt ≤
        maxFuel.toNat := by
  unfold getMetrics
  dsimp only
  split
  · exact toInt_consumed hstore.fuel
  · exact ⟨by decide, by decide⟩

theorem budgeted_getMetrics {store : Store σ} (hstore : Solvent store) {memoryUsed : Int64}
    (hmemory : Fits memoryUsed) (host : Host) (status : Status) (output : Bytes)
    (execErr : Option Bytes) : (getMetrics host memoryUsed store status output execErr).Budgeted :=
  ⟨fuel_getMetrics hstore host memoryUsed status output execErr, hmemory⟩

theorem budgeted_handleExecutionError {store : Store σ} (hstore : Solvent store)
    {memoryUsed : Int64} (hmemory : Fits memoryUsed) (host : Host) (err : Bytes) :
    (handleExecutionError host memoryUsed store err).Budgeted :=
  ⟨fuel_getMetrics hstore host memoryUsed (statusOfError err) [] (some err), hmemory⟩

/-! ## Runs -/

/-- A result that is returned lies within the budget. -/
def Budgeted (o : Outcome σ) : Prop :=
  ∀ result store, o = .ok (.ok result, store) → result.Budgeted

theorem budgeted_ok {result : ExecutionResult} {store : Store σ} (h : result.Budgeted) :
    Budgeted (.ok (.ok result, store) : Outcome σ) := by
  intro result' store' heq
  cases heq
  exact h

theorem budgeted_panic (p : Panic) : Budgeted (.error p : Outcome σ) := fun _ _ h => by cases h

theorem budgeted_error {err : Bytes} {store : Store σ} :
    Budgeted (.ok (.error err, store) : Outcome σ) := fun _ _ h => by cases h

section Paths

variable {host : Host} {allocate deallocate process : GuestFunc σ}

theorem budgeted_afterProcess (hdeallocate : deallocate.Metered) {res : Value} {store : Store σ}
    (hstore : Solvent store) : Budgeted (afterProcess host deallocate res store) := by
  have hmemory := fits_memoryBytes hstore
  unfold afterProcess
  split
  · dsimp only
    split
    · split
      · exact budgeted_panic _
      · have hreleased := fun args => solvent_spends hstore (hdeallocate args store)
        exact budgeted_ok (budgeted_getMetrics (hreleased _) hmemory host .success _ none)
    · exact budgeted_ok (budgeted_getMetrics hstore hmemory host .success [] none)
  · exact budgeted_panic _

theorem budgeted_afterAllocate (hdeallocate : deallocate.Metered) (hprocess : process.Metered)
    {memoryUsed : Int64} {input : Bytes} {allocResult : Value} {store : Store σ}
    (hstore : Solvent store) (hmemory : Fits memoryUsed) :
    Budgeted (afterAllocate host deallocate process memoryUsed input allocResult store) := by
  unfold afterAllocate
  dsimp only
  split
  · exact budgeted_ok (budgeted_getMetrics hstore hmemory host _ _ _)
  · split
    · exact budgeted_panic _
    · next memory hwrite =>
        have hwritten := solvent_hostWrite hstore hwrite
        split
        · next err store₂ hcall =>
            exact budgeted_ok (budgeted_handleExecutionError
              (solvent_call hprocess hwritten hcall) (fits_memoryBytes hwritten) host err)
        · next res store₂ hcall =>
            exact budgeted_afterProcess hdeallocate (solvent_call hprocess hwritten hcall)

theorem budgeted_runInstance {inst : Instance σ} (hinst : inst.Metered) {input : Bytes}
    {store : Store σ} (hstore : Solvent store) : Budgeted (runInstance host inst input store) := by
  have hmemory : Fits (if inst.memory = some .memory then memoryBytes store.memory else 0) := by
    split
    · exact fits_memoryBytes hstore
    · exact fits_zero
  unfold runInstance
  dsimp only
  split
  · exact budgeted_panic _
  · split
    · next allocate deallocate process hallocate hdeallocate hprocess _ =>
        have hmetered := hinst.allocate allocate hallocate
        split
        · next err store₁ hcall =>
            exact budgeted_ok
              (budgeted_handleExecutionError (solvent_call hmetered hstore hcall) hmemory host err)
        · next allocResult store₁ hcall =>
            exact budgeted_afterAllocate (hinst.deallocate deallocate hdeallocate)
              (hinst.process process hprocess) (solvent_call hmetered hstore hcall) hmemory
    · exact budgeted_ok (budgeted_getMetrics hstore hmemory host _ _ _)

theorem budgeted_runModule {guest : Guest σ} (hguest : guest.Metered) (input : Bytes) :
    Budgeted (runModule host guest input) := by
  have hfresh := solvent_fresh guest
  unfold runModule
  dsimp only
  split
  · exact budgeted_error
  · exact budgeted_error
  · exact budgeted_error
  · split
    · exact budgeted_ok (budgeted_getMetrics hfresh fits_zero host _ _ _)
    · split
      · next err store₁ hcall =>
          have hspends := hguest.instantiate (freshStore guest)
          rw [hcall] at hspends
          exact budgeted_ok
            (budgeted_getMetrics (solvent_spends hfresh hspends) fits_zero host _ _ _)
      · next inst store₁ hcall =>
          have hspends := hguest.instantiate (freshStore guest)
          rw [hcall] at hspends
          exact budgeted_runInstance (hguest.exports _ inst store₁ hcall)
            (solvent_spends hfresh hspends)

end Paths

/-- A load error has no figures. -/
theorem budgeted_runLoaded {M : Type} {host : Host} {guest : M → Guest σ}
    (hguest : ∀ m, (guest m).Metered) {input : Bytes} {loaded : Except Bytes (Option M)}
    {result : ExecutionResult} (h : runLoaded host guest input loaded = .ok (.ok result)) :
    result.Budgeted := by
  unfold runLoaded at h
  split at h
  · cases h
    have hfuel : 0 ≤ (0 : Int64).toInt ∧ (0 : Int64).toInt ≤ maxFuel.toNat :=
      ⟨by decide, by decide⟩
    exact ⟨hfuel, fits_zero⟩
  · cases h
  · next m =>
      cases hrun : runModule host (guest m) input with
      | error p =>
          rw [hrun] at h
          cases h
      | ok r =>
          obtain ⟨r, store⟩ := r
          rw [hrun] at h
          obtain rfl : r = .ok result := Except.ok.inj h
          exact budgeted_runModule (hguest m) input result store hrun

end PluginSandbox.Sandbox
