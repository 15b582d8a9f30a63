/-
  Guests that keep a record of their calls.

  `Guest.traced` puts a log of the answers of its exported functions beside a guest's own
  state. No function reads it, so a run of the traced guest is a run of the guest
  (`runModule_traced`), and the log says which calls trapped.
-/
import PluginSandbox.Sandbox.Run

namespace PluginSandbox.Sandbox

open PluginSandbox.Lib

variable {σ : Type}

/-! ## The log -/

/-- A guest's state and the answers of the calls so far. -/
structure Traced (σ : Type) where
  guest : σ
  answers : List (Except Bytes Value)

def Store.untraced (store : Store (Traced σ)) : Store σ :=
  { store with guest := store.guest.guest }

def Store.traced (store : Store σ) (answers : List (Except Bytes Value)) : Store (Traced σ) :=
  { store with guest := ⟨store.guest, answers⟩ }

def GuestFunc.traced (f : GuestFunc σ) : GuestFunc (Traced σ) := fun args store =>
  let r := f args store.untraced
  (r.1, r.2.traced (store.guest.answers ++ [r.1]))

def Instance.traced (inst : Instance σ) : Instance (Traced σ) :=
  ⟨inst.memory, inst.allocate.map GuestFunc.traced, inst.deallocate.map GuestFunc.traced,
    inst.process.map GuestFunc.traced⟩

def Guest.traced (guest : Guest σ) : Guest (Traced σ) where
  fresh := ⟨guest.fresh, []⟩
  instantiate store :=
    let r := guest.instantiate store.untraced
    (r.1.map Instance.traced, r.2.traced store.guest.answers)

/-- No call that the guest has answered trapped. -/
def NoTrap (store : Store (Traced σ)) : Prop :=
  ∀ answer ∈ store.guest.answers, ∃ v, answer = .ok v

/-! ## A traced run is a run -/

def Outcome.untraced (o : Outcome (Traced σ)) : Outcome σ :=
  o.map fun r => (r.1, r.2.untraced)

theorem traced_apply (f : GuestFunc σ) (args : List Int32) (store : Store (Traced σ)) :
    ((f.traced args store).1, (f.traced args store).2.untraced) = f args store.untraced := rfl

section Run

variable (host : Host)

theorem afterProcess_traced (deallocate : GuestFunc σ) (res : Value) (store : Store (Traced σ)) :
    Outcome.untraced (afterProcess host deallocate.traced res store) =
      afterProcess host deallocate res store.untraced := by
  cases res with
  | int64 packed =>
      unfold afterProcess
      dsimp only
      split
      · have hmemory : store.untraced.memory = store.memory := rfl
        rw [hmemory]
        cases hostRead store.memory (upperWord packed) (lowerWord packed) <;> rfl
      · rfl
  | _ => rfl

theorem afterAllocate_traced (deallocate process : GuestFunc σ) (memoryUsed : Int64)
    (input : Bytes) (v : Value) (store : Store (Traced σ)) :
    Outcome.untraced
        (afterAllocate host deallocate.traced process.traced memoryUsed input v store) =
      afterAllocate host deallocate process memoryUsed input v store.untraced := by
  have hmemory : store.untraced.memory = store.memory := rfl
  unfold afterAllocate
  dsimp only
  split
  · rfl
  · rw [hmemory]
    cases hostWrite store.memory (toInt32 host v) (Int32.ofNat input.length) input with
    | error p => rfl
    | ok memory =>
        have happly := traced_apply process [toInt32 host v, Int32.ofNat input.length]
          { store with memory }
        have hstore : ({ store with memory } : Store (Traced σ)).untraced =
            { store.untraced with memory } := rfl
        rw [hstore] at happly
        dsimp only
        rw [← happly]
        cases hp : process.traced [toInt32 host v, Int32.ofNat input.length]
            { store with memory } with
        | mk r store₂ =>
            cases r with
            | error err => rfl
            | ok res => exact afterProcess_traced host deallocate res store₂

theorem runInstance_traced (inst : Instance σ) (input : Bytes) (store : Store (Traced σ)) :
    Outcome.untraced (runInstance host inst.traced input store) =
      runInstance host inst input store.untraced := by
  obtain ⟨memory, allocate, deallocate, process⟩ := inst
  unfold runInstance Instance.traced
  dsimp only
  cases externMemory memory with
  | error p => rfl
  | ok hasMemory =>
      dsimp only
      cases allocate with
      | none => rfl
      | some allocate =>
          cases deallocate with
          | none => rfl
          | some deallocate =>
              cases process with
              | none => rfl
              | some process =>
                  cases hasMemory with
                  | false => rfl
                  | true =>
                      simp only [Option.map_some]
                      rw [← traced_apply allocate]
                      cases allocate.traced [Int32.ofNat input.length] store with
                      | mk r store₁ =>
                          cases r with
                          | error err => rfl
                          | ok v =>
                              exact afterAllocate_traced host deallocate process _ input v store₁

/-- Tracing changes nothing that the host or the guest sees. -/
theorem runModule_traced (guest : Guest σ) (input : Bytes) :
    Outcome.untraced (runModule host guest.traced input) = runModule host guest input := by
  have hinst : guest.traced.instantiate (freshStore guest.traced) =
      ((guest.instantiate (freshStore guest)).1.map Instance.traced,
        (guest.instantiate (freshStore guest)).2.traced []) := rfl
  unfold runModule
  dsimp only
  cases host.createStdout with
  | some err => rfl
  | none =>
      cases host.createStderr with
      | some err => rfl
      | none =>
          cases host.setFuel with
          | some err => rfl
          | none =>
              cases host.defineWasi with
              | some err => rfl
              | none =>
                  rw [hinst]
                  cases guest.instantiate (freshStore guest) with
                  | mk r store₁ =>
                      cases r with
                      | error err => rfl
                      | ok inst => exact runInstance_traced host inst input (store₁.traced [])

end Run

end PluginSandbox.Sandbox
