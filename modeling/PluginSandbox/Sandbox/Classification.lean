/-
  The status of a run that the guest ended with an error, against what ended it.

  The text of an error is what the guest had a hand in, a backtrace with the names of its
  functions or the name of an import, followed by the description of the cause. `Engine.Run`
  looks for words in this text, other ones for an error of `Instantiate` than for one of a
  call, and for a call then in the logs too, which hold what the guest printed and the text
  again. `status_truthful_iff` says which words make the status that of the cause
  (`Truthful`): a call that ran out of fuel is always told, an instantiation that did never,
  and an access out of bounds never (`outOfBounds_not_truthful`).
-/
import PluginSandbox.Sandbox.Marshalling

namespace PluginSandbox.Sandbox

open PluginSandbox.Lib

variable {σ : Type}

/-! ## Causes -/

/-- What ends a guest execution. -/
inductive Cause where
  | fuelExhausted
  /-- The memory limit refused a growth, and the guest gave up. -/
  | growthRefused
  /-- The memory limit refused the memory that the module starts with. -/
  | memoryTooLarge (pages : Nat)
  /-- A panic ends in `unreachable` too. -/
  | unreachable
  | outOfBounds
  | missingImport
  /-- Any other trap or host error. -/
  | other (description : Bytes)

/-- The standard description. -/
def Cause.description : Cause → Bytes
  | .fuelExhausted => utf8 "wasm trap: all fuel consumed by WebAssembly"
  | .growthRefused => utf8 "wasm trap: wasm `unreachable` instruction executed"
  | .memoryTooLarge pages =>
    utf8 ("memory minimum size of " ++ toString pages ++ " pages exceeds memory limits")
  | .unreachable => utf8 "wasm trap: wasm `unreachable` instruction executed"
  | .outOfBounds => utf8 "wasm trap: out of bounds memory access"
  | .missingImport => utf8 "` has not been defined"
  | .other description => description

/-- The status that names the cause. -/
def Cause.status : Cause → Status
  | .fuelExhausted => .outOfFuel
  | .growthRefused => .outOfMemory
  | .memoryTooLarge _ => .outOfMemory
  | .unreachable => .runtimeError
  | .outOfBounds => .runtimeError
  | .missingImport => .runtimeError
  | .other _ => .runtimeError

structure GuestError where
  /-- The backtrace, or the text up to the name of the import. -/
  names : Bytes
  cause : Cause

def GuestError.text (e : GuestError) : Bytes := e.names ++ e.cause.description

/-! ## Words -/

theorem contains_iff {s sub : Bytes} : contains s sub = true ↔ sub <:+: s := decide_eq_true_iff

theorem contains_append_right {s sub : Bytes} (t : Bytes) (h : contains s sub = true) :
    contains (t ++ s) sub = true :=
  contains_iff.mpr ((contains_iff.mp h).trans (List.suffix_append t s).isInfix)

theorem contains_trans {s sub sub' : Bytes} (hsub : sub' <:+: sub) (h : contains s sub = true) :
    contains s sub' = true :=
  contains_iff.mpr (hsub.trans (contains_iff.mp h))

def saysFuel (text : Bytes) : Bool := contains text (utf8 "fuel")

def saysMemory (text : Bytes) : Bool :=
  contains text (utf8 "memory") || contains text (utf8 "limit")

def saysBounds (text : Bytes) : Bool := contains text (utf8 "out of bounds")

def saysAlloc (logs : Bytes) : Bool :=
  contains logs (utf8 "alloc") || contains logs (utf8 "out of memory")

/-- The logs of a result: what the guest printed, then the text of the error. -/
def failureLogs (host : Host) (store : Store σ) (err : Bytes) : Bytes :=
  (getMetrics host 0 store .runtimeError [] (some err)).logs

/-! ## The two classifications -/

/-- The status of an error that `Instantiate` returns. -/
def instantiateStatus (err : Bytes) : Status :=
  if saysMemory err then .outOfMemory else .runtimeError

/-- Both scans of `handleExecutionError`. -/
def callStatus (err logs : Bytes) : Status :=
  if saysFuel err then .outOfFuel
  else if saysMemory err || saysBounds err || saysAlloc logs then .outOfMemory
  else .runtimeError

/-- The first of the three words of the second scan contains the second. -/
theorem saysAlloc_eq (logs : Bytes) :
    (contains logs (utf8 "memory allocation") || contains logs (utf8 "alloc") ||
      contains logs (utf8 "out of memory")) = saysAlloc logs := by
  have hword : utf8 "alloc" <:+: utf8 "memory allocation" := by decide
  unfold saysAlloc
  cases h : contains logs (utf8 "memory allocation") with
  | false => rfl
  | true => rw [contains_trans hword h]; rfl

theorem handleExecutionError_status (host : Host) (memoryUsed : Int64) (store : Store σ)
    (err : Bytes) :
    (handleExecutionError host memoryUsed store err).status =
      callStatus err (failureLogs host store err) := by
  have hstatus : (handleExecutionError host memoryUsed store err).status =
      if statusOfError err = .runtimeError ∧
          (contains (failureLogs host store err) (utf8 "memory allocation") ||
            contains (failureLogs host store err) (utf8 "alloc") ||
            contains (failureLogs host store err) (utf8 "out of memory")) then .outOfMemory
      else statusOfError err := rfl
  have hfirst : statusOfError err =
      if saysFuel err then .outOfFuel
      else if saysMemory err || saysBounds err then .outOfMemory else .runtimeError := rfl
  rw [hstatus, hfirst, saysAlloc_eq]
  unfold callStatus
  cases saysFuel err with
  | true => rfl
  | false =>
      cases saysMemory err || saysBounds err with
      | true => rfl
      | false => cases saysAlloc (failureLogs host store err) <;> rfl

/-! ## Truthful words -/

/-- Where an error is raised. -/
inductive Site where
  | instantiate
  | allocate
  | process
  deriving DecidableEq, Repr

/-- The words of the text fit the cause of a failed instantiation. -/
def TruthfulStart (e : GuestError) : Prop :=
  match e.cause.status with
  | .outOfMemory => saysMemory e.text = true
  | .runtimeError => saysMemory e.text = false
  | _ => False

/-- The words of the text and of the logs fit the cause of a failed call. -/
def TruthfulCall (e : GuestError) (logs : Bytes) : Prop :=
  match e.cause.status with
  | .outOfMemory =>
    saysFuel e.text = false ∧
      (saysMemory e.text = true ∨ saysBounds e.text = true ∨ saysAlloc logs = true)
  | .runtimeError =>
    saysFuel e.text = false ∧ saysMemory e.text = false ∧ saysBounds e.text = false ∧
      saysAlloc logs = false
  | _ => True

def Truthful (site : Site) (e : GuestError) (logs : Bytes) : Prop :=
  match site with
  | .instantiate => TruthfulStart e
  | .allocate => TruthfulCall e logs
  | .process => TruthfulCall e logs

/-- The description of an exhausted budget says so. -/
theorem saysFuel_fuelExhausted {e : GuestError} (h : e.cause = .fuelExhausted) :
    saysFuel e.text = true := by
  unfold GuestError.text saysFuel
  rw [h]
  exact contains_append_right e.names (by decide)

theorem saysMemory_outOfBounds {e : GuestError} (h : e.cause = .outOfBounds) :
    saysMemory e.text = true := by
  have hword : contains (utf8 "wasm trap: out of bounds memory access") (utf8 "memory") = true := by
    decide
  unfold GuestError.text saysMemory
  rw [h, Cause.description, contains_append_right e.names hword]
  rfl

theorem Cause.status_outOfFuel {c : Cause} : c.status = .outOfFuel ↔ c = .fuelExhausted := by
  cases c <;> simp [Cause.status]

theorem Cause.status_ne_success (c : Cause) : c.status ≠ .success := by
  cases c <;> exact nofun

theorem instantiateStatus_truthful (e : GuestError) :
    instantiateStatus e.text = e.cause.status ↔ TruthfulStart e := by
  unfold instantiateStatus TruthfulStart
  cases hs : e.cause.status with
  | success => exact absurd hs e.cause.status_ne_success
  | outOfFuel | outOfMemory | runtimeError => cases saysMemory e.text <;> simp

theorem callStatus_truthful (e : GuestError) (logs : Bytes) :
    callStatus e.text logs = e.cause.status ↔ TruthfulCall e logs := by
  unfold callStatus TruthfulCall
  cases hs : e.cause.status with
  | success => exact absurd hs e.cause.status_ne_success
  | outOfFuel => rw [saysFuel_fuelExhausted (Cause.status_outOfFuel.mp hs)]; simp
  | outOfMemory | runtimeError =>
      cases saysFuel e.text <;> cases saysMemory e.text <;> cases saysBounds e.text <;>
        cases saysAlloc logs <;> simp

/-- An access out of bounds is never told as one. -/
theorem outOfBounds_not_truthful {e : GuestError} (h : e.cause = .outOfBounds) (site : Site)
    (logs : Bytes) : ¬ Truthful site e logs := by
  have hstatus : e.cause.status = .runtimeError := by rw [h]; rfl
  unfold Truthful TruthfulStart TruthfulCall
  rw [hstatus, saysMemory_outOfBounds h]
  cases site <;> simp

/-! ## Runs that end in an error -/

section Run

variable (host : Host) (guest : Guest σ) (input : Bytes)

/-- The run calls the guest until `site`, where it answers `err` and leaves `store`. -/
inductive Raises : Site → Bytes → Store σ → Prop where
  | instantiate {err : Bytes} {store : Store σ}
      (hinst : guest.instantiate (freshStore guest) = (.error err, store)) :
      Raises .instantiate err store
  | allocate {allocate deallocate process : GuestFunc σ} {err : Bytes} {store store₁ : Store σ}
      (hinst : guest.instantiate (freshStore guest) =
        (.ok ⟨some .memory, some allocate, some deallocate, some process⟩, store))
      (halloc : allocate [Int32.ofNat input.length] store = (.error err, store₁)) :
      Raises .allocate err store₁
  | process {allocate deallocate process : GuestFunc σ} {v : Value} {err : Bytes}
      {store store₁ store₂ : Store σ}
      (hinst : guest.instantiate (freshStore guest) =
        (.ok ⟨some .memory, some allocate, some deallocate, some process⟩, store))
      (halloc : allocate [Int32.ofNat input.length] store = (.ok v, store₁))
      (hcalled : toInt32 host v ≠ 0 ∨ input = [])
      (hw : Writable store₁.memory (toInt32 host v) (Int32.ofNat input.length))
      (hprocess : process [toInt32 host v, Int32.ofNat input.length]
        (store₁.withInput (toInt32 host v) (Int32.ofNat input.length) input) =
          (.error err, store₂)) :
      Raises .process err store₂

variable {host guest input}

theorem runModule_instantiate_error (hready : host.Ready) {err : Bytes} {store : Store σ}
    (hinst : guest.instantiate (freshStore guest) = (.error err, store)) :
    runModule host guest input =
      .ok (.ok (getMetrics host 0 store (instantiateStatus err) [] (some err)), store) := by
  obtain ⟨h₁, h₂, h₃, h₄⟩ := hready
  unfold runModule
  rw [h₁, h₂, h₃, h₄]
  dsimp only
  rw [hinst]
  rfl

theorem runInstance_allocate_error {allocate deallocate process : GuestFunc σ} {err : Bytes}
    {store store₁ : Store σ}
    (halloc : allocate [Int32.ofNat input.length] store = (.error err, store₁)) :
    runInstance host ⟨some .memory, some allocate, some deallocate, some process⟩ input store =
      .ok (.ok (handleExecutionError host (memoryBytes store.memory) store₁ err), store₁) := by
  have hext : externMemory (some .memory) = .ok true := rfl
  unfold runInstance
  rw [hext, if_pos rfl]
  dsimp only
  rw [halloc]

theorem runInstance_process_error {allocate deallocate process : GuestFunc σ} {v : Value}
    {err : Bytes} {store store₁ store₂ : Store σ}
    (halloc : allocate [Int32.ofNat input.length] store = (.ok v, store₁))
    (hcalled : toInt32 host v ≠ 0 ∨ input = [])
    (hw : Writable store₁.memory (toInt32 host v) (Int32.ofNat input.length))
    (hprocess : process [toInt32 host v, Int32.ofNat input.length]
      (store₁.withInput (toInt32 host v) (Int32.ofNat input.length) input) =
        (.error err, store₂)) :
    runInstance host ⟨some .memory, some allocate, some deallocate, some process⟩ input store =
      .ok (.ok (handleExecutionError host (memoryBytes store₁.memory) store₂ err), store₂) := by
  have hext : externMemory (some .memory) = .ok true := rfl
  unfold runInstance
  rw [hext]
  dsimp only
  rw [halloc]
  dsimp only
  rw [afterAllocate_writable host deallocate process _ hcalled hw, hprocess]

/-- A run that ends in an error raised by `Instantiate`, `allocate` or `process` returns a
    result, and its status is that of the cause exactly when the words are truthful. -/
theorem status_truthful_iff (hready : host.Ready) {site : Site} {e : GuestError}
    {store : Store σ} (h : Raises host guest input site e.text store) :
    ∃ result, runModule host guest input = .ok (.ok result, store) ∧
      (result.status = e.cause.status ↔ Truthful site e (failureLogs host store e.text)) := by
  cases h with
  | instantiate hinst =>
      exact ⟨_, runModule_instantiate_error hready hinst, instantiateStatus_truthful e⟩
  | allocate hinst halloc =>
      refine ⟨_, (runModule_ready hready hinst input).trans (runInstance_allocate_error halloc), ?_⟩
      rw [handleExecutionError_status]
      exact callStatus_truthful e _
  | process hinst halloc hcalled hw hprocess =>
      refine ⟨_, (runModule_ready hready hinst input).trans
        (runInstance_process_error halloc hcalled hw hprocess), ?_⟩
      rw [handleExecutionError_status]
      exact callStatus_truthful e _

end Run

/-! ## A guest that prints and stops -/

/-- `process` prints a text and ends with an error. -/
def stoppingGuest (stdout : Bytes) (e : GuestError) : Guest Unit where
  fresh := ()
  instantiate store :=
    (.ok {
      memory := some .memory
      allocate := some fun _ s => (.ok (.int32 1024), s)
      deallocate := some fun _ s => (.ok .nil, s)
      process := some fun _ s => (.error e.text, { s with stdout }) },
      { store with memory := { store.memory with pages := 1 } })

set_option maxRecDepth 4096 in
/-- A guest that prints `allocating` and panics is reported as out of memory. -/
theorem panic_reported_outOfMemory :
    ∃ result store, runModule .quiet (stoppingGuest (utf8 "allocating") ⟨[], .unreachable⟩)
        [123, 125] = .ok (.ok result, store) ∧
      result.status = .outOfMemory ∧ Cause.unreachable.status = .runtimeError :=
  ⟨_, _, rfl, by decide, rfl⟩

set_option maxRecDepth 4096 in
/-- The same guest with another text. -/
theorem panic_reported_runtimeError :
    ∃ result store, runModule .quiet (stoppingGuest (utf8 "building") ⟨[], .unreachable⟩)
        [123, 125] = .ok (.ok result, store) ∧ result.status = .runtimeError := by
  have hready : Host.quiet.Ready := ⟨rfl, rfl, rfl, rfl⟩
  have hwritable : Writable ⟨1, fun _ => 0⟩ 1024 2 :=
    ⟨by decide, by decide, by decide, by decide⟩
  obtain ⟨result, hrun, hstatus⟩ := @status_truthful_iff Unit .quiet
    (stoppingGuest (utf8 "building") ⟨[], .unreachable⟩) [123, 125] hready .process
    ⟨[], .unreachable⟩ _ (.process rfl rfl (.inl (by decide)) hwritable rfl)
  exact ⟨result, _, hrun, hstatus.mpr ⟨by decide, by decide, by decide, by decide⟩⟩

end PluginSandbox.Sandbox
