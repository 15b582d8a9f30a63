/-
  Concurrent calls of `GetModule`.

  A call is three sections of `sandbox/engine.go` under the lock: the first read, `Compile`,
  and the read of what `Compile` left. Each is one step; any number of calls is under way and
  their sections interleave in any order. Modules are pointers: two compilations of the same
  bytes give different ones, and `NewModule` may answer every call of it differently.

  `Inv` ties the map to the successful compilations and to what a suspended call has seen:
  behind its `Compile` there is an entry. `getModule_doubleChecked` draws from it that the
  calls for one id share one module, and `getModule_alone` says that a call whose sections
  are not interrupted is `Engine.getModule`.
-/
import PluginSandbox.Sandbox.Engine

namespace PluginSandbox.Sandbox

open PluginSandbox.Lib

/-! ## The machine -/

/-- A module by its pointer: which call of `NewModule` made it, and from what. -/
structure Module (C : Type) where
  serial : Nat
  code : C

/-- Where a call of `GetModule` stands. -/
inductive CallPhase (C : Type) where
  | lookup
  | compile
  | reread
  | returned (r : Except Bytes (Option (Module C)))

structure ModuleCall (C : Type) where
  pluginID : String
  wasmBytes : Bytes
  phase : CallPhase C

/-- A call of `NewModule` that succeeded. -/
structure Compilation (C : Type) where
  pluginID : String
  wasmBytes : Bytes
  module : Module C

/-- The engine and the calls. `compilations` is a log that no code reads. -/
structure CacheState (C : Type) where
  engine : Engine (Module C)
  calls : Nat → Option (ModuleCall C)
  attempts : Nat
  compilations : List (Compilation C)

def CacheState.new (C : Type) : CacheState C := ⟨.new _, fun _ => none, 0, []⟩

inductive CacheEvent where
  /-- `GetModule` is called; `c` names the call. -/
  | call (c : Nat) (pluginID : String) (wasmBytes : Bytes)
  /-- The call `c` runs its next section. -/
  | proceed (c : Nat)

def CacheEvent.caller : CacheEvent → Nat
  | .call c _ _ => c
  | .proceed c => c

section Machine

variable {C : Type} (newModule : Nat → Bytes → Except Bytes C)

/-- The call `k` of `NewModule`. -/
def attempt (k : Nat) (wasmBytes : Bytes) : Except Bytes (Module C) :=
  (newModule k wasmBytes).map (Module.mk k)

namespace CacheState

variable (s : CacheState C)

/-- The first read. -/
def lookup (call : ModuleCall C) : CallPhase C :=
  match s.engine.modules call.pluginID with
  | some mod => .returned (.ok (some mod))
  | none => .compile

/-- What the section of `Compile` adds to the log. -/
def made (call : ModuleCall C) : List (Compilation C) :=
  match s.engine.modules call.pluginID, attempt newModule s.attempts call.wasmBytes with
  | none, .ok module => [⟨call.pluginID, call.wasmBytes, module⟩]
  | _, _ => []

/-- `Compile`, as `GetModule` goes on from it. -/
def compile (call : ModuleCall C) : CacheState C × CallPhase C :=
  let r := s.engine.compile (attempt newModule s.attempts) call.pluginID call.wasmBytes
  ({ s with
      engine := r.2
      attempts :=
        if (s.engine.modules call.pluginID).isSome then s.attempts else s.attempts + 1
      compilations := s.compilations ++ s.made newModule call },
    match r.1 with
    | .error err => .returned (.error err)
    | .ok () => .reread)

def setPhase (c : Nat) (call : ModuleCall C) (phase : CallPhase C) : CacheState C :=
  { s with calls := Function.update s.calls c (some { call with phase }) }

/-- The next section of the call `c`. -/
def proceed (c : Nat) (call : ModuleCall C) : Option (CacheState C) :=
  match call.phase with
  | .lookup => some (s.setPhase c call (s.lookup call))
  | .compile => some ((s.compile newModule call).1.setPhase c call (s.compile newModule call).2)
  | .reread => some (s.setPhase c call (.returned (.ok (s.engine.modules call.pluginID))))
  | .returned _ => none

end CacheState

def cacheStep (s : CacheState C) : CacheEvent → Option (CacheState C)
  | .call c pluginID wasmBytes =>
    match s.calls c with
    | none => some (s.setPhase c ⟨pluginID, wasmBytes, .lookup⟩ .lookup)
    | some _ => none
  | .proceed c =>
    match s.calls c with
    | none => none
    | some call => s.proceed newModule c call

/-! ## What a step can do -/

inductive CacheTransition (s : CacheState C) : CacheEvent → CacheState C → Prop where
  | call (c : Nat) (id : String) (wasm : Bytes) (hcall : s.calls c = none) :
      CacheTransition s (.call c id wasm) (s.setPhase c ⟨id, wasm, .lookup⟩ .lookup)
  | hit (c : Nat) (id : String) (wasm : Bytes) (mod : Module C)
      (hcall : s.calls c = some ⟨id, wasm, .lookup⟩) (hmod : s.engine.modules id = some mod) :
      CacheTransition s (.proceed c)
        (s.setPhase c ⟨id, wasm, .lookup⟩ (.returned (.ok (some mod))))
  | miss (c : Nat) (id : String) (wasm : Bytes)
      (hcall : s.calls c = some ⟨id, wasm, .lookup⟩) (hmod : s.engine.modules id = none) :
      CacheTransition s (.proceed c) (s.setPhase c ⟨id, wasm, .lookup⟩ .compile)
  | found (c : Nat) (id : String) (wasm : Bytes) (mod : Module C)
      (hcall : s.calls c = some ⟨id, wasm, .compile⟩) (hmod : s.engine.modules id = some mod) :
      CacheTransition s (.proceed c) (s.setPhase c ⟨id, wasm, .compile⟩ .reread)
  | failed (c : Nat) (id : String) (wasm err : Bytes)
      (hcall : s.calls c = some ⟨id, wasm, .compile⟩) (hmod : s.engine.modules id = none)
      (hnew : newModule s.attempts wasm = .error err) :
      CacheTransition s (.proceed c)
        ({ s with attempts := s.attempts + 1 }.setPhase c ⟨id, wasm, .compile⟩
          (.returned (.error (utf8 "failed to compile Wasm: " ++ err))))
  | compiled (c : Nat) (id : String) (wasm : Bytes) (code : C)
      (hcall : s.calls c = some ⟨id, wasm, .compile⟩) (hmod : s.engine.modules id = none)
      (hnew : newModule s.attempts wasm = .ok code) :
      CacheTransition s (.proceed c)
        ({ s with
            engine := ⟨Function.update s.engine.modules id (some ⟨s.attempts, code⟩)⟩
            attempts := s.attempts + 1
            compilations :=
              s.compilations ++ [Compilation.mk id wasm ⟨s.attempts, code⟩] }.setPhase c
          ⟨id, wasm, .compile⟩ .reread)
  | reread (c : Nat) (id : String) (wasm : Bytes)
      (hcall : s.calls c = some ⟨id, wasm, .reread⟩) :
      CacheTransition s (.proceed c)
        (s.setPhase c ⟨id, wasm, .reread⟩ (.returned (.ok (s.engine.modules id))))

variable {newModule} {s t : CacheState C} {e : CacheEvent}

/-- The section of `Compile`, by what it finds and what `NewModule` answers. -/
theorem compile_transition {c : Nat} {id : String} {wasm : Bytes}
    (hcall : s.calls c = some ⟨id, wasm, .compile⟩) :
    CacheTransition newModule s (.proceed c)
      ((s.compile newModule ⟨id, wasm, .compile⟩).1.setPhase c ⟨id, wasm, .compile⟩
        (s.compile newModule ⟨id, wasm, .compile⟩).2) := by
  unfold CacheState.compile CacheState.made Engine.compile attempt
  dsimp only
  cases hmod : s.engine.modules id with
  | some mod =>
      have htrans : CacheTransition newModule s (.proceed c) _ := .found c id wasm mod hcall hmod
      simpa using htrans
  | none =>
      cases hnew : newModule s.attempts wasm with
      | error err =>
          have htrans := CacheTransition.failed c id wasm err hcall hmod hnew
          simpa [Except.map] using htrans
      | ok code =>
          have htrans := CacheTransition.compiled c id wasm code hcall hmod hnew
          simpa [Except.map] using htrans

theorem cacheStep_transition (h : cacheStep newModule s e = some t) :
    CacheTransition newModule s e t := by
  cases e with
  | call c id wasm =>
      unfold cacheStep at h
      dsimp only at h
      cases hcall : s.calls c with
      | some call => simp [hcall] at h
      | none =>
          rw [hcall] at h
          cases h
          exact .call c id wasm hcall
  | proceed c =>
      unfold cacheStep at h
      dsimp only at h
      cases hcall : s.calls c with
      | none => simp [hcall] at h
      | some call =>
          rw [hcall] at h
          obtain ⟨id, wasm, phase⟩ := call
          cases phase with
          | lookup =>
              cases h
              unfold CacheState.lookup
              dsimp only
              cases hmod : s.engine.modules id with
              | some mod => exact .hit c id wasm mod hcall hmod
              | none => exact .miss c id wasm hcall hmod
          | compile =>
              cases h
              exact compile_transition hcall
          | reread =>
              cases h
              exact .reread c id wasm hcall
          | returned r => cases h

/-! ## The invariant -/

/-- What a call has seen in its sections so far still holds of the map. -/
def CallPhase.Seen (modules : String → Option (Module C)) (id : String) : CallPhase C → Prop
  | .lookup => True
  | .compile => True
  | .reread => ∃ m, modules id = some m
  | .returned (.ok r) => ∃ m, r = some m ∧ modules id = some m
  | .returned (.error _) => True

/-- The map holds the successful compilations, one for each id, and every call of an id brings
    the bytes `wasm id`. -/
structure CacheInv (newModule : Nat → Bytes → Except Bytes C) (wasm : String → Bytes)
    (s : CacheState C) : Prop where
  stored : ∀ id m, s.engine.modules id = some m → ⟨id, wasm id, m⟩ ∈ s.compilations
  logged : ∀ k ∈ s.compilations, s.engine.modules k.pluginID = some k.module
  answered : ∀ k ∈ s.compilations, newModule k.module.serial k.wasmBytes = .ok k.module.code
  once : (s.compilations.map Compilation.pluginID).Nodup
  bytes : ∀ c call, s.calls c = some call → call.wasmBytes = wasm call.pluginID
  seen : ∀ c call, s.calls c = some call → call.phase.Seen s.engine.modules call.pluginID

theorem cacheInv_new (wasm : String → Bytes) : CacheInv newModule wasm (.new C) :=
  ⟨nofun, nofun, nofun, List.nodup_nil, nofun, nofun⟩

theorem calls_setPhase {c c' : Nat} {call call' : ModuleCall C} {phase : CallPhase C}
    (h : (s.setPhase c call phase).calls c' = some call') :
    (c' = c ∧ call' = { call with phase }) ∨ (c' ≠ c ∧ s.calls c' = some call') := by
  unfold CacheState.setPhase at h
  dsimp only at h
  by_cases hc : c' = c
  · rw [hc, Function.update_self] at h
    exact .inl ⟨hc, (Option.some.inj h).symm⟩
  · rw [Function.update_of_ne hc] at h
    exact .inr ⟨hc, h⟩

variable {wasm : String → Bytes}

/-- A step that touches one call and not the map. -/
theorem cacheInv_setPhase (hinv : CacheInv newModule wasm s) {c : Nat} {call : ModuleCall C}
    {phase : CallPhase C} (hbytes : call.wasmBytes = wasm call.pluginID)
    (hseen : phase.Seen s.engine.modules call.pluginID) :
    CacheInv newModule wasm (s.setPhase c call phase) := by
  refine ⟨hinv.stored, hinv.logged, hinv.answered, hinv.once, ?_, ?_⟩
  · intro c' call' h
    rcases calls_setPhase h with ⟨-, rfl⟩ | ⟨-, hold⟩
    · exact hbytes
    · exact hinv.bytes c' call' hold
  · intro c' call' h
    rcases calls_setPhase h with ⟨-, rfl⟩ | ⟨-, hold⟩
    · exact hseen
    · exact hinv.seen c' call' hold

theorem seen_mono {modules modules' : String → Option (Module C)} {id : String}
    {phase : CallPhase C} (hkept : ∀ m, modules id = some m → modules' id = some m)
    (h : phase.Seen modules id) : phase.Seen modules' id := by
  cases phase with
  | lookup | compile => trivial
  | reread =>
      obtain ⟨m, hm⟩ := h
      exact ⟨m, hkept m hm⟩
  | returned r =>
      cases r with
      | error err => trivial
      | ok r =>
          obtain ⟨m, hr, hm⟩ := h
          exact ⟨m, hr, hkept m hm⟩

/-- An entry that is new keeps the others. -/
theorem update_kept {modules : String → Option (Module C)} {id : String} (m : Module C)
    (hnone : modules id = none) {k : String} {mod : Module C} (h : modules k = some mod) :
    Function.update modules id (some m) k = some mod := by
  have hne : k ≠ id := by
    rintro rfl
    rw [hnone] at h
    cases h
  rw [Function.update_of_ne hne, h]

/-- The section of `Compile` that stores a module. -/
theorem cacheInv_compiled (hinv : CacheInv newModule wasm s) {id : String} {code : C}
    (hmod : s.engine.modules id = none) (hnew : newModule s.attempts (wasm id) = .ok code) :
    CacheInv newModule wasm
      { s with
        engine := ⟨Function.update s.engine.modules id (some ⟨s.attempts, code⟩)⟩
        attempts := s.attempts + 1
        compilations := s.compilations ++ [Compilation.mk id (wasm id) ⟨s.attempts, code⟩] } := by
  have hkept := fun k mod => @update_kept C s.engine.modules id ⟨s.attempts, code⟩ hmod k mod
  refine ⟨?_, ?_, ?_, ?_, hinv.bytes, ?_⟩
  · intro k m hm
    by_cases hk : k = id
    · subst hk
      dsimp only at hm
      rw [Function.update_self] at hm
      cases hm
      exact List.mem_append_right _ List.mem_cons_self
    · dsimp only at hm
      rw [Function.update_of_ne hk] at hm
      exact List.mem_append_left _ (hinv.stored k m hm)
  · intro k hk
    rcases List.mem_append.mp hk with hk | hk
    · exact hkept k.pluginID k.module (hinv.logged k hk)
    · rw [List.mem_singleton.mp hk]
      exact Function.update_self id _ s.engine.modules
  · intro k hk
    rcases List.mem_append.mp hk with hk | hk
    · exact hinv.answered k hk
    · rw [List.mem_singleton.mp hk]
      exact hnew
  · rw [List.map_append, List.map_singleton, List.nodup_append]
    refine ⟨hinv.once, List.pairwise_singleton _ id, ?_⟩
    -- an id that was compiled before has an entry
    intro k hk k' hk' heq
    obtain ⟨made, hmade, rfl⟩ := List.mem_map.mp hk
    rw [List.mem_singleton.mp hk'] at heq
    have hentry := hinv.logged made hmade
    rw [heq, hmod] at hentry
    cases hentry
  · exact fun c call hcall => seen_mono (hkept call.pluginID) (hinv.seen c call hcall)

theorem cacheInv_step (hinv : CacheInv newModule wasm s)
    (he : ∀ c id bytes, e = .call c id bytes → bytes = wasm id)
    (h : cacheStep newModule s e = some t) : CacheInv newModule wasm t := by
  cases cacheStep_transition h with
  | call c id bytes hcall => exact cacheInv_setPhase hinv (he c id bytes rfl) trivial
  | hit c id bytes mod hcall hmod =>
      exact cacheInv_setPhase hinv (hinv.bytes c _ hcall) ⟨mod, rfl, hmod⟩
  | miss c id bytes hcall hmod => exact cacheInv_setPhase hinv (hinv.bytes c _ hcall) trivial
  | found c id bytes mod hcall hmod =>
      exact cacheInv_setPhase hinv (hinv.bytes c _ hcall) ⟨mod, hmod⟩
  | failed c id bytes err hcall hmod hnew =>
      have hattempts : CacheInv newModule wasm { s with attempts := s.attempts + 1 } :=
        ⟨hinv.stored, hinv.logged, hinv.answered, hinv.once, hinv.bytes, hinv.seen⟩
      exact cacheInv_setPhase hattempts (hinv.bytes c _ hcall) trivial
  | compiled c id bytes code hcall hmod hnew =>
      have hbytes : bytes = wasm id := hinv.bytes c _ hcall
      subst hbytes
      exact cacheInv_setPhase (cacheInv_compiled hinv hmod hnew) rfl
        ⟨_, Function.update_self id _ s.engine.modules⟩
  | reread c id bytes hcall =>
      obtain ⟨m, hm⟩ := hinv.seen c _ hcall
      exact cacheInv_setPhase hinv (hinv.bytes c _ hcall) ⟨m, hm, hm⟩

/-! ## Entries -/

/-- No entry of the first map is missing or different in the second. -/
def EntriesKept (s t : CacheState C) : Prop :=
  ∀ id m, s.engine.modules id = some m → t.engine.modules id = some m

theorem entriesKept_step (h : cacheStep newModule s e = some t) : EntriesKept s t := by
  cases cacheStep_transition h with
  | compiled c id bytes code hcall hmod hnew => exact fun k m hm => update_kept _ hmod hm
  | _ => exact fun _ _ hm => hm

theorem entriesKept_run {es : List CacheEvent} (h : run (cacheStep newModule) s es = some t) :
    EntriesKept s t :=
  run_related (fun _ _ _ hm => hm) (fun hst htu id m hm => htu id m (hst id m hm))
    (fun _ _ _ => entriesKept_step) h

/-! ## Calls that fail -/

/-- The call has a module behind its section of `Compile`. -/
def HasModule (c : Nat) (s : CacheState C) : Prop :=
  ∃ call, s.calls c = some call ∧
    (call.phase = .reread ∨ ∃ r, call.phase = .returned (.ok r))

/-- Only a section of `Compile` that succeeds changes the map. -/
theorem engine_kept (h : cacheStep newModule s e = some t) :
    t.engine = s.engine ∨ HasModule e.caller t := by
  cases cacheStep_transition h with
  | compiled c id bytes code hcall hmod hnew =>
      exact .inr ⟨_, Function.update_self c _ s.calls, .inl rfl⟩
  | _ => exact .inl rfl

theorem hasModule_setPhase {c c' : Nat} {call : ModuleCall C} {phase : CallPhase C}
    (hphase : c' = c → phase = .reread ∨ ∃ r, phase = .returned (.ok r))
    (h : HasModule c' s) : HasModule c' (s.setPhase c call phase) := by
  unfold HasModule CacheState.setPhase
  dsimp only
  by_cases hc : c' = c
  · rw [hc, Function.update_self]
    exact ⟨_, rfl, hphase hc⟩
  · rw [Function.update_of_ne hc]
    exact h

theorem hasModule_step {c : Nat} (hhas : HasModule c s) (h : cacheStep newModule s e = some t) :
    HasModule c t := by
  obtain ⟨call, hc, hphase⟩ := hhas
  -- a section of another phase is one of another call
  have hother : ∀ c' call', s.calls c' = some call' →
      (call'.phase = .lookup ∨ call'.phase = .compile) → c ≠ c' := by
    rintro c' call' hc' hphase' rfl
    cases hc.symm.trans hc'
    rcases hphase with hp | ⟨r, hp⟩ <;> rw [hp] at hphase' <;> simp at hphase'
  cases cacheStep_transition h with
  | call c' id bytes hcall =>
      refine hasModule_setPhase (fun heq => ?_) ⟨call, hc, hphase⟩
      rw [← heq, hc] at hcall
      cases hcall
  | hit c' id bytes mod hcall =>
      exact hasModule_setPhase (fun _ => .inr ⟨_, rfl⟩) ⟨call, hc, hphase⟩
  | miss c' id bytes hcall =>
      exact hasModule_setPhase (fun heq => absurd heq (hother c' _ hcall (.inl rfl)))
        ⟨call, hc, hphase⟩
  | found c' id bytes mod hcall =>
      exact hasModule_setPhase (fun _ => .inl rfl) ⟨call, hc, hphase⟩
  | failed c' id bytes err hcall =>
      exact hasModule_setPhase (s := { s with attempts := s.attempts + 1 })
        (fun heq => absurd heq (hother c' _ hcall (.inr rfl))) ⟨call, hc, hphase⟩
  | compiled c' id bytes code hcall =>
      exact hasModule_setPhase (fun _ => .inl rfl) ⟨call, hc, hphase⟩
  | reread c' id bytes hcall =>
      exact hasModule_setPhase (fun _ => .inr ⟨_, rfl⟩) ⟨call, hc, hphase⟩

/-- A call that has returned an error changed the map in none of its sections. -/
theorem failed_kept {post : List CacheEvent} {u v : CacheState C} {call : ModuleCall C}
    {err : Bytes} (hu : cacheStep newModule u e = some v)
    (hpost : run (cacheStep newModule) v post = some s) (hcall : s.calls e.caller = some call)
    (hphase : call.phase = .returned (.error err)) : v.engine = u.engine := by
  rcases engine_kept hu with heq | hhas
  · exact heq
  · have hend : HasModule e.caller s :=
      run_invariant (P := fun _ => True) (fun _ _ _ hhas _ h => hasModule_step hhas h)
        (fun _ _ => trivial) hhas hpost
    obtain ⟨call', hcall', hphase'⟩ := hend
    cases hcall.symm.trans hcall'
    rcases hphase' with hp | ⟨r, hp⟩ <;> rw [hphase] at hp <;> cases hp

/-! ## The whole run -/

/-- All calls for one id bring the same bytes. -/
def SameBytes (es : List CacheEvent) : Prop :=
  ∀ c c' id bytes bytes', .call c id bytes ∈ es → .call c' id bytes' ∈ es → bytes = bytes'

/-- The bytes that the calls of an id bring. -/
def bytesOf (es : List CacheEvent) (id : String) : Bytes :=
  (es.findSome? fun e =>
    match e with
    | .call _ id' bytes => if id' = id then some bytes else none
    | .proceed _ => none).getD []

theorem bytesOf_call {es : List CacheEvent} (hsame : SameBytes es) {c : Nat} {id : String}
    {bytes : Bytes} (h : .call c id bytes ∈ es) : bytes = bytesOf es id := by
  unfold bytesOf
  cases hfind : es.findSome? fun e =>
    match e with
    | .call _ id' bytes => if id' = id then some bytes else none
    | .proceed _ => none with
  | none =>
      have hnone := List.findSome?_eq_none_iff.mp hfind _ h
      simp at hnone
  | some bytes' =>
      obtain ⟨e, he, heq⟩ := List.exists_of_findSome?_eq_some hfind
      cases e with
      | proceed c' => cases heq
      | call c' id' bytes'' =>
          dsimp only at heq
          split at heq
          · next hid =>
              cases heq
              subst hid
              exact hsame c c' id' bytes bytes' h he
          · cases heq

theorem cacheInv_run {es : List CacheEvent} (hsame : SameBytes es)
    (hrun : run (cacheStep newModule) (.new C) es = some s) :
    CacheInv newModule (bytesOf es) s :=
  run_invariant (P := fun e => e ∈ es)
    (fun _ _ _ hinv he h => cacheInv_step hinv
      (fun c _ _ heq => bytesOf_call (c := c) hsame (heq ▸ he)) h)
    (fun _ he => he) (cacheInv_new _) hrun

/-- What the double check is for, at the end `s` of the run `es`. -/
structure DoubleChecked (newModule : Nat → Bytes → Except Bytes C) (es : List CacheEvent)
    (s : CacheState C) : Prop where
  /-- A nil error comes with a module, and it was compiled from the bytes of the call. -/
  answered : ∀ c call r, s.calls c = some call → call.phase = .returned (.ok r) →
    ∃ m, r = some m ∧ ⟨call.pluginID, call.wasmBytes, m⟩ ∈ s.compilations ∧
      newModule m.serial call.wasmBytes = .ok m.code
  shared : ∀ c c' call call' r r', s.calls c = some call → s.calls c' = some call' →
    call.phase = .returned (.ok r) → call'.phase = .returned (.ok r') →
      call.pluginID = call'.pluginID → r = r'
  compiledOnce : ∀ id, s.compilations.countP (fun k => k.pluginID == id) ≤ 1
  entriesKept : ∀ pre post u, es = pre ++ post →
    run (cacheStep newModule) (.new C) pre = some u → EntriesKept u s
  failedKept : ∀ c call err, s.calls c = some call → call.phase = .returned (.error err) →
    ∀ pre e post u v, es = pre ++ e :: post → e.caller = c →
      run (cacheStep newModule) (.new C) pre = some u → cacheStep newModule u e = some v →
        v.engine = u.engine

theorem answered_module {wasm : String → Bytes} (hinv : CacheInv newModule wasm s) {c : Nat}
    {call : ModuleCall C} {r : Option (Module C)} (hcall : s.calls c = some call)
    (hphase : call.phase = .returned (.ok r)) :
    ∃ m, r = some m ∧ s.engine.modules call.pluginID = some m := by
  have hseen := hinv.seen c call hcall
  rw [hphase] at hseen
  exact hseen

theorem getModule_doubleChecked {es : List CacheEvent} (hsame : SameBytes es)
    (hrun : run (cacheStep newModule) (.new C) es = some s) : DoubleChecked newModule es s := by
  have hinv := cacheInv_run hsame hrun
  refine ⟨?_, ?_, ?_, ?_, ?_⟩
  · intro c call r hcall hphase
    obtain ⟨m, rfl, hm⟩ := answered_module hinv hcall hphase
    have hmem := hinv.stored call.pluginID m hm
    rw [← hinv.bytes c call hcall] at hmem
    exact ⟨m, rfl, hmem, hinv.answered _ hmem⟩
  · intro c c' call call' r r' hcall hcall' hphase hphase' hid
    obtain ⟨m, rfl, hm⟩ := answered_module hinv hcall hphase
    obtain ⟨m', rfl, hm'⟩ := answered_module hinv hcall' hphase'
    rw [← hid] at hm'
    exact hm.symm.trans hm'
  · intro id
    have hcount := List.nodup_iff_count.mp hinv.once id
    rw [List.count_eq_countP, List.countP_map] at hcount
    exact hcount
  · rintro pre post u rfl hu
    obtain ⟨u', hu', hpost⟩ := run_append_iff.mp hrun
    cases hu.symm.trans hu'
    exact entriesKept_run hpost
  · rintro c call err hcall hphase pre e post u v rfl rfl hu hv
    obtain ⟨u', hu', hrest⟩ := run_append_iff.mp hrun
    cases hu.symm.trans hu'
    obtain ⟨v', hv', hpost⟩ := run_cons_iff.mp hrest
    cases hv.symm.trans hv'
    exact failed_kept hv hpost hcall hphase

/-! ## A call alone -/

variable (newModule) in
theorem cacheStep_proceed {c : Nat} {call : ModuleCall C} (h : s.calls c = some call) :
    cacheStep newModule s (.proceed c) = s.proceed newModule c call := by
  unfold cacheStep
  dsimp only
  rw [h]

theorem setPhase_self (c : Nat) (call : ModuleCall C) (phase : CallPhase C) :
    (s.setPhase c call phase).calls c = some { call with phase } :=
  Function.update_self c _ s.calls

variable (newModule) in
/-- From its section of `Compile` on, a call that is not interrupted does what `Engine.getModule`
    does on a miss. -/
theorem compile_alone {c : Nat} {id : String} {bytes : Bytes}
    (hcall : s.calls c = some ⟨id, bytes, .compile⟩) (hmod : s.engine.modules id = none) :
    ∃ es t, (∀ e ∈ es, e = .proceed c) ∧ run (cacheStep newModule) s es = some t ∧
      t.calls c = some ⟨id, bytes,
        .returned (s.engine.getModule (attempt newModule s.attempts) id bytes).1⟩ ∧
      t.engine = (s.engine.getModule (attempt newModule s.attempts) id bytes).2 := by
  have hstep := cacheStep_proceed newModule hcall
  unfold Engine.getModule
  rw [hmod]
  unfold CacheState.proceed CacheState.compile at hstep
  dsimp only at hstep ⊢
  cases hc : s.engine.compile (attempt newModule s.attempts) id bytes with
  | mk r e₁ =>
      rw [hc] at hstep
      cases r with
      | error err =>
          refine ⟨[.proceed c], _, by simp, run_cons_iff.mpr ⟨_, hstep, rfl⟩, ?_, rfl⟩
          exact setPhase_self _ _ _
      | ok u =>
          obtain ⟨s₁, hs₁, hcall₁, rfl⟩ : ∃ s₁, cacheStep newModule s (.proceed c) = some s₁ ∧
              s₁.calls c = some ⟨id, bytes, .reread⟩ ∧ s₁.engine = e₁ :=
            ⟨_, hstep, setPhase_self _ _ _, rfl⟩
          refine ⟨[.proceed c, .proceed c],
            s₁.setPhase c ⟨id, bytes, .reread⟩ (.returned (.ok (s₁.engine.modules id))), by simp,
            run_cons_iff.mpr ⟨s₁, hs₁, ?_⟩, setPhase_self _ _ _, rfl⟩
          exact run_cons_iff.mpr ⟨_, cacheStep_proceed _ hcall₁, rfl⟩

/-- A call whose sections follow each other without another one in between is
    `Engine.getModule`. -/
theorem getModule_alone {c : Nat} {id : String} {bytes : Bytes}
    (hcall : s.calls c = some ⟨id, bytes, .lookup⟩) :
    ∃ es t, (∀ e ∈ es, e = .proceed c) ∧ run (cacheStep newModule) s es = some t ∧
      t.calls c = some ⟨id, bytes,
        .returned (s.engine.getModule (attempt newModule s.attempts) id bytes).1⟩ ∧
      t.engine = (s.engine.getModule (attempt newModule s.attempts) id bytes).2 := by
  have hstep := cacheStep_proceed newModule hcall
  unfold CacheState.proceed CacheState.lookup at hstep
  dsimp only at hstep
  cases hmod : s.engine.modules id with
  | some mod =>
      rw [hmod] at hstep
      refine ⟨[.proceed c], s.setPhase c ⟨id, bytes, .lookup⟩ (.returned (.ok (some mod))), by simp,
        ?_, ?_, ?_⟩
      · exact run_cons_iff.mpr ⟨_, hstep, rfl⟩
      · rw [getModule_fst_some _ hmod]
        exact setPhase_self _ _ _
      · rw [getModule_snd]
        unfold Engine.compile
        rw [hmod]
        rfl
  | none =>
      rw [hmod] at hstep
      obtain ⟨es, t, hes, hrun, hanswer, hengine⟩ := compile_alone newModule
        (s := s.setPhase c ⟨id, bytes, .lookup⟩ .compile) (setPhase_self _ _ _) hmod
      refine ⟨.proceed c :: es, t, ?_, ?_, hanswer, hengine⟩
      · intro e he
        rcases List.mem_cons.mp he with rfl | he
        · rfl
        · exact hes e he
      · exact run_cons_iff.mpr ⟨_, hstep, hrun⟩

end Machine

/-- Bytes that compile unless they are empty. -/
def newModuleOf (_ : Nat) (wasmBytes : Bytes) : Except Bytes Bytes :=
  if wasmBytes = [] then .error (utf8 "empty module") else .ok wasmBytes

/-- Two calls of `p` miss before either compiles; a call of `q` fails in between. -/
def racingCalls : List CacheEvent :=
  [.call 1 "p" [1], .call 2 "p" [1], .proceed 1, .proceed 2, .call 3 "q" [], .proceed 3,
    .proceed 2, .proceed 3, .proceed 1, .proceed 1, .proceed 2]

theorem getModule_doubleChecked_race :
    ∃ s, run (cacheStep newModuleOf) (.new Bytes) racingCalls = some s ∧
      DoubleChecked newModuleOf racingCalls s ∧
      s.calls 1 = some ⟨"p", [1], .returned (.ok (some ⟨0, [1]⟩))⟩ ∧
      s.calls 2 = some ⟨"p", [1], .returned (.ok (some ⟨0, [1]⟩))⟩ := by
  have hbytes : ∀ c id bytes, .call c id bytes ∈ racingCalls →
      bytes = if id = "p" then [1] else [] := by
    intro c id bytes h
    simp only [racingCalls, List.mem_cons, List.not_mem_nil, or_false, reduceCtorEq, false_or,
      CacheEvent.call.injEq] at h
    rcases h with ⟨-, rfl, rfl⟩ | ⟨-, rfl, rfl⟩ | ⟨-, rfl, rfl⟩ <;> rfl
  refine ⟨_, rfl, getModule_doubleChecked (fun c c' id bytes bytes' h h' => ?_) rfl, rfl, rfl⟩
  rw [hbytes c id bytes h, hbytes c' id bytes' h']

end PluginSandbox.Sandbox
