/-
  The figures of the execution history against the budget of a run.

  With guests that are metered, every execution stored and every result answered lies within the
  budget, in every reachable state (`history_within_budget`). The figures pass from the engine to
  the handler and from there to the answer and to the table, each at its own time and across
  restarts; between the engine and the table no word is wide enough to be cut.
-/
import PluginSandbox.Sandbox.Budget
import PluginSandbox.Server.Answers

namespace PluginSandbox.Server

open PluginSandbox.Lib PluginSandbox.Db PluginSandbox.Sandbox PluginSandbox.Compiler

variable {M σ : Type} {A : Platform M σ} {s t : State M} {e : Event}

/-! ## Figures -/

/-- Fuel and memory, as they are stored and answered, lie within the budget. -/
structure InBudget (fuelConsumed memoryBytes : Int) : Prop where
  fuel : 0 ≤ fuelConsumed ∧ fuelConsumed ≤ 10000000
  memory : 0 ≤ memoryBytes ∧ memoryBytes ≤ 5 * 1024 * 1024

def ExecuteResponse.InBudget (response : ExecuteResponse) : Prop :=
  Server.InBudget response.fuelConsumed response.memoryBytes

/-- What a handler is about to save, or has answered, lies within the budget. -/
def Handler.InBudget (h : Handler M) : Prop :=
  match h.phase with
  | .saveExecution _ res => res.Budgeted
  | .encodeResult res => res.Budgeted
  | .done (.executed response) => response.InBudget
  | _ => True

theorem inBudget_executeResponse {res : ExecutionResult} (h : res.Budgeted) :
    (executeResponse res).InBudget := ⟨h.fuel, h.memory⟩

theorem inBudget_abort {h : Handler M} (hbudget : h.InBudget) : h.abort.InBudget := by
  obtain ⟨target, phase⟩ := h
  cases phase with
  | done response => exact hbudget
  | _ => trivial

/-! ## Steps -/

structure WithinBudget (s : State M) : Prop where
  rows : ∀ x ∈ s.db.executions.rows, InBudget x.fuelConsumed x.memoryBytes
  handlers : ∀ rid h, s.handlers rid = some h → h.InBudget

theorem withinBudget_start : WithinBudget (State.start M) :=
  ⟨fun _ hx => (nomatch hx), fun _ _ h => (nomatch h)⟩

theorem withinBudget_put {rid : Nat} {target : Option String} {next : Next M}
    (hinv : WithinBudget s) (hothers : next.1.handlers = s.handlers)
    (hrows : ∀ x ∈ next.1.db.executions.rows, InBudget x.fuelConsumed x.memoryBytes)
    (hhandler : Handler.InBudget ⟨target, next.2⟩) :
    WithinBudget (State.put rid target next) := by
  refine ⟨hrows, fun k h hh => ?_⟩
  rw [handlers_put, hothers] at hh
  split at hh
  · cases hh
    exact hhandler
  · exact hinv.handlers k h hh

/-- A first step stores no execution and answers none. -/
theorem serve_inBudget {env : Env} {req : Request} {next : Next M} (hinv : WithinBudget s)
    (h : serve A s env req = some next) (target : Option String) :
    (∀ x ∈ next.1.db.executions.rows, InBudget x.fuelConsumed x.memoryBytes) ∧
      Handler.InBudget ⟨target, next.2⟩ := by
  cases serve_opened h with
  | executionsDeleted id =>
      exact ⟨fun x hx => hinv.rows x (mem_dropExecutions.mp hx).1, trivial⟩
  | _ => exact ⟨hinv.rows, trivial⟩

theorem resume_inBudget (hguest : ∀ m, (A.guest m).Metered) {env : Env} {id : String}
    {phase : Phase M} {next : Next M} (hinv : WithinBudget s)
    (hphase : Handler.InBudget ⟨some id, phase⟩) (h : resume A s env id phase = some next) :
    (∀ x ∈ next.1.db.executions.rows, InBudget x.fuelConsumed x.memoryBytes) ∧
      Handler.InBudget ⟨some id, next.2⟩ := by
  cases resume_continued h with
  | ran plugin input loaded res hrun => exact ⟨hinv.rows, budgeted_runLoaded hguest hrun⟩
  | unsaved plugin res => exact ⟨hinv.rows, hphase⟩
  | encoded res => exact ⟨hinv.rows, inBudget_executeResponse hphase⟩
  | saved plugin res hfresh executions hinsert =>
      refine ⟨fun x hx => ?_, hphase⟩
      rcases (Table.mem_rows_insert hinsert).mp hx with hx | rfl
      · exact hinv.rows x hx
      · exact inBudget_executeResponse hphase
  | _ => exact ⟨hinv.rows, trivial⟩

theorem withinBudget_step (hguest : ∀ m, (A.guest m).Metered) (hinv : WithinBudget s)
    (h : step A s e = some t) : WithinBudget t := by
  cases haction : e.action with
  | request rid req =>
      obtain ⟨-, next, hserve, rfl⟩ := (step_request haction).mp h
      obtain ⟨hrows, hhandler⟩ := serve_inBudget hinv hserve e.target
      exact withinBudget_put hinv (within_serve hserve).handlers hrows hhandler
  | advance rid id =>
      obtain ⟨phase, hh, next, hresume, rfl⟩ := (step_advance haction).mp h
      rw [target_advance haction]
      obtain ⟨_, -, hwithin⟩ := within_resume hresume
      obtain ⟨hrows, hhandler⟩ := resume_inBudget hguest hinv (hinv.handlers rid _ hh) hresume
      exact withinBudget_put hinv hwithin.handlers hrows hhandler
  | worker id =>
      obtain ⟨-, rfl⟩ := (step_worker haction).mp h
      have hframe := workerStep_frame A s e.env
      refine ⟨?_, ?_⟩
      · rw [hframe.executions]
        exact hinv.rows
      · rw [hframe.handlers]
        exact hinv.handlers
  | restart =>
      obtain rfl := (step_restart haction).mp h
      refine ⟨hinv.rows, fun rid h hh => ?_⟩
      obtain ⟨h₀, hh₀, rfl⟩ := Option.map_eq_some_iff.mp hh
      exact inBudget_abort (hinv.handlers rid h₀ hh₀)

/-! ## Runs -/

/-- In every run, whatever metered guests do, every stored execution and every answered result lies
    within the budget of a run. -/
theorem history_within_budget (A : Platform M σ) (hguest : ∀ m, (A.guest m).Metered)
    {es : List Event} (hrun : run (step A) (State.start M) es = some s) :
    (∀ x ∈ s.db.executions.rows, InBudget x.fuelConsumed x.memoryBytes) ∧
      ∀ rid target response, s.handlers rid = some ⟨target, .done (.executed response)⟩ →
        InBudget response.fuelConsumed response.memoryBytes := by
  have hstep : ∀ s e t, WithinBudget s → True → step A s e = some t → WithinBudget t :=
    fun _ _ _ hs _ h => withinBudget_step hguest hs h
  have hbudget := run_invariant hstep (fun _ _ => trivial) withinBudget_start hrun
  exact ⟨hbudget.rows, fun rid target response hh => hbudget.handlers rid _ hh⟩

/-- Grows its memory to three pages when it is asked for a block, and burns all its fuel when it is
    called. -/
def growingGuest : Guest Unit where
  fresh := ()
  instantiate store :=
    (.ok {
      memory := some .memory
      allocate := some fun _ store =>
        (.ok (.int32 1024), { store with memory := { store.memory with pages := 3 } })
      deallocate := some fun _ store => (.ok .nil, store)
      process := some fun _ store => (.error [], { store with fuel := 0 }) },
    { store with memory := { store.memory with pages := 1 } })

theorem metered_growingGuest : growingGuest.Metered where
  instantiate store := ⟨UInt64.le_refl _, fun _ => by show 1 * pageSize ≤ maxMemory; decide⟩
  exports store inst store' h := by
    cases h
    refine ⟨?_, ?_, ?_⟩
    · rintro f ⟨⟩ args store
      exact ⟨UInt64.le_refl _, fun _ => by show 3 * pageSize ≤ maxMemory; decide⟩
    · rintro f ⟨⟩ args store
      exact ⟨UInt64.le_refl _, id⟩
    · rintro f ⟨⟩ args store
      exact ⟨UInt64.zero_le, id⟩

/-- The small platform with such guests. -/
def Platform.growing : Platform Bytes Unit :=
  { Platform.small with guest := fun _ => growingGuest }

/-- A plugin is run, and three pages and the whole fuel are on record. -/
theorem history_within_budget_growing :
    ∃ s x, run (step .growing) (State.start Bytes)
        (createAndBuild ++ (Action.request 1 (.executePlugin "p" ⟨[], false⟩)).quietly "" ::
          runOnce) = some s ∧
      s.db.executions.rows = [x] ∧ x.fuelConsumed = 10000000 ∧ x.memoryBytes = 3 * 65536 ∧
      InBudget x.fuelConsumed x.memoryBytes := by
  obtain ⟨s, x, hs, hx, hfuel, hmemory⟩ :
      ∃ s x, run (step .growing) (State.start Bytes)
          (createAndBuild ++ (Action.request 1 (.executePlugin "p" ⟨[], false⟩)).quietly "" ::
            runOnce) = some s ∧
        s.db.executions.rows = [x] ∧ x.fuelConsumed = 10000000 ∧ x.memoryBytes = 3 * 65536 :=
    ⟨_, _, rfl, rfl, rfl, rfl⟩
  have hbudget := history_within_budget .growing (fun _ => metered_growingGuest) hs
  exact ⟨s, x, hs, hx, hfuel, hmemory, hbudget.1 x (by rw [hx]; exact List.mem_cons_self)⟩

end PluginSandbox.Server
