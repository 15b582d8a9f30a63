/-
  The server does bounded work for a request and never blocks for good.

  `Phase.stepsLeft` counts the steps a handler still needs, those of the worker for the job it
  is going to enqueue among them. A step of a handler or of the worker lowers the sum over
  everything at hand; only a request raises it, by at most seven (`funded_stepsLeft`). So the
  goroutines take at most seven steps for each request (`work_bounded`).

  `QueueCompile` waits while the channel is full, and then the worker has something to do: some
  goroutine can go on until every request is answered and no job is left (`not_blocked`). With
  the bound this gives a way to rest from every reachable state, and without failures the
  rows there are settled (`exists_settled`).
-/
import Mathlib.Algebra.BigOperators.Group.Finset.Piecewise
import Mathlib.Algebra.Order.Ring.Nat
import Mathlib.Data.Fintype.EquivFin
import PluginSandbox.Lib.Potential
import PluginSandbox.Server.Convergence
import PluginSandbox.Server.Handlers
import PluginSandbox.Server.Progress

namespace PluginSandbox.Server

open PluginSandbox.Lib PluginSandbox.Db PluginSandbox.Sandbox PluginSandbox.Compiler

variable {M σ : Type} {A : Platform M σ} {s t : State M} {e : Event}

/-! ## Steps left -/

/-- What a queued id costs the worker: the receive and the three steps of `compilePlugin`. -/
def jobSteps : Nat := 4

def Phase.stepsLeft : Phase M → Nat
  | .createQueueCompile _ => 1 + jobSteps
  | .updatePluginCode _ _ => 3 + jobSteps
  | .updateQueueCompile => 2 + jobSteps
  | .updateGetPlugin => 1
  | .getModule _ _ => 6
  | .compile _ _ => 5
  | .getCompiled _ _ => 4
  | .run _ _ _ => 3
  | .saveExecution _ _ => 2
  | .encodeResult _ => 1
  | .deletePluginRow => 1
  | .done _ => 0

def workerStepsLeft : Worker → Nat
  | .idle => 0
  | .received _ => 3
  | .building _ _ => 2
  | .writing _ _ _ => 1

def handlerStepsLeft (h : Option (Handler M)) : Nat := h.elim 0 fun h => h.phase.stepsLeft

/-- All that is left to do when the requests so far are among `rids`. -/
def State.stepsLeft (rids : Finset Nat) (s : State M) : Nat :=
  (∑ rid ∈ rids, handlerStepsLeft (s.handlers rid)) + jobSteps * s.queue.length +
    workerStepsLeft s.worker

theorem sum_handlers_update {rids : Finset Nat} {rid : Nat} (hrid : rid ∈ rids)
    (handlers : Nat → Option (Handler M)) (h : Option (Handler M)) :
    (∑ k ∈ rids, handlerStepsLeft (Function.update handlers rid h k)) +
        handlerStepsLeft (handlers rid) =
      (∑ k ∈ rids, handlerStepsLeft (handlers k)) + handlerStepsLeft h := by
  have hrest : ∑ k ∈ rids.erase rid, handlerStepsLeft (Function.update handlers rid h k) =
      ∑ k ∈ rids.erase rid, handlerStepsLeft (handlers k) := by
    refine Finset.sum_congr rfl fun k hk => ?_
    rw [Function.update_of_ne (Finset.ne_of_mem_erase hk)]
  rw [← Finset.add_sum_erase rids _ hrid, ← Finset.add_sum_erase rids _ hrid, hrest,
    Function.update_self]
  omega

/-! ## Handlers -/

/-- A step of a handler leaves the other goroutines alone, and the work it leaves with the
    jobs it enqueues is at most `budget`. -/
structure Within (s : State M) (next : Next M) (budget : Nat) : Prop where
  handlers : next.1.handlers = s.handlers
  worker : next.1.worker = s.worker
  work : next.2.stepsLeft + jobSteps * next.1.queue.length ≤ budget + jobSteps * s.queue.length

theorem within_answer (s : State M) (response : Response) (budget : Nat) :
    Within s (answer s response) budget where
  handlers := rfl
  worker := rfl
  work := by
    show 0 + jobSteps * s.queue.length ≤ budget + jobSteps * s.queue.length
    omega

/-- A step that leaves the queue as it is. -/
theorem within_of_queue {next : Next M} {budget : Nat} (hhandlers : next.1.handlers = s.handlers)
    (hworker : next.1.worker = s.worker) (hqueue : next.1.queue = s.queue)
    (hwork : next.2.stepsLeft ≤ budget) : Within s next budget where
  handlers := hhandlers
  worker := hworker
  work := by
    rw [hqueue]
    exact Nat.add_le_add_right hwork _

/-- What a request costs the goroutines after its first step. -/
def requestSteps : Nat := 7

theorem within_serve {env : Env} {req : Request} {next : Next M}
    (h : serve A s env req = some next) : Within s next requestSteps := by
  cases serve_opened h with
  | missingID | notFound | invalidBody | incomplete | listed | got | metrics | notReady =>
      exact within_answer s _ _
  | failed => exact within_of_queue rfl rfl rfl (Nat.zero_le _)
  | saved => exact within_of_queue rfl rfl rfl (by show 1 + jobSteps ≤ requestSteps; decide)
  | accepted => exact within_of_queue rfl rfl rfl (by show 3 + jobSteps ≤ requestSteps; decide)
  | ready => exact within_of_queue rfl rfl rfl (by show 6 ≤ requestSteps; decide)
  | executionsDeleted => exact within_of_queue rfl rfl rfl (by show 1 ≤ requestSteps; decide)

/-- A job that is enqueued costs what its handler had set aside for it. -/
theorem within_queued (s : State M) (id : String) (phase : Phase M) :
    Within s ({ s with queue := s.queue ++ [id] }, phase) (phase.stepsLeft + jobSteps) where
  handlers := rfl
  worker := rfl
  work := by
    show phase.stepsLeft + jobSteps * (s.queue ++ [id]).length ≤ _
    rw [List.length_append, List.length_singleton, Nat.mul_add]
    omega

/-- Each later step of a handler uses up one of the steps it had left. -/
theorem within_resume {env : Env} {id : String} {phase : Phase M} {next : Next M}
    (h : resume A s env id phase = some next) :
    ∃ budget, phase.stepsLeft = budget + 1 ∧ Within s next budget := by
  cases resume_continued h with
  | createQueued plugin =>
      exact ⟨0 + jobSteps, rfl, within_queued s plugin.id (.done _)⟩
  | updateQueued =>
      exact ⟨1 + jobSteps, rfl, within_queued s id .updateGetPlugin⟩
  | codeFailed | rereadFailed | reread | panicked | engineFailed | encoded | deleteFailed =>
      exact ⟨_, rfl, within_answer s _ _⟩
  | hit => exact ⟨_, rfl, within_of_queue rfl rfl rfl (by show 3 ≤ 5; decide)⟩
  | rejected => exact ⟨_, rfl, within_of_queue rfl rfl rfl (by show 3 ≤ 4; decide)⟩
  | codeWritten | miss | compiled | fetched | ran | unsaved | saved | deleted =>
      exact ⟨_, rfl, within_of_queue rfl rfl rfl (le_refl _)⟩

/-- Storing the handler settles its account. -/
theorem stepsLeft_put {rids : Finset Nat} {rid : Nat} {target : Option String} {next : Next M}
    {budget : Nat} (hrid : rid ∈ rids) (h : Within s next budget) :
    (State.put rid target next).stepsLeft rids + handlerStepsLeft (s.handlers rid) ≤
      s.stepsLeft rids + budget := by
  have hsum := sum_handlers_update hrid next.1.handlers (some ⟨target, next.2⟩)
  have hwork := h.work
  rw [h.handlers] at hsum
  unfold State.stepsLeft State.put
  dsimp only
  rw [h.handlers, h.worker]
  have hself : handlerStepsLeft (some (⟨target, next.2⟩ : Handler M)) = next.2.stepsLeft := rfl
  omega

/-! ## The worker -/

/-- A step of the worker that has something to do uses up one of its steps. -/
theorem stepsLeft_workerStep {rids : Finset Nat} {env : Env} {id : String}
    (hjob : s.nextJob = some id) : (workerStep A s env).stepsLeft rids + 1 ≤ s.stepsLeft rids := by
  unfold State.nextJob at hjob
  unfold workerStep State.stepsLeft
  cases hworker : s.worker with
  | idle =>
      rw [hworker] at hjob
      cases hqueue : s.queue with
      | nil =>
          rw [hqueue] at hjob
          cases hjob
      | cons k queue =>
          dsimp only [workerStepsLeft]
          rw [List.length_cons, Nat.mul_succ]
          unfold jobSteps
          omega
  | received k =>
      dsimp only
      split
      · dsimp only [workerStepsLeft]
        omega
      · dsimp only [workerStepsLeft]
        omega
  | building k source =>
      dsimp only [workerStepsLeft]
      omega
  | writing k source build =>
      dsimp only
      split
      · dsimp only [workerStepsLeft]
        omega
      · dsimp only [workerStepsLeft]
        omega

/-! ## Restart -/

theorem handlerStepsLeft_abort (h : Option (Handler M)) :
    handlerStepsLeft (h.map Handler.abort) = 0 := by
  cases h with
  | none => rfl
  | some h =>
      obtain ⟨target, phase⟩ := h
      cases phase <;> rfl

theorem stepsLeft_restart (rids : Finset Nat) : s.restart.stepsLeft rids = 0 := by
  unfold State.stepsLeft State.restart
  dsimp only
  rw [Finset.sum_eq_zero fun rid _ => handlerStepsLeft_abort (s.handlers rid)]
  rfl

/-! ## The bound -/

/-- A step of a goroutine that is already there. -/
def Action.isInternal : Action → Bool
  | .advance _ _ => true
  | .worker _ => true
  | _ => false

def Action.isRequest : Action → Bool
  | .request _ _ => true
  | _ => false

/-- Handlers exist for `rids` only. -/
def HandlersIn (rids : Finset Nat) (s : State M) : Prop :=
  ∀ rid, rid ∉ rids → s.handlers rid = none

theorem handlersIn_step {rids : Finset Nat} (hinv : HandlersIn rids s)
    (hrid : ∀ rid, e.action.rid = some rid → rid ∈ rids) (h : step A s e = some t) :
    HandlersIn rids t := by
  intro k hk
  by_cases hrestart : e.action = .restart
  · obtain rfl := (step_restart hrestart).mp h
    unfold State.restart
    dsimp only
    rw [hinv k hk]
    rfl
  · rw [others_handlers h hrestart fun hself => hk (hrid k hself)]
    exact hinv k hk

theorem stepsLeft_step {rids : Finset Nat} (hrid : ∀ rid, e.action.rid = some rid → rid ∈ rids)
    (h : step A s e = some t) :
    t.stepsLeft rids + (if e.action.isInternal then 1 else 0) ≤
      s.stepsLeft rids + if e.action.isRequest then requestSteps else 0 := by
  cases haction : e.action with
  | request rid req =>
      obtain ⟨hfree, next, hserve, rfl⟩ := (step_request haction).mp h
      have hput : (State.put rid e.target next).stepsLeft rids + handlerStepsLeft (s.handlers rid) ≤
          s.stepsLeft rids + requestSteps :=
        stepsLeft_put (hrid rid (by rw [haction]; rfl)) (within_serve hserve)
      rw [hfree] at hput
      exact hput
  | advance rid id =>
      obtain ⟨phase, hh, next, hresume, rfl⟩ := (step_advance haction).mp h
      obtain ⟨budget, hphase, hwithin⟩ := within_resume hresume
      have hput : (State.put rid e.target next).stepsLeft rids + handlerStepsLeft (s.handlers rid) ≤
          s.stepsLeft rids + budget := stepsLeft_put (hrid rid (by rw [haction]; rfl)) hwithin
      have hold : handlerStepsLeft (s.handlers rid) = budget + 1 := by
        rw [hh]
        exact hphase
      rw [hold] at hput
      show _ + 1 ≤ _ + 0
      omega
  | worker id =>
      obtain ⟨hjob, rfl⟩ := (step_worker haction).mp h
      exact stepsLeft_workerStep hjob
  | restart =>
      obtain rfl := (step_restart haction).mp h
      rw [stepsLeft_restart]
      exact Nat.zero_le _

theorem handlersIn_start (rids : Finset Nat) : HandlersIn rids (State.start M) := fun _ _ => rfl

/-- Requests pay for the steps of the goroutines. -/
theorem funded_stepsLeft (A : Platform M σ) (rids : Finset Nat) :
    Funded (step A) (HandlersIn rids) (fun e => ∀ rid, e.action.rid = some rid → rid ∈ rids)
      (State.stepsLeft rids) (fun e => if e.action.isRequest then requestSteps else 0)
      (fun e => if e.action.isInternal then 1 else 0) where
  keeps _ _ _ hs he h := handlersIn_step hs he h
  pays _ _ _ _ he h := stepsLeft_step he h

theorem sum_ite_countP {ε : Type} (p : ε → Bool) (c : Nat) (es : List ε) :
    (es.map fun e => if p e then c else 0).sum = c * es.countP p := by
  induction es with
  | nil => rfl
  | cons e es ih =>
      rw [List.map_cons, List.sum_cons, ih, List.countP_cons]
      split
      · rw [Nat.mul_succ, Nat.add_comm]
      · rw [Nat.zero_add, Nat.add_zero]

/-- The requests of a list of events. -/
def requestIds (es : List Event) : Finset Nat := (es.filterMap fun e => e.action.rid).toFinset

theorem rid_mem_requestIds {es : List Event} (he : e ∈ es) (rid : Nat)
    (hrid : e.action.rid = some rid) : rid ∈ requestIds es :=
  List.mem_toFinset.mpr (List.mem_filterMap.mpr ⟨e, he, hrid⟩)

/-- The steps taken and the steps left together are at most seven for each request. -/
theorem stepsLeft_run {es : List Event} (hrun : run (step A) (State.start M) es = some s) :
    s.stepsLeft (requestIds es) + es.countP (fun e => e.action.isInternal) ≤
      requestSteps * es.countP fun e => e.action.isRequest := by
  have hfunded := run_funded (funded_stepsLeft A (requestIds es))
    (fun e he => rid_mem_requestIds he) (handlersIn_start _) hrun
  have hstart : (State.start M).stepsLeft (requestIds es) = 0 := by
    show (∑ rid ∈ requestIds es, 0) + 0 + 0 = 0
    rw [Finset.sum_const_zero]
  have htaken := sum_ite_countP (fun e : Event => e.action.isInternal) 1 es
  have hreceived := sum_ite_countP (fun e : Event => e.action.isRequest) requestSteps es
  rw [htaken, hreceived, hstart, Nat.one_mul, Nat.zero_add] at hfunded
  exact hfunded

/-- In every run, with failures and restarts anywhere, the goroutines take at most seven steps
    for each request. -/
theorem work_bounded (A : Platform M σ) {es : List Event}
    (hrun : run (step A) (State.start M) es = some s) :
    es.countP (fun e => e.action.isInternal) ≤ 7 * es.countP fun e => e.action.isRequest :=
  Nat.le_of_add_left_le (stepsLeft_run hrun)

/-- The update of a built plugin, and the build of its new source. -/
def updateAndBuild : List Event :=
  [(Action.request 1 (.updatePlugin "p" ⟨[2], false⟩)).quietly "",
    (Action.advance 1 "p").quietly "", (Action.advance 1 "p").quietly "",
    (Action.advance 1 "p").quietly "", (Action.worker "p").quietly "",
    (Action.worker "p").quietly "", (Action.worker "p").quietly "",
    (Action.worker "p").quietly ""]

/-- Seven are needed: an update whose job is built. -/
example : updateAndBuild.countP (fun e => e.action.isInternal) = 7 := rfl

theorem work_bounded_update :
    ∃ s, run (step .small) (State.start Bytes) (createAndBuild ++ updateAndBuild) = some s ∧
      (createAndBuild ++ updateAndBuild).countP (fun e => e.action.isInternal) ≤
        7 * (createAndBuild ++ updateAndBuild).countP fun e => e.action.isRequest := by
  obtain ⟨s, hs⟩ : ∃ s, run (step .small) (State.start Bytes) (createAndBuild ++ updateAndBuild) =
    some s := ⟨_, rfl⟩
  exact ⟨s, hs, work_bounded .small hs⟩

/-! ## Nothing blocks for good -/

/-- A handler without a plugin has answered. -/
def Targeted (s : State M) : Prop :=
  ∀ rid phase, s.handlers rid = some ⟨none, phase⟩ → ∃ response, phase = .done response

theorem targeted_step (hinv : Targeted s) (h : step A s e = some t) : Targeted t := by
  intro k phase hk
  cases haction : e.action with
  | request rid req =>
      obtain ⟨hfree, next, hserve, rfl⟩ := (step_request haction).mp h
      have hothers := (within_serve hserve).handlers
      rw [handlers_put, hothers] at hk
      split at hk
      · obtain ⟨htarget, rfl⟩ := Handler.mk.inj (Option.some.inj hk)
        unfold Event.target at htarget
        rw [haction] at htarget
        cases req with
        | listPlugins =>
            obtain rfl : handleListPlugins A s e.env = next := Option.some.inj hserve
            unfold handleListPlugins
            split <;> exact ⟨_, rfl⟩
        | _ => cases htarget
      · exact hinv k phase hk
  | advance rid id =>
      obtain ⟨old, hh, next, hresume, rfl⟩ := (step_advance haction).mp h
      obtain ⟨budget, -, hwithin⟩ := within_resume hresume
      rw [handlers_put, hwithin.handlers, target_advance haction] at hk
      split at hk
      · cases hk
      · exact hinv k phase hk
  | worker id =>
      have hkept : t.handlers k = s.handlers k :=
        others_handlers h (by rw [haction]; exact nofun) (by rw [haction]; exact nofun)
      rw [hkept] at hk
      exact hinv k phase hk
  | restart =>
      obtain rfl := (step_restart haction).mp h
      obtain ⟨⟨target, old⟩, -, habort⟩ := Option.map_eq_some_iff.mp hk
      cases old with
      | done response =>
          cases habort
          exact ⟨response, rfl⟩
      | _ =>
          cases habort
          exact ⟨.aborted, rfl⟩

theorem targeted_run {es : List Event} (hrun : run (step A) (State.start M) es = some s) :
    Targeted s := by
  have hstep : ∀ s e t, Targeted s → True → step A s e = some t → Targeted t :=
    fun s e t hs _ h => targeted_step hs h
  have hstart : Targeted (State.start M) := by
    intro rid phase hh
    cases hh
  exact run_invariant hstep (fun _ _ => trivial) hstart hrun

/-- Every request is answered and no job is left. -/
def Drained (s : State M) : Prop :=
  (∀ rid h, s.handlers rid = some h → ∃ response, h.phase = .done response) ∧
    s.queue = [] ∧ s.worker = .idle

theorem Drained.quiescent (h : Drained s) : Quiescent s := by
  refine ⟨fun rid handler hh => ?_, h.2⟩
  obtain ⟨target, phase⟩ := handler
  obtain ⟨response, rfl⟩ := h.1 rid _ hh
  rfl

/-- A handler waits only for room in the queue or for a fresh UUID. -/
theorem resume_enabled {env : Env} {id : String} {phase : Phase M}
    (hphase : ∀ response, phase ≠ .done response) (hroom : s.queue.length < queueSize)
    (hfresh : env.uuid ∉ s.issued) : ∃ next, resume A s env id phase = some next := by
  have hqueue : ∀ (job : String) (then_ : Phase M),
      ∃ next, queueCompile s job then_ = some next := by
    intro job then_
    unfold queueCompile
    rw [if_pos hroom]
    exact ⟨_, rfl⟩
  cases phase with
  | createQueueCompile plugin => exact hqueue _ _
  | updateQueueCompile => exact hqueue _ _
  | saveExecution plugin res =>
      show ∃ next, executeSave A s env plugin res = some next
      unfold executeSave
      rw [if_neg hfresh]
      dsimp only
      split <;> exact ⟨_, rfl⟩
  | done response => exact absurd rfl (hphase response)
  | _ => exact ⟨_, rfl⟩

/-- Unless everything is done, a goroutine can take a step. -/
theorem exists_internal (hinv : Targeted s) {env : Env} (hfresh : env.uuid ∉ s.issued)
    (hrest : ¬ Drained s) : ∃ action t, action.isInternal ∧ step A s ⟨action, env⟩ = some t := by
  cases hjob : s.nextJob with
  | some id => exact ⟨.worker id, _, rfl, (step_worker rfl).mpr ⟨hjob, rfl⟩⟩
  | none =>
      -- The worker waits for the queue, so the queue is empty and no handler waits for room.
      have hidle : s.queue = [] ∧ s.worker = .idle := by
        unfold State.nextJob at hjob
        cases hworker : s.worker with
        | idle =>
            rw [hworker] at hjob
            exact ⟨List.head?_eq_none_iff.mp hjob, rfl⟩
        | received id =>
            rw [hworker] at hjob
            cases hjob
        | building id source =>
            rw [hworker] at hjob
            cases hjob
        | writing id source build =>
            rw [hworker] at hjob
            cases hjob
      have hroom : s.queue.length < queueSize := by
        rw [hidle.1]
        decide
      have hwaiting : ∃ rid h, s.handlers rid = some h ∧ ∀ response, h.phase ≠ .done response := by
        by_contra hnone
        refine hrest ⟨fun rid h hh => ?_, hidle⟩
        by_contra hgoing
        exact hnone ⟨rid, h, hh, fun response hdone => hgoing ⟨response, hdone⟩⟩
      obtain ⟨rid, ⟨target, phase⟩, hh, hphase⟩ := hwaiting
      cases target with
      | none =>
          obtain ⟨response, hdone⟩ := hinv rid phase hh
          exact absurd hdone (hphase response)
      | some id =>
          obtain ⟨next, hnext⟩ : ∃ next, resume A s env id phase = some next :=
            resume_enabled hphase hroom hfresh
          exact ⟨.advance rid id, _, rfl, (step_advance rfl).mpr ⟨phase, hh, next, hnext, rfl⟩⟩

/-- In every reachable state the goroutines are stuck exactly when every request is answered
    and no job is left: whatever the repository does, nothing waits for something that does
    not come. -/
theorem not_blocked (A : Platform M σ) {es : List Event}
    (hrun : run (step A) (State.start M) es = some s) {env : Env} (hfresh : env.uuid ∉ s.issued) :
    (∀ action, action.isInternal → step A s ⟨action, env⟩ = none) ↔ Drained s := by
  constructor
  · intro hstuck
    by_contra hrest
    obtain ⟨action, t, hinternal, hstep⟩ :=
      exists_internal (A := A) (targeted_run hrun) hfresh hrest
    rw [hstuck action hinternal] at hstep
    cases hstep
  · intro hrest action hinternal
    cases hnone : step A s ⟨action, env⟩ with
    | none => rfl
    | some t =>
        cases action with
        | advance rid id =>
            obtain ⟨phase, hh, next, hresume, -⟩ := (step_advance rfl).mp hnone
            obtain ⟨response, rfl⟩ := hrest.1 rid _ hh
            cases hresume
        | worker id =>
            obtain ⟨hjob, -⟩ := (step_worker rfl).mp hnone
            unfold State.nextJob at hjob
            rw [hrest.2.2, hrest.2.1] at hjob
            cases hjob
        | request rid req => cases hinternal
        | restart => cases hinternal

/-- After a create request and its build. -/
theorem not_blocked_built :
    ∃ s, run (step .small) (State.start Bytes) createAndBuild = some s ∧
      ((∀ action, action.isInternal → step .small s ⟨action, ⟨true, "q", 0, .quiet⟩⟩ = none) ↔
        Drained s) := by
  obtain ⟨s, hs, hissued⟩ : ∃ s, run (step .small) (State.start Bytes) createAndBuild = some s ∧
      s.issued = ["p"] := ⟨_, rfl, rfl⟩
  have hfresh : "q" ∉ s.issued := by
    rw [hissued]
    decide
  exact ⟨s, hs, not_blocked .small hs hfresh⟩

/-! ## The way to rest -/

theorem exists_fresh (issued : List String) : ∃ uuid, uuid ∉ issued := by
  obtain ⟨uuid, h⟩ := Infinite.exists_notMem_finset issued.toFinset
  exact ⟨uuid, fun hmem => h (List.mem_toFinset.mpr hmem)⟩

/-- What the way to rest keeps. -/
structure Settling (A : Platform M σ) (rids : Finset Nat) (s : State M) : Prop where
  handlers : HandlersIn rids s
  targeted : Targeted s
  converging : Converging A.toolchain s

theorem settling_step (hR : Reliable A.repo.toRepository) {rids : Finset Nat}
    (hinv : Settling A rids s) (hrid : ∀ rid, e.action.rid = some rid → rid ∈ rids)
    (hcalls : e.env.repoFails = false) (hrestart : e.action ≠ .restart)
    (h : step A s e = some t) : Settling A rids t where
  handlers := handlersIn_step hinv.handlers hrid h
  targeted := targeted_step hinv.targeted h
  converging := converging_step hR hcalls hrestart hinv.converging (step_transition h)

theorem settling_run (hR : Reliable A.repo.toRepository) {es : List Event}
    (hes : ∀ e ∈ es, e.env.repoFails = false ∧ e.action ≠ .restart)
    (hrun : run (step A) (State.start M) es = some s) : Settling A (requestIds es) s := by
  have hstart : Settling A (requestIds es) (State.start M) :=
    ⟨handlersIn_start _, fun rid phase hh => (nomatch hh),
      ⟨fun _ hp => (nomatch hp), fun _ hp => (nomatch hp), nofun⟩⟩
  have hstep : ∀ s e t, Settling A (requestIds es) s → e ∈ es → step A s e = some t →
      Settling A (requestIds es) t :=
    fun s e t hs he h => settling_step hR hs (rid_mem_requestIds he) (hes e he).1 (hes e he).2 h
  exact run_invariant hstep (fun _ he => he) hstart hrun

/-- Unless everything is done, the goroutines take a step that leaves them less to do. -/
theorem settling_goes (hR : Reliable A.repo.toRepository) {rids : Finset Nat}
    (hs : Settling A rids s) (hrest : ¬ Drained s) :
    ∃ e t, (e.action.isInternal ∧ e.env.repoFails = false) ∧ step A s e = some t ∧
      Settling A rids t ∧ t.stepsLeft rids < s.stepsLeft rids := by
  obtain ⟨uuid, hfresh⟩ := exists_fresh s.issued
  let env : Env := ⟨false, uuid, 0, .quiet⟩
  obtain ⟨action, t, hinternal, hstep⟩ :
      ∃ action t, action.isInternal ∧ step A s ⟨action, env⟩ = some t :=
    exists_internal hs.targeted hfresh hrest
  -- A handler that takes a step is there, so its request is among `rids`.
  have hrid : ∀ rid, action.rid = some rid → rid ∈ rids := by
    intro rid hr
    cases action with
    | advance k id =>
        obtain ⟨phase, hh, -⟩ := (step_advance rfl).mp hstep
        cases hr
        by_contra hout
        rw [hs.handlers rid hout] at hh
        cases hh
    | request k req => cases hinternal
    | worker id => cases hr
    | restart => cases hinternal
  have hrestart : action ≠ .restart := by
    rintro rfl
    cases hinternal
  have hpays := stepsLeft_step hrid hstep
  have hnorequest : action.isRequest = false := by
    cases action with
    | request rid req => cases hinternal
    | _ => rfl
  dsimp only at hpays
  rw [hinternal, hnorequest] at hpays
  exact ⟨⟨action, env⟩, t, ⟨hinternal, rfl⟩, hstep, settling_step hR hs hrid rfl hrestart hstep,
    hpays⟩

theorem settles (hR : Reliable A.repo.toRepository) {rids : Finset Nat} (hs : Settling A rids s) :
    ∃ fs t, (∀ e ∈ fs, e.action.isInternal ∧ e.env.repoFails = false) ∧
      run (step A) s fs = some t ∧ Settling A rids t ∧ Drained t ∧
      fs.length ≤ s.stepsLeft rids :=
  exists_run_to_rest (fun _ hu hrest => settling_goes hR hu hrest) hs

theorem settled_of_drained {rids : Finset Nat} (hs : Settling A rids s) (hdrained : Drained s)
    {p : Plugin} (hp : p ∈ s.db.plugins.rows) : Settled A.toolchain p := by
  rcases covered_idle hs.converging hdrained.2.2 hp with h | hw
  · exact h
  · exact absurd hw (not_waiting_of_quiescent hdrained.quiescent p.id)

/-- From wherever requests and worker have come without failures and restarts, the goroutines
    can go on to where every request is answered, no job is left and every row is settled by
    its latest source, and altogether they take at most seven steps for each request. -/
theorem exists_settled (A : Platform M σ) (hR : Reliable A.repo.toRepository) {es : List Event}
    (hes : ∀ e ∈ es, e.env.repoFails = false ∧ e.action ≠ .restart)
    (hrun : run (step A) (State.start M) es = some s) :
    ∃ fs t, (∀ e ∈ fs, e.action.isInternal ∧ e.env.repoFails = false) ∧
      run (step A) s fs = some t ∧ Drained t ∧
      (∀ p ∈ t.db.plugins.rows, Settled A.toolchain p) ∧
      es.countP (fun e => e.action.isInternal) + fs.length ≤
        7 * es.countP fun e => e.action.isRequest := by
  obtain ⟨fs, t, hfs, hrun', ht, hdrained, hlength⟩ := settles hR (settling_run hR hes hrun)
  refine ⟨fs, t, hfs, hrun', hdrained, fun p hp => settled_of_drained ht hdrained hp, ?_⟩
  have hpaid : s.stepsLeft (requestIds es) + es.countP (fun e => e.action.isInternal) ≤
      7 * es.countP fun e => e.action.isRequest := stepsLeft_run hrun
  omega

theorem exists_settled_edit :
    ∃ s fs t, run (step .small) (State.start Bytes) editDuringBuild = some s ∧
      run (step .small) s fs = some t ∧ Drained t ∧ 6 + fs.length ≤ 7 * 2 ∧
        ∀ p ∈ t.db.plugins.rows, Settled Platform.small.toolchain p := by
  obtain ⟨s, hs⟩ : ∃ s, run (step .small) (State.start Bytes) editDuringBuild = some s := ⟨_, rfl⟩
  have hquiet : ∀ e ∈ editDuringBuild, e.env.repoFails = false ∧ e.action ≠ .restart := by
    unfold editDuringBuild
    simp [Action.quietly]
  obtain ⟨fs, t, -, hfs, hdrained, hsettled, hlength⟩ :=
    exists_settled .small (sqlite_reliable _ _) hquiet hs
  exact ⟨s, fs, t, hs, hfs, hdrained, hlength, hsettled⟩

end PluginSandbox.Server
