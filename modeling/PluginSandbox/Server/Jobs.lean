/-
  Compile jobs, and plugins that are pending without one.

  A job for an id is `Waiting` in a handler on its way to `QueueCompile` or in the queue, and
  `Outstanding` also while the worker processes the id. A step can leave a pending row without
  an outstanding job in three ways: the process restarts, the worker's `GetPlugin` fails, or
  its status write fails; handlers lose no job (`handler_step`). `none_abandoned_iff`: in
  exactly the runs without such a step every pending row has an outstanding job in every
  state.
-/
import PluginSandbox.Lib.Runs
import PluginSandbox.Server.Transition

namespace PluginSandbox.Server

open PluginSandbox.Lib PluginSandbox.Db PluginSandbox.Sandbox PluginSandbox.Compiler

variable {M σ : Type} {A : Platform M σ} {s t : State M} {e : Event}

/-! ## Jobs -/

/-- A job for the id that the worker has not taken yet. -/
def State.Waiting (s : State M) (id : String) : Prop :=
  (∃ rid h, s.handlers rid = some h ∧ h.job = some id) ∨ id ∈ s.queue

/-- A job for the id that is waiting or being processed. -/
def State.Outstanding (s : State M) (id : String) : Prop :=
  s.Waiting id ∨ s.worker.current = some id

/-- The handler that was just stored waits for its own job. -/
theorem waiting_put_self {rid : Nat} {target : Option String} {next : Next M} {id : String}
    (hjob : Handler.job ⟨target, next.2⟩ = some id) :
    (State.put rid target next).Waiting id := by
  refine Or.inl ⟨rid, ⟨target, next.2⟩, ?_, hjob⟩
  rw [handlers_put, if_pos rfl]

/-- Storing a handler loses no job but the one the handler had before. -/
theorem waiting_put {rid : Nat} {target : Option String} {next : Next M} {id : String}
    (hhandlers : next.1.handlers = s.handlers) (hqueue : s.queue ⊆ next.1.queue)
    (hold : ∀ h, s.handlers rid = some h → h.job = some id → id ∈ next.1.queue)
    (h : s.Waiting id) : (State.put rid target next).Waiting id := by
  rcases h with ⟨k, handler, hk, hjob⟩ | hq
  · by_cases hrid : k = rid
    · subst hrid
      exact Or.inr (hold handler hk hjob)
    · refine Or.inl ⟨k, handler, ?_, hjob⟩
      rw [handlers_put, if_neg hrid, hhandlers]
      exact hk
  · exact Or.inr (hqueue hq)

/-- A handler without a job goes on. -/
theorem waiting_put_idle {rid : Nat} {target : Option String} {next : Next M} {id : String}
    (hhandlers : next.1.handlers = s.handlers) (hqueue : next.1.queue = s.queue)
    (hold : ∀ h, s.handlers rid = some h → h.job = none) (h : s.Waiting id) :
    (State.put rid target next).Waiting id := by
  refine waiting_put hhandlers (by rw [hqueue]; exact List.Subset.refl _) ?_ h
  intro handler hh hjob
  rw [hold handler hh] at hjob
  cases hjob

/-- `QueueCompile` moves the job of its handler to the end of the queue. -/
theorem waiting_queueCompile {rid : Nat} {target : Option String} {phase : Phase M}
    {handler : Handler M} {id k : String} (hold : s.handlers rid = some handler)
    (hjob : handler.job = some id) (h : s.Waiting k) :
    (State.put rid target ({ s with queue := s.queue ++ [id] }, phase)).Waiting k := by
  have hhandlers : ({ s with queue := s.queue ++ [id] } : State M).handlers = s.handlers := rfl
  refine waiting_put hhandlers (List.subset_append_left s.queue [id]) (held hold ?_) h
  intro hk
  have hid : id = k := Option.some.inj (hjob.symm.trans hk)
  rw [hid]
  exact List.mem_append_right _ (List.mem_singleton.mpr rfl)

/-- Taking the head of the queue leaves every other job waiting. -/
theorem waiting_receive {id : String} {queue : List String} {worker : Worker} {k : String}
    (hqueue : s.queue = id :: queue) (h : s.Waiting k) :
    k = id ∨ ({ s with queue, worker } : State M).Waiting k := by
  rcases h with h | h
  · exact Or.inr (Or.inl h)
  · rw [hqueue, List.mem_cons] at h
    rcases h with h | h
    · exact Or.inl h
    · exact Or.inr (Or.inr h)

theorem not_waiting_restart (id : String) : ¬ s.restart.Waiting id := by
  intro h
  rcases h with ⟨rid, h, hh, hjob⟩ | h
  · obtain ⟨h₀, -, rfl⟩ := Option.map_eq_some_iff.mp hh
    rw [Handler.job_abort] at hjob
    cases hjob
  · cases h

/-- What a handler's step does to the jobs: the worker stands still, no waiting job is lost,
    and a row that was not there before has a job waiting. -/
theorem handler_step {rid : Nat} (hrid : e.action.rid = some rid) (h : Transition A s e t) :
    t.worker = s.worker ∧ (∀ id, s.Waiting id → t.Waiting id) ∧
      ∀ p ∈ t.db.plugins.rows, p ∈ s.db.plugins.rows ∨ t.Waiting p.id := by
  cases h with
  | quiet rid phase issued _ hold =>
      refine ⟨rfl, fun id hw => ?_, fun p hp => Or.inl hp⟩
      exact waiting_put_idle rfl rfl (fun h hh => (hold h hh).2) hw
  | savePlugin rid plugin plugins _ hfree htarget hfresh hstatus hwasm hinsert =>
      refine ⟨rfl, fun id hw => waiting_put_idle rfl rfl (held_none hfree) hw, fun p hp => ?_⟩
      rcases (Table.mem_rows_insert hinsert).mp hp with hp | rfl
      · exact Or.inl hp
      · exact Or.inr (waiting_put_self rfl)
  | updatePluginCode rid id name source haction hold =>
      refine ⟨rfl, fun id hw => waiting_put_idle rfl rfl (held hold rfl) hw, fun p hp => ?_⟩
      rcases mem_setCode.mp hp with ⟨hp, -⟩ | ⟨q, -, hid, rfl⟩
      · exact Or.inl hp
      · have htarget : e.target = some q.id := by rw [target_advance haction, hid]
        exact Or.inr (waiting_put_self htarget)
  | queueCompile rid h id phase _ hold htarget hjob =>
      exact ⟨rfl, fun k hw => waiting_queueCompile hold hjob hw, fun p hp => Or.inl hp⟩
  | compile rid plugin input engine phase _ hold =>
      refine ⟨rfl, fun id hw => ?_, fun p hp => Or.inl hp⟩
      exact waiting_put_idle rfl rfl (held hold rfl) hw
  | saveExecution rid id plugin result x executions haction hold =>
      refine ⟨rfl, fun id hw => ?_, fun p hp => Or.inl hp⟩
      exact waiting_put_idle rfl rfl (held hold rfl) hw
  | deleteExecutions rid id _ hfree =>
      refine ⟨rfl, fun id hw => ?_, fun p hp => Or.inl hp⟩
      exact waiting_put_idle rfl rfl (held_none hfree) hw
  | deletePluginRow rid id haction hold =>
      refine ⟨rfl, fun id hw => ?_, fun p hp => Or.inl (mem_dropPlugin.mp hp).1⟩
      exact waiting_put_idle rfl rfl (held hold rfl) hw
  | receive _ _ haction | read _ _ haction | skip _ _ haction | build _ _ haction
  | writeStatus _ _ _ _ haction | dropStatus _ _ _ _ haction | restart haction =>
      rw [haction] at hrid
      cases hrid

theorem outstanding_or {id k : String} (hworker : s.worker.current = some id)
    (h : s.Outstanding k) : s.Waiting k ∨ k = id := by
  rcases h with h | h
  · exact Or.inl h
  · rw [hworker] at h
    exact Or.inr (Option.some.inj h).symm

/-! ## Pending plugins -/

/-- Every pending row has an outstanding compile job. -/
def NoneAbandoned (s : State M) : Prop :=
  ∀ p ∈ s.db.plugins.rows, p.status = "pending" → s.Outstanding p.id

/-- The repository call of this worker step fails. -/
def WorkerCallFails (A : Platform M σ) (s : State M) (e : Event) (id : String) : Prop :=
  (∃ err, s.worker = .received id ∧ e.env.call (A.repo.getPlugin s.db id) = .error err) ∨
    ∃ sourceCode build err, s.worker = .writing id sourceCode build ∧
      e.env.call (A.repo.updatePluginStatus s.db id build.status build.compiledWasm
        build.compileErrors) = .error err

/-- A step takes no pending row its last job: a restart finds no pending row, and a failing
    call of the worker a row that is not pending or has another job waiting. -/
def NoJobLost (A : Platform M σ) (s : State M) (e : Event) : Prop :=
  match e.action with
  | .restart => ∀ p ∈ s.db.plugins.rows, p.status ≠ "pending"
  | .worker id => WorkerCallFails A s e id →
      ∀ p ∈ s.db.plugins.rows, p.id = id → p.status = "pending" → s.Waiting id
  | _ => True

theorem workerCallFails_received {id : String} (hworker : s.worker = .received id) :
    WorkerCallFails A s e id ↔ ∃ err, e.env.call (A.repo.getPlugin s.db id) = .error err := by
  constructor
  · intro h
    rcases h with ⟨err, -, hfailed⟩ | ⟨source, build, err, hw, -⟩
    · exact ⟨err, hfailed⟩
    · rw [hworker] at hw
      cases hw
  · intro h
    obtain ⟨err, hfailed⟩ := h
    exact Or.inl ⟨err, hworker, hfailed⟩

theorem workerCallFails_writing {id source : String} {build : Build}
    (hworker : s.worker = .writing id source build) :
    WorkerCallFails A s e id ↔ ∃ err, e.env.call (A.repo.updatePluginStatus s.db id build.status
      build.compiledWasm build.compileErrors) = .error err := by
  constructor
  · intro h
    rcases h with ⟨err, hw, -⟩ | ⟨source', build', err, hw, hfailed⟩
    · rw [hworker] at hw
      cases hw
    · rw [hworker] at hw
      obtain ⟨-, rfl, rfl⟩ := Worker.writing.inj hw
      exact ⟨err, hfailed⟩
  · intro h
    obtain ⟨err, hfailed⟩ := h
    exact Or.inr ⟨source, build, err, hworker, hfailed⟩

/-- Receiving a job and building make no repository call. -/
theorem not_workerCallFails {id : String} (hreceived : s.worker ≠ .received id)
    (hwriting : ∀ source build, s.worker ≠ .writing id source build) :
    ¬ WorkerCallFails A s e id := by
  intro h
  rcases h with ⟨err, hw, -⟩ | ⟨source, build, err, hw, -⟩
  · exact hreceived hw
  · exact hwriting source build hw

theorem noJobLost_of_rid {rid : Nat} (h : e.action.rid = some rid) : NoJobLost A s e := by
  unfold NoJobLost
  split
  · next ha =>
      rw [ha] at h
      cases h
  · next ha =>
      rw [ha] at h
      cases h
  · trivial

theorem noJobLost_of_call {id : String} (haction : e.action = .worker id)
    (hcall : ¬ WorkerCallFails A s e id) : NoJobLost A s e := by
  unfold NoJobLost
  rw [haction]
  intro h
  exact absurd h hcall

/-- The worker gives up on an id: pending rows keep a job exactly when the row of the id is
    not pending or has another job waiting. -/
theorem noneAbandoned_giveUp {id : String} (haction : e.action = .worker id)
    (hworker : s.worker.current = some id) (hcall : WorkerCallFails A s e id)
    (hinv : NoneAbandoned s) :
    NoneAbandoned ({ s with worker := .idle } : State M) ↔ NoJobLost A s e := by
  unfold NoJobLost
  rw [haction]
  constructor
  · intro h _ p hp hid hpending
    rcases h p hp hpending with hw | hw
    · rw [hid] at hw
      exact hw
    · cases hw
  · intro h p hp hpending
    rcases outstanding_or hworker (hinv p hp hpending) with hw | hid
    · exact Or.inl hw
    · have hwait : s.Waiting id := h hcall p hp hid hpending
      rw [← hid] at hwait
      exact Or.inl hwait

/-- The worker goes on with the same id. -/
theorem noneAbandoned_keep {id : String} {worker : Worker} (hworker : s.worker.current = some id)
    (hkeep : worker.current = some id) (hinv : NoneAbandoned s) :
    NoneAbandoned ({ s with worker } : State M) := by
  intro p hp hpending
  rcases outstanding_or hworker (hinv p hp hpending) with hw | hid
  · exact Or.inl hw
  · rw [← hid] at hkeep
    exact Or.inr hkeep

/-- A handler takes no pending row its job. -/
theorem noneAbandoned_handler {rid : Nat} (hrid : e.action.rid = some rid) (hinv : NoneAbandoned s)
    (h : Transition A s e t) : NoneAbandoned t := by
  obtain ⟨hworker, hwaiting, hrows⟩ := handler_step hrid h
  intro p hp hpending
  rcases hrows p hp with hp | hw
  · rcases hinv p hp hpending with hw | hw
    · exact Or.inl (hwaiting p.id hw)
    · rw [← hworker] at hw
      exact Or.inr hw
  · exact Or.inl hw

/-- One step keeps a job for every pending row exactly when it loses none. -/
theorem noneAbandoned_step (hinv : NoneAbandoned s) (h : Transition A s e t) :
    NoneAbandoned t ↔ NoJobLost A s e := by
  have hstep := h
  cases h with
  | quiet _ _ _ hrid | savePlugin _ _ _ hrid | queueCompile _ _ _ _ hrid | compile _ _ _ _ _ hrid
  | deleteExecutions _ _ hrid =>
      exact iff_of_true (noneAbandoned_handler hrid hinv hstep) (noJobLost_of_rid hrid)
  | updatePluginCode _ _ _ _ haction | saveExecution _ _ _ _ _ _ haction
  | deletePluginRow _ _ haction =>
      have hrid := rid_advance haction
      exact iff_of_true (noneAbandoned_handler hrid hinv hstep) (noJobLost_of_rid hrid)
  | receive id queue haction hworker hqueue =>
      have hcall : ¬ WorkerCallFails A s e id :=
        not_workerCallFails (by rw [hworker]; exact nofun) (by rw [hworker]; exact nofun)
      refine iff_of_true (fun p hp hpending => ?_) (noJobLost_of_call haction hcall)
      rcases hinv p hp hpending with hw | hw
      · rcases waiting_receive hqueue hw with hid | hw
        · exact Or.inr (congrArg some hid.symm)
        · exact Or.inl hw
      · rw [hworker] at hw
        cases hw
  | read id plugin haction hworker hread hrow =>
      have hcurrent : s.worker.current = some id := by rw [hworker]; rfl
      have hcall : ¬ WorkerCallFails A s e id := by
        rw [workerCallFails_received hworker, hread]
        simp
      exact iff_of_true (noneAbandoned_keep hcurrent rfl hinv) (noJobLost_of_call haction hcall)
  | skip id err haction hworker hfailed =>
      have hcurrent : s.worker.current = some id := by rw [hworker]; rfl
      have hcall : WorkerCallFails A s e id := (workerCallFails_received hworker).mpr ⟨err, hfailed⟩
      exact noneAbandoned_giveUp haction hcurrent hcall hinv
  | build id source haction hworker =>
      have hcurrent : s.worker.current = some id := by rw [hworker]; rfl
      have hcall : ¬ WorkerCallFails A s e id :=
        not_workerCallFails (by rw [hworker]; exact nofun) (by rw [hworker]; exact nofun)
      exact iff_of_true (noneAbandoned_keep hcurrent rfl hinv) (noJobLost_of_call haction hcall)
  | writeStatus id source build db haction hworker hwritten hdb =>
      have hcurrent : s.worker.current = some id := by rw [hworker]; rfl
      have hcall : ¬ WorkerCallFails A s e id := by
        rw [workerCallFails_writing hworker, hwritten]
        simp
      refine iff_of_true (fun p hp hpending => ?_) (noJobLost_of_call haction hcall)
      subst hdb
      rcases mem_setStatus.mp hp with ⟨hp, hid⟩ | ⟨q, -, -, rfl⟩
      · rcases outstanding_or hcurrent (hinv p hp hpending) with hw | hw
        · exact Or.inl hw
        · exact absurd hw hid
      · exact absurd hpending build.status_ne_pending
  | dropStatus id source build err haction hworker hfailed =>
      have hcurrent : s.worker.current = some id := by rw [hworker]; rfl
      have hcall : WorkerCallFails A s e id := (workerCallFails_writing hworker).mpr ⟨err, hfailed⟩
      exact noneAbandoned_giveUp haction hcurrent hcall hinv
  | restart haction =>
      unfold NoJobLost
      rw [haction]
      constructor
      · intro h p hp hpending
        rcases h p hp hpending with hw | hw
        · exact not_waiting_restart p.id hw
        · cases hw
      · intro h p hp hpending
        exact absurd hpending (h p hp)

/-- In the runs whose steps lose no job, and in no others, every pending plugin has an
    outstanding compile job in every state. -/
theorem none_abandoned_iff (A : Platform M σ) (es : List Event) :
    Throughout (step A) (State.start M) es NoneAbandoned ↔
      EachStep (step A) (State.start M) es (NoJobLost A) := by
  have haux : ∀ s e t, True → step A s e = some t → True := fun _ _ _ _ _ => trivial
  refine throughout_iff_eachStep haux ?_ es trivial ?_
  · intro s e t _ hinv hstep
    exact noneAbandoned_step hinv (step_transition hstep)
  · intro p hp
    cases hp

/-- A plugin is created and the worker fails to read it: no job is left for it. -/
theorem abandoned_after_failed_read :
    ¬ ∀ (M σ : Type) (A : Platform M σ) (es : List Event),
      Throughout (step A) (State.start M) es NoneAbandoned := by
  intro h
  let es : List Event :=
    [(Action.request 0 (.createPlugin ⟨[1], false⟩)).quietly "p",
      (Action.advance 0 "p").quietly "", (Action.worker "p").quietly "",
      (Action.worker "p").faulty ""]
  obtain ⟨s, hrun, hrows, hqueue, hworker, hhandlers⟩ :
      ∃ s, run (step .small) (State.start Bytes) es = some s ∧
        s.db.plugins.rows = [⟨"p", "plugin", "a", [], 1, "pending", "", 0⟩] ∧
          s.queue = [] ∧ s.worker = .idle ∧ ∀ rid h, s.handlers rid = some h → h.job = none := by
    refine ⟨_, rfl, rfl, rfl, rfl, fun rid handler hh => ?_⟩
    cases rid with
    | zero =>
        cases hh
        rfl
    | succ n =>
        have hnone : (none : Option (Handler Bytes)) = some handler := hh
        cases hnone
  have hinv : NoneAbandoned s := h _ _ .small es es [] _ (List.append_nil _).symm hrun
  have hrow : ⟨"p", "plugin", "a", [], 1, "pending", "", 0⟩ ∈ s.db.plugins.rows := by
    rw [hrows]
    exact List.mem_singleton.mpr rfl
  rcases hinv _ hrow rfl with (⟨rid, handler, hh, hjob⟩ | hq) | hw
  · rw [hhandlers rid handler hh] at hjob
    cases hjob
  · rw [hqueue] at hq
    cases hq
  · rw [hworker] at hw
    cases hw

end PluginSandbox.Server
