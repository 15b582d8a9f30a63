/-
  Plugins without a job.

  A pending plugin can lose its job: a restart empties the queue, and the worker drops a job whose
  row it cannot read or write. Nothing brings the job back. A row whose plugin has no job and
  no update under way stays as it is, through requests, workers, failing calls and further
  restarts, until an update of that plugin is asked for; it can only be deleted (`row_stays`).
  So a plugin that is pending and without a job stays pending.
-/
import PluginSandbox.Server.Progress
import PluginSandbox.Server.Refinement

namespace PluginSandbox.Server

open PluginSandbox.Lib PluginSandbox.Db PluginSandbox.Sandbox PluginSandbox.Compiler

variable {M σ : Type} {A : Platform M σ} {s t : State M} {e : Event} {id : String} {row : Plugin}

/-! ## Handlers that lead to a job -/

/-- The handler is to write the row, or to queue a job. -/
def Phase.edits : Phase M → Bool
  | .createQueueCompile _ => true
  | .updatePluginCode _ _ => true
  | .updateQueueCompile => true
  | _ => false

theorem edits_of_job {h : Handler M} (hjob : h.job = some id) : h.phase.edits = true := by
  obtain ⟨target, phase⟩ := h
  cases phase with
  | createQueueCompile plugin => rfl
  | updateQueueCompile => rfl
  | _ => cases hjob

theorem edits_abort (h : Handler M) : h.abort.phase.edits = false := by
  obtain ⟨target, phase⟩ := h
  cases phase <;> rfl

/-- No job of the plugin is left, and no handler of it leads to one. -/
structure Jobless (s : State M) (id : String) : Prop where
  handlers : ∀ rid h, s.handlers rid = some h → h.target = some id → h.phase.edits = false
  queue : id ∉ s.queue
  worker : s.worker.current ≠ some id

/-! ## One step -/

/-- No update of the plugin is asked for. -/
def LeavesAlone (id : String) (e : Event) : Prop :=
  ∀ rid body, e.action ≠ .request rid (.updatePlugin id body)

/-- A handler that was just started leads to a job only for a new id or for the plugin that an
    update names. -/
theorem edits_received {rid : Nat} {req : Request} {next : Next M} (hissued : id ∈ s.issued)
    (hleaves : LeavesAlone id e) (haction : e.action = .request rid req)
    (hserve : serve A s e.env req = some next) (htarget : e.target = some id) :
    next.2.edits = false := by
  unfold Event.target at htarget
  rw [haction] at htarget
  cases serve_opened hserve with
  | saved body content haccepts hfresh =>
      cases htarget
      exact absurd hissued hfresh
  | accepted k body =>
      cases htarget
      exact absurd haction (hleaves rid body)
  | _ => rfl

/-- A handler leads to a job after its step only if it did before. -/
theorem edits_resume {env : Env} {phase : Phase M} {next : Next M}
    (h : resume A s env id phase = some next) (hedits : next.2.edits = true) :
    phase.edits = true := by
  cases resume_continued h with
  | createQueued | codeFailed | codeWritten | updateQueued => rfl
  | _ => cases hedits

/-- A handler that leads to a job of the plugin had done so before. -/
theorem edits_step (hissued : id ∈ s.issued) (hleaves : LeavesAlone id e)
    (h : step A s e = some t) {rid : Nat} {handler : Handler M}
    (hh : t.handlers rid = some handler) (htarget : handler.target = some id)
    (hedits : handler.phase.edits = true) :
    ∃ old, s.handlers rid = some old ∧ old.target = some id ∧ old.phase.edits = true := by
  by_cases hrid : e.action.rid = some rid
  · cases haction : e.action with
    | request k req =>
        rw [haction] at hrid
        cases hrid
        obtain ⟨-, next, hserve, rfl⟩ := (step_request haction).mp h
        rw [handlers_put_self] at hh
        cases hh
        rw [edits_received hissued hleaves haction hserve htarget] at hedits
        cases hedits
    | advance k job =>
        rw [haction] at hrid
        cases hrid
        obtain ⟨phase, hold, next, hresume, rfl⟩ := (step_advance haction).mp h
        rw [handlers_put_self, target_advance haction] at hh
        cases hh
        exact ⟨_, hold, htarget, edits_resume hresume hedits⟩
    | worker | restart =>
        rw [haction] at hrid
        cases hrid
  · by_cases hrestart : e.action = .restart
    · cases (step_restart hrestart).mp h
      obtain ⟨old, -, rfl⟩ := Option.map_eq_some_iff.mp hh
      rw [edits_abort] at hedits
      cases hedits
    · rw [others_handlers h hrestart hrid] at hh
      exact ⟨handler, hh, htarget, hedits⟩

/-- No job of the plugin comes into being. -/
theorem jobless_step (hreach : Reachable s) (hissued : id ∈ s.issued) (hjobless : Jobless s id)
    (hleaves : LeavesAlone id e) (h : step A s e = some t) : Jobless t id := by
  have hhandlers : ∀ rid handler, t.handlers rid = some handler → handler.target = some id →
      handler.phase.edits = false := by
    intro rid handler hh htarget
    by_contra hnot
    have hedits : handler.phase.edits = true := Bool.not_eq_false _ ▸ hnot
    obtain ⟨old, hold, holdTarget, holdEdits⟩ := edits_step hissued hleaves h hh htarget hedits
    rw [hjobless.handlers rid old hold holdTarget] at holdEdits
    cases holdEdits
  cases step_transition h with
  | quiet | savePlugin | updatePluginCode | compile | saveExecution | deleteExecutions
  | deletePluginRow => exact ⟨hhandlers, hjobless.queue, hjobless.worker⟩
  | queueCompile rid handler job phase hrid hold htarget hjob =>
      refine ⟨hhandlers, fun hmem => ?_, hjobless.worker⟩
      rcases List.mem_append.mp hmem with hqueued | hnew
      · exact hjobless.queue hqueued
      · cases List.mem_singleton.mp hnew
        have howner := target_of_job hreach.addressed hold hjob
        have hidle := hjobless.handlers rid handler hold howner
        rw [edits_of_job hjob] at hidle
        cases hidle
  | receive job queue haction hworker hqueue =>
      have hnot := hjobless.queue
      rw [hqueue] at hnot
      refine ⟨hhandlers, fun hmem => hnot (List.mem_cons_of_mem _ hmem), fun hcurrent => ?_⟩
      cases hcurrent
      exact hnot List.mem_cons_self
  | read job plugin haction hworker =>
      have hnot := hjobless.worker
      rw [hworker] at hnot
      exact ⟨hhandlers, hjobless.queue, hnot⟩
  | build job source haction hworker =>
      have hnot := hjobless.worker
      rw [hworker] at hnot
      exact ⟨hhandlers, hjobless.queue, hnot⟩
  | skip | writeStatus | dropStatus => exact ⟨hhandlers, hjobless.queue, nofun⟩
  | restart => exact ⟨hhandlers, nofun, nofun⟩

/-- The row stays, or is deleted. -/
theorem row_step (hjobless : Jobless s id) (hrow : s.db.plugins.find? id = some row)
    (h : step A s e = some t) :
    t.db.plugins.find? id = some row ∨ t.db.plugins.find? id = none := by
  cases step_transition h with
  | savePlugin rid plugin plugins hrid hfree htarget hfresh hstatus hwasm hinsert =>
      obtain ⟨hmem, rfl⟩ := Table.find?_some hrow
      exact .inl (Table.find?_of_mem ((Table.mem_rows_insert hinsert).mpr (.inl hmem)))
  | updatePluginCode rid k name source haction hold =>
      refine .inl ?_
      show (s.db.setCode k name source).plugins.find? id = some row
      rw [find?_setCode]
      split
      · next hk =>
          subst hk
          cases hjobless.handlers rid _ hold rfl
      · exact hrow
  | deletePluginRow rid k haction hold =>
      show (s.db.dropPlugin k).plugins.find? id = some row ∨
        (s.db.dropPlugin k).plugins.find? id = none
      rw [find?_dropPlugin]
      split
      · exact .inr rfl
      · exact .inl hrow
  | writeStatus k source build db haction hworker hwritten hdb =>
      refine .inl ?_
      show db.plugins.find? id = some row
      rw [hdb, find?_setStatus]
      split
      · next hk =>
          have hnot := hjobless.worker
          rw [hworker, hk] at hnot
          exact absurd rfl hnot
      · exact hrow
  | quiet | queueCompile | compile | saveExecution | deleteExecutions | receive | read | skip
  | build | dropStatus | restart => exact .inl hrow

/-! ## Runs -/

/-- The row is the one it was, or is gone for good, and there is still no job. -/
structure Kept (id : String) (row : Plugin) (s : State M) : Prop where
  reachable : Reachable s
  issued : id ∈ s.issued
  jobless : Jobless s id
  row : s.db.plugins.find? id = some row ∨ s.db.plugins.find? id = none

theorem kept_step (hkept : Kept id row s) (hleaves : LeavesAlone id e) (h : step A s e = some t) :
    Kept id row t where
  reachable := reachable_step hkept.reachable (step_transition h)
  issued := (inherits_step (step_transition h)).1 hkept.issued
  jobless := jobless_step hkept.reachable hkept.issued hkept.jobless hleaves h
  row := by
    rcases hkept.row with hrow | hgone
    · exact row_step hkept.jobless hrow h
    · have hone : run (step A) s [e] = some t := run_cons_iff.mpr ⟨t, h, rfl⟩
      exact .inr (missing_run hkept.issued hgone hone)

/-- A plugin without a job and without an update under way keeps its row, whatever else is asked
    for, fails or restarts, until an update of it is asked for, unless a request deletes it. -/
theorem row_stays (A : Platform M σ) {before es : List Event} {s t : State M} {id : String}
    {row : Plugin} (hbefore : run (step A) (State.start M) before = some s)
    (hrow : s.db.plugins.find? id = some row) (hjobless : Jobless s id)
    (hes : ∀ e ∈ es, LeavesAlone id e) (hrun : run (step A) s es = some t) :
    t.db.plugins.find? id = some row ∨
      ∃ e ∈ before ++ es, ∃ rid, e.action = .request rid (.deletePlugin id) := by
  have hreach := reachable_run hbefore
  obtain ⟨hmem, hid⟩ := Table.find?_some hrow
  have hissued : id ∈ s.issued := hid ▸ hreach.ids.plugins row hmem
  have hstep : ∀ u e v, Kept id row u → LeavesAlone id e → step A u e = some v → Kept id row v :=
    fun u e v hu he h => kept_step hu he h
  have hkept := run_invariant hstep hes ⟨hreach, hissued, hjobless, .inl hrow⟩ hrun
  rcases hkept.row with hsame | hgone
  · exact .inl hsame
  · rcases lives_on hbefore hrun hrow with ⟨b, hb, -⟩ | ⟨-, -, hdeleted⟩
    · rw [hgone] at hb
      cases hb
    · exact .inr hdeleted

/-- The process stops before the worker takes the job of a new plugin. -/
def stoppedBeforeBuild : List Event :=
  [(Action.request 0 (.createPlugin ⟨[1], false⟩)).quietly "p", (Action.advance 0 "p").quietly "",
    Action.restart.quietly ""]

/-- Then the plugin is run, and another one is created and built. -/
def runAndBuildAnother : List Event :=
  [(Action.request 1 (.executePlugin "p" ⟨[], false⟩)).quietly "",
    (Action.request 2 (.createPlugin ⟨[2], false⟩)).quietly "q",
    (Action.advance 2 "q").quietly "", (Action.worker "q").quietly "",
    (Action.worker "q").quietly "", (Action.worker "q").quietly "", (Action.worker "q").quietly ""]

theorem row_stays_pending :
    ∃ s t row, run (step .small) (State.start Bytes) stoppedBeforeBuild = some s ∧
      s.db.plugins.find? "p" = some row ∧ row.status = "pending" ∧
      run (step .small) s runAndBuildAnother = some t ∧ t.db.plugins.find? "p" = some row := by
  let s : State Bytes := (run (step .small) (State.start Bytes) stoppedBeforeBuild).get rfl
  have hbefore : run (step .small) (State.start Bytes) stoppedBeforeBuild = some s := rfl
  have hjobless : Jobless s "p" := by
    refine ⟨fun rid h hh _ => ?_, nofun, nofun⟩
    obtain ⟨old, -, rfl⟩ := Option.map_eq_some_iff.mp hh
    exact edits_abort old
  have hleaves : ∀ e ∈ runAndBuildAnother, LeavesAlone "p" e := by
    unfold runAndBuildAnother LeavesAlone
    simp [Action.quietly]
  have hkept : ∀ e ∈ stoppedBeforeBuild ++ runAndBuildAnother, ∀ rid,
      e.action ≠ .request rid (.deletePlugin "p") := by
    unfold stoppedBeforeBuild runAndBuildAnother
    simp [Action.quietly]
  obtain ⟨t, row, hrow, hstatus, hrun⟩ : ∃ t row, s.db.plugins.find? "p" = some row ∧
      row.status = "pending" ∧ run (step .small) s runAndBuildAnother = some t :=
    ⟨_, _, rfl, rfl, rfl⟩
  refine ⟨s, t, row, hbefore, hrow, hstatus, hrun, ?_⟩
  rcases row_stays .small hbefore hrow hjobless hleaves hrun with hsame | ⟨e, he, rid, haction⟩
  · exact hsame
  · exact absurd haction (hkept e he rid)

end PluginSandbox.Server
