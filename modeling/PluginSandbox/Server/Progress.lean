/-
  One handler in the runs of the server.

  `handler_moves`: a step leaves a handler where it stands, or is the handler's own next step,
  or a restart. So a handler that has answered keeps its answer (`done_run`), and a run
  that takes a handler from a phase to an answer of its own passes the step that leaves the
  phase (`phase_left`).
-/
import PluginSandbox.Server.Versions

namespace PluginSandbox.Server

open PluginSandbox.Lib PluginSandbox.Db PluginSandbox.Sandbox PluginSandbox.Compiler

variable {M σ : Type} {A : Platform M σ} {s t : State M} {e : Event}

/-! ## One step -/

theorem handlers_put_self (rid : Nat) (target : Option String) (next : Next M) :
    (State.put rid target next).handlers rid = some ⟨target, next.2⟩ := by
  rw [handlers_put, if_pos rfl]

/-- A step stores at most the handler it is about, unless the process restarts. -/
theorem others_handlers (h : step A s e = some t) (hrestart : e.action ≠ .restart) {rid : Nat}
    (hrid : e.action.rid ≠ some rid) : t.handlers rid = s.handlers rid := by
  have hput : ∀ (k : Nat) (next : Next M), e.action.rid = some k →
      next.1.handlers = s.handlers →
        (State.put k e.target next).handlers rid = s.handlers rid := by
    intro k next hk hnext
    have hne : rid ≠ k := by
      intro heq
      rw [heq] at hrid
      exact hrid hk
    rw [handlers_put, if_neg hne, hnext]
  cases step_transition h with
  | quiet k _ _ hk | savePlugin k _ _ hk | queueCompile k _ _ _ hk | compile k _ _ _ _ hk
  | deleteExecutions k _ hk => exact hput k _ hk rfl
  | updatePluginCode k _ _ _ haction | saveExecution k _ _ _ _ _ haction
  | deletePluginRow k _ haction => exact hput k _ (rid_advance haction) rfl
  | receive | read | skip | build | writeStatus | dropStatus => rfl
  | restart haction => exact absurd haction hrestart

/-- What a step can do to a handler that is there. -/
theorem handler_moves (h : step A s e = some t) {rid : Nat} {id : String} {phase : Phase M}
    (hh : s.handlers rid = some ⟨some id, phase⟩) :
    t.handlers rid = some ⟨some id, phase⟩ ∨
      (∃ next, e.action = .advance rid id ∧ resume A s e.env id phase = some next ∧
        t = State.put rid (some id) next) ∨
      (e.action = .restart ∧ t = s.restart) := by
  cases haction : e.action with
  | request k req =>
      have hfree := ((step_request haction).mp h).1
      have hne : k ≠ rid := by
        rintro rfl
        rw [hfree] at hh
        cases hh
      refine .inl ((others_handlers h ?_ ?_).trans hh)
      · rw [haction]
        exact nofun
      · rw [haction]
        exact fun heq => hne (Option.some.inj heq)
  | advance k id' =>
      by_cases hk : k = rid
      · subst hk
        obtain ⟨phase', hh', next, hresume, rfl⟩ := (step_advance haction).mp h
        rw [hh] at hh'
        cases hh'
        rw [target_advance haction]
        exact .inr (.inl ⟨next, rfl, hresume, rfl⟩)
      · refine .inl ((others_handlers h ?_ ?_).trans hh)
        · rw [haction]
          exact nofun
        · rw [haction]
          exact fun heq => hk (Option.some.inj heq)
  | worker id' =>
      refine .inl ((others_handlers h ?_ ?_).trans hh)
      · rw [haction]
        exact nofun
      · rw [haction]
        exact nofun
  | restart => exact .inr (.inr ⟨rfl, ((step_restart haction).mp h).symm⟩)

/-! ## Runs -/

/-- An answer is final. -/
theorem done_step (h : step A s e = some t) {rid : Nat} {id : String} {response : Response}
    (hh : s.handlers rid = some ⟨some id, .done response⟩) :
    t.handlers rid = some ⟨some id, .done response⟩ := by
  rcases handler_moves h hh with hkept | ⟨next, -, hresume, -⟩ | ⟨-, rfl⟩
  · exact hkept
  · cases hresume
  · unfold State.restart
    dsimp only
    rw [hh]
    rfl

theorem done_run {es : List Event} {rid : Nat} {id : String} {response : Response}
    (hh : s.handlers rid = some ⟨some id, .done response⟩) (hrun : run (step A) s es = some t) :
    t.handlers rid = some ⟨some id, .done response⟩ := by
  have hstep : ∀ (u : State M) (e : Event) (v : State M),
      u.handlers rid = some ⟨some id, .done response⟩ → True → step A u e = some v →
        v.handlers rid = some ⟨some id, .done response⟩ := fun _ _ _ hu _ h => done_step h hu
  exact run_invariant hstep (fun _ _ => trivial) hh hrun

/-- A run from a phase to an answer that no restart gives passes the handler's next step. -/
theorem phase_left {es : List Event} {rid : Nat} {id : String} {phase : Phase M}
    {response : Response} (hh : s.handlers rid = some ⟨some id, phase⟩)
    (hphase : ∀ r, phase ≠ .done r) (hrun : run (step A) s es = some t)
    (hanswer : t.handlers rid = some ⟨some id, .done response⟩) (hkept : response ≠ .aborted) :
    ∃ es₁ e es₂ u next, es = es₁ ++ e :: es₂ ∧ run (step A) s es₁ = some u ∧
      u.handlers rid = some ⟨some id, phase⟩ ∧ resume A u e.env id phase = some next ∧
      step A u e = some (State.put rid (some id) next) ∧
      run (step A) (State.put rid (some id) next) es₂ = some t := by
  have hnot : t.handlers rid ≠ some ⟨some id, phase⟩ := by
    intro heq
    rw [hanswer] at heq
    cases heq
    exact hphase response rfl
  obtain ⟨es₁, e, es₂, u, v, hes, hrun₁, hu, hstep, hv, hrun₂⟩ :=
    run_leaves (P := fun u => u.handlers rid = some ⟨some id, phase⟩) hh hnot hrun
  rcases handler_moves hstep hu with hstays | ⟨next, -, hresume, rfl⟩ | ⟨-, rfl⟩
  · exact absurd hstays hv
  · exact ⟨es₁, e, es₂, u, next, hes, hrun₁, hu, hresume, hstep, hrun₂⟩
  · -- a restart would have answered with `aborted`
    have habort : (u.restart).handlers rid = some ⟨some id, .done .aborted⟩ := by
      unfold State.restart
      dsimp only
      rw [hu]
      cases phase with
      | done r => exact absurd rfl (hphase r)
      | _ => rfl
    have hend := done_run habort hrun₂
    rw [hanswer] at hend
    cases hend
    exact absurd rfl hkept

end PluginSandbox.Server
