/-
  Two facts about every reachable state: stored ids were issued, and a handler that holds a
  plugin row is the handler of a request about that plugin.
-/
import PluginSandbox.Lib.Runs
import PluginSandbox.Server.Transition

namespace PluginSandbox.Server

open PluginSandbox.Lib PluginSandbox.Db PluginSandbox.Sandbox PluginSandbox.Compiler

variable {M σ : Type} {A : Platform M σ} {s t : State M} {e : Event}

/-! ## Issued ids -/

/-- The primary keys of both tables are UUIDs that were drawn. -/
structure IdsIssued (s : State M) : Prop where
  plugins : ∀ p ∈ s.db.plugins.rows, p.id ∈ s.issued
  executions : ∀ x ∈ s.db.executions.rows, x.id ∈ s.issued

theorem idsIssued_start : IdsIssued (State.start M) :=
  ⟨fun _ hp => (nomatch hp), fun _ hx => (nomatch hx)⟩

/-- Rows stay among those there were, and issued ids stay issued. -/
theorem idsIssued_keep (hinv : IdsIssued s) (hissued : s.issued ⊆ t.issued)
    (hplugins : ∀ p ∈ t.db.plugins.rows, ∃ q ∈ s.db.plugins.rows, p.id = q.id)
    (hexecutions : ∀ x ∈ t.db.executions.rows, x ∈ s.db.executions.rows) : IdsIssued t where
  plugins p hp := by
    obtain ⟨q, hq, hid⟩ := hplugins p hp
    rw [hid]
    exact hissued (hinv.plugins q hq)
  executions x hx := hissued (hinv.executions x (hexecutions x hx))

theorem idsIssued_step (hinv : IdsIssued s) (h : Transition A s e t) : IdsIssued t := by
  have hrefl : s.issued ⊆ s.issued := List.Subset.refl _
  cases h with
  | quiet rid phase issued hrid hold hnew hsubject hissued =>
      exact idsIssued_keep hinv hissued (fun p hp => ⟨p, hp, rfl⟩) fun x hx => hx
  | savePlugin rid plugin plugins hrid hfree htarget hfresh hstatus hwasm hinsert =>
      refine ⟨fun p hp => ?_, fun x hx => List.mem_cons_of_mem _ (hinv.executions x hx)⟩
      rcases (Table.mem_rows_insert hinsert).mp hp with hp | rfl
      · exact List.mem_cons_of_mem _ (hinv.plugins p hp)
      · exact List.mem_cons_self
  | updatePluginCode rid id name source =>
      refine idsIssued_keep hinv hrefl (fun p hp => ?_) fun x hx => hx
      rcases mem_setCode.mp hp with ⟨hp, -⟩ | ⟨q, hq, -, rfl⟩
      · exact ⟨p, hp, rfl⟩
      · exact ⟨q, hq, rfl⟩
  | queueCompile | compile | receive | read | skip | build | dropStatus | restart =>
      exact idsIssued_keep hinv hrefl (fun p hp => ⟨p, hp, rfl⟩) fun x hx => hx
  | saveExecution rid id plugin result x executions haction hold hcall hplugin hfresh
      hinsert =>
      refine ⟨fun p hp => List.mem_cons_of_mem _ (hinv.plugins p hp), fun y hy => ?_⟩
      rcases (Table.mem_rows_insert hinsert).mp hy with hy | rfl
      · exact List.mem_cons_of_mem _ (hinv.executions y hy)
      · exact List.mem_cons_self
  | deleteExecutions rid id =>
      exact idsIssued_keep hinv hrefl (fun p hp => ⟨p, hp, rfl⟩)
        fun x hx => (mem_dropExecutions.mp hx).1
  | deletePluginRow rid id =>
      exact idsIssued_keep hinv hrefl (fun p hp => ⟨p, (mem_dropPlugin.mp hp).1, rfl⟩)
        fun x hx => hx
  | writeStatus id source build db haction hworker hwritten hdb =>
      subst hdb
      refine idsIssued_keep hinv hrefl (fun p hp => ?_) fun x hx => hx
      rcases mem_setStatus.mp hp with ⟨hp, -⟩ | ⟨q, hq, -, rfl⟩
      · exact ⟨p, hp, rfl⟩
      · exact ⟨q, hq, rfl⟩

theorem find?_execution_of_fresh (hinv : IdsIssued s) {id : String} (h : id ∉ s.issued) :
    s.db.executions.find? id = none := by
  rw [Table.find?_eq_none]
  intro hmem
  obtain ⟨x, hx, rfl⟩ := List.mem_map.mp hmem
  exact h (hinv.executions x hx)

/-! ## Handlers and the rows they hold -/

/-- The row a handler holds has the id its request is about. -/
def Addressed (s : State M) : Prop :=
  ∀ rid h p, s.handlers rid = some h → h.phase.subject = some p → h.target = some p.id

theorem addressed_start : Addressed (State.start M) := by
  intro rid h p hh
  cases hh

theorem addressed_put {rid : Nat} {target : Option String} {next : Next M}
    (hinv : Addressed s) (hhandlers : next.1.handlers = s.handlers)
    (hnew : ∀ p, next.2.subject = some p → target = some p.id) :
    Addressed (State.put rid target next) := by
  intro k h p hh hp
  rw [handlers_put] at hh
  split at hh
  · cases hh
    exact hnew p hp
  · rw [hhandlers] at hh
    exact hinv k h p hh hp

theorem addressed_step (hinv : Addressed s) (h : Transition A s e t) : Addressed t := by
  cases h with
  | quiet rid phase issued hrid hold hnew hsubject =>
      refine addressed_put hinv rfl fun p hp => ?_
      rcases hsubject p hp with ⟨h, hh, hp⟩ | htarget
      · rw [← (hold h hh).1]
        exact hinv rid h p hh hp
      · exact htarget
  | savePlugin rid plugin plugins hrid hfree htarget =>
      refine addressed_put hinv rfl fun p hp => ?_
      cases hp
      exact htarget
  | queueCompile rid h id phase hrid hold htarget hjob hnew hsubject =>
      refine addressed_put hinv rfl fun p hp => ?_
      rw [hsubject] at hp
      cases hp
  | compile rid plugin input engine phase hrid hold hengine hnew hsubject =>
      refine addressed_put hinv rfl fun p hp => ?_
      rw [hsubject] at hp
      exact hinv rid _ p hold hp
  | updatePluginCode | saveExecution | deleteExecutions | deletePluginRow =>
      exact addressed_put hinv rfl nofun
  | receive | read | skip | build | writeStatus | dropStatus => exact hinv
  | restart haction =>
      intro rid h p hh hp
      obtain ⟨h₀, hh₀, rfl⟩ := Option.map_eq_some_iff.mp hh
      rw [subject_abort] at hp
      cases hp

/-- A handler enqueues the plugin that its request is about. -/
theorem target_of_job (hinv : Addressed s) {rid : Nat} {h : Handler M} {id : String}
    (hh : s.handlers rid = some h) (hjob : h.job = some id) : h.target = some id := by
  obtain ⟨target, phase⟩ := h
  cases phase with
  | createQueueCompile plugin =>
      have htarget := hinv rid _ plugin hh rfl
      exact htarget.trans hjob
  | updateQueueCompile => exact hjob
  | _ => cases hjob

/-! ## Reachable states -/

structure Reachable (s : State M) : Prop where
  ids : IdsIssued s
  addressed : Addressed s

theorem reachable_start : Reachable (State.start M) := ⟨idsIssued_start, addressed_start⟩

theorem reachable_step (hinv : Reachable s) (h : Transition A s e t) : Reachable t :=
  ⟨idsIssued_step hinv.ids h, addressed_step hinv.addressed h⟩

theorem reachable_run {es : List Event} (hrun : run (step A) (State.start M) es = some s) :
    Reachable s := by
  have hstep : ∀ s e t, Reachable s → True → step A s e = some t → Reachable t :=
    fun s e t hs _ h => reachable_step hs (step_transition h)
  exact run_invariant hstep (fun _ _ => trivial) reachable_start hrun

end PluginSandbox.Server
