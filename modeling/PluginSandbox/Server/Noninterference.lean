/-
  What a tenant sees does not depend on the other tenants.

  Two server states are compared: one that takes every step, and one that takes only the steps
  that are not about another plugin than `p` (`concerns`). `Purged` relates them: the same
  view of `p` in the database and the cache, the queue with only the jobs of `p`, the worker
  where it stands if it is on `p` and idle otherwise, and the handlers of requests on `p`.

  A step about another plugin is invisible to the second state (`purged_drop`). A step about
  `p` finds there everything it reads, so it is enabled and has the same outcome
  (`purged_keep`): repository calls by `Isolated`, module and guest because the cache entry
  and the store are the plugin's own, the queue because it only gets shorter.
-/
import PluginSandbox.Server.Invariants

namespace PluginSandbox.Server

open PluginSandbox.Lib PluginSandbox.Db PluginSandbox.Sandbox PluginSandbox.Compiler

variable {M σ : Type} {A : Platform M σ} {p : String} {s t : State M} {env : Env}

/-! ## The two states -/

/-- Not a step about another plugin. -/
def concerns (p : String) (e : Event) : Bool := e.target == none || e.target == some p

/-- The shared state, as far as it matters to `p`. -/
structure Alike (p : String) (s t : State M) : Prop where
  view : t.db.view p = s.db.view p
  queue : t.queue = s.queue.filter (· == p)
  worker : t.worker = if s.worker.current = some p then s.worker else .idle
  modules : t.engine.modules p = s.engine.modules p
  issued : t.issued ⊆ s.issued

/-- The second table has the handlers of requests on `p`, and no request the first has not. -/
structure SameHandlers (p : String) (hs ht : Nat → Option (Handler M)) : Prop where
  own : ∀ rid h, hs rid = some h → h.target = some p → ht rid = some h
  back : ∀ rid h', ht rid = some h' → ∃ h, hs rid = some h ∧ h.target = h'.target

structure Purged (p : String) (s t : State M) : Prop extends Alike p s t where
  handlers : SameHandlers p s.handlers t.handlers
  left : Reachable s
  right : Reachable t

/-! ## Handlers -/

theorem sameHandlers_free {hs ht : Nat → Option (Handler M)} (h : SameHandlers p hs ht)
    {rid : Nat} (hfree : hs rid = none) : ht rid = none := by
  cases hrid : ht rid with
  | none => rfl
  | some h' =>
      obtain ⟨h₀, hh, -⟩ := h.back rid h' hrid
      rw [hfree] at hh
      cases hh

/-- Both store a handler of the same request, in the same phase if it is about `p`. -/
theorem sameHandlers_both {hs ht : Nat → Option (Handler M)} (h : SameHandlers p hs ht)
    (rid : Nat) {target : Option String} {phase phase' : Phase M}
    (hphase : target = some p → phase' = phase) :
    SameHandlers p (Function.update hs rid (some ⟨target, phase⟩))
      (Function.update ht rid (some ⟨target, phase'⟩)) where
  own k h₀ hk htarget := by
    rw [Function.update_apply] at hk ⊢
    split at hk
    · next hrid =>
        cases hk
        rw [if_pos hrid, hphase htarget]
    · next hrid =>
        rw [if_neg hrid]
        exact h.own k h₀ hk htarget
  back k h' hk := by
    rw [Function.update_apply] at hk ⊢
    split at hk
    · next hrid =>
        cases hk
        rw [if_pos hrid]
        exact ⟨_, rfl, rfl⟩
    · next hrid =>
        rw [if_neg hrid]
        exact h.back k h' hk

/-- Only the first stores a handler, of a request on another plugin. -/
theorem sameHandlers_left {hs ht : Nat → Option (Handler M)} (h : SameHandlers p hs ht)
    (rid : Nat) {target : Option String} {phase : Phase M} (hother : target ≠ some p)
    (hold : ∀ h₀, hs rid = some h₀ → h₀.target = target) :
    SameHandlers p (Function.update hs rid (some ⟨target, phase⟩)) ht where
  own k h₀ hk htarget := by
    rw [Function.update_apply] at hk
    split at hk
    · cases hk
      exact absurd htarget hother
    · exact h.own k h₀ hk htarget
  back k h' hk := by
    obtain ⟨h₀, hh₀, htarget⟩ := h.back k h' hk
    rw [Function.update_apply]
    split
    · next hrid =>
        subst hrid
        exact ⟨_, rfl, (hold h₀ hh₀).symm.trans htarget⟩
    · exact ⟨h₀, hh₀, htarget⟩

/-! ## The queue -/

theorem filter_head (queue : List String) :
    (p :: queue).filter (· == p) = p :: queue.filter (· == p) := by
  simp

theorem filter_other {id : String} (hid : p ≠ id) (queue : List String) :
    (id :: queue).filter (· == p) = queue.filter (· == p) := by
  simp [Ne.symm hid]

/-! ## Steps about other plugins -/

theorem alike_drop (h : Alike p s t) {s' : State M} (hview : s'.db.view p = s.db.view p)
    (hqueue : s'.queue.filter (· == p) = s.queue.filter (· == p))
    (hworker : (s'.worker = s.worker) ∨ (s'.worker.current ≠ some p ∧ s.worker.current ≠ some p))
    (hmodules : s'.engine.modules p = s.engine.modules p) (hissued : s.issued ⊆ s'.issued) :
    Alike p s' t where
  view := by rw [h.view, hview]
  queue := by rw [h.queue, hqueue]
  worker := by
    rcases hworker with hw | ⟨hw', hw⟩
    · rw [hw]
      exact h.worker
    · rw [if_neg hw', h.worker, if_neg hw]
  modules := by rw [h.modules, hmodules]
  issued := List.Subset.trans h.issued hissued

/-- A handler of another request goes on. -/
theorem purged_left (h : Purged p s t) {rid : Nat} {target : Option String} {next : Next M}
    (halike : Alike p next.1 t) (hhandlers : next.1.handlers = s.handlers)
    (hother : target ≠ some p) (hold : ∀ h₀, s.handlers rid = some h₀ → h₀.target = target)
    (hleft : Reachable (State.put rid target next)) : Purged p (State.put rid target next) t := by
  refine ⟨⟨halike.view, halike.queue, halike.worker, halike.modules, halike.issued⟩, ?_, hleft,
    h.right⟩
  unfold State.put
  rw [hhandlers]
  exact sameHandlers_left h.handlers rid hother hold

/-- A handler of another request writes the rows of another plugin. -/
theorem purged_write (h : Purged p s t) {rid : Nat} {target : Option String} {db : Database}
    {issued : List String} {phase : Phase M} (hview : db.view p = s.db.view p)
    (hissued : s.issued ⊆ issued) (hother : target ≠ some p)
    (hold : ∀ h₀, s.handlers rid = some h₀ → h₀.target = target)
    (hleft : Reachable (State.put rid target ({ s with db, issued }, phase))) :
    Purged p (State.put rid target ({ s with db, issued }, phase)) t :=
  purged_left h (alike_drop h.toAlike hview rfl (Or.inl rfl) rfl hissued) rfl hother hold hleft

/-- The worker goes on with another plugin. -/
theorem purged_busy (h : Purged p s t) {worker : Worker} (hbefore : s.worker.current ≠ some p)
    (hafter : worker.current ≠ some p) (hleft : Reachable ({ s with worker } : State M)) :
    Purged p { s with worker } t :=
  ⟨alike_drop h.toAlike rfl rfl (Or.inr ⟨hafter, hbefore⟩) rfl (List.Subset.refl _), h.handlers,
    hleft, h.right⟩

theorem current_ne {worker : Worker} {id : String} (hid : id ≠ p)
    (hworker : worker.current = some id) : worker.current ≠ some p := by
  rw [hworker]
  intro heq
  exact hid (Option.some.inj heq)

/-- A step about another plugin leaves the second state behind. -/
theorem purged_drop {e : Event} {s' : State M} (h : Purged p s t) {q : String}
    (htarget : e.target = some q) (hq : q ≠ p) (hstep : Transition A s e s') :
    Purged p s' t := by
  have hother : e.target ≠ some p := by
    rw [htarget]
    intro heq
    exact hq (Option.some.inj heq)
  have hne : ∀ {id}, e.target = some id → p ≠ id := by
    intro id hid heq
    rw [heq] at hother
    exact hother hid
  have hrefl : s.issued ⊆ s.issued := List.Subset.refl _
  have hleft : Reachable s' := reachable_step h.left hstep
  cases hstep with
  | quiet rid phase issued hrid hold hnew hsubject hissued =>
      have halike : Alike p { s with issued } t :=
        alike_drop h.toAlike rfl rfl (Or.inl rfl) rfl hissued
      exact purged_left h halike rfl hother (fun h₀ hh => (hold h₀ hh).1) hleft
  | savePlugin rid plugin plugins hrid hfree hid hfresh hstatus hwasm hinsert =>
      refine purged_write h ?_ (List.subset_cons_self _ _) hother (held_none hfree) hleft
      exact (view_insertPlugin hinsert p).trans (if_neg (hne hid))
  | updatePluginCode rid id name source haction hold =>
      have hid := target_advance haction
      refine purged_write h ?_ hrefl hother (held hold hid.symm) hleft
      exact (view_setCode s.db id name source p).trans (if_neg (hne hid))
  | queueCompile rid handler id phase hrid hold hhandler hjob =>
      have hid : e.target = some id :=
        hhandler.symm.trans (target_of_job h.left.addressed hold hjob)
      refine purged_left h ?_ rfl hother (held hold hhandler) hleft
      refine alike_drop h.toAlike rfl ?_ (Or.inl rfl) rfl hrefl
      show (s.queue ++ [id]).filter (· == p) = _
      rw [List.filter_append, filter_other (hne hid), List.filter_nil, List.append_nil]
  | compile rid plugin input engine phase hrid hold hengine =>
      have hid : e.target = some plugin.id := h.left.addressed rid _ plugin hold rfl
      refine purged_left h ?_ rfl hother (held hold rfl) hleft
      exact alike_drop h.toAlike rfl rfl (Or.inl rfl) (hengine p (hne hid)) hrefl
  | saveExecution rid id plugin result x executions haction hold hcall hplugin hx
      hinsert =>
      have hid := target_advance haction
      have hsame : some id = some plugin.id := h.left.addressed rid _ plugin hold rfl
      have hown : p ≠ x.pluginID := hne (hid.trans (hsame.trans (congrArg some hplugin.symm)))
      refine purged_write h ?_ (List.subset_cons_self _ _) hother (held hold hid.symm) hleft
      exact (view_insertExecution hinsert p).trans (if_neg hown)
  | deleteExecutions rid id hrid hfree hid =>
      refine purged_write h ?_ hrefl hother (held_none hfree) hleft
      exact (view_dropExecutions s.db id p).trans (if_neg (hne hid))
  | deletePluginRow rid id haction hold =>
      have hid := target_advance haction
      refine purged_write h ?_ hrefl hother (held hold hid.symm) hleft
      exact (view_dropPlugin s.db id p).trans (if_neg (hne hid))
  | receive id queue haction hworker hqueue =>
      have hid : p ≠ id := hne (target_worker haction)
      refine ⟨alike_drop h.toAlike rfl ?_ (Or.inr ⟨current_ne hid.symm rfl, ?_⟩) rfl hrefl,
        h.handlers, hleft, h.right⟩
      · rw [hqueue, filter_other hid]
      · rw [hworker]
        exact nofun
  | read id _ haction hworker | build id _ haction hworker =>
      have hid : id ≠ p := (hne (target_worker haction)).symm
      have hbefore : s.worker.current = some id := by rw [hworker]; rfl
      exact purged_busy h (current_ne hid hbefore) (current_ne hid rfl) hleft
  | skip id _ haction hworker | dropStatus id _ _ _ haction hworker =>
      have hid : id ≠ p := (hne (target_worker haction)).symm
      have hbefore : s.worker.current = some id := by rw [hworker]; rfl
      exact purged_busy h (current_ne hid hbefore) nofun hleft
  | writeStatus id source build db haction hworker hwritten hdb =>
      have hid : p ≠ id := hne (target_worker haction)
      have hbefore : s.worker.current = some id := by rw [hworker]; rfl
      subst hdb
      refine ⟨alike_drop h.toAlike ?_ rfl (Or.inr ⟨nofun, current_ne hid.symm hbefore⟩) rfl hrefl,
        h.handlers, hleft, h.right⟩
      exact (view_setStatus s.db id _ _ _ p).trans (if_neg hid)
  | restart haction =>
      rw [show e.target = none by unfold Event.target; rw [haction]] at htarget
      simp at htarget

/-! ## Steps about the plugin -/

/-- Two outcomes of the same handler step. -/
structure Follows (p : String) (s t : State M) (next next' : Next M) : Prop where
  alike : Alike p next.1 next'.1
  phase : next'.2 = next.2
  left : next.1.handlers = s.handlers
  right : next'.1.handlers = t.handlers

theorem follows_same (h : Alike p s t) (phase : Phase M) : Follows p s t (s, phase) (t, phase) :=
  ⟨h, rfl, rfl, rfl⟩

theorem follows_db (h : Alike p s t) {db db' : Database} (hview : db'.view p = db.view p)
    (phase : Phase M) : Follows p s t ({ s with db }, phase) ({ t with db := db' }, phase) :=
  ⟨⟨hview, h.queue, h.worker, h.modules, h.issued⟩, rfl, rfl, rfl⟩

theorem getPlugin_same (h : Alike p s t) :
    env.call (A.repo.getPlugin t.db p) = env.call (A.repo.getPlugin s.db p) := by
  rw [A.repo.isolated.getPlugin h.view]

/-- A write fails in both states or ends in the same view. -/
theorem call_viewed {r r' : Except DbError Database} (h : viewed p r' = viewed p r) (env : Env) :
    (∃ err, env.call r = .error err ∧ env.call r' = .error err) ∨
      ∃ db db', env.call r = .ok db ∧ env.call r' = .ok db' ∧ db'.view p = db.view p := by
  unfold Env.call
  cases env.repoFails with
  | true => exact Or.inl ⟨_, rfl, rfl⟩
  | false =>
      cases r with
      | error err =>
          cases r' with
          | error err' =>
              have herr : err' = err := Except.error.inj h
              subst herr
              exact Or.inl ⟨_, rfl, rfl⟩
          | ok db' => cases h
      | ok db =>
          cases r' with
          | error err' => cases h
          | ok db' => exact Or.inr ⟨db, db', rfl, rfl, Except.ok.inj h⟩

theorem handleCreatePlugin_follows {body : Body} {next : Next M} (h : Alike p s t)
    (huuid : env.uuid = p) (hnext : handleCreatePlugin A s env body = some next) :
    ∃ next', handleCreatePlugin A t env body = some next' ∧ Follows p s t next next' := by
  unfold handleCreatePlugin at hnext ⊢
  split at hnext
  · cases hnext
    exact ⟨_, rfl, follows_same h _⟩
  · next req hreq =>
      split at hnext
      · next hcomplete =>
          cases hnext
          exact ⟨_, if_pos hcomplete, follows_same h _⟩
      · next hcomplete =>
          split at hnext
          · cases hnext
          · next hfresh =>
              have hfresh' : env.uuid ∉ t.issued := fun hmem => hfresh (h.issued hmem)
              have hissued : env.uuid :: t.issued ⊆ env.uuid :: s.issued :=
                List.cons_subset_cons _ h.issued
              subst huuid
              rw [if_neg hcomplete, if_neg hfresh']
              dsimp only at hnext ⊢
              have hview := A.repo.isolated.savePlugin (p := {
                id := env.uuid, name := req.name, sourceCode := req.sourceCode, compiledWasm := []
                version := 1, status := "pending", compileErrors := "", createdAt := env.now })
                h.view
              rcases call_viewed hview env with ⟨err, hs, ht⟩ | ⟨db, db', hs, ht, hdb⟩
              · rw [hs] at hnext
                rw [ht]
                cases hnext
                exact ⟨_, rfl, ⟨h.view, h.queue, h.worker, h.modules, hissued⟩, rfl, rfl, rfl⟩
              · rw [hs] at hnext
                rw [ht]
                cases hnext
                exact ⟨_, rfl, ⟨hdb, h.queue, h.worker, h.modules, hissued⟩, rfl, rfl, rfl⟩

theorem handleUpdatePlugin_follows {body : Body} (h : Alike p s t) :
    Follows p s t (handleUpdatePlugin A s env p body) (handleUpdatePlugin A t env p body) := by
  unfold handleUpdatePlugin
  rw [getPlugin_same h]
  split
  · exact follows_same h _
  · cases env.call (A.repo.getPlugin s.db p) with
    | error err => exact follows_same h _
    | ok plugin =>
        dsimp only
        cases A.json.decode body with
        | none => exact follows_same h _
        | some req =>
            dsimp only
            split
            · exact follows_same h _
            · exact follows_same h _

theorem handleGetPlugin_follows (h : Alike p s t) :
    Follows p s t (handleGetPlugin A s env p) (handleGetPlugin A t env p) := by
  unfold handleGetPlugin
  rw [getPlugin_same h]
  split
  · exact follows_same h _
  · cases env.call (A.repo.getPlugin s.db p) with
    | error err => exact follows_same h _
    | ok plugin => exact follows_same h _

theorem handleExecutePlugin_follows {body : Body} (h : Alike p s t) :
    Follows p s t (handleExecutePlugin A s env p body) (handleExecutePlugin A t env p body) := by
  unfold handleExecutePlugin
  rw [getPlugin_same h]
  split
  · exact follows_same h _
  · cases env.call (A.repo.getPlugin s.db p) with
    | error err => exact follows_same h _
    | ok plugin =>
        dsimp only
        split
        · exact follows_same h _
        · exact follows_same h _

theorem handleGetMetrics_follows (h : Alike p s t) :
    Follows p s t (handleGetMetrics A s env p) (handleGetMetrics A t env p) := by
  unfold handleGetMetrics
  rw [A.repo.isolated.getExecutions h.view]
  split
  · exact follows_same h _
  · cases env.call (A.repo.getExecutions s.db p) with
    | error err => exact follows_same h _
    | ok executions => exact follows_same h _

theorem handleDeletePlugin_follows (h : Alike p s t) :
    Follows p s t (handleDeletePlugin A s env p) (handleDeletePlugin A t env p) := by
  unfold handleDeletePlugin
  split
  · exact follows_same h _
  · rcases call_viewed (A.repo.isolated.deleteExecutions h.view) env with
      ⟨err, hs, ht⟩ | ⟨db, db', hs, ht, hdb⟩
    · rw [hs, ht]
      exact follows_same h _
    · rw [hs, ht]
      exact follows_db h hdb _

theorem deleteRow_follows (h : Alike p s t) :
    Follows p s t (deleteRow A s env p) (deleteRow A t env p) := by
  unfold deleteRow
  rcases call_viewed (A.repo.isolated.deletePluginRow h.view) env with
    ⟨err, hs, ht⟩ | ⟨db, db', hs, ht, hdb⟩
  · rw [hs, ht]
    exact follows_same h _
  · rw [hs, ht]
    exact follows_db h hdb _

theorem updateWrite_follows {name source : String} (h : Alike p s t) :
    Follows p s t (updateWrite A s env p name source) (updateWrite A t env p name source) := by
  unfold updateWrite
  rcases call_viewed (A.repo.isolated.updatePluginCode h.view) env with
    ⟨err, hs, ht⟩ | ⟨db, db', hs, ht, hdb⟩
  · rw [hs, ht]
    exact follows_same h _
  · rw [hs, ht]
    exact follows_db h hdb _

theorem updateReread_follows (h : Alike p s t) :
    Follows p s t (updateReread A s env p) (updateReread A t env p) := by
  unfold updateReread
  rw [getPlugin_same h]
  cases env.call (A.repo.getPlugin s.db p) with
  | error err => exact follows_same h _
  | ok plugin => exact follows_same h _

/-- The queue of the second state is no longer than that of the first. -/
theorem queueCompile_follows {phase : Phase M} {next : Next M} (h : Alike p s t)
    (hnext : queueCompile s p phase = some next) :
    ∃ next', queueCompile t p phase = some next' ∧ Follows p s t next next' := by
  unfold queueCompile at hnext ⊢
  split at hnext
  · next hroom =>
      cases hnext
      have hlength : t.queue.length ≤ s.queue.length := by
        rw [h.queue]
        exact List.length_filter_le _ _
      have hqueue : t.queue ++ [p] = (s.queue ++ [p]).filter (· == p) := by
        rw [List.filter_append, h.queue, filter_head, List.filter_nil]
      rw [if_pos (by omega)]
      exact ⟨_, rfl, ⟨h.view, hqueue, h.worker, h.modules, h.issued⟩, rfl, rfl, rfl⟩
  · cases hnext

theorem getModuleRead_follows {plugin : Plugin} {input : Bytes} (hid : plugin.id = p)
    (h : Alike p s t) :
    Follows p s t (getModuleRead s plugin input) (getModuleRead t plugin input) := by
  subst hid
  unfold getModuleRead
  rw [h.modules]
  cases s.engine.modules plugin.id with
  | none => exact follows_same h _
  | some m => exact follows_same h _

theorem compile_same (newModule : Bytes → Except Bytes M) {e e' : Engine M}
    (h : e'.modules p = e.modules p) (wasm : Bytes) :
    (e'.compile newModule p wasm).1 = (e.compile newModule p wasm).1 ∧
      (e'.compile newModule p wasm).2.modules p = (e.compile newModule p wasm).2.modules p := by
  constructor
  · unfold Engine.compile
    rw [h]
    cases e.modules p with
    | some m => rfl
    | none =>
        dsimp only
        cases newModule wasm with
        | error err => rfl
        | ok m => rfl
  · rw [modules_compile, modules_compile, h]

theorem getModuleCompile_follows {plugin : Plugin} {input : Bytes} (hid : plugin.id = p)
    (h : Alike p s t) :
    Follows p s t (getModuleCompile A s plugin input) (getModuleCompile A t plugin input) := by
  subst hid
  have hsame := compile_same A.newModule h.modules plugin.compiledWasm
  unfold getModuleCompile
  generalize s.engine.compile A.newModule plugin.id plugin.compiledWasm = c at hsame ⊢
  generalize t.engine.compile A.newModule plugin.id plugin.compiledWasm = c' at hsame ⊢
  obtain ⟨result, engine⟩ := c
  obtain ⟨result', engine'⟩ := c'
  obtain ⟨hresult, hmodules⟩ := hsame
  dsimp only at hresult hmodules
  subst hresult
  have halike : Alike plugin.id { s with engine } { t with engine := engine' } :=
    ⟨h.view, h.queue, h.worker, hmodules, h.issued⟩
  cases result' with
  | error err => exact ⟨halike, rfl, rfl, rfl⟩
  | ok _ => exact ⟨halike, rfl, rfl, rfl⟩

/-- A guest run depends on nothing shared. -/
theorem executeRun_follows {plugin : Plugin} {input : Bytes} {loaded : Except Bytes (Option M)}
    (h : Alike p s t) :
    Follows p s t (executeRun A s env plugin input loaded)
      (executeRun A t env plugin input loaded) := by
  unfold executeRun
  cases runLoaded env.host A.guest input loaded with
  | error panic => exact follows_same h _
  | ok result =>
      cases result with
      | error err => exact follows_same h _
      | ok res => exact follows_same h _

theorem executeSave_follows {plugin : Plugin} {res : ExecutionResult} {next : Next M}
    (hid : plugin.id = p) (h : Alike p s t) (hs : IdsIssued s) (ht : IdsIssued t)
    (hnext : executeSave A s env plugin res = some next) :
    ∃ next', executeSave A t env plugin res = some next' ∧ Follows p s t next next' := by
  unfold executeSave at hnext ⊢
  split at hnext
  · cases hnext
  · next hfresh =>
      have hfresh' : env.uuid ∉ t.issued := fun hmem => hfresh (h.issued hmem)
      have hissued : env.uuid :: t.issued ⊆ env.uuid :: s.issued :=
        List.cons_subset_cons _ h.issued
      subst hid
      let x := executionOf env.uuid plugin.id env.now res
      have hview := A.repo.isolated.saveExecution (x := x) (find?_execution_of_fresh ht hfresh')
        (find?_execution_of_fresh hs hfresh) h.view
      rw [if_neg hfresh']
      dsimp only at hnext ⊢
      rcases call_viewed hview env with ⟨err, hs, ht⟩ | ⟨db, db', hs, ht, hdb⟩
      · rw [hs] at hnext
        rw [ht]
        cases hnext
        exact ⟨_, rfl, ⟨h.view, h.queue, h.worker, h.modules, hissued⟩, rfl, rfl, rfl⟩
      · rw [hs] at hnext
        rw [ht]
        cases hnext
        exact ⟨_, rfl, ⟨hdb, h.queue, h.worker, h.modules, hissued⟩, rfl, rfl, rfl⟩

/-- The first step of a request about `p`. -/
theorem serve_follows {req : Request} {next : Next M} (h : Alike p s t)
    (htarget : req.target env.uuid = some p) (hnext : serve A s env req = some next) :
    ∃ next', serve A t env req = some next' ∧ Follows p s t next next' := by
  cases req with
  | createPlugin body => exact handleCreatePlugin_follows h (Option.some.inj htarget) hnext
  | updatePlugin id body =>
      cases htarget
      cases hnext
      exact ⟨_, rfl, handleUpdatePlugin_follows h⟩
  | listPlugins => cases htarget
  | getPlugin id =>
      cases htarget
      cases hnext
      exact ⟨_, rfl, handleGetPlugin_follows h⟩
  | executePlugin id body =>
      cases htarget
      cases hnext
      exact ⟨_, rfl, handleExecutePlugin_follows h⟩
  | getMetrics id =>
      cases htarget
      cases hnext
      exact ⟨_, rfl, handleGetMetrics_follows h⟩
  | deletePlugin id =>
      cases htarget
      cases hnext
      exact ⟨_, rfl, handleDeletePlugin_follows h⟩

/-- A later step of a handler on `p`. -/
theorem resume_follows {phase : Phase M} {next : Next M} (h : Alike p s t) (hs : IdsIssued s)
    (ht : IdsIssued t) (hsubject : ∀ plugin, phase.subject = some plugin → plugin.id = p)
    (hnext : resume A s env p phase = some next) :
    ∃ next', resume A t env p phase = some next' ∧ Follows p s t next next' := by
  cases phase with
  | createQueueCompile plugin =>
      have hid : plugin.id = p := hsubject plugin rfl
      simp only [resume, hid] at hnext ⊢
      exact queueCompile_follows h hnext
  | updatePluginCode name source =>
      cases hnext
      exact ⟨_, rfl, updateWrite_follows h⟩
  | updateQueueCompile => exact queueCompile_follows h hnext
  | updateGetPlugin =>
      cases hnext
      exact ⟨_, rfl, updateReread_follows h⟩
  | getModule plugin input =>
      cases hnext
      exact ⟨_, rfl, getModuleRead_follows (hsubject plugin rfl) h⟩
  | compile plugin input =>
      cases hnext
      exact ⟨_, rfl, getModuleCompile_follows (hsubject plugin rfl) h⟩
  | getCompiled plugin input =>
      have hid : plugin.id = p := hsubject plugin rfl
      subst hid
      cases hnext
      refine ⟨_, rfl, ?_⟩
      rw [h.modules]
      exact follows_same h _
  | run plugin input loaded =>
      cases hnext
      exact ⟨_, rfl, executeRun_follows h⟩
  | saveExecution plugin res =>
      exact executeSave_follows (hsubject plugin rfl) h hs ht hnext
  | encodeResult res =>
      cases hnext
      exact ⟨_, rfl, follows_same h _⟩
  | deletePluginRow =>
      cases hnext
      exact ⟨_, rfl, deleteRow_follows h⟩
  | done response => cases hnext

theorem worker_idle (h : Alike p s t) (hworker : s.worker = .idle) : t.worker = .idle := by
  rw [h.worker, hworker]
  rfl

theorem worker_same (h : Alike p s t) (hcurrent : s.worker.current = some p) :
    t.worker = s.worker := by
  rw [h.worker, if_pos hcurrent]

theorem nextJob_idle (hworker : s.worker = .idle) : s.nextJob = s.queue.head? := by
  unfold State.nextJob
  rw [hworker]

theorem nextJob_current (hworker : s.worker ≠ .idle) : s.nextJob = s.worker.current := by
  unfold State.nextJob
  split
  · next hidle => exact absurd hidle hworker
  · rfl

/-- A worker that is on `p`, or turns to it, does so in both states. -/
theorem nextJob_same (h : Alike p s t) (hjob : s.nextJob = some p) : t.nextJob = some p := by
  by_cases hidle : s.worker = .idle
  · rw [nextJob_idle hidle] at hjob
    obtain ⟨queue, hqueue⟩ := List.head?_eq_some_iff.mp hjob
    rw [nextJob_idle (worker_idle h hidle), h.queue, hqueue, filter_head]
    rfl
  · rw [nextJob_current hidle] at hjob
    have hsame := worker_same h hjob
    rw [nextJob_current (by rw [hsame]; exact hidle), hsame]
    exact hjob

theorem workerStep_alike (h : Alike p s t) (hjob : s.nextJob = some p) :
    Alike p (workerStep A s env) (workerStep A t env) := by
  cases hw : s.worker with
  | idle =>
      rw [nextJob_idle hw] at hjob
      obtain ⟨queue, hqueue⟩ := List.head?_eq_some_iff.mp hjob
      have hqueue' : t.queue = p :: queue.filter (· == p) := by
        rw [h.queue, hqueue, filter_head]
      simp only [workerStep, hw, worker_idle h hw, hqueue, hqueue']
      exact ⟨h.view, rfl, (if_pos rfl).symm, h.modules, h.issued⟩
  | received id =>
      rw [nextJob_current (by rw [hw]; exact nofun), hw] at hjob
      have hw' : t.worker = .received id := (worker_same h (by rw [hw]; exact hjob)).trans hw
      cases hjob
      simp only [workerStep, hw, hw', getPlugin_same h]
      cases env.call (A.repo.getPlugin s.db p) with
      | error err => exact ⟨h.view, h.queue, rfl, h.modules, h.issued⟩
      | ok plugin => exact ⟨h.view, h.queue, (if_pos rfl).symm, h.modules, h.issued⟩
  | building id source =>
      rw [nextJob_current (by rw [hw]; exact nofun), hw] at hjob
      have hw' : t.worker = .building id source :=
        (worker_same h (by rw [hw]; exact hjob)).trans hw
      cases hjob
      simp only [workerStep, hw, hw']
      exact ⟨h.view, h.queue, (if_pos rfl).symm, h.modules, h.issued⟩
  | writing id source build =>
      rw [nextJob_current (by rw [hw]; exact nofun), hw] at hjob
      have hw' : t.worker = .writing id source build :=
        (worker_same h (by rw [hw]; exact hjob)).trans hw
      cases hjob
      simp only [workerStep, hw, hw']
      rcases call_viewed (A.repo.isolated.updatePluginStatus h.view) env with
        ⟨err, hs, ht⟩ | ⟨db, db', hs, ht, hdb⟩
      · rw [hs, ht]
        exact ⟨h.view, h.queue, rfl, h.modules, h.issued⟩
      · rw [hs, ht]
        exact ⟨hdb, h.queue, rfl, h.modules, h.issued⟩

theorem handlers_workerStep : (workerStep A s env).handlers = s.handlers := by
  unfold workerStep
  split
  · split <;> rfl
  · split <;> rfl
  · rfl
  · split <;> rfl

/-! ## The simulation -/

theorem alike_put {rid : Nat} {target target' : Option String} {next next' : Next M}
    (h : Alike p next.1 next'.1) :
    Alike p (State.put rid target next) (State.put rid target' next') :=
  ⟨h.view, h.queue, h.worker, h.modules, h.issued⟩

/-- Both states store the outcome of the same handler step. -/
theorem purged_put (h : Purged p s t) {rid : Nat} {target : Option String} {next next' : Next M}
    (hf : Follows p s t next next') (hleft : Reachable (State.put rid target next))
    (hright : Reachable (State.put rid target next')) :
    Purged p (State.put rid target next) (State.put rid target next') := by
  refine ⟨alike_put hf.alike, ?_, hleft, hright⟩
  unfold State.put
  rw [hf.left, hf.right]
  exact sameHandlers_both h.handlers rid fun _ => hf.phase

/-- A list request reads everything and changes nothing. -/
theorem handleListPlugins_fst : (handleListPlugins A s env).1 = s := by
  unfold handleListPlugins
  split
  · rfl
  · rfl

theorem purged_request {e : Event} {s' : State M} {rid : Nat} {req : Request}
    (h : Purged p s t) (haction : e.action = .request rid req)
    (htarget : e.target = none ∨ e.target = some p) (hstep : step A s e = some s') :
    ∃ t', step A t e = some t' ∧ Purged p s' t' := by
  have hleft : Reachable s' := reachable_step h.left (step_transition hstep)
  have hreq : e.target = req.target e.env.uuid := by
    unfold Event.target
    rw [haction]
  obtain ⟨hfree, next, hserve, rfl⟩ := (step_request haction).mp hstep
  have hfree' : t.handlers rid = none := sameHandlers_free h.handlers hfree
  rcases htarget with hnone | hp
  · cases req with
    | listPlugins =>
        cases hserve
        have hstep' : step A t e =
            some (.put rid e.target (handleListPlugins A t e.env)) :=
          (step_request haction).mpr ⟨hfree', _, rfl, rfl⟩
        refine ⟨_, hstep', alike_put ?_, ?_, hleft, reachable_step h.right (step_transition hstep')⟩
        · rw [handleListPlugins_fst, handleListPlugins_fst]
          exact h.toAlike
        · unfold State.put
          rw [handleListPlugins_fst, handleListPlugins_fst]
          refine sameHandlers_both h.handlers rid fun hp => ?_
          rw [hnone] at hp
          cases hp
    | createPlugin | updatePlugin | getPlugin | executePlugin | getMetrics | deletePlugin =>
        rw [hnone] at hreq
        cases hreq
  · obtain ⟨next', hnext', hf⟩ := serve_follows h.toAlike (hreq.symm.trans hp) hserve
    have hstep' : step A t e = some (.put rid e.target next') :=
      (step_request haction).mpr ⟨hfree', next', hnext', rfl⟩
    have hright := reachable_step h.right (step_transition hstep')
    exact ⟨_, hstep', purged_put h hf hleft hright⟩

theorem purged_advance {e : Event} {s' : State M} {rid : Nat} (h : Purged p s t)
    (haction : e.action = .advance rid p) (hstep : step A s e = some s') :
    ∃ t', step A t e = some t' ∧ Purged p s' t' := by
  have hleft : Reachable s' := reachable_step h.left (step_transition hstep)
  obtain ⟨phase, hh, next, hnext, rfl⟩ := (step_advance haction).mp hstep
  have hsubject : ∀ plugin, phase.subject = some plugin → plugin.id = p := by
    intro plugin hplugin
    have htarget : some p = some plugin.id := h.left.addressed rid _ plugin hh hplugin
    exact (Option.some.inj htarget).symm
  obtain ⟨next', hnext', hf⟩ := resume_follows h.toAlike h.left.ids h.right.ids hsubject hnext
  have hh' : t.handlers rid = some ⟨some p, phase⟩ := h.handlers.own rid _ hh rfl
  have hstep' : step A t e = some (.put rid e.target next') :=
    (step_advance haction).mpr ⟨phase, hh', next', hnext', rfl⟩
  have hright := reachable_step h.right (step_transition hstep')
  exact ⟨_, hstep', purged_put h hf hleft hright⟩

theorem purged_worker {e : Event} {s' : State M} (h : Purged p s t)
    (haction : e.action = .worker p) (hstep : step A s e = some s') :
    ∃ t', step A t e = some t' ∧ Purged p s' t' := by
  have hleft : Reachable s' := reachable_step h.left (step_transition hstep)
  obtain ⟨hjob, rfl⟩ := (step_worker haction).mp hstep
  have hstep' : step A t e = some (workerStep A t e.env) :=
    (step_worker haction).mpr ⟨nextJob_same h.toAlike hjob, rfl⟩
  refine ⟨_, hstep', workerStep_alike h.toAlike hjob, ?_, hleft,
    reachable_step h.right (step_transition hstep')⟩
  rw [handlers_workerStep, handlers_workerStep]
  exact h.handlers

theorem purged_restart {e : Event} {s' : State M} (h : Purged p s t)
    (haction : e.action = .restart) (hstep : step A s e = some s') :
    ∃ t', step A t e = some t' ∧ Purged p s' t' := by
  have hleft : Reachable s' := reachable_step h.left (step_transition hstep)
  obtain rfl := (step_restart haction).mp hstep
  have hstep' : step A t e = some t.restart := (step_restart haction).mpr rfl
  refine ⟨_, hstep', ⟨h.view, rfl, rfl, rfl, h.issued⟩, ⟨?_, ?_⟩, hleft,
    reachable_step h.right (step_transition hstep')⟩
  · intro rid handler hh htarget
    obtain ⟨h₀, hh₀, rfl⟩ := Option.map_eq_some_iff.mp hh
    rw [Handler.target_abort] at htarget
    exact Option.map_eq_some_iff.mpr ⟨h₀, h.handlers.own rid h₀ hh₀ htarget, rfl⟩
  · intro rid handler hh
    obtain ⟨h₀, hh₀, rfl⟩ := Option.map_eq_some_iff.mp hh
    obtain ⟨h₁, hh₁, htarget⟩ := h.handlers.back rid h₀ hh₀
    refine ⟨h₁.abort, Option.map_eq_some_iff.mpr ⟨h₁, hh₁, rfl⟩, ?_⟩
    rw [Handler.target_abort, Handler.target_abort, htarget]

/-- A step that is kept is enabled in the second state and keeps the two alike. -/
theorem purged_keep {e : Event} {s' : State M} (h : Purged p s t) (hkeep : concerns p e = true)
    (hstep : step A s e = some s') : ∃ t', step A t e = some t' ∧ Purged p s' t' := by
  have htarget : e.target = none ∨ e.target = some p := by
    unfold concerns at hkeep
    simpa using hkeep
  cases haction : e.action with
  | request rid req => exact purged_request h haction htarget hstep
  | advance rid id =>
      rw [target_advance haction] at htarget
      obtain rfl : id = p := by simpa using htarget
      exact purged_advance h haction hstep
  | worker id =>
      rw [target_worker haction] at htarget
      obtain rfl : id = p := by simpa using htarget
      exact purged_worker h haction hstep
  | restart => exact purged_restart h haction hstep

theorem purged_start : Purged p (State.start M) (State.start M) :=
  ⟨⟨rfl, rfl, rfl, rfl, List.Subset.refl _⟩,
    ⟨fun _ _ hh => (nomatch hh), fun _ _ hh => (nomatch hh)⟩, reachable_start, reachable_start⟩

/-- Purging a run of all steps about other plugins leaves a run, and leaves the row and the
    executions of `p`, its module and every response to a request on it as they were. -/
theorem purge_noninterference (A : Platform M σ) (p : String) {es : List Event} {s : State M}
    (hrun : run (step A) (State.start M) es = some s) :
    ∃ t, run (step A) (State.start M) (es.filter (concerns p)) = some t ∧
      t.db.view p = s.db.view p ∧ t.engine.modules p = s.engine.modules p ∧
      ∀ rid response, t.handlers rid = some ⟨some p, .done response⟩ ↔
        s.handlers rid = some ⟨some p, .done response⟩ := by
  have hkeep : ∀ s t e s', Purged p s t → concerns p e = true → step A s e = some s' →
      ∃ t', step A t e = some t' ∧ Purged p s' t' :=
    fun s t e s' h hk hstep => purged_keep h hk hstep
  have hdrop : ∀ s t e s', Purged p s t → concerns p e = false → step A s e = some s' →
      Purged p s' t := by
    intro s t e s' h hconcerns hstep
    cases htarget : e.target with
    | none =>
        unfold concerns at hconcerns
        rw [htarget] at hconcerns
        cases hconcerns
    | some q =>
        have hq : q ≠ p := by
          intro heq
          unfold concerns at hconcerns
          rw [htarget, heq] at hconcerns
          simp at hconcerns
        exact purged_drop h htarget hq (step_transition hstep)
  obtain ⟨t, hrun', h⟩ := run_purge hkeep hdrop purged_start hrun
  refine ⟨t, hrun', h.view, h.modules, fun rid response => ⟨fun hh => ?_, fun hh => ?_⟩⟩
  · obtain ⟨h₀, hh₀, htarget⟩ := h.handlers.back rid _ hh
    have hsame := h.handlers.own rid h₀ hh₀ htarget
    rw [hh] at hsame
    cases hsame
    exact hh₀
  · exact h.handlers.own rid _ hh rfl

/-- Two plugins are created, and the second is built first. -/
def twoPlugins : List Event :=
  [(Action.request 0 (.createPlugin ⟨[1], false⟩)).quietly "p",
    (Action.request 1 (.createPlugin ⟨[2], false⟩)).quietly "q",
    (Action.advance 1 "q").quietly "", (Action.advance 0 "p").quietly "",
    (Action.worker "q").quietly "", (Action.worker "q").quietly "",
    (Action.worker "q").quietly "", (Action.worker "q").quietly "",
    (Action.worker "p").quietly "", (Action.worker "p").quietly "",
    (Action.worker "p").quietly "", (Action.worker "p").quietly ""]

theorem purge_noninterference_two :
    ∃ s t, run (step .small) (State.start Bytes) twoPlugins = some s ∧
      (twoPlugins.filter (concerns "p")).length = 6 ∧
      run (step .small) (State.start Bytes) (twoPlugins.filter (concerns "p")) = some t ∧
      t.db.view "p" = s.db.view "p" ∧
      (s.db.view "p").1 = some ⟨"p", "plugin", "a", utf8 "a", 2, "compiled", "", 0⟩ := by
  obtain ⟨s, hrun, hrow⟩ : ∃ s, run (step .small) (State.start Bytes) twoPlugins = some s ∧
      (s.db.view "p").1 = some ⟨"p", "plugin", "a", utf8 "a", 2, "compiled", "", 0⟩ :=
    ⟨_, rfl, rfl⟩
  obtain ⟨t, hrun', hview, -⟩ := purge_noninterference .small "p" hrun
  exact ⟨s, t, hrun, rfl, hrun', hview, hrow⟩

end PluginSandbox.Server
