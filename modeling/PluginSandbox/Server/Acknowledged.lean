/-
  What a client knows when an update was answered with 200.

  `UpdatePluginCode` does not tell whether it matched a row. The handler reads the row again
  before it answers; rows of a deleted id never come back (`Inherits`), so the row that the
  last read finds was there when the code was written. The write then set name, source and
  status as the request asked, and the job was enqueued behind it (`acknowledged_applied`).
-/
import PluginSandbox.Server.Progress

namespace PluginSandbox.Server

open PluginSandbox.Lib PluginSandbox.Db PluginSandbox.Sandbox PluginSandbox.Compiler

variable {M σ : Type} {A : Platform M σ} {s t : State M} {e : Event}

/-! ## Answers -/

/-- The HTTP status of an answer. -/
def Response.status : Response → Option Nat
  | .error code _ => some code
  | .repositoryError code _ _ => some code
  | .engineError code _ _ => some code
  | .plugin code _ => some code
  | .plugins _ => some 200
  | .executed _ => some 200
  | .executions _ => some 200
  | .noContent => some 204
  | .aborted => none

theorem ne_aborted_of_status {response : Response} {code : Nat}
    (h : response.status = some code) : response ≠ .aborted := by
  rintro rfl
  cases h

/-- An answer that a handler was just given stays; with another status it is not `response`. -/
theorem answer_unique {rid : Nat} {id : String} {next : Next M} {given response : Response}
    {es : List Event} (hgiven : next.2 = .done given)
    (hrun : run (step A) (State.put rid (some id) next) es = some t)
    (hanswer : t.handlers rid = some ⟨some id, .done response⟩) : given = response := by
  have hput : (State.put rid (some id) next).handlers rid = some ⟨some id, .done given⟩ := by
    rw [handlers_put, if_pos rfl, hgiven]
  have hend := done_run hput hrun
  rw [hanswer] at hend
  cases hend
  rfl

/-! ## The steps of an update -/

/-- The first step answers with an error, or has found the row and decoded the body. -/
theorem handleUpdatePlugin_cases (A : Platform M σ) (s : State M) (env : Env) (id : String)
    (body : Body) :
    (∃ response, (handleUpdatePlugin A s env id body).2 = .done response ∧
      response.status ≠ some 200) ∨
    ∃ plugin req, s.db.plugins.find? id = some plugin ∧ A.json.decode body = some req ∧
      handleUpdatePlugin A s env id body = (s, .updatePluginCode req.name req.sourceCode) := by
  unfold handleUpdatePlugin
  split
  · exact .inl ⟨_, rfl, by decide⟩
  · cases hget : env.call (A.repo.getPlugin s.db id) with
    | error err => exact .inl ⟨_, rfl, by simp [pluginNotFound, Response.status]⟩
    | ok plugin =>
        dsimp only
        cases hdecode : A.json.decode body with
        | none => exact .inl ⟨_, rfl, by decide⟩
        | some req =>
            dsimp only
            split
            · exact .inl ⟨_, rfl, by decide⟩
            · exact .inr ⟨plugin, req, A.repo.sound.getPlugin.mp (Env.call_ok_iff.mp hget).2, rfl,
                rfl⟩

theorem updateWrite_cases (A : Platform M σ) (s : State M) (env : Env)
    (id name sourceCode : String) :
    (∃ response, (updateWrite A s env id name sourceCode).2 = .done response ∧
      response.status ≠ some 200) ∨
    updateWrite A s env id name sourceCode =
      ({ s with db := s.db.setCode id name sourceCode }, .updateQueueCompile) := by
  unfold updateWrite
  cases hset : env.call (A.repo.updatePluginCode s.db id name sourceCode) with
  | error err => exact .inl ⟨_, rfl, by simp [Response.status]⟩
  | ok db =>
      have heffect := A.repo.sound.updatePluginCode (Env.call_ok_iff.mp hset).2
      subst heffect
      exact .inr rfl

theorem updateReread_cases (A : Platform M σ) (s : State M) (env : Env) (id : String) :
    (∃ response, (updateReread A s env id).2 = .done response ∧ response.status ≠ some 200) ∨
    ∃ plugin, s.db.plugins.find? id = some plugin := by
  unfold updateReread
  cases hget : env.call (A.repo.getPlugin s.db id) with
  | error err => exact .inl ⟨_, rfl, by simp [Response.status]⟩
  | ok plugin =>
      exact .inr ⟨plugin, A.repo.sound.getPlugin.mp (Env.call_ok_iff.mp hget).2⟩

/-! ## The way to an answer with 200 -/

section Passed

variable {es : List Event} {rid : Nat} {id : String} {response : Response}
  (hstatus : response.status = some 200)
  (hanswer : t.handlers rid = some ⟨some id, .done response⟩)
include hstatus hanswer

/-- A handler does not answer with another status on the way. -/
theorem not_refused {next : Next M} {given : Response} (hgiven : next.2 = .done given)
    (hrun : run (step A) (State.put rid (some id) next) es = some t) :
    given.status = some 200 := by
  rw [answer_unique hgiven hrun hanswer]
  exact hstatus

/-- The code was written. -/
theorem write_passed {name sourceCode : String}
    (hh : s.handlers rid = some ⟨some id, .updatePluginCode name sourceCode⟩)
    (hrun : run (step A) s es = some t) :
    ∃ es₁ e es₂ u v, es = es₁ ++ e :: es₂ ∧
      v = State.put rid (some id)
        ({ u with db := u.db.setCode id name sourceCode }, .updateQueueCompile) ∧
      run (step A) s es₁ = some u ∧ step A u e = some v ∧ run (step A) v es₂ = some t := by
  obtain ⟨es₁, e, es₂, u, next, rfl, hrun₁, -, hresume, hstep, hrun₂⟩ :=
    phase_left hh nofun hrun hanswer (ne_aborted_of_status hstatus)
  have hnext : updateWrite A u e.env id name sourceCode = next := Option.some.inj hresume
  subst hnext
  rcases updateWrite_cases A u e.env id name sourceCode with ⟨given, hgiven, hne⟩ | hwrite
  · exact absurd (not_refused hstatus hanswer hgiven hrun₂) hne
  · rw [hwrite] at hstep hrun₂
    exact ⟨es₁, e, es₂, u, _, rfl, rfl, hrun₁, hstep, hrun₂⟩

/-- The job was enqueued. -/
theorem job_passed (hh : s.handlers rid = some ⟨some id, .updateQueueCompile⟩)
    (hrun : run (step A) s es = some t) :
    ∃ es₁ e es₂ u v, es = es₁ ++ e :: es₂ ∧
      v = State.put rid (some id) ({ u with queue := u.queue ++ [id] }, .updateGetPlugin) ∧
      run (step A) s es₁ = some u ∧ step A u e = some v ∧ run (step A) v es₂ = some t := by
  obtain ⟨es₁, e, es₂, u, next, rfl, hrun₁, -, hresume, hstep, hrun₂⟩ :=
    phase_left hh nofun hrun hanswer (ne_aborted_of_status hstatus)
  have hqueue : queueCompile u id .updateGetPlugin = some next := hresume
  unfold queueCompile at hqueue
  split at hqueue
  · cases hqueue
    exact ⟨es₁, e, es₂, u, _, rfl, rfl, hrun₁, hstep, hrun₂⟩
  · cases hqueue

/-- The row was read again. -/
theorem read_passed (hh : s.handlers rid = some ⟨some id, .updateGetPlugin⟩)
    (hrun : run (step A) s es = some t) :
    ∃ es₁ es₂ u plugin, es = es₁ ++ es₂ ∧ run (step A) s es₁ = some u ∧
      u.db.plugins.find? id = some plugin := by
  obtain ⟨es₁, e, es₂, u, next, rfl, hrun₁, -, hresume, -, hrun₂⟩ :=
    phase_left hh nofun hrun hanswer (ne_aborted_of_status hstatus)
  have hnext : updateReread A u e.env id = next := Option.some.inj hresume
  subst hnext
  rcases updateReread_cases A u e.env id with ⟨given, hgiven, hne⟩ | ⟨plugin, hplugin⟩
  · exact absurd (not_refused hstatus hanswer hgiven hrun₂) hne
  · exact ⟨es₁, e :: es₂, u, plugin, rfl, hrun₁, hplugin⟩

end Passed

/-! ## The acknowledgement -/

/-- In the run `es` from `s` the row of `id` was at some moment as `req` wants it and pending,
    and later, with the handler not done yet, a job for `id` was enqueued. -/
def AppliedAndQueued (A : Platform M σ) (s : State M) (es : List Event) (rid : Nat) (id : String)
    (req : PluginRequest) : Prop :=
  ∃ es₁ es₂ e es₃ u v w row, es = es₁ ++ (es₂ ++ e :: es₃) ∧
    run (step A) s es₁ = some u ∧ u.db.plugins.find? id = some row ∧ row.name = req.name ∧
      row.sourceCode = req.sourceCode ∧ row.status = "pending" ∧
    run (step A) u es₂ = some v ∧ step A v e = some w ∧ w.queue = v.queue ++ [id] ∧
      ∃ h, w.handlers rid = some h ∧ ∀ response, h.phase ≠ .done response

theorem inherits_run {es : List Event} (hrun : run (step A) s es = some t) : Inherits s t :=
  run_related inherits_refl inherits_trans (fun _ _ _ h => inherits_step (step_transition h)) hrun

/-- A row that is found after a code write was there when the code was written. -/
theorem edited_of_found {db : Database} {id name sourceCode : String} {last : Plugin}
    (hdb : s.db = db.setCode id name sourceCode) (hissued : id ∈ s.issued) (hsince : Inherits s t)
    (hlast : t.db.plugins.find? id = some last) :
    ∃ old : Plugin, s.db.plugins.find? id = some (old.edited name sourceCode) := by
  obtain ⟨row, hrow, -⟩ := hsince.2 id hissued last hlast
  rw [hdb] at hrow ⊢
  have hset := (find?_setCode db id name sourceCode id).symm.trans hrow
  rw [if_pos rfl] at hset
  obtain ⟨old, -, rfl⟩ := Option.map_eq_some_iff.mp hset
  exact ⟨old, hrow⟩

/-- An update that was answered with 200 was applied and queued: between the request and the
    answer the row had the name and the source that were asked for and was pending, and after
    that a job for it was enqueued. -/
theorem acknowledged_applied (A : Platform M σ) {before es : List Event} {s s₁ t : State M}
    {e : Event} {rid : Nat} {id : String} {body : Body} {response : Response}
    (hbefore : run (step A) (State.start M) before = some s)
    (haction : e.action = .request rid (.updatePlugin id body)) (hstep : step A s e = some s₁)
    (hrun : run (step A) s₁ es = some t)
    (hanswer : t.handlers rid = some ⟨some id, .done response⟩)
    (hstatus : response.status = some 200) :
    ∃ req, A.json.decode body = some req ∧ AppliedAndQueued A s₁ es rid id req := by
  have htarget : e.target = some id := by
    unfold Event.target
    rw [haction]
    rfl
  obtain ⟨-, next, hserve, hs₁⟩ := (step_request haction).mp hstep
  rw [htarget] at hs₁
  subst hs₁
  have hnext : handleUpdatePlugin A s e.env id body = next := Option.some.inj hserve
  subst hnext
  rcases handleUpdatePlugin_cases A s e.env id body with
    ⟨given, hgiven, hne⟩ | ⟨plugin, req, hfound, hdecode, hnext⟩
  · exact absurd (not_refused hstatus hanswer hgiven hrun) hne
  rw [hnext] at hrun ⊢
  obtain ⟨es₁, e₁, es₂, u, u', rfl, hu', hrun₁, hstep₁, hrun₂⟩ :=
    write_passed hstatus hanswer (handlers_put_self _ _ _) hrun
  have hqueueing : u'.handlers rid = some ⟨some id, .updateQueueCompile⟩ := by
    rw [hu']
    exact handlers_put_self _ _ _
  obtain ⟨es₃, e₂, es₄, v, v', rfl, hv', hrun₃, hstep₂, hrun₄⟩ :=
    job_passed hstatus hanswer hqueueing hrun₂
  have hreading : v'.handlers rid = some ⟨some id, .updateGetPlugin⟩ := by
    rw [hv']
    exact handlers_put_self _ _ _
  obtain ⟨es₅, es₆, x, last, rfl, hrun₅, hlast⟩ :=
    read_passed hstatus hanswer hreading hrun₄
  -- ids that were drawn stay drawn, and the id of a stored row was drawn
  have hissued : id ∈ u'.issued := by
    obtain ⟨hmem, rfl⟩ := Table.find?_some hfound
    have hid : plugin.id ∈ u.issued :=
      (inherits_run hrun₁).1 ((reachable_run hbefore).ids.plugins plugin hmem)
    rw [hu']
    exact hid
  have hsince : Inherits u' x := inherits_trans (inherits_run hrun₃)
    (inherits_trans (inherits_step (step_transition hstep₂)) (inherits_run hrun₅))
  have hdb : u'.db = u.db.setCode id req.name req.sourceCode := by
    rw [hu']
    rfl
  obtain ⟨old, hrow⟩ := edited_of_found hdb hissued hsince hlast
  refine ⟨req, hdecode, es₁ ++ [e₁], es₃, e₂, es₅ ++ es₆, u', v, v', _, ?_, ?_, hrow, rfl, rfl, rfl,
    hrun₃, hstep₂, ?_, _, hreading, nofun⟩
  · rw [List.append_assoc, List.singleton_append]
  · exact run_append_iff.mpr ⟨u, hrun₁, run_cons_iff.mpr ⟨u', hstep₁, rfl⟩⟩
  · rw [hv']
    rfl

/-- A plugin is created. -/
def createOnly : List Event :=
  [(Action.request 0 (.createPlugin ⟨[1], false⟩)).quietly "p", (Action.advance 0 "p").quietly ""]

/-- The steps of an update behind its request. -/
def updateToEnd : List Event :=
  [(Action.advance 1 "p").quietly "", (Action.advance 1 "p").quietly "",
    (Action.advance 1 "p").quietly ""]

theorem acknowledged_applied_quiet :
    ∃ s s₁ req, run (step .small) (State.start Bytes) createOnly = some s ∧
      step .small s ((Action.request 1 (.updatePlugin "p" ⟨[2], false⟩)).quietly "") = some s₁ ∧
      Platform.small.json.decode ⟨[2], false⟩ = some req ∧
      AppliedAndQueued .small s₁ updateToEnd 1 "p" req := by
  obtain ⟨s, s₁, t, p, hs, hs₁, ht, hp⟩ :
      ∃ s s₁ t p, run (step .small) (State.start Bytes) createOnly = some s ∧
        step .small s ((Action.request 1 (.updatePlugin "p" ⟨[2], false⟩)).quietly "") = some s₁ ∧
        run (step .small) s₁ updateToEnd = some t ∧
        t.handlers 1 = some ⟨some "p", .done (.plugin 200 p)⟩ :=
    ⟨_, _, _, _, rfl, rfl, rfl, rfl⟩
  obtain ⟨req, hreq, happlied⟩ := acknowledged_applied .small hs rfl hs₁ ht hp rfl
  exact ⟨s, s₁, req, hs, hs₁, hreq, happlied⟩

end PluginSandbox.Server
