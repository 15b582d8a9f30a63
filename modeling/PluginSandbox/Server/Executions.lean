/-
  The execution history against the answers.

  A row of `executions` is written one step before the answer to an execute request is given, with
  the figures of that answer. `Attributed` names for every row the request it belongs to: an own
  one for each, of the row's plugin, that has answered or is about to answer with the row's
  figures, or was when the process stopped. It holds in every reachable state
  (`executions_attributed`), so the history counts nothing twice. Where saving does not fail,
  nothing is deleted and no process stops, the history is complete: rows and requests that are
  past their save correspond one to one (`executions_complete`).
-/
import Mathlib.Data.Set.Function
import PluginSandbox.Server.Answers

namespace PluginSandbox.Server

open PluginSandbox.Lib PluginSandbox.Db PluginSandbox.Sandbox PluginSandbox.Compiler

variable {M σ : Type} {A : Platform M σ} {s t : State M} {e : Event} {owner : Execution → Nat}
  {S S' : Nat × ExecuteResponse → Prop}

/-! ## Rows and answers -/

/-- The row has the figures of the answer. -/
structure Records (x : Execution) (response : ExecuteResponse) : Prop where
  durationMicros : x.durationMicros = response.durationMicros
  memoryBytes : x.memoryBytes = response.memoryBytes
  fuelConsumed : x.fuelConsumed = response.fuelConsumed
  status : x.status = response.status
  logs : x.logs = response.logs

theorem records_executionOf (id pluginID : String) (now : Int) (res : ExecutionResult) :
    Records (executionOf id pluginID now res) (executeResponse res) := ⟨rfl, rfl, rfl, rfl, rfl⟩

/-- The result that a handler behind `SaveExecution` answers, or has answered. -/
def Phase.result : Phase M → Option ExecuteResponse
  | .encodeResult res => some (executeResponse res)
  | .done (.executed response) => some response
  | _ => none

/-- The request `x.1` answers with `x.2`, or has answered. -/
def Answering (s : State M) (x : Nat × ExecuteResponse) : Prop :=
  ∃ h, s.handlers x.1 = some h ∧ h.phase.result = some x.2

/-- The handler is of the row's plugin and answers with its figures. Or the process has stopped,
    and then `S` has the answer that the request did not give. -/
structure Handler.Owns (S : Nat × ExecuteResponse → Prop) (rid : Nat) (h : Handler M)
    (x : Execution) : Prop where
  target : h.target = some x.pluginID
  answer : ∃ response, Records x response ∧
    (h.phase.result = some response ∨ S (rid, response) ∧ h.phase = .done .aborted)

/-- The stored executions. -/
def History (s : State M) : Set Execution := {x | x ∈ s.db.executions.rows}

/-- The execute requests that answer with a result, or have answered. -/
def Executed (s : State M) : Set Nat := {rid | ∃ response, Answering s (rid, response)}

/-- Each stored execution has a request of its own. -/
structure Attributed (S : Nat × ExecuteResponse → Prop) (owner : Execution → Nat)
    (s : State M) : Prop where
  injective : Set.InjOn owner (History s)
  owned : ∀ x ∈ History s, ∃ h, s.handlers (owner x) = some h ∧ h.Owns S (owner x) x

/-! ## Saving -/

/-- Saving an execution under a fresh key does not fail. -/
def Saves (R : Repository) : Prop :=
  ∀ db x, db.executions.find? x.id = none → ∃ db', R.saveExecution db x = .ok db'

theorem sqlite_saves (plugins : OrderBy Plugin Plugin.createdAt)
    (executions : OrderBy Execution Execution.createdAt) :
    Saves (sqlite plugins executions).toRepository := by
  intro db x hfree
  obtain ⟨table, htable⟩ := Table.exists_insert hfree
  refine ⟨{ db with executions := table }, ?_⟩
  show SQLiteRepository.saveExecution db x = _
  unfold SQLiteRepository.saveExecution
  rw [htable]

theorem mongo_saves (plugins : OrderBy Plugin Plugin.createdAt)
    (executions : OrderBy Execution Execution.createdAt) :
    Saves (mongo plugins executions).toRepository := sqlite_saves plugins executions

/-- No call fails, nothing is deleted, and the process goes on. -/
structure Event.Spares (e : Event) : Prop where
  calls : e.env.repoFails = false
  delete : ∀ rid id, e.action ≠ .request rid (.deletePlugin id)
  restart : e.action ≠ .restart

/-! ## Steps -/

/-- What a step can do to the history: rows go, or the handler `rid` saves one more and is about to
    answer with its figures. Under `P` no row goes and no answer comes without its row. -/
inductive Keeps (S : Nat × ExecuteResponse → Prop) (P : Prop) (s t : State M) : Prop
  | fewer (hrows : History t ⊆ History s)
      (howns : ∀ rid h x, s.handlers rid = some h → h.Owns S rid x →
        ∃ h', t.handlers rid = some h' ∧ h'.Owns S rid x)
      (hkept : P → History s ⊆ History t ∧ Executed t ⊆ Executed s)
  | saved (rid : Nat) (x : Execution) (hrows : History t = insert x (History s))
      (hnew : x ∉ History s) (hopen : ∀ h y, s.handlers rid = some h → ¬ h.Owns S rid y)
      (hrid : ∃ h, t.handlers rid = some h ∧ h.Owns S rid x)
      (hothers : ∀ k, k ≠ rid → t.handlers k = s.handlers k)

/-- A step of one handler leaves the answers of the others. -/
theorem owns_put (target : Option String) {rid : Nat} {next : Next M}
    (hhandlers : next.1.handlers = s.handlers)
    (hown : ∀ h x, s.handlers rid = some h → h.Owns S rid x →
      Handler.Owns S rid ⟨target, next.2⟩ x) :
    ∀ k h x, s.handlers k = some h → h.Owns S k x →
      ∃ h', (State.put rid target next).handlers k = some h' ∧ h'.Owns S k x := by
  intro k h x hk howns
  rw [handlers_put, hhandlers]
  split
  · next heq =>
      subst heq
      exact ⟨_, rfl, hown h x hk howns⟩
  · exact ⟨h, hk, howns⟩

/-- A step that answers with nothing new. -/
theorem executed_put {rid : Nat} {target : Option String} {next : Next M}
    (hhandlers : next.1.handlers = s.handlers)
    (hphase : ∀ response, next.2.result = some response → rid ∈ Executed s) :
    Executed (State.put rid target next) ⊆ Executed s := by
  rintro k ⟨response, h, hk, hresult⟩
  dsimp only at hk hresult
  rw [handlers_put, hhandlers] at hk
  split at hk
  · next heq =>
      cases hk
      rw [heq]
      exact hphase response hresult
  · exact ⟨response, h, hk, hresult⟩

theorem keeps_serve {rid : Nat} {target : Option String} {env : Env} {req : Request} {next : Next M}
    (hfree : s.handlers rid = none) (h : serve A s env req = some next) :
    Keeps S (∀ id, req ≠ .deletePlugin id) s (State.put rid target next) := by
  have hhandlers := (within_serve h).handlers
  have howns := owns_put target hhandlers (S := S) fun h x hh _ => by
    rw [hfree] at hh
    cases hh
  cases serve_opened h with
  | executionsDeleted id =>
      exact .fewer (fun x hx => (mem_dropExecutions.mp hx).1) howns fun hP => absurd rfl (hP id)
  | _ =>
      exact .fewer (Set.Subset.refl _) howns fun _ =>
        ⟨Set.Subset.refl _, executed_put hhandlers fun _ hresult => by cases hresult⟩

/-- A handler that has yet to save has no row. -/
theorem not_owns {rid : Nat} {h : Handler M} {x : Execution} (hresult : h.phase.result = none)
    (hopen : h.phase ≠ .done .aborted) : ¬ h.Owns S rid x := by
  rintro ⟨-, response, -, hsome | ⟨-, haborted⟩⟩
  · rw [hresult] at hsome
    cases hsome
  · exact hopen haborted

theorem keeps_resume {rid : Nat} {id : String} {phase : Phase M} {next : Next M}
    {env : Env} (hids : IdsIssued s) (haddressed : Addressed s)
    (hh : s.handlers rid = some ⟨some id, phase⟩) (h : resume A s env id phase = some next) :
    Keeps S (env.repoFails = false ∧ Saves A.repo.toRepository) s
      (State.put rid (some id) next) := by
  obtain ⟨budget, -, hwithin⟩ := within_resume h
  have hone : ∀ handler, s.handlers rid = some handler → handler = ⟨some id, phase⟩ :=
    fun handler hhandler => Option.some.inj (hhandler.symm.trans hh)
  -- A handler without a result has no row to answer for.
  have hfew : phase.result = none → phase ≠ .done .aborted → ∀ k handler x,
      s.handlers k = some handler → handler.Owns S k x →
        ∃ h', (State.put rid (some id) next).handlers k = some h' ∧ h'.Owns S k x := by
    intro hresult hopen
    refine owns_put (some id) hwithin.handlers fun handler x hhandler howns => ?_
    cases hone handler hhandler
    exact absurd howns (not_owns hresult hopen)
  cases resume_continued h with
  | saved plugin res hfresh executions hinsert =>
      have htarget : some id = some plugin.id := haddressed rid _ plugin hh rfl
      refine .saved rid (executionOf env.uuid plugin.id env.now res) ?_ ?_ ?_ ?_ fun k hk => ?_
      · ext x
        rw [Set.mem_insert_iff, or_comm]
        exact Table.mem_rows_insert hinsert
      · exact fun hmem => hfresh (hids.executions _ hmem)
      · intro handler y hhandler
        cases hone handler hhandler
        exact not_owns rfl (fun hphase => by cases hphase)
      · exact ⟨_, handlers_put_self _ _ _, htarget, _, records_executionOf _ _ _ _, .inl rfl⟩
      · rw [handlers_put, if_neg hk]
  | unsaved plugin res hfresh err hcall =>
      refine .fewer (Set.Subset.refl _) (hfew rfl fun hphase => by cases hphase) fun hP => ?_
      obtain ⟨db, hdb⟩ := hP.2 s.db (executionOf env.uuid plugin.id env.now res)
        (find?_execution_of_fresh hids hfresh)
      rw [Env.call_eq hP.1, hdb] at hcall
      cases hcall
  | encoded res =>
      refine .fewer (Set.Subset.refl _) ?_ fun _ => ⟨Set.Subset.refl _, ?_⟩
      · refine owns_put (some id) rfl fun handler x hhandler howns => ?_
        cases hone handler hhandler
        obtain ⟨response, hrecords, hresult | ⟨-, haborted⟩⟩ := howns.answer
        · exact ⟨howns.target, response, hrecords, .inl hresult⟩
        · cases haborted
      · exact executed_put rfl fun _ _ => ⟨_, _, hh, rfl⟩
  | _ =>
      exact .fewer (Set.Subset.refl _) (hfew rfl fun hphase => by cases hphase) fun _ =>
        ⟨Set.Subset.refl _, executed_put hwithin.handlers fun _ hresult => by cases hresult⟩

/-- A stop of the process takes the answer from a handler, and not the row. -/
theorem owns_abort {rid : Nat} {h : Handler M} {x : Execution}
    (hseen : ∀ response, h.phase.result = some response → S (rid, response))
    (howns : h.Owns S rid x) : h.abort.Owns S rid x := by
  obtain ⟨target, phase⟩ := h
  obtain ⟨htarget, response, hrecords, hanswer⟩ := howns
  cases phase with
  | done response' => exact ⟨htarget, response, hrecords, hanswer⟩
  | _ =>
      obtain hresult | ⟨-, haborted⟩ := hanswer
      · exact ⟨htarget, response, hrecords, .inr ⟨hseen response hresult, rfl⟩⟩
      · cases haborted

theorem executed_restart : Executed s.restart ⊆ Executed s := by
  rintro rid ⟨response, h, hh, hresult⟩
  obtain ⟨⟨target, phase⟩, hh₀, rfl⟩ := Option.map_eq_some_iff.mp hh
  cases phase with
  | done response₀ => exact ⟨response, _, hh₀, hresult⟩
  | _ => cases hresult

theorem keeps_mono {P Q : Prop} (hQ : Q → P) (h : Keeps S P s t) : Keeps S Q s t := by
  cases h with
  | fewer hrows howns hkept => exact .fewer hrows howns fun hq => hkept (hQ hq)
  | saved rid x hrows hnew hopen hrid hothers => exact .saved rid x hrows hnew hopen hrid hothers

/-- Where the process stops, `S` has to have what the handlers were about to answer. -/
theorem keeps_step (hinv : Reachable s)
    (hseen : e.action = .restart → ∀ x, Answering s x → S x) (h : step A s e = some t) :
    Keeps S (e.Spares ∧ Saves A.repo.toRepository) s t := by
  cases haction : e.action with
  | request rid req =>
      obtain ⟨hfree, next, hserve, rfl⟩ := (step_request haction).mp h
      refine keeps_mono (fun hP id hreq => ?_) (keeps_serve hfree hserve)
      rw [hreq] at haction
      exact hP.1.delete rid id haction
  | advance rid id =>
      obtain ⟨phase, hh, next, hresume, rfl⟩ := (step_advance haction).mp h
      rw [target_advance haction]
      exact keeps_mono (fun hP => ⟨hP.1.calls, hP.2⟩)
        (keeps_resume hinv.ids hinv.addressed hh hresume)
  | worker id =>
      obtain ⟨-, rfl⟩ := (step_worker haction).mp h
      have hframe := workerStep_frame A s e.env
      have hhistory : History (workerStep A s e.env) = History s := by
        unfold History
        rw [hframe.executions]
      have hexecuted : Executed (workerStep A s e.env) = Executed s := by
        unfold Executed Answering
        rw [hframe.handlers]
      refine .fewer hhistory.subset (fun rid h x hh howns => ⟨h, ?_, howns⟩)
        fun _ => ⟨hhistory.superset, hexecuted.subset⟩
      rw [hframe.handlers]
      exact hh
  | restart =>
      obtain rfl := (step_restart haction).mp h
      refine .fewer (Set.Subset.refl _) (fun rid h x hh howns => ?_)
        fun _ => ⟨Set.Subset.refl _, executed_restart⟩
      have hown : ∀ response, h.phase.result = some response → S (rid, response) :=
        fun response hresult => hseen haction (rid, response) ⟨h, hh, hresult⟩
      exact ⟨h.abort, congrArg (Option.map Handler.abort) hh, owns_abort hown howns⟩

/-! ## Attribution -/

/-- The request that saves an execution is new to the history. -/
theorem attributed_saved {rid : Nat} {x : Execution} (hinv : Attributed S owner s)
    (hrows : History t = insert x (History s)) (hnew : x ∉ History s)
    (hopen : ∀ h y, s.handlers rid = some h → ¬ h.Owns S rid y)
    (hrid : ∃ h, t.handlers rid = some h ∧ h.Owns S rid x)
    (hothers : ∀ k, k ≠ rid → t.handlers k = s.handlers k) :
    Attributed S (Function.update owner x rid) t := by
  have hold : ∀ y ∈ History s, Function.update owner x rid y = owner y := by
    intro y hy
    refine Function.update_of_ne ?_ _ _
    rintro rfl
    exact hnew hy
  -- The old rows belong to requests that are past their save.
  have hother : ∀ y ∈ History s, owner y ≠ rid := by
    intro y hy heq
    obtain ⟨h, hh, howns⟩ := hinv.owned y hy
    rw [heq] at hh howns
    exact hopen h y hh howns
  constructor
  · rw [hrows]
    refine (Set.injOn_insert hnew).mpr ⟨?_, ?_⟩
    · exact hinv.injective.congr fun y hy => (hold y hy).symm
    · rintro ⟨y, hy, heq⟩
      rw [hold y hy, Function.update_self] at heq
      exact hother y hy heq
  · intro y hy
    rw [hrows] at hy
    rcases hy with rfl | hy
    · rw [Function.update_self]
      exact hrid
    · obtain ⟨h, hh, howns⟩ := hinv.owned y hy
      rw [hold y hy]
      exact ⟨h, (hothers _ (hother y hy)).trans hh, howns⟩

theorem covers_saved {rid : Nat} {x : Execution} (hrows : History t = insert x (History s))
    (hnew : x ∉ History s) (hothers : ∀ k, k ≠ rid → t.handlers k = s.handlers k)
    (hcovers : Set.SurjOn owner (History s) (Executed s)) :
    Set.SurjOn (Function.update owner x rid) (History t) (Executed t) := by
  rintro k ⟨response, h, hk, hresult⟩
  rw [hrows]
  by_cases hrid : k = rid
  · exact ⟨x, Set.mem_insert x _, by rw [Function.update_self, hrid]⟩
  · obtain ⟨y, hy, howner⟩ := hcovers ⟨response, h, (hothers k hrid).symm.trans hk, hresult⟩
    refine ⟨y, Set.mem_insert_of_mem x hy, ?_⟩
    rw [Function.update_of_ne ?_, howner]
    rintro rfl
    exact hnew hy

theorem attributed_keeps {P : Prop} (hinv : Attributed S owner s) (h : Keeps S P s t) :
    ∃ owner', Attributed S owner' t ∧ (P → Set.SurjOn owner (History s) (Executed s) →
      Set.SurjOn owner' (History t) (Executed t)) := by
  cases h with
  | fewer hrows howns hkept =>
      refine ⟨owner, ⟨hinv.injective.mono hrows, fun x hx => ?_⟩, fun hP hcovers => ?_⟩
      · obtain ⟨h, hh, hx'⟩ := hinv.owned x (hrows hx)
        exact howns _ h x hh hx'
      · exact hcovers.mono (hkept hP).1 (hkept hP).2
  | saved rid x hrows hnew hopen hrid hothers =>
      exact ⟨Function.update owner x rid, attributed_saved hinv hrows hnew hopen hrid hothers,
        fun _ => covers_saved hrows hnew hothers⟩

theorem attributed_start (S : Nat × ExecuteResponse → Prop) (owner : Execution → Nat) :
    Attributed S owner (State.start M) :=
  ⟨fun _ hx => (nomatch hx), fun _ hx => (nomatch hx)⟩

theorem attributed_mono (hS : ∀ x, S x → S' x) (h : Attributed S owner s) :
    Attributed S' owner s := by
  refine ⟨h.injective, fun x hx => ?_⟩
  obtain ⟨handler, hh, htarget, response, hrecords, hanswer⟩ := h.owned x hx
  exact ⟨handler, hh, htarget, response, hrecords,
    hanswer.imp_right fun haborted => ⟨hS _ haborted.1, haborted.2⟩⟩

/-- `S` has the answers of the state, and accounts for those that were never given. -/
structure Recorded (S : Nat × ExecuteResponse → Prop) (s : State M) : Prop where
  reachable : Reachable s
  answers : ∀ x, Answering s x → S x
  attributed : ∃ owner, Attributed S owner s

theorem recorded_historic (A : Platform M σ) : Historic (step A) Answering Recorded where
  mono hS h :=
    ⟨h.reachable, fun x hx => hS x (h.answers x hx),
      h.attributed.imp fun _ hattributed => attributed_mono hS hattributed⟩
  step hinv hnow h := by
    obtain ⟨owner, hattributed⟩ := hinv.attributed
    obtain ⟨owner', hattributed', -⟩ :=
      attributed_keeps hattributed (keeps_step hinv.reachable (fun _ => hinv.answers) h)
    exact ⟨reachable_step hinv.reachable (step_transition h), hnow, owner', hattributed'⟩

theorem recorded_start (S : Nat × ExecuteResponse → Prop) : Recorded S (State.start M) where
  reachable := reachable_start
  answers x hx := by
    obtain ⟨h, hh, -⟩ := hx
    cases hh
  attributed := ⟨fun _ => 0, attributed_start S _⟩

/-- In every run the stored executions belong to execute requests, one each, of their plugin, that
    answer with the figures stored. One that a stop of the process has kept from its answer was
    about to give it at an earlier moment of the run. -/
theorem executions_attributed (A : Platform M σ) {es : List Event}
    (hrun : run (step A) (State.start M) es = some s) :
    ∃ owner, Attributed (Seen (step A) Answering (State.start M) es) owner s :=
  (run_seen_start (recorded_historic A) recorded_start hrun).attributed

/-- A plugin is created and built, and then run twice. -/
def runTwice : List Event :=
  createAndBuild ++
    [(Action.request 1 (.executePlugin "p" ⟨[], false⟩)).quietly "",
      (Action.request 2 (.executePlugin "p" ⟨[1], false⟩)).quietly "",
      (Action.advance 1 "p").quietly "", (Action.advance 1 "p").quietly "",
      (Action.advance 1 "p").quietly "", (Action.advance 2 "p").quietly "",
      (Action.advance 2 "p").quietly "", (Action.advance 1 "p").quietly "",
      (Action.advance 2 "p").quietly "x", (Action.advance 1 "p").quietly "y",
      (Action.advance 2 "p").quietly ""]

/-- The second run has answered, and a stop of the process keeps the first from its answer. -/
theorem executions_attributed_twice :
    ∃ s, run (step .small) (State.start Bytes) (runTwice ++ [Action.restart.quietly ""]) = some s ∧
      s.db.executions.rows.length = 2 ∧ ∃ owner, Attributed (Seen (step .small) Answering
        (State.start Bytes) (runTwice ++ [Action.restart.quietly ""])) owner s := by
  obtain ⟨s, hs, hlength⟩ : ∃ s, run (step .small) (State.start Bytes)
      (runTwice ++ [Action.restart.quietly ""]) = some s ∧ s.db.executions.rows.length = 2 :=
    ⟨_, rfl, rfl⟩
  exact ⟨s, hs, hlength, executions_attributed .small hs⟩

/-! ## Completeness -/

/-- Where saving does not fail, nothing is deleted and the process goes on, the stored executions
    and the execute requests that answer with a result correspond one to one. -/
theorem executions_complete (A : Platform M σ) (hsaves : Saves A.repo.toRepository)
    {es : List Event} (hes : ∀ e ∈ es, e.Spares)
    (hrun : run (step A) (State.start M) es = some s) :
    ∃ owner, Attributed (fun _ => False) owner s ∧
      Set.BijOn owner (History s) (Executed s) := by
  have hstep : ∀ s e t,
      (Reachable s ∧ ∃ owner, Attributed (fun _ => False) owner s ∧
        Set.SurjOn owner (History s) (Executed s)) →
      e.Spares → step A s e = some t →
      Reachable t ∧ ∃ owner, Attributed (fun _ => False) owner t ∧
        Set.SurjOn owner (History t) (Executed t) := by
    rintro s e t ⟨hreachable, owner, hinv, hcovers⟩ hspares h
    obtain ⟨owner', hinv', hcovers'⟩ := attributed_keeps hinv
      (keeps_step hreachable (fun hrestart => absurd hrestart hspares.restart) h)
    exact ⟨reachable_step hreachable (step_transition h), owner', hinv',
      hcovers' ⟨hspares, hsaves⟩ hcovers⟩
  have hstart : Set.SurjOn (fun _ : Execution => 0) (History (State.start M))
      (Executed (State.start M)) := by
    rintro rid ⟨response, h, hh, -⟩
    cases hh
  obtain ⟨-, owner, hinv, hcovers⟩ := run_invariant hstep hes
    ⟨reachable_start, fun _ => 0, attributed_start _ _, hstart⟩ hrun
  refine ⟨owner, hinv, ?_, hinv.injective, hcovers⟩
  intro x hx
  obtain ⟨h, hh, -, response, -, hresult | ⟨hfalse, -⟩⟩ := hinv.owned x hx
  · exact ⟨response, h, hh, hresult⟩
  · cases hfalse

theorem executions_complete_twice :
    ∃ s owner, run (step .small) (State.start Bytes) runTwice = some s ∧
      s.db.executions.rows.length = 2 ∧ Attributed (fun _ => False) owner s ∧
      Set.BijOn owner (History s) (Executed s) := by
  obtain ⟨s, hs, hlength⟩ : ∃ s, run (step .small) (State.start Bytes) runTwice = some s ∧
      s.db.executions.rows.length = 2 := ⟨_, rfl, rfl⟩
  have hspares : ∀ e ∈ runTwice, e.Spares := by
    intro e he
    unfold runTwice createAndBuild Action.quietly at he
    simp only [List.cons_append, List.nil_append, List.mem_cons, List.not_mem_nil, or_false] at he
    rcases he with rfl | rfl | rfl | rfl | rfl | rfl | rfl | rfl | rfl | rfl | rfl | rfl | rfl |
      rfl | rfl | rfl | rfl <;> exact ⟨rfl, nofun, nofun⟩
  obtain ⟨owner, hattributed, hbijective⟩ :=
    executions_complete .small (sqlite_saves _ _) hspares hs
  exact ⟨s, owner, hs, hlength, hattributed, hbijective⟩

end PluginSandbox.Server
