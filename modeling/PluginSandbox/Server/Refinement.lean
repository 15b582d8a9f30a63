/-
  The server refines its catalog.

  Requests, the worker, failing calls and restarts interleave; the table of plugins moves as the
  catalog says. Each step is one operation of the catalog or none (`tracks_step`), and every
  operation was asked for by an event of the run (`refines_catalog`). A write that meets no row is
  no operation. What an operation may do follows from places far apart: the texts of an edit were
  checked when its request came, and the build being reported is one of a source that the worker
  had read before.

  Facts about the life of an id are then facts about catalogs.
-/
import PluginSandbox.Server.Acknowledged
import PluginSandbox.Server.Answers
import PluginSandbox.Server.Catalog

namespace PluginSandbox.Server

open PluginSandbox.Lib PluginSandbox.Db PluginSandbox.Sandbox PluginSandbox.Compiler

variable {M σ : Type} {A : Platform M σ} {Q : Event → Prop} {s t : State M} {e : Event}
  {c c' : Catalog}

/-! ## Who asked -/

/-- The event asks for the operation: its request does, or it is a step of the worker. -/
inductive Asks (A : Platform M σ) (e : Event) : Operation → Prop
  | create (rid : Nat) (body : Body) (content : Content)
      (haction : e.action = .request rid (.createPlugin body))
      (haccepts : Accepts A.json body content.toPluginRequest) :
      Asks A e (.create e.env.uuid content e.env.now)
  | edit (rid : Nat) (id : String) (body : Body) (content : Content)
      (haction : e.action = .request rid (.updatePlugin id body))
      (haccepts : Accepts A.json body content.toPluginRequest) : Asks A e (.edit id content)
  | settle (id sourceCode : String) (haction : e.action = .worker id) :
      Asks A e (.settle id sourceCode)
  | delete (rid : Nat) (id : String) (haction : e.action = .request rid (.deletePlugin id)) :
      Asks A e (.delete id)

/-- One of the events asked for the operation. -/
def Asked (A : Platform M σ) (Q : Event → Prop) (op : Operation) : Prop := ∃ e, Q e ∧ Asks A e op

/-- A handler that is about to write the table does what it was asked for. -/
def Handler.Entitled (A : Platform M σ) (Q : Event → Prop) (h : Handler M) : Prop :=
  match h.phase with
  | .updatePluginCode name sourceCode =>
    ∃ id content, h.target = some id ∧ Content.toPluginRequest content = ⟨name, sourceCode⟩ ∧
      Asked A Q (.edit id content)
  | .deletePluginRow => ∃ id, h.target = some id ∧ Asked A Q (.delete id)
  | _ => True

theorem entitled_abort (h : Handler M) : h.abort.Entitled A Q := by
  obtain ⟨target, phase⟩ := h
  cases phase <;> trivial

theorem entitled_serve {rid : Nat} {req : Request} {next : Next M} (he : Q e)
    (haction : e.action = .request rid req) (h : serve A s e.env req = some next) :
    Handler.Entitled A Q ⟨req.target e.env.uuid, next.2⟩ := by
  cases serve_opened h with
  | accepted id body content haccepts =>
      exact ⟨id, ⟨content, haccepts.name, haccepts.sourceCode⟩, rfl, rfl, e, he,
        .edit rid id body _ haction haccepts⟩
  | executionsDeleted id => exact ⟨id, rfl, e, he, .delete rid id haction⟩
  | _ => trivial

/-- Later steps of a handler lead to no other write of the table of plugins. -/
theorem entitled_resume {id : String} {phase : Phase M} {next : Next M} {env : Env}
    (h : resume A s env id phase = some next) (target : Option String) :
    Handler.Entitled A Q ⟨target, next.2⟩ := by
  cases resume_continued h <;> trivial

theorem entitled_step (he : Q e) (hinv : ∀ rid h, s.handlers rid = some h → h.Entitled A Q)
    (h : step A s e = some t) : ∀ rid h, t.handlers rid = some h → h.Entitled A Q := by
  have hput : ∀ rid (next : Next M), next.1.handlers = s.handlers →
      Handler.Entitled A Q ⟨e.target, next.2⟩ →
      ∀ k h, (State.put rid e.target next).handlers k = some h → h.Entitled A Q := by
    intro rid next hothers hnew k h hh
    rw [handlers_put, hothers] at hh
    split at hh
    · cases hh
      exact hnew
    · exact hinv k h hh
  cases haction : e.action with
  | request rid req =>
      obtain ⟨-, next, hserve, rfl⟩ := (step_request haction).mp h
      have htarget : e.target = req.target e.env.uuid := by
        unfold Event.target
        rw [haction]
      refine hput rid next (within_serve hserve).handlers ?_
      rw [htarget]
      exact entitled_serve he haction hserve
  | advance rid id =>
      obtain ⟨phase, -, next, hresume, rfl⟩ := (step_advance haction).mp h
      obtain ⟨_, -, hwithin⟩ := within_resume hresume
      exact hput rid next hwithin.handlers (entitled_resume hresume e.target)
  | worker id =>
      obtain ⟨-, rfl⟩ := (step_worker haction).mp h
      rw [(workerStep_frame A s e.env).handlers]
      exact hinv
  | restart =>
      obtain rfl := (step_restart haction).mp h
      intro rid h hh
      obtain ⟨h₀, -, rfl⟩ := Option.map_eq_some_iff.mp hh
      exact entitled_abort h₀

/-- A row that was just saved is the one that a create request asked for. -/
theorem saved_request {rid : Nat} {target : Option String} {plugin : Plugin}
    (h : step A s e = some t) (hrid : e.action.rid = some rid) (hfree : s.handlers rid = none)
    (hnew : t.handlers rid = some ⟨target, .createQueueCompile plugin⟩) :
    ∃ body content, e.action = .request rid (.createPlugin body) ∧
      Accepts A.json body content ∧ plugin = newPlugin e.env content := by
  cases haction : e.action with
  | request k req =>
      rw [haction] at hrid
      obtain rfl : k = rid := Option.some.inj hrid
      obtain ⟨-, next, hserve, rfl⟩ := (step_request haction).mp h
      rw [handlers_put_self] at hnew
      cases serve_opened hserve with
      | saved body content haccepts =>
          cases hnew
          exact ⟨body, content, rfl, haccepts, rfl⟩
      | _ => cases hnew
  | advance k id =>
      rw [haction] at hrid
      obtain rfl : k = rid := Option.some.inj hrid
      obtain ⟨phase, hh, -⟩ := (step_advance haction).mp h
      rw [hfree] at hh
      cases hh
  | worker id =>
      rw [haction] at hrid
      cases hrid
  | restart =>
      rw [haction] at hrid
      cases hrid

/-! ## Rows and entries -/

/-- The table shows the catalog, and the worker builds a source that its plugin has had. -/
structure Shows (s : State M) (c : Catalog) : Prop where
  rows : ∀ id, s.db.plugins.find? id = (c id).content.map (Entry.row id)
  drawn : ∀ id, c id ≠ .unused → id ∈ s.issued
  snapshot : ∀ id source, snapshot s.worker = some (id, source) → c.HasHad id source

theorem shows_start : Shows (State.start M) .empty where
  rows _ := rfl
  drawn _ h := absurd rfl h
  snapshot _ _ h := nomatch h

/-- What is left to show when the catalog moves and the worker takes up no new source. -/
theorem shows_moved (hinv : Shows s c) (hleads : c.Leads Entry.Extends c')
    (hworker : t.worker = s.worker ∨ Server.snapshot t.worker = none)
    (hrows : ∀ id, t.db.plugins.find? id = (c' id).content.map (Entry.row id))
    (hdrawn : ∀ id, c' id ≠ .unused → id ∈ t.issued) : Shows t c' where
  rows := hrows
  drawn := hdrawn
  snapshot id source hsnapshot := by
    rcases hworker with hworker | hworker
    · rw [hworker] at hsnapshot
      exact hasHad_leads hleads (hinv.snapshot id source hsnapshot)
    · rw [hworker] at hsnapshot
      cases hsnapshot

theorem leads_self (c : Catalog) : c.Leads Entry.Extends c :=
  fun id => Slot.leads_refl Entry.extends_refl (c id)

/-- A step that leaves the table alone. -/
theorem shows_of_plugins (hinv : Shows s c) (hissued : s.issued ⊆ t.issued)
    (hplugins : t.db.plugins = s.db.plugins)
    (hworker : t.worker = s.worker ∨ Server.snapshot t.worker = none) : Shows t c :=
  shows_moved hinv (leads_self c) hworker (fun id => hplugins ▸ hinv.rows id)
    fun id hid => hissued (hinv.drawn id hid)

/-- A live id is drawn, and setting its slot draws no other. -/
theorem drawn_changed {id : String} {entry : Entry} {x : Slot Entry} (hinv : Shows s c)
    (hlive : c id = .live entry) (hissued : s.issued ⊆ t.issued) :
    ∀ k, Function.update c id x k ≠ .unused → k ∈ t.issued := by
  intro k hk
  by_cases hid : k = id
  · have hused : c k ≠ .unused := by
      rw [hid, hlive]
      exact nofun
    exact hissued (hinv.drawn k hused)
  · rw [Function.update_of_ne hid] at hk
    exact hissued (hinv.drawn k hk)

/-! ## Steps -/

/-- A step is an operation that was asked for, or none. -/
def Matched (A : Platform M σ) (Q : Event → Prop) (t : State M) (c : Catalog) : Prop :=
  Shows t c ∨ ∃ op c', Asked A Q op ∧ c.apply A.toolchain op = some c' ∧ Shows t c'

/-- A write of the row `id` changes the entry as it changes the row. Where there is no row it is no
    operation. -/
theorem matched_write {id : String} {f : Plugin → Plugin} {op : Operation}
    {g : Entry → Option Entry} (hinv : Shows s c) (hissued : s.issued ⊆ t.issued)
    (hfind : ∀ k, t.db.plugins.find? k =
      if k = id then (s.db.plugins.find? k).map f else s.db.plugins.find? k)
    (hworker : t.worker = s.worker ∨ Server.snapshot t.worker = none)
    (hop : c.apply A.toolchain op = c.change id g) (hasked : Asked A Q op)
    (hg : ∀ entry, c id = .live entry →
      ∃ entry', g entry = some entry' ∧ entry'.row id = f (entry.row id)) : Matched A Q t c := by
  cases hslot : c id with
  | live entry =>
      obtain ⟨entry', hentry', hrow⟩ := hg entry hslot
      have happly : c.apply A.toolchain op = some (Function.update c id (.live entry')) :=
        hop.trans (Slots.change_eq_some_iff.mpr ⟨entry, entry', hslot, hentry', rfl⟩)
      refine .inr ⟨op, _, hasked, happly, shows_moved hinv (leads_apply happly) hworker
        (fun k => ?_) (drawn_changed hinv hslot hissued)⟩
      rw [hfind, hinv.rows k, Slots.content_update]
      split
      · next hk =>
          subst hk
          rw [hslot]
          exact congrArg some hrow.symm
      · rfl
  | _ =>
      refine .inl (shows_moved hinv (leads_self c) hworker (fun k => ?_)
        fun k hk => hissued (hinv.drawn k hk))
      rw [hfind, hinv.rows k]
      split
      · next hk =>
          rw [hk, hslot]
          rfl
      · rfl

theorem matched_create {plugins : Table Plugin Plugin.id} {content : Content}
    (hinv : Shows s c) (hfresh : e.env.uuid ∉ s.issued)
    (hinsert : s.db.plugins.insert (newPlugin e.env content.toPluginRequest) = some plugins)
    (hplugins : t.db.plugins = plugins) (hissued : t.issued = e.env.uuid :: s.issued)
    (hworker : t.worker = s.worker)
    (hasked : Asked A Q (.create e.env.uuid content e.env.now)) : Matched A Q t c := by
  have hunused : c e.env.uuid = .unused := by
    by_contra hused
    exact hfresh (hinv.drawn e.env.uuid hused)
  have happly : c.apply A.toolchain (.create e.env.uuid content e.env.now) =
      some (Function.update c e.env.uuid (.live (.create content e.env.now))) :=
    Slots.create_eq_some_iff.mpr ⟨hunused, rfl⟩
  refine .inr ⟨_, _, hasked, happly, shows_moved hinv (leads_apply happly) (.inl hworker)
    (fun k => ?_) fun k hk => ?_⟩
  · rw [hplugins, Table.find?_insert hinsert, Slots.content_update, hinv.rows k]
    show (if k = e.env.uuid then _ else _) = _
    split
    · next hk =>
        subst hk
        rfl
    · rfl
  · rw [hissued]
    by_cases hid : k = e.env.uuid
    · exact hid ▸ List.mem_cons_self
    · rw [Function.update_of_ne hid] at hk
      exact List.mem_cons_of_mem _ (hinv.drawn k hk)

theorem matched_delete {id : String} (hinv : Shows s c) (hissued : s.issued ⊆ t.issued)
    (hfind : ∀ k, t.db.plugins.find? k = if k = id then none else s.db.plugins.find? k)
    (hworker : t.worker = s.worker) (hasked : Asked A Q (.delete id)) : Matched A Q t c := by
  cases hslot : c id with
  | live entry =>
      have happly : c.apply A.toolchain (.delete id) = some (Function.update c id .gone) :=
        Slots.remove_eq_some_iff.mpr ⟨⟨entry, hslot⟩, rfl⟩
      refine .inr ⟨_, _, hasked, happly, shows_moved hinv (leads_apply happly) (.inl hworker)
        (fun k => ?_) (drawn_changed hinv hslot hissued)⟩
      rw [hfind, hinv.rows k, Slots.content_update]
      split <;> rfl
  | _ =>
      refine .inl (shows_moved hinv (leads_self c) (.inl hworker) (fun k => ?_)
        fun k hk => hissued (hinv.drawn k hk))
      rw [hfind, hinv.rows k]
      split
      · next hk =>
          rw [hk, hslot]
          rfl
      · rfl

/-- The build that the worker reports is one of a source that the plugin has had. -/
theorem matched_status {id source : String} {build : Build} (hinv : Shows s c)
    (houtcome : BuildOfSnapshot A.toolchain s.worker)
    (hworker : s.worker = .writing id source build) (hissued : s.issued ⊆ t.issued)
    (hfind : ∀ k, t.db.plugins.find? k = if k = id then
      (s.db.plugins.find? k).map (Plugin.built build.status build.compiledWasm build.compileErrors)
      else s.db.plugins.find? k)
    (hidle : t.worker = .idle) (hasked : Asked A Q (.settle id source)) : Matched A Q t c := by
  have hbuild := houtcome id source build hworker
  have hhad : c.HasHad id source := hinv.snapshot id source (by rw [hworker]; rfl)
  refine matched_write hinv hissued hfind (.inr (by rw [hidle]; rfl)) rfl hasked
    fun entry hlive => ?_
  rcases hhad with hgone | ⟨entry', hlive', hsource⟩
  · rw [hgone] at hlive
    cases hlive
  · rw [hlive] at hlive'
    cases hlive'
    obtain ⟨settled, hsettle⟩ := settle_of_source A.toolchain hsource
    refine ⟨settled, hsettle, ?_⟩
    rw [row_settle hsettle id, hbuild]

theorem matched_step (he : Q e) (hinv : Shows s c) (houtcome : BuildOfSnapshot A.toolchain s.worker)
    (hhandlers : ∀ rid h, s.handlers rid = some h → h.Entitled A Q) (h : step A s e = some t) :
    Matched A Q t c := by
  have htransition := step_transition h
  have hissued : s.issued ⊆ t.issued := (inherits_step htransition).1
  cases htransition with
  | quiet | queueCompile | compile | saveExecution | deleteExecutions =>
      exact .inl (shows_of_plugins hinv hissued rfl (.inl rfl))
  | savePlugin rid plugin plugins hrid hfree htarget hfresh hstatus hwasm hinsert =>
      obtain ⟨body, content, haction, haccepts, rfl⟩ :=
        saved_request h hrid hfree (handlers_put_self rid e.target _)
      have hasked : Asked A Q (.create e.env.uuid
          ⟨content, haccepts.name, haccepts.sourceCode⟩ e.env.now) :=
        ⟨e, he, .create rid body _ haction haccepts⟩
      exact matched_create hinv hfresh hinsert rfl rfl rfl hasked
  | updatePluginCode rid id name source haction hold =>
      obtain ⟨id', content, htarget, hcontent, hasked⟩ := hhandlers rid _ hold
      obtain rfl : id = id' := Option.some.inj htarget
      have hname : content.name = name := congrArg PluginRequest.name hcontent
      have hsource : content.sourceCode = source := congrArg PluginRequest.sourceCode hcontent
      refine matched_write hinv hissued (find?_setCode s.db id name source) (.inl rfl) rfl hasked
        fun entry _ => ⟨entry.edit content, rfl, ?_⟩
      rw [row_edit, hname, hsource]
  | deletePluginRow rid id haction hold =>
      obtain ⟨id', htarget, hasked⟩ := hhandlers rid _ hold
      obtain rfl : id = id' := Option.some.inj htarget
      exact matched_delete hinv hissued (find?_dropPlugin s.db id) rfl hasked
  | receive | skip | dropStatus | restart =>
      exact .inl (shows_of_plugins hinv hissued rfl (.inr rfl))
  | read id plugin haction hworker hread hrow =>
      refine .inl ⟨hinv.rows, hinv.drawn, fun id' source hsnapshot => ?_⟩
      obtain ⟨rfl, rfl⟩ := Prod.mk.inj (Option.some.inj hsnapshot)
      rw [hinv.rows id, Option.map_eq_some_iff] at hrow
      obtain ⟨entry, hcontent, rfl⟩ := hrow
      exact .inr ⟨entry, Slot.content_eq_some_iff.mp hcontent, List.mem_cons_self⟩
  | build id source haction hworker =>
      refine .inl ⟨hinv.rows, hinv.drawn, fun id' source' hsnapshot => ?_⟩
      have hbefore : snapshot s.worker = some (id, source) := by rw [hworker]; rfl
      exact hinv.snapshot id' source' (hbefore.trans hsnapshot)
  | writeStatus id source build db haction hworker hwritten hdb =>
      subst hdb
      exact matched_status hinv houtcome hworker hissued
        (find?_setStatus s.db id build.status build.compiledWasm build.compileErrors) rfl
        ⟨e, he, .settle id source haction⟩

/-! ## Runs -/

/-- What the simulation keeps: the catalog is shown, and what is under way was asked for. -/
structure Tracks (A : Platform M σ) (Q : Event → Prop) (s : State M) (c : Catalog) : Prop where
  shows : Shows s c
  outcome : BuildOfSnapshot A.toolchain s.worker
  handlers : ∀ rid h, s.handlers rid = some h → h.Entitled A Q

theorem tracks_start (A : Platform M σ) (Q : Event → Prop) : Tracks A Q (State.start M) .empty where
  shows := shows_start
  outcome := nofun
  handlers _ _ h := nomatch h

theorem tracks_step (he : Q e) (hinv : Tracks A Q s c) (h : step A s e = some t) :
    Tracks A Q t c ∨
      ∃ op c', Asked A Q op ∧ c.apply A.toolchain op = some c' ∧ Tracks A Q t c' := by
  have houtcome := buildOfSnapshot_step hinv.outcome (step_transition h)
  have hhandlers := entitled_step he hinv.handlers h
  rcases matched_step he hinv.shows hinv.outcome hinv.handlers h with hshows | hmatched
  · exact .inl ⟨hshows, houtcome, hhandlers⟩
  · obtain ⟨op, c', hasked, happly, hshows⟩ := hmatched
    exact .inr ⟨op, c', hasked, happly, hshows, houtcome, hhandlers⟩

theorem tracks_run {es : List Event} (hes : ∀ e ∈ es, Q e) (hinv : Tracks A Q s c)
    (hrun : run (step A) s es = some t) :
    ∃ ops c', (∀ op ∈ ops, Asked A Q op) ∧ run (Catalog.apply A.toolchain) c ops = some c' ∧
      Tracks A Q t c' := by
  have hstep : ∀ s c e t, Tracks A Q s c → Q e → step A s e = some t → Tracks A Q t c ∨
      ∃ op c', Asked A Q op ∧ c.apply A.toolchain op = some c' ∧ Tracks A Q t c' :=
    fun s c e t hinv he h => tracks_step he hinv h
  exact run_simulated hstep hes hinv hrun

theorem catalog_run (A : Platform M σ) {es : List Event}
    (hrun : run (step A) (State.start M) es = some s) :
    ∃ ops c, (∀ op ∈ ops, Asked A (· ∈ es) op) ∧
      run (Catalog.apply A.toolchain) .empty ops = some c ∧ Tracks A (· ∈ es) s c :=
  tracks_run (fun _ he => he) (tracks_start A (· ∈ es)) hrun

/-- In every run the table moves as the catalog does, by operations that events of the run asked
    for. -/
theorem refines_catalog (A : Platform M σ) {es : List Event}
    (hrun : run (step A) (State.start M) es = some s) :
    ∃ ops c, (∀ op ∈ ops, Asked A (· ∈ es) op) ∧
      run (Catalog.apply A.toolchain) .empty ops = some c ∧
      ∀ id, s.db.plugins.find? id = (c id).content.map (Entry.row id) := by
  obtain ⟨ops, c, hasked, hops, htracks⟩ := catalog_run A hrun
  exact ⟨ops, c, hasked, hops, htracks.shows.rows⟩

/-- A plugin is created and built, and the catalog has its row. -/
theorem refines_catalog_built :
    ∃ s p ops c, run (step .small) (State.start Bytes) createAndBuild = some s ∧
      s.db.plugins.find? "p" = some p ∧ p.status = "compiled" ∧
      run (Catalog.apply Platform.small.toolchain) .empty ops = some c ∧
      (c "p").content.map (Entry.row "p") = some p := by
  obtain ⟨s, p, hs, hp, hstatus⟩ :
      ∃ s p, run (step .small) (State.start Bytes) createAndBuild = some s ∧
        s.db.plugins.find? "p" = some p ∧ p.status = "compiled" := ⟨_, _, rfl, rfl, rfl⟩
  obtain ⟨ops, c, -, hops, hrows⟩ := refines_catalog .small hs
  exact ⟨s, p, ops, c, hs, hp, hstatus, hops, (hrows "p").symm.trans hp⟩

/-! ## The life of an id -/

theorem live_of_row {id : String} {p : Plugin} (hinv : Tracks A Q s c)
    (hp : s.db.plugins.find? id = some p) : ∃ entry, c id = .live entry ∧ entry.row id = p := by
  rw [hinv.shows.rows, Option.map_eq_some_iff] at hp
  obtain ⟨entry, hcontent, hrow⟩ := hp
  exact ⟨entry, Slot.content_eq_some_iff.mp hcontent, hrow⟩

/-- A drawn id without a row stays without one. -/
theorem missing_run {es : List Event} {id : String} (hdrawn : id ∈ s.issued)
    (hmissing : s.db.plugins.find? id = none) (hrun : run (step A) s es = some t) :
    t.db.plugins.find? id = none := by
  by_contra hrow
  obtain ⟨b, hb⟩ := Option.ne_none_iff_exists'.mp hrow
  obtain ⟨a, ha, -⟩ := (inherits_run hrun).2 id hdrawn b hb
  rw [hmissing] at ha
  cases ha

/-- `b` is the plugin `a` at a later moment: created at the same time, with no fewer builds. -/
structure SameLife (a b : Plugin) : Prop where
  id : b.id = a.id
  createdAt : b.createdAt = a.createdAt
  version : a.version ≤ b.version

/-- A plugin that is there once is there later, or a request deleted it. -/
theorem lives_on {es₁ es₂ : List Event} {id : String} {a : Plugin}
    (hrun₁ : run (step A) (State.start M) es₁ = some s) (hrun₂ : run (step A) s es₂ = some t)
    (ha : s.db.plugins.find? id = some a) :
    (∃ b, t.db.plugins.find? id = some b ∧ SameLife a b) ∨
      (id ∈ t.issued ∧ t.db.plugins.find? id = none ∧
        ∃ e ∈ es₁ ++ es₂, ∃ rid, e.action = .request rid (.deletePlugin id)) := by
  obtain ⟨-, c, -, -, hs⟩ := tracks_run (fun e he => List.mem_append_left es₂ he)
    (tracks_start A (· ∈ es₁ ++ es₂)) hrun₁
  obtain ⟨ops, c', hasked, hops, ht⟩ :=
    tracks_run (fun e he => List.mem_append_right es₁ he) hs hrun₂
  obtain ⟨entry, hlive, rfl⟩ := live_of_row hs ha
  have hleads := leads_ops hops id
  have hrow := ht.shows.rows id
  rw [hlive] at hleads
  generalize hslot : c' id = slot at hleads hrow
  cases hleads with
  | live _ entry' hgrows =>
      exact .inl ⟨_, hrow, rfl, hgrows.createdAt, version_le hgrows id⟩
  | dead =>
      have hbefore : c id ≠ .gone := by
        rw [hlive]
        exact nofun
      have hused : c' id ≠ .unused := by
        rw [hslot]
        exact nofun
      obtain ⟨e, he, hasks⟩ := hasked _ (delete_mem hops hbefore hslot)
      cases hasks with
      | delete rid _ haction => exact .inr ⟨ht.shows.drawn id hused, hrow, e, he, rid, haction⟩

/-- An id has one life. Between two moments of a run a plugin stays the one it was; or a request
    deleted it, and from then on no run brings its id back. -/
theorem lifecycle (A : Platform M σ) {es₁ es₂ : List Event} {id : String} {a : Plugin}
    (hrun₁ : run (step A) (State.start M) es₁ = some s) (hrun₂ : run (step A) s es₂ = some t)
    (ha : s.db.plugins.find? id = some a) :
    (∃ b, t.db.plugins.find? id = some b ∧ SameLife a b) ∨
      ((∃ e ∈ es₁ ++ es₂, ∃ rid, e.action = .request rid (.deletePlugin id)) ∧
        ∀ es₃ u, run (step A) t es₃ = some u → u.db.plugins.find? id = none) :=
  (lives_on hrun₁ hrun₂ ha).imp_right fun ⟨hdrawn, hmissing, hdeleted⟩ =>
    ⟨hdeleted, fun _ _ hrun₃ => missing_run hdrawn hmissing hrun₃⟩

/-- A plugin is created, built and deleted. -/
theorem lifecycle_deleted :
    ∃ s t p, run (step .small) (State.start Bytes) createAndBuild = some s ∧
      s.db.plugins.find? "p" = some p ∧
      run (step .small) s [(Action.request 1 (.deletePlugin "p")).quietly "",
        (Action.advance 1 "p").quietly ""] = some t ∧
      ∀ es₃ u, run (step .small) t es₃ = some u → u.db.plugins.find? "p" = none := by
  obtain ⟨s, t, p, hs, hp, ht, hmissing⟩ :
      ∃ s t p, run (step .small) (State.start Bytes) createAndBuild = some s ∧
        s.db.plugins.find? "p" = some p ∧
        run (step .small) s [(Action.request 1 (.deletePlugin "p")).quietly "",
          (Action.advance 1 "p").quietly ""] = some t ∧
        t.db.plugins.find? "p" = none := ⟨_, _, _, rfl, rfl, rfl, rfl⟩
  rcases lifecycle .small hs ht hp with ⟨b, hb, -⟩ | ⟨-, hnever⟩
  · rw [hmissing] at hb
    cases hb
  · exact ⟨s, t, p, hs, hp, ht, hnever⟩

/-- A plugin whose creation was acknowledged stays, whatever fails and however often the process
    stops, unless it is deleted on request. -/
theorem created_stays (A : Platform M σ) {before es later : List Event} {s s₁ t u : State M}
    {e : Event} {rid : Nat} {req : Request} {target : Option String} {p : Plugin}
    (hbefore : run (step A) (State.start M) before = some s)
    (haction : e.action = .request rid req) (hstep : step A s e = some s₁)
    (hrun : run (step A) s₁ es = some t)
    (hcreated : t.handlers rid = some ⟨target, .done (.plugin 201 p)⟩)
    (hlater : run (step A) t later = some u)
    (hkept : ∀ e' ∈ (before ++ e :: es) ++ later, ∀ k,
      e'.action ≠ .request k (.deletePlugin p.id)) :
    ∃ b, u.db.plugins.find? p.id = some b ∧ SameLife p b := by
  have hall : run (step A) (State.start M) ((before ++ e :: es) ++ later) = some u :=
    run_append_iff.mpr ⟨t, run_append_iff.mpr ⟨s, hbefore, run_cons_iff.mpr ⟨s₁, hstep, hrun⟩⟩,
      hlater⟩
  have hseen : Had (SeenDb A (before ++ e :: es)) p := by
    cases answer_of_servesAt (servesAt_run hbefore haction hstep hrun) hcreated with
    | created body content haccepts env hrow => exact hrow
  obtain ⟨db, ⟨pre, post, v, hsplit, hpre, rfl⟩, hp⟩ := hseen
  rw [hsplit, List.append_assoc] at hall hkept
  obtain ⟨v', hv', hpost⟩ := run_append_iff.mp hall
  rw [hpre] at hv'
  cases hv'
  rcases lives_on hpre hpost (Table.find?_of_mem hp) with hstays | ⟨-, -, e', he', k, hdelete⟩
  · exact hstays
  · exact absurd hdelete (hkept e' he' k)

/-- The worker's read of a plugin fails, and the process stops. -/
theorem created_stays_restarted :
    ∃ s₁ t u p, step .small (State.start Bytes)
        ((Action.request 0 (.createPlugin ⟨[1], false⟩)).quietly "p") = some s₁ ∧
      run (step .small) s₁ [(Action.advance 0 "p").quietly ""] = some t ∧
      t.handlers 0 = some ⟨some "p", .done (.plugin 201 p)⟩ ∧
      run (step .small) t [(Action.worker "p").quietly "", (Action.worker "p").faulty "",
        Action.restart.quietly ""] = some u ∧
      ∃ b, u.db.plugins.find? p.id = some b ∧ SameLife p b := by
  obtain ⟨s₁, t, u, p, hstep, ht, hdone, hid, hu⟩ :
      ∃ s₁ t u p, step .small (State.start Bytes)
          ((Action.request 0 (.createPlugin ⟨[1], false⟩)).quietly "p") = some s₁ ∧
        run (step .small) s₁ [(Action.advance 0 "p").quietly ""] = some t ∧
        t.handlers 0 = some ⟨some "p", .done (.plugin 201 p)⟩ ∧ p.id = "p" ∧
        run (step .small) t [(Action.worker "p").quietly "", (Action.worker "p").faulty "",
          Action.restart.quietly ""] = some u := ⟨_, _, _, _, rfl, rfl, rfl, rfl, rfl⟩
  have hbefore : run (step .small) (State.start Bytes) [] = some (State.start Bytes) := rfl
  refine ⟨s₁, t, u, p, hstep, ht, hdone, hu,
    created_stays .small hbefore rfl hstep ht hdone hu fun e' he' k => ?_⟩
  simp only [List.nil_append, List.cons_append, List.mem_cons, List.not_mem_nil, or_false] at he'
  rcases he' with rfl | rfl | rfl | rfl | rfl <;> exact nofun

/-- Name and source code of a row came together in one request, and a request created it. -/
theorem rows_asked (A : Platform M σ) {es : List Event} {p : Plugin}
    (hrun : run (step A) (State.start M) es = some s) (hp : p ∈ s.db.plugins.rows) :
    (∃ content, Asked A (· ∈ es) (.create p.id content p.createdAt)) ∧
      ∃ content, Content.toPluginRequest content = ⟨p.name, p.sourceCode⟩ ∧
        (Asked A (· ∈ es) (.create p.id content p.createdAt) ∨
          Asked A (· ∈ es) (.edit p.id content)) := by
  obtain ⟨ops, c, hasked, hops, htracks⟩ := catalog_run A hrun
  obtain ⟨entry, hlive, hrow⟩ := live_of_row htracks (Table.find?_of_mem hp)
  obtain ⟨⟨content, hcreated⟩, hcontents⟩ := sourced_ops hops p.id entry hlive
  have hat : entry.createdAt = p.createdAt := congrArg Plugin.createdAt hrow
  have hname : entry.content.name = p.name := congrArg Plugin.name hrow
  have hsource : entry.content.sourceCode = p.sourceCode := congrArg Plugin.sourceCode hrow
  rw [hat] at hcreated hcontents
  refine ⟨⟨content, hasked _ hcreated⟩, entry.content, ?_, ?_⟩
  · rw [← hname, ← hsource]
  · exact (hcontents entry.content List.mem_cons_self).imp (hasked _) (hasked _)

theorem rows_asked_built :
    ∃ s p, run (step .small) (State.start Bytes) createAndBuild = some s ∧
      p ∈ s.db.plugins.rows ∧
      ∃ content, Asked .small (· ∈ createAndBuild) (.create p.id content p.createdAt) := by
  obtain ⟨s, p, hs, hp⟩ :
      ∃ s p, run (step .small) (State.start Bytes) createAndBuild = some s ∧
        s.db.plugins.rows = [p] := ⟨_, _, rfl, rfl⟩
  have hmem : p ∈ s.db.plugins.rows := by rw [hp]; exact List.mem_cons_self
  exact ⟨s, p, hs, hmem, (rows_asked .small hs hmem).1⟩

/-- In every reachable state the columns of every row agree with each other. -/
theorem rows_consistent (A : Platform M σ) {es : List Event} {p : Plugin}
    (hrun : run (step A) (State.start M) es = some s) (hp : p ∈ s.db.plugins.rows) :
    Consistent p := by
  obtain ⟨-, c, -, -, htracks⟩ := catalog_run A hrun
  obtain ⟨entry, -, hrow⟩ := live_of_row htracks (Table.find?_of_mem hp)
  have hconsistent := row_consistent p.id entry
  rw [hrow] at hconsistent
  exact hconsistent

theorem rows_consistent_built :
    ∃ s p, run (step .small) (State.start Bytes) createAndBuild = some s ∧
      p ∈ s.db.plugins.rows ∧ Consistent p := by
  obtain ⟨s, p, hs, hp⟩ :
      ∃ s p, run (step .small) (State.start Bytes) createAndBuild = some s ∧
        s.db.plugins.rows = [p] := ⟨_, _, rfl, rfl⟩
  have hmem : p ∈ s.db.plugins.rows := by rw [hp]; exact List.mem_cons_self
  exact ⟨s, p, hs, hmem, rows_consistent .small hs hmem⟩

end PluginSandbox.Server
