/-
  A dashboard that is left alone shows the table.

  Where no call of the repository fails and the process does not stop, the goroutines can always
  come to rest (`settles`). After that one answer of the list, which the page asks for every ten
  seconds, shows the table: the rows that are there, each settled by its latest source
  (`catches_up`). The answer to that tick leaves the selection as it is, since its closure has
  the selection of the first render; the answer to a refresh updates it.
-/
import PluginSandbox.Server.Termination
import PluginSandbox.Session.Shown

namespace PluginSandbox.Session

open PluginSandbox.Lib PluginSandbox.Db PluginSandbox.Dashboard PluginSandbox.Server
  PluginSandbox.Sandbox

variable {M σ : Type} {A : Platform M σ} {client : Client} {w w' : World M} {m : Move}

/-! ## Quiet sessions -/

/-- No call fails and the process does not stop. Connections may be lost. -/
def Move.Quiet : Move → Prop
  | .deliver _ _ env => env.repoFails = false
  | .serve e => e.env.repoFails = false ∧ e.action ≠ .restart
  | _ => True

theorem run_server_quiet {ms : List Move} (hquiet : ∀ m ∈ ms, m.Quiet)
    (hrun : run (step A client) w ms = some w') :
    ∃ es, (∀ e ∈ es, e.env.repoFails = false ∧ e.action ≠ .restart) ∧
      run (Server.step A) w.server es = some w'.server := by
  have hstep : ∀ (u : World M) (s : Server.State M) (m : Move) (v : World M), u.server = s →
      m.Quiet → step A client u m = some v → v.server = s ∨
        ∃ e t, (e.env.repoFails = false ∧ e.action ≠ .restart) ∧ Server.step A s e = some t ∧
          v.server = t := by
    rintro u s m v rfl hm h
    cases m with
    | act a =>
        have hact : (if isArrival a then none else u.act a) = some v := h
        split at hact
        · cases hact
        · obtain ⟨app, -, rfl⟩ := Option.map_eq_some_iff.mp hact
          exact .inl rfl
    | deliver i rid env =>
        unfold step at h
        dsimp only at h
        split at h
        · next f _ _ =>
            obtain ⟨server, hserver, rfl⟩ := Option.map_eq_some_iff.mp h
            exact .inr ⟨⟨.request rid (client.request f), env⟩, server, ⟨hm, nofun⟩, hserver, rfl⟩
        · cases h
    | serve e =>
        obtain ⟨server, hserver, rfl⟩ := Option.map_eq_some_iff.mp h
        exact .inr ⟨e, server, hm, hserver, rfl⟩
    | answer i message =>
        unfold step at h
        dsimp only at h
        split at h
        · obtain ⟨f, app, -, -, rfl⟩ := arrive_some h
          exact .inl rfl
        · cases h
    | lose i message =>
        obtain ⟨f, app, -, -, rfl⟩ := arrive_some h
        exact .inl rfl
  obtain ⟨es, t, hes, hrun', rfl⟩ := run_simulated hstep hquiet rfl hrun
  exact ⟨es, hes, hrun'⟩

/-- The goroutines alone. -/
theorem run_serve {es : List Server.Event} {t : Server.State M}
    (hrun : run (Server.step A) w.server es = some t) :
    run (step A client) w (es.map .serve) = some { w with server := t } := by
  induction es generalizing w with
  | nil =>
      cases hrun
      rfl
  | cons e es ih =>
      obtain ⟨s, hs, hrest⟩ := run_cons_iff.mp hrun
      have hfirst : step A client w (.serve e) = some { w with server := s } :=
        Option.map_eq_some_iff.mpr ⟨s, hs, rfl⟩
      exact run_cons_iff.mpr ⟨_, hfirst, ih (w := { w with server := s }) hrest⟩

/-! ## The list is asked for -/

/-- The page asks for the list by itself, or the user does. -/
inductive AsksList (app : App) : Dashboard.Action → Option Plugin → Prop
  | apiTick : AsksList app .apiTick none
  | refresh : AsksList app .refresh app.selectedPlugin

theorem relink_grow {links : List Link} {app : App} {f : Fetch}
    (hlength : links.length = app.inFlight.length) :
    relink links (app.send f) = links ++ [.unsent] := by
  unfold relink
  have hone : (app.inFlight ++ [f]).length - links.length = 1 := by
    rw [List.length_append, hlength, List.length_singleton]
    omega
  show links ++ List.replicate ((app.inFlight ++ [f]).length - links.length) Link.unsent = _
  rw [hone]
  rfl

theorem step_asks {a : Dashboard.Action} {captured : Option Plugin}
    (ha : AsksList w.app a captured) (hlength : w.links.length = w.app.inFlight.length) :
    step A client w (.act a) =
      some { w with
        app := w.app.send (.fetchPlugins false captured), links := w.links ++ [.unsent] } := by
  have happ : Dashboard.step w.app a = some (w.app.send (.fetchPlugins false captured)) := by
    cases ha with
    | apiTick => exact step_of_act rfl rfl
    | refresh => exact step_of_act rfl rfl
  have hown : isArrival a = false := by
    cases ha <;> rfl
  show (if isArrival a then none else w.act a) = _
  rw [hown, if_neg Bool.false_ne_true]
  unfold World.act
  rw [happ, Option.map_some, relink_grow hlength]

/-- The last request in flight is one for the list. -/
structure AskedLast (w : World M) (captured : Option Plugin) (fs : List Fetch) (ls : List Link)
    (link : Link) : Prop where
  length : ls.length = fs.length
  inFlight : w.app.inFlight = fs ++ [.fetchPlugins false captured]
  links : w.links = ls ++ [link]

variable {captured : Option Plugin} {fs : List Fetch} {ls : List Link} {link : Link} {rid : Nat}

theorem AskedLast.getElem?_inFlight (h : AskedLast w captured fs ls link) :
    w.app.inFlight[fs.length]? = some (.fetchPlugins false captured) := by
  rw [h.inFlight]
  exact List.getElem?_concat_length

theorem AskedLast.getElem?_links (h : AskedLast w captured fs ls link) :
    w.links[fs.length]? = some link := by
  rw [h.links, ← h.length]
  exact List.getElem?_concat_length

/-- The server after it was asked for the list. -/
def listed (rid : Nat) (plugins : Slice Plugin) (s : Server.State M) : Server.State M :=
  State.put rid none (Server.answer s (.plugins ((plugins.getD []).map encodePlugin)))

theorem step_deliver_list (hasked : AskedLast w captured fs ls .unsent) {env : Env}
    (hfree : w.server.handlers rid = none) (hcalls : env.repoFails = false)
    {plugins : Slice Plugin} (hread : A.repo.listPlugins w.server.db = .ok plugins) :
    step A client w (.deliver fs.length rid env) =
      some { w with server := listed rid plugins w.server, links := ls ++ [.sent rid] } := by
  have hserve : serve A w.server env .listPlugins =
      some (Server.answer w.server (.plugins ((plugins.getD []).map encodePlugin))) := by
    show some (handleListPlugins A w.server env) = _
    unfold handleListPlugins
    rw [Env.call_eq hcalls, hread]
  have hserver : Server.step A w.server ⟨.request rid .listPlugins, env⟩ =
      some (listed rid plugins w.server) :=
    (step_request rfl).mpr ⟨hfree, _, hserve, rfl⟩
  have hset : w.links.set fs.length (.sent rid) = ls ++ [.sent rid] := by
    rw [hasked.links, ← hasked.length, List.set_append_right _ _ (Nat.le_refl _), Nat.sub_self]
    rfl
  unfold step
  dsimp only
  rw [hasked.getElem?_inFlight, hasked.getElem?_links]
  dsimp only
  unfold World.serve
  show (Server.step A w.server ⟨.request rid .listPlugins, env⟩).map _ = _
  rw [hserver, hset]
  rfl

theorem drained_listed {s : Server.State M} (h : Drained s) (plugins : Slice Plugin) :
    Drained (listed rid plugins s) := by
  refine ⟨fun k handler hk => ?_, h.2⟩
  unfold listed at hk
  rw [handlers_put] at hk
  split at hk
  · cases hk
    exact ⟨_, rfl⟩
  · exact h.1 k handler hk

/-! ## The list arrives -/

theorem plugins_fetchPluginsReply (s : App) (captured : Option Plugin) (data : List Plugin) :
    (s.fetchPluginsReply false captured data).plugins = data := by
  show ({ s with plugins := data, backendConnected := true }.selectUpdated captured data).plugins =
    data
  unfold App.selectUpdated
  split
  · rfl
  · split <;> rfl

/-- The selection follows the list, unless the list does not have it. -/
theorem selected_fetchPluginsReply (s : App) (captured : Option Plugin) (data : List Plugin) :
    ((s.fetchPluginsReply false captured data).selectedPlugin = s.selectedPlugin ∧
        ∀ p, captured = some p → ∀ q ∈ data, q.id ≠ p.id) ∨
      ∃ p q, captured = some p ∧ q ∈ data ∧ q.id = p.id ∧
        (s.fetchPluginsReply false captured data).selectedPlugin = some q := by
  cases captured with
  | none => exact .inl ⟨rfl, nofun⟩
  | some p =>
      cases hfind : data.find? fun q => q.id == p.id with
      | none =>
          refine .inl ⟨?_, fun p' hp q hq hid => ?_⟩
          · show ({ s with plugins := data, backendConnected := true }.selectUpdated (some p)
              data).selectedPlugin = s.selectedPlugin
            unfold App.selectUpdated
            dsimp only
            rw [hfind]
          · cases hp
            exact List.find?_eq_none.mp hfind q hq (beq_iff_eq.mpr hid)
      | some q =>
          have hbeq := List.find?_some (p := fun q : Plugin => q.id == p.id) hfind
          refine .inr ⟨p, q, rfl, List.mem_of_find?_eq_some hfind, beq_iff_eq.mp hbeq, ?_⟩
          show ({ s with plugins := data, backendConnected := true }.selectUpdated (some p)
            data).selectedPlugin = some q
          unfold App.selectUpdated
          dsimp only
          rw [hfind]

/-- The selected plugin stays selected. -/
theorem selectedID_fetchPluginsReply (s : App) {captured : Option Plugin} (data : List Plugin)
    (hcaptured : captured = none ∨ captured = s.selectedPlugin) :
    (s.fetchPluginsReply false captured data).selectedPlugin.map Plugin.id =
      s.selectedPlugin.map Plugin.id := by
  rcases selected_fetchPluginsReply s captured data with ⟨hsame, -⟩ | ⟨p, q, hp, -, hid, hq⟩
  · rw [hsame]
  · rcases hcaptured with hnone | hselected
    · rw [hnone] at hp
      cases hp
    · rw [hq, ← hselected, hp]
      exact congrArg some hid

/-- The dashboard when the list arrives. -/
def showList (app : App) (captured : Option Plugin) (fs : List Fetch) (data : List Plugin) : App :=
  { app with inFlight := fs }.fetchPluginsReply false captured data

theorem step_answer_list (hasked : AskedLast w captured fs ls (.sent rid))
    (hcaptured : captured = none ∨ captured = w.app.selectedPlugin) {target : Option String}
    {data : List Plugin} (hdone : w.server.handlers rid = some ⟨target, .done (.plugins data)⟩)
    (message : String) :
    step A client w (.answer fs.length message) =
      some { w with
        app := showList w.app captured fs data
        links := relink (w.links.eraseIdx fs.length) (showList w.app captured fs data) } := by
  have hrest : w.app.inFlight.eraseIdx fs.length = fs := by
    rw [hasked.inFlight, List.eraseIdx_append_of_length_le (Nat.le_refl _), Nat.sub_self]
    exact List.append_nil fs
  have happ : Dashboard.step w.app (.arrive fs.length (.plugins (some data))) =
      some (showList w.app captured fs data) := by
    refine step_of_act (act_arrive.mpr ⟨_, hasked.getElem?_inFlight, rfl, ?_⟩) ?_
    · rw [hrest]
      rfl
    · exact selectedID_fetchPluginsReply _ data hcaptured
  have hresponse : w.response fs.length = some (.plugins data) := by
    unfold World.response
    rw [hasked.getElem?_links]
    dsimp only
    rw [hdone]
  unfold step
  dsimp only
  rw [hasked.getElem?_inFlight, hresponse]
  dsimp only
  unfold World.arrive
  show (Dashboard.step w.app (.arrive fs.length (.plugins (some data)))).map _ = _
  rw [happ]
  rfl

/-! ## At rest -/

/-- The dashboard lists the rows of the table. -/
def ListsTable (w : World M) : Prop :=
  w.app.plugins.Perm (w.server.db.plugins.rows.map encodePlugin)

/-- The selected plugin is its row, unless that was deleted. -/
def SelectsRow (w : World M) : Prop :=
  ∀ p, w.app.selectedPlugin = some p → ∀ row ∈ w.server.db.plugins.rows, row.id = p.id →
    p = encodePlugin row

/-- What the page and the server do by themselves, and a refresh. -/
def Move.Unattended : Move → Prop
  | .serve e => e.action.isInternal ∧ e.env.repoFails = false
  | .act a => a = .apiTick ∨ a = .refresh
  | .deliver _ _ env => env.repoFails = false
  | .answer _ _ => True
  | .lose _ _ => False

theorem asksList_of (app : App) {a : Dashboard.Action} (ha : a = .apiTick ∨ a = .refresh) :
    ∃ captured, AsksList app a captured ∧ (captured = none ∨ captured = app.selectedPlugin) ∧
      (a = .refresh → captured = app.selectedPlugin) := by
  rcases ha with rfl | rfl
  · exact ⟨none, .apiTick, .inl rfl, nofun⟩
  · exact ⟨app.selectedPlugin, .refresh, .inr rfl, fun _ => rfl⟩

/-- The rows, as they are listed. -/
theorem mem_listed (hreads : Reads A.repo.toRepository) {db : Database} {plugins : Slice Plugin}
    (hread : A.repo.listPlugins db = .ok plugins) {p : Plugin} :
    p ∈ (plugins.getD []).map encodePlugin ↔ ∃ row ∈ db.plugins.rows, encodePlugin row = p := by
  have hperm : ((plugins.getD []).map encodePlugin).Perm (db.plugins.rows.map encodePlugin) :=
    hreads.listPlugins hread
  rw [hperm.mem_iff, List.mem_map]

/-- A refresh selects the row. -/
theorem selectsRow_showList (hreads : Reads A.repo.toRepository) {app : App} {db : Database}
    {plugins : Slice Plugin} (hread : A.repo.listPlugins db = .ok plugins) (fs : List Fetch)
    {p row : Plugin} (hrow : row ∈ db.plugins.rows) (hid : row.id = p.id)
    (hselected : (showList app app.selectedPlugin fs
      ((plugins.getD []).map encodePlugin)).selectedPlugin = some p) : p = encodePlugin row := by
  have hcases := selected_fetchPluginsReply { app with inFlight := fs } app.selectedPlugin
    ((plugins.getD []).map encodePlugin)
  rcases hcases with ⟨hsame, hmissing⟩ | ⟨p', q, -, hq, -, hfound⟩
  · have hlisted := (mem_listed hreads hread).mpr ⟨row, hrow, rfl⟩
    exact absurd hid (hmissing p (hsame.symm.trans hselected) (encodePlugin row) hlisted)
  · cases hfound.symm.trans hselected
    obtain ⟨row', hrow', rfl⟩ := (mem_listed hreads hread).mp hq
    have hfind := Table.find?_of_mem hrow
    have hkey : db.plugins.find? row.id = some row' := hid ▸ Table.find?_of_mem hrow'
    rw [hfind] at hkey
    cases hkey
    rfl

/-- From wherever a session has come without failing calls and restarts, the goroutines can go on
    to rest, and the next list that the page asks for shows the table: every row as it is, settled
    by its latest source. -/
theorem catches_up (A : Platform M σ) (client : Client) (hR : Reliable A.repo.toRepository)
    (hreads : Reads A.repo.toRepository)
    (hlists : ∀ db, ∃ plugins, A.repo.listPlugins db = .ok plugins) {inputPayload : String}
    {ms : List Move} (hquiet : ∀ m ∈ ms, m.Quiet)
    (hrun : run (step A client) (World.start M inputPayload) ms = some w)
    (a : Dashboard.Action) (ha : a = .apiTick ∨ a = .refresh) :
    ∃ ns v, (∀ n ∈ ns, n.Unattended) ∧ .act a ∈ ns ∧ run (step A client) w ns = some v ∧
      Drained v.server ∧ (∀ p ∈ v.server.db.plugins.rows, Settled A.toolchain p) ∧
      ListsTable v ∧ (a = .refresh → SelectsRow v) := by
  have hlength := (truthful_run hreads hrun).linked.length
  obtain ⟨es, hes, hserver⟩ := run_server_quiet hquiet hrun
  obtain ⟨gs, t, hgs, hrest, ht, hdrained, -⟩ := settles hR (settling_run hR hes hserver)
  obtain ⟨rid, hrid⟩ := Infinite.exists_notMem_finset (requestIds es)
  obtain ⟨plugins, hread⟩ := hlists t.db
  obtain ⟨captured, hasks, hcaptured, hrefresh⟩ := asksList_of w.app ha
  let n := w.app.inFlight.length
  let env : Env := ⟨false, "", 0, .quiet⟩
  let data := (plugins.getD []).map encodePlugin
  let rested : World M := { w with server := t }
  let asked : World M :=
    { rested with
      app := w.app.send (.fetchPlugins false captured), links := w.links ++ [.unsent] }
  let received : World M :=
    { asked with server := listed rid plugins t, links := w.links ++ [.sent rid] }
  let shown : World M :=
    { received with
      app := showList asked.app captured w.app.inFlight data
      links := relink (received.links.eraseIdx n)
        (showList asked.app captured w.app.inFlight data) }
  have hasked : step A client rested (.act a) = some asked := step_asks hasks hlength
  have hreceived : step A client asked (.deliver n rid env) = some received :=
    step_deliver_list ⟨hlength, rfl, rfl⟩ (ht.handlers rid hrid) rfl hread
  have hlast : AskedLast received captured w.app.inFlight w.links (.sent rid) :=
    ⟨hlength, rfl, rfl⟩
  have hdone : received.server.handlers rid = some ⟨none, .done (.plugins data)⟩ :=
    (handlers_put rid none _ rid).trans (if_pos rfl)
  have hanswered : step A client received (.answer n "") = some shown :=
    step_answer_list hlast hcaptured hdone ""
  have hrun' : run (step A client) w (gs.map .serve ++
      [.act a, .deliver n rid env, .answer n ""]) = some shown :=
    run_append_iff.mpr ⟨rested, run_serve hrest, run_cons_iff.mpr ⟨asked, hasked,
      run_cons_iff.mpr ⟨received, hreceived, run_cons_iff.mpr ⟨shown, hanswered, rfl⟩⟩⟩⟩
  refine ⟨_, shown, fun m hm => ?_, List.mem_append_right _ List.mem_cons_self, hrun',
    drained_listed hdrained plugins, fun p hp => settled_of_drained ht hdrained hp, ?_, ?_⟩
  · rcases List.mem_append.mp hm with hserve | hlast
    · obtain ⟨e, he, rfl⟩ := List.mem_map.mp hserve
      exact hgs e he
    · simp only [List.mem_cons, List.not_mem_nil, or_false] at hlast
      rcases hlast with rfl | rfl | rfl
      · exact ha
      · rfl
      · trivial
  · have hshown : shown.app.plugins = data := plugins_fetchPluginsReply _ captured data
    unfold ListsTable
    rw [hshown]
    exact hreads.listPlugins hread
  · intro hr p hselected row hrow hid
    have hshown : (showList asked.app captured w.app.inFlight data).selectedPlugin = some p :=
      hselected
    rw [hrefresh hr] at hshown
    exact selectsRow_showList hreads hread _ hrow hid hshown

/-- The answer to the creation has not arrived, and the plugin is not built yet. -/
theorem catches_up_created :
    ∃ w ns v, run (step .small .small) (World.start Bytes "") createInSession = some w ∧
      w.app.plugins = [] ∧ run (step .small .small) w ns = some v ∧ ListsTable v ∧ SelectsRow v ∧
      ∀ p ∈ v.server.db.plugins.rows, Settled Platform.small.toolchain p := by
  have hquiet : ∀ m ∈ createInSession, m.Quiet := by
    intro m hm
    simp only [createInSession, List.mem_cons, List.not_mem_nil, or_false] at hm
    rcases hm with rfl | rfl | rfl | rfl
    · trivial
    · trivial
    · rfl
    · exact ⟨rfl, nofun⟩
  obtain ⟨w, hrun, hplugins⟩ : ∃ w, run (step .small .small) (World.start Bytes "")
    createInSession = some w ∧ w.app.plugins = [] := ⟨_, rfl, rfl⟩
  obtain ⟨ns, v, -, -, hrun', -, hsettled, hlists, hselects⟩ := catches_up .small .small
    (sqlite_reliable _ _) (sqlite_reads _ _) (sqlite_lists _ _) hquiet hrun .refresh (.inr rfl)
  exact ⟨w, ns, v, hrun, hplugins, hrun', hlists, hselects rfl, hsettled⟩

end PluginSandbox.Session
