/-
  What the dashboard shows, as a machine of its own.

  The selection, the editor and the results (`View`) are changed by a few writes (`Write`).
  Which of them a step makes follows from the action, and for an answer from the request and
  the reply alone (`Fetch.writes`): an answer does not look at the current selection.
  `step_view` says that the component does what the machine does, and `step_inFlight` which
  requests a step sends.
-/
import PluginSandbox.Dashboard.App

namespace PluginSandbox.Dashboard

open PluginSandbox.Lib PluginSandbox.Db PluginSandbox.Server

/-! ## The machine -/

structure View where
  selectedPlugin : Option Plugin
  draft : Draft
  execResult : Option RunResult
  metricsData : List Execution

def View.empty : View := ⟨none, .empty, none, []⟩

def View.selectedID (v : View) : Option String := v.selectedPlugin.map Plugin.id

inductive Write where
  | none
  /-- Selects a plugin and loads it into the editor. -/
  | select (plugin : Plugin)
  /-- Selects a plugin and leaves the editor and the results. -/
  | reselect (plugin : Plugin)
  | deselect
  | edit (pluginName editorCode : String)
  | clearResult
  | result (result : RunResult)
  /-- The executions of the plugin `id`. -/
  | metrics (id : String) (metricsData : List Execution)

def View.write (v : View) : Write → View
  | .none => v
  | .select plugin => ⟨some plugin, .load plugin, .none, []⟩
  | .reselect plugin => { v with selectedPlugin := some plugin }
  | .deselect => .empty
  | .edit pluginName editorCode =>
    match v.selectedPlugin with
    | .none => v
    | some plugin =>
      { v with
        draft := ⟨pluginName, editorCode, v.draft.loadedFrom, plugin.id :: v.draft.editedUnder⟩ }
  | .clearResult => { v with execResult := .none }
  | .result result => { v with execResult := some result }
  | .metrics _ metricsData => { v with metricsData }

/-- An edit changes the draft alone. -/
theorem write_edit (v : View) (pluginName editorCode : String) :
    ∃ draft, v.write (.edit pluginName editorCode) = { v with draft } := by
  unfold View.write
  dsimp only
  split
  · exact ⟨v.draft, rfl⟩
  · exact ⟨_, rfl⟩

/-! ## What a step writes -/

def updatedWrites (selectedPlugin : Option Plugin) (data : List Plugin) : Write :=
  match selectedPlugin with
  | none => .none
  | some plugin =>
    match data.find? fun p => p.id == plugin.id with
    | none => .none
    | some updated => .reselect updated

def pluginsWrites (selectFirst : Bool) (selectedPlugin : Option Plugin) (data : List Plugin) :
    Write :=
  match selectFirst, data with
  | true, first :: _ => .select first
  | _, _ => updatedWrites selectedPlugin data

def deletedWrites (id : String) (selectedPlugin : Option Plugin) : Write :=
  if selectedPlugin.map Plugin.id = some id then .deselect else .none

def polledWrites (id : String) (selectedPlugin : Option Plugin) (plugin : Plugin) : Write :=
  if plugin.status = "pending" then .none
  else if selectedPlugin.map Plugin.id = some id then .reselect plugin
  else .none

/-- What the answer to a request writes. -/
def Fetch.writes : Fetch → Reply → Write
  | .fetchPlugins selectFirst selectedPlugin, .plugins data =>
    pluginsWrites selectFirst selectedPlugin (data.getD [])
  | .fetchMetrics id, .executions (some data) => .metrics id data.reverse
  | .handleCreatePlugin _ _ _, .plugin created => .select created
  | .handleSaveAndCompile _ _, .plugin updated => .reselect updated
  | .handleDeletePlugin id selectedPlugin, .deleted => deletedWrites id selectedPlugin
  | .handleRunExecution selectedPlugin _, .ran data => .result ⟨selectedPlugin.id, data⟩
  | .handleRunExecution selectedPlugin _, .failed message =>
    .result ⟨selectedPlugin.id, App.executionError message⟩
  | .startPolling _ id selectedPlugin, .plugin plugin => polledWrites id selectedPlugin plugin
  | _, _ => .none

def Action.writes (s : App) : Action → Write
  | .select plugin => .select plugin
  | .setPluginName pluginName => .edit pluginName s.draft.editorCode
  | .setEditorCode editorCode => .edit s.draft.pluginName editorCode
  | .loadTemplate code => .edit s.draft.pluginName code
  | .run => .clearResult
  | .arrive i reply =>
    match s.inFlight[i]? with
    | none => .none
    | some f => f.writes reply
  | _ => .none

/-! ## The component makes these writes -/

def App.view (s : App) : View := ⟨s.selectedPlugin, s.draft, s.execResult, s.metricsData⟩

namespace App

variable (s : App)

@[simp] theorem view_startPolling (id : String) (selectedPlugin : Option Plugin) :
    (s.startPolling id selectedPlugin).view = s.view := by
  unfold startPolling
  cases s.pollingRef id <;> rfl

@[simp] theorem view_selectionEffect (before : App) :
    (before.selectionEffect s).view = s.view := by
  unfold selectionEffect
  split
  · rfl
  · split
    · rfl
    · split
      · rw [view_startPolling]
        rfl
      · rfl

theorem view_selectUpdated (selectedPlugin : Option Plugin) (data : List Plugin) :
    (s.selectUpdated selectedPlugin data).view =
      s.view.write (updatedWrites selectedPlugin data) := by
  unfold selectUpdated updatedWrites
  cases selectedPlugin with
  | none => rfl
  | some plugin =>
      dsimp only
      cases data.find? fun p => p.id == plugin.id <;> rfl

theorem view_fetchPluginsReply (selectFirst : Bool) (selectedPlugin : Option Plugin)
    (data : List Plugin) :
    (s.fetchPluginsReply selectFirst selectedPlugin data).view =
      s.view.write (pluginsWrites selectFirst selectedPlugin data) := by
  unfold fetchPluginsReply pluginsWrites
  cases selectFirst with
  | false => exact view_selectUpdated _ selectedPlugin data
  | true =>
      cases data with
      | nil => exact view_selectUpdated _ selectedPlugin []
      | cons first rest => rfl

theorem view_startPollingReply (interval : Nat) (id : String) (selectedPlugin : Option Plugin)
    (plugin : Plugin) :
    (s.startPollingReply interval id selectedPlugin plugin).view =
      s.view.write (polledWrites id selectedPlugin plugin) := by
  unfold startPollingReply polledWrites
  split
  · rfl
  · split <;> rfl

theorem view_handleDeletePluginReply (id : String) (selectedPlugin : Option Plugin) :
    (s.handleDeletePluginReply id selectedPlugin).view =
      s.view.write (deletedWrites id selectedPlugin) := by
  unfold handleDeletePluginReply deletedWrites
  split <;> rfl

/-- An answer writes the same whatever is selected when it arrives. -/
theorem view_settle (f : Fetch) (reply : Reply) :
    (s.settle f reply).view = s.view.write (f.writes reply) := by
  cases f with
  | fetchPlugins selectFirst selectedPlugin =>
      cases reply with
      | plugins data => exact s.view_fetchPluginsReply selectFirst selectedPlugin (data.getD [])
      | _ => rfl
  | fetchMetrics id =>
      cases reply with
      | executions data => cases data <;> rfl
      | _ => rfl
  | handleCreatePlugin name sourceCode selectedPlugin =>
      cases reply with
      | plugin created => exact view_startPolling _ created.id selectedPlugin
      | _ => rfl
  | handleSaveAndCompile selectedPlugin body =>
      cases reply with
      | plugin updated => exact view_startPolling _ updated.id (some selectedPlugin)
      | _ => rfl
  | handleDeletePlugin id selectedPlugin =>
      cases reply with
      | deleted => exact s.view_handleDeletePluginReply id selectedPlugin
      | _ => rfl
  | handleRunExecution selectedPlugin inputPayload => cases reply <;> rfl
  | startPolling interval id selectedPlugin =>
      cases reply with
      | plugin plugin => exact s.view_startPollingReply interval id selectedPlugin plugin
      | _ => rfl

end App

variable {s t : App} {a : Action}

theorem view_edit (change : Draft → Draft) {pluginName editorCode : String}
    (hchange : change s.draft = ⟨pluginName, editorCode, s.draft.loadedFrom, s.draft.editedUnder⟩)
    (h : s.edit change = some t) : t.view = s.view.write (.edit pluginName editorCode) := by
  obtain ⟨plugin, hplugin, rfl⟩ := edit_iff.mp h
  unfold App.view
  dsimp only
  rw [hchange, hplugin]
  rfl

theorem writes_arrive {i : Nat} {reply : Reply} {f : Fetch} (hf : s.inFlight[i]? = some f) :
    (Action.arrive i reply).writes s = f.writes reply := by
  show (match s.inFlight[i]? with
    | none => Write.none
    | some f => f.writes reply) = f.writes reply
  rw [hf]

theorem view_act (h : act s a = some t) : t.view = s.view.write (a.writes s) := by
  cases a with
  | select plugin =>
      obtain ⟨-, rfl⟩ := act_select.mp h
      rfl
  | setPluginName pluginName => exact view_edit (fun draft => { draft with pluginName }) rfl h
  | setEditorCode editorCode => exact view_edit (fun draft => { draft with editorCode }) rfl h
  | loadTemplate code => exact view_edit (fun draft => { draft with editorCode := code }) rfl h
  | setInputPayload | refresh | create | apiTick =>
      cases h
      rfl
  | save =>
      obtain ⟨plugin, -, -, -, rfl⟩ := act_save.mp h
      rfl
  | delete id =>
      obtain ⟨-, rfl⟩ := act_delete.mp h
      rfl
  | run =>
      obtain ⟨plugin, -, -, -, rfl⟩ := act_run.mp h
      rfl
  | pollTick handle =>
      obtain ⟨i, -, rfl⟩ := act_pollTick.mp h
      rfl
  | arrive i reply =>
      obtain ⟨f, hf, -, rfl⟩ := act_arrive.mp h
      rw [writes_arrive hf]
      exact App.view_settle _ f reply

/-- The component does what the machine does. -/
theorem step_view (h : step s a = some t) : t.view = s.view.write (a.writes s) := by
  obtain ⟨u, hu, rfl⟩ := step_iff.mp h
  rw [App.view_selectionEffect]
  exact view_act hu

/-! ## What an answer writes -/

/-- An answer that selects a plugin and leaves the editor and the results: a refreshed list has
    it again, it was saved, or a poll finds that it is built. -/
inductive Reselects : Fetch → Reply → Plugin → Prop where
  | refreshed (selectFirst : Bool) (plugin updated : Plugin) (data : Slice Plugin)
      (hfirst : selectFirst = true → data.getD [] = [])
      (hfind : (data.getD []).find? (fun p => p.id == plugin.id) = some updated) :
      Reselects (.fetchPlugins selectFirst (some plugin)) (.plugins data) updated
  | saved (plugin updated : Plugin) (body : Draft) :
      Reselects (.handleSaveAndCompile plugin body) (.plugin updated) updated
  | built (interval : Nat) (plugin updated : Plugin) (hstatus : updated.status ≠ "pending") :
      Reselects (.startPolling interval plugin.id (some plugin)) (.plugin updated) updated

theorem updatedWrites_iff {selectedPlugin : Option Plugin} {data : List Plugin}
    {updated : Plugin} :
    updatedWrites selectedPlugin data = .reselect updated ↔
      ∃ plugin, selectedPlugin = some plugin ∧
        data.find? (fun p => p.id == plugin.id) = some updated := by
  unfold updatedWrites
  cases selectedPlugin with
  | none => simp
  | some plugin => cases hfind : data.find? (fun p => p.id == plugin.id) <;> simp [hfind]

theorem pluginsWrites_iff {selectFirst : Bool} {selectedPlugin : Option Plugin}
    {data : List Plugin} {updated : Plugin} :
    pluginsWrites selectFirst selectedPlugin data = .reselect updated ↔
      (selectFirst = true → data = []) ∧ updatedWrites selectedPlugin data = .reselect updated := by
  unfold pluginsWrites
  cases selectFirst with
  | false => simp
  | true => cases data <;> simp

theorem polledWrites_iff {id : String} {selectedPlugin : Option Plugin} {plugin updated : Plugin} :
    polledWrites id selectedPlugin plugin = .reselect updated ↔
      plugin = updated ∧ plugin.status ≠ "pending" ∧ selectedPlugin.map Plugin.id = some id := by
  unfold polledWrites
  split
  · simp [*]
  · split <;> simp [*]

theorem writes_reselect_iff {f : Fetch} {reply : Reply} {updated : Plugin} :
    f.writes reply = .reselect updated ↔ Reselects f reply updated := by
  constructor
  · intro h
    unfold Fetch.writes at h
    split at h
    · next selectFirst selectedPlugin data =>
        obtain ⟨hfirst, hupdated⟩ := pluginsWrites_iff.mp h
        obtain ⟨plugin, rfl, hfind⟩ := updatedWrites_iff.mp hupdated
        exact .refreshed selectFirst plugin updated data hfirst hfind
    · cases h
    · cases h
    · cases h
      exact .saved _ _ _
    · unfold deletedWrites at h
      split at h <;> cases h
    · cases h
    · cases h
    · next interval id selectedPlugin plugin =>
        obtain ⟨rfl, hstatus, hselected⟩ := polledWrites_iff.mp h
        obtain ⟨before, rfl, rfl⟩ := Option.map_eq_some_iff.mp hselected
        exact .built interval before plugin hstatus
    · cases h
  · intro h
    cases h with
    | refreshed selectFirst plugin updated data hfirst hfind =>
        exact pluginsWrites_iff.mpr ⟨hfirst, updatedWrites_iff.mpr ⟨plugin, rfl, hfind⟩⟩
    | saved => rfl
    | built interval plugin updated hstatus => exact polledWrites_iff.mpr ⟨rfl, hstatus, rfl⟩

/-- Only an answer selects without loading. -/
theorem reselect_iff {updated : Plugin} :
    a.writes s = .reselect updated ↔
      ∃ i reply f, a = .arrive i reply ∧ s.inFlight[i]? = some f ∧ Reselects f reply updated := by
  constructor
  · intro h
    cases a with
    | arrive i reply =>
        unfold Action.writes at h
        dsimp only at h
        split at h
        · cases h
        · next f hf => exact ⟨i, reply, f, rfl, hf, writes_reselect_iff.mp h⟩
    | _ => cases h
  · rintro ⟨i, reply, f, rfl, hf, h⟩
    rw [writes_arrive hf]
    exact writes_reselect_iff.mpr h

/-- Only the answer to a metrics request writes metrics. -/
theorem metrics_answer {f : Fetch} {reply : Reply} {id : String} {metricsData : List Execution}
    (h : f.writes reply = .metrics id metricsData) :
    f = .fetchMetrics id ∧
      ∃ data, reply = .executions (some data) ∧ metricsData = data.reverse := by
  unfold Fetch.writes pluginsWrites updatedWrites deletedWrites polledWrites at h
  grind

/-- Only the answer to an execute request writes a result. -/
theorem result_answer {f : Fetch} {reply : Reply} {r : RunResult}
    (h : f.writes reply = .result r) :
    ∃ plugin inputPayload, f = .handleRunExecution plugin inputPayload ∧
      r.pluginID = plugin.id := by
  unfold Fetch.writes pluginsWrites updatedWrites deletedWrites polledWrites at h
  grind

/-- Metrics are answered with executions of the plugin that was asked for. -/
theorem step_owned {id : String} {metricsData : List Execution} (h : step s a = some t)
    (hwrites : a.writes s = .metrics id metricsData) : ∀ x ∈ metricsData, x.pluginID = id := by
  cases a with
  | arrive i reply =>
      obtain ⟨u, hu, -⟩ := step_iff.mp h
      obtain ⟨f, hf, hanswered, -⟩ := act_arrive.mp hu
      rw [writes_arrive hf] at hwrites
      obtain ⟨rfl, data, rfl, rfl⟩ := metrics_answer hwrites
      intro x hx
      have hall := List.all_eq_true.mp hanswered x (List.mem_reverse.mp hx)
      exact beq_iff_eq.mp hall
  | _ => cases hwrites

/-! ## Requests in flight -/

/-- The requests that a step may send. -/
inductive Sends (s : App) : Action → Fetch → Prop where
  | metrics (a : Action) (id : String) : Sends s a (.fetchMetrics id)
  | refresh : Sends s .refresh (.fetchPlugins false s.selectedPlugin)
  | apiTick : Sends s .apiTick (.fetchPlugins false none)
  | create (name sourceCode : String) :
      Sends s (.create name sourceCode) (.handleCreatePlugin name sourceCode s.selectedPlugin)
  | save (plugin : Plugin) (hselected : s.selectedPlugin = some plugin) :
      Sends s .save (.handleSaveAndCompile plugin s.draft)
  | delete (id : String) : Sends s (.delete id) (.handleDeletePlugin id s.selectedPlugin)
  | run (plugin : Plugin) : Sends s .run (.handleRunExecution plugin s.inputPayload)
  | poll (interval : Interval) (hlive : interval ∈ s.intervals) :
      Sends s (.pollTick interval.handle)
        (.startPolling interval.handle interval.id interval.selectedPlugin)

namespace App

variable (s : App)

theorem mem_send {f g : Fetch} (hg : g ∈ (s.send f).inFlight) : g ∈ s.inFlight ∨ g = f := by
  rcases List.mem_append.mp hg with hold | hnew
  · exact .inl hold
  · exact .inr (List.mem_singleton.mp hnew)

theorem inFlight_startPolling (id : String) (selectedPlugin : Option Plugin) :
    (s.startPolling id selectedPlugin).inFlight = s.inFlight := by
  unfold startPolling
  cases s.pollingRef id <;> rfl

theorem inFlight_selectionEffect (before : App) :
    (before.selectionEffect s).inFlight = s.inFlight := by
  unfold selectionEffect
  split
  · rfl
  · split
    · rfl
    · split
      · rw [inFlight_startPolling]
      · rfl

theorem inFlight_edit {s t : App} (change : Draft → Draft) (h : s.edit change = some t) :
    t.inFlight = s.inFlight := by
  obtain ⟨plugin, -, rfl⟩ := edit_iff.mp h
  rfl

theorem inFlight_selectUpdated (selectedPlugin : Option Plugin) (data : List Plugin) :
    (s.selectUpdated selectedPlugin data).inFlight = s.inFlight := by
  unfold selectUpdated
  split
  · rfl
  · split <;> rfl

theorem inFlight_startPollingReply (interval : Nat) (id : String) (selectedPlugin : Option Plugin)
    (plugin : Plugin) :
    (s.startPollingReply interval id selectedPlugin plugin).inFlight = s.inFlight := by
  unfold startPollingReply
  split
  · rfl
  · dsimp only
    split <;> rfl

theorem inFlight_handleDeletePluginReply (id : String) (selectedPlugin : Option Plugin) :
    (s.handleDeletePluginReply id selectedPlugin).inFlight = s.inFlight := by
  unfold handleDeletePluginReply
  dsimp only
  split <;> rfl

theorem mem_handleSelectPlugin (plugin : Plugin) {g : Fetch}
    (hg : g ∈ (s.handleSelectPlugin plugin).inFlight) :
    g ∈ s.inFlight ∨ g = .fetchMetrics plugin.id :=
  mem_send _ hg

theorem mem_fetchPluginsReply (selectFirst : Bool) (selectedPlugin : Option Plugin)
    (data : List Plugin) {g : Fetch}
    (hg : g ∈ (s.fetchPluginsReply selectFirst selectedPlugin data).inFlight) :
    g ∈ s.inFlight ∨ ∃ id, g = .fetchMetrics id := by
  unfold fetchPluginsReply at hg
  dsimp only at hg
  split at hg
  · exact (mem_handleSelectPlugin _ _ hg).imp_right fun h => ⟨_, h⟩
  · rw [inFlight_selectUpdated] at hg
    exact .inl hg

/-- What follows an answer sends requests for metrics only. -/
theorem mem_settle (f : Fetch) (reply : Reply) {g : Fetch} (hg : g ∈ (s.settle f reply).inFlight) :
    g ∈ s.inFlight ∨ ∃ id, g = .fetchMetrics id := by
  cases f with
  | fetchPlugins selectFirst selectedPlugin =>
      cases reply with
      | plugins data => exact mem_fetchPluginsReply s selectFirst selectedPlugin _ hg
      | _ => exact .inl hg
  | fetchMetrics id =>
      cases reply with
      | executions data => cases data <;> exact .inl hg
      | _ => exact .inl hg
  | handleCreatePlugin name sourceCode selectedPlugin =>
      cases reply with
      | plugin created =>
          have hstart := inFlight_startPolling
            ({ s with plugins := created :: s.plugins }.handleSelectPlugin created) created.id
            selectedPlugin
          have hselect : g ∈ ({ s with plugins := created :: s.plugins }.handleSelectPlugin
              created).inFlight := hstart ▸ hg
          exact (mem_handleSelectPlugin _ created hselect).imp_right fun h => ⟨_, h⟩
      | _ => exact .inl hg
  | handleSaveAndCompile selectedPlugin body =>
      cases reply with
      | plugin updated =>
          have hstart := inFlight_startPolling
            ({ s with selectedPlugin := some updated }.replacePlugin updated.id updated) updated.id
            (some selectedPlugin)
          have hsave : g ∈ ({ s with selectedPlugin := some updated }.replacePlugin updated.id
              updated).inFlight := hstart ▸ hg
          exact .inl hsave
      | _ => exact .inl hg
  | handleDeletePlugin id selectedPlugin =>
      cases reply with
      | deleted => exact .inl (s.inFlight_handleDeletePluginReply id selectedPlugin ▸ hg)
      | _ => exact .inl hg
  | handleRunExecution selectedPlugin inputPayload =>
      cases reply with
      | ran data =>
          exact (mem_send { s with execResult := some ⟨selectedPlugin.id, data⟩ } hg).imp_right
            fun h => ⟨_, h⟩
      | _ => exact .inl hg
  | startPolling interval id selectedPlugin =>
      cases reply with
      | plugin plugin =>
          exact .inl (s.inFlight_startPollingReply interval id selectedPlugin plugin ▸ hg)
      | _ => exact .inl hg

end App

theorem sends_send {u : App} {f g : Fetch} (hg : g ∈ (u.send f).inFlight)
    (hu : u.inFlight = s.inFlight) (hf : Sends s a f) : g ∈ s.inFlight ∨ Sends s a g := by
  rcases App.mem_send u hg with hold | rfl
  · exact .inl (hu ▸ hold)
  · exact .inr hf

/-- Every request in flight was in flight or is sent by the step. -/
theorem step_inFlight (h : step s a = some t) : ∀ f ∈ t.inFlight, f ∈ s.inFlight ∨ Sends s a f := by
  obtain ⟨u, hu, rfl⟩ := step_iff.mp h
  rw [App.inFlight_selectionEffect]
  intro f hf
  cases a with
  | select plugin =>
      obtain ⟨-, rfl⟩ := act_select.mp hu
      exact sends_send hf rfl (.metrics _ plugin.id)
  | setPluginName pluginName =>
      exact .inl (App.inFlight_edit (fun draft => { draft with pluginName }) hu ▸ hf)
  | setEditorCode editorCode =>
      exact .inl (App.inFlight_edit (fun draft => { draft with editorCode }) hu ▸ hf)
  | loadTemplate code =>
      exact .inl (App.inFlight_edit (fun draft => { draft with editorCode := code }) hu ▸ hf)
  | setInputPayload =>
      cases hu
      exact .inl hf
  | refresh =>
      cases hu
      exact sends_send hf rfl .refresh
  | apiTick =>
      cases hu
      exact sends_send hf rfl .apiTick
  | create name sourceCode =>
      cases hu
      exact sends_send hf rfl (.create name sourceCode)
  | save =>
      obtain ⟨plugin, hplugin, -, -, rfl⟩ := act_save.mp hu
      exact sends_send hf rfl (.save plugin hplugin)
  | delete id =>
      obtain ⟨-, rfl⟩ := act_delete.mp hu
      exact sends_send hf rfl (.delete id)
  | run =>
      obtain ⟨plugin, -, -, -, rfl⟩ := act_run.mp hu
      exact sends_send hf rfl (.run plugin)
  | pollTick handle =>
      obtain ⟨interval, hfind, rfl⟩ := act_pollTick.mp hu
      have hmatch := List.find?_some hfind
      have hhandle : interval.handle = handle := beq_iff_eq.mp hmatch
      subst hhandle
      exact sends_send hf rfl (.poll interval (List.mem_of_find?_eq_some hfind))
  | arrive i reply =>
      obtain ⟨g, -, -, rfl⟩ := act_arrive.mp hu
      rcases App.mem_settle _ g reply hf with hold | ⟨id, rfl⟩
      · exact .inl (List.mem_of_mem_eraseIdx hold)
      · exact .inr (.metrics _ id)

/-- The plugin and the texts of a `PUT`. -/
def Fetch.put? : Fetch → Option (Plugin × Draft)
  | .handleSaveAndCompile plugin body => some (plugin, body)
  | _ => none

def App.puts (s : App) : List (Plugin × Draft) := s.inFlight.filterMap Fetch.put?

/-- A new `PUT` carries the draft to the selected plugin. -/
theorem step_puts (h : step s a = some t) : ∀ put ∈ t.puts, put ∈ s.puts ∨
    ∃ plugin, s.selectedPlugin = some plugin ∧ put = (plugin, s.draft) := by
  intro put hput
  obtain ⟨f, hf, hfput⟩ := List.mem_filterMap.mp hput
  rcases step_inFlight h f hf with hold | hsends
  · exact .inl (List.mem_filterMap.mpr ⟨f, hold, hfput⟩)
  · cases hsends with
    | save plugin hselected => exact .inr ⟨plugin, hselected, (Option.some.inj hfput).symm⟩
    | _ => cases hfput

end PluginSandbox.Dashboard
