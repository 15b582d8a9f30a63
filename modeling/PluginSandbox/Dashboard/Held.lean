/-
  What the dashboard holds on to.

  Plugins are in the list, in the selection, and in what runs later: a request in flight and an
  interval keep the `selectedPlugin` of their render. Executions and a result are shown. All of it
  came with an answer. `heldIn_step` says so for anything that may be known of answers
  (`Known`): a step keeps it when the answer it handles, if any, has it.

  The payload of a run is the one that stood in the editor, and only typing changes that
  (`step_inputPayload`). `step_sends` gives the requests in flight in order: a step drops the
  one that was answered and appends its own.
-/
import PluginSandbox.Dashboard.View

namespace PluginSandbox.Dashboard

open PluginSandbox.Lib PluginSandbox.Db PluginSandbox.Server

/-! ## What is held -/

/-- What is known of the plugins, the executions and the results of a plugin that arrive. -/
structure Known where
  plugin : Plugin → Prop
  execution : Execution → Prop
  result : String → ExecuteResponse → Prop

/-- The `selectedPlugin` of the render that sent the request. -/
def Fetch.selectedPlugin : Fetch → Option Plugin
  | .fetchPlugins _ selectedPlugin => selectedPlugin
  | .fetchMetrics _ => none
  | .handleCreatePlugin _ _ selectedPlugin => selectedPlugin
  | .handleSaveAndCompile selectedPlugin _ => some selectedPlugin
  | .handleDeletePlugin _ selectedPlugin => selectedPlugin
  | .handleRunExecution selectedPlugin _ => some selectedPlugin
  | .startPolling _ _ selectedPlugin => selectedPlugin

structure HeldIn (K : Known) (s : App) : Prop where
  plugins : ∀ p ∈ s.plugins, K.plugin p
  selected : ∀ p, s.selectedPlugin = some p → K.plugin p
  inFlight : ∀ f ∈ s.inFlight, ∀ p, f.selectedPlugin = some p → K.plugin p
  intervals : ∀ i ∈ s.intervals, ∀ p, i.selectedPlugin = some p → K.plugin p
  metrics : ∀ x ∈ s.metricsData, K.execution x
  result : ∀ r, s.execResult = some r →
    (∃ message, r.response = App.executionError message) ∨ K.result r.pluginID r.response

/-- What an answer to `f` brings is known. -/
def Reply.Brings (K : Known) (f : Fetch) : Reply → Prop
  | .failed _ => True
  | .plugins data => ∀ p ∈ data.getD [], K.plugin p
  | .executions data => ∀ x ∈ data.getD [], K.execution x
  | .plugin p => K.plugin p
  | .deleted => True
  | .ran data => ∀ p inputPayload, f = .handleRunExecution p inputPayload → K.result p.id data

variable {K : Known} {s t : App} {a : Action}

theorem heldIn_mounted (K : Known) (inputPayload : String) : HeldIn K (.mounted inputPayload) where
  plugins := nofun
  selected := nofun
  inFlight f hf p hp := by
    obtain rfl := List.mem_singleton.mp hf
    cases hp
  intervals := nofun
  metrics := nofun
  result := nofun

theorem heldIn_mono {K' : Known} (hplugin : ∀ p, K.plugin p → K'.plugin p)
    (hexecution : ∀ x, K.execution x → K'.execution x)
    (hresult : ∀ id data, K.result id data → K'.result id data) (h : HeldIn K s) : HeldIn K' s where
  plugins p hp := hplugin p (h.plugins p hp)
  selected p hp := hplugin p (h.selected p hp)
  inFlight f hf p hp := hplugin p (h.inFlight f hf p hp)
  intervals i hi p hp := hplugin p (h.intervals i hi p hp)
  metrics x hx := hexecution x (h.metrics x hx)
  result r hr := (h.result r hr).imp_right (hresult r.pluginID r.response)

namespace App

theorem heldIn_send (h : HeldIn K s) {f : Fetch}
    (hf : ∀ p, f.selectedPlugin = some p → K.plugin p) : HeldIn K (s.send f) where
  plugins := h.plugins
  selected := h.selected
  inFlight g hg := by
    rcases mem_send s hg with hold | rfl
    · exact h.inFlight g hold
    · exact hf
  intervals := h.intervals
  metrics := h.metrics
  result := h.result

theorem heldIn_clearInterval (h : HeldIn K s) (handle : Nat) : HeldIn K (s.clearInterval handle) :=
  { h with intervals := fun i hi => h.intervals i (List.mem_filter.mp hi).1 }

theorem heldIn_startInterval (h : HeldIn K s) (id : String) {selectedPlugin : Option Plugin}
    (hselected : ∀ p, selectedPlugin = some p → K.plugin p) :
    HeldIn K (s.startInterval id selectedPlugin) :=
  { h with
    intervals := fun i hi => by
      rcases List.mem_append.mp hi with hold | hnew
      · exact h.intervals i hold
      · obtain rfl := List.mem_singleton.mp hnew
        exact hselected }

theorem heldIn_startPolling (h : HeldIn K s) (id : String) {selectedPlugin : Option Plugin}
    (hselected : ∀ p, selectedPlugin = some p → K.plugin p) :
    HeldIn K (s.startPolling id selectedPlugin) := by
  unfold startPolling
  split
  · exact heldIn_startInterval h id hselected
  · exact heldIn_startInterval (heldIn_clearInterval h _) id hselected

/-- Selecting another plugin that is known. -/
theorem heldIn_selected (h : HeldIn K s) {plugin : Plugin} (hplugin : K.plugin plugin) :
    HeldIn K { s with selectedPlugin := some plugin } :=
  { h with
    selected := fun p hp => by
      cases hp
      exact hplugin }

theorem heldIn_handleSelectPlugin (h : HeldIn K s) {plugin : Plugin} (hplugin : K.plugin plugin) :
    HeldIn K (s.handleSelectPlugin plugin) := by
  have hloaded : HeldIn K { s with
      selectedPlugin := some plugin, draft := .load plugin, execResult := none,
      metricsData := [] } :=
    { heldIn_selected h hplugin with metrics := nofun, result := nofun }
  exact heldIn_send hloaded nofun

theorem heldIn_replacePlugin (h : HeldIn K s) (id : String) {plugin : Plugin}
    (hplugin : K.plugin plugin) : HeldIn K (s.replacePlugin id plugin) :=
  { h with
    plugins := fun p hp => by
      obtain ⟨q, hq, rfl⟩ := List.mem_map.mp hp
      split
      · exact hplugin
      · exact h.plugins q hq }

theorem heldIn_edit (h : HeldIn K s) (change : Draft → Draft) (hedit : s.edit change = some t) :
    HeldIn K t := by
  obtain ⟨plugin, -, rfl⟩ := edit_iff.mp hedit
  exact { h with }

/-! ## Answers -/

theorem heldIn_selectUpdated (h : HeldIn K s) (selectedPlugin : Option Plugin) {data : List Plugin}
    (hdata : ∀ p ∈ data, K.plugin p) : HeldIn K (s.selectUpdated selectedPlugin data) := by
  unfold selectUpdated
  split
  · exact h
  · split
    · exact h
    · next updated hfind =>
        exact heldIn_selected h (hdata updated (List.mem_of_find?_eq_some hfind))

theorem heldIn_fetchPluginsReply (h : HeldIn K s) (selectFirst : Bool)
    (selectedPlugin : Option Plugin) {data : List Plugin} (hdata : ∀ p ∈ data, K.plugin p) :
    HeldIn K (s.fetchPluginsReply selectFirst selectedPlugin data) := by
  have hlist : HeldIn K { s with plugins := data, backendConnected := true } :=
    { h with plugins := hdata }
  unfold fetchPluginsReply
  dsimp only
  split
  · next first rest => exact heldIn_handleSelectPlugin hlist (hdata first List.mem_cons_self)
  · exact heldIn_selectUpdated hlist selectedPlugin hdata

theorem heldIn_handleDeletePluginReply (h : HeldIn K s) (id : String)
    (selectedPlugin : Option Plugin) : HeldIn K (s.handleDeletePluginReply id selectedPlugin) := by
  have hlist : HeldIn K { s with plugins := s.plugins.filter fun p => p.id != id } :=
    { h with plugins := fun p hp => h.plugins p (List.mem_filter.mp hp).1 }
  unfold handleDeletePluginReply
  dsimp only
  split
  · exact { hlist with selected := nofun, metrics := nofun, result := nofun }
  · exact hlist

theorem heldIn_handleRunExecutionReply (h : HeldIn K s) {selectedPlugin : Plugin}
    {data : ExecuteResponse} (hdata : K.result selectedPlugin.id data) :
    HeldIn K (s.handleRunExecutionReply selectedPlugin data) := by
  have hresult : HeldIn K { s with execResult := some ⟨selectedPlugin.id, data⟩ } :=
    { h with
      result := fun r hr => by
        cases hr
        exact .inr hdata }
  exact { heldIn_send (f := .fetchMetrics selectedPlugin.id) hresult nofun with }

theorem heldIn_startPollingReply (h : HeldIn K s) (interval : Nat) (id : String)
    (selectedPlugin : Option Plugin) {plugin : Plugin} (hplugin : K.plugin plugin) :
    HeldIn K (s.startPollingReply interval id selectedPlugin plugin) := by
  have hcleared : HeldIn K { s.clearInterval interval with
      pollingRef := Function.update (s.clearInterval interval).pollingRef id none } :=
    { heldIn_clearInterval h interval with }
  unfold startPollingReply
  split
  · exact h
  · dsimp only
    split
    · have hbuilt : HeldIn K { s.clearInterval interval with
          pollingRef := Function.update (s.clearInterval interval).pollingRef id none
          selectedPlugin := some plugin
          isCompiling := false } :=
        { heldIn_selected hcleared hplugin with }
      exact heldIn_replacePlugin hbuilt id hplugin
    · exact heldIn_replacePlugin hcleared id hplugin

theorem heldIn_settle (h : HeldIn K s) {f : Fetch} {reply : Reply}
    (hf : ∀ p, f.selectedPlugin = some p → K.plugin p) (hreply : reply.Brings K f) :
    HeldIn K (s.settle f reply) := by
  cases f with
  | fetchPlugins selectFirst selectedPlugin =>
      cases reply with
      | plugins data => exact heldIn_fetchPluginsReply h selectFirst selectedPlugin hreply
      | _ => exact { h with }
  | fetchMetrics id =>
      cases reply with
      | executions data =>
          cases data with
          | none => exact h
          | some data =>
              exact { h with metrics := fun x hx => hreply x (List.mem_reverse.mp hx) }
      | _ => exact h
  | handleCreatePlugin name sourceCode selectedPlugin =>
      cases reply with
      | plugin created =>
          have hlist : HeldIn K { s with plugins := created :: s.plugins } :=
            { h with plugins := List.forall_mem_cons.mpr ⟨hreply, h.plugins⟩ }
          exact heldIn_startPolling (heldIn_handleSelectPlugin hlist hreply) created.id hf
      | _ => exact h
  | handleSaveAndCompile selectedPlugin body =>
      cases reply with
      | plugin updated =>
          have hsaved := heldIn_replacePlugin (heldIn_selected h hreply) updated.id hreply
          exact heldIn_startPolling hsaved updated.id hf
      | _ => exact { h with }
  | handleDeletePlugin id selectedPlugin =>
      cases reply with
      | deleted => exact heldIn_handleDeletePluginReply h id selectedPlugin
      | _ => exact h
  | handleRunExecution selectedPlugin inputPayload =>
      cases reply with
      | ran data =>
          exact heldIn_handleRunExecutionReply h (hreply selectedPlugin inputPayload rfl)
      | failed message =>
          exact { h with
            result := fun r hr => by
              cases hr
              exact .inl ⟨message, rfl⟩ }
      | _ => exact h
  | startPolling interval id selectedPlugin =>
      cases reply with
      | plugin plugin => exact heldIn_startPollingReply h interval id selectedPlugin hreply
      | _ => exact h

theorem heldIn_selectionEffect (h : HeldIn K s) (before : App) :
    HeldIn K (before.selectionEffect s) := by
  unfold selectionEffect
  split
  · exact h
  · split
    · exact { h with }
    · next plugin hplugin =>
        split
        · refine heldIn_startPolling ({ h with } : HeldIn K { s with isCompiling := true })
            plugin.id fun p hp => ?_
          cases hp
          exact h.selected plugin hplugin
        · exact { h with }

end App

/-! ## Steps -/

/-- An action brings what is known unless it is an answer that does not. -/
def Action.Brings (K : Known) (s : App) (a : Action) : Prop :=
  ∀ i reply f, a = .arrive i reply → s.inFlight[i]? = some f → reply.Brings K f

theorem heldIn_act (h : HeldIn K s) (hbrings : a.Brings K s) (hact : act s a = some t) :
    HeldIn K t := by
  cases a with
  | select plugin =>
      obtain ⟨hmem, rfl⟩ := act_select.mp hact
      exact App.heldIn_handleSelectPlugin h (h.plugins plugin hmem)
  | setPluginName pluginName =>
      exact App.heldIn_edit h (fun draft => { draft with pluginName }) hact
  | setEditorCode editorCode =>
      exact App.heldIn_edit h (fun draft => { draft with editorCode }) hact
  | loadTemplate code =>
      exact App.heldIn_edit h (fun draft => { draft with editorCode := code }) hact
  | setInputPayload inputPayload =>
      cases hact
      exact { h with }
  | refresh =>
      cases hact
      exact App.heldIn_send h h.selected
  | apiTick =>
      cases hact
      exact App.heldIn_send h nofun
  | create name sourceCode =>
      cases hact
      exact App.heldIn_send h h.selected
  | save =>
      obtain ⟨plugin, hplugin, -, -, rfl⟩ := act_save.mp hact
      refine App.heldIn_send ({ h with } : HeldIn K { s with isCompiling := true }) fun p hp => ?_
      cases hp
      exact h.selected plugin hplugin
  | delete id =>
      obtain ⟨-, rfl⟩ := act_delete.mp hact
      exact App.heldIn_send h h.selected
  | run =>
      obtain ⟨plugin, hplugin, -, -, rfl⟩ := act_run.mp hact
      refine App.heldIn_send
        ({ h with result := nofun } : HeldIn K { s with isRunning := true, execResult := none })
        fun p hp => ?_
      cases hp
      exact h.selected plugin hplugin
  | pollTick handle =>
      obtain ⟨i, hfind, rfl⟩ := act_pollTick.mp hact
      exact App.heldIn_send h (h.intervals i (List.mem_of_find?_eq_some hfind))
  | arrive i reply =>
      obtain ⟨f, hf, -, rfl⟩ := act_arrive.mp hact
      have hrest : HeldIn K { s with inFlight := s.inFlight.eraseIdx i } :=
        { h with inFlight := fun g hg => h.inFlight g (List.mem_of_mem_eraseIdx hg) }
      exact App.heldIn_settle hrest (h.inFlight f (List.mem_of_getElem? hf))
        (hbrings i reply f rfl hf)

/-- A step keeps what is known of everything held. -/
theorem heldIn_step (h : HeldIn K s) (hbrings : a.Brings K s) (hstep : step s a = some t) :
    HeldIn K t := by
  obtain ⟨u, hu, rfl⟩ := step_iff.mp hstep
  exact App.heldIn_selectionEffect (heldIn_act h hbrings hu) s

/-! ## Payloads -/

/-- The payload in the editor, and those that runs were started with. -/
structure PayloadsIn (T : String → Prop) (s : App) : Prop where
  editor : T s.inputPayload
  runs : ∀ plugin inputPayload, .handleRunExecution plugin inputPayload ∈ s.inFlight →
    T inputPayload

namespace App

end App

/-- A run is started with the payload in the editor. -/
theorem payloadsIn_step {T : String → Prop} (hs : PayloadsIn T s) (hnow : T t.inputPayload)
    (h : step s a = some t) : PayloadsIn T t where
  editor := hnow
  runs plugin inputPayload hf := by
    rcases step_inFlight h _ hf with hold | hsent
    · exact hs.runs plugin inputPayload hold
    · cases hsent
      exact hs.editor

/-! ## Requests in order -/

/-- The requests that are still in flight after an answer. -/
def Action.rest (s : App) : Action → List Fetch
  | .arrive i _ => s.inFlight.eraseIdx i
  | _ => s.inFlight

namespace App

theorem settle_sends (s : App) (f : Fetch) (reply : Reply) :
    ∃ new, (s.settle f reply).inFlight = s.inFlight ++ new := by
  have hnone : ∃ new, s.inFlight = s.inFlight ++ new := ⟨[], (List.append_nil _).symm⟩
  cases f with
  | fetchPlugins selectFirst selectedPlugin =>
      cases reply with
      | plugins data =>
          show ∃ new, (s.fetchPluginsReply selectFirst selectedPlugin (data.getD [])).inFlight = _
          unfold fetchPluginsReply
          dsimp only
          split
          · exact ⟨_, rfl⟩
          · rw [inFlight_selectUpdated]
            exact hnone
      | _ => exact hnone
  | fetchMetrics id =>
      cases reply with
      | executions data => cases data <;> exact hnone
      | _ => exact hnone
  | handleCreatePlugin name sourceCode selectedPlugin =>
      cases reply with
      | plugin created =>
          have hstart := inFlight_startPolling
            ({ s with plugins := created :: s.plugins }.handleSelectPlugin created) created.id
            selectedPlugin
          exact ⟨[.fetchMetrics created.id], hstart⟩
      | _ => exact hnone
  | handleSaveAndCompile selectedPlugin body =>
      cases reply with
      | plugin updated =>
          have hstart := inFlight_startPolling
            ({ s with selectedPlugin := some updated }.replacePlugin updated.id updated) updated.id
            (some selectedPlugin)
          exact ⟨[], hstart.trans (List.append_nil _).symm⟩
      | _ => exact hnone
  | handleDeletePlugin id selectedPlugin =>
      cases reply with
      | deleted =>
          exact ⟨[], (s.inFlight_handleDeletePluginReply id selectedPlugin).trans
            (List.append_nil _).symm⟩
      | _ => exact hnone
  | handleRunExecution selectedPlugin inputPayload =>
      cases reply with
      | ran data => exact ⟨[.fetchMetrics selectedPlugin.id], rfl⟩
      | _ => exact hnone
  | startPolling interval id selectedPlugin =>
      cases reply with
      | plugin plugin =>
          exact ⟨[], (s.inFlight_startPollingReply interval id selectedPlugin plugin).trans
            (List.append_nil _).symm⟩
      | _ => exact hnone

end App

/-- A step appends its requests to those that are still in flight. -/
theorem step_sends (h : step s a = some t) : ∃ new, t.inFlight = a.rest s ++ new := by
  obtain ⟨u, hu, rfl⟩ := step_iff.mp h
  rw [App.inFlight_selectionEffect]
  cases a with
  | select plugin =>
      obtain ⟨-, rfl⟩ := act_select.mp hu
      exact ⟨_, rfl⟩
  | setPluginName pluginName =>
      exact ⟨[], (App.inFlight_edit (fun draft => { draft with pluginName }) hu).trans
        (List.append_nil _).symm⟩
  | setEditorCode editorCode =>
      exact ⟨[], (App.inFlight_edit (fun draft => { draft with editorCode }) hu).trans
        (List.append_nil _).symm⟩
  | loadTemplate code =>
      exact ⟨[], (App.inFlight_edit (fun draft => { draft with editorCode := code }) hu).trans
        (List.append_nil _).symm⟩
  | setInputPayload inputPayload =>
      cases hu
      exact ⟨[], (List.append_nil _).symm⟩
  | refresh | apiTick | create =>
      cases hu
      exact ⟨_, rfl⟩
  | save =>
      obtain ⟨plugin, -, -, -, rfl⟩ := act_save.mp hu
      exact ⟨_, rfl⟩
  | delete id =>
      obtain ⟨-, rfl⟩ := act_delete.mp hu
      exact ⟨_, rfl⟩
  | run =>
      obtain ⟨plugin, -, -, -, rfl⟩ := act_run.mp hu
      exact ⟨_, rfl⟩
  | pollTick handle =>
      obtain ⟨i, -, rfl⟩ := act_pollTick.mp hu
      exact ⟨_, rfl⟩
  | arrive i reply =>
      obtain ⟨f, -, -, rfl⟩ := act_arrive.mp hu
      exact App.settle_sends _ f reply

end PluginSandbox.Dashboard
