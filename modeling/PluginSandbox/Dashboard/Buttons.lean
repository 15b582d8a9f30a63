/-
  The buttons that are disabled while something is under way.

  `isRunning` disables "Run": it says exactly whether a run is in flight, so there is never a second
  one (`one_run_in_flight`).

  `isCompiling` disables "Save": it is set by a save and by the selection of a pending plugin, and
  reset by the effect, by a save that fails, or by an interval that was started for the plugin
  while it was selected. So whoever has to reset it must be there (`Unlockable`): a save in flight,
  or such an interval for the selected plugin. Then "Save" is enabled again after at most three
  answers and ticks (`save_enabled_again`). One order of answers breaks this: a created plugin
  that the list brought and that was selected before the answer to its creation arrives. This
  answer replaces the interval by one that knows another selection (`locked_created`), and "Save"
  stays disabled while the plugin stays selected (`save_locked`).
-/
import Mathlib.Data.List.Perm.Basic
import PluginSandbox.Dashboard.Held
import PluginSandbox.Dashboard.Polling

namespace PluginSandbox.Dashboard

open PluginSandbox.Lib PluginSandbox.Db PluginSandbox.Server

variable {s t u : App} {a : Action}

/-! ## Run -/

def Fetch.isRun : Fetch → Bool
  | .handleRunExecution _ _ => true
  | _ => false

/-- Whether the button is disabled, and how many runs are in flight. -/
def App.running (s : App) : Bool × Nat := (s.isRunning, s.inFlight.countP Fetch.isRun)

namespace App

variable (s : App)

theorem running_send {f : Fetch} (hf : f.isRun = false) : (s.send f).running = s.running := by
  unfold running send
  dsimp only
  rw [List.countP_append, List.countP_singleton, hf]
  rfl

theorem running_startPolling (id : String) (selectedPlugin : Option Plugin) :
    (s.startPolling id selectedPlugin).running = s.running := by
  unfold startPolling
  split <;> rfl

theorem running_handleSelectPlugin (plugin : Plugin) :
    (s.handleSelectPlugin plugin).running = s.running := running_send _ rfl

theorem running_edit {s t : App} (change : Draft → Draft) (h : s.edit change = some t) :
    t.running = s.running := by
  obtain ⟨plugin, -, rfl⟩ := edit_iff.mp h
  rfl

theorem running_selectUpdated (selectedPlugin : Option Plugin) (data : List Plugin) :
    (s.selectUpdated selectedPlugin data).running = s.running := by
  unfold selectUpdated
  split
  · rfl
  · split <;> rfl

theorem running_fetchPluginsReply (selectFirst : Bool) (selectedPlugin : Option Plugin)
    (data : List Plugin) :
    (s.fetchPluginsReply selectFirst selectedPlugin data).running = s.running := by
  unfold fetchPluginsReply
  dsimp only
  split
  · exact running_handleSelectPlugin _ _
  · exact running_selectUpdated _ selectedPlugin data

theorem running_handleDeletePluginReply (id : String) (selectedPlugin : Option Plugin) :
    (s.handleDeletePluginReply id selectedPlugin).running = s.running := by
  unfold handleDeletePluginReply
  dsimp only
  split <;> rfl

theorem running_startPollingReply (interval : Nat) (id : String) (selectedPlugin : Option Plugin)
    (plugin : Plugin) :
    (s.startPollingReply interval id selectedPlugin plugin).running = s.running := by
  unfold startPollingReply
  split
  · rfl
  · dsimp only
    split <;> rfl

theorem running_selectionEffect (before : App) :
    (before.selectionEffect s).running = s.running := by
  unfold selectionEffect
  split
  · rfl
  · split
    · rfl
    · split
      · exact running_startPolling _ _ _
      · rfl

/-- Answers to other requests leave the run alone. -/
theorem running_settle {f : Fetch} (reply : Reply) (hf : f.isRun = false) :
    (s.settle f reply).running = s.running := by
  cases f with
  | fetchPlugins selectFirst selectedPlugin =>
      cases reply with
      | plugins data => exact s.running_fetchPluginsReply selectFirst selectedPlugin _
      | _ => rfl
  | fetchMetrics id =>
      cases reply with
      | executions data => cases data <;> rfl
      | _ => rfl
  | handleCreatePlugin name sourceCode selectedPlugin =>
      cases reply with
      | plugin created =>
          exact (running_startPolling _ _ _).trans (running_handleSelectPlugin _ created)
      | _ => rfl
  | handleSaveAndCompile selectedPlugin body =>
      cases reply with
      | plugin updated => exact running_startPolling _ _ _
      | _ => rfl
  | handleDeletePlugin id selectedPlugin =>
      cases reply with
      | deleted => exact s.running_handleDeletePluginReply id selectedPlugin
      | _ => rfl
  | handleRunExecution selectedPlugin inputPayload => cases hf
  | startPolling interval id selectedPlugin =>
      cases reply with
      | plugin plugin => exact s.running_startPollingReply interval id selectedPlugin plugin
      | _ => rfl

/-- The answer to a run ends it. -/
theorem running_settle_run {f : Fetch} {reply : Reply} (hf : f.isRun = true)
    (hanswered : f.answeredBy reply = true) :
    (s.settle f reply).running = (false, s.running.2) := by
  cases f with
  | handleRunExecution selectedPlugin inputPayload =>
      cases reply with
      | ran data =>
          have hsend := running_send
            { s with execResult := some ⟨selectedPlugin.id, data⟩ }
            (f := .fetchMetrics selectedPlugin.id) rfl
          exact congrArg (fun r => (false, r.2)) hsend
      | failed message => rfl
      | _ => cases hanswered
  | _ => cases hf

end App

/-- The button is disabled exactly while a run is in flight, and there is one then. -/
def RunTracked (s : App) : Prop :=
  s.inFlight.countP Fetch.isRun = if s.isRunning then 1 else 0

theorem runTracked_of_running (h : t.running = s.running) (htracked : RunTracked s) :
    RunTracked t := by
  obtain ⟨hrunning, hcount⟩ := Prod.mk.inj h
  unfold RunTracked
  rw [hcount, hrunning]
  exact htracked

theorem countP_eraseIdx {i : Nat} {f : Fetch} (hf : s.inFlight[i]? = some f) :
    s.inFlight.countP Fetch.isRun =
      (s.inFlight.eraseIdx i).countP Fetch.isRun + if f.isRun then 1 else 0 := by
  obtain ⟨hi, rfl⟩ := List.getElem?_eq_some_iff.mp hf
  have hperm := List.getElem_cons_eraseIdx_perm hi
  rw [← hperm.countP_eq, List.countP_cons]

theorem runTracked_arrive {i : Nat} {f : Fetch} {reply : Reply} (htracked : RunTracked s)
    (hf : s.inFlight[i]? = some f) (hanswered : f.answeredBy reply = true) :
    RunTracked ({ s with inFlight := s.inFlight.eraseIdx i }.settle f reply) := by
  have hcount := countP_eraseIdx hf
  unfold RunTracked at htracked
  cases hrun : f.isRun with
  | false =>
      rw [hrun, if_neg Bool.false_ne_true, Nat.add_zero] at hcount
      refine runTracked_of_running (App.running_settle _ reply hrun) ?_
      unfold RunTracked
      rw [← hcount]
      exact htracked
  | true =>
      have hone : s.inFlight.countP Fetch.isRun ≤ 1 := by
        rw [htracked]
        split <;> omega
      rw [hrun, if_pos rfl] at hcount
      have hnone : (s.inFlight.eraseIdx i).countP Fetch.isRun = 0 := by omega
      obtain ⟨hrunning, hleft⟩ := Prod.mk.inj (App.running_settle_run
        { s with inFlight := s.inFlight.eraseIdx i } hrun hanswered)
      unfold RunTracked
      rw [hrunning, hleft]
      exact hnone

theorem runTracked_act (htracked : RunTracked s) (h : act s a = some u) : RunTracked u := by
  cases a with
  | select plugin =>
      obtain ⟨-, rfl⟩ := act_select.mp h
      exact runTracked_of_running (s.running_handleSelectPlugin plugin) htracked
  | setPluginName pluginName =>
      exact runTracked_of_running (App.running_edit (fun draft => { draft with pluginName }) h)
        htracked
  | setEditorCode editorCode =>
      exact runTracked_of_running (App.running_edit (fun draft => { draft with editorCode }) h)
        htracked
  | loadTemplate code =>
      exact runTracked_of_running
        (App.running_edit (fun draft => { draft with editorCode := code }) h) htracked
  | setInputPayload inputPayload =>
      cases h
      exact htracked
  | refresh | apiTick | create =>
      cases h
      exact runTracked_of_running (s.running_send rfl) htracked
  | save =>
      obtain ⟨plugin, -, -, -, rfl⟩ := act_save.mp h
      exact runTracked_of_running (App.running_send { s with isCompiling := true } rfl) htracked
  | delete id =>
      obtain ⟨-, rfl⟩ := act_delete.mp h
      exact runTracked_of_running (s.running_send rfl) htracked
  | run =>
      obtain ⟨plugin, -, hidle, -, rfl⟩ := act_run.mp h
      unfold RunTracked at htracked
      rw [hidle] at htracked
      show (s.inFlight ++ [Fetch.handleRunExecution plugin s.inputPayload]).countP Fetch.isRun = 1
      rw [List.countP_append, htracked]
      rfl
  | pollTick handle =>
      obtain ⟨i, -, rfl⟩ := act_pollTick.mp h
      exact runTracked_of_running (s.running_send rfl) htracked
  | arrive i reply =>
      obtain ⟨f, hf, hanswered, rfl⟩ := act_arrive.mp h
      exact runTracked_arrive htracked hf hanswered

theorem runTracked_step (htracked : RunTracked s) (h : step s a = some t) : RunTracked t := by
  obtain ⟨u, hu, rfl⟩ := step_iff.mp h
  exact runTracked_of_running (u.running_selectionEffect s) (runTracked_act htracked hu)

/-- In every state of the dashboard "Run" is disabled exactly while a run is in flight, and then
    there is one. -/
theorem one_run_in_flight {inputPayload : String} {as : List Action}
    (hrun : run step (.mounted inputPayload) as = some s) : RunTracked s := by
  have hstep : ∀ s a t, RunTracked s → True → step s a = some t → RunTracked t :=
    fun _ _ _ hs _ h => runTracked_step hs h
  have hstart : RunTracked (.mounted inputPayload) := rfl
  exact run_invariant hstep (fun _ _ => trivial) hstart hrun

/-- A is run. -/
def runA : List Action := [.arrive 0 bothPlugins, .run]

theorem one_run_in_flight_started :
    ∃ s, run step (.mounted "") runA = some s ∧ s.isRunning = true ∧ RunTracked s := by
  obtain ⟨s, hrun, hrunning⟩ : ∃ s, run step (.mounted "") runA = some s ∧ s.isRunning = true :=
    ⟨_, rfl, rfl⟩
  exact ⟨s, hrun, hrunning, one_run_in_flight hrun⟩

/-! ## Save -/

def Saving (s : App) : Prop := ∃ plugin body, .handleSaveAndCompile plugin body ∈ s.inFlight

/-- The selected plugin has an interval that was started while it was selected. -/
def Polled (s : App) : Prop :=
  ∃ i ∈ s.intervals, s.selectedPlugin.map Plugin.id = some i.id ∧
    i.selectedPlugin.map Plugin.id = some i.id

/-- Whoever has to enable the button again is there. -/
def Unlockable (s : App) : Prop := s.isCompiling = true → Saving s ∨ Polled s

/-- A request in flight knows the selection of its interval. -/
def PollsKnow (s : App) : Prop :=
  ∀ handle id selectedPlugin, .startPolling handle id selectedPlugin ∈ s.inFlight →
    ∀ i ∈ s.intervals, i.handle = handle → i.selectedPlugin = selectedPlugin

/-- The answers that can enable the button: to a save, and that a plugin is built that was selected
    when its interval was started. -/
inductive Enables : Fetch → Reply → Prop where
  | saved (plugin : Plugin) (body : Draft) (reply : Reply) :
      Enables (.handleSaveAndCompile plugin body) reply
  | built (handle : Nat) (id : String) (selectedPlugin : Option Plugin) (plugin : Plugin)
      (hstatus : plugin.status ≠ "pending") (hcaptured : selectedPlugin.map Plugin.id = some id) :
      Enables (.startPolling handle id selectedPlugin) (.plugin plugin)

/-- The answer to a creation is not about the plugin that is selected by then. -/
def CreatesAnother (s : App) (a : Action) : Prop :=
  ∀ i created name sourceCode selectedPlugin, a = .arrive i (.plugin created) →
    s.inFlight[i]? = some (.handleCreatePlugin name sourceCode selectedPlugin) →
    s.selectedPlugin.map Plugin.id ≠ some created.id

theorem Pollers.mem_startAll {p : Pollers} {starts : List (String × Option Plugin)} {i : Interval}
    (hi : i ∈ (p.startAll starts).intervals) :
    i ∈ p.intervals ∨ p.nextInterval ≤ i.handle ∧ (i.id, i.selectedPlugin) ∈ starts := by
  induction starts generalizing p with
  | nil => exact .inl hi
  | cons x starts ih =>
      rcases ih hi with hstart | ⟨hhandle, hlater⟩
      · rcases Pollers.mem_start.mp hstart with ⟨hold, -⟩ | rfl
        · exact .inl hold
        · exact .inr ⟨Nat.le_refl _, List.mem_cons_self⟩
      · rw [Pollers.nextInterval_start] at hhandle
        exact .inr ⟨Nat.le_of_succ_le hhandle, List.mem_cons_of_mem _ hlater⟩

/-- The intervals after a step are old ones and new ones with handles of their own. -/
theorem step_intervals (h : step s a = some t) {i : Interval} (hi : i ∈ t.intervals) :
    i ∈ s.intervals ∨ s.nextInterval ≤ i.handle ∧ (i.id, i.selectedPlugin) ∈ a.starts s := by
  have hpollers : i ∈ t.pollers.intervals := hi
  by_cases hstops : ∃ handle id, Stops s a handle id
  · obtain ⟨handle, id, hstop⟩ := hstops
    rw [step_stops h hstop] at hpollers
    exact .inl (Pollers.mem_clear.mp hpollers).1
  · rw [step_starts h fun handle id hstop => hstops ⟨handle, id, hstop⟩] at hpollers
    exact Pollers.mem_startAll hpollers

theorem pollsKnow_step (hsound : PollersSound s) (hknow : PollsKnow s) (h : step s a = some t) :
    PollsKnow t := by
  intro handle id selectedPlugin hmem i hi hhandle
  rcases step_inFlight h _ hmem with hold | hsends
  · rcases step_intervals h hi with hi | ⟨hnew, -⟩
    · exact hknow handle id selectedPlugin hold i hi hhandle
    · have hissued := (hsound.asked handle id selectedPlugin hold).issued
      have hnext : s.pollers.nextInterval = s.nextInterval := rfl
      omega
  · cases hsends with
    | poll interval hlive =>
        rcases step_intervals h hi with hi | ⟨hnew, -⟩
        · rw [hsound.pollers.distinct i hi interval hlive hhandle]
        · have hissued := hsound.pollers.issued interval hlive
          have hnext : s.pollers.nextInterval = s.nextInterval := rfl
          omega

namespace App

theorem compiling_selectUpdated (s : App) (selectedPlugin : Option Plugin) (data : List Plugin) :
    (s.selectUpdated selectedPlugin data).isCompiling = s.isCompiling := by
  unfold selectUpdated
  split
  · rfl
  · split <;> rfl

theorem compiling_startPolling (s : App) (id : String) (selectedPlugin : Option Plugin) :
    (s.startPolling id selectedPlugin).isCompiling = s.isCompiling := by
  unfold startPolling
  split <;> rfl

theorem compiling_startPollingReply (s : App) (interval : Nat) (id : String)
    (selectedPlugin : Option Plugin) (plugin : Plugin) :
    (s.startPollingReply interval id selectedPlugin plugin).isCompiling = s.isCompiling ∨
      (s.startPollingReply interval id selectedPlugin plugin).isCompiling = false ∧
        plugin.status ≠ "pending" ∧ selectedPlugin.map Plugin.id = some id := by
  unfold startPollingReply
  split
  · exact .inl rfl
  · next hstatus =>
      dsimp only
      split
      · next hcaptured => exact .inr ⟨rfl, hstatus, hcaptured⟩
      · exact .inl rfl

/-- An answer leaves the button as it is, unless it is one that enables it. -/
theorem compiling_settle (s : App) (f : Fetch) (reply : Reply) :
    (s.settle f reply).isCompiling = s.isCompiling ∨
      (s.settle f reply).isCompiling = false ∧ Enables f reply := by
  cases f with
  | fetchPlugins selectFirst selectedPlugin =>
      cases reply with
      | plugins data =>
          refine .inl ?_
          show (s.fetchPluginsReply selectFirst selectedPlugin (data.getD [])).isCompiling = _
          unfold fetchPluginsReply
          dsimp only
          split
          · rfl
          · exact compiling_selectUpdated _ selectedPlugin _
      | _ => exact .inl rfl
  | fetchMetrics id =>
      cases reply with
      | executions data => cases data <;> exact .inl rfl
      | _ => exact .inl rfl
  | handleCreatePlugin name sourceCode selectedPlugin =>
      cases reply with
      | plugin created => exact .inl (compiling_startPolling _ created.id selectedPlugin)
      | _ => exact .inl rfl
  | handleSaveAndCompile selectedPlugin body =>
      cases reply with
      | plugin updated => exact .inl (compiling_startPolling _ updated.id (some selectedPlugin))
      | _ => exact .inr ⟨rfl, .saved selectedPlugin body _⟩
  | handleDeletePlugin id selectedPlugin =>
      cases reply with
      | deleted =>
          refine .inl ?_
          show (s.handleDeletePluginReply id selectedPlugin).isCompiling = s.isCompiling
          unfold handleDeletePluginReply
          dsimp only
          split <;> rfl
      | _ => exact .inl rfl
  | handleRunExecution selectedPlugin inputPayload => cases reply <;> exact .inl rfl
  | startPolling interval id selectedPlugin =>
      cases reply with
      | plugin plugin =>
          rcases s.compiling_startPollingReply interval id selectedPlugin plugin with
            hkept | ⟨henabled, hstatus, hcaptured⟩
          · exact .inl hkept
          · exact .inr ⟨henabled, .built interval id selectedPlugin plugin hstatus hcaptured⟩
      | _ => exact .inl rfl

/-- No answer disables the button by itself. -/
theorem compiling_of_settle (s : App) (f : Fetch) (reply : Reply)
    (h : (s.settle f reply).isCompiling = true) : s.isCompiling = true := by
  rcases s.compiling_settle f reply with hkept | ⟨henabled, -⟩
  · exact hkept.symm.trans h
  · rw [henabled] at h
    cases h

end App

/-- A step that keeps saves, intervals and the selection. -/
theorem unlockable_kept (hinv : Unlockable s)
    (hcompiling : u.isCompiling = true → s.isCompiling = true) (hsaving : Saving s → Saving u)
    (hintervals : s.intervals ⊆ u.intervals)
    (hsame : u.selectedPlugin.map Plugin.id = s.selectedPlugin.map Plugin.id) : Unlockable u := by
  intro hu
  rcases hinv (hcompiling hu) with hsaves | ⟨i, hi, hselected, hcaptured⟩
  · exact .inl (hsaving hsaves)
  · exact .inr ⟨i, hintervals hi, hsame.trans hselected, hcaptured⟩

theorem saving_send {f : Fetch} (h : Saving s) : Saving (s.send f) := by
  obtain ⟨plugin, body, hmem⟩ := h
  exact ⟨plugin, body, List.mem_append_left _ hmem⟩

/-- An answer to another request leaves a save in flight. -/
theorem saving_settle {i : Nat} {f : Fetch} {reply : Reply} (hf : s.inFlight[i]? = some f)
    (hother : ∀ plugin body, f ≠ .handleSaveAndCompile plugin body) (h : Saving s) :
    Saving ({ s with inFlight := s.inFlight.eraseIdx i }.settle f reply) := by
  obtain ⟨plugin, body, hmem⟩ := h
  obtain ⟨j, hj⟩ := List.mem_iff_getElem?.mp hmem
  have hne : j ≠ i := by
    rintro rfl
    rw [hf] at hj
    exact hother plugin body (Option.some.inj hj)
  obtain ⟨new, hnew⟩ := App.settle_sends { s with inFlight := s.inFlight.eraseIdx i } f reply
  refine ⟨plugin, body, ?_⟩
  rw [hnew]
  exact List.mem_append_left _ (List.mem_eraseIdx_iff_getElem?.mpr ⟨j, hne, hj⟩)

/-- The interval that a call of `startPolling` starts. -/
theorem mem_startPolling (s : App) (id : String) (selectedPlugin : Option Plugin) :
    ⟨s.nextInterval, id, selectedPlugin⟩ ∈ (s.startPolling id selectedPlugin).intervals := by
  have hstart : (s.startPolling id selectedPlugin).intervals =
      (s.pollers.start id selectedPlugin).intervals :=
    congrArg Pollers.intervals (s.pollers_startPolling id selectedPlugin)
  rw [hstart]
  exact Pollers.mem_start.mpr (.inr rfl)

/-- A save that succeeds starts an interval for its plugin. -/
theorem polled_saveReply (s : App) {selectedPlugin updated : Plugin}
    (hid : updated.id = selectedPlugin.id) :
    Polled (s.handleSaveAndCompileReply selectedPlugin updated) := by
  refine ⟨_, mem_startPolling _ updated.id (some selectedPlugin), ?_, ?_⟩
  · have hselected := congrArg View.selectedPlugin (App.view_startPolling
      ({ s with selectedPlugin := some updated }.replacePlugin updated.id updated) updated.id
      (some selectedPlugin))
    exact congrArg (Option.map Plugin.id) hselected
  · exact congrArg some hid.symm

/-- An answer that stops the interval of the selected plugin enables the button. -/
theorem unlockable_built {handle : Nat} {id : String} {selectedPlugin : Option Plugin}
    {plugin : Plugin} {rest : List Fetch} (hinv : Unlockable s) (hsound : PollersSound s)
    (hknow : PollsKnow s) (hmem : .startPolling handle id selectedPlugin ∈ s.inFlight)
    (hstatus : plugin.status ≠ "pending")
    (hsaving : Saving s → Saving ({ s with inFlight := rest }.startPollingReply handle id
      selectedPlugin plugin)) :
    Unlockable ({ s with inFlight := rest }.startPollingReply handle id selectedPlugin plugin) := by
  intro hcompiling
  have hbefore := App.compiling_of_settle { s with inFlight := rest }
    (.startPolling handle id selectedPlugin) (.plugin plugin) hcompiling
  rcases hinv hbefore with hsaves | ⟨i, hi, hselected, hcaptured⟩
  · exact .inl (hsaving hsaves)
  · unfold App.startPollingReply at hcompiling ⊢
    rw [if_neg hstatus] at hcompiling ⊢
    dsimp only at hcompiling ⊢
    split
    · next hown =>
        rw [if_pos hown] at hcompiling
        cases hcompiling
    · next hother =>
        refine .inr ⟨i, List.mem_filter.mpr ⟨hi, bne_iff_ne.mpr fun hhandle => hother ?_⟩,
          hselected, hcaptured⟩
        rw [← hknow handle id selectedPlugin hmem i hi hhandle, hcaptured,
          (hsound.asked handle id selectedPlugin hmem).own i hi hhandle]

/-- Answers that start and stop no interval. -/
theorem unlockable_settle {i : Nat} {f : Fetch} {reply : Reply} (hinv : Unlockable s)
    (hf : s.inFlight[i]? = some f)
    (hother : ∀ plugin body, f ≠ .handleSaveAndCompile plugin body) (hstarts : f.starts reply = [])
    (hpending : ∀ handle id selectedPlugin plugin, f = .startPolling handle id selectedPlugin →
      reply = .plugin plugin → plugin.status = "pending")
    (hsame : ({ s with inFlight := s.inFlight.eraseIdx i }.settle f reply).selectedPlugin.map
      Plugin.id = s.selectedPlugin.map Plugin.id) :
    Unlockable ({ s with inFlight := s.inFlight.eraseIdx i }.settle f reply) := by
  have hpollers := App.pollers_settle { s with inFlight := s.inFlight.eraseIdx i } f reply hpending
  rw [hstarts] at hpollers
  have hintervals : ({ s with inFlight := s.inFlight.eraseIdx i }.settle f reply).intervals =
      s.intervals := congrArg Pollers.intervals hpollers
  refine unlockable_kept hinv (App.compiling_of_settle _ f reply) (saving_settle hf hother) ?_ hsame
  rw [hintervals]
  exact List.Subset.refl _

theorem unlockable_arrive {i : Nat} {f : Fetch} {reply : Reply} (hinv : Unlockable s)
    (hsound : PollersSound s) (hknow : PollsKnow s) (hfresh : CreatesAnother s (.arrive i reply))
    (hf : s.inFlight[i]? = some f) (hanswered : f.answeredBy reply = true)
    (hsame : ({ s with inFlight := s.inFlight.eraseIdx i }.settle f reply).selectedPlugin.map
      Plugin.id = s.selectedPlugin.map Plugin.id) :
    Unlockable ({ s with inFlight := s.inFlight.eraseIdx i }.settle f reply) := by
  cases f with
  | fetchPlugins | fetchMetrics | handleDeletePlugin | handleRunExecution =>
      exact unlockable_settle hinv hf (fun _ _ h => by cases h) rfl
        (fun _ _ _ _ h => by cases h) hsame
  | handleCreatePlugin name sourceCode selectedPlugin =>
      cases reply with
      | plugin created =>
          have hselected := congrArg View.selectedPlugin (App.view_startPolling
            ({ s with plugins := created :: s.plugins
                      inFlight := s.inFlight.eraseIdx i }.handleSelectPlugin created) created.id
            selectedPlugin)
          have hcreated := congrArg (Option.map Plugin.id) hselected
          exact absurd (hsame.symm.trans hcreated)
            (hfresh i created name sourceCode selectedPlugin rfl hf)
      | _ =>
          exact unlockable_settle hinv hf (fun _ _ h => by cases h) rfl
            (fun _ _ _ _ h => by cases h) hsame
  | handleSaveAndCompile selectedPlugin body =>
      cases reply with
      | plugin updated => exact fun _ => .inr (polled_saveReply _ (beq_iff_eq.mp hanswered))
      | _ => exact fun hcompiling => by cases hcompiling
  | startPolling handle id selectedPlugin =>
      cases reply with
      | plugin plugin =>
          by_cases hstatus : plugin.status = "pending"
          · refine unlockable_settle hinv hf nofun rfl (fun _ _ _ p _ hp => ?_) hsame
            cases hp
            exact hstatus
          · have hsaving : Saving s → Saving ({ s with inFlight := s.inFlight.eraseIdx i }.settle
                (.startPolling handle id selectedPlugin) (.plugin plugin)) :=
              saving_settle hf nofun
            exact unlockable_built hinv hsound hknow (List.mem_of_getElem? hf) hstatus hsaving
      | _ =>
          exact unlockable_settle hinv hf (fun _ _ h => by cases h) rfl
            (fun _ _ _ _ _ h => by cases h) hsame

theorem unlockable_act (hinv : Unlockable s) (hsound : PollersSound s) (hknow : PollsKnow s)
    (hfresh : CreatesAnother s a) (h : act s a = some u)
    (hsame : u.selectedPlugin.map Plugin.id = s.selectedPlugin.map Plugin.id) : Unlockable u := by
  have hall : s.intervals ⊆ s.intervals := List.Subset.refl _
  cases a with
  | select plugin =>
      obtain ⟨-, rfl⟩ := act_select.mp h
      exact unlockable_kept hinv id saving_send hall hsame
  | setPluginName pluginName =>
      obtain ⟨plugin, -, rfl⟩ := edit_iff.mp (show s.setPluginName pluginName = some u from h)
      exact unlockable_kept hinv id id hall hsame
  | setEditorCode editorCode =>
      obtain ⟨plugin, -, rfl⟩ := edit_iff.mp (show s.setEditorCode editorCode = some u from h)
      exact unlockable_kept hinv id id hall hsame
  | loadTemplate code =>
      obtain ⟨plugin, -, rfl⟩ := edit_iff.mp (show s.setEditorCode code = some u from h)
      exact unlockable_kept hinv id id hall hsame
  | setInputPayload inputPayload =>
      cases h
      exact unlockable_kept hinv id id hall hsame
  | refresh | apiTick | create =>
      cases h
      exact unlockable_kept hinv id saving_send hall hsame
  | save =>
      obtain ⟨plugin, -, -, -, rfl⟩ := act_save.mp h
      exact fun _ => .inl ⟨plugin, s.draft, List.mem_append_right _ List.mem_cons_self⟩
  | delete id =>
      obtain ⟨-, rfl⟩ := act_delete.mp h
      exact unlockable_kept hinv (fun h => h) saving_send hall hsame
  | run =>
      obtain ⟨plugin, -, -, -, rfl⟩ := act_run.mp h
      exact unlockable_kept hinv id saving_send hall hsame
  | pollTick handle =>
      obtain ⟨i, -, rfl⟩ := act_pollTick.mp h
      exact unlockable_kept hinv id saving_send hall hsame
  | arrive i reply =>
      obtain ⟨f, hf, hanswered, rfl⟩ := act_arrive.mp h
      exact unlockable_arrive hinv hsound hknow hfresh hf hanswered hsame

/-- The effect does nothing, or enables the button, or starts an interval for a newly selected
    plugin that is pending. -/
theorem selectionEffect_cases (s u : App) :
    (u.selectedPlugin.map Plugin.id = s.selectedPlugin.map Plugin.id ∧
        s.selectionEffect u = u) ∨
      (s.selectionEffect u).isCompiling = false ∨ Polled (s.selectionEffect u) := by
  unfold App.selectionEffect
  split
  · next hsame => exact .inl ⟨hsame, rfl⟩
  · refine .inr ?_
    split
    · exact .inl rfl
    · next plugin hselected =>
        split
        · refine .inr ⟨_, mem_startPolling _ plugin.id (some plugin), ?_, rfl⟩
          have hview := congrArg View.selectedPlugin (App.view_startPolling
            { u with isCompiling := true } plugin.id (some plugin))
          have hkept : ({ u with isCompiling := true }.startPolling plugin.id
            (some plugin)).selectedPlugin = u.selectedPlugin := hview
          rw [hkept, hselected]
          rfl
        · exact .inl rfl

theorem unlockable_selectionEffect
    (h : u.selectedPlugin.map Plugin.id = s.selectedPlugin.map Plugin.id → Unlockable u) :
    Unlockable (s.selectionEffect u) := by
  rcases selectionEffect_cases s u with ⟨hsame, heffect⟩ | henabled | hpolled
  · rw [heffect]
    exact h hsame
  · intro hcompiling
    rw [henabled] at hcompiling
    cases hcompiling
  · exact fun _ => .inr hpolled

/-- What is kept together. -/
structure SaveTracked (s : App) : Prop where
  unlockable : Unlockable s
  sound : PollersSound s
  know : PollsKnow s

theorem saveTracked_mounted (inputPayload : String) : SaveTracked (.mounted inputPayload) where
  unlockable h := by cases h
  sound := pollersSound_mounted inputPayload
  know _ _ _ _ i hi := nomatch hi

theorem saveTracked_step (hinv : SaveTracked s) (hfresh : CreatesAnother s a)
    (h : step s a = some t) : SaveTracked t := by
  refine ⟨?_, pollersSound_step hinv.sound h, pollsKnow_step hinv.sound hinv.know h⟩
  obtain ⟨u, hu, rfl⟩ := step_iff.mp h
  exact unlockable_selectionEffect
    (unlockable_act hinv.unlockable hinv.sound hinv.know hfresh hu)

/-! ## Enabled again -/

/-- What the button waits for: the answer to a save, which queues the plugin, a tick of an interval
    of the selected plugin, and the answer to it that the plugin is built. -/
inductive Awaited (s : App) : Action → Prop where
  | saved (i : Nat) (plugin queued : Plugin) (body : Draft)
      (hf : s.inFlight[i]? = some (.handleSaveAndCompile plugin body)) (hid : queued.id = plugin.id)
      (hstatus : queued.status = "pending") : Awaited s (.arrive i (.plugin queued))
  | tick (interval : Interval) (hlive : interval ∈ s.intervals)
      (hselected : s.selectedPlugin.map Plugin.id = some interval.id) :
      Awaited s (.pollTick interval.handle)
  | built (i handle : Nat) (selectedPlugin : Option Plugin) (plugin : Plugin)
      (hf : s.inFlight[i]? = some (.startPolling handle plugin.id selectedPlugin))
      (hselected : s.selectedPlugin.map Plugin.id = some plugin.id)
      (hstatus : plugin.status = "compiled") : Awaited s (.arrive i (.plugin plugin))

/-- A tick sends the request of its interval. -/
theorem step_pollTick (hsound : PollersSound s) {i : Interval} (hi : i ∈ s.intervals) :
    step s (.pollTick i.handle) =
      some (s.send (.startPolling i.handle i.id i.selectedPlugin)) := by
  have hfound : (s.intervals.find? fun j => j.handle == i.handle) = some i := by
    cases hfind : s.intervals.find? fun j => j.handle == i.handle with
    | none => exact absurd (beq_self_eq_true i.handle) (List.find?_eq_none.mp hfind i hi)
    | some j =>
        have hbeq := List.find?_some (p := fun j : Interval => j.handle == i.handle) hfind
        rw [hsound.pollers.distinct j (List.mem_of_find?_eq_some hfind) i hi (beq_iff_eq.mp hbeq)]
  exact step_of_act (act_pollTick.mpr ⟨i, hfound, rfl⟩) rfl

/-- The answer that the selected plugin is built. -/
theorem startPollingReply_built (s : App) (handle : Nat) {id : String}
    {selectedPlugin : Option Plugin} {plugin : Plugin} (hstatus : plugin.status ≠ "pending")
    (hcaptured : selectedPlugin.map Plugin.id = some id) :
    (s.startPollingReply handle id selectedPlugin plugin).isCompiling = false ∧
      (s.startPollingReply handle id selectedPlugin plugin).selectedPlugin = some plugin := by
  unfold App.startPollingReply
  rw [if_neg hstatus]
  dsimp only
  rw [if_pos hcaptured]
  exact ⟨rfl, rfl⟩

/-- The interval asks once more and the plugin is built. -/
theorem polled_enables (hsound : PollersSound s) (hpolled : Polled s) :
    ∃ bs t, bs.length = 2 ∧ EachStep step s bs Awaited ∧ run step s bs = some t ∧
      t.isCompiling = false := by
  obtain ⟨i, hi, hselected, hcaptured⟩ := hpolled
  obtain ⟨p, hp, hid⟩ := Option.map_eq_some_iff.mp hselected
  let built : Plugin := { p with status := "compiled" }
  let asked : App := s.send (.startPolling i.handle i.id i.selectedPlugin)
  let answered : App := { asked with inFlight := asked.inFlight.eraseIdx s.inFlight.length }
  have hstatus : built.status ≠ "pending" := by
    show "compiled" ≠ "pending"
    decide
  obtain ⟨henabled, hbuilt⟩ := startPollingReply_built answered i.handle hstatus hcaptured
  have harrive : step asked (.arrive s.inFlight.length (.plugin built)) =
      some (answered.startPollingReply i.handle i.id i.selectedPlugin built) := by
    refine step_of_act (act_arrive.mpr ⟨_, List.getElem?_concat_length, ?_, rfl⟩) ?_
    · exact beq_iff_eq.mpr hid
    · have hasked : asked.selectedPlugin = some p := hp
      show (answered.startPollingReply i.handle i.id i.selectedPlugin built).selectedPlugin.map
        Plugin.id = asked.selectedPlugin.map Plugin.id
      rw [hbuilt, hasked]
      rfl
  have htick := step_pollTick hsound hi
  have hasks : asked.inFlight[s.inFlight.length]? =
      some (.startPolling i.handle built.id i.selectedPlugin) := by
    have hown : built.id = i.id := hid
    rw [hown]
    exact List.getElem?_concat_length
  have hfinds : Awaited asked (.arrive s.inFlight.length (.plugin built)) := by
    refine .built _ i.handle i.selectedPlugin built hasks ?_ rfl
    exact hselected.trans (congrArg some hid.symm)
  exact ⟨[.pollTick i.handle, .arrive s.inFlight.length (.plugin built)], _, rfl,
    (eachStep_cons htick).mpr ⟨.tick i hi hselected,
      (eachStep_cons harrive).mpr ⟨hfinds, eachStep_nil⟩⟩,
    run_cons_iff.mpr ⟨asked, htick, run_cons_iff.mpr ⟨_, harrive, rfl⟩⟩, henabled⟩

/-- The save succeeds, which queues the plugin. -/
theorem saving_enables (hsound : PollersSound s) (hsaving : Saving s) :
    ∃ bs t, bs.length ≤ 3 ∧ EachStep step s bs Awaited ∧ run step s bs = some t ∧
      t.isCompiling = false := by
  obtain ⟨plugin, body, hmem⟩ := hsaving
  obtain ⟨i, hi⟩ := List.mem_iff_getElem?.mp hmem
  let queued : Plugin := { plugin with status := "pending" }
  let saved : App := { s with inFlight := s.inFlight.eraseIdx i }.handleSaveAndCompileReply plugin
    queued
  have hact : act s (.arrive i (.plugin queued)) = some saved :=
    act_arrive.mpr ⟨_, hi, beq_self_eq_true plugin.id, rfl⟩
  have hstep : step s (.arrive i (.plugin queued)) = some (s.selectionEffect saved) :=
    step_iff.mpr ⟨saved, hact, rfl⟩
  have hpolls : (s.selectionEffect saved).isCompiling = false ∨
      Polled (s.selectionEffect saved) := by
    rcases selectionEffect_cases s saved with ⟨-, hkept⟩ | heffect
    · rw [hkept]
      exact .inr (polled_saveReply _ rfl)
    · exact heffect
  have hawaited : Awaited s (.arrive i (.plugin queued)) :=
    .saved i plugin queued body hi rfl rfl
  rcases hpolls with henabled | hpolled
  · exact ⟨[.arrive i (.plugin queued)], _, Nat.le_add_left 1 2,
      (eachStep_cons hstep).mpr ⟨hawaited, eachStep_nil⟩, run_cons_iff.mpr ⟨_, hstep, rfl⟩,
      henabled⟩
  · obtain ⟨bs, t, hlength, hawaits, hrun, henabled⟩ :=
      polled_enables (pollersSound_step hsound hstep) hpolled
    refine ⟨.arrive i (.plugin queued) :: bs, t, ?_, (eachStep_cons hstep).mpr ⟨hawaited, hawaits⟩,
      run_cons_iff.mpr ⟨_, hstep, hrun⟩, henabled⟩
    rw [List.length_cons, hlength]

/-- Unless the answer to a creation finds its plugin selected, "Save" never stays disabled: a save
    that succeeds, a tick and the answer that the plugin is built enable it again. -/
theorem save_enabled_again {inputPayload : String} {as : List Action}
    (hfresh : EachStep step (.mounted inputPayload) as CreatesAnother)
    (hrun : run step (.mounted inputPayload) as = some s) (hcompiling : s.isCompiling = true) :
    ∃ bs t, bs.length ≤ 3 ∧ EachStep step s bs Awaited ∧ run step s bs = some t ∧
      t.isCompiling = false := by
  have hstep : ∀ s a t, SaveTracked s → CreatesAnother s a → step s a = some t → SaveTracked t :=
    fun _ _ _ hs ha h => saveTracked_step hs ha h
  have htracked := run_invariant_eachStep hstep hfresh (saveTracked_mounted inputPayload) hrun
  rcases htracked.unlockable hcompiling with hsaving | hpolled
  · exact saving_enables htracked.sound hsaving
  · obtain ⟨bs, t, hlength, hrest⟩ := polled_enables htracked.sound hpolled
    exact ⟨bs, t, hlength.trans_le (by decide), hrest⟩

/-- A is saved. -/
def saveA : List Action := [.arrive 0 bothPlugins, .save]

theorem createsAnother_of_ne (h : ∀ i created, a ≠ .arrive i (.plugin created)) :
    CreatesAnother s a :=
  fun i created _ _ _ ha => absurd ha (h i created)

theorem save_enabled_again_saved :
    ∃ s bs t, run step (.mounted "") saveA = some s ∧ s.isCompiling = true ∧
      EachStep step s bs Awaited ∧ run step s bs = some t ∧ t.isCompiling = false := by
  have hfresh : EachStep step (.mounted "") saveA CreatesAnother :=
    (eachStep_cons rfl).mpr ⟨createsAnother_of_ne nofun,
      (eachStep_cons rfl).mpr ⟨createsAnother_of_ne nofun, eachStep_nil⟩⟩
  obtain ⟨s, hrun, hcompiling⟩ : ∃ s, run step (.mounted "") saveA = some s ∧
    s.isCompiling = true := ⟨_, rfl, rfl⟩
  obtain ⟨bs, t, -, hawaits, hback, henabled⟩ := save_enabled_again hfresh hrun hcompiling
  exact ⟨s, bs, t, hrun, hcompiling, hawaits, hback, henabled⟩

/-! ## Locked -/

/-- Nobody is left to enable the button while the selection stays. -/
structure Locked (s : App) : Prop where
  compiling : s.isCompiling = true
  unsaved : ¬ Saving s
  unpolled : ¬ Polled s
  unasked : ∀ handle id selectedPlugin, .startPolling handle id selectedPlugin ∈ s.inFlight →
    s.selectedPlugin.map Plugin.id = some id → selectedPlugin.map Plugin.id ≠ some id

/-- The step leaves the same plugin selected, and is not the answer to its creation. -/
structure KeepsSelection (s : App) (a : Action) : Prop where
  same : ∀ t, step s a = some t → t.selectedPlugin.map Plugin.id = s.selectedPlugin.map Plugin.id
  another : CreatesAnother s a

theorem act_of_step (h : step s a = some t)
    (hsame : t.selectedPlugin.map Plugin.id = s.selectedPlugin.map Plugin.id) :
    act s a = some t := by
  obtain ⟨u, hu, rfl⟩ := step_iff.mp h
  have hview := congrArg View.selectedID (u.view_selectionEffect s)
  have hsame' : u.selectedPlugin.map Plugin.id = s.selectedPlugin.map Plugin.id :=
    hview.symm.trans hsame
  have heffect : s.selectionEffect u = u := if_pos hsame'
  rw [heffect]
  exact hu

/-- Only an answer enables the button. -/
theorem compiling_act (h : act s a = some u) (hcompiling : s.isCompiling = true)
    (hquiet : ∀ i f reply, s.inFlight[i]? = some f → f.answeredBy reply = true →
      { s with inFlight := s.inFlight.eraseIdx i }.settle f reply = u → ¬ Enables f reply) :
    u.isCompiling = true := by
  cases a with
  | select plugin =>
      obtain ⟨-, rfl⟩ := act_select.mp h
      exact hcompiling
  | setPluginName pluginName =>
      obtain ⟨plugin, -, rfl⟩ := edit_iff.mp (show s.setPluginName pluginName = some u from h)
      exact hcompiling
  | setEditorCode editorCode =>
      obtain ⟨plugin, -, rfl⟩ := edit_iff.mp (show s.setEditorCode editorCode = some u from h)
      exact hcompiling
  | loadTemplate code =>
      obtain ⟨plugin, -, rfl⟩ := edit_iff.mp (show s.setEditorCode code = some u from h)
      exact hcompiling
  | setInputPayload | refresh | apiTick | create =>
      cases h
      exact hcompiling
  | save =>
      obtain ⟨plugin, -, -, -, rfl⟩ := act_save.mp h
      rfl
  | delete id =>
      obtain ⟨-, rfl⟩ := act_delete.mp h
      exact hcompiling
  | run =>
      obtain ⟨plugin, -, -, -, rfl⟩ := act_run.mp h
      exact hcompiling
  | pollTick handle =>
      obtain ⟨i, -, rfl⟩ := act_pollTick.mp h
      exact hcompiling
  | arrive i reply =>
      obtain ⟨f, hf, hanswered, rfl⟩ := act_arrive.mp h
      rcases App.compiling_settle { s with inFlight := s.inFlight.eraseIdx i } f reply with
        hkept | ⟨-, henables⟩
      · exact hkept.trans hcompiling
      · exact absurd henables (hquiet i f reply hf hanswered rfl)

/-- The intervals that an answer starts for the selected plugin. -/
theorem starts_selected (hkeeps : KeepsSelection s a) (h : step s a = some t)
    (hunsaved : ¬ Saving s) {id : String} {selectedPlugin : Option Plugin}
    (hstarts : (id, selectedPlugin) ∈ a.starts s) : s.selectedPlugin.map Plugin.id ≠ some id := by
  have hsame := hkeeps.same t h
  have heffect : effectStarts s.view.selectedID t.view.selectedPlugin = [] := by
    have hselected : s.view.selectedID = t.view.selectedID := hsame.symm
    rw [hselected]
    exact effectStarts_same t.view
  unfold Action.starts at hstarts
  rw [← step_view h, heffect, List.append_nil] at hstarts
  cases a with
  | arrive i reply =>
      obtain ⟨u, hu, -⟩ := step_iff.mp h
      obtain ⟨f, hf, -, -⟩ := act_arrive.mp hu
      rw [answerStarts_arrive hf] at hstarts
      cases f with
      | handleCreatePlugin name sourceCode captured =>
          cases reply with
          | plugin created =>
              cases List.mem_singleton.mp hstarts
              exact hkeeps.another i created name sourceCode selectedPlugin rfl hf
          | _ => cases hstarts
      | handleSaveAndCompile plugin body =>
          exact absurd ⟨plugin, body, List.mem_of_getElem? hf⟩ hunsaved
      | _ => cases hstarts
  | _ => cases hstarts

theorem locked_step (hlocked : Locked s) (hkeeps : KeepsSelection s a) (h : step s a = some t) :
    Locked t := by
  have hsame := hkeeps.same t h
  refine ⟨?_, ?_, ?_, ?_⟩
  · refine compiling_act (act_of_step h hsame) hlocked.compiling ?_
    intro i f reply hf hanswered ht henables
    cases henables with
    | saved plugin body reply =>
        exact hlocked.unsaved ⟨plugin, body, List.mem_of_getElem? hf⟩
    | built handle id selectedPlugin plugin hstatus hcaptured =>
        have hbuilt := (startPollingReply_built { s with inFlight := s.inFlight.eraseIdx i } handle
          hstatus hcaptured).2
        have hselected : t.selectedPlugin = some plugin := ht ▸ hbuilt
        have hid : s.selectedPlugin.map Plugin.id = some id := by
          rw [← hsame, hselected]
          exact congrArg some (beq_iff_eq.mp hanswered)
        exact hlocked.unasked handle id selectedPlugin (List.mem_of_getElem? hf) hid hcaptured
  · rintro ⟨plugin, body, hmem⟩
    rcases step_inFlight h _ hmem with hold | hsends
    · exact hlocked.unsaved ⟨plugin, body, hold⟩
    · cases hsends with
      | save plugin hselected =>
          obtain ⟨u, hu, -⟩ := step_iff.mp h
          obtain ⟨_, -, hidle, -, -⟩ := act_save.mp hu
          rw [hlocked.compiling] at hidle
          cases hidle
  · rintro ⟨i, hi, hselected, hcaptured⟩
    rw [hsame] at hselected
    rcases step_intervals h hi with hold | ⟨-, hstarts⟩
    · exact hlocked.unpolled ⟨i, hold, hselected, hcaptured⟩
    · exact starts_selected hkeeps h hlocked.unsaved hstarts hselected
  · intro handle id selectedPlugin hmem hselected hcaptured
    rw [hsame] at hselected
    rcases step_inFlight h _ hmem with hold | hsends
    · exact hlocked.unasked handle id selectedPlugin hold hselected hcaptured
    · cases hsends with
      | poll interval hlive =>
          exact hlocked.unpolled ⟨interval, hlive, hselected, hcaptured⟩

/-- The answer to request `i`, a creation, is about to find its plugin selected and "Save" disabled:
    the list brought the plugin, pending, and it was selected. -/
structure CreatedSelected (s : App) (i : Nat) (created : Plugin) : Prop where
  creates : ∃ name sourceCode captured, s.inFlight[i]? = some
    (.handleCreatePlugin name sourceCode captured) ∧ captured.map Plugin.id ≠ some created.id
  selected : s.selectedPlugin.map Plugin.id = some created.id
  compiling : s.isCompiling = true
  unsaved : ¬ Saving s
  /-- The plugin's intervals are the one that `startPolling` is going to clear. -/
  tracked : ∀ interval ∈ s.intervals, interval.id = created.id →
    s.pollingRef created.id = some interval.handle
  unasked : ∀ handle selectedPlugin, .startPolling handle created.id selectedPlugin ∈ s.inFlight →
    selectedPlugin.map Plugin.id ≠ some created.id

/-- Such an answer replaces the interval by one that knows another selection. -/
theorem locked_created {i : Nat} {created : Plugin} (hcreated : CreatedSelected s i created)
    (h : step s (.arrive i (.plugin created)) = some t) : Locked t := by
  obtain ⟨name, sourceCode, captured, hf, hcaptured⟩ := hcreated.creates
  let selected : App :=
    { s with plugins := created :: s.plugins
             inFlight := s.inFlight.eraseIdx i }.handleSelectPlugin created
  have hact : act s (.arrive i (.plugin created)) =
      some (selected.startPolling created.id captured) := act_arrive.mpr ⟨_, hf, rfl, rfl⟩
  have hview := congrArg View.selectedPlugin (selected.view_startPolling created.id captured)
  have hnow : (selected.startPolling created.id captured).selectedPlugin = some created := hview
  have heffect : step s (.arrive i (.plugin created)) =
      some (selected.startPolling created.id captured) := by
    refine step_of_act hact ?_
    rw [hnow, hcreated.selected]
    rfl
  cases heffect.symm.trans h
  refine ⟨?_, ?_, ?_, ?_⟩
  · exact (selected.compiling_startPolling created.id captured).trans hcreated.compiling
  · rintro ⟨plugin, body, hmem⟩
    rcases step_inFlight h _ hmem with hold | hsends
    · exact hcreated.unsaved ⟨plugin, body, hold⟩
    · cases hsends
  · rintro ⟨interval, hlive, hselected, hknows⟩
    rw [hnow] at hselected
    have hid : interval.id = created.id := (Option.some.inj hselected).symm
    have hintervals : (selected.startPolling created.id captured).intervals =
        (selected.pollers.start created.id captured).intervals :=
      congrArg Pollers.intervals (selected.pollers_startPolling created.id captured)
    rw [hintervals] at hlive
    rcases Pollers.mem_start.mp hlive with ⟨hold, hkept⟩ | rfl
    · exact hkept (hcreated.tracked interval hold hid)
    · exact hcaptured hknows
  · intro handle id selectedPlugin hmem hselected
    rw [hnow] at hselected
    cases Option.some.inj hselected
    rcases step_inFlight h _ hmem with hold | hsends
    · exact hcreated.unasked handle selectedPlugin hold
    · cases hsends

/-- Once nobody is left to enable the button, and so after an answer to a creation that finds its
    plugin selected, the plugin cannot be saved while it stays selected. -/
theorem save_locked {as : List Action}
    (hlocked : Locked s ∨ ∃ r i created, CreatedSelected r i created ∧
      step r (.arrive i (.plugin created)) = some s)
    (hkeeps : EachStep step s as KeepsSelection) (hrun : run step s as = some t) :
    step t .save = none := by
  have hstart : Locked s := by
    rcases hlocked with hlocked | ⟨r, i, created, hcreated, h⟩
    · exact hlocked
    · exact locked_created hcreated h
  have hstep : ∀ s a t, Locked s → KeepsSelection s a → step s a = some t → Locked t :=
    fun _ _ _ hs ha h => locked_step hs ha h
  have hlast := run_invariant_eachStep hstep hkeeps hstart hrun
  cases hsave : step t .save with
  | none => rfl
  | some u =>
      obtain ⟨v, hv, -⟩ := step_iff.mp hsave
      obtain ⟨plugin, -, hidle, -, -⟩ := act_save.mp hv
      rw [hlast.compiling] at hidle
      cases hidle

/-- A is created. The first list brings it, still pending, and it is selected. -/
def createdLate : List Action :=
  [.create "A" "code a", .arrive 0 (.plugins (some [pendingA]))]

/-- The interval that the answer to the creation has started finds A built. -/
def findsBuilt : List Action := [.pollTick 2, .arrive 2 (.plugin pluginA)]

theorem save_locked_created :
    ∃ r s t, run step (.mounted "") createdLate = some r ∧
      step r (.arrive 0 (.plugin pendingA)) = some s ∧ run step s findsBuilt = some t ∧
      t.plugins = [pluginA, pluginA] ∧ step t .save = none := by
  let r : App := (run step (.mounted "") createdLate).get rfl
  let s : App := (step r (.arrive 0 (.plugin pendingA))).get rfl
  have hinFlight : r.inFlight = [.handleCreatePlugin "A" "code a" none, .fetchMetrics "a"] := rfl
  have hcreated : CreatedSelected r 0 pendingA := by
    refine ⟨⟨"A", "code a", none, rfl, nofun⟩, rfl, rfl, ?_, ?_, ?_⟩
    · rintro ⟨plugin, body, hmem⟩
      rw [hinFlight] at hmem
      simp at hmem
    · intro interval hlive _
      have hintervals : r.intervals = [⟨1, "a", some pendingA⟩] := rfl
      rw [hintervals] at hlive
      cases List.mem_singleton.mp hlive
      rfl
    · intro handle selectedPlugin hmem
      rw [hinFlight] at hmem
      simp at hmem
  have hkeeps : EachStep step s findsBuilt KeepsSelection := by
    refine (eachStep_cons rfl).mpr ⟨⟨?_, createsAnother_of_ne nofun⟩,
      (eachStep_cons rfl).mpr ⟨⟨?_, ?_⟩, eachStep_nil⟩⟩
    · intro t ht
      cases ht
      rfl
    · intro t ht
      cases ht
      rfl
    · intro i created name sourceCode selectedPlugin ha hf
      cases ha
      cases hf
  exact ⟨r, s, _, rfl, rfl, rfl, rfl,
    save_locked (.inr ⟨r, 0, pendingA, hcreated, rfl⟩) hkeeps rfl⟩

end PluginSandbox.Dashboard
