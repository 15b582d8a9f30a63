/-
  The dashboard of `frontend/src/App.tsx`.

  A step is one thing the browser does without interruption: a user action, a tick of an
  interval, or what follows the answer to a request. React commits the updates of a step and
  runs the effects before the next one, so an action sees the current state. What runs later
  sees the render in which it was created: a request in flight (`Fetch`) and an interval
  (`Interval`) carry the `selectedPlugin` of that render and the other locals they still use.
  Requests are answered in any order, each by what the server can answer to it.

  The form that creates a plugin, the tabs and the texts on the page are left out: a create
  action brings the body that the form sends.
-/
import PluginSandbox.Lib.Runs
import PluginSandbox.Server.Api

namespace PluginSandbox.Dashboard

open PluginSandbox.Lib PluginSandbox.Db PluginSandbox.Server

/-! ## State -/

/-- `pluginName` and `editorCode`, with the plugin they were loaded from and those that were
    selected at the edits since then. The browser keeps only the two texts. -/
structure Draft where
  pluginName : String
  editorCode : String
  loadedFrom : Option String
  editedUnder : List String

def Draft.empty : Draft := ⟨"", "", none, []⟩

def Draft.load (plugin : Plugin) : Draft := ⟨plugin.name, plugin.sourceCode, some plugin.id, []⟩

/-- What a run answered, with the plugin it was a run of. -/
structure RunResult where
  pluginID : String
  response : ExecuteResponse

/-- A request in flight, under the function that sent it. -/
inductive Fetch where
  | fetchPlugins (selectFirst : Bool) (selectedPlugin : Option Plugin)
  | fetchMetrics (id : String)
  | handleCreatePlugin (name sourceCode : String) (selectedPlugin : Option Plugin)
  | handleSaveAndCompile (selectedPlugin : Plugin) (body : Draft)
  | handleDeletePlugin (id : String) (selectedPlugin : Option Plugin)
  | handleRunExecution (selectedPlugin : Plugin) (inputPayload : String)
  | startPolling (interval : Nat) (id : String) (selectedPlugin : Option Plugin)

/-- An interval of `startPolling` that has not been cleared. -/
structure Interval where
  handle : Nat
  id : String
  selectedPlugin : Option Plugin

/-- The component. -/
structure App where
  plugins : List Plugin
  selectedPlugin : Option Plugin
  draft : Draft
  inputPayload : String
  execResult : Option RunResult
  metricsData : List Execution
  isCompiling : Bool
  isRunning : Bool
  backendConnected : Bool
  pollingRef : String → Option Nat
  intervals : List Interval
  nextInterval : Nat
  inFlight : List Fetch

/-- After the first render and its effects. -/
def App.mounted (inputPayload : String) : App where
  plugins := []
  selectedPlugin := none
  draft := .empty
  inputPayload := inputPayload
  execResult := none
  metricsData := []
  isCompiling := false
  isRunning := false
  backendConnected := true
  pollingRef := fun _ => none
  intervals := []
  nextInterval := 1
  inFlight := [.fetchPlugins true none]

/-! ## Answers -/

/-- What a request ends with: a body, or an exception of `fetch`, of the status check or of
    `json`. -/
inductive Reply where
  | failed (message : String)
  | plugins (data : Slice Plugin)
  | executions (data : Slice Execution)
  | plugin (plugin : Plugin)
  | deleted
  | ran (data : ExecuteResponse)

/-- What the server can answer: the plugin that was asked for, and its executions. -/
def Fetch.answeredBy : Fetch → Reply → Bool
  | _, .failed _ => true
  | .fetchPlugins _ _, .plugins _ => true
  | .fetchMetrics id, .executions data => (data.getD []).all fun x => x.pluginID == id
  | .handleCreatePlugin _ _ _, .plugin _ => true
  | .handleSaveAndCompile selectedPlugin _, .plugin plugin => plugin.id == selectedPlugin.id
  | .handleDeletePlugin _ _, .deleted => true
  | .handleRunExecution _ _, .ran _ => true
  | .startPolling _ id _, .plugin plugin => plugin.id == id
  | _, _ => false

namespace App

/-! ## Intervals -/

def clearInterval (s : App) (handle : Nat) : App :=
  { s with intervals := s.intervals.filter fun i => i.handle != handle }

/-- `setInterval`, and the entry in `pollingRef`. -/
def startInterval (s : App) (id : String) (selectedPlugin : Option Plugin) : App :=
  { s with
    intervals := s.intervals ++ [⟨s.nextInterval, id, selectedPlugin⟩]
    nextInterval := s.nextInterval + 1
    pollingRef := Function.update s.pollingRef id (some s.nextInterval) }

def startPolling (s : App) (id : String) (selectedPlugin : Option Plugin) : App :=
  match s.pollingRef id with
  | none => s.startInterval id selectedPlugin
  | some handle => (s.clearInterval handle).startInterval id selectedPlugin

/-! ## Requests -/

def send (s : App) (f : Fetch) : App := { s with inFlight := s.inFlight ++ [f] }

def fetchPlugins (s : App) (selectFirst : Bool) (selectedPlugin : Option Plugin) :
    App :=
  s.send (.fetchPlugins selectFirst selectedPlugin)

def fetchMetrics (s : App) (id : String) : App := s.send (.fetchMetrics id)

def handleSelectPlugin (s : App) (plugin : Plugin) : App :=
  { s with
    selectedPlugin := some plugin
    draft := .load plugin
    execResult := none
    metricsData := [] }.fetchMetrics plugin.id

def handleCreatePlugin (s : App) (name sourceCode : String) : App :=
  s.send (.handleCreatePlugin name sourceCode s.selectedPlugin)

/-- The button is disabled while compiling and while the backend is away. -/
def handleSaveAndCompile (s : App) : Option App :=
  match s.selectedPlugin with
  | none => none
  | some plugin =>
    if s.isCompiling || !s.backendConnected then none
    else some ({ s with isCompiling := true }.send (.handleSaveAndCompile plugin s.draft))

def handleDeletePlugin (s : App) (id : String) : App :=
  s.send (.handleDeletePlugin id s.selectedPlugin)

/-- The button is disabled while a run is under way and unless the plugin is compiled. -/
def handleRunExecution (s : App) : Option App :=
  match s.selectedPlugin with
  | none => none
  | some plugin =>
    if s.isRunning || plugin.status != "compiled" then none
    else some ({ s with isRunning := true, execResult := none }.send
      (.handleRunExecution plugin s.inputPayload))

/-! ## Edits -/

/-- A change of the draft. Without a selected plugin there is no editor and the name field is
    disabled. -/
def edit (s : App) (change : Draft → Draft) : Option App :=
  match s.selectedPlugin with
  | none => none
  | some plugin =>
    let draft := change s.draft
    some { s with draft := { draft with editedUnder := plugin.id :: draft.editedUnder } }

def setPluginName (s : App) (pluginName : String) : Option App :=
  s.edit fun draft => { draft with pluginName }

def setEditorCode (s : App) (editorCode : String) : Option App :=
  s.edit fun draft => { draft with editorCode }

/-- Confirmed. -/
def handleLoadTemplate (s : App) (code : String) : Option App := s.setEditorCode code

/-! ## After an answer -/

/-- The plugin that was selected, as the list has it now. -/
def selectUpdated (s : App) (selectedPlugin : Option Plugin) (data : List Plugin) : App :=
  match selectedPlugin with
  | none => s
  | some plugin =>
    match data.find? fun p => p.id == plugin.id with
    | none => s
    | some updated => { s with selectedPlugin := some updated }

def fetchPluginsReply (s : App) (selectFirst : Bool) (selectedPlugin : Option Plugin)
    (data : List Plugin) : App :=
  let s₁ := { s with plugins := data, backendConnected := true }
  match selectFirst, data with
  | true, first :: _ => s₁.handleSelectPlugin first
  | _, _ => s₁.selectUpdated selectedPlugin data

/-- Spreading `null` throws. -/
def fetchMetricsReply (s : App) : Slice Execution → App
  | none => s
  | some data => { s with metricsData := data.reverse }

def handleCreatePluginReply (s : App) (selectedPlugin : Option Plugin) (created : Plugin) :
    App :=
  ({ s with plugins := created :: s.plugins }.handleSelectPlugin created).startPolling created.id
    selectedPlugin

/-- `setPlugins(prev => prev.map(…))`. -/
def replacePlugin (s : App) (id : String) (plugin : Plugin) : App :=
  { s with plugins := s.plugins.map fun p => if p.id == id then plugin else p }

def handleSaveAndCompileReply (s : App) (selectedPlugin : Plugin) (updated : Plugin) :
    App :=
  ({ s with selectedPlugin := some updated }.replacePlugin updated.id updated).startPolling
    updated.id (some selectedPlugin)

def handleDeletePluginReply (s : App) (id : String) (selectedPlugin : Option Plugin) :
    App :=
  let s₁ := { s with plugins := s.plugins.filter fun p => p.id != id }
  if selectedPlugin.map Plugin.id = some id then
    { s₁ with selectedPlugin := none, draft := .empty, metricsData := [], execResult := none }
  else s₁

def handleRunExecutionReply (s : App) (selectedPlugin : Plugin) (data : ExecuteResponse) :
    App :=
  { { s with execResult := some ⟨selectedPlugin.id, data⟩ }.fetchMetrics selectedPlugin.id with
    isRunning := false }

/-- The result that is shown when a run fails. -/
def executionError (message : String) : ExecuteResponse where
  output := []
  status := "runtime_error"
  durationMicros := 0
  memoryBytes := 0
  fuelConsumed := 0
  logs := utf8 ("CRITICAL EXECUTION ERROR:\n" ++ message)

def handleRunExecutionFailed (s : App) (selectedPlugin : Plugin) (message : String) :
    App :=
  { s with execResult := some ⟨selectedPlugin.id, executionError message⟩, isRunning := false }

def startPollingReply (s : App) (interval : Nat) (id : String)
    (selectedPlugin : Option Plugin) (plugin : Plugin) : App :=
  if plugin.status = "pending" then s
  else
    let s₁ := s.clearInterval interval
    let s₂ := { s₁ with pollingRef := Function.update s₁.pollingRef id none }
    if selectedPlugin.map Plugin.id = some id then
      { s₂ with selectedPlugin := some plugin, isCompiling := false }.replacePlugin id plugin
    else s₂.replacePlugin id plugin

def settle (s : App) : Fetch → Reply → App
  | .fetchPlugins selectFirst selectedPlugin, .plugins data =>
    s.fetchPluginsReply selectFirst selectedPlugin (data.getD [])
  | .fetchPlugins _ _, _ => { s with backendConnected := false }
  | .fetchMetrics _, .executions data => s.fetchMetricsReply data
  | .fetchMetrics _, _ => s
  | .handleCreatePlugin _ _ selectedPlugin, .plugin created =>
    s.handleCreatePluginReply selectedPlugin created
  | .handleCreatePlugin _ _ _, _ => s
  | .handleSaveAndCompile selectedPlugin _, .plugin updated =>
    s.handleSaveAndCompileReply selectedPlugin updated
  | .handleSaveAndCompile _ _, _ => { s with isCompiling := false }
  | .handleDeletePlugin id selectedPlugin, .deleted => s.handleDeletePluginReply id selectedPlugin
  | .handleDeletePlugin _ _, _ => s
  | .handleRunExecution selectedPlugin _, .ran data => s.handleRunExecutionReply selectedPlugin data
  | .handleRunExecution selectedPlugin _, .failed message =>
    s.handleRunExecutionFailed selectedPlugin message
  | .handleRunExecution _ _, _ => s
  | .startPolling interval id selectedPlugin, .plugin plugin =>
    s.startPollingReply interval id selectedPlugin plugin
  | .startPolling _ _ _, _ => s

/-! ## Steps -/

/-- The effect on `selectedPlugin?.id`, after a step from `before`. -/
def selectionEffect (before s : App) : App :=
  if s.selectedPlugin.map Plugin.id = before.selectedPlugin.map Plugin.id then s
  else
    match s.selectedPlugin with
    | none => { s with isCompiling := false }
    | some plugin =>
      if plugin.status = "pending" then
        { s with isCompiling := true }.startPolling plugin.id (some plugin)
      else { s with isCompiling := false }

end App

inductive Action where
  | select (plugin : Plugin)
  | setPluginName (pluginName : String)
  | setEditorCode (editorCode : String)
  | loadTemplate (code : String)
  | setInputPayload (inputPayload : String)
  | save
  | refresh
  | create (name sourceCode : String)
  /-- Confirmed. -/
  | delete (id : String)
  | run
  /-- The interval of the first render that fetches the list. -/
  | apiTick
  | pollTick (handle : Nat)
  | arrive (i : Nat) (reply : Reply)

/-- One step without its effect, `none` when the action is not enabled. -/
def act (s : App) : Action → Option App
  | .select plugin => if plugin ∈ s.plugins then some (s.handleSelectPlugin plugin) else none
  | .setPluginName pluginName => s.setPluginName pluginName
  | .setEditorCode editorCode => s.setEditorCode editorCode
  | .loadTemplate code => s.handleLoadTemplate code
  | .setInputPayload inputPayload => some { s with inputPayload }
  | .save => s.handleSaveAndCompile
  | .refresh => some (s.fetchPlugins false s.selectedPlugin)
  | .create name sourceCode => some (s.handleCreatePlugin name sourceCode)
  | .delete id => if id ∈ s.plugins.map Plugin.id then some (s.handleDeletePlugin id) else none
  | .run => s.handleRunExecution
  | .apiTick => some (s.fetchPlugins false none)
  | .pollTick handle =>
    (s.intervals.find? fun i => i.handle == handle).map fun i =>
      s.send (.startPolling i.handle i.id i.selectedPlugin)
  | .arrive i reply =>
    match s.inFlight[i]? with
    | none => none
    | some f =>
      if f.answeredBy reply then
        some ({ s with inFlight := s.inFlight.eraseIdx i }.settle f reply)
      else none

def step (s : App) (a : Action) : Option App :=
  (act s a).map s.selectionEffect

/-! ## Enabled actions -/

variable {s t : App}

theorem step_iff {a : Action} :
    step s a = some t ↔ ∃ u, act s a = some u ∧ s.selectionEffect u = t :=
  Option.map_eq_some_iff

theorem step_of_act {a : Action} (h : act s a = some t)
    (hsame : t.selectedPlugin.map Plugin.id = s.selectedPlugin.map Plugin.id) :
    step s a = some t :=
  step_iff.mpr ⟨t, h, if_pos hsame⟩

theorem edit_iff {change : Draft → Draft} :
    s.edit change = some t ↔ ∃ plugin, s.selectedPlugin = some plugin ∧
      { s with draft := { change s.draft with
        editedUnder := plugin.id :: (change s.draft).editedUnder } } = t := by
  unfold App.edit
  cases hplugin : s.selectedPlugin <;> simp

theorem act_select {plugin : Plugin} :
    act s (.select plugin) = some t ↔ plugin ∈ s.plugins ∧ s.handleSelectPlugin plugin = t := by
  show (if plugin ∈ s.plugins then some (s.handleSelectPlugin plugin) else none) = some t ↔ _
  split <;> simp [*]

theorem act_save :
    act s .save = some t ↔ ∃ plugin, s.selectedPlugin = some plugin ∧ s.isCompiling = false ∧
      s.backendConnected = true ∧
      { s with isCompiling := true }.send (.handleSaveAndCompile plugin s.draft) = t := by
  show s.handleSaveAndCompile = some t ↔ _
  unfold App.handleSaveAndCompile
  cases s.selectedPlugin with
  | none => simp
  | some plugin => cases s.isCompiling <;> cases s.backendConnected <;> simp

theorem act_delete {id : String} :
    act s (.delete id) = some t ↔ id ∈ s.plugins.map Plugin.id ∧ s.handleDeletePlugin id = t := by
  show (if id ∈ s.plugins.map Plugin.id then some (s.handleDeletePlugin id) else none) = some t ↔ _
  split <;> simp [*]

theorem act_run :
    act s .run = some t ↔ ∃ plugin, s.selectedPlugin = some plugin ∧ s.isRunning = false ∧
      plugin.status = "compiled" ∧
      { s with isRunning := true, execResult := none }.send
        (.handleRunExecution plugin s.inputPayload) = t := by
  show s.handleRunExecution = some t ↔ _
  unfold App.handleRunExecution
  cases s.selectedPlugin with
  | none => simp
  | some plugin =>
      by_cases hstatus : plugin.status = "compiled"
      · cases s.isRunning <;> simp [hstatus]
      · simp [hstatus]

theorem act_pollTick {handle : Nat} :
    act s (.pollTick handle) = some t ↔
      ∃ i, s.intervals.find? (fun i => i.handle == handle) = some i ∧
        s.send (.startPolling i.handle i.id i.selectedPlugin) = t :=
  Option.map_eq_some_iff

theorem act_arrive {i : Nat} {reply : Reply} :
    act s (.arrive i reply) = some t ↔
      ∃ f, s.inFlight[i]? = some f ∧ f.answeredBy reply = true ∧
        { s with inFlight := s.inFlight.eraseIdx i }.settle f reply = t := by
  show (match s.inFlight[i]? with
    | none => none
    | some f =>
      if f.answeredBy reply then some ({ s with inFlight := s.inFlight.eraseIdx i }.settle f reply)
      else none) = some t ↔ _
  cases s.inFlight[i]? with
  | none => simp
  | some f => cases f.answeredBy reply <;> simp

/-! ## Two plugins -/

def pluginA : Plugin where
  id := "a"
  name := "A"
  sourceCode := "code a"
  compiledWasm := []
  version := 2
  status := "compiled"
  compileErrors := ""
  createdAt := 0

def pluginB : Plugin := { pluginA with id := "b", name := "B", sourceCode := "code b" }

/-- The list with both. -/
def bothPlugins : Reply := .plugins (some [pluginA, pluginB])

end PluginSandbox.Dashboard
