/-
  The shown results and the selection.

  `metricsData` and `execResult` are cleared when the user selects a plugin and are written when
  an answer arrives, whatever is selected by then. `results_belong_iff`: they are of the
  selected plugin in exactly those runs where the answers to metrics and execute requests find
  their plugin selected, and an answer that selects another plugin finds no results.
-/
import PluginSandbox.Dashboard.View

namespace PluginSandbox.Dashboard

open PluginSandbox.Lib PluginSandbox.Db

variable {s t : App} {a : Action} {v : View}

/-! ## The invariant -/

/-- The executions and the result that are shown are of the selected plugin. -/
structure View.ResultsBelong (v : View) : Prop where
  metrics : ∀ x ∈ v.metricsData, v.selectedID = some x.pluginID
  result : ∀ r, v.execResult = some r → v.selectedID = some r.pluginID

def ResultsBelong (s : App) : Prop := s.view.ResultsBelong

/-- What an answer needs of the state it arrives in, so that the results stay with the
    selection. -/
structure Arrives (s : App) (f : Fetch) (reply : Reply) : Prop where
  reselects : ∀ updated, Reselects f reply updated →
    s.selectedPlugin.map Plugin.id = some updated.id ∨ s.metricsData = [] ∧ s.execResult = none
  metrics : ∀ id data, f = .fetchMetrics id → reply = .executions (some data) →
    data = [] ∨ s.selectedPlugin.map Plugin.id = some id
  result : ∀ plugin inputPayload, f = .handleRunExecution plugin inputPayload →
    s.selectedPlugin.map Plugin.id = some plugin.id

/-- An answer arrives while what it writes still fits the selection. -/
def ResultsKept (s : App) (a : Action) : Prop :=
  ∀ i reply f, a = .arrive i reply → s.inFlight[i]? = some f → Arrives s f reply

/-! ## Writes -/

/-- What a write needs of the view. -/
def View.Admits (v : View) : Write → Prop
  | .reselect updated => v.selectedID = some updated.id ∨ v.metricsData = [] ∧ v.execResult = none
  | .metrics id metricsData => metricsData = [] ∨ v.selectedID = some id
  | .result r => v.selectedID = some r.pluginID
  | _ => True

theorem resultsBelong_reselect (h : v.ResultsBelong) (updated : Plugin) :
    (v.write (.reselect updated)).ResultsBelong ↔ v.Admits (.reselect updated) := by
  constructor
  · intro hbelongs
    cases hmetrics : v.metricsData with
    | cons x rest =>
        have hx : x ∈ v.metricsData := hmetrics ▸ List.mem_cons_self
        exact .inl ((h.metrics x hx).trans (hbelongs.metrics x hx).symm)
    | nil =>
        cases hresult : v.execResult with
        | some r => exact .inl ((h.result r hresult).trans (hbelongs.result r hresult).symm)
        | none => exact .inr ⟨hmetrics, hresult⟩
  · rintro (hid | ⟨hmetrics, hresult⟩)
    · exact ⟨fun x hx => hid.symm.trans (h.metrics x hx),
        fun r hr => hid.symm.trans (h.result r hr)⟩
    · refine ⟨fun x hx => ?_, fun r hr => ?_⟩
      · have hx' : x ∈ v.metricsData := hx
        rw [hmetrics] at hx'
        cases hx'
      · have hr' : v.execResult = some r := hr
        rw [hresult] at hr'
        cases hr'

theorem resultsBelong_metrics (h : v.ResultsBelong) {id : String} {metricsData : List Execution}
    (howned : ∀ x ∈ metricsData, x.pluginID = id) :
    (v.write (.metrics id metricsData)).ResultsBelong ↔ v.Admits (.metrics id metricsData) := by
  constructor
  · intro hbelongs
    cases metricsData with
    | nil => exact .inl rfl
    | cons x rest =>
        have hx : x ∈ x :: rest := List.mem_cons_self
        exact .inr ((hbelongs.metrics x hx).trans (congrArg some (howned x hx)))
  · rintro (rfl | hid)
    · exact ⟨nofun, h.result⟩
    · exact ⟨fun x hx => hid.trans (congrArg some (howned x hx).symm), h.result⟩

/-- A write keeps the results with the selection exactly when the view admits it. -/
theorem resultsBelong_write (h : v.ResultsBelong) {w : Write}
    (howned : ∀ id metricsData, w = .metrics id metricsData → ∀ x ∈ metricsData, x.pluginID = id) :
    (v.write w).ResultsBelong ↔ v.Admits w := by
  cases w with
  | none => exact iff_of_true h trivial
  | select plugin => exact iff_of_true ⟨nofun, nofun⟩ trivial
  | reselect updated => exact resultsBelong_reselect h updated
  | deselect => exact iff_of_true ⟨nofun, nofun⟩ trivial
  | edit pluginName editorCode =>
      obtain ⟨draft, hdraft⟩ := write_edit v pluginName editorCode
      rw [hdraft]
      exact iff_of_true ⟨h.metrics, h.result⟩ trivial
  | clearResult => exact iff_of_true ⟨h.metrics, nofun⟩ trivial
  | result r =>
      constructor
      · exact fun hbelongs => hbelongs.result r rfl
      · intro hid
        refine ⟨h.metrics, fun r' hr => ?_⟩
        cases hr
        exact hid
  | metrics id metricsData => exact resultsBelong_metrics h (howned id metricsData rfl)

/-! ## Steps -/

theorem admits_answer {f : Fetch} {reply : Reply} (hanswered : f.answeredBy reply = true) :
    s.view.Admits (f.writes reply) ↔ Arrives s f reply := by
  constructor
  · intro h
    refine ⟨?_, ?_, ?_⟩
    · intro updated hreselects
      rw [writes_reselect_iff.mpr hreselects] at h
      exact h
    · rintro id data rfl rfl
      rcases h with hempty | hid
      · exact .inl (List.reverse_eq_nil_iff.mp hempty)
      · exact .inr hid
    · rintro plugin inputPayload rfl
      cases reply with
      | failed message => exact h
      | ran data => exact h
      | _ => cases hanswered
  · intro h
    cases hw : f.writes reply with
    | none | select | deselect | edit | clearResult => trivial
    | reselect updated => exact h.reselects updated (writes_reselect_iff.mp hw)
    | metrics id metricsData =>
        obtain ⟨rfl, data, rfl, rfl⟩ := metrics_answer hw
        rcases h.metrics id data rfl rfl with rfl | hid
        · exact .inl rfl
        · exact .inr hid
    | result r =>
        obtain ⟨plugin, inputPayload, rfl, hr⟩ := result_answer hw
        exact (h.result plugin inputPayload rfl).trans (congrArg some hr.symm)

theorem admits_iff (h : step s a = some t) : s.view.Admits (a.writes s) ↔ ResultsKept s a := by
  cases a with
  | arrive i reply =>
      obtain ⟨u, hu, -⟩ := step_iff.mp h
      obtain ⟨f, hf, hanswered, -⟩ := act_arrive.mp hu
      rw [writes_arrive hf, admits_answer hanswered]
      constructor
      · intro harrives i' reply' f' ha hf'
        cases ha
        cases hf.symm.trans hf'
        exact harrives
      · exact fun hkept => hkept i reply f rfl hf
  | _ => exact iff_of_true trivial fun _ _ _ ha => by cases ha

theorem step_resultsBelong (hbelongs : ResultsBelong s) (h : step s a = some t) :
    ResultsBelong t ↔ ResultsKept s a := by
  unfold ResultsBelong
  rw [step_view h, resultsBelong_write hbelongs fun _ _ => step_owned h]
  exact admits_iff h

/-! ## Runs -/

/-- What is shown is of the selected plugin in exactly those runs where every answer arrives while
    it still fits the selection. -/
theorem results_belong_iff (inputPayload : String) (as : List Action) :
    Throughout step (.mounted inputPayload) as ResultsBelong ↔
      EachStep step (.mounted inputPayload) as ResultsKept := by
  have hstep : ∀ (s : App) (a : Action) (t : App), True → ResultsBelong s → step s a = some t →
      (ResultsBelong t ↔ ResultsKept s a) := fun _ _ _ _ hbelongs h => step_resultsBelong hbelongs h
  have hstart : ResultsBelong (.mounted inputPayload) := ⟨nofun, nofun⟩
  exact throughout_iff_eachStep (fun _ _ _ _ _ => trivial) hstep as trivial hstart

/-- The metrics of A, asked for when A was selected, arrive under B. -/
theorem metrics_of_other_plugin :
    ¬ ∀ (inputPayload : String) (as : List Action),
      Throughout step (.mounted inputPayload) as ResultsBelong := by
  intro h
  let as : List Action := [.arrive 0 bothPlugins, .select pluginB,
    .arrive 0 (.executions (some [⟨"e", "a", 1, 0, 0, "success", [], 0⟩]))]
  obtain ⟨s, hrun, hselected, hmetrics⟩ : ∃ s, run step (.mounted "") as = some s ∧
      s.view.selectedID = some "b" ∧
      s.metricsData = [⟨"e", "a", 1, 0, 0, "success", [], 0⟩] := ⟨_, rfl, rfl, rfl⟩
  have hinv := h "" as as [] s (List.append_nil _).symm hrun
  have hmem : ⟨"e", "a", 1, 0, 0, "success", [], 0⟩ ∈ s.metricsData := by
    rw [hmetrics]
    exact List.mem_cons_self
  have hx := hinv.metrics _ hmem
  rw [hselected] at hx
  exact absurd (Option.some.inj hx) (by decide)

end PluginSandbox.Dashboard
