/-
  The editor and the selection.

  Selecting a plugin loads it into the editor. A refreshed list, a finished save and a finished
  build set `selectedPlugin` alone, with the plugin that was selected when the request or the
  interval was made. `editor_belongs_iff`: the editor holds the texts of the selected plugin,
  and no `PUT` brings them to another one, in exactly those runs where such an answer arrives
  while its plugin is still the selected one.
-/
import PluginSandbox.Dashboard.View

namespace PluginSandbox.Dashboard

open PluginSandbox.Lib PluginSandbox.Db

variable {s t : App} {a : Action}

/-! ## The invariant -/

/-- Loaded from the plugin `id` and edited only while it was selected. -/
structure Draft.BelongsTo (draft : Draft) (id : String) : Prop where
  loaded : draft.loadedFrom = some id
  edited : ∀ k ∈ draft.editedUnder, k = id

def View.EditorBelongs (v : View) : Prop :=
  ∀ plugin, v.selectedPlugin = some plugin → v.draft.BelongsTo plugin.id

/-- The editor holds the texts of the selected plugin, and every `PUT` in flight carries texts of
    the plugin it is sent to. -/
def EditorInStep (s : App) : Prop :=
  s.view.EditorBelongs ∧ ∀ put ∈ s.puts, put.2.BelongsTo put.1.id

/-- An answer that selects a plugin without loading it finds that plugin selected. -/
def SelectionKept (s : App) (a : Action) : Prop :=
  ∀ i reply f updated, a = .arrive i reply → s.inFlight[i]? = some f → Reselects f reply updated →
    s.selectedPlugin.map Plugin.id = some updated.id

/-- Nothing is left in the editor when nothing is selected. -/
def View.Cleared (v : View) : Prop := v.selectedPlugin = none → v.draft = .empty

/-! ## Writes -/

theorem cleared_write {v : View} (h : v.Cleared) (w : Write) : (v.write w).Cleared := by
  cases w with
  | none | clearResult | result | metrics => exact h
  | select | reselect => exact nofun
  | deselect => exact fun _ => rfl
  | edit pluginName editorCode =>
      unfold View.write
      dsimp only
      cases hselected : v.selectedPlugin with
      | none => exact h
      | some plugin =>
          intro hnone
          cases hnone

theorem belongsTo_load (plugin : Plugin) : (Draft.load plugin).BelongsTo plugin.id :=
  ⟨rfl, nofun⟩

/-- Texts belong to one plugin. -/
theorem belongsTo_unique {draft : Draft} {id id' : String} (h : draft.BelongsTo id)
    (h' : draft.BelongsTo id') : id = id' :=
  Option.some.inj (h.loaded.symm.trans h'.loaded)

theorem editorBelongs_reselect {v : View} (hcleared : v.Cleared) (h : v.EditorBelongs)
    (updated : Plugin) :
    (v.write (.reselect updated)).EditorBelongs ↔ v.selectedID = some updated.id := by
  constructor
  · intro hbelongs
    have hupdated : v.draft.BelongsTo updated.id := hbelongs updated rfl
    unfold View.selectedID
    cases hselected : v.selectedPlugin with
    | none =>
        rw [hcleared hselected] at hupdated
        cases hupdated.loaded
    | some plugin => exact congrArg some (belongsTo_unique (h plugin hselected) hupdated)
  · intro hid updated' hupdated
    cases hupdated
    obtain ⟨plugin, hselected, hplugin⟩ := Option.map_eq_some_iff.mp hid
    have hdraft : (v.write (.reselect updated)).draft = v.draft := rfl
    rw [hdraft, ← hplugin]
    exact h plugin hselected

/-- Every other write keeps the editor with the selection. -/
theorem editorBelongs_write {v : View} (h : v.EditorBelongs) {w : Write}
    (hw : ∀ updated, w ≠ .reselect updated) : (v.write w).EditorBelongs := by
  cases w with
  | none | clearResult | result | metrics => exact h
  | select plugin =>
      intro plugin' hplugin
      cases hplugin
      exact belongsTo_load plugin
  | reselect updated => exact absurd rfl (hw updated)
  | deselect => exact nofun
  | edit pluginName editorCode =>
      unfold View.write
      dsimp only
      cases hselected : v.selectedPlugin with
      | none => exact h
      | some plugin =>
          intro plugin' hplugin
          cases hplugin
          have hbelongs := h plugin hselected
          refine ⟨hbelongs.loaded, fun k hk => ?_⟩
          rcases List.mem_cons.mp hk with rfl | hk
          · rfl
          · exact hbelongs.edited k hk

/-! ## Steps -/

theorem selectionKept_iff :
    SelectionKept s a ↔
      ∀ updated, a.writes s = .reselect updated → s.view.selectedID = some updated.id := by
  constructor
  · intro h updated hw
    obtain ⟨i, reply, f, ha, hf, hreselects⟩ := reselect_iff.mp hw
    exact h i reply f updated ha hf hreselects
  · intro h i reply f updated ha hf hreselects
    exact h updated (reselect_iff.mpr ⟨i, reply, f, ha, hf, hreselects⟩)

theorem puts_belong (hbelongs : EditorInStep s) (h : step s a = some t) :
    ∀ put ∈ t.puts, put.2.BelongsTo put.1.id := by
  intro put hput
  rcases step_puts h put hput with hold | ⟨plugin, hselected, rfl⟩
  · exact hbelongs.2 put hold
  · exact hbelongs.1 plugin hselected

theorem step_editorInStep (hcleared : s.view.Cleared) (hbelongs : EditorInStep s)
    (h : step s a = some t) : EditorInStep t ↔ SelectionKept s a := by
  rw [selectionKept_iff]
  unfold EditorInStep
  rw [and_iff_left (puts_belong hbelongs h), step_view h]
  by_cases hw : ∃ updated, a.writes s = .reselect updated
  · obtain ⟨updated, hw⟩ := hw
    rw [hw, editorBelongs_reselect hcleared hbelongs.1]
    simp
  · refine iff_of_true ?_ fun updated hupdated => absurd ⟨updated, hupdated⟩ hw
    exact editorBelongs_write hbelongs.1 fun updated hupdated => hw ⟨updated, hupdated⟩

/-! ## Runs -/

/-- The editor and the `PUT` requests stay with the selected plugin in exactly those runs where no
    answer brings a selection back that has changed in the meantime. -/
theorem editor_belongs_iff (inputPayload : String) (as : List Action) :
    Throughout step (.mounted inputPayload) as EditorInStep ↔
      EachStep step (.mounted inputPayload) as SelectionKept := by
  have haux : ∀ (s : App) (a : Action) (t : App),
      s.view.Cleared → step s a = some t → t.view.Cleared := by
    intro s a t hcleared h
    rw [step_view h]
    exact cleared_write hcleared _
  exact throughout_iff_eachStep haux (fun _ _ _ hcleared hbelongs h =>
    step_editorInStep hcleared hbelongs h) as (fun _ => rfl) ⟨nofun, nofun⟩

/-- A refresh that is asked for under A arrives under B: A is selected again with the texts of B
    in the editor, and the next save sends them to A. -/
def refreshThenSwitch : List Action :=
  [.arrive 0 bothPlugins, .refresh, .select pluginB, .arrive 1 bothPlugins, .save]

theorem put_overwrites_other_plugin :
    ¬ ∀ (inputPayload : String) (as : List Action),
      Throughout step (.mounted inputPayload) as EditorInStep := by
  intro h
  obtain ⟨s, hrun, hputs⟩ : ∃ s, run step (.mounted "") refreshThenSwitch = some s ∧
      s.puts = [(pluginA, .load pluginB)] := ⟨_, rfl, rfl⟩
  have hinv := h "" refreshThenSwitch refreshThenSwitch [] s (List.append_nil _).symm hrun
  have hput := hinv.2 (pluginA, .load pluginB) (by rw [hputs]; exact List.mem_cons_self)
  exact absurd (Option.some.inj hput.loaded) (by decide)

end PluginSandbox.Dashboard
