/-
  The polling intervals and `pollingRef`.

  `startPolling` replaces the interval of a plugin; an answer other than `pending` clears the
  interval that asked, and deletes the entry of the plugin whichever interval it names by then;
  deleting a plugin touches neither. These two writes (`start`, `stop`) make a machine of
  their own (`Pollers`), and `step_pollers` says which of them a step makes.

  Every entry of `pollingRef` is live under its key (`PollersSound`, an invariant of all runs).
  `polling_tracked_iff`: every live interval is an entry, and none is for a deleted plugin, in
  exactly those runs where no answer deletes the entry of a later interval, no plugin is
  deleted while it is polled, and none is polled after that.
-/
import PluginSandbox.Dashboard.View

namespace PluginSandbox.Dashboard

open PluginSandbox.Lib PluginSandbox.Db

/-! ## The machine -/

structure Pollers where
  pollingRef : String → Option Nat
  intervals : List Interval
  nextInterval : Nat

namespace Pollers

variable (p : Pollers)

def clear (handle : Nat) : Pollers :=
  { p with intervals := p.intervals.filter fun i => i.handle != handle }

def set (id : String) (selectedPlugin : Option Plugin) : Pollers where
  pollingRef := Function.update p.pollingRef id (some p.nextInterval)
  intervals := p.intervals ++ [⟨p.nextInterval, id, selectedPlugin⟩]
  nextInterval := p.nextInterval + 1

/-- `startPolling(id)`. -/
def start (id : String) (selectedPlugin : Option Plugin) : Pollers :=
  match p.pollingRef id with
  | none => p.set id selectedPlugin
  | some handle => (p.clear handle).set id selectedPlugin

/-- What a tick of the interval `handle` does with an answer other than `pending`. -/
def stop (handle : Nat) (id : String) : Pollers :=
  { p.clear handle with pollingRef := Function.update p.pollingRef id none }

/-- Calls of `startPolling` in order. -/
def startAll (starts : List (String × Option Plugin)) : Pollers :=
  starts.foldl (fun p x => p.start x.1 x.2) p

end Pollers

def App.pollers (s : App) : Pollers := ⟨s.pollingRef, s.intervals, s.nextInterval⟩

/-! ## What a step starts and stops -/

/-- The answers that start polling. -/
def Fetch.starts : Fetch → Reply → List (String × Option Plugin)
  | .handleCreatePlugin _ _ selectedPlugin, .plugin created => [(created.id, selectedPlugin)]
  | .handleSaveAndCompile selectedPlugin _, .plugin updated => [(updated.id, some selectedPlugin)]
  | _, _ => []

/-- The effect on `selectedPlugin?.id`: a newly selected plugin that is pending. -/
def effectStarts (before : Option String) : Option Plugin → List (String × Option Plugin)
  | none => []
  | some plugin =>
    if some plugin.id ≠ before ∧ plugin.status = "pending" then [(plugin.id, some plugin)] else []

def Action.answerStarts (s : App) : Action → List (String × Option Plugin)
  | .arrive i reply =>
    match s.inFlight[i]? with
    | none => []
    | some f => f.starts reply
  | _ => []

/-- The calls of `startPolling` that a step makes. -/
def Action.starts (s : App) (a : Action) : List (String × Option Plugin) :=
  a.answerStarts s ++ effectStarts s.view.selectedID (s.view.write (a.writes s)).selectedPlugin

/-- An answer that finds the plugin built: the interval that asked, and the plugin. -/
inductive Stops (s : App) : Action → Nat → String → Prop where
  | built (i handle : Nat) (id : String) (selectedPlugin : Option Plugin) (plugin : Plugin)
      (hf : s.inFlight[i]? = some (.startPolling handle id selectedPlugin))
      (hstatus : plugin.status ≠ "pending") : Stops s (.arrive i (.plugin plugin)) handle id

namespace App

variable (s : App)

theorem pollers_startPolling (id : String) (selectedPlugin : Option Plugin) :
    (s.startPolling id selectedPlugin).pollers = s.pollers.start id selectedPlugin := by
  unfold startPolling Pollers.start
  have href : s.pollers.pollingRef = s.pollingRef := rfl
  rw [href]
  cases s.pollingRef id <;> rfl

theorem pollers_selectionEffect (before : App) :
    (before.selectionEffect s).pollers =
      s.pollers.startAll (effectStarts before.view.selectedID s.view.selectedPlugin) := by
  have hbefore : before.view.selectedID = before.selectedPlugin.map Plugin.id := rfl
  have hselected : s.view.selectedPlugin = s.selectedPlugin := rfl
  unfold selectionEffect effectStarts
  rw [hbefore, hselected]
  cases s.selectedPlugin with
  | none => split <;> rfl
  | some plugin =>
      dsimp only [Option.map_some]
      by_cases hsame : some plugin.id = before.selectedPlugin.map Plugin.id
      · rw [if_pos hsame, if_neg fun h => h.1 hsame]
        rfl
      · rw [if_neg hsame]
        by_cases hpending : plugin.status = "pending"
        · rw [if_pos hpending, if_pos ⟨hsame, hpending⟩]
          exact pollers_startPolling _ plugin.id (some plugin)
        · rw [if_neg hpending, if_neg fun h => hpending h.2]
          rfl

theorem pollers_edit {s t : App} (change : Draft → Draft) (h : s.edit change = some t) :
    t.pollers = s.pollers := by
  obtain ⟨plugin, -, rfl⟩ := edit_iff.mp h
  rfl

theorem pollers_selectUpdated (selectedPlugin : Option Plugin) (data : List Plugin) :
    (s.selectUpdated selectedPlugin data).pollers = s.pollers := by
  unfold selectUpdated
  split
  · rfl
  · split <;> rfl

theorem pollers_fetchPluginsReply (selectFirst : Bool) (selectedPlugin : Option Plugin)
    (data : List Plugin) :
    (s.fetchPluginsReply selectFirst selectedPlugin data).pollers = s.pollers := by
  unfold fetchPluginsReply
  dsimp only
  split
  · rfl
  · exact pollers_selectUpdated _ selectedPlugin data

theorem pollers_handleDeletePluginReply (id : String) (selectedPlugin : Option Plugin) :
    (s.handleDeletePluginReply id selectedPlugin).pollers = s.pollers := by
  unfold handleDeletePluginReply
  dsimp only
  split <;> rfl

theorem pollers_startPollingReply_pending (handle : Nat) (id : String)
    (selectedPlugin : Option Plugin) {plugin : Plugin} (h : plugin.status = "pending") :
    (s.startPollingReply handle id selectedPlugin plugin).pollers = s.pollers := by
  unfold startPollingReply
  rw [if_pos h]

theorem pollers_startPollingReply (handle : Nat) (id : String) (selectedPlugin : Option Plugin)
    {plugin : Plugin} (h : plugin.status ≠ "pending") :
    (s.startPollingReply handle id selectedPlugin plugin).pollers = s.pollers.stop handle id := by
  unfold startPollingReply
  rw [if_neg h]
  dsimp only
  split <;> rfl

/-- Every answer but that of a poll starts polling at most. -/
theorem pollers_settle (f : Fetch) (reply : Reply)
    (hpoll : ∀ handle id selectedPlugin plugin, f = .startPolling handle id selectedPlugin →
      reply = .plugin plugin → plugin.status = "pending") :
    (s.settle f reply).pollers = s.pollers.startAll (f.starts reply) := by
  cases f with
  | fetchPlugins selectFirst selectedPlugin =>
      cases reply with
      | plugins data => exact pollers_fetchPluginsReply s selectFirst selectedPlugin _
      | _ => rfl
  | fetchMetrics id =>
      cases reply with
      | executions data => cases data <;> rfl
      | _ => rfl
  | handleCreatePlugin name sourceCode selectedPlugin =>
      cases reply with
      | plugin created => exact pollers_startPolling _ created.id selectedPlugin
      | _ => rfl
  | handleSaveAndCompile selectedPlugin body =>
      cases reply with
      | plugin updated => exact pollers_startPolling _ updated.id (some selectedPlugin)
      | _ => rfl
  | handleDeletePlugin id selectedPlugin =>
      cases reply with
      | deleted => exact s.pollers_handleDeletePluginReply id selectedPlugin
      | _ => rfl
  | handleRunExecution selectedPlugin inputPayload => cases reply <;> rfl
  | startPolling handle id selectedPlugin =>
      cases reply with
      | plugin plugin =>
          exact s.pollers_startPollingReply_pending handle id selectedPlugin
            (hpoll handle id selectedPlugin plugin rfl rfl)
      | _ => rfl

end App

variable {s t : App} {a : Action}

theorem answerStarts_arrive {i : Nat} {reply : Reply} {f : Fetch} (hf : s.inFlight[i]? = some f) :
    (Action.arrive i reply).answerStarts s = f.starts reply := by
  show (match s.inFlight[i]? with
    | none => []
    | some f => f.starts reply) = f.starts reply
  rw [hf]

theorem act_pollers (h : act s a = some t) (hstops : ∀ handle id, ¬ Stops s a handle id) :
    t.pollers = s.pollers.startAll (a.answerStarts s) := by
  cases a with
  | select plugin =>
      obtain ⟨-, rfl⟩ := act_select.mp h
      rfl
  | setPluginName pluginName =>
      exact App.pollers_edit (fun draft => { draft with pluginName }) h
  | setEditorCode editorCode =>
      exact App.pollers_edit (fun draft => { draft with editorCode }) h
  | loadTemplate code =>
      exact App.pollers_edit (fun draft => { draft with editorCode := code }) h
  | setInputPayload | refresh | create | apiTick =>
      cases h
      rfl
  | save =>
      obtain ⟨plugin, -, -, -, rfl⟩ := act_save.mp h
      rfl
  | delete id =>
      obtain ⟨-, rfl⟩ := act_delete.mp h
      rfl
  | run =>
      obtain ⟨plugin, -, -, -, rfl⟩ := act_run.mp h
      rfl
  | pollTick handle =>
      obtain ⟨i, -, rfl⟩ := act_pollTick.mp h
      rfl
  | arrive i reply =>
      obtain ⟨f, hf, -, rfl⟩ := act_arrive.mp h
      rw [answerStarts_arrive hf]
      refine App.pollers_settle _ f reply ?_
      rintro handle id selectedPlugin plugin rfl rfl
      exact not_not.mp fun hstatus =>
        hstops handle id (.built i handle id selectedPlugin plugin hf hstatus)

/-- A step that stops no interval makes the calls of `startPolling` that follow from it. -/
theorem step_starts (h : step s a = some t) (hstops : ∀ handle id, ¬ Stops s a handle id) :
    t.pollers = s.pollers.startAll (a.starts s) := by
  obtain ⟨u, hu, rfl⟩ := step_iff.mp h
  rw [App.pollers_selectionEffect, view_act hu, act_pollers hu hstops]
  unfold Action.starts Pollers.startAll
  rw [List.foldl_append]

/-- Without a new selection the effect does not run. -/
theorem effectStarts_same (v : View) : effectStarts v.selectedID v.selectedPlugin = [] := by
  unfold View.selectedID effectStarts
  cases v.selectedPlugin with
  | none => rfl
  | some plugin => exact if_neg fun hboth => hboth.1 rfl

theorem effectStarts_built {v : View} {id : String} {selectedPlugin : Option Plugin}
    {plugin : Plugin} (h : plugin.status ≠ "pending") :
    effectStarts v.selectedID (v.write (polledWrites id selectedPlugin plugin)).selectedPlugin =
      [] := by
  unfold polledWrites
  rw [if_neg h]
  split
  · exact if_neg fun hboth => h hboth.2
  · exact effectStarts_same v

/-- An answer that finds the plugin built stops the interval and starts none. -/
theorem step_stops {handle : Nat} {id : String} (h : step s a = some t)
    (hstops : Stops s a handle id) : t.pollers = s.pollers.stop handle id := by
  cases hstops with
  | built i _ _ selectedPlugin plugin hf hstatus =>
      obtain ⟨u, hu, rfl⟩ := step_iff.mp h
      obtain ⟨f, hf', -, hsettled⟩ := act_arrive.mp hu
      cases hf.symm.trans hf'
      have hwrites : (Action.arrive i (.plugin plugin)).writes s =
          polledWrites id selectedPlugin plugin := writes_arrive hf
      rw [App.pollers_selectionEffect, view_act hu, hwrites, effectStarts_built hstatus, ← hsettled]
      exact App.pollers_startPollingReply _ handle id selectedPlugin hstatus

/-! ## Entries are live -/

namespace Pollers

structure Sound (p : Pollers) : Prop where
  distinct : ∀ i ∈ p.intervals, ∀ j ∈ p.intervals, i.handle = j.handle → i = j
  issued : ∀ i ∈ p.intervals, i.handle < p.nextInterval
  live : ∀ id handle, p.pollingRef id = some handle →
    ∃ i ∈ p.intervals, i.handle = handle ∧ i.id = id

/-- `handle` was issued, for the plugin `id` if it is still live. -/
structure Asked (p : Pollers) (handle : Nat) (id : String) : Prop where
  issued : handle < p.nextInterval
  own : ∀ i ∈ p.intervals, i.handle = handle → i.id = id

/-- Every live interval is the entry of its plugin, and none is for a deleted one. -/
def Tracks (p : Pollers) (deleted : List String) : Prop :=
  ∀ i ∈ p.intervals, p.pollingRef i.id = some i.handle ∧ i.id ∉ deleted

variable {p : Pollers} {id : String} {selectedPlugin : Option Plugin} {deleted : List String}

theorem pollingRef_start :
    (p.start id selectedPlugin).pollingRef =
      Function.update p.pollingRef id (some p.nextInterval) := by
  unfold start
  split <;> rfl

theorem nextInterval_start : (p.start id selectedPlugin).nextInterval = p.nextInterval + 1 := by
  unfold start
  split <;> rfl

theorem mem_clear {handle : Nat} {i : Interval} :
    i ∈ (p.clear handle).intervals ↔ i ∈ p.intervals ∧ i.handle ≠ handle := by
  unfold clear
  simp

/-- `start` clears the interval of its entry and adds one. -/
theorem mem_start {i : Interval} :
    i ∈ (p.start id selectedPlugin).intervals ↔
      (i ∈ p.intervals ∧ p.pollingRef id ≠ some i.handle) ∨
        i = ⟨p.nextInterval, id, selectedPlugin⟩ := by
  unfold start
  cases p.pollingRef id with
  | none => simp [set]
  | some handle =>
      have hset : i ∈ ((p.clear handle).set id selectedPlugin).intervals ↔
          i ∈ (p.clear handle).intervals ∨ i = ⟨p.nextInterval, id, selectedPlugin⟩ := by
        simp [set, clear]
      rw [hset, mem_clear, ne_comm, ne_eq, ne_eq, Option.some_inj]

/-- The interval of an entry belongs to the plugin of the entry. -/
theorem Sound.entry (h : p.Sound) {i : Interval} (hi : i ∈ p.intervals)
    (href : p.pollingRef id = some i.handle) : i.id = id := by
  obtain ⟨j, hj, hhandle, hid⟩ := h.live id i.handle href
  rw [h.distinct i hi j hj hhandle.symm]
  exact hid

theorem sound_start (h : p.Sound) : (p.start id selectedPlugin).Sound := by
  refine ⟨?_, ?_, ?_⟩
  · intro i hi j hj heq
    rcases mem_start.mp hi with ⟨hi, -⟩ | rfl
    · rcases mem_start.mp hj with ⟨hj, -⟩ | rfl
      · exact h.distinct i hi j hj heq
      · exact absurd heq (Nat.ne_of_lt (h.issued i hi))
    · rcases mem_start.mp hj with ⟨hj, -⟩ | rfl
      · exact absurd heq.symm (Nat.ne_of_lt (h.issued j hj))
      · rfl
  · intro i hi
    rw [nextInterval_start]
    rcases mem_start.mp hi with ⟨hi, -⟩ | rfl
    · exact Nat.lt_succ_of_lt (h.issued i hi)
    · exact Nat.lt_succ_self _
  · intro k handle href
    rw [pollingRef_start] at href
    by_cases hk : k = id
    · rw [hk, Function.update_self] at href
      cases href
      exact ⟨_, mem_start.mpr (.inr rfl), rfl, hk.symm⟩
    · rw [Function.update_of_ne hk] at href
      obtain ⟨i, hi, rfl, hid⟩ := h.live k handle href
      refine ⟨i, mem_start.mpr (.inl ⟨hi, fun hentry => ?_⟩), rfl, hid⟩
      exact hk (hid.symm.trans (h.entry hi hentry))

theorem sound_stop {handle : Nat} (h : p.Sound) (hasked : p.Asked handle id) :
    (p.stop handle id).Sound := by
  refine ⟨?_, ?_, ?_⟩
  · intro i hi j hj heq
    exact h.distinct i (mem_clear.mp hi).1 j (mem_clear.mp hj).1 heq
  · intro i hi
    exact h.issued i (mem_clear.mp hi).1
  · intro k handle' href
    have href' : Function.update p.pollingRef id none k = some handle' := href
    by_cases hk : k = id
    · rw [hk, Function.update_self] at href'
      cases href'
    · rw [Function.update_of_ne hk] at href'
      obtain ⟨i, hi, rfl, hid⟩ := h.live k handle' href'
      refine ⟨i, mem_clear.mpr ⟨hi, fun hhandle => ?_⟩, rfl, hid⟩
      exact hk (hid.symm.trans (hasked.own i hi hhandle))

theorem asked_start {handle : Nat} {k : String} (h : p.Asked handle k) :
    (p.start id selectedPlugin).Asked handle k := by
  refine ⟨?_, ?_⟩
  · rw [nextInterval_start]
    exact Nat.lt_succ_of_lt h.issued
  · intro i hi hhandle
    rcases mem_start.mp hi with ⟨hi, -⟩ | rfl
    · exact h.own i hi hhandle
    · exact absurd hhandle.symm (Nat.ne_of_lt h.issued)

theorem asked_stop {handle handle' : Nat} {k : String} (h : p.Asked handle k) :
    (p.stop handle' id).Asked handle k :=
  ⟨h.issued, fun i hi hhandle => h.own i (mem_clear.mp hi).1 hhandle⟩

theorem asked_live (h : p.Sound) {i : Interval} (hi : i ∈ p.intervals) : p.Asked i.handle i.id :=
  ⟨h.issued i hi, fun j hj hhandle => by rw [h.distinct j hj i hi hhandle]⟩

theorem sound_startAll {starts : List (String × Option Plugin)} (h : p.Sound) :
    (p.startAll starts).Sound := by
  induction starts generalizing p with
  | nil => exact h
  | cons x starts ih => exact ih (sound_start h)

theorem asked_startAll {starts : List (String × Option Plugin)} {handle : Nat} {k : String}
    (h : p.Asked handle k) : (p.startAll starts).Asked handle k := by
  induction starts generalizing p with
  | nil => exact h
  | cons x starts ih => exact ih (asked_start h)

/-! ## Live intervals are entries -/

theorem tracks_start (h : p.Tracks deleted) :
    (p.start id selectedPlugin).Tracks deleted ↔ id ∉ deleted := by
  constructor
  · intro htracks
    exact (htracks _ (mem_start.mpr (.inr rfl))).2
  · intro hid i hi
    rw [pollingRef_start]
    rcases mem_start.mp hi with ⟨hi, hentry⟩ | rfl
    · obtain ⟨href, hdeleted⟩ := h i hi
      have hne : i.id ≠ id := by
        rintro rfl
        exact hentry href
      rw [Function.update_of_ne hne]
      exact ⟨href, hdeleted⟩
    · exact ⟨Function.update_self id _ p.pollingRef, hid⟩

/-- A plugin that is polled is polled after another start as well. -/
theorem polled_start (hsound : p.Sound) {k : String} (h : ∃ i ∈ p.intervals, i.id = k) :
    ∃ i ∈ (p.start id selectedPlugin).intervals, i.id = k := by
  obtain ⟨i, hi, rfl⟩ := h
  by_cases hentry : p.pollingRef id = some i.handle
  · exact ⟨_, mem_start.mpr (.inr rfl), (hsound.entry hi hentry).symm⟩
  · exact ⟨i, mem_start.mpr (.inl ⟨hi, hentry⟩), rfl⟩

theorem polled_startAll {starts : List (String × Option Plugin)} (hsound : p.Sound) {k : String}
    (h : ∃ i ∈ p.intervals, i.id = k) : ∃ i ∈ (p.startAll starts).intervals, i.id = k := by
  induction starts generalizing p with
  | nil => exact h
  | cons x starts ih => exact ih (sound_start hsound) (polled_start hsound h)

theorem tracks_startAll {starts : List (String × Option Plugin)} (hsound : p.Sound)
    (h : p.Tracks deleted) :
    (p.startAll starts).Tracks deleted ↔ ∀ x ∈ starts, x.1 ∉ deleted := by
  induction starts generalizing p with
  | nil => exact iff_of_true h nofun
  | cons x starts ih =>
      rw [List.forall_mem_cons]
      by_cases hx : x.1 ∈ deleted
      · refine iff_of_false (fun htracks => ?_) fun hall => hall.1 hx
        have hpolled : ∃ i ∈ ((p.start x.1 x.2).startAll starts).intervals, i.id = x.1 :=
          polled_startAll (sound_start hsound) ⟨_, mem_start.mpr (.inr rfl), rfl⟩
        obtain ⟨i, hi, hid⟩ := hpolled
        exact (htracks i hi).2 (hid ▸ hx)
      · rw [and_iff_right hx]
        exact ih (sound_start hsound) ((tracks_start h).mpr hx)

theorem tracks_stop {handle : Nat} (hsound : p.Sound) (h : p.Tracks deleted) :
    (p.stop handle id).Tracks deleted ↔
      p.pollingRef id = none ∨ p.pollingRef id = some handle := by
  constructor
  · intro htracks
    cases href : p.pollingRef id with
    | none => exact .inl rfl
    | some handle' =>
        obtain ⟨i, hi, rfl, rfl⟩ := hsound.live id handle' href
        by_cases hhandle : i.handle = handle
        · exact .inr (congrArg some hhandle)
        · -- the entry is deleted and its interval goes on
          have hkept : Function.update p.pollingRef i.id none i.id = some i.handle :=
            (htracks i (mem_clear.mpr ⟨hi, hhandle⟩)).1
          rw [Function.update_self] at hkept
          cases hkept
  · intro hentry i hi
    obtain ⟨hi, hhandle⟩ := mem_clear.mp hi
    obtain ⟨href, hdeleted⟩ := h i hi
    have hne : i.id ≠ id := by
      rintro rfl
      rw [href] at hentry
      rcases hentry with hnone | hsame
      · cases hnone
      · exact hhandle (Option.some.inj hsame)
    have hother : Function.update p.pollingRef id none i.id = p.pollingRef i.id :=
      Function.update_of_ne hne _ _
    exact ⟨hother.trans href, hdeleted⟩

theorem tracks_deleted (hsound : p.Sound) (h : p.Tracks deleted) :
    p.Tracks (id :: deleted) ↔ p.pollingRef id = none := by
  constructor
  · intro htracks
    cases href : p.pollingRef id with
    | none => rfl
    | some handle =>
        obtain ⟨i, hi, -, rfl⟩ := hsound.live id handle href
        exact absurd List.mem_cons_self (htracks i hi).2
  · intro hnone i hi
    obtain ⟨href, hdeleted⟩ := h i hi
    refine ⟨href, fun hmem => ?_⟩
    rcases List.mem_cons.mp hmem with rfl | hmem
    · rw [hnone] at href
      cases href
    · exact hdeleted hmem

end Pollers

/-! ## Runs -/

/-- The plugin that an answer confirms to be deleted. -/
def Action.deletes (s : App) : Action → List String
  | .arrive i .deleted =>
    match s.inFlight[i]? with
    | some (.handleDeletePlugin id _) => [id]
    | _ => []
  | _ => []

/-- The component, and the plugins that the user has deleted so far. -/
structure Watched where
  app : App
  deleted : List String

def Watched.mounted (inputPayload : String) : Watched := ⟨.mounted inputPayload, []⟩

def watch (w : Watched) (a : Action) : Option Watched :=
  (step w.app a).map fun t => ⟨t, a.deletes w.app ++ w.deleted⟩

/-- Watching the deletions changes nothing. -/
theorem run_watch (as : List Action) (w : Watched) :
    (run watch w as).map Watched.app = run step w.app as := by
  induction as generalizing w with
  | nil => rfl
  | cons a as ih =>
      rw [run_cons, run_cons]
      unfold watch
      cases step w.app a with
      | none => rfl
      | some t => exact ih ⟨t, a.deletes w.app ++ w.deleted⟩

/-- The effect of the first render when the component goes away; `values` are
    `Object.values(pollingRef.current)`. -/
def App.unmount (s : App) (values : List Nat) : App := values.foldl App.clearInterval s

structure PollersTracked (w : Watched) : Prop where
  /-- The live intervals are the values of `pollingRef`. -/
  tracked : ∀ handle,
    (∃ i ∈ w.app.intervals, i.handle = handle) ↔ ∃ id, w.app.pollingRef id = some handle
  single : ∀ i ∈ w.app.intervals, ∀ j ∈ w.app.intervals, i.id = j.id → i = j
  notDeleted : ∀ i ∈ w.app.intervals, i.id ∉ w.deleted
  /-- Another `startPolling` stops the intervals of its plugin. -/
  restarted : ∀ id selectedPlugin, ∀ i ∈ w.app.intervals, i.id = id →
    i ∉ (w.app.startPolling id selectedPlugin).intervals
  unmounted : ∀ values, (∀ handle, handle ∈ values ↔ ∃ id, w.app.pollingRef id = some handle) →
    (w.app.unmount values).intervals = []

/-- What a step needs so that the intervals stay tracked. -/
structure PollingKept (w : Watched) (a : Action) : Prop where
  /-- No deleted plugin is polled again. -/
  started : ∀ x ∈ a.starts w.app, x.1 ∉ w.deleted
  /-- A plugin that an answer finds built is not polled by a later interval. -/
  stopped : ∀ handle id, Stops w.app a handle id →
    w.app.pollingRef id = none ∨ w.app.pollingRef id = some handle
  /-- A plugin that is deleted is not polled. -/
  idle : ∀ id ∈ a.deletes w.app, w.app.pollingRef id = none

/-- Entries are live, and requests in flight know the plugin of their interval. -/
structure PollersSound (s : App) : Prop where
  pollers : s.pollers.Sound
  asked : ∀ handle id selectedPlugin, .startPolling handle id selectedPlugin ∈ s.inFlight →
    s.pollers.Asked handle id

theorem pollersSound_mounted (inputPayload : String) : PollersSound (.mounted inputPayload) := by
  refine ⟨⟨nofun, nofun, nofun⟩, fun handle id selectedPlugin h => ?_⟩
  have hmem : Fetch.startPolling handle id selectedPlugin ∈ [Fetch.fetchPlugins true none] := h
  cases List.mem_singleton.mp hmem

theorem pollersSound_step (hsound : PollersSound s) (h : step s a = some t) : PollersSound t := by
  have hasked : ∀ handle id selectedPlugin,
      .startPolling handle id selectedPlugin ∈ t.inFlight → s.pollers.Asked handle id := by
    intro handle id selectedPlugin hmem
    rcases step_inFlight h _ hmem with hold | hsends
    · exact hsound.asked handle id selectedPlugin hold
    · cases hsends with
      | poll interval hlive => exact Pollers.asked_live hsound.pollers hlive
  by_cases hstops : ∃ handle id, Stops s a handle id
  · obtain ⟨handle, id, hstop⟩ := hstops
    have hown : s.pollers.Asked handle id := by
      cases hstop with
      | built i _ _ selectedPlugin plugin hf =>
          exact hsound.asked handle id selectedPlugin (List.mem_of_getElem? hf)
    refine ⟨?_, fun handle' id' selectedPlugin' hmem => ?_⟩
    · rw [step_stops h hstop]
      exact Pollers.sound_stop hsound.pollers hown
    · rw [step_stops h hstop]
      exact Pollers.asked_stop (hasked handle' id' selectedPlugin' hmem)
  · have hstarts := step_starts h fun handle id hstop => hstops ⟨handle, id, hstop⟩
    refine ⟨?_, fun handle id selectedPlugin hmem => ?_⟩
    · rw [hstarts]
      exact Pollers.sound_startAll hsound.pollers
    · rw [hstarts]
      exact Pollers.asked_startAll (hasked handle id selectedPlugin hmem)

/-! ## The property -/

theorem intervals_unmount (values : List Nat) (s : App) :
    ∀ i ∈ (s.unmount values).intervals, i ∈ s.intervals ∧ i.handle ∉ values := by
  induction values generalizing s with
  | nil => exact fun i hi => ⟨hi, nofun⟩
  | cons handle values ih =>
      intro i hi
      obtain ⟨hmem, hvalues⟩ := ih (s.clearInterval handle) i hi
      have hclear : i ∈ (s.pollers.clear handle).intervals := hmem
      obtain ⟨hlive, hne⟩ := Pollers.mem_clear.mp hclear
      exact ⟨hlive, List.not_mem_cons_of_ne_of_not_mem hne hvalues⟩

theorem pollersTracked_iff {w : Watched} (hsound : PollersSound w.app) :
    PollersTracked w ↔ w.app.pollers.Tracks w.deleted := by
  constructor
  · intro h i hi
    obtain ⟨id, href⟩ := (h.tracked i.handle).mp ⟨i, hi, rfl⟩
    have hid : i.id = id := hsound.pollers.entry hi href
    rw [hid]
    exact ⟨href, hid ▸ h.notDeleted i hi⟩
  · intro h
    refine ⟨fun handle => ⟨?_, ?_⟩, ?_, fun i hi => (h i hi).2, ?_, ?_⟩
    · rintro ⟨i, hi, rfl⟩
      exact ⟨i.id, (h i hi).1⟩
    · rintro ⟨id, href⟩
      obtain ⟨i, hi, hhandle, -⟩ := hsound.pollers.live id handle href
      exact ⟨i, hi, hhandle⟩
    · intro i hi j hj hid
      have hi' := (h i hi).1
      rw [hid] at hi'
      exact hsound.pollers.distinct i hi j hj (Option.some.inj (hi'.symm.trans (h j hj).1))
    · rintro id selectedPlugin i hi rfl hstarted
      have hmem : i ∈ (w.app.startPolling i.id selectedPlugin).pollers.intervals := hstarted
      rw [App.pollers_startPolling] at hmem
      rcases Pollers.mem_start.mp hmem with ⟨-, hentry⟩ | heq
      · exact hentry (h i hi).1
      · have hissued : i.handle < w.app.pollers.nextInterval := hsound.pollers.issued i hi
        rw [heq] at hissued
        exact absurd hissued (Nat.lt_irrefl _)
    · intro values hvalues
      refine List.eq_nil_iff_forall_not_mem.mpr fun i hi => ?_
      obtain ⟨hlive, hcleared⟩ := intervals_unmount values w.app i hi
      exact hcleared ((hvalues i.handle).mpr ⟨i.id, (h i hlive).1⟩)

/-! ## Steps -/

theorem watch_iff {w w' : Watched} :
    watch w a = some w' ↔
      ∃ t, step w.app a = some t ∧ ⟨t, a.deletes w.app ++ w.deleted⟩ = w' :=
  Option.map_eq_some_iff

theorem stops_quiet {handle : Nat} {id : String} (h : Stops s a handle id) :
    a.starts s = [] ∧ a.deletes s = [] ∧
      ∀ handle' id', Stops s a handle' id' → handle' = handle ∧ id' = id := by
  cases h with
  | built i _ _ selectedPlugin plugin hf hstatus =>
      have hwrites : (Action.arrive i (.plugin plugin)).writes s =
          polledWrites id selectedPlugin plugin := writes_arrive hf
      refine ⟨?_, rfl, ?_⟩
      · unfold Action.starts
        rw [answerStarts_arrive hf, hwrites, effectStarts_built hstatus]
        rfl
      · intro handle' id' h'
        cases h' with
        | built _ _ _ _ _ hf' =>
            cases hf.symm.trans hf'
            exact ⟨rfl, rfl⟩

/-- The answer that confirms a deletion stops and starts nothing. -/
theorem deletes_quiet {id : String} (h : id ∈ a.deletes s) :
    a.starts s = [] ∧ a.deletes s = [id] := by
  cases a with
  | arrive i reply =>
      cases reply with
      | deleted =>
          unfold Action.deletes at h
          dsimp only at h
          split at h
          · next id' selectedPlugin hf =>
              cases List.mem_singleton.mp h
              have hwrites : (Action.arrive i .deleted).writes s =
                  deletedWrites id selectedPlugin := writes_arrive hf
              refine ⟨?_, ?_⟩
              · unfold Action.starts
                rw [answerStarts_arrive hf, hwrites]
                unfold deletedWrites
                split
                · rfl
                · exact effectStarts_same s.view
              · unfold Action.deletes
                dsimp only
                rw [hf]
          · cases h
      | _ => cases h
  | _ => cases h

theorem step_tracks {w w' : Watched} (hsound : PollersSound w.app)
    (htracks : w.app.pollers.Tracks w.deleted) (h : watch w a = some w') :
    w'.app.pollers.Tracks w'.deleted ↔ PollingKept w a := by
  obtain ⟨t, ht, rfl⟩ := watch_iff.mp h
  by_cases hstops : ∃ handle id, Stops w.app a handle id
  · obtain ⟨handle, id, hstop⟩ := hstops
    obtain ⟨hstarts, hdeletes, hunique⟩ := stops_quiet hstop
    dsimp only
    rw [step_stops ht hstop, hdeletes, List.nil_append,
      Pollers.tracks_stop hsound.pollers htracks]
    constructor
    · intro hentry
      refine ⟨?_, fun handle' id' hstop' => ?_, ?_⟩
      · rw [hstarts]
        exact nofun
      · obtain ⟨rfl, rfl⟩ := hunique handle' id' hstop'
        exact hentry
      · rw [hdeletes]
        exact nofun
    · exact fun hkept => hkept.stopped handle id hstop
  · have hnone : ∀ handle id, ¬ Stops w.app a handle id := fun handle id hstop =>
      hstops ⟨handle, id, hstop⟩
    dsimp only
    rw [step_starts ht hnone]
    by_cases hdeleted : ∃ id, id ∈ a.deletes w.app
    · obtain ⟨id, hid⟩ := hdeleted
      obtain ⟨hstarts, hdeletes⟩ := deletes_quiet hid
      rw [hstarts, hdeletes]
      refine (Pollers.tracks_deleted hsound.pollers htracks).trans ⟨fun hentry => ?_, ?_⟩
      · refine ⟨?_, fun handle id' hstop => absurd hstop (hnone handle id'), ?_⟩
        · rw [hstarts]
          exact nofun
        · rw [hdeletes]
          intro id' hid'
          rw [List.mem_singleton.mp hid']
          exact hentry
      · exact fun hkept => hkept.idle id hid
    · have hdeletes : a.deletes w.app = [] :=
        List.eq_nil_iff_forall_not_mem.mpr fun id hid => hdeleted ⟨id, hid⟩
      rw [hdeletes, List.nil_append, Pollers.tracks_startAll hsound.pollers htracks]
      constructor
      · intro hall
        exact ⟨hall, fun handle id hstop => absurd hstop (hnone handle id),
          fun id hid => absurd ⟨id, hid⟩ hdeleted⟩
      · exact fun hkept => hkept.started

/-- The live intervals are tracked in exactly those runs where every answer to a poll that finds
    its plugin built comes before a later interval of the plugin, no plugin is deleted while it
    is polled and none is polled after that. -/
theorem polling_tracked_iff (inputPayload : String) (as : List Action) :
    Throughout watch (.mounted inputPayload) as PollersTracked ↔
      EachStep watch (.mounted inputPayload) as PollingKept := by
  have haux : ∀ (w : Watched) (a : Action) (w' : Watched),
      PollersSound w.app → watch w a = some w' → PollersSound w'.app := by
    intro w a w' hsound h
    obtain ⟨t, ht, rfl⟩ := watch_iff.mp h
    exact pollersSound_step hsound ht
  have hstep : ∀ (w : Watched) (a : Action) (w' : Watched), PollersSound w.app →
      PollersTracked w → watch w a = some w' → (PollersTracked w' ↔ PollingKept w a) := by
    intro w a w' hsound htracked h
    rw [pollersTracked_iff (haux w a w' hsound h)]
    exact step_tracks hsound ((pollersTracked_iff hsound).mp htracked) h
  have hsound : PollersSound (Watched.mounted inputPayload).app := pollersSound_mounted inputPayload
  have hstart : PollersTracked (.mounted inputPayload) := (pollersTracked_iff hsound).mpr nofun
  exact throughout_iff_eachStep haux hstep as hsound hstart

/-- A, not yet built. -/
def pendingA : Plugin := { pluginA with status := "pending" }

/-- The interval 1 of A asks twice. The first answer clears it; A is saved and polled by the
    interval 2; the second answer deletes the entry of 2. -/
def lateAnswer : List Action :=
  [.arrive 0 (.plugins (some [pendingA])), .pollTick 1, .pollTick 1, .arrive 1 (.plugin pluginA),
    .save, .arrive 2 (.plugin pendingA), .arrive 1 (.plugin pluginA)]

theorem interval_untracked :
    ¬ ∀ (inputPayload : String) (as : List Action),
      Throughout watch (.mounted inputPayload) as PollersTracked := by
  intro h
  obtain ⟨w, hrun, hintervals, href⟩ : ∃ w, run watch (.mounted "") lateAnswer = some w ∧
      w.app.intervals = [⟨2, "a", some pluginA⟩] ∧
      w.app.pollingRef = Function.update (Function.update (Function.update (Function.update
        (fun _ => none) "a" (some 1)) "a" none) "a" (some 2)) "a" none :=
    ⟨_, rfl, rfl, rfl⟩
  have htracked := h "" lateAnswer lateAnswer [] w (List.append_nil _).symm hrun
  have hlive : ∃ i ∈ w.app.intervals, i.handle = 2 := by
    rw [hintervals]
    exact ⟨_, List.mem_cons_self, rfl⟩
  obtain ⟨id, hid⟩ := (htracked.tracked 2).mp hlive
  rw [href, Function.update_idem, Function.update_idem, Function.update_idem,
    Function.update_eq_self_iff.mpr rfl] at hid
  cases hid

end PluginSandbox.Dashboard
