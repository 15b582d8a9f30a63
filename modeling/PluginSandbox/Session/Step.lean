/-
  A dashboard and the server it talks to.

  A `World` is the server, one dashboard, and how far each request of the dashboard has come: not
  sent yet, or received under a number of the server. The steps are those of both sides. A
  request is delivered, its answer arrives when its handler is done, and a connection may be lost
  at any moment before that; requests of other clients are steps of the server.

  `request` and `reply` are the two directions of `fetch`. `json` of the browser and
  `encoding/json` meet in the bodies (`Client`). What the server answers is what the dashboard was
  assumed to get (`answeredBy_reply`), so a run of both is a run of each (`run_server`,
  `run_app`).
-/
import PluginSandbox.Dashboard.Held
import PluginSandbox.Db.Reads
import PluginSandbox.Server.Answers

namespace PluginSandbox.Session

open PluginSandbox.Lib PluginSandbox.Db PluginSandbox.Dashboard PluginSandbox.Server

/-! ## Requests and replies -/

/-- What `JSON.stringify` makes of the two kinds of bodies. -/
structure Client where
  pluginBody (name sourceCode : String) : Bytes
  executeBody (inputPayload : String) : Bytes

def Client.request (client : Client) : Fetch → Request
  | .fetchPlugins _ _ => .listPlugins
  | .fetchMetrics id => .getMetrics id
  | .handleCreatePlugin name sourceCode _ =>
    .createPlugin ⟨client.pluginBody name sourceCode, false⟩
  | .handleSaveAndCompile selectedPlugin body =>
    .updatePlugin selectedPlugin.id ⟨client.pluginBody body.pluginName body.editorCode, false⟩
  | .handleDeletePlugin id _ => .deletePlugin id
  | .handleRunExecution selectedPlugin inputPayload =>
    .executePlugin selectedPlugin.id ⟨client.executeBody inputPayload, false⟩
  | .startPolling _ id _ => .getPlugin id

/-- What `fetch` and `json` make of an answer. Every answer but the one asked for ends in an
    exception: `res.ok` is false, or the text is not JSON. -/
def reply (message : String) : Fetch → Response → Dashboard.Reply
  | .fetchPlugins _ _, .plugins data => .plugins (some data)
  | .fetchMetrics _, .executions data => .executions data
  | .handleCreatePlugin _ _ _, .plugin _ plugin => .plugin plugin
  | .handleSaveAndCompile _ _, .plugin _ plugin => .plugin plugin
  | .handleDeletePlugin _ _, .noContent => .deleted
  | .handleRunExecution _ _, .executed data => .ran data
  | .startPolling _ _ _, .plugin _ plugin => .plugin plugin
  | _, _ => .failed message

/-! ## The world -/

/-- How far a request of the dashboard has come. -/
inductive Link where
  | unsent
  | sent (rid : Nat)

/-- `links` has an entry for each request in flight. -/
structure World (M : Type) where
  server : Server.State M
  app : App
  links : List Link

/-- The server is started, and then the page is loaded. -/
def World.start (M : Type) (inputPayload : String) : World M where
  server := .start M
  app := .mounted inputPayload
  links := [.unsent]

inductive Move where
  /-- The user, or an interval of the page. -/
  | act (a : Dashboard.Action)
  | deliver (i rid : Nat) (env : Env)
  /-- A goroutine, a restart, or a request of another client. -/
  | serve (e : Server.Event)
  /-- The answer arrives. The text is that of the exception, if any. -/
  | answer (i : Nat) (message : String)
  | lose (i : Nat) (message : String)

/-- New requests are not sent yet. -/
def relink (links : List Link) (app : App) : List Link :=
  links ++ List.replicate (app.inFlight.length - links.length) .unsent

def isArrival : Dashboard.Action → Bool
  | .arrive _ _ => true
  | _ => false

section Step

variable {M σ : Type} (A : Platform M σ) (client : Client)

def World.act (w : World M) (a : Dashboard.Action) : Option (World M) :=
  (Dashboard.step w.app a).map fun app => { w with app, links := relink w.links app }

/-- The request `i` ends with `r`. -/
def World.arrive (w : World M) (i : Nat) (r : Dashboard.Reply) : Option (World M) :=
  (Dashboard.step w.app (.arrive i r)).map fun app =>
    { w with app, links := relink (w.links.eraseIdx i) app }

def World.serve (w : World M) (e : Server.Event) (links : List Link) : Option (World M) :=
  (Server.step A w.server e).map fun server => { w with server, links }

/-- The response to the request `i`, once its handler is done. -/
def World.response (w : World M) (i : Nat) : Option Response :=
  match w.links[i]? with
  | some (.sent rid) =>
    match w.server.handlers rid with
    | some ⟨_, .done response⟩ => some response
    | _ => none
  | _ => none

/-- One step, `none` when the move is not enabled. -/
def step (w : World M) : Move → Option (World M)
  | .act a => if isArrival a then none else w.act a
  | .deliver i rid env =>
    match w.app.inFlight[i]?, w.links[i]? with
    | some f, some .unsent =>
      w.serve A ⟨.request rid (client.request f), env⟩ (w.links.set i (.sent rid))
    | _, _ => none
  | .serve e => w.serve A e w.links
  | .answer i message =>
    match w.app.inFlight[i]?, w.response i with
    | some f, some response => w.arrive i (reply message f response)
    | _, _ => none
  | .lose i message => w.arrive i (.failed message)

end Step

variable {M σ : Type} {A : Platform M σ} {client : Client} {w w' : World M} {m : Move}

/-! ## What a step can do -/

/-- How the request `i` can end. -/
inductive Ends (w : World M) (i : Nat) (f : Fetch) : Dashboard.Reply → Prop
  | answered (rid : Nat) (target : Option String) (response : Response) (message : String)
      (hlink : w.links[i]? = some (.sent rid))
      (hdone : w.server.handlers rid = some ⟨target, .done response⟩) :
      Ends w i f (reply message f response)
  | lost (message : String) : Ends w i f (.failed message)

inductive Moved (A : Platform M σ) (client : Client) (w : World M) : World M → Prop
  | acted (a : Dashboard.Action) (app : App) (hown : isArrival a = false)
      (happ : Dashboard.step w.app a = some app) :
      Moved A client w { w with app, links := relink w.links app }
  | delivered (i rid : Nat) (env : Env) (f : Fetch) (server : Server.State M)
      (hf : w.app.inFlight[i]? = some f) (hlink : w.links[i]? = some .unsent)
      (hserver : Server.step A w.server ⟨.request rid (client.request f), env⟩ = some server) :
      Moved A client w { w with server, links := w.links.set i (.sent rid) }
  | served (e : Server.Event) (server : Server.State M)
      (hserver : Server.step A w.server e = some server) : Moved A client w { w with server }
  | arrived (i : Nat) (f : Fetch) (r : Dashboard.Reply) (app : App)
      (hf : w.app.inFlight[i]? = some f) (hends : Ends w i f r)
      (happ : Dashboard.step w.app (.arrive i r) = some app) :
      Moved A client w { w with app, links := relink (w.links.eraseIdx i) app }

theorem arrive_some {i : Nat} {r : Dashboard.Reply} (h : w.arrive i r = some w') :
    ∃ f app, w.app.inFlight[i]? = some f ∧ Dashboard.step w.app (.arrive i r) = some app ∧
      w' = { w with app, links := relink (w.links.eraseIdx i) app } := by
  obtain ⟨app, happ, rfl⟩ := Option.map_eq_some_iff.mp h
  obtain ⟨u, hu, -⟩ := step_iff.mp happ
  obtain ⟨f, hf, -⟩ := act_arrive.mp hu
  exact ⟨f, app, hf, happ, rfl⟩

theorem response_some {i : Nat} {response : Response} (h : w.response i = some response) :
    ∃ rid target, w.links[i]? = some (.sent rid) ∧
      w.server.handlers rid = some ⟨target, .done response⟩ := by
  unfold World.response at h
  split at h
  · next rid hlink =>
      split at h
      · next target response' hdone =>
          cases h
          exact ⟨rid, target, hlink, hdone⟩
      · cases h
  · cases h

theorem step_moved (h : step A client w m = some w') : Moved A client w w' := by
  cases m with
  | act a =>
      have hact : (if isArrival a then none else w.act a) = some w' := h
      split at hact
      · cases hact
      · next hown =>
          obtain ⟨app, happ, rfl⟩ := Option.map_eq_some_iff.mp hact
          exact .acted a app (Bool.not_eq_true _ ▸ hown) happ
  | deliver i rid env =>
      unfold step at h
      dsimp only at h
      split at h
      · next f hf hlink =>
          obtain ⟨server, hserver, rfl⟩ := Option.map_eq_some_iff.mp h
          exact .delivered i rid env f server hf hlink hserver
      · cases h
  | serve e =>
      obtain ⟨server, hserver, rfl⟩ := Option.map_eq_some_iff.mp h
      exact .served e server hserver
  | answer i message =>
      unfold step at h
      dsimp only at h
      split at h
      · next f response hf hresponse =>
          obtain ⟨f', app, hf', happ, rfl⟩ := arrive_some h
          obtain ⟨rid, target, hlink, hdone⟩ := response_some hresponse
          exact .arrived i f _ app hf (.answered rid target response message hlink hdone) happ
      · cases h
  | lose i message =>
      obtain ⟨f, app, hf, happ, rfl⟩ := arrive_some h
      exact .arrived i f _ app hf (.lost message) happ

/-! ## The two parts -/

/-- The dashboard's part of a run is a run of the dashboard. -/
theorem run_app {ms : List Move} (hrun : run (step A client) w ms = some w') :
    ∃ as, run Dashboard.step w.app as = some w'.app := by
  have hstep : ∀ (u : World M) (m : Move) (v : World M), True → step A client u m = some v →
      v.app = u.app ∨ ∃ a, True ∧ Dashboard.step u.app a = some v.app := by
    intro u m v _ h
    cases step_moved h with
    | acted a _ _ happ => exact .inr ⟨a, trivial, happ⟩
    | arrived i _ r _ _ _ happ => exact .inr ⟨.arrive i r, trivial, happ⟩
    | delivered | served => exact .inl rfl
  obtain ⟨as, -, has⟩ := run_project (fun _ _ _ _ _ => trivial) hstep trivial hrun
  exact ⟨as, has⟩

end PluginSandbox.Session
