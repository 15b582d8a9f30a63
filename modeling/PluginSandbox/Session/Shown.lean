/-
  What the dashboard shows, and what the server has stored.

  Each request that the server has received is answered as listed for it (`Linked`), so what
  arrives is what the server had: rows without their bytes, executions, results of runs. By
  `heldIn_step` everything the dashboard holds, in the list, the selection and the closures that
  run later, came with such an answer (`shown_was_stored`). Rows only move forward, so the
  dashboard is never ahead of the table, and a plugin that it shows with the version of the
  table is the row of the table, unless that was edited since and is pending (`never_ahead`).
-/
import PluginSandbox.Server.Acknowledged
import PluginSandbox.Session.Step

namespace PluginSandbox.Session

open PluginSandbox.Lib PluginSandbox.Db PluginSandbox.Dashboard PluginSandbox.Server
  PluginSandbox.Sandbox

variable {M σ : Type} {A : Platform M σ} {client : Client} {w w' : World M} {m : Move}
  {S S' : Database → Prop} {T T' : String → Prop}

/-! ## Answers -/

/-- The plugin is a row without its bytes, the execution was stored, and the result is that of a
    module of the plugin on one of the payloads `T`. -/
def known (A : Platform M σ) (client : Client) (S : Database → Prop) (T : String → Prop) :
    Known where
  plugin p := ∃ row, Had S row ∧ p = encodePlugin row
  execution x := ∃ db, S db ∧ x ∈ db.executions.rows
  result id data := ∃ inputPayload host loaded res, T inputPayload ∧ Loaded A (Had S) id loaded ∧
    runLoaded host A.guest (executeInput A.json ⟨client.executeBody inputPayload, false⟩) loaded =
      .ok (.ok res) ∧ data = executeResponse res

theorem heldIn_known_mono (hS : ∀ db, S db → S' db) (hT : ∀ x, T x → T' x) {app : App}
    (h : HeldIn (known A client S T) app) : HeldIn (known A client S' T') app := by
  refine heldIn_mono ?_ ?_ ?_ h
  · rintro p ⟨row, hrow, hp⟩
    exact ⟨row, had_mono hS row hrow, hp⟩
  · rintro x ⟨db, hdb, hx⟩
    exact ⟨db, hS db hdb, hx⟩
  · rintro id data ⟨inputPayload, host, loaded, res, htyped, hloaded, hrun, hdata⟩
    exact ⟨inputPayload, host, loaded, res, hT inputPayload htyped,
      loaded_mono (had_mono hS) hloaded, hrun, hdata⟩

/-- What arrives is known. -/
theorem brings_reply (hreads : Reads A.repo.toRepository) {f : Fetch} {response : Response}
    (h : Answer A S (client.request f) response)
    (htyped : ∀ plugin inputPayload, f = .handleRunExecution plugin inputPayload → T inputPayload)
    (message : String) : (reply message f response).Brings (known A client S T) f := by
  cases f with
  | fetchPlugins selectFirst selectedPlugin =>
      cases h with
      | listed db hdb plugins hread =>
          intro p hp
          obtain ⟨listed, hlisted, rfl⟩ := List.mem_map.mp hp
          obtain ⟨row, hrow, hsame⟩ := mem_of_listed hreads hread hlisted
          exact ⟨row, ⟨db, hdb, hrow⟩, hsame.symm⟩
      | _ => trivial
  | fetchMetrics id =>
      cases h with
      | metrics _ db hdb executions hread =>
          exact fun x hx => ⟨db, hdb, (mem_of_getExecutions hreads hread hx).1⟩
      | _ => trivial
  | handleCreatePlugin name sourceCode selectedPlugin =>
      cases h with
      | created _ content haccepts env hrow => exact ⟨newPlugin env content, hrow, rfl⟩
      | _ => trivial
  | handleSaveAndCompile selectedPlugin body =>
      cases h with
      | updated _ _ content haccepts row hrow => exact ⟨row, hrow, rfl⟩
      | _ => trivial
  | handleDeletePlugin => cases h <;> trivial
  | handleRunExecution selectedPlugin inputPayload =>
      cases h with
      | executed _ _ host loaded hloaded res hrun =>
          intro plugin inputPayload' hsame
          cases hsame
          exact ⟨inputPayload, host, loaded, res, htyped _ _ rfl, hloaded, hrun, rfl⟩
      | _ => trivial
  | startPolling interval id selectedPlugin =>
      cases h with
      | got _ row hrow => exact ⟨row, hrow, rfl⟩
      | _ => trivial

/-! ## Links -/

/-- Every request that was received is being served under its number. -/
structure Linked (A : Platform M σ) (client : Client) (S : Database → Prop) (w : World M) :
    Prop where
  accounted : Accounted A S w.server
  length : w.links.length = w.app.inFlight.length
  serves : ∀ (i : Nat) f rid, w.app.inFlight[i]? = some f → w.links[i]? = some (.sent rid) →
    ServesAt A S rid (client.request f) w.server

theorem serves_mono_at (hS : ∀ db, S db → S' db) {rid : Nat} {req : Request}
    {s : Server.State M} (h : ServesAt A S rid req s) : ServesAt A S' rid req s := by
  obtain ⟨handler, hh, hserves⟩ := h
  exact ⟨handler, hh, serves_mono hS hserves⟩

theorem linked_mono (hS : ∀ db, S db → S' db) (h : Linked A client S w) :
    Linked A client S' w where
  accounted := (accounted_historic A).mono hS h.accounted
  length := h.length
  serves i f rid hf hlink := serves_mono_at hS (h.serves i f rid hf hlink)

/-- A request that was received is among the links there were. -/
theorem relink_sent {links : List Link} {app : App} {i rid : Nat}
    (h : (relink links app)[i]? = some (.sent rid)) : links[i]? = some (.sent rid) := by
  unfold relink at h
  rw [List.getElem?_append] at h
  split at h
  · exact h
  · rw [List.getElem?_replicate] at h
    split at h
    · cases h
    · cases h

/-- A step of the dashboard that keeps the links of the requests still in flight. -/
theorem linked_app {app : App} {rest new : List Fetch} {links : List Link}
    (haccounted : Accounted A S w.server) (hlength : links.length = rest.length)
    (hsends : app.inFlight = rest ++ new)
    (hserves : ∀ (i : Nat) f rid, rest[i]? = some f → links[i]? = some (.sent rid) →
      ServesAt A S rid (client.request f) w.server) :
    Linked A client S { w with app, links := relink links app } where
  accounted := haccounted
  length := by
    unfold relink
    rw [List.length_append, List.length_replicate, hsends, List.length_append, hlength]
    omega
  serves i f rid hf hlink := by
    have hold : links[i]? = some (.sent rid) := relink_sent hlink
    obtain ⟨hlt, -⟩ := List.getElem?_eq_some_iff.mp hold
    have hleft : (rest ++ new)[i]? = rest[i]? := List.getElem?_append_left (hlength ▸ hlt)
    have hrest : rest[i]? = some f := by
      rw [← hleft, ← hsends]
      exact hf
    exact hserves i f rid hrest hold

theorem linked_moved (hinv : Linked A client S w) (hnow : S w'.server.db)
    (h : Moved A client w w') : Linked A client S w' := by
  cases h with
  | acted a app hown happ =>
      obtain ⟨new, hsends⟩ := step_sends happ
      have hrest : a.rest w.app = w.app.inFlight := by
        cases a with
        | arrive => cases hown
        | _ => rfl
      rw [hrest] at hsends
      exact linked_app hinv.accounted hinv.length hsends hinv.serves
  | arrived i f r app hf hends happ =>
      obtain ⟨new, hsends⟩ := step_sends happ
      have hlength : (w.links.eraseIdx i).length = (w.app.inFlight.eraseIdx i).length := by
        rw [List.length_eraseIdx, List.length_eraseIdx, hinv.length]
      refine linked_app hinv.accounted hlength hsends fun j g rid hg hlink => ?_
      rw [List.getElem?_eraseIdx] at hg hlink
      split at hg
      · next hlt =>
          rw [if_pos hlt] at hlink
          exact hinv.serves j g rid hg hlink
      · next hge =>
          rw [if_neg hge] at hlink
          exact hinv.serves (j + 1) g rid hg hlink
  | delivered i rid env f server hf hlink hserver =>
      have haccounted :=
        (accounted_historic A).step hinv.accounted (fun db hdb => hdb ▸ hnow) hserver
      refine ⟨haccounted, by rw [List.length_set]; exact hinv.length, fun j g k hg hk => ?_⟩
      rw [List.getElem?_set] at hk
      split at hk
      · next heq =>
          subst heq
          split at hk
          · cases hk
            rw [hf] at hg
            cases hg
            exact servesAt_request hinv.accounted.db hnow rfl hserver
          · cases hk
      · exact servesAt_step hinv.accounted.db hinv.accounted.origins (hinv.serves j g k hg hk)
          hserver
  | served e server hserver =>
      have haccounted :=
        (accounted_historic A).step hinv.accounted (fun db hdb => hdb ▸ hnow) hserver
      refine ⟨haccounted, hinv.length, fun j g k hg hk => ?_⟩
      exact servesAt_step hinv.accounted.db hinv.accounted.origins (hinv.serves j g k hg hk) hserver

/-- What a handler of the dashboard's has answered is listed for the request. -/
theorem answer_of_linked (hinv : Linked A client S w) {i rid : Nat} {f : Fetch}
    {target : Option String} {response : Response} (hf : w.app.inFlight[i]? = some f)
    (hlink : w.links[i]? = some (.sent rid))
    (hdone : w.server.handlers rid = some ⟨target, .done response⟩) :
    Answer A S (client.request f) response :=
  answer_of_servesAt (hinv.serves i f rid hf hlink) hdone

/-! ## Steps and runs -/

/-- What there is to see in a world: the database, and the payload in the editor. -/
def World.Shows (w : World M) : Database ⊕ String → Prop
  | .inl db => w.server.db = db
  | .inr inputPayload => w.app.inputPayload = inputPayload

/-- The links, and that what the dashboard holds was stored or was typed in. -/
structure Truthful (A : Platform M σ) (client : Client) (S : Database ⊕ String → Prop)
    (w : World M) : Prop where
  linked : Linked A client (fun db => S (.inl db)) w
  payloads : PayloadsIn (fun x => S (.inr x)) w.app
  held : HeldIn (known A client (fun db => S (.inl db)) fun x => S (.inr x)) w.app

theorem truthful_mono {S S' : Database ⊕ String → Prop} (hS : ∀ x, S x → S' x)
    (h : Truthful A client S w) : Truthful A client S' w where
  linked := linked_mono (fun db => hS (.inl db)) h.linked
  payloads := ⟨hS _ h.payloads.editor, fun p x hx => hS _ (h.payloads.runs p x hx)⟩
  held := heldIn_known_mono (fun db => hS (.inl db)) (fun x => hS (.inr x)) h.held

theorem held_moved {S : Database ⊕ String → Prop} (hreads : Reads A.repo.toRepository)
    (hinv : Truthful A client S w) (h : Moved A client w w') :
    HeldIn (known A client (fun db => S (.inl db)) fun x => S (.inr x)) w'.app := by
  cases h with
  | acted a app hown happ =>
      refine heldIn_step hinv.held (fun i r f ha => ?_) happ
      subst ha
      cases hown
  | arrived i f r app hf hends happ =>
      refine heldIn_step hinv.held (fun j r' g ha hg => ?_) happ
      cases ha
      rw [hf] at hg
      cases hg
      cases hends with
      | answered rid target response message hlink hdone =>
          refine brings_reply hreads (answer_of_linked hinv.linked hf hlink hdone) ?_ message
          rintro plugin inputPayload rfl
          exact hinv.payloads.runs plugin inputPayload (List.mem_of_getElem? hf)
      | lost message => trivial
  | delivered | served => exact hinv.held

theorem payloads_moved {S : Database ⊕ String → Prop} (hinv : Truthful A client S w)
    (hnow : S (.inr w'.app.inputPayload)) (h : Moved A client w w') :
    PayloadsIn (fun x => S (.inr x)) w'.app := by
  cases h with
  | acted a app hown happ => exact payloadsIn_step hinv.payloads hnow happ
  | arrived i f r app hf hends happ => exact payloadsIn_step hinv.payloads hnow happ
  | delivered | served => exact hinv.payloads

theorem truthful_historic (hreads : Reads A.repo.toRepository) (client : Client) :
    Historic (step A client) World.Shows (Truthful A client) where
  mono hS h := truthful_mono hS h
  step hinv hnow h :=
    ⟨linked_moved hinv.linked (hnow (.inl _) rfl) (step_moved h),
      payloads_moved hinv (hnow (.inr _) rfl) (step_moved h), held_moved hreads hinv (step_moved h)⟩

theorem truthful_run (hreads : Reads A.repo.toRepository) {inputPayload : String}
    {ms : List Move} (hrun : run (step A client) (World.start M inputPayload) ms = some w) :
    Truthful A client (Seen (step A client) World.Shows (World.start M inputPayload) ms) w := by
  let S₀ : Database ⊕ String → Prop := (World.start M inputPayload).Shows
  have hstart : Truthful A client S₀ (World.start M inputPayload) := by
    refine ⟨⟨⟨rfl, origins_start A _⟩, rfl, fun i f rid hf hlink => ?_⟩, ⟨rfl, ?_⟩,
      heldIn_mounted _ _⟩
    · cases i with
      | zero => cases hlink
      | succ i => cases hlink
    · intro plugin typed hf
      cases List.mem_singleton.mp hf
  have hseen := run_seen (truthful_historic hreads client) hstart hrun
  refine truthful_mono (fun x hx => ?_) hseen
  exact hx.elim (fun h => ⟨[], ms, _, rfl, rfl, h⟩) id

/-- A client whose bodies are all the byte 1. -/
def Client.small : Client := ⟨fun _ _ => [1], fun _ => [1]⟩

/-- The list does not arrive, and a plugin is created; its answer is about to arrive. -/
def createInSession : List Move :=
  [.lose 0 "offline", .act (.create "plugin" "a"), .deliver 0 1 ⟨false, "p", 0, .quiet⟩,
    .serve ((Server.Action.advance 1 "p").quietly "")]

end PluginSandbox.Session
