/-
  Runs of a transition system given as a partial step function `step : σ → ε → Option σ`.

  `run` folds a list of events; it is `none` as soon as one of them is not enabled.
  The rules of this file package the inductions over a run, so that a development only
  proves facts about one step:
  * `run_invariant`: what every step keeps holds wherever a run ends.
  * `run_invariant_eachStep`: the same where what a step must meet depends on its state.
  * `throughout_iff_eachStep`: an invariant holds in every state a run passes through
    exactly when each of its steps meets a condition, given that one step keeps the
    invariant exactly under that condition.
  * `eachStep_total`: where every event is enabled, a condition on each step is one on the
    states that the events so far fold to.
  * `run_related`: a preorder that every step respects relates the ends of a run.
  * `run_leaves`: a run that ends outside of a property has a step that leaves it.
  * `run_eq_iff_eachStep`: two systems whose steps are the same exactly under a condition have the
    same runs exactly while each step meets it.
  * `run_lockstep`: two systems whose steps correspond run together.
  * `run_simulated`: forward simulation, where a step may also be matched by none.
  * `run_project`: a run of a system is one of each of its parts.
  * `run_purge`: unwinding. If kept events are matched by a second system state and
    dropped events are invisible to it, the purged list of events is again a run.
-/
import Mathlib.Data.List.Basic
import Mathlib.Tactic.Common

namespace PluginSandbox.Lib

universe u v

variable {σ : Type u} {ε : Type v} {step : σ → ε → Option σ}

/-! ## Runs -/

/-- The state after the events in order, `none` when one of them is not enabled. -/
def run (step : σ → ε → Option σ) : σ → List ε → Option σ
  | s, [] => some s
  | s, e :: es => (step s e).bind fun t => run step t es

theorem run_cons (s : σ) (e : ε) (es : List ε) :
    run step s (e :: es) = (step s e).bind fun t => run step t es := rfl

theorem run_cons_iff {s u : σ} {e : ε} {es : List ε} :
    run step s (e :: es) = some u ↔ ∃ t, step s e = some t ∧ run step t es = some u := by
  rw [run_cons, Option.bind_eq_some_iff]

theorem run_append (s : σ) (es fs : List ε) :
    run step s (es ++ fs) = (run step s es).bind fun t => run step t fs := by
  induction es generalizing s with
  | nil => rfl
  | cons e es ih =>
      rw [List.cons_append, run_cons, run_cons, Option.bind_assoc]
      exact congrArg _ (funext fun t => ih t)

theorem run_append_iff {s u : σ} {es fs : List ε} :
    run step s (es ++ fs) = some u ↔
      ∃ t, run step s es = some t ∧ run step t fs = some u := by
  rw [run_append, Option.bind_eq_some_iff]

/-! ## Invariants -/

/-- The invariant rule, for runs whose events all satisfy `P`. -/
theorem run_invariant {P : ε → Prop} {Inv : σ → Prop}
    (hstep : ∀ s e t, Inv s → P e → step s e = some t → Inv t) {es : List ε} {s t : σ}
    (hes : ∀ e ∈ es, P e) (hs : Inv s) (hrun : run step s es = some t) : Inv t := by
  induction es generalizing s with
  | nil =>
      cases hrun
      exact hs
  | cons e es ih =>
      obtain ⟨u, hu, hrest⟩ := run_cons_iff.mp hrun
      exact ih (fun e' he' => hes e' (List.mem_cons_of_mem _ he'))
        (hstep s e u hs (hes e List.mem_cons_self) hu) hrest

/-- `Inv` holds in every state that the run `es` from `s₀` passes through. -/
def Throughout (step : σ → ε → Option σ) (s₀ : σ) (es : List ε) (Inv : σ → Prop) : Prop :=
  ∀ pre post s, es = pre ++ post → run step s₀ pre = some s → Inv s

/-- `Ok` holds of every step that the events `es` take from `s₀`. -/
def EachStep (step : σ → ε → Option σ) (s₀ : σ) (es : List ε) (Ok : σ → ε → Prop) : Prop :=
  ∀ pre e post s t, es = pre ++ e :: post → run step s₀ pre = some s → step s e = some t → Ok s e

/-- The invariant rule, for runs whose steps all meet `Ok`. -/
theorem run_invariant_eachStep {Inv : σ → Prop} {Ok : σ → ε → Prop}
    (hstep : ∀ s e t, Inv s → Ok s e → step s e = some t → Inv t) {es : List ε} {s t : σ}
    (hes : EachStep step s es Ok) (hs : Inv s) (hrun : run step s es = some t) : Inv t := by
  induction es generalizing s with
  | nil =>
      cases hrun
      exact hs
  | cons e es ih =>
      obtain ⟨u, hu, hrest⟩ := run_cons_iff.mp hrun
      have hfirst : Ok s e := hes [] e es s u rfl rfl hu
      refine ih (fun pre f post v w he hpre hf => ?_) (hstep s e u hs hfirst hu) hrest
      exact hes (e :: pre) f post v w (by rw [he, List.cons_append])
        (run_cons_iff.mpr ⟨u, hu, hpre⟩) hf

theorem throughout_nil {s : σ} {Inv : σ → Prop} : Throughout step s [] Inv ↔ Inv s := by
  constructor
  · intro h
    exact h [] [] s rfl rfl
  · intro h pre post t he hrun
    obtain ⟨rfl, -⟩ := List.append_eq_nil_iff.mp he.symm
    cases hrun
    exact h

theorem throughout_cons {s t : σ} {e : ε} {es : List ε} {Inv : σ → Prop}
    (ht : step s e = some t) :
    Throughout step s (e :: es) Inv ↔ Inv s ∧ Throughout step t es Inv := by
  constructor
  · intro h
    refine ⟨h [] (e :: es) s rfl rfl, fun pre post u he hrun => ?_⟩
    refine h (e :: pre) post u (by rw [he, List.cons_append]) ?_
    rw [run_cons, ht]
    exact hrun
  · rintro ⟨hs, hrest⟩ pre post u he hrun
    cases pre with
    | nil =>
        cases hrun
        exact hs
    | cons f pre =>
        rw [List.cons_append] at he
        obtain ⟨rfl, rfl⟩ := List.cons.inj he
        rw [run_cons, ht] at hrun
        exact hrest pre post u rfl hrun

theorem eachStep_nil {s : σ} {Ok : σ → ε → Prop} : EachStep step s [] Ok := by
  intro pre e post t u he _ _
  simp at he

theorem eachStep_cons {s t : σ} {e : ε} {es : List ε} {Ok : σ → ε → Prop}
    (ht : step s e = some t) :
    EachStep step s (e :: es) Ok ↔ Ok s e ∧ EachStep step t es Ok := by
  constructor
  · intro h
    refine ⟨h [] e es s t rfl rfl ht, fun pre f post u v he hrun hf => ?_⟩
    refine h (e :: pre) f post u v (by rw [he, List.cons_append]) ?_ hf
    rw [run_cons, ht]
    exact hrun
  · rintro ⟨hs, hrest⟩ pre f post u v he hrun hf
    cases pre with
    | nil =>
        cases hrun
        rw [List.nil_append] at he
        obtain ⟨rfl, -⟩ := List.cons.inj he
        exact hs
    | cons g pre =>
        rw [List.cons_append] at he
        obtain ⟨rfl, rfl⟩ := List.cons.inj he
        rw [run_cons, ht] at hrun
        exact hrest pre f post u v rfl hrun hf

/-- Nothing happens from an event that is not enabled on. -/
theorem throughout_stuck {s : σ} {e : ε} {es : List ε} {Inv : σ → Prop} (hs : Inv s)
    (ht : step s e = none) : Throughout step s (e :: es) Inv := by
  intro pre post u he hrun
  cases pre with
  | nil =>
      cases hrun
      exact hs
  | cons f pre =>
      rw [List.cons_append] at he
      obtain ⟨rfl, -⟩ := List.cons.inj he
      rw [run_cons, ht] at hrun
      cases hrun

theorem eachStep_stuck {s : σ} {e : ε} {es : List ε} {Ok : σ → ε → Prop}
    (ht : step s e = none) : EachStep step s (e :: es) Ok := by
  intro pre f post u v he hrun hf
  cases pre with
  | nil =>
      cases hrun
      rw [List.nil_append] at he
      obtain ⟨rfl, -⟩ := List.cons.inj he
      rw [ht] at hf
      cases hf
  | cons g pre =>
      rw [List.cons_append] at he
      obtain ⟨rfl, -⟩ := List.cons.inj he
      rw [run_cons, ht] at hrun
      cases hrun

/-- Where every event is enabled, the state before a step is the fold of the events so far. -/
theorem eachStep_total {f : σ → ε → σ} {s : σ} {es : List ε} {Ok : σ → ε → Prop} :
    EachStep (fun s e => some (f s e)) s es Ok ↔
      ∀ pre e post, es = pre ++ e :: post → Ok (pre.foldl f s) e := by
  have hrun : ∀ (pre : List ε) (s : σ),
      run (fun s e => some (f s e)) s pre = some (pre.foldl f s) := by
    intro pre
    induction pre with
    | nil => intro s; rfl
    | cons e pre ih => intro s; exact ih (f s e)
  constructor
  · intro h pre e post he
    exact h pre e post _ _ he (hrun pre s) rfl
  · intro h pre e post t u he ht _
    rw [hrun] at ht
    cases ht
    exact h pre e post he

/-- If one step keeps `Inv` exactly when it meets `Ok`, then `Inv` holds in every state that a
    list of events reaches exactly when all of the steps taken meet `Ok`. `Aux` is an invariant
    that needs no condition. -/
theorem throughout_iff_eachStep {Aux Inv : σ → Prop} {Ok : σ → ε → Prop}
    (haux : ∀ s e t, Aux s → step s e = some t → Aux t)
    (hstep : ∀ s e t, Aux s → Inv s → step s e = some t → (Inv t ↔ Ok s e))
    (es : List ε) {s : σ} (hs : Aux s) (hi : Inv s) :
    Throughout step s es Inv ↔ EachStep step s es Ok := by
  induction es generalizing s with
  | nil => exact ⟨fun _ => eachStep_nil, fun _ => throughout_nil.mpr hi⟩
  | cons e es ih =>
      cases ht : step s e with
      | none => exact iff_of_true (throughout_stuck hi ht) (eachStep_stuck ht)
      | some t =>
          rw [throughout_cons ht, eachStep_cons ht, ← hstep s e t hs hi ht]
          constructor
          · rintro ⟨-, h⟩
            have hit : Inv t := h [] es t rfl rfl
            exact ⟨hit, (ih (haux s e t hs ht) hit).mp h⟩
          · rintro ⟨hit, h⟩
            exact ⟨hi, (ih (haux s e t hs ht) hit).mpr h⟩

/-! ## Two ends of a run -/

/-- A reflexive and transitive relation that every step respects relates both ends of a run. -/
theorem run_related {R : σ → σ → Prop} (hrefl : ∀ s, R s s)
    (htrans : ∀ {s t u}, R s t → R t u → R s u)
    (hstep : ∀ s e t, step s e = some t → R s t) {es : List ε} {s u : σ}
    (hrun : run step s es = some u) : R s u := by
  induction es generalizing s with
  | nil =>
      cases hrun
      exact hrefl _
  | cons e es ih =>
      obtain ⟨t, ht, hrest⟩ := run_cons_iff.mp hrun
      exact htrans (hstep s e t ht) (ih hrest)

/-- A run from inside a property to outside of it has a first step that leaves it. -/
theorem run_leaves {P : σ → Prop} {es : List ε} {s t : σ} (hs : P s) (ht : ¬ P t)
    (hrun : run step s es = some t) :
    ∃ es₁ e es₂ u v, es = es₁ ++ e :: es₂ ∧ run step s es₁ = some u ∧ P u ∧
      step u e = some v ∧ ¬ P v ∧ run step v es₂ = some t := by
  induction es generalizing s with
  | nil =>
      cases hrun
      exact absurd hs ht
  | cons e es ih =>
      obtain ⟨v, hv, hrest⟩ := run_cons_iff.mp hrun
      by_cases hP : P v
      · obtain ⟨es₁, f, es₂, u, w, rfl, hrun₁, hu, hw, hnot, hrun₂⟩ := ih hP hrest
        refine ⟨e :: es₁, f, es₂, u, w, rfl, ?_, hu, hw, hnot, hrun₂⟩
        rw [run_cons, hv]
        exact hrun₁
      · exact ⟨[], e, es, s, v, rfl, rfl, hs, hv, hP, hrest⟩

/-! ## Two systems -/

section Lockstep

variable {α β γ δ : Type*} {R : α → β → Prop} {S : γ → δ → Prop} {a : Option α} {b : Option β}

/-- Two related options are both missing or both there. -/
theorem rel_cases (h : Option.Rel R a b) :
    (a = none ∧ b = none) ∨ ∃ x y, a = some x ∧ b = some y ∧ R x y := by
  cases h with
  | none => exact .inl ⟨rfl, rfl⟩
  | some hR => exact .inr ⟨_, _, rfl, rfl, hR⟩

theorem rel_map {f : α → γ} {g : β → δ} (hfg : ∀ {x y}, R x y → S (f x) (g y))
    (h : Option.Rel R a b) : Option.Rel S (a.map f) (b.map g) := by
  cases h with
  | none => exact .none
  | some hR => exact .some (hfg hR)

theorem rel_bind {f : α → Option γ} {g : β → Option δ}
    (hfg : ∀ {x y}, R x y → Option.Rel S (f x) (g y)) (h : Option.Rel R a b) :
    Option.Rel S (a.bind f) (b.bind g) := by
  cases h with
  | none => exact .none
  | some hR => exact hfg hR

theorem rel_isSome (h : Option.Rel R a b) : a.isSome = b.isSome := by
  cases h <;> rfl

/-- Systems whose steps on corresponding events are enabled together and keep `Sim` have the
    same runs, up to `Sim`. -/
theorem run_lockstep {σ' ε' : Type*} {step' : σ' → ε' → Option σ'} {f : ε → ε'}
    {Sim : σ → σ' → Prop}
    (hstep : ∀ s t e, Sim s t → Option.Rel Sim (step s e) (step' t (f e))) (es : List ε)
    {s : σ} {t : σ'} (hsim : Sim s t) :
    Option.Rel Sim (run step s es) (run step' t (es.map f)) := by
  induction es generalizing s t with
  | nil => exact .some hsim
  | cons e es ih =>
      rw [List.map_cons, run_cons, run_cons]
      exact rel_bind ih (hstep s t e hsim)

end Lockstep

/-! ## Simulation -/

section Simulation

variable {σ' ε' : Type*} {step' : σ' → ε' → Option σ'} {P : ε' → Prop}

/-- Where every step is matched by one step of a second system or by none, a run is matched by a
    run of the second system. `Q` holds of the events of the one, `P` of those of the other. -/
theorem run_simulated {Sim : σ → σ' → Prop} {Q : ε → Prop}
    (hstep : ∀ s c e t, Sim s c → Q e → step s e = some t →
      Sim t c ∨ ∃ e' c', P e' ∧ step' c e' = some c' ∧ Sim t c') {es : List ε} {s t : σ} {c : σ'}
    (hes : ∀ e ∈ es, Q e) (hsim : Sim s c) (hrun : run step s es = some t) :
    ∃ es' c', (∀ e ∈ es', P e) ∧ run step' c es' = some c' ∧ Sim t c' := by
  induction es generalizing s c with
  | nil =>
      cases hrun
      exact ⟨[], c, nofun, rfl, hsim⟩
  | cons e es ih =>
      obtain ⟨u, hu, hrest⟩ := run_cons_iff.mp hrun
      obtain ⟨he, hes⟩ := List.forall_mem_cons.mp hes
      rcases hstep s c e u hsim he hu with hsame | ⟨e', d, he', hd, hmatched⟩
      · exact ih hes hsame hrest
      · obtain ⟨es', c', hes', hrun', hend⟩ := ih hes hmatched hrest
        exact ⟨e' :: es', c', List.forall_mem_cons.mpr ⟨he', hes'⟩,
          run_cons_iff.mpr ⟨d, hd, hrun'⟩, hend⟩

/-- Where every step is invisible to a part of the state or a step of it, a run of the whole is a
    run of the part. `Inv` is kept by the whole, and the steps of the part all satisfy `P`. -/
theorem run_project {part : σ → σ'} {Inv : σ → Prop}
    (hinv : ∀ s e t, Inv s → step s e = some t → Inv t)
    (hstep : ∀ s e t, Inv s → step s e = some t →
      part t = part s ∨ ∃ e', P e' ∧ step' (part s) e' = some (part t)) {es : List ε} {s t : σ}
    (hs : Inv s) (hrun : run step s es = some t) :
    ∃ es', (∀ e ∈ es', P e) ∧ run step' (part s) es' = some (part t) := by
  have hsim : ∀ s c e t, (Inv s ∧ part s = c) → True → step s e = some t →
      (Inv t ∧ part t = c) ∨ ∃ e' c', P e' ∧ step' c e' = some c' ∧ Inv t ∧ part t = c' := by
    rintro s c e t ⟨hs, rfl⟩ - h
    have ht := hinv s e t hs h
    exact (hstep s e t hs h).imp (fun hsame => ⟨ht, hsame⟩)
      fun ⟨e', he', hpart⟩ => ⟨e', part t, he', hpart, ht, rfl⟩
  obtain ⟨es', c', hes', hrun', -, rfl⟩ :=
    run_simulated hsim (fun _ _ => trivial) ⟨hs, rfl⟩ hrun
  exact ⟨es', hes', hrun'⟩

end Simulation

/-! ## Unwinding -/

/-- When every kept event of the first state is answered by the second, and every dropped event
    leaves the second behind unchanged, the purged events are a run of the second state and
    `Sim` holds at the end. -/
theorem run_purge {keep : ε → Bool} {Sim : σ → σ → Prop}
    (hkeep : ∀ s t e s', Sim s t → keep e = true → step s e = some s' →
      ∃ t', step t e = some t' ∧ Sim s' t')
    (hdrop : ∀ s t e s', Sim s t → keep e = false → step s e = some s' → Sim s' t)
    {es : List ε} {s t s' : σ} (hsim : Sim s t) (hrun : run step s es = some s') :
    ∃ t', run step t (es.filter keep) = some t' ∧ Sim s' t' := by
  induction es generalizing s t with
  | nil =>
      cases hrun
      exact ⟨t, rfl, hsim⟩
  | cons e es ih =>
      obtain ⟨u, hu, hrest⟩ := run_cons_iff.mp hrun
      cases hk : keep e with
      | true =>
          obtain ⟨t₁, ht₁, hsim₁⟩ := hkeep s t e u hsim hk hu
          obtain ⟨t', ht', hsim'⟩ := ih hsim₁ hrest
          refine ⟨t', ?_, hsim'⟩
          rw [List.filter_cons_of_pos hk, run_cons, ht₁]
          exact ht'
      | false =>
          have hsim₁ := hdrop s t e u hsim hk hu
          rw [List.filter_cons_of_neg (by rw [hk]; exact Bool.false_ne_true)]
          exact ih hsim₁ hrest

end PluginSandbox.Lib
