/-
  What a run has seen.

  `Seen` collects what was observed in the states a run has passed through. An invariant may
  refer to it: things a state holds now were observed at some earlier moment. `run_seen` packages
  the induction. It asks of a step only that what the next state holds was held before or is
  observed in the next state.
-/
import Mathlib.Data.List.Induction
import PluginSandbox.Lib.Runs

namespace PluginSandbox.Lib

universe u v w

variable {σ : Type u} {ε : Type v} {β : Type w} {step : σ → ε → Option σ} {Q : σ → β → Prop}
  {s t : σ} {es fs : List ε} {x : β}

/-- `x` was observed in a state that the run `es` from `s` passes through. -/
def Seen (step : σ → ε → Option σ) (Q : σ → β → Prop) (s : σ) (es : List ε) (x : β) : Prop :=
  ∃ pre post u, es = pre ++ post ∧ run step s pre = some u ∧ Q u x

theorem seen_now (hrun : run step s es = some t) (hx : Q t x) : Seen step Q s es x :=
  ⟨es, [], t, (List.append_nil es).symm, hrun, hx⟩

theorem seen_later (h : Seen step Q s es x) : Seen step Q s (es ++ fs) x := by
  obtain ⟨pre, post, u, rfl, hrun, hx⟩ := h
  exact ⟨pre, post ++ fs, u, List.append_assoc pre post fs, hrun, hx⟩

theorem seen_earlier (hrun : run step s es = some t) (h : Seen step Q t fs x) :
    Seen step Q s (es ++ fs) x := by
  obtain ⟨pre, post, u, rfl, hpre, hx⟩ := h
  exact ⟨es ++ pre, post, u, (List.append_assoc es pre post).symm,
    run_append_iff.mpr ⟨t, hrun, hpre⟩, hx⟩

/-- An invariant on what a state holds, relative to what has been observed. It is kept under
    more observations, and a step keeps it once the next state counts as observed. -/
structure Historic (step : σ → ε → Option σ) (Q : σ → β → Prop) (Inv : (β → Prop) → σ → Prop) :
    Prop where
  mono : ∀ {S S' : β → Prop} {s}, (∀ x, S x → S' x) → Inv S s → Inv S' s
  step : ∀ {S : β → Prop} {s e t}, Inv S s → (∀ x, Q t x → S x) → step s e = some t → Inv S t

/-- With `S` observed before the run, its end holds the invariant with what it has seen added. -/
theorem run_seen {Inv : (β → Prop) → σ → Prop} (hinv : Historic step Q Inv) {S : β → Prop}
    (hs : Inv S s) (hrun : run step s es = some t) :
    Inv (fun x => S x ∨ Seen step Q s es x) t := by
  induction es using List.reverseRecOn generalizing t with
  | nil =>
      cases hrun
      exact hinv.mono (fun _ hx => .inl hx) hs
  | append_singleton es e ih =>
      obtain ⟨u, hu, hlast⟩ := run_append_iff.mp hrun
      obtain ⟨t', hstep, hend⟩ := run_cons_iff.mp hlast
      cases hend
      have hbefore : Inv (fun x => S x ∨ Seen step Q s (es ++ [e]) x) u :=
        hinv.mono (fun _ hx => hx.imp_right seen_later) (ih hu)
      exact hinv.step hbefore (fun x hx => .inr (seen_now hrun hx)) hstep

/-- Nothing has to be observed before the first state. -/
theorem run_seen_start {Inv : (β → Prop) → σ → Prop} (hinv : Historic step Q Inv)
    (hs : ∀ S, Inv S s) (hrun : run step s es = some t) : Inv (Seen step Q s es) t :=
  hinv.mono (fun _ hx => hx.resolve_left id) (run_seen hinv (hs fun _ => False) hrun)

end PluginSandbox.Lib
