/-
  The potential method: what the steps of a run cost together, and systems that come to rest.

  A step is paid from the potential of its state and from what its event deposits (`Funded`).
  So a run costs at most its first potential and the deposits of its events (`run_funded`).
  When a system that is not at rest can always take a step that lowers a potential, it has a
  run that ends at rest (`exists_run_to_rest`).
-/
import PluginSandbox.Lib.Runs
import Mathlib.Algebra.Order.Monoid.Defs
import Mathlib.Algebra.BigOperators.Group.List.Basic

namespace PluginSandbox.Lib

universe u v w

variable {σ : Type u} {ε : Type v} {step : σ → ε → Option σ}

/-! ## Costs -/

section Costs

variable {α : Type w} [AddCommMonoid α] [PartialOrder α] [IsOrderedAddMonoid α]

/-- On the states of `Inv` and the events of `P` no step costs more than there is. -/
structure Funded (step : σ → ε → Option σ) (Inv : σ → Prop) (P : ε → Prop) (potential : σ → α)
    (deposit cost : ε → α) : Prop where
  keeps : ∀ s e t, Inv s → P e → step s e = some t → Inv t
  pays : ∀ s e t, Inv s → P e → step s e = some t →
    potential t + cost e ≤ potential s + deposit e

theorem run_funded {Inv : σ → Prop} {P : ε → Prop} {potential : σ → α} {deposit cost : ε → α}
    (hfunded : Funded step Inv P potential deposit cost) {es : List ε} {s t : σ}
    (hes : ∀ e ∈ es, P e) (hs : Inv s) (hrun : run step s es = some t) :
    potential t + (es.map cost).sum ≤ potential s + (es.map deposit).sum := by
  induction es generalizing s with
  | nil =>
      cases hrun
      exact le_refl _
  | cons e es ih =>
      obtain ⟨u, hu, hrest⟩ := run_cons_iff.mp hrun
      have he : P e := hes e List.mem_cons_self
      have hlater := ih (fun e' he' => hes e' (List.mem_cons_of_mem e he'))
        (hfunded.keeps s e u hs he hu) hrest
      have hnow := hfunded.pays s e u hs he hu
      rw [List.map_cons, List.map_cons, List.sum_cons, List.sum_cons]
      calc potential t + (cost e + (es.map cost).sum)
          = cost e + (potential t + (es.map cost).sum) := add_left_comm _ _ _
        _ ≤ cost e + (potential u + (es.map deposit).sum) := add_le_add_right hlater _
        _ = (potential u + cost e) + (es.map deposit).sum := by rw [add_assoc, add_left_comm]
        _ ≤ (potential s + deposit e) + (es.map deposit).sum := add_le_add_left hnow _
        _ = potential s + (deposit e + (es.map deposit).sum) := add_assoc _ _ _

end Costs

/-! ## Rest -/

/-- Where a potential can be lowered until the system is at rest, rest can be reached, in no
    more steps than the potential allows. -/
theorem exists_run_to_rest {Inv Rest : σ → Prop} {P : ε → Prop} {potential : σ → Nat}
    (hgo : ∀ s, Inv s → ¬ Rest s →
      ∃ e t, P e ∧ step s e = some t ∧ Inv t ∧ potential t < potential s) {s : σ} (hs : Inv s) :
    ∃ es t, (∀ e ∈ es, P e) ∧ run step s es = some t ∧ Inv t ∧ Rest t ∧
      es.length ≤ potential s := by
  induction hn : potential s using Nat.strong_induction_on generalizing s with
  | h n ih =>
      by_cases hrest : Rest s
      · exact ⟨[], s, nofun, rfl, hs, hrest, Nat.zero_le n⟩
      · obtain ⟨e, u, he, hstep, hu, hlt⟩ := hgo s hs hrest
        rw [hn] at hlt
        obtain ⟨es, t, hes, hrun, ht, hlast, hlen⟩ := ih (potential u) hlt hu rfl
        refine ⟨e :: es, t, ?_, run_cons_iff.mpr ⟨u, hstep, hrun⟩, ht, hlast, ?_⟩
        · exact List.forall_mem_cons.mpr ⟨he, hes⟩
        · rw [List.length_cons]
          omega

end PluginSandbox.Lib
