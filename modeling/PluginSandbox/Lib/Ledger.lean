/-
  Ledgers of things that are handed over and given back.

  A thing is outstanding from its handing over until it is given back, and giving back what is
  not outstanding is a fault. A ledger is reconciled when it has no fault and nothing is
  outstanding at its end. From `out` outstanding, a list of returns leaves nothing exactly when
  it is a permutation of `out` (`run_settle_returned`), in whatever order they come.
-/
import PluginSandbox.Lib.Runs
import Mathlib.Data.List.Perm.Basic

namespace PluginSandbox.Lib

universe u

inductive Entry (α : Type u) where
  | taken (a : α)
  | returned (a : α)

section Ledger

variable {α : Type u} [DecidableEq α]

/-- One entry, on what is outstanding. -/
def settle (out : List α) : Entry α → Option (List α)
  | .taken a => some (a :: out)
  | .returned a => if a ∈ out then some (out.erase a) else none

def Reconciled (es : List (Entry α)) : Prop := run settle [] es = some []

/-- What is outstanding can be given back in any order, and must be given back each as often
    as it is outstanding. -/
theorem run_settle_returned {out as : List α} :
    run settle out (as.map .returned) = some [] ↔ as.Perm out := by
  induction as generalizing out with
  | nil =>
      have hstay : run settle out ([].map .returned) = some out := rfl
      rw [hstay, Option.some_inj, List.nil_perm]
  | cons a as ih =>
      rw [List.map_cons, run_cons_iff, List.cons_perm_iff_perm_erase]
      constructor
      · rintro ⟨mid, hmid, hrest⟩
        unfold settle at hmid
        dsimp only at hmid
        split at hmid
        · next hmem =>
            cases hmid
            exact ⟨hmem, ih.mp hrest⟩
        · cases hmid
      · rintro ⟨hmem, hperm⟩
        exact ⟨out.erase a, if_pos hmem, ih.mpr hperm⟩

/-- A thing handed over last and one given back: nothing is left exactly when nothing was
    outstanding before and they are the same. -/
theorem run_settle_pair {out : List α} {a b : α} :
    run settle out [.taken a, .returned b] = some [] ↔ out = [] ∧ b = a := by
  have hreturned : run settle out [.taken a, .returned b] =
      run settle (a :: out) ([b].map .returned) := rfl
  rw [hreturned, run_settle_returned]
  constructor
  · intro h
    have hnil : out = [] := List.length_eq_zero_iff.mp (Nat.succ.inj h.length_eq.symm)
    subst hnil
    exact ⟨rfl, List.singleton_inj.mp (List.perm_singleton.mp h)⟩
  · rintro ⟨rfl, rfl⟩
    exact List.Perm.refl _

/-- A reconciled ledger whose tail is reconciled from nothing outstanding only. -/
theorem reconciled_append_iff {es fs : List (Entry α)} {P : Prop}
    (h : ∀ out, run settle out fs = some [] ↔ out = [] ∧ P) :
    Reconciled (es ++ fs) ↔ Reconciled es ∧ P := by
  unfold Reconciled
  rw [run_append_iff]
  constructor
  · rintro ⟨mid, hes, hfs⟩
    obtain ⟨rfl, hP⟩ := (h mid).mp hfs
    exact ⟨hes, hP⟩
  · rintro ⟨hes, hP⟩
    exact ⟨[], hes, (h []).mpr ⟨rfl, hP⟩⟩

end Ledger

end PluginSandbox.Lib
