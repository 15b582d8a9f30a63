/-
  Tables in which every key lives once.

  A slot is unused at first, then live, then gone, and nothing follows. While it is live its
  content may move along a preorder `R`. `Leads R` relates a slot to what it can still become.
  The three operations are enabled only where they keep that order, so the two ends of a run
  of them are related as well (`leads_run`), and a slot that was emptied stays empty.
-/
import Mathlib.Logic.Function.Basic
import PluginSandbox.Lib.Runs

namespace PluginSandbox.Lib

universe u v w

variable {κ : Type u} {α : Type v} {ε : Type w}

inductive Slot (α : Type v) where
  | unused
  | live (a : α)
  | gone

def Slot.content : Slot α → Option α
  | .live a => some a
  | _ => none

theorem Slot.content_eq_some_iff {x : Slot α} {a : α} : x.content = some a ↔ x = .live a := by
  cases x <;> simp [Slot.content]

/-! ## What a slot can become -/

inductive Slot.Leads (R : α → α → Prop) : Slot α → Slot α → Prop
  | unused (x : Slot α) : Slot.Leads R .unused x
  | live (a b : α) (h : R a b) : Slot.Leads R (.live a) (.live b)
  | dead (a : α) : Slot.Leads R (.live a) .gone
  | gone : Slot.Leads R .gone .gone

section Order

variable {R : α → α → Prop}

theorem Slot.leads_refl (hrefl : ∀ a, R a a) (x : Slot α) : x.Leads R x := by
  cases x with
  | unused => exact .unused _
  | live a => exact .live a a (hrefl a)
  | gone => exact .gone

theorem Slot.leads_trans (htrans : ∀ a b c, R a b → R b c → R a c) {x y z : Slot α}
    (hxy : x.Leads R y) (hyz : y.Leads R z) : x.Leads R z := by
  cases hxy with
  | unused => exact .unused z
  | live a b hab =>
      cases hyz with
      | live _ c hbc => exact .live a c (htrans a b c hab hbc)
      | dead => exact .dead a
  | dead a =>
      cases hyz
      exact .dead a
  | gone => exact hyz

theorem Slot.gone_leads {y : Slot α} (h : Slot.Leads R .gone y) : y = .gone := by
  cases h
  rfl

end Order

/-! ## Tables of slots -/

abbrev Slots (κ : Type u) (α : Type v) := κ → Slot α

/-- Every slot leads to its counterpart. -/
def Slots.Leads (R : α → α → Prop) (c c' : Slots κ α) : Prop := ∀ k, (c k).Leads R (c' k)

section Operations

variable [DecidableEq κ] {R : α → α → Prop} {c c' : Slots κ α} {k : κ} {a : α}

/-- Takes an unused key. -/
def Slots.create (c : Slots κ α) (k : κ) (a : α) : Option (Slots κ α) :=
  match c k with
  | .unused => some (Function.update c k (.live a))
  | _ => none

/-- Changes the content of a live key, where `f` allows it. -/
def Slots.change (c : Slots κ α) (k : κ) (f : α → Option α) : Option (Slots κ α) :=
  match c k with
  | .live a => (f a).map fun b => Function.update c k (.live b)
  | _ => none

/-- Gives a live key up. -/
def Slots.remove (c : Slots κ α) (k : κ) : Option (Slots κ α) :=
  match c k with
  | .live _ => some (Function.update c k .gone)
  | _ => none

theorem Slots.create_eq_some_iff :
    c.create k a = some c' ↔ c k = .unused ∧ c' = Function.update c k (.live a) := by
  unfold Slots.create
  cases c k <;> simp [eq_comm]

theorem Slots.change_eq_some_iff {f : α → Option α} :
    c.change k f = some c' ↔
      ∃ a b, c k = .live a ∧ f a = some b ∧ c' = Function.update c k (.live b) := by
  unfold Slots.change
  cases c k <;> simp [eq_comm]

theorem Slots.remove_eq_some_iff :
    c.remove k = some c' ↔ (∃ a, c k = .live a) ∧ c' = Function.update c k .gone := by
  unfold Slots.remove
  cases c k <;> simp [eq_comm]

/-- One slot moves. -/
theorem Slots.leads_update (hrefl : ∀ a, R a a) {x : Slot α} (h : (c k).Leads R x) :
    c.Leads R (Function.update c k x) := by
  intro j
  by_cases hj : j = k
  · rw [hj, Function.update_self]
    exact h
  · rw [Function.update_of_ne hj]
    exact Slot.leads_refl hrefl (c j)

theorem Slots.leads_create (hrefl : ∀ a, R a a) (h : c.create k a = some c') : c.Leads R c' := by
  obtain ⟨hk, rfl⟩ := create_eq_some_iff.mp h
  refine leads_update hrefl ?_
  rw [hk]
  exact .unused _

theorem Slots.leads_change (hrefl : ∀ a, R a a) {f : α → Option α}
    (hf : ∀ a b, f a = some b → R a b) (h : c.change k f = some c') : c.Leads R c' := by
  obtain ⟨a, b, hk, hb, rfl⟩ := change_eq_some_iff.mp h
  refine leads_update hrefl ?_
  rw [hk]
  exact .live a b (hf a b hb)

theorem Slots.leads_remove (hrefl : ∀ a, R a a) (h : c.remove k = some c') : c.Leads R c' := by
  obtain ⟨⟨a, hk⟩, rfl⟩ := remove_eq_some_iff.mp h
  refine leads_update hrefl ?_
  rw [hk]
  exact .dead a

/-- What is in the table after one key was set. -/
theorem Slots.content_update (c : Slots κ α) (k : κ) (x : Slot α) (j : κ) :
    (Function.update c k x j).content = if j = k then x.content else (c j).content := by
  rw [Function.update_apply]
  split <;> rfl

end Operations

/-! ## Runs -/

/-- Where every operation moves each slot forward, so does a run of them. -/
theorem Slots.leads_run {R : α → α → Prop} {step : Slots κ α → ε → Option (Slots κ α)}
    (hrefl : ∀ a, R a a) (htrans : ∀ a b c, R a b → R b c → R a c)
    (hstep : ∀ c e c', step c e = some c' → c.Leads R c') {es : List ε} {c c' : Slots κ α}
    (hrun : run step c es = some c') : c.Leads R c' :=
  run_related (fun c k => Slot.leads_refl hrefl (c k))
    (fun h₁ h₂ k => Slot.leads_trans htrans (h₁ k) (h₂ k)) hstep hrun

end PluginSandbox.Lib
