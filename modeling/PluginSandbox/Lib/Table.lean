/-
  Tables with a primary key, as lists of rows in insertion order.

  A `Table ρ key` carries the proof that no two of its rows have the same key, so a table
  that breaks its primary key cannot be built. `insert` refuses a key that is taken,
  `update` keeps the key of every row it rewrites, `delete` drops the rows that match.
  Each operation has one lemma about `find?` (the row under a key) and one about `rows`.
  `mapRows` rewrites every row; it commutes with the operations that do not look at what it
  changes.

  `OrderBy` is what a database promises for `ORDER BY … DESC`: some permutation of the
  selected rows, descending; rows of equal rank may come in any order. `SameUpToTies`
  compares two answers of that kind.
-/
import Mathlib.Data.List.Nodup
import Mathlib.Data.List.Sort
import Mathlib.Tactic.Common

namespace PluginSandbox.Lib

universe u v

/-- Rows in insertion order, no two with the same key. -/
@[ext] structure Table (ρ : Type u) {κ : Type v} (key : ρ → κ) where
  rows : List ρ
  nodup : (rows.map key).Nodup

namespace Table

variable {ρ : Type u} {κ : Type v} {key : ρ → κ}

/-! ## Operations -/

def empty : Table ρ key := ⟨[], List.nodup_nil⟩

/-- `UPDATE … SET … WHERE p`, for an assignment `f` that leaves the key alone. -/
def update (t : Table ρ key) (p : ρ → Bool) (f : ρ → ρ) (hf : ∀ r, key (f r) = key r) :
    Table ρ key where
  rows := t.rows.map fun r => if p r then f r else r
  nodup := by
    have hmap : (t.rows.map fun r => if p r then f r else r).map key = t.rows.map key := by
      rw [List.map_map]
      refine List.map_congr_left fun r _ => ?_
      simp only [Function.comp_apply]
      split
      · exact hf r
      · rfl
    rw [hmap]
    exact t.nodup

/-- `DELETE … WHERE p`. -/
def delete (t : Table ρ key) (p : ρ → Bool) : Table ρ key where
  rows := t.rows.filter fun r => !p r
  nodup := (List.filter_sublist.map key).nodup t.nodup

/-- `SELECT … WHERE p`. -/
def select (t : Table ρ key) (p : ρ → Bool) : List ρ := t.rows.filter p

/-- The table with every row rewritten by `f`, which leaves the key alone. -/
def mapRows (t : Table ρ key) (f : ρ → ρ) (hf : ∀ r, key (f r) = key r) : Table ρ key where
  rows := t.rows.map f
  nodup := by
    have hkey : key ∘ f = key := funext hf
    rw [List.map_map, hkey]
    exact t.nodup

theorem mem_rows_update {t : Table ρ key} {p : ρ → Bool} {f : ρ → ρ}
    {hf : ∀ r, key (f r) = key r} {r : ρ} :
    r ∈ (t.update p f hf).rows ↔ ∃ r₀ ∈ t.rows, (if p r₀ then f r₀ else r₀) = r :=
  List.mem_map

theorem mem_rows_delete {t : Table ρ key} {p : ρ → Bool} {r : ρ} :
    r ∈ (t.delete p).rows ↔ r ∈ t.rows ∧ p r = false := by
  simp [delete]

variable [DecidableEq κ]

/-- The row under a key. -/
def find? (t : Table ρ key) (k : κ) : Option ρ := t.rows.find? fun r => decide (key r = k)

/-- `INSERT`; `none` when the primary key is taken. -/
def insert (t : Table ρ key) (r : ρ) : Option (Table ρ key) :=
  if h : key r ∈ t.rows.map key then none
  else some ⟨t.rows ++ [r], by
    rw [List.map_append, List.map_singleton, List.nodup_append]
    refine ⟨t.nodup, List.nodup_singleton _, ?_⟩
    rintro a ha b hb rfl
    rw [List.mem_singleton] at hb
    exact h (hb ▸ ha)⟩

/-! ## Rows and keys -/

theorem find?_some {t : Table ρ key} {k : κ} {r : ρ} (h : t.find? k = some r) :
    r ∈ t.rows ∧ key r = k :=
  ⟨List.mem_of_find?_eq_some h, by simpa using List.find?_some h⟩

theorem find?_eq_none {t : Table ρ key} {k : κ} :
    t.find? k = none ↔ k ∉ t.rows.map key := by
  simp [find?, List.find?_eq_none]

/-- A row of the table is the row under its own key. -/
theorem find?_of_mem {t : Table ρ key} {r : ρ} (h : r ∈ t.rows) : t.find? (key r) = some r := by
  cases hf : t.find? (key r) with
  | none => exact absurd (List.mem_map_of_mem h) (find?_eq_none.mp hf)
  | some r' =>
      obtain ⟨hr', hk⟩ := find?_some hf
      rw [List.inj_on_of_nodup_map t.nodup hr' h hk]

theorem find?_eq_some_iff {t : Table ρ key} {k : κ} {r : ρ} :
    t.find? k = some r ↔ r ∈ t.rows ∧ key r = k := by
  constructor
  · exact find?_some
  · rintro ⟨h, rfl⟩
    exact find?_of_mem h

/-! ## Insert -/

theorem insert_eq_none {t : Table ρ key} {r : ρ} :
    t.insert r = none ↔ (t.find? (key r)).isSome := by
  rw [Option.isSome_iff_ne_none, ne_eq, find?_eq_none, not_not]
  unfold insert
  split
  · next h => exact iff_of_true rfl h
  · next h => exact iff_of_false (Option.some_ne_none _) h

theorem rows_insert {t t' : Table ρ key} {r : ρ} (h : t.insert r = some t') :
    t'.rows = t.rows ++ [r] := by
  unfold insert at h
  split at h
  · cases h
  · cases h
    rfl

theorem mem_rows_insert {t t' : Table ρ key} {r r' : ρ} (h : t.insert r = some t') :
    r' ∈ t'.rows ↔ r' ∈ t.rows ∨ r' = r := by
  rw [rows_insert h, List.mem_append, List.mem_singleton]

/-- A row is inserted only under a free key. -/
theorem find?_of_insert {t t' : Table ρ key} {r : ρ} (h : t.insert r = some t') :
    t.find? (key r) = none := by
  cases hf : t.find? (key r) with
  | none => rfl
  | some r' =>
      rw [insert_eq_none.mpr (by rw [hf]; rfl)] at h
      cases h

theorem find?_insert {t t' : Table ρ key} {r : ρ} (h : t.insert r = some t') (k : κ) :
    t'.find? k = if k = key r then some r else t.find? k := by
  have hfresh := find?_of_insert h
  unfold find? at hfresh ⊢
  rw [rows_insert h, List.find?_append]
  by_cases hk : k = key r
  · subst hk
    rw [hfresh, if_pos rfl]
    simp
  · rw [if_neg hk]
    have hnil : List.find? (fun r => decide (key r = k)) [r] = none := by
      simp [Ne.symm hk]
    rw [hnil, Option.or_none]

theorem exists_insert {t : Table ρ key} {r : ρ} (h : t.find? (key r) = none) :
    ∃ t', t.insert r = some t' := by
  cases hi : t.insert r with
  | some t' => exact ⟨t', rfl⟩
  | none =>
      rw [insert_eq_none, h] at hi
      cases hi

/-! ## Update -/

theorem find?_update (t : Table ρ key) (p : ρ → Bool) (f : ρ → ρ)
    (hf : ∀ r, key (f r) = key r) (k : κ) :
    (t.update p f hf).find? k = (t.find? k).map fun r => if p r then f r else r := by
  have hkey : ∀ r, key (if p r then f r else r) = key r := by
    intro r
    split
    · exact hf r
    · rfl
  unfold find? update
  rw [List.find?_map]
  congr 2
  funext r
  simp only [Function.comp_apply, hkey]

/-! ## Delete -/

theorem find?_delete (t : Table ρ key) (p : ρ → Bool) (k : κ) :
    (t.delete p).find? k = (t.find? k).filter fun r => !p r := by
  apply Option.ext
  intro r
  rw [find?_eq_some_iff, mem_rows_delete, Option.filter_eq_some_iff, find?_eq_some_iff]
  simp only [Bool.not_eq_true']
  tauto

/-! ## Rewritten rows -/

section MapRows

variable {f : ρ → ρ} (hf : ∀ r, key (f r) = key r)

theorem find?_mapRows (t : Table ρ key) (k : κ) :
    (t.mapRows f hf).find? k = (t.find? k).map f := by
  unfold find? mapRows
  rw [List.find?_map]
  congr 2
  funext r
  simp only [Function.comp_apply, hf]

omit [DecidableEq κ] in
theorem select_mapRows (t : Table ρ key) {p : ρ → Bool} (hp : ∀ r, p (f r) = p r) :
    (t.mapRows f hf).select p = (t.select p).map f := by
  have hcond : p ∘ f = p := funext hp
  unfold select mapRows
  rw [List.filter_map, hcond]

theorem insert_mapRows (t : Table ρ key) (r : ρ) :
    (t.mapRows f hf).insert (f r) = (t.insert r).map fun t' => t'.mapRows f hf := by
  have hkeys : (t.mapRows f hf).rows.map key = t.rows.map key := by
    have hkey : key ∘ f = key := funext hf
    unfold mapRows
    rw [List.map_map, hkey]
  unfold insert
  by_cases h : key r ∈ t.rows.map key
  · rw [dif_pos h, dif_pos (by rw [hf, hkeys]; exact h)]
    rfl
  · rw [dif_neg h, dif_neg (by rw [hf, hkeys]; exact h)]
    refine congrArg some (Table.ext ?_)
    show t.rows.map f ++ [f r] = (t.rows ++ [r]).map f
    rw [List.map_append, List.map_singleton]

omit [DecidableEq κ] in
theorem update_mapRows (t : Table ρ key) {p : ρ → Bool} {g : ρ → ρ} (hg : ∀ r, key (g r) = key r)
    (hp : ∀ r, p (f r) = p r) (hcomm : ∀ r, g (f r) = f (g r)) :
    (t.mapRows f hf).update p g hg = (t.update p g hg).mapRows f hf := by
  refine Table.ext ?_
  show (t.rows.map f).map (fun r => if p r then g r else r) =
    (t.rows.map fun r => if p r then g r else r).map f
  rw [List.map_map, List.map_map]
  refine List.map_congr_left fun r _ => ?_
  simp only [Function.comp_apply, hp]
  split
  · exact hcomm r
  · rfl

omit [DecidableEq κ] in
theorem delete_mapRows (t : Table ρ key) {p : ρ → Bool} (hp : ∀ r, p (f r) = p r) :
    (t.mapRows f hf).delete p = (t.delete p).mapRows f hf := by
  have hcond : (fun r => !p r) ∘ f = fun r => !p r := funext fun r => congrArg not (hp r)
  refine Table.ext ?_
  show (t.rows.map f).filter (fun r => !p r) = (t.rows.filter fun r => !p r).map f
  rw [List.filter_map, hcond]

end MapRows

end Table

/-! ## Ordered answers -/

/-- `ORDER BY rank DESC`: a permutation of the rows, descending, ties in any order. -/
structure OrderBy (ρ : Type u) (rank : ρ → Int) where
  sort : List ρ → List ρ
  perm : ∀ l, (sort l).Perm l
  desc : ∀ l, (sort l).Pairwise fun a b => rank b ≤ rank a

namespace OrderBy

variable {ρ : Type u} {rank : ρ → Int}

/-- Insertion order among ties. -/
def stable (ρ : Type u) (rank : ρ → Int) : OrderBy ρ rank where
  sort l := l.mergeSort fun a b => decide (rank b ≤ rank a)
  perm l := List.mergeSort_perm l _
  desc l := by
    have htrans : ∀ a b c : ρ, decide (rank b ≤ rank a) = true →
        decide (rank c ≤ rank b) = true → decide (rank c ≤ rank a) = true := by
      intro a b c hab hbc
      rw [decide_eq_true_eq] at hab hbc ⊢
      omega
    have htotal : ∀ a b : ρ,
        (decide (rank b ≤ rank a) || decide (rank a ≤ rank b)) = true := by
      intro a b
      rw [Bool.or_eq_true, decide_eq_true_eq, decide_eq_true_eq]
      omega
    have h := List.pairwise_mergeSort htrans htotal l
    exact h.imp fun hab => by simpa using hab

end OrderBy

/-- Two lists with the same rows whose ranks come in the same order. -/
def SameUpToTies {ρ : Type u} (rank : ρ → Int) (l m : List ρ) : Prop :=
  l.Perm m ∧ l.map rank = m.map rank

theorem sameUpToTies_sort {ρ : Type u} {rank : ρ → Int} (o₁ o₂ : OrderBy ρ rank)
    {l m : List ρ} (h : l.Perm m) : SameUpToTies rank (o₁.sort l) (o₂.sort m) := by
  have hperm : (o₁.sort l).Perm (o₂.sort m) := (o₁.perm l).trans (h.trans (o₂.perm m).symm)
  have h₁ : ((o₁.sort l).map rank).Pairwise fun a b => b ≤ a := by
    rw [List.pairwise_map]
    exact o₁.desc l
  have h₂ : ((o₂.sort m).map rank).Pairwise fun a b => b ≤ a := by
    rw [List.pairwise_map]
    exact o₂.desc m
  have hanti : ∀ a b : Int, a ∈ (o₁.sort l).map rank → b ∈ (o₂.sort m).map rank →
      b ≤ a → a ≤ b → a = b := by
    intro a b _ _ hba hab
    omega
  exact ⟨hperm, (hperm.map rank).eq_of_pairwise hanti h₁ h₂⟩

/-- Rows rewritten by `f` are shown as the same rows only where `f` changes none of them. What is
    shown of a row (`g`) has its key and tells whether `f` changed it. -/
theorem perm_map_iff {ρ : Type u} {κ : Type v} {key : ρ → κ} {f g : ρ → ρ}
    (hf : ∀ r, key (f r) = key r) (hg : ∀ r, key (g r) = key r)
    (hshows : ∀ r, g (f r) = g r → f r = r) {l : List ρ} (hl : (l.map key).Nodup) :
    (l.map g).Perm ((l.map f).map g) ↔ ∀ r ∈ l, f r = r := by
  constructor
  · intro hperm r hr
    refine hshows r ?_
    have hmem : g (f r) ∈ (l.map f).map g := List.mem_map_of_mem (List.mem_map_of_mem hr)
    obtain ⟨r', hr', heq⟩ := List.mem_map.mp (hperm.mem_iff.mpr hmem)
    have hkey : key r' = key r := by
      rw [← hg r', heq, hg, hf]
    have hsame : r' = r := List.inj_on_of_nodup_map hl hr' hr hkey
    rw [← heq, hsame]
  · intro h
    rw [List.map_congr_left h, List.map_id']

/-- The same for two answers in order. -/
theorem sameUpToTies_map_iff {ρ : Type u} {κ : Type v} {key : ρ → κ} {rank : ρ → Int}
    {f g : ρ → ρ} (hf : ∀ r, key (f r) = key r) (hg : ∀ r, key (g r) = key r)
    (hrank : ∀ r, rank (g r) = rank r) (hshows : ∀ r, g (f r) = g r → f r = r)
    (o₁ o₂ : OrderBy ρ rank) {l : List ρ} (hl : (l.map key).Nodup) :
    SameUpToTies rank ((o₁.sort l).map g) ((o₂.sort (l.map f)).map g) ↔ ∀ r ∈ l, f r = r := by
  constructor
  · rintro ⟨hperm, -⟩
    refine (perm_map_iff hf hg hshows hl).mp ?_
    exact ((o₁.perm l).map g).symm.trans (hperm.trans ((o₂.perm _).map g))
  · intro h
    rw [List.map_congr_left h, List.map_id']
    obtain ⟨hperm, hranks⟩ := sameUpToTies_sort o₁ o₂ (List.Perm.refl l)
    have hcomp : rank ∘ g = rank := funext hrank
    refine ⟨hperm.map g, ?_⟩
    rw [List.map_map, List.map_map, hcomp]
    exact hranks

end PluginSandbox.Lib
