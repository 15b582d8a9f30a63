/-
  File trees: paths from a root, each a directory or a file with its bytes.

  A `FileTree` carries the proof that every entry lies in a directory, so a tree with a file
  below a missing directory cannot be built. `mkdirAll` and `writeFile` are partial: they are
  refused where a file stands in the way or the directory is missing. `removeAll` drops a path
  with everything below it. `createFile`, `appendFile` and `remove` change a single file.

  Each operation has one lemma about `node`. `SameOutside` is the frame: all of them leave the
  paths that are not below the one they are given as they were.
-/
import Mathlib.Data.List.Induction
import Mathlib.Data.List.Infix
import Mathlib.Logic.Function.Basic
import Mathlib.Tactic.Common
import PluginSandbox.Lib.Bytes

namespace PluginSandbox.Lib

/-- The elements of a path, from the root. -/
abbrev Path := List String

inductive Node where
  | dir
  | file (data : Bytes)
  deriving DecidableEq

@[ext] structure FileTree where
  node : Path → Option Node
  /-- Every entry lies in a directory. -/
  inDir : ∀ dir name, node (dir ++ [name]) ≠ none → node dir = some .dir

namespace FileTree

/-- The directories on a path, and nothing else. -/
def only (path : Path) : FileTree where
  node q := if q <+: path then some .dir else none
  inDir := by
    intro dir name h
    have hname : dir ++ [name] <+: path := by simpa using h
    rw [if_pos ((List.prefix_append dir [name]).trans hname)]

/-! ## Operations -/

def readFile (t : FileTree) (path : Path) : Option Bytes :=
  match t.node path with
  | some (.file data) => some data
  | _ => none

/-- `path` and all its ancestors become directories, unless one of them is a file. -/
def mkdirAll (t : FileTree) (path : Path) : Option FileTree :=
  if path.inits.all fun q => (t.readFile q).isNone then
    some {
      node := fun q => if q <+: path then some .dir else t.node q
      inDir := by
        intro dir name h
        by_cases hname : dir ++ [name] <+: path
        · simp [(List.prefix_append dir [name]).trans hname]
        · rw [if_neg hname] at h
          simp [t.inDir dir name h] }
  else none

/-- The file `path` is created or replaced. Its directory has to be there. -/
def writeFile (t : FileTree) (path : Path) (data : Bytes) : Option FileTree :=
  if h : t.node path.dropLast = some .dir ∧ t.node path ≠ some .dir then
    some {
      node := fun q => if q = path then some (.file data) else t.node q
      inDir := by
        intro dir name hname
        have hdir : t.node dir = some .dir := by
          by_cases hp : dir ++ [name] = path
          · rw [← hp, List.dropLast_concat] at h
            exact h.1
          · rw [if_neg hp] at hname
            exact t.inDir dir name hname
        have hne : dir ≠ path := by
          rintro rfl
          exact h.2 hdir
        rw [if_neg hne, hdir] }
  else none

/-- `path` and everything below it is gone. It need not be there. -/
def removeAll (t : FileTree) (path : Path) : FileTree where
  node q := if path <+: q then none else t.node q
  inDir := by
    intro dir name h
    by_cases hname : path <+: dir ++ [name]
    · simp [hname] at h
    · have hdir : ¬ path <+: dir := fun hp => hname (hp.trans (List.prefix_append dir [name]))
      rw [if_neg hname] at h
      rw [if_neg hdir, t.inDir dir name h]

/-- A new, empty file. -/
def createFile (t : FileTree) (path : Path) : Option FileTree :=
  if t.node path = none then t.writeFile path [] else none

def appendFile (t : FileTree) (path : Path) (data : Bytes) : Option FileTree :=
  (t.readFile path).bind fun old => t.writeFile path (old ++ data)

/-- Removes a file. -/
def remove (t : FileTree) (path : Path) : Option FileTree :=
  if (t.readFile path).isSome then some (t.removeAll path) else none

/-! ## What is where -/

variable {t u v : FileTree} {path q dir : Path} {data : Bytes}

theorem readFile_eq_some_iff : t.readFile path = some data ↔ t.node path = some (.file data) := by
  unfold readFile
  split
  · next d h => simp [h]
  · next h => simpa using fun hd => h data hd

theorem readFile_congr (h : u.node path = t.node path) : u.readFile path = t.readFile path := by
  simp [readFile, h]

theorem node_mkdirAll (h : t.mkdirAll path = some u) (q : Path) :
    u.node q = if q <+: path then some .dir else t.node q := by
  unfold mkdirAll at h
  split at h
  · cases h
    rfl
  · cases h

theorem node_writeFile (h : t.writeFile path data = some u) (q : Path) :
    u.node q = if q = path then some (.file data) else t.node q := by
  unfold writeFile at h
  split at h
  · cases h
    rfl
  · cases h

@[simp] theorem node_removeAll (t : FileTree) (path q : Path) :
    (t.removeAll path).node q = if path <+: q then none else t.node q := rfl

theorem readFile_writeFile (h : t.writeFile path data = some u) : u.readFile path = some data := by
  rw [readFile_eq_some_iff, node_writeFile h, if_pos rfl]

/-- A write only fails where there is no directory for the file, or one in its place. -/
theorem exists_writeFile (hdir : t.node path.dropLast = some .dir) (hnode : t.node path ≠ some .dir)
    (data : Bytes) : ∃ u, t.writeFile path data = some u := by
  simp [writeFile, hdir, hnode]

theorem exists_mkdirAll (h : ∀ q, q <+: path → t.readFile q = none) :
    ∃ u, t.mkdirAll path = some u := by
  have hall : (path.inits.all fun q => (t.readFile q).isNone) = true := by
    simpa using fun q hq => h q hq
  simp only [mkdirAll, hall, if_true, Option.some.injEq, exists_eq']

theorem node_above (hq : q <+: dir) (hdir : t.node dir = some .dir) : t.node q = some .dir := by
  obtain ⟨names, rfl⟩ := hq
  induction names using List.reverseRecOn with
  | nil => simpa using hdir
  | append_singleton names name ih =>
      rw [← List.append_assoc] at hdir
      exact ih (t.inDir _ name (by rw [hdir]; simp))

/-- There is nothing below a file. -/
theorem node_below_file (hfile : t.node path = some (.file data)) (hq : path <+: q)
    (hne : q ≠ path) : t.node q = none := by
  by_contra hnode
  obtain ⟨names, rfl⟩ := hq
  have hlast : names ≠ [] := by
    rintro rfl
    exact hne (List.append_nil path)
  rw [← List.dropLast_append_getLast hlast, ← List.append_assoc] at hnode
  have hdir := t.inDir _ _ hnode
  rw [node_above (List.prefix_append path names.dropLast) hdir] at hfile
  cases hfile

/-! ## Single files -/

theorem update_createFile (h : t.createFile path = some u) :
    t.node path = none ∧ u.node = Function.update t.node path (some (.file [])) := by
  unfold createFile at h
  split at h
  · next hnone =>
      refine ⟨hnone, funext fun q => ?_⟩
      rw [node_writeFile h, Function.update_apply]
  · cases h

theorem update_appendFile (h : t.appendFile path data = some u) :
    ∃ old, t.node path = some (.file old) ∧
      u.node = Function.update t.node path (some (.file (old ++ data))) := by
  obtain ⟨old, hold, hwrite⟩ := Option.bind_eq_some_iff.mp h
  refine ⟨old, readFile_eq_some_iff.mp hold, funext fun q => ?_⟩
  rw [node_writeFile hwrite, Function.update_apply]

theorem update_remove (h : t.remove path = some u) :
    u.node = Function.update t.node path none := by
  unfold remove at h
  split at h
  · next hfile =>
      cases h
      obtain ⟨data, hdata⟩ := Option.isSome_iff_exists.mp hfile
      refine funext fun q => ?_
      rw [node_removeAll, Function.update_apply]
      by_cases hq : q = path
      · simp [hq]
      · by_cases hbelow : path <+: q
        · simp [hq, hbelow, node_below_file (readFile_eq_some_iff.mp hdata) hbelow hq]
        · simp [hq, hbelow]
  · cases h

/-! ## Frames -/

/-- The two trees differ at most at `dirs` and below them. -/
def SameOutside (dirs : List Path) (t u : FileTree) : Prop :=
  ∀ q, (∀ dir ∈ dirs, ¬ dir <+: q) → u.node q = t.node q

variable {dirs dirs' : List Path}

theorem SameOutside.refl (dirs : List Path) (t : FileTree) : SameOutside dirs t t := fun _ _ => rfl

theorem SameOutside.trans (h : SameOutside dirs t u) (h' : SameOutside dirs u v) :
    SameOutside dirs t v := fun q hq => (h' q hq).trans (h q hq)

/-- A frame may be widened. -/
theorem SameOutside.mono (hdirs : ∀ dir ∈ dirs, ∃ dir' ∈ dirs', dir' <+: dir)
    (h : SameOutside dirs t u) : SameOutside dirs' t u := by
  intro q hq
  refine h q fun dir hdir hbelow => ?_
  obtain ⟨dir', hdir', habove⟩ := hdirs dir hdir
  exact hq dir' hdir' (habove.trans hbelow)

theorem sameOutside_writeFile (h : t.writeFile path data = some u) : SameOutside [path] t u := by
  intro q hq
  have hne : q ≠ path := by
    rintro rfl
    simp at hq
  rw [node_writeFile h, if_neg hne]

theorem sameOutside_removeAll (t : FileTree) (path : Path) :
    SameOutside [path] t (t.removeAll path) := by
  intro q hq
  simp [hq path]

/-- New directories appear below one that was there. -/
theorem sameOutside_mkdirAll {name : String} (hdir : t.node dir = some .dir)
    (hpath : dir ++ [name] <+: path) (h : t.mkdirAll path = some u) :
    SameOutside [dir ++ [name]] t u := by
  intro q hq
  have hout : ¬ dir ++ [name] <+: q := hq _ List.mem_cons_self
  rw [node_mkdirAll h]
  split
  · next hqp =>
      have hname : q <+: dir ++ [name] :=
        (List.prefix_or_prefix_of_prefix hqp hpath).resolve_right hout
      rcases List.prefix_concat_iff.mp hname with rfl | hqd
      · exact absurd (List.prefix_refl _) hout
      · exact (node_above hqd hdir).symm
  · rfl

end FileTree

end PluginSandbox.Lib
