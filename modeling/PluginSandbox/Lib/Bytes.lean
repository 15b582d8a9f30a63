/-
  Byte strings, their UTF-8 reading, and a byte-addressed linear memory of whole pages.

  `read` and `write` move byte lists. A write changes exactly the bytes it covers
  (`byte_write_outside`), a read behind it gives the list back (`read_write`), and it keeps
  the size.
-/
import Mathlib.Data.List.GetD
import Mathlib.Data.List.Infix
import Mathlib.Tactic.Common

namespace PluginSandbox.Lib

/-! ## Byte strings -/

abbrev Bytes := List UInt8

/-- The UTF-8 bytes of a string. -/
def utf8 (s : String) : Bytes := s.toByteArray.data.toList

/-- The string that the bytes encode, when they are valid UTF-8. -/
def fromUtf8 (bs : Bytes) : Option String := String.fromUTF8? ⟨bs.toArray⟩

theorem fromUtf8_utf8 (s : String) : fromUtf8 (utf8 s) = some s := by
  have hbytes : (⟨s.toByteArray.data.toList.toArray⟩ : ByteArray) = s.toByteArray := rfl
  unfold fromUtf8 utf8 String.fromUTF8?
  rw [hbytes, dif_pos s.isValidUTF8]
  rfl

/-- `strings.Contains`. -/
def contains (s sub : Bytes) : Bool := decide (sub <:+: s)

/-! ## Linear memory -/

/-- 64 KiB. -/
def pageSize : Nat := 64 * 1024

/-- `pages` pages; only addresses below `size` are meaningful. -/
structure LinearMemory where
  pages : Nat
  byte : Nat → UInt8

namespace LinearMemory

def size (m : LinearMemory) : Nat := m.pages * pageSize

/-- The `n` bytes from address `a`. -/
def read (m : LinearMemory) (a n : Nat) : List UInt8 := (List.range n).map fun i => m.byte (a + i)

/-- The memory with `bs` copied to address `a`. -/
def write (m : LinearMemory) (a : Nat) (bs : List UInt8) : LinearMemory :=
  { m with byte := fun i => if a ≤ i then bs.getD (i - a) (m.byte i) else m.byte i }

@[simp] theorem length_read (m : LinearMemory) (a n : Nat) : (m.read a n).length = n := by
  simp [read]

theorem getElem_read (m : LinearMemory) (a n i : Nat) (h : i < (m.read a n).length) :
    (m.read a n)[i] = m.byte (a + i) := by
  simp [read]

theorem byte_write_outside (m : LinearMemory) (a : Nat) (bs : List UInt8) (i : Nat)
    (h : i < a ∨ a + bs.length ≤ i) : (m.write a bs).byte i = m.byte i := by
  unfold write
  dsimp only
  split
  · rw [List.getD_eq_default _ _ (by omega)]
  · rfl

theorem byte_write_inside (m : LinearMemory) (a : Nat) (bs : List UInt8) (i : Nat)
    (h : i < bs.length) : (m.write a bs).byte (a + i) = bs[i] := by
  unfold write
  dsimp only
  rw [if_pos (Nat.le_add_right a i), Nat.add_sub_cancel_left, List.getD_eq_getElem _ _ h]

/-- What was written is read back. -/
theorem read_write (m : LinearMemory) (a : Nat) (bs : List UInt8) :
    (m.write a bs).read a bs.length = bs := by
  apply List.ext_getElem (length_read _ _ _)
  intro i hi hi'
  rw [getElem_read]
  exact byte_write_inside m a bs i hi'

end LinearMemory

end PluginSandbox.Lib
