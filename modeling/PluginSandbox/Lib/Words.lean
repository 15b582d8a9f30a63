/-
  Two 32-bit words in one 64-bit word, and checked slice bounds over machine integers.

  `packWords` puts one word in the upper half and the other in the lower half; the halves of
  the signed reinterpretation are the two words again, for all of them (`upper_packWords`,
  `lower_packWords`).

  `InSlice low high size` is the bounds check of a slice expression. For a start and a length
  added with wrap-around the check passes exactly when the exact sum fits
  (`inSlice_add_int32`, `inSlice_add_uint32`).
-/
import Mathlib.Algebra.Ring.Int.Defs
import Mathlib.Algebra.Ring.Nat
import Mathlib.Tactic.Common

namespace PluginSandbox.Lib

/-! ## Packing -/

/-- `(upper << 32) | lower`. -/
def packWords (upper lower : UInt32) : UInt64 := (upper.toUInt64 <<< 32) ||| lower.toUInt64

/-- `uint32(uint64(w) >> 32)`. -/
def upperWord (w : Int64) : UInt32 := (w.toUInt64 >>> 32).toUInt32

/-- `uint32(uint64(w) & 0xFFFFFFFF)`. -/
def lowerWord (w : Int64) : UInt32 := (w.toUInt64 &&& 0xFFFFFFFF).toUInt32

theorem toNat_packWords (u l : UInt32) :
    (packWords u l).toNat = u.toNat * 2 ^ 32 + l.toNat := by
  have hu := u.toNat_lt
  have hl := l.toNat_lt
  have hshift : (u.toUInt64 <<< 32).toNat = 2 ^ 32 * u.toNat := by
    rw [UInt64.toNat_shiftLeft, UInt32.toNat_toUInt64, Nat.shiftLeft_eq, Nat.mul_comm]
    exact Nat.mod_eq_of_lt (by simp; omega)
  unfold packWords
  rw [UInt64.toNat_or, hshift, UInt32.toNat_toUInt64, ← Nat.two_pow_add_eq_or_of_lt hl,
    Nat.mul_comm]

theorem upper_packWords (u l : UInt32) : upperWord (packWords u l).toInt64 = u := by
  have hl := l.toNat_lt
  apply UInt32.toNat_inj.mp
  unfold upperWord
  rw [UInt64.toUInt64_toInt64, UInt64.toNat_toUInt32, UInt64.toNat_shiftRight,
    Nat.shiftRight_eq_div_pow, toNat_packWords]
  have h32 : UInt64.toNat 32 % 64 = 32 := rfl
  have hu := u.toNat_lt
  rw [h32]
  omega

theorem lower_packWords (u l : UInt32) : lowerWord (packWords u l).toInt64 = l := by
  apply UInt32.toNat_inj.mp
  unfold lowerWord
  rw [UInt64.toUInt64_toInt64, UInt64.toNat_toUInt32, UInt64.toNat_and, toNat_packWords]
  have hmask : UInt64.toNat 0xFFFFFFFF = 2 ^ 32 - 1 := rfl
  have hl := l.toNat_lt
  rw [hmask, Nat.and_two_pow_sub_one_eq_mod]
  omega

/-! ## Slice bounds -/

/-- `s[low:high]` is in bounds for a slice of `size` elements. -/
def InSlice (low high : Int) (size : Nat) : Prop := 0 ≤ low ∧ low ≤ high ∧ high ≤ size

instance (low high : Int) (size : Nat) : Decidable (InSlice low high size) :=
  inferInstanceAs (Decidable (_ ∧ _ ∧ _))

/-- `s[p : p+n]` with `int32` operands. -/
theorem inSlice_add_int32 (p n : Int32) (size : Nat) :
    InSlice p.toInt (p + n).toInt size ↔
      0 ≤ p.toInt ∧ 0 ≤ n.toInt ∧ p.toInt + n.toInt < 2 ^ 31 ∧ p.toInt + n.toInt ≤ size := by
  have hp := p.toInt_lt
  have hn := n.toInt_lt
  have hn' := n.le_toInt
  unfold InSlice
  rw [Int32.toInt_add, Int.bmod_def]
  constructor <;> intro h <;> omega

/-- `s[p : p+n]` with `uint32` operands. -/
theorem inSlice_add_uint32 (p n : UInt32) (size : Nat) :
    InSlice p.toNat (p + n).toNat size ↔
      p.toNat + n.toNat < 2 ^ 32 ∧ p.toNat + n.toNat ≤ size := by
  have hp := p.toNat_lt
  have hn := n.toNat_lt
  unfold InSlice
  rw [UInt32.toNat_add]
  constructor <;> intro h <;> omega

/-- `int32(len)` of a length that fits is the length. -/
theorem toInt_ofNat_of_lt {n : Nat} (h : n < 2 ^ 31) : (Int32.ofNat n).toInt = n := by
  have hsize : Int32.size = 4294967296 := rfl
  rw [Int32.toInt_ofNat', Int.bmod_def, hsize]
  omega

end PluginSandbox.Lib
