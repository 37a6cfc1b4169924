import Mathlib.Tactic.Linarith
import Mathlib.Data.Vector.Basic

/-!
# Words in a byte buffer

32-bit little-endian integers at any offset of a buffer of fixed size.
-/

namespace Bytes

variable {n : ℕ}

/-- The value of four bytes, the least significant first. -/
def word (b₀ b₁ b₂ b₃ : UInt8) : UInt32 :=
  UInt32.ofNat (b₀.toNat + 2 ^ 8 * b₁.toNat + 2 ^ 16 * b₂.toNat + 2 ^ 24 * b₃.toNat)

def byteOf (w : UInt32) (k : ℕ) : UInt8 := UInt8.ofNat (w.toNat / 2 ^ (8 * k))

theorem word_byteOf (w : UInt32) :
    word (byteOf w 0) (byteOf w 1) (byteOf w 2) (byteOf w 3) = w := by
  apply UInt32.toNat_inj.mp
  have range := w.toNat_lt
  simp only [word, byteOf, UInt8.toNat_ofNat', UInt32.toNat_ofNat']
  omega

def int32At (bytes : Vector UInt8 n) (off : ℕ) (h : off + 4 ≤ n) : Int32 :=
  (word bytes[off] bytes[off + 1] bytes[off + 2] bytes[off + 3]).toInt32

def setInt32 (bytes : Vector UInt8 n) (off : ℕ) (value : Int32) : Vector UInt8 n :=
  Vector.ofFn fun i => if off ≤ i ∧ i < off + 4 then byteOf value.toUInt32 (i - off) else bytes[i]

theorem getElem_setInt32 (bytes : Vector UInt8 n) (off : ℕ) (value : Int32) {i : ℕ} (h : i < n) :
    (setInt32 bytes off value)[i] =
      if off ≤ i ∧ i < off + 4 then byteOf value.toUInt32 (i - off) else bytes[i] := by
  simp [setInt32]

@[simp] theorem int32At_setInt32 (bytes : Vector UInt8 n) {off : ℕ} (value : Int32)
    (h : off + 4 ≤ n) : int32At (setInt32 bytes off value) off h = value := by
  have at_ : ∀ k (hk : off + k < n), k < 4 →
      (setInt32 bytes off value)[off + k] = byteOf value.toUInt32 k := by
    intro k hk small
    rw [getElem_setInt32, if_pos ⟨by omega, by omega⟩, Nat.add_sub_cancel_left]
  rw [int32At, at_ 1 _ (by omega), at_ 2 _ (by omega), at_ 3 _ (by omega)]
  have first := at_ 0 (by omega) (by omega)
  simp only [Nat.add_zero] at first
  rw [first, word_byteOf]
  simp

theorem int32At_setInt32_other (bytes : Vector UInt8 n) {off other : ℕ} (value : Int32)
    (h : other + 4 ≤ n) (disjoint : other + 4 ≤ off ∨ off + 4 ≤ other) :
    int32At (setInt32 bytes off value) other h = int32At bytes other h := by
  have at_ : ∀ i (hi : i < n), other ≤ i → i < other + 4 → (setInt32 bytes off value)[i] = bytes[i] := by
    intro i hi low high
    rw [getElem_setInt32, if_neg (by omega)]
  rw [int32At, at_ other _ (by omega) (by omega), at_ (other + 1) _ (by omega) (by omega),
    at_ (other + 2) _ (by omega) (by omega), at_ (other + 3) _ (by omega) (by omega), int32At]

end Bytes
